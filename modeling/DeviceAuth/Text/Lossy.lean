import DeviceAuth.Text.Octets

/-! Lossy decoding of UTF-8. Octets that are no text are shown as replacement
characters: one for each longest run of octets that begins a character and is
not carried on, and one for each octet that can begin no character. -/

namespace DeviceAuth

namespace Text

def replacement : Char := Char.ofNat 0xfffd

def isContinuation (octet : UInt8) : Bool := 0x80 ≤ octet && octet ≤ 0xbf

/-- Whether `second` may follow the leading octet `first` of a character of
several octets. Overlong forms, surrogates and numbers above U+10FFFF are shut
out here. -/
def mayFollow (first second : UInt8) : Bool :=
  if first = 0xe0 then 0xa0 ≤ second && second ≤ 0xbf
  else if first = 0xed then 0x80 ≤ second && second ≤ 0x9f
  else if first = 0xf0 then 0x90 ≤ second && second ≤ 0xbf
  else if first = 0xf4 then 0x80 ≤ second && second ≤ 0x8f
  else isContinuation second

def extent? (first : UInt8) : Option Nat :=
  if first < 0x80 then some 1
  else if 0xc2 ≤ first && first ≤ 0xdf then some 2
  else if 0xe0 ≤ first && first ≤ 0xef then some 3
  else if 0xf0 ≤ first && first ≤ 0xf4 then some 4
  else none

private def lowBits (octet : UInt8) : Nat := octet.toNat % 64

def lossyCharacters : Octets → List Char
  | [] => []
  | first :: rest =>
      match extent? first with
      | some 1 => Char.ofNat first.toNat :: lossyCharacters rest
      | some 2 =>
          match rest with
          | second :: afterSecond =>
              if mayFollow first second then
                Char.ofNat (first.toNat % 32 * 64 + lowBits second) :: lossyCharacters afterSecond
              else replacement :: lossyCharacters (second :: afterSecond)
          | [] => [replacement]
      | some 3 =>
          match rest with
          | second :: afterSecond =>
              if mayFollow first second then
                match afterSecond with
                | third :: afterThird =>
                    if isContinuation third then
                      Char.ofNat ((first.toNat % 16 * 64 + lowBits second) * 64 + lowBits third) ::
                        lossyCharacters afterThird
                    else replacement :: lossyCharacters (third :: afterThird)
                | [] => [replacement]
              else replacement :: lossyCharacters (second :: afterSecond)
          | [] => [replacement]
      | some _ =>
          match rest with
          | second :: afterSecond =>
              if mayFollow first second then
                match afterSecond with
                | third :: afterThird =>
                    if isContinuation third then
                      match afterThird with
                      | fourth :: afterFourth =>
                          if isContinuation fourth then
                            Char.ofNat (((first.toNat % 8 * 64 + lowBits second) * 64 +
                              lowBits third) * 64 + lowBits fourth) :: lossyCharacters afterFourth
                          else replacement :: lossyCharacters (fourth :: afterFourth)
                      | [] => [replacement]
                    else replacement :: lossyCharacters (third :: afterThird)
                | [] => [replacement]
              else replacement :: lossyCharacters (second :: afterSecond)
          | [] => [replacement]
      | none => replacement :: lossyCharacters rest

def lossy (octets : Octets) : String := String.ofList (lossyCharacters octets)

example : lossy [0x61, 0xff, 0xe2, 0x82, 0x62] = "a\ufffd\ufffdb" := by decide

end Text

end DeviceAuth
