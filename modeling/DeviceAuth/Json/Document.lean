import DeviceAuth.Text.Octets

/-! JSON documents as they are written. A document keeps what its readers may
judge differently: the digits of a number, members given twice, and strings that
are no text. Deciding what a document means is left to those who know what they
expect. -/

namespace DeviceAuth

namespace Json

/-- A number as written. There is at least one whole digit, and the fraction is
empty exactly if there is no decimal point. -/
structure Numeral where
  negative : Bool
  whole : List Nat
  fraction : List Nat
  exponent : Option Int
deriving DecidableEq, Repr

/-- A JSON document. A string without content is one that holds octets that are
no UTF-8, or half of a surrogate pair. -/
inductive Document where
  | null
  | boolean (value : Bool)
  | number (numeral : Numeral)
  | string (content : Option String)
  | array (items : List Document)
  | object (members : List (Option String × Document))
deriving Repr

/-! ## Strings -/

inductive Piece where
  | octet (value : UInt8)
  | unit (code : Nat)
deriving DecidableEq, Repr

/-- The octets that the pieces of a string stand for. Code units of a surrogate
pair have to follow each other. -/
def pieceOctets? : List Piece → Option Octets
  | [] => some []
  | .octet value :: rest => (pieceOctets? rest).map (value :: ·)
  | .unit high :: .unit low :: rest =>
      if 0xd800 ≤ high ∧ high < 0xdc00 then
        if 0xdc00 ≤ low ∧ low < 0xe000 then
          (pieceOctets? rest).map
            (Octets.ofText (String.singleton
              (Char.ofNat (0x10000 + (high - 0xd800) * 0x400 + (low - 0xdc00)))) ++ ·)
        else none
      else if 0xdc00 ≤ high ∧ high < 0xe000 then none
      else
        (pieceOctets? (.unit low :: rest)).map
          (Octets.ofText (String.singleton (Char.ofNat high)) ++ ·)
  | .unit code :: rest =>
      if 0xd800 ≤ code ∧ code < 0xe000 then none
      else
        (pieceOctets? rest).map (Octets.ofText (String.singleton (Char.ofNat code)) ++ ·)

def content? (pieces : List Piece) : Option String :=
  (pieceOctets? pieces).bind Octets.toText?

def hexadecimalDigit? (octet : UInt8) : Option Nat :=
  let code := octet.toNat
  if 48 ≤ code ∧ code ≤ 57 then some (code - 48)
  else if 97 ≤ code ∧ code ≤ 102 then some (code - 87)
  else if 65 ≤ code ∧ code ≤ 70 then some (code - 55)
  else none

def codeUnit? (first second third fourth : UInt8) : Option Nat := do
  let first ← hexadecimalDigit? first
  let second ← hexadecimalDigit? second
  let third ← hexadecimalDigit? third
  let fourth ← hexadecimalDigit? fourth
  pure (((first * 16 + second) * 16 + third) * 16 + fourth)

def escaped? (letter : UInt8) : Option UInt8 :=
  if letter = 0x22 then some 0x22
  else if letter = 0x5c then some 0x5c
  else if letter = 0x2f then some 0x2f
  else if letter = 0x62 then some 0x08
  else if letter = 0x66 then some 0x0c
  else if letter = 0x6e then some 0x0a
  else if letter = 0x72 then some 0x0d
  else if letter = 0x74 then some 0x09
  else none

def readPieces : Octets → Option (List Piece × Octets)
  | [] => none
  | 0x22 :: rest => some ([], rest)
  | 0x5c :: 0x75 :: first :: second :: third :: fourth :: rest => do
      let code ← codeUnit? first second third fourth
      let (pieces, rest) ← readPieces rest
      pure (.unit code :: pieces, rest)
  | 0x5c :: letter :: rest => do
      let value ← escaped? letter
      let (pieces, rest) ← readPieces rest
      pure (.octet value :: pieces, rest)
  | value :: rest =>
      if value < 0x20 ∨ value = 0x5c then none
      else do
        let (pieces, rest) ← readPieces rest
        pure (.octet value :: pieces, rest)

def readString (input : Octets) : Option (Option String × Octets) :=
  (readPieces input).map fun (pieces, rest) => (content? pieces, rest)

/-! ## Numbers -/

def isDigit (octet : UInt8) : Bool := 0x30 ≤ octet && octet ≤ 0x39

def readDigits (input : Octets) : List Nat × Octets :=
  ((input.takeWhile isDigit).map fun octet => octet.toNat - 48, input.dropWhile isDigit)

def readFraction (input : Octets) : Option (List Nat × Octets) :=
  match input with
  | 0x2e :: rest =>
      let (digits, rest) := readDigits rest
      if digits.isEmpty then none else some (digits, rest)
  | _ => some ([], input)

def digitsValue (digits : List Nat) : Nat :=
  digits.foldl (fun number digit => 10 * number + digit) 0

def readExponentDigits (negative : Bool) (input : Octets) : Option (Option Int × Octets) :=
  let (digits, rest) := readDigits input
  if digits.isEmpty then none
  else
    let value : Int := digitsValue digits
    some (some (if negative then -value else value), rest)

def readExponent (input : Octets) : Option (Option Int × Octets) :=
  match input with
  | mark :: rest =>
      if mark = 0x65 ∨ mark = 0x45 then
        match rest with
        | 0x2b :: rest => readExponentDigits false rest
        | 0x2d :: rest => readExponentDigits true rest
        | _ => readExponentDigits false rest
      else some (none, input)
  | [] => some (none, input)

def readUnsigned (negative : Bool) (input : Octets) : Option (Numeral × Octets) := do
  let (whole, rest) := readDigits input
  if whole.isEmpty ∨ (whole.head? = some 0 ∧ whole.length ≠ 1) then none
  else
    let (fraction, rest) ← readFraction rest
    let (exponent, rest) ← readExponent rest
    pure (⟨negative, whole, fraction, exponent⟩, rest)

def readNumeral (input : Octets) : Option (Numeral × Octets) :=
  match input with
  | 0x2d :: rest => readUnsigned true rest
  | _ => readUnsigned false input

/-! ## Documents -/

def isSpace (octet : UInt8) : Bool :=
  octet == 0x20 || octet == 0x09 || octet == 0x0a || octet == 0x0d

def skipSpace (input : Octets) : Octets := input.dropWhile isSpace

def readWord (word : Octets) (document : Document) (input : Octets) :
    Option (Document × Octets) :=
  if word.isPrefixOf input then some (document, input.drop word.length) else none

mutual

def readDocument : Nat → Octets → Option (Document × Octets)
  | 0, _ => none
  | bound + 1, input =>
      match skipSpace input with
      | [] => none
      | first :: rest =>
          if first = 0x22 then
            (readString rest).map fun (content, rest) => (.string content, rest)
          else if first = 0x5b then
            match skipSpace rest with
            | 0x5d :: rest => some (.array [], rest)
            | _ => (readItems bound rest).map fun (items, rest) => (.array items, rest)
          else if first = 0x7b then
            match skipSpace rest with
            | 0x7d :: rest => some (.object [], rest)
            | _ => (readMembers bound rest).map fun (members, rest) => (.object members, rest)
          else if first = 0x6e then readWord [0x75, 0x6c, 0x6c] .null rest
          else if first = 0x74 then readWord [0x72, 0x75, 0x65] (.boolean true) rest
          else if first = 0x66 then readWord [0x61, 0x6c, 0x73, 0x65] (.boolean false) rest
          else (readNumeral (first :: rest)).map fun (numeral, rest) => (.number numeral, rest)

def readItems : Nat → Octets → Option (List Document × Octets)
  | 0, _ => none
  | bound + 1, input => do
      let (item, rest) ← readDocument bound input
      match skipSpace rest with
      | 0x2c :: rest =>
          let (items, rest) ← readItems bound rest
          pure (item :: items, rest)
      | 0x5d :: rest => pure ([item], rest)
      | _ => none

def readMembers : Nat → Octets → Option (List (Option String × Document) × Octets)
  | 0, _ => none
  | bound + 1, input => do
      match skipSpace input with
      | 0x22 :: rest =>
          let (name, rest) ← readString rest
          match skipSpace rest with
          | 0x3a :: rest =>
              let (value, rest) ← readDocument bound rest
              match skipSpace rest with
              | 0x2c :: rest =>
                  let (members, rest) ← readMembers bound rest
                  pure ((name, value) :: members, rest)
              | 0x7d :: rest => pure ([(name, value)], rest)
              | _ => none
          | _ => none
      | _ => none

end

/-- The document that these octets are, with nothing but space around it. Each
octet allows for two levels of the recursion, which is more than it can need. -/
def Document.parse? (input : Octets) : Option Document :=
  match readDocument (2 * input.length + 1) input with
  | some (document, rest) => if (skipSpace rest).isEmpty then some document else none
  | none => none

end Json

end DeviceAuth
