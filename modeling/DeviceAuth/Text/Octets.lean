/-! Octet strings. Everything that is stored, sealed or sent is a list of octets;
text enters and leaves that world through UTF-8. Decoding accepts exactly what
encoding produces, so text and its octets determine each other. -/

namespace DeviceAuth

abbrev Octets := List UInt8

namespace Octets

/-! ## Text -/

def ofText (text : String) : Octets :=
  text.toByteArray.data.toList

def toText? (octets : Octets) : Option String :=
  String.fromUTF8? ⟨octets.toArray⟩

private theorem pack_ofText (text : String) :
    (⟨(ofText text).toArray⟩ : ByteArray) = text.toByteArray := by
  simp [ofText]

theorem toText?_ofText (text : String) : toText? (ofText text) = some text := by
  unfold toText? String.fromUTF8?
  rw [pack_ofText, dif_pos text.isValidUTF8]
  rfl

theorem ofText_of_toText? {octets : Octets} {text : String}
    (decoded : toText? octets = some text) : ofText text = octets := by
  simp only [toText?, String.fromUTF8?] at decoded
  split at decoded
  · cases decoded
    rfl
  · contradiction

theorem toText?_eq_some_iff {octets : Octets} {text : String} :
    toText? octets = some text ↔ ofText text = octets :=
  ⟨ofText_of_toText?, fun equal => equal ▸ toText?_ofText text⟩

theorem ofText_injective {left right : String} (equal : ofText left = ofText right) :
    left = right := by
  have decoded := toText?_ofText left
  rw [equal, toText?_ofText right] at decoded
  exact (Option.some.inj decoded).symm

theorem length_ofText (text : String) : (ofText text).length = text.utf8ByteSize := rfl

/-! ## Words

A word is stored as four octets, the least significant first. -/

def ofWord (word : UInt32) : Octets :=
  [UInt8.ofNat word.toNat, UInt8.ofNat (word.toNat / 256),
    UInt8.ofNat (word.toNat / 65536), UInt8.ofNat (word.toNat / 16777216)]

def toWord? : Octets → Option UInt32
  | [first, second, third, fourth] =>
      some (UInt32.ofNat (first.toNat + 256 * second.toNat + 65536 * third.toNat +
        16777216 * fourth.toNat))
  | _ => none

theorem length_ofWord (word : UInt32) : (ofWord word).length = 4 := rfl

theorem toWord?_ofWord (word : UInt32) : toWord? (ofWord word) = some word := by
  have bound := word.toNat_lt
  simp only [ofWord, toWord?, Option.some.injEq]
  apply UInt32.toNat_inj.mp
  simp only [UInt32.toNat_ofNat', UInt8.toNat_ofNat']
  omega

/-! ## Streams of random octets

Random octets are taken from the front of a list; past its end every octet is
zero, so a draw of any size always succeeds. -/

def draw (count : Nat) (stream : Octets) : Octets × Octets :=
  (stream.take count ++ List.replicate (count - stream.length) 0, stream.drop count)

theorem length_draw (count : Nat) (stream : Octets) : (draw count stream).1.length = count := by
  simp [draw]
  omega

def drawWord (stream : Octets) : UInt32 × Octets :=
  let (octets, rest) := draw 4 stream
  ((toWord? octets).getD 0, rest)

/-! ## Octet-wise exclusive or -/

def xor (left right : Octets) : Octets :=
  List.zipWith (· ^^^ ·) left right

theorem length_xor (left right : Octets) :
    (xor left right).length = min left.length right.length := by
  simp [xor]

theorem xor_xor_cancel (text mask : Octets) (covered : text.length ≤ mask.length) :
    xor (xor text mask) mask = text := by
  induction text generalizing mask with
  | nil => simp [xor]
  | cons head tail induction =>
      cases mask with
      | nil => simp at covered
      | cons first rest =>
          have step := induction rest (by simpa using covered)
          simp only [xor, List.zipWith_cons_cons, List.cons.injEq] at step ⊢
          exact ⟨by rw [UInt8.xor_assoc, UInt8.xor_self, UInt8.xor_zero], step⟩

end Octets

end DeviceAuth
