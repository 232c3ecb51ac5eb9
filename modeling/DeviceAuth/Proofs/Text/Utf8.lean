import DeviceAuth.Text.Octets

/-! The octets of characters. An ASCII character is one octet, its number; every octet of
another character is above them, so no octet of such a character can be taken for one. -/

namespace DeviceAuth

namespace Octets

def ofCharacter (character : Char) : Octets := String.utf8EncodeChar character

def ofCharacters (characters : List Char) : Octets := characters.flatMap ofCharacter

theorem ofText_ofList (characters : List Char) :
    ofText (String.ofList characters) = ofCharacters characters := by
  have encoded : (String.ofList characters).toByteArray = characters.utf8Encode := rfl
  rw [ofText, encoded, List.utf8Encode, List.data_toByteArray]
  rfl

theorem ofText_eq_ofCharacters (text : String) : ofText text = ofCharacters text.toList := by
  rw [← ofText_ofList, String.ofList_toList]

@[simp] theorem ofCharacters_nil : ofCharacters [] = [] := rfl

@[simp] theorem ofCharacters_cons (character : Char) (rest : List Char) :
    ofCharacters (character :: rest) = ofCharacter character ++ ofCharacters rest := rfl

@[simp] theorem ofCharacters_append (left right : List Char) :
    ofCharacters (left ++ right) = ofCharacters left ++ ofCharacters right :=
  List.flatMap_append

theorem ofCharacter_of_ascii {character : Char} (ascii : character.toNat < 128) :
    ofCharacter character = [UInt8.ofNat character.toNat] := by
  have small : character.val.toNat ≤ 0x7f := Nat.le_of_lt_succ ascii
  simp only [ofCharacter, String.utf8EncodeChar, small, if_true]
  rfl

theorem ofCharacters_of_ascii {characters : List Char}
    (ascii : ∀ character ∈ characters, character.toNat < 128) :
    ofCharacters characters = characters.map fun character => UInt8.ofNat character.toNat := by
  induction characters with
  | nil => rfl
  | cons first rest induction =>
      rw [ofCharacters_cons, ofCharacter_of_ascii (ascii first (.head rest)),
        induction fun character member => ascii character (.tail first member)]
      rfl

theorem ofCharacter_ne_nil (character : Char) : ofCharacter character ≠ [] :=
  String.utf8EncodeChar_ne_nil

theorem le_of_mem_ofCharacter {character : Char} (other : 128 ≤ character.toNat) {octet : UInt8}
    (member : octet ∈ ofCharacter character) : 128 ≤ octet.toNat := by
  have large : ¬ character.val.toNat ≤ 0x7f := Nat.not_le_of_lt other
  simp only [ofCharacter, String.utf8EncodeChar, large, if_false] at member
  split at member
  · simp only [List.mem_cons, List.not_mem_nil, or_false] at member
    rcases member with rfl | rfl <;> simp only [UInt8.toNat_ofNat'] <;> omega
  split at member
  · simp only [List.mem_cons, List.not_mem_nil, or_false] at member
    rcases member with rfl | rfl | rfl <;> simp only [UInt8.toNat_ofNat'] <;> omega
  · simp only [List.mem_cons, List.not_mem_nil, or_false] at member
    rcases member with rfl | rfl | rfl | rfl <;> simp only [UInt8.toNat_ofNat'] <;> omega

theorem length_ofCharacters_ge (characters : List Char) :
    characters.length ≤ (ofCharacters characters).length := by
  induction characters with
  | nil => exact Nat.le_refl 0
  | cons first rest induction =>
      have some := List.length_pos_iff.mpr (ofCharacter_ne_nil first)
      rw [ofCharacters_cons, List.length_append, List.length_cons]
      omega

end Octets

end DeviceAuth
