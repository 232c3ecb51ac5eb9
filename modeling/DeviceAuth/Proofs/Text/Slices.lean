import DeviceAuth.Proofs.Text.Utf8
import DeviceAuth.Token.Record

/-! Parts of octets that are asked for by their places. The last characters of a text can be
found from behind: every character has a place, that of its first octet, and the text is cut at
the place of the first character that is wanted. It is shown that no character is split by
this, and that what is cut off are the last characters. -/

namespace DeviceAuth

namespace Octets

/-! ## Slices -/

/-- The octets from one place up to another. There is no answer unless the places are in
order and within the octets. -/
def slice? (start stop : Nat) (octets : Octets) : Option Octets :=
  if start ≤ stop ∧ stop ≤ octets.length then some ((octets.drop start).take (stop - start))
  else none

theorem slice?_front (part rest : Octets) : slice? 0 part.length (part ++ rest) = some part := by
  have within : 0 ≤ part.length ∧ part.length ≤ (part ++ rest).length := by
    rw [List.length_append]
    omega
  rw [slice?, if_pos within, List.drop_zero, Nat.sub_zero, List.take_left]

theorem slice?_behind (part rest : Octets) :
    slice? part.length (part ++ rest).length (part ++ rest) = some rest := by
  have within : part.length ≤ (part ++ rest).length ∧
      (part ++ rest).length ≤ (part ++ rest).length := by
    rw [List.length_append]
    omega
  have size : (part ++ rest).length - part.length = rest.length := by
    rw [List.length_append]
    omega
  rw [slice?, if_pos within, List.drop_left, size, List.take_length]

theorem slice?_second (first : UInt8) (part rest : Octets) :
    slice? 1 (1 + part.length) (first :: (part ++ rest)) = some part := by
  have within : 1 ≤ 1 + part.length ∧ 1 + part.length ≤ (first :: (part ++ rest)).length := by
    rw [List.length_cons, List.length_append]
    omega
  rw [slice?, if_pos within, List.drop_succ_cons, List.drop_zero, Nat.add_sub_cancel_left,
    List.take_left]

/-! ## Places of characters -/

def placed (place : Nat) : List Char → List (Nat × Char)
  | [] => []
  | character :: rest =>
      (place, character) :: placed (place + (ofCharacter character).length) rest

theorem length_placed (place : Nat) (characters : List Char) :
    (placed place characters).length = characters.length := by
  induction characters generalizing place with
  | nil => rfl
  | cons first rest induction => rw [placed, List.length_cons, induction, List.length_cons]

theorem getElem?_placed (place : Nat) (characters : List Char) (index : Nat) :
    (placed place characters)[index]? = characters[index]?.map fun character =>
      (place + (ofCharacters (characters.take index)).length, character) := by
  induction characters generalizing place index with
  | nil => rfl
  | cons first rest induction =>
      cases index with
      | zero => rfl
      | succ index =>
          rw [placed, List.getElem?_cons_succ, List.getElem?_cons_succ, induction,
            List.take_succ_cons, ofCharacters_cons, List.length_append, Nat.add_assoc]

def placeFromEnd (count : Nat) (text : String) : Nat :=
  ((placed 0 text.toList).reverse[count - 1]?.map (·.1)).getD 0

theorem placeFromEnd_eq {count : Nat} (some_ : 0 < count) (text : String) :
    placeFromEnd count text =
      (ofCharacters (text.toList.take (text.toList.length - count))).length := by
  unfold placeFromEnd
  by_cases enough : count ≤ text.toList.length
  · have inside : count - 1 < (placed 0 text.toList).length := by
      rw [length_placed]
      omega
    have index : (placed 0 text.toList).length - 1 - (count - 1) = text.toList.length - count := by
      rw [length_placed]
      omega
    have present : text.toList.length - count < text.toList.length := by omega
    rw [List.getElem?_reverse inside, index, getElem?_placed,
      List.getElem?_eq_getElem present, Nat.zero_add]
    rfl
  · have outside : (placed 0 text.toList).reverse.length ≤ count - 1 := by
      rw [List.length_reverse, length_placed]
      omega
    have none : text.toList.length - count = 0 := by omega
    rw [List.getElem?_eq_none outside, none]
    rfl

/-! ## Beginnings of characters -/

def Continues (octet : UInt8) : Prop := 128 ≤ octet.toNat ∧ octet.toNat < 192

theorem continues_ofNat (number : Nat) : Continues (UInt8.ofNat (number % 64 + 128)) := by
  rw [Continues, UInt8.toNat_ofNat']
  omega

theorem not_continues_ofNat {number : Nat} (first : number < 128 ∨ 192 ≤ number)
    (octet : number < 256) : ¬ Continues (UInt8.ofNat number) := by
  rw [Continues, UInt8.toNat_ofNat']
  omega

theorem ofCharacter_eq_cons (character : Char) : ∃ first more,
    ofCharacter character = first :: more ∧ ¬ Continues first ∧
      ∀ octet ∈ more, Continues octet := by
  unfold ofCharacter String.utf8EncodeChar
  extract_lets value
  by_cases one : value ≤ 0x7f
  · rw [if_pos one]
    exact ⟨_, [], rfl, not_continues_ofNat (by omega) (by omega), nofun⟩
  by_cases two : value ≤ 0x7ff
  · rw [if_neg one, if_pos two]
    refine ⟨_, [_], rfl, not_continues_ofNat (by omega) (by omega), ?_⟩
    simp only [List.mem_singleton, forall_eq]
    exact continues_ofNat _
  by_cases three : value ≤ 0xffff
  · rw [if_neg one, if_neg two, if_pos three]
    refine ⟨_, [_, _], rfl, not_continues_ofNat (by omega) (by omega), ?_⟩
    simp only [List.forall_mem_cons]
    exact ⟨continues_ofNat _, continues_ofNat _, nofun⟩
  · rw [if_neg one, if_neg two, if_neg three]
    refine ⟨_, [_, _, _], rfl, not_continues_ofNat (by omega) (by omega), ?_⟩
    simp only [List.forall_mem_cons]
    exact ⟨continues_ofNat _, continues_ofNat _, continues_ofNat _, nofun⟩

theorem drop_ofCharacter_ne {character : Char} {place : Nat} (inside : 0 < place)
    (before : place < (ofCharacter character).length) (rest : Octets) (characters : List Char) :
    (ofCharacter character).drop place ++ rest ≠ ofCharacters characters := by
  rcases ofCharacter_eq_cons character with ⟨first, more, octets, _, continues⟩
  rw [octets] at before ⊢
  cases place with
  | zero => cases inside
  | succ place =>
      have fits : place < more.length := Nat.lt_of_succ_lt_succ before
      have continued : Continues more[place] := continues _ (List.getElem_mem fits)
      rw [List.drop_succ_cons, List.drop_eq_getElem_cons fits]
      cases characters with
      | nil => nofun
      | cons other others =>
          rcases ofCharacter_eq_cons other with ⟨start, _, started, fresh, _⟩
          rw [ofCharacters_cons, started]
          intro same
          rw [(List.cons.inj same).1] at continued
          exact fresh continued

theorem ofCharacters_injective {left right : List Char}
    (same : ofCharacters left = ofCharacters right) : left = right := by
  rw [← ofText_ofList, ← ofText_ofList] at same
  rw [← String.toList_ofList (l := left), ofText_injective same, String.toList_ofList]

theorem append_of_drop {characters back : List Char} {place : Nat}
    (within : place ≤ (ofCharacters characters).length)
    (cut : (ofCharacters characters).drop place = ofCharacters back) :
    ∃ front, characters = front ++ back ∧ place = (ofCharacters front).length := by
  induction characters generalizing place with
  | nil =>
      obtain rfl : place = 0 := Nat.le_zero.mp within
      exact ⟨[], ofCharacters_injective cut, rfl⟩
  | cons first rest induction =>
      rcases Nat.eq_zero_or_pos place with rfl | inside
      · exact ⟨[], ofCharacters_injective cut, rfl⟩
      rw [ofCharacters_cons, List.length_append] at within
      rw [ofCharacters_cons, List.drop_append] at cut
      -- Inside the first character there is no cut; behind it the rest is cut.
      by_cases before : place < (ofCharacter first).length
      · exact absurd cut (drop_ofCharacter_ne inside before _ back)
      · have passed : (ofCharacter first).drop place = [] :=
          List.drop_eq_nil_of_le (Nat.le_of_not_lt before)
        rw [passed, List.nil_append] at cut
        rcases induction (by omega) cut with ⟨front, rfl, left⟩
        refine ⟨first :: front, rfl, ?_⟩
        rw [ofCharacters_cons, List.length_append]
        omega

/-! ## Cutting a text -/

def cut? (place : Nat) (text : String) : Option String :=
  (slice? place (ofText text).length (ofText text)).bind toText?

theorem cut?_append (front back : String) :
    cut? (ofText front).length (front ++ back) = some back := by
  have octets : ofText (front ++ back) = ofText front ++ ofText back := by
    rw [ofText_eq_ofCharacters, String.toList_append, ofCharacters_append,
      ← ofText_eq_ofCharacters, ← ofText_eq_ofCharacters]
  rw [cut?, octets, slice?_behind, Option.bind_some, toText?_ofText]

theorem cut?_eq_some_iff {place : Nat} {text back : String} :
    cut? place text = some back ↔
      ∃ front, text = front ++ back ∧ place = (ofText front).length := by
  constructor
  · intro cut
    rcases Option.bind_eq_some_iff.mp cut with ⟨octets, sliced, decoded⟩
    rcases Option.ite_none_right_eq_some.mp sliced with ⟨⟨within, _⟩, taken⟩
    have whole : (ofText text).drop place = ofText back := by
      rw [ofText_of_toText? decoded, ← Option.some.inj taken, ← List.length_drop, List.take_length]
    rw [ofText_eq_ofCharacters] at within
    rw [ofText_eq_ofCharacters, ofText_eq_ofCharacters] at whole
    rcases append_of_drop within whole with ⟨front, characters, size⟩
    refine ⟨String.ofList front, ?_, ?_⟩
    · rw [← String.ofList_toList (s := text), characters, String.ofList_append,
        String.ofList_toList]
    · rw [ofText_ofList, size]
  · rintro ⟨front, rfl, rfl⟩
    exact cut?_append front back

end Octets

/-! ## The last characters -/

def charactersBefore (count : Nat) (text : String) : String :=
  String.ofList (text.toList.take (text.toList.length - count))

theorem charactersBefore_append_lastCharacters (count : Nat) (text : String) :
    charactersBefore count text ++ lastCharacters count text = text := by
  rw [charactersBefore, lastCharacters, ← String.ofList_append, List.take_append_drop,
    String.ofList_toList]

theorem length_lastCharacters (count : Nat) (text : String) :
    (lastCharacters count text).length = min count text.length := by
  rw [← String.length_toList, ← String.length_toList, toList_lastCharacters, List.length_drop]
  omega

example : lastCharacters 3 "aé𝄞€" = "é𝄞€" := by decide

theorem cut?_placeFromEnd {count : Nat} (some_ : 0 < count) (text : String) :
    Octets.cut? (Octets.placeFromEnd count text) text = some (lastCharacters count text) := by
  have place : Octets.placeFromEnd count text =
      (Octets.ofText (charactersBefore count text)).length := by
    rw [Octets.placeFromEnd_eq some_, charactersBefore, Octets.ofText_ofList]
  exact Octets.cut?_eq_some_iff.mpr
    ⟨charactersBefore count text, (charactersBefore_append_lastCharacters count text).symm, place⟩

end DeviceAuth
