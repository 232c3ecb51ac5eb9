import DeviceAuth.Json.Document
import DeviceAuth.Number.Decimal
import DeviceAuth.Proofs.Text.Utf8

/-! Numerals that are written can be read. A numeral is written as its digits, with a point
before the fraction if there is one, and with a signed exponent if there is one. Each part
is read up to the character with which the next one begins. -/

namespace DeviceAuth

namespace Json

open Octets (ofCharacter ofCharacters)

/-! ## Writing -/

def digitCharacters (digits : List Nat) : List Char := digits.map Decimal.digitCharacter

def fractionCharacters (fraction : List Nat) : List Char :=
  if fraction.isEmpty then [] else '.' :: digitCharacters fraction

def exponentCharacters : Option Int → List Char
  | none => []
  | some exponent =>
      'e' :: (if exponent < 0 then '-' else '+') :: Decimal.characters exponent.natAbs

namespace Numeral

def unsignedCharacters (numeral : Numeral) : List Char :=
  digitCharacters numeral.whole ++
    (fractionCharacters numeral.fraction ++ exponentCharacters numeral.exponent)

def characters (numeral : Numeral) : List Char :=
  if numeral.negative then '-' :: numeral.unsignedCharacters else numeral.unsignedCharacters

/-- A numeral of decimal digits, in which a leading zero stands alone. -/
structure IsProper (numeral : Numeral) : Prop where
  whole : ∀ digit ∈ numeral.whole, digit < 10
  fraction : ∀ digit ∈ numeral.fraction, digit < 10
  leads : ∃ first rest, numeral.whole = first :: rest ∧ (first = 0 → rest = [])

end Numeral

/-! ## Octets of digits -/

def digitOctet (digit : Nat) : UInt8 := UInt8.ofNat (48 + digit)

theorem digitOctet_spec {digit : Nat} (small : digit < 10) :
    ofCharacter (Decimal.digitCharacter digit) = [digitOctet digit] ∧
      isDigit (digitOctet digit) = true ∧ (digitOctet digit).toNat - 48 = digit := by
  have every : ∀ digit : Fin 10,
      ofCharacter (Decimal.digitCharacter digit) = [digitOctet digit] ∧
        isDigit (digitOctet digit) = true ∧ (digitOctet digit).toNat - 48 = digit := by decide
  exact every ⟨digit, small⟩

theorem ofCharacters_digits {digits : List Nat} (small : ∀ digit ∈ digits, digit < 10) :
    ofCharacters (digitCharacters digits) = digits.map digitOctet := by
  induction digits with
  | nil => rfl
  | cons first rest induction =>
      rw [digitCharacters, List.map_cons, List.map_cons, Octets.ofCharacters_cons,
        (digitOctet_spec (small first (.head rest))).1, ← digitCharacters,
        induction fun digit member => small digit (.tail first member)]
      rfl

theorem ofCharacters_decimal (number : Nat) :
    ofCharacters (Decimal.characters number) = (Decimal.digits number).map digitOctet :=
  ofCharacters_digits fun _ => Decimal.lt_ten_of_mem_digits

/-! ## Reading the parts -/

/-- No number goes on into these octets. -/
def Ends (octets : Octets) : Prop :=
  ∀ first ∈ octets.head?, isDigit first = false ∧ first ∉ [0x2e, 0x65, 0x45]

theorem ends_nil : Ends [] := nofun

theorem ends_cons {first : UInt8} (ends : isDigit first = false ∧ first ∉ [0x2e, 0x65, 0x45])
    (rest : Octets) : Ends (first :: rest) := by
  intro other member
  obtain rfl := Option.some.inj member
  exact ends

theorem readDigits_digits {digits : List Nat} (small : ∀ digit ∈ digits, digit < 10)
    {rest : Octets} (ends : ∀ first ∈ rest.head?, isDigit first = false) :
    readDigits (ofCharacters (digitCharacters digits) ++ rest) = (digits, rest) := by
  have octets : ∀ octet ∈ digits.map digitOctet, isDigit octet = true := by
    intro octet member
    obtain ⟨digit, found, rfl⟩ := List.mem_map.mp member
    exact (digitOctet_spec (small digit found)).2.1
  have stop : rest.takeWhile isDigit = [] ∧ rest.dropWhile isDigit = rest := by
    cases rest with
    | nil => exact ⟨rfl, rfl⟩
    | cons first rest =>
        have other := ends first rfl
        simp [other]
  have values : (digits.map digitOctet).map (fun octet => octet.toNat - 48) = digits := by
    rw [List.map_map]
    apply (List.map_congr_left _).trans (List.map_id _)
    intro digit member
    exact (digitOctet_spec (small digit member)).2.2
  rw [ofCharacters_digits small, readDigits, List.takeWhile_append_of_pos octets,
    List.dropWhile_append_of_pos octets, stop.1, stop.2, List.append_nil, values]

theorem readFraction_characters {fraction : List Nat} (small : ∀ digit ∈ fraction, digit < 10)
    {rest : Octets} (ends : ∀ first ∈ rest.head?, isDigit first = false ∧ first ≠ 0x2e) :
    readFraction (ofCharacters (fractionCharacters fraction) ++ rest) =
      some (fraction, rest) := by
  cases fraction with
  | nil =>
      unfold readFraction
      split
      next equal => exact absurd rfl (ends 0x2e (congrArg List.head? equal)).2
      next => rfl
  | cons first more =>
      have point : ofCharacter '.' = [0x2e] := by decide
      have read := readDigits_digits small fun first member => (ends first member).1
      have written : fractionCharacters (first :: more) =
          '.' :: digitCharacters (first :: more) := rfl
      rw [written, Octets.ofCharacters_cons, point, List.singleton_append, List.cons_append,
        readFraction, read]
      rfl

theorem readExponentDigits_decimal (negative : Bool) (number : Nat) {rest : Octets}
    (ends : Ends rest) :
    readExponentDigits negative (ofCharacters (Decimal.characters number) ++ rest) =
      some (some (if negative then -(number : Int) else number), rest) := by
  have small : ∀ digit ∈ Decimal.digits number, digit < 10 :=
    fun _ => Decimal.lt_ten_of_mem_digits
  have read := readDigits_digits small fun first member => (ends first member).1
  have value : digitsValue (Decimal.digits number) = number := Decimal.value_digits number
  have nonempty : (Decimal.digits number).isEmpty = false := by
    simp [Decimal.digits_ne_nil]
  rw [readExponentDigits, Decimal.characters, ← digitCharacters, read]
  simp only [nonempty, Bool.false_eq_true, if_false, value]

theorem readExponent_characters (exponent : Option Int) {rest : Octets} (ends : Ends rest) :
    readExponent (ofCharacters (exponentCharacters exponent) ++ rest) =
      some (exponent, rest) := by
  cases exponent with
  | none =>
      cases rest with
      | nil => rfl
      | cons first rest =>
          have other := (ends first rfl).2
          have mark : ¬ (first = 0x65 ∨ first = 0x45) := by
            rintro (rfl | rfl)
            · exact other (by decide)
            · exact other (by decide)
          simp only [exponentCharacters, Octets.ofCharacters_nil, List.nil_append, readExponent,
            if_neg mark]
  | some exponent =>
      have mark : ofCharacter 'e' = [0x65] := by decide
      have plus : ofCharacter '+' = [0x2b] := by decide
      have minus : ofCharacter '-' = [0x2d] := by decide
      rw [exponentCharacters, Octets.ofCharacters_cons, mark, Octets.ofCharacters_cons]
      split
      next negative =>
        have read := readExponentDigits_decimal true exponent.natAbs ends
        have value : -(exponent.natAbs : Int) = exponent := by omega
        rw [if_pos rfl, value] at read
        rw [minus]
        exact read
      next positive =>
        have read := readExponentDigits_decimal false exponent.natAbs ends
        have value : (exponent.natAbs : Int) = exponent := by omega
        rw [if_neg Bool.false_ne_true, value] at read
        rw [plus]
        exact read

/-! ## Reading a numeral -/

namespace Numeral

variable {numeral : Numeral} {rest : Octets}

theorem exponent_begins (exponent : Option Int) (ends : Ends rest) :
    ∀ first ∈ (ofCharacters (exponentCharacters exponent) ++ rest).head?,
      isDigit first = false ∧ first ≠ 0x2e := by
  intro first member
  cases exponent with
  | none =>
      obtain ⟨digit, other⟩ := ends first member
      exact ⟨digit, fun equal => other (by simp [equal])⟩
  | some exponent =>
      have mark : ofCharacter 'e' = [0x65] := by decide
      rw [exponentCharacters, Octets.ofCharacters_cons, mark] at member
      obtain rfl := Option.some.inj member
      decide

theorem fraction_begins (fraction : List Nat) {octets : Octets}
    (ends : ∀ first ∈ octets.head?, isDigit first = false) :
    ∀ first ∈ (ofCharacters (fractionCharacters fraction) ++ octets).head?,
      isDigit first = false := by
  intro first member
  cases fraction with
  | nil => exact ends first member
  | cons digit more =>
      have point : ofCharacter '.' = [0x2e] := by decide
      have written : fractionCharacters (digit :: more) =
          '.' :: digitCharacters (digit :: more) := rfl
      rw [written, Octets.ofCharacters_cons, point] at member
      obtain rfl := Option.some.inj member
      decide

theorem IsProper.readUnsigned_characters (proper : numeral.IsProper) (ends : Ends rest) :
    readUnsigned numeral.negative (ofCharacters numeral.unsignedCharacters ++ rest) =
      some (numeral, rest) := by
  have behind := exponent_begins numeral.exponent ends
  have whole := readDigits_digits proper.whole
    (fraction_begins numeral.fraction fun first member => (behind first member).1)
  have fraction := readFraction_characters proper.fraction behind
  have exponent := readExponent_characters numeral.exponent ends
  obtain ⟨first, others, equal, lone⟩ := proper.leads
  have accepted : ¬ (numeral.whole.isEmpty = true ∨
      (numeral.whole.head? = some 0 ∧ numeral.whole.length ≠ 1)) := by
    rw [equal]
    rintro (empty | ⟨zero, several⟩)
    · cases empty
    · rw [lone (Option.some.inj zero)] at several
      exact several rfl
  rw [unsignedCharacters, Octets.ofCharacters_append, Octets.ofCharacters_append,
    List.append_assoc, List.append_assoc, readUnsigned, whole]
  simp only [if_neg accepted, fraction, Option.bind_eq_bind, Option.bind_some, exponent]
  rfl

theorem IsProper.unsigned_begins (proper : numeral.IsProper) : ∃ first tail,
    ofCharacters numeral.unsignedCharacters = first :: tail ∧ isDigit first = true := by
  obtain ⟨first, others, equal, _⟩ := proper.leads
  have small : first < 10 := proper.whole first (equal ▸ List.mem_cons_self)
  rw [unsignedCharacters, Octets.ofCharacters_append, ofCharacters_digits proper.whole, equal]
  exact ⟨digitOctet first, _, rfl, (digitOctet_spec small).2.1⟩

theorem IsProper.readNumeral_characters (proper : numeral.IsProper) (ends : Ends rest) :
    readNumeral (ofCharacters numeral.characters ++ rest) = some (numeral, rest) := by
  have read := proper.readUnsigned_characters ends
  rw [characters]
  split
  next negative =>
    have sign : ofCharacter '-' = [0x2d] := by decide
    rw [negative] at read
    rw [Octets.ofCharacters_cons, sign]
    exact read
  next positive =>
    obtain ⟨first, tail, written, digit⟩ := proper.unsigned_begins
    have unsigned : first ≠ 0x2d := by
      rintro rfl
      cases digit
    rw [Bool.not_eq_true] at positive
    rw [positive, written] at read
    rw [written, readNumeral.eq_def]
    split
    next equal => exact absurd (List.cons.inj equal).1 unsigned
    next => exact read

theorem solid_of_isDigit {first : UInt8} (digit : isDigit first = true) :
    isSpace first = false ∧ first ∉ [0x22, 0x5b, 0x5d, 0x7b, 0x6e, 0x74, 0x66] := by
  have every : ∀ code : Fin 256, isDigit (UInt8.ofNat code.val) = true →
      isSpace (UInt8.ofNat code.val) = false ∧
        UInt8.ofNat code.val ∉ [0x22, 0x5b, 0x5d, 0x7b, 0x6e, 0x74, 0x66] := by decide +kernel
  have same : UInt8.ofNat first.toNat = first := UInt8.ofNat_toNat
  rw [← same] at digit ⊢
  exact every ⟨first.toNat, first.toNat_lt⟩ digit

theorem IsProper.begins (proper : numeral.IsProper) : ∃ first tail,
    ofCharacters numeral.characters = first :: tail ∧ isSpace first = false ∧
      first ∉ [0x22, 0x5b, 0x5d, 0x7b, 0x6e, 0x74, 0x66] := by
  rw [characters]
  split
  next =>
    have sign : ofCharacter '-' = [0x2d] := by decide
    rw [Octets.ofCharacters_cons, sign]
    exact ⟨0x2d, _, rfl, by decide, by decide⟩
  next =>
    obtain ⟨first, tail, written, digit⟩ := proper.unsigned_begins
    exact ⟨first, tail, written, solid_of_isDigit digit⟩

end Numeral

end Json

end DeviceAuth
