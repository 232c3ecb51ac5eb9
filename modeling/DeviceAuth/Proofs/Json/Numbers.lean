import DeviceAuth.Json.Printer
import DeviceAuth.Proofs.Json.Numerals
import DeviceAuth.Proofs.Number.Shortest

/-! Numbers that are written can be read. A whole number is read as itself. A double is laid
out with a fraction or an exponent, so it is read as a double again; it may be another one,
but it is never too large. -/

namespace DeviceAuth

namespace Json

/-! ## Numerals of numbers -/

namespace Numeral

def ofWhole (value : Int) : Numeral where
  negative := value < 0
  whole := Decimal.digits value.natAbs
  fraction := []
  exponent := none

def ofDigits (negative : Bool) (digits : List Nat) (point : Int) : Numeral :=
  let size : Int := digits.length
  if size ≤ point ∧ point ≤ 16 then
    ⟨negative, digits ++ List.replicate (point - size).toNat 0, [0], none⟩
  else if 0 < point ∧ point ≤ 16 then
    ⟨negative, digits.take point.toNat, digits.drop point.toNat, none⟩
  else if -5 < point ∧ point ≤ 0 then
    ⟨negative, [0], List.replicate (-point).toNat 0 ++ digits, none⟩
  else ⟨negative, digits.take 1, digits.drop 1, some (point - 1)⟩

def ofReal (number : Binary64) : Numeral :=
  if number.magnitude.mantissa = 0 then ⟨number.negative, [0], [0], none⟩
  else
    let (digits, point) := Shortest.digits number.magnitude
    ofDigits number.negative digits point

end Numeral

/-! ## Whole numbers -/

namespace Numeral

theorem whole?_ofWhole (value : Int) : (ofWhole value).whole? = some value := by
  have magnitude : digitsValue (Decimal.digits value.natAbs) = value.natAbs :=
    Decimal.value_digits value.natAbs
  by_cases negative : value < 0
  · have positive : value.natAbs ≠ 0 := by omega
    simp only [whole?, ofWhole, isWhole, List.isEmpty_nil, Option.isNone_none, Bool.and_self,
      Bool.not_true, Bool.false_eq_true, if_false, negative, decide_true, if_true, magnitude,
      if_neg positive, Option.some.injEq]
    omega
  · simp only [whole?, ofWhole, isWhole, List.isEmpty_nil, Option.isNone_none, Bool.and_self,
      Bool.not_true, Bool.false_eq_true, if_false, negative, decide_false, magnitude,
      Option.some.injEq]
    omega

theorem isProper_ofWhole (value : Int) : (ofWhole value).IsProper where
  whole _ := Decimal.lt_ten_of_mem_digits
  fraction := nofun
  leads := by
    cases magnitude : value.natAbs with
    | zero =>
        refine ⟨0, [], ?_, fun _ => rfl⟩
        rw [ofWhole, magnitude, Decimal.digits]
        rfl
    | succ number =>
        obtain ⟨first, rest, equal, nonzero⟩ :=
          (Decimal.isLeading_digits (Nat.succ_pos number)).leads
        refine ⟨first, rest, ?_, fun zero => absurd zero nonzero⟩
        rw [ofWhole, magnitude]
        exact equal

theorem characters_ofWhole (value : Int) :
    (ofWhole value).characters = Decimal.signedCharacters value := by
  have plain (number : Nat) : digitCharacters (Decimal.digits number) ++
      (fractionCharacters [] ++ exponentCharacters none) = Decimal.characters number :=
    List.append_nil _
  cases value with
  | ofNat number =>
      have positive : (ofWhole (.ofNat number)).negative = false :=
        decide_eq_false (Int.not_lt.mpr (Int.natCast_nonneg number))
      rw [characters, positive, if_neg Bool.false_ne_true]
      exact plain number
  | negSucc number =>
      have negative : (ofWhole (.negSucc number)).negative = true :=
        decide_eq_true (Int.negSucc_lt_zero number)
      rw [characters, if_pos negative]
      exact congrArg _ (plain (number + 1))

end Numeral

/-! ## Doubles -/

namespace Numeral

variable {digits : List Nat}

theorem isProper_split (negative : Bool) (leading : Decimal.IsLeading digits) {count : Nat}
    (some_ : 0 < count) (exponent : Option Int) :
    IsProper ⟨negative, digits.take count, digits.drop count, exponent⟩ := by
  obtain ⟨first, rest, equal, nonzero⟩ := leading.leads
  obtain ⟨more, rfl⟩ := Nat.exists_eq_succ_of_ne_zero some_.ne'
  refine ⟨fun digit member => leading.small digit (List.mem_of_mem_take member),
    fun digit member => leading.small digit (List.mem_of_mem_drop member),
    first, rest.take more, ?_, fun zero => absurd zero nonzero⟩
  rw [equal]
  rfl

theorem isProper_ofDigits (negative : Bool) (leading : Decimal.IsLeading digits) (point : Int) :
    (ofDigits negative digits point).IsProper := by
  have zero : ∀ digit ∈ [0], digit < 10 := by decide
  have small (zeros : Nat) : ∀ digit ∈ List.replicate zeros 0, digit < 10 := by
    intro digit member
    rw [List.eq_of_mem_replicate member]
    decide
  simp only [ofDigits]
  split
  next =>
    obtain ⟨first, rest, equal, nonzero⟩ := leading.leads
    refine ⟨fun digit member => ?_, zero, first, _, congrArg (· ++ _) equal,
      fun zero => absurd zero nonzero⟩
    exact (List.mem_append.mp member).elim (leading.small digit) (small _ digit)
  next =>
    split
    next inside => exact isProper_split negative leading (by omega) none
    next =>
      split
      next =>
        refine ⟨zero, fun digit member => ?_, 0, [], rfl, fun _ => rfl⟩
        exact (List.mem_append.mp member).elim (small _ digit) (leading.small digit)
      next => exact isProper_split negative leading Nat.one_pos _

theorem unsignedCharacters_ofDigits (negative : Bool) (leading : Decimal.IsLeading digits)
    (point : Int) :
    (ofDigits negative digits point).unsignedCharacters =
      Binary64.layOut (digits.map Decimal.digitCharacter) point := by
  have zeros (count : Nat) : digitCharacters (List.replicate count 0) =
      List.replicate count '0' := List.map_replicate
  simp only [ofDigits, Binary64.layOut, List.length_map]
  split
  next =>
    have written : digitCharacters (digits ++ List.replicate (point - digits.length).toNat 0) =
        digits.map Decimal.digitCharacter ++
          List.replicate (point - digits.length).toNat '0' := by
      rw [← zeros]
      exact List.map_append
    rw [unsignedCharacters, written]
    rfl
  next outside =>
    split
    next inside =>
      have some_ : digits.drop point.toNat ≠ [] := by
        rw [ne_eq, List.drop_eq_nil_iff]
        omega
      rw [unsignedCharacters, fractionCharacters, if_neg (by simpa using some_),
        digitCharacters, digitCharacters, List.map_take, List.map_drop]
      exact congrArg _ (List.append_nil _)
    next =>
      split
      next =>
        have some_ : List.replicate (-point).toNat 0 ++ digits ≠ [] := by
          obtain ⟨first, rest, rfl, _⟩ := leading.leads
          exact List.append_ne_nil_of_right_ne_nil _ (List.cons_ne_nil first rest)
        have written : digitCharacters (List.replicate (-point).toNat 0 ++ digits) =
            List.replicate (-point).toNat '0' ++ digits.map Decimal.digitCharacter := by
          rw [← zeros]
          exact List.map_append
        rw [unsignedCharacters, fractionCharacters, if_neg (by simpa using some_), written]
        exact congrArg (fun more => '0' :: '.' :: more) (List.append_nil _)
      next =>
        have fraction : fractionCharacters (digits.drop 1) =
            if digits.length ≤ 1 then []
            else '.' :: (digits.map Decimal.digitCharacter).drop 1 := by
          rw [fractionCharacters, digitCharacters, List.map_drop]
          simp only [List.isEmpty_iff, List.drop_eq_nil_iff]
        rw [unsignedCharacters, fraction, digitCharacters, List.map_take, List.append_assoc]
        rfl

theorem characters_ofDigits (negative : Bool) (leading : Decimal.IsLeading digits)
    (point : Int) :
    (ofDigits negative digits point).characters =
      if negative then '-' :: Binary64.layOut (digits.map Decimal.digitCharacter) point
      else Binary64.layOut (digits.map Decimal.digitCharacter) point := by
  have sign : (ofDigits negative digits point).negative = negative := by
    simp only [ofDigits]
    split
    next => rfl
    next =>
      split
      next => rfl
      next => split <;> rfl
  rw [characters, sign, unsignedCharacters_ofDigits negative leading point]

section Real

variable {number : Binary64} (finite : number.magnitude.IsFinite)
include finite

theorem isProper_ofReal : (ofReal number).IsProper := by
  rw [ofReal]
  split
  next =>
    have zero : ∀ digit ∈ [0], digit < 10 := by decide
    exact ⟨zero, zero, 0, [], rfl, fun _ => rfl⟩
  next some_ =>
    exact isProper_ofDigits number.negative
      (Shortest.digits_spec finite (Nat.pos_of_ne_zero some_)).1 _

theorem characters_ofReal : (ofReal number).characters = number.characters := by
  rw [ofReal, Binary64.characters]
  split
  next => rfl
  next some_ =>
    exact characters_ofDigits number.negative
      (Shortest.digits_spec finite (Nat.pos_of_ne_zero some_)).1 _

end Real

/-! ## Reading doubles -/

theorem collect_all (significand : Nat) (digits : List Nat)
    (fits : significand * 10 ^ digits.length + Decimal.value digits ≤ greatestSignificand) :
    collect significand digits =
      (significand * 10 ^ digits.length + Decimal.value digits, []) := by
  induction digits generalizing significand with
  | nil => simp [collect, Decimal.value]
  | cons first rest induction =>
      have value : significand * 10 ^ (first :: rest).length + Decimal.value (first :: rest) =
          (10 * significand + first) * 10 ^ rest.length + Decimal.value rest := by
        have split := Decimal.value_append [first] rest
        have single : Decimal.value [first] = first := by simp [Decimal.value]
        rw [List.singleton_append, single] at split
        rw [split, List.length_cons, pow_succ]
        ring
      rw [value] at fits ⊢
      have room : 10 * significand + first ≤ greatestSignificand := by
        have := Nat.le_mul_of_pos_right (10 * significand + first)
          (Nat.pow_pos (n := rest.length) (by decide : 0 < 10))
        omega
      rw [collect, if_pos room, induction _ fits]

theorem real?_eq {numeral : Numeral}
    (fits : Decimal.value (numeral.whole ++ numeral.fraction) ≤ greatestSignificand) :
    numeral.real? = (Magnitude.ofDecimal? (Decimal.value (numeral.whole ++ numeral.fraction))
      (numeral.exponent.getD 0 - numeral.fraction.length)).map (⟨numeral.negative, ·⟩) := by
  have joined := Decimal.value_append numeral.whole numeral.fraction
  have whole : collect 0 numeral.whole = (Decimal.value numeral.whole, []) := by
    have less : Decimal.value numeral.whole ≤
        Decimal.value numeral.whole * 10 ^ numeral.fraction.length :=
      Nat.le_mul_of_pos_right _ (Nat.pow_pos (by decide))
    have all := collect_all 0 numeral.whole (by omega)
    rwa [Nat.zero_mul, Nat.zero_add] at all
  have fraction := collect_all (Decimal.value numeral.whole) numeral.fraction (by omega)
  have exponent : (([] : List Nat).length : Int) -
      (numeral.fraction.length - ([] : List Nat).length : Nat) + numeral.exponent.getD 0 =
        numeral.exponent.getD 0 - numeral.fraction.length := by
    simp only [List.length_nil, Nat.sub_zero, Nat.cast_zero]
    ring
  simp only [real?, whole, fraction, exponent, ← joined]
  cases Magnitude.ofDecimal? _ _ <;> rfl

theorem number?_eq_real? {numeral : Numeral} (other : numeral.isWhole = false) :
    numeral.number? = numeral.real?.map .real := by
  have none : numeral.whole? = none := by
    simp only [whole?, other]
    rfl
  rw [number?, none]

theorem number?_isSome_of {numeral : Numeral} (other : numeral.isWhole = false)
    (fits : Decimal.value (numeral.whole ++ numeral.fraction) ≤ greatestSignificand)
    (read : (Magnitude.ofDecimal? (Decimal.value (numeral.whole ++ numeral.fraction))
      (numeral.exponent.getD 0 - numeral.fraction.length)).isSome = true) :
    numeral.number?.isSome = true := by
  rw [number?_eq_real? other, real?_eq fits, Option.isSome_map, Option.isSome_map]
  exact read

theorem number?_isSome_of_point {negative : Bool} {whole fraction : List Nat}
    (some_ : fraction ≠ []) (fits : Decimal.value (whole ++ fraction) ≤ greatestSignificand) :
    (number? ⟨negative, whole, fraction, none⟩).isSome = true := by
  have other : isWhole ⟨negative, whole, fraction, none⟩ = false := by
    simp [isWhole, some_]
  have word : Decimal.value (whole ++ fraction) < 2 ^ 64 :=
    Nat.lt_of_le_of_lt fits (by decide)
  apply number?_isSome_of other fits
  apply Magnitude.ofDecimal?_isSome word
  have scale : (10 : ℚ) ^ ((none : Option Int).getD 0 - (fraction.length : Int)) ≤ 1 :=
    zpow_le_one_of_nonpos₀ (by norm_num) (by simp)
  calc (Decimal.value (whole ++ fraction) : ℚ) *
        10 ^ ((none : Option Int).getD 0 - (fraction.length : Int)) * (1 + 1 / 2 ^ 53) ^ 2
      ≤ 2 ^ 64 * 1 * 2 := by
        gcongr
        · exact_mod_cast word.le
        · norm_num
    _ = 2 * 2 ^ 64 := by ring
    _ < Magnitude.leastTooLarge := Magnitude.word_lt_leastTooLarge

theorem number?_ofDigits (negative : Bool) {digits : List Nat}
    (leading : Decimal.IsLeading digits) (bounded : Decimal.value digits ≤ 10 ^ 17) {point : Int}
    (read : (Magnitude.ofDecimal? (Decimal.value digits) (point - digits.length)).isSome = true) :
    (ofDigits negative digits point).number?.isSome = true := by
  have word : 10 ^ 17 ≤ greatestSignificand := by decide
  have fits : Decimal.value digits ≤ greatestSignificand := bounded.trans word
  have nonempty : digits ≠ [] := by
    obtain ⟨first, rest, rfl, _⟩ := leading.leads
    exact List.cons_ne_nil first rest
  simp only [ofDigits]
  split
  next whole =>
    have small : ∀ digit ∈ digits ++ List.replicate (point - digits.length).toNat 0 ++ [0],
        digit < 10 := by
      intro digit member
      simp only [List.mem_append, List.mem_replicate, List.mem_singleton] at member
      rcases member with (given | ⟨_, rfl⟩) | rfl
      · exact leading.small digit given
      · decide
      · decide
    have length : (digits ++ List.replicate (point - digits.length).toNat 0 ++ [0]).length ≤
        17 := by
      simp only [List.length_append, List.length_replicate, List.length_singleton]
      omega
    apply number?_isSome_of_point (List.cons_ne_nil 0 [])
    apply ((Decimal.value_lt small).le.trans _).trans word
    exact Nat.pow_le_pow_right (by decide) length
  next =>
    split
    next inside =>
      apply number?_isSome_of_point
      · rw [ne_eq, List.drop_eq_nil_iff]
        omega
      · rwa [List.take_append_drop]
    next =>
      split
      next =>
        have value : Decimal.value ([0] ++ (List.replicate (-point).toNat 0 ++ digits)) =
            Decimal.value digits := by
          have zero : Decimal.value [0] = 0 := rfl
          rw [Decimal.value_append, Decimal.value_append, Decimal.value_replicate_zero, zero,
            Nat.zero_mul, Nat.zero_mul, Nat.zero_add, Nat.zero_add]
        apply number?_isSome_of_point (List.append_ne_nil_of_right_ne_nil _ nonempty)
        rwa [value]
      next =>
        have exponent : (some (point - 1)).getD 0 - ((digits.drop 1).length : Int) =
            point - digits.length := by
          have := List.length_pos_of_ne_nil nonempty
          rw [Option.getD_some, List.length_drop]
          omega
        apply number?_isSome_of
        · simp [isWhole]
        · rwa [List.take_append_drop]
        · rwa [List.take_append_drop, exponent]

theorem number?_ofReal {number : Binary64} (finite : number.magnitude.IsFinite) :
    (ofReal number).number?.isSome = true := by
  rw [ofReal]
  split
  next => exact number?_isSome_of_point (List.cons_ne_nil 0 []) (by decide)
  next some_ =>
    have positive := Nat.pos_of_ne_zero some_
    obtain ⟨leading, bounded, _⟩ := Shortest.digits_spec finite positive
    exact number?_ofDigits number.negative leading bounded
      (Shortest.ofDecimal?_digits finite positive)

end Numeral

end Json

end DeviceAuth
