import DeviceAuth.Number.Shortest
import DeviceAuth.Proofs.Number.Binary64
import Mathlib.Data.List.Induction
import Mathlib.Data.Nat.Cast.Order.Field

/-! The shortest digits of a double exist, and they are read as a double. On the grid of
seventeen digits the numbers lie closer together than the doubles of the same size, so one
of them reads back. What reads back lies at most half a unit above the double, and unless the
double is one of the two largest this is far enough from the bound beyond which no double
is found. -/

namespace DeviceAuth

/-! ## Digits -/

namespace Decimal

theorem value_append (front back : List Nat) :
    value (front ++ back) = value front * 10 ^ back.length + value back := by
  induction back using List.reverseRecOn with
  | nil => simp [value]
  | append_singleton back last induction =>
      rw [← List.append_assoc, value_append_singleton, value_append_singleton, induction,
        List.length_append, List.length_singleton, pow_succ]
      ring

theorem value_replicate_zero (count : Nat) : value (List.replicate count 0) = 0 := by
  induction count with
  | zero => rfl
  | succ count induction => rw [List.replicate_succ', value_append_singleton, induction]

theorem value_lt {digits : List Nat} (small : ∀ digit ∈ digits, digit < 10) :
    value digits < 10 ^ digits.length := by
  induction digits using List.reverseRecOn with
  | nil => exact Nat.one_pos
  | append_singleton front last induction =>
      have before := induction fun digit member => small digit (by simp [member])
      have digit := small last (by simp)
      rw [value_append_singleton, List.length_append, List.length_singleton, pow_succ]
      omega

theorem lt_pow_length_digits (number : Nat) : number < 10 ^ (digits number).length := by
  have bound : value (digits number) < 10 ^ (digits number).length :=
    value_lt fun _ => lt_ten_of_mem_digits
  rwa [value_digits] at bound

theorem pow_length_digits_le {number : Nat} (positive : 0 < number) :
    10 ^ ((digits number).length - 1) ≤ number := by
  induction number using digits.induct with
  | case1 number small =>
      rw [digits, if_pos small]
      exact positive
  | case2 number large induction =>
      have front := induction (by omega)
      obtain ⟨size, length⟩ : ∃ size, (digits (number / 10)).length = size + 1 :=
        Nat.exists_eq_succ_of_ne_zero (List.length_pos_of_ne_nil (digits_ne_nil _)).ne'
      rw [length, Nat.add_sub_cancel] at front
      rw [digits, if_neg large, List.length_append, List.length_singleton, Nat.add_sub_cancel,
        length, pow_succ]
      omega

structure IsLeading (digits : List Nat) : Prop where
  small : ∀ digit ∈ digits, digit < 10
  leads : ∃ first rest, digits = first :: rest ∧ first ≠ 0

theorem isLeading_digits {number : Nat} (positive : 0 < number) : IsLeading (digits number) where
  small _ := lt_ten_of_mem_digits
  leads := by
    have front := head_digits_ne_zero positive
    cases equal : digits number with
    | nil => exact absurd equal (digits_ne_nil number)
    | cons first rest =>
        rw [equal] at front
        exact ⟨first, rest, rfl, fun zero => front (congrArg some zero)⟩

end Decimal

namespace Shortest

open Magnitude (power power_pos zpow_eq_power_div)

/-! ## Quotients -/

theorem quotient_pos (number : Nat) (two ten : Int) : 0 < (quotient number two ten).2 :=
  Nat.mul_pos (power_pos _) (Nat.pow_pos (by decide))

theorem quotient_eq (number : Nat) (two ten : Int) :
    ((quotient number two ten).1 : ℚ) / (quotient number two ten).2 =
      number * 2 ^ two * 10 ^ ten := by
  have powers : (10 : ℚ) ^ ten = (10 ^ ten.toNat : Nat) / (10 ^ (-ten).toNat : Nat) := by
    rcases Int.eq_nat_or_neg ten with ⟨size, rfl | rfl⟩
    · simp
    · simp
  rw [quotient, zpow_eq_power_div, powers]
  simp only [Nat.pow_eq, Nat.cast_mul]
  rw [mul_div_mul_comm, mul_div_assoc]

theorem less_iff {left right : Nat × Nat} (leftPositive : 0 < left.2)
    (rightPositive : 0 < right.2) :
    less left right = true ↔ (left.1 : ℚ) / left.2 < right.1 / right.2 := by
  rw [less, decide_eq_true_eq, div_lt_div_iff₀ (by exact_mod_cast leftPositive)
    (by exact_mod_cast rightPositive)]
  exact_mod_cast Iff.rfl

/-! ## Reading back -/

theorem cast_upperEnd (magnitude : Magnitude) :
    (upperEnd magnitude : ℚ) = 4 * magnitude.mantissa + 2 := by
  rw [upperEnd]
  push_cast
  ring

theorem cast_lowerEnd_le (magnitude : Magnitude) :
    (lowerEnd magnitude : ℚ) ≤ 4 * magnitude.mantissa := by
  have whole : lowerEnd magnitude ≤ 4 * magnitude.mantissa := by
    rw [lowerEnd]
    split
    next => exact Nat.sub_le _ _
    next => exact Nat.sub_le _ _
  exact_mod_cast whole

theorem cast_lowerEnd {magnitude : Magnitude} (some_ : 0 < magnitude.mantissa)
    (other : magnitude.mantissa ≠ 2 ^ 52) :
    (lowerEnd magnitude : ℚ) = 4 * magnitude.mantissa - 2 := by
  rw [lowerEnd, if_neg fun equal => other (equal.1.trans (Magnitude.power_eq 52)),
    Nat.cast_sub (by omega)]
  push_cast
  ring

def Digits.value (digits : Digits) : ℚ := digits.significand * 10 ^ digits.exponent

variable {magnitude : Magnitude} {candidate : Digits}

theorem less_candidate (magnitude : Magnitude) (candidate : Digits) (number : Nat) :
    (less (quotient (4 * candidate.significand) 0 candidate.exponent)
        (quotient number magnitude.exponent 0) = true ↔
      4 * candidate.value < number * 2 ^ magnitude.exponent) ∧
    (less (quotient number magnitude.exponent 0)
        (quotient (4 * candidate.significand) 0 candidate.exponent) = true ↔
      number * 2 ^ magnitude.exponent < 4 * candidate.value) := by
  have first := quotient_eq (4 * candidate.significand) 0 candidate.exponent
  have second := quotient_eq number magnitude.exponent 0
  have same : ((4 * candidate.significand : Nat) : ℚ) * 2 ^ (0 : Int) *
      10 ^ candidate.exponent = 4 * candidate.value := by
    rw [Digits.value]
    push_cast
    ring
  rw [less_iff (quotient_pos _ _ _) (quotient_pos _ _ _),
    less_iff (quotient_pos _ _ _) (quotient_pos _ _ _), first, second, same, zpow_zero, mul_one]
  exact ⟨Iff.rfl, Iff.rfl⟩

theorem readsBack_of_between
    (above : lowerEnd magnitude * 2 ^ magnitude.exponent < 4 * candidate.value)
    (below : 4 * candidate.value < upperEnd magnitude * 2 ^ magnitude.exponent) :
    readsBack magnitude candidate = true := by
  have lower := less_candidate magnitude candidate (lowerEnd magnitude)
  have upper := less_candidate magnitude candidate (upperEnd magnitude)
  have notUnder := mt lower.1.mp (lt_asymm above)
  have notOver := mt upper.2.mp (lt_asymm below)
  simp only [readsBack]
  split
  · simp [notUnder, notOver]
  · simp [lower.2.mpr above, upper.1.mpr below]

theorem value_le_of_readsBack (reads : readsBack magnitude candidate = true) :
    candidate.value ≤ (magnitude.mantissa + 1 / 2) * 2 ^ magnitude.exponent := by
  have bound : 4 * candidate.value ≤ upperEnd magnitude * 2 ^ magnitude.exponent := by
    have compare := less_candidate magnitude candidate (upperEnd magnitude)
    simp only [readsBack] at reads
    split at reads
    · simp only [Bool.and_eq_true, Bool.not_eq_true', ← Bool.not_eq_true] at reads
      exact not_lt.mp (mt compare.2.mpr reads.2)
    · rw [Bool.and_eq_true] at reads
      exact (compare.1.mp reads.2).le
  rw [cast_upperEnd] at bound
  linarith

/-! ## The decimal point -/

theorem zerosAfter_spec {numerator denominator room : Nat} (smaller : numerator < denominator)
    (enough : denominator ≤ numerator * 10 ^ room) (count : Nat) :
    ∃ zeros, zerosAfter numerator denominator room count = count + zeros ∧
      numerator * 10 ^ zeros < denominator ∧ denominator ≤ numerator * 10 ^ (zeros + 1) := by
  induction room generalizing numerator count with
  | zero =>
      rw [pow_zero, mul_one] at enough
      exact absurd smaller (by omega)
  | succ room induction =>
      rw [zerosAfter]
      split
      next found =>
        exact ⟨0, rfl, by rwa [pow_zero, mul_one], by rwa [zero_add, pow_one]⟩
      next further =>
        have more : denominator ≤ numerator * 10 * 10 ^ room := by
          rwa [mul_assoc, ← pow_succ']
        obtain ⟨zeros, equal, below, reached⟩ :=
          induction (Nat.not_le.mp further) more (count + 1)
        refine ⟨zeros + 1, by omega, ?_, ?_⟩
        · rwa [pow_succ', ← mul_assoc]
        · rwa [pow_succ', ← mul_assoc]

section Point

variable {numerator denominator : Nat}

theorem length_digits_eq_log (large : denominator ≤ numerator) (positive : 0 < denominator) :
    ((Decimal.digits (numerator / denominator)).length : Int) - 1 =
      Int.log 10 (numerator / denominator : ℚ) := by
  have size : (0 : ℚ) < denominator := by exact_mod_cast positive
  have whole : 0 < numerator / denominator := Nat.div_pos large positive
  have least := Decimal.pow_length_digits_le whole
  have greatest := Decimal.lt_pow_length_digits (numerator / denominator)
  obtain ⟨length, equal⟩ :
      ∃ length, (Decimal.digits (numerator / denominator)).length = length + 1 :=
    Nat.exists_eq_succ_of_ne_zero (List.length_pos_of_ne_nil (Decimal.digits_ne_nil _)).ne'
  rw [equal, Nat.add_sub_cancel, Nat.le_div_iff_mul_le positive] at least
  rw [equal, Nat.div_lt_iff_lt_mul positive] at greatest
  rw [equal, Nat.cast_succ, add_sub_cancel_right]
  apply Magnitude.eq_log_of_between (by decide)
  · rw [zpow_natCast, le_div_iff₀ size]
    exact_mod_cast least
  · rw [← Nat.cast_succ, zpow_natCast, div_lt_iff₀ size]
    exact_mod_cast greatest

theorem zerosAfter_eq_log {room : Nat} (smaller : numerator < denominator)
    (enough : denominator ≤ numerator * 10 ^ room) :
    -(zerosAfter numerator denominator room 0 : Int) - 1 =
      Int.log 10 (numerator / denominator : ℚ) := by
  have size : (0 : ℚ) < denominator := by exact_mod_cast (Nat.zero_le _).trans_lt smaller
  obtain ⟨zeros, equal, below, reached⟩ := zerosAfter_spec smaller enough 0
  rw [equal, Nat.zero_add]
  apply Magnitude.eq_log_of_between (by decide)
  · rw [← neg_add', ← Nat.cast_succ, zpow_neg, zpow_natCast, le_div_iff₀ size,
      inv_mul_le_iff₀ (by positivity), mul_comm]
    exact_mod_cast reached
  · rw [sub_add_cancel, zpow_neg, zpow_natCast, div_lt_iff₀ size, lt_inv_mul_iff₀ (by positivity),
      mul_comm]
    exact_mod_cast below

end Point

section Found

variable (finite : magnitude.IsFinite) (some_ : 0 < magnitude.mantissa)
include finite some_

theorem point_eq : point magnitude = Int.log 10 magnitude.value + 1 := by
  have value := quotient_eq magnitude.mantissa magnitude.exponent 0
  rw [zpow_zero, mul_one, ← Magnitude.value] at value
  have positive := quotient_pos magnitude.mantissa magnitude.exponent 0
  have enough : (quotient magnitude.mantissa magnitude.exponent 0).2 ≤
      (quotient magnitude.mantissa magnitude.exponent 0).1 * 10 ^ 400 := by
    have least : -1074 ≤ magnitude.exponent := finite.least
    have down : power (-magnitude.exponent) ≤ power 1074 := by
      rw [Magnitude.power_eq, Magnitude.power_eq]
      exact Nat.pow_le_pow_right (by decide) (by omega)
    have far : power 1074 ≤ 10 ^ 400 := by decide +kernel
    have up : 0 < (quotient magnitude.mantissa magnitude.exponent 0).1 :=
      Nat.mul_pos (Nat.mul_pos some_ (power_pos _)) (Nat.pow_pos (by decide))
    calc power (-magnitude.exponent) * 1 ≤ 10 ^ 400 := by omega
      _ ≤ (quotient magnitude.mantissa magnitude.exponent 0).1 * 10 ^ 400 :=
          Nat.le_mul_of_pos_left _ up
  rw [← value, ← sub_eq_iff_eq_add]
  simp only [point, digitsBefore]
  split
  next large => exact length_digits_eq_log large positive
  next small => exact zerosAfter_eq_log (Nat.not_le.mp small) enough

theorem value_between :
    (10 : ℚ) ^ (point magnitude - 1) ≤ magnitude.value ∧
      magnitude.value < 10 ^ point magnitude := by
  have positive : 0 < magnitude.value := by
    have mantissa : (0 : ℚ) < magnitude.mantissa := by exact_mod_cast some_
    rw [Magnitude.value]
    positivity
  have base : 1 < 10 := by decide
  rw [point_eq finite some_, add_sub_cancel_right]
  exact ⟨by exact_mod_cast Int.zpow_log_le_self base positive,
    by exact_mod_cast Int.lt_zpow_succ_log_self base magnitude.value⟩

end Found

/-! ## The grids -/

def below (magnitude : Magnitude) (count : Nat) : Digits :=
  let exponent := point magnitude - count
  let (numerator, denominator) := quotient magnitude.mantissa magnitude.exponent (-exponent)
  ⟨numerator / denominator, exponent⟩

def above (magnitude : Magnitude) (count : Nat) : Digits :=
  ⟨(below magnitude count).significand + 1, (below magnitude count).exponent⟩

variable {count : Nat}

theorem onGrid?_eq_some {found : Digits} (given : onGrid? magnitude count = some found) :
    (found = below magnitude count ∨ found = above magnitude count) ∧
      readsBack magnitude found = true := by
  simp only [onGrid?] at given
  split at given
  next belowReads aboveReads =>
    split at given
    next =>
      obtain rfl := Option.some.inj given
      exact ⟨.inl rfl, belowReads⟩
    next =>
      obtain rfl := Option.some.inj given
      exact ⟨.inr rfl, aboveReads⟩
  next belowReads _ =>
    obtain rfl := Option.some.inj given
    exact ⟨.inl rfl, belowReads⟩
  next _ aboveReads =>
    obtain rfl := Option.some.inj given
    exact ⟨.inr rfl, aboveReads⟩
  next => cases given

theorem onGrid?_isSome (reads : readsBack magnitude (below magnitude count) = true ∨
    readsBack magnitude (above magnitude count) = true) :
    (onGrid? magnitude count).isSome = true := by
  simp only [onGrid?]
  split
  next => split <;> rfl
  next => rfl
  next => rfl
  next belowFails aboveFails =>
    rcases reads with belowReads | aboveReads
    · exact absurd (belowReads.symm.trans belowFails) nofun
    · exact absurd (aboveReads.symm.trans aboveFails) nofun

theorem above_value (magnitude : Magnitude) (count : Nat) :
    (above magnitude count).value =
      (below magnitude count).value + 10 ^ (point magnitude - count) := by
  have place : (below magnitude count).exponent = point magnitude - count := rfl
  rw [above, Digits.value, Digits.value, place]
  push_cast
  ring

theorem between_grid (magnitude : Magnitude) (count : Nat) :
    (below magnitude count).value ≤ magnitude.value ∧
      magnitude.value < (above magnitude count).value := by
  have positive := quotient_pos magnitude.mantissa magnitude.exponent
    (-(point magnitude - count))
  have units := quotient_eq magnitude.mantissa magnitude.exponent (-(point magnitude - count))
  have unit : (0 : ℚ) < 10 ^ (point magnitude - count) := by positivity
  have place : (below magnitude count).exponent = point magnitude - count := rfl
  have whole : (below magnitude count).significand =
      (quotient magnitude.mantissa magnitude.exponent (-(point magnitude - count))).1 /
        (quotient magnitude.mantissa magnitude.exponent (-(point magnitude - count))).2 := rfl
  rw [above_value, Digits.value, place, whole]
  generalize quotient magnitude.mantissa magnitude.exponent (-(point magnitude - count)) = parts
    at positive units ⊢
  rw [← Magnitude.value, zpow_neg, ← div_eq_mul_inv, eq_div_iff unit.ne'] at units
  have size : (0 : ℚ) < parts.2 := by exact_mod_cast positive
  rw [← units]
  constructor
  · gcongr
    exact Nat.cast_div_le
  · rw [← add_one_mul]
    gcongr
    rw [div_lt_iff₀ size]
    exact_mod_cast (Nat.div_lt_iff_lt_mul positive).mp (Nat.lt_succ_self (parts.1 / parts.2))

section Found

variable (finite : magnitude.IsFinite) (some_ : 0 < magnitude.mantissa)
include finite some_

theorem grid_lt : (10 : ℚ) ^ (point magnitude - 17) * 10 ^ 16 ≤
    magnitude.mantissa * 2 ^ magnitude.exponent := by
  have size := (value_between finite some_).1
  rw [← Magnitude.value]
  calc (10 : ℚ) ^ (point magnitude - 17) * 10 ^ 16
      = 10 ^ (point magnitude - 1) := by
        rw [← zpow_natCast, ← zpow_add₀ (by norm_num)]
        congr 1
        push_cast
        ring
    _ ≤ magnitude.value := size

/-- One of the neighbours of a double on the grid of seventeen digits reads back. -/
theorem onGrid?_seventeen : (onGrid? magnitude 17).isSome = true := by
  apply onGrid?_isSome
  obtain ⟨least, greatest⟩ := between_grid magnitude 17
  have step := above_value magnitude 17
  have close := grid_lt finite some_
  have unit : (0 : ℚ) < 2 ^ magnitude.exponent := by positivity
  push_cast at step
  rw [Magnitude.value] at least greatest
  by_cases power : magnitude.mantissa = 2 ^ 52
  · -- The gap below is only half as wide here, but the one above is wide enough.
    rw [power] at close
    push_cast at close
    right
    apply readsBack_of_between
    · calc (lowerEnd magnitude * 2 ^ magnitude.exponent : ℚ)
          ≤ 4 * magnitude.mantissa * 2 ^ magnitude.exponent := by
            gcongr
            exact cast_lowerEnd_le magnitude
        _ < 4 * (above magnitude 17).value := by linarith
    · rw [cast_upperEnd]
      linarith
  · have small : (magnitude.mantissa : ℚ) * 2 ^ magnitude.exponent ≤
        2 ^ 53 * 2 ^ magnitude.exponent := by
      gcongr
      exact_mod_cast finite.small.le
    have lower := cast_lowerEnd some_ power
    by_cases near : 4 * (below magnitude 17).value >
      (4 * magnitude.mantissa - 2) * 2 ^ magnitude.exponent
    · left
      apply readsBack_of_between
      · rwa [lower]
      · rw [cast_upperEnd]
        linarith
    · right
      apply readsBack_of_between
      · rw [lower]
        linarith
      · rw [cast_upperEnd]
        linarith

theorem significand_bounds {found : Digits} (some_digit : 0 < count)
    (given : onGrid? magnitude count = some found) :
    0 < found.significand ∧ found.significand ≤ 10 ^ count := by
  obtain ⟨least, greatest⟩ := between_grid magnitude count
  obtain ⟨lower, upper⟩ := value_between finite some_
  have step := above_value magnitude count
  have unit : (0 : ℚ) < 10 ^ (point magnitude - count) := by positivity
  have place : (below magnitude count).value =
      (below magnitude count).significand * 10 ^ (point magnitude - count) := rfl
  have one : 0 < (below magnitude count).significand := by
    have coarse : (10 : ℚ) ^ (point magnitude - count) ≤ 10 ^ (point magnitude - 1) :=
      zpow_le_zpow_right₀ (by norm_num) (by omega)
    have positive : (0 : ℚ) < (below magnitude count).significand *
        10 ^ (point magnitude - count) := by linarith
    exact_mod_cast pos_of_mul_pos_left positive unit.le
  have bound : (below magnitude count).significand < 10 ^ count := by
    have size : (10 : ℚ) ^ point magnitude = 10 ^ count * 10 ^ (point magnitude - count) := by
      rw [← zpow_natCast, ← zpow_add₀ (by norm_num), add_sub_cancel]
    have scaled : ((below magnitude count).significand : ℚ) *
        10 ^ (point magnitude - count) < 10 ^ count * 10 ^ (point magnitude - count) := by
      linarith
    exact_mod_cast lt_of_mul_lt_mul_right scaled unit.le
  rcases (onGrid?_eq_some given).1 with rfl | rfl
  · exact ⟨one, bound.le⟩
  · exact ⟨Nat.succ_pos _, bound⟩

end Found

theorem search_spec (count room : Nat)
    (hit : (onGrid? magnitude (count + room)).isSome = true) :
    ∃ size, count ≤ size ∧ size ≤ count + room ∧
      onGrid? magnitude size = some (search magnitude (room + 1) count) := by
  induction room generalizing count with
  | zero =>
      obtain ⟨found, equal⟩ := Option.isSome_iff_exists.mp hit
      rw [Nat.add_zero] at equal
      refine ⟨count, le_refl _, Nat.le_add_right _ _, ?_⟩
      simp only [search, equal]
  | succ room induction =>
      rw [search]
      split
      next found equal => exact ⟨count, le_refl _, Nat.le_add_right _ _, equal⟩
      next =>
        rw [Nat.add_succ, ← Nat.succ_add] at hit
        obtain ⟨size, least, greatest, equal⟩ := induction (count + 1) hit
        exact ⟨size, by omega, by omega, equal⟩

/-! ## The digits -/

theorem dropZeros_append (digits : List Nat) :
    ∃ zeros, digits = dropZeros digits ++ List.replicate zeros 0 := by
  have whole : digits.reverse.takeWhile (· == 0) ++ digits.reverse.dropWhile (· == 0) =
      digits.reverse := List.takeWhile_append_dropWhile
  have zeros : digits.reverse.takeWhile (· == 0) =
      List.replicate (digits.reverse.takeWhile (· == 0)).length 0 := by
    apply List.eq_replicate_of_mem
    intro digit member
    exact eq_of_beq (List.all_eq_true.mp List.all_takeWhile digit member)
  refine ⟨(digits.reverse.takeWhile (· == 0)).length, ?_⟩
  rw [dropZeros, ← List.reverse_replicate, ← zeros, ← List.reverse_append, whole,
    List.reverse_reverse]

theorem isLeading_dropZeros {digits : List Nat} (leading : Decimal.IsLeading digits) :
    Decimal.IsLeading (dropZeros digits) := by
  obtain ⟨zeros, whole⟩ := dropZeros_append digits
  obtain ⟨first, rest, equal, nonzero⟩ := leading.leads
  constructor
  · intro digit member
    apply leading.small
    rw [whole]
    exact List.mem_append_left _ member
  · cases kept : dropZeros digits with
    | nil =>
        have zero : first ∈ List.replicate zeros 0 := by
          rw [kept, List.nil_append, equal] at whole
          exact whole ▸ List.mem_cons_self
        exact absurd (List.eq_of_mem_replicate zero) nonzero
    | cons other more =>
        rw [kept, equal, List.cons_append] at whole
        exact ⟨other, more, rfl, (List.cons.inj whole).1 ▸ nonzero⟩

section Found

variable (finite : magnitude.IsFinite) (some_ : 0 < magnitude.mantissa)
include finite some_

theorem digits_spec :
    Decimal.IsLeading (digits magnitude).1 ∧ Decimal.value (digits magnitude).1 ≤ 10 ^ 17 ∧
      (Decimal.value (digits magnitude).1 : ℚ) *
          10 ^ ((digits magnitude).2 - (digits magnitude).1.length) ≤
        (magnitude.mantissa + 1 / 2) * 2 ^ magnitude.exponent := by
  obtain ⟨size, least, greatest, equal⟩ :=
    search_spec 1 16 (onGrid?_seventeen finite some_)
  obtain ⟨positive, bounded⟩ := significand_bounds finite some_ least equal
  have reads := value_le_of_readsBack (onGrid?_eq_some equal).2
  rw [digits]
  generalize search magnitude 17 1 = found at positive bounded reads ⊢
  -- The zeros at the end of the significand go to the exponent, and the value stays.
  obtain ⟨zeros, whole⟩ := dropZeros_append (Decimal.digits found.significand)
  have value : found.significand =
      Decimal.value (dropZeros (Decimal.digits found.significand)) * 10 ^ zeros := by
    have all := congrArg Decimal.value whole
    rwa [Decimal.value_digits, Decimal.value_append, Decimal.value_replicate_zero, Nat.add_zero,
      List.length_replicate] at all
  have length : (Decimal.digits found.significand).length =
      (dropZeros (Decimal.digits found.significand)).length + zeros := by
    have all := congrArg List.length whole
    rwa [List.length_append, List.length_replicate] at all
  refine ⟨isLeading_dropZeros (Decimal.isLeading_digits positive), ?_, ?_⟩
  · calc Decimal.value (dropZeros (Decimal.digits found.significand))
        ≤ found.significand := by
          conv_rhs => rw [value]
          exact Nat.le_mul_of_pos_right _ (Nat.pow_pos (by decide))
      _ ≤ 10 ^ size := bounded
      _ ≤ 10 ^ 17 := Nat.pow_le_pow_right (by decide) greatest
  · apply le_trans (le_of_eq _) reads
    dsimp only
    have exponent : ((Decimal.digits found.significand).length : Int) + found.exponent -
        (dropZeros (Decimal.digits found.significand)).length = zeros + found.exponent := by
      rw [length]
      push_cast
      ring
    have significand : (found.significand : ℚ) =
        Decimal.value (dropZeros (Decimal.digits found.significand)) * 10 ^ zeros := by
      exact_mod_cast value
    rw [exponent, Digits.value, significand, zpow_add₀ (by norm_num), zpow_natCast, mul_assoc]

omit some_ in
theorem halfUnitAbove_le (other : magnitude.exponent = Magnitude.greatestExponent →
    magnitude.mantissa < 2 ^ 53 - 2) :
    (magnitude.mantissa + 1 / 2 : ℚ) * 2 ^ magnitude.exponent ≤
      (2 ^ 53 - 5 / 2) * 2 ^ Magnitude.greatestExponent := by
  rcases lt_or_eq_of_le finite.greatest with lower | last
  · have mantissa : (magnitude.mantissa : ℚ) + 1 ≤ 2 ^ 53 := by exact_mod_cast finite.small
    have next : (2 : ℚ) ^ (magnitude.exponent + 1) ≤ 2 ^ Magnitude.greatestExponent :=
      zpow_le_zpow_right₀ one_le_two lower
    have unit : (0 : ℚ) < 2 ^ magnitude.exponent := by positivity
    rw [zpow_add_one₀ two_ne_zero] at next
    calc (magnitude.mantissa + 1 / 2 : ℚ) * 2 ^ magnitude.exponent
        ≤ (2 ^ 53 - 5 / 2) * (2 ^ magnitude.exponent * 2) := by
          rw [mul_comm (2 ^ magnitude.exponent) 2, ← mul_assoc]
          gcongr
          linarith
      _ ≤ (2 ^ 53 - 5 / 2) * 2 ^ Magnitude.greatestExponent :=
          mul_le_mul_of_nonneg_left next (by norm_num)
  · have mantissa : (magnitude.mantissa : ℚ) + 3 ≤ 2 ^ 53 := by
      have whole : magnitude.mantissa + 3 ≤ 2 ^ 53 := by
        have := other last
        omega
      exact_mod_cast whole
    rw [last]
    gcongr
    linarith

theorem ofDecimal?_digits :
    (Magnitude.ofDecimal? (Decimal.value (digits magnitude).1)
      ((digits magnitude).2 - (digits magnitude).1.length)).isSome = true := by
  by_cases top : magnitude.exponent = Magnitude.greatestExponent ∧
      2 ^ 53 - 2 ≤ magnitude.mantissa
  · -- The bound is too close to the two largest doubles, whose digits are looked at.
    have small := finite.small
    obtain ⟨mantissa, exponent⟩ := magnitude
    obtain ⟨rfl, least⟩ := top
    obtain rfl | rfl : mantissa = 2 ^ 53 - 2 ∨ mantissa = 2 ^ 53 - 1 := by
      dsimp only at least small
      omega
    · decide +kernel
    · decide +kernel
  · obtain ⟨_, word, close⟩ := digits_spec finite some_
    have room := halfUnitAbove_le finite fun last =>
      Nat.not_le.mp fun least => top ⟨last, least⟩
    have unit : (0 : ℚ) < 2 ^ Magnitude.greatestExponent := by positivity
    apply Magnitude.ofDecimal?_isSome (by omega)
    rw [Magnitude.leastTooLarge]
    calc _ ≤ (2 ^ 53 - 5 / 2 : ℚ) * 2 ^ Magnitude.greatestExponent * (1 + 1 / 2 ^ 53) ^ 2 :=
          mul_le_mul_of_nonneg_right (close.trans room) (by positivity)
      _ < (2 ^ 53 - 1 / 2) * 2 ^ Magnitude.greatestExponent := by
          rw [mul_right_comm]
          exact mul_lt_mul_of_pos_right (by norm_num) unit

end Found

end Shortest

end DeviceAuth
