import DeviceAuth.Number.Binary64
import Mathlib.Algebra.Order.Field.Power
import Mathlib.Data.Int.Log
import Mathlib.Data.Rat.Floor
import Mathlib.Tactic.FieldSimp
import Mathlib.Tactic.Linarith

/-! What rounding to a double does to a number. A quotient is rounded in the last place that
the mantissa has at its size, so a number of at least one grows by one part in `2 ^ 53` at
most. It is rounded to a double unless it comes too close to the power of two beyond the
largest one, and this is also all that decimal notation can fail for. -/

namespace DeviceAuth

/-! ## Rounding to whole numbers -/

theorem div_le_roundHalfEven (numerator denominator : Nat) :
    numerator / denominator ≤ roundHalfEven numerator denominator := by
  simp only [roundHalfEven]
  split
  next => exact Nat.le_refl _
  next =>
    split
    next => exact Nat.le_succ _
    next => exact Nat.le_add_right _ _

theorem roundHalfEven_le (numerator : Nat) {denominator : Nat} (positive : 0 < denominator) :
    (roundHalfEven numerator denominator : ℚ) ≤ numerator / denominator + 1 / 2 := by
  have whole : 2 * (denominator * roundHalfEven numerator denominator) ≤
      2 * numerator + denominator := by
    have divided := Nat.div_add_mod numerator denominator
    have parity : denominator * (numerator / denominator % 2) ≤ denominator :=
      Nat.le_trans (Nat.mul_le_mul_left _ (by omega)) (Nat.mul_one _).le
    simp only [roundHalfEven]
    split
    next => omega
    next =>
      split
      next =>
        rw [Nat.mul_succ]
        omega
      next =>
        rw [Nat.mul_add]
        omega
  have bound : (2 * (denominator * roundHalfEven numerator denominator) : ℚ) ≤
      2 * numerator + denominator := by exact_mod_cast whole
  have size : (0 : ℚ) < denominator := by exact_mod_cast positive
  rw [div_add' _ _ _ size.ne', le_div_iff₀ size]
  linarith

namespace Magnitude

/-! ## Powers of two -/

theorem power_eq (exponent : Int) : power exponent = 2 ^ exponent.toNat := by
  rw [power, Nat.one_shiftLeft]

theorem power_pos (exponent : Int) : 0 < power exponent := by
  rw [power_eq]
  exact Nat.two_pow_pos _

theorem zpow_eq_power_div (exponent : Int) :
    (2 : ℚ) ^ exponent = power exponent / power (-exponent) := by
  rcases Int.eq_nat_or_neg exponent with ⟨size, rfl | rfl⟩
  · simp [power_eq]
  · simp [power_eq]

theorem scaled (numerator denominator : Nat) (exponent : Int) :
    ((numerator * power (-exponent) : Nat) : ℚ) / (denominator * power exponent : Nat) =
      numerator / denominator / 2 ^ exponent := by
  rw [zpow_eq_power_div, div_div_div_eq, Nat.cast_mul, Nat.cast_mul]

def value (magnitude : Magnitude) : ℚ := magnitude.mantissa * 2 ^ magnitude.exponent

theorem value_nonneg (magnitude : Magnitude) : 0 ≤ magnitude.value := by
  rw [value]
  positivity

/-! ## The leading digit -/

theorem eq_log_of_between {base : Nat} (large : 1 < base) {number : ℚ} {exponent : Int}
    (least : (base : ℚ) ^ exponent ≤ number) (greatest : number < (base : ℚ) ^ (exponent + 1)) :
    exponent = Int.log base number := by
  have positive : 0 < number := lt_of_lt_of_le (zpow_pos (by exact_mod_cast (by omega)) _) least
  have lower := (Int.zpow_le_iff_le_log large positive).mp least
  have upper := (Int.lt_zpow_iff_log_lt large positive).mp greatest
  omega

theorem between_powers {numerator denominator : Nat} (some_ : numerator ≠ 0)
    (positive : denominator ≠ 0) :
    (2 : ℚ) ^ ((numerator.log2 : Int) - denominator.log2 - 1) ≤ numerator / denominator ∧
      (numerator / denominator : ℚ) < 2 ^ ((numerator.log2 : Int) - denominator.log2 + 1) := by
  have size : (0 : ℚ) < denominator := by exact_mod_cast Nat.pos_of_ne_zero positive
  have two : (2 : ℚ) ≠ 0 := by norm_num
  have above : (2 : ℚ) ^ (numerator.log2 : Int) ≤ numerator := by
    exact_mod_cast Nat.log2_self_le some_
  have below : (numerator : ℚ) < 2 ^ ((numerator.log2 : Int) + 1) := by
    exact_mod_cast Nat.lt_log2_self (n := numerator)
  have above' : (2 : ℚ) ^ (denominator.log2 : Int) ≤ denominator := by
    exact_mod_cast Nat.log2_self_le positive
  have below' : (denominator : ℚ) < 2 ^ ((denominator.log2 : Int) + 1) := by
    exact_mod_cast Nat.lt_log2_self (n := denominator)
  constructor
  · rw [le_div_iff₀ size]
    calc (2 : ℚ) ^ ((numerator.log2 : Int) - denominator.log2 - 1) * denominator
        ≤ 2 ^ ((numerator.log2 : Int) - denominator.log2 - 1) *
            2 ^ ((denominator.log2 : Int) + 1) := by gcongr
      _ = 2 ^ (numerator.log2 : Int) := by
          rw [← zpow_add₀ two]
          congr 1
          ring
      _ ≤ numerator := above
  · rw [div_lt_iff₀ size]
    calc (numerator : ℚ) < 2 ^ ((numerator.log2 : Int) + 1) := below
      _ = 2 ^ ((numerator.log2 : Int) - denominator.log2 + 1) *
            2 ^ (denominator.log2 : Int) := by
          rw [← zpow_add₀ two]
          congr 1
          ring
      _ ≤ 2 ^ ((numerator.log2 : Int) - denominator.log2 + 1) * denominator := by gcongr

theorem leadingExponent_eq_log {numerator denominator : Nat} (some_ : numerator ≠ 0)
    (positive : denominator ≠ 0) :
    leadingExponent numerator denominator = Int.log 2 (numerator / denominator : ℚ) := by
  obtain ⟨least, greatest⟩ := between_powers some_ positive
  simp only [leadingExponent]
  generalize (numerator.log2 : Int) - denominator.log2 = guess at least greatest ⊢
  have compare : numerator * power (-guess) < denominator * power guess ↔
      (numerator / denominator : ℚ) < 2 ^ guess := by
    have size : (0 : ℚ) < denominator := by exact_mod_cast Nat.pos_of_ne_zero positive
    have unit : (0 : ℚ) < power (-guess) := by exact_mod_cast power_pos _
    rw [zpow_eq_power_div, div_lt_div_iff₀ size unit, mul_comm (power guess : ℚ)]
    exact_mod_cast Iff.rfl
  apply eq_log_of_between (Nat.lt_succ_self 1)
  · split
    next => exact_mod_cast least
    next larger => exact_mod_cast not_lt.mp (mt compare.mpr larger)
  · split
    next smaller =>
      rw [Int.sub_add_cancel]
      exact_mod_cast compare.mp smaller
    next => exact_mod_cast greatest

/-! ## Rounding to doubles -/

/-- A magnitude that a double can have. Only at the least exponent the mantissa may have
fewer than 53 binary digits. -/
structure IsFinite (magnitude : Magnitude) : Prop where
  small : magnitude.mantissa < 2 ^ 53
  least : leastExponent ≤ magnitude.exponent
  greatest : magnitude.exponent ≤ greatestExponent
  normal : 2 ^ 52 ≤ magnitude.mantissa ∨ magnitude.exponent = leastExponent

instance (magnitude : Magnitude) : Decidable magnitude.IsFinite :=
  decidable_of_iff (magnitude.mantissa < 2 ^ 53 ∧ leastExponent ≤ magnitude.exponent ∧
      magnitude.exponent ≤ greatestExponent ∧
        (2 ^ 52 ≤ magnitude.mantissa ∨ magnitude.exponent = leastExponent))
    ⟨fun ⟨small, least, greatest, normal⟩ => ⟨small, least, greatest, normal⟩,
      fun finite => ⟨finite.small, finite.least, finite.greatest, finite.normal⟩⟩

/-- The least number that is rounded beyond the largest double. -/
def leastTooLarge : ℚ := (2 ^ 53 - 1 / 2) * 2 ^ greatestExponent

def lastPlace (numerator denominator : Nat) : Int :=
  max (leadingExponent numerator denominator - 52) leastExponent

def lastUnits (numerator denominator : Nat) : Nat :=
  let exponent := lastPlace numerator denominator
  roundHalfEven (numerator * power (-exponent)) (denominator * power exponent)

section Rounding

variable {numerator denominator : Nat} {magnitude : Magnitude}

theorem nearest?_eq (some_ : numerator ≠ 0) :
    nearest? numerator denominator =
      let rounded : Magnitude :=
        if lastUnits numerator denominator = power 53
        then ⟨power 52, lastPlace numerator denominator + 1⟩
        else ⟨lastUnits numerator denominator, lastPlace numerator denominator⟩
      if rounded.exponent ≤ greatestExponent then some rounded else none := by
  rw [nearest?, if_neg some_]
  rfl

theorem lastUnits_le (numerator : Nat) {denominator : Nat} (positive : denominator ≠ 0) :
    (lastUnits numerator denominator : ℚ) ≤
      numerator / denominator / 2 ^ lastPlace numerator denominator + 1 / 2 := by
  have size : 0 < denominator * power (lastPlace numerator denominator) :=
    Nat.mul_pos (Nat.pos_of_ne_zero positive) (power_pos _)
  rw [← scaled]
  exact roundHalfEven_le _ size

theorem units_lt (some_ : numerator ≠ 0) (positive : denominator ≠ 0) :
    (numerator / denominator / 2 ^ lastPlace numerator denominator : ℚ) < 2 ^ 53 := by
  have unit : (0 : ℚ) < 2 ^ lastPlace numerator denominator := by positivity
  have size := Int.lt_zpow_succ_log_self (Nat.lt_succ_self 1) (numerator / denominator : ℚ)
  rw [← leadingExponent_eq_log some_ positive] at size
  have place : leadingExponent numerator denominator - 52 ≤ lastPlace numerator denominator :=
    le_max_left _ _
  rw [div_lt_iff₀ unit, ← zpow_natCast, ← zpow_add₀ two_ne_zero]
  apply lt_of_lt_of_le (by exact_mod_cast size)
  apply zpow_le_zpow_right₀ one_le_two
  push_cast
  omega

theorem lastUnits_le_power (some_ : numerator ≠ 0) (positive : denominator ≠ 0) :
    lastUnits numerator denominator ≤ 2 ^ 53 := by
  have bound := lastUnits_le numerator positive
  have small := units_lt some_ positive
  have close : (lastUnits numerator denominator : ℚ) < ((2 ^ 53 + 1 : Nat) : ℚ) := by
    push_cast
    linarith
  exact Nat.le_of_lt_succ (by exact_mod_cast close)

theorem power_le_lastUnits (some_ : numerator ≠ 0) (positive : denominator ≠ 0)
    (normal : lastPlace numerator denominator = leadingExponent numerator denominator - 52) :
    2 ^ 52 ≤ lastUnits numerator denominator := by
  have quotient : (0 : ℚ) < numerator / denominator := by
    have := Nat.pos_of_ne_zero some_
    have := Nat.pos_of_ne_zero positive
    positivity
  have size := Int.zpow_log_le_self (Nat.lt_succ_self 1) quotient
  rw [← leadingExponent_eq_log some_ positive] at size
  have unit : (0 : ℚ) < 2 ^ lastPlace numerator denominator := by positivity
  have units : (2 ^ 52 : ℚ) ≤
      numerator / denominator / 2 ^ lastPlace numerator denominator := by
    rw [le_div_iff₀ unit, normal, ← zpow_natCast, ← zpow_add₀ two_ne_zero]
    push_cast
    rw [add_sub_cancel]
    exact_mod_cast size
  apply Nat.le_trans _ (div_le_roundHalfEven _ _)
  have place : 0 < denominator * power (lastPlace numerator denominator) :=
    Nat.mul_pos (Nat.pos_of_ne_zero positive) (power_pos _)
  rw [← scaled, le_div_iff₀ (by exact_mod_cast place)] at units
  exact (Nat.le_div_iff_mul_le place).mpr (by exact_mod_cast units)

theorem isFinite_nearest? (positive : denominator ≠ 0)
    (rounded : nearest? numerator denominator = some magnitude) : magnitude.IsFinite := by
  by_cases some_ : numerator = 0
  · rw [nearest?, if_pos some_] at rounded
    obtain rfl := Option.some.inj rounded
    exact ⟨by decide, le_refl _, by decide, .inr rfl⟩
  have atMost := lastUnits_le_power some_ positive
  have place : leastExponent ≤ lastPlace numerator denominator := le_max_right _ _
  rw [nearest?_eq some_] at rounded
  obtain ⟨bounded, equal⟩ := Option.ite_none_right_eq_some.mp rounded
  obtain rfl := Option.some.inj equal
  split at bounded
  next full =>
    rw [if_pos full]
    have mantissa : power 52 = 2 ^ 52 := power_eq 52
    exact ⟨by dsimp only; omega, by dsimp only; omega, bounded, .inl mantissa.ge⟩
  next partial_ =>
    rw [if_neg partial_]
    have below : lastUnits numerator denominator ≠ 2 ^ 53 := by
      rwa [power_eq] at partial_
    refine ⟨by dsimp only; omega, place, bounded, ?_⟩
    rcases max_choice (leadingExponent numerator denominator - 52) leastExponent with
      normal | least
    · exact .inl (power_le_lastUnits some_ positive normal)
    · exact .inr least

theorem value_nearest? (some_ : numerator ≠ 0)
    (rounded : nearest? numerator denominator = some magnitude) :
    magnitude.value =
      lastUnits numerator denominator * 2 ^ lastPlace numerator denominator := by
  rw [nearest?_eq some_] at rounded
  obtain ⟨_, equal⟩ := Option.ite_none_right_eq_some.mp rounded
  obtain rfl := Option.some.inj equal
  split
  next full =>
    rw [full, value, zpow_add_one₀ two_ne_zero, power_eq, power_eq]
    push_cast
    ring
  next => rfl

theorem nearest?_isSome (positive : denominator ≠ 0)
    (small : (numerator / denominator : ℚ) < leastTooLarge) :
    (nearest? numerator denominator).isSome = true := by
  by_cases some_ : numerator = 0
  · rw [nearest?, if_pos some_]
    rfl
  have quotient : (0 : ℚ) < numerator / denominator := by
    have := Nat.pos_of_ne_zero some_
    have := Nat.pos_of_ne_zero positive
    positivity
  have leading : leadingExponent numerator denominator < 1024 := by
    rw [leadingExponent_eq_log some_ positive, ← Int.lt_zpow_iff_log_lt (by decide) quotient]
    apply lt_of_lt_of_le small
    have power : (2 : ℚ) ^ (1024 : Int) = 2 ^ 53 * 2 ^ greatestExponent := by
      rw [← zpow_natCast, ← zpow_add₀ two_ne_zero]
      rfl
    rw [leastTooLarge, Nat.cast_ofNat, power]
    gcongr
    norm_num
  have place : lastPlace numerator denominator ≤ greatestExponent :=
    max_le (by rw [greatestExponent]; omega) (by decide)
  rw [nearest?_eq some_]
  apply Option.isSome_of_eq_some (if_pos _)
  split
  next full =>
    -- At the greatest exponent there is no room for another binary digit.
    rcases lt_or_eq_of_le place with room | last
    · exact room
    · exfalso
      have bound := lastUnits_le numerator positive
      have fits : (numerator / denominator / 2 ^ greatestExponent : ℚ) < 2 ^ 53 - 1 / 2 := by
        rw [div_lt_iff₀ (by positivity)]
        exact small
      rw [full, last, power_eq] at bound
      push_cast at bound
      linarith
  next => exact place

theorem lastPlace_of_one_le (positive : denominator ≠ 0)
    (large : (1 : ℚ) ≤ numerator / denominator) :
    numerator ≠ 0 ∧
      lastPlace numerator denominator = leadingExponent numerator denominator - 52 ∧
        0 ≤ leadingExponent numerator denominator := by
  have some_ : numerator ≠ 0 := by
    rintro rfl
    norm_num at large
  have leading : 0 ≤ leadingExponent numerator denominator := by
    rw [leadingExponent_eq_log some_ positive,
      ← Int.zpow_le_iff_le_log (by decide) (lt_of_lt_of_le one_pos large), zpow_zero]
    exact large
  exact ⟨some_, max_eq_left (by rw [leastExponent]; omega), leading⟩

theorem value_nearest?_le (positive : denominator ≠ 0)
    (large : (1 : ℚ) ≤ numerator / denominator)
    (rounded : nearest? numerator denominator = some magnitude) :
    magnitude.value ≤ numerator / denominator * (1 + 1 / 2 ^ 53) := by
  obtain ⟨some_, place, _⟩ := lastPlace_of_one_le positive large
  have unit : (0 : ℚ) < 2 ^ lastPlace numerator denominator := by positivity
  have size := Int.zpow_log_le_self (Nat.lt_succ_self 1) (lt_of_lt_of_le one_pos large)
  have unitSize : (2 : ℚ) ^ lastPlace numerator denominator * 2 ^ 52 ≤
      numerator / denominator := by
    rw [place, leadingExponent_eq_log some_ positive, ← zpow_natCast, ← zpow_add₀ two_ne_zero]
    push_cast
    rw [sub_add_cancel]
    exact_mod_cast size
  rw [value_nearest? some_ rounded]
  calc (lastUnits numerator denominator * 2 ^ lastPlace numerator denominator : ℚ)
      ≤ (numerator / denominator / 2 ^ lastPlace numerator denominator + 1 / 2) *
          2 ^ lastPlace numerator denominator := by
        gcongr
        exact lastUnits_le numerator positive
    _ = numerator / denominator + 2 ^ lastPlace numerator denominator / 2 := by
        rw [add_mul, div_mul_cancel₀ _ unit.ne']
        ring
    _ ≤ numerator / denominator * (1 + 1 / 2 ^ 53) := by linarith

theorem one_le_value_nearest? (positive : denominator ≠ 0)
    (large : (1 : ℚ) ≤ numerator / denominator)
    (rounded : nearest? numerator denominator = some magnitude) : 1 ≤ magnitude.value := by
  obtain ⟨some_, place, leading⟩ := lastPlace_of_one_le positive large
  have units := power_le_lastUnits some_ positive place
  rw [value_nearest? some_ rounded]
  calc (1 : ℚ) = 2 ^ 52 * 2 ^ (-52 : Int) := by norm_num
    _ ≤ lastUnits numerator denominator * 2 ^ lastPlace numerator denominator := by
        gcongr
        · exact_mod_cast units
        · exact one_le_two
        · omega

end Rounding

/-! ## Arithmetic -/

section Arithmetic

variable {left right magnitude : Magnitude}

theorem multiply?_quotient (left right : Magnitude) :
    ((left.mantissa * right.mantissa * power (left.exponent + right.exponent) : Nat) : ℚ) /
      (power (-(left.exponent + right.exponent)) : Nat) = left.value * right.value := by
  rw [Nat.cast_mul, mul_div_assoc, ← zpow_eq_power_div, zpow_add₀ two_ne_zero, value, value,
    Nat.cast_mul]
  ring

theorem divide?_quotient (left right : Magnitude) :
    ((left.mantissa * power (left.exponent - right.exponent) : Nat) : ℚ) /
      (right.mantissa * power (-(left.exponent - right.exponent)) : Nat) =
        left.value / right.value := by
  rw [Nat.cast_mul, Nat.cast_mul, mul_div_mul_comm, ← zpow_eq_power_div,
    zpow_sub₀ two_ne_zero, value, value, mul_div_mul_comm]

theorem multiply?_isSome (small : left.value * right.value < leastTooLarge) :
    (multiply? left right).isSome = true := by
  rw [← multiply?_quotient] at small
  exact nearest?_isSome (power_pos _).ne' small

theorem mantissa_ne_zero (some_ : 0 < right.value) : right.mantissa ≠ 0 := by
  intro zero
  rw [value, zero, Nat.cast_zero, zero_mul] at some_
  exact lt_irrefl _ some_

theorem divide?_isSome (some_ : 0 < right.value)
    (small : left.value / right.value < leastTooLarge) :
    (divide? left right).isSome = true := by
  rw [← divide?_quotient] at small
  exact nearest?_isSome (Nat.mul_ne_zero (mantissa_ne_zero some_) (power_pos _).ne') small

theorem isFinite_divide? (some_ : 0 < right.value)
    (divided : divide? left right = some magnitude) : magnitude.IsFinite :=
  isFinite_nearest? (Nat.mul_ne_zero (mantissa_ne_zero some_) (power_pos _).ne') divided

theorem IsFinite.value_lt (finite : magnitude.IsFinite) : magnitude.value < leastTooLarge := by
  have mantissa : (magnitude.mantissa : ℚ) ≤ 2 ^ 53 - 1 := by
    have small : ((magnitude.mantissa + 1 : Nat) : ℚ) ≤ ((2 ^ 53 : Nat) : ℚ) := by
      exact_mod_cast finite.small
    push_cast at small
    linarith
  rw [value, leastTooLarge]
  calc magnitude.mantissa * (2 : ℚ) ^ magnitude.exponent
      ≤ (2 ^ 53 - 1) * 2 ^ greatestExponent := by
        gcongr
        · exact one_le_two
        · exact finite.greatest
    _ < (2 ^ 53 - 1 / 2) * 2 ^ greatestExponent := by
        gcongr
        norm_num

end Arithmetic

/-! ## Decimal notation -/

theorem leastTooLarge_between :
    (10 : ℚ) ^ greatestPowerOfTen < leastTooLarge ∧
      leastTooLarge ≤ 10 ^ (greatestPowerOfTen + 1) := by
  have whole : 10 ^ greatestPowerOfTen + power greatestExponent < 2 ^ 53 * power greatestExponent ∧
      2 ^ 53 * power greatestExponent ≤ 10 ^ (greatestPowerOfTen + 1) := by decide +kernel
  obtain ⟨least, greatest⟩ := whole
  have unit : ((power greatestExponent : Nat) : ℚ) = 2 ^ greatestExponent := by
    rw [zpow_eq_power_div]
    exact (div_one _).symm
  have least : (10 : ℚ) ^ greatestPowerOfTen + 2 ^ greatestExponent <
      2 ^ 53 * 2 ^ greatestExponent := by
    rw [← unit]
    exact_mod_cast least
  have greatest : (2 : ℚ) ^ 53 * 2 ^ greatestExponent ≤ 10 ^ (greatestPowerOfTen + 1) := by
    rw [← unit]
    exact_mod_cast greatest
  have positive : (0 : ℚ) < 2 ^ greatestExponent := by positivity
  rw [leastTooLarge]
  constructor
  · linarith
  · linarith

theorem word_lt_leastTooLarge : (2 : ℚ) * 2 ^ 64 < leastTooLarge := by
  have whole : 2 * 2 ^ 64 ≤ 10 ^ greatestPowerOfTen := by decide +kernel
  exact lt_of_le_of_lt (by exact_mod_cast whole) leastTooLarge_between.1

theorem powerOfTen_spec {exponent : Nat} (bounded : exponent ≤ greatestPowerOfTen) :
    1 ≤ (powerOfTen exponent).value ∧
      (powerOfTen exponent).value ≤ 10 ^ exponent * (1 + 1 / 2 ^ 53) := by
  have quotient : ((Nat.pow 10 exponent : Nat) : ℚ) / (1 : Nat) = 10 ^ exponent := by
    rw [Nat.cast_one, div_one]
    exact Nat.cast_pow 10 exponent
  have large : (1 : ℚ) ≤ ((Nat.pow 10 exponent : Nat) : ℚ) / (1 : Nat) := by
    rw [quotient]
    exact one_le_pow₀ (by norm_num)
  have small : ((Nat.pow 10 exponent : Nat) : ℚ) / (1 : Nat) < leastTooLarge := by
    rw [quotient]
    apply lt_of_le_of_lt _ leastTooLarge_between.1
    exact pow_le_pow_right₀ (by norm_num) bounded
  obtain ⟨rounded, equal⟩ := Option.isSome_iff_exists.mp (nearest?_isSome one_ne_zero small)
  have same : powerOfTen exponent = rounded := by
    rw [powerOfTen, equal]
    rfl
  rw [same]
  refine ⟨one_le_value_nearest? one_ne_zero large equal, ?_⟩
  rw [← quotient]
  exact value_nearest?_le one_ne_zero large equal

theorem scaleDown?_isSome {magnitude : Magnitude} (finite : magnitude.IsFinite)
    (exponent : Int) : (scaleDown? magnitude exponent).isSome = true := by
  have smaller {magnitude : Magnitude} (finite : magnitude.IsFinite) {power : Nat}
      (bounded : power ≤ greatestPowerOfTen) :
      0 < (powerOfTen power).value ∧
        magnitude.value / (powerOfTen power).value < leastTooLarge := by
    have one := (powerOfTen_spec bounded).1
    exact ⟨lt_of_lt_of_le one_pos one,
      lt_of_le_of_lt (div_le_self magnitude.value_nonneg one) finite.value_lt⟩
  induction magnitude, exponent using scaleDown?.induct with
  | case1 magnitude exponent zero =>
      rw [scaleDown?, if_pos zero]
      rfl
  | case2 magnitude exponent some_ near =>
      have bounded : (-exponent).toNat ≤ greatestPowerOfTen := by omega
      rw [scaleDown?, if_neg some_, if_pos near]
      exact divide?_isSome (smaller finite bounded).1 (smaller finite bounded).2
  | case3 magnitude exponent some_ far induction =>
      obtain ⟨positive, small⟩ := smaller finite (le_refl greatestPowerOfTen)
      obtain ⟨divided, equal⟩ := Option.isSome_iff_exists.mp (divide?_isSome positive small)
      rw [scaleDown?, if_neg some_, if_neg far, equal]
      exact induction divided (isFinite_divide? positive equal)

theorem ofDecimal?_isSome {significand : Nat} {exponent : Int}
    (word : significand < 2 ^ 64)
    (small : (significand : ℚ) * 10 ^ exponent * (1 + 1 / 2 ^ 53) ^ 2 < leastTooLarge) :
    (ofDecimal? significand exponent).isSome = true := by
  have fits : (significand : ℚ) / (1 : Nat) < leastTooLarge := by
    rw [Nat.cast_one, div_one]
    calc (significand : ℚ) < 2 ^ 64 := by exact_mod_cast word
      _ ≤ 2 * 2 ^ 64 := by norm_num
      _ < leastTooLarge := word_lt_leastTooLarge
  obtain ⟨magnitude, equal⟩ := Option.isSome_iff_exists.mp (nearest?_isSome one_ne_zero fits)
  rw [ofDecimal?, equal]
  simp only [Option.bind_eq_bind, Option.bind_some]
  split
  next up =>
    obtain ⟨power, rfl⟩ := Int.eq_ofNat_of_zero_le up
    rw [zpow_natCast] at small
    split
    next => rfl
    next some_ =>
      have one : 1 ≤ significand := by
        apply Nat.pos_of_ne_zero
        rintro rfl
        obtain rfl := Option.some.inj equal
        exact some_ rfl
      have large : (1 : ℚ) ≤ significand / (1 : Nat) := by
        rw [Nat.cast_one, div_one]
        exact_mod_cast one
      have bounded : power ≤ greatestPowerOfTen := by
        by_contra far
        apply lt_irrefl leastTooLarge
        calc leastTooLarge ≤ 10 ^ (greatestPowerOfTen + 1) := leastTooLarge_between.2
          _ ≤ 10 ^ power := pow_le_pow_right₀ (by norm_num) (by omega)
          _ = 1 * 10 ^ power * 1 := by ring
          _ ≤ significand * 10 ^ power * (1 + 1 / 2 ^ 53) ^ 2 := by
              gcongr
              · exact_mod_cast one
              · norm_num
          _ < leastTooLarge := small
      -- The significand and the power of ten are each rounded once before they are multiplied.
      have mantissa := value_nearest?_le one_ne_zero large equal
      have scale := (powerOfTen_spec bounded).2
      rw [Nat.cast_one, div_one] at mantissa
      rw [if_pos (by exact_mod_cast bounded), Int.toNat_natCast]
      apply multiply?_isSome
      calc magnitude.value * (powerOfTen power).value
          ≤ (significand * (1 + 1 / 2 ^ 53)) * (10 ^ power * (1 + 1 / 2 ^ 53)) := by
            gcongr
            exact (powerOfTen power).value_nonneg
        _ = significand * 10 ^ power * (1 + 1 / 2 ^ 53) ^ 2 := by ring
        _ < leastTooLarge := small
  next => exact scaleDown?_isSome (isFinite_nearest? one_ne_zero equal) exponent

end Magnitude

end DeviceAuth
