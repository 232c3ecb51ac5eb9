import DeviceAuth.Backoff
import Mathlib.Algebra.Order.Group.Nat

/-! Delays that double. The nominal delay before an attempt is twice the one before it, up to the
cap. But it is doubled thirty-one times at most: if the base is so short that this does not reach
the cap, later delays stay below it. A machine computes the delay from whole seconds and
nanoseconds, each in a word. It is shown that no word overflows where the machine takes that for
granted, and that a product which is too long for a span is one that the cap cuts off anyway. -/

namespace DeviceAuth

/-! ## Spans in words -/

namespace Span

/-- A span as a machine keeps it: whole seconds, and the nanoseconds beyond them. -/
structure Words where
  seconds : UInt64
  nanoseconds : UInt32
  isPart : nanoseconds.toNat < perSecond

namespace Words

def span (words : Words) : Span := ofParts words.seconds.toNat words.nanoseconds.toNat

theorem nanoseconds_span (words : Words) : words.span.nanoseconds =
    words.seconds.toNat * perSecond + words.nanoseconds.toNat := rfl

def ofSeconds (seconds : UInt64) : Words := ⟨seconds, 0, by decide⟩

def longest : Words := ⟨18446744073709551615, 999999999, by decide⟩

theorem span_longest : longest.span = Span.longest := by decide

theorem span_le_longest (words : Words) : words.span ≤ Span.longest := by
  have seconds := words.seconds.toNat_lt
  have part := words.isPart
  show words.seconds.toNat * perSecond + words.nanoseconds.toNat ≤ UInt64.size * perSecond - 1
  unfold perSecond UInt64.size at *
  omega

/-! ### Comparing -/

def isShorter (left right : Words) : Bool :=
  left.seconds < right.seconds ||
    (left.seconds == right.seconds && left.nanoseconds < right.nanoseconds)

def shorter (left right : Words) : Words := if right.isShorter left then right else left

def longer (left right : Words) : Words := if right.isShorter left then left else right

theorem isShorter_iff {left right : Words} :
    left.isShorter right = true ↔ left.span.nanoseconds < right.span.nanoseconds := by
  have leftPart := left.isPart
  have rightPart := right.isPart
  simp only [isShorter, Bool.or_eq_true, Bool.and_eq_true, decide_eq_true_eq, beq_iff_eq,
    UInt64.lt_iff_toNat_lt, UInt32.lt_iff_toNat_lt, ← UInt64.toNat_inj, nanoseconds_span]
  unfold perSecond at *
  omega

theorem nanoseconds_shorter (left right : Words) : (left.shorter right).span.nanoseconds =
    min left.span.nanoseconds right.span.nanoseconds := by
  unfold shorter
  split
  next less => rw [Nat.min_eq_right (Nat.le_of_lt (isShorter_iff.mp less))]
  next notLess => rw [Nat.min_eq_left (Nat.le_of_not_lt (mt isShorter_iff.mpr notLess))]

theorem nanoseconds_longer (left right : Words) : (left.longer right).span.nanoseconds =
    max left.span.nanoseconds right.span.nanoseconds := by
  unfold longer
  split
  next less => rw [Nat.max_eq_left (Nat.le_of_lt (isShorter_iff.mp less))]
  next notLess => rw [Nat.max_eq_right (Nat.le_of_not_lt (mt isShorter_iff.mpr notLess))]

/-! ### Multiplying -/

def product? (left right : UInt64) : Option UInt64 :=
  if left.toNat * right.toNat < UInt64.size then some (left * right) else none

def sum? (left right : UInt64) : Option UInt64 :=
  if left.toNat + right.toNat < UInt64.size then some (left + right) else none

theorem product?_cases (left right : UInt64) :
    (∃ product, product? left right = some product ∧
      product.toNat = left.toNat * right.toNat) ∨
    (product? left right = none ∧ UInt64.size ≤ left.toNat * right.toNat) := by
  unfold product?
  split
  next fits =>
    exact .inl ⟨_, rfl, (UInt64.toNat_mul left right).trans (Nat.mod_eq_of_lt fits)⟩
  next large => exact .inr ⟨rfl, Nat.le_of_not_lt large⟩

theorem sum?_cases (left right : UInt64) :
    (∃ sum, sum? left right = some sum ∧ sum.toNat = left.toNat + right.toNat) ∨
    (sum? left right = none ∧ UInt64.size ≤ left.toNat + right.toNat) := by
  unfold sum?
  split
  next fits =>
    exact .inl ⟨_, rfl, (UInt64.toNat_add left right).trans (Nat.mod_eq_of_lt fits)⟩
  next large => exact .inr ⟨rfl, Nat.le_of_not_lt large⟩

def perSecondWord : UInt64 := 1000000000

theorem toNat_remainder (total : UInt64) :
    (total % perSecondWord).toUInt32.toNat = total.toNat % perSecond := by
  have small : total.toNat % perSecond < UInt32.size :=
    Nat.lt_trans (Nat.mod_lt _ (by decide)) (by decide)
  exact Nat.mod_eq_of_lt small

theorem isPart_remainder (total : UInt64) :
    (total % perSecondWord).toUInt32.toNat < perSecond := by
  rw [toNat_remainder]
  exact Nat.mod_lt _ (by decide)

/-- The nanoseconds as often as they are taken. That a word holds them is taken for granted. -/
def manyNanoseconds (words : Words) (factor : UInt32) : UInt64 :=
  words.nanoseconds.toUInt64 * factor.toUInt64

def manySeconds? (words : Words) (factor : UInt32) : Option UInt64 := do
  let seconds ← product? words.seconds factor.toUInt64
  sum? seconds (words.manyNanoseconds factor / perSecondWord)

def times? (words : Words) (factor : UInt32) : Option Words := do
  let seconds ← words.manySeconds? factor
  some ⟨seconds, (words.manyNanoseconds factor % perSecondWord).toUInt32, isPart_remainder _⟩

section Multiple

variable (words : Words) (factor : UInt32)

theorem toNat_manyNanoseconds :
    (words.manyNanoseconds factor).toNat = words.nanoseconds.toNat * factor.toNat := by
  have bound : words.nanoseconds.toNat * factor.toNat < UInt64.size :=
    calc words.nanoseconds.toNat * factor.toNat
        ≤ perSecond * UInt32.size :=
          Nat.mul_le_mul (Nat.le_of_lt words.isPart) (Nat.le_of_lt factor.toNat_lt)
      _ < UInt64.size := by decide
  rw [manyNanoseconds, UInt64.toNat_mul, UInt32.toNat_toUInt64, UInt32.toNat_toUInt64]
  exact Nat.mod_eq_of_lt bound

theorem manySeconds?_cases :
    let seconds := words.seconds.toNat * factor.toNat +
      (words.manyNanoseconds factor).toNat / perSecond
    (∃ word, words.manySeconds? factor = some word ∧ word.toNat = seconds) ∨
    (words.manySeconds? factor = none ∧ UInt64.size ≤ seconds) := by
  intro seconds
  have carried : (words.manyNanoseconds factor / perSecondWord).toNat =
      (words.manyNanoseconds factor).toNat / perSecond := UInt64.toNat_div _ _
  have multiplied := product?_cases words.seconds factor.toUInt64
  rw [UInt32.toNat_toUInt64] at multiplied
  unfold manySeconds?
  rcases multiplied with ⟨product, found, number⟩ | ⟨none, large⟩
  · have added := sum?_cases product (words.manyNanoseconds factor / perSecondWord)
    rw [number, carried] at added
    simpa only [found, Option.bind_eq_bind, Option.bind_some] using added
  · right
    rw [none]
    exact ⟨rfl, Nat.le_trans large (Nat.le_add_right _ _)⟩

theorem nanoseconds_times : words.span.nanoseconds * factor.toNat =
    (words.seconds.toNat * factor.toNat +
      (words.manyNanoseconds factor).toNat / perSecond) * perSecond +
        (words.manyNanoseconds factor).toNat % perSecond := by
  have parts := Nat.div_add_mod' (words.manyNanoseconds factor).toNat perSecond
  rw [nanoseconds_span, Nat.add_mul, Nat.add_mul, Nat.add_assoc, parts, toNat_manyNanoseconds,
    Nat.mul_right_comm]

theorem times?_cases :
    (∃ multiple, words.times? factor = some multiple ∧
      multiple.span.nanoseconds = words.span.nanoseconds * factor.toNat) ∨
    (words.times? factor = none ∧
      Span.longest.nanoseconds < words.span.nanoseconds * factor.toNat) := by
  rw [nanoseconds_times]
  unfold times?
  rcases words.manySeconds?_cases factor with ⟨seconds, found, number⟩ | ⟨none, large⟩
  · left
    rw [found]
    refine ⟨_, rfl, ?_⟩
    rw [nanoseconds_span, number, toNat_remainder]
  · right
    rw [none]
    refine ⟨rfl, ?_⟩
    have size : Span.longest.nanoseconds + 1 = UInt64.size * perSecond := by decide
    have reached := Nat.mul_le_mul_right perSecond large
    omega

end Multiple

def timesAtMost (words : Words) (factor : UInt32) : Words := (words.times? factor).getD longest

theorem nanoseconds_timesAtMost (words : Words) (factor : UInt32) :
    (words.timesAtMost factor).span.nanoseconds =
      min (words.span.nanoseconds * factor.toNat) Span.longest.nanoseconds := by
  rcases words.times?_cases factor with ⟨multiple, multiplied, number⟩ | ⟨none, tooLong⟩
  · have bound : multiple.span.nanoseconds ≤ Span.longest.nanoseconds := multiple.span_le_longest
    rw [timesAtMost, multiplied, Option.getD_some, ← number, Nat.min_eq_left bound]
  · rw [timesAtMost, none, Option.getD_none, span_longest, Nat.min_eq_right (Nat.le_of_lt tooLong)]

end Words

end Span

/-! ## Nominal delays -/

namespace Backoff

theorem nanoseconds_nominal (base cap : Span) (jitter : Float32) (attempt : Nat) :
    ((create base cap jitter).nominal attempt).nanoseconds =
      min (base.nanoseconds * 2 ^ min attempt greatestDoublings)
        (max cap.nanoseconds base.nanoseconds) := by
  have ceiling : (create base cap jitter).cap.nanoseconds =
      max cap.nanoseconds base.nanoseconds := by
    unfold create
    dsimp only
    split
    next less => rw [Nat.max_eq_right (Nat.le_of_lt less)]
    next notLess => rw [Nat.max_eq_left (Nat.le_of_not_lt notLess)]
  rw [← ceiling, ← Nat.one_shiftLeft]
  rfl

def bit? (place : UInt32) : Option UInt32 := if place < 32 then some (1 <<< place) else none

theorem bit?_cases {place : UInt32} (inside : place.toNat < 32) :
    ∃ bit, bit? place = some bit ∧ bit.toNat = 2 ^ place.toNat := by
  refine ⟨1 <<< place, if_pos (UInt32.lt_iff_toNat_lt.mpr inside), ?_⟩
  have fits : 2 ^ place.toNat < 2 ^ 32 := Nat.pow_lt_pow_right (by decide) inside
  rw [UInt32.toNat_shiftLeft, Nat.mod_eq_of_lt inside, UInt32.toNat_one, Nat.one_shiftLeft,
    Nat.mod_eq_of_lt fits]

def placeOf (attempt : UInt32) : UInt32 := if attempt < 31 then attempt else 31

theorem toNat_placeOf (attempt : UInt32) :
    (placeOf attempt).toNat = min attempt.toNat greatestDoublings := by
  unfold placeOf greatestDoublings
  split
  next less =>
    have less := UInt32.lt_iff_toNat_lt.mp less
    exact (Nat.min_eq_left (Nat.le_of_lt less)).symm
  next notLess =>
    have reached := UInt32.le_iff_toNat_le.mp (UInt32.not_lt.mp notLess)
    exact (Nat.min_eq_right reached).symm

/-- The nominal delay as a machine computes it. -/
def nominalInWords (base cap : Span.Words) (attempt : UInt32) : Span.Words :=
  let factor := (bit? (placeOf attempt)).getD 4294967295
  (base.timesAtMost factor).shorter (cap.longer base)

theorem span_nominalInWords (base cap : Span.Words) (jitter : Float32) (attempt : UInt32) :
    (nominalInWords base cap attempt).span =
      (create base.span cap.span jitter).nominal attempt.toNat := by
  have inside : (placeOf attempt).toNat < 32 := by
    rw [toNat_placeOf]
    exact Nat.lt_succ_of_le (Nat.min_le_right _ _)
  rcases bit?_cases inside with ⟨bit, found, number⟩
  rw [toNat_placeOf] at number
  have ceiling : max cap.span.nanoseconds base.span.nanoseconds ≤ Span.longest.nanoseconds :=
    Nat.max_le.mpr ⟨cap.span_le_longest, base.span_le_longest⟩
  have same : (nominalInWords base cap attempt).span.nanoseconds =
      ((create base.span cap.span jitter).nominal attempt.toNat).nanoseconds := by
    rw [nanoseconds_nominal, nominalInWords, found, Option.getD_some,
      Span.Words.nanoseconds_shorter, Span.Words.nanoseconds_timesAtMost,
      Span.Words.nanoseconds_longer, number, Nat.min_assoc, Nat.min_eq_right ceiling]
  exact congrArg Span.mk same

/-! ## Doubling -/

/-- Up to a ceiling, it makes no difference that an amount is not doubled more often than a limit
allows, unless the limit is passed before the ceiling is reached. -/
theorem min_limited_iff {amount ceiling limit count : Nat} :
    min (amount * 2 ^ min count limit) ceiling = min (amount * 2 ^ count) ceiling ↔
      count ≤ limit ∨ amount = 0 ∨ ceiling ≤ amount * 2 ^ limit := by
  by_cases few : count ≤ limit
  case pos => simp [few]
  case neg =>
    have more : limit + 1 ≤ count := Nat.lt_of_not_le few
    have twice : amount * 2 ^ limit * 2 ≤ amount * 2 ^ count :=
      calc amount * 2 ^ limit * 2 = amount * 2 ^ (limit + 1) := by
            rw [Nat.mul_assoc, Nat.pow_succ]
        _ ≤ amount * 2 ^ count := Nat.mul_le_mul_left _ (Nat.pow_le_pow_right (by decide) more)
    have zero_iff : amount = 0 ↔ amount * 2 ^ limit = 0 := by
      rw [Nat.mul_eq_zero, or_iff_left (Nat.ne_of_gt (Nat.two_pow_pos limit))]
    have zero : amount = 0 → amount * 2 ^ count = 0 := by
      rintro rfl
      exact Nat.zero_mul _
    rw [zero_iff] at zero ⊢
    rw [Nat.min_eq_right (Nat.le_of_not_le few), or_iff_right few]
    omega

section Nominal

variable (base cap : Span) (jitter : Float32)

theorem nominal_mono {attempt later : Nat} (before : attempt ≤ later) :
    (create base cap jitter).nominal attempt ≤ (create base cap jitter).nominal later := by
  show ((create base cap jitter).nominal attempt).nanoseconds ≤
    ((create base cap jitter).nominal later).nanoseconds
  have powers : 2 ^ min attempt greatestDoublings ≤ 2 ^ min later greatestDoublings := by
    apply Nat.pow_le_pow_right (by decide)
    omega
  have products := Nat.mul_le_mul_left base.nanoseconds powers
  rw [nanoseconds_nominal, nanoseconds_nominal]
  omega

theorem base_le_nominal (attempt : Nat) : base ≤ (create base cap jitter).nominal attempt := by
  show base.nanoseconds ≤ ((create base cap jitter).nominal attempt).nanoseconds
  have product : base.nanoseconds * 1 ≤ base.nanoseconds * 2 ^ min attempt greatestDoublings :=
    Nat.mul_le_mul_left _ (Nat.two_pow_pos _)
  rw [nanoseconds_nominal]
  omega

theorem nominal_of_greatestDoublings_le {attempt : Nat} (many : greatestDoublings ≤ attempt) :
    (create base cap jitter).nominal attempt =
      (create base cap jitter).nominal greatestDoublings := by
  unfold nominal
  rw [Nat.min_eq_right many, Nat.min_self]

end Nominal

/-- Delays double up to the cap. For any base, any cap and any attempt the nominal delay is
exactly the base doubled with every attempt, up to the cap, unless the attempt is past the
thirty-first and not even that one reaches the cap; from the thirty-first on all delays are the
same. In any case no later attempt has a shorter delay, no delay is below the base or above the
cap, and it is what a machine computes in words. -/
theorem doubles_iff (base cap : Span.Words) (jitter : Float32) (attempt : UInt32) :
    let delay (attempt : UInt32) :=
      ((create base.span cap.span jitter).nominal attempt.toNat).nanoseconds
    let ceiling := max cap.span.nanoseconds base.span.nanoseconds
    (delay attempt = min (base.span.nanoseconds * 2 ^ attempt.toNat) ceiling ↔
      attempt ≤ 31 ∨ base.span.nanoseconds = 0 ∨
        ceiling ≤ base.span.nanoseconds * 2 ^ 31) ∧
    (31 ≤ attempt → delay attempt = delay 31) ∧
    (∀ later, attempt ≤ later → delay attempt ≤ delay later) ∧
    base.span.nanoseconds ≤ delay attempt ∧ delay attempt ≤ ceiling ∧
    (nominalInWords base cap attempt).span.nanoseconds = delay attempt := by
  intro delay ceiling
  have exact (attempt : UInt32) : delay attempt =
      min (base.span.nanoseconds * 2 ^ min attempt.toNat greatestDoublings) ceiling :=
    nanoseconds_nominal base.span cap.span jitter attempt.toNat
  refine ⟨?_, ?_, ?_, base_le_nominal base.span cap.span jitter attempt.toNat, ?_, ?_⟩
  · rw [exact, min_limited_iff, UInt32.le_iff_toNat_le]
    rfl
  · intro many
    exact congrArg Span.nanoseconds
      (nominal_of_greatestDoublings_le base.span cap.span jitter (UInt32.le_iff_toNat_le.mp many))
  · intro later before
    exact nominal_mono base.span cap.span jitter (UInt32.le_iff_toNat_le.mp before)
  · rw [exact]
    exact Nat.min_le_right _ _
  · rw [span_nominalInWords base cap jitter]

theorem doubles_iff_halfMinute :
    let base := Span.Words.ofSeconds 1
    let cap := Span.Words.ofSeconds 30
    let delay (attempt : UInt32) :=
      ((create base.span cap.span 0.25).nominal attempt.toNat).nanoseconds
    delay 4 = 16000000000 ∧ delay 40 = 30000000000 ∧ delay 40 = delay 31 ∧
      delay 4 ≤ delay 40 ∧ (nominalInWords base cap 40).span.nanoseconds = delay 40 := by
  intro base cap delay
  have early := doubles_iff base cap 0.25 4
  have late := doubles_iff base cap 0.25 40
  have doubled := early.1.mpr (.inl (by decide))
  have capped := late.1.mpr (.inr (.inr (by decide)))
  exact ⟨doubled.trans (by decide), capped.trans (by decide), late.2.1 (by decide),
    early.2.2.1 40 (by decide), late.2.2.2.2.2⟩

/-- A base of one nanosecond is accepted together with the usual cap of half a minute, but it is
not brought up to it: the delay before the thirty-third attempt is no longer the double. -/
theorem not_doubled_shortBase :
    let settings : Settings := { backoffBase := ⟨1⟩ }
    settings.check = .ok () ∧
      ((ofSettings settings).nominal 32).nanoseconds ≠
        min (settings.backoffBase.nanoseconds * 2 ^ 32)
          (max settings.backoffCap.nanoseconds settings.backoffBase.nanoseconds) := by
  intro settings
  exact ⟨by decide +kernel, by decide⟩

end Backoff

end DeviceAuth
