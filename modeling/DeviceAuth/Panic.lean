/-! Panics: computations that have no result. A panic is not a failure. It is not handed
on to anybody who could judge it, but stops whatever asked for the computation, and what
was done before it stays done. -/

namespace DeviceAuth

/-- What was to be computed: a sum or a difference of words, a span of a number of seconds, or
the moment that comes after a span. -/
inductive Panic where
  | addition
  | subtraction
  | span
  | moment
deriving DecidableEq, Repr

def Panic.message : Panic → String
  | .addition => "attempt to add with overflow"
  | .subtraction => "attempt to subtract with overflow"
  | .span => "cannot convert float seconds to Duration: value is either too big or NaN"
  | .moment => "overflow when adding duration to instant"

/-! ## Words -/

namespace Word

def add (left right : UInt32) : Except Panic UInt32 :=
  if left.toNat + right.toNat < UInt32.size then .ok (left + right) else .error .addition

def subtract (left right : UInt32) : Except Panic UInt32 :=
  if right.toNat ≤ left.toNat then .ok (left - right) else .error .subtraction

variable {left right : UInt32}

theorem add_eq_ok_iff {sum : UInt32} :
    add left right = .ok sum ↔ left.toNat + right.toNat = sum.toNat := by
  have bound := sum.toNat_lt
  rw [add]
  split
  case isTrue fits =>
    rw [Except.ok.injEq, ← UInt32.toNat_inj, UInt32.toNat_add, Nat.mod_eq_of_lt fits]
  case isFalse tooGreat =>
    simp only [reduceCtorEq, false_iff]
    simp only [UInt32.size] at tooGreat
    omega

theorem add_eq_error_iff {panic : Panic} :
    add left right = .error panic ↔
      panic = .addition ∧ UInt32.size ≤ left.toNat + right.toNat := by
  rw [add]
  split
  case isTrue fits => simp [fits]
  case isFalse tooGreat => simp [eq_comm, Nat.le_of_not_lt tooGreat]

theorem subtract_eq_ok_iff {difference : UInt32} :
    subtract left right = .ok difference ↔ left.toNat = difference.toNat + right.toNat := by
  rw [subtract]
  split
  case isTrue fits =>
    rw [Except.ok.injEq, ← UInt32.toNat_inj,
      UInt32.toNat_sub_of_le _ _ (UInt32.le_iff_toNat_le.mpr fits)]
    omega
  case isFalse =>
    simp only [reduceCtorEq, false_iff]
    omega

theorem subtract_eq_error_iff {panic : Panic} :
    subtract left right = .error panic ↔ panic = .subtraction ∧ left.toNat < right.toNat := by
  rw [subtract]
  split
  case isTrue fits => simp [Nat.not_lt.mpr fits]
  case isFalse tooGreat => simp [eq_comm, Nat.lt_of_not_le tooGreat]

end Word

end DeviceAuth
