import DeviceAuth.Proofs.Activity.Steps

/-! The calls of an activity. A move begins a call or brings one further, or leaves all
calls as they are; and a call that begins gets a number that no call had before. -/

namespace DeviceAuth

def Move.call? {σ : Type} : Move σ → Option Nat
  | .enter call => some call
  | .release call => some call
  | .sent call _ => some call
  | .report call => some call
  | .drop call _ => some call
  | .arrange call => some call
  | _ => none

namespace Activity

variable {σ : Type} {activity after : Activity σ} {call : Nat} {move : Move σ}

def Numbered (activity : Activity σ) : Prop :=
  ∀ call, activity.nextCall ≤ call → activity.calls call = none

theorem Numbered.lt (numbered : activity.Numbered) {stage : Stage}
    (present : activity.calls call = some stage) : call < activity.nextCall := by
  by_contra beyond
  rw [numbered call (Nat.le_of_not_lt beyond)] at present
  cases present

def Quiet (activity : Activity σ) : Prop := ∀ call, activity.calls call = none

theorem Numbered.quiet (numbered : activity.Numbered)
    (none : ∀ call < activity.nextCall, activity.calls call = none) : activity.Quiet := by
  intro call
  rcases Nat.lt_or_ge call activity.nextCall with old | beyond
  · exact none call old
  · exact numbered call beyond

/-! ## Moves -/

inductive Begins (activity : Activity σ) : Move σ → Prop where
  | called : Begins activity .refresh
  | launched {task : Nat} (waits : activity.keeper.duty? task = some .refresh) :
      Begins activity (.begin task)

/-- What a move does to the calls. Only a call that has just taken the flag begins with
it, and no call gets the flag later. -/
inductive CallEffect (activity : Activity σ) (move : Move σ) (after : Activity σ) : Prop where
  | same (calls : after.calls = activity.calls) (next : after.nextCall = activity.nextCall)
  | began {stage : Stage} (calls : after.calls = (activity.beginCall stage).calls)
      (next : after.nextCall = activity.nextCall + 1) (other : stage ≠ .entering ∧ stage ≠ .refused)
  | took (free : activity.keeper.inFlight = false) (taken : after.keeper.inFlight = true)
      (calls : after.calls = (activity.beginCall .entering).calls)
      (next : after.nextCall = activity.nextCall + 1) (begins : activity.Begins move)
  | moved {call : Nat} {before : Stage} {stage : Option Stage} (own : move.call? = some call)
      (present : activity.calls call = some before)
      (calls : after.calls = (activity.setCall call stage).calls)
      (next : after.nextCall = activity.nextCall)
      (flagged : stage = some .entering ∨ stage = some .refused → before = .entering)

theorem callEffect_goOn (answer : Except Failure Bool × Device σ) :
    CallEffect activity move (activity.goOn answer) := by
  rcases answer with ⟨_ | _ | _, device⟩
  · exact .same rfl rfl
  · exact .same rfl rfl
  · exact .began rfl rfl (by simp)

theorem callEffect_takeFlag : CallEffect activity .refresh activity.takeFlag := by
  rcases activity.takeFlag_cases with ⟨_, same⟩ | ⟨_, free, began⟩
  · rw [same]
    exact .same rfl rfl
  · rw [began]
    rcases Keeper.takeFlag?_some free with ⟨unflagged, rfl⟩
    exact .took unflagged rfl rfl rfl .called

variable [Backend σ]

theorem step_callEffect (move : Move σ) (activity : Activity σ) :
    activity.CallEffect move (activity.step move) := by
  cases move with
  | load => exact callEffect_goOn _
  | hold => exact callEffect_goOn _
  | allow => exact .began rfl rfl (by simp)
  | answer => exact callEffect_goOn _
  | refresh => exact callEffect_takeFlag
  | begin task =>
      simp only [step]
      split
      next waits =>
        rcases (activity.onKeeper (Keeper.endTask task)).takeFlag_cases with
          ⟨_, same⟩ | ⟨_, free, began⟩
        · rw [same]
          exact .same rfl rfl
        · rw [began]
          rcases Keeper.takeFlag?_some free with ⟨unflagged, rfl⟩
          exact .took unflagged rfl rfl rfl (.launched waits)
      next => exact .same rfl rfl
  | expire =>
      simp only [step]
      split
      · exact .began rfl rfl (by simp)
      · exact .same rfl rfl
  | enter call =>
      simp only [step]
      split
      next entering =>
        rcases activity.enter_cases call with ⟨refused, _⟩ | ⟨_, _, _, _, entered⟩
        · rw [refused]
          exact .moved rfl entering rfl rfl fun _ => rfl
        · rw [entered]
          exact .moved rfl entering rfl rfl fun _ => rfl
      next => exact .same rfl rfl
  | release =>
      simp only [step]
      split
      next refused => exact .moved rfl refused rfl rfl (by simp)
      next => exact .same rfl rfl
  | sent =>
      simp only [step]
      split
      next sending => exact .moved rfl sending rfl rfl (by simp)
      next sending => exact .moved rfl sending rfl rfl (by simp)
      next => exact .same rfl rfl
  | report =>
      simp only [step]
      split
      next failing => exact .moved rfl failing rfl rfl (by simp)
      next => exact .same rfl rfl
  | drop =>
      simp only [step]
      split
      next entering => exact .moved rfl entering rfl rfl (by simp)
      next sending =>
        split
        · exact .moved rfl sending rfl rfl (by simp)
        · exact .moved rfl sending rfl rfl (by simp)
      next failing => exact .moved rfl failing rfl rfl (by simp)
      next => exact .same rfl rfl
  | arrange =>
      simp only [step]
      split
      next scheduling => exact .moved rfl scheduling rfl rfl (by simp)
      next => exact .same rfl rfl
  | _ => exact .same rfl rfl

theorem calls_step_other (move : Move σ) (old : call < activity.nextCall)
    (other : move.call? ≠ some call) :
    (activity.step move).calls call = activity.calls call := by
  cases activity.step_callEffect move with
  | same calls => rw [calls]
  | began calls =>
      rw [calls]
      exact calls_beginCall_of_ne _ (Nat.ne_of_lt old)
  | took _ _ calls =>
      rw [calls]
      exact calls_beginCall_of_ne _ (Nat.ne_of_lt old)
  | moved own _ calls =>
      rw [calls]
      apply calls_setCall_other
      rintro rfl
      exact other own

theorem entering_of_step (entering : (activity.step move).calls call = some .entering) :
    activity.calls call = some .entering ∨ call = activity.nextCall ∧ activity.Begins move := by
  cases activity.step_callEffect move with
  | same calls => exact .inl (calls ▸ entering)
  | began calls _ other =>
      rw [calls] at entering
      by_cases fresh : call = activity.nextCall
      · rw [fresh, calls_beginCall_next] at entering
        exact absurd (Option.some.inj entering) other.1
      · rw [calls_beginCall_of_ne _ fresh] at entering
        exact .inl entering
  | took _ _ calls _ begins =>
      rw [calls] at entering
      by_cases fresh : call = activity.nextCall
      · exact .inr ⟨fresh, begins⟩
      · rw [calls_beginCall_of_ne _ fresh] at entering
        exact .inl entering
  | @moved own _ _ _ present calls _ flagged =>
      rw [calls] at entering
      by_cases same : call = own
      · rw [same, calls_setCall_same] at entering
        rw [same, present, flagged (.inl entering)]
        exact .inl rfl
      · rw [calls_setCall_other _ same] at entering
        exact .inl entering

theorem entering_of_run {moves : List (Move σ)}
    (entering : (activity.run moves).calls call = some .entering) :
    activity.calls call = some .entering ∨ ∃ first move last, moves = first ++ move :: last ∧
      (activity.run first).nextCall = call ∧ (activity.run first).Begins move := by
  induction moves generalizing activity with
  | nil => exact .inl entering
  | cons move rest induction =>
      rcases induction entering with old | ⟨first, later, last, rfl, number, begins⟩
      · rcases entering_of_step old with old | ⟨rfl, begins⟩
        · exact .inl old
        · exact .inr ⟨[], move, rest, rfl, rfl, begins⟩
      · exact .inr ⟨move :: first, later, last, rfl, number, begins⟩

theorem Numbered.step (numbered : activity.Numbered) (move : Move σ) :
    (activity.step move).Numbered := by
  intro call beyond
  cases activity.step_callEffect move with
  | same calls next =>
      rw [next] at beyond
      rw [calls]
      exact numbered call beyond
  | began calls next =>
      rw [next] at beyond
      rw [calls, calls_beginCall_of_ne _ (Nat.ne_of_gt beyond)]
      exact numbered call (Nat.le_of_lt beyond)
  | took _ _ calls next =>
      rw [next] at beyond
      rw [calls, calls_beginCall_of_ne _ (Nat.ne_of_gt beyond)]
      exact numbered call (Nat.le_of_lt beyond)
  | moved own present calls next =>
      rw [next] at beyond
      rw [calls, calls_setCall_other]
      · exact numbered call beyond
      · exact Nat.ne_of_gt (Nat.lt_of_lt_of_le (numbered.lt present) beyond)

theorem numbered_run (settings : Settings) (address : Address) (now : UInt32)
    (random : Octets) (store : σ) (moves : List (Move σ)) :
    ((start settings address now random store).run moves).Numbered :=
  run_preserves Numbered (fun move _ _ numbered => numbered.step move) _ fun _ _ => rfl

end Activity

end DeviceAuth
