import DeviceAuth.Proofs.Provisioning.Failures

/-! The time of a session. It runs from the last start that succeeded. When it is up, the
next packet, check or watchdog ends the session, and until then none of them does, not even
a watchdog that was launched for a session before. So a start leads to the end of the time at
most once, and whoever says that it has ended the session has done so.

The calls may be made at any moments, and a watchdog may wake early or late. -/

namespace DeviceAuth

namespace Provisioning

namespace Progress

variable {σ : Type} {settings : Settings} {now : Span} {before after : Progress} {call : Call σ}

theorem Turns.since (turns : Turns settings now before call after)
    (running : after.stage.isRunning = true) :
    (call = .start ∧ before.stage.isRunning = false ∧ after.startedAt = some now) ∨
      (before.stage.isRunning = true ∧ after.startedAt = before.startedAt) := by
  cases turns with
  | start resting => exact .inl ⟨rfl, resting, rfl⟩
  | connect advertising => exact .inr ⟨by rw [advertising]; rfl, rfl⟩
  | disconnect takes => exact .inr ⟨isRunning_of_takesPackets takes, rfl⟩
  | expire => cases running
  | accept => cases running
  | reject examined => exact .inr ⟨isRunning_of_examines examined, rfl⟩
  | fail => cases running
  | stop => cases running
  | _ => exact .inr ⟨running, rfl⟩

theorem isRunning_of_isOverdue (overdue : before.isOverdue settings now = true) :
    before.stage.isRunning = true := by
  unfold isOverdue at overdue
  split at overdue
  · cases overdue
  · exact (Bool.and_eq_true_iff.mp overdue).1

/-! ## Counting -/

def timeouts (progress : Progress) : Nat := progress.events.count .timedOut

/-- How often this can still be told before the next start. -/
def timeoutsLeft (progress : Progress) : Nat := if progress.stage.isRunning then 1 else 0

theorem timeoutsLeft_le_one (progress : Progress) : progress.timeoutsLeft ≤ 1 := by
  unfold timeoutsLeft
  split <;> omega

theorem timeoutsLeft_of_running (running : before.stage.isRunning = true) :
    before.timeoutsLeft = 1 := if_pos running

theorem timeouts_of_told (event : Event) (told : after.events = before.events ++ [event])
    (other : event ≠ .timedOut) : after.timeouts = before.timeouts := by
  unfold timeouts
  rw [told, List.count_append, List.count_singleton, if_neg (by simpa using other)]
  rfl

theorem timeouts_expired (progress : Progress) :
    progress.expired.timeouts = progress.timeouts + 1 := by
  simp [timeouts, expired]

theorem Turns.expired_or_timeouts_eq (turns : Turns settings now before call after) :
    (before.isOverdue settings now = true ∧ after = before.expired) ∨
      after.timeouts = before.timeouts := by
  cases turns with
  | expire overdue => exact .inl ⟨overdue, rfl⟩
  | start => exact .inr (timeouts_of_told .started rfl nofun)
  | accept => exact .inr (timeouts_of_told .succeeded rfl nofun)
  | fail rejection => exact .inr (timeouts_of_told (.failed rejection) rfl nofun)
  | stop => exact .inr (timeouts_of_told .stopped rfl nofun)
  | _ => exact .inr rfl

theorem Turns.timeouts_le (turns : Turns settings now before call after)
    (goesOn : call = .start → before.stage.isRunning = true) :
    after.timeouts + after.timeoutsLeft ≤ before.timeouts + before.timeoutsLeft := by
  rcases turns.expired_or_timeouts_eq with ⟨overdue, rfl⟩ | same
  · rw [timeouts_expired, timeoutsLeft_of_running (isRunning_of_isOverdue overdue)]
    exact Nat.le_refl _
  · rw [same]
    apply Nat.add_le_add_left
    cases running : after.stage.isRunning with
    | false => simp [timeoutsLeft, running]
    | true =>
        rcases turns.since running with ⟨starting, resting, _⟩ | ⟨ran, _⟩
        · rw [goesOn starting] at resting
          cases resting
        · rw [timeoutsLeft_of_running ran]
          exact timeoutsLeft_le_one after

end Progress

namespace Session

variable {settings : Settings} {now : Span} {session : Session}

theorem isRunning_of_isOverdue (overdue : session.isOverdue settings now = true) :
    session.stage.isRunning = true := by
  have same : session.progress.isOverdue settings now = true := overdue
  exact Progress.isRunning_of_isOverdue same

theorem isOverdue_iff_of_started {start : Span} (running : session.stage.isRunning = true)
    (started : session.startedAt = some start) :
    session.isOverdue settings now = true ↔ start + settings.provisioningTimeout ≤ now := by
  simp only [isOverdue, started, running, Bool.true_and, decide_eq_true_eq]
  rfl

/-! ## Who ends a session -/

def awaken (id : Nat) (session : Session) : Session :=
  { session with watchdogs := session.watchdogs.filter fun watchdog => watchdog.id ≠ id }

theorem wakeWatchdog_eq (settings : Settings) (now : Span) (id : Nat) (session : Session) :
    session.wakeWatchdog settings now id =
      if session.watchdogs.any fun watchdog => watchdog.id == id then
        match (session.awaken id).checkTimeout settings now with
        | (true, session) => (some .timeout, session)
        | (false, session) => (none, session)
      else (none, session) := rfl

theorem wakeWatchdog_cases (settings : Settings) (now : Span) (id : Nat) (session : Session) :
    ((session.wakeWatchdog settings now id).1 = none ∧
        (session.wakeWatchdog settings now id).2.progress = session.progress) ∨
      (session.isOverdue settings now = true ∧
        (session.wakeWatchdog settings now id).1 = some .timeout ∧
        (session.wakeWatchdog settings now id).2.progress = session.progress.expired) := by
  rw [wakeWatchdog_eq]
  split
  case isFalse => exact .inl ⟨rfl, rfl⟩
  case isTrue =>
    have same : (session.awaken id).isOverdue settings now = session.isOverdue settings now := rfl
    cases due : session.isOverdue settings now with
    | true =>
        obtain ⟨ended, expired⟩ := checkTimeout_of_overdue (same.trans due)
        split
        next equal =>
          rw [equal] at expired
          exact .inr ⟨rfl, rfl, expired⟩
        next equal =>
          rw [equal] at ended
          cases ended
    | false =>
        rw [checkTimeout_of_not (same.trans due)]
        exact .inl ⟨rfl, rfl⟩

end Session

namespace Call

variable {σ : Type}

def watchesTime : Call σ → Bool
  | .checkTimeout => true
  | .wakeWatchdog _ => true
  | _ => false

end Call

namespace Sitting

variable {σ : Type} {settings : Settings}

/-- Whether a call says that it has ended the session: a check to its caller, a watchdog to
the peer. A watchdog that is dismissed when its moment has come may wake all the same; what it
does then is a check. -/
def saysEnded (settings : Settings) (timed : TimedCall σ) (sitting : Sitting σ) : Bool :=
  match timed.call with
  | .checkTimeout => (sitting.session.checkTimeout settings timed.now).1
  | .wakeWatchdog id => (sitting.session.wakeWatchdog settings timed.now id).1.isSome
  | _ => false

theorem watchesTime_of_saysEnded {timed : TimedCall σ} {sitting : Sitting σ}
    (told : sitting.saysEnded settings timed = true) : timed.call.watchesTime = true := by
  rcases timed with ⟨now, call⟩
  cases call with
  | checkTimeout => rfl
  | wakeWatchdog id => rfl
  | _ => cases told

variable [Backend σ]

theorem step_watch {timed : TimedCall σ} (watches : timed.call.watchesTime = true)
    (sitting : Sitting σ) :
    (sitting.saysEnded settings timed = false ∧
        (sitting.step settings timed).progress = sitting.progress) ∨
      (sitting.session.isOverdue settings timed.now = true ∧
        sitting.saysEnded settings timed = true ∧
        (sitting.step settings timed).progress = sitting.progress.expired) := by
  rcases timed with ⟨now, call⟩
  cases call with
  | checkTimeout =>
      cases due : sitting.session.isOverdue settings now with
      | true =>
          obtain ⟨ended, expired⟩ := Session.checkTimeout_of_overdue due
          exact .inr ⟨rfl, ended, expired⟩
      | false =>
          have same := Session.checkTimeout_of_not due
          exact .inl ⟨congrArg Prod.fst same, congrArg (fun answer => answer.2.progress) same⟩
  | wakeWatchdog id =>
      rcases Session.wakeWatchdog_cases settings now id sitting.session with
        ⟨silent, same⟩ | ⟨due, told, expired⟩
      · exact .inl ⟨congrArg Option.isSome silent, same⟩
      · exact .inr ⟨due, congrArg Option.isSome told, expired⟩
  | _ => cases watches

/-! ## Runs -/

def StartedLast (settings : Settings) (course : Course σ) (sitting : Sitting σ)
    (moment : Span) : Prop :=
  ∃ front back, course = front ++ ⟨moment, .start⟩ :: back ∧
    ((sitting.run settings front).session.start moment).1 = .ok () ∧
    ((sitting.run settings front).step settings ⟨moment, .start⟩).Unrestarted settings back

theorem StartedLast.cons {course : Course σ} {timed : TimedCall σ} {sitting : Sitting σ}
    {moment : Span} (later : StartedLast settings course (sitting.step settings timed) moment) :
    StartedLast settings (timed :: course) sitting moment := by
  obtain ⟨front, back, rfl, started, goesOn⟩ := later
  exact ⟨timed :: front, back, rfl, started, goesOn⟩

omit [Backend σ] in
theorem restarts_iff {timed : TimedCall σ} {sitting : Sitting σ} :
    sitting.Restarts timed ↔ timed.call = .start ∧ sitting.session.stage.isRunning = false := by
  rcases timed with ⟨now, call⟩
  cases call with
  | start => simp [Restarts, Session.start_ok_iff]
  | _ => simp [Restarts]

theorem since_run (course : Course σ) {sitting : Sitting σ}
    (running : (sitting.run settings course).session.stage.isRunning = true) :
    (∃ moment, StartedLast settings course sitting moment ∧
        (sitting.run settings course).session.startedAt = some moment) ∨
      (sitting.Unrestarted settings course ∧ sitting.session.stage.isRunning = true ∧
        (sitting.run settings course).session.startedAt = sitting.session.startedAt) := by
  induction course generalizing sitting with
  | nil => exact .inr ⟨trivial, running, rfl⟩
  | cons timed rest induction =>
      rcases induction running with ⟨moment, last, started⟩ | ⟨goesOn, ran, kept⟩
      · exact .inl ⟨moment, last.cons, started⟩
      · rcases (step_turns settings timed sitting).since ran with
          ⟨starting, resting, begun⟩ | ⟨ranBefore, same⟩
        · obtain ⟨now, _⟩ := timed
          cases starting
          left
          refine ⟨now, ⟨[], rest, rfl, ?_, goesOn⟩, kept.trans begun⟩
          exact (Session.start_ok_iff now sitting.session).mpr resting
        · right
          refine ⟨⟨fun restarts => ?_, goesOn⟩, ranBefore, kept.trans same⟩
          have resting := (restarts_iff.mp restarts).2
          exact Bool.false_ne_true (resting.symm.trans ranBefore)

theorem timeouts_run {course : Course σ} {sitting : Sitting σ}
    (unrestarted : sitting.Unrestarted settings course) :
    (sitting.run settings course).progress.timeouts +
        (sitting.run settings course).progress.timeoutsLeft ≤
      sitting.progress.timeouts + sitting.progress.timeoutsLeft := by
  induction course generalizing sitting with
  | nil => exact Nat.le_refl _
  | cons timed rest induction =>
      refine Nat.le_trans (induction unrestarted.2) ?_
      apply (step_turns settings timed sitting).timeouts_le
      intro starting
      cases running : sitting.session.stage.isRunning with
      | true => exact running
      | false => exact absurd (restarts_iff.mpr ⟨starting, running⟩) unrestarted.1

/-- How a session keeps its time, after any calls. -/
structure KeepsTime (settings : Settings) (course : Course σ) (sitting : Sitting σ) : Prop where
  since : (sitting.run settings course).session.stage.isRunning = true →
    ∃ start, StartedLast settings course sitting start ∧
      (sitting.run settings course).session.startedAt = some start
  late : (sitting.run settings course).session.stage.isRunning = true → ∀ start now octets,
    (sitting.run settings course).session.startedAt = some start →
    start + settings.provisioningTimeout ≤ now →
    let handled := (sitting.run settings course).session.handlePacket settings now octets
      (sitting.run settings course).store
    handled.1 = .timeout ∧ handled.2.2 = (sitting.run settings course).store ∧
      handled.2.1.stage = .timedOut ∧ handled.2.1.key = none
  early : ∀ start (timed : TimedCall σ),
    (sitting.run settings course).session.startedAt = some start →
    timed.now < start + settings.provisioningTimeout → timed.call.watchesTime = true →
    (sitting.run settings course).saysEnded settings timed = false ∧
      ((sitting.run settings course).step settings timed).progress =
        (sitting.run settings course).progress
  once : ∀ front back, course = front ++ back →
    (sitting.run settings front).Unrestarted settings back →
    (sitting.run settings course).session.events.count .timedOut ≤
      (sitting.run settings front).session.events.count .timedOut + 1
  told : ∀ timed, (sitting.run settings course).saysEnded settings timed = true →
    (sitting.run settings course).session.stage.isRunning = true ∧
      ((sitting.run settings course).step settings timed).session.stage = .timedOut ∧
      ((sitting.run settings course).step settings timed).session.events =
        (sitting.run settings course).session.events ++ [.timedOut]

/-- A session has a limit in time that nothing moves but a start. -/
theorem keepsTime_run (settings : Settings) (store : σ) (course : Course σ) :
    KeepsTime settings course ⟨{}, store⟩ := by
  constructor
  case since =>
    intro running
    rcases since_run course running with started | ⟨_, ran, _⟩
    · exact started
    · cases ran
  case late =>
    intro running start now octets started late
    have due := (Session.isOverdue_iff_of_started running started).mpr late
    have expired := (Session.checkTimeout_of_overdue due).2
    rw [Session.handlePacket_of_overdue due]
    exact ⟨rfl, rfl, congrArg Progress.stage expired, congrArg Progress.key expired⟩
  case early =>
    intro start timed started early watches
    rcases step_watch watches (run settings course ⟨{}, store⟩) with
      kept | ⟨overdue, _⟩
    · exact kept
    · have running := Session.isRunning_of_isOverdue overdue
      have late := (Session.isOverdue_iff_of_started running started).mp overdue
      exact absurd early (Nat.not_lt_of_le late)
  case once =>
    rintro front back rfl unrestarted
    rw [run_append]
    have bounded := timeouts_run unrestarted
    have once := (run settings front ⟨{}, store⟩).progress.timeoutsLeft_le_one
    exact Nat.le_trans (Nat.le_add_right _ _)
      (Nat.le_trans bounded (Nat.add_le_add_left once _))
  case told =>
    intro timed claimed
    rcases step_watch (watchesTime_of_saysEnded claimed) (run settings course ⟨{}, store⟩) with
      ⟨silent, _⟩ | ⟨overdue, _, expired⟩
    · rw [silent] at claimed
      cases claimed
    · exact ⟨Session.isRunning_of_isOverdue overdue, congrArg Progress.stage expired,
        congrArg Progress.events expired⟩

end Sitting

end Provisioning

end DeviceAuth
