import DeviceAuth.Provisioning.Course

/-! The turns that a session can take. Watchdogs apart, a session is a stage, a key, the
moment of the last start, a count of failures and what was told, and a call changes these
in a few ways only. Here the ways are listed, and every call is shown to take one of
them. -/

namespace DeviceAuth

namespace Provisioning

/-- A session without its watchdogs. -/
structure Progress where
  stage : Stage
  key : Option PopKey
  startedAt : Option Span
  failures : Nat
  events : List Event

namespace Progress

def isOverdue (settings : Settings) (now : Span) (progress : Progress) : Bool :=
  match progress.startedAt with
  | none => false
  | some start =>
      progress.stage.isRunning && start.nanoseconds + settings.provisioningTimeout.nanoseconds ≤
        now.nanoseconds

def examines (settings : Settings) (now : Span) (progress : Progress) : Bool :=
  progress.stage.takesPackets && !progress.isOverdue settings now

theorem isRunning_of_takesPackets {stage : Stage} (takes : stage.takesPackets = true) :
    stage.isRunning = true := by
  cases stage <;> first | rfl | cases takes

theorem isRunning_of_examines {settings : Settings} {now : Span} {progress : Progress}
    (examined : progress.examines settings now = true) : progress.stage.isRunning = true :=
  isRunning_of_takesPackets (Bool.and_eq_true_iff.mp examined).1

def started (now : Span) (progress : Progress) : Progress :=
  { progress with
    stage := .advertising
    startedAt := some now
    failures := 0
    events := progress.events ++ [.started] }

def expired (progress : Progress) : Progress :=
  { progress with stage := .timedOut, key := none, events := progress.events ++ [.timedOut] }

def succeeded (progress : Progress) : Progress :=
  { progress with stage := .succeeded, key := none, events := progress.events ++ [.succeeded] }

def again (progress : Progress) : Progress :=
  { progress with stage := .awaitingPacket, failures := progress.failures + 1 }

def failed (rejection : Rejection) (progress : Progress) : Progress :=
  { progress with
    stage := .failed
    failures := progress.failures + 1
    events := progress.events ++ [.failed rejection] }

def stopped (progress : Progress) : Progress :=
  { progress with stage := .idle, startedAt := none, events := progress.events ++ [.stopped] }

open Session (failureLimit)

/-- The ways in which a call made at a moment can change a session. -/
inductive Turns {σ : Type} (settings : Settings) (now : Span) (before : Progress) :
    Call σ → Progress → Prop where
  | same {call : Call σ} : Turns settings now before call before
  | setKey (key : PopKey) :
      Turns settings now before (.setKey key) { before with key := some key }
  | clearKey : Turns settings now before .clearKey { before with key := none }
  | start (resting : before.stage.isRunning = false) :
      Turns settings now before .start (before.started now)
  | connect (advertising : before.stage = .advertising) :
      Turns settings now before .connect { before with stage := .connected }
  | disconnect (takes : before.stage.takesPackets = true) :
      Turns settings now before .disconnect { before with stage := .advertising }
  | expire {call : Call σ} (overdue : before.isOverdue settings now = true) :
      Turns settings now before call before.expired
  | accept {octets : Octets} (examined : before.examines settings now = true)
      (present : before.key ≠ none) :
      Turns settings now before (.packet octets) before.succeeded
  | reject {octets : Octets} (examined : before.examines settings now = true)
      (more : before.failures + 1 < failureLimit settings) :
      Turns settings now before (.packet octets) before.again
  | fail {octets : Octets} (rejection : Rejection)
      (examined : before.examines settings now = true)
      (last : rejection.isTerminal = true ∨ failureLimit settings ≤ before.failures + 1) :
      Turns settings now before (.packet octets) (before.failed rejection)
  | stop (begun : before.stage ≠ .idle) : Turns settings now before .stop before.stopped

variable {σ : Type} {settings : Settings} {now : Span} {before after reached : Progress}
  {call : Call σ}

theorem Turns.of_eq (turns : Turns settings now before call reached) (equal : after = reached) :
    Turns settings now before call after := by
  rw [equal]
  exact turns

theorem Turns.of_same (same : after = before) : Turns settings now before call after :=
  Turns.same.of_eq same

end Progress

namespace Session

variable {settings : Settings} {now : Span} {session : Session}

def progress (session : Session) : Progress :=
  ⟨session.stage, session.key, session.startedAt, session.failures, session.events⟩

def examines (settings : Settings) (now : Span) (session : Session) : Bool :=
  session.progress.examines settings now

@[simp] theorem progress_dismissWatchdog (session : Session) :
    session.dismissWatchdog.progress = session.progress := by
  unfold dismissWatchdog
  split
  · rfl
  · rfl

theorem progress_dismissWatchdog_emit (event : Event) (session : Session) :
    (session.dismissWatchdog.emit event).progress =
      { session.progress with events := session.progress.events ++ [event] } := by
  rw [← progress_dismissWatchdog session]
  rfl

theorem isOverdue_eq (settings : Settings) (now : Span) (session : Session) :
    session.isOverdue settings now = session.progress.isOverdue settings now := rfl

theorem examines_eq_true_iff : session.examines settings now = true ↔
    session.stage.takesPackets = true ∧ session.isOverdue settings now = false := by
  simp [examines, Progress.examines, isOverdue_eq, progress]

/-! ## Calls without a packet -/

theorem checkTimeout_of_overdue (overdue : session.isOverdue settings now = true) :
    (session.checkTimeout settings now).1 = true ∧
      (session.checkTimeout settings now).2.progress = session.progress.expired := by
  simp only [checkTimeout, overdue, if_true, true_and, progress_dismissWatchdog_emit]
  rfl

theorem checkTimeout_of_not (inTime : session.isOverdue settings now = false) :
    session.checkTimeout settings now = (false, session) := by
  simp only [checkTimeout, inTime, Bool.false_eq_true, if_false]

theorem start_of_running (running : session.stage.isRunning = true) (now : Span) :
    (session.start now).2 = session := by
  simp only [start, running, if_true]

theorem start_of_resting (resting : session.stage.isRunning = false) (now : Span) :
    (session.start now).1 = .ok () ∧
      (session.start now).2.progress = session.progress.started now := by
  simp only [start, resting, Bool.false_eq_true, if_false, true_and]
  rw [← progress_dismissWatchdog session]
  rfl

theorem start_ok_iff (now : Span) (session : Session) :
    (session.start now).1 = .ok () ↔ session.stage.isRunning = false := by
  cases running : session.stage.isRunning with
  | true => simp [start, running]
  | false => simp [start, running]

theorem progress_launchWatchdog (settings : Settings) (session : Session) :
    (session.launchWatchdog settings).2.progress = session.progress := by
  unfold launchWatchdog
  split
  · dsimp only
    split
    all_goals exact progress_dismissWatchdog session
  · rfl

theorem progress_stop (session : Session) : session.stop.progress = session.progress ∨
    session.stage ≠ .idle ∧ session.stop.progress = session.progress.stopped := by
  by_cases idle : session.stage = .idle
  case pos => simp [stop, idle]
  case neg =>
    right
    simp only [stop, if_neg idle, progress_dismissWatchdog_emit]
    exact ⟨idle, rfl⟩

/-! ## Packets -/

def examine (octets : Octets) (session : Session) : Except Rejection Details :=
  match (session.decrypt octets).1 with
  | .error rejection => .error rejection
  | .ok text => (session.validate text).1

theorem session_decrypt (octets : Octets) (session : Session) :
    ∃ stage, (session.decrypt octets).2 = { session with stage := stage } := by
  unfold decrypt
  split
  next => exact ⟨session.stage, rfl⟩
  next =>
    split
    next => exact ⟨session.stage, rfl⟩
    next =>
      dsimp only
      split
      next => exact ⟨.decrypting, rfl⟩
      next => exact ⟨.decrypting, rfl⟩

theorem validate_eq (text : Octets) (session : Session) :
    session.validate text =
      ((Details.ofOctets text).mapError Rejection.ofFailure,
        { session with stage := .validating }) := by
  unfold validate
  cases Details.ofOctets text with
  | error failure => rfl
  | ok details => rfl

variable {σ : Type} [Backend σ] {octets : Octets}

theorem process_of_refused {rejection : Rejection}
    (refused : session.examine octets = .error rejection) (store : σ) :
    ∃ stage, session.process octets store =
      (.error rejection, { session with stage := stage }, store) := by
  obtain ⟨reached, decrypted⟩ := session_decrypt octets session
  unfold examine at refused
  unfold process
  rcases opened : session.decrypt octets with ⟨given | text, middle⟩
  · rw [opened] at refused decrypted
    obtain rfl : given = rejection := Except.error.inj refused
    exact ⟨reached, by rw [← decrypted]⟩
  · rw [opened] at refused decrypted
    dsimp only at refused decrypted
    simp only [validate_eq] at refused ⊢
    refine ⟨.validating, ?_⟩
    rw [refused, decrypted]

theorem process_of_read {details : Details} (read : session.examine octets = .ok details)
    (store : σ) :
    session.process octets store =
      match (Credentials.saveDetails details).perform store with
      | (.ok (), store) => (.ok (), { session with stage := .validating }, store)
      | (.error _, store) =>
          (.error .saveFailed, { session with stage := .validating }, store) := by
  obtain ⟨reached, decrypted⟩ := session_decrypt octets session
  unfold examine at read
  unfold process
  rcases opened : session.decrypt octets with ⟨given | text, middle⟩
  · rw [opened] at read
    cases read
  · rw [opened] at read decrypted
    dsimp only at read decrypted
    simp only [validate_eq] at read ⊢
    rcases saved : (Credentials.saveDetails details).perform store with ⟨_ | _, _⟩
    · simp only [read, decrypted, saved]
    · simp only [read, decrypted, saved]

theorem session_process (octets : Octets) (session : Session) (store : σ) :
    ∃ stage, (session.process octets store).2.1 = { session with stage := stage } := by
  cases found : session.examine octets with
  | error rejection =>
      obtain ⟨stage, equal⟩ := process_of_refused found store
      exact ⟨stage, by rw [equal]⟩
  | ok details =>
      rw [process_of_read found]
      refine ⟨.validating, ?_⟩
      split
      next => rfl
      next => rfl

theorem key_of_process {store after : σ} {last : Session}
    (processed : session.process octets store = (.ok (), last, after)) : session.key ≠ none := by
  intro missing
  simp [process, decrypt, missing] at processed

theorem progress_succeed (stage : Stage) (session : Session) :
    ({ session with stage := stage }.succeed).progress = session.progress.succeeded :=
  progress_dismissWatchdog_emit .succeeded { session with stage := .succeeded, key := none }

theorem progress_reject (settings : Settings) (rejection : Rejection) (stage : Stage)
    (session : Session) :
    ({ session with stage := stage }.reject settings rejection).progress =
      if rejection.isTerminal = true ∨ failureLimit settings ≤ session.failures + 1 then
        session.progress.failed rejection
      else session.progress.again := by
  by_cases last : rejection.isTerminal = true ∨ failureLimit settings ≤ session.failures + 1
  case pos =>
    have ends : (rejection.isTerminal || decide (failureLimit settings ≤ session.failures + 1)) =
        true := by simpa using last
    simp only [reject, ends, if_true, if_pos last, progress_dismissWatchdog_emit]
    rfl
  case neg =>
    have goesOn : (rejection.isTerminal ||
        decide (failureLimit settings ≤ session.failures + 1)) = false := by simpa using last
    simp only [reject, goesOn, if_neg last]
    rfl

/-! ## Handling a packet -/

theorem handlePacket_of_overdue (overdue : session.isOverdue settings now = true)
    (octets : Octets) (store : σ) :
    session.handlePacket settings now octets store =
      (.timeout, (session.checkTimeout settings now).2, store) := by
  have ended := (checkTimeout_of_overdue overdue).1
  unfold handlePacket
  split
  next equal => rw [equal]
  next equal =>
    rw [equal] at ended
    cases ended

theorem handlePacket_of_unexamined (inTime : session.isOverdue settings now = false)
    (deaf : session.stage.takesPackets = false) (octets : Octets) (store : σ) :
    session.handlePacket settings now octets store =
      (if session.stage = .timedOut then .timeout else .rejected .internalError,
        session, store) := by
  simp only [handlePacket, checkTimeout_of_not inTime, deaf, Bool.false_eq_true, if_false]
  split
  next => rfl
  next => rfl

theorem handlePacket_of_examined (examined : session.examines settings now = true)
    (octets : Octets) (store : σ) :
    session.handlePacket settings now octets store =
      match session.process octets store with
      | (.ok (), session, store) => (.accepted, session.succeed, store)
      | (.error rejection, session, store) =>
          (.rejected rejection, session.reject settings rejection, store) := by
  obtain ⟨takes, inTime⟩ := examines_eq_true_iff.mp examined
  rcases processed : session.process octets store with ⟨_ | _, _, _⟩
  · simp only [handlePacket, checkTimeout_of_not inTime, takes, if_true, processed]
  · simp only [handlePacket, checkTimeout_of_not inTime, takes, if_true, processed]

end Session

/-! ## Steps -/

namespace Sitting

open Session (failureLimit)
open Progress (Turns)

variable {σ : Type} [Backend σ]

def progress (sitting : Sitting σ) : Progress := sitting.session.progress

omit [Backend σ] in
theorem turns_checkTimeout {settings : Settings} {now : Span} (call : Call σ)
    {before session : Session} (same : session.progress = before.progress) :
    Turns settings now before.progress call
      (session.checkTimeout settings now).2.progress := by
  rw [← same]
  cases due : session.isOverdue settings now with
  | true =>
      rw [(Session.checkTimeout_of_overdue due).2]
      exact .expire due
  | false =>
      rw [Session.checkTimeout_of_not due]
      exact .same

theorem turns_examined {settings : Settings} {now : Span} {session : Session}
    (examined : session.examines settings now = true) (octets : Octets) (store : σ) :
    Turns settings now session.progress (.packet octets : Call σ)
      (session.handlePacket settings now octets store).2.1.progress := by
  obtain ⟨stage, left⟩ := Session.session_process octets session store
  rw [Session.handlePacket_of_examined examined]
  rcases processed : session.process octets store with ⟨rejection | _, last, after⟩
  · rw [processed] at left
    dsimp only at left ⊢
    rw [left, Session.progress_reject]
    split
    next ends => exact .fail rejection examined ends
    next goesOn =>
      exact .reject examined (Nat.lt_of_not_le fun limit => goesOn (.inr limit))
  · rw [processed] at left
    dsimp only at left ⊢
    rw [left, Session.progress_succeed]
    exact .accept examined (Session.key_of_process processed)

theorem step_turns (settings : Settings) (timed : TimedCall σ) (sitting : Sitting σ) :
    Turns settings timed.now sitting.progress timed.call
      (sitting.step settings timed).progress := by
  rcases timed with ⟨now, call⟩
  cases call with
  | setKey key => exact .setKey key
  | clearKey => exact .clearKey
  | start =>
      cases running : sitting.session.stage.isRunning with
      | true =>
          exact .of_same (congrArg Session.progress (Session.start_of_running running now))
      | false =>
          have started := (Session.start_of_resting running now).2
          exact (Turns.start running).of_eq started
  | connect =>
      by_cases advertising : sitting.session.stage = .advertising
      · apply (Turns.connect advertising).of_eq
        simp only [step, onSession, Session.connect, if_pos advertising]
        rfl
      · apply Turns.of_same
        simp only [step, onSession, Session.connect, if_neg advertising]
  | disconnect =>
      cases takes : sitting.session.stage.takesPackets with
      | true =>
          apply (Turns.disconnect takes).of_eq
          simp only [step, onSession, Session.disconnect, takes, if_true]
          rfl
      | false =>
          apply Turns.of_same
          simp only [step, onSession, Session.disconnect, takes, Bool.false_eq_true, if_false]
  | packet octets =>
      cases due : sitting.session.isOverdue settings now with
      | true =>
          apply (turns_checkTimeout (.packet octets) rfl).of_eq
          simp only [step, progress, Session.handlePacket_of_overdue due]
      | false =>
          cases takes : sitting.session.stage.takesPackets with
          | true =>
              exact turns_examined (Session.examines_eq_true_iff.mpr ⟨takes, due⟩) octets
                sitting.store
          | false =>
              apply Turns.of_same
              simp only [step, progress, Session.handlePacket_of_unexamined due takes]
  | checkTimeout => exact turns_checkTimeout _ rfl
  | launchWatchdog =>
      exact .of_same (Session.progress_launchWatchdog settings sitting.session)
  | wakeWatchdog id =>
      simp only [step, onSession, progress, Session.wakeWatchdog]
      split
      next =>
        let rest := { sitting.session with
          watchdogs := sitting.session.watchdogs.filter fun watchdog => watchdog.id ≠ id }
        have turns : Turns settings now sitting.session.progress (.wakeWatchdog id : Call σ)
            (rest.checkTimeout settings now).2.progress := turns_checkTimeout _ rfl
        split
        next equal =>
          rw [equal] at turns
          exact turns
        next equal =>
          rw [equal] at turns
          exact turns
      next => exact .same
  | stop =>
      rcases Session.progress_stop sitting.session with same | ⟨begun, stopped⟩
      · exact .of_same same
      · exact (Turns.stop begun).of_eq stopped
  | elsewhere store => exact .same

end Sitting

end Provisioning

end DeviceAuth
