import DeviceAuth.Proofs.Provisioning.Turns
import DeviceAuth.Storage.Memory

/-! How often a session can be tried. Whoever does not have the key can only guess, and
each guess is a packet that is rejected. The session counts these packets, ends when
there are too many of them, and then listens to nobody until it is started anew. -/

namespace DeviceAuth

namespace Provisioning

open Session (failureLimit)

namespace Progress

variable {σ : Type} {settings : Settings} {now : Span} {before after : Progress} {call : Call σ}

/-- As long as a session runs, at least one more packet may be rejected. -/
structure Bounded (settings : Settings) (progress : Progress) : Prop where
  within : progress.failures ≤ failureLimit settings
  running : progress.stage.isRunning = true → progress.failures < failureLimit settings

theorem failureLimit_pos (settings : Settings) : 0 < failureLimit settings :=
  Nat.lt_of_lt_of_le Nat.one_pos (Nat.le_max_right _ 1)

theorem bounded_started (settings : Settings) (now : Span) (progress : Progress) :
    (progress.started now).Bounded settings where
  within := Nat.zero_le _
  running _ := failureLimit_pos settings

theorem Turns.bounded (turns : Turns settings now before call after)
    (bounded : before.Bounded settings) : after.Bounded settings := by
  cases turns with
  | start => exact bounded_started settings now before
  | connect advertising =>
      exact ⟨bounded.within, fun _ => bounded.running (by rw [advertising]; rfl)⟩
  | disconnect takes =>
      exact ⟨bounded.within, fun _ => bounded.running (isRunning_of_takesPackets takes)⟩
  | expire => exact ⟨bounded.within, nofun⟩
  | accept => exact ⟨bounded.within, nofun⟩
  | reject _ more => exact ⟨Nat.le_of_lt more, fun _ => more⟩
  | fail _ examined => exact ⟨bounded.running (isRunning_of_examines examined), nofun⟩
  | stop => exact ⟨bounded.within, nofun⟩
  | _ => exact ⟨bounded.within, bounded.running⟩

theorem Turns.failures_eq (turns : Turns settings now before call after)
    (noPacket : ∀ octets, call ≠ .packet octets) (noStart : call ≠ .start) :
    after.failures = before.failures := by
  cases turns with
  | start => exact absurd rfl noStart
  | @reject octets => exact absurd rfl (noPacket octets)
  | @fail octets => exact absurd rfl (noPacket octets)
  | _ => rfl

theorem Turns.failed_of_limit (turns : Turns settings now before call after)
    (fewer : before.failures < failureLimit settings)
    (reached : after.failures = failureLimit settings) : after.stage = .failed := by
  cases turns with
  | fail => rfl
  | start =>
      have positive := failureLimit_pos settings
      have zero : 0 = failureLimit settings := reached
      omega
  | reject _ more => exact absurd reached (Nat.ne_of_lt more)
  | _ => exact absurd reached (Nat.ne_of_lt fewer)

def IsOver (progress : Progress) : Prop := progress.stage = .failed ∨ progress.stage = .idle

theorem IsOver.resting (closed : before.IsOver) : before.stage.isRunning = false := by
  rcases closed with stage | stage <;> rw [stage] <;> rfl

theorem IsOver.not_overdue (closed : before.IsOver) (settings : Settings) (now : Span) :
    before.isOverdue settings now = false := by
  unfold isOverdue
  rw [closed.resting]
  split <;> rfl

theorem IsOver.not_examines (closed : before.IsOver) :
    ¬ before.examines settings now = true := by
  intro examined
  have running := isRunning_of_examines examined
  rw [closed.resting] at running
  cases running

theorem Turns.isOver (turns : Turns settings now before call after) (closed : before.IsOver)
    (other : call ≠ .start) : after.IsOver := by
  cases turns with
  | start => exact absurd rfl other
  | connect advertising =>
      have resting := closed.resting
      rw [advertising] at resting
      cases resting
  | disconnect takes =>
      have running := isRunning_of_takesPackets takes
      rw [closed.resting] at running
      cases running
  | expire overdue =>
      rw [closed.not_overdue] at overdue
      cases overdue
  | accept examined => exact absurd examined closed.not_examines
  | reject examined => exact absurd examined closed.not_examines
  | fail _ examined => exact absurd examined closed.not_examines
  | stop => exact .inr rfl
  | _ => exact closed

end Progress

/-! ## Counting -/

namespace Sitting

variable {σ : Type} [Backend σ] {settings : Settings}

def rejects (settings : Settings) (timed : TimedCall σ) (sitting : Sitting σ) : Bool :=
  match timed.call with
  | .packet octets =>
      sitting.session.examines settings timed.now &&
        (sitting.session.handlePacket settings timed.now octets sitting.store).1 != .accepted
  | _ => false

def rejections (settings : Settings) : Course σ → Sitting σ → Nat
  | [], _ => 0
  | timed :: rest, sitting =>
      (if sitting.rejects settings timed then 1 else 0) +
        rejections settings rest (sitting.step settings timed)

omit [Backend σ] in
def Restarts (timed : TimedCall σ) (sitting : Sitting σ) : Prop :=
  match timed.call with
  | .start => (sitting.session.start timed.now).1 = .ok ()
  | _ => False

def Unrestarted (settings : Settings) : Course σ → Sitting σ → Prop
  | [], _ => True
  | timed :: rest, sitting =>
      ¬ sitting.Restarts timed ∧ Unrestarted settings rest (sitting.step settings timed)

theorem unrestarted_append {front back : Course σ} {sitting : Sitting σ} :
    sitting.Unrestarted settings (front ++ back) ↔
      sitting.Unrestarted settings front ∧
        (sitting.run settings front).Unrestarted settings back := by
  induction front generalizing sitting with
  | nil => simp [Unrestarted, run]
  | cons timed rest induction =>
      simp only [List.cons_append, Unrestarted, run, induction, and_assoc]

theorem failures_packet (now : Span) (octets : Octets) (sitting : Sitting σ) :
    (sitting.step settings ⟨now, .packet octets⟩).session.failures =
      sitting.session.failures +
        if sitting.rejects settings ⟨now, .packet octets⟩ then 1 else 0 := by
  cases examined : sitting.session.examines settings now with
  | true =>
      obtain ⟨stage, left⟩ := Session.session_process octets sitting.session sitting.store
      simp only [rejects, step, examined, Session.handlePacket_of_examined examined]
      rcases processed : sitting.session.process octets sitting.store with
        ⟨rejection | _, last, after⟩
      · rw [processed] at left
        dsimp only at left ⊢
        have rejected := congrArg Progress.failures
          (Session.progress_reject settings rejection stage sitting.session)
        rw [left]
        refine rejected.trans ?_
        split
        next => rfl
        next => rfl
      · rw [processed] at left
        dsimp only at left ⊢
        rw [left]
        exact congrArg Progress.failures (Session.progress_succeed stage sitting.session)
  | false =>
      simp only [rejects, step, examined, Bool.false_and, Bool.false_eq_true, if_false]
      cases due : sitting.session.isOverdue settings now with
      | true =>
          rw [Session.handlePacket_of_overdue due]
          exact congrArg Progress.failures (Session.checkTimeout_of_overdue due).2
      | false =>
          have deaf : sitting.session.stage.takesPackets = false := by
            cases takes : sitting.session.stage.takesPackets with
            | false => rfl
            | true =>
                rw [Session.examines_eq_true_iff.mpr ⟨takes, due⟩] at examined
                cases examined
          rw [Session.handlePacket_of_unexamined due deaf]
          rfl

theorem failures_step {timed : TimedCall σ} {sitting : Sitting σ}
    (goesOn : ¬ sitting.Restarts timed) :
    (sitting.step settings timed).session.failures =
      sitting.session.failures + if sitting.rejects settings timed then 1 else 0 := by
  have turns := step_turns settings timed sitting
  rcases timed with ⟨now, call⟩
  cases call with
  | packet octets => exact failures_packet now octets sitting
  | start =>
      have running : sitting.session.stage.isRunning = true := by
        simpa [Restarts, Session.start_ok_iff] using goesOn
      exact congrArg Session.failures (Session.start_of_running running now)
  | _ => exact turns.failures_eq nofun nofun

theorem failures_run {course : Course σ} {sitting : Sitting σ}
    (unrestarted : sitting.Unrestarted settings course) :
    (sitting.run settings course).session.failures =
      sitting.session.failures + sitting.rejections settings course := by
  induction course generalizing sitting with
  | nil => rfl
  | cons timed rest induction =>
      rw [run, induction unrestarted.2, failures_step unrestarted.1, rejections, Nat.add_assoc]

theorem bounded_run (course : Course σ) {sitting : Sitting σ}
    (bounded : sitting.progress.Bounded settings) :
    (sitting.run settings course).progress.Bounded settings := by
  induction course generalizing sitting with
  | nil => exact bounded
  | cons timed rest induction =>
      exact induction ((step_turns settings timed sitting).bounded bounded)

theorem isOver_run {course : Course σ} {sitting : Sitting σ}
    (unrestarted : sitting.Unrestarted settings course) (closed : sitting.progress.IsOver) :
    (sitting.run settings course).progress.IsOver := by
  induction course generalizing sitting with
  | nil => exact closed
  | cons timed rest induction =>
      apply induction unrestarted.2
      by_cases starting : timed.call = .start
      · rcases timed with ⟨now, call⟩
        cases starting
        exact absurd ((Session.start_ok_iff now sitting.session).mpr closed.resting) unrestarted.1
      · exact (step_turns settings timed sitting).isOver closed starting

theorem handlePacket_of_isOver {sitting : Sitting σ} (closed : sitting.progress.IsOver)
    (now : Span) (octets : Octets) :
    sitting.session.handlePacket settings now octets sitting.store =
      (.rejected .internalError, sitting.session, sitting.store) := by
  have inTime : sitting.session.isOverdue settings now = false := closed.not_overdue settings now
  have deaf : sitting.session.stage.takesPackets = false := by
    rcases closed with stage | stage <;>
      rw [show sitting.session.stage = _ from stage] <;> rfl
  have inTimeStage : sitting.session.stage ≠ .timedOut := by
    rcases closed with stage | stage <;>
      rw [show sitting.session.stage = _ from stage] <;> nofun
  rw [Session.handlePacket_of_unexamined inTime deaf, if_neg inTimeStage]

/-- How a session deals with packets that are rejected, from one start to the next. -/
structure LimitsGuesses (settings : Settings) (course : Course σ) (sitting : Sitting σ) :
    Prop where
  counted : sitting.rejections settings course =
    (sitting.run settings course).session.failures
  limited : sitting.rejections settings course ≤ failureLimit settings
  running : (sitting.run settings course).session.stage.isRunning = true →
    (sitting.run settings course).session.failures < failureLimit settings
  grows : ∀ front timed back, course = front ++ timed :: back →
    (sitting.run settings front).session.failures ≤
        (sitting.run settings (front ++ [timed])).session.failures ∧
      ((sitting.run settings front).session.failures < failureLimit settings →
        (sitting.run settings (front ++ [timed])).session.failures = failureLimit settings →
        (sitting.run settings (front ++ [timed])).session.stage = .failed)
  deaf : ∀ front back, course = front ++ back →
    (sitting.run settings front).session.stage = .failed → ∀ now octets,
      (sitting.run settings course).session.handlePacket settings now octets
          (sitting.run settings course).store =
        (.rejected .internalError, (sitting.run settings course).session,
          (sitting.run settings course).store)

/-- Between two starts a session can only be tried a limited number of times. -/
theorem limitsGuesses_run {session : Session} {now : Span}
    (started : (session.start now).1 = .ok ()) (store : σ) (course : Course σ)
    (unrestarted : Unrestarted settings course ⟨(session.start now).2, store⟩) :
    LimitsGuesses settings course ⟨(session.start now).2, store⟩ := by
  have resting := (Session.start_ok_iff now session).mp started
  have begun := (Session.start_of_resting resting now).2
  have zero : (session.start now).2.failures = 0 := congrArg Progress.failures begun
  have bounded : Progress.Bounded settings (session.start now).2.progress := by
    rw [begun]
    exact Progress.bounded_started settings now session.progress
  -- From here on a first session counts that runs and has no failures.
  generalize (session.start now).2 = first at *
  let sitting : Sitting σ := ⟨first, store⟩
  have counted : sitting.rejections settings course =
      (sitting.run settings course).session.failures := by
    rw [failures_run unrestarted, show sitting.session.failures = 0 from zero, Nat.zero_add]
  have last : (sitting.run settings course).progress.Bounded settings :=
    bounded_run course bounded
  constructor
  case counted => exact counted
  case limited =>
    rw [counted]
    exact last.within
  case running => exact last.running
  case grows =>
    rintro front timed back rfl
    have goesOn := (unrestarted_append.mp unrestarted).2.1
    rw [run_concat, failures_step goesOn]
    refine ⟨Nat.le_add_right _ _, fun fewer reached => ?_⟩
    rw [← failures_step goesOn] at reached
    exact (step_turns settings timed (sitting.run settings front)).failed_of_limit fewer reached
  case deaf =>
    rintro front back rfl failed now octets
    rw [run_append]
    have later := (unrestarted_append.mp unrestarted).2
    exact handlePacket_of_isOver (isOver_run later (.inl failed)) now octets

def threeGuesses (key : PopKey) : Course Memory :=
  [⟨.zero, .connect⟩, ⟨.zero, .packet (List.replicate 28 0)⟩, ⟨.zero, .disconnect⟩,
    ⟨.zero, .connect⟩, ⟨.zero, .setKey key⟩, ⟨.zero, .packet [0]⟩, ⟨.zero, .packet []⟩]

theorem limitsGuesses_threeGuesses :
    let settings : Settings := { provisioningFailures := 2 }
    let course := threeGuesses ⟨List.replicate 32 7, rfl⟩
    let sitting : Sitting Memory := ⟨(({} : Session).start .zero).2, {}⟩
    (({} : Session).start .zero).1 = .ok () ∧ sitting.Unrestarted settings course ∧
      sitting.LimitsGuesses settings course ∧ sitting.rejections settings course = 2 ∧
      (sitting.run settings course).session.stage = .failed := by
  intro settings course sitting
  have started : (({} : Session).start .zero).1 = .ok () := rfl
  have unrestarted : sitting.Unrestarted settings course := by
    simp [course, threeGuesses, Unrestarted, Restarts]
  have limited : sitting.LimitsGuesses settings course :=
    @limitsGuesses_run Memory _ settings {} .zero started {} course unrestarted
  exact ⟨started, unrestarted, limited, by decide +kernel, by decide +kernel⟩

end Sitting

end Provisioning

end DeviceAuth
