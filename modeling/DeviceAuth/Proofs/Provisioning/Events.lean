import DeviceAuth.Proofs.Provisioning.Deadline
import Mathlib

/-! What a session tells. Others know of a session only what it tells them, so what is told
has to agree with what the session does: after a start at most one outcome is told, after
that at most a stop, and the event that was told last says where the session stands.

What is told from one start to the next is a round, and everything that was told is made up
of rounds. The last round may still be open; how far it has come is known from the stage. -/

namespace DeviceAuth

namespace Provisioning

open scoped Computability

namespace Event

def failure : Language Event := {told | ∃ rejection, told = [.failed rejection]}

def outcome : Language Event := {[.succeeded]} + failure + {[.timedOut]}

/-- What is told from a start to the next one. -/
def round : Language Event := {[.started]} * (1 + outcome) * (1 + {[.stopped]})

def LeadsTo : Option Event → Stage → Prop
  | none, stage => stage = .idle
  | some .started, stage => stage.isRunning = true
  | some .succeeded, stage => stage = .succeeded
  | some (.failed _), stage => stage = .failed
  | some .timedOut, stage => stage = .timedOut
  | some .stopped, stage => stage = .idle

theorem LeadsTo.of_running {last : Option Event} {stage other : Stage}
    (leads : LeadsTo last stage) (running : stage.isRunning = true)
    (runsOn : other.isRunning = true) : LeadsTo last other := by
  have resting : ∀ rest : Stage, rest.isRunning = false → stage ≠ rest := by
    rintro rest halted rfl
    exact Bool.false_ne_true (halted.symm.trans running)
  cases last with
  | none => exact absurd leads (resting .idle rfl)
  | some event =>
      cases event with
      | started => exact runsOn
      | succeeded => exact absurd leads (resting .succeeded rfl)
      | failed => exact absurd leads (resting .failed rfl)
      | timedOut => exact absurd leads (resting .timedOut rfl)
      | stopped => exact absurd leads (resting .idle rfl)

theorem started_mul_le_round {ending : Language Event} (complete : ending ≤ 1 + outcome) :
    {[started]} * ending ≤ round :=
  calc
    {[started]} * ending = {[started]} * ending * 1 := (mul_one _).symm
    _ ≤ round := mul_le_mul' (mul_le_mul_right complete _) le_self_add

theorem started_mul_stopped_le_round {ending : Language Event}
    (complete : ending ≤ 1 + outcome) : {[started]} * ending * {[stopped]} ≤ round :=
  mul_le_mul' (mul_le_mul_right complete _) le_add_self

end Event

/-! ## Open rounds -/

namespace Stage

/-- How a round that was begun has gone on, for a session at a stage. -/
def ending (stage : Stage) : Language Event := if stage.isRunning then 1 else Event.outcome

def told (stage : Stage) : Language Event :=
  if stage = .idle then Event.round∗ else Event.round∗ * ({[.started]} * stage.ending)

theorem ending_le (stage : Stage) : stage.ending ≤ 1 + Event.outcome := by
  unfold ending
  split
  · exact le_self_add
  · exact le_add_self

theorem told_of_ne_idle {stage : Stage} (begun : stage ≠ .idle) :
    stage.told = Event.round∗ * ({[.started]} * stage.ending) := if_neg begun

theorem told_of_running {stage : Stage} (running : stage.isRunning = true) :
    stage.told = Event.round∗ * {[.started]} := by
  have begun : stage ≠ .idle := by
    rintro rfl
    cases running
  rw [told_of_ne_idle begun, ending, if_pos running, mul_one]

theorem told_le_rounds (stage : Stage) : stage.told ≤ Event.round∗ := by
  unfold told
  split
  · exact le_rfl
  · calc
      Event.round∗ * ({[.started]} * stage.ending) ≤ Event.round∗ * Event.round :=
        mul_le_mul_right (Event.started_mul_le_round stage.ending_le) _
      _ ≤ Event.round∗ := kstar_mul_le_kstar

theorem told_mul_stopped_le {stage : Stage} (begun : stage ≠ .idle) :
    stage.told * {[.stopped]} ≤ Event.round∗ :=
  calc
    stage.told * {[.stopped]}
      = Event.round∗ * ({[.started]} * stage.ending * {[.stopped]}) := by
        rw [told_of_ne_idle begun, mul_assoc]
    _ ≤ Event.round∗ * Event.round :=
        mul_le_mul_right (Event.started_mul_stopped_le_round stage.ending_le) _
    _ ≤ Event.round∗ := kstar_mul_le_kstar

theorem told_mul_started_le {stage begun : Stage} (running : begun.isRunning = true) :
    stage.told * {[.started]} ≤ begun.told := by
  rw [told_of_running running]
  exact mul_le_mul_left stage.told_le_rounds _

theorem told_mul_outcome_le {stage ended : Stage} (running : stage.isRunning = true)
    (terminal : ended.isTerminal = true) : stage.told * Event.outcome ≤ ended.told := by
  have ends : ended.told = Event.round∗ * ({[.started]} * Event.outcome) := by
    cases ended <;> first | rfl | cases terminal
  rw [told_of_running running, ends, mul_assoc]

end Stage

/-! ## Steps -/

namespace Progress

structure Truthful (progress : Progress) : Prop where
  told : progress.events ∈ progress.stage.told
  last : Event.LeadsTo progress.events.getLast? progress.stage

variable {σ : Type} {settings : Settings} {now : Span} {before after : Progress} {call : Call σ}

theorem Truthful.tell {event : Event} (told : before.events ++ [event] ∈ after.stage.told)
    (events : after.events = before.events ++ [event])
    (leads : Event.LeadsTo (some event) after.stage) : after.Truthful where
  told := by rwa [events]
  last := by rwa [events, List.getLast?_concat]

theorem Truthful.goOn (truthful : before.Truthful) (running : before.stage.isRunning = true)
    (runsOn : after.stage.isRunning = true) (events : after.events = before.events) :
    after.Truthful where
  told := by
    rw [events, Stage.told_of_running runsOn, ← Stage.told_of_running running]
    exact truthful.told
  last := by
    rw [events]
    exact truthful.last.of_running running runsOn

theorem Truthful.tellOutcome (truthful : before.Truthful) {event : Event}
    (running : before.stage.isRunning = true) (outcome : [event] ∈ Event.outcome)
    (events : after.events = before.events ++ [event]) (terminal : after.stage.isTerminal = true)
    (leads : Event.LeadsTo (some event) after.stage) : after.Truthful :=
  .tell (Stage.told_mul_outcome_le running terminal
    (Language.append_mem_mul truthful.told outcome)) events leads

theorem Turns.truthful (turns : Turns settings now before call after)
    (truthful : before.Truthful) : after.Truthful := by
  cases turns with
  | same => exact truthful
  | setKey key => exact ⟨truthful.told, truthful.last⟩
  | clearKey => exact ⟨truthful.told, truthful.last⟩
  | start resting =>
      have begins : before.stage.told * {[.started]} ≤ Stage.advertising.told :=
        Stage.told_mul_started_le rfl
      exact .tell (begins (Language.append_mem_mul truthful.told rfl)) rfl rfl
  | connect advertising => exact truthful.goOn (by rw [advertising]; rfl) rfl rfl
  | disconnect takes => exact truthful.goOn (isRunning_of_takesPackets takes) rfl rfl
  | expire overdue =>
      exact truthful.tellOutcome (isRunning_of_isOverdue overdue) (.inr rfl) rfl rfl rfl
  | accept examined =>
      exact truthful.tellOutcome (isRunning_of_examines examined) (.inl (.inl rfl)) rfl rfl rfl
  | reject examined => exact truthful.goOn (isRunning_of_examines examined) rfl rfl
  | fail rejection examined =>
      exact truthful.tellOutcome (isRunning_of_examines examined)
        (.inl (.inr ⟨rejection, rfl⟩)) rfl rfl rfl
  | stop begun =>
      have completes : before.stage.told * {[.stopped]} ≤ Stage.idle.told :=
        Stage.told_mul_stopped_le begun
      exact .tell (completes (Language.append_mem_mul truthful.told rfl)) rfl rfl

end Progress

/-! ## Runs -/

namespace Sitting

variable {σ : Type} [Backend σ]

omit [Backend σ] in
theorem truthful_new (store : σ) : (⟨{}, store⟩ : Sitting σ).progress.Truthful :=
  ⟨Language.nil_mem_kstar _, rfl⟩

theorem truthful_run (settings : Settings) (course : Course σ) {sitting : Sitting σ}
    (truthful : sitting.progress.Truthful) : (sitting.run settings course).progress.Truthful := by
  induction course generalizing sitting with
  | nil => exact truthful
  | cons timed rest induction =>
      exact induction ((step_turns settings timed sitting).truthful truthful)

/-- Whoever follows what a session tells knows where it stands. -/
structure TellsTruth (session : Session) : Prop where
  rounds : session.events ∈ Event.round∗
  last : Event.LeadsTo session.events.getLast? session.stage

/-- After any calls a new session has told the truth. -/
theorem tellsTruth_run (settings : Settings) (store : σ) (course : Course σ) :
    TellsTruth ((⟨{}, store⟩ : Sitting σ).run settings course).session := by
  have truthful := truthful_run settings course (truthful_new store)
  exact ⟨Stage.told_le_rounds _ truthful.told, truthful.last⟩

end Sitting

end Provisioning

end DeviceAuth
