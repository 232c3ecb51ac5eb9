import DeviceAuth.Proofs.Activity.Retries
import DeviceAuth.Proofs.Activity.Stored

/-! Tokens that were dropped. A token that the server rejects, or that is cleared, is dropped from
memory and from the store, and nothing brings it back before another one is stored. One that is
given up after too many failures is dropped from memory only: the store gives it back to a
device that is shut down and begins again. -/

namespace DeviceAuth

def Move.BringsNoToken {σ : Type} [Backend σ] [Reliable σ] (store : σ) : Move σ → Prop
  | .hold _ _ => False
  | .surroundings _ _ other => Reliable.Works other ∧
      ((Credentials.loadRecord.perform store).1 = .ok none →
        (Credentials.loadRecord.perform other).1 = .ok none)
  | _ => True

/-! ## Without a token in the store -/

namespace Standing

open Reliable (Works perform_agrees)

variable {σ : Type} [Backend σ] [Reliable σ] {settings : Settings} {address : Address}
  {before after : Standing σ} {move : Move σ}

/-- No token is held, and a store that works has none to give. -/
structure Gone (standing : Standing σ) : Prop where
  missing : standing.record = none
  works : Works standing.store
  forgotten : (Credentials.loadRecord.perform standing.store).1 = .ok none

theorem Gone.of_cleared {store : σ} (works : Works store) (missing : after.record = none)
    (cleared : after.store = (Credentials.clearTokens.perform store).2) : after.Gone := by
  have agrees := perform_agrees Credentials.clearTokens works
  constructor
  case missing => exact missing
  case works =>
    rw [cleared]
    exact agrees.works
  case forgotten =>
    rw [cleared, (perform_agrees _ agrees.works).result, agrees.shelf]
    exact Credentials.loadRecord_clearTokens _

theorem Gone.not_loads (gone : before.Gone) {record : TokenRecord} {store : σ} :
    Credentials.loadRecord.perform before.store ≠ (.ok (some record), store) := by
  intro read
  have forgotten := gone.forgotten
  rw [read] at forgotten
  cases forgotten

theorem Passes.works (passes : Passes settings address before move after)
    (works : Works before.store) (brings : move.BringsNoToken before.store) :
    Works after.store := by
  have performed : ∀ {α : Type} (action : Action α), Works (action.perform before.store).2 :=
    fun action => (perform_agrees action works).works
  have loaded : ∀ {result store}, Credentials.loadRecord.perform before.store = (result, store) →
      Works store := by
    intro result store read
    have later := performed Credentials.loadRecord
    rw [read] at later
    exact later
  cases passes with
  | surround => exact brings.1
  | unread _ read => exact loaded read
  | beginEmpty _ read => exact loaded read
  | beginWith _ read => exact loaded read
  | refuse => exact brings.elim
  | hold => exact brings.elim
  | renew => exact performed _
  | reject => exact performed _
  | clear => exact performed _
  | _ => exact works

theorem Passes.gone (passes : Passes settings address before move after) (gone : before.Gone)
    (brings : move.BringsNoToken before.store) : after.Gone := by
  have works := passes.works gone.works brings
  cases passes with
  | surround => exact ⟨gone.missing, works, brings.2 gone.forgotten⟩
  | giveUp => exact ⟨rfl, works, gone.forgotten⟩
  | request held => exact absurd gone.missing held
  | unread _ read =>
      have forgotten := gone.forgotten
      rw [read] at forgotten
      cases forgotten
  | beginEmpty _ read => exact ⟨gone.missing, works, (loadRecord_again gone.works read).2⟩
  | beginWith _ read => exact absurd read gone.not_loads
  | refuse => exact brings.elim
  | hold => exact brings.elim
  | renew _ _ held =>
      rw [gone.missing] at held
      cases held
  | reject => exact .of_cleared gone.works rfl rfl
  | clear => exact .of_cleared gone.works rfl rfl
  | shutdown => exact ⟨rfl, works, gone.forgotten⟩
  | _ => exact ⟨gone.missing, works, gone.forgotten⟩

end Standing

namespace Activity

variable {σ : Type} [Backend σ] {activity : Activity σ} {move : Move σ}

/-! ## Runs -/

inductive Discards (activity : Activity σ) : Move σ → Prop where
  | rejected {message reason : String}
      (read : Refresh.Answer.read message = .ok (.rejected reason))
      (initialized : activity.keeper.phase ≠ .uninitialized) : Discards activity (.answer message)
  | cleared : Discards activity .clear

variable [Reliable σ]

open Reliable (Works)

def BringsNoToken : List (Move σ) → Activity σ → Prop
  | [], _ => True
  | move :: rest, activity =>
      move.BringsNoToken activity.device.store ∧ BringsNoToken rest (activity.step move)

theorem gone_of_discards (works : Works activity.device.store)
    (discards : activity.Discards move) : (activity.step move).standing.Gone := by
  cases discards with
  | cleared => exact .of_cleared works rfl rfl
  | rejected read initialized =>
      unfold standing
      simp only [step, device_goOn]
      rw [Device.applyAnswer_cleared read initialized]
      exact .of_cleared works rfl rfl

theorem gone_run {moves : List (Move σ)} (gone : activity.standing.Gone)
    (brings : BringsNoToken moves activity) : (activity.run moves).standing.Gone := by
  induction moves generalizing activity with
  | nil => exact gone
  | cons move rest induction =>
      exact induction ((activity.step_goes move).gone gone brings.1) brings.2

/-- The device begins to keep the stored token in a run, after it was shut down, and no token was
dropped from the store before. -/
def Restarts (moves : List (Move σ)) (activity : Activity σ) : Prop :=
  ∃ first last, moves = first ++ .load :: last ∧
    (activity.run first).keeper.phase = .uninitialized ∧ activity.Without Discards first

omit [Reliable σ] in
theorem Restarts.cons {moves : List (Move σ)} (restarts : (activity.step move).Restarts moves)
    (kept : ¬ activity.Discards move) : activity.Restarts (move :: moves) := by
  rcases restarts with ⟨first, last, rfl, uninitialized, without⟩
  exact ⟨move :: first, last, rfl, uninitialized, kept, without⟩

/-- A token that is not held is not held later either, unless one is stored, or the device begins
to keep one that has stayed in the store. -/
theorem missing_or_restarts {moves : List (Move σ)} (works : Works activity.device.store)
    (missing : activity.keeper.record = none) (brings : BringsNoToken moves activity) :
    (activity.run moves).keeper.record = none ∨ activity.Restarts moves := by
  induction moves generalizing activity with
  | nil => exact .inl missing
  | cons move rest induction =>
      by_cases discards : activity.Discards move
      · -- The store has no token to give either from here on.
        exact .inl (gone_run (gone_of_discards works discards) brings.2).missing
      · by_cases obtains : activity.Obtains move
        · -- This is the first move that may take the token that has stayed in the store.
          cases obtains with
          | loaded uninitialized => exact .inr ⟨[], rest, rfl, uninitialized, trivial⟩
          | stored => exact brings.1.elim
        · have kept := record_step_of_not_obtains missing obtains
          have working : Works (activity.step move).device.store :=
            (activity.step_goes move).works works brings.1
          rcases induction working kept brings.2 with later | restarts
          · exact .inl later
          · exact .inr (restarts.cons discards)

/-- A token that was rejected or cleared is not held again after any run, as long as the store
works and no token is stored. One that was given up is not held again either, unless the
device begins to keep the stored token anew. -/
theorem dropped_run (settings : Settings) (address : Address) (now : UInt32) (random : Octets)
    (store : σ) (before after : List (Move σ)) (move : Move σ) :
    let activity := (start settings address now random store).run before
    Works activity.device.store → BringsNoToken (move :: after) activity →
      (activity.Discards move →
        ((activity.step move).run after).keeper.record = none) ∧
      (activity.GivesUp move → (activity.step move).keeper.record = none ∧
        (((activity.step move).run after).keeper.record = none ∨
          (activity.step move).Restarts after)) := by
  intro activity works brings
  constructor
  · intro discards
    exact (gone_run (gone_of_discards works discards) brings.2).missing
  · intro givesUp
    have working : Works (activity.step move).device.store :=
      (activity.step_goes move).works works brings.1
    exact ⟨givesUp.missing, missing_or_restarts working givesUp.missing brings.2⟩

def awaitAnswer : List (Move Memory) :=
  [.load, .connect, .hold "abcdefghijklmnop" 3600, .arrange 0, .refresh, .enter 1,
    .sent 1 (.ok ())]

def rejectToken : Move Memory := .answer "\x7b\"type\":\"auth/error\",\"reason\":\"gone\"\x7d"

def tryOnce : Activity Memory :=
  start { refreshRetries := 0 } sample.device.address 1000 [] {}

def refreshUnconnected : List (Move Memory) :=
  [.load, .hold "abcdefghijklmnop" 3600, .arrange 0, .refresh, .enter 1]

theorem givesUp_refreshUnconnected : (tryOnce.run refreshUnconnected).GivesUp (.report 1) := by
  refine ⟨AuthEvent.reports 0 1 (Failure.link .unavailable).message, 1, ?_, ?_⟩
  all_goals decide +kernel

theorem dropped_rejectToken :
    Works (sample.run awaitAnswer).device.store ∧
      BringsNoToken (rejectToken :: [.shutdown, .load, .refresh]) (sample.run awaitAnswer) ∧
      (sample.run awaitAnswer).Discards rejectToken ∧
      (((sample.run awaitAnswer).step rejectToken).run [.shutdown, .load, .refresh]).keeper.record =
        none ∧
      Works (tryOnce.run refreshUnconnected).device.store ∧
      BringsNoToken (.report 1 :: [.shutdown, .refresh]) (tryOnce.run refreshUnconnected) ∧
      (tryOnce.run refreshUnconnected).GivesUp (.report 1) ∧
      (((tryOnce.run refreshUnconnected).step (.report 1)).run
        [.shutdown, .refresh]).keeper.record = none := by
  have works : Works (sample.run awaitAnswer).device.store ∧
      Works (tryOnce.run refreshUnconnected).device.store := by
    show Memory.Works _ ∧ Memory.Works _
    refine ⟨⟨?_, ?_⟩, ⟨?_, ?_⟩⟩
    all_goals decide +kernel
  have discards : (sample.run awaitAnswer).Discards rejectToken := by
    have read : Refresh.Answer.read
        "\x7b\"type\":\"auth/error\",\"reason\":\"gone\"\x7d" = .ok (.rejected "gone") := by
      decide +kernel
    exact .rejected read (by decide +kernel)
  have brings : BringsNoToken (rejectToken :: [.shutdown, .load, .refresh])
      (sample.run awaitAnswer) := ⟨trivial, trivial, trivial, trivial, trivial⟩
  have silent : BringsNoToken (.report 1 :: [.shutdown, .refresh])
      (tryOnce.run refreshUnconnected) := ⟨trivial, trivial, trivial, trivial⟩
  have stopped : ¬ ((tryOnce.run refreshUnconnected).step (.report 1)).Restarts
      [.shutdown, .refresh] := by
    rintro ⟨first, last, split, _⟩
    have member : Move.load ∈ ([.shutdown, .refresh] : List (Move Memory)) := by simp [split]
    simp at member
  have rejected := dropped_run {} sample.device.address 1000 [] ({} : Memory) awaitAnswer
    [.shutdown, .load, .refresh] rejectToken works.1 brings
  have givenUp := dropped_run { refreshRetries := 0 } sample.device.address 1000 []
    ({} : Memory) refreshUnconnected [.shutdown, .refresh] (.report 1) works.2 silent
  exact ⟨works.1, brings, discards, rejected.1 discards, works.2, silent,
    givesUp_refreshUnconnected,
    (givenUp.2 givesUp_refreshUnconnected).2.resolve_right stopped⟩

/-- A token that was given up is held again when the device is shut down and begins anew. -/
theorem record_restart_givenUp :
    let settings : Settings := { refreshRetries := 0 }
    let activity := tryOnce.run refreshUnconnected
    settings.check = .ok () ∧ Works activity.device.store ∧ activity.GivesUp (.report 1) ∧
      BringsNoToken [.report 1, .shutdown, .load] activity ∧
      (activity.step (.report 1)).keeper.record = none ∧
      ((activity.step (.report 1)).run [.shutdown, .load]).keeper.record =
        some ⟨"abcdefghijklmnop", 4600, "000000000000", ""⟩ := by
  intro settings activity
  refine ⟨by decide +kernel, ⟨?_, ?_⟩, givesUp_refreshUnconnected,
    ⟨trivial, trivial, trivial, trivial⟩, ?_, ?_⟩
  all_goals decide +kernel

end Activity

end DeviceAuth
