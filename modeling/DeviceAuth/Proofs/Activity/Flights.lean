import DeviceAuth.Proofs.Activity.Flag

/-! Requests in flight. The flag is meant to keep a second request from being sent while
one is in flight. It does if no one comes in between a refresh that takes the flag and
its request, and if no one goes away whose request was given up already: whoever goes
away frees the flag without asking whose it is. -/

namespace DeviceAuth

namespace Activity

variable {σ : Type} {activity : Activity σ} {generation : UInt64}

/-- Whether a move ends the flight of a request: its sending fails or its caller goes
away, it is answered, it lapses, or everything is given up. -/
def lands (activity : Activity σ) (generation : UInt64) : Move σ → Bool
  | .sent call (.error _) => activity.calls call = some (.sending generation)
  | .drop call _ => activity.calls call = some (.sending generation)
  | .answer message =>
      (Refresh.Answer.read message).isOk && activity.keeper.phase ≠ .uninitialized
  | .hold token _ => !token.isEmpty && activity.keeper.phase ≠ .uninitialized
  | .clear => true
  | .shutdown => true
  | move => activity.delivers move = some generation

variable [Backend σ]

def takeOff (activity : Activity σ) : Move σ → Option UInt64
  | .enter call =>
      match activity.calls call, (activity.step (.enter call)).calls call with
      | some .entering, some (.sending generation) => some generation
      | _, _ => none
  | _ => none

def fly (activity : Activity σ) (move : Move σ) (flights : List UInt64) : List UInt64 :=
  (flights.filter fun generation => !activity.lands generation move) ++
    (activity.takeOff move).toList

def flights : List (Move σ) → Activity σ → List UInt64 → List UInt64
  | [], _, current => current
  | move :: rest, activity, current =>
      flights rest (activity.step move) (activity.fly move current)

omit [Backend σ] in
def Holds (activity : Activity σ) (call : Nat) : Prop :=
  activity.calls call = some .entering ∨ activity.calls call = some .refused

/-- A move that lets a refresh which has the flag go on, and is not the end of one whose
request was given up. -/
structure IsOrderly (activity : Activity σ) (move : Move σ) : Prop where
  own : ∀ call, activity.Holds call → move.call? = some call
  kept : ∀ call lockFree generation, move = .drop call lockFree →
    activity.calls call = some (.sending generation) → activity.keeper.IsAwaited generation

def AreOrderly : List (Move σ) → Activity σ → Prop
  | [], _ => True
  | move :: rest, activity => activity.IsOrderly move ∧ AreOrderly rest (activity.step move)

/-- The flag has one owner: a call that holds it, or a request in flight. -/
structure HasOneOwner (activity : Activity σ) (current : List UInt64) : Prop where
  numbered : activity.Numbered
  flown : ∀ generation ∈ current,
    activity.keeper.inFlight = true ∧ activity.keeper.IsAwaited generation
  alone : current.length ≤ 1
  held : ∀ call, activity.Holds call → activity.keeper.inFlight = true ∧ current = []
  unique : ∀ call other, activity.Holds call → activity.Holds other → call = other

theorem flown_step {move : Move σ} (orderly : activity.IsOrderly move)
    (none : ∀ call, ¬ activity.Holds call) (flag : activity.keeper.inFlight = true)
    (awaited : activity.keeper.IsAwaited generation)
    (flies : activity.lands generation move = false) :
    (activity.step move).keeper.inFlight = true ∧
      (activity.step move).keeper.IsAwaited generation := by
  have initialized : activity.keeper.phase ≠ .uninitialized := by
    rw [awaited.2]
    nofun
  have same : ∀ after : Activity σ, after.keeper.inFlight = activity.keeper.inFlight →
      after.keeper.generation = activity.keeper.generation →
      after.keeper.phase = activity.keeper.phase →
      after.keeper.inFlight = true ∧ after.keeper.IsAwaited generation := by
    intro after inFlight number phase
    exact ⟨inFlight.trans flag, number.trans awaited.1, phase.trans awaited.2⟩
  -- The failure of another refresh is passed over.
  have passed : ∀ number, number ≠ generation → ¬ activity.keeper.IsAwaited number :=
    fun number other stale => other (stale.1.symm.trans awaited.1)
  cases move with
  | surroundings => exact same _ rfl rfl rfl
  | connect => exact same _ rfl rfl rfl
  | load =>
      simp only [step, Device.takeStored_of_initialized initialized]
      exact same _ rfl rfl rfl
  | hold token lifetime =>
      have refused : token.isEmpty = true ∨ activity.device.keeper.phase = .uninitialized :=
        .inl (by simpa [lands, initialized] using flies)
      rcases Device.holdToken_error lifetime refused with ⟨_, _, held⟩
      simp only [step]
      rw [held]
      exact same _ rfl rfl rfl
  | schedule =>
      rcases Keeper.schedule_kept activity.device.settings activity.device.now
        activity.device.keeper with ⟨inFlight, number, phase⟩
      exact same _ inFlight number phase
  | allow => exact same _ rfl rfl rfl
  | answer message =>
      have unread : ∀ answer, Refresh.Answer.read message ≠ .ok answer := by
        intro answer read
        simp [lands, initialized, read, Except.isOk, Except.toBool] at flies
      rcases activity.device.applyAnswer_error message (.inl unread) with ⟨_, refused⟩
      simp only [step]
      rw [refused]
      exact same _ rfl rfl rfl
  | clear => cases flies
  | shutdown => cases flies
  | confirm => exact same _ rfl rfl rfl
  | deny => exact same _ rfl rfl rfl
  | refresh =>
      simp only [step, takeFlag, Keeper.takeFlag?, if_pos flag]
      exact same _ rfl rfl rfl
  | begin task =>
      simp only [step]
      split
      next =>
        have taken : (activity.onKeeper (Keeper.endTask task)).keeper.takeFlag? = Option.none :=
          if_pos flag
        simp only [takeFlag, taken]
        exact same _ rfl rfl rfl
      next => exact same _ rfl rfl rfl
  | wake task =>
      simp only [step, onDevice, Device.wakeTask]
      split
      next => exact same _ rfl rfl rfl
      next number limit armed =>
        have other : number ≠ generation := by
          rintro rfl
          simp [lands, delivers_wake armed] at flies
        have stale : ¬ (activity.device.onKeeper (Keeper.endTask task)).keeper.IsAwaited
            number := passed number other
        rw [Device.failRefresh_of_not stale]
        exact same _ rfl rfl rfl
      next => exact same _ rfl rfl rfl
  | expire task =>
      simp only [step]
      split
      all_goals exact same _ rfl rfl rfl
  | enter call =>
      have free : activity.calls call ≠ some .entering := fun entering =>
        none call (.inl entering)
      simp only [step]
      exact same _ rfl rfl rfl
  | release call =>
      have free : activity.calls call ≠ some .refused := fun refused =>
        none call (.inr refused)
      rw [step_release_of_ne free]
      exact same _ rfl rfl rfl
  | sent call result =>
      simp only [step]
      split
      all_goals exact same _ rfl rfl rfl
  | report call =>
      simp only [step]
      split
      next number reason failing =>
        have other : number ≠ generation := by
          rintro rfl
          simp [lands, delivers_report failing] at flies
        have stale : ¬ activity.device.keeper.IsAwaited number := passed number other
        simp only [onDevice, Device.failRefresh_of_not stale]
        exact same _ rfl rfl rfl
      next => exact same _ rfl rfl rfl
  | drop call lockFree =>
      simp only [step]
      split
      next entering => exact absurd (.inl entering) (none call)
      next number sending =>
        have current := orderly.kept call lockFree number rfl sending
        have equal : number = generation := current.1.symm.trans awaited.1
        simp [lands, sending, equal] at flies
      next => exact same _ rfl rfl rfl
      next => exact same _ rfl rfl rfl
  | arrange call =>
      simp only [step]
      split
      next =>
        rcases Keeper.schedule_kept activity.device.settings activity.device.now
          activity.device.keeper with ⟨inFlight, number, phase⟩
        exact same _ inFlight number phase
      next => exact same _ rfl rfl rfl

theorem holds_step {move : Move σ} {call : Nat} (holds : (activity.step move).Holds call) :
    activity.Holds call ∨ activity.keeper.inFlight = false ∧ call = activity.nextCall ∧
      (activity.step move).keeper.inFlight = true := by
  unfold Holds at holds
  cases activity.step_callEffect move with
  | same calls =>
      rw [calls] at holds
      exact .inl holds
  | began calls _ other =>
      rw [calls] at holds
      by_cases new : call = activity.nextCall
      · rw [new, calls_beginCall_next] at holds
        rcases holds with entering | refused
        · exact absurd (Option.some.inj entering) other.1
        · exact absurd (Option.some.inj refused) other.2
      · rw [calls_beginCall_of_ne _ new] at holds
        exact .inl holds
  | took free taken calls =>
      rw [calls] at holds
      by_cases new : call = activity.nextCall
      · exact .inr ⟨free, new, taken⟩
      · rw [calls_beginCall_of_ne _ new] at holds
        exact .inl holds
  | moved own present calls next flagged =>
      rename_i mover before stage
      rw [calls] at holds
      by_cases same : call = mover
      · rw [same, calls_setCall_same] at holds
        rw [same]
        left
        left
        rw [present, flagged holds]
      · rw [calls_setCall_other _ same] at holds
        exact .inl holds

theorem inFlight_of_holds {move : Move σ} {call : Nat} (holds : activity.Holds call)
    (own : move.call? = some call) (after : (activity.step move).Holds call) :
    (activity.step move).keeper.inFlight = activity.keeper.inFlight := by
  unfold Holds at after
  rcases holds with entering | refused
  · cases move with
    | enter actor =>
        cases own
        simp only [step, entering] at after ⊢
        rcases activity.enter_cases call with ⟨equal, _⟩ | ⟨_, _, _, request, equal⟩
        · rw [equal]
          rfl
        · rcases Keeper.enterRefresh_ok request with ⟨_, _, _, _, _, rfl⟩
          rw [equal]
          rfl
    | drop actor lockFree =>
        cases own
        simp only [step, entering, calls_setCall_same] at after
        rcases after with impossible | impossible
        all_goals cases impossible
    | _ =>
        cases own
        all_goals
          simp only [step, entering]
  · cases move with
    | release actor =>
        cases own
        rw [step_release refused, calls_setCall_same] at after
        rcases after with impossible | impossible
        all_goals cases impossible
    | _ =>
        cases own
        all_goals
          simp only [step, refused]

theorem takeOff_some {move : Move σ} (begun : activity.takeOff move = some generation) :
    ∃ call, move = .enter call ∧ activity.calls call = some .entering ∧
      (activity.step (.enter call)).calls call = some (.sending generation) := by
  cases move with
  | enter call =>
      simp only [takeOff] at begun
      split at begun
      next entering sending =>
        cases begun
        exact ⟨call, rfl, entering, sending⟩
      next => cases begun
  | _ => cases begun

theorem awaited_of_sending {call : Nat} (entering : activity.calls call = some .entering)
    (sending : (activity.step (.enter call)).calls call = some (.sending generation)) :
    (activity.step (.enter call)).keeper.inFlight = activity.keeper.inFlight ∧
      (activity.step (.enter call)).keeper.IsAwaited generation := by
  simp only [step, entering] at sending ⊢
  rcases activity.enter_cases call with ⟨equal, _⟩ | ⟨number, _, entered, request, equal⟩
  · rw [equal, calls_setCall_same] at sending
    cases sending
  · rw [equal, calls_setCall_same] at sending
    rw [equal]
    have same : number = generation := by
      split at sending
      next => cases sending; rfl
      next => cases sending
    rcases Keeper.enterRefresh_ok request with ⟨_, _, _, made, _, rfl⟩
    exact ⟨rfl, made.symm.trans same, rfl⟩

theorem HasOneOwner.step {current : List UInt64} (owner : activity.HasOneOwner current)
    {move : Move σ} (orderly : activity.IsOrderly move) :
    (activity.step move).HasOneOwner (activity.fly move current) := by
  have grounded : ∀ call, activity.Holds call → current = [] := fun call holds =>
    (owner.held call holds).2
  have flying : ∀ begun, activity.takeOff move = some begun → current = [] := by
    intro begun takenOff
    rcases takeOff_some takenOff with ⟨call, _, entering, _⟩
    exact grounded call (.inl entering)
  constructor
  case numbered => exact owner.numbered.step move
  case flown =>
    intro generation member
    rw [fly, List.mem_append, List.mem_filter, Option.mem_toList] at member
    rcases member with ⟨old, flies⟩ | begun
    · have flown := owner.flown generation old
      have none : ∀ call, ¬ activity.Holds call := by
        intro call holds
        rw [grounded call holds] at old
        cases old
      exact flown_step orderly none flown.1 flown.2 (by simpa using flies)
    · rcases takeOff_some begun with ⟨call, rfl, entering, sending⟩
      have awaited := awaited_of_sending entering sending
      rw [(owner.held call (.inl entering)).1] at awaited
      exact awaited
  case alone =>
    cases begun : activity.takeOff move with
    | none =>
        simp only [fly, begun, Option.toList_none, List.append_nil]
        exact Nat.le_trans (List.length_filter_le _ _) owner.alone
    | some generation => simp [fly, begun, flying generation begun]
  case held =>
    intro call holds
    rcases holds_step holds with before | ⟨free, _, taken⟩
    · have own := orderly.own call before
      refine ⟨(inFlight_of_holds before own holds).trans (owner.held call before).1, ?_⟩
      cases begun : activity.takeOff move with
      | none => simp [fly, begun, grounded call before]
      | some generation =>
          rcases takeOff_some begun with ⟨actor, rfl, _, sending⟩
          cases own
          rcases holds with impossible | impossible
          all_goals
            rw [sending] at impossible
            cases impossible
    · refine ⟨taken, ?_⟩
      have empty : current = [] := by
        rw [List.eq_nil_iff_forall_not_mem]
        intro generation member
        rw [(owner.flown generation member).1] at free
        cases free
      cases begun : activity.takeOff move with
      | none => simp [fly, begun, empty]
      | some generation =>
          rcases takeOff_some begun with ⟨actor, _, entering, _⟩
          rw [(owner.held actor (.inl entering)).1] at free
          cases free
  case unique =>
    intro call other callHolds otherHolds
    rcases holds_step callHolds with first | ⟨free, first, _⟩
    · rcases holds_step otherHolds with second | ⟨free, _⟩
      · exact owner.unique call other first second
      · rw [(owner.held call first).1] at free
        cases free
    · rcases holds_step otherHolds with second | ⟨_, second, _⟩
      · rw [(owner.held other second).1] at free
        cases free
      · rw [first, second]

theorem hasOneOwner_run {current : List UInt64} {moves : List (Move σ)}
    (owner : activity.HasOneOwner current) (orderly : AreOrderly moves activity) :
    (activity.run moves).HasOneOwner (flights moves activity current) := by
  induction moves generalizing activity current with
  | nil => exact owner
  | cons move rest induction => exact induction (owner.step orderly.1) orderly.2

/-- At most one request is in flight, if nobody comes in between a refresh that takes the
flag and its request, and nobody goes away whose request was given up already. -/
theorem length_flights_le_one (settings : Settings) (address : Address) (now : UInt32)
    (random : Octets) (store : σ) {moves : List (Move σ)}
    (orderly : AreOrderly moves (start settings address now random store)) :
    (flights moves (start settings address now random store) []).length ≤ 1 := by
  have owner : (start settings address now random store).HasOneOwner [] := {
    numbered := fun _ _ => rfl
    flown := fun _ member => by cases member
    alone := Nat.zero_le 1
    held := fun _ holds => by rcases holds with impossible | impossible <;> cases impossible
    unique := fun _ _ holds => by rcases holds with impossible | impossible <;> cases impossible }
  exact (hasOneOwner_run owner orderly).alone

def dropReplaced : List (Move Memory) :=
  [.load, .connect, .hold "abcdefghijklmnop" 3600, .arrange 0, .refresh, .enter 1,
    .hold "qrstuvwxyzabcdef" 3600, .arrange 2, .refresh, .enter 3, .drop 1 true, .refresh,
    .enter 4]

/-- In a run that is not orderly a second request can be in flight: whoever goes away
frees the flag of a request that is not his. -/
theorem not_length_flights_le_one :
    ¬ ∀ moves : List (Move Memory), (flights moves sample []).length ≤ 1 := by
  intro bounded
  have two : flights dropReplaced sample [] = [2, 3] := by decide +kernel
  have one := bounded dropReplaced
  rw [two] at one
  exact absurd one (by decide)

end Activity

end DeviceAuth
