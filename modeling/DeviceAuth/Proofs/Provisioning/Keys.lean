import DeviceAuth.Proofs.Provisioning.Packets

/-! The key of a session is good for one success. A session that succeeds, or whose time is
up, drops its key, and no call but the one that loads a key gives it one again. So a key was
loaded between such an end and a later success, and until then no packet is accepted, be it
new or one that was accepted before. -/

namespace DeviceAuth

namespace Provisioning

def Call.loadsKey {σ : Type} : Call σ → Bool
  | .setKey _ => true
  | _ => false

namespace Progress

variable {σ : Type} {settings : Settings} {now : Span} {before after : Progress} {call : Call σ}

theorem Turns.tells_or_same (turns : Turns settings now before call after) :
    (∃ event, after.events = before.events ++ [event]) ∨ after.events = before.events := by
  cases turns with
  | start => exact .inl ⟨.started, rfl⟩
  | expire => exact .inl ⟨.timedOut, rfl⟩
  | accept => exact .inl ⟨.succeeded, rfl⟩
  | fail rejection => exact .inl ⟨.failed rejection, rfl⟩
  | stop => exact .inl ⟨.stopped, rfl⟩
  | _ => exact .inr rfl

theorem Turns.key_of_told (turns : Turns settings now before call after) {event : Event}
    (told : after.events = before.events ++ [event]) :
    (event = .succeeded → before.key ≠ none) ∧
      (event = .succeeded ∨ event = .timedOut → after.key = none) := by
  have told_eq : ∀ {other : Event}, before.events ++ [other] = before.events ++ [event] →
      event = other := by
    intro other equal
    exact (List.singleton_inj.mp (List.append_cancel_left equal)).symm
  cases turns with
  | start =>
      obtain rfl := told_eq told
      exact ⟨nofun, nofun⟩
  | expire =>
      obtain rfl := told_eq told
      exact ⟨nofun, fun _ => rfl⟩
  | accept _ present =>
      obtain rfl := told_eq told
      exact ⟨fun _ => present, fun _ => rfl⟩
  | fail =>
      obtain rfl := told_eq told
      exact ⟨nofun, nofun⟩
  | stop =>
      obtain rfl := told_eq told
      exact ⟨nofun, nofun⟩
  | _ => exact absurd told (by simp [again])

theorem Turns.key_eq_none (turns : Turns settings now before call after)
    (absent : before.key = none) (other : call.loadsKey = false) : after.key = none := by
  cases turns with
  | setKey => cases other
  | clearKey => rfl
  | expire => rfl
  | accept => rfl
  | _ => exact absent

end Progress

namespace Sitting

variable {σ : Type} [Backend σ] {settings : Settings} {sitting : Sitting σ}

def Tells (settings : Settings) (timed : TimedCall σ) (sitting : Sitting σ) (event : Event) :
    Prop :=
  (sitting.step settings timed).session.events = sitting.session.events ++ [event]

/-- A call ends the session in such a way that the key is spent. -/
def Spends (settings : Settings) (timed : TimedCall σ) (sitting : Sitting σ) : Prop :=
  sitting.Tells settings timed .succeeded ∨ sitting.Tells settings timed .timedOut

theorem Tells.key_ne_none {timed : TimedCall σ} (told : sitting.Tells settings timed .succeeded) :
    sitting.session.key ≠ none :=
  ((step_turns settings timed sitting).key_of_told told).1 rfl

theorem Spends.key_eq_none {timed : TimedCall σ} (spends : sitting.Spends settings timed) :
    (sitting.step settings timed).session.key = none := by
  have turns := step_turns settings timed sitting
  rcases spends with told | told
  · exact (turns.key_of_told told).2 (.inl rfl)
  · exact (turns.key_of_told told).2 (.inr rfl)

theorem key_run_eq_none {course : Course σ} (absent : sitting.session.key = none)
    (unloaded : ∀ timed ∈ course, timed.call.loadsKey = false) :
    (sitting.run settings course).session.key = none := by
  induction course generalizing sitting with
  | nil => exact absent
  | cons timed rest induction =>
      apply induction
      · exact (step_turns settings timed sitting).key_eq_none absent (unloaded timed (.head rest))
      · exact fun later member => unloaded later (.tail timed member)

/-- How a session uses its keys in a course. -/
structure SpendsKeys (settings : Settings) (course : Course σ) (sitting : Sitting σ) : Prop where
  singly : ∀ timed, (∃ event, (sitting.run settings course).Tells settings timed event) ∨
    ((sitting.run settings course).step settings timed).session.events =
      (sitting.run settings course).session.events
  reloaded : ∀ front first middle last back, course = front ++ first :: (middle ++ last :: back) →
    (sitting.run settings front).Spends settings first →
    (sitting.run settings (front ++ first :: middle)).Tells settings last .succeeded →
    ∃ timed ∈ middle, timed.call.loadsKey = true
  refused : ∀ front first back, course = front ++ first :: back →
    (sitting.run settings front).Spends settings first →
    (∀ timed ∈ back, timed.call.loadsKey = false) →
    ∀ now octets, ((sitting.run settings course).session.handlePacket settings now octets
      (sitting.run settings course).store).1 ≠ .accepted

theorem key_of_spends {front middle : Course σ} {first : TimedCall σ}
    (spends : (sitting.run settings front).Spends settings first)
    (unloaded : ∀ timed ∈ middle, timed.call.loadsKey = false) :
    (sitting.run settings (front ++ first :: middle)).session.key = none := by
  rw [run_append]
  show (((sitting.run settings front).step settings first).run settings middle).session.key = none
  exact key_run_eq_none spends.key_eq_none unloaded

/-- In every course a key is good for one success. -/
theorem spendsKeys_run (settings : Settings) (course : Course σ) (sitting : Sitting σ) :
    SpendsKeys settings course sitting := by
  constructor
  case singly => exact fun timed => (step_turns settings timed _).tells_or_same
  case reloaded =>
    intro front first middle last back _ spends succeeded
    by_cases loaded : ∃ timed ∈ middle, timed.call.loadsKey = true
    · exact loaded
    · have unloaded : ∀ timed ∈ middle, timed.call.loadsKey = false := by
        intro timed member
        exact Bool.eq_false_iff.mpr fun loads => loaded ⟨timed, member, loads⟩
      exact absurd (key_of_spends spends unloaded) succeeded.key_ne_none
  case refused =>
    rintro front first back rfl spends unloaded now octets accepted
    obtain ⟨_, details, found, _⟩ := Session.handlePacket_accepted_iff.mp accepted
    obtain ⟨key, _, present, _⟩ := Session.examine_eq_ok_iff.mp found
    rw [key_of_spends spends unloaded] at present
    cases present

end Sitting

end Provisioning

end DeviceAuth
