import DeviceAuth.Proofs.Storage.Honest
import DeviceAuth.Storage.Monitor

/-! Stores under observation. A call that is made to fail never reaches the store, and every
other call does to the store what it would do without an observer. So a store that is
honest stays so when it is observed, and it can be made to fail at any write. -/

namespace DeviceAuth

namespace Monitored

variable {σ : Type} [Backend σ]

structure Relays {α : Type} (toFailure : Monitored σ → Nat) (failure : StoreFailure)
    (before : Monitored σ) (real : Except StoreFailure α × Monitored σ)
    (inner : Except StoreFailure α × σ) : Prop where
  result : real.1 = (if toFailure before = 1 then (.error failure, before.store) else inner).1
  store : real.2.store = (if toFailure before = 1 then (.error failure, before.store) else inner).2
  reads : real.2.readsToFailure ≤ before.readsToFailure
  writes : real.2.writesToFailure ≤ before.writesToFailure

section Calls

variable (before : Monitored σ)

theorem relays_get (location : Location) :
    Relays readsToFailure (.read location scheduled) before (Backend.get location before)
      (Backend.get location before.store) :=
  ⟨rfl, rfl, Nat.sub_le _ 1, Nat.le_refl _⟩

theorem relays_set (location : Location) (value : Octets) :
    Relays writesToFailure (.write location scheduled) before (Backend.set location value before)
      (Backend.set location value before.store) :=
  ⟨rfl, rfl, Nat.le_refl _, Nat.sub_le _ 1⟩

theorem relays_remove (location : Location) :
    Relays writesToFailure (.write location scheduled) before (Backend.remove location before)
      (Backend.remove location before.store) :=
  ⟨rfl, rfl, Nat.le_refl _, Nat.sub_le _ 1⟩

theorem relays_commit (space : String) :
    Relays writesToFailure (.write (Backend.wholeSpace space) scheduled) before
      (Backend.commit space before) (Backend.commit space before.store) :=
  ⟨rfl, rfl, Nat.le_refl _, Nat.sub_le _ 1⟩

end Calls

variable [Honest σ]

def shelf (monitored : Monitored σ) : Shelf := Honest.shelf monitored.store

def CanRead (monitored : Monitored σ) : Prop :=
  monitored.readsToFailure = 0 ∧ Honest.CanRead monitored.store

def CanWrite (monitored : Monitored σ) : Prop :=
  monitored.writesToFailure = 0 ∧ Honest.CanWrite monitored.store

theorem Relays.honours {α : Type} {toFailure : Monitored σ → Nat} {failure : StoreFailure}
    {before : Monitored σ} {real : Except StoreFailure α × Monitored σ}
    {inner : Except StoreFailure α × σ} {ideal : Except StoreFailure α × Shelf}
    {able : σ → Prop} (relays : Relays toFailure failure before real inner)
    (honours : Honours Honest.shelf Honest.CanRead Honest.CanWrite able before.store inner
      ideal) :
    Honours shelf CanRead CanWrite
      (fun monitored => toFailure monitored = 0 ∧ able monitored.store) before real ideal := by
  rcases real with ⟨result, after⟩
  rcases relays with ⟨same, kept, reads, writes⟩
  by_cases scheduled : toFailure before = 1
  · rw [if_pos scheduled] at same kept
    refine ⟨.inr ⟨⟨failure, same⟩, congrArg Honest.shelf kept⟩, ?able, ?canRead, ?canWrite⟩
    case able =>
      rintro ⟨unscheduled, _⟩
      rw [unscheduled] at scheduled
      cases scheduled
    case canRead => exact fun can => ⟨Nat.le_zero.mp (can.1 ▸ reads), kept ▸ can.2⟩
    case canWrite => exact fun can => ⟨Nat.le_zero.mp (can.1 ▸ writes), kept ▸ can.2⟩
  · rw [if_neg scheduled] at same kept
    have stored : shelf after = Honest.shelf inner.2 := congrArg Honest.shelf kept
    refine ⟨?outcome, ?able, ?canRead, ?canWrite⟩
    case outcome =>
      rw [same, stored]
      exact honours.outcome
    case able =>
      rintro ⟨_, able⟩
      rw [same, stored]
      exact honours.able able
    case canRead =>
      exact fun can => ⟨Nat.le_zero.mp (can.1 ▸ reads), kept ▸ honours.canRead can.2⟩
    case canWrite =>
      exact fun can => ⟨Nat.le_zero.mp (can.1 ▸ writes), kept ▸ honours.canWrite can.2⟩

instance : Honest (Monitored σ) where
  shelf := shelf
  CanRead := CanRead
  CanWrite := CanWrite
  get location store := (relays_get store location).honours (Honest.get location store.store)
  set location value store :=
    (relays_set store location value).honours (Honest.set location value store.store)
  remove location store :=
    (relays_remove store location).honours (Honest.remove location store.store)
  commit space store := (relays_commit store space).honours (Honest.commit space store.store)

end Monitored

end DeviceAuth
