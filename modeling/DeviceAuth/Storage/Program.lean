import DeviceAuth.Storage.Backend

/-! Storage programs. An operation on a store is a program of single calls of a
backend, each of which may depend on the results of those before it. Running a
program performs its calls in order; what is in the store after only some of them
can be asked as well. -/

namespace DeviceAuth

/-- A program of backend calls with a result. -/
inductive Program (α : Type) where
  | done (result : α)
  | get (location : Location) (next : Except StoreFailure (Option Octets) → Program α)
  | set (location : Location) (value : Octets) (next : Except StoreFailure Unit → Program α)
  | remove (location : Location) (next : Except StoreFailure Unit → Program α)
  | commit (space : String) (next : Except StoreFailure Unit → Program α)

namespace Program

def bind {α β : Type} (program : Program α) (continuation : α → Program β) : Program β :=
  match program with
  | .done result => continuation result
  | .get location next => .get location fun answer => (next answer).bind continuation
  | .set location value next => .set location value fun answer => (next answer).bind continuation
  | .remove location next => .remove location fun answer => (next answer).bind continuation
  | .commit space next => .commit space fun answer => (next answer).bind continuation

instance : Monad Program where
  pure := done
  bind := bind

theorem bind_done {α : Type} (program : Program α) : program.bind done = program := by
  induction program with
  | done result => rfl
  | get location next induction => exact congrArg _ (funext induction)
  | set location value next induction => exact congrArg _ (funext induction)
  | remove location next induction => exact congrArg _ (funext induction)
  | commit space next induction => exact congrArg _ (funext induction)

theorem bind_assoc {α β γ : Type} (program : Program α) (first : α → Program β)
    (second : β → Program γ) :
    (program.bind first).bind second = program.bind fun result => (first result).bind second := by
  induction program with
  | done result => rfl
  | get location next induction => exact congrArg _ (funext induction)
  | set location value next induction => exact congrArg _ (funext induction)
  | remove location next induction => exact congrArg _ (funext induction)
  | commit space next induction => exact congrArg _ (funext induction)

instance : LawfulMonad Program :=
  LawfulMonad.mk' Program (fun program => bind_done program) (fun _ _ => rfl)
    (fun program first second => bind_assoc program first second)

def run {α σ : Type} [Backend σ] (program : Program α) (store : σ) : α × σ :=
  match program with
  | .done result => (result, store)
  | .get location next =>
      let (answer, store) := Backend.get location store
      (next answer).run store
  | .set location value next =>
      let (answer, store) := Backend.set location value store
      (next answer).run store
  | .remove location next =>
      let (answer, store) := Backend.remove location store
      (next answer).run store
  | .commit space next =>
      let (answer, store) := Backend.commit space store
      (next answer).run store

theorem run_bind {α β σ : Type} [Backend σ] (program : Program α)
    (continuation : α → Program β) (store : σ) :
    (program >>= continuation).run store =
      (continuation (program.run store).1).run (program.run store).2 := by
  show (program.bind continuation).run store = _
  induction program generalizing store with
  | done result => rfl
  | get location next induction => exact induction _ _
  | set location value next induction => exact induction _ _
  | remove location next induction => exact induction _ _
  | commit space next induction => exact induction _ _

end Program

abbrev Action := ExceptT StoreFailure Program

namespace Action

def get (location : Location) : Action (Option Octets) :=
  ExceptT.mk (Program.get location Program.done)

def set (location : Location) (value : Octets) : Action Unit :=
  ExceptT.mk (Program.set location value Program.done)

def remove (location : Location) : Action Unit :=
  ExceptT.mk (Program.remove location Program.done)

def commit (space : String) : Action Unit :=
  ExceptT.mk (Program.commit space Program.done)

def perform {α σ : Type} [Backend σ] (action : Action α) (store : σ) :
    Except StoreFailure α × σ :=
  Program.run action.run store

variable {σ : Type} [Backend σ]

theorem perform_commit (space : String) (store : σ) :
    (commit space).perform store = Backend.commit space store := rfl

theorem perform_pure {α : Type} (value : α) (store : σ) :
    (pure value : Action α).perform store = (.ok value, store) := rfl

theorem perform_bind {α β : Type} (action : Action α) (continuation : α → Action β) (store : σ) :
    (action >>= continuation).perform store =
      match action.perform store with
      | (.ok value, store) => (continuation value).perform store
      | (.error failure, store) => (.error failure, store) := by
  show Program.run (Program.bind action.run _) store = _
  have step := Program.run_bind action.run (ExceptT.bindCont continuation) store
  refine step.trans ?_
  show _ = match Program.run action.run store with
    | (.ok value, store) => (continuation value).perform store
    | (.error failure, store) => (.error failure, store)
  rcases Program.run action.run store with ⟨result | result, after⟩ <;> rfl

end Action

end DeviceAuth
