import DeviceAuth.Storage.Operation

/-! Operations that do not come to their end. A device may lose its power after any call of
an operation: the calls before are done, and the rest is not. -/

namespace DeviceAuth

namespace Program

def cut {α : Type} : Nat → Program α → Program (Option α)
  | _, .done result => .done (some result)
  | 0, _ => .done none
  | calls + 1, .get location next => .get location fun answer => (next answer).cut calls
  | calls + 1, .set location value next =>
      .set location value fun answer => (next answer).cut calls
  | calls + 1, .remove location next => .remove location fun answer => (next answer).cut calls
  | calls + 1, .commit space next => .commit space fun answer => (next answer).cut calls

end Program

namespace Credentials

structure Trial where
  operation : Operation
  calls : Option Nat := none

namespace Trial

variable {σ : Type} [Backend σ]

def step (trial : Trial) (store : σ) : σ :=
  match trial.calls with
  | none => trial.operation.step store
  | some calls => ((trial.operation.action.run.cut calls).run store).2

def run : List Trial → σ → σ
  | [], store => store
  | trial :: rest, store => run rest (trial.step store)

end Trial

end Credentials

end DeviceAuth
