import DeviceAuth.Claim.Effort
import DeviceAuth.Provisioning.Session
import DeviceAuth.Token.Keeper
import DeviceAuth.Token.Refresh

/-! The device: its store, the keeper of its token and its provisioning session, with
the clocks and the random octets that they use. The operations of the device are
put together here from those of its parts. An operation that has to wait for
somebody is given in pieces, one for each time it goes on; between the pieces
anything else may happen. -/

namespace DeviceAuth

structure Device (σ : Type) where
  settings : Settings
  address : Address
  now : UInt32
  elapsed : Span := Span.zero
  random : Octets
  store : σ
  keeper : Keeper
  session : Provisioning.Session := {}

namespace Device

def create {σ : Type} (settings : Settings) (address : Address) (now : UInt32) (random : Octets)
    (store : σ) : Device σ := {
  settings := settings
  address := address
  now := now
  random := random
  store := store
  keeper := Keeper.create settings
}

variable {σ : Type} [Backend σ]

def run {α : Type} (program : Program α) (device : Device σ) : α × Device σ :=
  let (result, store) := program.run device.store
  (result, { device with store := store })

def perform {α : Type} (action : Action α) (device : Device σ) :
    Except StoreFailure α × Device σ :=
  let (result, store) := action.perform device.store
  (result, { device with store := store })

omit [Backend σ] in
def onKeeper (change : Keeper → Keeper) (device : Device σ) : Device σ :=
  { device with keeper := change device.keeper }

omit [Backend σ] in
def emit (event : AuthEvent) (device : Device σ) : Device σ :=
  device.onKeeper (·.emit event)

end Device

def ofStore {α : Type} : Except StoreFailure α → Except Failure α
  | .ok value => .ok value
  | .error failure => .error (.store failure)

end DeviceAuth
