import DeviceAuth.Bench.Run

/-! What can be seen of the bench: what a step changed in the store, and the events
that a listener hears who listens after every step only. -/

namespace DeviceAuth

namespace Bench

def startRecording (bench : Bench) : Bench :=
  { bench with
    device := { bench.device with
      store := { bench.device.store with calls := [] }
      keeper := { bench.device.keeper with events := [] }
      session := { bench.device.session with events := [] } }
    results := []
    requests := []
    messages := []
    notices := [] }

def look? (bench : Bench) (location : Location) : Option Octets :=
  bench.device.store.store.look? location

def changes (before after : Bench) : List (Location × Option Octets) :=
  (after.device.store.touched.filter fun location =>
      before.look? location ≠ after.look? location).map
    fun location => (location, after.look? location)

def lastGrant (former : Option Claim.Grant) (results : List CallResult) : Option Claim.Grant :=
  results.foldl
    (fun last result =>
      match result with
      | .granted (.ok grant) => some grant
      | _ => last)
    former

def greatestBacklog : Nat := 16

def heard {α : Type} (events : List α) : Nat × List α :=
  (events.length - greatestBacklog, events.drop (events.length - greatestBacklog))

end Bench

end DeviceAuth
