import DeviceAuth.Device

/-! Provisioning the device: the calls of its session, with its store and the time
since it was switched on. -/

namespace DeviceAuth

namespace Device

variable {σ : Type} [Backend σ]

omit [Backend σ] in
def onSession (change : Provisioning.Session → Provisioning.Session) (device : Device σ) :
    Device σ :=
  { device with session := change device.session }

omit [Backend σ] in
def startSession (device : Device σ) : Except Failure Unit × Device σ :=
  let (result, session) := device.session.start device.elapsed
  (result, { device with session := session })

def handlePacket (packet : Octets) (device : Device σ) : Reply × Device σ :=
  let (reply, session, store) :=
    device.session.handlePacket device.settings device.elapsed packet device.store
  (reply, { device with session := session, store := store })

omit [Backend σ] in
def checkTimeout (device : Device σ) : Bool × Device σ :=
  let (ended, session) := device.session.checkTimeout device.settings device.elapsed
  (ended, { device with session := session })

omit [Backend σ] in
def launchWatchdog (device : Device σ) : Except Abort Unit × Device σ :=
  let (result, session) := device.session.launchWatchdog device.settings
  (result, { device with session := session })

omit [Backend σ] in
def wakeWatchdog (watchdog : Nat) (device : Device σ) : Option Reply × Device σ :=
  let (reply, session) := device.session.wakeWatchdog device.settings device.elapsed watchdog
  (reply, { device with session := session })

end Device

end DeviceAuth
