import DeviceAuth.Device.Claim
import DeviceAuth.Device.Provisioning
import DeviceAuth.Provisioning.Course

/-! Setting up a device. A phone provisions the device, and the device claims its place with
the pairing code that it was given; with this code it tries again whenever it is switched on
without a token. What is stored is all that is left from the time before. -/

namespace DeviceAuth

namespace Setup

inductive Move where
  | switchOn (settings : Settings) (address : Address) (now : UInt32) (random : Octets)
  | passTime (elapsed : Span) (now : UInt32)
  | loadToken
  | sit (call : Provisioning.Call Empty)
  | authenticate (code : String) (replies : List Claim.Reply)

end Setup

namespace Device

variable {σ : Type} [Backend σ]

def sit (device : Device σ) : Provisioning.Call Empty → Device σ
  | .setKey key => device.onSession (·.setKey key)
  | .clearKey => device.onSession Provisioning.Session.clearKey
  | .start => device.startSession.2
  | .connect => device.onSession Provisioning.Session.connect
  | .disconnect => device.onSession Provisioning.Session.disconnect
  | .packet octets => (device.handlePacket octets).2
  | .checkTimeout => device.checkTimeout.2
  | .launchWatchdog => device.launchWatchdog.2
  | .wakeWatchdog id => (device.wakeWatchdog id).2
  | .stop => device.onSession Provisioning.Session.stop

def setUpStep (device : Device σ) : Setup.Move → Device σ
  | .switchOn settings address now random => create settings address now random device.store
  | .passTime elapsed now => { device with elapsed := elapsed, now := now }
  | .loadToken => device.loadToken.2
  | .sit call => device.sit call
  | .authenticate code replies => (device.authenticate code replies).2

def setUp : List Setup.Move → Device σ → Device σ
  | [], device => device
  | move :: rest, device => setUp rest (device.setUpStep move)

end Device

end DeviceAuth
