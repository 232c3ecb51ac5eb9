import DeviceAuth.Failure
import DeviceAuth.Text.Octets

/-! WiFi settings: the name of a network and its password. They are stored as one
string of octets in which each part follows its size. -/

namespace DeviceAuth

structure Network where
  ssid : String
  password : String
deriving DecidableEq, Repr

namespace Network

def greatestSsid : Nat := 32
def leastPassword : Nat := 8
def greatestPassword : Nat := 63

def check (network : Network) : Except WifiFailure Unit :=
  let ssid := network.ssid.utf8ByteSize
  let password := network.password.utf8ByteSize
  if ssid = 0 then .error .ssidEmpty
  else if ssid > greatestSsid then .error (.ssidTooLong ssid greatestSsid)
  else if password ≠ 0 ∧ password < leastPassword then
    .error (.passwordTooShort password leastPassword)
  else if password > greatestPassword then .error (.passwordTooLong password greatestPassword)
  else .ok ()

def checked (network : Network) : Except WifiFailure Network :=
  match network.check with
  | .ok () => .ok network
  | .error failure => .error failure

def isOpen (network : Network) : Bool := network.password.isEmpty

/-- The stored form: the size of the name, the name, the size of the password,
the password. A size takes one octet, so only its last eight bits are kept. -/
def octets (network : Network) : Octets :=
  UInt8.ofNat network.ssid.utf8ByteSize :: Octets.ofText network.ssid ++
    UInt8.ofNat network.password.utf8ByteSize :: Octets.ofText network.password

/-- The network whose stored form stands at the front of these octets. What
follows the password is passed over. -/
def ofOctets? : Octets → Except WifiFailure Network
  | [] => .error (.badFormat "empty data")
  | ssidSize :: rest =>
      match rest.drop ssidSize.toNat with
      | [] => .error (.badFormat "truncated SSID")
      | passwordSize :: afterSize =>
          if afterSize.length < passwordSize.toNat then .error (.badFormat "truncated password")
          else
            match Octets.toText? (rest.take ssidSize.toNat) with
            | none => .error (.badFormat "invalid SSID UTF-8")
            | some ssid =>
                match Octets.toText? (afterSize.take passwordSize.toNat) with
                | none => .error (.badFormat "invalid password UTF-8")
                | some password => checked ⟨ssid, password⟩

def summary (network : Network) : String :=
  "WifiConfig \x7b ssid: " ++ Text.Quoted.encode network.ssid ++ ", password: <" ++
    Decimal.text network.password.utf8ByteSize ++ " bytes> \x7d"

end Network

end DeviceAuth
