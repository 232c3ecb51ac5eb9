import DeviceAuth.Json.Form
import DeviceAuth.Wifi

/-! What a phone hands over when it provisions a device: the network to join, the
child that the device belongs to, the code that pairs it, and the age of the
child if it is known. -/

namespace DeviceAuth

/-! ## Bounds of the fields -/

namespace ChildId

def size : Nat := 36

def isHexadecimal (octet : UInt8) : Bool :=
  (0x30 ≤ octet && octet ≤ 0x39) || (0x41 ≤ octet && octet ≤ 0x46) ||
    (0x61 ≤ octet && octet ≤ 0x66)

def isAllowed (place : Nat) (octet : UInt8) : Bool :=
  if place = 8 ∨ place = 13 ∨ place = 18 ∨ place = 23 then octet == 0x2d
  else isHexadecimal octet

def wrongPlace? (place : Nat) : Octets → Option Nat
  | [] => none
  | octet :: rest => if isAllowed place octet then wrongPlace? (place + 1) rest else some place

def check (id : String) : Except FieldFailure Unit :=
  let octets := Octets.ofText id
  if octets.length ≠ size then
    .error (.childId ("expected " ++ Decimal.text size ++ " chars, got " ++
      Decimal.text octets.length))
  else
    match wrongPlace? 0 octets with
    | some place => .error (.childId ("unexpected character at position " ++ Decimal.text place))
    | none => .ok ()

theorem check_eq_ok_iff {id : String} : check id = .ok () ↔
    (Octets.ofText id).length = size ∧ wrongPlace? 0 (Octets.ofText id) = none := by
  unfold check
  dsimp only
  split
  next other => simp [other]
  next whole =>
    have whole := Decidable.of_not_not whole
    cases wrongPlace? 0 (Octets.ofText id) <;> simp [whole]

end ChildId

namespace PairingCode

def leastSize : Nat := 1
def greatestSize : Nat := 64

def isGraphic (octet : UInt8) : Bool := 0x21 ≤ octet && octet ≤ 0x7e

def check (code : String) : Except FieldFailure Unit :=
  let octets := Octets.ofText code
  if octets.length < leastSize ∨ greatestSize < octets.length then
    .error (.pairingCode ("length " ++ Decimal.text octets.length ++ " outside " ++
      Decimal.text leastSize ++ "..=" ++ Decimal.text greatestSize))
  else if octets.all isGraphic then .ok ()
  else .error (.pairingCode "invalid characters")

end PairingCode

namespace ChildAge

def unknown : Int32 := -1

def greatest : Int32 := 18

def check (age : Int32) : Except FieldFailure Unit :=
  if age = unknown ∨ (0 ≤ age ∧ age ≤ greatest) then .ok () else .error (.childAge age)

end ChildAge

/-! ## Details -/

structure Details where
  network : Network
  childId : String
  pairingCode : String
  childAge : Int32
deriving DecidableEq

namespace Details

def check (details : Details) : Except FieldFailure Unit :=
  match details.network.check with
  | .error failure => .error (.wifi failure)
  | .ok () =>
      match ChildId.check details.childId with
      | .error failure => .error failure
      | .ok () =>
          match PairingCode.check details.pairingCode with
          | .error failure => .error failure
          | .ok () => ChildAge.check details.childAge

def hasChildAge (details : Details) : Bool := details.childAge != ChildAge.unknown

def fields : List Json.Field :=
  [["ssid"], ["password"], ["child_id"], ["pairing_code"], ["child_age"]]

def leastInt32 : Int := Int32.minValue.toInt
def greatestInt32 : Int := Int32.maxValue.toInt

/-- The details that a document gives, within their bounds or not. The password
of an open network and an unknown age may be left out. -/
def ofDocument? (document : Json.Document) : Option Details :=
  match document.fill? fields with
  | some [ssid, password, childId, pairingCode, childAge] => do
      let ssid ← Json.required? Json.Document.text? ssid
      let password ← Json.orElse? "" Json.Document.text? password
      let childId ← Json.required? Json.Document.text? childId
      let pairingCode ← Json.required? Json.Document.text? pairingCode
      let childAge ← Json.orElse? ChildAge.unknown.toInt
        (Json.Document.whole? leastInt32 greatestInt32) childAge
      pure ⟨⟨ssid, password⟩, childId, pairingCode, Int32.ofInt childAge⟩
  | _ => none

def ofOctets (octets : Octets) : Except Failure Details :=
  match (Json.Document.parse? octets).bind ofDocument? with
  | none => .error (.field (.malformed "not a provisioning payload"))
  | some details =>
      match details.check with
      | .ok () => .ok details
      | .error failure => .error (.field failure)

end Details

end DeviceAuth
