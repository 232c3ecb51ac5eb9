import DeviceAuth.Json.Value
import DeviceAuth.Text.Search

/-! Fitting a device configuration to the device. A server that does not know its own
name writes a placeholder in its place; the device fills in the host it claimed
from. A device without TLS uses the plain schemes instead. -/

namespace DeviceAuth

namespace Localize

def placeholder : List Char := "0.0.0.0".toList

def schemeMark : List Char := "://".toList

def startsWithOneOf (characters text : List Char) : Bool :=
  match text with
  | [] => false
  | first :: _ => characters.contains first

def afterPlaceholder? (text : List Char) : Option (List Char) :=
  if placeholder.isPrefixOf text then some (text.drop placeholder.length) else none

def replaceHost? (host text : List Char) : Option (List Char) :=
  match Text.splitFirst? schemeMark text with
  | some (scheme, address) => do
      let rest ← afterPlaceholder? address
      if rest.isEmpty || startsWithOneOf [':', '/', '?', '#'] rest then
        some (scheme ++ schemeMark ++ host ++ rest)
      else none
  | none => do
      let rest ← afterPlaceholder? text
      if rest.isEmpty || startsWithOneOf [':'] rest then some (host ++ rest) else none

def plainScheme (text : List Char) : List Char :=
  if "wss://".toList.isPrefixOf text then "ws://".toList ++ text.drop 6
  else if "https://".toList.isPrefixOf text then "http://".toList ++ text.drop 8
  else text

def characters (host : List Char) (tlsEnabled : Bool) (text : List Char) : List Char :=
  let named := if host.isEmpty then text else (replaceHost? host text).getD text
  if tlsEnabled then named else plainScheme named

def text (host : String) (tlsEnabled : Bool) (text : String) : String :=
  String.ofList (characters host.toList tlsEnabled text.toList)

mutual

def value (host : String) (tlsEnabled : Bool) : Json.Value → Json.Value × Nat
  | .string present =>
      let fitted := text host tlsEnabled present
      (.string fitted, if fitted = present then 0 else 1)
  | .array items =>
      let (items, count) := values host tlsEnabled items
      (.array items, count)
  | .object members =>
      let (members, count) := memberValues host tlsEnabled members
      (.object members, count)
  | other => (other, 0)

def values (host : String) (tlsEnabled : Bool) : List Json.Value → List Json.Value × Nat
  | [] => ([], 0)
  | item :: rest =>
      let (item, first) := value host tlsEnabled item
      let (rest, others) := values host tlsEnabled rest
      (item :: rest, first + others)

def memberValues (host : String) (tlsEnabled : Bool) :
    List (String × Json.Value) → List (String × Json.Value) × Nat
  | [] => ([], 0)
  | (name, member) :: rest =>
      let (member, first) := value host tlsEnabled member
      let (rest, others) := memberValues host tlsEnabled rest
      ((name, member) :: rest, first + others)

end

end Localize

end DeviceAuth
