import DeviceAuth.Failure
import DeviceAuth.Json.Form
import DeviceAuth.Json.Printer

/-! The messages of a refresh. The device sends a proof that it holds the token; the
server answers with a new lifetime, perhaps with a new token, or with a
refusal. -/

namespace DeviceAuth

namespace Refresh

def request (proof : String) : Json.Value :=
  .object [("type", .string "auth/refresh"), ("proof", .string proof)]

def requestText (proof : String) : String := (request proof).text

inductive Answer where
  | accepted (lifetime : UInt32) (token : Option String)
  | rejected (reason : String)
deriving DecidableEq, Repr

namespace Answer

def summary : Answer → String
  | .accepted lifetime token =>
      "Ok \x7b exp_in_sec: " ++ Decimal.text lifetime.toNat ++ ", rotated: " ++
        (if token.isSome then "true" else "false") ++ " \x7d"
  | .rejected reason => "Error \x7b reason: " ++ Text.Quoted.encode reason ++ " \x7d"

def acceptedFields : List Json.Field := [["exp_in_sec", "expires_in"], ["token"]]

def rejectedFields : List Json.Field := [["reason"]]

def ofKind? (kind : String) (document : Json.Document) : Option Answer :=
  if kind = "auth/ok" then
    match document.fill? acceptedFields with
    | some [lifetime, token] => do
        let lifetime ← Json.required? Json.Document.word? lifetime
        let token ← Json.optional? Json.Document.text? token
        pure (.accepted lifetime token)
    | _ => none
  else if kind = "auth/error" then
    match document.fill? rejectedFields with
    | some [reason] => (Json.orElse? "" Json.Document.text? reason).map .rejected
    | _ => none
  else none

/-- The answer that a document gives. Its kind is a member of its own, at any
place, or the first item of an array. Whatever else the document holds has to be
a value too. -/
def ofDocument? (document : Json.Document) : Option Answer := do
  let _ ← Json.Value.ofDocument? Json.greatestDepth document
  match document with
  | .object members => do
      let named ← Json.namedMembers? members
      let given ← Json.single? (Json.givenFor ["type"] named)
      let kind ← given.bind Json.Document.text?
      ofKind? kind (.object (members.filter fun member => member.1 ≠ some "type"))
  | .array (first :: rest) => do
      let kind ← first.text?
      ofKind? kind (.array rest)
  | _ => none

def read (message : String) : Except Failure Answer :=
  match (Json.Document.parse? (Octets.ofText message)).bind ofDocument? with
  | some answer => .ok answer
  | none => .error (.protocol "bad refresh response: not an answer to a refresh")

end Answer

end Refresh

end DeviceAuth
