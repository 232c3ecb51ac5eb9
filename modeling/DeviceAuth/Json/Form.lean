import DeviceAuth.Json.Value

/-! Documents of a fixed form. A form is a list of fields, each with the names it
goes by. A document fills a form either as an object, whose members are found by
name, or as an array, whose items come in the order of the fields. Members that
the form does not know are passed over; a field given twice is a mistake. -/

namespace DeviceAuth

namespace Json

abbrev Field := List String

def givenFor (field : Field) (members : List (String × Document)) : List Document :=
  (members.filter fun member => field.contains member.1).map (·.2)

def single? : List Document → Option (Option Document)
  | [] => some none
  | [document] => some (some document)
  | _ => none

def namedMembers? : List (Option String × Document) → Option (List (String × Document))
  | [] => some []
  | (name, value) :: rest => do
      let name ← name
      let rest ← namedMembers? rest
      pure ((name, value) :: rest)

def alignItems? : List Field → List Document → Option (List (Option Document))
  | [], [] => some []
  | [], _ :: _ => none
  | _ :: fields, [] => (alignItems? fields []).map (none :: ·)
  | _ :: fields, item :: items => (alignItems? fields items).map (some item :: ·)

def Document.fill? (fields : List Field) : Document → Option (List (Option Document))
  | .object members => do
      let members ← namedMembers? members
      fields.mapM fun field => single? (givenFor field members)
  | .array items => alignItems? fields items
  | _ => none

/-! ## Contents of fields -/

def Document.text? : Document → Option String
  | .string content => content
  | _ => none

def Document.whole? (least greatest : Int) : Document → Option Int
  | .number numeral => numeral.whole?.filter fun value => least ≤ value ∧ value ≤ greatest
  | _ => none

def Document.word? (document : Document) : Option UInt32 :=
  (document.whole? 0 (UInt32.size - 1)).map fun value => UInt32.ofNat value.toNat

def Document.nullable? {α : Type} (read? : Document → Option α) :
    Document → Option (Option α)
  | .null => some none
  | document => (read? document).map some

def required? {α : Type} (read? : Document → Option α) (given : Option Document) : Option α :=
  given.bind read?

def orElse? {α : Type} (standard : α) (read? : Document → Option α) :
    Option Document → Option α
  | none => some standard
  | some document => read? document

def optional? {α : Type} (read? : Document → Option α) :
    Option Document → Option (Option α) :=
  orElse? none (Document.nullable? read?)

end Json

end DeviceAuth
