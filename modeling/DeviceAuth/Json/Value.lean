import DeviceAuth.Json.Document
import DeviceAuth.Number.Binary64

/-! JSON values. Members of an object are ordered by name and a name occurs once;
of members given twice the last one counts. A number is whole as long as 64 bits
hold it and it is written without fraction and exponent; every other number is a
finite double. -/

namespace DeviceAuth

namespace Json

inductive Number where
  | whole (value : Int)
  | real (value : Binary64)
deriving DecidableEq, Repr

inductive Value where
  | null
  | boolean (value : Bool)
  | number (value : Number)
  | string (value : String)
  | array (items : List Value)
  | object (members : List (String × Value))
deriving Repr

/-! ## Numbers -/

namespace Numeral

def isWhole (numeral : Numeral) : Bool :=
  numeral.fraction.isEmpty && numeral.exponent.isNone

def whole? (numeral : Numeral) : Option Int :=
  let magnitude := digitsValue numeral.whole
  if !numeral.isWhole then none
  else if numeral.negative then if magnitude = 0 then none else some (-magnitude)
  else some magnitude

def greatestSignificand : Nat := UInt64.size - 1

def collect (significand : Nat) : List Nat → Nat × List Nat
  | [] => (significand, [])
  | digit :: rest =>
      if 10 * significand + digit ≤ greatestSignificand then collect (10 * significand + digit) rest
      else (significand, digit :: rest)

/-- The double that a number stands for, unless it is too large. Digits that do
not fit into the significand count as zeros. -/
def real? (numeral : Numeral) : Option Binary64 := do
  let (whole, dropped) := collect 0 numeral.whole
  let (significand, unread) := collect whole numeral.fraction
  let used := numeral.fraction.length - unread.length
  let exponent := (dropped.length : Int) - used + numeral.exponent.getD 0
  let magnitude ← Magnitude.ofDecimal? significand exponent
  pure ⟨numeral.negative, magnitude⟩

def number? (numeral : Numeral) : Option Number :=
  match numeral.whole? with
  | some value =>
      if Int64.minValue.toInt ≤ value ∧ value < UInt64.size then some (.whole value)
      else numeral.real?.map .real
  | none => numeral.real?.map .real

end Numeral

/-! ## Objects -/

/-- Put a member into an ordered list, in place of one of the same name. -/
def putMember (name : String) (value : Value) : List (String × Value) → List (String × Value)
  | [] => [(name, value)]
  | (other, present) :: rest =>
      if name < other then (name, value) :: (other, present) :: rest
      else if name = other then (name, value) :: rest
      else (other, present) :: putMember name value rest

def objectOf (members : List (String × Value)) : Value :=
  .object (members.foldl (fun ordered member => putMember member.1 member.2 ordered) [])

/-! ## Reading -/

mutual

def Value.ofDocument? (room : Nat) : Document → Option Value
  | .null => some .null
  | .boolean value => some (.boolean value)
  | .number numeral => numeral.number?.map .number
  | .string content => content.map .string
  | .array items =>
      match room with
      | 0 => none
      | room + 1 => (itemsOfDocuments? room items).map .array
  | .object members =>
      match room with
      | 0 => none
      | room + 1 => (membersOfDocuments? room members).map objectOf

def itemsOfDocuments? (room : Nat) : List Document → Option (List Value)
  | [] => some []
  | item :: rest => do
      let item ← Value.ofDocument? room item
      let rest ← itemsOfDocuments? room rest
      pure (item :: rest)

def membersOfDocuments? (room : Nat) :
    List (Option String × Document) → Option (List (String × Value))
  | [] => some []
  | (name, value) :: rest => do
      let name ← name
      let value ← Value.ofDocument? room value
      let rest ← membersOfDocuments? room rest
      pure ((name, value) :: rest)

end

def greatestDepth : Nat := 127

def Value.parse? (input : Octets) : Option Value :=
  (Document.parse? input).bind (Value.ofDocument? greatestDepth)

end Json

end DeviceAuth
