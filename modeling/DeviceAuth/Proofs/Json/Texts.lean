import DeviceAuth.Json.Value

/-! The texts in a JSON value. A value is a frame of arrays, names, numbers and the like, in
which texts stand at some places. What is done to the texts alone leaves the frame as it
is. -/

namespace DeviceAuth

namespace Json

mutual

def Value.texts : Value → List String
  | .null => []
  | .boolean _ => []
  | .number _ => []
  | .string text => [text]
  | .array items => itemsTexts items
  | .object members => membersTexts members

def itemsTexts : List Value → List String
  | [] => []
  | item :: rest => item.texts ++ itemsTexts rest

def membersTexts : List (String × Value) → List String
  | [] => []
  | (_, value) :: rest => value.texts ++ membersTexts rest

end

mutual

def Value.mapTexts (change : String → String) : Value → Value
  | .null => .null
  | .boolean value => .boolean value
  | .number value => .number value
  | .string text => .string (change text)
  | .array items => .array (itemsMapTexts change items)
  | .object members => .object (membersMapTexts change members)

def itemsMapTexts (change : String → String) : List Value → List Value
  | [] => []
  | item :: rest => item.mapTexts change :: itemsMapTexts change rest

def membersMapTexts (change : String → String) : List (String × Value) → List (String × Value)
  | [] => []
  | (name, value) :: rest => (name, value.mapTexts change) :: membersMapTexts change rest

end

def Value.SameFrame (left right : Value) : Prop :=
  left.mapTexts (fun _ => "") = right.mapTexts fun _ => ""

example : (Value.array [.string "a", .null]).SameFrame (.array [.string "b", .null]) := rfl

mutual

theorem Value.texts_mapTexts (change : String → String) (value : Value) :
    (value.mapTexts change).texts = value.texts.map change := by
  match value with
  | .null | .boolean _ | .number _ | .string _ => rfl
  | .array items => exact itemsTexts_itemsMapTexts change items
  | .object members => exact membersTexts_membersMapTexts change members

theorem itemsTexts_itemsMapTexts (change : String → String) (items : List Value) :
    itemsTexts (itemsMapTexts change items) = (itemsTexts items).map change := by
  match items with
  | [] => rfl
  | item :: rest =>
      rw [itemsMapTexts, itemsTexts, itemsTexts, List.map_append, item.texts_mapTexts change,
        itemsTexts_itemsMapTexts change rest]

theorem membersTexts_membersMapTexts (change : String → String)
    (members : List (String × Value)) :
    membersTexts (membersMapTexts change members) = (membersTexts members).map change := by
  match members with
  | [] => rfl
  | (_, value) :: rest =>
      rw [membersMapTexts, membersTexts, membersTexts, List.map_append,
        value.texts_mapTexts change, membersTexts_membersMapTexts change rest]

end

mutual

theorem Value.mapTexts_mapTexts (first second : String → String) (value : Value) :
    (value.mapTexts first).mapTexts second = value.mapTexts fun text => second (first text) := by
  match value with
  | .null | .boolean _ | .number _ | .string _ => rfl
  | .array items => exact congrArg Value.array (itemsMapTexts_twice first second items)
  | .object members => exact congrArg Value.object (membersMapTexts_twice first second members)

theorem itemsMapTexts_twice (first second : String → String) (items : List Value) :
    itemsMapTexts second (itemsMapTexts first items) =
      itemsMapTexts (fun text => second (first text)) items := by
  match items with
  | [] => rfl
  | item :: rest =>
      rw [itemsMapTexts, itemsMapTexts, itemsMapTexts, item.mapTexts_mapTexts first second,
        itemsMapTexts_twice first second rest]

theorem membersMapTexts_twice (first second : String → String)
    (members : List (String × Value)) :
    membersMapTexts second (membersMapTexts first members) =
      membersMapTexts (fun text => second (first text)) members := by
  match members with
  | [] => rfl
  | (_, value) :: rest =>
      rw [membersMapTexts, membersMapTexts, membersMapTexts,
        value.mapTexts_mapTexts first second, membersMapTexts_twice first second rest]

end

theorem Value.sameFrame_mapTexts (change : String → String) (value : Value) :
    value.SameFrame (value.mapTexts change) :=
  (value.mapTexts_mapTexts change fun _ => "").symm

end Json

end DeviceAuth
