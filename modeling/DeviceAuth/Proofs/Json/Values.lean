import DeviceAuth.Proofs.Json.Documents

/-! Values that are read back. A value that is written may be read as another one: a double
may lose its last digit, and members come back in order and once for each name. A plain value
has whole numbers of 64 bits and ordered members, and it is read back as it was. -/

namespace DeviceAuth

namespace Json

/-! ## Writable values -/

mutual

/-- A value whose numbers are whole with 64 bits or doubles, with at most `room` arrays and
objects inside each other. -/
def Value.IsWritable (room : Nat) : Value → Prop
  | .null => True
  | .boolean _ => True
  | .number (.whole value) => Int64.minValue.toInt ≤ value ∧ value < UInt64.size
  | .number (.real value) => value.magnitude.IsFinite
  | .string _ => True
  | .array items =>
      match room with
      | 0 => False
      | room + 1 => ItemsAreWritable room items
  | .object members =>
      match room with
      | 0 => False
      | room + 1 => MembersAreWritable room members

def ItemsAreWritable (room : Nat) : List Value → Prop
  | [] => True
  | item :: rest => item.IsWritable room ∧ ItemsAreWritable room rest

def MembersAreWritable (room : Nat) : List (String × Value) → Prop
  | [] => True
  | (_, value) :: rest => value.IsWritable room ∧ MembersAreWritable room rest

end

def Number.reread : Number → Number
  | .whole value => .whole value
  | .real value => (Numeral.ofReal value).number?.getD (.real value)

mutual

/-- The value that is read where a value was written. -/
def Value.reread : Value → Value
  | .null => .null
  | .boolean value => .boolean value
  | .number value => .number value.reread
  | .string text => .string text
  | .array items => .array (itemsReread items)
  | .object members => objectOf (membersReread members)

def itemsReread : List Value → List Value
  | [] => []
  | item :: rest => item.reread :: itemsReread rest

def membersReread : List (String × Value) → List (String × Value)
  | [] => []
  | (name, value) :: rest => (name, value.reread) :: membersReread rest

end

theorem Numeral.number?_ofWhole {value : Int}
    (small : Int64.minValue.toInt ≤ value ∧ value < UInt64.size) :
    (ofWhole value).number? = some (.whole value) := by
  rw [number?, whole?_ofWhole]
  exact if_pos small

mutual

theorem Value.document?_of_isWritable {room : Nat} (value : Value)
    (writable : value.IsWritable room) :
    ∃ document, value.document? = some document ∧
      Value.ofDocument? room document = some value.reread := by
  match value with
  | .null => exact ⟨.null, rfl, rfl⟩
  | .boolean answer => exact ⟨.boolean answer, rfl, rfl⟩
  | .number (.whole number) =>
      refine ⟨.number (Numeral.ofWhole number), rfl, ?_⟩
      rw [Value.ofDocument?, Numeral.number?_ofWhole writable]
      rfl
  | .number (.real number) =>
      rcases Option.isSome_iff_exists.mp (Numeral.number?_ofReal writable) with ⟨meant, read⟩
      refine ⟨.number (Numeral.ofReal number), if_pos writable, ?_⟩
      rw [Value.ofDocument?, Value.reread, Number.reread, read]
      rfl
  | .string text => exact ⟨.string (some text), rfl, rfl⟩
  | .array items =>
      cases room with
      | zero => exact writable.elim
      | succ room =>
          rcases itemDocuments?_of_areWritable items writable with ⟨documents, written, read⟩
          exact ⟨.array documents, congrArg (Option.map _) written,
            congrArg (Option.map _) read⟩
  | .object members =>
      cases room with
      | zero => exact writable.elim
      | succ room =>
          rcases memberDocuments?_of_areWritable members writable with ⟨documents, written, read⟩
          exact ⟨.object documents, congrArg (Option.map _) written,
            congrArg (Option.map _) read⟩

theorem itemDocuments?_of_areWritable {room : Nat} (items : List Value)
    (writable : ItemsAreWritable room items) :
    ∃ documents, itemDocuments? items = some documents ∧
      itemsOfDocuments? room documents = some (itemsReread items) := by
  match items with
  | [] => exact ⟨[], rfl, rfl⟩
  | item :: rest =>
      rcases item.document?_of_isWritable writable.1 with ⟨document, written, read⟩
      rcases itemDocuments?_of_areWritable rest writable.2 with
        ⟨documents, writtenRest, readRest⟩
      refine ⟨document :: documents, ?_, ?_⟩
      · rw [itemDocuments?, written, writtenRest]
        rfl
      · rw [itemsOfDocuments?, read, readRest]
        rfl

theorem memberDocuments?_of_areWritable {room : Nat} (members : List (String × Value))
    (writable : MembersAreWritable room members) :
    ∃ documents, memberDocuments? members = some documents ∧
      membersOfDocuments? room documents = some (membersReread members) := by
  match members with
  | [] => exact ⟨[], rfl, rfl⟩
  | (name, value) :: rest =>
      rcases value.document?_of_isWritable writable.1 with ⟨document, written, read⟩
      rcases memberDocuments?_of_areWritable rest writable.2 with
        ⟨documents, writtenRest, readRest⟩
      refine ⟨(some name, document) :: documents, ?_, ?_⟩
      · rw [memberDocuments?, written, writtenRest]
        rfl
      · rw [membersOfDocuments?, read, readRest]
        rfl

end

theorem Value.parse?_octets_of_isWritable {value : Value}
    (writable : value.IsWritable greatestDepth) :
    Value.parse? value.octets = some value.reread := by
  rcases value.document?_of_isWritable writable with ⟨document, written, read⟩
  rw [Value.parse?, Json.parse?_octets written, Option.bind_some, read]

/-! ## Plain values -/

def IsOrdered (members : List (String × Value)) : Prop :=
  members.Pairwise fun first second => first.1 < second.1

mutual

def Value.IsPlain (room : Nat) : Value → Prop
  | .null => True
  | .boolean _ => True
  | .number (.whole value) => Int64.minValue.toInt ≤ value ∧ value < UInt64.size
  | .number (.real _) => False
  | .string _ => True
  | .array items =>
      match room with
      | 0 => False
      | room + 1 => ItemsArePlain room items
  | .object members =>
      match room with
      | 0 => False
      | room + 1 => IsOrdered members ∧ MembersArePlain room members

def ItemsArePlain (room : Nat) : List Value → Prop
  | [] => True
  | item :: rest => item.IsPlain room ∧ ItemsArePlain room rest

def MembersArePlain (room : Nat) : List (String × Value) → Prop
  | [] => True
  | (_, value) :: rest => value.IsPlain room ∧ MembersArePlain room rest

end

theorem putMember_last {name : String} {members : List (String × Value)}
    (later : ∀ member ∈ members, member.1 < name) (value : Value) :
    putMember name value members = members ++ [(name, value)] := by
  induction members with
  | nil => rfl
  | cons first rest induction =>
      rcases first with ⟨other, present⟩
      have before : other < name := later (other, present) (.head rest)
      have different : name ≠ other := by
        rintro rfl
        exact String.lt_irrefl name before
      rw [putMember, if_neg (String.lt_asymm before), if_neg different,
        induction fun member inside => later member (.tail _ inside), List.cons_append]

theorem foldl_putMember (front : List (String × Value)) {members : List (String × Value)}
    (ordered : IsOrdered (front ++ members)) :
    members.foldl (fun ordered member => putMember member.1 member.2 ordered) front =
      front ++ members := by
  induction members generalizing front with
  | nil => rw [List.foldl_nil, List.append_nil]
  | cons member rest induction =>
      have later : ∀ other ∈ front, other.1 < member.1 := fun other inside =>
        (List.pairwise_append.mp ordered).2.2 other inside member (.head rest)
      have regrouped : front ++ member :: rest = (front ++ [member]) ++ rest := by
        rw [List.append_assoc, List.singleton_append]
      rw [List.foldl_cons, putMember_last later, regrouped]
      exact induction (front ++ [member]) (regrouped ▸ ordered)

theorem objectOf_of_isOrdered {members : List (String × Value)} (ordered : IsOrdered members) :
    objectOf members = .object members :=
  congrArg Value.object (foldl_putMember [] ordered)

mutual

theorem Value.IsPlain.reread {room : Nat} (value : Value) (plain : value.IsPlain room) :
    value.IsWritable room ∧ value.reread = value := by
  match value with
  | .null | .boolean _ | .string _ => exact ⟨trivial, rfl⟩
  | .number (.whole _) => exact ⟨plain, rfl⟩
  | .number (.real _) => exact plain.elim
  | .array items =>
      cases room with
      | zero => exact plain.elim
      | succ room =>
          rcases itemsReread_of_arePlain items plain with ⟨writable, same⟩
          exact ⟨writable, congrArg Value.array same⟩
  | .object members =>
      cases room with
      | zero => exact plain.elim
      | succ room =>
          rcases plain with ⟨ordered, plain⟩
          rcases membersReread_of_arePlain members plain with ⟨writable, same⟩
          refine ⟨writable, ?_⟩
          rw [Value.reread, same, objectOf_of_isOrdered ordered]

theorem itemsReread_of_arePlain {room : Nat} (items : List Value)
    (plain : ItemsArePlain room items) :
    ItemsAreWritable room items ∧ itemsReread items = items := by
  match items with
  | [] => exact ⟨trivial, rfl⟩
  | item :: rest =>
      rcases Value.IsPlain.reread item plain.1 with ⟨writable, same⟩
      rcases itemsReread_of_arePlain rest plain.2 with ⟨writableRest, sameRest⟩
      refine ⟨⟨writable, writableRest⟩, ?_⟩
      rw [itemsReread, same, sameRest]

theorem membersReread_of_arePlain {room : Nat} (members : List (String × Value))
    (plain : MembersArePlain room members) :
    MembersAreWritable room members ∧ membersReread members = members := by
  match members with
  | [] => exact ⟨trivial, rfl⟩
  | (name, value) :: rest =>
      rcases Value.IsPlain.reread value plain.1 with ⟨writable, same⟩
      rcases membersReread_of_arePlain rest plain.2 with ⟨writableRest, sameRest⟩
      refine ⟨⟨writable, writableRest⟩, ?_⟩
      rw [membersReread, same, sameRest]

end

theorem Value.parse?_octets {value : Value} (plain : value.IsPlain greatestDepth) :
    Value.parse? value.octets = some value := by
  rcases Value.IsPlain.reread value plain with ⟨writable, same⟩
  rw [parse?_octets_of_isWritable writable, same]

end Json

end DeviceAuth
