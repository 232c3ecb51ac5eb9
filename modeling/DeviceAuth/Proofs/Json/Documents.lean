import DeviceAuth.Proofs.Json.Numbers
import DeviceAuth.Proofs.Json.Strings

/-! Values that are written can be read. A value whose numbers are whole or doubles is written
as one document, and this is what is read from its compact form, whatever follows. -/

namespace DeviceAuth

namespace Json

open Octets (ofCharacter ofCharacters)

/-! ## The document of a value -/

mutual

def Value.document? : Value → Option Document
  | .null => some .null
  | .boolean value => some (.boolean value)
  | .number (.whole value) => some (.number (Numeral.ofWhole value))
  | .number (.real value) =>
      if value.magnitude.IsFinite then some (.number (Numeral.ofReal value)) else none
  | .string text => some (.string (some text))
  | .array items => (itemDocuments? items).map .array
  | .object members => (memberDocuments? members).map .object

def itemDocuments? : List Value → Option (List Document)
  | [] => some []
  | item :: rest => do
      let item ← item.document?
      let rest ← itemDocuments? rest
      pure (item :: rest)

def memberDocuments? : List (String × Value) → Option (List (Option String × Document))
  | [] => some []
  | (name, value) :: rest => do
      let value ← value.document?
      let rest ← memberDocuments? rest
      pure ((some name, value) :: rest)

end

theorem document?_number {number : Number} {document : Document}
    (given : (Value.number number).document? = some document) :
    ∃ numeral : Numeral, document = .number numeral ∧ numeral.IsProper ∧
      numeral.characters = numberCharacters number := by
  cases number with
  | whole value =>
      obtain rfl := Option.some.inj given
      exact ⟨_, rfl, Numeral.isProper_ofWhole value, Numeral.characters_ofWhole value⟩
  | real value =>
      obtain ⟨finite, equal⟩ := Option.ite_none_right_eq_some.mp given
      obtain rfl := Option.some.inj equal
      exact ⟨_, rfl, Numeral.isProper_ofReal finite, Numeral.characters_ofReal finite⟩

/-! ## Values -/

def Begins (octets : Octets) : Prop :=
  ∃ first tail, octets = first :: tail ∧ isSpace first = false ∧ first ≠ 0x5d

theorem Begins.append {octets : Octets} (begins : Begins octets) (rest : Octets) :
    Begins (octets ++ rest) := by
  obtain ⟨first, tail, rfl, solid, open_⟩ := begins
  exact ⟨first, tail ++ rest, rfl, solid, open_⟩

theorem skipSpace_cons {first : UInt8} (solid : isSpace first = false) (rest : Octets) :
    skipSpace (first :: rest) = first :: rest := by
  simp [skipSpace, solid]

theorem Begins.skipSpace {octets : Octets} (begins : Begins octets) :
    Json.skipSpace octets = octets := by
  obtain ⟨first, tail, rfl, solid, _⟩ := begins
  exact skipSpace_cons solid tail

/-! ## One step of the reader -/

section Step

variable (bound : Nat) (rest : Octets)

theorem readDocument_null :
    readDocument (bound + 1) (0x6e :: 0x75 :: 0x6c :: 0x6c :: rest) = some (.null, rest) := rfl

theorem readDocument_true :
    readDocument (bound + 1) (0x74 :: 0x72 :: 0x75 :: 0x65 :: rest) =
      some (.boolean true, rest) := rfl

theorem readDocument_false :
    readDocument (bound + 1) (0x66 :: 0x61 :: 0x6c :: 0x73 :: 0x65 :: rest) =
      some (.boolean false, rest) := rfl

theorem readDocument_string :
    readDocument (bound + 1) (0x22 :: rest) =
      (readString rest).map fun read => (.string read.1, read.2) := rfl

theorem readDocument_noItems :
    readDocument (bound + 1) (0x5b :: 0x5d :: rest) = some (.array [], rest) := rfl

theorem readDocument_items {input : Octets} (begins : Begins input) :
    readDocument (bound + 1) (0x5b :: input) =
      (readItems bound input).map fun read => (.array read.1, read.2) := by
  have solid := begins.skipSpace
  obtain ⟨first, tail, rfl, _, other⟩ := begins
  have opened : skipSpace (0x5b :: first :: tail) = 0x5b :: first :: tail := rfl
  have quote : (0x5b : UInt8) ≠ 0x22 := by decide
  rw [readDocument, opened]
  simp only [solid, quote, if_false, if_true]
  split
  next equal => exact absurd (List.cons.inj equal).1 other
  next => rfl

theorem readDocument_noMembers :
    readDocument (bound + 1) (0x7b :: 0x7d :: rest) = some (.object [], rest) := rfl

theorem readDocument_members :
    readDocument (bound + 1) (0x7b :: 0x22 :: rest) =
      (readMembers bound (0x22 :: rest)).map fun read => (.object read.1, read.2) := rfl

theorem readDocument_numeral {first : UInt8} (solid : isSpace first = false)
    (other : first ∉ [0x22, 0x5b, 0x5d, 0x7b, 0x6e, 0x74, 0x66]) :
    readDocument (bound + 1) (first :: rest) =
      (readNumeral (first :: rest)).map fun read => (.number read.1, read.2) := by
  simp only [List.mem_cons, List.not_mem_nil, or_false, not_or] at other
  obtain ⟨quote, bracket, _, brace, n, t, f⟩ := other
  rw [readDocument, skipSpace_cons solid]
  simp only [quote, bracket, brace, n, t, f, if_false]

theorem readItems_last {input : Octets} {item : Document}
    (read : readDocument bound input = some (item, 0x5d :: rest)) :
    readItems (bound + 1) input = some ([item], rest) := by
  rw [readItems, read]
  rfl

theorem readItems_next {input : Octets} {item : Document} {items : List Document}
    {after : Octets} (read : readDocument bound input = some (item, 0x2c :: rest))
    (others : readItems bound rest = some (items, after)) :
    readItems (bound + 1) input = some (item :: items, after) := by
  have comma : skipSpace (0x2c :: rest) = 0x2c :: rest := rfl
  rw [readItems, read]
  simp only [Option.bind_eq_bind, Option.bind_some, comma, others]
  rfl

theorem readMembers_last {input afterName : Octets} {name : Option String} {value : Document}
    (named : readString input = some (name, 0x3a :: afterName))
    (read : readDocument bound afterName = some (value, 0x7d :: rest)) :
    readMembers (bound + 1) (0x22 :: input) = some ([(name, value)], rest) := by
  have quote : skipSpace (0x22 :: input) = 0x22 :: input := rfl
  have colon : skipSpace (0x3a :: afterName) = 0x3a :: afterName := rfl
  have brace : skipSpace (0x7d :: rest) = 0x7d :: rest := rfl
  rw [readMembers, quote]
  simp only [named, Option.bind_eq_bind, Option.bind_some, colon, read, brace]
  rfl

theorem readMembers_next {input afterName : Octets} {name : Option String} {value : Document}
    {members : List (Option String × Document)} {after : Octets}
    (named : readString input = some (name, 0x3a :: afterName))
    (read : readDocument bound afterName = some (value, 0x2c :: rest))
    (others : readMembers bound rest = some (members, after)) :
    readMembers (bound + 1) (0x22 :: input) = some ((name, value) :: members, after) := by
  have quote : skipSpace (0x22 :: input) = 0x22 :: input := rfl
  have colon : skipSpace (0x3a :: afterName) = 0x3a :: afterName := rfl
  have comma : skipSpace (0x2c :: rest) = 0x2c :: rest := rfl
  rw [readMembers, quote]
  simp only [named, Option.bind_eq_bind, Option.bind_some, colon, read, comma, others]
  rfl

end Step

/-! ## Reading what was written -/

theorem begins_characters {value : Value} {document : Document}
    (given : value.document? = some document) : Begins (ofCharacters value.characters) := by
  cases value with
  | null => exact ⟨0x6e, [0x75, 0x6c, 0x6c], by decide, by decide, by decide⟩
  | boolean value =>
      cases value with
      | true => exact ⟨0x74, [0x72, 0x75, 0x65], by decide, by decide, by decide⟩
      | false => exact ⟨0x66, [0x61, 0x6c, 0x73, 0x65], by decide, by decide, by decide⟩
  | number value =>
      obtain ⟨numeral, _, proper, same⟩ := document?_number given
      obtain ⟨first, tail, written, solid, other⟩ := proper.begins
      rw [same] at written
      exact ⟨first, tail, written, solid, fun equal => other (by simp [equal])⟩
  | string text =>
      exact ⟨0x22, _, ofCharacters_stringCharacters text, by decide, by decide⟩
  | array items =>
      have bracket : ofCharacter '[' = [0x5b] := by decide
      cases items with
      | nil => exact ⟨0x5b, [0x5d], by decide, by decide, by decide⟩
      | cons item rest =>
          refine ⟨0x5b, ofCharacters (item.characters ++ itemsCharacters rest), ?_, by decide,
            by decide⟩
          rw [Value.characters, List.cons_append, Octets.ofCharacters_cons, bracket]
          rfl
  | object members =>
      have brace : ofCharacter '\x7b' = [0x7b] := by decide
      cases members with
      | nil => exact ⟨0x7b, [0x7d], by decide, by decide, by decide⟩
      | cons member rest =>
          obtain ⟨name, value⟩ := member
          refine ⟨0x7b, ofCharacters (stringCharacters name ++ ':' :: value.characters ++
            membersCharacters rest), ?_, by decide, by decide⟩
          rw [Value.characters, List.cons_append, List.cons_append, Octets.ofCharacters_cons,
            brace]
          rfl

theorem itemDocuments?_cons {item : Value} {rest : List Value} {documents : List Document}
    (given : itemDocuments? (item :: rest) = some documents) :
    ∃ first others, item.document? = some first ∧ itemDocuments? rest = some others ∧
      documents = first :: others := by
  obtain ⟨first, firstGiven, restGiven⟩ := Option.bind_eq_some_iff.mp given
  obtain ⟨others, othersGiven, equal⟩ := Option.bind_eq_some_iff.mp restGiven
  exact ⟨first, others, firstGiven, othersGiven, (Option.some.inj equal).symm⟩

theorem memberDocuments?_cons {name : String} {value : Value} {rest : List (String × Value)}
    {documents : List (Option String × Document)}
    (given : memberDocuments? ((name, value) :: rest) = some documents) :
    ∃ first others, value.document? = some first ∧ memberDocuments? rest = some others ∧
      documents = (some name, first) :: others := by
  obtain ⟨first, firstGiven, restGiven⟩ := Option.bind_eq_some_iff.mp given
  obtain ⟨others, othersGiven, equal⟩ := Option.bind_eq_some_iff.mp restGiven
  exact ⟨first, others, firstGiven, othersGiven, (Option.some.inj equal).symm⟩

theorem length_itemsCharacters_pos (items : List Value) :
    0 < (itemsCharacters items).length := by
  cases items with
  | nil => exact Nat.one_pos
  | cons item rest => exact Nat.succ_pos _

theorem length_membersCharacters_pos (members : List (String × Value)) :
    0 < (membersCharacters members).length := by
  cases members with
  | nil => exact Nat.one_pos
  | cons member rest => exact Nat.succ_pos _

theorem tail_membersCharacters (name : String) (value : Value) (rest : List (String × Value)) :
    (membersCharacters ((name, value) :: rest)).tail =
      stringCharacters name ++ ':' :: (value.characters ++ membersCharacters rest) := by
  rw [membersCharacters, List.cons_append, List.cons_append, List.tail_cons, List.append_assoc]
  rfl

mutual

theorem readDocument_characters (value : Value) {document : Document}
    (given : value.document? = some document) {bound : Nat}
    (enough : value.characters.length ≤ bound) {rest : Octets} (ends : Ends rest) :
    readDocument bound (ofCharacters value.characters ++ rest) = some (document, rest) := by
  -- By recursion on the value: every level of it takes one of the bound, and has at least one
  -- character.
  cases bound with
  | zero =>
      obtain ⟨first, tail, written, _⟩ := begins_characters given
      have none : value.characters = [] := List.length_eq_zero_iff.mp (Nat.le_zero.mp enough)
      rw [none] at written
      cases written
  | succ bound =>
      match value with
      | .null =>
          obtain rfl := Option.some.inj given
          have written : ofCharacters Value.null.characters = [0x6e, 0x75, 0x6c, 0x6c] := by decide
          rw [written]
          exact readDocument_null bound rest
      | .boolean true =>
          obtain rfl := Option.some.inj given
          have written : ofCharacters (Value.boolean true).characters =
              [0x74, 0x72, 0x75, 0x65] := by decide
          rw [written]
          exact readDocument_true bound rest
      | .boolean false =>
          obtain rfl := Option.some.inj given
          have written : ofCharacters (Value.boolean false).characters =
              [0x66, 0x61, 0x6c, 0x73, 0x65] := by decide
          rw [written]
          exact readDocument_false bound rest
      | .number number =>
          obtain ⟨numeral, rfl, proper, same⟩ := document?_number given
          obtain ⟨first, tail, written, solid, other⟩ := proper.begins
          have read := proper.readNumeral_characters ends
          rw [written, List.cons_append] at read
          rw [Value.characters, ← same, written, List.cons_append,
            readDocument_numeral _ _ solid other, read]
          rfl
      | .string text =>
          obtain rfl := Option.some.inj given
          rw [Value.characters, ofCharacters_stringCharacters, List.cons_append,
            List.append_assoc, readDocument_string]
          rw [List.singleton_append, readString_text]
          rfl
      | .array [] =>
          obtain rfl := Option.some.inj given
          have written : ofCharacters (Value.array []).characters = [0x5b, 0x5d] := by decide
          rw [written]
          exact readDocument_noItems bound rest
      | .array (item :: others) =>
          obtain ⟨documents, items, rfl⟩ := Option.map_eq_some_iff.mp given
          obtain ⟨first, _, firstGiven, _⟩ := itemDocuments?_cons items
          have bracket : ofCharacter '[' = [0x5b] := by decide
          have written : ofCharacters (Value.array (item :: others)).characters =
              0x5b :: ofCharacters (itemsCharacters (item :: others)).tail := by
            rw [Value.characters, List.cons_append, Octets.ofCharacters_cons, bracket]
            rfl
          have begins : Begins (ofCharacters (itemsCharacters (item :: others)).tail) := by
            have split : (itemsCharacters (item :: others)).tail =
                item.characters ++ itemsCharacters others := rfl
            rw [split, Octets.ofCharacters_append]
            exact (begins_characters firstGiven).append _
          have fits : (itemsCharacters (item :: others)).tail.length ≤ bound :=
            Nat.le_of_succ_le_succ enough
          rw [written, List.cons_append, readDocument_items _ (begins.append rest),
            readItems_characters (item :: others) items nofun fits rest]
          rfl
      | .object [] =>
          obtain rfl := Option.some.inj given
          have written : ofCharacters (Value.object []).characters = [0x7b, 0x7d] := by decide
          rw [written]
          exact readDocument_noMembers bound rest
      | .object ((name, member) :: others) =>
          obtain ⟨documents, members, rfl⟩ := Option.map_eq_some_iff.mp given
          have brace : ofCharacter '\x7b' = [0x7b] := by decide
          have written : ofCharacters (Value.object ((name, member) :: others)).characters =
              0x7b :: ofCharacters (membersCharacters ((name, member) :: others)).tail := by
            rw [Value.characters, List.cons_append, List.cons_append, Octets.ofCharacters_cons,
              brace]
            rfl
          have quoted : ∃ tail,
              ofCharacters (membersCharacters ((name, member) :: others)).tail =
                0x22 :: tail := by
            rw [tail_membersCharacters, Octets.ofCharacters_append, ofCharacters_stringCharacters]
            exact ⟨_, rfl⟩
          have fits : (membersCharacters ((name, member) :: others)).tail.length ≤ bound :=
            Nat.le_of_succ_le_succ enough
          have read := readMembers_characters ((name, member) :: others) members nofun fits rest
          obtain ⟨tail, quote⟩ := quoted
          rw [quote] at read
          rw [written, quote]
          rw [List.cons_append] at read
          rw [List.cons_append, List.cons_append, readDocument_members, read]
          rfl

theorem readItems_characters (items : List Value) {documents : List Document}
    (given : itemDocuments? items = some documents) (some_ : items ≠ []) {bound : Nat}
    (enough : (itemsCharacters items).tail.length ≤ bound) (rest : Octets) :
    readItems bound (ofCharacters (itemsCharacters items).tail ++ rest) =
      some (documents, rest) := by
  match items with
  | [] => exact absurd rfl some_
  | item :: others =>
      obtain ⟨first, documents, firstGiven, othersGiven, rfl⟩ := itemDocuments?_cons given
      have split : (itemsCharacters (item :: others)).tail =
          item.characters ++ itemsCharacters others := rfl
      have follows := length_itemsCharacters_pos others
      rw [split, List.length_append] at enough
      rw [split, Octets.ofCharacters_append, List.append_assoc]
      cases bound with
      | zero => omega
      | succ bound =>
          match others with
          | [] =>
              obtain rfl := Option.some.inj othersGiven
              have closing : ofCharacters (itemsCharacters []) = [0x5d] := by decide
              rw [closing]
              apply readItems_last
              exact readDocument_characters item firstGiven (by omega)
                (ends_cons (by decide) rest)
          | next :: more =>
              have comma : ofCharacters (itemsCharacters (next :: more)) =
                  0x2c :: ofCharacters (itemsCharacters (next :: more)).tail := rfl
              have fits : (itemsCharacters (next :: more)).tail.length ≤ bound := by
                rw [List.length_tail]
                omega
              rw [comma]
              apply readItems_next
              · exact readDocument_characters item firstGiven (by omega)
                  (ends_cons (by decide) _)
              · exact readItems_characters (next :: more) othersGiven nofun fits rest

theorem readMembers_characters (members : List (String × Value))
    {documents : List (Option String × Document)}
    (given : memberDocuments? members = some documents) (some_ : members ≠ []) {bound : Nat}
    (enough : (membersCharacters members).tail.length ≤ bound) (rest : Octets) :
    readMembers bound (ofCharacters (membersCharacters members).tail ++ rest) =
      some (documents, rest) := by
  match members with
  | [] => exact absurd rfl some_
  | (name, member) :: others =>
      obtain ⟨first, documents, firstGiven, othersGiven, rfl⟩ := memberDocuments?_cons given
      have follows := length_membersCharacters_pos others
      have colon : ofCharacter ':' = [0x3a] := by decide
      rw [tail_membersCharacters, List.length_append, List.length_cons, List.length_append]
        at enough
      rw [tail_membersCharacters, Octets.ofCharacters_append, ofCharacters_stringCharacters,
        Octets.ofCharacters_cons, Octets.ofCharacters_append, colon]
      simp only [List.cons_append, List.append_assoc, List.nil_append]
      have named := readString_text name
        (0x3a :: (ofCharacters member.characters ++
          (ofCharacters (membersCharacters others) ++ rest)))
      cases bound with
      | zero => omega
      | succ bound =>
          match others with
          | [] =>
              obtain rfl := Option.some.inj othersGiven
              have closing : ofCharacters (membersCharacters []) = [0x7d] := by decide
              rw [closing] at named ⊢
              apply readMembers_last _ _ named
              exact readDocument_characters member firstGiven (by omega)
                (ends_cons (by decide) rest)
          | next :: more =>
              have comma : ofCharacters (membersCharacters (next :: more)) =
                  0x2c :: ofCharacters (membersCharacters (next :: more)).tail := rfl
              have fits : (membersCharacters (next :: more)).tail.length ≤ bound := by
                rw [List.length_tail]
                omega
              rw [comma] at named ⊢
              apply readMembers_next _ _ named
              · exact readDocument_characters member firstGiven (by omega)
                  (ends_cons (by decide) _)
              · exact readMembers_characters (next :: more) othersGiven nofun fits rest

end

theorem parse?_octets {value : Value} {document : Document}
    (given : value.document? = some document) :
    Document.parse? value.octets = some document := by
  have longer := Octets.length_ofCharacters_ge value.characters
  have enough : value.characters.length ≤
      2 * (ofCharacters value.characters).length + 1 := by omega
  have read := readDocument_characters value given enough ends_nil
  rw [List.append_nil] at read
  rw [Value.octets, Value.text, Octets.ofText_ofList, Document.parse?, read]
  rfl

/-! ## Sizes -/

theorem length_members (name : String) (value : Value) (rest : List (String × Value)) :
    (ofCharacters (membersCharacters ((name, value) :: rest))).length =
      (ofCharacters (stringCharacters name)).length + (ofCharacters value.characters).length +
        (ofCharacters (membersCharacters rest)).length + 2 := by
  have comma : ofCharacter ',' = [0x2c] := by decide
  have colon : ofCharacter ':' = [0x3a] := by decide
  simp only [membersCharacters, List.cons_append, Octets.ofCharacters_cons,
    Octets.ofCharacters_append, comma, colon, List.length_append, List.length_cons,
    List.length_nil]
  omega

theorem length_object (name : String) (value : Value) (rest : List (String × Value)) :
    (Value.object ((name, value) :: rest)).octets.length =
      (ofCharacters (membersCharacters ((name, value) :: rest))).length := by
  have brace : ofCharacter '\x7b' = [0x7b] := by decide
  have comma : ofCharacter ',' = [0x2c] := by decide
  rw [Value.octets, Value.text, Octets.ofText_ofList]
  simp only [membersCharacters, Value.characters, List.cons_append, Octets.ofCharacters_cons,
    brace, comma]
  rfl

end Json

end DeviceAuth
