import DeviceAuth.Claim.Localize
import DeviceAuth.Proofs.Json.Texts
import DeviceAuth.Proofs.Text.Search
import Mathlib.Data.List.Forall2

/-! What fitting a configuration to the device changes. It changes texts only, and of those
only the ones in which the placeholder stands for a whole host, or which begin with a secure
scheme when the device has no TLS. A text that was fitted needs no more fitting: the host that
was filled in ends where the placeholder ended, so it is not taken for the placeholder unless
it is the same. -/

namespace DeviceAuth

namespace Localize

open Text (SplitsAtFirst splitFirst?_eq_some_iff splitFirst?_eq_none_iff)

/-! ## The placeholder in a text -/

def hostEnds : List Char := [':', '/', '?', '#']

/-- The placeholder is a whole host in a text: what stands before it, and what follows. -/
inductive PlaceholderIn (text : List Char) : List Char → List Char → Prop where
  | alone (rest : List Char) (text_eq : text = placeholder ++ rest)
      (ends : rest = [] ∨ rest.head? = some ':') (unmarked : ¬ schemeMark <:+: text) :
      PlaceholderIn text [] rest
  | address (scheme rest : List Char)
      (splits : SplitsAtFirst schemeMark text scheme (placeholder ++ rest))
      (ends : rest = [] ∨ ∃ character ∈ hostEnds, rest.head? = some character) :
      PlaceholderIn text (scheme ++ schemeMark) rest

section Characters

variable {text front rest host : List Char}

theorem PlaceholderIn.text_eq (found : PlaceholderIn text front rest) :
    text = front ++ placeholder ++ rest := by
  cases found with
  | alone _ text_eq => exact text_eq
  | address scheme _ splits => rw [splits.text_eq, List.append_assoc _ placeholder]

theorem PlaceholderIn.ends (found : PlaceholderIn text front rest) :
    rest = [] ∨ ∃ character ∈ hostEnds, rest.head? = some character := by
  cases found with
  | alone _ _ ends => exact ends.imp_right fun port => ⟨':', by decide, port⟩
  | address _ _ _ ends => exact ends

theorem afterPlaceholder?_eq_some_iff :
    afterPlaceholder? text = some rest ↔ text = placeholder ++ rest := by
  unfold afterPlaceholder?
  constructor
  · intro found
    split at found
    next starts =>
      obtain ⟨tail, rfl⟩ := List.isPrefixOf_iff_prefix.mp starts
      rw [List.drop_left] at found
      rw [Option.some.inj found]
    next => cases found
  · rintro rfl
    have starts : placeholder.isPrefixOf (placeholder ++ rest) = true :=
      List.isPrefixOf_iff_prefix.mpr (List.prefix_append _ _)
    rw [if_pos starts, List.drop_left]

theorem endsWith_iff (characters rest : List Char) :
    (rest.isEmpty || startsWithOneOf characters rest) = true ↔
      rest = [] ∨ ∃ character ∈ characters, rest.head? = some character := by
  cases rest with
  | nil => simp
  | cons first others => simp [startsWithOneOf]

theorem replaceHost?_eq_some_iff {named : List Char} :
    replaceHost? host text = some named ↔
      ∃ front rest, PlaceholderIn text front rest ∧ named = front ++ host ++ rest := by
  unfold replaceHost?
  cases split : Text.splitFirst? schemeMark text with
  | some parts =>
      obtain ⟨scheme, address⟩ := parts
      have splits := splitFirst?_eq_some_iff.mp split
      simp only [Option.bind_eq_bind, Option.bind_eq_some_iff, afterPlaceholder?_eq_some_iff,
        endsWith_iff, Option.ite_none_right_eq_some, Option.some.injEq]
      constructor
      · rintro ⟨rest, rfl, ends, rfl⟩
        exact ⟨_, rest, .address scheme rest splits ends, rfl⟩
      · rintro ⟨_, rest, found, rfl⟩
        cases found with
        | alone _ _ _ unmarked => exact absurd splits.infix_text unmarked
        | address other _ otherSplits ends =>
            obtain ⟨rfl, rfl⟩ := splits.unique otherSplits
            exact ⟨rest, rfl, ends, rfl⟩
  | none =>
      have unmarked := splitFirst?_eq_none_iff.mp split
      simp only [Option.bind_eq_bind, Option.bind_eq_some_iff, afterPlaceholder?_eq_some_iff,
        endsWith_iff, Option.ite_none_right_eq_some, Option.some.injEq]
      constructor
      · rintro ⟨rest, equal, ends, rfl⟩
        exact ⟨[], rest, .alone rest equal (by simpa using ends) unmarked, rfl⟩
      · rintro ⟨_, rest, found, rfl⟩
        cases found with
        | alone _ equal ends => exact ⟨rest, equal, by simpa using ends, rfl⟩
        | address scheme _ splits => exact absurd splits.infix_text unmarked

/-! ## Filling in the host -/

/-- A host without any character that could follow it. -/
def IsBare (host : List Char) : Prop := ∀ character ∈ hostEnds, character ∉ host

instance (host : List Char) : Decidable (IsBare host) :=
  List.decidableBAll (fun character => character ∉ host) hostEnds

theorem isBare_placeholder : IsBare placeholder := by decide

theorem takeWhile_host (bare : IsBare host)
    (ends : rest = [] ∨ ∃ character ∈ hostEnds, rest.head? = some character) :
    (host ++ rest).takeWhile (fun character => !hostEnds.contains character) = host := by
  have within : ∀ character ∈ host, (!hostEnds.contains character) = true := by
    intro character member
    have other : character ∉ hostEnds := fun ending => bare character ending member
    simpa using other
  rw [List.takeWhile_append_of_pos within]
  rcases ends with rfl | ⟨character, ending, first⟩
  · simp
  · obtain ⟨others, rfl⟩ := List.head?_eq_some_iff.mp first
    rw [List.takeWhile_cons_of_neg (by simpa using ending), List.append_nil]

theorem colon_mem_hostEnds : ':' ∈ hostEnds := by decide

theorem PlaceholderIn.eq_placeholder (found : PlaceholderIn text front rest) (bare : IsBare host)
    {otherFront otherRest : List Char}
    (again : PlaceholderIn (front ++ host ++ rest) otherFront otherRest) :
    host = placeholder := by
  -- Neither host has a character in it that could follow it, so both end at the same place.
  have sameHost : host ++ rest = placeholder ++ otherRest → host = placeholder := by
    intro equal
    rw [← takeWhile_host bare found.ends, equal,
      takeWhile_host isBare_placeholder again.ends]
  cases found with
  | alone rest text_eq _ unmarked =>
      have restUnmarked : ¬ schemeMark <:+: rest := by
        rintro inside
        apply unmarked
        rw [text_eq]
        exact inside.trans (List.suffix_append placeholder rest).isInfix
      have stillUnmarked : ¬ schemeMark <:+: [] ++ host ++ rest :=
        Text.not_infix_append (bare ':' colon_mem_hostEnds) restUnmarked
      cases again with
      | alone _ equal => exact sameHost equal
      | address _ _ splits => exact absurd splits.infix_text stillUnmarked
  | address scheme rest splits =>
      have split := splits.replaceAfter (host ++ rest)
      rw [← List.append_assoc] at split
      cases again with
      | alone _ _ _ unmarked => exact absurd split.infix_text unmarked
      | address _ _ otherSplits => exact sameHost (split.unique otherSplits).2

theorem characters_of_found (found : PlaceholderIn text front rest) (given : host ≠ []) :
    characters host true text = front ++ host ++ rest := by
  have replaced : replaceHost? host text = some (front ++ host ++ rest) :=
    replaceHost?_eq_some_iff.mpr ⟨front, rest, found, rfl⟩
  simp only [characters, List.isEmpty_iff, if_neg given, replaced, Option.getD_some, if_true]

theorem characters_of_not_found (absent : ∀ front rest, ¬ PlaceholderIn text front rest) :
    characters host true text = text := by
  have kept : replaceHost? host text = none := by
    rw [Option.eq_none_iff_forall_not_mem]
    intro named member
    obtain ⟨front, rest, found, _⟩ := replaceHost?_eq_some_iff.mp member
    exact absent front rest found
  simp [characters, kept]

theorem characters_nil (text : List Char) : characters [] true text = text := rfl

theorem characters_fixed (bare : IsBare host) (text : List Char) :
    characters host true (characters host true text) = characters host true text := by
  by_cases given : host = []
  · rw [given, characters_nil, characters_nil]
  · by_cases present : ∃ front rest, PlaceholderIn text front rest
    · obtain ⟨front, rest, found⟩ := present
      rw [characters_of_found found given]
      by_cases same : host = placeholder
      · rw [same, ← found.text_eq, ← same, characters_of_found found given, same,
          ← found.text_eq]
      · apply characters_of_not_found
        intro otherFront otherRest again
        exact same (found.eq_placeholder bare again)
    · have absent : ∀ front rest, ¬ PlaceholderIn text front rest :=
        fun front rest found => present ⟨front, rest, found⟩
      rw [characters_of_not_found absent, characters_of_not_found absent]

/-! ## Secure schemes -/

def schemes : List (List Char × List Char) :=
  [("wss".toList, "ws".toList), ("https".toList, "http".toList)]

def IsSecure (text : List Char) : Prop := ∃ scheme ∈ schemes, scheme.1 ++ schemeMark <+: text

theorem plainScheme_cases (text : List Char) :
    (¬ IsSecure text ∧ plainScheme text = text) ∨
      ∃ scheme ∈ schemes, ∃ address, text = scheme.1 ++ schemeMark ++ address ∧
        plainScheme text = scheme.2 ++ schemeMark ++ address := by
  unfold plainScheme
  split
  next starts =>
    obtain ⟨address, rfl⟩ := List.isPrefixOf_iff_prefix.mp starts
    exact .inr ⟨_, .head _, address, rfl, rfl⟩
  next notWss =>
    split
    next starts =>
      obtain ⟨address, rfl⟩ := List.isPrefixOf_iff_prefix.mp starts
      exact .inr ⟨_, .tail _ (.head _), address, rfl, rfl⟩
    next notHttps =>
      left
      refine ⟨?_, rfl⟩
      rintro ⟨scheme, member, starts⟩
      simp only [schemes, List.mem_cons, List.not_mem_nil, or_false] at member
      rcases member with rfl | rfl
      · exact notWss (List.isPrefixOf_iff_prefix.mpr starts)
      · exact notHttps (List.isPrefixOf_iff_prefix.mpr starts)

theorem not_isSecure_plain {scheme : List Char × List Char} (member : scheme ∈ schemes)
    (address : List Char) : ¬ IsSecure (scheme.2 ++ schemeMark ++ address) := by
  rintro ⟨other, otherMember, starts⟩
  simp only [schemes, List.mem_cons, List.not_mem_nil, or_false] at member otherMember
  rcases member with rfl | rfl <;> rcases otherMember with rfl | rfl <;>
    simp [schemeMark, List.cons_prefix_cons] at starts

theorem not_isSecure_plainScheme (text : List Char) : ¬ IsSecure (plainScheme text) := by
  rcases plainScheme_cases text with ⟨plain, same⟩ | ⟨scheme, member, address, _, replaced⟩
  · rw [same]
    exact plain
  · rw [replaced]
    exact not_isSecure_plain member address

theorem plainScheme_of_not_isSecure (plain : ¬ IsSecure text) : plainScheme text = text := by
  rcases plainScheme_cases text with ⟨_, same⟩ | ⟨scheme, member, address, rfl, _⟩
  · exact same
  · exact absurd ⟨scheme, member, List.prefix_append _ _⟩ plain

theorem PlaceholderIn.changeScheme {scheme other address : List Char} (plain : ':' ∉ scheme)
    (otherPlain : ':' ∉ other)
    (found : PlaceholderIn (scheme ++ schemeMark ++ address) front rest) :
    front = scheme ++ schemeMark ∧ address = placeholder ++ rest ∧
      PlaceholderIn (other ++ schemeMark ++ address) (other ++ schemeMark) rest := by
  have split : SplitsAtFirst schemeMark (scheme ++ schemeMark ++ address) scheme address :=
    .of_not_mem plain
  cases found with
  | alone _ _ _ unmarked => exact absurd split.infix_text unmarked
  | address _ _ otherSplit ends =>
      obtain ⟨rfl, rfl⟩ := split.unique otherSplit
      exact ⟨rfl, rfl, .address other rest (.of_not_mem otherPlain) ends⟩

theorem colon_not_mem_schemes {scheme : List Char × List Char} (member : scheme ∈ schemes) :
    ':' ∉ scheme.1 ∧ ':' ∉ scheme.2 := by
  have every : ∀ scheme ∈ schemes, ':' ∉ scheme.1 ∧ ':' ∉ scheme.2 := by decide
  exact every scheme member

theorem characters_plainScheme (named : characters host true text = text) :
    characters host true (plainScheme text) = plainScheme text := by
  rcases plainScheme_cases text with ⟨_, same⟩ | ⟨scheme, member, address, equal, replaced⟩
  · rw [same, named]
  · rw [replaced]
    by_cases given : host = []
    · rw [given, characters_nil]
    · by_cases present : ∃ front rest,
          PlaceholderIn (scheme.2 ++ schemeMark ++ address) front rest
      · obtain ⟨front, rest, found⟩ := present
        obtain ⟨secure, plain⟩ := colon_not_mem_schemes member
        obtain ⟨rfl, rfl, before⟩ := found.changeScheme plain secure
        rw [equal, characters_of_found before given, List.append_assoc,
          List.append_cancel_left_eq] at named
        rw [characters_of_found found given, List.append_assoc, named]
      · exact characters_of_not_found fun front rest found => present ⟨front, rest, found⟩

theorem characters_twice (bare : IsBare host) (tlsEnabled : Bool) (text : List Char) :
    characters host tlsEnabled (characters host tlsEnabled text) =
      characters host tlsEnabled text := by
  cases tlsEnabled with
  | true => exact characters_fixed bare text
  | false =>
      show plainScheme (characters host true (plainScheme (characters host true text))) =
        plainScheme (characters host true text)
      rw [characters_plainScheme (characters_fixed bare text)]
      exact plainScheme_of_not_isSecure (not_isSecure_plainScheme _)

/-- What becomes of a text with TLS: it changes exactly if the placeholder is a whole host in
it, and then that is replaced and nothing else. -/
structure NamesHost (host before after : List Char) : Prop where
  changed : after ≠ before ↔ ∃ front rest, PlaceholderIn before front rest
  replaced : ∀ front rest, PlaceholderIn before front rest → after = front ++ host ++ rest

theorem namesHost_characters (given : host ≠ []) (other : host ≠ placeholder)
    (text : List Char) : NamesHost host text (characters host true text) where
  changed := by
    constructor
    · intro changed
      by_contra absent
      exact changed (characters_of_not_found fun front rest found => absent ⟨front, rest, found⟩)
    · rintro ⟨front, rest, found⟩ same
      rw [characters_of_found found given, found.text_eq, List.append_cancel_right_eq,
        List.append_cancel_left_eq] at same
      exact other same
  replaced := fun _ _ found => characters_of_found found given

end Characters

/-! ## Texts -/

theorem toList_text (host : String) (tlsEnabled : Bool) (present : String) :
    (text host tlsEnabled present).toList = characters host.toList tlsEnabled present.toList :=
  String.toList_ofList

theorem text_twice {host : String} (bare : IsBare host.toList) (tlsEnabled : Bool)
    (present : String) :
    text host tlsEnabled (text host tlsEnabled present) = text host tlsEnabled present := by
  unfold text
  rw [String.toList_ofList, characters_twice bare]

/-! ## Values -/

def unfitted (host : String) (tlsEnabled : Bool) (texts : List String) : Nat :=
  texts.countP fun present => text host tlsEnabled present ≠ present

theorem unfitted_append (host : String) (tlsEnabled : Bool) (left right : List String) :
    unfitted host tlsEnabled (left ++ right) =
      unfitted host tlsEnabled left + unfitted host tlsEnabled right := List.countP_append

mutual

theorem value_eq (host : String) (tlsEnabled : Bool) (present : Json.Value) :
    value host tlsEnabled present =
      (present.mapTexts (text host tlsEnabled), unfitted host tlsEnabled present.texts) := by
  match present with
  | .null | .boolean _ | .number _ => rfl
  | .string present =>
      simp only [value, Json.Value.mapTexts, Json.Value.texts, unfitted, List.countP_singleton,
        decide_not, Bool.not_eq_true', decide_eq_false_iff_not, ite_not]
  | .array items =>
      rw [value, values_eq host tlsEnabled items]
      rfl
  | .object members =>
      rw [value, memberValues_eq host tlsEnabled members]
      rfl

theorem values_eq (host : String) (tlsEnabled : Bool) (items : List Json.Value) :
    values host tlsEnabled items =
      (Json.itemsMapTexts (text host tlsEnabled) items,
        unfitted host tlsEnabled (Json.itemsTexts items)) := by
  match items with
  | [] => rfl
  | item :: rest =>
      rw [values, value_eq host tlsEnabled item, values_eq host tlsEnabled rest,
        Json.itemsTexts, unfitted_append]
      rfl

theorem memberValues_eq (host : String) (tlsEnabled : Bool)
    (members : List (String × Json.Value)) :
    memberValues host tlsEnabled members =
      (Json.membersMapTexts (text host tlsEnabled) members,
        unfitted host tlsEnabled (Json.membersTexts members)) := by
  match members with
  | [] => rfl
  | (_, member) :: rest =>
      rw [memberValues, value_eq host tlsEnabled member, memberValues_eq host tlsEnabled rest,
        Json.membersTexts, unfitted_append]
      rfl

end

/-- What fitting a value to the device does. -/
structure Fits (host : String) (tlsEnabled : Bool) (before after : Json.Value) (changes : Nat) :
    Prop where
  frame : before.SameFrame after
  counted : changes = (before.texts.zip after.texts).countP fun pair => pair.2 ≠ pair.1
  again : value host tlsEnabled after = (after, 0)
  named : tlsEnabled = true → host ≠ "" → host.toList ≠ placeholder →
    List.Forall₂ (fun old new => NamesHost host.toList old.toList new.toList) before.texts
      after.texts
  plain : tlsEnabled = false → ∀ present ∈ after.texts, ¬ IsSecure present.toList

/-- A value is fitted to the device at once, and in no place too many. -/
theorem fits_value {host : String} (bare : IsBare host.toList) (tlsEnabled : Bool)
    (before : Json.Value) :
    Fits host tlsEnabled before (value host tlsEnabled before).1
      (value host tlsEnabled before).2 := by
  rw [value_eq]
  constructor
  case frame => exact before.sameFrame_mapTexts _
  case counted =>
    rw [Json.Value.texts_mapTexts, ← List.map_prod_left_eq_zip, List.countP_map]
    rfl
  case again =>
    have settled : unfitted host tlsEnabled (before.texts.map (text host tlsEnabled)) = 0 := by
      rw [unfitted, List.countP_map, List.countP_eq_zero]
      intro present _
      simp [text_twice bare]
    rw [value_eq, Json.Value.mapTexts_mapTexts, Json.Value.texts_mapTexts, settled]
    simp only [text_twice bare]
  case named =>
    rintro rfl given other
    have present : host.toList ≠ [] := by simpa using given
    rw [Json.Value.texts_mapTexts, List.forall₂_map_right_iff, List.forall₂_same]
    intro old _
    rw [toList_text]
    exact namesHost_characters present other old.toList
  case plain =>
    rintro rfl present member
    rw [Json.Value.texts_mapTexts] at member
    obtain ⟨old, _, rfl⟩ := List.mem_map.mp member
    rw [toList_text]
    exact not_isSecure_plainScheme _

def nameless : Json.Value :=
  .object [("host", .string "0.0.0.0"), ("mirrors", .array [.string "https://0.0.0.0?x=1"]),
    ("port", .number (.whole 8443)), ("subnet", .string "0.0.0.0/0"),
    ("ws_url", .string "wss://0.0.0.0:8443/ws")]

theorem fits_nameless :
    IsBare "api.example".toList ∧
      (value "api.example" true nameless).1.texts =
        ["api.example", "https://api.example?x=1", "0.0.0.0/0", "wss://api.example:8443/ws"] ∧
      (value "api.example" true nameless).2 = 3 ∧
      Fits "api.example" true nameless (value "api.example" true nameless).1 3 := by
  have bare : IsBare "api.example".toList := by decide
  have count : (value "api.example" true nameless).2 = 3 := by decide +kernel
  refine ⟨bare, by decide +kernel, count, ?_⟩
  rw [← count]
  exact fits_value bare true nameless

example : (value "api.example" false nameless).1.texts =
    ["api.example", "http://api.example?x=1", "0.0.0.0/0", "ws://api.example:8443/ws"] := by
  decide +kernel

end Localize

end DeviceAuth
