import DeviceAuth.Boot
import DeviceAuth.Proofs.Text.Utf8

/-! Device ids. The digits of an address can be written in either case, with colons, hyphens
and dots among them, and every such text stands for the same id: the one that is derived from
the address itself. What is accepted as an id beyond that is told by its characters alone, and
an id that was accepted once is not changed any more. -/

namespace DeviceAuth

namespace DeviceId

/-! ## The characters of ids -/

def IsWordCharacter (character : Char) : Prop := character.isAlphanum ∨ character = '_'

def IsCapital (character : Char) : Prop :=
  character.isUpper ∨ character.isDigit ∨ character = '_'

instance (character : Char) : Decidable (IsWordCharacter character) :=
  inferInstanceAs (Decidable (_ ∨ _))

instance (character : Char) : Decidable (IsCapital character) :=
  inferInstanceAs (Decidable (_ ∨ _))

def IsWord (Allowed : Char → Prop) (characters : List Char) : Prop :=
  characters ≠ [] ∧ ∀ character ∈ characters, Allowed character

def bare (raw : String) : List Char :=
  raw.toList.filter fun character => character ∉ [':', '-', '.']

theorem forall_ascii {P : Char → Prop} (every : ∀ code : Fin 128, P (Char.ofNat code))
    {character : Char} (ascii : character.toNat < 128) : P character := by
  have found := every ⟨character.toNat, ascii⟩
  rwa [Char.ofNat_toNat] at found

theorem ascii_of_isWordCharacter {character : Char} (allowed : IsWordCharacter character) :
    character.toNat < 128 := by
  rcases allowed with letter | rfl
  · have ranges : character.isAlphanum =
        ((decide ('A'.val ≤ character.val ∧ character.val ≤ 'Z'.val) ||
          decide ('a'.val ≤ character.val) && decide (character.val ≤ 'z'.val)) ||
          decide ('0'.val ≤ character.val) && decide (character.val ≤ '9'.val)) := rfl
    simp only [ranges, Bool.or_eq_true, Bool.and_eq_true, decide_eq_true_eq,
      UInt32.le_iff_toNat_le] at letter
    have code : character.toNat = character.val.toNat := rfl
    rw [code]
    rcases letter with (⟨_, most⟩ | ⟨_, most⟩) | ⟨_, most⟩
    all_goals exact Nat.lt_of_le_of_lt most (by decide)
  · decide

theorem all_isAllowed_ofCharacter {character : Char} :
    (Octets.ofCharacter character).all isAllowed = true ↔
      IsWordCharacter character ∨ character = '-' := by
  by_cases ascii : character.toNat < 128
  case pos =>
    rw [Octets.ofCharacter_of_ascii ascii, List.all_cons, List.all_nil, Bool.and_true]
    exact forall_ascii (P := fun character => isAllowed (UInt8.ofNat character.toNat) = true ↔
      IsWordCharacter character ∨ character = '-') (by decide) ascii
  case neg =>
    have other : 128 ≤ character.toNat := Nat.le_of_not_lt ascii
    constructor
    · intro all
      rcases List.exists_mem_of_ne_nil _ (Octets.ofCharacter_ne_nil character) with
        ⟨octet, member⟩
      have high := Octets.le_of_mem_ofCharacter other member
      have allowed := List.all_eq_true.mp all octet member
      simp only [isAllowed, Bool.or_eq_true, Bool.and_eq_true, decide_eq_true_eq, beq_iff_eq,
        UInt8.le_iff_toNat_le, ← UInt8.toNat_inj] at allowed
      have numbers : (0x39 : UInt8).toNat = 57 ∧ (0x5a : UInt8).toNat = 90 ∧
          (0x7a : UInt8).toNat = 122 ∧ (0x5f : UInt8).toNat = 95 ∧ (0x2d : UInt8).toNat = 45 := by
        decide
      omega
    · rintro (allowed | rfl)
      · exact absurd (ascii_of_isWordCharacter allowed) ascii
      · exact absurd (by decide) ascii

theorem isValid_iff {id : String} : isValid id = true ↔
    IsWord (fun character => IsWordCharacter character ∨ character = '-') id.toList := by
  rw [isValid, Octets.ofText_eq_ofCharacters, Bool.and_eq_true, Bool.not_eq_true',
    List.isEmpty_eq_false_iff, Octets.ofCharacters, List.all_flatMap, List.all_eq_true]
  have empty : id.toList.flatMap Octets.ofCharacter = [] ↔ id.toList = [] := by
    cases id.toList with
    | nil => simp
    | cons first rest => simp [Octets.ofCharacter_ne_nil]
  rw [Ne, empty]
  simp only [all_isAllowed_ofCharacter]
  rfl

theorem check_eq_ok_iff {id : String} : check id = .ok () ↔ isValid id = true := by
  unfold check
  split
  next valid => simp [valid]
  next invalid => simp [invalid]

/-! ## Upper case -/

theorem upper_of_not_ascii {character : Char} (other : ¬ character.toNat < 128) :
    upper character = character := by
  apply if_neg
  omega

theorem isWordCharacter_upper {character : Char} :
    IsWordCharacter (upper character) ↔ IsWordCharacter character := by
  by_cases ascii : character.toNat < 128
  · exact forall_ascii (P := fun character =>
      IsWordCharacter (upper character) ↔ IsWordCharacter character) (by decide) ascii
  · rw [upper_of_not_ascii ascii]

theorem upper_eq_hyphen_iff {character : Char} : upper character = '-' ↔ character = '-' := by
  by_cases ascii : character.toNat < 128
  · exact forall_ascii (P := fun character => upper character = '-' ↔ character = '-')
      (by decide) ascii
  · rw [upper_of_not_ascii ascii]

theorem isCapital_upper {character : Char} (allowed : IsWordCharacter character) :
    IsCapital (upper character) :=
  forall_ascii (P := fun character => IsWordCharacter character → IsCapital (upper character))
    (by decide) (ascii_of_isWordCharacter allowed) allowed

theorem IsCapital.isWordCharacter {character : Char} (capital : IsCapital character) :
    IsWordCharacter character := by
  rcases capital with letter | digit | underscore
  · exact .inl (Bool.or_eq_true_iff.mpr (.inl (Bool.or_eq_true_iff.mpr (.inl letter))))
  · exact .inl (Bool.or_eq_true_iff.mpr (.inr digit))
  · exact .inr underscore

theorem IsCapital.stays {character : Char} (capital : IsCapital character) :
    character ∉ [':', '-', '.'] ∧ upper character = character :=
  forall_ascii (P := fun character => IsCapital character →
    character ∉ [':', '-', '.'] ∧ upper character = character)
    (by decide) (ascii_of_isWordCharacter capital.isWordCharacter) capital

/-! ## Accepted texts -/

theorem toList_plain (raw : String) : (plain raw).toList = (bare raw).map upper := by
  have same : (fun character => !isSeparator character) =
      fun character => decide (character ∉ [':', '-', '.']) := by
    funext character
    simp [isSeparator, Bool.beq_eq_decide_eq, Bool.and_assoc]
  rw [plain, String.toList_ofList, bare, same]

/-- A text is accepted if what is left of it without separators is a word. -/
theorem canonical_eq_ok_iff {raw id : String} :
    canonical raw = .ok id ↔ IsWord IsWordCharacter (bare raw) ∧ id = plain raw := by
  have valid : check (plain raw) = .ok () ↔ IsWord IsWordCharacter (bare raw) := by
    rw [check_eq_ok_iff, isValid_iff, toList_plain]
    simp only [IsWord, ne_eq, List.map_eq_nil_iff, List.forall_mem_map, isWordCharacter_upper,
      upper_eq_hyphen_iff]
    refine and_congr_right fun _ => forall₂_congr fun character member => ?_
    have solid : character ≠ '-' := by
      rintro rfl
      simp [bare] at member
    simp [solid]
  rw [← valid]
  unfold canonical
  cases check (plain raw) with
  | ok => simp [eq_comm]
  | error failure => simp

theorem isWord_plain {raw : String} (word : IsWord IsWordCharacter (bare raw)) :
    IsWord IsCapital (plain raw).toList := by
  rw [toList_plain]
  refine ⟨by simpa using word.1, ?_⟩
  intro character member
  rcases List.mem_map.mp member with ⟨written, found, rfl⟩
  exact isCapital_upper (word.2 written found)

theorem canonical_of_isWord {id : String} (word : IsWord IsCapital id.toList) :
    canonical id = .ok id := by
  have kept : bare id = id.toList :=
    List.filter_eq_self.mpr fun character member => by
      simpa using (word.2 character member).stays.1
  have same : plain id = id := by
    have unchanged : id.toList.map upper = id.toList := by
      have fixed : ∀ character ∈ id.toList, upper character = character :=
        fun character member => (word.2 character member).stays.2
      rw [List.map_congr_left fixed, List.map_id']
    rw [← String.toList_inj, toList_plain, kept, unchanged]
  rw [canonical_eq_ok_iff, kept, same]
  exact ⟨⟨word.1, fun character member => (word.2 character member).isWordCharacter⟩, rfl⟩

/-! ## Spellings of an address -/

/-- The ways to write digits: each one in either case, and separators at any place. -/
inductive Spells : List (Fin 16) → List Char → Prop where
  | nil : Spells [] []
  | digit (letters : Hexadecimal.Case) (value : Fin 16) {values : List (Fin 16)}
      {text : List Char} (rest : Spells values text) :
      Spells (value :: values) (Hexadecimal.digit letters value :: text)
  | separator {mark : Char} (separates : mark ∈ [':', '-', '.']) {values : List (Fin 16)}
      {text : List Char} (rest : Spells values text) : Spells values (mark :: text)

end DeviceId

namespace Address

def digits (address : Address) : List (Fin 16) :=
  address.octets.flatMap fun octet =>
    [⟨octet.toNat / 16, by have := octet.toNat_lt; omega⟩,
      ⟨octet.toNat % 16, Nat.mod_lt _ (by decide)⟩]

theorem toList_deviceId (address : Address) :
    address.deviceId.toList =
      address.digits.map fun value : Fin 16 => Hexadecimal.digit .upper value := by
  rw [deviceId, Hexadecimal.encodeUpper, String.toList_ofList, digits, List.map_flatMap]
  rfl

end Address

namespace DeviceId

theorem isWord_deviceId (address : Address) : IsWord IsCapital address.deviceId.toList := by
  rw [Address.toList_deviceId]
  constructor
  · intro none
    have size := address.size
    rw [List.map_eq_nil_iff, Address.digits, List.flatMap_eq_nil_iff] at none
    cases octets : address.octets with
    | nil =>
        rw [octets] at size
        cases size
    | cons octet rest =>
        have digitless := none octet (by rw [octets]; exact .head rest)
        cases digitless
  · intro character member
    have every : ∀ value : Fin 16, IsCapital (Hexadecimal.digit .upper value) := by decide
    rcases List.mem_map.mp member with ⟨value, _, rfl⟩
    exact every value

theorem Spells.plain {values : List (Fin 16)} {text : List Char} (spells : Spells values text) :
    (text.filter fun character => character ∉ [':', '-', '.']).map upper =
      values.map fun value : Fin 16 => Hexadecimal.digit .upper value := by
  have written : ∀ letters : Hexadecimal.Case, ∀ value : Fin 16,
      Hexadecimal.digit letters value ∉ [':', '-', '.'] ∧
        upper (Hexadecimal.digit letters value) = Hexadecimal.digit .upper value := by
    intro letters
    cases letters <;> decide
  induction spells with
  | nil => rfl
  | digit letters value rest induction =>
      rw [List.filter_cons_of_pos (by simpa using (written letters value).1), List.map_cons,
        (written letters value).2, induction, List.map_cons]
  | separator separates rest induction =>
      rw [List.filter_cons_of_neg (by simp [separates]), induction]

theorem plain_of_spells {address : Address} {raw : String}
    (spells : Spells address.digits raw.toList) : DeviceId.plain raw = address.deviceId := by
  rw [← String.toList_inj, toList_plain, Address.toList_deviceId]
  exact spells.plain

end DeviceId

theorem Address.isValid_deviceId (address : Address) :
    DeviceId.isValid address.deviceId = true := by
  rw [DeviceId.isValid_iff]
  have word := DeviceId.isWord_deviceId address
  exact ⟨word.1, fun character member => .inl (word.2 character member).isWordCharacter⟩

namespace DeviceId

theorem canonical_of_spells {address : Address} {raw : String}
    (spells : Spells address.digits raw.toList) : canonical raw = .ok address.deviceId := by
  have word := isWord_deviceId address
  rw [← plain_of_spells spells, toList_plain] at word
  rw [canonical_eq_ok_iff, plain_of_spells spells]
  refine ⟨⟨by simpa using word.1, ?_⟩, rfl⟩
  intro character member
  have capital := word.2 (upper character) (List.mem_map_of_mem member)
  exact isWordCharacter_upper.mp capital.isWordCharacter

theorem readAddress_of_spells {address : Address} {raw : String}
    (spells : Spells address.digits raw.toList) : Boot.readAddress raw = .ok address := by
  have decoded : (Hexadecimal.decode? address.deviceId).bind Address.ofOctets? = some address := by
    rw [Address.deviceId, Hexadecimal.decode?_encodeUpper, Option.bind_some, Address.ofOctets?,
      dif_pos address.size]
  simp only [Boot.readAddress, canonical_of_spells spells, decoded]

/-- Ids are canonical. Every spelling of an address is accepted as the one id that is derived
from the address; that id is valid, and the address is read back from it. What is accepted of
any text is a word over capital letters, digits and underscores, and is accepted as it is; and
a text is accepted exactly if it is a word over letters, digits and underscores once its
separators are taken out. -/
theorem isCanonical (raw : String) :
    (∀ address : Address, Spells address.digits raw.toList →
      canonical raw = .ok address.deviceId ∧ check address.deviceId = .ok () ∧
        Hexadecimal.decodeExact? 6 address.deviceId = some address.octets ∧
        Boot.readAddress raw = .ok address) ∧
    (∀ id, canonical raw = .ok id → IsWord IsCapital id.toList ∧ canonical id = .ok id) ∧
    ((∃ id, canonical raw = .ok id) ↔ IsWord IsWordCharacter (bare raw)) := by
  refine ⟨?_, ?_, ?_⟩
  · intro address spells
    refine ⟨canonical_of_spells spells, check_eq_ok_iff.mpr address.isValid_deviceId, ?_,
      readAddress_of_spells spells⟩
    rw [Hexadecimal.decodeExact?, Address.deviceId, Hexadecimal.decode?_encodeUpper]
    exact Option.filter_eq_some_iff.mpr ⟨rfl, by simpa using address.size⟩
  · intro id accepted
    rcases canonical_eq_ok_iff.mp accepted with ⟨word, rfl⟩
    exact ⟨isWord_plain word, canonical_of_isWord (isWord_plain word)⟩
  · constructor
    · rintro ⟨id, accepted⟩
      exact (canonical_eq_ok_iff.mp accepted).1
    · intro word
      exact ⟨plain raw, canonical_eq_ok_iff.mpr ⟨word, rfl⟩⟩

def sampleAddress : Address := ⟨[0xa1, 0xb2, 0xc3, 0xd4, 0xe5, 0xf6], rfl⟩

theorem isCanonical_sampleAddress :
    Spells sampleAddress.digits "-a1:B2.c3--D4e5:f.6".toList ∧
      canonical "-a1:B2.c3--D4e5:f.6" = .ok "A1B2C3D4E5F6" ∧
      Boot.readAddress "-a1:B2.c3--D4e5:f.6" = .ok sampleAddress ∧
      canonical "A1B2C3D4E5F6" = .ok "A1B2C3D4E5F6" := by
  have id : sampleAddress.deviceId = "A1B2C3D4E5F6" := by decide
  have spells : Spells sampleAddress.digits "-a1:B2.c3--D4e5:f.6".toList := by
    refine .separator (by decide) ?_
    refine .digit .lower 10 (.digit .lower 1 ?_)
    refine .separator (by decide) (.digit .upper 11 (.digit .upper 2 ?_))
    refine .separator (by decide) (.digit .lower 12 (.digit .upper 3 ?_))
    refine .separator (by decide) (.separator (by decide) ?_)
    refine .digit .upper 13 (.digit .lower 4 (.digit .lower 14 (.digit .upper 5 ?_)))
    refine .separator (by decide) (.digit .lower 15 ?_)
    exact .separator (by decide) (.digit .lower 6 .nil)
  have canonical_ := isCanonical "-a1:B2.c3--D4e5:f.6"
  rcases canonical_.1 sampleAddress spells with ⟨accepted, _, _, read⟩
  rw [id] at accepted
  exact ⟨spells, accepted, read, (canonical_.2.1 _ accepted).2⟩

end DeviceId

end DeviceAuth
