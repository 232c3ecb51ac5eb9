import DeviceAuth.Json.Printer
import DeviceAuth.Proofs.Text.Utf8

/-! Strings that are written can be read. Each character is written in a way of its own; read
as pieces, what was written stands for the octets of the character. -/

namespace DeviceAuth

namespace Json

open Octets (ofCharacter ofCharacters)

/-! ## Pieces -/

theorem readPieces_octet {value : UInt8} (quote : value ≠ 0x22) (backslash : value ≠ 0x5c)
    (printable : ¬ value < 0x20) (rest : Octets) :
    readPieces (value :: rest) =
      (readPieces rest).map fun read => (.octet value :: read.1, read.2) := by
  rw [readPieces.eq_def]
  split
  next equal => cases equal
  next equal => exact absurd (List.cons.inj equal).1 quote
  next equal => exact absurd (List.cons.inj equal).1 backslash
  next equal => exact absurd (List.cons.inj equal).1 backslash
  next value rest _ _ _ equal =>
    obtain ⟨rfl, rfl⟩ := List.cons.inj equal
    rw [if_neg (by simp [printable, backslash])]
    cases readPieces _ <;> rfl

theorem readPieces_escaped {letter value : UInt8} (escape : escaped? letter = some value)
    (rest : Octets) :
    readPieces (0x5c :: letter :: rest) =
      (readPieces rest).map fun read => (.octet value :: read.1, read.2) := by
  have other : letter ≠ 0x75 := by
    rintro rfl
    cases escape
  rw [readPieces.eq_def]
  split
  next equal => cases equal
  next equal => cases equal
  next equal => exact absurd (List.cons.inj (List.cons.inj equal).2).1 other
  next letter rest _ equal =>
    obtain ⟨rfl, rfl⟩ := List.cons.inj (List.cons.inj equal).2
    rw [escape]
    cases readPieces _ <;> rfl
  next value rest _ _ unmatched equal =>
    obtain ⟨rfl, rfl⟩ := List.cons.inj equal
    exact absurd rfl (unmatched _ _ rfl)

theorem readPieces_unit {first second third fourth : UInt8} {code : Nat}
    (given : codeUnit? first second third fourth = some code) (rest : Octets) :
    readPieces (0x5c :: 0x75 :: first :: second :: third :: fourth :: rest) =
      (readPieces rest).map fun read => (.unit code :: read.1, read.2) := by
  rw [readPieces, given]
  cases readPieces rest <;> rfl

theorem pieceOctets?_unit {code : Nat} (ascii : code < 128) (more : List Piece) :
    pieceOctets? (.unit code :: more) =
      (pieceOctets? more).map (UInt8.ofNat code :: ·) := by
  have every : ∀ code : Fin 128, (Char.ofNat code).toNat = code := by decide
  have number : (Char.ofNat code).toNat = code := every ⟨code, ascii⟩
  have octets : Octets.ofText (String.singleton (Char.ofNat code)) = [UInt8.ofNat code] := by
    rw [Octets.ofText_eq_ofCharacters, String.toList_singleton, Octets.ofCharacters_cons,
      Octets.ofCharacter_of_ascii (by omega), number]
    rfl
  rw [pieceOctets?.eq_def]
  split
  next equal => cases equal
  next equal => cases equal
  next high low rest equal =>
    obtain ⟨high, rfl⟩ := List.cons.inj equal
    obtain rfl := Piece.unit.inj high
    rw [if_neg (by omega), if_neg (by omega), octets]
    rfl
  next high rest _ equal =>
    obtain ⟨high, rfl⟩ := List.cons.inj equal
    obtain rfl := Piece.unit.inj high
    rw [if_neg (by omega), octets]
    rfl

/-! ## Spelling -/

/-- What is written is read as pieces that stand for the content. -/
def Spells (written content : Octets) : Prop :=
  ∃ pieces,
    (∀ tail, readPieces (written ++ tail) =
      (readPieces tail).map fun read => (pieces ++ read.1, read.2)) ∧
    ∀ more, pieceOctets? (pieces ++ more) = (pieceOctets? more).map (content ++ ·)

namespace Spells

theorem nil : Spells [] [] :=
  ⟨[], fun _ => Option.map_id'.symm, fun _ => Option.map_id'.symm⟩

theorem append {first second firstContent secondContent : Octets}
    (left : Spells first firstContent) (right : Spells second secondContent) :
    Spells (first ++ second) (firstContent ++ secondContent) := by
  obtain ⟨firstPieces, firstRead, firstStand⟩ := left
  obtain ⟨secondPieces, secondRead, secondStand⟩ := right
  refine ⟨firstPieces ++ secondPieces, fun tail => ?_, fun more => ?_⟩
  · rw [List.append_assoc, firstRead, secondRead, Option.map_map]
    simp only [Function.comp_def, List.append_assoc]
  · rw [List.append_assoc, firstStand, secondStand, Option.map_map]
    simp only [Function.comp_def, List.append_assoc]

theorem octet {value : UInt8} (quote : value ≠ 0x22) (backslash : value ≠ 0x5c)
    (printable : ¬ value < 0x20) : Spells [value] [value] :=
  ⟨[.octet value], readPieces_octet quote backslash printable, fun _ => rfl⟩

theorem escaped {letter value : UInt8} (escape : escaped? letter = some value) :
    Spells [0x5c, letter] [value] :=
  ⟨[.octet value], readPieces_escaped escape, fun _ => rfl⟩

theorem unit {first second third fourth : UInt8} {code : Nat}
    (given : codeUnit? first second third fourth = some code) (ascii : code < 128) :
    Spells [0x5c, 0x75, first, second, third, fourth] [UInt8.ofNat code] :=
  ⟨[.unit code], readPieces_unit given, pieceOctets?_unit ascii⟩

theorem octets {octets : Octets} (plain : ∀ value ∈ octets, 128 ≤ value.toNat) :
    Spells octets octets := by
  induction octets with
  | nil => exact nil
  | cons value rest induction =>
      have large := plain value (.head rest)
      have first : Spells [value] [value] := by
        apply octet
        · rintro rfl
          exact absurd large (by decide)
        · rintro rfl
          exact absurd large (by decide)
        · rw [UInt8.lt_iff_toNat_lt]
          exact Nat.not_lt_of_le (Nat.le_trans (by decide) large)
      exact first.append (induction fun other member => plain other (.tail value member))

theorem control {character : Char} (small : character.toNat < 0x20) :
    Spells (ofCharacters (['\\', 'u', '0', '0'] ++
        Hexadecimal.ofOctet .lower (UInt8.ofNat character.toNat)))
      [UInt8.ofNat character.toNat] := by
  have every : ∀ code : Fin 32,
      ∃ third fourth, ofCharacters (['\\', 'u', '0', '0'] ++
          Hexadecimal.ofOctet .lower (UInt8.ofNat code.val)) =
          [0x5c, 0x75, 0x30, 0x30, third, fourth] ∧
        codeUnit? 0x30 0x30 third fourth = some code.val := by
    intro code
    refine ⟨(ofCharacters (Hexadecimal.ofOctet .lower (UInt8.ofNat code.val))).getD 0 0,
      (ofCharacters (Hexadecimal.ofOctet .lower (UInt8.ofNat code.val))).getD 1 0, ?_⟩
    revert code
    decide
  obtain ⟨third, fourth, written, given⟩ := every ⟨character.toNat, small⟩
  rw [written]
  exact unit given (by omega)

def lettered : List Char := ['"', '\\', '\x08', '\x0c', '\n', '\r', '\t']

theorem escapeCharacter_of_not_mem {character : Char} (unlettered : character ∉ lettered) :
    escapeCharacter character =
      if character.toNat < 0x20 then
        ['\\', 'u', '0', '0'] ++ Hexadecimal.ofOctet .lower (UInt8.ofNat character.toNat)
      else [character] := by
  simp only [lettered, List.mem_cons, List.not_mem_nil, or_false, not_or] at unlettered
  obtain ⟨quote, backslash, backspace, feed, line, return_, tab⟩ := unlettered
  simp only [escapeCharacter, quote, backslash, backspace, feed, line, return_, tab, if_false]

theorem character (character : Char) :
    Spells (ofCharacters (escapeCharacter character)) (ofCharacter character) := by
  by_cases special : character ∈ lettered
  case pos =>
    have every : lettered.all (fun character => character.toNat < 128 ∧
        ofCharacters (escapeCharacter character) =
          [0x5c, (ofCharacters (escapeCharacter character)).getD 1 0] ∧
        escaped? ((ofCharacters (escapeCharacter character)).getD 1 0) =
          some (UInt8.ofNat character.toNat)) = true := by decide +kernel
    obtain ⟨ascii, written, escape⟩ :=
      of_decide_eq_true (List.all_eq_true.mp every character special)
    rw [written, Octets.ofCharacter_of_ascii ascii]
    exact escaped escape
  case neg =>
    rw [escapeCharacter_of_not_mem special]
    by_cases small : character.toNat < 0x20
    · rw [if_pos small, Octets.ofCharacter_of_ascii (by omega)]
      exact control small
    rw [if_neg small, Octets.ofCharacters_cons, Octets.ofCharacters_nil, List.append_nil]
    by_cases ascii : character.toNat < 128
    · have value : (UInt8.ofNat character.toNat).toNat = character.toNat := by
        rw [UInt8.toNat_ofNat']
        omega
      have same : ∀ other : Char, UInt8.ofNat character.toNat = UInt8.ofNat other.toNat →
          other.toNat < 128 → character = other := by
        intro other equal small
        apply Char.toNat_inj.mp
        have numbers := congrArg UInt8.toNat equal
        rw [value, UInt8.toNat_ofNat'] at numbers
        omega
      rw [Octets.ofCharacter_of_ascii ascii]
      apply octet
      · exact fun equal => special (same '"' equal (by decide) ▸ by decide)
      · exact fun equal => special (same '\\' equal (by decide) ▸ by decide)
      · rw [UInt8.lt_iff_toNat_lt, value]
        exact small
    · exact octets fun _ member => Octets.le_of_mem_ofCharacter (Nat.le_of_not_lt ascii) member

theorem text (characters : List Char) :
    Spells (ofCharacters (characters.flatMap escapeCharacter)) (ofCharacters characters) := by
  induction characters with
  | nil => exact nil
  | cons first rest induction =>
      rw [List.flatMap_cons, Octets.ofCharacters_append]
      exact (character first).append induction

end Spells

/-! ## Strings -/

theorem ofCharacters_stringCharacters (text : String) :
    ofCharacters (stringCharacters text) =
      0x22 :: (ofCharacters (text.toList.flatMap escapeCharacter) ++ [0x22]) := by
  have quote : ofCharacter '"' = [0x22] := by decide
  rw [stringCharacters, Octets.ofCharacters_append, Octets.ofCharacters_cons,
    Octets.ofCharacters_cons, quote]
  rfl

theorem readString_text (text : String) (rest : Octets) :
    readString (ofCharacters (text.toList.flatMap escapeCharacter) ++ 0x22 :: rest) =
      some (some text, rest) := by
  obtain ⟨pieces, read, stand⟩ := Spells.text text.toList
  have closed : readPieces (0x22 :: rest) = some ([], rest) := by rw [readPieces]
  have content : content? (pieces ++ []) = some text := by
    rw [content?, stand, pieceOctets?, Option.map_some, Option.bind_some, List.append_nil,
      ← Octets.ofText_eq_ofCharacters, Octets.toText?_ofText]
  rw [readString, read, closed]
  exact congrArg (fun given => some (given, rest)) content

/-! ## Sizes -/

def NoControls (text : String) : Prop := ∀ character ∈ text.toList, 0x20 ≤ character.toNat

instance (text : String) : Decidable (NoControls text) :=
  List.decidableBAll (fun character : Char => 0x20 ≤ character.toNat) text.toList

theorem length_stringCharacters_le {text : String} (clean : NoControls text) :
    (ofCharacters (stringCharacters text)).length ≤ 2 * text.utf8ByteSize + 2 := by
  have each : ∀ character : Char, 0x20 ≤ character.toNat →
      (ofCharacters (escapeCharacter character)).length ≤
        2 * (ofCharacter character).length := by
    intro character visible
    by_cases lettered : character ∈ Spells.lettered
    · have every : Spells.lettered.all (fun character =>
          (ofCharacters (escapeCharacter character)).length ≤
            2 * (ofCharacter character).length) = true := by decide +kernel
      exact of_decide_eq_true (List.all_eq_true.mp every character lettered)
    · rw [Spells.escapeCharacter_of_not_mem lettered, if_neg (Nat.not_lt_of_le visible),
        Octets.ofCharacters_cons, Octets.ofCharacters_nil, List.append_nil]
      omega
  have all : ∀ characters : List Char, (∀ character ∈ characters, 0x20 ≤ character.toNat) →
      (ofCharacters (characters.flatMap escapeCharacter)).length ≤
        2 * (ofCharacters characters).length := by
    intro characters visible
    induction characters with
    | nil => exact Nat.le_refl 0
    | cons first rest induction =>
        have head := each first (visible first (.head rest))
        have tail := induction fun character member => visible character (.tail first member)
        rw [List.flatMap_cons, Octets.ofCharacters_append, Octets.ofCharacters_cons,
          List.length_append, List.length_append]
        omega
  have size := all text.toList clean
  rw [← Octets.ofText_eq_ofCharacters, Octets.length_ofText] at size
  rw [ofCharacters_stringCharacters, List.length_cons, List.length_append,
    List.length_singleton]
  omega

theorem noControls_of_octets {text : String}
    (visible : ∀ octet ∈ Octets.ofText text, 0x20 ≤ octet.toNat) : NoControls text := by
  intro character member
  by_cases ascii : character.toNat < 128
  · have octet : UInt8.ofNat character.toNat ∈ Octets.ofText text := by
      rw [Octets.ofText_eq_ofCharacters]
      apply List.mem_flatMap.mpr
      exact ⟨character, member, by simp [Octets.ofCharacter_of_ascii ascii]⟩
    have above := visible _ octet
    rw [UInt8.toNat_ofNat'] at above
    omega
  · omega

end Json

end DeviceAuth
