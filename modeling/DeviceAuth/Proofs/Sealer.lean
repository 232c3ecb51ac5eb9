import DeviceAuth.Proofs.Json.Documents
import DeviceAuth.Proofs.Provisioning.Packets
import DeviceAuth.Proofs.Text.Base64
import DeviceAuth.Sealer

/-! The sealer and the device. What the sealer puts into a packet is what the device finds in
it, and every environment whose fields a device would accept fits into one packet. -/

namespace DeviceAuth

namespace Environment

/-- A variable is not set, or to octets that are no text. -/
def Lacks (environment : Environment) (name : String) : Prop :=
  ∀ text, environment.octets? name ≠ some (Octets.ofText text)

theorem value?_eq_none_iff {environment : Environment} {name : String} :
    environment.value? name = none ↔ environment.Lacks name := by
  rw [Option.eq_none_iff_forall_ne_some]
  exact forall_congr' fun text => not_congr value?_eq_some_iff

def erase (environment : Environment) (name : String) : Environment :=
  ⟨environment.entries.filter fun entry => entry.1 ≠ name⟩

theorem octets?_erase_same (environment : Environment) (name : String) :
    (environment.erase name).octets? name = none := by
  have gone : (environment.erase name).entries.find? (fun entry => entry.1 == name) = none := by
    rw [List.find?_eq_none]
    intro entry member
    simpa using (List.mem_filter.mp member).2
  rw [octets?, gone]
  rfl

theorem octets?_erase_other (environment : Environment) {name other : String}
    (different : other ≠ name) :
    (environment.erase name).octets? other = environment.octets? other := by
  have same : ∀ entry : String × Octets,
      decide (decide (entry.1 ≠ name) = true ∧ (entry.1 == other) = true) =
        (entry.1 == other) := by
    intro entry
    by_cases equal : entry.1 = other
    · simp [equal, different]
    · simp [equal]
  simp only [octets?, erase, List.find?_filter, same]

theorem value?_erase_of_lacks {environment : Environment} {name : String}
    (lacks : environment.Lacks name) (other : String) :
    (environment.erase name).value? other = environment.value? other := by
  by_cases same : other = name
  · rw [same, value?_eq_none_iff.mpr lacks, value?, octets?_erase_same]
    rfl
  · rw [value?, octets?_erase_other environment same]
    rfl

end Environment

namespace Sealer

open Json (Document NoControls Numeral Value stringCharacters)
open Octets (ofCharacter ofCharacters)

/-! ## Payloads -/

def members (details : Details) (age : Option Int) : List (String × Value) :=
  (age.map fun age => ("child_age", Value.number (.whole age))).toList ++
    [("child_id", .string details.childId), ("pairing_code", .string details.pairingCode),
      ("password", .string details.network.password), ("ssid", .string details.network.ssid)]

theorem payload_eq (details : Details) (age : Option Int) :
    payload details.network.ssid details.network.password details.childId details.pairingCode
      age = .object (members details age) := by
  have passwordSsid : "password" < "ssid" := by decide
  have childIdPassword : "child_id" < "password" := by decide
  have pairingCodePassword : "pairing_code" < "password" := by decide
  have childIdPairingCode : ¬ "pairing_code" < "child_id" := by decide
  have different : "pairing_code" ≠ "child_id" := by decide
  have childAgeChildId : "child_age" < "child_id" := by decide
  cases age with
  | none =>
      simp only [payload, Json.objectOf, Json.putMember, members, Option.map_none,
        Option.toList_none, List.append_nil, List.nil_append, List.foldl_cons, List.foldl_nil,
        passwordSsid, childIdPassword, pairingCodePassword, childIdPairingCode, different,
        if_true, if_false]
  | some age =>
      simp only [payload, Json.objectOf, Json.putMember, members, Option.map_some,
        Option.toList_some, List.cons_append, List.nil_append, List.foldl_cons, List.foldl_nil,
        passwordSsid, childIdPassword, pairingCodePassword, childIdPairingCode, different,
        childAgeChildId, if_true, if_false]

def Tells (age : Option Int) (details : Details) : Prop :=
  age.getD ChildAge.unknown.toInt = details.childAge.toInt

theorem ofDocument?_payload {details : Details} {age : Option Int} (tells : Tells age details) :
    ∃ document, (Value.object (members details age)).document? = some document ∧
      Details.ofDocument? document = some details := by
  obtain ⟨⟨ssid, password⟩, childId, pairingCode, childAge⟩ := details
  cases age with
  | none =>
      refine ⟨.object [(some "child_id", .string (some childId)),
        (some "pairing_code", .string (some pairingCode)),
        (some "password", .string (some password)), (some "ssid", .string (some ssid))], rfl, ?_⟩
      have unknown : Int32.ofInt ChildAge.unknown.toInt = childAge := by
        have equal : ChildAge.unknown.toInt = childAge.toInt := tells
        rw [equal, Int32.ofInt_toInt]
      exact congrArg (fun age => some (Details.mk ⟨ssid, password⟩ childId pairingCode age)) unknown
  | some age =>
      refine ⟨.object [(some "child_age", .number (Numeral.ofWhole age)),
        (some "child_id", .string (some childId)),
        (some "pairing_code", .string (some pairingCode)),
        (some "password", .string (some password)), (some "ssid", .string (some ssid))], rfl, ?_⟩
      have equal : age = childAge.toInt := tells
      have inside : Details.leastInt32 ≤ age ∧ age ≤ Details.greatestInt32 := by
        rw [equal]
        exact ⟨childAge.le_toInt, childAge.toInt_le⟩
      have read : Document.whole? Details.leastInt32 Details.greatestInt32
          (.number (Numeral.ofWhole age)) = some age := by
        rw [Document.whole?, Numeral.whole?_ofWhole, Option.filter_some,
          if_pos (by simpa using inside)]
      have found : Json.orElse? ChildAge.unknown.toInt
          (Document.whole? Details.leastInt32 Details.greatestInt32)
          (some (.number (Numeral.ofWhole age))) = some childAge.toInt := by
        rw [Json.orElse?, read, equal]
      show (Json.orElse? ChildAge.unknown.toInt
          (Document.whole? Details.leastInt32 Details.greatestInt32)
          (some (.number (Numeral.ofWhole age)))).bind (fun age =>
            some (Details.mk ⟨ssid, password⟩ childId pairingCode (Int32.ofInt age))) = _
      rw [found, Option.bind_some, Int32.ofInt_toInt]

/-! ## Environments -/

/-- The key and the details that an environment gives. The password of an open network and an
unknown age can be left out: the variable is not set, or to octets that are no text, for which
nobody can ask as text. -/
structure Gives (environment : Environment) (key : PopKey) (details : Details) : Prop where
  key : ∃ digits, environment.octets? keyVariable = some (Octets.ofText digits) ∧
    PopKey.ofHex? digits = some key
  ssid : environment.octets? ssidVariable = some (Octets.ofText details.network.ssid)
  password :
    environment.octets? passwordVariable = some (Octets.ofText details.network.password) ∨
      environment.Lacks passwordVariable ∧ details.network.password = ""
  childId : environment.octets? childIdVariable = some (Octets.ofText details.childId)
  pairingCode : environment.octets? pairingCodeVariable = some (Octets.ofText details.pairingCode)
  childAge : environment.Lacks childAgeVariable ∧ details.childAge = ChildAge.unknown ∨
    ∃ text, environment.octets? childAgeVariable = some (Octets.ofText text) ∧
      age? text = some details.childAge.toInt

theorem password_iff {environment : Environment} {password : String} :
    (environment.value? passwordVariable).getD "" = password ↔
      environment.octets? passwordVariable = some (Octets.ofText password) ∨
        environment.Lacks passwordVariable ∧ password = "" := by
  rw [← Environment.value?_eq_some_iff, ← Environment.value?_eq_none_iff]
  cases environment.value? passwordVariable with
  | none => simp [eq_comm]
  | some text => simp

theorem required_eq_ok_iff {environment : Environment} {name value : String} :
    required environment name = .ok value ↔
      environment.octets? name = some (Octets.ofText value) ∧ value ≠ "" := by
  rw [← Environment.value?_eq_some_iff]
  unfold required Environment.filled?
  cases environment.value? name with
  | none => simp
  | some given =>
      by_cases empty : given = ""
      · have filtered : (some given).filter (fun value => !value.isEmpty) = none := by
          rw [empty]
          rfl
        simp only [filtered, reduceCtorEq, Option.some.injEq, false_iff, not_and, not_not]
        rintro rfl
        exact empty
      · have filtered : (some given).filter (fun value => !value.isEmpty) = some given := by
          simp [Option.filter, empty]
        simp only [filtered, Except.ok.injEq, Option.some.injEq, iff_self_and]
        rintro rfl
        exact empty

theorem givenAge_eq_ok_iff {environment : Environment} {age : Option Int} :
    givenAge environment = .ok age ↔
      environment.Lacks childAgeVariable ∧ age = none ∨
        ∃ text number, environment.octets? childAgeVariable = some (Octets.ofText text) ∧
          age? text = some number ∧ age = some number := by
  simp only [← Environment.value?_eq_some_iff, ← Environment.value?_eq_none_iff]
  unfold givenAge
  cases environment.value? childAgeVariable with
  | none => simp [eq_comm]
  | some text =>
      cases read : age? text with
      | none => simp [read]
      | some number => simp [read, eq_comm]

theorem toInt_age? {text : String} {age : Int} (given : age? text = some age) :
    (Int32.ofInt age).toInt = age := by
  have inside := (Option.filter_eq_some_iff.mp given).2
  simp only [Bool.decide_and, Bool.and_eq_true, decide_eq_true_eq] at inside
  exact Int32.toInt_ofInt_of_le inside.1 (Int.lt_add_one_of_le inside.2)

theorem of_bind_eq_ok {ε α β : Type} {first : Except ε α} {rest : α → Except ε β} {result : β}
    (ok : (first >>= rest) = .ok result) :
    ∃ value, first = .ok value ∧ rest value = .ok result := by
  cases first with
  | error failure => cases ok
  | ok value => exact ⟨value, rfl, ok⟩

theorem gives_of_read {environment : Environment} {key : PopKey} {value : Value}
    (ok : read environment = .ok (key, value)) :
    ∃ details age, Gives environment key details ∧ Tells age details ∧
      value = .object (members details age) := by
  obtain ⟨digits, digitsGiven, ok⟩ := of_bind_eq_ok ok
  split at ok
  next => cases ok
  next other hex =>
    obtain ⟨ssid, ssidGiven, ok⟩ := of_bind_eq_ok ok
    obtain ⟨childId, childIdGiven, ok⟩ := of_bind_eq_ok ok
    obtain ⟨pairingCode, pairingCodeGiven, ok⟩ := of_bind_eq_ok ok
    obtain ⟨age, ageGiven, ok⟩ := of_bind_eq_ok ok
    obtain ⟨digitsSet, _⟩ := required_eq_ok_iff.mp digitsGiven
    have made : (other, payload ssid ((environment.value? passwordVariable).getD "") childId
        pairingCode age) = (key, value) := Except.ok.inj ok
    obtain ⟨rfl, written⟩ := Prod.mk.inj made
    let details : Details :=
      ⟨⟨ssid, (environment.value? passwordVariable).getD ""⟩, childId, pairingCode,
        Int32.ofInt (age.getD ChildAge.unknown.toInt)⟩
    have payload : value = .object (members details age) := by
      rw [← written]
      exact payload_eq details age
    have fields (childAge : environment.Lacks childAgeVariable ∧
          details.childAge = ChildAge.unknown ∨
        ∃ text, environment.octets? childAgeVariable = some (Octets.ofText text) ∧
          age? text = some details.childAge.toInt) : Gives environment other details := {
      key := ⟨digits, digitsSet, hex⟩
      ssid := (required_eq_ok_iff.mp ssidGiven).1
      password := password_iff.mp rfl
      childId := (required_eq_ok_iff.mp childIdGiven).1
      pairingCode := (required_eq_ok_iff.mp pairingCodeGiven).1
      childAge }
    rcases givenAge_eq_ok_iff.mp ageGiven with ⟨lacks, rfl⟩ | ⟨text, number, set_, typed, rfl⟩
    · have unknown : details.childAge = ChildAge.unknown := Int32.ofInt_toInt _
      exact ⟨details, none, fields (.inl ⟨lacks, unknown⟩), congrArg Int32.toInt unknown.symm,
        payload⟩
    · have inside : details.childAge.toInt = number := toInt_age? typed
      rw [← inside] at typed
      exact ⟨details, some number, fields (.inr ⟨text, set_, typed⟩), inside.symm, payload⟩

theorem filled_of_check {details : Details} (ok : details.check = .ok ()) :
    details.network.ssid ≠ "" ∧ details.childId ≠ "" ∧ details.pairingCode ≠ "" := by
  obtain ⟨network, childId, pairingCode, _⟩ := details.check_eq_ok_iff.mp ok
  refine ⟨?_, ?_, ?_⟩
  · intro empty
    have sizes := ((Network.check_eq_ok_iff _).mp network).1.1
    rw [empty] at sizes
    exact absurd sizes (by decide)
  · intro empty
    rw [empty] at childId
    exact absurd childId (by decide)
  · intro empty
    rw [empty] at pairingCode
    exact absurd pairingCode (by decide)

theorem read_of_gives {environment : Environment} {key : PopKey} {details : Details}
    (gives : Gives environment key details) (ok : details.check = .ok ()) :
    ∃ age, Tells age details ∧
      read environment = .ok (key, .object (members details age)) := by
  obtain ⟨ssidFilled, childIdFilled, pairingCodeFilled⟩ := filled_of_check ok
  obtain ⟨digits, digitsSet, hex⟩ := gives.key
  have digitsFilled : digits ≠ "" := by
    rintro rfl
    have none : PopKey.ofHex? "" = none := by decide
    rw [none] at hex
    cases hex
  have readFields : ∀ age, givenAge environment = .ok age →
      read environment = .ok (key, .object (members details age)) := by
    intro age ageGiven
    unfold read
    rw [required_eq_ok_iff.mpr ⟨digitsSet, digitsFilled⟩]
    simp only [bind, Except.bind, hex]
    rw [required_eq_ok_iff.mpr ⟨gives.ssid, ssidFilled⟩]
    simp only [required_eq_ok_iff.mpr ⟨gives.childId, childIdFilled⟩,
      required_eq_ok_iff.mpr ⟨gives.pairingCode, pairingCodeFilled⟩, ageGiven,
      password_iff.mpr gives.password, payload_eq]
    rfl
  rcases gives.childAge with ⟨lacks, unknown⟩ | ⟨text, set_, typed⟩
  · refine ⟨none, congrArg Int32.toInt unknown.symm, readFields none ?_⟩
    exact givenAge_eq_ok_iff.mpr (.inl ⟨lacks, rfl⟩)
  · refine ⟨some details.childAge.toInt, rfl, readFields _ ?_⟩
    exact givenAge_eq_ok_iff.mpr (.inr ⟨text, _, set_, typed, rfl⟩)

/-! ## Sizes -/

theorem noControls_pairingCode {code : String} (ok : PairingCode.check code = .ok ()) :
    NoControls code := by
  apply Json.noControls_of_octets
  intro octet member
  dsimp only [PairingCode.check] at ok
  split at ok
  next => cases ok
  next =>
    split at ok
    next graphic =>
      have inside := List.all_eq_true.mp graphic octet member
      simp only [PairingCode.isGraphic, Bool.and_eq_true, decide_eq_true_eq,
        UInt8.le_iff_toNat_le] at inside
      have first : (0x21 : UInt8).toNat = 33 := rfl
      omega
    next => cases ok

theorem allowed_of_wrongPlace? {place : Nat} {octets : Octets}
    (right : ChildId.wrongPlace? place octets = none) :
    ∀ octet ∈ octets, ∃ place, ChildId.isAllowed place octet = true := by
  fun_induction ChildId.wrongPlace? place octets with
  | case1 => exact nofun
  | case2 place octet rest allowed induction =>
      intro other member
      rcases List.mem_cons.mp member with rfl | member
      · exact ⟨place, allowed⟩
      · exact induction right other member
  | case3 => cases right

theorem noControls_childId {id : String} (ok : ChildId.check id = .ok ()) : NoControls id := by
  apply Json.noControls_of_octets
  intro octet member
  have right := (ChildId.check_eq_ok_iff.mp ok).2
  obtain ⟨place, allowed⟩ := allowed_of_wrongPlace? right octet member
  unfold ChildId.isAllowed at allowed
  split at allowed
  · rw [beq_iff_eq.mp allowed]
    decide
  · simp only [ChildId.isHexadecimal, Bool.or_eq_true, Bool.and_eq_true, decide_eq_true_eq,
      UInt8.le_iff_toNat_le] at allowed
    have zero : (0x30 : UInt8).toNat = 48 := rfl
    have upper : (0x41 : UInt8).toNat = 65 := rfl
    have lower : (0x61 : UInt8).toNat = 97 := rfl
    omega

theorem length_age_le {age : Int} (least : -1 ≤ age) (greatest : age ≤ 18) :
    (ofCharacters (Decimal.signedCharacters age)).length ≤ 2 := by
  have digits : ∀ number : Nat, number < 100 → (Decimal.digits number).length ≤ 2 := by
    intro number small
    rw [Decimal.digits]
    split
    · exact Nat.le_succ 1
    · rw [Decimal.digits, if_pos (by omega)]
      exact Nat.le_refl 2
  cases age with
  | ofNat number =>
      rw [Decimal.signedCharacters, Json.ofCharacters_decimal, List.length_map]
      exact digits number (by simp only [Int.ofNat_eq_natCast] at greatest; omega)
  | negSucc number =>
      obtain rfl : number = 0 := by omega
      have sign : ofCharacter '-' = [0x2d] := by decide
      have one : Decimal.digits 1 = [1] := by
        rw [Decimal.digits]
        rfl
      rw [Decimal.signedCharacters, Octets.ofCharacters_cons, sign, Json.ofCharacters_decimal, one]
      rfl

theorem years_of_check {age : Int32} (ok : ChildAge.check age = .ok ()) :
    -1 ≤ age.toInt ∧ age.toInt ≤ 18 := by
  unfold ChildAge.check at ok
  split at ok
  next accepted =>
    rcases accepted with rfl | ⟨least, greatest⟩
    · decide
    · rw [Int32.le_iff_toInt_le] at least greatest
      have zero : (0 : Int32).toInt = 0 := rfl
      have limit : ChildAge.greatest.toInt = 18 := rfl
      omega
  next => cases ok

/-- Details within their bounds, with a name and a password without controls, fit into one
packet. -/
theorem length_payload_le {details : Details} {age : Option Int} (ok : details.check = .ok ())
    (tells : Tells age details) (ssid : NoControls details.network.ssid)
    (password : NoControls details.network.password) :
    (Value.object (members details age)).octets.length ≤ 484 := by
  obtain ⟨network, childId, pairingCode, childAge⟩ := details.check_eq_ok_iff.mp ok
  obtain ⟨⟨_, ssidSize⟩, _, passwordSize⟩ := (Network.check_eq_ok_iff _).mp network
  have childIdSize := ChildId.size_of_check childId
  have pairingCodeSize := PairingCode.size_of_check pairingCode
  have ssidText := Json.length_stringCharacters_le ssid
  have passwordText := Json.length_stringCharacters_le password
  have childIdText := Json.length_stringCharacters_le (noControls_childId childId)
  have pairingCodeText := Json.length_stringCharacters_le (noControls_pairingCode pairingCode)
  have names : (ofCharacters (stringCharacters "child_age")).length = 11 ∧
      (ofCharacters (stringCharacters "child_id")).length = 10 ∧
      (ofCharacters (stringCharacters "pairing_code")).length = 14 ∧
      (ofCharacters (stringCharacters "password")).length = 10 ∧
      (ofCharacters (stringCharacters "ssid")).length = 6 := by decide
  have closing : (ofCharacters (Json.membersCharacters [])).length = 1 := by decide
  have sizes : ChildId.size = 36 ∧ PairingCode.greatestSize = 64 ∧ Network.greatestSsid = 32 ∧
      Network.greatestPassword = 63 := by decide
  -- A name of 32 octets and a password of 63 at most double; the sum stays below the limit.
  cases age with
  | none =>
      simp only [members, Option.map_none, Option.toList_none, List.nil_append, Json.length_object,
        Json.length_members, Value.characters]
      omega
  | some age =>
      have years := years_of_check childAge
      rw [show details.childAge.toInt = age from tells.symm] at years
      have ageText := length_age_le years.1 years.2
      simp only [members, Option.map_some, Option.toList_some, List.cons_append, List.nil_append,
        Json.length_object, Json.length_members, Value.characters, Json.numberCharacters]
      omega

/-! ## Packets -/

theorem make_eq_ok_iff {environment : Environment} {nonce : Octets} {made : Made} :
    make environment nonce = .ok made ↔
      ∃ key payload, read environment = .ok (key, payload) ∧
        Details.ofOctets payload.octets = .ok made.details ∧
        Packet.sealed key nonce payload.octets = .ok made.packet := by
  unfold make
  constructor
  · intro ok
    obtain ⟨⟨key, payload⟩, given, ok⟩ := of_bind_eq_ok ok
    refine ⟨key, payload, given, ?_⟩
    dsimp only at ok
    split at ok
    next => cases ok
    next details read =>
      split at ok
      next => cases ok
      next packet sealed_ =>
        obtain rfl := Except.ok.inj ok
        exact ⟨read, sealed_⟩
  · rintro ⟨key, payload, given, read, sealed_⟩
    rw [given]
    simp only [bind, Except.bind, read, sealed_]
    rfl

theorem status_run (environment : Environment) (nonce : Octets) :
    (run environment nonce).status = 0 ↔ ∃ made, make environment nonce = .ok made := by
  unfold run
  cases make environment nonce with
  | error trouble => simp
  | ok made => simp

theorem run_congr {first second : Environment}
    (same : ∀ name, first.value? name = second.value? name) (nonce : Octets) :
    run first nonce = run second nonce := by
  have required_ : ∀ name, required first name = required second name := by
    intro name
    simp only [required, Environment.filled?, same]
  have given : givenAge first = givenAge second := by
    simp only [givenAge, same]
  simp only [run, make, read, required_, given, same]

theorem printed_lines (made : Made) : ∃ front,
    printed made.lines =
      front ++ hexLine made.packet ++ "\n" ++ base64Line made.packet ++ "\n" := by
  have lastTwo : ∀ (front : List String) (size blank first second : String),
      front ++ [size, blank, first, second] = (front ++ [size, blank]) ++ [first, second] := by
    simp
  have split : ∃ front, made.lines = front ++ [hexLine made.packet, base64Line made.packet] :=
    ⟨_, lastTwo _ _ _ _ _⟩
  obtain ⟨front, equal⟩ := split
  refine ⟨printed front, ?_⟩
  rw [printed, printed, equal, List.map_append, String.join_append]
  simp [String.append_assoc]

/-- How the sealer agrees with a device whose store is of type `σ`. -/
structure AgreesWithDevice (σ : Type) [Backend σ] [Honest σ] (environment : Environment)
    (nonce : Octets) : Prop where
  delivers : (run environment nonce).status = 0 →
    ∃ key details packet, Gives environment key details ∧
      (∃ front hexadecimal base64,
        (run environment nonce).stdout =
          front ++ "hex:    " ++ hexadecimal ++ "\n" ++ "base64: " ++ base64 ++ "\n" ∧
        Hexadecimal.decode? hexadecimal = some packet ∧ Base64.decode? base64 = some packet) ∧
      ∀ (settings : Settings) (now start : Span) (session : Provisioning.Session) (store : σ),
        session.stage = .connected ∨ session.stage = .awaitingPacket →
        session.startedAt = some start →
        now.nanoseconds < start.nanoseconds + settings.provisioningTimeout.nanoseconds →
        session.key = some key → Honest.CanRead store → Honest.CanWrite store →
        (session.handlePacket settings now packet store).1 = .accepted ∧
          Credentials.Loads details (session.handlePacket settings now packet store).2.2
  fits : ∀ key details, Gives environment key details → details.check = .ok () →
    NoControls details.network.ssid → NoControls details.network.password →
      (run environment nonce).status = 0
  passesOver : ∀ name, environment.Lacks name →
    run (environment.erase name) nonce = run environment nonce

def exampleEnvironment : Environment :=
  .ofTexts [
    (keyVariable, "0707070707070707070707070707070707070707070707070707070707070707"),
    (ssidVariable, "HomeNetwork"), (passwordVariable, "hunter22"),
    (childIdVariable, "123e4567-e89b-12d3-a456-426614174000"),
    (pairingCodeVariable, "TEDDY-1234")]

end Sealer

end DeviceAuth
