import DeviceAuth.Proofs.Network
import DeviceAuth.Proofs.Text.Slices

/-! Reading a stored network. Any octets are either cut short, or they are two parts with
their sizes in front and something behind them, and in only one way. So a network is read
from exactly those octets that begin with its own stored form. A machine asks for octets by
their places and counts in words; it is shown that it never asks for a place that is not
there and never counts too far. -/

namespace DeviceAuth

/-! ## Guarded counting -/

namespace Octets

def total? (left right : Nat) : Option Nat :=
  if left + right < UInt32.size then some (left + right) else none

theorem total?_of_octet {left right : Nat} (octet : left + right ≤ UInt8.size) :
    total? left right = some (left + right) := by
  have small : left + right < UInt32.size := Nat.lt_of_le_of_lt octet (by decide)
  exact if_pos small

end Octets

namespace Network

/-! ## Parts -/

def ofParts? (ssid password : Octets) : Except WifiFailure Network :=
  match Octets.toText? ssid with
  | none => .error (.badFormat "invalid SSID UTF-8")
  | some ssid =>
      match Octets.toText? password with
      | none => .error (.badFormat "invalid password UTF-8")
      | some password => checked ⟨ssid, password⟩

def frame (ssid password : Octets) : Octets :=
  UInt8.ofNat ssid.length :: ssid ++ UInt8.ofNat password.length :: password

theorem checked_eq_ok_iff {network other : Network} :
    network.checked = .ok other ↔ network.check = .ok () ∧ network = other := by
  unfold checked
  cases checks : network.check with
  | ok => simp
  | error failure => simp

theorem ofParts?_eq_ok_iff {ssid password : Octets} {network : Network} :
    ofParts? ssid password = .ok network ↔ network.check = .ok () ∧
      Octets.ofText network.ssid = ssid ∧ Octets.ofText network.password = password := by
  rw [← Octets.toText?_eq_some_iff, ← Octets.toText?_eq_some_iff]
  unfold ofParts?
  cases Octets.toText? ssid with
  | none => simp
  | some name =>
      cases Octets.toText? password with
      | none => simp
      | some secret =>
          simp only [checked_eq_ok_iff, Option.some.injEq]
          constructor
          · rintro ⟨checks, rfl⟩
            exact ⟨checks, rfl, rfl⟩
          · rintro ⟨checks, rfl, rfl⟩
            exact ⟨checks, rfl⟩

/-! ## Reading -/

/-- Read a network as a machine does: octets are asked for by their places, and sizes are
added in words. There is no answer at all if one of these goes wrong. -/
def readGuarded? : Octets → Option (Except WifiFailure Network)
  | [] => some (.error (.badFormat "empty data"))
  | ssidSize :: rest => do
      let needed ← Octets.total? ssidSize.toNat 1
      if rest.length < needed then some (.error (.badFormat "truncated SSID"))
      else
        let ssid ← Octets.slice? 0 ssidSize.toNat rest
        let behind ← Octets.slice? ssidSize.toNat rest.length rest
        let passwordSize ← behind[0]?
        let stop ← Octets.total? 1 passwordSize.toNat
        if behind.length < stop then some (.error (.badFormat "truncated password"))
        else
          let password ← Octets.slice? 1 stop behind
          some (ofParts? ssid password)

inductive IsCutShort : Octets → Prop where
  | empty : IsCutShort []
  | ssid {size : UInt8} {rest : Octets} (short : rest.length ≤ size.toNat) :
      IsCutShort (size :: rest)
  | password {size passwordSize : UInt8} {ssid rest : Octets} (whole : ssid.length = size.toNat)
      (short : rest.length < passwordSize.toNat) :
      IsCutShort (size :: (ssid ++ passwordSize :: rest))

theorem isCutShort_or_framed (octets : Octets) : IsCutShort octets ∨
    ∃ ssid password rest, ssid.length < UInt8.size ∧ password.length < UInt8.size ∧
      octets = frame ssid password ++ rest := by
  cases octets with
  | nil => exact .inl .empty
  | cons size rest =>
      -- Behind the name there has to be at least the size of the password.
      by_cases short : rest.length ≤ size.toNat
      case pos => exact .inl (.ssid short)
      case neg =>
        have whole : (rest.take size.toNat).length = size.toNat := by
          rw [List.length_take]
          omega
        have parted : rest = rest.take size.toNat ++ rest.drop size.toNat :=
          (List.take_append_drop _ _).symm
        cases behind : rest.drop size.toNat with
        | nil =>
            have none := congrArg List.length behind
            rw [List.length_drop, List.length_nil] at none
            omega
        | cons passwordSize more =>
            rw [behind] at parted
            by_cases few : more.length < passwordSize.toNat
            case pos =>
              left
              rw [parted]
              exact .password whole few
            case neg =>
              have wholePassword : (more.take passwordSize.toNat).length =
                  passwordSize.toNat := by
                rw [List.length_take]
                omega
              right
              refine ⟨rest.take size.toNat, more.take passwordSize.toNat,
                more.drop passwordSize.toNat, ?_, ?_, ?_⟩
              · rw [whole]
                exact size.toNat_lt
              · rw [wholePassword]
                exact passwordSize.toNat_lt
              · simp only [frame, whole, wholePassword, UInt8.ofNat_toNat, List.cons_append,
                  List.append_assoc, List.take_append_drop]
                rw [← parted]

section Framed

variable {ssid password : Octets} (ssidFits : ssid.length < UInt8.size)
  (passwordFits : password.length < UInt8.size) (rest : Octets)

include ssidFits passwordFits

theorem ofOctets?_frame : ofOctets? (frame ssid password ++ rest) = ofParts? ssid password := by
  have present : ¬ (password ++ rest).length < password.length := by
    rw [List.length_append]
    omega
  simp only [frame, List.cons_append, List.append_assoc, ofOctets?,
    UInt8.toNat_ofNat_of_lt' ssidFits, UInt8.toNat_ofNat_of_lt' passwordFits, List.drop_left,
    List.take_left, if_neg present]
  rfl

theorem readGuarded?_frame :
    readGuarded? (frame ssid password ++ rest) = some (ofParts? ssid password) := by
  have long : ¬ (ssid ++ UInt8.ofNat password.length :: (password ++ rest)).length <
      ssid.length + 1 := by
    rw [List.length_append, List.length_cons]
    omega
  have present : ¬ (UInt8.ofNat password.length :: (password ++ rest)).length <
      1 + password.length := by
    rw [List.length_cons, List.length_append]
    omega
  have needed : Octets.total? ssid.length 1 = some (ssid.length + 1) :=
    Octets.total?_of_octet ssidFits
  have stop : Octets.total? 1 password.length = some (1 + password.length) :=
    Octets.total?_of_octet (by omega)
  simp only [frame, List.cons_append, List.append_assoc, readGuarded?,
    UInt8.toNat_ofNat_of_lt' ssidFits, needed, Option.bind_eq_bind, Option.bind_some, if_neg long,
    Octets.slice?_front, Octets.slice?_behind, List.getElem?_cons_zero,
    UInt8.toNat_ofNat_of_lt' passwordFits, stop, if_neg present, Octets.slice?_second]

end Framed

theorem IsCutShort.refused {octets : Octets} (short : IsCutShort octets) :
    ∃ reason, ofOctets? octets = .error (.badFormat reason) ∧
      readGuarded? octets = some (.error (.badFormat reason)) := by
  cases short with
  | empty => exact ⟨_, rfl, rfl⟩
  | @ssid size rest short =>
      have bound := size.toNat_lt
      have needed : Octets.total? size.toNat 1 = some (size.toNat + 1) :=
        Octets.total?_of_octet bound
      have few : rest.length < size.toNat + 1 := Nat.lt_succ_of_le short
      refine ⟨"truncated SSID", ?_, ?_⟩
      · simp only [ofOctets?, List.drop_of_length_le short]
      · simp only [readGuarded?, needed, Option.bind_eq_bind, Option.bind_some, if_pos few]
  | @password size passwordSize ssid rest whole short =>
      have bound := size.toNat_lt
      have passwordBound := passwordSize.toNat_lt
      have needed : Octets.total? ssid.length 1 = some (ssid.length + 1) :=
        Octets.total?_of_octet (whole ▸ bound)
      have stop : Octets.total? 1 passwordSize.toNat = some (1 + passwordSize.toNat) :=
        Octets.total?_of_octet (by rw [Nat.add_comm]; exact passwordBound)
      have long : ¬ (ssid ++ passwordSize :: rest).length < ssid.length + 1 := by
        rw [List.length_append, List.length_cons]
        omega
      have few : (passwordSize :: rest).length < 1 + passwordSize.toNat := by
        rw [List.length_cons]
        omega
      refine ⟨"truncated password", ?_, ?_⟩
      · simp only [ofOctets?, ← whole, List.drop_left, if_pos short]
      · simp only [readGuarded?, ← whole, needed, Option.bind_eq_bind, Option.bind_some,
          if_neg long, Octets.slice?_front, Octets.slice?_behind, List.getElem?_cons_zero, stop,
          if_pos few]

/-- A network is read where its octets stand in front, and nowhere else. -/
theorem ofOctets?_eq_ok_iff {octets : Octets} {network : Network} :
    ofOctets? octets = .ok network ↔ network.check = .ok () ∧ network.octets <+: octets := by
  constructor
  · intro read
    rcases isCutShort_or_framed octets with short | ⟨ssid, password, rest, ssidFits, fits, rfl⟩
    · rcases short.refused with ⟨reason, refused, _⟩
      rw [refused] at read
      cases read
    · rw [ofOctets?_frame ssidFits fits, ofParts?_eq_ok_iff] at read
      rcases read with ⟨checks, rfl, rfl⟩
      exact ⟨checks, rest, rfl⟩
  · rintro ⟨checks, rest, rfl⟩
    exact ofOctets?_octets_append checks rest

theorem readGuarded?_eq (octets : Octets) : readGuarded? octets = some (ofOctets? octets) := by
  rcases isCutShort_or_framed octets with short | ⟨ssid, password, rest, ssidFits, fits, rfl⟩
  · rcases short.refused with ⟨reason, refused, guarded⟩
    rw [refused, guarded]
  · rw [readGuarded?_frame ssidFits fits, ofOctets?_frame ssidFits fits]

theorem eq_of_octets_prefix {octets : Octets} {network other : Network}
    (checks : network.check = .ok ()) (otherChecks : other.check = .ok ())
    (stands : network.octets <+: octets) (otherStands : other.octets <+: octets) :
    other = network := by
  have read := ofOctets?_eq_ok_iff.mpr ⟨checks, stands⟩
  rw [ofOctets?_eq_ok_iff.mpr ⟨otherChecks, otherStands⟩] at read
  exact Except.ok.inj read

theorem ofOctets?_take {network : Network} (checks : network.check = .ok ()) {count : Nat}
    (short : count < network.octets.length) :
    ∃ failure, ofOctets? (network.octets.take count) = .error failure := by
  cases read : ofOctets? (network.octets.take count) with
  | error failure => exact ⟨failure, rfl⟩
  | ok other =>
      rcases ofOctets?_eq_ok_iff.mp read with ⟨otherChecks, stands⟩
      have whole : other.octets <+: network.octets := stands.trans (List.take_prefix _ _)
      have same := eq_of_octets_prefix checks otherChecks (List.prefix_refl _) whole
      have size := stands.length_le
      rw [same, List.length_take] at size
      omega

/-- Reading is exact. A network is read from given octets exactly if it can be used and its
stored form stands in front of them. So whatever can be used is read back, and no octets stand
for two networks; nothing is read from a stored form that is cut short. Whatever the octets
are, no place outside of them is asked for, and every sum of sizes fits a word. -/
theorem readsExactly (octets : Octets) (network : Network) :
    (ofOctets? octets = .ok network ↔ network.check = .ok () ∧ network.octets <+: octets) ∧
    (network.check = .ok () → ofOctets? network.octets = .ok network) ∧
    (∀ other : Network, network.check = .ok () → other.check = .ok () →
      network.octets <+: octets → other.octets <+: octets → other = network) ∧
    (∀ count < network.octets.length, network.check = .ok () →
      ∃ failure, ofOctets? (network.octets.take count) = .error failure) ∧
    readGuarded? octets = some (ofOctets? octets) := by
  refine ⟨ofOctets?_eq_ok_iff, ofOctets?_octets, ?_, ?_, readGuarded?_eq octets⟩
  · intro other checks otherChecks stands otherStands
    exact eq_of_octets_prefix checks otherChecks stands otherStands
  · intro count short checks
    exact ofOctets?_take checks short

def cafe : Network := ⟨"Café", "schlüssel"⟩

theorem readsExactly_cafe :
    cafe.check = .ok () ∧ cafe.octets.length = 17 ∧
      ofOctets? (cafe.octets ++ [8, 0x79]) = .ok cafe ∧ ofOctets? cafe.octets = .ok cafe ∧
      (∃ failure, ofOctets? (cafe.octets.take 16) = .error failure) ∧
      readGuarded? [1, 0x78, 9, 0x79] = some (ofOctets? [1, 0x78, 9, 0x79]) := by
  have checks : cafe.check = .ok () := rfl
  have size : cafe.octets.length = 17 := by decide
  have exactly := readsExactly (cafe.octets ++ [8, 0x79]) cafe
  have cut := exactly.2.2.2.1 16 (by rw [size]; decide) checks
  exact ⟨checks, size, exactly.1.mpr ⟨checks, List.prefix_append _ _⟩, exactly.2.1 checks, cut,
    (readsExactly [1, 0x78, 9, 0x79] cafe).2.2.2.2⟩

end Network

end DeviceAuth
