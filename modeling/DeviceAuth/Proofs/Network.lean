import DeviceAuth.Wifi

/-! The stored form of a network. A network within its bounds can be read back from its
octets, whatever follows them. -/

namespace DeviceAuth

namespace Network

theorem check_eq_ok_iff (network : Network) : network.check = .ok () ↔
    (0 < network.ssid.utf8ByteSize ∧ network.ssid.utf8ByteSize ≤ greatestSsid) ∧
      (network.password.utf8ByteSize = 0 ∨ leastPassword ≤ network.password.utf8ByteSize) ∧
        network.password.utf8ByteSize ≤ greatestPassword := by
  dsimp only [check]
  by_cases empty : network.ssid.utf8ByteSize = 0
  · simp [empty]
  by_cases long : network.ssid.utf8ByteSize > greatestSsid
  · simp only [if_neg empty, if_pos long, reduceCtorEq, false_iff]
    omega
  by_cases short : network.password.utf8ByteSize ≠ 0 ∧
      network.password.utf8ByteSize < leastPassword
  · simp only [if_neg empty, if_neg long, if_pos short, reduceCtorEq, false_iff]
    omega
  by_cases large : network.password.utf8ByteSize > greatestPassword
  · simp only [if_neg empty, if_neg long, if_neg short, if_pos large, reduceCtorEq, false_iff]
    omega
  · simp only [if_neg empty, if_neg long, if_neg short, if_neg large, true_iff]
    omega

theorem length_octets (network : Network) :
    network.octets.length = network.ssid.utf8ByteSize + network.password.utf8ByteSize + 2 := by
  simp only [octets, List.cons_append, List.length_cons, List.length_append,
    Octets.length_ofText]
  omega

theorem checked_of_ok {network : Network} (ok : network.check = .ok ()) :
    network.checked = .ok network := by
  simp only [checked, ok]

theorem ofOctets?_octets_append {network : Network} (ok : network.check = .ok ())
    (rest : Octets) : ofOctets? (network.octets ++ rest) = .ok network := by
  obtain ⟨⟨_, ssid⟩, _, password⟩ := network.check_eq_ok_iff.mp ok
  -- Both sizes are small enough for one octet.
  have ssidSize : (UInt8.ofNat network.ssid.utf8ByteSize).toNat =
      (Octets.ofText network.ssid).length := by
    rw [Octets.length_ofText, UInt8.toNat_ofNat']
    exact Nat.mod_eq_of_lt (Nat.lt_of_le_of_lt ssid (by decide))
  have passwordSize : (UInt8.ofNat network.password.utf8ByteSize).toNat =
      (Octets.ofText network.password).length := by
    rw [Octets.length_ofText, UInt8.toNat_ofNat']
    exact Nat.mod_eq_of_lt (Nat.lt_of_le_of_lt password (by decide))
  simp only [octets, List.cons_append, List.append_assoc, ofOctets?, ssidSize,
    List.drop_left, List.take_left]
  have present : ¬ (Octets.ofText network.password ++ rest).length <
      (Octets.ofText network.password).length := by
    rw [List.length_append]
    omega
  simp only [passwordSize, if_neg present, List.take_left, Octets.toText?_ofText]
  exact checked_of_ok ok

theorem ofOctets?_octets {network : Network} (ok : network.check = .ok ()) :
    ofOctets? network.octets = .ok network := by
  have read := ofOctets?_octets_append ok []
  rwa [List.append_nil] at read

end Network

end DeviceAuth
