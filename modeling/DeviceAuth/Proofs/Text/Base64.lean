import DeviceAuth.Proofs.Text.Utf8
import DeviceAuth.Text.Base64

/-! Base64 text can be read. Each group of characters gives back the octets it was written
for. -/

namespace DeviceAuth

namespace Base64

theorem fullGroup?_letters (first second third : UInt8) :
    let value := (first.toNat * 256 + second.toNat) * 256 + third.toNat
    fullGroup? (letter (value / 262144)) (letter (value / 4096 % 64)) (letter (value / 64 % 64))
      (letter (value % 64)) = some [first, second, third] := by
  intro value
  have firstBound := first.toNat_lt
  have secondBound := second.toNat_lt
  have thirdBound := third.toNat_lt
  simp only [fullGroup?, letter?_letter _ (show value / 262144 < 64 by omega),
    letter?_letter _ (show value / 4096 % 64 < 64 by omega),
    letter?_letter _ (show value / 64 % 64 < 64 by omega),
    letter?_letter _ (show value % 64 < 64 by omega), Option.bind_eq_bind, Option.bind_some,
    Option.pure_def, Option.some.injEq, List.cons.injEq, and_true]
  refine ⟨?_, ?_, ?_⟩
  all_goals
    apply UInt8.toNat_inj.mp
    rw [UInt8.toNat_ofNat']
    omega

theorem lastGroup?_one (first : UInt8) :
    lastGroup? (letter (first.toNat / 4)) (letter (first.toNat % 4 * 16)) '=' = some [first] := by
  have bound := first.toNat_lt
  have unused : first.toNat % 4 * 16 % 16 = 0 := by omega
  simp only [lastGroup?, if_true, letter?_letter _ (show first.toNat / 4 < 64 by omega),
    letter?_letter _ (show first.toNat % 4 * 16 < 64 by omega), Option.bind_eq_bind,
    Option.bind_some, unused, Option.pure_def, Option.some.injEq, List.cons.injEq, and_true]
  apply UInt8.toNat_inj.mp
  rw [UInt8.toNat_ofNat']
  omega

theorem lastGroup?_two (first second : UInt8) :
    let value := first.toNat * 256 + second.toNat
    lastGroup? (letter (value / 1024)) (letter (value / 16 % 64)) (letter (value % 16 * 4)) =
      some [first, second] := by
  intro value
  have firstBound := first.toNat_lt
  have secondBound := second.toNat_lt
  have unused : value % 16 * 4 % 4 = 0 := by omega
  have third : letter (value % 16 * 4) ≠ '=' := letter_ne_padding _ (by omega)
  simp only [lastGroup?, if_neg third, letter?_letter _ (show value / 1024 < 64 by omega),
    letter?_letter _ (show value / 16 % 64 < 64 by omega),
    letter?_letter _ (show value % 16 * 4 < 64 by omega), Option.bind_eq_bind, Option.bind_some,
    unused, if_true, Option.pure_def, Option.some.injEq, List.cons.injEq, and_true]
  constructor
  all_goals
    apply UInt8.toNat_inj.mp
    rw [UInt8.toNat_ofNat']
    omega

theorem octets?_full {fourth : Char} (full : fourth ≠ '=') (first second third : Char)
    (rest : List Char) :
    octets? (first :: second :: third :: fourth :: rest) =
      (fullGroup? first second third fourth).bind fun group =>
        (octets? rest).bind fun octets => some (group ++ octets) := by
  rw [octets?.eq_def]
  split
  next equal => cases equal
  next equal =>
    simp only [List.cons.injEq] at equal
    exact absurd equal.2.2.2.1 full
  next equal =>
    simp only [List.cons.injEq] at equal
    obtain ⟨rfl, rfl, rfl, rfl, rfl⟩ := equal
    rfl
  next unmatched => exact absurd rfl (unmatched _ _ _ _ _)

theorem octets?_characters (octets : Octets) : octets? (characters octets) = some octets := by
  fun_induction characters octets with
  | case1 => rfl
  | case2 first value => exact lastGroup?_one first
  | case3 first second value => exact lastGroup?_two first second
  | case4 first second third rest value induction =>
      have padding : letter (value % 64) ≠ '=' :=
        letter_ne_padding _ (Nat.mod_lt _ (by decide))
      rw [octets?_full padding, fullGroup?_letters first second third, induction]
      rfl

theorem decode?_encode (octets : Octets) : decode? (encode octets) = some octets := by
  rw [decode?, encode, String.toList_ofList, octets?_characters]

/-! ## Octets of Base64 text -/

theorem letter_ascii {value : Nat} (small : value < 64) : (letter value).toNat < 128 := by
  have every : ∀ value : Fin 64, (letter value).toNat < 128 := by decide
  exact every ⟨value, small⟩

theorem ascii_of_mem_characters {octets : Octets} {character : Char}
    (member : character ∈ characters octets) : character.toNat < 128 := by
  have padding : ('=' : Char).toNat < 128 := by decide
  fun_induction characters octets with
  | case1 => cases member
  | case2 first value =>
      have bound := first.toNat_lt
      simp only [List.mem_cons, List.not_mem_nil, or_false, or_self] at member
      rcases member with rfl | rfl | rfl
      · exact letter_ascii (by omega)
      · exact letter_ascii (by omega)
      · exact padding
  | case3 first second value =>
      have firstBound := first.toNat_lt
      have secondBound := second.toNat_lt
      simp only [List.mem_cons, List.not_mem_nil, or_false] at member
      rcases member with rfl | rfl | rfl | rfl
      · exact letter_ascii (by omega)
      · exact letter_ascii (by omega)
      · exact letter_ascii (by omega)
      · exact padding
  | case4 first second third rest value induction =>
      have firstBound := first.toNat_lt
      have secondBound := second.toNat_lt
      have thirdBound := third.toNat_lt
      simp only [List.mem_cons] at member
      rcases member with rfl | rfl | rfl | rfl | later
      · exact letter_ascii (by omega)
      · exact letter_ascii (by omega)
      · exact letter_ascii (by omega)
      · exact letter_ascii (by omega)
      · exact induction later

theorem length_characters (octets : Octets) :
    (characters octets).length = 4 * ((octets.length + 2) / 3) := by
  fun_induction characters octets with
  | case1 => rfl
  | case2 first value => simp
  | case3 first second value => simp
  | case4 first second third rest value induction =>
      simp only [List.length_cons, induction]
      omega

theorem ofText_encode (octets : Octets) : Octets.ofText (encode octets) =
    (characters octets).map fun character => UInt8.ofNat character.toNat := by
  rw [encode, Octets.ofText_ofList]
  exact Octets.ofCharacters_of_ascii fun _ member => ascii_of_mem_characters member

theorem length_ofText_encode (octets : Octets) :
    (Octets.ofText (encode octets)).length = 4 * ((octets.length + 2) / 3) := by
  rw [ofText_encode, List.length_map, length_characters]

theorem decodeOctets?_ofText_encode (octets : Octets) :
    decodeOctets? (Octets.ofText (encode octets)) = some octets := by
  have back : ∀ character ∈ characters octets,
      Char.ofNat (UInt8.ofNat character.toNat).toNat = character := by
    intro character member
    have ascii := ascii_of_mem_characters member
    rw [UInt8.toNat_ofNat', Nat.mod_eq_of_lt (Nat.lt_trans ascii (by decide)), Char.ofNat_toNat]
  rw [decodeOctets?, ofText_encode, List.map_map]
  refine (congrArg octets? ?_).trans (octets?_characters octets)
  exact (List.map_congr_left back).trans (List.map_id _)

end Base64

end DeviceAuth
