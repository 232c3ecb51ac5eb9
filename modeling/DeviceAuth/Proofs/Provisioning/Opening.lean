import DeviceAuth.Proofs.Cipher.Gcm
import DeviceAuth.Provisioning.Packet

/-! Opening and sealing. Octets open under a key if they have the size of a packet and their
tag is right; what was sealed opens, and gives back the text. -/

namespace DeviceAuth

/-- Octets are a packet that opens under a key and gives a text. -/
structure PopKey.Opens (key : PopKey) (octets text : Octets) : Prop where
  least : 28 ≤ octets.length
  greatest : octets.length ≤ 512
  tag : Gcm.tag key.octets (octets.take 12) (octets.drop 28) = (octets.drop 12).take 16
  text : Gcm.crypt key.octets (octets.take 12) (octets.drop 28) = text

namespace Packet

variable {key : PopKey} {nonce octets text : Octets}

theorem ofOctets_eq_ok_iff {packet : Packet} :
    ofOctets octets = .ok packet ↔
      (28 ≤ octets.length ∧ octets.length ≤ 512) ∧
        packet = ⟨octets.take 12, (octets.drop 12).take 16, octets.drop 28⟩ := by
  have sizes : headerSize = 28 ∧ greatestSize = 512 := by decide
  simp only [ofOctets, sizes]
  by_cases outside : octets.length < 28 ∨ 512 < octets.length
  · simp only [if_pos outside, reduceCtorEq, false_iff]
    omega
  · simp only [if_neg outside, Except.ok.injEq]
    constructor
    · rintro rfl
      exact ⟨by omega, rfl⟩
    · rintro ⟨_, rfl⟩
      rfl

theorem opened_eq_ok_iff {packet : Packet} :
    opened key packet = .ok text ↔
      Gcm.tag key.octets packet.nonce packet.ciphertext = packet.tag ∧
        Gcm.crypt key.octets packet.nonce packet.ciphertext = text := by
  by_cases right : Gcm.tag key.octets packet.nonce packet.ciphertext = packet.tag
  · simp [opened, right]
  · simp [opened, right]

theorem opens_iff :
    key.Opens octets text ↔
      ∃ packet, ofOctets octets = .ok packet ∧ opened key packet = .ok text := by
  constructor
  · rintro ⟨least, greatest, tag, text⟩
    exact ⟨_, ofOctets_eq_ok_iff.mpr ⟨⟨least, greatest⟩, rfl⟩, opened_eq_ok_iff.mpr ⟨tag, text⟩⟩
  · rintro ⟨packet, read, opens⟩
    obtain ⟨⟨least, greatest⟩, rfl⟩ := ofOctets_eq_ok_iff.mp read
    obtain ⟨tag, text⟩ := opened_eq_ok_iff.mp opens
    exact ⟨least, greatest, tag, text⟩

theorem sealed_eq_ok_iff : sealed key nonce text = .ok octets ↔
    text.length ≤ 484 ∧
      nonce ++ Gcm.tag key.octets nonce (Gcm.crypt key.octets nonce text) ++
        Gcm.crypt key.octets nonce text = octets := by
  have sizes : headerSize = 28 ∧ greatestSize = 512 := by decide
  simp only [sealed, sizes]
  by_cases large : 512 < 28 + text.length
  · simp only [if_pos large, reduceCtorEq, false_iff]
    omega
  · simp only [if_neg large, Except.ok.injEq]
    constructor
    · rintro rfl
      exact ⟨by omega, rfl⟩
    · rintro ⟨_, rfl⟩
      rfl

theorem opens_sealed (nonceSize : nonce.length = 12)
    (made : sealed key nonce text = .ok octets) : key.Opens octets text := by
  obtain ⟨small, rfl⟩ := sealed_eq_ok_iff.mp made
  have size := Gcm.length_crypt key.size nonceSize text
  have original := Gcm.crypt_crypt key.size nonceSize text
  have tagSize := Gcm.length_tag key.octets nonce (Gcm.crypt key.octets nonce text)
  generalize Gcm.crypt key.octets nonce text = ciphertext at *
  generalize equal : Gcm.tag key.octets nonce ciphertext = tag at *
  have front : (nonce ++ tag ++ ciphertext).take 12 = nonce := by
    rw [List.append_assoc, List.take_left' nonceSize]
  have middle : ((nonce ++ tag ++ ciphertext).drop 12).take 16 = tag := by
    rw [List.append_assoc, List.drop_left' nonceSize, List.take_left' tagSize]
  have back : (nonce ++ tag ++ ciphertext).drop 28 = ciphertext := by
    apply List.drop_left'
    rw [List.length_append, nonceSize, tagSize]
  constructor
  case least =>
    simp only [List.length_append]
    omega
  case greatest =>
    simp only [List.length_append]
    omega
  case tag => rw [front, middle, back, equal]
  case text => rw [front, back, original]

end Packet

end DeviceAuth
