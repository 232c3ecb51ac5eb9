import DeviceAuth.Proofs.Provisioning.Opening

/-! Opening is the inverse of sealing. Octets open exactly if sealing their text with their
nonce makes them, so whoever cannot compute the tag cannot make a packet that opens. -/

namespace DeviceAuth

namespace Packet

variable {key : PopKey} {nonce octets tag text : Octets}

/-! ## What opens was sealed -/

theorem octets_of_ofOctets {packet : Packet} (read : ofOctets octets = .ok packet) :
    packet.octets = octets := by
  obtain ⟨_, rfl⟩ := ofOctets_eq_ok_iff.mp read
  have behind : (octets.drop 12).drop 16 = octets.drop 28 := List.drop_drop
  rw [Packet.octets, List.append_assoc, ← behind, List.take_append_drop, List.take_append_drop]

theorem sealed_of_opens (opens : key.Opens octets text) :
    sealed key (octets.take nonceSize) text = .ok octets := by
  have least := opens.least
  have greatest := opens.greatest
  have nonceLength : (octets.take 12).length = 12 := by
    rw [List.length_take]
    omega
  have decrypted : text.length = (octets.drop 28).length := by
    rw [← opens.text, Gcm.length_crypt key.size nonceLength]
  have encrypted : Gcm.crypt key.octets (octets.take 12) text = octets.drop 28 := by
    rw [← opens.text, Gcm.crypt_crypt key.size nonceLength]
  have read : ofOctets octets =
      .ok ⟨octets.take 12, (octets.drop 12).take 16, octets.drop 28⟩ :=
    ofOctets_eq_ok_iff.mpr ⟨⟨least, greatest⟩, rfl⟩
  apply sealed_eq_ok_iff.mpr
  constructor
  · rw [List.length_drop] at decrypted
    omega
  · show octets.take 12 ++ Gcm.tag key.octets (octets.take 12)
      (Gcm.crypt key.octets (octets.take 12) text) ++
        Gcm.crypt key.octets (octets.take 12) text = octets
    rw [encrypted, opens.tag]
    exact octets_of_ofOctets read

/-! ## Other tags -/

def withTag (tag octets : Octets) : Octets :=
  octets.take nonceSize ++ tag ++ octets.drop headerSize

theorem ofOctets_withTag (size : tag.length = tagSize) (least : headerSize ≤ octets.length)
    (greatest : octets.length ≤ greatestSize) :
    ofOctets (withTag tag octets) = .ok ⟨octets.take 12, tag, octets.drop 28⟩ := by
  have sizes : nonceSize = 12 ∧ tagSize = 16 ∧ headerSize = 28 ∧ greatestSize = 512 := by decide
  simp only [sizes] at size least greatest
  have nonceLength : (octets.take 12).length = 12 := by
    rw [List.length_take]
    omega
  have headerLength : (octets.take 12 ++ tag).length = 28 := by
    rw [List.length_append, nonceLength, size]
  have whole : (withTag tag octets).length = octets.length := by
    rw [withTag, List.length_append, sizes.1, sizes.2.2.1, headerLength, List.length_drop]
    omega
  apply ofOctets_eq_ok_iff.mpr
  rw [whole]
  refine ⟨⟨least, greatest⟩, ?_⟩
  simp only [withTag, sizes, Packet.mk.injEq]
  rw [List.drop_left' headerLength, List.append_assoc, List.take_left' nonceLength,
    List.drop_left' nonceLength, List.take_left' size]
  exact ⟨rfl, rfl, rfl⟩

theorem opened_withTag (opens : key.Opens octets text)
    (other : tag ≠ (octets.drop 12).take 16) :
    opened key ⟨octets.take 12, tag, octets.drop 28⟩ =
      .error (.crypto "authentication tag mismatch") := by
  apply if_neg
  rw [opens.tag]
  exact other.symm

/-! ## Both directions -/

/-- What is sealed under a key opens, and nothing else does. -/
structure SealsExactly (key : PopKey) : Prop where
  sealable : ∀ nonce text,
    (∃ octets, sealed key nonce text = .ok octets) ↔ text.length ≤ 484
  opens : ∀ nonce text octets, nonce.length = nonceSize → sealed key nonce text = .ok octets →
    ∃ packet, ofOctets octets = .ok packet ∧ opened key packet = .ok text
  unique : ∀ octets packet text, ofOctets octets = .ok packet → opened key packet = .ok text →
    sealed key (octets.take nonceSize) text = .ok octets
  otherTag : ∀ nonce text octets tag, nonce.length = nonceSize →
    sealed key nonce text = .ok octets → tag.length = tagSize →
      tag ≠ (octets.drop nonceSize).take tagSize →
        ∃ packet, ofOctets (withTag tag octets) = .ok packet ∧
          opened key packet = .error (.crypto "authentication tag mismatch")

theorem sealsExactly (key : PopKey) : SealsExactly key := by
  constructor
  case sealable =>
    intro nonce text
    constructor
    · rintro ⟨octets, made⟩
      exact (sealed_eq_ok_iff.mp made).1
    · exact fun small => ⟨_, sealed_eq_ok_iff.mpr ⟨small, rfl⟩⟩
  case opens =>
    intro nonce text octets size made
    exact opens_iff.mp (opens_sealed size made)
  case unique =>
    intro octets packet text read opens
    exact sealed_of_opens (opens_iff.mpr ⟨packet, read, opens⟩)
  case otherTag =>
    intro nonce text octets tag size made tagLength other
    have opens := opens_sealed size made
    exact ⟨_, ofOctets_withTag tagLength opens.least opens.greatest,
      opened_withTag opens other⟩

example : (sealed ⟨List.replicate 32 0, rfl⟩ (List.replicate 12 0) []).toOption.map
    List.length = some 28 := by decide +kernel

end Packet

end DeviceAuth
