import DeviceAuth.Claim.Request
import DeviceAuth.Provisioning.Details
import Mathlib.Data.Nat.Basic

/-! What a proof is bound to. The message that is digested for a proof has nothing between the id
of the device, the id of the child and the nonce, and the id of the device may be of any length.
Still the message can be taken apart in one way only: from its end, since the nonce and the id of
a child have fixed sizes. So a proof for one device, child and nonce is a proof for no other,
unless there are two messages with the same digest. -/

namespace DeviceAuth

namespace Claim

@[ext]
structure Subject where
  deviceId : String
  childId : String
  nonce : Octets
  deviceAccepted : DeviceId.check deviceId = .ok ()
  childAccepted : ChildId.check childId = .ok ()
  nonceWhole : nonce.length = nonceSize

namespace Subject

def message (subject : Subject) : Octets :=
  proofMessage subject.deviceId subject.childId subject.nonce

def proof (subject : Subject) (secret : Secret) : String :=
  Claim.proof secret subject.deviceId subject.childId subject.nonce

theorem length_childId (subject : Subject) :
    (Octets.ofText subject.childId).length = ChildId.size :=
  (ChildId.check_eq_ok_iff.mp subject.childAccepted).1

theorem message_injective {left right : Subject} (equal : left.message = right.message) :
    left = right := by
  have nonceSizes := left.nonceWhole.trans right.nonceWhole.symm
  have childSizes := left.length_childId.trans right.length_childId.symm
  rcases List.append_inj' equal nonceSizes with ⟨ids, nonces⟩
  rcases List.append_inj' ids childSizes with ⟨devices, children⟩
  exact Subject.ext (Octets.ofText_injective devices) (Octets.ofText_injective children) nonces

/-- Two messages have the same digest, each under its own key, although they are different. -/
structure Collide (secret : Secret) (message : Octets) (otherSecret : Secret)
    (otherMessage : Octets) : Prop where
  different : message ≠ otherMessage
  sameDigest : Sha256.keyedDigest secret.octets message =
    Sha256.keyedDigest otherSecret.octets otherMessage

/-- A proof is bound to its subject. The message that is digested determines the device, the
child and the nonce. So whatever the secrets are, two proofs are the same only if they are about
the same subject, or if the messages of two subjects collide. -/
theorem binds (left right : Subject) :
    (left.message = right.message ↔ left = right) ∧
    ∀ secret otherSecret : Secret, left.proof secret = right.proof otherSecret →
      left = right ∨ Collide secret left.message otherSecret right.message := by
  refine ⟨⟨message_injective, congrArg message⟩, ?_⟩
  intro secret otherSecret sameProof
  by_cases same : left = right
  · exact .inl same
  · have different : left.message ≠ right.message := fun equal => same (message_injective equal)
    exact .inr ⟨different, Hexadecimal.encode_injective sameProof⟩

def ofRadio : Subject where
  deviceId := Address.deviceId ⟨[0xab, 0xcd, 0xef, 0x12, 0x34, 0x56], rfl⟩
  childId := "123e4567-e89b-12d3-a456-426614174000"
  nonce := List.replicate 16 0x2d
  deviceAccepted := by decide +kernel
  childAccepted := by decide +kernel
  nonceWhole := rfl

def writtenOut : Subject where
  deviceId := "ABCDEF123456"
  childId := "123e4567-e89b-12d3-a456-426614174000"
  nonce := List.replicate 16 0x2d
  deviceAccepted := by decide +kernel
  childAccepted := by decide +kernel
  nonceWhole := rfl

theorem binds_writtenOut : ofRadio.message = writtenOut.message ∧ ofRadio = writtenOut ∧
    (ofRadio = writtenOut ∨ Collide (.derive "ABCDEF123456") ofRadio.message
      (.derive "ABCDEF123456") writtenOut.message) := by
  have sameMessage : ofRadio.message = writtenOut.message := by decide +kernel
  have same := (binds ofRadio writtenOut).1.mp sameMessage
  have sameProof : ofRadio.proof (.derive "ABCDEF123456") =
      writtenOut.proof (.derive "ABCDEF123456") := by rw [same]
  exact ⟨sameMessage, same, (binds ofRadio writtenOut).2 _ _ sameProof⟩

end Subject

/-- Without a fixed size the id of a child could not be told from that of the device. -/
example : proofMessage "A" "BC" [] = proofMessage "AB" "C" [] := rfl

end Claim

end DeviceAuth
