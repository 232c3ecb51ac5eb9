import DeviceAuth.Proofs.Device.Token
import DeviceAuth.Proofs.Json.Documents
import DeviceAuth.Proofs.Text.Slices
import DeviceAuth.Storage.Memory

/-! The message of a refresh. It is a document from which the server reads the end of the held
token and nothing else, whatever characters the token is made of. -/

namespace DeviceAuth

namespace Refresh

/-- A message proves that its sender holds a token: it is a document with a type and a proof as
its only members, and the proof is the end of the token, eight characters or all there are. The
place at which the token is cut is not inside a character. -/
def Proves (message token : String) : Prop :=
  ∃ front proof, token = front ++ proof ∧ proof.length = min 8 token.length ∧
    Octets.cut? (Octets.placeFromEnd 8 token) token = some proof ∧
    Json.Document.parse? (Octets.ofText message) = some (.object
      [(some "type", .string (some "auth/refresh")), (some "proof", .string (some proof))])

theorem parse?_requestText (proof : String) :
    Json.Document.parse? (Octets.ofText (requestText proof)) = some (.object
      [(some "type", .string (some "auth/refresh")), (some "proof", .string (some proof))]) :=
  have written : (request proof).document? = some (.object
      [(some "type", .string (some "auth/refresh")), (some "proof", .string (some proof))]) := rfl
  Json.parse?_octets written

theorem proves_requestText (record : TokenRecord) :
    Proves (requestText record.proof) record.token :=
  ⟨charactersBefore 8 record.token, record.proof,
    (charactersBefore_append_lastCharacters 8 record.token).symm,
    length_lastCharacters 8 record.token,
    cut?_placeFromEnd (by decide) record.token,
    parse?_requestText record.proof⟩

end Refresh

/-! ## Beginning a refresh -/

namespace Keeper

variable {keeper : Keeper}

theorem beginRefresh_send {settings : Settings} {after : Keeper} {generation : UInt64}
    {proof : String}
    (begun : keeper.beginRefresh settings = (.send generation proof, after)) :
    ∃ record, keeper.record = some record ∧ proof = record.proof := by
  unfold beginRefresh at begun
  rcases taken : keeper.takeFlag? with _ | flagged
  · rw [taken] at begun
    cases begun
  · rcases takeFlag?_some taken with ⟨_, rfl⟩
    rcases entered : ({ keeper with inFlight := true } : Keeper).enterRefresh settings with
      ⟨_ | ⟨number, shown⟩, entering⟩
    · simp only [taken, entered] at begun
      cases begun
    · rcases enterRefresh_ok entered with ⟨record, held, _, _, rfl, _⟩
      simp only [taken, entered] at begun
      cases begun
      exact ⟨record, held, rfl⟩

theorem beginRefresh_of_held (settings : Settings) {record : TokenRecord}
    (held : keeper.record = some record) (initialized : keeper.phase ≠ .uninitialized)
    (free : keeper.inFlight = false) :
    ∃ after, keeper.beginRefresh settings = (.send (keeper.generation + 1) record.proof, after) ∧
      after.connected = keeper.connected := by
  have taken : keeper.takeFlag? = some { keeper with inFlight := true } := by
    rw [takeFlag?, free]
    rfl
  rw [beginRefresh, taken]
  simp only [enterRefresh, initialized, if_false, held]
  exact ⟨_, rfl, rfl⟩

end Keeper

namespace Device

variable {σ : Type} {device : Device σ}

theorem openRefresh_send {generation : UInt64} {message : String}
    (sent : device.openRefresh.1 = .send generation message) :
    ∃ record, device.keeper.record = some record ∧
      message = Refresh.requestText record.proof := by
  unfold openRefresh keep at sent
  rcases begun : device.keeper.beginRefresh device.settings with
    ⟨_ | failure | ⟨number, proof⟩, keeper⟩
  case alreadyUnderWay =>
    rw [begun] at sent
    cases sent
  case refused =>
    rw [begun] at sent
    cases sent
  case send =>
    rcases Keeper.beginRefresh_send begun with ⟨record, held, rfl⟩
    rw [begun] at sent
    dsimp only at sent
    split at sent
    · cases sent
      exact ⟨record, held, rfl⟩
    · cases sent

theorem openRefresh_of_held {record : TokenRecord} (held : device.keeper.record = some record)
    (initialized : device.keeper.phase ≠ .uninitialized) (free : device.keeper.inFlight = false)
    (connected : device.keeper.connected = true) :
    device.openRefresh.1 =
      .send (device.keeper.generation + 1) (Refresh.requestText record.proof) := by
  rcases Keeper.beginRefresh_of_held device.settings held initialized free with
    ⟨after, begun, same⟩
  rw [openRefresh, keep, begun]
  simp only [same, connected, if_true]

/-- A message that is sent to refresh a token proves that the token is held, also if others had
their turn since the refresh began. With a channel, a token that is held is always asked about. -/
theorem proves_openRefresh (device : Device σ) :
    (∀ generation message, device.openRefresh.1 = .send generation message →
      ∃ record, device.keeper.record = some record ∧ Refresh.Proves message record.token) ∧
    (∀ generation proof, device.enterRefresh.1 = .ok (generation, proof) →
      ∃ record, device.keeper.record = some record ∧
        Refresh.Proves (Refresh.requestText proof) record.token) ∧
    (∀ record, device.keeper.record = some record → device.keeper.phase ≠ .uninitialized →
      device.keeper.inFlight = false → device.keeper.connected = true →
      ∃ generation message, device.openRefresh.1 = .send generation message) := by
  refine ⟨?_, ?_, ?_⟩
  · intro generation message sent
    rcases openRefresh_send sent with ⟨record, held, rfl⟩
    exact ⟨record, held, Refresh.proves_requestText record⟩
  · intro generation proof entered
    rcases Keeper.enterRefresh_ok (Prod.ext entered rfl) with ⟨record, held, _, _, rfl, _⟩
    exact ⟨record, held, Refresh.proves_requestText record⟩
  · intro record held initialized free connected
    exact ⟨_, _, openRefresh_of_held held initialized free connected⟩

def mixedToken : String := "Schlüssel-𝄞\"\\\n\x01é€"

def withMixedToken : Device Memory :=
  ((Device.create {} ⟨[0x0a, 0x1b, 0x2c, 0x3d, 0x4e, 0x5f], rfl⟩ 1000 []
    ({} : Memory)).loadToken.2.storeToken mixedToken 3600).2.onKeeper Keeper.connect

theorem proves_openRefresh_withMixedToken :
    ∃ generation message, withMixedToken.openRefresh.1 = .send generation message ∧
      Refresh.Proves message mixedToken := by
  have held : withMixedToken.keeper.record = some ⟨mixedToken, 4600, "0A1B2C3D4E5F", ""⟩ := by
    decide +kernel
  rcases (proves_openRefresh withMixedToken).2.2 _ held (by decide +kernel) (by decide +kernel)
    (by decide +kernel) with ⟨generation, message, sent⟩
  rcases (proves_openRefresh withMixedToken).1 _ _ sent with ⟨record, same, proves⟩
  obtain rfl := Option.some.inj (held.symm.trans same)
  exact ⟨generation, message, sent, proves⟩

end Device

end DeviceAuth
