import DeviceAuth.Claim.Effort
import DeviceAuth.Proofs.Storage.Writes

/-! What becomes of the artifacts of a grant. Every artifact is stored for itself: one that is
too large is left out, and the others are stored all the same. The failure that is reported is
that of the first artifact that was left out. -/

namespace DeviceAuth

namespace Claim

open Credentials (Operation)
open Reliable (Works shelf perform_agrees)

namespace Grant

variable {settings : Settings} {grant : Grant}

/-! ## Stored forms -/

def form? (settings : Settings) (grant : Grant) : Cell → Option Octets
  | .accessToken => some (Octets.ofText grant.accessToken)
  | .refreshToken => some (Octets.ofText grant.refreshToken)
  | .pairingCode => grant.pairingCode.map Octets.ofText
  | .payload => grant.payload.map Credentials.payloadOctets
  | .deviceConfig => grant.deviceConfig.map fun config =>
      (Localize.value settings.apiHost settings.tlsEnabled config).1.octets
  | _ => none

def artifactCells : List Cell :=
  [.accessToken, .refreshToken, .pairingCode, .payload, .deviceConfig]

def FitsIn (settings : Settings) (grant : Grant) (cell : Cell) : Prop :=
  ∀ octets, grant.form? settings cell = some octets → octets.length ≤ Backend.greatestValue

def fitting? (settings : Settings) (grant : Grant) (cell : Cell) : Option Octets :=
  (grant.form? settings cell).filter fun octets => octets.length ≤ Backend.greatestValue

/-! ## Operations -/

def operations (settings : Settings) (grant : Grant) : List Operation :=
  .saveTokens grant.accessToken grant.refreshToken ::
    ((grant.pairingCode.map .savePairingCode).toList ++
      (grant.payload.map .savePayload).toList ++
      (grant.deviceConfig.map fun config => .saveDeviceConfig
        (Localize.value settings.apiHost settings.tlsEnabled config).1).toList)

theorem artifacts_eq (settings : Settings) (grant : Grant) :
    grant.artifacts settings = (grant.operations settings).map Operation.action := by
  have tokens : (Operation.saveTokens grant.accessToken grant.refreshToken).action =
      Credentials.saveTokens grant.accessToken grant.refreshToken := Action.dropResult_unit _
  have code : Operation.action ∘ Operation.savePairingCode = Credentials.savePairingCode :=
    funext fun _ => Action.dropResult_unit _
  have payload : Operation.action ∘ Operation.savePayload = Credentials.savePayload :=
    funext fun _ => Action.dropResult_unit _
  have config : (Operation.action ∘ fun config => Operation.saveDeviceConfig
      (Localize.value settings.apiHost settings.tlsEnabled config).1) = saveConfig settings :=
    funext fun _ => Action.dropResult_unit _
  simp only [artifacts, operations, List.map_cons, List.map_append, Option.toList_map,
    List.map_map, tokens, code, payload, config]

theorem writes_operations (settings : Settings) (grant : Grant) :
    (grant.operations settings).flatMap Operation.writes =
      artifactCells.filterMap fun cell =>
        (grant.form? settings cell).map fun octets => ⟨cell, some octets⟩ := by
  rcases grant with ⟨_, _, _, _, _, config, code, payload⟩
  cases code <;> cases payload <;> cases config <;> rfl

theorem answers_of_mem_operations {operation : Operation}
    (member : operation ∈ grant.operations settings) :
    operation.isChange = true ∧ Write.Answers operation.writes operation.action := by
  simp only [operations, List.mem_cons, List.mem_append, Option.mem_toList,
    Option.map_eq_some_iff] at member
  have dropped : ∀ {writes : List Write} {action : Action Unit}, Write.Answers writes action →
      Write.Answers writes action.dropResult := by
    intro writes action answers
    rwa [Action.dropResult_unit]
  rcases member with rfl | (⟨code, _, rfl⟩ | ⟨payload, _, rfl⟩) | ⟨config, _, rfl⟩
  · exact ⟨rfl, dropped ((Write.answers_write .accessToken _).bind
      (Write.answers_save .refreshToken _ Cell.tokens))⟩
  · exact ⟨rfl, dropped (Write.answers_save .pairingCode _ Cell.credentials)⟩
  · exact ⟨rfl, dropped (Write.answers_save .payload _ Cell.credentials)⟩
  · exact ⟨rfl, dropped (Write.answers_save .deviceConfig _ Cell.credentials)⟩

/-! ## Performing them all -/

theorem store_performAll_operations {σ : Type} [Backend σ] (operations : List Operation)
    (store : σ) :
    ((performAll (operations.map Operation.action)).run store).2 =
      Operation.run operations store := by
  induction operations generalizing store with
  | nil => rfl
  | cons operation rest induction =>
      rw [List.map_cons, store_performAll, induction]
      rfl

theorem result_performAll_operations {operations : List Operation}
    (answers : ∀ operation ∈ operations, Write.Answers operation.writes operation.action)
    (shelf : Shelf) :
    ((performAll (operations.map Operation.action)).run shelf).1 =
      Write.answer (operations.flatMap Operation.writes) := by
  induction operations generalizing shelf with
  | nil => rfl
  | cons operation rest induction =>
      have first : (Program.run operation.action.run shelf).1 = Write.answer operation.writes :=
        answers operation (.head rest) shelf
      rw [List.map_cons, performAll, Program.run_bind, Program.run_bind, List.flatMap_cons,
        Write.answer_append, first,
        induction fun other member => answers other (.tail operation member)]
      cases Write.answer operation.writes with
      | ok => rfl
      | error failure => rfl

/-! ## Isolation -/

/-- What was stored of a grant, and what was answered. -/
structure Isolates (settings : Settings) (grant : Grant) (before after : Shelf)
    (result : Except StoreFailure Unit) : Prop where
  tokens : grant.FitsIn settings .accessToken → grant.FitsIn settings .refreshToken →
    after.look Cell.accessToken.location = grant.form? settings .accessToken ∧
      after.look Cell.refreshToken.location = grant.form? settings .refreshToken
  others : ∀ cell ∈ [Cell.pairingCode, .payload, .deviceConfig],
    after.look cell.location = (grant.fitting? settings cell).or (before.look cell.location)
  elsewhere : ∀ location, (∀ cell ∈ artifactCells, location ≠ cell.location) →
    after.look location = before.look location
  accepted : result = .ok () ↔ ∀ cell ∈ artifactCells, grant.FitsIn settings cell
  refused : ∀ front cell back, artifactCells = front ++ cell :: back →
    (∀ earlier ∈ front, grant.FitsIn settings earlier) → ¬ grant.FitsIn settings cell →
    ∃ octets reason, grant.form? settings cell = some octets ∧
      Backend.refusal? cell.location octets = some reason ∧
      result = .error (.write cell.location reason)

/-! ### What is answered -/

def writesFor (settings : Settings) (grant : Grant) (cells : List Cell) : List Write :=
  cells.filterMap fun cell => (grant.form? settings cell).map fun octets => ⟨cell, some octets⟩

theorem mem_writesFor {cells : List Cell} {write : Write} :
    write ∈ grant.writesFor settings cells ↔
      ∃ cell ∈ cells, ∃ octets, grant.form? settings cell = some octets ∧
        (⟨cell, some octets⟩ : Write) = write := by
  simp only [writesFor, List.mem_filterMap, Option.map_eq_some_iff]

theorem fits_writesFor {cells : List Cell} :
    (∀ write ∈ grant.writesFor settings cells, write.fits = true) ↔
      ∀ cell ∈ cells, grant.FitsIn settings cell := by
  constructor
  · intro fit cell member octets form
    exact of_decide_eq_true (fit _ (mem_writesFor.mpr ⟨cell, member, octets, form, rfl⟩))
  · intro fit write member
    obtain ⟨cell, inside, octets, form, rfl⟩ := mem_writesFor.mp member
    exact decide_eq_true (fit cell inside octets form)

theorem answer_writesFor {cells front back : List Cell} {cell : Cell} {octets : Octets}
    {reason : String} (split : cells = front ++ cell :: back)
    (fit : ∀ earlier ∈ front, grant.FitsIn settings earlier)
    (form : grant.form? settings cell = some octets)
    (refused : Backend.refusal? cell.location octets = some reason) :
    Write.answer (grant.writesFor settings cells) = .error (.write cell.location reason) := by
  have writes : grant.writesFor settings cells =
      grant.writesFor settings front ++ ⟨cell, some octets⟩ :: grant.writesFor settings back := by
    rw [split]
    simp only [writesFor, List.filterMap_append, List.filterMap_cons, form, Option.map_some]
  rw [writes]
  exact Write.answer_of_first (fits_writesFor.mpr fit) (by simp [Write.failure?, refused])

theorem refused_of_not_fitsIn {cell : Cell} (unfit : ¬ grant.FitsIn settings cell) :
    ∃ octets reason, grant.form? settings cell = some octets ∧
      Backend.refusal? cell.location octets = some reason := by
  simp only [FitsIn, not_forall] at unfit
  obtain ⟨octets, form, large⟩ := unfit
  cases refused : Backend.refusal? cell.location octets with
  | some reason => exact ⟨octets, reason, form, refused⟩
  | none => exact absurd ((Backend.refusal?_eq_none_iff _ _).mp refused).2.2 large

theorem result_keep (settings : Settings) (grant : Grant) (shelf : Shelf) :
    ((grant.keep settings).perform shelf).1 =
      Write.answer (grant.writesFor settings artifactCells) := by
  rw [writesFor, ← writes_operations]
  show ((performAll (grant.artifacts settings)).run shelf).1 = _
  rw [artifacts_eq]
  exact result_performAll_operations
    (fun operation member => (answers_of_mem_operations member).2) shelf

/-! ### What is stored -/

theorem store_keep {σ : Type} [Backend σ] (settings : Settings) (grant : Grant) (store : σ) :
    ((grant.keep settings).perform store).2 =
      Operation.run (grant.operations settings) store := by
  show ((performAll (grant.artifacts settings)).run store).2 = _
  rw [artifacts_eq, store_performAll_operations]

theorem look_saveTokens_other (access refresh : String) {cell : Cell}
    (other : cell ∉ [Cell.accessToken, .refreshToken]) (shelf : Shelf) :
    ((Operation.saveTokens access refresh).step shelf).look cell.location =
      shelf.look cell.location :=
  Operation.look_step other shelf

theorem look_tokens (fitAccess : grant.FitsIn settings .accessToken)
    (fitRefresh : grant.FitsIn settings .refreshToken) {cell : Cell}
    (token : cell = .accessToken ∨ cell = .refreshToken) (shelf : Shelf) :
    (Operation.run (grant.operations settings) shelf).look cell.location =
      grant.form? settings cell := by
  have fit : (Operation.saveTokens grant.accessToken grant.refreshToken).writes.all Write.fits =
      true := by
    simpa [Operation.writes, Write.fits] using ⟨fitAccess _ rfl, fitRefresh _ rfl⟩
  have notCode : cell ≠ .pairingCode := by rcases token with rfl | rfl <;> decide
  have notPayload : cell ≠ .payload := by rcases token with rfl | rfl <;> decide
  have notConfig : cell ≠ .deviceConfig := by rcases token with rfl | rfl <;> decide
  rw [operations, Operation.run, Operation.run_append, Operation.run_append,
    Operation.look_run_saved_other (fun _ => rfl) notConfig,
    Operation.look_run_saved_other (fun _ => rfl) notPayload,
    Operation.look_run_saved_other (fun _ => rfl) notCode,
    Operation.step_of_isChange rfl, Write.look_tryAll fit]
  rcases token with rfl | rfl
  · rfl
  · rfl

/-- Each of the other artifacts is stored if it fits, whatever becomes of those before it and
after it. -/
theorem look_others {cell : Cell} (other : cell ∈ [Cell.pairingCode, .payload, .deviceConfig])
    (shelf : Shelf) :
    (Operation.run (grant.operations settings) shelf).look cell.location =
      (grant.fitting? settings cell).or (shelf.look cell.location) := by
  rw [operations, Operation.run, Operation.run_append, Operation.run_append]
  simp only [List.mem_cons, List.not_mem_nil, or_false] at other
  rcases other with rfl | rfl | rfl
  · rw [Operation.look_run_saved_other (fun _ => rfl) (by decide),
      Operation.look_run_saved_other (fun _ => rfl) (by decide),
      Operation.look_run_saved (fun _ => rfl), look_saveTokens_other _ _ (by decide)]
    rfl
  · rw [Operation.look_run_saved_other (fun _ => rfl) (by decide),
      Operation.look_run_saved (fun _ => rfl),
      Operation.look_run_saved_other (fun _ => rfl) (by decide),
      look_saveTokens_other _ _ (by decide)]
    rfl
  · rw [Operation.look_run_saved (fun _ => rfl),
      Operation.look_run_saved_other (fun _ => rfl) (by decide),
      Operation.look_run_saved_other (fun _ => rfl) (by decide),
      look_saveTokens_other _ _ (by decide)]
    rfl

theorem look_elsewhere {location : Location}
    (elsewhere : ∀ cell ∈ artifactCells, location ≠ cell.location) (shelf : Shelf) :
    (Operation.run (grant.operations settings) shelf).look location = shelf.look location := by
  apply Operation.look_run_spares
  intro operation member
  refine ⟨(answers_of_mem_operations member).1, ?_⟩
  intro write inside
  have listed : write ∈ grant.writesFor settings artifactCells := by
    rw [writesFor, ← writes_operations]
    exact List.mem_flatMap.mpr ⟨operation, member, inside⟩
  obtain ⟨cell, known, octets, _, rfl⟩ := mem_writesFor.mp listed
  exact elsewhere cell known

/-- On a store that can be relied on, the artifacts of a grant do not depend on each other. -/
theorem isolates_keep {σ : Type} [Backend σ] [Reliable σ] (settings : Settings) (grant : Grant)
    {store : σ} (works : Works store) :
    Isolates settings grant (shelf store) (shelf ((grant.keep settings).perform store).2)
      ((grant.keep settings).perform store).1 := by
  have agrees := perform_agrees (grant.keep settings) works
  rw [agrees.result, agrees.shelf, result_keep, store_keep]
  constructor
  case tokens =>
    intro fitAccess fitRefresh
    exact ⟨look_tokens fitAccess fitRefresh (.inl rfl) _,
      look_tokens fitAccess fitRefresh (.inr rfl) _⟩
  case others => exact fun cell other => look_others other _
  case elsewhere => exact fun location elsewhere => look_elsewhere elsewhere _
  case accepted => rw [Write.answer_eq_ok_iff, fits_writesFor]
  case refused =>
    intro front cell back split fit unfit
    obtain ⟨octets, reason, form, refused⟩ := refused_of_not_fitsIn unfit
    exact ⟨octets, reason, form, refused, answer_writesFor split fit form refused⟩

def configured : Grant where
  accessToken := "access"
  refreshToken := "refresh"
  lifetime := 300
  deviceConfig := some (.object [("host", .string "0.0.0.0")])

def paired : Memory := { contents := ⟨[(Cell.pairingCode.location, Octets.ofText "old")]⟩ }

theorem isolates_configured :
    let kept := (configured.keep {}).perform paired
    Works paired ∧ Isolates {} configured (shelf paired) (shelf kept.2) kept.1 ∧
      kept.1 = .ok () ∧
      kept.2.contents.get? Cell.pairingCode.location = some (Octets.ofText "old") ∧
      kept.2.contents.get? Cell.deviceConfig.location =
        some (Octets.ofText "\x7b\"host\":\"api.teddy.example\"\x7d") := by
  have works : Works paired := ⟨rfl, rfl⟩
  refine ⟨works, isolates_keep {} configured works, ?_⟩
  decide +kernel

end Grant

end Claim

end DeviceAuth
