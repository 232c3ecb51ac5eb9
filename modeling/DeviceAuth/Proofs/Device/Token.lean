import DeviceAuth.Device.Claim
import DeviceAuth.Proofs.Keeper.Change

/-! The operations on the token, case by case. The store decides which record is held
and which failure is reported; in every case it is said what becomes of the keeper. -/

namespace DeviceAuth

namespace Device

variable {σ : Type} [Backend σ]

theorem perform_eq {α : Type} (action : Action α) (device : Device σ) :
    ∃ result store, device.perform action = (result, { device with store := store }) :=
  ⟨_, _, rfl⟩

theorem run_eq {α : Type} (program : Program α) (device : Device σ) :
    ∃ result store, device.run program = (result, { device with store := store }) :=
  ⟨_, _, rfl⟩

theorem takeStored_of_initialized {device : Device σ}
    (initialized : device.keeper.phase ≠ .uninitialized) :
    device.takeStored = (.ok false, device) :=
  if_pos initialized

theorem takeStored_cases {device : Device σ}
    (uninitialized : device.keeper.phase = .uninitialized) :
    (∃ failure store, device.takeStored =
        (.error (.store failure), { device with store := store })) ∨
      ∃ stored store, device.takeStored =
        (.ok (device.keeper.beginWith device.settings device.now stored).record.isSome,
          { device with
            store := store
            keeper := device.keeper.beginWith device.settings device.now stored }) := by
  obtain ⟨result, store, performed⟩ := perform_eq Credentials.loadRecord device
  rw [takeStored, if_neg (by simpa using uninitialized), performed]
  cases result with
  | error failure => exact .inl ⟨failure, store, rfl⟩
  | ok stored => exact .inr ⟨stored, store, rfl⟩

theorem takeStored_of_unread {device : Device σ} {failure : StoreFailure} {store : σ}
    (uninitialized : device.keeper.phase = .uninitialized)
    (unread : Credentials.loadRecord.perform device.store = (.error failure, store)) :
    device.takeStored = (.error (.store failure), { device with store := store }) := by
  have performed : device.perform Credentials.loadRecord =
      (.error failure, { device with store := store }) := by
    simp only [perform, unread]
  rw [takeStored, if_neg (by simpa using uninitialized), performed]

theorem takeStored_of_read {device : Device σ} {stored : Option TokenRecord} {store : σ}
    (uninitialized : device.keeper.phase = .uninitialized)
    (read : Credentials.loadRecord.perform device.store = (.ok stored, store)) :
    device.takeStored.2 = { device with
      store := store
      keeper := device.keeper.beginWith device.settings device.now stored } := by
  have performed : device.perform Credentials.loadRecord =
      (.ok stored, { device with store := store }) := by
    simp only [perform, read]
  rw [takeStored, if_neg (by simpa using uninitialized), performed]
  rfl

theorem holdToken_error {device : Device σ} {token : String} (lifetime : UInt32)
    (refused : token.isEmpty = true ∨ device.keeper.phase = .uninitialized) :
    ∃ failure store, device.holdToken token lifetime =
      (.error failure, { device with store := store }) := by
  obtain ⟨⟨deviceId, childId⟩, store, performed⟩ := run_eq (tokenIds device.address) device
  unfold holdToken
  split
  next => exact ⟨_, device.store, rfl⟩
  next given =>
    rw [performed]
    dsimp only
    rw [if_pos (refused.resolve_left given)]
    exact ⟨_, store, rfl⟩

theorem holdToken_ok {device : Device σ} {token : String} (lifetime : UInt32)
    (given : token.isEmpty = false) (initialized : device.keeper.phase ≠ .uninitialized) :
    ∃ record store, record.token = token ∧
      record.expiry = expiryAfter device.now lifetime ∧
      device.holdToken token lifetime = (.ok (), { device with
        store := store
        keeper := (device.keeper.replace device.settings device.now record).emit
          (.tokenStored record.expiry) }) := by
  obtain ⟨⟨deviceId, childId⟩, store, performed⟩ := run_eq (tokenIds device.address) device
  let record : TokenRecord := ⟨token, expiryAfter device.now lifetime, deviceId, childId⟩
  obtain ⟨result, saved, performedSave⟩ :=
    perform_eq (Credentials.saveRecord record) { device with store := store }
  refine ⟨record, saved, rfl, rfl, ?_⟩
  rw [holdToken, if_neg (by simp [given]), performed]
  dsimp only
  rw [if_neg initialized, performedSave]
  rfl

def newRecord (token : String) (lifetime : UInt32) (device : Device σ) : TokenRecord :=
  let ids := ((tokenIds device.address).run device.store).1
  ⟨token, expiryAfter device.now lifetime, ids.1, ids.2⟩

theorem holdToken_of_uninitialized {device : Device σ} {token : String} (lifetime : UInt32)
    (given : token.isEmpty = false) (uninitialized : device.keeper.phase = .uninitialized) :
    (device.holdToken token lifetime).2 =
      { device with store := ((tokenIds device.address).run device.store).2 } := by
  simp [holdToken, given, uninitialized, run]

theorem holdToken_stored {device : Device σ} {token : String} (lifetime : UInt32)
    (given : token.isEmpty = false) (initialized : device.keeper.phase ≠ .uninitialized) :
    (device.holdToken token lifetime).2 = { device with
      store := ((Credentials.saveRecord (device.newRecord token lifetime)).perform
        ((tokenIds device.address).run device.store).2).2
      keeper := (device.keeper.replace device.settings device.now
        (device.newRecord token lifetime)).emit
          (.tokenStored (device.newRecord token lifetime).expiry) } := by
  simp [holdToken, given, initialized, run, perform, newRecord, onKeeper, emit]

theorem holdToken_cases (token : String) (lifetime : UInt32) (device : Device σ) :
    (∃ failure store, device.holdToken token lifetime =
        (.error failure, { device with store := store })) ∨
      device.keeper.phase ≠ .uninitialized ∧ ∃ record store,
        device.holdToken token lifetime = (.ok (), { device with
          store := store
          keeper := (device.keeper.replace device.settings device.now record).emit
            (.tokenStored record.expiry) }) := by
  by_cases refused : token.isEmpty = true ∨ device.keeper.phase = .uninitialized
  · exact .inl (holdToken_error lifetime refused)
  · rw [not_or, Bool.not_eq_true] at refused
    rcases holdToken_ok lifetime refused.1 refused.2 with ⟨record, store, _, _, held⟩
    exact .inr ⟨refused.2, record, store, held⟩

theorem applyAnswer_error (device : Device σ) (message : String)
    (refused : (∀ answer, Refresh.Answer.read message ≠ .ok answer) ∨
      device.keeper.phase = .uninitialized) :
    ∃ failure, device.applyAnswer message = (.error failure, device) := by
  unfold applyAnswer
  split
  next failure _ => exact ⟨failure, rfl⟩
  next answer found =>
    rw [if_pos (refused.resolve_left fun unread => unread answer found)]
    exact ⟨_, rfl⟩

theorem applyAnswer_error_or_read (device : Device σ) (message : String) :
    (∃ failure, device.applyAnswer message = (.error failure, device)) ∨
      device.keeper.phase ≠ .uninitialized ∧
        ∃ answer, Refresh.Answer.read message = .ok answer := by
  by_cases initialized : device.keeper.phase = .uninitialized
  · exact .inl (device.applyAnswer_error message (.inr initialized))
  · cases read : Refresh.Answer.read message with
    | ok answer => exact .inr ⟨initialized, answer, rfl⟩
    | error failure =>
        left
        apply device.applyAnswer_error message
        left
        intro answer found
        rw [read] at found
        cases found

theorem applyAnswer_accepted {device : Device σ} {message : String} {lifetime : UInt32}
    {token : Option String}
    (found : Refresh.Answer.read message = .ok (.accepted lifetime token))
    (initialized : device.keeper.phase ≠ .uninitialized) :
    (device.keeper.record = none ∧ ∃ failure, device.applyAnswer message =
        (.error failure, { device with keeper := device.keeper.takeAnswer.missToken })) ∨
      ∃ record renewed store, device.keeper.record = some record ∧
        device.applyAnswer message = (.ok true, { device with
          store := store
          keeper := (device.keeper.takeAnswer.hold device.settings device.now renewed).emit
            (.refreshed renewed.expiry) }) := by
  unfold applyAnswer
  rw [found]
  dsimp only
  rw [if_neg initialized]
  cases held : device.keeper.record with
  | none =>
      have none : (device.onKeeper Keeper.takeAnswer).keeper.record = none := held
      rw [none]
      exact .inl ⟨rfl, _, rfl⟩
  | some record =>
      have some : (device.onKeeper Keeper.takeAnswer).keeper.record = some record := held
      rw [some]
      dsimp only
      obtain ⟨result, store, performed⟩ := perform_eq
        (Credentials.saveRecord (record.renewed device.now lifetime token))
        (device.onKeeper Keeper.takeAnswer)
      refine .inr ⟨record, record.renewed device.now lifetime token, store, rfl, ?_⟩
      rw [show (device.onKeeper Keeper.takeAnswer).now = device.now from rfl, performed]
      rfl

theorem applyAnswer_rejected {device : Device σ} {message reason : String}
    (found : Refresh.Answer.read message = .ok (.rejected reason))
    (initialized : device.keeper.phase ≠ .uninitialized) :
    ∃ result store, result ≠ .ok true ∧
      device.applyAnswer message = (result, { device with
        store := store
        keeper := device.keeper.takeAnswer.drop.emit (.authFailed reason) }) := by
  obtain ⟨result, store, performed⟩ := perform_eq Credentials.clearTokens
    ((device.onKeeper Keeper.takeAnswer).onKeeper Keeper.drop)
  refine ⟨(ofStore result).map fun _ => false, store, ?_, ?_⟩
  · cases result <;> simp [ofStore, Except.map]
  · unfold applyAnswer
    rw [found]
    dsimp only
    rw [if_neg initialized, performed]
    rfl

theorem applyAnswer_renewed {device : Device σ} {message : String} {lifetime : UInt32}
    {token : Option String} {record : TokenRecord}
    (found : Refresh.Answer.read message = .ok (.accepted lifetime token))
    (initialized : device.keeper.phase ≠ .uninitialized)
    (held : device.keeper.record = some record) :
    (device.applyAnswer message).2 = { device with
      store := ((Credentials.saveRecord
        (record.renewed device.now lifetime token)).perform device.store).2
      keeper := (device.keeper.takeAnswer.hold device.settings device.now
        (record.renewed device.now lifetime token)).emit
          (.refreshed (record.renewed device.now lifetime token).expiry) } := by
  have kept : (device.onKeeper Keeper.takeAnswer).keeper.record = some record := held
  unfold applyAnswer
  rw [found]
  simp only [initialized, if_false, kept]
  rfl

theorem applyAnswer_cleared {device : Device σ} {message reason : String}
    (found : Refresh.Answer.read message = .ok (.rejected reason))
    (initialized : device.keeper.phase ≠ .uninitialized) :
    (device.applyAnswer message).2 = { device with
      store := (Credentials.clearTokens.perform device.store).2
      keeper := device.keeper.takeAnswer.drop.emit (.authFailed reason) } := by
  unfold applyAnswer
  rw [found]
  simp only [initialized, if_false]
  rfl

theorem applyAnswer_cases (message : String) (device : Device σ) :
    (∃ failure, device.applyAnswer message = (.error failure, device)) ∨
      device.keeper.phase ≠ .uninitialized ∧
        ((device.keeper.record = none ∧ ∃ failure, device.applyAnswer message =
            (.error failure, { device with keeper := device.keeper.takeAnswer.missToken })) ∨
          (∃ record renewed store, device.keeper.record = some record ∧
            device.applyAnswer message = (.ok true, { device with
              store := store
              keeper := (device.keeper.takeAnswer.hold device.settings device.now renewed).emit
                (.refreshed renewed.expiry) })) ∨
          ∃ reason result store, result ≠ .ok true ∧
            device.applyAnswer message = (result, { device with
              store := store
              keeper := device.keeper.takeAnswer.drop.emit (.authFailed reason) })) := by
  rcases device.applyAnswer_error_or_read message with refused | ⟨initialized, answer, read⟩
  · exact .inl refused
  · refine .inr ⟨initialized, ?_⟩
    cases answer with
    | accepted lifetime token =>
        rcases applyAnswer_accepted read initialized with missing | renewed
        · exact .inl missing
        · exact .inr (.inl renewed)
    | rejected reason => exact .inr (.inr ⟨reason, applyAnswer_rejected read initialized⟩)

omit [Backend σ] in
theorem enterRefresh_cases (device : Device σ) :
    (∃ failure, device.enterRefresh = (.error failure, device) ∧
        (device.keeper.phase = .uninitialized ∨ device.keeper.record = none)) ∨
      ∃ generation proof keeper,
        device.enterRefresh = (.ok (generation, proof), { device with keeper := keeper }) ∧
        device.keeper.enterRefresh device.settings = (.ok (generation, proof), keeper) := by
  unfold enterRefresh keep
  cases entered : device.keeper.enterRefresh device.settings with
  | mk result keeper =>
      cases result with
      | error failure =>
          obtain ⟨rfl, reason⟩ := Keeper.enterRefresh_error entered
          exact .inl ⟨failure, rfl, reason⟩
      | ok request => exact .inr ⟨request.1, request.2, keeper, rfl, rfl⟩

omit [Backend σ] in
theorem failRefresh_of_not {device : Device σ} {generation : UInt64}
    (passed : ¬ device.keeper.IsAwaited generation) (reason : String) :
    device.failRefresh generation reason = (.ok (), device) := by
  unfold failRefresh
  rw [Keeper.failRefresh_of_not _ _ _ _ passed]

omit [Backend σ] in
theorem device_closeRefresh_error (generation : UInt64) (failure : LinkFailure)
    (device : Device σ) : (device.closeRefresh generation (.error failure)).2 =
      (device.failRefresh generation (Failure.link failure).message).2 := by
  unfold closeRefresh
  dsimp only
  split
  next equal => rw [equal]
  next equal => rw [equal]

omit [Backend σ] in
theorem abandonRefresh_of_not {device : Device σ} {generation : UInt64}
    (passed : ¬ device.keeper.IsAwaited generation) :
    device.abandonRefresh generation = device.onKeeper Keeper.releaseFlag := by
  have released : ¬ device.keeper.releaseFlag.IsAwaited generation := passed
  unfold abandonRefresh Device.onKeeper Keeper.abandonRefresh
  rw [Keeper.settleAbandoned_of_not _ _ released]

theorem clearToken_eq (device : Device σ) : ∃ store, device.clearToken.2 = { device with
    store := store
    keeper := device.keeper.wipe.emit .tokenCleared } :=
  ⟨_, rfl⟩

end Device

end DeviceAuth
