import DeviceAuth.Proofs.Activity.Accord
import DeviceAuth.Proofs.Activity.Operations

/-! The token in memory and the token in the store. On a reliable store that nobody else
uses, whatever record the keeper holds is also what the store gives back. So a keeper that
is shut down and begins again holds the same record as before. -/

namespace DeviceAuth

def Move.TokenFits {σ : Type} : Move σ → Prop
  | .hold token _ => token.utf8ByteSize ≤ Backend.greatestValue
  | .answer message => ∀ lifetime token,
      Refresh.Answer.read message = .ok (.accepted lifetime (some token)) →
        token.utf8ByteSize ≤ Backend.greatestValue
  | _ => True

def Move.LeavesStore {σ : Type} (store : σ) : Move σ → Prop
  | .surroundings _ _ other => other = store
  | _ => True

theorem TokenRecord.Fits.renewed {record : TokenRecord} (fits : record.Fits)
    (now lifetime : UInt32) {token : Option String}
    (small : ∀ rotated, token = some rotated → rotated.utf8ByteSize ≤ Backend.greatestValue) :
    (record.renewed now lifetime token).Fits where
  token := by
    unfold TokenRecord.renewed
    cases token with
    | none => exact fits.token
    | some rotated =>
        cases empty : rotated.isEmpty with
        | true =>
            simp only [Option.filter, empty]
            exact fits.token
        | false =>
            simp only [Option.filter, empty]
            exact small rotated rfl
  deviceId := fits.deviceId
  childId := fits.childId

namespace Standing

open Reliable (Works shelf perform_agrees run_agrees)

variable {σ : Type} [Backend σ] [Reliable σ] {settings : Settings} {address : Address}
  {before after : Standing σ} {move : Move σ}

/-- A store that works gives back the record that is held. -/
structure IsStored (standing : Standing σ) : Prop where
  accord : Accord standing.phase standing.record
  works : Works standing.store
  fits : (shelf standing.store).Fits
  loads : ∀ record, standing.record = some record →
    (Credentials.loadRecord.perform standing.store).1 = .ok (some record)

theorem IsStored.of_none {α : Type} (stored : before.IsStored) (program : Program α)
    (accord : Accord after.phase after.record) (missing : after.record = none)
    (store : after.store = (program.run before.store).2) : after.IsStored where
  accord := accord
  works := by
    rw [store]
    exact (run_agrees program stored.works).works
  fits := by
    rw [store, (run_agrees program stored.works).shelf]
    exact stored.fits.run program
  loads record held := by
    rw [missing] at held
    cases held

theorem isStored_holding {record : TokenRecord} {store : σ} (works : Works store)
    (fits : (shelf store).Fits) (given : record.token.isEmpty = false) (small : record.Fits)
    (standing : Standing σ) :
    (standing.holding settings record
      ((Credentials.saveRecord record).perform store).2).IsStored := by
  have saved := perform_agrees (Credentials.saveRecord record) works
  have accord := accord_holding settings given
    ((Credentials.saveRecord record).perform store).2 standing
  constructor
  case accord => exact accord
  case works => exact saved.works
  case fits =>
    rw [store_holding, saved.shelf]
    exact fits.run (Credentials.saveRecord record).run
  case loads =>
    intro held found
    obtain rfl : record = held := Option.some.inj found
    rw [store_holding, (perform_agrees Credentials.loadRecord saved.works).result, saved.shelf]
    exact Credentials.loadRecord_saveRecord given small _

theorem loadRecord_again {store later : σ} {result : Except StoreFailure (Option TokenRecord)}
    (works : Works store) (read : Credentials.loadRecord.perform store = (result, later)) :
    shelf later = shelf store ∧ (Credentials.loadRecord.perform later).1 = result := by
  have agrees := perform_agrees Credentials.loadRecord works
  rw [read] at agrees
  have same : shelf later = shelf store :=
    agrees.shelf.trans (Credentials.onlyReads_loadRecord (shelf store))
  refine ⟨same, ?_⟩
  rw [(perform_agrees Credentials.loadRecord agrees.works).result, same]
  exact agrees.result.symm

theorem Passes.isStored (passes : Passes settings address before move after)
    (stored : before.IsStored) (fits : move.TokenFits) (leaves : move.LeavesStore before.store) :
    after.IsStored := by
  have accord := passes.accord stored.accord
  cases passes with
  | same => exact stored
  | surround now random store =>
      obtain rfl : store = before.store := leaves
      exact ⟨accord, stored.works, stored.fits, stored.loads⟩
  | judge => exact ⟨accord, stored.works, stored.fits, stored.loads⟩
  | giveUp => exact stored.of_none (.done ()) accord rfl rfl
  | request => exact ⟨accord, stored.works, stored.fits, stored.loads⟩
  | unread uninitialized read =>
      have missing := stored.accord.missing (.inl uninitialized)
      exact stored.of_none Credentials.loadRecord.run accord missing (congrArg Prod.snd read).symm
  | beginEmpty uninitialized read =>
      have missing := stored.accord.missing (.inl uninitialized)
      exact stored.of_none Credentials.loadRecord.run accord missing (congrArg Prod.snd read).symm
  | beginWith uninitialized read =>
      have again := loadRecord_again stored.works read
      have works := (perform_agrees Credentials.loadRecord stored.works).works
      rw [read] at works
      constructor
      case accord => exact accord
      case works => exact works
      case fits =>
        rw [store_holding, again.1]
        exact stored.fits
      case loads =>
        intro held found
        rw [record_holding] at found
        rw [← found]
        exact again.2
  | refuse given uninitialized =>
      have missing := stored.accord.missing (.inl uninitialized)
      exact stored.of_none (Device.tokenIds address) accord missing rfl
  | @hold token lifetime given =>
      have ids := run_agrees (Device.tokenIds address) stored.works
      have small := Device.fits_tokenIds address stored.fits
      rw [← ids.result] at small
      have kept : (shelf ((Device.tokenIds address).run before.store).2).Fits := by
        rw [ids.shelf]
        exact stored.fits.run _
      have record : (before.newRecord address token lifetime).Fits := ⟨fits, small.1, small.2⟩
      exact isStored_holding ids.works kept given record before
  | @renew message lifetime token record read initialized held =>
      have loaded := stored.loads record held
      rw [(perform_agrees Credentials.loadRecord stored.works).result] at loaded
      have small := Credentials.fits_of_loadRecord stored.fits loaded
      have renewed : (record.renewed before.now lifetime token).Fits := by
        apply small.renewed
        rintro rotated rfl
        exact fits lifetime rotated read
      have given := Accord.given_renewed (stored.accord.given record held) before.now lifetime token
      exact isStored_holding stored.works stored.fits given renewed before
  | miss initialized missing => exact stored.of_none (.done ()) accord missing rfl
  | reject => exact stored.of_none Credentials.clearTokens.run accord rfl rfl
  | clear => exact stored.of_none Credentials.clearTokens.run accord rfl rfl
  | shutdown => exact stored.of_none (.done ()) accord rfl rfl

end Standing

namespace Activity

variable {σ : Type} [Backend σ]

/-! ## Runs -/

def Undisturbed : List (Move σ) → Activity σ → Prop
  | [], _ => True
  | move :: rest, activity =>
      move.LeavesStore activity.device.store ∧ Undisturbed rest (activity.step move)

theorem record_restart {device : Device σ} {record : TokenRecord}
    (loaded : (Credentials.loadRecord.perform device.store).1 = .ok (some record)) :
    device.shutdown.loadToken.2.keeper.record = some record := by
  have read : Credentials.loadRecord.perform device.shutdown.store =
      (.ok (some record), (Credentials.loadRecord.perform device.store).2) := Prod.ext loaded rfl
  have uninitialized : device.shutdown.keeper.phase = .uninitialized := rfl
  have taken := Device.takeStored_of_read uninitialized read
  have kept : ∀ answer : Except Failure Bool × Device σ,
      (Device.thenSchedule answer).2.keeper.record = answer.2.keeper.record := by
    intro answer
    by_cases wanted : answer.1 = .ok true
    · rw [show answer = (.ok true, answer.2) from Prod.ext wanted rfl, thenSchedule_true]
      exact Keeper.record_schedule _ _ _
    · rw [thenSchedule_of_ne answer wanted]
  rw [Device.loadToken, kept, taken]
  rfl

variable [Reliable σ]

theorem isStored_run {moves : List (Move σ)} {activity : Activity σ}
    (stored : activity.standing.IsStored) (fits : ∀ move ∈ moves, move.TokenFits)
    (alone : Undisturbed moves activity) : (activity.run moves).standing.IsStored := by
  induction moves generalizing activity with
  | nil => exact stored
  | cons move rest induction =>
      have kept := (activity.step_goes move).isStored stored (fits move (.head rest)) alone.1
      exact induction kept (fun later member => fits later (.tail move member)) alone.2

/-- Whatever record is held after a run on a reliable store that nobody else uses is the
one that the store gives back, and the one that is held after a restart. -/
theorem stored_run (settings : Settings) (address : Address) (now : UInt32) (random : Octets)
    {store : σ} {moves : List (Move σ)} (works : Reliable.Works store)
    (accepted : (Reliable.shelf store).Fits) (fits : ∀ move ∈ moves, move.TokenFits)
    (alone : Undisturbed moves (start settings address now random store)) :
    let device := ((start settings address now random store).run moves).device
    ∀ record, device.keeper.record = some record →
      (Credentials.loadRecord.perform device.store).1 = .ok (some record) ∧
        device.shutdown.loadToken.2.keeper.record = some record := by
  intro device record held
  have fresh : (start settings address now random store).standing.IsStored :=
    ⟨.of_none nofun nofun, works, accepted, nofun⟩
  have loaded := (isStored_run fresh fits alone).loads record held
  exact ⟨loaded, record_restart loaded⟩

def rotateToken : List (Move Memory) :=
  [.load, .hold "abcdefghijklmnop" 3600,
    .answer "\x7b\"type\":\"auth/ok\",\"exp_in_sec\":900,\"token\":\"rotated\"\x7d"]

theorem stored_rotateToken :
    (Credentials.loadRecord.perform (sample.run rotateToken).device.store).1 =
        .ok (some ⟨"rotated", 1900, "000000000000", ""⟩) ∧
      (sample.run rotateToken).device.shutdown.loadToken.2.keeper.record =
        some ⟨"rotated", 1900, "000000000000", ""⟩ := by
  have fits : ∀ move ∈ rotateToken, move.TokenFits := by
    intro move member
    simp only [rotateToken, List.mem_cons, List.not_mem_nil, or_false] at member
    rcases member with rfl | rfl | rfl
    · trivial
    · show "abcdefghijklmnop".utf8ByteSize ≤ Backend.greatestValue
      decide
    · intro lifetime token read
      rw [show Refresh.Answer.read _ = .ok (.accepted 900 (some "rotated")) by decide +kernel]
        at read
      cases read
      decide
  have held : (sample.run rotateToken).device.keeper.record =
      some ⟨"rotated", 1900, "000000000000", ""⟩ := by decide +kernel
  have works : Reliable.Works ({} : Memory) := ⟨rfl, rfl⟩
  have accepted : (Reliable.shelf ({} : Memory)).Fits := by
    intro location value found
    cases found
  exact stored_run _ _ _ _ works accepted fits ⟨trivial, trivial, trivial, trivial⟩ _ held

end Activity

end DeviceAuth
