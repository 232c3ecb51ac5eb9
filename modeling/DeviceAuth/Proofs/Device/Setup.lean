import DeviceAuth.Device.Setup
import DeviceAuth.Proofs.Claimants.Pieces
import DeviceAuth.Proofs.Device.Claim
import DeviceAuth.Proofs.Provisioning.Packets
import DeviceAuth.Proofs.Storage.Contracts

/-! The pairing code of a device that is set up. Three writers store it: provisioning and a
claim, which check it first, and whoever keeps a grant of the server, who does not. So a code
that is found in the store can be used unless the server has granted it. -/

namespace DeviceAuth

/-! ## A contract about the pairing code -/

namespace Contract

/-- A pairing code that is stored is a good one. Whatever else happens is tolerated. -/
def pairs (good : String → Prop) : Contract where
  fits cell octets := cell = .pairingCode → ∀ code, Octets.toText? octets = some code → good code
  tolerates _ := True

variable {good : String → Prop}

theorem serves_pairs : (pairs good).Serves :=
  ⟨fun _ _ _ => .inr trivial, fun _ _ => nofun, fun _ _ => nofun⟩

theorem bounds_pairs {σ : Type} [Backend σ] [Honest σ] : (pairs good).Bounds σ := by
  have answers : ∀ {α : Type} (answer : Except StoreFailure α),
      (pairs good).Answers (fun _ => True) answer := by
    intro α answer
    cases answer with
    | ok value => trivial
    | error failure => trivial
  exact ⟨fun _ _ _ => answers _, fun _ _ _ => answers _, fun _ _ => answers _,
    fun _ _ => answers _⟩

theorem takes_pairs {code : String} (fine : good code) :
    (pairs good).Takes .pairingCode (Octets.ofText code) := by
  rintro _ _ other read
  rw [Octets.toText?_ofText] at read
  exact Option.some.inj read ▸ fine

end Contract

namespace Credentials.Operation

variable {good : String → Prop}

theorem fits_pairs (operation : Operation)
    (apart : ∀ write ∈ operation.writes, write.cell ≠ .pairingCode) :
    operation.Fits (.pairs good) :=
  fun write member _ _ _ same => absurd same (apart write member)

theorem fits_savePairingCode {code : String} (fine : good code) :
    (savePairingCode code).Fits (.pairs good) := by
  intro write member
  obtain rfl := List.mem_singleton.mp member
  rintro _ ⟨⟩
  exact Contract.takes_pairs fine

theorem fits_saveDetails {details : Details} (fine : good details.pairingCode) :
    (saveDetails details).Fits (.pairs good) := by
  intro write member
  simp only [writes, List.mem_cons, List.not_mem_nil, or_false] at member
  rcases member with rfl | rfl | rfl | rfl
  · exact fun _ _ _ => nofun
  · rintro _ ⟨⟩
    exact Contract.takes_pairs fine
  · exact fun _ _ _ => nofun
  · exact fun _ _ _ => nofun

end Credentials.Operation

/-! ## What is kept of a packet and of a grant -/

theorem Provisioning.Session.stored_handlePacket {σ : Type} [Backend σ] (settings : Settings)
    (now : Span) (octets : Octets) (session : Session) (store : σ) :
    (session.handlePacket settings now octets store).2.2 = store ∨
      ∃ details : Details, details.check = .ok () ∧
        (session.handlePacket settings now octets store).2.2 =
          ((Credentials.saveDetails details).perform store).2 := by
  cases examined : session.examines settings now with
  | false =>
      cases overdue : session.isOverdue settings now with
      | true =>
          rw [handlePacket_of_overdue overdue]
          exact .inl rfl
      | false =>
          cases takes : session.stage.takesPackets with
          | true =>
              rw [examines_eq_true_iff.mpr ⟨takes, overdue⟩] at examined
              cases examined
          | false =>
              rw [handlePacket_of_unexamined overdue takes]
              exact .inl rfl
  | true =>
      rw [handlePacket_of_examined examined]
      cases found : session.examine octets with
      | error rejection =>
          obtain ⟨stage, refused⟩ := process_of_refused found store
          rw [refused]
          exact .inl rfl
      | ok details =>
          obtain ⟨_, _, _, _, read⟩ := examine_eq_ok_iff.mp found
          refine .inr ⟨details, (Details.ofOctets_eq_ok_iff.mp read).2, ?_⟩
          rw [process_of_read found]
          rcases (Credentials.saveDetails details).perform store with ⟨_ | _, after⟩
          · rfl
          · rfl

namespace Claim.Grant

open Credentials (Operation)

variable {good : String → Prop}

theorem keeps_performAll {actions : List (Action Unit)}
    (keeps : ∀ action ∈ actions, action.Keeps (.pairs good) fun _ => True) :
    (performAll actions).Keeps (.pairs good) fun _ => True := by
  induction actions with
  | nil => trivial
  | cons action rest induction =>
      apply Program.Keeps.bind (keeps action (.head rest))
      intro first _
      apply Program.Keeps.bind (induction fun other member => keeps other (.tail action member))
      intro others _
      cases first with
      | ok => trivial
      | error failure => trivial

theorem keeps_artifacts (settings : Settings) {grant : Grant}
    (fine : ∀ code, grant.pairingCode = some code → good code) :
    ∀ action ∈ grant.artifacts settings, action.Keeps (.pairs good) fun _ => True := by
  have keeps : ∀ operation : Operation, operation.Fits (.pairs good) →
      operation.call.Keeps (.pairs good) fun _ => True :=
    fun _ fits => Operation.keeps_call Contract.serves_pairs fits
  intro action member
  simp only [artifacts, List.mem_cons, List.mem_append, Option.mem_toList,
    Option.map_eq_some_iff] at member
  rcases member with rfl | (⟨code, given, rfl⟩ | ⟨payload, _, rfl⟩) | ⟨config, _, rfl⟩
  · exact keeps _ (Operation.fits_pairs (.saveTokens _ _) (by simp [Operation.writes]))
  · exact keeps _ (Operation.fits_savePairingCode (fine code given))
  · exact keeps _ (Operation.fits_pairs (.savePayload payload) (by simp [Operation.writes]))
  · exact keeps _ (Operation.fits_pairs (.saveDeviceConfig _) (by simp [Operation.writes]))

end Claim.Grant

/-! ## Devices with a good code -/

namespace Device

open Credentials (Operation)
open Contract (pairs serves_pairs bounds_pairs)

section Steps

variable {σ : Type} [Backend σ] [Honest σ] {good : String → Prop} {device after : Device σ}

def HasGoodCode (good : String → Prop) (device : Device σ) : Prop :=
  (pairs good).Held (Honest.shelf device.store)

theorem HasGoodCode.of_store (has : device.HasGoodCode good) (store : after.store = device.store) :
    after.HasGoodCode good := by
  unfold HasGoodCode
  rw [store]
  exact has

theorem HasGoodCode.of_run {α : Type} (has : device.HasGoodCode good) {program : Program α}
    {fine : α → Prop} (keeps : program.Keeps (pairs good) fine)
    (store : after.store = (program.run device.store).2) : after.HasGoodCode good := by
  unfold HasGoodCode
  rw [store]
  exact (Honest.keeps_run bounds_pairs keeps has).2

theorem HasGoodCode.of_call (has : device.HasGoodCode good) {operation : Operation}
    (fits : operation.Fits (pairs good))
    (store : after.store = (operation.call.perform device.store).2) : after.HasGoodCode good :=
  has.of_run (Operation.keeps_call serves_pairs fits) store

/-! ### Provisioning -/

theorem HasGoodCode.sit (has : device.HasGoodCode good)
    (checked : ∀ code, PairingCode.check code = .ok () → good code)
    (call : Provisioning.Call Empty) : (device.sit call).HasGoodCode good := by
  cases call with
  | packet octets =>
      rcases device.session.stored_handlePacket device.settings device.elapsed octets
        device.store with same | ⟨details, ok, saved⟩
      · exact has.of_store same
      · have fine := checked _ (details.check_eq_ok_iff.mp ok).2.2.1
        exact has.of_call (Operation.fits_saveDetails fine) saved
  | elsewhere store => cases store
  | _ => exact has.of_store rfl

/-! ### Claiming -/

omit [Backend σ] [Honest σ] in
theorem store_thenSchedule (answer : Except Failure Bool × Device σ) :
    (thenSchedule answer).2.store = answer.2.store := by
  rcases answer with ⟨failure | _ | _, device⟩
  · rfl
  · rfl
  · unfold thenSchedule
    dsimp only
    split
    next scheduled => exact congrArg (fun answer => answer.2.store) scheduled.symm
    next scheduled => exact congrArg (fun answer => answer.2.store) scheduled.symm

theorem HasGoodCode.loadToken (has : device.HasGoodCode good) :
    device.loadToken.2.HasGoodCode good := by
  have taken : device.takeStored.2.HasGoodCode good := by
    by_cases uninitialized : device.keeper.phase = .uninitialized
    · apply has.of_call (Operation.fits_pairs .loadRecord nofun)
      rw [takeStored, if_neg (not_not_intro uninitialized)]
      dsimp only [perform]
      split
      next read => exact congrArg (fun answer => answer.2.store) read.symm
      next read => exact congrArg (fun answer => answer.2.store) read.symm
    · rw [takeStored_of_initialized uninitialized]
      exact has
  exact taken.of_store (store_thenSchedule _)

theorem HasGoodCode.openClaim (has : device.HasGoodCode good) {code : String}
    (fine : good code) : (device.openClaim code).2.HasGoodCode good := by
  have saved : (device.perform (Credentials.savePairingCode code)).2.HasGoodCode good :=
    has.of_call (Operation.fits_savePairingCode fine) rfl
  have loaded : ((device.perform (Credentials.savePairingCode code)).2.perform
      Credentials.loadChildId).2.HasGoodCode good :=
    saved.of_call (Operation.fits_pairs .loadChildId nofun) rfl
  unfold Device.openClaim
  dsimp only
  split
  all_goals
    next performed =>
      rw [performed] at loaded
      exact loaded

theorem HasGoodCode.prepareRequest (has : device.HasGoodCode good) (childId : String) :
    (device.prepareRequest childId).2.HasGoodCode good :=
  has.of_run (Credentials.keeps_loadIdentity serves_pairs device.address)
    (store_prepareRequest childId device)

theorem HasGoodCode.awaitReplies (has : device.HasGoodCode good) (replies : List Claim.Reply)
    (effort : Claim.Effort) :
    (device.awaitReplies replies effort).2.HasGoodCode good ∧
      ∀ grant, (device.awaitReplies replies effort).1 = some (.ok grant) →
        ∃ reply ∈ replies, reply.outcome.grant = .ok grant := by
  induction replies generalizing device effort with
  | nil =>
      refine ⟨has, ?_⟩
      rintro _ ⟨⟩
  | cons reply rest induction =>
      have judged : ({ device with now := reply.now }.judge reply.outcome.grant effort).2.2.HasGoodCode
          good := has.of_store rfl
      unfold Device.awaitReplies
      split
      next result _ _ verdict =>
        rw [verdict] at judged
        refine ⟨judged, ?_⟩
        rintro grant ⟨⟩
        exact ⟨reply, .head rest, judge_finish_ok verdict⟩
      next effort _ verdict =>
        rw [verdict] at judged
        have prepared := judged.prepareRequest effort.childId
        split
        next posted =>
          rw [posted] at prepared
          refine ⟨prepared, ?_⟩
          rintro _ ⟨⟩
        next posted =>
          rw [posted] at prepared
          obtain ⟨kept, granted⟩ := induction prepared effort
          refine ⟨kept, fun grant ended => ?_⟩
          obtain ⟨reply, member, means⟩ := granted grant ended
          exact ⟨reply, .tail _ member, means⟩

theorem HasGoodCode.attemptClaim (has : device.HasGoodCode good) (replies : List Claim.Reply)
    (effort : Claim.Effort) :
    (device.attemptClaim replies effort).2.HasGoodCode good ∧
      ∀ grant, (device.attemptClaim replies effort).1 = some (.ok grant) →
        ∃ reply ∈ replies, reply.outcome.grant = .ok grant := by
  have prepared := has.prepareRequest effort.childId
  unfold Device.attemptClaim
  split
  next posted =>
    rw [posted] at prepared
    exact ⟨prepared, nofun⟩
  next posted =>
    rw [posted] at prepared
    exact prepared.awaitReplies replies effort

theorem keeps_tokenIds (address : Address) :
    (tokenIds address).Keeps (pairs good) fun _ => True := by
  apply Program.Keeps.bind (Credentials.keeps_loadDeviceId serves_pairs address)
  intro deviceId _
  apply Program.Keeps.bind (Operation.keeps_call serves_pairs
    (Operation.fits_pairs .loadChildId nofun))
  intro childId _
  trivial

theorem HasGoodCode.storeToken (has : device.HasGoodCode good) (token : String)
    (lifetime : UInt32) : (device.storeToken token lifetime).2.HasGoodCode good := by
  have named : (device.run (tokenIds device.address)).2.HasGoodCode good :=
    has.of_run (keeps_tokenIds device.address) rfl
  have held : (device.holdToken token lifetime).2.HasGoodCode good := by
    unfold holdToken
    split
    next => exact has
    next =>
      split
      next after looked =>
        rw [looked] at named
        split
        next => exact named
        next =>
          have saved : ∀ record, (after.perform (Credentials.saveRecord record)).2.HasGoodCode
              good := fun record =>
            named.of_call (Operation.fits_pairs (.saveRecord record) (by simp [Operation.writes]))
              rfl
          exact (saved _).of_store rfl
  unfold Device.storeToken
  split
  next failed =>
    rw [failed] at held
    exact held
  next after stored =>
    rw [stored] at held
    have arranged : after.schedule.2.HasGoodCode good := held.of_store rfl
    split
    all_goals
      next scheduled =>
        rw [scheduled] at arranged
        exact arranged

theorem HasGoodCode.closeClaim (has : device.HasGoodCode good)
    {result : Except Abort Claim.Grant}
    (granted : ∀ grant, result = .ok grant → ∀ code, grant.pairingCode = some code → good code) :
    (device.closeClaim result).2.HasGoodCode good := by
  cases result with
  | error abort => exact has.of_store (closeClaim_error abort device).2
  | ok grant =>
      have kept : (device.keepGrant grant).2.HasGoodCode good :=
        has.of_run (Claim.Grant.keeps_performAll
          (Claim.Grant.keeps_artifacts device.settings (granted grant rfl))) rfl
      have stored := kept.storeToken grant.accessToken grant.lifetime
      show (device.holdGrant grant).2.HasGoodCode good
      unfold Device.holdGrant
      dsimp only
      split
      next failed =>
        rw [failed] at stored
        exact stored
      next held =>
        rw [held] at stored
        exact stored.of_store rfl

omit [Backend σ] [Honest σ] in
theorem check_of_admitClaim {code : String} (admitted : device.admitClaim code = .ok ()) :
    PairingCode.check code = .ok () := by
  unfold admitClaim at admitted
  split at admitted
  next => cases admitted
  next =>
    split at admitted
    next checked => exact checked
    next => cases admitted

theorem HasGoodCode.authenticate (has : device.HasGoodCode good)
    (checked : ∀ code, PairingCode.check code = .ok () → good code)
    {replies : List Claim.Reply}
    (granted : ∀ reply ∈ replies, ∀ grant, reply.outcome.grant = .ok grant →
      ∀ code, grant.pairingCode = some code → good code) (code : String) :
    (device.authenticate code replies).2.HasGoodCode good := by
  unfold Device.authenticate
  split
  next => exact has
  next admitted =>
    have opened := has.openClaim (checked code (check_of_admitClaim admitted))
    unfold claimInTurn
    split
    next begun =>
      rw [begun] at opened
      exact opened
    next effort middle begun =>
      rw [begun] at opened
      obtain ⟨attempted, ends⟩ := opened.attemptClaim replies effort
      unfold closeAttempts
      split
      next waits =>
        rw [waits] at attempted
        exact attempted
      next result last ended =>
        rw [ended] at attempted ends
        apply attempted.closeClaim
        rintro grant rfl
        obtain ⟨reply, member, means⟩ := ends grant rfl
        exact granted reply member grant means

end Steps

/-! ## Failures that are about a field -/

section Failures

variable {σ : Type} [Backend σ] {device : Device σ}

theorem storeToken_error {token : String} {lifetime : UInt32} {abort : Abort}
    (failed : (device.storeToken token lifetime).1 = .error abort) :
    ∃ message, abort = Failure.state message := by
  cases given : token.isEmpty with
  | true =>
      simp only [storeToken, holdToken, given, if_true] at failed
      exact ⟨_, (Except.error.inj failed).symm⟩
  | false =>
      by_cases uninitialized : device.keeper.phase = .uninitialized
      · simp only [storeToken, holdToken, given, Bool.false_eq_true, if_false, run,
          uninitialized, if_true] at failed
        exact ⟨_, (Except.error.inj failed).symm⟩
      · obtain ⟨schedule, stored⟩ := storeToken_ok given lifetime uninitialized
        rw [stored] at failed
        cases failed

theorem closeClaim_field {result : Except Abort Claim.Grant} {failure : FieldFailure}
    (failed : (device.closeClaim result).1 = .error (Failure.field failure)) :
    result = .error (Failure.field failure) := by
  cases result with
  | error given =>
      rw [(closeClaim_error given device).1] at failed
      exact congrArg Except.error (Except.error.inj failed)
  | ok grant =>
      replace failed : (device.holdGrant grant).1 = .error (Failure.field failure) := failed
      unfold holdGrant at failed
      dsimp only at failed
      split at failed
      next given _ stored =>
        obtain ⟨message, same⟩ := storeToken_error (congrArg Prod.fst stored)
        rw [same] at failed
        cases failed
      next => cases failed

theorem check_of_authenticate {code : String} {replies : List Claim.Reply}
    {failure : FieldFailure}
    (failed : (device.authenticate code replies).1 = some (.error (Failure.field failure))) :
    PairingCode.check code = .error failure := by
  have noField : ∀ {abort : Abort}, EndsClaim abort → abort ≠ Failure.field failure := by
    rintro _ ends rfl
    cases ends
  unfold authenticate at failed
  split at failed
  next refused =>
    rw [Abort.failure.inj (Except.error.inj (Option.some.inj failed))] at refused
    unfold admitClaim at refused
    split at refused
    next => cases refused
    next =>
      split at refused
      next => cases refused
      next checked =>
        rw [checked, Failure.field.inj (Except.error.inj refused)]
  next =>
    unfold claimInTurn at failed
    split at failed
    next opened =>
      exact absurd (Except.error.inj (Option.some.inj failed)) (noField (openClaim_error opened))
    next effort middle _ =>
      unfold closeAttempts at failed
      split at failed
      next => cases failed
      next result last attempted =>
        obtain rfl := closeClaim_field (Option.some.inj failed)
        have ended : (middle.attemptClaim replies effort).1 =
            some (.error (Failure.field failure)) := by
          rw [attempted]
        exact absurd rfl (noField (attemptClaim_error ended))

end Failures

end Device

/-! ## Setting up a device -/

namespace Setup

def Move.Grants (code : String) : Move → Prop
  | .authenticate _ replies => ∃ reply ∈ replies, ∃ grant,
      reply.outcome.grant = .ok grant ∧ grant.pairingCode = some code
  | _ => False

variable {σ : Type} [Backend σ] {device : Device σ}

/-- The pairing code that is loaded can be used, unless it was granted and does not pass the
check: it passes the check, and no claim that is made with it fails for a field. -/
structure CanPair (granted : String → Prop) (device : Device σ) : Prop where
  checked : ∀ code, (Credentials.loadPairingCode.perform device.store).1 = .ok (some code) →
    (granted code → PairingCode.check code = .ok ()) → PairingCode.check code = .ok ()
  claims : ∀ code, (Credentials.loadPairingCode.perform device.store).1 = .ok (some code) →
    (granted code → PairingCode.check code = .ok ()) → ∀ replies failure,
      (device.authenticate code replies).1 ≠ some (.error (Failure.field failure))

variable [Honest σ] {good : String → Prop}

theorem hasGoodCode_step (has : device.HasGoodCode good)
    (checked : ∀ code, PairingCode.check code = .ok () → good code) (move : Move)
    (granted : ∀ code, move.Grants code → good code) :
    (device.setUpStep move).HasGoodCode good := by
  cases move with
  | switchOn settings address now random => exact has.of_store rfl
  | passTime elapsed now => exact has.of_store rfl
  | loadToken => exact has.loadToken
  | sit call => exact has.sit checked call
  | authenticate code replies =>
      exact has.authenticate checked
        (fun reply member grant means code given =>
          granted code ⟨reply, member, grant, means, given⟩) code

theorem hasGoodCode_setUp (has : device.HasGoodCode good)
    (checked : ∀ code, PairingCode.check code = .ok () → good code) (moves : List Move)
    (granted : ∀ move ∈ moves, ∀ code, move.Grants code → good code) :
    (device.setUp moves).HasGoodCode good := by
  induction moves generalizing device with
  | nil => exact has
  | cons move rest induction =>
      exact induction (hasGoodCode_step has checked move (granted move (.head rest)))
        fun other member => granted other (.tail move member)

theorem good_of_loadPairingCode (has : device.HasGoodCode good) {code : String}
    (loaded : (Credentials.loadPairingCode.perform device.store).1 = .ok (some code)) :
    good code := by
  have keeps : Credentials.loadPairingCode.Keeps (.pairs good) _ :=
    Cell.keeps_readAs (Contract.serves_pairs.reads .pairingCode)
  have found := (Honest.keeps_run Contract.bounds_pairs keeps has).1
  have performed : (Credentials.loadPairingCode.run.run device.store).1 = .ok (some code) := loaded
  rw [performed] at found
  obtain ⟨octets, fits, decoded⟩ := found code rfl
  exact fits rfl code decoded

/-- Whatever happens to a device that had nothing stored, its pairing code can be used
whenever it is loaded, unless the server has granted one that does not pass the check. -/
theorem canPair_setUp (settings : Settings) (address : Address) (now : UInt32)
    (random : Octets) (store : σ) (empty : ∀ location, (Honest.shelf store).look location = none)
    (moves : List Move) :
    CanPair (fun code => ∃ move ∈ moves, move.Grants code)
      ((Device.create settings address now random store).setUp moves) := by
  have start : (Device.create settings address now random store).HasGoodCode fun code =>
      PairingCode.check code = .ok () ∨ ∃ move ∈ moves, move.Grants code :=
    Contract.held_of_empty empty
  have has := hasGoodCode_setUp start (fun _ => .inl) moves
    fun move member code grants => .inr ⟨move, member, grants⟩
  constructor
  case checked =>
    intro code loaded pass
    exact (good_of_loadPairingCode has loaded).elim id pass
  case claims =>
    intro code loaded pass replies failure failed
    have refused := Device.check_of_authenticate failed
    rw [(good_of_loadPairingCode has loaded).elim id pass] at refused
    cases refused

/-! ## A code that was granted -/

open Provisioning.Sitting (exampleText exampleDetails)

def exampleKey : PopKey := ⟨List.replicate 32 7, rfl⟩

def examplePacket : Octets :=
  (Packet.sealed exampleKey (List.replicate 12 0) exampleText).toOption.getD []

def exampleAddress : Address := ⟨[0x02, 0x03, 0x04, 0x05, 0x06, 0x07], rfl⟩

def exampleGrant : Claim.Reply :=
  ⟨.ok ⟨200, Octets.ofText ("\x7b\"access_token\":\"access\",\"refresh_token\":\"refresh\"," ++
    "\"expires_in\":3600,\"pairing_code\":\"bad code\"\x7d")⟩, 1000⟩

def exampleMoves (packet : Octets) : List Move :=
  [.sit (.setKey exampleKey), .sit .start, .sit .connect, .sit (.packet packet),
    .switchOn {} exampleAddress 1000 [], .loadToken, .authenticate "TEDDY-1234" [exampleGrant]]

def exampleDevice : Device Memory := Device.create {} exampleAddress 1000 [] {}

theorem canPair_example :
    (∀ location, (Honest.shelf ({} : Memory)).look location = none) ∧
      CanPair (fun code => ∃ move ∈ exampleMoves examplePacket, move.Grants code)
        (exampleDevice.setUp (exampleMoves examplePacket)) := by
  have empty : ∀ location, (Honest.shelf ({} : Memory)).look location = none := fun _ => rfl
  have pairs := canPair_setUp {} exampleAddress 1000 [] ({} : Memory) empty
    (exampleMoves examplePacket)
  exact ⟨empty, pairs⟩

theorem opens_examplePacket : exampleKey.Opens examplePacket exampleText := by
  obtain ⟨octets, made⟩ : ∃ octets,
      Packet.sealed exampleKey (List.replicate 12 0) exampleText = .ok octets :=
    ⟨_, Packet.sealed_eq_ok_iff.mpr ⟨by decide +kernel, rfl⟩⟩
  rw [examplePacket, made]
  exact Packet.opens_sealed rfl made

theorem setUp_exampleMoves {packet : Octets} (opens : exampleKey.Opens packet exampleText) :
    exampleDevice.setUp (exampleMoves packet) =
      (Device.create {} exampleAddress 1000 []
        ((Credentials.saveDetails exampleDetails).perform ({} : Memory)).2).setUp
          [.loadToken, .authenticate "TEDDY-1234" [exampleGrant]] := by
  let waiting := ((exampleDevice.sit (.setKey exampleKey)).sit .start).sit .connect
  have examined : waiting.session.examines {} .zero = true :=
    Provisioning.Session.examines_eq_true_iff.mpr ⟨rfl, by decide +kernel⟩
  have found : waiting.session.examine packet = .ok exampleDetails :=
    Provisioning.Session.examine_eq_ok_iff.mpr ⟨exampleKey, exampleText, rfl, opens,
      Details.ofOctets_eq_ok_iff.mpr ⟨by decide +kernel, by decide +kernel⟩⟩
  have stored : (waiting.session.handlePacket {} .zero packet ({} : Memory)).2.2 =
      ((Credentials.saveDetails exampleDetails).perform ({} : Memory)).2 := by
    rw [Provisioning.Session.handlePacket_of_examined examined,
      Provisioning.Session.process_of_read found]
    rcases (Credentials.saveDetails exampleDetails).perform ({} : Memory) with ⟨_ | _, after⟩
    · rfl
    · rfl
  rw [← stored]
  rfl

/-- The code of the grant takes the place of the one that was provisioned, and no claim can
be made with it. -/
theorem not_canPair_grantedCode :
    let device := exampleDevice.setUp (exampleMoves examplePacket)
    (Credentials.loadPairingCode.perform device.store).1 = .ok (some "bad code") ∧
      PairingCode.check "bad code" = .error (.pairingCode "invalid characters") ∧
        (device.authenticate "bad code" []).1 =
          some (.error (Failure.field (.pairingCode "invalid characters"))) := by
  rw [setUp_exampleMoves opens_examplePacket]
  decide +kernel

end Setup

end DeviceAuth
