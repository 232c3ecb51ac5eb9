import DeviceAuth.Proofs.Provisioning.Opening
import DeviceAuth.Proofs.Provisioning.Turns
import DeviceAuth.Proofs.Storage.Details

/-! What a session makes of a packet. A packet is accepted exactly if it comes in time, was
sealed under the key of the session, holds details within their bounds, and these can be
stored. Every other packet leaves the store alone, unless it is the store that failed. -/

namespace DeviceAuth

namespace Provisioning

/-! ## Sessions between two calls -/

namespace Progress

variable {σ : Type} {settings : Settings} {now : Span} {before after : Progress} {call : Call σ}

/-- A session that is not in the middle of a packet, and whose time runs since a start. -/
structure Settled (progress : Progress) : Prop where
  stage : progress.stage ≠ .decrypting ∧ progress.stage ≠ .validating
  started : progress.stage.isRunning = true → progress.startedAt ≠ none

theorem Turns.settled (turns : Turns settings now before call after)
    (settled : before.Settled) : after.Settled := by
  cases turns with
  | start => exact ⟨⟨nofun, nofun⟩, nofun⟩
  | connect advertising =>
      exact ⟨⟨nofun, nofun⟩, fun _ => settled.started (by rw [advertising]; rfl)⟩
  | disconnect takes =>
      exact ⟨⟨nofun, nofun⟩, fun _ => settled.started (isRunning_of_takesPackets takes)⟩
  | expire => exact ⟨⟨nofun, nofun⟩, nofun⟩
  | accept => exact ⟨⟨nofun, nofun⟩, nofun⟩
  | reject examined =>
      exact ⟨⟨nofun, nofun⟩, fun _ => settled.started (isRunning_of_examines examined)⟩
  | fail => exact ⟨⟨nofun, nofun⟩, nofun⟩
  | stop => exact ⟨⟨nofun, nofun⟩, nofun⟩
  | _ => exact ⟨settled.stage, settled.started⟩

theorem settled_run {σ : Type} [Backend σ] (settings : Settings) (course : Course σ)
    {sitting : Sitting σ} (settled : sitting.progress.Settled) :
    (sitting.run settings course).progress.Settled := by
  induction course generalizing sitting with
  | nil => exact settled
  | cons timed rest induction =>
      exact induction ((Sitting.step_turns settings timed sitting).settled settled)

end Progress

/-! ## Answers -/

namespace Session

variable {settings : Settings} {now : Span} {octets : Octets} {session : Session}

theorem examine_eq_ok_iff {details : Details} : session.examine octets = .ok details ↔
    ∃ key text, session.key = some key ∧ key.Opens octets text ∧
      Details.ofOctets text = .ok details := by
  simp only [examine, decrypt, validate_eq, Packet.opens_iff]
  cases session.key with
  | none => simp
  | some key =>
      cases Packet.ofOctets octets with
      | error failure => simp
      | ok packet =>
          dsimp only
          cases opened : Packet.opened key packet with
          | error failure => simp [opened]
          | ok text =>
              cases read : Details.ofOctets text with
              | error failure => simp [opened, read, Except.mapError]
              | ok found => simp [opened, read, Except.mapError]

variable {σ : Type} [Backend σ] {store : σ}

theorem handlePacket_accepted_iff :
    (session.handlePacket settings now octets store).1 = .accepted ↔
      session.examines settings now = true ∧ ∃ details, session.examine octets = .ok details ∧
        ((Credentials.saveDetails details).perform store).1 = .ok () := by
  cases examined : session.examines settings now with
  | true =>
      rw [handlePacket_of_examined examined]
      cases found : session.examine octets with
      | error rejection =>
          obtain ⟨stage, refused⟩ := process_of_refused found store
          simp [refused]
      | ok details =>
          rw [process_of_read found]
          rcases performed : (Credentials.saveDetails details).perform store with
            ⟨failure | _, after⟩
          · simp [performed]
          · simp [performed]
  | false =>
      cases due : session.isOverdue settings now with
      | true => simp [handlePacket_of_overdue due]
      | false =>
          cases takes : session.stage.takesPackets with
          | true => simp [examines_eq_true_iff.mpr ⟨takes, due⟩] at examined
          | false =>
              rw [handlePacket_of_unexamined due takes]
              by_cases timedOut : session.stage = .timedOut
              · simp [timedOut]
              · simp [timedOut]

theorem handlePacket_of_accepted {details : Details}
    (examined : session.examines settings now = true)
    (found : session.examine octets = .ok details)
    (saved : ((Credentials.saveDetails details).perform store).1 = .ok ()) :
    (session.handlePacket settings now octets store).2.1.progress = session.progress.succeeded ∧
      (session.handlePacket settings now octets store).2.2 =
        ((Credentials.saveDetails details).perform store).2 := by
  rw [handlePacket_of_examined examined, process_of_read found]
  rcases performed : (Credentials.saveDetails details).perform store with ⟨failure | _, after⟩
  · rw [performed] at saved
    cases saved
  · exact ⟨progress_succeed .validating session, rfl⟩

theorem store_handlePacket
    (refused : (session.handlePacket settings now octets store).1 ≠ .accepted)
    (healthy : (session.handlePacket settings now octets store).1 ≠ .rejected .saveFailed) :
    (session.handlePacket settings now octets store).2.2 = store := by
  cases due : session.isOverdue settings now with
  | true => rw [handlePacket_of_overdue due]
  | false =>
      cases takes : session.stage.takesPackets with
      | false => rw [handlePacket_of_unexamined due takes]
      | true =>
          rw [handlePacket_of_examined (examines_eq_true_iff.mpr ⟨takes, due⟩)] at refused healthy ⊢
          cases found : session.examine octets with
          | error rejection =>
              obtain ⟨stage, left⟩ := process_of_refused found store
              rw [left]
          | ok details =>
              rw [process_of_read found] at refused healthy
              rcases performed : (Credentials.saveDetails details).perform store with
                ⟨failure | _, after⟩
              · rw [performed] at healthy
                exact absurd rfl healthy
              · rw [performed] at refused
                exact absurd rfl refused

theorem takesPackets_iff {stage : Stage} :
    stage.takesPackets = true ↔ stage = .connected ∨ stage = .awaitingPacket := by
  cases stage <;> simp [Stage.takesPackets]

theorem examines_iff_of_started {start : Span} (started : session.startedAt = some start) :
    session.examines settings now = true ↔
      (session.stage = .connected ∨ session.stage = .awaitingPacket) ∧
        now.nanoseconds < start.nanoseconds + settings.provisioningTimeout.nanoseconds := by
  rw [examines_eq_true_iff, ← takesPackets_iff]
  apply and_congr_right
  intro taking
  have running := Progress.isRunning_of_takesPackets taking
  simp [isOverdue, started, running]

end Session

/-! ## Packets -/

/-- A packet delivers these details to a session: it comes in time to a session that waits for
it, opens under the key of the session, and holds details all of which are in their bounds. -/
structure Delivers (settings : Settings) (now : Span) (octets : Octets) (session : Session)
    (details : Details) : Prop where
  waiting : session.stage = .connected ∨ session.stage = .awaitingPacket
  inTime : ∃ start, session.startedAt = some start ∧
    now.nanoseconds < start.nanoseconds + settings.provisioningTimeout.nanoseconds
  opens : ∃ key text, session.key = some key ∧ key.Opens octets text ∧
    (Json.Document.parse? text).bind Details.ofDocument? = some details
  network : details.network.check = .ok ()
  childId : ChildId.check details.childId = .ok ()
  pairingCode : PairingCode.check details.pairingCode = .ok ()
  childAge : ChildAge.check details.childAge = .ok ()

theorem Delivers.check {settings : Settings} {now : Span} {octets : Octets} {session : Session}
    {details : Details} (delivers : Delivers settings now octets session details) :
    details.check = .ok () :=
  details.check_eq_ok_iff.mpr
    ⟨delivers.network, delivers.childId, delivers.pairingCode, delivers.childAge⟩

theorem Delivers.found {settings : Settings} {now : Span} {octets : Octets} {session : Session}
    {details : Details} (delivers : Delivers settings now octets session details) :
    session.examines settings now = true ∧ session.examine octets = .ok details := by
  obtain ⟨start, started, inTime⟩ := delivers.inTime
  obtain ⟨key, text, present, opens, read⟩ := delivers.opens
  constructor
  · exact (Session.examines_iff_of_started started).mpr ⟨delivers.waiting, inTime⟩
  · exact Session.examine_eq_ok_iff.mpr
      ⟨key, text, present, opens, Details.ofOctets_eq_ok_iff.mpr ⟨read, delivers.check⟩⟩

theorem delivers_iff {settings : Settings} {now : Span} {octets : Octets} {session : Session}
    {details : Details} (settled : session.progress.Settled) :
    Delivers settings now octets session details ↔
      session.examines settings now = true ∧ session.examine octets = .ok details := by
  constructor
  · exact Delivers.found
  · rintro ⟨examined, found⟩
    have running : session.stage.isRunning = true := Progress.isRunning_of_examines examined
    obtain ⟨start, started⟩ := Option.ne_none_iff_exists'.mp (settled.started running)
    obtain ⟨waiting, inTime⟩ := (Session.examines_iff_of_started started).mp examined
    obtain ⟨key, text, present, opens, read⟩ := Session.examine_eq_ok_iff.mp found
    obtain ⟨document, checked⟩ := Details.ofOctets_eq_ok_iff.mp read
    obtain ⟨network, childId, pairingCode, childAge⟩ := details.check_eq_ok_iff.mp checked
    exact ⟨waiting, ⟨start, started, inTime⟩, ⟨key, text, present, opens, document⟩, network,
      childId, pairingCode, childAge⟩

theorem accepted_iff_delivers {σ : Type} [Backend σ] {store : σ} {settings : Settings}
    {now : Span} {octets : Octets} {session : Session} (settled : session.progress.Settled) :
    (session.handlePacket settings now octets store).1 = .accepted ↔
      ∃ details, Delivers settings now octets session details ∧
        (Credentials.saveDetails details).NoneFails store := by
  rw [Session.handlePacket_accepted_iff]
  constructor
  · rintro ⟨examined, details, found, saved⟩
    exact ⟨details, (delivers_iff settled).mpr ⟨examined, found⟩,
      (Credentials.forwards_saveDetails details store).mp ⟨(), saved⟩⟩
  · rintro ⟨details, delivers, succeeds⟩
    obtain ⟨examined, found⟩ := delivers.found
    obtain ⟨_, saved⟩ := (Credentials.forwards_saveDetails details store).mpr succeeds
    exact ⟨examined, details, found, saved⟩

theorem Delivers.of_accepted {σ : Type} [Backend σ] {store : σ} {settings : Settings}
    {now : Span} {octets : Octets} {session : Session} {details : Details}
    (delivers : Delivers settings now octets session details)
    (accepted : (session.handlePacket settings now octets store).1 = .accepted) :
    (session.handlePacket settings now octets store).2.1.progress = session.progress.succeeded ∧
      (session.handlePacket settings now octets store).2.2 =
        ((Credentials.saveDetails details).perform store).2 ∧
      (Credentials.saveDetails details).NoneFails store := by
  obtain ⟨examined, found⟩ := delivers.found
  obtain ⟨_, other, read, saved⟩ := Session.handlePacket_accepted_iff.mp accepted
  obtain rfl : other = details := Except.ok.inj (read.symm.trans found)
  obtain ⟨progress, left⟩ := Session.handlePacket_of_accepted examined found saved
  exact ⟨progress, left, (Credentials.forwards_saveDetails other store).mp ⟨(), saved⟩⟩

theorem Delivers.accepted {σ : Type} [Backend σ] [Honest σ] {store : σ} {settings : Settings}
    {now : Span} {octets : Octets} {session : Session} {details : Details}
    (delivers : Delivers settings now octets session details) (canRead : Honest.CanRead store)
    (canWrite : Honest.CanWrite store) :
    (session.handlePacket settings now octets store).1 = .accepted ∧
      Credentials.Loads details (session.handlePacket settings now octets store).2.2 := by
  obtain ⟨examined, found⟩ := delivers.found
  have succeeds := Credentials.noneFails_saveDetails delivers.check canRead canWrite
  obtain ⟨_, saved⟩ := (Credentials.forwards_saveDetails details store).mpr succeeds
  have loads := Credentials.loads_saveDetails delivers.check succeeds canRead
  constructor
  · exact Session.handlePacket_accepted_iff.mpr ⟨examined, details, found, saved⟩
  · rw [(Session.handlePacket_of_accepted examined found saved).2]
    exact loads

namespace Sitting

open Credentials (saveDetails detailsCells Loads)

variable {σ : Type} [Backend σ] [Honest σ]

/-- What becomes of a packet that is handed to a session. -/
structure FailsClosed (settings : Settings) (now : Span) (octets : Octets)
    (before : Sitting σ) (reply : Reply) (after : Sitting σ) : Prop where
  accepted_iff : reply = .accepted ↔
    ∃ details, Delivers settings now octets before.session details ∧
      (saveDetails details).NoneFails before.store
  stored : ∀ details, reply = .accepted →
    Delivers settings now octets before.session details →
      Honest.CanRead before.store → Loads details after.store
  kept : reply = .accepted → ∀ location, (∀ cell ∈ detailsCells, location ≠ cell.location) →
    (Honest.shelf after.store).look location = (Honest.shelf before.store).look location
  ended : reply = .accepted → after.session.stage = .succeeded ∧ after.session.key = none
  untouched : reply ≠ .accepted → reply ≠ .rejected .saveFailed → after.store = before.store
  settledBefore : before.session.stage ≠ .decrypting ∧ before.session.stage ≠ .validating
  settledAfter : after.session.stage ≠ .decrypting ∧ after.session.stage ≠ .validating

/-- Provisioning fails closed, whatever calls were made before. -/
theorem failsClosed_run (settings : Settings) (store : σ) (course : Course σ) (now : Span)
    (octets : Octets) :
    let before := Sitting.run settings course ⟨{}, store⟩
    let handled := before.session.handlePacket settings now octets before.store
    FailsClosed settings now octets before handled.1 ⟨handled.2.1, handled.2.2⟩ := by
  intro before handled
  have first : Progress.Settled (⟨{}, store⟩ : Sitting σ).progress :=
    ⟨⟨nofun, nofun⟩, nofun⟩
  have settled : before.progress.Settled := Progress.settled_run settings course first
  have later : handled.2.1.progress.Settled :=
    (step_turns settings ⟨now, .packet octets⟩ before).settled settled
  have accepted_iff : handled.1 = .accepted ↔
      ∃ details, Delivers settings now octets before.session details ∧
        (saveDetails details).NoneFails before.store := accepted_iff_delivers settled
  constructor
  case accepted_iff => exact accepted_iff
  case stored =>
    intro details accepted delivers canRead
    obtain ⟨_, left, succeeds⟩ := delivers.of_accepted accepted
    show Loads details handled.2.2
    rw [left]
    exact Credentials.loads_saveDetails delivers.check succeeds canRead
  case kept =>
    intro accepted location other
    obtain ⟨details, delivers, _⟩ := accepted_iff.mp accepted
    obtain ⟨_, left, succeeds⟩ := delivers.of_accepted accepted
    show (Honest.shelf handled.2.2).look location = _
    rw [left, Credentials.shelf_saveDetails delivers.check succeeds]
    exact Credentials.look_putDetails_other details _ other
  case ended =>
    intro accepted
    obtain ⟨details, delivers, _⟩ := accepted_iff.mp accepted
    obtain ⟨progress, _, _⟩ := delivers.of_accepted accepted
    exact ⟨congrArg Progress.stage progress, congrArg Progress.key progress⟩
  case untouched => exact Session.store_handlePacket
  case settledBefore => exact settled.stage
  case settledAfter => exact later.stage

def exampleText : Octets := Octets.ofText
  ("\x7b\"ssid\":\"HomeNetwork\",\"password\":\"hunter22\"," ++
    "\"child_id\":\"123e4567-e89b-12d3-a456-426614174000\"," ++
    "\"pairing_code\":\"TEDDY-1234\",\"child_age\":6\x7d")

def exampleDetails : Details where
  network := ⟨"HomeNetwork", "hunter22"⟩
  childId := "123e4567-e89b-12d3-a456-426614174000"
  pairingCode := "TEDDY-1234"
  childAge := 6

def exampleSitting (key : PopKey) : Sitting Memory :=
  Sitting.run {} [⟨.zero, .start⟩, ⟨.zero, .connect⟩, ⟨.zero, .setKey key⟩] ⟨{}, {}⟩

theorem failsClosed_example :
    let key : PopKey := ⟨List.replicate 32 7, rfl⟩
    let before := exampleSitting key
    ∃ octets, Packet.sealed key (List.replicate 12 0) exampleText = .ok octets ∧
      let handled := before.session.handlePacket {} .zero octets before.store
      handled.1 = .accepted ∧ Loads exampleDetails handled.2.2 := by
  intro key before
  obtain ⟨octets, made⟩ : ∃ octets,
      Packet.sealed key (List.replicate 12 0) exampleText = .ok octets :=
    ⟨_, Packet.sealed_eq_ok_iff.mpr ⟨by decide +kernel, rfl⟩⟩
  have opens : key.Opens octets exampleText := Packet.opens_sealed rfl made
  have delivers : Delivers {} .zero octets before.session exampleDetails := {
    waiting := .inl rfl
    inTime := ⟨.zero, rfl, by decide +kernel⟩
    opens := ⟨key, exampleText, rfl, opens, by decide +kernel⟩
    network := by decide +kernel
    childId := by decide +kernel
    pairingCode := by decide +kernel
    childAge := by decide +kernel }
  have closed := @failsClosed_run Memory _ _ {} {}
    [⟨.zero, .start⟩, ⟨.zero, .connect⟩, ⟨.zero, .setKey key⟩] .zero octets
  have succeeds : (saveDetails exampleDetails).NoneFails before.store :=
    Credentials.noneFails_saveDetails delivers.check rfl rfl
  have accepted := closed.accepted_iff.mpr ⟨exampleDetails, delivers, succeeds⟩
  exact ⟨octets, made, accepted, closed.stored exampleDetails accepted delivers rfl⟩

end Sitting

end Provisioning

end DeviceAuth
