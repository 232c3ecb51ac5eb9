import DeviceAuth.Bench.State

/-! Calls on the bench. A call runs until it has to wait for something, and goes on
when what it waits for has come. What comes at once is not waited for. -/

namespace DeviceAuth

namespace Bench

inductive Call where
  | claimOnce (childId : String)
  | claim (childId : String)
  | authenticate (code : String)
  | refresh

def awaitFor (delay : Span) (id : Nat) (waiting : Waiting) (goOn : Bench → Bench)
    (bench : Bench) : Bench :=
  match bench.sleepFor? delay (.call id) with
  | some asleep => asleep.await id waiting
  | none => goOn bench

/-! ## Claims -/

def endEffort (id : Nat) (purpose : Purpose) (result : Except Abort Claim.Grant)
    (bench : Bench) : Bench :=
  match purpose with
  | .grant => bench.finish id (.granted result)
  | .authentication =>
      let (result, bench) := bench.keep (bench.device.closeClaim result)
      bench.finish id (.ended result)

def takeOutcome (again : Claim.Effort → Bench → Bench) (id : Nat) (purpose : Purpose)
    (outcome : Claim.Outcome) (effort : Claim.Effort) (bench : Bench) : Bench :=
  let (verdict, effort, device) := bench.device.judge outcome.grant effort
  let judged := { bench with device := device }
  match verdict with
  | .finish result => judged.endEffort id purpose result
  | .rest delay => judged.awaitFor delay id (.rest purpose effort) (again effort)

def send (again : Claim.Effort → Bench → Bench) (id : Nat) (purpose : Purpose)
    (request : Claim.Request) (effort : Claim.Effort) (bench : Bench) : Bench :=
  let (reply, outcomes) := nextLine lastOutcome bench.outcomes
  let sent := { bench with
    outcomes := outcomes
    requests := bench.requests ++ [(bench.device.settings.claimUrl, request.text)] }
  sent.awaitFor (Span.ofMilliseconds reply.delay) id (.outcome purpose effort reply.content)
    (takeOutcome again id purpose reply.content effort)

def post (again : Claim.Effort → Bench → Bench) (id : Nat) (purpose : Purpose)
    (effort : Claim.Effort) (bench : Bench) : Bench :=
  let (result, device) := bench.device.prepareRequest effort.childId
  let prepared := { bench with device := device }
  match result with
  | .error failure => prepared.endEffort id purpose (.error failure)
  | .ok request => prepared.send again id purpose request effort

def attempt (id : Nat) (purpose : Purpose) : Nat → Claim.Effort → Bench → Bench
  | 0, _, bench => bench
  | attempts + 1, effort, bench => bench.post (attempt id purpose attempts) id purpose effort

def attemptAll (id : Nat) (purpose : Purpose) (effort : Claim.Effort) (bench : Bench) : Bench :=
  bench.attempt id purpose (effort.retriesLeft + 1) effort

def takeTurn (id : Nat) (code : String) (bench : Bench) : Bench :=
  let (result, device) := bench.device.openClaim code
  let opened := { bench with device := device }
  match result with
  | .error failure => opened.finish id (.ended (.error failure))
  | .ok effort => opened.attemptAll id .authentication effort

def askForTurn (id : Nat) (code : String) (bench : Bench) : Bench :=
  match bench.device.admitClaim code with
  | .error failure => bench.finish id (.ended (.error failure))
  | .ok () =>
      let queued := { bench with turns := bench.turns ++ [id] }
      if queued.turns.head? = some id then queued.takeTurn id code
      else queued.await id (.turn code)

/-! ## Refreshes -/

def endSending (id : Nat) (generation : UInt64) (result : Except LinkFailure Unit)
    (bench : Bench) : Bench :=
  let (result, bench) := bench.keep (bench.device.closeRefresh generation result)
  bench.finish id (.ended result)

def awaitSending (id : Nat) (generation : UInt64) (result : Except LinkFailure Unit)
    (bench : Bench) : Bench :=
  match bench.sleepFor? bench.device.settings.responseTimeout (.limit id) with
  | some asleep => asleep.await id (.sending generation result)
  | none => bench.endSending id generation (.error .timeout)

def goOnRefresh (id : Nat) (move : Device.RefreshMove) (bench : Bench) : Bench :=
  match move with
  | .finish result => bench.finish id (.ended result)
  | .send generation message =>
      let (sending, sendings) := nextLine lastSending bench.sendings
      let sent := { bench with
        sendings := sendings
        messages := bench.messages ++ [message] }
      match sending with
      | .stalls => sent.awaitSending id generation (.ok ())
      | .ends reply =>
          match sent.sleepFor? (Span.ofMilliseconds reply.delay) (.call id) with
          | some asleep => asleep.awaitSending id generation reply.content
          | none => sent.endSending id generation reply.content

/-! ## Any call -/

def beginCall (id : Nat) (bench : Bench) : Call → Bench
  | .claimOnce childId =>
      bench.attemptAll id .grant (Claim.Effort.single bench.device.settings childId)
  | .claim childId =>
      bench.attemptAll id .grant (Claim.Effort.persistent bench.device.settings childId)
  | .authenticate code => bench.askForTurn id code
  | .refresh =>
      let (move, bench) := bench.keep bench.device.openRefresh
      bench.goOnRefresh id move

def goOn (id : Nat) (bench : Bench) : Waiting → Bench
  | .turn code => bench.takeTurn id code
  | .outcome purpose effort outcome =>
      bench.takeOutcome (fun effort bench => bench.attemptAll id purpose effort) id purpose outcome
        effort
  | .rest purpose effort => bench.attemptAll id purpose effort
  | .sending generation result => bench.endSending id generation result

def reachLimit (id : Nat) (bench : Bench) : Waiting → Bench
  | .sending generation _ => bench.endSending id generation (.error .timeout)
  | _ => bench

def drop (id : Nat) (bench : Bench) : Waiting → Bench
  | .sending generation _ =>
      { bench with device := bench.device.abandonRefresh generation }.finish id .dropped
  | _ => bench.finish id .dropped

end Bench

end DeviceAuth
