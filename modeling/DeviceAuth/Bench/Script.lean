import DeviceAuth.Claim.Grant

/-! Scripts. On the bench the server and the channel answer from scripts: each answer
says what comes and how long it takes to come. -/

namespace DeviceAuth

namespace Bench

structure Delayed (α : Type) where
  delay : Nat := 0
  content : α

inductive Sending where
  | stalls
  | ends (result : Delayed (Except LinkFailure Unit))

def lastOutcome : Delayed Claim.Outcome := { content := .error .unavailable }

def lastSending : Sending := .ends { content := .ok () }

def nextLine {α : Type} (last : α) : List α → α × List α
  | [] => (last, [])
  | line :: rest => (line, rest)

end Bench

end DeviceAuth
