import DeviceAuth.Failure

/-! Replies to whoever provisions a device: short JSON texts that say whether a
packet was accepted. -/

namespace DeviceAuth

inductive Rejection where
  | invalidPacket
  | noPopKey
  | decryptionFailed
  | invalidCredentials
  | saveFailed
  | internalError
deriving DecidableEq, Repr

namespace Rejection

def code : Rejection → String
  | .invalidPacket => "invalid_packet"
  | .noPopKey => "no_pop_key"
  | .decryptionFailed => "decryption_failed"
  | .invalidCredentials => "invalid_credentials"
  | .saveFailed => "save_failed"
  | .internalError => "internal_error"

def isTerminal : Rejection → Bool
  | .saveFailed => true
  | .internalError => true
  | _ => false

def ofFailure : Failure → Rejection
  | .protocol _ => .invalidPacket
  | .crypto _ => .decryptionFailed
  | .field _ => .invalidCredentials
  | .store _ => .saveFailed
  | _ => .internalError

end Rejection

inductive Reply where
  | accepted
  | rejected (rejection : Rejection)
  | timeout
deriving DecidableEq, Repr

namespace Reply

def text : Reply → String
  | .accepted => "\x7b\"status\":\"ok\"\x7d"
  | .rejected rejection =>
      "\x7b\"status\":\"error\",\"code\":\"" ++ rejection.code ++ "\"\x7d"
  | .timeout => "\x7b\"status\":\"timeout\"\x7d"

end Reply

end DeviceAuth
