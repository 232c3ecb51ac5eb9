import DeviceAuth.Number.Decimal
import DeviceAuth.Text.Quoted

/-! The bearer token, with the moment at which it expires and the identity for
which it was issued. -/

namespace DeviceAuth

structure TokenRecord where
  token : String
  expiry : UInt32
  deviceId : String
  childId : String
deriving DecidableEq, Repr

def lastCharacters (count : Nat) (text : String) : String :=
  String.ofList (text.toList.drop (text.toList.length - count))

theorem toList_lastCharacters (count : Nat) (text : String) :
    (lastCharacters count text).toList = text.toList.drop (text.toList.length - count) := by
  simp [lastCharacters]

namespace TokenRecord

def isValidAt (record : TokenRecord) (now : UInt32) (margin : Nat) : Bool :=
  !record.token.isEmpty && now.toNat + margin < record.expiry.toNat

def remaining (record : TokenRecord) (now : UInt32) : Nat :=
  record.expiry.toNat - now.toNat

def proofOf (token : String) : String := lastCharacters 8 token

def proof (record : TokenRecord) : String := proofOf record.token

def summary (record : TokenRecord) : String :=
  "TokenRecord \x7b token: ..." ++ lastCharacters 4 record.token ++ ", expiry: " ++
    Decimal.text record.expiry.toNat ++ ", device_id: " ++ Text.Quoted.encode record.deviceId ++
    ", child_id: " ++ Text.Quoted.encode record.childId ++ " \x7d"

end TokenRecord

def expiryAfter (now lifetime : UInt32) : UInt32 :=
  UInt32.ofNat (min (now.toNat + lifetime.toNat) (UInt32.size - 1))

theorem toNat_expiryAfter (now lifetime : UInt32) :
    (expiryAfter now lifetime).toNat = min (now.toNat + lifetime.toNat) (UInt32.size - 1) := by
  rw [expiryAfter, UInt32.toNat_ofNat', UInt32.size]
  omega

def TokenRecord.renewed (record : TokenRecord) (now lifetime : UInt32) (token : Option String) :
    TokenRecord :=
  { record with
    token := (token.filter fun given => !given.isEmpty).getD record.token
    expiry := expiryAfter now lifetime }

end DeviceAuth
