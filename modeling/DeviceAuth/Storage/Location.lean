/-! Where values are kept: under a key, in a namespace. -/

namespace DeviceAuth

structure Location where
  space : String
  key : String
deriving DecidableEq, Repr

namespace Location

def text (location : Location) : String := location.space ++ "/" ++ location.key

end Location

end DeviceAuth
