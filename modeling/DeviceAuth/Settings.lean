import DeviceAuth.Failure
import DeviceAuth.Text.Search
import DeviceAuth.Time

/-! The settings of a device: where its server is, how often and how long it tries,
and how early it refreshes its token. -/

namespace DeviceAuth

structure Settings where
  baseUrl : String := "https://api.teddy.example"
  firmwareVersion : String := "0.1.0"
  tlsEnabled : Bool := true
  httpTimeout : Span := Span.ofSeconds 15
  claimAttempts : Nat := 5
  refreshRetries : Nat := 5
  backoffBase : Span := Span.ofSeconds 1
  backoffCap : Span := Span.ofSeconds 30
  backoffJitter : Float32 := 0.25
  /-- How long before its expiry a token is refreshed. -/
  refreshBuffer : Span := Span.ofSeconds 60
  /-- How long before its expiry a token no longer counts as valid. -/
  validityMargin : Span := Span.ofSeconds 30
  responseTimeout : Span := Span.ofSeconds 30
  provisioningTimeout : Span := Span.ofSeconds 600
  provisioningFailures : Nat := 5

namespace Settings

def claimPath : String := "/api/v1/pair/claim"

def baseUrlVariable : String := "TEDDY_API_BASE_URL"

private def withoutSlashes (url : String) : String :=
  String.ofList (Text.trimEnd '/' url.toList)

def claimUrl (settings : Settings) : String :=
  withoutSlashes settings.baseUrl ++ claimPath

/-- The host in an address: what follows the scheme, up to a slash or a
colon. -/
def hostOf (url : List Char) : List Char :=
  let rest :=
    match Text.splitFirst? [':', '/', '/'] url with
    | some (_, rest) => rest
    | none => url
  (rest.takeWhile (· != '/')).takeWhile (· != ':')

def apiHost (settings : Settings) : String :=
  String.ofList (hostOf settings.baseUrl.toList)

def check (settings : Settings) : Except Failure Unit :=
  let refuse (reason : String) : Except Failure Unit := .error (.field (.malformed reason))
  let url := settings.baseUrl.toList
  if !("https://".toList.isPrefixOf url || "http://".toList.isPrefixOf url) then
    refuse "base_url must start with http:// or https://"
  else if settings.apiHost.isEmpty then refuse "base_url has no host"
  else if settings.claimAttempts = 0 then refuse "claim_max_attempts must be at least 1"
  else if settings.backoffBase = Span.zero ∨ settings.backoffCap < settings.backoffBase then
    refuse "backoff_cap must be >= backoff_base > 0"
  else if !(0 ≤ settings.backoffJitter && settings.backoffJitter < 1) then
    refuse "backoff_jitter must be in [0, 1)"
  else if settings.refreshBuffer < settings.validityMargin then
    refuse "refresh_buffer must not be shorter than validity_margin"
  else if settings.provisioningTimeout = Span.zero then
    refuse "provisioning_timeout must be non-zero"
  else .ok ()

def ofEnvironment (baseUrl : Option String) : Except Failure Settings :=
  let standard : Settings := {}
  let settings : Settings :=
    { standard with baseUrl := withoutSlashes (baseUrl.getD standard.baseUrl) }
  match settings.check with
  | .ok () => .ok settings
  | .error failure => .error failure

end Settings

end DeviceAuth
