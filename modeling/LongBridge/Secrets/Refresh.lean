import LongBridge.Effects.Serve
import LongBridge.Secrets.Expiry

namespace LongBridge.Secrets
open Effects

inductive SecretCall where
  | time
  | read (project secret : String)
  | refresh (accessToken appKey appSecret : String) (lifetimeDays : ℤ)
  | write (project secret payload : String)

abbrev SecretCall.Result : SecretCall → Type
  | .time => ℚ
  | _ => String

abbrev secretPorts : Ports where
  Call := SecretCall
  Result := SecretCall.Result
  Mark := Empty

abbrev Refreshing (α : Type) := Script secretPorts PyExc Unit α

abbrev SecretEvent := Event secretPorts PyExc

def askSecret (call : SecretCall) : Refreshing call.Result := @Script.invoke secretPorts PyExc Unit call

def targetSecrets : List (String × String) :=
  [("paper","longport_token_paper"),("hk","longport_token_hk"),("sg","longport_token_sg")]

def appKeySecrets : List (String × String) :=
  [("paper","longport-app-key-paper"),("hk","longport-app-key-hk"),("sg","longport-app-key-sg")]

def appSecretSecrets : List (String × String) :=
  [("paper","longport-app-secret-paper"),("hk","longport-app-secret-hk"),("sg","longport-app-secret-sg")]

structure SecretNames where
  token : String
  appKey : String
  appSecret : String
  deriving DecidableEq

def secretOf (secrets : List (String × String)) (target : String) : Except PyExc String :=
  match secrets.lookup target with
  | some secret => .ok secret
  | none => .error ⟨"KeyError",target⟩

def secretNames (target : String) : Except PyExc SecretNames :=
  match targetSecrets.lookup target with
  | none => .error ⟨"ValueError","unsupported target=" ++ target⟩
  | some token => do
    let appKey ← secretOf appKeySecrets target
    let appSecret ← secretOf appSecretSecrets target
    return ⟨token,appKey,appSecret⟩

-- `plan_refresh`
def planRefresh (daysRemaining : Option PyFloat) (refreshThresholdDays : PyFloat) (force : Bool) : Bool × String :=
  if force then (true,"forced")
  else match daysRemaining with
    | none => (true,"jwt_exp_undecodable")
    | some days =>
      if floatAtMost days 0 then (false,"already_expired_needs_portal_reset")
      else if floatBelow days refreshThresholdDays then (true,"within_threshold")
      else (false,"outside_threshold")

structure RefreshRequest where
  projectId : String
  target : String
  dryRun : Bool
  refreshThresholdDays : PyFloat
  force : Bool
  lifetimeDays : ℤ
  now : Option ℚ

structure RefreshResult where
  target : String
  tokenSecret : String
  dryRun : Bool
  force : Bool
  refreshThresholdDays : PyFloat
  jwtExpPresent : Bool
  daysUntilExpiry : Option PyFloat
  wouldRefresh : Bool
  reason : String
  status : String
  ok : Bool
  newVersion : Option String
  deriving DecidableEq

-- round(days, 3)
def roundDays : PyFloat → PyFloat
  | .finite value => .finite (roundTo 3 value)
  | special => special

variable (loads : List UInt8 → Except PyExc PyVal) (request : RefreshRequest)

def remainingDays (token : String) (current : ℚ) : Option PyFloat :=
  (decodeTokenExpiryUnix loads token).map (daysUntilExpiry · current)

def planToken (token : String) (current : ℚ) : Bool × String :=
  planRefresh (remainingDays loads token current) request.refreshThresholdDays request.force

def plannedResult (names : SecretNames) (token : String) (current : ℚ) : RefreshResult where
  target := request.target
  tokenSecret := names.token
  dryRun := request.dryRun
  force := request.force
  refreshThresholdDays := request.refreshThresholdDays
  jwtExpPresent := (decodeTokenExpiryUnix loads token).isSome
  daysUntilExpiry := (remainingDays loads token current).map roundDays
  wouldRefresh := (planToken loads request token current).1
  reason := (planToken loads request token current).2
  status := "planned"
  ok := true
  newVersion := none

def readClock : Refreshing ℚ :=
  match request.now with
  | some now => pure now
  | none => askSecret .time

-- From the planned refresh on: the credentials, the exchange and the new version
def exchangeToken (names : SecretNames) (token : String) (result : RefreshResult) : Refreshing RefreshResult := do
  let appKey ← askSecret (.read request.projectId names.appKey)
  let appSecret ← askSecret (.read request.projectId names.appSecret)
  if appKey = "" ∨ appSecret = "" then return { result with status := "missing_app_credentials", ok := false }
  else
    let newToken ← askSecret (.refresh token appKey appSecret request.lifetimeDays)
    let versionName ← askSecret (.write request.projectId names.token newToken)
    return { result with status := "refreshed", newVersion := some versionName }

-- `run_refresh`
def runRefresh : Refreshing RefreshResult := do
  let names ← Script.fromExcept (secretNames request.target)
  let current ← readClock request
  let token ← askSecret (.read request.projectId names.token)
  let result := plannedResult loads request names token current
  if result.wouldRefresh = false then
    if result.reason = "already_expired_needs_portal_reset" then return { result with status := "blocked_expired", ok := false }
    else return { result with status := "skipped" }
  else if request.dryRun then return { result with status := "dry_run_would_refresh" }
  else exchangeToken request names token result

section runs

-- One call of the refresher
structure Exchange where
  accessToken : String
  appKey : String
  appSecret : String
  answer : Except PyExc String

def exchangeOf : SecretEvent → Option Exchange
  | .answered _ (.refresh accessToken appKey appSecret _) answer => some ⟨accessToken,appKey,appSecret,answer⟩
  | _ => none

def additionOf : SecretEvent → Option (String × String × String)
  | .answered _ (.write project secret payload) _ => some (project,secret,payload)
  | _ => none

def exchanges (events : List SecretEvent) : List Exchange := events.filterMap exchangeOf

-- The secret versions a run adds: project, secret and payload
def additions (events : List SecretEvent) : List (String × String × String) := events.filterMap additionOf

-- What the secret reader and the clock answer
structure Outside where
  secret : String → String → Except PyExc String
  clock : ℚ

def Outside.answers (outside : Outside) : SecretEvent → Prop
  | .answered _ .time answer => answer = .ok outside.clock
  | .answered _ (.read project secret) answer => answer = outside.secret project secret
  | _ => True

def Outside.current (outside : Outside) : ℚ := request.now.getD outside.clock

-- The exchange spends the token of the target and uses its credentials.
structure Permitted (outside : Outside) (names : SecretNames) (exchange : Exchange) : Prop where
  live : request.dryRun = false
  token : outside.secret request.projectId names.token = .ok exchange.accessToken
  appKey : outside.secret request.projectId names.appKey = .ok exchange.appKey
  appSecret : outside.secret request.projectId names.appSecret = .ok exchange.appSecret
  keyed : exchange.appKey ≠ ""
  signed : exchange.appSecret ≠ ""
  unexpired : ¬ KnownExpired loads exchange.accessToken (outside.current request)

def tokenSecret : String := (targetSecrets.lookup request.target).getD ""

-- What a run may do to the secrets of its target: one exchange at most, a permitted one, and the writer is
-- called with the token of the target as often as the refresher returned one.
structure SpendsSafely (outside : Outside) (events : List SecretEvent) : Prop where
  once : (exchanges events).length ≤ 1
  permitted : ∀ exchange ∈ exchanges events, ∃ names, secretNames request.target = .ok names ∧ Permitted loads request outside names exchange
  added : additions events = (exchanges events).filterMap fun exchange =>
    exchange.answer.toOption.map fun token => (request.projectId,tokenSecret request,token)

-- The refresh is forced while the expiry of the token is known to be over.
def ForcedPastExpiry (outside : Outside) : Prop :=
  request.force = true ∧ request.dryRun = false ∧ ∃ names token appKey appSecret, secretNames request.target = .ok names ∧
    outside.secret request.projectId names.token = .ok token ∧ KnownExpired loads token (outside.current request) ∧
    outside.secret request.projectId names.appKey = .ok appKey ∧ appKey ≠ "" ∧
    outside.secret request.projectId names.appSecret = .ok appSecret ∧ appSecret ≠ ""

end runs

end LongBridge.Secrets
