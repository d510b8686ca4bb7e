import LongBridge.Python.Numbers
import LongBridge.Effects.Script

namespace LongBridge.NewRiskGate

-- InjectedReconciliationSnapshot: the account facts one evaluation reads.
structure Snapshot where
  observationStatus : String
  reconciliationStatus : String
  circuitBreakerState : String
  equityUsd : Option ℚ
  peakEquityUsd : Option ℚ
  drawdownFromPeak : Option ℚ
  realizedVol : Option ℚ
  productionDriftStatus : Option String
  dailyLossUsd : Option ℚ
  deriving DecidableEq

structure RuntimeRiskLimits where
  allowedSymbols : List String
  productLeverageFactors : Amounts
  nominalCaps : Amounts
  totalNominalExposureCap : ℚ
  totalEffectiveExposureCap : ℚ
  maxPositions : ℕ
  maxDailyLossUsd : ℚ
  deriving DecidableEq

inductive Disposition where
  | allowNewRisk
  | newRiskProhibited
  | other (value : String)
  deriving DecidableEq

structure Admission where
  disposition : Disposition
  reasonCodes : List String
  combinedScale : Option ℚ
  liveAuthorityGranted : Bool
  deriving DecidableEq

structure HealthEvidence where
  observationOk : Bool
  unknownPending : Bool
  digestsConfigured : Bool
  digestsVerified : Bool
  durableBreakerOpen : Bool

-- The parts of the shared kit the gate calls, and json.loads and repr(float).
structure Library where
  applyCycleNewRiskHealthAxes : Fields → HealthEvidence → Fields
  resolveProductionDriftStatusFromStore : String → String → Option String
  validateSnapshot : Snapshot → Except PyExc Unit
  evaluateNewRiskAdmission : Snapshot → Option RuntimeRiskLimits → Except PyExc Admission
  jsonLoads : String → Option PyVal
  floatText : ℚ → String

-- os.environ
abbrev Environment := String → Option String

def gateError : String := "AccountNewRiskGateError"

def coerceOptionalFloat (value : PyVal) : Option ℚ :=
  match value with
  | .none => none
  | .bool _ => none
  | value => match value.toFloat with
    | some (.finite number) => some number
    | _ => none

def positiveLimitOrNone (value : PyVal) : Option ℚ :=
  (coerceOptionalFloat value).filter fun number => 0 < number

def mappingOrEmpty : PyVal → Fields
  | .dict entries => entries
  | _ => []

-- The first of these values that is a positive number.
def firstPositive (values : List PyVal) : Option ℚ := values.findSome? positiveLimitOrNone

def resolveEquityUsd (portfolio : Fields) (execution : Option Fields) : Option ℚ :=
  firstPositive ([portfolio.get "total_equity",portfolio.get "total_strategy_equity",
    (mappingOrEmpty (portfolio.get "broker_capital")).get "net_assets"] ++
    (execution.map fun fields => fields.get "portfolio_total_equity").toList)

def portfolioMetadata (portfolio : Fields) : Fields := mappingOrEmpty (portfolio.get "metadata")

def isNone : PyVal → Bool
  | .none => true
  | _ => false

def resolveUnknownPending (portfolio projection : Fields) : Bool :=
  if projection.has "unknown_pending_orders" then (projection.get "unknown_pending_orders").truthy
  else if !isNone (portfolio.get "unknown_pending_orders") then (portfolio.get "unknown_pending_orders").truthy
  else ((portfolioMetadata portfolio).get "unknown_pending_orders").truthy

def resolveDurableBreakerOpen (portfolio projection : Fields) : Bool :=
  let stated := [projection,portfolio,portfolioMetadata portfolio].map (·.get "durable_circuit_breaker_state")
  match stated.find? (!isNone ·) with
  | some value => value.text == "OPEN"
  | none => false

def resolveDigestFlag (portfolio projection : Fields) (key : String) : Bool :=
  match [projection,portfolioMetadata portfolio].find? (·.has key) with
  | some source => (source.get key).truthy
  | none => false

-- `dict(portfolio.get("account_new_risk_snapshot") or {})`
def statedProjection (portfolio : Fields) : Except PyExc Fields :=
  match portfolio.get "account_new_risk_snapshot" with
  | .dict entries => .ok entries
  | value => if value.truthy then .error ⟨"TypeError","snapshot is not a mapping"⟩ else .ok []

def floatOrNone (library : Library) : Option ℚ → PyVal
  | some number => .float (.finite number) (library.floatText number)
  | none => .none

def buildAccountNewRiskSnapshot (library : Library) (portfolio : Fields) (execution : Option Fields) :
    Except PyExc Fields := do
  let projection ← statedProjection portfolio
  let equityUsd := (coerceOptionalFloat (projection.get "equity_usd")).or (resolveEquityUsd portfolio execution)
  let evidence : HealthEvidence :=
    { observationOk := equityUsd.isSome
      unknownPending := resolveUnknownPending portfolio projection
      digestsConfigured := resolveDigestFlag portfolio projection "digests_configured"
      digestsVerified := resolveDigestFlag portfolio projection "digests_verified"
      durableBreakerOpen := resolveDurableBreakerOpen portfolio projection }
  return (library.applyCycleNewRiskHealthAxes projection evidence).set "equity_usd" (floatOrNone library equityUsd)

-- A string that still has text when stripped, as `strategy_profile` is read.
def strippedText : PyVal → Option String
  | .str value => if strip value = "" then none else some (strip value)
  | _ => none

def firstTruthy (one two : PyVal) : PyVal := if one.truthy then one else two

def environmentText (environment : Environment) (key : String) : Option String :=
  (environment key).bind fun value => if strip value = "" then none else some (strip value)

def resolveProductionDriftStatus (library : Library) (environment : Environment)
    (portfolio projection : Fields) : Option String :=
  let sources := [projection,portfolio,portfolioMetadata portfolio]
  match (sources.map (·.get "production_drift_status")).find? (fun raw => !isNone raw && !raw.isStr "") with
  | some raw => some (strip raw.text)
  | none =>
    let profile := (sources.findSome? fun source => strippedText (source.get "strategy_profile")).or
      (environmentText environment "STRATEGY_PROFILE")
    let domain := (sources.findSome? fun source =>
      strippedText (firstTruthy (source.get "strategy_domain") (source.get "domain"))).or
      (environmentText environment "STRATEGY_DOMAIN")
    library.resolveProductionDriftStatusFromStore (profile.getD "soxl_soxx_trend_income") (domain.getD "us_equity")

def resolveDrawdownFromPeak (equityUsd peakEquityUsd explicit : Option ℚ) : Option ℚ :=
  match explicit,equityUsd,peakEquityUsd with
  | some drawdown,_,_ => some drawdown
  | none,some equity,some peak => if peak ≤ 0 then none else some (max 0 (1 - equity / peak))
  | none,_,_ => none

def resolveExplicitDailyLossUsd (projection portfolio : Fields) (execution : Option Fields) : Option ℚ :=
  match [projection,portfolio,execution.getD []].find? (·.has "daily_loss_usd") with
  | some source => coerceOptionalFloat (source.get "daily_loss_usd")
  | none => none

def maxDailyLossFromRuntimeTargetJson (library : Library) (environment : Environment) : Option ℚ :=
  match (environment "RUNTIME_TARGET_JSON").bind fun raw =>
      if strip raw = "" then none else library.jsonLoads raw with
  | some (.dict payload) => match Fields.get payload "runtime_risk_limits" with
    | .dict policy =>
      if Fields.has policy "max_daily_loss_usd" then positiveLimitOrNone (Fields.get policy "max_daily_loss_usd") else none
    | _ => none
  | _ => none

-- The limit the environment states, the deployed policy before the plain variables.
def environmentDailyLossLimit (library : Library) (environment : Environment) : Option ℚ :=
  (maxDailyLossFromRuntimeTargetJson library environment).or
    (["LONGBRIDGE_MAX_DAILY_LOSS_USD","MAX_DAILY_LOSS_USD"].findSome? fun key =>
      (environment key).bind fun raw => if strip raw = "" then none else positiveLimitOrNone (.str raw))

def resolveMaxDailyLossUsd (library : Library) (environment : Environment) (portfolio : Option Fields) : Option ℚ :=
  match portfolio with
  | none => environmentDailyLossLimit library environment
  | some portfolio =>
    match [mappingOrEmpty (portfolio.get "account_new_risk_snapshot"),portfolio].find? (·.has "max_daily_loss_usd") with
    | some source => positiveLimitOrNone (source.get "max_daily_loss_usd")
    | none => environmentDailyLossLimit library environment

def runtimeRiskLimitsForDailyLossAxis (maxDailyLossUsd : Option ℚ) : Option RuntimeRiskLimits :=
  maxDailyLossUsd.map fun limit =>
    { allowedSymbols := ["SPY"]
      productLeverageFactors := [("SPY",1)]
      nominalCaps := [("SPY",1)]
      totalNominalExposureCap := 1
      totalEffectiveExposureCap := 1
      maxPositions := 1
      maxDailyLossUsd := limit }

def statedFloat (projection portfolio : Fields) (key : String) : Option ℚ :=
  coerceOptionalFloat (if projection.has key then projection.get key else portfolio.get key)

def textOr (value : PyVal) (fallback : String) : String := if value.truthy then value.text else fallback

def buildSnapshotFromPortfolio (library : Library) (environment : Environment) (portfolio : Fields)
    (execution : Option Fields) : Except PyExc Snapshot := do
  let projection ← buildAccountNewRiskSnapshot library portfolio execution
  let equityUsd := (coerceOptionalFloat (projection.get "equity_usd")).or (resolveEquityUsd portfolio execution)
  let peakEquityUsd := statedFloat projection portfolio "peak_equity_usd"
  let snapshot : Snapshot :=
    { observationStatus := textOr (projection.get "observation_status") "UNAVAILABLE"
      reconciliationStatus := textOr (projection.get "reconciliation_status") "UNVERIFIED"
      circuitBreakerState := textOr (projection.get "circuit_breaker_state") "OPEN"
      equityUsd
      peakEquityUsd
      drawdownFromPeak := resolveDrawdownFromPeak equityUsd peakEquityUsd
        (statedFloat projection portfolio "drawdown_from_peak")
      realizedVol := statedFloat projection portfolio "realized_vol"
      productionDriftStatus := resolveProductionDriftStatus library environment portfolio projection
      dailyLossUsd := resolveExplicitDailyLossUsd projection portfolio execution }
  library.validateSnapshot snapshot
  return snapshot

def prohibitedBecause (reason : String) : Admission := ⟨.newRiskProhibited,[reason],none,false⟩

-- `except AccountNewRiskGateError`: a rejected snapshot prohibits, any other exception goes on.
def failClosed : Except PyExc Admission → Except PyExc Admission
  | .error exc => if exc.kind = gateError then .ok (prohibitedBecause "SNAPSHOT_VALIDATION_FAIL_CLOSED") else .error exc
  | admission => admission

def evaluatePortfolioNewRiskAdmission (library : Library) (environment : Environment) (portfolio : Fields)
    (execution : Option Fields) : Except PyExc Admission :=
  failClosed do
    let snapshot ← buildSnapshotFromPortfolio library environment portfolio execution
    library.evaluateNewRiskAdmission snapshot
      (runtimeRiskLimitsForDailyLossAxis (resolveMaxDailyLossUsd library environment (some portfolio)))

def newRiskBuyProhibited (admission : Admission) : Bool := admission.disposition = .newRiskProhibited

-- The adapter's own evaluation, from the snapshot the cycle left behind.
def evaluateCycleNewRiskAdmission (library : Library) (environment : Environment) (cycleSnapshot : Option Snapshot) :
    Except PyExc Admission :=
  match cycleSnapshot with
  | none => .ok (prohibitedBecause "EQUITY_UNKNOWN_FAIL_CLOSED")
  | some snapshot => failClosed (library.evaluateNewRiskAdmission snapshot
      (runtimeRiskLimitsForDailyLossAxis (resolveMaxDailyLossUsd library environment none)))

def isAccountNewRiskGateEnabled (environment : Environment) : Bool :=
  strip ((environment "ACCOUNT_NEW_RISK_GATE").getD "") != "0"

end LongBridge.NewRiskGate
