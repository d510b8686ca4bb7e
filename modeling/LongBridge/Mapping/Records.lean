import LongBridge.Cycle.Sizing
import LongBridge.Python.Conversions

namespace LongBridge.Mapping
open Effects

structure PositionTarget where
  symbol : String
  targetWeight : Option ℚ
  targetValue : Option ℚ
  role : Option String
  orderPreference : Option String
  deriving DecidableEq

-- A strategy fills the flags and the diagnostics; nobody has checked either yet.
structure StrategyDecision where
  positions : List PositionTarget
  budgets : PyVal
  riskFlags : PyVal
  diagnostics : Fields

structure Annotations where
  tradeThresholdValue : ℚ
  reservedCash : ℚ
  signalDisplay : Option String
  statusDisplay : Option String
  dashboardText : Option String
  separator : Option String
  benchmarkSymbol : Option String
  benchmarkPrice : Option PyFloat
  longTrendValue : Option PyFloat
  exitLine : Option PyFloat
  signalDate : Option String
  effectiveDate : Option String
  executionTimingContract : Option String
  executionCalendarSource : Option String
  signalEffectiveAfterTradingDays : Option ℤ
  deployRatioText : Option String
  incomeRatioText : Option String
  incomeLockedRatioText : Option String
  activeRiskAsset : Option String
  currentMinTrade : Option ℚ
  investableCash : Option ℚ

structure PortfolioInputs where
  marketValues : Amounts
  quantities : Amounts
  totalEquity : ℚ
  liquidCash : ℚ
  sellableQuantities : Option Amounts

structure Position where
  symbol : String
  quantity : ℚ
  marketValue : ℚ

structure Snapshot where
  positions : List Position
  totalEquity : ℚ
  buyingPower : Option ℚ
  cashBalance : Option ℚ
  metadata : Fields

inductive TargetMode where
  | value
  | weight
  deriving DecidableEq

-- What a weight decision is turned into values with.
structure TranslationEquity where
  totalEquity : ℚ
  blockExecution : Bool
  deleverageMode : Bool

structure Layout where
  strategySymbolsOrder : String
  portfolioRows : List String
  executionFields : List String
  executionDefaults : Fields

-- The plan with the profile it names and the balances the mapper adds to its portfolio.
structure RuntimePlan extends Cycle.Plan where
  strategyProfile : String
  cashByCurrency : List (String × PyFloat)

-- The parts of the shared packages the mapper calls.
structure Kit where
  canonicalProfile : String → Except PyExc String
  inputsFromAccountState : Fields → Except PyExc PortfolioInputs
  inputsFromSnapshot : Snapshot → Bool → Except PyExc PortfolioInputs
  decisionTargetMode : StrategyDecision → Except PyExc (Option TargetMode)
  weightTranslationEquity : PortfolioInputs → Bool → Except PyExc TranslationEquity
  translateToValues : StrategyDecision → ℚ → Except PyExc StrategyDecision
  executionAnnotations : StrategyDecision → Except PyExc Annotations
  valueTargetRuntimePlan : StrategyDecision → String → PortfolioInputs → Annotations → Layout → Except PyExc RuntimePlan

-- What the mapper is asked to map a decision with; no runtime metadata is an empty mapping.
structure Request where
  accountState : Option Fields
  snapshot : Option Snapshot
  strategyProfile : String
  runtimeMetadata : Fields

def snapshotDiagnosticFields : List String :=
  ["snapshot_manifest_price_as_of","snapshot_manifest_universe_as_of","snapshot_manifest_source_input_status",
    "snapshot_manifest_source_input_fallback_used","snapshot_manifest_source_input_fallback_reason",
    "snapshot_manifest_source_input_fallback_streak","snapshot_manifest_source_input_manifest_path",
    "snapshot_manifest_source_refresh_run_id","snapshot_manifest_source_refresh_generated_at",
    "small_account_warning","small_account_warning_reason","portfolio_total_equity","min_recommended_equity_usd"]

def tqqqRiskControlExecutionFields : List String :=
  (["enabled","window","threshold_mode","threshold","exit_threshold","dynamic_threshold","dynamic_sample_count",
    "dynamic_lookback","dynamic_percentile","dynamic_min_periods","dynamic_floor","dynamic_cap","metric","triggered",
    "entry_triggered","hysteresis_triggered","trigger_reason","applied","vetoed","veto_reason","taco_veto_enabled",
    "taco_rebound_context_active","true_crisis_active","retention_mode","retention_policy","retention_ratio",
    "retention_source","retention_context_found","retention_reason_codes","redirect_symbol","source_value",
    "retained_value","removed_value","retained_ratio","redirected_ratio"].map ("dual_drive_volatility_delever_" ++ ·)) ++
  (["enabled","found","route","active","applied","leverage_scalar","risk_asset_scalar","removed_value",
    "redirected_to_unlevered"].map ("dual_drive_macro_risk_governor_" ++ ·)) ++
  (["enabled","triggered","applied","destination","removed_value"].map ("dual_drive_crisis_defense_" ++ ·))

def soxlRiskControlExecutionFields : List String :=
  ["enabled","symbol","window","threshold_mode","threshold","dynamic_threshold","dynamic_sample_count",
    "dynamic_lookback","dynamic_percentile","dynamic_min_periods","dynamic_floor","dynamic_cap","metric","triggered",
    "retention_ratio","retention_mode","retention_policy","effective_retention_ratio","retention_source",
    "retention_context_found","retention_reason_codes","redirect_symbol","removed_ratio"].map
    ("blend_gate_volatility_delever_" ++ ·)

def marketRegimeControlExecutionFields : List String :=
  ["enabled","found","source","schema_version","route","route_source","active","applied","route_allowed","risk_scalar",
    "risk_budget_scalar","leverage_scalar","risk_asset_scalar","taco_allowed","local_delever_veto_allowed",
    "crisis_defense_required","blocked_actions","vetoes","reason_codes","removed_weight","removed_ratio",
    "redirected_to_unlevered_ratio","safe_haven","risk_symbols"].map ("market_regime_control_" ++ ·)

def symbolRole (symbol : String) : Option String :=
  let plain := normalizedSymbol symbol
  if ["BOXX","BIL","02800","82800"].contains plain then some "safe_haven"
  else if ["QQQI","SPYI"].contains plain then some "income"
  else none

end LongBridge.Mapping
