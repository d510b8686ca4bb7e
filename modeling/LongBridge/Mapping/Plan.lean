import Mathlib.Data.List.Sort
import LongBridge.Python.Equality
import LongBridge.Mapping.Records

namespace LongBridge.Mapping
open Effects

def buildPortfolioInputs (kit : Kit) (request : Request) (cashOnlyExecution : Bool) : Except PyExc PortfolioInputs :=
  match request.accountState,request.snapshot with
  | some accountState,_ => kit.inputsFromAccountState accountState
  | none,some snapshot => kit.inputsFromSnapshot snapshot cashOnlyExecution
  | none,none => .error ⟨"ValueError","LongBridge plan mapping requires account_state or snapshot"⟩

def setBalance (kept : List (String × PyFloat)) (currency : String) (amount : PyFloat) : List (String × PyFloat) :=
  if kept.any (·.1 == currency) then kept.map fun entry => if entry.1 == currency then (currency,amount) else entry
  else kept ++ [(currency,amount)]

-- `cash_by_currency` of an account state or of a snapshot's metadata
def cashByCurrencyFrom (source : Fields) : Except PyExc (List (String × PyFloat)) :=
  match (source.get "cash_by_currency").asMapping with
  | none => .ok []
  | some raw => raw.foldlM (fun kept entry =>
      if normalizedSymbol entry.1 = "" then .ok kept
      else do
        let amount ← entry.2.readFloat
        return setBalance kept (normalizedSymbol entry.1) amount) []

def cashByCurrency (request : Request) : Except PyExc (List (String × PyFloat)) := do
  let held ← cashByCurrencyFrom (request.accountState.getD [])
  if held.isEmpty then cashByCurrencyFrom ((request.snapshot.map Snapshot.metadata).getD []) else return held

def defaultThresholdValue (totalEquity : ℚ) : ℚ := max 100 (totalEquity / 100)

-- max(0.0, value). A reserve that is not finite gets no further than the plan builder.
def reserveFloor : PyFloat → Except PyExc ℚ
  | .finite value => .ok (max 0 value)
  | .inf false => .error ⟨"StrategyContractValidationError","reserved_cash must be finite"⟩
  | _ => .ok 0

-- max(0.0, min(1.0, value)): with these two a NaN is a ratio of one.
def reserveRatio : PyFloat → ℚ
  | .finite value => max 0 (min 1 value)
  | .inf true => 0
  | _ => 1

def policyNumber (policy : Fields) (key : String) : Except PyExc PyFloat :=
  ((policy.getOr key (.float (.finite 0) "0.0")).orElse (.float (.finite 0) "0.0")).readFloat

def resolvePlatformReservedCash (totalEquity : ℚ) (runtimeMetadata : Fields) : Except PyExc ℚ :=
  match (runtimeMetadata.get "longbridge_execution_policy").asMapping with
  | none => .ok 0
  | some policy => do
    let floor ← policyNumber policy "reserved_cash_floor_usd"
    let ratio ← policyNumber policy "reserved_cash_ratio"
    let reserved ← reserveFloor floor
    return max reserved (max 0 totalEquity * reserveRatio ratio)

def applyReservedCashPolicy (annotations : Annotations) (inputs : PortfolioInputs) (runtimeMetadata : Fields) :
    Except PyExc Annotations := do
  let platform ← resolvePlatformReservedCash inputs.totalEquity runtimeMetadata
  let reserved := max annotations.reservedCash platform
  let base := annotations.investableCash.getD (max 0 (inputs.liquidCash - annotations.reservedCash))
  return { annotations with
    reservedCash := reserved
    investableCash := some (min (max 0 base) (max 0 (inputs.liquidCash - reserved))) }

-- The annotations of the runtime, each overridden by the decision's own.
def mergedExecutionAnnotations (runtimeMetadata diagnostics : Fields) : Fields :=
  ((runtimeMetadata.get "execution_annotations").asMapping.getD []).merge
    ((diagnostics.get "execution_annotations").asMapping.getD [])

-- str(one or two or ... or "").strip() or None
def firstText (values : List PyVal) : Option String :=
  let text := strip (((values.find? PyVal.truthy).map PyVal.text).getD "")
  if text = "" then none else some text

def optionalFloat (diagnostics : Fields) (key : String) : Except PyExc (Option PyFloat) :=
  match diagnostics.get key with
  | .none => .ok none
  | value => do
    let number ← value.readFloat
    return some number

def optionalInt : PyVal → Except PyExc (Option ℤ)
  | .none => .ok none
  | value => do
    let number ← value.readInt
    return some number

structure WeightNumbers where
  benchmarkPrice : Option PyFloat
  longTrendValue : Option PyFloat
  exitLine : Option PyFloat
  signalDelay : Option ℤ

def weightNumbers (annotations diagnostics : Fields) : Except PyExc WeightNumbers := do
  let benchmarkPrice ← optionalFloat diagnostics "benchmark_price"
  let longTrendValue ← optionalFloat diagnostics "long_trend_value"
  let exitLine ← optionalFloat diagnostics "exit_line"
  let signalDelay ← optionalInt (annotations.getOr "signal_effective_after_trading_days"
    (diagnostics.get "signal_effective_after_trading_days"))
  return ⟨benchmarkPrice,longTrendValue,exitLine,signalDelay⟩

def weightAnnotations (annotations diagnostics : Fields) (totalEquity liquidCash : ℚ) (numbers : WeightNumbers) :
    Annotations :=
  let either (key : String) := firstText [annotations.get key,diagnostics.get key]
  let benchmark := upper (strip (diagnostics.get "benchmark_symbol").textOrEmpty)
  { tradeThresholdValue := defaultThresholdValue totalEquity
    reservedCash := 0
    signalDisplay := firstText (["signal_description","signal_display","signal_message"].map diagnostics.get)
    statusDisplay := firstText (["status_description","market_status","canary_status"].map diagnostics.get)
    dashboardText := firstText [annotations.get "dashboard_text",diagnostics.get "dashboard"]
    separator := none
    benchmarkSymbol := if benchmark = "" then none else some benchmark
    benchmarkPrice := numbers.benchmarkPrice
    longTrendValue := numbers.longTrendValue
    exitLine := numbers.exitLine
    signalDate := firstText [annotations.get "signal_date",diagnostics.get "signal_date",diagnostics.get "snapshot_as_of"]
    effectiveDate := either "effective_date"
    executionTimingContract := either "execution_timing_contract"
    executionCalendarSource := either "execution_calendar_source"
    signalEffectiveAfterTradingDays := numbers.signalDelay
    deployRatioText := none
    incomeRatioText := none
    incomeLockedRatioText := none
    activeRiskAsset := none
    currentMinTrade := some (defaultThresholdValue totalEquity)
    investableCash := some (max 0 liquidCash) }

def buildWeightTranslationAnnotations (decision : StrategyDecision) (totalEquity liquidCash : ℚ)
    (runtimeMetadata : Fields) : Except PyExc Annotations := do
  let diagnostics := runtimeMetadata.merge decision.diagnostics
  let annotations := mergedExecutionAnnotations runtimeMetadata diagnostics
  let numbers ← weightNumbers annotations diagnostics
  return weightAnnotations annotations diagnostics totalEquity liquidCash numbers

def decisionBlocksExecution (decision : StrategyDecision) : Except PyExc Bool := do
  let flags ← decision.riskFlags.iterate
  if (flags.map PyVal.text).contains "no_execute" then return true
  else if flags.any fun flag => startsWith flag.text "rejected:" then return true
  else if Cycle.isBool (decision.diagnostics.get "no_order") true then return true
  else if Cycle.isBool (decision.diagnostics.get "execution_authorized") false then return true
  else return upper (strip (decision.diagnostics.get "risk_gate").textOrEmpty) == "REJECT"

-- `tuple(dict.fromkeys((*risk_flags, "no_execute")))`
def withNoExecute (riskFlags : PyVal) : Except PyExc PyVal := do
  let flags ← riskFlags.iterate
  return .tuple ((flags ++ [PyVal.str "no_execute"]).foldl
    (fun kept flag => if kept.any (·.same flag) then kept else kept ++ [flag]) [])

def heldPositions (inputs : PortfolioInputs) : List PositionTarget :=
  (inputs.marketValues.insertionSort fun one two => one.1 ≤ two.1).map fun entry =>
    ⟨entry.1,none,some entry.2,symbolRole entry.1,none⟩

-- Without a source decision neither its flags nor its diagnostics are carried over.
def buildHoldCurrentValueDecision (inputs : PortfolioInputs) (source : Option StrategyDecision) :
    Except PyExc StrategyDecision :=
  match source with
  | none => .ok ⟨heldPositions inputs,.tuple [],.tuple [],[]⟩
  | some source => do
    let riskFlags ← withNoExecute source.riskFlags
    return ⟨heldPositions inputs,source.budgets,riskFlags,source.diagnostics⟩

def buildZeroEquityValueDecision (decision : StrategyDecision) : Except PyExc StrategyDecision := do
  let riskFlags ← withNoExecute decision.riskFlags
  return {
    positions := decision.positions.map fun position =>
      ⟨position.symbol,none,some 0,position.role.or (symbolRole position.symbol),position.orderPreference⟩
    budgets := decision.budgets
    riskFlags
    diagnostics := decision.diagnostics.merge [("execution_blocked_reason",.str "non_positive_total_equity")] }

-- A decision that blocks keeps its value targets, or else the values held now.
def blockedDecision (mode : Option TargetMode) (decision : StrategyDecision) (inputs : PortfolioInputs)
    (runtimeMetadata : Fields) : Except PyExc (StrategyDecision × Option Annotations) :=
  if mode = some .value then do
    let riskFlags ← withNoExecute decision.riskFlags
    return ({ decision with riskFlags },none)
  else do
    let held ← buildHoldCurrentValueDecision inputs (some decision)
    let annotations ← buildWeightTranslationAnnotations decision inputs.totalEquity inputs.liquidCash runtimeMetadata
    return (held,some annotations)

def weightDecision (kit : Kit) (decision : StrategyDecision) (inputs : PortfolioInputs) (runtimeMetadata : Fields)
    (cashOnlyExecution : Bool) : Except PyExc (StrategyDecision × Option Annotations) := do
  let equity ← kit.weightTranslationEquity inputs cashOnlyExecution
  if equity.blockExecution then do
    let emptied ← buildZeroEquityValueDecision decision
    let annotations ← buildWeightTranslationAnnotations decision inputs.totalEquity inputs.liquidCash runtimeMetadata
    return (emptied,some annotations)
  else do
    let marked := if equity.deleverageMode
      then { decision with diagnostics := decision.diagnostics.merge [("cash_only_deleverage_mode",.bool true)] }
      else decision
    let translated ← kit.translateToValues marked equity.totalEquity
    let annotations ← buildWeightTranslationAnnotations decision equity.totalEquity inputs.liquidCash runtimeMetadata
    return (translated,some annotations)

def openDecision (kit : Kit) (mode : Option TargetMode) (decision : StrategyDecision) (inputs : PortfolioInputs)
    (runtimeMetadata : Fields) (cashOnlyExecution : Bool) : Except PyExc (StrategyDecision × Option Annotations) :=
  match mode with
  | some .value => .ok (decision,none)
  | some .weight => weightDecision kit decision inputs runtimeMetadata cashOnlyExecution
  | none => do
    let held ← buildHoldCurrentValueDecision inputs none
    let annotations ← buildWeightTranslationAnnotations decision inputs.totalEquity inputs.liquidCash runtimeMetadata
    return (held,some annotations)

def normalizeToValueTargetDecision (kit : Kit) (decision : StrategyDecision) (inputs : PortfolioInputs)
    (runtimeMetadata : Fields) (cashOnlyExecution : Bool) :
    Except PyExc (StrategyDecision × Option Annotations) := do
  let mode ← kit.decisionTargetMode decision
  let blocked ← decisionBlocksExecution decision
  if blocked then blockedDecision mode decision inputs runtimeMetadata
  else openDecision kit mode decision inputs runtimeMetadata cashOnlyExecution

-- The annotations of a value decision, with the two amounts it may leave open.
def valueAnnotations (kit : Kit) (normalized : StrategyDecision) (inputs : PortfolioInputs)
    (runtimeMetadata : Fields) : Except PyExc Annotations := do
  let diagnostics := runtimeMetadata.merge normalized.diagnostics
  let merged := mergedExecutionAnnotations runtimeMetadata diagnostics
  let annotations ← kit.executionAnnotations { normalized with
    diagnostics := diagnostics.merge [("execution_annotations",.dict merged)] }
  return { annotations with
    currentMinTrade := annotations.currentMinTrade.or (some annotations.tradeThresholdValue)
    investableCash := annotations.investableCash.or (some (max 0 (inputs.liquidCash - annotations.reservedCash))) }

def resolveAnnotations (kit : Kit) (normalized : StrategyDecision) (found : Option Annotations)
    (inputs : PortfolioInputs) (runtimeMetadata : Fields) : Except PyExc Annotations :=
  match found with
  | some annotations => .ok annotations
  | none => valueAnnotations kit normalized inputs runtimeMetadata

def zeroAmount : PyVal := .float (.finite 0) "0.0"

def datedDefaults : Fields :=
  [("reserved_cash",zeroAmount),("signal_display",.str ""),("status_display",.str ""),("dashboard_text",.str ""),
    ("signal_date",.str ""),("effective_date",.str ""),("execution_timing_contract",.str ""),
    ("execution_calendar_source",.str ""),("signal_effective_after_trading_days",.none)]

def sharedExecutionFields : List String :=
  ["trade_threshold_value","reserved_cash","signal_display","status_display","dashboard_text","signal_date",
    "effective_date","execution_timing_contract","execution_calendar_source","signal_effective_after_trading_days",
    "benchmark_symbol","benchmark_price","long_trend_value","exit_line"]

def resolveLayout (profile : String) : Layout :=
  if profile = "tqqq_growth_income" then {
    strategySymbolsOrder := "risk_safe_income"
    portfolioRows := ["risk_safe","income"]
    executionFields := sharedExecutionFields ++ ["current_min_trade","investable_cash"]
    executionDefaults := datedDefaults ++ [("benchmark_symbol",.str "QQQ"),("benchmark_price",zeroAmount),
      ("long_trend_value",zeroAmount),("exit_line",zeroAmount),("current_min_trade",zeroAmount),
      ("investable_cash",zeroAmount)] }
  else {
    strategySymbolsOrder := "risk_safe_income"
    portfolioRows := ["risk","income","safe"]
    executionFields := sharedExecutionFields ++ ["deploy_ratio_text","income_ratio_text","income_locked_ratio_text",
      "active_risk_asset","investable_cash","current_min_trade"]
    executionDefaults := datedDefaults ++ [("deploy_ratio_text",.str ""),("income_ratio_text",.str ""),
      ("income_locked_ratio_text",.str ""),("current_min_trade",zeroAmount),("investable_cash",zeroAmount)] }

-- Every listed field the diagnostics fill is copied into the execution.
def attachListed (names : List String) (diagnostics : Fields) (plan : RuntimePlan) : RuntimePlan :=
  { plan with execution := { plan.execution with
    fields := names.foldl (fun kept name =>
      if (diagnostics.get name).isBlank then kept else kept.set name (diagnostics.get name)) plan.execution.fields } }

def annotatedDiagnostics (runtimeMetadata : Fields) (decision : StrategyDecision) : Fields :=
  let diagnostics := runtimeMetadata.merge decision.diagnostics
  diagnostics.merge ((diagnostics.get "execution_annotations").asMapping.getD [])

def attachSnapshotDiagnostics (runtimeMetadata : Fields) (decision : StrategyDecision) (plan : RuntimePlan) :
    RuntimePlan :=
  attachListed snapshotDiagnosticFields (runtimeMetadata.merge decision.diagnostics) plan

def attachMarketRegimeControlExecutionFields (runtimeMetadata : Fields) (decision : StrategyDecision)
    (plan : RuntimePlan) : RuntimePlan :=
  attachListed marketRegimeControlExecutionFields (annotatedDiagnostics runtimeMetadata decision) plan

-- The fields of one profile's risk control; other profiles have none of them.
def attachProfileFields (kit : Kit) (profile : String) (names : List String) (runtimeMetadata : Fields)
    (decision : StrategyDecision) (plan : RuntimePlan) : Except PyExc RuntimePlan := do
  let own ← kit.canonicalProfile plan.strategyProfile
  return if own = profile then attachListed names (annotatedDiagnostics runtimeMetadata decision) plan else plan

def attachTqqqRiskControlExecutionFields (kit : Kit) :=
  attachProfileFields kit "tqqq_growth_income" tqqqRiskControlExecutionFields

def attachSoxlRiskControlExecutionFields (kit : Kit) :=
  attachProfileFields kit "soxl_soxx_trend_income" soxlRiskControlExecutionFields

def markFlags (flags : List PyVal) (execution : Fields) : Fields :=
  if flags.isEmpty then execution else execution.set "risk_flags" (.tuple (flags.map fun flag => .str flag.text))

def markGate (gate : PyVal) (execution : Fields) : Fields :=
  if gate.isBlank || gate.text == "" then execution else execution.set "risk_gate" gate

def copyMarker (diagnostics : Fields) (marker : String) (execution : Fields) : Fields :=
  if diagnostics.has marker then execution.set marker (diagnostics.get marker) else execution

def markBlocked (blocked : Bool) (execution : Fields) : Fields :=
  if blocked then execution.set "no_execute" (.bool true) else execution

def attachExecutionBlockFields (decision : StrategyDecision) (plan : RuntimePlan) : Except PyExc RuntimePlan := do
  let flags ← decision.riskFlags.iterate
  let blocked ← decisionBlocksExecution decision
  let gated := markGate (decision.diagnostics.get "risk_gate") (markFlags flags plan.execution.fields)
  let marked := copyMarker decision.diagnostics "execution_authorized" (copyMarker decision.diagnostics "no_order" gated)
  return { plan with execution := { plan.execution with fields := markBlocked blocked marked } }

def flagsAreTexts : PyVal → Bool
  | .tuple items => items.all fun item => match item with
      | .str _ => true
      | _ => false
  | _ => false

-- A malformed reject must not be read as ordinary flags.
def checkedDecision (decision : StrategyDecision) : StrategyDecision :=
  if flagsAreTexts decision.riskFlags then decision
  else {
    positions := []
    budgets := .tuple []
    riskFlags := .tuple [.str "rejected:invalid_risk_flags"]
    diagnostics := decision.diagnostics.merge [("risk_gate",.str "REJECT"),("reason",.str "invalid_risk_flags")] }

def cashOnlyExecution (runtimeMetadata : Fields) : Bool :=
  match (runtimeMetadata.get "longbridge_execution_policy").asMapping with
  | none => true
  | some policy => (policy.getOr "cash_only_execution" (.bool true)).truthy

def attachFields (kit : Kit) (request : Request) (normalized : StrategyDecision) (plan : RuntimePlan) :
    Except PyExc RuntimePlan := do
  let balances ← cashByCurrency request
  let cashed := { plan with cashByCurrency := balances }
  let diagnosed := attachSnapshotDiagnostics request.runtimeMetadata normalized cashed
  let regime := attachMarketRegimeControlExecutionFields request.runtimeMetadata normalized diagnosed
  let tqqq ← attachTqqqRiskControlExecutionFields kit request.runtimeMetadata normalized regime
  let soxl ← attachSoxlRiskControlExecutionFields kit request.runtimeMetadata normalized tqqq
  attachExecutionBlockFields normalized soxl

def mapStrategyDecisionToPlan (kit : Kit) (request : Request) (decision : StrategyDecision) :
    Except PyExc RuntimePlan := do
  let checked := checkedDecision decision
  let profile ← kit.canonicalProfile request.strategyProfile
  let inputs ← buildPortfolioInputs kit request (cashOnlyExecution request.runtimeMetadata)
  let (normalized,found) ← normalizeToValueTargetDecision kit checked inputs request.runtimeMetadata
    (cashOnlyExecution request.runtimeMetadata)
  let annotations ← resolveAnnotations kit normalized found inputs request.runtimeMetadata
  let reserved ← applyReservedCashPolicy annotations inputs request.runtimeMetadata
  let layoutProfile ← kit.canonicalProfile profile
  let plan ← kit.valueTargetRuntimePlan normalized profile inputs reserved (resolveLayout layoutProfile)
  attachFields kit request normalized plan

end LongBridge.Mapping
