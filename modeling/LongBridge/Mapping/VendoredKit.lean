import Mathlib.Data.List.Sort
import LongBridge.Mapping.Plan

namespace LongBridge.Mapping
open Effects

-- The shared kit as the vendored package has it, for the runs on fixed inputs. Equity
-- for weights and cash-only inputs come from a package that is not vendored.
def contractError (text : String) : PyExc := ⟨"StrategyContractValidationError",text⟩

def decisionTargetMode (decision : StrategyDecision) : Except PyExc (Option TargetMode) :=
  let weights := decision.positions.any (·.targetWeight.isSome)
  let values := decision.positions.any (·.targetValue.isSome)
  if decision.positions.any fun position => position.targetWeight.isNone && position.targetValue.isNone then
    .error (contractError "position must set target_weight or target_value")
  else if weights && values then
    .error (contractError "execution translation requires a single target mode across all positions")
  else .ok (if weights then some .weight else if values then some .value else none)

def translateToValues (decision : StrategyDecision) (totalEquity : ℚ) : Except PyExc StrategyDecision :=
  if totalEquity ≤ 0 then .error (contractError "execution translation requires positive total_equity")
  else .ok { decision with positions := decision.positions.map fun position =>
    ⟨position.symbol,none,position.targetWeight.map (· * totalEquity),position.role,position.orderPreference⟩ }

def pickText (annotations diagnostics : Fields) : List String → Option String
  | [] => none
  | key :: rest =>
    let value := annotations.getOr key (diagnostics.get key)
    match value with
    | .none => pickText annotations diagnostics rest
    | value => if strip value.text = "" then pickText annotations diagnostics rest else some (strip value.text)

def pickNumber (annotations diagnostics : Fields) : List String → Except PyExc (Option ℚ)
  | [] => .ok none
  | key :: rest => match annotations.getOr key (diagnostics.get key) with
    | .none => pickNumber annotations diagnostics rest
    | .int value => .ok (some value)
    | .float (.finite value) _ => .ok (some value)
    | .bool value => .ok (some (if value then 1 else 0))
    | _ => .error (contractError ("execution_annotations." ++ key ++ " must be a finite number when provided"))

structure PickedNumbers where
  threshold : Option ℚ
  reserved : Option ℚ
  delay : Option ℚ
  benchmarkPrice : Option ℚ
  longTrendValue : Option ℚ
  exitLine : Option ℚ
  currentMinTrade : Option ℚ
  investableCash : Option ℚ

def pickedNumbers (annotations diagnostics : Fields) : Except PyExc PickedNumbers := do
  let number := pickNumber annotations diagnostics
  let threshold ← number ["trade_threshold_value","threshold","threshold_value"]
  let reserved ← number ["reserved_cash","reserved"]
  let delay ← number ["signal_effective_after_trading_days"]
  let benchmarkPrice ← number ["benchmark_price","qqq_price"]
  let longTrendValue ← number ["long_trend_value","ma200"]
  let exitLine ← number ["exit_line"]
  let currentMinTrade ← number ["current_min_trade"]
  let investableCash ← number ["investable_cash"]
  return ⟨threshold,reserved,delay,benchmarkPrice,longTrendValue,exitLine,currentMinTrade,investableCash⟩

def pickedAnnotations (annotations diagnostics : Fields) (numbers : PickedNumbers) (threshold : ℚ) : Annotations :=
  let text := pickText annotations diagnostics
  { tradeThresholdValue := threshold
    reservedCash := numbers.reserved.getD 0
    signalDisplay := text ["signal_display","signal_message"]
    statusDisplay := text ["status_display","market_status"]
    dashboardText := text ["dashboard_text","dashboard"]
    separator := text ["separator"]
    benchmarkSymbol := text ["benchmark_symbol"]
    benchmarkPrice := numbers.benchmarkPrice.map .finite
    longTrendValue := numbers.longTrendValue.map .finite
    exitLine := numbers.exitLine.map .finite
    signalDate := text ["signal_date"]
    effectiveDate := text ["effective_date"]
    executionTimingContract := text ["execution_timing_contract"]
    executionCalendarSource := text ["execution_calendar_source"]
    signalEffectiveAfterTradingDays := numbers.delay.map fun days => if days < 0 then ⌈days⌉ else ⌊days⌋
    deployRatioText := text ["deploy_ratio_text"]
    incomeRatioText := text ["income_ratio_text"]
    incomeLockedRatioText := text ["income_locked_ratio_text"]
    activeRiskAsset := text ["active_risk_asset"]
    currentMinTrade := numbers.currentMinTrade
    investableCash := numbers.investableCash }

-- `build_value_target_execution_annotations`: each field from the annotations, else from the diagnostics.
def executionAnnotations (decision : StrategyDecision) : Except PyExc Annotations := do
  let annotations := (decision.diagnostics.get "execution_annotations").asMapping.getD []
  let numbers ← pickedNumbers annotations decision.diagnostics
  match numbers.threshold with
  | none => .error (contractError "ValueTargetExecutionAnnotations requires trade_threshold_value")
  | some threshold => .ok (pickedAnnotations annotations decision.diagnostics numbers threshold)

def positionsWith (role : Option String → Bool) (positions : List PositionTarget) : List String :=
  (distinct ((positions.filter fun position => role position.role).map PositionTarget.symbol)).insertionSort (· ≤ ·)

def isSafeHaven (role : Option String) : Bool := role == some "safe_haven"

def isIncome (role : Option String) : Bool := role == some "income"

def isRisk (role : Option String) : Bool := !isSafeHaven role && !isIncome role

def targetValues (positions : List PositionTarget) : Amounts :=
  positions.foldl (fun kept position => kept.set position.symbol (position.targetValue.getD 0)) []

-- Income symbols by falling target value, then by name.
def incomeSymbols (positions : List PositionTarget) : List String :=
  let values := targetValues positions
  (positionsWith isIncome positions).insertionSort fun one two =>
    values.getOrZero two < values.getOrZero one ∨ (values.getOrZero one = values.getOrZero two ∧ one ≤ two)

def textFields (annotations : Annotations) : List (String × Option String) :=
  [("signal_display",annotations.signalDisplay),("status_display",annotations.statusDisplay),
    ("dashboard_text",annotations.dashboardText),("signal_date",annotations.signalDate),
    ("effective_date",annotations.effectiveDate),("execution_timing_contract",annotations.executionTimingContract),
    ("execution_calendar_source",annotations.executionCalendarSource),
    ("signal_effective_after_trading_days",annotations.signalEffectiveAfterTradingDays.map fun days => toString days),
    ("separator",annotations.separator),("benchmark_symbol",annotations.benchmarkSymbol),
    ("deploy_ratio_text",annotations.deployRatioText),("income_ratio_text",annotations.incomeRatioText),
    ("income_locked_ratio_text",annotations.incomeLockedRatioText),("active_risk_asset",annotations.activeRiskAsset)]

def numberFields (annotations : Annotations) : List (String × Option PyFloat) :=
  [("benchmark_price",annotations.benchmarkPrice),("long_trend_value",annotations.longTrendValue),
    ("exit_line",annotations.exitLine)]

def numberText : PyFloat → String
  | .finite value => fixedText 1 value
  | .inf negative => if negative then "-inf" else "inf"
  | .nan => "nan"

-- One field of the execution payload: its value, its default, or nothing.
def payloadField (annotations : Annotations) (layout : Layout) (key : String) : List (String × PyVal) :=
  let fallback := layout.executionDefaults.get key
  match (textFields annotations).lookup key,(numberFields annotations).lookup key with
  | some (some text),_ => if strip text = "" ∧ layout.executionDefaults.has key = false then [] else [(key,.str (strip text))]
  | _,some (some number) => [(key,.float number (numberText number))]
  | _,_ => match fallback with
    | .none => []
    | value => [(key,value)]

def typedExecutionFields : List String := ["trade_threshold_value","reserved_cash","current_min_trade","investable_cash"]

-- `build_value_target_runtime_plan` with the payloads it assembles.
def valueTargetRuntimePlan (decision : StrategyDecision) (profile : String) (inputs : PortfolioInputs)
    (annotations : Annotations) (layout : Layout) : Except PyExc RuntimePlan :=
  if decision.positions.isEmpty then .error (contractError "AllocationIntent requires at least one position target")
  else if decision.positions.any (·.targetValue.isNone) then
    .error (contractError "ValueTargetExecutionPlan requires target_value positions")
  else
    let risk := positionsWith isRisk decision.positions
    let income := incomeSymbols decision.positions
    let safe := positionsWith isSafeHaven decision.positions
    let symbols := risk ++ safe ++ income
    let held (amounts : Amounts) := symbols.map fun symbol => (symbol,amounts.getOrZero symbol)
    let texts := (layout.executionFields.filter fun key => !typedExecutionFields.contains key).flatMap
      (payloadField annotations layout)
    .ok {
      strategyProfile := profile
      cashByCurrency := []
      portfolio := ⟨held inputs.marketValues,held inputs.quantities,held (inputs.sellableQuantities.getD []),
        inputs.liquidCash,safe.headD "",[],[]⟩
      execution := ⟨annotations.tradeThresholdValue,annotations.currentMinTrade.getD 0,annotations.investableCash.getD 0,
        annotations.reservedCash,texts⟩
      allocation := ⟨symbols,risk,income,safe,
        symbols.map fun symbol => (symbol,(targetValues decision.positions).getOrZero symbol),[],[],[],[],[],
        [("strategy_profile",.str profile),("target_mode",.str "value")]⟩ }

def inputsFromSnapshot (snapshot : Snapshot) (_ : Bool) : Except PyExc PortfolioInputs :=
  .ok ⟨snapshot.positions.map fun position => (position.symbol,position.marketValue),
    snapshot.positions.map fun position => (position.symbol,position.quantity),
    snapshot.totalEquity,(snapshot.buyingPower.or snapshot.cashBalance).getD 0,
    some (snapshot.positions.map fun position => (position.symbol,position.quantity))⟩

-- The runs below name a snapshot, so nothing reads an account state.
def vendoredKit : Kit where
  canonicalProfile profile := .ok profile
  inputsFromAccountState _ := .error ⟨"KeyError","market_values"⟩
  inputsFromSnapshot := inputsFromSnapshot
  decisionTargetMode := decisionTargetMode
  weightTranslationEquity inputs _ := .ok ⟨inputs.totalEquity,decide (inputs.totalEquity ≤ 0),false⟩
  translateToValues := translateToValues
  executionAnnotations := executionAnnotations
  valueTargetRuntimePlan := valueTargetRuntimePlan

end LongBridge.Mapping
