import LongBridge.Python.Json
import LongBridge.Strategy.Commands
import LongBridge.Mapping.VendoredKit

namespace LongBridge.Mapping
open Effects

-- What the evidence gate is asked with besides the decision and the snapshot.
structure Evidence where
  scope : String
  mandateProvenance : PyVal
  marketData : Fields
  candidateIdentity : PyVal
  riskControlState : PyVal
  capitalBase : PyVal
  capitalBaseBinding : PyVal

-- The strategy runtime and the risk package a frozen decision is mapped again with.
structure Adapter where
  kit : Kit
  strategyProfile : String
  executionPolicy : Option Fields
  executionMaterials : Fields
  usesEvidenceExecution : Bool
  stampPortfolioRiskMetadata : Snapshot → Except PyExc Snapshot
  extractPortfolioRiskDiagnostics : Snapshot → Except PyExc Fields
  enrichDecisionRiskDiagnostics : StrategyDecision → PyVal → PyVal → Except PyExc StrategyDecision
  buildCapitalBaseCapabilities : Snapshot → Except PyExc Fields
  typedExecutionCandidate : Fields → PyVal
  assessWithEvidence : StrategyDecision → Snapshot → Evidence → Except PyExc StrategyDecision
  applyRiskGate : StrategyDecision → Snapshot → ℚ → Bool → Fields → Except PyExc StrategyDecision

-- A stored execution: the amounts under their keys, then every other field.
def executionEntries (floatText : ℚ → String) (execution : Cycle.Execution) : Fields :=
  let amount (value : ℚ) : PyVal := .float (.finite value) (floatText value)
  [("trade_threshold_value",amount execution.tradeThresholdValue),("reserved_cash",amount execution.reservedCash),
    ("current_min_trade",amount execution.currentMinTrade),("investable_cash",amount execution.investableCash)] ++
    execution.fields

def frozenExecution (floatText : ℚ → String) (execution : Cycle.Execution) : Except PyExc Fields :=
  PyVal.jsonEntries (executionEntries floatText execution)

-- `mapping.get(field, ()) or ()`
def storedSymbols (allocation : Fields) (field : String) : Except PyExc (List PyVal) :=
  if (allocation.get field).truthy then (allocation.get field).iterate else .ok []

def assignRole (role : String) (roles : Fields) (symbols : List PyVal) : Fields :=
  symbols.foldl (fun kept symbol => kept.set (normalizedSymbol symbol.text) (.str role)) roles

def frozenRoles (allocation : Fields) : Except PyExc Fields := do
  let risk ← storedSymbols allocation "risk_symbols"
  let income ← storedSymbols allocation "income_symbols"
  let safeHaven ← storedSymbols allocation "safe_haven_symbols"
  return assignRole "safe_haven" (assignRole "income" (assignRole "risk" [] risk) income) safeHaven

-- `dict(mapping.get("targets") or {})`
def storedTargets (allocation : Fields) : Except PyExc Fields :=
  if (allocation.get "targets").truthy then
    match allocation.get "targets" with
    | .dict entries => .ok entries
    | _ => .error ⟨"TypeError","targets is not a mapping"⟩
  else .ok []

def roleText : PyVal → Option String
  | .str role => some role
  | _ => none

-- The contract of a decision refuses a target that is not finite.
def frozenPosition (roles : Fields) (entry : String × PyVal) : Except PyExc PositionTarget := do
  let number ← entry.2.readFloat
  match number with
  | .finite value => .ok ⟨normalizedSymbol entry.1,none,some value,roleText (roles.get (normalizedSymbol entry.1)),none⟩
  | _ => .error (contractError "position.target_value must be a finite number when provided")

def frozenAnnotations (execution : Fields) : Except PyExc Fields :=
  if execution.has "signal_effective_after_trading_days" then do
    let days ← (execution.get "signal_effective_after_trading_days").readInt
    return execution.set "signal_effective_after_trading_days" (.int days)
  else .ok execution

def frozenDiagnostics (execution annotations : Fields) : Fields :=
  copyMarker execution "execution_authorized" (copyMarker execution "no_order" [("execution_annotations",.dict annotations)])

def frozenDecision (allocation execution annotations roles : Fields) : Except PyExc StrategyDecision := do
  let targets ← storedTargets allocation
  let positions ← (targets.insertionSort fun one two => one.1 ≤ two.1).mapM (frozenPosition roles)
  return ⟨positions,.tuple [],.tuple [],frozenDiagnostics execution annotations⟩

def riskDecision (adapter : Adapter) (snapshot : Snapshot) (decision : StrategyDecision) : Except PyExc StrategyDecision := do
  let capabilities ← adapter.buildCapitalBaseCapabilities snapshot
  if adapter.usesEvidenceExecution then
    let materials := adapter.executionMaterials
    adapter.assessWithEvidence decision snapshot {
      scope := "ACCOUNT"
      mandateProvenance := materials.get "mandate_provenance"
      marketData := (materials.get "market_data").asMapping.getD []
      candidateIdentity := adapter.typedExecutionCandidate materials
      riskControlState := materials.get "risk_control_state"
      capitalBase := capabilities.get "capital_base"
      capitalBaseBinding := capabilities.get "capital_base_binding" }
  else adapter.applyRiskGate decision snapshot (20 / 100) true capabilities

-- The portfolio diagnostics are stamped first, then the risk gate decides.
def gatedDecision (adapter : Adapter) (snapshot : Snapshot) (decision : StrategyDecision) :
    Except PyExc StrategyDecision := do
  let diagnostics ← adapter.extractPortfolioRiskDiagnostics snapshot
  let enriched ← adapter.enrichDecisionRiskDiagnostics decision (diagnostics.get "unrealized_pnl_pct")
    (diagnostics.get "consecutive_losses")
  riskDecision adapter snapshot enriched

def frozenMetadata (adapter : Adapter) (annotations : Fields) : Fields :=
  ("execution_annotations",.dict annotations) :: match adapter.executionPolicy with
    | none => []
    | some policy => [("longbridge_execution_policy",.dict policy)]

def frozenRequest (adapter : Adapter) (annotations : Fields) (stamped : Snapshot) : Request :=
  ⟨none,some stamped,adapter.strategyProfile,frozenMetadata adapter annotations⟩

-- What a stored decision is before it is mapped: stamped facts, and the decision on both sides of the gate.
structure FrozenStage where
  stamped : Snapshot
  annotations : Fields
  decision : StrategyDecision
  gated : StrategyDecision

def frozenStage (adapter : Adapter) (allocation execution : Fields) (snapshot : Snapshot) : Except PyExc FrozenStage := do
  let stamped ← adapter.stampPortfolioRiskMetadata snapshot
  let roles ← frozenRoles allocation
  let annotations ← frozenAnnotations execution
  let decision ← frozenDecision allocation execution annotations roles
  let gated ← gatedDecision adapter stamped decision
  return ⟨stamped,annotations,decision,gated⟩

-- One stored target decision, mapped again against a fresh broker snapshot.
def resolveFrozenRebalancePlan (adapter : Adapter) (allocation execution : Fields) (snapshot : Snapshot) :
    Except PyExc RuntimePlan := do
  let stage ← frozenStage adapter allocation execution snapshot
  mapStrategyDecisionToPlan adapter.kit (frozenRequest adapter stage.annotations stage.stamped) stage.gated

end LongBridge.Mapping
