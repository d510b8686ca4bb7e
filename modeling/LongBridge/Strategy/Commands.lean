import Mathlib.Data.List.Sort
import LongBridge.Effects.Fallible
import LongBridge.Strategy.Records

namespace LongBridge.Strategy
open Effects

def forbiddenAccountOwnerLabels : List String :=
  ["PAPER","LIVE","HK","SG","US","CN","DEFAULT","CASH","MARGIN","LONGBRIDGE"]

-- `text or "unknown"`
def orUnknown (text : String) : String := if text = "" then "unknown" else text

def resolvePhysicalAccountId (config : Config) : Except PyExc String := do
  let accountId := strip config.physicalAccountId
  require (accountId ≠ "") ⟨"RuntimeError","LongBridge account owner fence requires LONGBRIDGE_PHYSICAL_ACCOUNT_ID " ++
    "(refusing region/channel labels as substitutes)"⟩
  let scope := upper (strip config.executionStateAccountScope)
  require (¬(upper accountId ∈ forbiddenAccountOwnerLabels ∨ (scope ≠ "" ∧ upper accountId = scope)))
    ⟨"RuntimeError","LongBridge account owner fence requires a physical account id; refusing label=" ++
      (PyVal.str accountId).repr⟩
  return accountId

def physicalAccountDigest (kit : Kit) (config : Config) : Except PyExc String := do
  let accountId ← resolvePhysicalAccountId config
  return kit.sha256 accountId

-- The commands this configuration answers for.
def matchesConfig (config : Config) (command : Command) : Bool :=
  command.platform == "longbridge" &&
  command.accountScope == lower (orUnknown config.executionStateAccountScope) &&
  command.strategyProfile == lower (orUnknown config.strategyProfile) &&
  command.executionMode == "live"

def matchingLiveCommands (config : Config) : Run (List Command) :=
  if !config.hasExecutionCommandStore then
    Script.raise ⟨"RuntimeError","durable live execution command store is required"⟩
  else if !config.hasDurableBackend then
    Script.raise ⟨"RuntimeError","execution command store has no durable backend"⟩
  else do
    let commands ← ask .listLiveCommands
    return commands.filter (matchesConfig config)

def invalidCommand : PyExc := ⟨"ValueError","invalid live execution command"⟩

def invalidRelease : PyExc := ⟨"ValueError","live execution command strategy release is invalid"⟩

def isBindingError (exc : PyExc) : Bool := exc == invalidCommand || exc == invalidRelease

def requireDict : PyVal → Except PyExc Fields
  | .dict entries => .ok entries
  | _ => .error invalidCommand

def requireRelease (kit : Kit) (config : Config) (command : Command) : Except PyExc Unit :=
  match config.expectedStrategyRelease with
  | none => .ok ()
  | some release => do
    let valid ← kit.releaseBindingIsValid command release
    require (valid = true) invalidRelease

-- The frozen execution and allocation of a command that is bound to this account, runtime and release.
def validateLiveCommandBinding (kit : Kit) (config : Config) (command : Command) : Except PyExc (Fields × Fields) := do
  require ((command.intent.get "kind").isStr "longbridge_next_session_live" = true) invalidCommand
  let digest ← physicalAccountDigest kit config
  require ((command.intent.get "physical_account_digest").isStr digest = true) invalidCommand
  require ((command.intent.get "runtime_identity_digest").isStr config.durableExecutionRuntimeIdentityDigest = true)
    invalidCommand
  let execution ← requireDict (command.intent.get "execution")
  let allocation ← requireDict (command.intent.get "allocation")
  requireRelease kit config command
  require ((execution.get "signal_date").textOrEmpty = command.signalDate ∧
    (execution.get "effective_date").textOrEmpty = command.effectiveDate ∧
    (execution.get "execution_timing_contract").textOrEmpty = command.executionTimingContract ∧
    (allocation.get "target_mode").isStr "value" = true) invalidCommand
  return (execution,allocation)

-- The completed-session marker of a command, against the exchange calendar.
def isCompletedSessionSoxlCommand (kit : Kit) (command : Command) : Except PyExc Bool :=
  match command.intent.get "execution" with
  | .dict execution =>
    if (Fields.get execution "completed_session_date").textOrEmpty ≠ command.signalDate then .ok false
    else match kit.nextXnysSessionDate command.signalDate with
      | .ok date => .ok (date == command.effectiveDate)
      | .error exc => if exc.kind = "TypeError" ∨ exc.kind = "ValueError" then .ok false else .error exc
  | _ => .ok false

def soxlProfile : String := "soxl_soxx_trend_income"

def isCompletedSessionSoxlPlan (execution : Fields) (sessionDate strategyProfile : String) : Bool :=
  strategyProfile == soxlProfile &&
  (execution.get "completed_session_date").textOrEmpty == (execution.get "signal_date").textOrEmpty &&
  decide ((execution.get "signal_date").textOrEmpty < sessionDate) &&
  (execution.get "effective_date").textOrEmpty == sessionDate

-- The intent of a live command: one frozen decision, bound to account and runtime.
def normalizedSymbols (symbols : List String) : List String :=
  (distinct ((symbols.map normalizedSymbol).filter (· ≠ ""))).insertionSort (· ≤ ·)

def normalizedTargets (targets : Amounts) : Amounts :=
  ((Amounts.normalized targets).filter fun entry => entry.1 ≠ "").insertionSort (fun one two => one.1 ≤ two.1)

def requiredSha256 (value fieldName : String) : Except PyExc String := do
  let normalized := lower (strip value)
  require (normalized.length = 64 ∧ (normalized.toList.all fun character => "0123456789abcdef".toList.contains character) = true)
    ⟨"ValueError",fieldName ++ " must be a sha256 digest"⟩
  return normalized

def symbolList (symbols : List String) : PyVal := .list ((normalizedSymbols symbols).map PyVal.str)

def frozenAllocation (kit : Kit) (allocation : Cycle.Allocation) : Fields :=
  [("target_mode",.str (strip (allocation.fields.get "target_mode").textOrEmpty)),
    ("targets",.dict ((normalizedTargets allocation.targets).map fun entry =>
      (entry.1,.float (.finite entry.2) (kit.cycle.gate.floatText entry.2)))),
    ("strategy_symbols",symbolList allocation.strategySymbols),("risk_symbols",symbolList allocation.riskSymbols),
    ("income_symbols",symbolList allocation.incomeSymbols),("safe_haven_symbols",symbolList allocation.safeHavenSymbols)]

def withRelease (kit : Kit) (config : Config) (intent : Fields) : Except PyExc Fields :=
  match config.expectedStrategyRelease with
  | none => .ok intent
  | some release => do
    let identity ← kit.strategyReleaseIdentity release
    return intent.set "strategy_release" (.dict identity)

def buildLiveExecutionIntent (kit : Kit) (config : Config) (physicalAccountId : String) (execution : Cycle.Execution)
    (allocation : Cycle.Allocation) : Except PyExc Fields := do
  let accountId := strip physicalAccountId
  require (accountId ≠ "") ⟨"ValueError","physical_account_id is required"⟩
  let frozen ← kit.jsonCopy execution
  let runtimeDigest ← requiredSha256 config.durableExecutionRuntimeIdentityDigest "runtime_identity_digest"
  withRelease kit config
    [("kind",.str "longbridge_next_session_live"),("physical_account_digest",.str (kit.sha256 accountId)),
      ("runtime_identity_digest",.str runtimeDigest),("execution",.dict frozen),
      ("allocation",.dict (frozenAllocation kit allocation))]

def buildLiveExecutionCommand (kit : Kit) (config : Config) (physicalAccountId : String) (execution : Cycle.Execution)
    (allocation : Cycle.Allocation) : Except PyExc Command := do
  let intent ← buildLiveExecutionIntent kit config physicalAccountId execution allocation
  kit.fromDecision
    { platform := "longbridge"
      accountScope := orUnknown config.executionStateAccountScope
      strategyProfile := orUnknown config.strategyProfile
      executionMode := "live"
      signalDate := execution.fields.get "signal_date"
      effectiveDate := execution.fields.get "effective_date"
      executionTimingContract := execution.fields.get "execution_timing_contract"
      decisionDigest := kit.sha256 (kit.canonicalJson intent)
      intent }

-- The command and whether it is new in the store.
def enqueueLiveExecutionCommand (kit : Kit) (config : Config) (execution : Cycle.Execution)
    (allocation : Cycle.Allocation) : Run (Command × Bool) := do
  let physicalAccountId ← Script.fromExcept (resolvePhysicalAccountId config)
  if config.dryRunOnly then Script.raise ⟨"RuntimeError","durable live execution command is live-only"⟩
  else if !config.hasExecutionCommandStore || !config.hasDurableBackend then
    Script.raise ⟨"RuntimeError","durable live execution command store is required"⟩
  else do
    let command ← Script.fromExcept (buildLiveExecutionCommand kit config physicalAccountId execution allocation)
    let created ← ask (.enqueue command)
    return (command,created)

def sideText : Side → String
  | .buy => "buy"
  | .sell => "sell"

def recordedCommandOrder (order : OrderPayload) : RecordedOrder :=
  ⟨order.brokerOrderId.getD "",order.symbol,sideText order.side,order.quantity,lower order.submissionStatus⟩

def recordedDetails (cycle : Cycle.CycleResult) : Details :=
  ⟨some cycle.actionDone,cycle.pendingOrders.length,cycle.pendingOrders.map recordedCommandOrder⟩

-- Events written one after the other until one is not written.
def appendChain (command : Command) (details : Details) : List CommandState → Run Unit
  | [] => pure ()
  | state :: rest => do
    let appended : Bool ← ask (.appendEvent command state details none)
    if appended then appendChain command details rest else pure ()

def isWorkingStatus (status : String) : Bool := status == "submitted" || status == "accepted"

-- The states the outcome of one cycle moves its command through.
def outcomeStates (cycle : Cycle.CycleResult) : List CommandState :=
  let orders := cycle.pendingOrders.map recordedCommandOrder
  if !orders.isEmpty && orders.all (fun order => order.submissionStatus == "filled") then
    [.submitted,.accepted,.filled]
  else if !orders.isEmpty && orders.all (fun order => isWorkingStatus order.submissionStatus) &&
      orders.all (fun order => order.brokerOrderId != "") then
    if orders.all (fun order => order.submissionStatus == "accepted") then [.submitted,.accepted] else [.submitted]
  else if !orders.isEmpty || cycle.actionDone then [.reconciliationRequired]
  else if (cycle.execution.fields.get "no_execute").truthy then [.rejected]
  else [.cancelled]

def recordLiveCommandOutcome (command : Command) (cycle : Cycle.CycleResult) : Run Unit :=
  appendChain command (recordedDetails cycle) (outcomeStates cycle)

def reconcilable (state : CommandState) : Bool :=
  state = .submitted ∨ state = .accepted ∨ state = .partiallyFilled ∨ state = .reconciliationRequired

-- `str(payload.get("status") or "").strip().lower().replace("_", "")`
def brokerStatus (report : Cycle.FillReport) : String := dropUnderscores (lower (strip report.status))
where dropUnderscores (text : String) : String := String.ofList (text.toList.filter (· ≠ '_'))

-- One status for each order, or nothing as soon as one cannot be read.
def readStatuses : List RecordedOrder → Run (Option (List String))
  | [] => return some []
  | order :: rest => do
    let answer ← (share (.fetchOrderStatus order.brokerOrderId)).attempt
    match answer with
    | .ok (some report) => do
      let others ← readStatuses rest
      return others.map (brokerStatus report :: ·)
    | _ => return none

def isTerminalStatus (status : String) : Bool :=
  ["filled","cancelled","canceled","rejected","expired"].contains status

def reconciledState (statuses : List String) : Option CommandState :=
  if statuses.all (· == "filled") then some .filled
  else if statuses.all isTerminalStatus then some .cancelled
  else if statuses.any (fun status => status == "partiallyfilled" || status == "partial") then some .partiallyFilled
  else if statuses.all (fun status => ["accepted","new","submitted"].contains status) then some .accepted
  else none

-- The orders of the last event, when every one of them can be asked for.
def askableOrders (events : List CommandEvent) : List RecordedOrder :=
  let orders := (events.getLast?.map fun event => event.details.orders).getD []
  if orders.any (fun order => strip order.brokerOrderId == "") then [] else orders

def appendReconciled (command : Command) (state : CommandState) (orders : List RecordedOrder)
    (statuses : List String) : Run Unit :=
  match reconciledState statuses with
  | none => pure ()
  | some next =>
    if next = state then pure ()
    else do
      let _ ← ask (.appendEvent command next ⟨none,orders.length,orders⟩ (some state))

def reconcileLiveCommand (config : Config) (command : Command) : Run Unit := do
  let state ← ask (.currentState command)
  if !reconcilable state || !config.settings.hasFetchOrderStatus then pure ()
  else do
    let events ← ask (.commandEvents command)
    let orders := askableOrders events
    if orders.isEmpty then pure ()
    else do
      let statuses ← readStatuses orders
      match statuses with
      | none => pure ()
      | some statuses => appendReconciled command state orders statuses

end LongBridge.Strategy
