import LongBridge.Cycle.Rebalance

namespace LongBridge.Strategy
open Effects

inductive CommandState where
  | queued
  | claimed
  | submitted
  | accepted
  | partiallyFilled
  | filled
  | cancelled
  | rejected
  | reconciliationRequired
  deriving DecidableEq, Repr

def CommandState.terminal : CommandState → Bool
  | .filled | .cancelled | .rejected => true
  | _ => false

structure Command where
  commandId : String
  platform : String
  accountScope : String
  strategyProfile : String
  executionMode : String
  signalDate : String
  effectiveDate : String
  executionTimingContract : String
  intent : Fields

-- Dates are ISO texts; the store's own comparison.
def Command.isDueOn (command : Command) (date : String) : Bool := command.effectiveDate ≤ date

-- One order as a command event keeps it.
structure RecordedOrder where
  brokerOrderId : String
  symbol : String
  side : String
  quantity : ℚ
  submissionStatus : String
  deriving DecidableEq

-- A reconciliation leaves `action_done` out.
structure Details where
  actionDone : Option Bool
  ordersCount : ℕ
  orders : List RecordedOrder
  deriving DecidableEq

structure CommandEvent where
  state : CommandState
  details : Details
  deriving DecidableEq

-- The arguments of the kit's `ExecutionCommand.from_decision`.
structure Decision where
  platform : String
  accountScope : String
  strategyProfile : String
  executionMode : String
  signalDate : PyVal
  effectiveDate : PyVal
  executionTimingContract : PyVal
  decisionDigest : String
  intent : Fields

structure MarkerIdentity where
  platform : String
  strategyProfile : String
  accountScope : String
  executionMode : String
  signalDate : PyVal
  effectiveDate : PyVal
  executionTimingContract : PyVal

-- `as_of` of a portfolio snapshot: a moment with its date, or any other value.
inductive AsOf where
  | moment (isoDate : String)
  | value (value : PyVal)

structure Snapshot where
  asOf : AsOf
  metadata : Fields

structure IdentityDecision where
  brokerWriteAllowed : Bool
  wouldBlock : Bool
  enforcement : String
  findings : List String
  receipt : Fields

structure Config where
  settings : Cycle.Settings
  environment : NewRiskGate.Environment
  strategyProfile : String
  executionStateAccountScope : String
  physicalAccountId : String
  executionDedupEnabled : Bool
  hasExecutionStateStore : Bool
  hasPriorExecutionReport : Bool
  durableExecutionCommandPaperEnabled : Bool
  durableExecutionCommandLiveEnabled : Bool
  durableLiveExecutionSessionAuthorized : Bool
  hasExecutionCommandStore : Bool
  hasDurableBackend : Bool
  durableExecutionRuntimeIdentityDigest : String
  strategyRiskStatePaperEnabled : Bool
  expectedStrategyRelease : Option Fields
  hasFrozenResolver : Bool
  notifyNoTradeCycles : Bool
  notificationAttentionReasonCodes : List String

def Config.dryRunOnly (config : Config) : Bool := config.settings.dryRunOnly

-- The parts of the shared kit and of the standard library this service calls without a port.
structure Kit where
  cycle : Cycle.Library
  sha256 : String → String
  canonicalJson : Fields → String
  jsonCopy : Cycle.Execution → Except PyExc Fields
  fromDecision : Decision → Except PyExc Command
  strategyReleaseIdentity : Fields → Except PyExc Fields
  releaseBindingIsValid : Command → Fields → Except PyExc Bool
  buildExecutionMarkerKey : MarkerIdentity → String
  nextXnysSessionDate : String → Except PyExc String

-- What an execution marker is written with.
structure MarkerMetadata where
  strategyProfile : String
  accountScope : String
  dryRunOnly : Bool
  actionDone : Bool
  dryRunOrdersCount : ℕ
  pendingOrdersCount : ℕ
  pendingOrders : List OrderPayload
  signalDate : String
  effectiveDate : String

structure PriorReport where
  strategyProfile : String
  accountScope : String
  signalDate : PyVal
  effectiveDate : PyVal
  dryRunOnly : Bool

inductive Notification where
  | pendingOrders
  | rebalance
  | heartbeat
  | invalidBinding

-- What run_strategy reaches outside. `cycle` are the collaborators it shares with
-- the cycle it runs; the order port and the refreshed state the cycle asks for are
-- functions of run_strategy itself, and `brokerSubmit` is the port below them.
inductive Call where
  | cycle (request : Cycle.Call)
  | brokerSubmit (intent : OrderIntent)
  | now
  | bootstrap
  | portFactory (port : String)
  | evaluateAccountIdentity
  | getPortfolioSnapshot
  | resolveRebalancePlan (snapshot : Snapshot)
  | resolveFrozenRebalancePlan (allocation execution : Fields) (snapshot : Snapshot)
  | fetchLotSizes (symbols : List String)
  | listLiveCommands
  | currentState (command : Command)
  | commandEvents (command : Command)
  | appendEvent (command : Command) (nextState : CommandState) (details : Details) (expectedPrevious : Option CommandState)
  | enqueue (command : Command)
  | claimDue (command : Command) (asOfDate claimant : String)
  | recordPaperRiskTransition (payload : PyVal)
  | enqueuePaperCommand (execution : Cycle.Execution) (allocation : Cycle.Allocation)
  | hasMarker (key : String)
  | hasPriorExecutionReport (report : PriorReport)
  | claimAccountOwner (accountId ownerId : String)
  | claimMarker (key : String) (intent : OrderIntent)
  | recordMarker (key : String) (metadata : MarkerMetadata)
  | recordOutcome (key : String) (metadata : MarkerMetadata)
  | buildSignalSnapshot (execution : Cycle.Execution) (allocation : Cycle.Allocation)
  | prepareCycle (cycle : Cycle.CycleResult)
  | publish (notification : Notification) (execution : Cycle.Execution)
  | recordTelemetry (cycle : Cycle.CycleResult)

-- A claim of the account owner is answered by whether it is allowed, a lookup of
-- an appended event or a claim by whether there was one.
def Result : Call → Type
  | .cycle request => Cycle.Result request
  | .brokerSubmit _ => Option ExecutionReport
  | .now => String
  | .bootstrap => Unit
  | .portFactory _ => Unit
  | .evaluateAccountIdentity => Option IdentityDecision
  | .getPortfolioSnapshot => Snapshot
  | .resolveRebalancePlan _ => Cycle.Plan
  | .resolveFrozenRebalancePlan _ _ _ => Cycle.Plan
  | .fetchLotSizes _ => List (String × ℤ)
  | .listLiveCommands => List Command
  | .currentState _ => CommandState
  | .commandEvents _ => List CommandEvent
  | .appendEvent _ _ _ _ => Bool
  | .enqueue _ => Bool
  | .claimDue _ _ _ => Bool
  | .recordPaperRiskTransition _ => Option Fields
  | .enqueuePaperCommand _ _ => Option Fields
  | .hasMarker _ => Bool
  | .hasPriorExecutionReport _ => Bool
  | .claimAccountOwner _ _ => Bool
  | .claimMarker _ _ => Bool
  | .recordMarker _ _ => Unit
  | .recordOutcome _ _ => Unit
  | .buildSignalSnapshot _ _ => Fields
  | .prepareCycle _ => Bool
  | .publish _ _ => Unit
  | .recordTelemetry _ => Unit

-- The marker key a run has computed.
inductive Mark where
  | executionMarkerKey (key : String)

abbrev ports : Ports := ⟨Call,Result,Mark⟩

-- The closure variables of `submit_claimed_order`.
structure ClaimState where
  attempted : Bool
  acquired : Bool
  deriving DecidableEq

abbrev Run := Script ports PyExc ClaimState

def ask (request : Call) : Run (Result request) := Script.invoke (P := ports) request

-- A collaborator the cycle asks for too.
def share (request : Cycle.Call) : Run (Cycle.Result request) := ask (.cycle request)

def translated (key : String) : Run String := share (.translator key [])

def notifyIssue (title detail : String) : Run Unit := share (.notifyIssue title [.text detail])

-- print(config.with_prefix(message))
def printPrefixed (message : String) : Run Unit := do
  let _ ← share (.withPrefix message)

def snapshotSessionDate (snapshot : Snapshot) : String :=
  match snapshot.asOf with
  | .moment isoDate => isoDate
  | .value value => String.ofList (value.textOrEmpty.toList.take 10)

end LongBridge.Strategy
