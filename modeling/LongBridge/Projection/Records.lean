import LongBridge.Python.Times
import LongBridge.Reporting.Monitors

namespace LongBridge.Projection
open Reporting

-- `_parse_aware`: an instant, where the text names an offset.
def parseAware (value : PyVal) : Option ℤ :=
  let text := plainText value
  let zoned := if endsWith text "Z" then String.ofList (text.toList.dropLast ++ "+00:00".toList) else text
  match fromisoformat zoned with
  | some ⟨wall,some offset⟩ => some (wall - offset)
  | _ => none

-- `_text(value) or None`
def optionalText (value : PyVal) : Option String := if plainText value = "" then none else some (plainText value)

def optionalBool : PyVal → Option Bool
  | .bool value => some value
  | _ => none

-- The count as the signature writes it: a bool stays a bool there.
def pendingText (summary : Fields) : Option String :=
  match summary.get "orders_pending_count" with
  | .int value => some (toString value)
  | .bool value => some (toString value)
  | _ => (pendingCount summary).map toString

structure Evidence where
  executionStatus : Option String
  brokerSubmissionDone : Option Bool
  actionDone : Option Bool
  ordersPendingCount : Option String
  errorsPresent : Bool
  receiptOutcome : Option String
  receiptBrokerConfirmation : Option String
  deriving DecidableEq

-- `_prepare_report`
structure Prepared where
  payload : Fields
  sourceObject : Option String
  runAt : Option ℤ
  rejectReason : Option String

def orText (first second : PyVal) : PyVal := if first.truthy then first else second

def rejectReasonOf (payload : Fields) : Option String :=
  let platform := lower (plainText (payload.get "platform"))
  if platform ≠ "" ∧ platform ≠ "longbridge" then some "wrong_platform"
  else if platform = "" then some "missing_platform" else none

def runTime (payload : Fields) : Option ℤ := (parseAware (payload.get "started_at")).or (parseAware (payload.get "finished_at"))

def prepareReport (item : Fields) : Prepared :=
  let payload := match item.get "payload" with
    | .dict payload => payload
    | _ => item
  ⟨payload,optionalText (orText (item.get "object_uri") (item.get "source_object")),runTime payload,rejectReasonOf payload⟩

def laneNames : List String := ["dry_run","shadow","validation","paper","live"]

-- The lane one part of a report names.
def statedLane (source : Fields) : Option String :=
  match ["execution_lane","run_kind","validation_label","mode"].find? fun key => laneNames.contains (lowerText (source.get key)) with
  | some key => some (lowerText (source.get key))
  | none =>
    if isTrue (source.get "validation_only") then some "validation"
    else if nonRealLanes.contains (lowerText (source.get "run_source")) then some (lowerText (source.get "run_source")) else none

def explicitLane (sources : List Fields) : String := (sources.findSome? statedLane).getD ""

def executionLane (payload summary : Fields) : String :=
  let runtimeTarget := mappingOf (payload.get "runtime_target")
  let explicit := explicitLane [payload,summary,runtimeTarget,mappingOf (payload.get "diagnostics")]
  let mode := lowerText (runtimeTarget.get "execution_mode")
  if nonRealLanes.contains explicit then explicit
  else if isTrue (payload.get "dry_run") || isTrue (runtimeTarget.get "dry_run_only") then "dry_run"
  else if explicit = "paper" ∨ explicit = "live" then explicit
  else if mode = "paper" ∨ mode = "live" then mode else "insufficient"

-- `_run_view`; the times are instants instead of the texts they are written as and read from again.
structure Run where
  runId : Option String
  sourceObjects : List String
  startedAt : Option ℤ
  finishedAt : Option ℤ
  reportStatus : Option String
  executionLane : String
  activity : String
  evidence : Evidence
  deriving DecidableEq

def runView (item : Prepared) : Run :=
  let payload := item.payload
  let summary := mappingOf (payload.get "summary")
  let receipt := mappingOf (payload.get "execution_receipt")
  let lane := executionLane payload summary
  { runId := optionalText (payload.get "run_id")
    sourceObjects := item.sourceObject.toList
    startedAt := parseAware (payload.get "started_at")
    finishedAt := parseAware (payload.get "finished_at")
    reportStatus := optionalText (payload.get "status")
    executionLane := lane
    activity := activity payload summary lane
    evidence :=
      { executionStatus := (optionalText (summary.get "execution_status")).map lower
        brokerSubmissionDone := optionalBool (summary.get "broker_submission_done")
        actionDone := optionalBool (summary.get "action_done")
        ordersPendingCount := pendingText summary
        errorsPresent := errorsPresent payload
        receiptOutcome := (optionalText (receipt.get "outcome")).map lower
        receiptBrokerConfirmation := (optionalText (receipt.get "broker_confirmation")).map lower } }

def quietActivities : List String := ["no_submission","no_signal","no_rebalance"]

-- The ranks are the places in the lists.
def anomalyRank : List String := ["reconciliation_required","unknown","blocked","failed"]

def orderRank : List String := ["filled","partially_filled","broker_acknowledged","submitted"]

def unresolvedActivities : List String := ["unknown","reconciliation_required"]

-- `_observed_run_time_problem`
def observedRunTimeProblem (run : Run) (observedAt : ℤ) : Option String :=
  match run.startedAt,run.finishedAt with
  | some started,some finished =>
    if finished < started then some "inverted_run_time"
    else if observedAt < started ∨ observedAt < finished then some "future_run_time" else none
  | some started,none => if observedAt < started then some "future_run_time" else none
  | none,some finished => if observedAt < finished then some "future_run_time" else none
  | none,none => none

def coversLatestDue (run : Run) (latestDueAt observedAt : ℤ) : Bool :=
  match run.finishedAt.or run.startedAt with
  | some instant => decide (latestDueAt ≤ instant ∧ instant ≤ observedAt)
  | none => false

-- `_best`: the first of those with the least rank.
def best (ranks activities : List String) : Option String :=
  match activities.filter ranks.contains with
  | [] => none
  | first :: rest => some (rest.foldl (fun least next => if ranks.idxOf next < ranks.idxOf least then next else least) first)

structure Signature where
  activity : String
  executionLane : String
  evidence : Evidence
  deriving DecidableEq

def Run.signature (run : Run) : Signature := ⟨run.activity,run.executionLane,run.evidence⟩

-- A run without an id is in the group of the empty text.
def Run.group (run : Run) : String := run.runId.getD ""

def copiesOf (runs : List Run) (group : String) : List Run := runs.filter fun run => run.group == group

-- The copies of one run: the last with all their objects if they agree, else all of them.
def settledCopies (copies : List Run) : List Run :=
  match copies.getLast? with
  | none => []
  | some last =>
    if copies.all fun copy => copy.signature == last.signature then
      [{ last with sourceObjects := distinct (copies.flatMap fun copy => copy.sourceObjects.take 1) }]
    else copies

-- `_dedupe_runs`
def dedupeRuns (runs : List Run) : List Run := (distinct (runs.map Run.group)).flatMap fun group => settledCopies (copiesOf runs group)

def conflictNames (runs : List Run) (group : String) : List String :=
  let copies := copiesOf runs group
  if (copies.map Run.signature).dedup.length < 2 then [] else copies.map fun copy => group ++ ":" ++ copy.activity

-- `_same_run_conflicts`
def sameRunConflicts (runs : List Run) : List String :=
  ((distinct (runs.map Run.group)).filter (· ≠ "")).flatMap (conflictNames runs)

structure Verdict where
  status : String
  kind : String
  completeness : String
  deriving DecidableEq

def onlyLane (lanes : List String) : Option String :=
  match lanes.dedup with
  | [lane] => some lane
  | _ => none

-- All runs that cover the slot are of one lane that places no real order.
def unrealLane (covering : List Run) : Option String := (onlyLane (covering.map Run.executionLane)).filter nonRealLanes.contains

def scheduledQuiet : List String := ["not_due","market_closed","outside_window","within_grace"]

-- What the schedule says where no run does.
def judgeSchedule (state : String) (readFailed : Bool) : Verdict :=
  if scheduledQuiet.contains state then
    if readFailed then ⟨"read_incomplete","incomplete","incomplete"⟩ else ⟨state,"schedule","complete"⟩
  else if state = "due" then
    if readFailed then ⟨"read_incomplete","incomplete","incomplete"⟩ else ⟨"missing_report","incomplete","incomplete"⟩
  else if readFailed then ⟨"read_incomplete","incomplete","incomplete"⟩ else ⟨"insufficient","incomplete","insufficient"⟩

-- What quiet or insufficient runs say, else the schedule.
def judgeQuiet (dated covering : List Run) (state : String) (readFailed : Bool) : Verdict :=
  let coveringActivities := covering.map Run.activity
  let datedActivities := dated.map Run.activity
  match (coveringActivities.filter quietActivities.contains),coveringActivities.dedup with
  | _ :: _,[activity] =>
    if state = "due" ∨ state = "within_grace" then ⟨activity,"run","complete"⟩ else judgeHistory dated datedActivities
  | _,_ => judgeHistory dated datedActivities
where
  judgeHistory (dated : List Run) (datedActivities : List String) : Verdict :=
    match dated.length,datedActivities.filter quietActivities.contains with
    | 1,activity :: _ =>
      if !(scheduledQuiet ++ ["due"]).contains state then ⟨activity,"run","insufficient"⟩ else judgeInsufficient dated datedActivities
    | _,_ => judgeInsufficient dated datedActivities
  judgeInsufficient (dated : List Run) (datedActivities : List String) : Verdict :=
    if !dated.isEmpty && datedActivities.all (· == "insufficient") then ⟨"insufficient","incomplete","insufficient"⟩
    else judgeSchedule state readFailed

-- What the runs that cover the due slot say.
def judgeCovering (dated covering : List Run) (state : String) (readFailed : Bool) : Verdict :=
  let activities := covering.map Run.activity
  match best orderRank activities with
  | some activity => ⟨(unrealLane covering).getD activity,"run","complete"⟩
  | none => match unrealLane covering with
    | some lane =>
      if activities.all (quietActivities ++ ["previewed"]).contains then ⟨lane,"run","complete"⟩
      else judgeQuiet dated covering state readFailed
    | none => judgeQuiet dated covering state readFailed

-- `_judge`
def judge (dated undatedAnomalies covering carriedUnresolved : List Run) (state : String) (readFailed : Bool) :
    Verdict × List String :=
  let conflicts := sameRunConflicts (dated ++ carriedUnresolved)
  match best anomalyRank (dated.map Run.activity ++ carriedUnresolved.map Run.activity) with
  | some anomaly => (⟨anomaly,"run",if conflicts.isEmpty then "complete" else "insufficient"⟩,conflicts)
  | none => match best anomalyRank (undatedAnomalies.map Run.activity) with
    | some anomaly => (⟨anomaly,"incomplete","insufficient"⟩,conflicts)
    | none =>
      if !conflicts.isEmpty then (⟨"conflict","incomplete","insufficient"⟩,conflicts)
      else (judgeCovering dated covering state readFailed,conflicts)

-- The outcome of the schedule for one business date.
structure Schedule where
  state : String
  businessDate : Option ℕ
  timezone : String
  latestDueAt : Option ℤ

-- Where a report of a target goes.
inductive Place where
  | dated
  | carriedUnresolved
  | undatedAnomaly
  | excluded (reason : String) (businessDate : Option ℕ)
  deriving DecidableEq

-- The zone data, the matching of a report with the targets, and the schedule of a target.
structure Kit where
  zone : String → Option (ℤ → ℕ)
  matchTarget : Fields → List Fields → Option String
  schedule : Fields → Schedule

def placeRun (kit : Kit) (schedule : Schedule) (observedAt : ℤ) (item : Prepared) : Place :=
  let run := runView item
  match item.runAt with
  | none => if anomalyRank.contains run.activity then .undatedAnomaly else .excluded "missing_run_time" none
  | some runAt =>
    match schedule.businessDate,schedule.timezone with
    | none,_ | _,"" => .excluded "undated_business_day" none
    | some businessDate,timezone => match kit.zone timezone with
      | none => .excluded "invalid_timezone" none
      | some dateIn => match observedRunTimeProblem run observedAt with
        | some reason => .excluded reason none
        | none =>
          if dateIn runAt = businessDate then .dated
          else if unresolvedActivities.contains run.activity then .carriedUnresolved
          else .excluded "other_business_date" (some (dateIn runAt))

structure Record where
  targetKey : String
  status : String
  kind : String
  completeness : String
  executionLane : String
  runs : List Run
  excludedReports : List (Option String × String)
  conflicts : List String

def targetIdentity (target : Fields) : String :=
  let part (key : String) : String := lower (strip (target.get key).textOrEmpty)
  if part "service" = "" then ""
  else part "service" ++ "|" ++ (if part "strategy_profile" = "" then "*" else part "strategy_profile") ++ "|" ++
    (if part "account_scope" = "" then "*" else part "account_scope")

def placed (kit : Kit) (schedule : Schedule) (observedAt : ℤ) (items : List Prepared) (place : Place) : List Run :=
  (items.filter fun item => placeRun kit schedule observedAt item == place).map runView

def excludedOf (kit : Kit) (schedule : Schedule) (observedAt : ℤ) (item : Prepared) : Option (Option String × String) :=
  match placeRun kit schedule observedAt item with
  | .excluded reason _ => some ((runView item).runId,reason)
  | _ => none

-- `_project_target`
def projectTarget (kit : Kit) (target : Fields) (items : List Prepared) (observedAt : ℤ) (readFailed : Bool) : Record :=
  let schedule := kit.schedule target
  let dated := dedupeRuns (placed kit schedule observedAt items .dated)
  let carried := dedupeRuns (placed kit schedule observedAt items .carriedUnresolved)
  let undated := placed kit schedule observedAt items .undatedAnomaly
  let covering := match schedule.latestDueAt with
    | some latest => dated.filter fun run => coversLatestDue run latest observedAt
    | none => []
  let state := if schedule.state = "" then "unevaluable" else schedule.state
  let judged := judge dated undated covering carried state readFailed
  let laneSource := if !dated.isEmpty then dated else if !carried.isEmpty then carried else undated
  { targetKey := targetIdentity target
    status := judged.1.status
    kind := judged.1.kind
    completeness := if readFailed then "incomplete" else judged.1.completeness
    executionLane := (onlyLane (laneSource.map Run.executionLane)).getD "insufficient"
    runs := dated ++ carried ++ undated
    excludedReports := items.filterMap (excludedOf kit schedule observedAt)
    conflicts := judged.2 }

-- The reports that are matched with a target, in their order.
def matchedReports (kit : Kit) (targets reports : List Fields) (target : Fields) : List Prepared :=
  (reports.map prepareReport).filter fun item =>
    item.rejectReason.isNone && targetIdentity target != "" && kit.matchTarget item.payload targets == some (targetIdentity target)

-- `project_daily_runtime`, as far as its records go
def projectDailyRuntime (kit : Kit) (targets reports : List Fields) (observedAt : ℤ) (readErrors : List String) : List Record :=
  let errors := readErrors.filter fun error => strip error ≠ ""
  targets.map fun target => projectTarget kit target (matchedReports kit targets reports target) observedAt (!errors.isEmpty)

end LongBridge.Projection
