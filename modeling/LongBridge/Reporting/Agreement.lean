import LongBridge.CycleHealth.IncidentHistory
import LongBridge.Reporting.Monitors

namespace LongBridge.Reporting
open Effects CycleHealth

section Summaries
variable (fields : Fields)

theorem get_setIf_other (condition : Bool) {key other : String} (value : PyVal) (unlike : other ≠ key) :
    (setIf condition key value fields).get other = fields.get other := by
  unfold setIf
  split
  · exact Fields.get_set_other fields value unlike
  · rfl

theorem get_copyMapping_other (execution : Fields) {key other : String} (unlike : other ≠ key) :
    (copyMapping execution key fields).get other = fields.get other := by
  unfold copyMapping
  split
  · exact Fields.get_set_other fields _ unlike
  · rfl

theorem get_carried_other (execution : Fields) {keys : List String} {other : String} (unlike : other ∉ keys) :
    (keys.foldl (carry execution) fields).get other = fields.get other := by
  induction keys generalizing fields with
  | nil => rfl
  | cons key rest ih =>
    rw [List.mem_cons,not_or] at unlike
    rw [List.foldl_cons,ih _ unlike.2]
    exact get_setIf_other fields _ _ unlike.1

theorem get_setBlocked_other (execution : Fields) {other : String} (status : other ≠ "execution_status")
    (reason : other ≠ "blocked_reason") : (setBlocked execution fields).get other = fields.get other := by
  unfold setBlocked
  split
  · rw [Fields.get_set_other _ _ reason,Fields.get_set_other _ _ status]
  · rfl

end Summaries

variable {digest : CycleResult → PyVal} {result : CycleResult}

-- The keys the summary writes after its counts.
def laterKeys : List String :=
  ["orders_previewed","orders_pending","quote_snapshot","heartbeat_account_snapshot","blocked_reason","signal_date",
    "effective_date","execution_timing_contract","execution_calendar_source","durable_execution_command",
    "durable_live_execution_command","account_identity","notification_digest"]

theorem summary_get {dryRun : Bool} {key : String} (later : key ∉ laterKeys) (status : key ≠ "execution_status") :
    (summarizeCycleResultForReport digest (some result) dryRun).get key = (countedSummary result dryRun).get key := by
  simp only [laterKeys,List.mem_cons,List.not_mem_nil,or_false,not_or] at later
  obtain ⟨h1,h2,h3,h4,h5,h6,h7,h8,h9,h10,h11,h12,h13⟩ := later
  unfold summarizeCycleResultForReport
  dsimp only
  rw [Fields.get_set_other _ _ h13,get_copyMapping_other _ _ h12,get_copyMapping_other _ _ h11,
    get_copyMapping_other _ _ h10,get_carried_other _ _ (by simp [h6,h7,h8,h9]),get_setBlocked_other _ _ status h5,
    get_copyMapping_other _ _ h4,get_setIf_other _ _ _ h3,get_setIf_other _ _ _ h2,get_setIf_other _ _ _ h1]

theorem summary_status {dryRun : Bool} :
    (summarizeCycleResultForReport digest (some result) dryRun).get "execution_status" =
      .str (if blocked result.execution then "blocked" else executionStatus result dryRun) := by
  unfold summarizeCycleResultForReport
  dsimp only
  rw [Fields.get_set_other _ _ (by decide),get_copyMapping_other _ _ (by decide),get_copyMapping_other _ _ (by decide),
    get_copyMapping_other _ _ (by decide),get_carried_other _ _ (by decide)]
  unfold setBlocked
  by_cases stopped : blocked result.execution = true
  · rw [if_pos stopped,if_pos stopped,Fields.get_set_other _ _ (by decide),Fields.get_set_same]
  · rw [if_neg stopped,if_neg stopped,get_copyMapping_other _ _ (by decide),get_setIf_other _ _ _ (by decide),
      get_setIf_other _ _ _ (by decide),get_setIf_other _ _ _ (by decide)]
    rfl

-- What the kit's own description says of the functions that are called.
structure Resolves (kit : ReceiptKit) : Prop where
  reconciliation : ∀ attempted, (kit.resolveFact false attempted true false).1 = "reconciliation_required"
  submission : (kit.resolveFact false true false false).1 = "submitted"
  nothing : kit.resolveFact false false false false = ("no_action","not_applicable")

structure Documented (kit : ReceiptKit) : Prop extends Resolves kit where
  attached : ∀ {report next outcome confirmation}, kit.attachRuntime report outcome confirmation = .ok next →
    ∃ receipt : Fields, next = report.set "execution_receipt" (.dict receipt) ∧
      receipt.get "outcome" = .str outcome ∧ receipt.get "broker_confirmation" = .str confirmation
  validated : ∀ {report value receipt}, kit.attach report value = .ok receipt →
    (mappingOf value).get "outcome" = .str receipt.outcome ∧
      (mappingOf value).get "broker_confirmation" = .str receipt.brokerConfirmation

-- The report of a completed run: the receipt of the cycle, then the final fields. The
-- summary of the cycle is merged into what the report already held.
structure Completed (kit : ReceiptKit) (digest : CycleResult → PyVal) (base : Fields) (result : CycleResult)
    (report summary : Fields) : Prop where
  real : (base.get "dry_run").truthy = false
  receipt : ∃ attached, attachCycleExecutionReceipt kit base (some result) = .ok attached ∧
    report.get "execution_receipt" = attached.get "execution_receipt"
  summarized : report.get "summary" = .dict summary
  merged : ∀ key, (summarizeCycleResultForReport digest (some result) false).has key = true →
    summary.get key = (summarizeCycleResultForReport digest (some result) false).get key
  status : report.get "status" = .str "ok"
  errors : errorsPresent report = false

theorem has_of_get {fields : Fields} {key : String} (some_ : fields.get key ≠ .none) : fields.has key = true := by
  unfold Fields.has
  cases found : fields.lookup key with
  | none => exact absurd (by unfold Fields.get; rw [found]; rfl) some_
  | some value => rfl

def quietOutcomes : List String := ["no_action","no_signal","no_rebalance"]

theorem explicit_quiet {execution : Fields} {outcome : String} (found : explicitNonActionOutcome execution = some outcome) :
    outcome ∈ quietOutcomes := by
  unfold explicitNonActionOutcome at found
  dsimp only at found
  split at found
  · cases found
  · split at found
    · cases found; decide
    · split at found
      · cases found; decide
      · cases found

-- Nothing pending, nothing submitted: the receipt is a quiet one, blocked or not.
theorem cycleOutcome_quiet {kit : ReceiptKit} (documented : Resolves kit) (none : result.pendingOrders = [])
    (idle : result.actionDone = false) : (cycleOutcome kit false (some result)).1 ∈ quietOutcomes ∧
      (cycleOutcome kit false (some result)).2 = "not_applicable" := by
  unfold cycleOutcome
  simp only [Option.map_some,Option.getD_some,none,idle,List.isEmpty_nil,Bool.not_true,documented.nothing,and_self,if_true]
  cases found : explicitNonActionOutcome result.execution with
  | none => exact ⟨by decide,rfl⟩
  | some outcome => exact ⟨explicit_quiet found,rfl⟩

theorem cycleOutcome_success {kit : ReceiptKit} (documented : Resolves kit)
    (healthy : (cycleOutcome kit false (some result)).1 ∈ success) :
    result.pendingOrders = [] ∧ result.actionDone = false := by
  unfold cycleOutcome at healthy
  simp only [Option.map_some,Option.getD_some] at healthy
  by_cases pending : result.pendingOrders = []
  · refine ⟨pending,?_⟩
    cases attempted : result.actionDone with
    | false => rfl
    | true =>
      rw [pending,attempted,List.isEmpty_nil,Bool.not_true,if_neg (by rw [documented.submission]; simp),
        documented.submission] at healthy
      exact absurd healthy (by decide)
  · have listed : (!result.pendingOrders.isEmpty) = true := by simpa using pending
    rw [listed,if_neg (by rw [documented.reconciliation]; simp),documented.reconciliation] at healthy
    exact absurd healthy (by decide)

theorem projectCycle_receipt {kit : ReceiptKit} {health : Kit} {clock : CycleHealth.Clock} {context : TargetContext} {report : Fields}
    {scheduledFor : String} {now : ℤ} {cycle : Cycle}
    (accepted : projectCycle kit health clock context report scheduledFor now = .ok cycle) :
    ∃ receipt, kit.attach report (report.get "execution_receipt") = .ok receipt ∧ cycle.outcome = receipt.outcome ∧
      cycle.executionState = executionState receipt.brokerConfirmation := by
  obtain ⟨receipt,checked,accepted⟩ := bind_ok.mp accepted
  obtain ⟨_,_,accepted⟩ := bind_ok.mp accepted
  obtain ⟨_,_,accepted⟩ := bind_ok.mp accepted
  obtain ⟨_,_,accepted⟩ := bind_ok.mp accepted
  obtain ⟨_,_,accepted⟩ := bind_ok.mp accepted
  obtain ⟨_,_,accepted⟩ := bind_ok.mp accepted
  obtain ⟨_,_,accepted⟩ := bind_ok.mp accepted
  cases return_ok.mp accepted
  obtain ⟨_,_,checked⟩ := bind_ok.mp checked
  obtain ⟨other,attached,checked⟩ := bind_ok.mp checked
  obtain ⟨_,_,checked⟩ := bind_ok.mp checked
  obtain ⟨_,_,checked⟩ := bind_ok.mp checked
  obtain ⟨_,_,checked⟩ := bind_ok.mp checked
  obtain ⟨_,_,checked⟩ := bind_ok.mp checked
  obtain ⟨_,_,checked⟩ := bind_ok.mp checked
  obtain ⟨_,_,checked⟩ := bind_ok.mp checked
  obtain ⟨_,_,checked⟩ := bind_ok.mp checked
  obtain ⟨_,_,checked⟩ := bind_ok.mp checked
  cases return_ok.mp checked
  exact ⟨receipt,attached,rfl,rfl⟩

theorem completed_receipt {kit : ReceiptKit} (documented : Documented kit) {base report summary : Fields}
    (completed : Completed kit digest base result report summary) {receipt : Receipt}
    (attached : kit.attach report (report.get "execution_receipt") = .ok receipt) :
    receipt.outcome = (cycleOutcome kit false (some result)).1 ∧
      receipt.brokerConfirmation = (cycleOutcome kit false (some result)).2 ∧
      (mappingOf (report.get "execution_receipt")).get "outcome" = .str receipt.outcome := by
  obtain ⟨next,made,same⟩ := completed.receipt
  unfold attachCycleExecutionReceipt at made
  rw [completed.real] at made
  obtain ⟨fields,rfl,outcome,confirmation⟩ := documented.attached made
  rw [Fields.get_set_same] at same
  obtain ⟨outcome',confirmation'⟩ := documented.validated attached
  refine ⟨?_,?_,outcome'⟩
  · rw [same] at outcome'
    exact PyVal.str.inj (outcome'.symm.trans outcome)
  · rw [same] at confirmation'
    exact PyVal.str.inj (confirmation'.symm.trans confirmation)

theorem incidentCategory_none {cycle : Cycle} : incidentCategory cycle = none ↔
    cycle.executionState ≠ "unresolved" ∧ cycle.outcome ≠ "missing_report" ∧ cycle.outcome ∈ success := by
  unfold incidentCategory
  by_cases uncertain : cycle.executionState = "unresolved" ∨ cycle.outcome = "missing_report"
  · rw [if_pos uncertain]
    simp only [reduceCtorEq,false_iff,not_and]
    intro resolved present
    exact absurd uncertain (not_or.mpr ⟨resolved,present⟩)
  · rw [if_neg uncertain]
    obtain ⟨resolved,present⟩ := not_or.mp uncertain
    by_cases fine : cycle.outcome ∈ success <;> simp [fine,resolved,present]

-- A quiet receipt beside an idle summary: only the blocked status is seen.
theorem activity_idle {report summary : Fields} {outcome : String} (lane : String) {stopped : Bool}
    (status : summary.get "execution_status" = .str (if stopped then "blocked" else "no_action"))
    (pending : summary.get "orders_pending_count" = .int 0) (broker : summary.get "broker_submission_done" = .bool false)
    (action : summary.get "action_done" = .bool false)
    (receipt : (mappingOf (report.get "execution_receipt")).get "outcome" = .str outcome) (quiet : outcome ∈ quietOutcomes)
    (ok : report.get "status" = .str "ok") (clean : errorsPresent report = false) :
    activity report summary lane ∈ anomalies ↔ stopped = true := by
  have counted : pendingCount summary = some 0 := by unfold pendingCount; rw [pending]
  have plain : lowerText (.str outcome) = outcome := by
    rcases List.mem_cons.mp quiet with rfl | quiet
    · decide +kernel
    · rcases List.mem_cons.mp quiet with rfl | quiet
      · decide +kernel
      · rw [List.mem_singleton.mp quiet]; decide +kernel
  have idle : lowerText (.str "no_action") = "no_action" := by decide +kernel
  have halted : lowerText (.str "blocked") = "blocked" := by decide +kernel
  have fine : lowerText (.str "ok") = "ok" := by decide +kernel
  unfold activity
  simp only [status,counted,broker,action,receipt,plain,ok,clean,fine]
  simp only [quietOutcomes,List.mem_cons,List.not_mem_nil,or_false] at quiet
  cases stopped
  · simp only [Bool.false_eq_true,if_false,idle]
    have unrelated : endsWith "no_action" "_blocked" = false := by decide +kernel
    rcases quiet with rfl | rfl | rfl <;> simp [isTrue,isFalse,quietName,anomalies,orderActivities,unrelated]
  · simp only [if_true,halted]
    rcases quiet with rfl | rfl | rfl <;> simp [anomalies]

theorem idle_summary {kit : ReceiptKit} {base report summary : Fields}
    (completed : Completed kit digest base result report summary) (pending : result.pendingOrders = [])
    (idle : result.actionDone = false) :
    summary.get "execution_status" = .str (if blocked result.execution then "blocked" else "no_action") ∧
      summary.get "orders_pending_count" = .int 0 ∧ summary.get "broker_submission_done" = .bool false ∧
      summary.get "action_done" = .bool false := by
  have kept : ∀ key, key ∉ laterKeys → key ≠ "execution_status" → (countedSummary result false).get key ≠ .none →
      summary.get key = (countedSummary result false).get key := by
    intro key later status present
    have same := @summary_get digest result false key later status
    rw [completed.merged key (has_of_get (by rw [same]; exact present)),same]
  refine ⟨?_,?_,?_,?_⟩
  · rw [completed.merged "execution_status" (has_of_get (by rw [summary_status]; simp)),summary_status]
    simp [executionStatus,pending]
  · rw [kept "orders_pending_count" (by decide) (by decide) (by simp [countedSummary,Fields.get,List.lookup_cons])]
    simp [countedSummary,Fields.get,List.lookup_cons,pending]
  · rw [kept "broker_submission_done" (by decide) (by decide) (by simp [countedSummary,Fields.get,List.lookup_cons])]
    simp [countedSummary,Fields.get,List.lookup_cons,idle]
  · rw [kept "action_done" (by decide) (by decide) (by simp [countedSummary,Fields.get])]
    simp [countedSummary,Fields.get,idle]

-- The health monitor takes a blocked run that submitted nothing for a healthy one; it
-- agrees with the daily projection about every other report it accepts.
theorem healthy_cycles_are_quiet_iff {kit : ReceiptKit} {health : Kit} {clock : CycleHealth.Clock} {context : TargetContext}
    {base report summary : Fields} {scheduledFor : String} {now : ℤ} {cycle : Cycle} (documented : Documented kit)
    (completed : Completed kit digest base result report summary)
    (accepted : projectCycle kit health clock context report scheduledFor now = .ok cycle) (lane : String) :
    (incidentCategory cycle = none → activity report summary lane ∉ anomalies) ↔
      ¬(blocked result.execution = true ∧ result.pendingOrders = [] ∧ result.actionDone = false) := by
  obtain ⟨receipt,attached,outcome,state⟩ := projectCycle_receipt accepted
  obtain ⟨fact,confirmation,shown⟩ := completed_receipt documented completed attached
  have idle : result.pendingOrders = [] → result.actionDone = false →
      (activity report summary lane ∈ anomalies ↔ blocked result.execution = true) := by
    intro pending none
    obtain ⟨status,count,broker,action⟩ := idle_summary completed pending none
    obtain ⟨quiet,_⟩ := cycleOutcome_quiet documented.toResolves pending none
    exact activity_idle lane status count broker action shown (fact ▸ quiet) completed.status completed.errors
  constructor
  · intro quiet stopped
    obtain ⟨halted,pending,none⟩ := stopped
    obtain ⟨listed,applicable⟩ := cycleOutcome_quiet documented.toResolves pending none
    refine quiet (incidentCategory_none.mpr ?_) ((idle pending none).mpr halted)
    rw [state,outcome,fact,confirmation,applicable]
    refine ⟨by decide,?_,?_⟩
    · intro missing
      rw [missing] at listed
      exact absurd listed (by decide)
    · simp only [quietOutcomes,List.mem_cons,List.not_mem_nil,or_false] at listed
      rcases listed with same | same | same <;> rw [same] <;> decide
  · intro condition healthy
    obtain ⟨_,_,fine⟩ := incidentCategory_none.mp healthy
    rw [outcome,fact] at fine
    obtain ⟨pending,none⟩ := cycleOutcome_success documented.toResolves fine
    rw [idle pending none]
    intro halted
    exact condition ⟨halted,pending,none⟩

-- The kit on the values of the examples below.
def sampleFact (dryRun submissionAttempted reconciliationRequired failed : Bool) : String × String :=
  if dryRun then ("no_action","not_applicable")
  else if reconciliationRequired then ("reconciliation_required","not_observed")
  else if failed then ("failed","not_observed")
  else if submissionAttempted then ("submitted","not_observed") else ("no_action","not_applicable")

def sampleRevision : String := "aaaaaaaaaaaaaaaaaaaaaaaaaaaaaaaaaaaaaaaa"

def sampleReceipt (outcome brokerConfirmation : String) : Fields :=
  [("receipt_id",.str "execution-receipt.0123456789abcdef0123456789abcdef"),("strategy_revision",.str sampleRevision),
    ("execution_mode",.str "paper"),("observed_at",.str "2026-10-05T15:01:00Z"),("outcome",.str outcome),
    ("broker_confirmation",.str brokerConfirmation)]

def textField (entries : Fields) (key : String) : Except PyExc String :=
  match entries.get key with
  | .str text => .ok text
  | _ => .error (valueError "invalid execution receipt")

def readReceipt (entries : Fields) : Except PyExc Receipt := do
  let receiptId ← textField entries "receipt_id"
  let strategyRevision ← textField entries "strategy_revision"
  let executionMode ← textField entries "execution_mode"
  let observedAt ← textField entries "observed_at"
  let outcome ← textField entries "outcome"
  let brokerConfirmation ← textField entries "broker_confirmation"
  return { receiptId, strategyRevision, executionMode, observedAt, outcome, brokerConfirmation }

def sampleKit : ReceiptKit where
  resolveFact := sampleFact
  attachRuntime report outcome brokerConfirmation :=
    .ok (report.set "execution_receipt" (.dict (sampleReceipt outcome brokerConfirmation)))
  attach _ value := readReceipt (mappingOf value)

theorem textField_ok {entries : Fields} {key text : String} (read : textField entries key = .ok text) :
    entries.get key = .str text := by
  unfold textField at read
  split at read
  · rename_i value found
    cases read
    exact found
  · cases read

theorem sampleKit_documented : Documented sampleKit where
  reconciliation attempted := by cases attempted <;> rfl
  submission := rfl
  nothing := rfl
  attached made := by
    cases made
    exact ⟨_,rfl,rfl,rfl⟩
  validated read := by
    obtain ⟨_,_,read⟩ := bind_ok.mp read
    obtain ⟨_,_,read⟩ := bind_ok.mp read
    obtain ⟨_,_,read⟩ := bind_ok.mp read
    obtain ⟨_,_,read⟩ := bind_ok.mp read
    obtain ⟨_,outcome,read⟩ := bind_ok.mp read
    obtain ⟨_,confirmation,read⟩ := bind_ok.mp read
    cases return_ok.mp read
    exact ⟨textField_ok outcome,textField_ok confirmation⟩

def sampleContext : TargetContext :=
  { paperContext with
    service := "longbridge-paper"
    strategyProfile := "sg_us_equity_rotation"
    strategyRevision := sampleRevision
    schedulerJobName := "longbridge-paper-run" }

def sampleBase : Fields :=
  [("platform",.str "longbridge"),("service_name",.str "longbridge-paper"),
    ("strategy_profile",.str "sg_us_equity_rotation"),("account_scope",.str "PAPER"),("dry_run",.bool false),
    ("validation_only",.bool false),("started_at",.str "2026-10-05T15:00:00Z"),("errors",.list [])]

-- A cycle that returned early because its durable command does not fit.
def stoppedCycle : CycleResult where
  logs := []
  skipLogs := []
  noteLogs := []
  dryRunOrders := []
  pendingOrders := []
  quoteSnapshots := []
  actionDone := false
  execution := [("execution_status",.str "blocked"),("blocked_reason",.str bindingInvalid)]

def idleCycle : CycleResult := { stoppedCycle with execution := [("no_op_reason",.str "no_signal")] }

def sampleSummary (result : CycleResult) : Fields := summarizeCycleResultForReport (fun _ => .none) (some result) false

def sampleReport (result : CycleResult) (outcome : String) : Fields :=
  (((sampleBase.set "execution_receipt" (.dict (sampleReceipt outcome "not_applicable"))).set "status" (.str "ok")).set
    "finished_at" (.str "2026-10-05T15:01:00Z")).set "summary" (.dict (sampleSummary result))

theorem idleCycle_completed : Completed sampleKit (fun _ => .none) sampleBase idleCycle
    (sampleReport idleCycle "no_signal") (sampleSummary idleCycle) where
  real := rfl
  receipt := ⟨_,rfl,by rfl⟩
  summarized := rfl
  merged _ _ := rfl
  status := rfl
  errors := rfl

theorem stoppedCycle_completed : Completed sampleKit (fun _ => .none) sampleBase stoppedCycle
    (sampleReport stoppedCycle "no_action") (sampleSummary stoppedCycle) where
  real := rfl
  receipt := ⟨_,rfl,by rfl⟩
  summarized := rfl
  merged _ _ := rfl
  status := rfl
  errors := rfl

def sampleCycle (outcome : String) : Cycle :=
  { cycleId := "cycle.ac585b8b53d34bf16a5cc4cca125fd0452e5053d4bd1d42b3803f169e8183703"
    scheduledFor := "2026-10-05T15:00:00Z"
    receiptRef := some "execution-receipt.0123456789abcdef0123456789abcdef"
    completedAt := some "2026-10-05T15:01:00Z"
    outcome
    executionState := "no_submission"
    correlation := "window_matched" }

def project (report : Fields) : Except PyExc Cycle :=
  projectCycle sampleKit paperKit paperClock sampleContext report "2026-10-05T15:00:00Z" 1791298800000000

theorem idle_cycle_is_quiet :
    activity (sampleReport idleCycle "no_signal") (sampleSummary idleCycle) "paper" ∉ anomalies :=
  (healthy_cycles_are_quiet_iff sampleKit_documented idleCycle_completed
    (by decide +kernel : project (sampleReport idleCycle "no_signal") = .ok (sampleCycle "no_signal")) "paper").mpr
    (by decide +kernel) (by decide +kernel)

theorem stopped_cycle_counts_as_healthy :
    Completed sampleKit (fun _ => .none) sampleBase stoppedCycle (sampleReport stoppedCycle "no_action")
        (sampleSummary stoppedCycle) ∧
      project (sampleReport stoppedCycle "no_action") = .ok (sampleCycle "no_action") ∧
      incidentCategory (sampleCycle "no_action") = none ∧
      activity (sampleReport stoppedCycle "no_action") (sampleSummary stoppedCycle) "paper" = "blocked" :=
  ⟨stoppedCycle_completed,by decide +kernel,by decide +kernel,by decide +kernel⟩

end LongBridge.Reporting
