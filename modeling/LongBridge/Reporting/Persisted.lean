import LongBridge.Reporting.Evidence

namespace LongBridge.Reporting
open Effects CycleHealth

variable {kit : ReportKit} {clock : CycleHealth.Clock} {context : TargetContext} {base : Fields} {started now : ℤ}
  {digest : CycleResult → PyVal} {answers : Answers}

def pendingOf : Option CycleResult → PyVal
  | none => .none
  | some result => .int result.pendingOrders.length

def submittedOf : Option CycleResult → PyVal
  | none => .none
  | some result => .bool result.actionDone

-- A cycle that left pending orders or submitted one.
def busy : Option CycleResult → Bool
  | none => false
  | some result => !result.pendingOrders.isEmpty || result.actionDone

theorem cycleOutcome_busy (supplied : Supplied kit clock context base started now) {result : Option CycleResult}
    (active : busy result = true) : (cycleOutcome kit.toReceiptKit false result).1 ∉ success ∧
      (cycleOutcome kit.toReceiptKit false result).2 ≠ "not_applicable" := by
  cases result with
  | none => cases active
  | some result =>
    unfold cycleOutcome
    simp only [Option.map_some,Option.getD_some]
    by_cases pending : result.pendingOrders = []
    · have attempted : result.actionDone = true := by simpa [busy,pending] using active
      have shown := supplied.observable true false (.inl rfl)
      simp only [pending,attempted,List.isEmpty_nil,Bool.not_true]
      rw [if_neg (by rw [supplied.submission]; simp),supplied.submission]
      exact ⟨by decide,shown⟩
    · have listed : (!result.pendingOrders.isEmpty) = true := by simpa using pending
      have shown := supplied.observable result.actionDone true (.inr rfl)
      rw [listed,if_neg (by rw [supplied.reconciliation]; simp),supplied.reconciliation]
      exact ⟨by decide,shown⟩

theorem cycleOutcome_absent (supplied : Supplied kit clock context base started now) :
    cycleOutcome kit.toReceiptKit false none = ("no_action","not_applicable") := by
  unfold cycleOutcome
  simp only [Option.map_none,Option.getD_none,List.isEmpty_nil,Bool.not_true,supplied.nothing,and_self,if_true]
  have silent : explicitNonActionOutcome [] = none := by decide +kernel
  rw [silent]

theorem cycle_agrees (supplied : Supplied kit clock context base started now) (result : Option CycleResult)
    {errors : List PyVal} {status : PyVal} (fits : errors = [] → isOneOf status ["error","failed","blocked"] = false) :
    Agrees (cycleOutcome kit.toReceiptKit false result).1 (cycleOutcome kit.toReceiptKit false result).2 errors status
        (pendingOf result) (submittedOf result) ↔
      busy result = true ∨ errors = [] ∧ result.isSome = true := by
  cases active : busy result with
  | true =>
    obtain ⟨failing,observable⟩ := cycleOutcome_busy supplied active
    cases result with
    | none => cases active
    | some result => simp [Agrees,failing,observable,pendingOf,submittedOf,isCount,isBool]
  | false =>
    cases result with
    | none =>
      rw [cycleOutcome_absent supplied]
      simp [Agrees,success,pendingOf,isCount]
    | some result =>
      have idle : result.pendingOrders = [] ∧ result.actionDone = false := by simpa [busy] using active
      obtain ⟨quiet,confirmation⟩ := cycleOutcome_quiet supplied.toResolves idle.1 idle.2
      have fine : (cycleOutcome kit.toReceiptKit false (some result)).1 ∈ success := by
        simp only [quietOutcomes,List.mem_cons,List.not_mem_nil,or_false] at quiet
        rcases quiet with same | same | same <;> rw [same] <;> decide
      simp only [Agrees,fine,confirmation,pendingOf,submittedOf,isCount,isBool,idle.1,idle.2,PyVal.truthy]
      simpa using fits

theorem setSome_lookup {key other : String} (unlike : other ≠ key) (value : Option PyVal) (fields : Fields) :
    (setSome key value fields).lookup other = fields.lookup other := by
  cases value with
  | none => rfl
  | some value => exact Fields.lookup_set_other fields value unlike

def reportingKeys : List String :=
  ["routine_observation_counts","notification_digest","notification_delivery_log","notification_delivery_summary"]

theorem executionSummary_lookup {key : String} (other : key ∉ reportingKeys) (counts : PyVal) (result : Option CycleResult)
    (additions : Additions) (dryRun : Bool) : (executionSummary digest counts result additions dryRun).lookup key =
      (summarizeCycleResultForReport digest result dryRun).lookup key := by
  simp only [reportingKeys,List.mem_cons,List.not_mem_nil,or_false,not_or] at other
  obtain ⟨h1,h2,h3,h4⟩ := other
  unfold executionSummary
  rw [setSome_lookup h4,setSome_lookup h3,setSome_lookup h2,Fields.lookup_set_other _ _ h1]

-- The evidence of the cycle, read through whatever the summary is merged into.
theorem merged_evidence {key : String} {value : PyVal} (result : Option CycleResult) (counts : PyVal) (additions : Additions)
    (other : key ∉ reportingKeys)
    (shown : match result with
      | none => emptySummary.has key = false ∧ value = .none
      | some result => (summarizeCycleResultForReport digest (some result) false).get key = value ∧ value ≠ .none) :
    (if (executionSummary digest counts result additions false).has key then
      (executionSummary digest counts result additions false).get key else PyVal.none) = value := by
  have same := @executionSummary_lookup digest key other counts result additions false
  unfold Fields.has Fields.get
  rw [same]
  cases result with
  | none =>
    obtain ⟨absent,rfl⟩ := shown
    unfold Fields.has at absent
    exact if_neg (by rw [show summarizeCycleResultForReport digest none false = emptySummary from rfl,absent]; simp)
  | some result =>
    obtain ⟨found,present⟩ := shown
    have held := has_of_get (by rw [found]; exact present)
    unfold Fields.has at held
    rw [if_pos held]
    exact found

theorem pending_evidence (result : Option CycleResult) (counts : PyVal) (additions : Additions) :
    (if (executionSummary digest counts result additions false).has "orders_pending_count" then
      (executionSummary digest counts result additions false).get "orders_pending_count" else PyVal.none) =
      pendingOf result := by
  apply merged_evidence result counts additions (by decide)
  cases result with
  | none => exact ⟨by decide,rfl⟩
  | some result =>
    refine ⟨?_,by simp [pendingOf]⟩
    rw [summary_get (by decide) (by decide)]
    simp [countedSummary,Fields.get,List.lookup_cons,pendingOf]

theorem submitted_evidence (result : Option CycleResult) (counts : PyVal) (additions : Additions) :
    (if (executionSummary digest counts result additions false).has "broker_submission_done" then
      (executionSummary digest counts result additions false).get "broker_submission_done" else PyVal.none) =
      submittedOf result := by
  apply merged_evidence result counts additions (by decide)
  cases result with
  | none => exact ⟨by decide,rfl⟩
  | some result =>
    refine ⟨?_,by simp [submittedOf]⟩
    rw [summary_get (by decide) (by decide)]
    simp [countedSummary,Fields.get,List.lookup_cons,submittedOf]

-- A finished report that carries the receipt of its cycle.
structure Ended (kit : ReportKit) (clock : CycleHealth.Clock) (context : TargetContext) (base : Fields) (started now : ℤ)
    (result : Option CycleResult) (report : Fields) (errors : List PyVal) : Prop where
  underway : Underway base report errors (pendingOf result) (submittedOf result)
  carries : Carries kit clock context base started now report (cycleOutcome kit.toReceiptKit false result).1
    (cycleOutcome kit.toReceiptKit false result).2
  finished : Finished clock started now report

theorem cycleReport_ended (supplied : Supplied kit clock context base started now) {before : Fields}
    (underway : Underway base before [] .none .none) (counts : PyVal) (result : Option CycleResult) (additions : Additions) :
    ∃ finished, cycleReport kit digest answers before counts result additions = .ok finished ∧
      Ended kit clock context base started now result finished [] ∧ finished.get "status" = .str "ok" := by
  obtain ⟨attached,value,made,rfl,carries⟩ := attached_carries supplied underway.same
    (cycleOutcome kit.toReceiptKit false result).1 (cycleOutcome kit.toReceiptKit false result).2
  have real := real_run supplied underway.same
  have ready := underway_receipt underway value
  unfold cycleReport attachCycleExecutionReceipt
  simp only [real,made]
  refine ⟨_,rfl,⟨⟨sameRun_finalize supplied ready.same _ _ _,?_,?_⟩,carries_of_get carries ?_,?_⟩,supplied.states _ _ _ _⟩
  · rw [finalize_get supplied (by decide)]; exact ready.errors
  · obtain ⟨old,shown,held,done⟩ := ready.summary
    obtain ⟨merged,written,keys⟩ := supplied.merges (before.set "execution_receipt" value) "ok"
      (some (executionSummary digest counts result additions false))
      (if answers.signalSnapshot.isEmpty then [] else [("signal_snapshot",.dict answers.signalSnapshot)])
    refine ⟨merged,written,?_,?_⟩
    · rw [keys,shown,mappingOf,held]; exact pending_evidence result counts additions
    · rw [keys,shown,mappingOf,done]; exact submitted_evidence result counts additions
  · exact finalize_get supplied (by decide) ..
  · exact supplied.stamps _ _ _ _

theorem ended_accepted (supplied : Supplied kit clock context base started now) {result : Option CycleResult}
    {report : Fields} {errors : List PyVal} {status : PyVal}
    (ended : Ended kit clock context base started now result report errors) (stated : report.get "status" = status)
    (fits : errors = [] → isOneOf status ["error","failed","blocked"] = false) :
    Accepted kit clock context (withReceipt kit report) now ↔ busy result = true ∨ errors = [] ∧ result.isSome = true := by
  have kept : withReceipt kit report = report := by
    obtain ⟨entries,shown,_⟩ := ended.carries
    unfold withReceipt
    rw [if_pos (has_of_get (by rw [shown]; simp))]
  rw [kept,accepted_iff supplied (shaped_of ended.underway ended.carries ended.finished stated)]
  exact cycle_agrees supplied result fits

theorem errorSummary_silent (deliverySummary : Option PyVal) :
    (((deliverySummary.map fun value => [("notification_delivery_summary",value)] : Option Fields).getD []).has
        "orders_pending_count" = false) ∧
      (((deliverySummary.map fun value => [("notification_delivery_summary",value)] : Option Fields).getD []).has
        "broker_submission_done" = false) := by
  cases deliverySummary <;> exact ⟨rfl,rfl⟩

-- The error handler keeps the receipt of the cycle and records the error beside it.
theorem handled_ended (supplied : Supplied kit clock context base started now) {result : Option CycleResult}
    {report : Fields} {exc : PyExc} (ended : Ended kit clock context base started now result report [])
    (handled : caught exc = true) :
    ∃ errors, errors ≠ [] ∧ Ended kit clock context base started now result (handleFailure kit answers report exc) errors := by
  obtain ⟨errors,some_,noted⟩ := underway_noted supplied ended.underway exc.kind
  obtain ⟨listed,_,same⟩ := supplied.appends report exc.kind
  have carries : Carries kit clock context base started now (kit.appendError report exc.kind)
      (cycleOutcome kit.toReceiptKit false result).1 (cycleOutcome kit.toReceiptKit false result).2 := by
    refine carries_of_get ended.carries ?_
    rw [same]; exact Fields.get_set_other _ _ (by decide)
  have finished : Finished clock started now (kit.appendError report exc.kind) := by
    obtain ⟨text,shown,within⟩ := ended.finished
    refine ⟨text,?_,within⟩
    rw [same,Fields.get_set_other _ _ (by decide)]; exact shown
  refine ⟨errors,some_,?_⟩
  unfold handleFailure
  rw [if_pos handled]
  cases answers.failureReported with
  | error _ => exact ⟨noted,carries,finished⟩
  | ok deliverySummary =>
    exact ⟨underway_finalize supplied noted _ _ (errorSummary_silent deliverySummary),
      carries_of_get carries (finalize_get supplied (by decide) ..),supplied.stamps _ _ _ _⟩

-- The error handler runs to its end.
def Handled (answers : Answers) (exc : PyExc) : Prop := caught exc = true ∧ answers.failureReported.isOk = true

-- After an exception without a cycle result: a handled one leaves a failed receipt behind.
theorem handled_accepted (supplied : Supplied kit clock context base started now) {report : Fields} {exc : PyExc}
    (underway : Underway base report [] .none .none) (bare : Bare report) (handled : Handled answers exc) :
    Accepted kit clock context (withReceipt kit (handleFailure kit answers report exc)) now := by
  obtain ⟨within,done⟩ := handled
  obtain ⟨errors,_,noted⟩ := underway_noted supplied underway exc.kind
  have still := bare_noted supplied bare exc.kind
  unfold handleFailure
  rw [if_pos within]
  cases reported : answers.failureReported with
  | error _ => rw [reported] at done; cases done
  | ok deliverySummary =>
    exact (fallback_accepted supplied (underway_finalize supplied noted _ _ (errorSummary_silent deliverySummary))
      (bare_finalize supplied still _ _ _) (supplied.stamps _ _ _ _) (supplied.states _ _ _ _)).mpr (by decide +kernel)

theorem unhandled_left (supplied : Supplied kit clock context base started now) {report : Fields} {exc : PyExc}
    {errors : List PyVal} {pending submitted : PyVal} (underway : Underway base report errors pending submitted)
    (bare : Bare report) (unhandled : ¬Handled answers exc) :
    ∃ errors', Underway base (handleFailure kit answers report exc) errors' pending submitted ∧
      Bare (handleFailure kit answers report exc) ∧
      ∀ key, key ≠ "errors" → (handleFailure kit answers report exc).get key = report.get key := by
  unfold handleFailure
  by_cases within : caught exc = true
  · rw [if_pos within]
    cases reported : answers.failureReported with
    | ok _ => exact absurd ⟨within,by rw [reported]; rfl⟩ unhandled
    | error _ =>
      obtain ⟨errors',_,noted⟩ := underway_noted supplied underway exc.kind
      refine ⟨errors',noted,bare_noted supplied bare exc.kind,?_⟩
      intro key other
      obtain ⟨_,_,same⟩ := supplied.appends report exc.kind
      rw [same]
      exact Fields.get_set_other _ _ other
  · rw [if_neg within]
    exact ⟨errors,underway,bare,fun _ _ => rfl⟩

-- The endings whose report the monitor can count: a cycle with a result, or an exception
-- that the handler turned into a failed receipt. A receipt of success does not survive
-- an exception behind it.
def Evidenced (answers : Answers) : Prop :=
  match ending answers with
  | .skipped _ => False
  | .skippedThenRaised _ exc => Handled answers exc
  | .raised _ exc => Handled answers exc
  | .completed _ result _ => result.isSome = true
  | .completedThenRaised _ result _ exc => busy result = true ∨ caught exc = false ∧ result.isSome = true

theorem skipped_left (supplied : Supplied kit clock context base started now) (reason : String) :
    Underway base (kit.finalize base "skipped" none (skipDiagnostics reason)) [] .none .none ∧
      Bare (kit.finalize base "skipped" none (skipDiagnostics reason)) ∧
      Finished clock started now (kit.finalize base "skipped" none (skipDiagnostics reason)) ∧
      (kit.finalize base "skipped" none (skipDiagnostics reason)).get "status" = .str "skipped" :=
  ⟨underway_finalize supplied (underway_base supplied) _ _ ⟨rfl,rfl⟩,bare_finalize supplied supplied.bare _ _ _,
    supplied.stamps _ _ _ _,supplied.states _ _ _ _⟩

theorem skipped_refused (supplied : Supplied kit clock context base started now) {left : Fields} {errors : List PyVal}
    (underway : Underway base left errors .none .none) (bare : Bare left) (finished : Finished clock started now left)
    (stated : left.get "status" = .str "skipped") : ¬Accepted kit clock context (withReceipt kit left) now := by
  rw [fallback_accepted supplied underway bare finished stated]
  decide +kernel

theorem unfinished_refused (supplied : Supplied kit clock context base started now) {left : Fields} {errors : List PyVal}
    (underway : Underway base left errors .none .none) (bare : Bare left) (open_ : left.get "finished_at" = .none) :
    ¬Accepted kit clock context (withReceipt kit left) now := by
  apply not_accepted
  unfold withReceipt
  rw [if_neg (by rw [bare]; simp)]
  unfold attachTerminalFallbackExecutionReceipt
  obtain ⟨attached,value,made,rfl,_⟩ := attached_carries supplied underway.same
    (kit.resolveFact (left.get "dry_run").truthy (decide (lower (strip (left.get "status").textOrEmpty) = "error")) false
      (decide (lower (strip (left.get "status").textOrEmpty) = "error"))).1
    (kit.resolveFact (left.get "dry_run").truthy (decide (lower (strip (left.get "status").textOrEmpty) = "error")) false
      (decide (lower (strip (left.get "status").textOrEmpty) = "error"))).2
  simp only [made]
  rw [Fields.get_set_other _ _ (by decide)]
  exact open_

theorem counted_finished (counts : Option PyVal) : (counted counts base).get "finished_at" = base.get "finished_at" := by
  cases counts with
  | none => rfl
  | some counts => exact Fields.get_set_other base _ (by decide)

theorem late_accepted (supplied : Supplied kit clock context base started now) {result : Option CycleResult}
    {report : Fields} {exc : PyExc} (ended : Ended kit clock context base started now result report [])
    (stated : report.get "status" = .str "ok") :
    Accepted kit clock context (withReceipt kit (handleFailure kit answers report exc)) now ↔
      busy result = true ∨ caught exc = false ∧ result.isSome = true := by
  cases handled : caught exc with
  | true =>
    obtain ⟨errors,some_,still⟩ := @handled_ended kit clock context base started now answers supplied result report exc ended handled
    rw [ended_accepted supplied still rfl fun none => absurd none some_]
    simp [some_]
  | false =>
    have same : handleFailure kit answers report exc = report := by
      unfold handleFailure
      rw [if_neg (by rw [handled]; simp)]
    rw [same,ended_accepted supplied ended stated fun _ => by decide +kernel]
    simp

-- Which executions leave a report that the receipt check of the collector takes.
theorem persisted_report_accepted_iff (supplied : Supplied kit clock context base started now) (digest : CycleResult → PyVal)
    (answers : Answers) :
    Accepted kit clock context (persistedReport kit digest answers base) now ↔ Evidenced answers := by
  change Accepted kit clock context (withReceipt kit (bodyReport kit digest answers base)) now ↔ _
  unfold Evidenced bodyReport
  have start := underway_base supplied
  cases ending answers with
  | skipped reason =>
    obtain ⟨underway,bare,finished,stated⟩ := skipped_left supplied reason
    exact iff_of_false (skipped_refused supplied underway bare finished stated) id
  | skippedThenRaised reason exc =>
    obtain ⟨underway,bare,finished,stated⟩ := skipped_left supplied reason
    dsimp only
    by_cases handled : Handled answers exc
    · exact iff_of_true (handled_accepted supplied underway bare handled) handled
    · obtain ⟨errors,left,bare',keys⟩ := unhandled_left supplied underway bare handled
      refine iff_of_false (skipped_refused supplied left bare' ?_ ?_) handled
      · obtain ⟨text,shown,within⟩ := finished
        exact ⟨text,by rw [keys _ (by decide)]; exact shown,within⟩
      · rw [keys _ (by decide)]; exact stated
  | raised counts exc =>
    have underway := underway_counted start counts
    have bare := bare_counted supplied.bare counts
    dsimp only
    by_cases handled : Handled answers exc
    · exact iff_of_true (handled_accepted supplied underway bare handled) handled
    · obtain ⟨errors,left,bare',keys⟩ := unhandled_left supplied underway bare handled
      refine iff_of_false (unfinished_refused supplied left bare' ?_) handled
      rw [keys _ (by decide),counted_finished]; exact supplied.unfinished
  | completed counts result additions =>
    obtain ⟨finished,made,ended,stated⟩ := @cycleReport_ended kit clock context base started now digest answers supplied _
      (underway_counted start (some counts)) counts result additions
    simp only [made]
    rw [ended_accepted supplied ended stated fun _ => by decide +kernel]
    constructor
    · intro found
      rcases found with active | ⟨_,present⟩
      · cases result with
        | none => cases active
        | some result => rfl
      · exact present
    · intro present
      exact .inr ⟨rfl,present⟩
  | completedThenRaised counts result additions exc =>
    obtain ⟨finished,made,ended,stated⟩ := @cycleReport_ended kit clock context base started now digest answers supplied _
      (underway_counted start (some counts)) counts result additions
    simp only [made]
    exact late_accepted supplied ended stated

-- One execution of a paper target: it starts at 15:00 and its report is read a day later.
def sampleReportKit : ReportKit where
  toReceiptKit := sampleKit
  appendError report errorType := report.set "errors" (.list [.dict [("stage",.str "strategy_cycle"),
    ("message",.str "strategy_cycle_failed"),("error_type",.str errorType)]])
  finalize report status summary diagnostics :=
    (((report.set "status" (.str status)).set "finished_at" (.str "2026-10-05T15:01:00Z")).set "summary"
      (.dict (summary.getD [] ++ mappingOf (report.get "summary")))).set "diagnostics" (.dict diagnostics)

def startedReport : Fields := sampleBase ++ [("summary",.dict [("account_prefix",.str "PAPER")])]

theorem sample_minute : Within paperClock 1791212400000000 1791298800000000 "2026-10-05T15:01:00Z" :=
  ⟨1791212460000000,by decide +kernel,by decide,by decide⟩

theorem sampleReportKit_supplied :
    Supplied sampleReportKit paperClock sampleContext startedReport 1791212400000000 1791298800000000 where
  toResolves := sampleKit_documented.toResolves
  observable attempted reconciliation active := by
    cases attempted <;> cases reconciliation <;> simp_all [sampleReportKit,sampleKit,sampleFact]
  failure := rfl
  target := by decide +kernel
  start := by decide +kernel
  unfinished := rfl
  bare := by decide +kernel
  clean := rfl
  summary := ⟨_,rfl,rfl,rfl⟩
  attaches report outcome confirmation _ :=
    ⟨_,rfl,fun _ _ _ => ⟨_,rfl,rfl,rfl,rfl,rfl,sample_minute⟩⟩
  appends report errorType := ⟨_,by simp,rfl⟩
  keeps report status summary diagnostics key other := by
    simp only [finalKeys,List.mem_cons,List.not_mem_nil,or_false,not_or] at other
    obtain ⟨status,finished,summarized,diagnosed⟩ := other
    unfold sampleReportKit
    dsimp only
    rw [Fields.lookup_set_other _ _ diagnosed,Fields.lookup_set_other _ _ summarized,Fields.lookup_set_other _ _ finished,
      Fields.lookup_set_other _ _ status]
  states report status summary diagnostics := by
    unfold sampleReportKit
    dsimp only
    rw [Fields.get_set_other _ _ (by decide),Fields.get_set_other _ _ (by decide),Fields.get_set_other _ _ (by decide),
      Fields.get_set_same]
  stamps report status summary diagnostics := by
    refine ⟨"2026-10-05T15:01:00Z",?_,sample_minute⟩
    unfold sampleReportKit
    dsimp only
    rw [Fields.get_set_other _ _ (by decide),Fields.get_set_other _ _ (by decide),Fields.get_set_same]
  merges report status summary diagnostics := by
    refine ⟨summary.getD [] ++ mappingOf (report.get "summary"),?_,?_⟩
    · unfold sampleReportKit
      dsimp only
      rw [Fields.get_set_other _ _ (by decide),Fields.get_set_same]
    · intro key
      unfold Fields.get Fields.has
      rw [List.lookup_append]
      cases (summary.getD []).lookup key <;> rfl

def sampleAnswers (marketOpen : Bool) : Answers where
  forceRun := false
  marketOpen := .ok marketOpen
  bypassLogged := .ok ()
  skipLogged := .ok ()
  skipPrinted := .ok ()
  unsupportedReason := none
  observationCounts := .ok .none
  prepared := .ok ()
  cycle := .ok (some idleCycle)
  reported := .ok ⟨none,none,none⟩
  signalSnapshot := []
  completedLogged := .ok ()
  failureReported := .ok none
  failurePhase := "strategy_cycle"
  failureReason := "unknown"

theorem completed_report_accepted : Accepted sampleReportKit paperClock sampleContext
    (persistedReport sampleReportKit (fun _ => .none) (sampleAnswers true) startedReport) 1791298800000000 :=
  (persisted_report_accepted_iff sampleReportKit_supplied (fun _ => .none) (sampleAnswers true)).mpr rfl

theorem closed_market_report_refused :
    Supplied sampleReportKit paperClock sampleContext startedReport 1791212400000000 1791298800000000 ∧
      ending (sampleAnswers false) = .skipped "market_closed" ∧
      ¬Accepted sampleReportKit paperClock sampleContext
        (persistedReport sampleReportKit (fun _ => .none) (sampleAnswers false) startedReport) 1791298800000000 := by
  refine ⟨sampleReportKit_supplied,rfl,?_⟩
  intro accepted
  obtain ⟨receipt,read⟩ := accepted
  have refused : reportReceipt sampleReportKit.toReceiptKit paperClock sampleContext
      (persistedReport sampleReportKit (fun _ => .none) (sampleAnswers false) startedReport) 1791298800000000 =
      .error (valueError "submission evidence missing") := by decide +kernel
  rw [refused] at read
  cases read

end LongBridge.Reporting
