import LongBridge.Reporting.Exits

namespace LongBridge.Reporting
open Effects CycleHealth

variable {kit : ReportKit} {clock : CycleHealth.Clock} {context : TargetContext} {base : Fields} {started now : ℤ}

-- The fields of a report that name the run and that nothing rewrites.
def identityKeys : List String :=
  ["platform","service_name","strategy_profile","account_scope","dry_run","validation_only","started_at","run_id",
    "runtime_target","runtime_release_receipt"]

def SameRun (base report : Fields) : Prop := ∀ key ∈ identityKeys, report.get key = base.get key

def finalKeys : List String := ["status","finished_at","summary","diagnostics"]

-- A time the monitor can read, between the start of the run and the moment it reads.
def Within (clock : CycleHealth.Clock) (started now : ℤ) (text : String) : Prop :=
  ∃ time, clock.instant text = .ok time ∧ started ≤ time ∧ time ≤ now

-- What the kit's own description says of one execution: the base report of the target,
-- the facts, an attached receipt that the validator takes, finishing and recording errors.
structure Supplied (kit : ReportKit) (clock : CycleHealth.Clock) (context : TargetContext) (base : Fields) (started now : ℤ) : Prop
    extends Resolves kit.toReceiptKit where
  observable : ∀ attempted reconciliation, attempted = true ∨ reconciliation = true →
    (kit.resolveFact false attempted reconciliation false).2 ≠ "not_applicable"
  failure : (kit.resolveFact false true false true).1 = "failed"
  target : (base.get "platform").isStr "longbridge" = true ∧ (base.get "service_name").isStr context.service = true ∧
    (base.get "strategy_profile").isStr context.strategyProfile = true ∧
    isOneOf (base.get "account_scope") ["PAPER","paper"] = true ∧ isFalse (base.get "dry_run") = true ∧
    isFalse (base.get "validation_only") = true
  start : instantOf clock (base.get "started_at") = .ok started
  unfinished : base.get "finished_at" = .none
  bare : base.has "execution_receipt" = false
  clean : base.get "errors" = .list []
  summary : ∃ summary, base.get "summary" = .dict summary ∧ Fields.get summary "orders_pending_count" = .none ∧
    Fields.get summary "broker_submission_done" = .none
  attaches : ∀ report outcome confirmation, SameRun base report → ∃ entries : Fields,
    kit.attachRuntime report outcome confirmation = .ok (report.set "execution_receipt" (.dict entries)) ∧
    ∀ later, SameRun base later → later.get "execution_receipt" = .dict entries →
      ∃ receipt, kit.attach later (.dict entries) = .ok receipt ∧ receipt.outcome = outcome ∧
        receipt.brokerConfirmation = confirmation ∧ receipt.strategyRevision = context.strategyRevision ∧
        receipt.executionMode = "paper" ∧ Within clock started now receipt.observedAt
  appends : ∀ report errorType, ∃ errors, errors ≠ [] ∧
    kit.appendError report errorType = report.set "errors" (.list errors)
  keeps : ∀ report status summary diagnostics key, key ∉ finalKeys →
    (kit.finalize report status summary diagnostics).lookup key = report.lookup key
  states : ∀ report status summary diagnostics, (kit.finalize report status summary diagnostics).get "status" = .str status
  stamps : ∀ report status summary diagnostics, ∃ text,
    (kit.finalize report status summary diagnostics).get "finished_at" = .str text ∧ Within clock started now text
  merges : ∀ report status summary diagnostics, ∃ merged,
    (kit.finalize report status summary diagnostics).get "summary" = .dict merged ∧
    ∀ key, Fields.get merged key = if (summary.getD []).has key then (summary.getD []).get key
      else Fields.get (mappingOf (report.get "summary")) key

-- What `checkEvidence` asks for.
def Agrees (outcome confirmation : String) (errors : List PyVal) (status pending submitted : PyVal) : Prop :=
  (outcome ∈ success → isCount pending = true ∧ isBool submitted = true) ∧
    (isNone pending = true ∨ isCount pending = true) ∧ (isNone submitted = true ∨ isBool submitted = true) ∧
    (outcome ∈ success → errors = [] ∧ isOneOf status ["error","failed","blocked"] = false ∧ pending.truthy = false) ∧
    (confirmation = "not_applicable" → pending.truthy = false ∧ submitted.truthy = false)

theorem checkEvidence_ok {receipt : Receipt} {errors : List PyVal} {status pending submitted : PyVal}
    {done : Unit} : checkEvidence receipt errors status pending submitted = .ok done ↔
      Agrees receipt.outcome receipt.brokerConfirmation errors status pending submitted := by
  unfold checkEvidence Agrees
  simp only [bind_ok,require_ok]
  constructor
  · intro found
    obtain ⟨_,one,_,two,_,three,_,four,five⟩ := found
    exact ⟨one,two,three,four,five⟩
  · intro found
    obtain ⟨one,two,three,four,five⟩ := found
    exact ⟨(),one,(),two,(),three,(),four,five⟩

-- A finished report of the run with its receipt, as far as the monitor looks at it.
structure Shaped (kit : ReportKit) (clock : CycleHealth.Clock) (context : TargetContext) (base : Fields) (started now : ℤ)
    (report : Fields) (outcome confirmation : String) (errors : List PyVal) (status pending submitted : PyVal) : Prop where
  same : SameRun base report
  receipt : ∃ receipt, kit.attach report (report.get "execution_receipt") = .ok receipt ∧ receipt.outcome = outcome ∧
    receipt.brokerConfirmation = confirmation ∧ receipt.strategyRevision = context.strategyRevision ∧
    receipt.executionMode = "paper" ∧ Within clock started now receipt.observedAt
  finished : ∃ text, report.get "finished_at" = .str text ∧ Within clock started now text
  errors : report.get "errors" = .list errors
  status : report.get "status" = status
  summary : ∃ summary, report.get "summary" = .dict summary ∧ Fields.get summary "orders_pending_count" = pending ∧
    Fields.get summary "broker_submission_done" = submitted

def Accepted (kit : ReportKit) (clock : CycleHealth.Clock) (context : TargetContext) (report : Fields) (now : ℤ) : Prop :=
  ∃ receipt, reportReceipt kit.toReceiptKit clock context report now = .ok receipt

theorem accepted_iff {report : Fields} {outcome confirmation : String} {errors : List PyVal}
    {status pending submitted : PyVal} (supplied : Supplied kit clock context base started now)
    (shaped : Shaped kit clock context base started now report outcome confirmation errors status pending submitted) :
    Accepted kit clock context report now ↔ Agrees outcome confirmation errors status pending submitted := by
  obtain ⟨receipt,attached,rfl,rfl,revision,mode,observedTime,observed,after,past⟩ := shaped.receipt
  obtain ⟨text,finished,finishedTime,read,late,early⟩ := shaped.finished
  obtain ⟨summary,summarized,rfl,rfl⟩ := shaped.summary
  have kept : ∀ key ∈ identityKeys, report.get key = base.get key := shaped.same
  have target := supplied.target
  have start := supplied.start
  rw [← kept "platform" (by decide),← kept "service_name" (by decide),← kept "strategy_profile" (by decide),
    ← kept "account_scope" (by decide),← kept "dry_run" (by decide),← kept "validation_only" (by decide)] at target
  rw [← kept "started_at" (by decide)] at start
  have named : summaryOf report = .ok summary := by unfold summaryOf; rw [summarized]
  have listed : errorsOf report = .ok errors := by unfold errorsOf; rw [shaped.errors]
  have completed : instantOf clock (report.get "finished_at") = .ok finishedTime := by rw [finished]; exact read
  have ordered : started ≤ finishedTime ∧ finishedTime ≤ now ∧ started ≤ observedTime ∧ observedTime ≤ now :=
    ⟨late,early,after,past⟩
  unfold Accepted reportReceipt
  simp only [bind_ok,require_ok,attached,start,completed,observed,listed,named,return_ok,shaped.status,Except.ok.injEq,
    exists_eq_left',checkEvidence_ok,exists_const]
  constructor
  · intro found
    obtain ⟨_,_,_,_,agrees,_⟩ := found
    exact agrees
  · intro agrees
    exact ⟨receipt,target,⟨revision,mode⟩,ordered,agrees,rfl⟩

-- A report that was never finished is not read.
theorem not_accepted {report : Fields} (open_ : report.get "finished_at" = .none) : ¬Accepted kit clock context report now := by
  intro accepted
  obtain ⟨receipt,read⟩ := accepted
  obtain ⟨_,_,read⟩ := bind_ok.mp read
  obtain ⟨_,_,read⟩ := bind_ok.mp read
  obtain ⟨_,_,read⟩ := bind_ok.mp read
  obtain ⟨_,_,read⟩ := bind_ok.mp read
  obtain ⟨_,finished,_⟩ := bind_ok.mp read
  rw [open_] at finished
  cases finished

theorem finalize_get (supplied : Supplied kit clock context base started now) {key : String} (other : key ∉ finalKeys)
    (report : Fields) (status : String) (summary : Option Fields) (diagnostics : Fields) :
    (kit.finalize report status summary diagnostics).get key = report.get key := by
  unfold Fields.get
  rw [supplied.keeps report status summary diagnostics key other]

theorem sameRun_set {report : Fields} {key : String} (same : SameRun base report) (other : key ∉ identityKeys) (value : PyVal) :
    SameRun base (report.set key value) := by
  intro name member
  have unlike : name ≠ key := fun equal => other (equal ▸ member)
  rw [Fields.get_set_other report value unlike]
  exact same name member

theorem sameRun_finalize (supplied : Supplied kit clock context base started now) {report : Fields}
    (same : SameRun base report) (status : String) (summary : Option Fields) (diagnostics : Fields) :
    SameRun base (kit.finalize report status summary diagnostics) := by
  intro key member
  have other : key ∉ finalKeys := by
    simp only [identityKeys,List.mem_cons,List.not_mem_nil,or_false] at member
    rcases member with rfl | rfl | rfl | rfl | rfl | rfl | rfl | rfl | rfl | rfl <;> decide
  rw [finalize_get supplied other]
  exact same key member

-- A report on its way through one execution: of the run, with these errors and this evidence.
structure Underway (base report : Fields) (errors : List PyVal) (pending submitted : PyVal) : Prop where
  same : SameRun base report
  errors : report.get "errors" = .list errors
  summary : ∃ summary, report.get "summary" = .dict summary ∧ Fields.get summary "orders_pending_count" = pending ∧
    Fields.get summary "broker_submission_done" = submitted

theorem underway_base (supplied : Supplied kit clock context base started now) : Underway base base [] .none .none :=
  ⟨fun _ _ => rfl,supplied.clean,supplied.summary⟩

theorem underway_receipt {report : Fields} {errors : List PyVal} {pending submitted : PyVal}
    (underway : Underway base report errors pending submitted) (value : PyVal) :
    Underway base (report.set "execution_receipt" value) errors pending submitted := by
  refine ⟨sameRun_set underway.same (by decide) value,?_,?_⟩
  · rw [Fields.get_set_other _ _ (by decide)]; exact underway.errors
  · rw [Fields.get_set_other _ _ (by decide)]; exact underway.summary

theorem underway_counted {report : Fields} {errors : List PyVal} {pending submitted : PyVal}
    (underway : Underway base report errors pending submitted) (counts : Option PyVal) :
    Underway base (counted counts report) errors pending submitted := by
  cases counts with
  | none => exact underway
  | some counts =>
    obtain ⟨summary,shown,held,done⟩ := underway.summary
    refine ⟨sameRun_set underway.same (by decide) _,?_,_,Fields.get_set_same _ _ _,?_,?_⟩
    · change (report.set "summary" _).get "errors" = _
      rw [Fields.get_set_other _ _ (by decide)]; exact underway.errors
    · rw [shown]
      exact (Fields.get_set_other summary counts (by decide)).trans held
    · rw [shown]
      exact (Fields.get_set_other summary counts (by decide)).trans done

theorem underway_finalize (supplied : Supplied kit clock context base started now) {report : Fields}
    {errors : List PyVal} {pending submitted : PyVal} (underway : Underway base report errors pending submitted)
    (status : String) {summary : Option Fields} (diagnostics : Fields)
    (silent : (summary.getD []).has "orders_pending_count" = false ∧ (summary.getD []).has "broker_submission_done" = false) :
    Underway base (kit.finalize report status summary diagnostics) errors pending submitted := by
  obtain ⟨old,shown,held,done⟩ := underway.summary
  obtain ⟨merged,written,keys⟩ := supplied.merges report status summary diagnostics
  refine ⟨sameRun_finalize supplied underway.same _ _ _,?_,merged,written,?_,?_⟩
  · rw [finalize_get supplied (by decide)]; exact underway.errors
  · rw [keys,silent.1,shown,← held]; rfl
  · rw [keys,silent.2,shown,← done]; rfl

theorem underway_noted (supplied : Supplied kit clock context base started now) {report : Fields}
    {errors : List PyVal} {pending submitted : PyVal} (underway : Underway base report errors pending submitted)
    (errorType : String) : ∃ errors', errors' ≠ [] ∧
      Underway base (kit.appendError report errorType) errors' pending submitted := by
  obtain ⟨errors',listed,same⟩ := supplied.appends report errorType
  rw [same]
  refine ⟨errors',listed,sameRun_set underway.same (by decide) _,Fields.get_set_same _ _ _,?_⟩
  rw [Fields.get_set_other _ _ (by decide)]
  exact underway.summary

-- An attached receipt is read back as it was attached, whatever else became of the report.
def Carries (kit : ReportKit) (clock : CycleHealth.Clock) (context : TargetContext) (base : Fields) (started now : ℤ)
    (report : Fields) (outcome confirmation : String) : Prop :=
  ∃ entries, report.get "execution_receipt" = .dict entries ∧
    ∀ later, SameRun base later → later.get "execution_receipt" = .dict entries →
      ∃ receipt, kit.attach later (.dict entries) = .ok receipt ∧ receipt.outcome = outcome ∧
        receipt.brokerConfirmation = confirmation ∧ receipt.strategyRevision = context.strategyRevision ∧
        receipt.executionMode = "paper" ∧ Within clock started now receipt.observedAt

theorem carries_of_get {report later : Fields} {outcome confirmation : String}
    (carries : Carries kit clock context base started now report outcome confirmation)
    (same : later.get "execution_receipt" = report.get "execution_receipt") :
    Carries kit clock context base started now later outcome confirmation := by
  obtain ⟨entries,shown,accepts⟩ := carries
  exact ⟨entries,same.trans shown,accepts⟩

theorem attached_carries (supplied : Supplied kit clock context base started now) {report : Fields}
    (same : SameRun base report) (outcome confirmation : String) :
    ∃ attached value, kit.attachRuntime report outcome confirmation = .ok attached ∧
      attached = report.set "execution_receipt" value ∧
      Carries kit clock context base started now attached outcome confirmation := by
  obtain ⟨entries,made,accepts⟩ := supplied.attaches report outcome confirmation same
  exact ⟨_,_,made,rfl,entries,Fields.get_set_same _ _ _,accepts⟩

theorem shaped_of {report : Fields} {outcome confirmation : String} {errors : List PyVal} {status pending submitted : PyVal}
    (underway : Underway base report errors pending submitted)
    (carries : Carries kit clock context base started now report outcome confirmation)
    (finished : ∃ text, report.get "finished_at" = .str text ∧ Within clock started now text)
    (stated : report.get "status" = status) :
    Shaped kit clock context base started now report outcome confirmation errors status pending submitted := by
  obtain ⟨entries,shown,accepts⟩ := carries
  refine ⟨underway.same,?_,finished,underway.errors,stated,underway.summary⟩
  rw [shown]
  exact accepts report underway.same shown

theorem real_run (supplied : Supplied kit clock context base started now) {report : Fields} (same : SameRun base report) :
    (report.get "dry_run").truthy = false := by
  rw [same "dry_run" (by decide)]
  have real := supplied.target.2.2.2.2.1
  cases value : base.get "dry_run" <;> rw [value] at real <;> simp_all [isFalse,PyVal.truthy]

def Bare (report : Fields) : Prop := report.has "execution_receipt" = false

theorem bare_set {report : Fields} {key : String} (bare : Bare report) (other : key ≠ "execution_receipt") (value : PyVal) :
    Bare (report.set key value) := by
  unfold Bare Fields.has at bare ⊢
  rw [Fields.lookup_set_other report value other.symm]
  exact bare

theorem bare_finalize (supplied : Supplied kit clock context base started now) {report : Fields} (bare : Bare report)
    (status : String) (summary : Option Fields) (diagnostics : Fields) :
    Bare (kit.finalize report status summary diagnostics) := by
  unfold Bare Fields.has at bare ⊢
  rw [supplied.keeps _ _ _ _ _ (by decide)]
  exact bare

theorem bare_counted {report : Fields} (bare : Bare report) (counts : Option PyVal) : Bare (counted counts report) := by
  cases counts with
  | none => exact bare
  | some counts => exact bare_set bare (by decide) _

theorem bare_noted (supplied : Supplied kit clock context base started now) {report : Fields} (bare : Bare report)
    (errorType : String) : Bare (kit.appendError report errorType) := by
  obtain ⟨_,_,same⟩ := supplied.appends report errorType
  rw [same]
  exact bare_set bare (by decide) _

-- The `finally` step on its own.
def withReceipt (kit : ReportKit) (left : Fields) : Fields :=
  if left.has "execution_receipt" then left
  else
    match attachTerminalFallbackExecutionReceipt kit.toReceiptKit left with
    | .ok attached => attached
    | .error _ => left

def Finished (clock : CycleHealth.Clock) (started now : ℤ) (report : Fields) : Prop :=
  ∃ text, report.get "finished_at" = .str text ∧ Within clock started now text

theorem fallback_shaped (supplied : Supplied kit clock context base started now) {left : Fields} {errors : List PyVal}
    {status : String} (underway : Underway base left errors .none .none) (bare : Bare left)
    (finished : Finished clock started now left) (stated : left.get "status" = .str status) {failed : Bool}
    (judged : decide (lower (strip status) = "error") = failed) :
    Shaped kit clock context base started now (withReceipt kit left) (kit.resolveFact false failed false failed).1
      (kit.resolveFact false failed false failed).2 errors (.str status) .none .none := by
  obtain ⟨attached,value,made,same,carries⟩ := attached_carries supplied underway.same
    (kit.resolveFact false failed false failed).1 (kit.resolveFact false failed false failed).2
  have taken : withReceipt kit left = attached := by
    unfold withReceipt
    rw [if_neg (by rw [bare]; simp)]
    unfold attachTerminalFallbackExecutionReceipt
    simp only [stated,PyVal.textOrEmpty_str,real_run supplied underway.same,judged,made]
  rw [taken]
  subst same
  refine shaped_of (underway_receipt underway value) carries ?_ ?_
  · obtain ⟨text,shown,within⟩ := finished
    exact ⟨text,by rw [Fields.get_set_other _ _ (by decide)]; exact shown,within⟩
  · rw [Fields.get_set_other _ _ (by decide)]; exact stated

-- Without a cycle result only a failed execution has evidence enough.
theorem fallback_accepted (supplied : Supplied kit clock context base started now) {left : Fields} {errors : List PyVal}
    {status : String} (underway : Underway base left errors .none .none) (bare : Bare left)
    (finished : Finished clock started now left) (stated : left.get "status" = .str status) :
    Accepted kit clock context (withReceipt kit left) now ↔ lower (strip status) = "error" := by
  cases judged : decide (lower (strip status) = "error") with
  | true =>
    have failed := supplied.failure
    rw [accepted_iff supplied (fallback_shaped supplied underway bare finished stated judged),failed]
    have ends : lower (strip status) = "error" := of_decide_eq_true judged
    simp [Agrees,success,isNone,PyVal.truthy,ends]
  | false =>
    rw [accepted_iff supplied (fallback_shaped supplied underway bare finished stated judged),supplied.nothing]
    have ends : ¬lower (strip status) = "error" := of_decide_eq_false judged
    simp [Agrees,success,isCount,ends]

end LongBridge.Reporting
