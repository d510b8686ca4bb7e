import LongBridge.Reporting.Agreement
import LongBridge.Reporting.Slots

namespace LongBridge.Reporting
open Effects

section receipts
variable {kit : ReceiptKit} {health : CycleHealth.Kit} {clock : CycleHealth.Clock} {context : TargetContext} {report : Fields}
  {receipt : Receipt} {started finished observed now through : ℤ}

-- What `_receipt` asks of a report apart from its times.
structure Agreed (kit : ReceiptKit) (context : TargetContext) (report : Fields) (receipt : Receipt) : Prop where
  target : (report.get "platform").isStr "longbridge" = true ∧ (report.get "service_name").isStr context.service = true ∧
    (report.get "strategy_profile").isStr context.strategyProfile = true ∧
    isOneOf (report.get "account_scope") ["PAPER","paper"] = true ∧ isFalse (report.get "dry_run") = true ∧
    isFalse (report.get "validation_only") = true
  attached : kit.attach report (report.get "execution_receipt") = .ok receipt
  revision : receipt.strategyRevision = context.strategyRevision ∧ receipt.executionMode = "paper"
  evidence : ∃ errors summary, errorsOf report = .ok errors ∧ summaryOf report = .ok summary ∧
    checkEvidence receipt errors (report.get "status") (summary.get "orders_pending_count")
      (summary.get "broker_submission_done") = .ok ()

-- The times of a run: its start, its end and when its receipt was observed.
structure Timed (clock : CycleHealth.Clock) (report : Fields) (receipt : Receipt) (started finished observed : ℤ) : Prop where
  begins : instantOf clock (report.get "started_at") = .ok started
  ends : instantOf clock (report.get "finished_at") = .ok finished
  seen : clock.instant receipt.observedAt = .ok observed

theorem reportReceipt_ok : reportReceipt kit clock context report now = .ok receipt ↔
    Agreed kit context report receipt ∧ ∃ started finished observed, Timed clock report receipt started finished observed ∧
      started ≤ finished ∧ finished ≤ now ∧ started ≤ observed ∧ observed ≤ now := by
  unfold reportReceipt
  constructor
  · intro read
    obtain ⟨_,target,read⟩ := bind_ok.mp read
    obtain ⟨own,attached,read⟩ := bind_ok.mp read
    obtain ⟨_,revision,read⟩ := bind_ok.mp read
    obtain ⟨started,begins,read⟩ := bind_ok.mp read
    obtain ⟨finished,ends,read⟩ := bind_ok.mp read
    obtain ⟨observed,seen,read⟩ := bind_ok.mp read
    obtain ⟨_,chronology,read⟩ := bind_ok.mp read
    obtain ⟨errors,listed,read⟩ := bind_ok.mp read
    obtain ⟨summary,stated,read⟩ := bind_ok.mp read
    obtain ⟨_,evidence,read⟩ := bind_ok.mp read
    cases return_ok.mp read
    exact ⟨⟨require_ok.mp target,attached,require_ok.mp revision,errors,summary,listed,stated,evidence⟩,
      started,finished,observed,⟨begins,ends,seen⟩,require_ok.mp chronology⟩
  · intro known
    obtain ⟨agreed,started,finished,observed,timed,chronology⟩ := known
    obtain ⟨errors,summary,listed,stated,evidence⟩ := agreed.evidence
    apply bind_ok.mpr ⟨(),require_ok.mpr agreed.target,_⟩
    apply bind_ok.mpr ⟨receipt,agreed.attached,_⟩
    apply bind_ok.mpr ⟨(),require_ok.mpr agreed.revision,_⟩
    apply bind_ok.mpr ⟨started,timed.begins,_⟩
    apply bind_ok.mpr ⟨finished,timed.ends,_⟩
    apply bind_ok.mpr ⟨observed,timed.seen,_⟩
    apply bind_ok.mpr ⟨(),require_ok.mpr chronology,_⟩
    apply bind_ok.mpr ⟨errors,listed,_⟩
    apply bind_ok.mpr ⟨summary,stated,_⟩
    apply bind_ok.mpr ⟨(),evidence,_⟩
    rfl

theorem withoutInvocation_get {key : String} (other : key ≠ "invocation") : (withoutInvocation report).get key = report.get key := by
  have kept : (withoutInvocation report).lookup key = report.lookup key := by
    unfold withoutInvocation
    induction report with
    | nil => rfl
    | cons entry rest ih =>
      obtain ⟨name,value⟩ := entry
      by_cases invocation : name = "invocation"
      · have miss : (key == name) = false := by simpa [invocation] using other
        rw [List.filter_cons_of_neg (by simp [invocation]),List.lookup_cons,miss]
        exact ih
      · rw [List.filter_cons_of_pos (by simp [invocation]),List.lookup_cons,List.lookup_cons,ih]
  simp only [Fields.get,kept]

end receipts

-- A stored report with the slot it was started for and its three times.
structure Reported where
  stored : Stored
  slot : ℤ
  started : ℤ
  finished : ℤ
  observed : ℤ

section coverage
variable {reader : Reader} {eligible : ℤ → Bool} {since through now due : ℤ} {runs : List Reported} {run : Reported}

end coverage

section publishing
variable {reader : Reader} {eligible : ℤ → Bool} {grace since now : ℤ} {cursor : Cursor} {runs : List Reported} {published : Published}

end publishing

-- The clock on the times of the run below.
def windowClock : CycleHealth.Clock where
  instant text :=
    if text = "2026-10-05T14:59:00Z" then .ok 1791212340000000
    else if text = "2026-10-05T15:00:00Z" then .ok 1791212400000000
    else if text = "2026-10-05T15:01:00Z" then .ok 1791212460000000
    else if text = "2026-10-06T14:59:00Z" then .ok 1791298740000000
    else .error (CycleHealth.valueError "Invalid isoformat string")
  iso time :=
    if time = 1791212340000000 then "2026-10-05T14:59:00Z"
    else if time = 1791212400000000 then "2026-10-05T15:00:00Z"
    else if time = 1791212460000000 then "2026-10-05T15:01:00Z" else "2026-10-06T14:59:00Z"
  reads_back {text time} read := by
    split_ifs at read
    all_goals cases read; decide

end LongBridge.Reporting
