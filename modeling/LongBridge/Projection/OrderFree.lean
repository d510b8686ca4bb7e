import LongBridge.Projection.Verdicts

namespace LongBridge.Projection
open Reporting

section settled
variable {runs others copies : List Run} {covers : Run → Bool} {group : String}

end settled

def coversDue (schedule : Schedule) (observedAt : ℤ) (run : Run) : Bool :=
  schedule.latestDueAt.any fun latest => coversLatestDue run latest observedAt

section outcomes
variable {kit : Kit} {target : Fields} {items others : List Prepared} {observedAt : ℤ} {readFailed : Bool} {place : Place} {item : Prepared}

def placedAt (kit : Kit) (target : Fields) (observedAt : ℤ) (items : List Prepared) (place : Place) : List Run :=
  placed kit (kit.schedule target) observedAt items place

-- The judgement that a record is made from.
def judged (kit : Kit) (target : Fields) (items : List Prepared) (observedAt : ℤ) (readFailed : Bool) : Verdict × List String :=
  judge (dedupeRuns (placedAt kit target observedAt items .dated)) (placedAt kit target observedAt items .undatedAnomaly)
    ((dedupeRuns (placedAt kit target observedAt items .dated)).filter (coversDue (kit.schedule target) observedAt))
    (dedupeRuns (placedAt kit target observedAt items .carriedUnresolved))
    (if (kit.schedule target).state = "" then "unevaluable" else (kit.schedule target).state) readFailed

def laneSource (kit : Kit) (target : Fields) (items : List Prepared) (observedAt : ℤ) : List Run :=
  if !(dedupeRuns (placedAt kit target observedAt items .dated)).isEmpty then dedupeRuns (placedAt kit target observedAt items .dated)
  else if !(dedupeRuns (placedAt kit target observedAt items .carriedUnresolved)).isEmpty then
    dedupeRuns (placedAt kit target observedAt items .carriedUnresolved)
  else placedAt kit target observedAt items .undatedAnomaly

theorem projectTarget_judged : projectTarget kit target items observedAt readFailed =
    { targetKey := targetIdentity target
      status := (judged kit target items observedAt readFailed).1.status
      kind := (judged kit target items observedAt readFailed).1.kind
      completeness := if readFailed then "incomplete" else (judged kit target items observedAt readFailed).1.completeness
      executionLane := (onlyLane ((laneSource kit target items observedAt).map Run.executionLane)).getD "insufficient"
      runs := dedupeRuns (placedAt kit target observedAt items .dated) ++ dedupeRuns (placedAt kit target observedAt items .carriedUnresolved) ++
        placedAt kit target observedAt items .undatedAnomaly
      excludedReports := items.filterMap (excludedOf kit (kit.schedule target) observedAt)
      conflicts := (judged kit target items observedAt readFailed).2 } := by
  unfold projectTarget judged laneSource placedAt coversDue
  dsimp only
  cases (kit.schedule target).latestDueAt with
  | none => simp only [Option.any_none,List.filter_false]
  | some latest => simp only [Option.any_some]

end outcomes

end LongBridge.Projection
