import LongBridge.Projection.Schedules
import LongBridge.Python.Symbols

namespace LongBridge.Projection
open Reporting

section ranks
variable {ranks activities : List String} {activity : String}

end ranks

section copies
variable {runs copies : List Run} {run : Run} {activity group : String}

theorem mem_copiesOf : run ∈ copiesOf runs group ↔ run ∈ runs ∧ run.group = group := by
  unfold copiesOf
  rw [List.mem_filter,beq_iff_eq]

end copies

section verdicts
variable {dated undated covering carried : List Run} {state : String} {readFailed : Bool}

end verdicts

section placing
variable {kit : Kit} {schedule : Schedule} {observedAt : ℤ} {items : List Prepared} {item : Prepared} {run : Run} {place : Place}

theorem mem_placed : run ∈ placed kit schedule observedAt items place ↔
    ∃ item ∈ items, placeRun kit schedule observedAt item = place ∧ runView item = run := by
  simp only [placed,List.mem_map,List.mem_filter,beq_iff_eq,and_assoc]

-- Times that are in order and not later than the observation.
def Consistent (observedAt : ℤ) (item : Prepared) : Prop := observedRunTimeProblem (runView item) observedAt = none

end placing

section records
variable {kit : Kit} {target : Fields} {items : List Prepared} {observedAt : ℤ} {readFailed : Bool} {item : Prepared}

end records

section fixed

-- One target that is due at nine in the morning of each day.
def morningTarget : Fields :=
  [("service",.str "hk"),("market_timezone",.str "UTC"),("market_calendar",.str "XHKG"),
    ("scheduler",.dict [("main_time",.str "0 9 * * *"),("timezone",.str "UTC")])]

def morningCalendar : Calendar where
  zone name := if name = "UTC" then some fun instant => (instant / 86400000000).toNat else none
  occurrences _ _ _ day := some [day * 86400000000 + 32400000000]
  sessionOpen _ _ := some true

def plainSettings : ScheduleSettings := ⟨none,none,1800000000,true⟩

def matchHk (payload : Fields) (_ : List Fields) : Option String :=
  if plainText (payload.get "service_name") = "hk" then some "hk|*|*" else none

def failedReport (started finished : String) : Fields :=
  [("platform",.str "longbridge"),("service_name",.str "hk"),("run_id",.str "r1"),("status",.str "failed"),
    ("started_at",.str started),("finished_at",.str finished)]

def morningKit (observedAt : ℤ) : Kit := kitOf morningCalendar plainSettings observedAt matchHk

-- What a record of one report, and the report itself, look like.
structure Seen where
  matched : ℕ
  runAt : Option ℤ
  activity : String
  problem : Option String
  timezone : String
  businessDate : Option ℕ
  day : Option ℕ
  status : Option String
  completeness : Option String
  deriving DecidableEq

def seen (observedAt : ℤ) (target report : Fields) : Seen :=
  let kit := morningKit observedAt
  let schedule := kit.schedule target
  let item := prepareReport report
  let record := (projectDailyRuntime kit [target] [report] observedAt [])[0]?
  { matched := (matchedReports kit [target] [report] target).length
    runAt := item.runAt
    activity := (runView item).activity
    problem := observedRunTimeProblem (runView item) observedAt
    timezone := schedule.timezone
    businessDate := schedule.businessDate
    day := item.runAt.bind fun runAt => (kit.zone schedule.timezone).map fun dateIn => dateIn runAt
    status := record.map Record.status
    completeness := record.map Record.completeness }

end fixed

end LongBridge.Projection
