import LongBridge.Projection.Records

namespace LongBridge.Projection
open Reporting

-- The zone data, the instants at which a cron text is due on a day of the market, none if the
-- text is not valid, and whether a market is open, none if its calendar is not available.
structure Calendar where
  zone : String → Option (ℤ → ℕ)
  occurrences : String → String → String → ℕ → Option (List ℤ)
  sessionOpen : String → ℕ → Option Bool

structure ScheduleSettings where
  businessDate : Option ℕ
  withinExpectedWindow : Option Bool
  publicationGrace : ℤ
  marketAware : Bool

def fieldText (fields : Fields) (key : String) : String := strip (fields.get key).textOrEmpty

def wordCount (text : String) : ℕ := ((text.toList.splitOnP isSpace).filter (· ≠ [])).length

-- `_apply_expected_window`
def applyExpectedWindow (settings : ScheduleSettings) (schedule : Schedule) : Schedule :=
  if settings.withinExpectedWindow = some false ∧ ["not_due","within_grace","due"].contains schedule.state then
    { schedule with state := "outside_window" }
  else schedule

-- The outcome where the due instants of the day are known.
def classifyInstants (calendar : Calendar) (settings : ScheduleSettings) (observedAt : ℤ) (target : Fields) (day : ℕ)
    (timezone : String) (instants : List ℤ) : Schedule :=
  let outcome (state : String) (latestDueAt : Option ℤ) : Schedule :=
    applyExpectedWindow settings ⟨state,some day,timezone,latestDueAt⟩
  match (instants.filter (· ≤ observedAt)).getLast? with
  | none => outcome "not_due" none
  | some latest =>
    let marketCalendar := fieldText target "market_calendar"
    let session := if settings.marketAware then calendar.sessionOpen marketCalendar day else some true
    if settings.marketAware ∧ marketCalendar = "" then outcome "unevaluable" (some latest)
    else match session with
      | none => outcome "unevaluable" (some latest)
      | some false => outcome "market_closed" (some latest)
      | some true =>
        if observedAt < latest + max settings.publicationGrace 0 then outcome "within_grace" (some latest)
        else outcome "due" (some latest)

def schedulerOf (target : Fields) : Fields := mappingOf (target.get "scheduler")

def timezoneOf (target : Fields) : String :=
  if fieldText target "market_timezone" = "" then fieldText (schedulerOf target) "timezone" else fieldText target "market_timezone"

def schedulerZoneOf (target : Fields) : String :=
  if fieldText (schedulerOf target) "timezone" = "" then timezoneOf target else fieldText (schedulerOf target) "timezone"

-- `classify_business_date_schedule`
def classifyBusinessDateSchedule (calendar : Calendar) (settings : ScheduleSettings) (observedAt : ℤ) (target : Fields) :
    Schedule :=
  let empty (day : Option ℕ) : Schedule := ⟨"unevaluable",day,timezoneOf target,none⟩
  if timezoneOf target = "" then empty settings.businessDate
  else match calendar.zone (timezoneOf target) with
    | none => empty settings.businessDate
    | some dateIn =>
      let cron := fieldText (schedulerOf target) "main_time"
      if wordCount cron ≠ 5 then empty settings.businessDate
      else
        let day := settings.businessDate.getD (dateIn observedAt)
        match calendar.zone (schedulerZoneOf target) with
        | none => empty (some day)
        | some _ => match calendar.occurrences cron (schedulerZoneOf target) (timezoneOf target) day with
          | none => empty (some day)
          | some instants => classifyInstants calendar settings observedAt target day (timezoneOf target) instants

def kitOf (calendar : Calendar) (settings : ScheduleSettings) (observedAt : ℤ) (matchTarget : Fields → List Fields → Option String) :
    Kit := ⟨calendar.zone,matchTarget,classifyBusinessDateSchedule calendar settings observedAt⟩

-- The schedule names a business date and a timezone that is known.
def Dates (kit : Kit) (schedule : Schedule) (businessDate : ℕ) (dateIn : ℤ → ℕ) : Prop :=
  schedule.businessDate = some businessDate ∧ schedule.timezone ≠ "" ∧ kit.zone schedule.timezone = some dateIn

-- A schedule that names no day, or whose timezone is not known, is not evaluated.
def Evaluated (kit : Kit) (schedule : Schedule) : Prop :=
  (¬∃ businessDate dateIn, Dates kit schedule businessDate dateIn) → schedule.state = "unevaluable"

section evaluated
variable {calendar : Calendar} {settings : ScheduleSettings} {observedAt : ℤ} {target : Fields}

end evaluated

end LongBridge.Projection
