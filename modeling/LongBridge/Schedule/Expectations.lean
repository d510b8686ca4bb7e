import LongBridge.Effects.Fallible
import LongBridge.Projection.Schedules
import LongBridge.Python.Zones
import LongBridge.Schedule.Cron

namespace LongBridge.Schedule
open Effects Projection

def badRequest : PyExc := ⟨"ValueError",""⟩

-- A datetime within the years of the calendar
def dated (instant : ℤ) : Except PyExc ℤ :=
  if 0 ≤ instant ∧ instant < lastInstant then .ok instant else .error ⟨"OverflowError","date value out of range"⟩

-- `astimezone(zone)`
def localIn (zone : Zone) (instant : ℤ) : Except PyExc ℤ := dated (zone.wall instant)

-- What the loader of session dates gives, or raises
inductive Sessions where
  | unavailable
  | malformed
  | dates (days : List ℕ)

-- The zone data, in which no name is padded, the cron as a test of local minutes, and the session calendar.
structure ExpectationKit where
  zones : String → Option Zone
  plain : ∀ name zone, zones name = some zone → strip name = name ∧ name ≠ ""
  cronMatches : ℤ → Bool
  sessionDates : String → ℕ → ℕ → Sessions

structure ExpectationRequest where
  since : ℤ
  now : ℤ
  coverageEnd : ℤ
  publicationGrace : ℤ
  expectedWindow : Option PyVal
  maxSlots : ℕ
  horizonDays : ℕ

-- The zones and session dates that a request has been resolved to.
structure ExpectationPlan where
  zone : Zone
  market : Zone
  days : List ℕ

structure ExpectedSlot where
  scheduledFor : ℤ
  deadlineAt : ℤ
  deriving DecidableEq

-- The outcome of `classify_business_date_schedule`
structure DaySchedule where
  state : String
  reason : String
  latestDueAt : Option ℤ
  nextDueAt : Option ℤ
  graceEndsAt : Option ℤ
  deriving DecidableEq

structure ExpectedSchedule where
  state : String
  reason : String
  timezone : String
  latestDueAt : Option ℤ
  nextDueAt : ℤ
  deadlineAt : Option ℤ
  deriving DecidableEq

inductive Expectations where
  | ready (slots : List ExpectedSlot) (schedule : ExpectedSchedule)
  | stopped (state reason : String) (slots : List ExpectedSlot) (overflowAt : Option ℤ)
  deriving DecidableEq

def limitExceeded (slots : List ExpectedSlot) (overflowAt : ℤ) : Expectations :=
  .stopped "incomplete" "expectation_limit_exceeded" slots (some overflowAt)

section plan

variable (kit : ExpectationKit) (target : Fields) (request : ExpectationRequest) (plan : ExpectationPlan)

-- `eligible`
def eligible (minute : ℤ) : Except PyExc Bool := do
  let day ← localIn plan.market minute
  if plan.days.contains (utcOrdinal day) then do
    let wall ← localIn plan.zone minute
    return kit.cronMatches wall
  else return false

inductive WalkedSlots where
  | all (slots : List ExpectedSlot)
  | overflow (slots : List ExpectedSlot) (minute : ℤ)

-- The loop over the minutes of the interval
def walkSlots : List ℤ → List ExpectedSlot → Except PyExc WalkedSlots
  | [],slots => .ok (.all slots)
  | minute :: rest,slots => do
    let named ← eligible kit plan minute
    if named then
      if slots.length = request.maxSlots then return .overflow slots minute
      else do
        let deadline ← dated (minute + request.publicationGrace)
        let _ ← dated (minute + minuteSpan)
        walkSlots rest (slots ++ [⟨minute,deadline⟩])
    else do
      let _ ← dated (minute + minuteSpan)
      walkSlots rest slots

-- The loop for the next due minute
def findDue : List ℤ → Except PyExc (Option ℤ)
  | [] => .ok none
  | minute :: rest => do
    let named ← eligible kit plan minute
    if named then return some minute
    else do
      let _ ← dated (minute + minuteSpan)
      findDue rest

-- One minute of the day in the classifier
def dueOn (zone market : Zone) (day : ℕ) (minute : ℤ) : Except PyExc Bool := do
  let wall ← localIn zone minute
  if kit.cronMatches wall then do
    let place ← localIn market minute
    let _ ← dated (minute + minuteSpan)
    return utcOrdinal place == day
  else do
    let _ ← dated (minute + minuteSpan)
    return false

-- `_apply_expected_window`
def applyWindow (window : Option Bool) (schedule : DaySchedule) : DaySchedule :=
  if window = some false ∧ ["not_due","within_grace","due"].contains schedule.state then
    { schedule with state := "outside_window", reason := "outside_expected_window" }
  else schedule

def unevaluable (reason : String) : DaySchedule := ⟨"unevaluable",reason,none,none,none⟩

-- The outcome where the due minutes of the day are known; the session dates are those of the plan.
def classifyDue (window : Option Bool) (day : ℕ) (due : List ℤ) : Except PyExc DaySchedule :=
  let latest := (due.filter (· ≤ request.now)).getLast?
  let next := (due.filter (request.now < ·)).head?
  match latest with
  | none => .ok (applyWindow window ⟨"not_due",if due = [] then "no_cron_on_business_date" else "before_schedule",none,next,none⟩)
  | some latest =>
    if fieldText target "market_calendar" = "" then
      .ok (applyWindow window ⟨"unevaluable","missing_market_calendar",some latest,next,none⟩)
    else if !plan.days.contains day then .ok (applyWindow window ⟨"market_closed","market_closed",some latest,next,none⟩)
    else do
      let graceEndsAt ← dated (latest + max request.publicationGrace 0)
      if request.now < graceEndsAt then
        return applyWindow window ⟨"within_grace","publication_grace_open",some latest,none,some graceEndsAt⟩
      else return applyWindow window ⟨"due","publication_grace_ended",some latest,none,some graceEndsAt⟩

-- `classify_business_date_schedule` as it is called here, for the date of now
def classifyToday (window : Option Bool) : Except PyExc DaySchedule :=
  if timezoneOf target = "" then .ok (unevaluable "missing_timezone")
  else match kit.zones (timezoneOf target) with
    | none => .ok (unevaluable "invalid_timezone")
    | some market =>
      if (words (fieldText (schedulerOf target) "main_time")).length ≠ 5 then .ok (unevaluable "missing_schedule")
      else do
        let today ← localIn market request.now
        match kit.zones (schedulerZoneOf target) with
        | none => return unevaluable "invalid_timezone"
        | some zone => do
          let _ ← dated (utcOrdinal today * daySpan)
          let start ← dated (market.instantOf ((utcOrdinal today - 1) * daySpan))
          let stop ← dated (market.instantOf (utcOrdinal today * daySpan))
          let due ← selectOk (dueOn kit zone market (utcOrdinal today)) (minutesFrom (nextMinute start) (stop - 1))
          classifyDue target request plan window (utcOrdinal today) due

def marketName : String :=
  if (target.get "market_timezone").truthy then (target.get "market_timezone").text else ((schedulerOf target).get "timezone").textOrEmpty

-- The schedule that is shown: one that is due without a due minute is not.
def shownSchedule (today : DaySchedule) (next : ℤ) : ExpectedSchedule :=
  if ["due","within_grace"].contains today.state ∧ today.latestDueAt = none then
    ⟨"not_due","before_schedule",marketName target,today.latestDueAt,next,today.graceEndsAt⟩
  else ⟨today.state,today.reason,marketName target,today.latestDueAt,next,today.graceEndsAt⟩

def windowOf : Option PyVal → Except PyExc (Option Bool)
  | none => .ok none
  | some .none => .ok none
  | some (.bool window) => .ok (some window)
  | some _ => .error badRequest

def horizonSpan : ℤ := request.horizonDays * daySpan

-- What follows once the request is resolved
def expectFrom (stop : ℤ) : Except PyExc Expectations := do
  let walked ← walkSlots kit request plan (minutesFrom (nextMinute request.since) request.coverageEnd) []
  match walked with
  | .overflow slots minute => return limitExceeded slots minute
  | .all slots => do
    let cursor ← dated (request.now / minuteSpan * minuteSpan + minuteSpan)
    let due ← findDue kit plan (minutesFrom cursor stop)
    match due with
    | none => return .stopped "incomplete" "next_due_outside_horizon" [] none
    | some due => do
      let window ← windowOf request.expectedWindow
      let today ← classifyToday kit target request plan window
      return .ready slots (shownSchedule target today due)

def named (name : String) : Except PyExc Zone :=
  match kit.zones name with
  | some zone => .ok zone
  | none => .error ⟨"ZoneInfoNotFoundError",name⟩

def loadSessions (market : Zone) (stop : ℤ) : Except PyExc Sessions := do
  let first ← localIn market request.since
  let last ← localIn market stop
  return kit.sessionDates (target.get "market_calendar").textOrEmpty (utcOrdinal first) (utcOrdinal last)

def validRequest : Prop := request.since ≤ request.coverageEnd ∧ request.coverageEnd ≤ request.now ∧ 1 ≤ request.maxSlots ∧ request.maxSlots ≤ 20 ∧
  1 ≤ request.horizonDays ∧ request.horizonDays ≤ 366 ∧ 0 ≤ request.publicationGrace

instance : Decidable (validRequest request) := by unfold validRequest; infer_instance

def expect : Except PyExc Expectations := do
  require (validRequest request) badRequest
  if horizonSpan request < request.coverageEnd - request.since then
    return .stopped "incomplete" "expectation_horizon_exceeded" [] none
  else do
    let zone ← named kit ((schedulerOf target).get "timezone").textOrEmpty
    let market ← named kit (marketName target)
    require ((words ((schedulerOf target).get "main_time").textOrEmpty).length = 5 ∧ (target.get "market_calendar").textOrEmpty ≠ "") badRequest
    let _ ← localIn zone request.now
    let stop ← dated (request.now + horizonSpan request)
    match loadSessions kit target request market stop with
    | .error _ | .ok .unavailable => return .stopped "unevaluable" "market_calendar_unavailable" [] none
    | .ok .malformed => .error badRequest
    | .ok (.dates days) => expectFrom kit target request ⟨zone,market,days⟩ stop

-- `enumerate_cycle_expectations`: every error that can be raised in it is caught.
def enumerateCycleExpectations : Expectations :=
  match expect kit target request with
  | .ok outcome => outcome
  | .error _ => .stopped "unevaluable" "invalid_schedule" [] none

end plan

end LongBridge.Schedule
