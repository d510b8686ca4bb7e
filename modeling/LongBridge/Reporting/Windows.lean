import LongBridge.Python.Times
import LongBridge.Reporting.Monitors

namespace LongBridge.Reporting
open Effects

-- `instant.replace(second=0, microsecond=0)` and the like.
def floorTo (span instant : ℤ) : ℤ := instant - instant % span

def firstMinute (since : ℤ) : ℤ :=
  let cursor := floorTo minuteSpan since
  if cursor < since then cursor + minuteSpan else cursor

-- The minutes a loop visits from `cursor` to `through`.
def minutesUpTo (cursor through : ℤ) : List ℤ :=
  (List.range ((through - cursor) / minuteSpan + 1).toNat).map fun index : ℕ => cursor + (index : ℤ) * minuteSpan

def maxSlots : ℕ := 20

-- The slots among the minutes, or the one that is more than the limit.
def takeSlots (eligible : ℤ → Bool) : List ℤ → List ℤ → Except ℤ (List ℤ)
  | [],slots => .ok slots
  | minute :: rest,slots =>
    if eligible minute then
      if slots.length = maxSlots then .error minute else takeSlots eligible rest (slots ++ [minute])
    else takeSlots eligible rest slots

def horizon : ℤ := 366 * daySpan

def nextDue (eligible : ℤ → Bool) (now : ℤ) : Option ℤ :=
  (minutesUpTo (floorTo minuteSpan now + minuteSpan) (now + horizon)).find? eligible

inductive Expectation where
  | ready (slots : List ℤ) (nextDue : ℤ)
  | overflow (minute : ℤ)
  | unavailable (reason : String)

-- `enumerate_cycle_expectations`; whether the cron and the session calendar name a minute is given.
def enumerateCycleExpectations (eligible : ℤ → Bool) (publicationGrace since now coverageThrough : ℤ) : Expectation :=
  if since > coverageThrough ∨ coverageThrough > now ∨ publicationGrace < 0 then .unavailable "invalid_schedule"
  else if coverageThrough - since > horizon then .unavailable "expectation_horizon_exceeded"
  else match takeSlots eligible (minutesUpTo (firstMinute since) coverageThrough) [] with
    | .error minute => .overflow minute
    | .ok slots => match nextDue eligible now with
      | none => .unavailable "next_due_outside_horizon"
      | some due => .ready slots due

-- A report object: its name states the second the run started in.
structure Stored where
  second : ℤ
  report : Fields

-- The first slot that began before the run and whose successor the run did not reach.
def selectSlot (due started finished : ℤ) : List ℤ → Option ℤ
  | [] => none
  | slot :: rest =>
    if slot ≤ started ∧ finished < rest.head?.getD due then some slot else selectSlot due started finished rest

-- What the collector reads with: the receipt functions, the clock and the target.
structure Reader where
  kit : ReceiptKit
  health : CycleHealth.Kit
  clock : CycleHealth.Clock
  context : TargetContext

def withoutInvocation (report : Fields) : Fields := report.filter fun entry => entry.1 != "invocation"

structure Coverage where
  listedCount : ℕ
  readCount : ℕ
  limitHit : Bool
  errorsPresent : Bool

-- `coverage_complete`
def Coverage.complete (coverage : Coverage) : Bool :=
  !coverage.limitHit && !coverage.errorsPresent && coverage.listedCount == coverage.readCount &&
    decide (coverage.readCount ≤ CycleHealth.maxCycles)

structure Published where
  slots : List ℤ
  through : ℤ
  coverage : Coverage

end LongBridge.Reporting
