import LongBridge.Effects.Interleaving
import LongBridge.Observation.Snapshots

namespace LongBridge.Observation
open Effects

-- What the observation jobs ask of the outside: their store, the account service, the clock and a sender
inductive ObservationCall where
  | get (key : String)
  | create (key : String) (value : PyVal)
  | fetch
  | clock
  | send (message : String)

-- A key that is not there reads as None; a create answers whether it wrote.
def ObservationCall.Result : ObservationCall → Type
  | .get _ | .fetch => PyVal
  | .create .. | .send _ => Bool
  | .clock => ℤ

def observationPorts : Ports where
  Call := ObservationCall
  Result := ObservationCall.Result
  Mark := Empty

abbrev ObservationRun (α : Type) := Script observationPorts PyExc Unit α

def askObservation (call : ObservationCall) : ObservationRun call.Result := @Script.invoke observationPorts PyExc Unit call

-- `%Y%m%d` of an instant in UTC
def compactDay (instant : ℤ) : List Char :=
  let civil := civilOf (utcOrdinal instant)
  padded 4 civil.year ++ (padded 2 civil.month ++ padded 2 civil.day)

def slotText (now : ℤ) : String :=
  let clock := utcClock now
  String.ofList (compactDay now ++ 'T' :: (padded 2 clock.hour ++ (padded 2 (clock.minute / 15 * 15) ++ ['Z'])))

-- `%Y%m%dT%H%M%S%fZ`
def uniqueText (observed : ℤ) : String :=
  let clock := utcClock observed
  String.ofList (compactDay observed ++ 'T' :: (padded 2 clock.hour ++ (padded 2 clock.minute ++ (padded 2 clock.second ++
    (padded 6 clock.micro ++ ['Z'])))))

def heartbeatKey (now : ℤ) : String := "health/heartbeat/" ++ slotText now ++ ".json"

def markerKey (day : ℕ) : String := "health/days/" ++ dateText day ++ ".json"

def snapshotKey (day : ℕ) : String := "snapshots/US/" ++ dateText day ++ ".json"

def stoppedKey (today : ℕ) : String := "health/stopped/" ++ dateText today ++ ".json"

def gapKey (day : ℕ) : String := "health/gaps/" ++ dateText day ++ ".json"

def attemptKey (day : ℕ) (number : ℤ) : String := "health/attempts/" ++ dateText day ++ "/" ++ toString number ++ ".json"

def recoveryKey (date : ℕ) : String := "health/recovery/" ++ dateText date ++ ".json"

def failureKey (today : ℕ) (now : ℤ) : String := "health/failures/" ++ dateText today ++ "/" ++ slotText now ++ ".json"

def observationKey (observed : ℤ) : String := "observations/" ++ uniqueText observed ++ ".json"

def ordersKey (day : ℕ) (observed : ℤ) : String := "orders/" ++ dateText day ++ "/" ++ uniqueText observed ++ ".json"

-- `record[key]` of a record that has been validated
def fieldOf (record : PyVal) (key : String) : PyVal :=
  match record with
  | .dict entries => Fields.get entries key
  | _ => .none

def baselineOf (day : ℕ) (record : PyVal) : PyVal :=
  .dict [("snapshot",.str (snapshotKey day)),("observed_at",fieldOf record "observed_started_at")]

def markerOf (day : ℕ) (record : PyVal) : PyVal :=
  .dict [("trading_date",.str (dateText day)),("status",fieldOf record "timing"),("observed_at",fieldOf record "observed_started_at"),
    ("recent_orders_complete",.bool false),("open_orders_complete",.bool false)]

-- `store.create` as a statement
def storeObject (key : String) (value : PyVal) : ObservationRun Unit := do
  let _ ← askObservation (.create key value)
  return ()

-- `Collector.complete`: a stored snapshot is validated before its marker is created.
def complete (bundle : Bundle) (day : ℕ) (record : PyVal) : ObservationRun Unit := do
  let _ ← Script.fromExcept (validateStored bundle record day)
  let _ ← storeObject "t0.json" (baselineOf day record)
  storeObject (markerKey day) (markerOf day record)

abbrev Gap := ℕ × ℤ

def completed (bundle : Bundle) (gaps : List Gap) (day : ℕ) (record : PyVal) : ObservationRun (List Gap) := do
  let _ ← complete bundle day record
  return gaps

-- A due day without a marker: completed if its snapshot is there, else a gap
def visitDay (bundle : Bundle) (gaps : List Gap) (day : ℕ) (due : ℤ) : ObservationRun (List Gap) := do
  let record : PyVal ← askObservation (.get (snapshotKey day))
  if record.truthy then completed bundle gaps day record else return gaps ++ [(day,due)]

def visitDue (bundle : Bundle) (gaps : List Gap) (day : ℕ) (due : ℤ) : ObservationRun (List Gap) := do
  let marker : PyVal ← askObservation (.get (markerKey day))
  if marker.truthy then return gaps else visitDay bundle gaps day due

def scanDay (bundle : Bundle) (now : ℤ) (gaps : List Gap) (day : ℕ) : ObservationRun (List Gap) := do
  let due ← Script.fromExcept (bundle.due day)
  match due with
  | none => return gaps
  | some due => if due ≤ now then visitDue bundle gaps day due else return gaps

def expectedDays (start today : ℕ) : List ℕ := List.range' start (today + 1 - start)

def sinceDay (now : ℤ) (day : ℕ) : ℤ := utcOrdinal now - day

def ordinaryGap (today : ℕ) (now : ℤ) (gaps : List Gap) : Option Gap :=
  gaps.find? fun gap => gap.1 = today && decide (0 ≤ now - gap.2 ∧ now - gap.2 < 45 * minuteSpan)

def lostDay (day : ℕ) : PyVal :=
  .dict [("trading_date",.str (dateText day)),("cash",.none),("positions",.none),("status",.str "unrecoverable_point_in_time")]

def markGaps (today : ℕ) (gaps : List Gap) : ObservationRun Unit :=
  gaps.forM fun gap => if gap.1 < today then storeObject (gapKey gap.1) (lostDay gap.1) else return ()

def readAccount (binding : String) : ObservationRun Fields := do
  let payload : PyVal ← askObservation .fetch
  let time : ℤ ← askObservation .clock
  Script.fromExcept (sanitize payload binding time)

def stoppingCodes : List String := ["identity_failure","schema_invalid","http_401","http_403"]

def stopDay (today : ℕ) (code : String) : ObservationRun String := do
  let _ ← storeObject (stoppedKey today) (.dict [("reason",.str code)])
  return code

def recordFailure (today : ℕ) (now : ℤ) (code : String) : ObservationRun String := do
  let _ ← storeObject (failureKey today now) (.dict [("reason",.str code)])
  if stoppingCodes.contains code then stopDay today code else return code

def canonicalRecord (bundle : Bundle) (record : Fields) (day : ℕ) (observed due now stored : ℤ) : Fields :=
  record.merge [("trading_date",.str (dateText day)),("scheduled_at",.str (isoformat due)),("job_started_at",.str (isoformat now)),
    ("store_requested_at",.str (isoformat stored)),
    ("lateness_seconds",.float (.finite (latenessSeconds observed due)) (bundle.floatText (latenessSeconds observed due))),
    ("timing",.str (timingOf (latenessSeconds observed due)))]

def storeSnapshot (bundle : Bundle) (record : Fields) (now observed : ℤ) (day : ℕ) (due : ℤ) : ObservationRun Unit :=
  if latenessSeconds observed due < 0 then Script.raise schemaInvalid
  else do
    let stored : ℤ ← askObservation .clock
    let _ ← storeObject (snapshotKey day) (.dict (canonicalRecord bundle record day observed due now stored))
    let copy : PyVal ← askObservation (.get (snapshotKey day))
    complete bundle day copy

def ordersOn (newYork : NewYork) (record : Fields) (day : ℕ) : Except PyExc (List PyVal) :=
  match record.get "recent_orders_7d" with
  | .list items => selectOk (fun order => do
      let submitted ← instant (fieldOf order "submitted_at")
      return newYork.date submitted == day) items
  | _ => .ok []

def ordersOf (record : Fields) (day : ℕ) (orders : List PyVal) : PyVal :=
  .dict [("trading_date",.str (dateText day)),("fetched_at",record.get "observed_finished_at"),("query_start",record.get "orders_query_start"),
    ("query_end",record.get "orders_query_end"),("orders",.list orders),("complete",.bool false),("historical_state_reconstructed",.bool false)]

def storeOrders (bundle : Bundle) (record : Fields) (now observed : ℤ) (day : ℕ) : ObservationRun Unit :=
  if 0 ≤ sinceDay now day ∧ sinceDay now day ≤ 7 then do
    let orders ← Script.fromExcept (ordersOn bundle.newYork record day)
    storeObject (ordersKey day observed) (ordersOf record day orders)
  else return ()

def storeToday (bundle : Bundle) (record : Fields) (today : ℕ) (now observed : ℤ) (gap : Gap) : ObservationRun Unit :=
  if gap.1 = today then storeSnapshot bundle record now observed gap.1 gap.2 else return ()

def storeGap (bundle : Bundle) (record : Fields) (today : ℕ) (now observed : ℤ) (gap : Gap) : ObservationRun Unit := do
  storeToday bundle record today now observed gap
  storeOrders bundle record now observed gap.1

def storeGaps (bundle : Bundle) (record : Fields) (today : ℕ) (now observed : ℤ) (gaps : List Gap) : ObservationRun String := do
  let _ ← storeObject (observationKey observed) (.dict record)
  let _ ← gaps.forM (storeGap bundle record today now observed)
  return "stored"

def storeObservation (bundle : Bundle) (record : Fields) (today : ℕ) (now : ℤ) (gaps : List Gap) : ObservationRun String := do
  let observed ← Script.fromExcept (instant (record.get "observed_started_at"))
  if bundle.newYork.date observed ≠ today then stopDay today "schema_invalid" else storeGaps bundle record today now observed gaps

def observeClaimed (bundle : Bundle) (binding : String) (today : ℕ) (now : ℤ) (gaps : List Gap) : ObservationRun String := do
  let read ← (readAccount binding).attempt
  match read with
  | .ok record => storeObservation bundle record today now gaps
  | .error exc => if exc.kind = "ObservationError" then recordFailure today now exc.text else Script.raise exc

-- One claim is one fetch.
def observe (bundle : Bundle) (binding : String) (today : ℕ) (now : ℤ) (gaps : List Gap) (claim : String) : ObservationRun String := do
  let claimed : Bool ← askObservation (.create claim (.dict [("started_at",.str (isoformat now))]))
  if claimed then observeClaimed bundle binding today now gaps else return "slot_already_claimed"

def recoverGaps (bundle : Bundle) (binding : String) (today : ℕ) (now : ℤ) (gaps : List Gap) : ObservationRun String := do
  let _ ← markGaps today gaps
  if gaps.any fun gap => decide (sinceDay now gap.1 ≤ 7) then observe bundle binding today now gaps (recoveryKey (utcOrdinal now))
  else return "unrecoverable_gaps"

def claimGaps (bundle : Bundle) (binding : String) (today : ℕ) (now : ℤ) (gaps : List Gap) : ObservationRun String :=
  match ordinaryGap today now gaps with
  | some (day,due) => observe bundle binding today now gaps (attemptKey day ((now - due) / (900 * secondSpan)))
  | none =>
    if gaps.any fun gap => decide (now - gap.2 < 60 * minuteSpan) then return "waiting_recovery_slot"
    else recoverGaps bundle binding today now gaps

def fillGaps (bundle : Bundle) (binding : String) (today : ℕ) (now : ℤ) (gaps : List Gap) : ObservationRun String := do
  let stopped : PyVal ← askObservation (.get (stoppedKey today))
  if stopped.truthy then return "stopped_for_day" else claimGaps bundle binding today now gaps

-- `Collector.run`
def collect (bundle : Bundle) (binding : String) (start : ℕ) (now : ℤ) : ObservationRun String := do
  let today := bundle.newYork.date now
  let _ ← storeObject (heartbeatKey now) (.dict [("at",.str (isoformat now))])
  let _ ← Script.fromExcept (bundle.due today)
  let gaps ← (expectedDays start today).foldlM (scanDay bundle now) []
  if gaps.isEmpty then return "no_due_gap" else fillGaps bundle binding today now gaps

end LongBridge.Observation
