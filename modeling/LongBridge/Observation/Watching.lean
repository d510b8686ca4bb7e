import LongBridge.Observation.Collecting

namespace LongBridge.Observation
open Effects

-- A watchdog, as it is set up
structure Watch where
  start : ℕ
  activation : ℤ
  verification : Bool

namespace Watch

def root (watch : Watch) (incident : String) : String := "alerts/" ++ (if watch.verification then "verification/" else "") ++ incident

-- A watchdog that verifies tells it in every message.
def worded (watch : Watch) (message : String) : String := (if watch.verification then "[verification] " else "") ++ message

end Watch

-- What there is to tell of an incident, and the objects that go with it
inductive Notice where
  | alert
  | recovery

namespace Notice

def text (notice : Notice) (incident : String) : String :=
  match notice with
  | .alert => "PAPER observation alert: " ++ incident
  | .recovery => "PAPER observation recovery: " ++ incident

def claims : Notice → String
  | .alert => "/claims/"
  | .recovery => "/recover-claims/"

def mark : Notice → String
  | .alert => "/ack.json"
  | .recovery => "/recovered.json"

end Notice

def ackKey (watch : Watch) (incident : String) : String := watch.root incident ++ Notice.alert.mark

def recoveredKey (watch : Watch) (incident : String) : String := watch.root incident ++ Notice.recovery.mark

def noticeKey (watch : Watch) (notice : Notice) (incident : String) (now : ℤ) : String :=
  watch.root incident ++ notice.claims ++ slotText now ++ ".json"

def watchHeartbeatKey (now : ℤ) : String := "alerts/watch-heartbeat/" ++ slotText now ++ ".json"

def timed (now : ℤ) : PyVal := .dict [("at",.str (isoformat now))]

def acknowledged (now : ℤ) : PyVal := .dict [("at",.str (isoformat now)),("sender_ack",.bool true),("receiver_receipt",.none)]

def tell (watch : Watch) (message : String) : ObservationRun Bool := askObservation (.send (watch.worded message))

-- One claim is one message, and only one that was accepted is marked.
def tellClaimed (watch : Watch) (notice : Notice) (incident key : String) (value : PyVal) : ObservationRun Unit := do
  let accepted : Bool ← tell watch (notice.text incident)
  if accepted then storeObject key value else return ()

def claimNotice (watch : Watch) (now : ℤ) (notice : Notice) (incident key : String) (value : PyVal) : ObservationRun Unit := do
  let claimed : Bool ← askObservation (.create (noticeKey watch notice incident now) (timed now))
  if claimed then tellClaimed watch notice incident key value else return ()

def alert (watch : Watch) (now : ℤ) (incident : String) : ObservationRun Unit := do
  let ack : PyVal ← askObservation (.get (ackKey watch incident))
  if ack.truthy then return () else claimNotice watch now .alert incident (ackKey watch incident) (acknowledged now)

def recoverAcknowledged (watch : Watch) (now : ℤ) (incident : String) : ObservationRun Unit := do
  let recovered : PyVal ← askObservation (.get (recoveredKey watch incident))
  if recovered.truthy then return () else claimNotice watch now .recovery incident (recoveredKey watch incident) (timed now)

def recover (watch : Watch) (now : ℤ) (incident : String) : ObservationRun Unit := do
  let ack : PyVal ← askObservation (.get (ackKey watch incident))
  if ack.truthy then recoverAcknowledged watch now incident else return ()

-- `Watchdog.notify`
def notify (watch : Watch) (now : ℤ) (incident : String) (active : Bool) : ObservationRun Unit :=
  if active then alert watch now incident else recover watch now incident

-- `value[key]`
def subscript (value : PyVal) (key : String) : Except PyExc PyVal :=
  match value with
  | .dict entries => match entries.lookup key with
    | some found => .ok found
    | none => .error ⟨"KeyError",key⟩
  | _ => .error ⟨"TypeError","object is not subscriptable by a string"⟩

def isAlive (now : ℤ) (beat : PyVal) : Except PyExc Bool :=
  if beat.truthy then do
    let sent ← subscript beat "at"
    let time ← instant sent
    return decide (now - 45 * minuteSpan ≤ time ∧ time ≤ now)
  else return false

def isLate (marker : PyVal) : Except PyExc Bool :=
  if marker.truthy then do
    let fields ← asDict marker
    return isFixed (fields.get "status") (.str "late_snapshot")
  else return false

def readBeat (now : ℤ) (beats : List PyVal) (count : ℤ) : ObservationRun (List PyVal) := do
  let beat : PyVal ← askObservation (.get (heartbeatKey (now - count * 15 * minuteSpan)))
  return beats ++ [beat]

def readBeats (now : ℤ) : ObservationRun (List PyVal) := [0,1,2,3].foldlM (readBeat now) []

def watchHeartbeat (watch : Watch) (now : ℤ) : ObservationRun Unit := do
  let beats ← readBeats now
  let alive ← Script.fromExcept (anyOk (isAlive now) beats)
  notify watch now (dateText (utcOrdinal now) ++ "/collector_heartbeat") (!alive && decide (45 * minuteSpan ≤ now - watch.activation))

def watchMarker (watch : Watch) (now : ℤ) (day : ℕ) : ObservationRun Unit := do
  let marker : PyVal ← askObservation (.get (markerKey day))
  let _ ← notify watch now (dateText day ++ "/missing_snapshot") (!marker.truthy)
  let late ← Script.fromExcept (isLate marker)
  notify watch now (dateText day ++ "/late_snapshot") late

def watchDue (watch : Watch) (now : ℤ) (day : ℕ) (due : ℤ) : ObservationRun Unit := do
  let stopped : PyVal ← askObservation (.get (stoppedKey day))
  let _ ← notify watch now (dateText day ++ "/permission_identity_schema") stopped.truthy
  if now < max (due + 60 * minuteSpan) watch.activation then return () else watchMarker watch now day

def watchDay (bundle : Bundle) (watch : Watch) (now : ℤ) (day : ℕ) : ObservationRun Unit := do
  let due ← Script.fromExcept (bundle.due day)
  match due with
  | none => return ()
  | some due => if due ≤ now then watchDue watch now day due else return ()

def watchCoverage (bundle : Bundle) (watch : Watch) (now : ℤ) : ObservationRun Unit :=
  [90,30,7].forM fun (threshold : ℕ) => notify watch now ("calendar/coverage_" ++ toString threshold)
    (decide ((bundle.calendar.stop : ℤ) - utcOrdinal now ≤ threshold))

-- The body of `Watchdog.run`
def watchAll (bundle : Bundle) (watch : Watch) (now : ℤ) : ObservationRun Unit := do
  let _ ← storeObject (watchHeartbeatKey now) (timed now)
  let _ ← watchHeartbeat watch now
  let today := bundle.newYork.date now
  let _ ← Script.fromExcept (bundle.due today)
  let _ ← (expectedDays watch.start today).forM (watchDay bundle watch now)
  watchCoverage bundle watch now

def dedupNote : String := "; persistent dedup unavailable"

-- A failure of the storage is told without it.
def tellStorage (watch : Watch) (now : ℤ) : ObservationRun String := do
  let _ ← tell watch (Notice.alert.text (dateText (utcOrdinal now) ++ "/storage_unavailable" ++ dedupNote))
  return "storage_unavailable"

def calendarIncident (now : ℤ) : String := dateText (utcOrdinal now) ++ "/calendar_unavailable"

def tellCalendar (watch : Watch) (now : ℤ) : ObservationRun String := do
  let told ← (notify watch now (calendarIncident now) true).attempt
  match told with
  | .ok _ => return "calendar_unavailable"
  | .error exc => if exc.kind = "ObservationError" then tellStorage watch now else Script.raise exc

def watchFailed (watch : Watch) (now : ℤ) (exc : PyExc) : ObservationRun String :=
  if exc.kind = "ObservationError" then
    if exc.text = "calendar_unavailable" then tellCalendar watch now else tellStorage watch now
  else Script.raise exc

-- `Watchdog.run`
def watchRun (bundle : Bundle) (watch : Watch) (now : ℤ) : ObservationRun String :=
  if now < watch.activation then return "before_activation"
  else do
    let seen ← (watchAll bundle watch now).attempt
    match seen with
    | .ok _ => return "checked"
    | .error exc => watchFailed watch now exc

-- What `main` does when there is no calendar
def watchBlind (watch : Watch) (now : ℤ) : ObservationRun String := do
  let told ← (notify watch now (calendarIncident now) true).attempt
  match told with
  | .ok _ => Script.raise (observationError "calendar_unavailable")
  | .error exc =>
    if exc.kind = "ObservationError" then do
      let _ ← tell watch (Notice.alert.text ("calendar_unavailable" ++ dedupNote))
      Script.raise (observationError "calendar_unavailable")
    else Script.raise exc

end LongBridge.Observation
