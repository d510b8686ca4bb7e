import LongBridge.Effects.Interleaving
import LongBridge.Effects.Versions
import LongBridge.Python.Text

namespace LongBridge.Notifications
open Effects

-- An aware datetime. Its ISO text names exactly this instant and offset, so comparing
-- two texts compares both.
structure Moment where
  instant : ℤ
  offset : ℤ
  deriving DecidableEq

structure NotificationEvent where
  eventKind : String
  occurredAt : Moment
  platformId : Option String
  opaqueAccountUid : Option String
  targetId : Option String
  strategyProfile : Option String
  sourceRunId : Option String
  orderExecutionDigest : Option String
  incidentReason : Option String

-- A marker document. A document of another shape counts as one of another schema.
structure Marker where
  schemaVersion : String
  active : Bool
  state : Option String
  severity : ℤ
  generation : ℤ
  transitionKey : Option String
  deliveryStatus : String
  receiptId : Option String
  observedAt : Option Moment
  deriving DecidableEq

abbrev Reasons := List (String × Option String)

-- What a sender returns: `result is True`, and the receipt of a mapping.
structure SendResult where
  isTrue : Bool
  receiptId : Option String

inductive Action where
  | send
  | duplicate
  | recovered
  | coverageUnknown
  deriving DecidableEq

structure IncidentDecision where
  action : Action
  incidentKey : Option String
  transitionKey : Option String

inductive IncidentCall where
  | reloadMarker (key : String)
  | downloadMarker (key : String) (generation : ℕ)
  | setMarker (key : String) (version : Option ℕ) (value : Marker)
  | reloadGroup (key : String)
  | downloadGroup (key : String) (generation : ℕ)
  | setGroup (key : String) (version : Option ℕ) (value : Reasons)
  | send

def IncidentCall.Result : IncidentCall → Type
  | .reloadMarker _ | .reloadGroup _ => Option ℕ
  | .downloadMarker .. => Marker
  | .downloadGroup .. => Reasons
  | .setMarker .. | .setGroup .. => Bool
  | .send => SendResult

def incidentPorts : Ports where
  Call := IncidentCall
  Result := IncidentCall.Result
  Mark := Empty

abbrev IncidentRun (α : Type) := Script incidentPorts PyExc Unit α

def askIncident (call : IncidentCall) : IncidentRun call.Result := @Script.invoke incidentPorts PyExc Unit call

-- `GCSNotificationStore.read`: the generation first, then the object of that generation.
def readMarker (key : String) : IncidentRun (Option (ℕ × Marker)) := do
  let found ← askIncident (.reloadMarker key)
  match found with
  | none => return none
  | some generation => do
    let value ← askIncident (.downloadMarker key generation)
    return some (generation,value)

def readGroup (key : String) : IncidentRun (Option (ℕ × Reasons)) := do
  let found ← askIncident (.reloadGroup key)
  match found with
  | none => return none
  | some generation => do
    let value ← askIncident (.downloadGroup key generation)
    return some (generation,value)

-- What a download raises when the object has another generation by then.
def preconditionFailed : PyExc := ⟨"PreconditionFailed","conditionNotMet"⟩

-- The digests of the kit: one of a list of parts, one of the canonical JSON of a list.
structure Digests where
  digest : List PyVal → String
  hash : List PyVal → String

def incidentSchema : String := "qsl.notification_incident.v1"

def concurrentUpdate : PyExc := ⟨"RuntimeError","notification_marker_concurrent_update"⟩

def staleObservation : PyExc := ⟨"_StaleObservation","notification_observation_out_of_order"⟩

def identityPresent : Option String → Bool
  | some text => strip text != ""
  | none => false

def optionalText : Option String → PyVal
  | some text => .str text
  | none => .none

def routineDedupeKey (digests : Digests) (event : NotificationEvent) : Option String :=
  let order := if event.eventKind = "order_submitted" ∨ event.eventKind = "fill" then [event.orderExecutionDigest] else []
  let parts := [event.platformId,event.opaqueAccountUid,event.targetId,event.strategyProfile,event.sourceRunId,
    some event.eventKind] ++ order
  if parts.all identityPresent then
    some (digests.digest (.str "qsl.notification_routine.v1" :: parts.map optionalText)) else none

-- `IncidentTracker._read_marker`
def markerIsComplete (marker : Marker) : Bool :=
  marker.schemaVersion == incidentSchema && identityPresent marker.state && decide (0 ≤ marker.severity) &&
  decide (0 ≤ marker.generation) &&
  ["not_attempted","pending","uncertain","delivered"].contains marker.deliveryStatus &&
  (decide (marker.generation ≤ 0) || identityPresent marker.transitionKey)

def completeMarker (found : Option (ℕ × Marker)) : Except PyExc (Option (ℕ × Marker)) :=
  match found with
  | none => .ok none
  | some (version,marker) =>
    if markerIsComplete marker then .ok (some (version,marker))
    else .error ⟨"RuntimeError","notification_marker_history_incomplete"⟩

def isNewer (stamp : Moment) (found : Option (ℕ × Marker)) : Bool :=
  match found with
  | some (_,marker) => match marker.observedAt with
    | some observed => decide (stamp.instant < observed.instant)
    | none => false
  | none => false

-- `_OrderedStore.read` and `_OrderedStore.compare_and_set`
def orderedRead (stamp : Moment) (key : String) : IncidentRun (Option (ℕ × Marker)) := do
  let found ← readMarker key
  if isNewer stamp found then Script.raise staleObservation else return found

def orderedSet (stamp : Moment) (key : String) (version : Option ℕ) (value : Marker) : IncidentRun Bool :=
  askIncident (.setMarker key version { value with observedAt := some stamp })

def setOrRaise (set : Bool) : IncidentRun Unit := if set then return () else Script.raise concurrentUpdate

-- `_OrderedStore.advance`
def advanceMarker (stamp : Moment) (key : String) : IncidentRun Unit := do
  let found ← orderedRead stamp key
  match found with
  | none => return ()
  | some (version,marker) =>
    if marker.observedAt = some stamp then return ()
    else do
      let set ← orderedSet stamp key (some version) marker
      setOrRaise set

def missingMarker : Marker := ⟨incidentSchema,false,none,0,0,none,"not_attempted",none,none⟩

def previousOf (found : Option (ℕ × Marker)) : Marker := (found.map Prod.snd).getD missingMarker

-- What one observation makes of a marker.
def observed (digests : Digests) (key : String) (previous : Marker) (state : String) (severity : ℤ) (recovered : Bool) :
    Marker × Action :=
  if recovered then ({ previous with active := false, state := some state, severity },.recovered)
  else if previous.active && decide (severity ≤ previous.severity) then
    ({ previous with state := some state, severity },.duplicate)
  else
    let generation := previous.generation + 1
    let transition := digests.digest [.str key,.int generation,optionalText previous.state,.str state,.int severity]
    (⟨incidentSchema,true,some state,severity,generation,some transition,"pending",none,none⟩,.send)

def decisionOf (key : String) (outcome : Marker × Action) : IncidentDecision := ⟨outcome.2,some key,outcome.1.transitionKey⟩

-- `if value == previous or compare_and_set(key, version, value)`, else another round
def concludeRound (stamp : Moment) (key : String) (found : Option (ℕ × Marker)) (outcome : Marker × Action)
    (again : IncidentRun IncidentDecision) : IncidentRun IncidentDecision :=
  if outcome.1 = previousOf found then return decisionOf key outcome
  else do
    let set ← orderedSet stamp key (found.map Prod.fst) outcome.1
    if set then return decisionOf key outcome else again

-- `for _ in range(8)`
def observeRounds (digests : Digests) (stamp : Moment) (key state : String) (severity : ℤ) (recovered : Bool) :
    ℕ → IncidentRun IncidentDecision
  | 0 => Script.raise concurrentUpdate
  | rounds + 1 => do
    let read ← orderedRead stamp key
    let found ← Script.fromExcept (completeMarker read)
    concludeRound stamp key found (observed digests key (previousOf found) state severity recovered)
      (observeRounds digests stamp key state severity recovered rounds)

def incidentParts (event : NotificationEvent) : List (Option String) :=
  [event.platformId,event.targetId,event.opaqueAccountUid,event.strategyProfile,event.incidentReason]

-- `IncidentTracker.observe`
def observeTransition (digests : Digests) (event : NotificationEvent) (state : String) (severity : ℤ) (recovered : Bool) :
    IncidentRun IncidentDecision :=
  if !(incidentParts event).all identityPresent then return ⟨.coverageUnknown,none,none⟩
  else if strip state = "" ∨ severity < 0 then Script.raise ⟨"ValueError","notification_incident_state_invalid"⟩
  else
    let key := digests.digest (.str incidentSchema :: (incidentParts event).map optionalText)
    observeRounds digests event.occurredAt key state severity recovered 8

def incidentGroups : List String := ["cycle_attention:","new_risk_attention:","runtime_issue:"]

def incidentGroup (event : NotificationEvent) : Option String :=
  incidentGroups.find? fun lead => startsWith (event.incidentReason.getD "") lead

def setReason (reason : String) (run : Option String) : Reasons → Reasons
  | [] => [(reason,run)]
  | (name,old) :: rest => if name == reason then (name,run) :: rest else (name,old) :: setReason reason run rest

-- The index of a group names the run that saw each reason last.
def noteReason (digests : Digests) (event : NotificationEvent) (group : String) : IncidentRun Unit := do
  let key := digests.hash ([event.platformId,event.targetId,event.opaqueAccountUid,event.strategyProfile,
    some group].map optionalText)
  let index ← readGroup key
  let reasons := (index.map Prod.snd).getD []
  let reason := event.incidentReason.getD ""
  if ((reasons.lookup reason).getD none) = event.sourceRunId then return ()
  else do
    let set ← askIncident (.setGroup key (index.map Prod.fst) (setReason reason event.sourceRunId reasons))
    setOrRaise set

def advanceDecision (stamp : Moment) (decision : IncidentDecision) : IncidentRun Unit :=
  match decision.incidentKey with
  | some key => advanceMarker stamp key
  | none => return ()

def indexReason (digests : Digests) (event : NotificationEvent) (recovered : Bool) : IncidentRun Unit :=
  match incidentGroup event with
  | some group => if recovered then return () else noteReason digests event group
  | none => return ()

def observeOrdered (digests : Digests) (event : NotificationEvent) (state : String) (severity : ℤ) (recovered : Bool) :
    IncidentRun IncidentDecision := do
  let decision ← observeTransition digests event state severity recovered
  advanceDecision event.occurredAt decision
  indexReason digests event recovered
  return decision

-- `except _StaleObservation` around the whole observation
def observeIncident (digests : Digests) (event : NotificationEvent) (state : String) (severity : ℤ) (recovered : Bool) :
    IncidentRun IncidentDecision := do
  let result ← (observeOrdered digests event state severity recovered).attempt
  match result with
  | .ok decision => return decision
  | .error exc => if exc = staleObservation then return ⟨.duplicate,none,none⟩ else Script.raise exc

-- `IncidentTracker.record_delivery`, over the store itself
def recordDelivery (decision : IncidentDecision) (receiptId : Option String) : IncidentRun Unit :=
  match decision.action,decision.incidentKey with
  | .send,some key => do
    let read ← readMarker key
    let found ← Script.fromExcept (completeMarker read)
    match found with
    | none => Script.raise ⟨"RuntimeError","notification_marker_transition_changed"⟩
    | some (version,marker) =>
      if marker.transitionKey ≠ decision.transitionKey then
        Script.raise ⟨"RuntimeError","notification_marker_transition_changed"⟩
      else do
        let receipt := if identityPresent receiptId then receiptId else none
        let set ← askIncident (.setMarker key (some version) { marker with
          deliveryStatus := if receipt.isSome then "delivered" else "uncertain", receiptId := receipt })
        setOrRaise set
  | _,_ => Script.raise ⟨"ValueError","notification_delivery_without_reservation"⟩

-- Only a receipt of the sender's own counts.
def uniqueReceipt (digests : Digests) (event : NotificationEvent) (decision : IncidentDecision) (result : SendResult) :
    Option String :=
  match result.receiptId with
  | none => none
  | some receipt =>
    if strip receipt = "" ∨ startsWith receipt "transport-ack:" = true ∨ some receipt = decision.transitionKey ∨
      some receipt = routineDedupeKey digests event then none else some receipt

def deliver (digests : Digests) (event : NotificationEvent) (decision : IncidentDecision) : IncidentRun Bool := do
  let result ← (askIncident .send).attempt
  match result with
  | .error exc => do
    recordDelivery decision none
    Script.raise exc
  | .ok result => do
    let receipt := uniqueReceipt digests event decision result
    recordDelivery decision receipt
    return result.isTrue || receipt.isSome

-- `state or event.event_kind`
def sendIncident (digests : Digests) (event : NotificationEvent) (state : Option String) (severity : ℤ) : IncidentRun Bool := do
  let named := match state with
    | some text => if text = "" then event.eventKind else text
    | none => event.eventKind
  let decision ← observeIncident digests event named severity false
  if decision.action ≠ .send then return false else deliver digests event decision

end LongBridge.Notifications
