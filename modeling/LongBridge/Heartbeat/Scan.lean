import Mathlib.Data.List.Sort
import LongBridge.Heartbeat.Acceptance

namespace LongBridge.Heartbeat
open Effects Notifications

-- An entry of a listing, with the time it names, if it names one
structure ListedObject where
  uri : String
  updated : Option ℤ

structure ReportObject where
  uri : String
  updated : ℤ
  deriving DecidableEq

-- What `main` knows when it scans the reports; `cat` reads an object, none where it is no readable mapping.
structure Setup where
  env : HeartbeatEnv
  cat : String → Option Fields
  matchPayloadTarget : Fields → String × String
  requiredServices : List String
  requiredTargets : List RequiredTarget
  requiredDueAt : String → Option ℤ
  since : ℤ
  dueSince : ℤ
  now : ℤ
  maxReports : ℤ
  notificationsEnabled : Bool
  notificationEnv : NotificationEnv

namespace Setup
variable (setup : Setup)

def requiredKeys : List String :=
  setup.requiredTargets.map RequiredTarget.key ++
    setup.requiredServices.filter fun service => service ∉ setup.requiredTargets.map fun target => strip target.service

def reportLimit : ℤ :=
  if setup.requiredKeys = [] then setup.maxReports else max setup.maxReports (min 200 (setup.requiredKeys.length * 4))

-- The listings, of which one may have failed, as a dict of the objects inside the lookback
def objects (listings : List (Except PyExc (List ListedObject))) : List ReportObject :=
  let entries := listings.flatMap fun listing => listing.toOption.getD []
  let kept := entries.foldl (fun known entry => match entry.updated with
    | some updated => if entry.uri ≠ "" ∧ setup.since ≤ updated then setEntry entry.uri (⟨entry.uri,updated⟩ : ReportObject) known else known
    | none => known) []
  kept.map Prod.snd

-- Newest first; a sort that is stable in reverse too
def sortedObjects (objects : List ReportObject) : List ReportObject := objects.insertionSort fun one two => two.updated ≤ one.updated

-- objects[:limit]
def scanned (objects : List ReportObject) : List ReportObject :=
  (sortedObjects objects).take (if setup.reportLimit < 0 then objects.length + setup.reportLimit else setup.reportLimit).toNat

end Setup

structure Accepted where
  uri : String
  updated : ℤ
  reason : String
  activity : String
  deriving DecidableEq

structure ScanState where
  accepted : List Accepted
  acceptedByService : List (String × Accepted)
  recoveryProofs : List (String × ℤ)
  recoveryReports : List (String × Fields)

section scan
variable (setup : Setup)

def caughtKinds : List String := ["ValueError","JSONDecodeError","TypeError"]

-- `_stamp(payload.get("finished_at") or payload.get("started_at"))`, where the report is bound to the target
def provenTime (payload : Fields) : Except PyExc ℤ := do
  let _ ← targetBinding setup.notificationEnv (some payload)
  stampOf ((payload.get "finished_at").orElse (payload.get "started_at"))

-- The time that a report proves, if it is past; only ValueError and TypeError are caught.
def recoveryProof (payload : Fields) : Except PyExc (Option ℤ) :=
  match provenTime setup payload with
  | .ok proof => .ok (if proof ≤ setup.now then some proof else none)
  | .error raised => if caughtKinds.contains raised.kind then .ok none else .error raised

-- One object: the service it reports for, if it is readable, matches, is recent enough and is accepted
def judge (object : ReportObject) : Except PyExc (Option (String × Accepted × Fields)) :=
  match setup.cat object.uri with
  | none => .ok none
  | some payload =>
    let (matched,serviceName,_) := payloadMatches setup.env setup.matchPayloadTarget setup.requiredServices setup.requiredTargets payload
    if matched = false then .ok none
    else if object.updated < setup.dueSince then .ok none
    else if (setup.requiredDueAt serviceName).any fun due => object.updated < due then .ok none
    else do
      let (ok,reason) ← isAcceptedReport setup.env payload
      return if ok then some (serviceName,⟨object.uri,object.updated,reason,reportActivityLabel payload⟩,payload) else none

def ScanState.keep (state : ScanState) (serviceName : String) (report : Accepted) (payload : Fields) (proof : Option ℤ) : ScanState :=
  let proven := match proof with
    | some proof => { state with
        recoveryProofs := setEntry report.uri proof state.recoveryProofs
        recoveryReports := setEntry report.uri payload state.recoveryReports }
    | none => state
  if setup.requiredKeys ≠ [] then { proven with acceptedByService := setEntry serviceName report proven.acceptedByService }
  else { proven with accepted := proven.accepted ++ [report] }

def proofOf (payload : Fields) : Except PyExc (Option ℤ) := if setup.notificationsEnabled then recoveryProof setup payload else .ok none

def scanObject (state : ScanState) (object : ReportObject) : Except PyExc ScanState := do
  match ← judge setup object with
  | none => return state
  | some (serviceName,report,payload) => do
    let proof ← proofOf setup payload
    return state.keep setup serviceName report payload proof

-- What goes into the recovery: the time it is proven for, and the reports
structure Recovery where
  proof : ℤ
  reports : List Fields

inductive Outcome where
  | covered (evidence : List (String × Accepted)) (passed : Except PyExc (Option Recovery))
  | latest (report : Accepted) (passed : Except PyExc (Option Recovery))
  | alert (missing : List String)

def receiptUnknown : PyExc := valueError "notification_receipt_binding_or_time_unknown"

-- What is passed on for some reports, once the verdict is printed; it raises for a report without a proof.
def recoveryOf (state : ScanState) (uris : List String) : Except PyExc (Option Recovery) :=
  if setup.notificationsEnabled = false then .ok none
  else if uris.any fun uri => (state.recoveryProofs.lookup uri).isNone then .error receiptUnknown
  else match uris.filterMap fun uri => state.recoveryProofs.lookup uri with
    | first :: others => .ok (some ⟨others.foldl min first,uris.filterMap fun uri => state.recoveryReports.lookup uri⟩)
    | [] => .error receiptUnknown

-- The verdict, after the scan
def conclude (state : ScanState) : Outcome :=
  let missing := setup.requiredKeys.filter fun key => (state.acceptedByService.lookup key).isNone
  if setup.requiredKeys ≠ [] ∧ missing = [] then
    let evidence := setup.requiredKeys.filterMap fun key => (state.acceptedByService.lookup key).map fun report => (key,report)
    .covered evidence (recoveryOf setup state (evidence.map fun entry => entry.2.uri))
  else match state.accepted with
    | report :: _ => .latest report (recoveryOf setup state [report.uri])
    | [] => .alert missing

-- `main`, from the listing on
def heartbeat (listings : List (Except PyExc (List ListedObject))) : Except PyExc Outcome := do
  let state ← (setup.scanned (setup.objects listings)).foldlM (scanObject setup) ⟨[],[],[],[]⟩
  return conclude setup state

end scan

end LongBridge.Heartbeat
