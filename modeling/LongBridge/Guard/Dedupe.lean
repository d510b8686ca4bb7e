import Mathlib.Data.List.Sort
import LongBridge.Python.Text
import LongBridge.Python.Times

namespace LongBridge.Guard

inductive Mode where
  | off
  | dryRun
  | on
  deriving DecidableEq

def resolveMode (environment : Option String) : Mode :=
  let value := lower (strip (environment.getD ""))
  if value = "on" then .on else if value = "dry_run" then .dryRun else .off

structure Settings where
  mode : Option String
  -- `dt.timedelta(hours=_reminder_hours())`
  reminder : ℤ
  -- the digest of the JSON of a name and its normalised issues
  digest : String → List String → String

-- A clock reading from which the retention can be taken away.
def retention : ℤ := 48 * hourSpan

structure Reading where
  instant : ℤ
  late : retention ≤ instant
  early : instant < lastInstant

abbrev Texts := List (String × String)

structure DedupeState where
  events : Texts
  issues : Texts

structure DedupeDecision where
  mode : Mode
  send : Bool
  wouldSuppress : Bool
  newEventCount : ℕ
  newIssueFingerprint : Bool
  reason : String
  deriving DecidableEq

-- re.sub(r"\d+", "#", text)
def maskDigits : List Char → List Char
  | [] => []
  | char :: rest =>
    if char.isDigit then
      if (rest.head?.map Char.isDigit).getD false then maskDigits rest else '#' :: maskDigits rest
    else char :: maskDigits rest

def normalizedIssue (issue : String) : String := strip (String.ofList (maskDigits issue.toList))

-- sorted({...})
def sortedSet (items : List String) : List String := (distinct items).insertionSort (· ≤ ·)

def issueFingerprint (settings : Settings) (name : String) (issues : List String) : String :=
  settings.digest name (sortedSet (issues.map normalizedIssue))

-- A time without a zone is one of UTC.
def parse (text : String) : Option ℤ := (fromisoformat text).map fun stamp => stamp.wall - stamp.offset.getD 0

def load (file : Option DedupeState) : DedupeState := file.getD ⟨[],[]⟩

def prune (state : DedupeState) (now : ℤ) : DedupeState :=
  { state with events := state.events.filter fun entry => now - retention ≤ (parse entry.2).getD now }

-- `key in mapping`, `mapping.setdefault(key, value)` and `mapping[key] = value`
def has (entries : Texts) (key : String) : Bool := (entries.lookup key).isSome

def setDefault (value : String) (entries : Texts) (key : String) : Texts :=
  if has entries key then entries else entries ++ [(key,value)]

def assign (key value : String) : Texts → Texts
  | [] => [(key,value)]
  | entry :: rest => if entry.1 = key then (key,value) :: rest else entry :: assign key value rest

def eventIds (items : List String) : List String := sortedSet (items.filter (· ≠ ""))

def newIds (state : DedupeState) (ids : List String) : List String := ids.filter fun item => !has state.events item

def lastAlert (state : DedupeState) (fingerprint : String) : Option ℤ :=
  parse ((state.issues.lookup fingerprint).getD "None")

def reminderDue (settings : Settings) (state : DedupeState) (fingerprint : String) (now : ℤ) : Bool :=
  (lastAlert state fingerprint).any fun last => settings.reminder ≤ now - last

-- Whether an alert only repeats what the state holds, and why.
def repeats (settings : Settings) (state : DedupeState) (fingerprint : String) (ids : List String) (now : ℤ) :
    Bool × String :=
  if newIds state ids ≠ [] then (false,"new_failure_events")
  else if lastAlert state fingerprint = none then (false,"new_issue_type")
  else if reminderDue settings state fingerprint now then (false,"reminder_due")
  else (true,"repeat_within_reminder_window")

def recorded (state : DedupeState) (fingerprint : String) (ids : List String) (now : ℤ) (repeated : Bool) : DedupeState :=
  if !repeated then
    { events := ids.foldl (setDefault (isoformat now)) state.events
      issues := assign fingerprint (isoformat now) state.issues }
  else { state with events := ids.foldl (setDefault (isoformat now)) state.events }

def decide (settings : Settings) (name : String) (issues events : List String) (now : ℤ) (file : Option DedupeState) :
    DedupeDecision × Option DedupeState :=
  let mode := resolveMode settings.mode
  let ids := eventIds events
  if mode = .off then (⟨mode,true,false,ids.length,true,"dedupe_off"⟩,file)
  else
    let state := prune (load file) now
    let fingerprint := issueFingerprint settings name issues
    let repeated := repeats settings state fingerprint ids now
    (⟨mode,!(repeated.1 && mode = .on),repeated.1,(newIds state ids).length,(lastAlert state fingerprint).isNone,
      repeated.2⟩,some (recorded state fingerprint ids now repeated.1))

def clearIssues (settings : Settings) (now : ℤ) (file : Option DedupeState) : Option DedupeState :=
  if resolveMode settings.mode = .off then file
  else some { prune (load file) now with issues := [] }

-- One answer for each chat; no chat at all is a failure too.
def sendTelegram (answers : List Bool) : Bool := !answers.isEmpty && answers.all id

-- What one run of the guard found, and how the chats would answer it.
structure Run where
  now : Reading
  issues : List String
  events : List String
  answers : List Bool

-- A run and what became of its alert; a healthy run decides nothing.
structure Record where
  run : Run
  decision : Option DedupeDecision
  delivered : Bool

def main (settings : Settings) (name : String) (file : Option DedupeState) (run : Run) : Record × Option DedupeState :=
  if run.issues = [] then (⟨run,none,false⟩,clearIssues settings run.now.instant file)
  else
    let decided := decide settings name run.issues run.events run.now.instant file
    if !decided.1.send then (⟨run,some decided.1,false⟩,decided.2)
    else (⟨run,some decided.1,sendTelegram run.answers⟩,decided.2)

-- The records of a sequence of runs, and the state file behind the last.
inductive Ran (settings : Settings) (name : String) : List Record → Option DedupeState → Prop where
  | start : Ran settings name [] none
  | next (run : Run) : Ran settings name log file →
      Ran settings name (log ++ [(main settings name file run).1]) (main settings name file run).2

end LongBridge.Guard
