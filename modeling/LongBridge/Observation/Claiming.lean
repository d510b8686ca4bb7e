import LongBridge.Observation.Doings
import LongBridge.Observation.Stored

namespace LongBridge.Observation
open Effects

section keys

-- Where a key belongs is read off its first and its eighth character.
def keyStart (key : String) : Option Char × Option Char := (key.toList.head?,key.toList[7]?)

theorem snapshotKey_start (day : ℕ) : keyStart (snapshotKey day) = (some 's',some 't') := by
  unfold keyStart snapshotKey
  simp only [String.toList_append,List.append_assoc]
  rfl

theorem markerKey_start (day : ℕ) : keyStart (markerKey day) = (some 'h',some 'd') := by
  unfold keyStart markerKey
  simp only [String.toList_append,List.append_assoc]
  rfl

theorem heartbeatKey_start (now : ℤ) : keyStart (heartbeatKey now) = (some 'h',some 'h') := by
  unfold keyStart heartbeatKey
  simp only [String.toList_append,List.append_assoc]
  rfl

theorem stoppedKey_start (day : ℕ) : keyStart (stoppedKey day) = (some 'h',some 's') := by
  unfold keyStart stoppedKey
  simp only [String.toList_append,List.append_assoc]
  rfl

theorem gapKey_start (day : ℕ) : keyStart (gapKey day) = (some 'h',some 'g') := by
  unfold keyStart gapKey
  simp only [String.toList_append,List.append_assoc]
  rfl

theorem attemptKey_start (day : ℕ) (number : ℤ) : keyStart (attemptKey day number) = (some 'h',some 'a') := by
  unfold keyStart attemptKey
  simp only [String.toList_append,List.append_assoc]
  rfl

theorem recoveryKey_start (date : ℕ) : keyStart (recoveryKey date) = (some 'h',some 'r') := by
  unfold keyStart recoveryKey
  simp only [String.toList_append,List.append_assoc]
  rfl

theorem failureKey_start (today : ℕ) (now : ℤ) : keyStart (failureKey today now) = (some 'h',some 'f') := by
  unfold keyStart failureKey
  simp only [String.toList_append,List.append_assoc]
  rfl

theorem observationKey_start (observed : ℤ) : keyStart (observationKey observed) = (some 'o',some 't') := by
  unfold keyStart observationKey
  simp only [String.toList_append,List.append_assoc]
  rfl

theorem ordersKey_start (day : ℕ) (observed : ℤ) : (keyStart (ordersKey day observed)).1 = some 'o' := by
  unfold keyStart ordersKey
  simp only [String.toList_append,List.append_assoc]
  rfl

theorem baseline_start : keyStart "t0.json" = (some 't',none) := rfl

theorem text_between {front back : String} {one two : String} (same : front ++ one ++ back = front ++ two ++ back) : one = two := by
  have chars := congrArg String.toList same
  simp only [String.toList_append,List.append_assoc,List.append_cancel_left_eq,List.append_cancel_right_eq] at chars
  exact String.toList_injective chars

-- A day that a date has
def IsDay (day : ℕ) : Prop := 1 ≤ day ∧ day ≤ lastOrdinal

theorem snapshotKey_injective {one two : ℕ} (first : IsDay one) (second : IsDay two) (same : snapshotKey one = snapshotKey two) : one = two :=
  dateText_injective first second (text_between same)

theorem markerKey_injective {one two : ℕ} (first : IsDay one) (second : IsDay two) (same : markerKey one = markerKey two) : one = two :=
  dateText_injective first second (text_between same)

-- Objects that no other object relies on
def isNote (key : String) : Bool :=
  (keyStart key).1 == some 'o' || [(some 'h',some 'h'),(some 'h',some 's'),(some 'h',some 'g'),(some 'h',some 'f')].contains (keyStart key)

theorem isNote_of {key : String} {start : Option Char × Option Char} (same : keyStart key = start)
    (note : (start.1 == some 'o' || [(some 'h',some 'h'),(some 'h',some 's'),(some 'h',some 'g'),(some 'h',some 'f')].contains start) = true) :
    isNote key = true := by
  rw [isNote,same]
  exact note

theorem isNote_orders (day : ℕ) (observed : ℤ) : isNote (ordersKey day observed) = true := by
  rw [isNote,ordersKey_start]
  rfl

end keys

-- The claims under which a run at `now` may fetch: three attempts a day, and one recovery
def claimKeys (today date : ℕ) : List String := [attemptKey today 0,attemptKey today 1,attemptKey today 2,recoveryKey date]

def startedAt (now : ℤ) : PyVal := .dict [("started_at",.str (isoformat now))]

def runClaims (bundle : Bundle) (now : ℤ) : List String := claimKeys (bundle.newYork.date now) (utcOrdinal now)

-- What a collector may create: a record that fits its day, a marker or a baseline of a record that was read
-- and is valid, a claim, a note.
inductive MayCreate (bundle : Bundle) (now : ℤ) (steady : Prop) (known : List (String × PyVal)) (key : String) (value : PyVal) : Prop where
  | snapshot (day : ℕ) (own : key = snapshotKey day) (dated : IsDay day) (fits : steady → Fits bundle day value)
  | marker (day : ℕ) (record : PyVal) (own : key = markerKey day) (made : value = markerOf day record)
      (read : (snapshotKey day,record) ∈ known) (valid : validateStored bundle record day = .ok record) (dated : IsDay day)
  | baseline (day : ℕ) (record : PyVal) (own : key = "t0.json") (made : value = baselineOf day record)
      (read : (snapshotKey day,record) ∈ known) (valid : validateStored bundle record day = .ok record) (dated : IsDay day)
  | claim (own : key ∈ runClaims bundle now) (made : value = startedAt now)
  | note (own : isNote key = true)

theorem MayCreate.mono {bundle : Bundle} {now : ℤ} {steady other : Prop} {known others : List (String × PyVal)} {key : String} {value : PyVal}
    (fewer : other → steady) (more : ∀ entry ∈ known, entry ∈ others) (may : MayCreate bundle now steady known key value) :
    MayCreate bundle now other others key value := by
  cases may with
  | snapshot day own dated fits => exact .snapshot day own dated fun held => fits (fewer held)
  | marker day record own made read valid dated => exact .marker day record own made (more _ read) valid dated
  | baseline day record own made read valid dated => exact .baseline day record own made (more _ read) valid dated
  | claim own made => exact .claim own made
  | note own => exact .note own

-- Of the claim of this very run, and once
def MayFetch (bundle : Bundle) (now : ℤ) (fetched : Bool) (owns : String → PyVal → Prop) : Prop :=
  fetched = false ∧ ∃ key ∈ runClaims bundle now, owns key (startedAt now)

def oneCollection (bundle : Bundle) (now : ℤ) (fetching : Doing → Prop) : Discipline observationPorts PyExc Doing :=
  oneJob (fun doing => MayCreate bundle now (doing.steady = true) doing.known) fetching fun _ _ => False

def collectorFetch (bundle : Bundle) (now : ℤ) (doing : Doing) : Prop :=
  MayFetch bundle now doing.fetched fun key value => (key,value) ∈ doing.owned

end LongBridge.Observation
