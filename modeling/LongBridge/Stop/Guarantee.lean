import LongBridge.Stop.Plans

namespace LongBridge.Stop
open Effects

variable {frame : Frame} {identity : Fields} {held before after : Bool}

def isPort (expected : ℕ) : Except PyExc (Option ℕ) → Bool
  | .ok none => true
  | .ok (some number) => number == expected
  | .error _ => false

-- A job whose https URI names the service's host, with port 443 or with none.
def servesHost (kit : Kit) (url : Url) (job : Fields) : Bool :=
  match jobUri kit job with
  | .ok uri => uri.scheme == "https" && uri.hostname == url.hostname && isPort 443 uri.port
  | .error _ => false

-- ... and spells the host with its port and user as the service's URL does.
def spelledAlike (kit : Kit) (url : Url) (job : Fields) : Bool :=
  match jobUri kit job with
  | .ok uri => uri.netloc == url.netloc
  | .error _ => false

def isPaused (job : Fields) : Bool := (job.get "state").isStr "PAUSED"

-- What the last look shows of the service and its jobs, as against the first.
structure Confirmed (kit : Kit) (first last : Observation) : Prop where
  disabled : (targetEnabled last.snapshot.container).isStr "false" = true
  otherwise : sameContainer last.snapshot.container (switchedOff first.snapshot.container) = true
  quiet : ∀ job ∈ last.listed, servesHost kit last.url job = true → isPaused job = true

-- The writes are the first look's, in order and each once.
def Planned (events : List Happening) : Prop :=
  writesOf events = [] ∨ ∃ first, (observations events).head? = some first ∧
    writesOf events <+: planOf first.snapshot ∧ (planOf first.snapshot).Nodup

def Cautious (kit : Kit) (events : List Happening) : Prop :=
  ∀ earlier event later, events = earlier ++ event :: later → unknownWrite kit event = true → writesOf later = []

structure Guaranteed (frame : Frame) (admitted : Admitted) (events : List Happening) (result : Except PyExc Fields)
    (recorded : Bool) : Prop where
  confirmed : result.isOk = true → ∃ first last, (observations events).head? = some first ∧
    (observations events).getLast? = some last ∧ Confirmed frame.kit first last
  planned : Planned events
  cautious : Cautious frame.kit events
  reported : admitted.report.isSome = true → (recorded = true ↔ result.isOk = true)

-- No job of the last listing runs on under another spelling of the service's host.
def NoStray (frame : Frame) (events : List Happening) : Prop :=
  ∀ last ∈ (observations events).getLast?, ∀ job ∈ last.listed,
    servesHost frame.kit last.url job = true → spelledAlike frame.kit last.url job = false → isPaused job = true

section container

theorem lookup_env_set {container : Fields} {value : PyVal} : (Fields.set container "env" value).lookup "env" = some value :=
  Fields.lookup_set_same ..

theorem envOf_lookup {container : Fields} {items : List PyVal} (found : container.lookup "env" = some (.list items)) :
    envOf container = items := by
  simp [envOf,Fields.get,found]

theorem sameEntries_lookup {entries other : List (String × PyVal)} {key : String} {value : PyVal}
    (same : PyVal.sameEntries entries other = true) (found : entries.lookup key = some value) :
    ∃ twin, other.lookup key = some twin ∧ value.same twin = true := by
  induction entries with
  | nil => cases found
  | cons entry rest ih =>
    obtain ⟨name,old⟩ := entry
    rw [PyVal.sameEntries,Bool.and_eq_true] at same
    by_cases here : key = name
    · subst here
      simp only [List.lookup_cons,beq_self_eq_true,Option.some.injEq] at found
      subst found
      cases twin : other.lookup key with
      | none => simp [twin] at same
      | some value => exact ⟨value,rfl,by simpa [twin] using same.1⟩
    · have miss : (key == name) = false := by simpa using here
      rw [List.lookup_cons,miss] at found
      exact ih same.2 found

theorem sameDict_lookup {entries other : Fields} {key : String} {value : PyVal} (same : sameContainer entries other = true)
    (found : entries.lookup key = some value) : ∃ twin, other.lookup key = some twin ∧ value.same twin = true := by
  rw [sameContainer,PyVal.same,Bool.and_eq_true] at same
  exact sameEntries_lookup same.2 found

theorem same_str {value : PyVal} {text : String} (same : value.same (.str text) = true) : value = .str text := by
  cases value <;> simp_all [PyVal.same,PyVal.sameNumber,PyVal.number]

theorem isStr_same {value twin : PyVal} {text : String} (same : value.same twin = true) (named : value.isStr text = true) :
    twin.isStr text = true := by
  cases value with
  | str own =>
    cases twin <;> simp_all [PyVal.same,PyVal.isStr,PyVal.sameNumber,PyVal.number]
  | _ => cases named

theorem entry_stopped {entry : Fields} {twin : PyVal} (same : (PyVal.dict entry).same (stopEntry twin) = true)
    (named : (Fields.get entry "name").isStr "RUNTIME_TARGET_ENABLED" = true) :
    Fields.get entry "value" = .none ∨ Fields.get entry "value" = .str "false" := by
  cases twin with
  | dict other =>
    have copied : sameContainer entry (if (Fields.get other "name").isStr "RUNTIME_TARGET_ENABLED"
        then Fields.set other "value" (.str "false") else other) = true := same
    cases name : entry.lookup "name" with
    | none => simp [Fields.get,name,PyVal.isStr] at named
    | some text =>
      have known : text.isStr "RUNTIME_TARGET_ENABLED" = true := by simpa [Fields.get,name] using named
      obtain ⟨twinName,found,alike⟩ := sameDict_lookup copied name
      have switched : (Fields.get other "name").isStr "RUNTIME_TARGET_ENABLED" = true := by
        by_contra other
        rw [if_neg other] at found
        exact other (by simpa [Fields.get,found] using isStr_same alike known)
      rw [if_pos switched] at copied
      cases value : entry.lookup "value" with
      | none => left; simp [Fields.get,value]
      | some own =>
        right
        obtain ⟨twinValue,set,matching⟩ := sameDict_lookup copied value
        rw [Fields.lookup_set_same,Option.some.injEq] at set
        subst set
        simpa [Fields.get,value] using same_str matching
  | _ => simp [stopEntry,PyVal.same,PyVal.sameNumber,PyVal.number] at same

-- The environment that equals the switched-off one has the target switched off.
theorem stopped_value {items twins : List PyVal} {value : PyVal} (same : PyVal.sameItems items (twins.map stopEntry) = true)
    (found : items.findSome? (entryValue "RUNTIME_TARGET_ENABLED") = some value) : value = .none ∨ value = .str "false" := by
  induction items generalizing twins with
  | nil => cases found
  | cons item rest ih =>
    cases twins with
    | nil => cases same
    | cons twin others =>
      rw [List.map_cons,PyVal.sameItems,Bool.and_eq_true] at same
      rw [List.findSome?_cons] at found
      cases here : entryValue "RUNTIME_TARGET_ENABLED" item with
      | none =>
        rw [here] at found
        exact ih same.2 found
      | some own =>
        rw [here] at found
        cases found
        cases item with
        | dict entry =>
          simp only [entryValue] at here
          split at here
          · cases here
            exact entry_stopped same.1 ‹_›
          · cases here
        | _ => cases here

theorem readback_disabled {first last : Observation} (sound : Sound frame last)
    (same : sameContainer last.snapshot.container (switchedOff first.snapshot.container) = true) :
    (targetEnabled last.snapshot.container).isStr "false" = true := by
  obtain ⟨entries,kept⟩ := sound.sorted
  obtain ⟨twin,found,alike⟩ := sameDict_lookup same kept
  rw [switchedOff,lookup_env_set,Option.some.injEq] at found
  subst found
  have items : PyVal.sameItems (entries.map .dict) ((envOf first.snapshot.container).map stopEntry) = true := by
    simpa [PyVal.same] using alike
  have switch := sound.switch
  unfold targetEnabled envValue at switch ⊢
  rw [envOf_lookup kept] at switch ⊢
  cases value : (entries.map PyVal.dict).findSome? (entryValue "RUNTIME_TARGET_ENABLED") with
  | none => rw [value] at switch; simp [PyVal.isStr] at switch
  | some own =>
    rw [value] at switch
    rcases stopped_value items value with rfl | rfl
    · simp [PyVal.isStr] at switch
    · simp [PyVal.isStr]

end container

section jobs

theorem selectJob_row {kit : Kit} {project : String} {url : Url} {job : Fields} {row : JobRow}
    (found : selectJob kit project url job = .ok (some row)) : (job.get "state") = .str row.state := by
  unfold selectJob at found
  obtain ⟨uri,_,found⟩ := bind_ok.mp found
  split at found
  · cases made : jobRow project uri job with
    | error error => rw [made] at found; cases found
    | ok own =>
      rw [made] at found
      cases found
      unfold jobRow at made
      obtain ⟨name,_,made⟩ := bind_ok.mp made
      obtain ⟨state,stated,made⟩ := bind_ok.mp made
      obtain ⟨_,_,made⟩ := bind_ok.mp made
      cases return_ok.mp made
      revert stated
      cases job.get "state" <;> intro stated <;> cases stated
      rfl
  · cases found

theorem selectJob_served {kit : Kit} {project : String} {url : Url} {job : Fields} {found : Option JobRow}
    (selected : selectJob kit project url job = .ok found) (serves : servesHost kit url job = true) (alike : spelledAlike kit url job = true) : found.isSome = true := by
  unfold selectJob at selected
  obtain ⟨uri,read,selected⟩ := bind_ok.mp selected
  unfold servesHost at serves
  unfold spelledAlike at alike
  rw [read] at serves alike
  simp only [Bool.and_eq_true,beq_iff_eq] at serves alike
  rw [if_pos ⟨serves.1.1,alike⟩] at selected
  cases made : jobRow project uri job with
  | error error => rw [made] at selected; cases selected
  | ok own => rw [made] at selected; cases selected; rfl

theorem selectJobs_rows {kit : Kit} {project : String} {url : Url} {listed : List Fields} {rows : List JobRow}
    (selected : selectJobs kit project url listed = .ok rows) : (rows.map JobRow.name).Nodup ∧
      ∀ job ∈ listed, ∀ row, selectJob kit project url job = .ok (some row) → row ∈ rows := by
  unfold selectJobs at selected
  obtain ⟨found,each,selected⟩ := bind_ok.mp selected
  obtain ⟨_,checked,selected⟩ := bind_ok.mp selected
  cases return_ok.mp selected
  have sorted := List.perm_insertionSort (fun one two : JobRow => one.name ≤ two.name) (found.filterMap id)
  refine ⟨(sorted.map JobRow.name).nodup_iff.mpr (require_ok.mp checked).2,?_⟩
  intro job member row made
  obtain ⟨own,kept,same⟩ := (mapM_mem each).1 job member
  rw [made] at same
  cases same
  exact sorted.mem_iff.mpr (List.mem_filterMap.mpr ⟨some row,kept,rfl⟩)

-- Once every row is paused, so is every job that was selected.
theorem alike_paused {kit : Kit} {project : String} {url : Url} {listed : List Fields} {rows : List JobRow}
    (selected : selectJobs kit project url listed = .ok rows) (stopped : ∀ row ∈ rows, row.state = "PAUSED") {job : Fields}
    (member : job ∈ listed) (serves : servesHost kit url job = true) (alike : spelledAlike kit url job = true) :
    isPaused job = true := by
  have each := selected
  unfold selectJobs at each
  obtain ⟨found,each,_⟩ := bind_ok.mp each
  obtain ⟨own,_,made⟩ := (mapM_mem each).1 job member
  obtain ⟨row,rfl⟩ := Option.isSome_iff_exists.mp (selectJob_served made serves alike)
  have state := selectJob_row made
  rw [stopped row ((selectJobs_rows selected).2 job member row made)] at state
  simp [isPaused,state,PyVal.isStr]

theorem planOf_nodup {observation : Observation} (sound : Sound frame observation) : (planOf observation.snapshot).Nodup := by
  have distinct := (selectJobs_rows sound.selected).1
  have pauses : (pausesOf observation.snapshot.jobs).Nodup := by
    have enabled := (List.filter_sublist (p := fun job : JobRow => job.state = "ENABLED") (l := observation.snapshot.jobs)).map JobRow.name
    have named := (enabled.nodup distinct).map (f := Command.pauseJob) (by intro one two same; cases same; rfl)
    rwa [List.map_map] at named
  unfold planOf updateOf
  split
  · refine List.nodup_cons.mpr ⟨?_,pauses⟩
    intro member
    obtain ⟨job,_,other⟩ := List.mem_map.mp member
    cases other
  · exact pauses

end jobs

section runs

def Still : Bool → List Happening → Bool → Prop := Reads fun _ => true

theorem still_composes : Composes Still := reads_composes _

theorem still_reads {allowed : Happening → Bool} {α : Type} {script : Step α} (reads : Keeps (Reads allowed) held script) :
    Keeps Still held script := keeps_weaken (fun kept => ⟨kept.1,fun _ _ => rfl⟩) reads

theorem still_cloud {kit : Kit} {command : Command} : Keeps Still held (cloud kit command) :=
  keeps_bind still_composes (keeps_attempt (keeps_invoke fun _ _ => ⟨rfl,fun _ _ => rfl⟩)) fun _ => still_reads reads_fromExcept

theorem still_switchOff {seen : Snapshot} : Keeps Still held (switchOff frame identity seen) := by
  refine keeps_ite (keeps_bind still_composes still_cloud fun _ => ?_) (keeps_pure still_composes _)
  exact keeps_bind still_composes (still_reads quietly_snapshot) fun _ => still_reads quietly_fromExcept

theorem still_pauseJobs {kit : Kit} {jobs : List JobRow} : Keeps Still held (pauseJobs kit jobs) := by
  induction jobs with
  | nil => exact keeps_pure still_composes _
  | cons job rest ih =>
    refine keeps_bind still_composes (keeps_ite (keeps_bind still_composes still_cloud fun _ => ?_) ?_) fun _ => ih
    · exact keeps_pure still_composes _
    · exact keeps_pure still_composes _

-- With no result at first, there is one in the end exactly if the function returns.
def Recorded {α : Type} (script : Step α) : Prop :=
  ∀ held events result after, script.Steps held false events result after → (after = true ↔ result.isOk = true)

theorem recorded_bind {α β : Type} {script : Step α} {rest : α → Step β} (still : ∀ held, Keeps Still held script)
    (later : ∀ value, Recorded (rest value)) : Recorded (script >>= rest) := by
  intro held events result after steps
  rcases steps_bind.mp steps with ⟨one,two,value,middle,rfl,ran,ended⟩ | ⟨error,rfl,ran⟩
  · obtain ⟨same,_⟩ := still held _ _ _ _ ran
    subst same
    exact later value _ _ _ _ ended
  · obtain ⟨same,_⟩ := still held _ _ _ _ ran
    subst same
    simp [Except.isOk,Except.toBool]

theorem recorded_then {α β : Type} {script : Step α} (recorded : Recorded script) (value : β) :
    Recorded (script >>= fun _ => pure value) := by
  intro held events result after steps
  rcases steps_bind.mp steps with ⟨one,two,_,middle,rfl,ran,ended⟩ | ⟨error,rfl,ran⟩
  · obtain ⟨rfl,rfl,rfl⟩ := steps_pure.mp ended
    exact recorded _ _ _ _ ran
  · exact recorded _ _ _ _ ran

theorem recorded_writeResult {path : ResultPath} {payload : Fields} : Recorded (writeResult path payload) := by
  refine recorded_bind (fun _ => still_reads reads_fromExcept) fun _ => ?_
  refine recorded_bind (fun _ => keeps_attempt (keeps_invoke fun _ _ => ⟨rfl,fun _ _ => rfl⟩)) fun written => ?_
  intro held events result after steps
  cases written with
  | ok done =>
    obtain ⟨_,rfl,rfl⟩ := steps_modify.mp steps
    simp [Except.isOk,Except.toBool]
  | error exc =>
    unfold wroteResult at steps
    dsimp only at steps
    split at steps
    · have ended := steps_modify_bind.mp steps
      obtain ⟨_,rfl,rfl⟩ := steps_raise.mp ended
      simp [Except.isOk,Except.toBool]
    · obtain ⟨_,rfl,rfl⟩ := steps_raise.mp steps
      simp [Except.isOk,Except.toBool]

theorem still_momentNow {now : Option Moment} : Keeps (Reads plain) held (momentNow now) := by
  have composes := reads_composes plain
  cases now with
  | some moment => exact keeps_pure composes _
  | none =>
    refine keeps_bind composes (keeps_invoke ?_) fun _ => keeps_pure composes _
    intro before answer
    exact ⟨rfl,by simp [plain,write?]⟩

theorem recorded_reportStop {seen : Snapshot} {report : Option (Correlation × Producer × ResultPath)}
    (asked : report.isSome = true) : Recorded (reportStop frame identity seen report) := by
  cases report with
  | none => cases asked
  | some target =>
    obtain ⟨correlation,producer,path⟩ := target
    refine recorded_bind (fun _ => still_reads reads_fromExcept) fun _ => ?_
    refine recorded_bind (fun _ => still_reads still_momentNow) fun _ => ?_
    exact recorded_bind (fun _ => still_reads reads_fromExcept) fun _ => recorded_writeResult

theorem recorded_stopTarget {admitted : Admitted} (asked : admitted.report.isSome = true) : Recorded (stopTarget frame admitted) := by
  have looks : ∀ held, Keeps Still held (snapshot frame admitted.identity) := fun _ => still_reads quietly_snapshot
  refine recorded_bind looks fun seen => recorded_bind looks fun again => ?_
  refine recorded_bind (fun _ => still_reads reads_fromExcept) fun _ => recorded_bind (fun _ => still_switchOff) fun _ => ?_
  refine recorded_bind (fun _ => still_pauseJobs) fun _ => recorded_bind looks fun last => ?_
  refine recorded_bind (fun _ => still_reads reads_fromExcept) fun _ => ?_
  exact recorded_then (recorded_reportStop asked) _

def Silent {α : Type} (script : Step α) : Prop :=
  ∀ held before events result after, script.Steps held before events result after → ∀ event ∈ events, plain event = true

theorem silent_bind {α β : Type} {script : Step α} {rest : α → Step β} (first : Silent script)
    (later : ∀ value, Silent (rest value)) : Silent (script >>= rest) := by
  intro held before events result after steps event member
  rcases steps_bind.mp steps with ⟨one,two,value,middle,rfl,ran,ended⟩ | ⟨error,rfl,ran⟩
  · exact (List.mem_append.mp member).elim (first _ _ _ _ _ ran event) (later value _ _ _ _ _ ended event)
  · exact first _ _ _ _ _ ran event member

theorem silent_reads {α : Type} {script : Step α} (reads : ∀ held, Keeps (Reads plain) held script) : Silent script :=
  fun held before events result after steps => (reads held before events result after steps).2

theorem silent_wroteResult {written : Except PyExc Unit} : Silent (wroteResult written) := by
  intro held before events result after steps event member
  cases written with
  | ok done => obtain ⟨rfl,_,_⟩ := steps_modify.mp steps; cases member
  | error exc =>
    unfold wroteResult at steps
    dsimp only at steps
    split at steps
    · have ended := steps_modify_bind.mp steps
      obtain ⟨rfl,_,_⟩ := steps_raise.mp ended
      cases List.mem_singleton.mp member; rfl
    · obtain ⟨rfl,_,_⟩ := steps_raise.mp steps
      cases List.mem_singleton.mp member; rfl

theorem silent_reportStop {seen : Snapshot} {report : Option (Correlation × Producer × ResultPath)} :
    Silent (reportStop frame identity seen report) := by
  cases report with
  | none => exact silent_reads fun _ => keeps_pure (reads_composes plain) _
  | some target =>
    obtain ⟨correlation,producer,path⟩ := target
    refine silent_bind (silent_reads fun _ => reads_fromExcept) fun _ => ?_
    refine silent_bind (silent_reads fun _ => still_momentNow) fun _ => ?_
    refine silent_bind (silent_reads fun _ => reads_fromExcept) fun _ => ?_
    refine silent_bind (silent_reads fun _ => reads_fromExcept) fun _ => ?_
    refine silent_bind (silent_reads fun _ => keeps_attempt (keeps_invoke ?_)) fun _ => silent_wroteResult
    intro before answer
    exact ⟨rfl,by simp [plain,write?]⟩

theorem plans_afterLook {admitted : Admitted} {seen : Snapshot} : Plans frame.kit (planOf seen) (do
    let again ← snapshot frame admitted.identity
    Script.fromExcept (checkUnchanged seen again)
    switchOff frame admitted.identity seen
    pauseJobs frame.kit seen.jobs
    let last ← snapshot frame admitted.identity
    Script.fromExcept (checkReadback seen last (paused seen.jobs))
    reportStop frame admitted.identity last admitted.report
    return stopSummary) := by
  have look : Plans frame.kit [] (snapshot frame admitted.identity) := plans_quiet fun _ => quietly_snapshot
  have check : ∀ {value : Except PyExc Unit}, Plans frame.kit [] (Script.fromExcept value : Step Unit) :=
    plans_quiet fun _ => quietly_fromExcept
  have report : ∀ {last : Snapshot}, Plans frame.kit [] (reportStop frame admitted.identity last admitted.report) := by
    intro last held before events result after steps
    exact wrote_quiet fun event member => plain_quiet (silent_reportStop _ _ _ _ _ steps event member)
  refine plans_before look fun _ => plans_before check fun _ => plans_bind plans_switchOff fun _ => ?_
  refine plans_after plans_pauseJobs fun _ => plans_before look fun _ => plans_before check fun _ => ?_
  exact plans_before report fun _ => plans_pure _

-- What a run of the procedure wrote, against the first look it took.
theorem stopTarget_writes {admitted : Admitted} {events : List Happening} {result : Except PyExc Fields}
    (steps : (stopTarget frame admitted).Steps held before events result after) :
    Planned events ∧ Cautious frame.kit events := by
  unfold stopTarget at steps
  rcases steps_bind.mp steps with ⟨one,two,seen,middle,rfl,ran,rest⟩ | ⟨error,rfl,ran⟩
  · obtain ⟨⟨_,quiet⟩,shown⟩ := snapshot_run ran
    obtain ⟨first,looked,rfl,sound⟩ := shown _ rfl
    have wrote := wrote_append (wrote_quiet quiet) (plans_afterLook _ _ _ _ _ rest)
    refine ⟨.inr ⟨first,?_,wrote.within,planOf_nodup sound⟩,wrote.cautious⟩
    rw [observations_append,looked]; rfl
  · have quiet := (snapshot_run ran).1.2
    exact ⟨.inl (writesOf_quiet quiet),(show Wrote frame.kit [] events false from wrote_quiet quiet).cautious⟩

-- What a run that returns has seen first and last.
theorem stopTarget_looks {admitted : Admitted} {events : List Happening} {value : Fields}
    (steps : (stopTarget frame admitted).Steps held before events (.ok value) after) :
    ∃ first last, (observations events).head? = some first ∧ (observations events).getLast? = some last ∧
      Sound frame first ∧ Sound frame last ∧
      isReadback first.snapshot last.snapshot (paused first.snapshot.jobs) = true := by
  unfold stopTarget at steps
  obtain ⟨e₁,_,_,_,rfl,ran,steps⟩ := steps_bind_ok steps
  obtain ⟨first,looked,rfl,base⟩ := (snapshot_run ran).2 _ rfl
  obtain ⟨e₂,_,_,_,rfl,_,steps⟩ := steps_bind_ok steps
  obtain ⟨e₃,_,_,_,rfl,_,steps⟩ := steps_bind_ok steps
  obtain ⟨e₄,_,_,_,rfl,_,steps⟩ := steps_bind_ok steps
  obtain ⟨e₅,_,_,_,rfl,_,steps⟩ := steps_bind_ok steps
  obtain ⟨e₆,_,_,_,rfl,again,steps⟩ := steps_bind_ok steps
  obtain ⟨last,shown,rfl,sound⟩ := (snapshot_run again).2 _ rfl
  obtain ⟨e₇,_,_,_,rfl,checked,steps⟩ := steps_bind_ok steps
  obtain ⟨e₈,_,_,_,rfl,reported,steps⟩ := steps_bind_ok steps
  obtain ⟨rfl,_,_⟩ := steps_pure.mp steps
  have told := observations_plain (silent_reportStop _ _ _ _ _ reported)
  have noted := observations_plain (reads_fromExcept _ _ _ _ checked).2
  have readback := (steps_fromExcept.mp checked).1
  refine ⟨first,last,?_,?_,base,sound,?_⟩
  · rw [observations_append,looked]; rfl
  · simp [observations_append,shown,told,noted]
  · unfold checkReadback at readback
    split at readback
    · assumption
    · cases readback

theorem executeStop_admitted {request : PyVal} {admitted : Admitted} {events : List Happening}
    {result : Except PyExc Fields} (accepted : admission frame request = .ok admitted)
    (steps : (executeStop frame request).Steps held before events result after) :
    ∃ middle, (admitted.report.isSome = true → middle = false) ∧
      (stopTarget frame admitted).Steps held middle events result after := by
  unfold executeStop at steps
  rw [accepted] at steps
  obtain ⟨one,two,_,middle,rfl,found,rest⟩ | ⟨_,_,failed⟩ := steps_bind.mp steps
  · obtain ⟨same,rfl,rfl⟩ := steps_fromExcept.mp found
    cases same
    unfold clearResult at rest
    by_cases asked : admitted.report.isSome = true
    · rw [if_pos asked] at rest
      exact ⟨false,fun _ => rfl,steps_modify_bind.mp rest⟩
    · rw [if_neg asked] at rest
      exact ⟨middle,fun other => absurd other asked,rest⟩
  · cases (steps_fromExcept.mp failed).1

theorem readback_confirmed {first last : Observation} (sound : Sound frame last)
    (readback : isReadback first.snapshot last.snapshot (paused first.snapshot.jobs) = true)
    (noStray : ∀ job ∈ last.listed, servesHost frame.kit last.url job = true →
      spelledAlike frame.kit last.url job = false → isPaused job = true) : Confirmed frame.kit first last := by
  simp only [isReadback,Bool.and_eq_true,beq_iff_eq] at readback
  obtain ⟨⟨container,_⟩,jobs⟩ := readback
  refine ⟨readback_disabled sound container,container,?_⟩
  intro job listed serves
  cases alike : spelledAlike frame.kit last.url job with
  | false => exact noStray job listed serves alike
  | true =>
    refine alike_paused sound.selected ?_ listed serves alike
    intro row member
    rw [jobs] at member
    obtain ⟨own,_,rfl⟩ := List.mem_map.mp member
    rfl

end runs

-- An admitted stop keeps its guarantee exactly if no job of the last listing runs on
-- under another spelling of the service's host.
theorem stop_is_guaranteed_iff {request : PyVal} {admitted : Admitted} {events : List Happening}
    {result : Except PyExc Fields} (accepted : admission frame request = .ok admitted)
    (steps : (executeStop frame request).Steps held before events result after) :
    Guaranteed frame admitted events result after ↔ (result.isOk = true → NoStray frame events) := by
  obtain ⟨middle,cleared,stopping⟩ := executeStop_admitted accepted steps
  obtain ⟨planned,cautious⟩ := stopTarget_writes stopping
  constructor
  · intro guaranteed returned last found job listed serves _
    obtain ⟨_,final,_,seen,confirmed⟩ := guaranteed.confirmed returned
    rw [Option.mem_def,seen] at found
    cases found
    exact confirmed.quiet job listed serves
  · intro noStray
    refine ⟨?_,planned,cautious,?_⟩
    · intro returned
      cases result with
      | error error => cases returned
      | ok value =>
        obtain ⟨first,last,head,final,base,sound,readback⟩ := stopTarget_looks stopping
        refine ⟨first,last,head,final,readback_confirmed sound readback ?_⟩
        exact noStray rfl last final
    · intro asked
      rw [cleared asked] at stopping
      exact recorded_stopTarget asked _ _ _ _ stopping

section sample

def sampleTarget : PyVal :=
  .dict [("platform_id",.str "longbridge"),("deployment_selector",.str "hk"),("account_selector",.list [.str "main"]),
    ("account_scope",.str "HK"),("service_name",.str service)]

def sampleSpec (enabled : String) : PyVal :=
  .dict [("containers",.list [.dict [("env",.list
    [.dict [("name",.str "RUNTIME_TARGET_ENABLED"),("value",.str enabled)],
      .dict [("name",.str "RUNTIME_TARGET_JSON"),("value",.str (sampleTarget.jsonText ", " ": "))]])]])]

def sampleService (enabled : String) : PyVal :=
  .dict [("metadata",.dict [("name",.str service)]),
    ("status",.dict [("traffic",.list [.dict [("percent",.int 100),("revisionName",.str "hk-1")]]),
      ("latestCreatedRevisionName",.str "hk-1"),("latestReadyRevisionName",.str "hk-1"),("url",.str "https://hk.example")]),
    ("spec",.dict [("template",.dict [("spec",sampleSpec enabled)])])]

def sampleRevision (enabled : String) : PyVal := .dict [("spec",sampleSpec enabled)]

def sampleName (name : String) : String := "projects/demo-project/locations/asia-east2/jobs/" ++ name

def sampleJob (name state uri : String) : PyVal :=
  .dict [("name",.str (sampleName name)),("state",.str state),("httpTarget",.dict [("uri",.str uri)])]

-- The region's jobs: one that runs the service and one whose URI is given.
def sampleJobs (uri state other : String) : PyVal :=
  .list [sampleJob "main" state "https://hk.example/run",sampleJob "probe" other uri]

def sampleDocuments (uri : String) : List PyVal :=
  [sampleService "true",sampleService "false",sampleRevision "true",sampleRevision "false",sampleTarget,.dict [],
    sampleJobs uri "ENABLED" "ENABLED",sampleJobs uri "PAUSED" "ENABLED",sampleJobs uri "PAUSED" "PAUSED"]

def sampleKit (uri : String) : Kit where
  loads text := match (sampleDocuments uri).find? fun document => document.jsonText ", " ": " == text with
    | some document => .ok document
    | none => .error ⟨"JSONDecodeError","Expecting value"⟩
  netlocValid _ := true
  uuidText _ := none
  sha256 _ := .error ⟨"ValueError","unused"⟩

def sampleFrame (uri : String) : Frame where
  kit := sampleKit uri
  project := "demo-project"
  environment := [("RUNTIME_TARGET_ENABLED","false"),("RUNTIME_TARGET_JSON",sampleTarget.jsonText ", " ": ")]
  resultPath := none
  now := none

def sampleRequest : PyVal :=
  .dict [("target_id",.str "longbridge/hk"),("github",githubTarget),("runtime_target",sampleTarget)]

def wrote (past : List Happening) (command : Command) : Bool := (writesOf past).contains command

def stateAfter (past : List Happening) (name : String) : String :=
  if wrote past (.pauseJob (sampleName name)) then "PAUSED" else "ENABLED"

-- A region in which every command is carried out and answered.
def sampleWorld (uri : String) : World ports PyExc := fun past call =>
  let enabled := if wrote past .updateEnvironment then "false" else "true"
  match call with
  | .gcloud .describeService => .ok ⟨0,(sampleService enabled).jsonText ", " ": "⟩
  | .gcloud (.describeRevision _) => .ok ⟨0,(sampleRevision enabled).jsonText ", " ": "⟩
  | .gcloud .listJobs => .ok ⟨0,(sampleJobs uri (stateAfter past "main") (stateAfter past "probe")).jsonText ", " ": "⟩
  | .gcloud _ => .ok ⟨0,""⟩
  | .now => .ok (0 : ℤ)
  | .replaceResult _ => .ok ()

def sampleRun (uri : String) : List Happening × Except PyExc Fields × Bool :=
  play (sampleWorld uri) [] ((executeStop (sampleFrame uri) sampleRequest).run false true)

theorem sampleRun_steps (uri : String) : (executeStop (sampleFrame uri) sampleRequest).Steps false true
    (sampleRun uri).1 (sampleRun uri).2.1 (sampleRun uri).2.2 := play_runs (sampleWorld uri) [] _

-- Whether a job with the service's host is left running in the last look.
def runsOn (kit : Kit) (events : List Happening) : Bool :=
  ((observations events).getLast?.map fun last => last.listed.any fun job => servesHost kit last.url job && !isPaused job)
    |>.getD false

theorem runsOn_last {kit : Kit} {events : List Happening} {last : Observation} (final : (observations events).getLast? = some last) :
    runsOn kit events = last.listed.any fun job => servesHost kit last.url job && !isPaused job := by
  simp [runsOn,final]

theorem accepted_of_ok {frame : Frame} {request : PyVal} (accepts : (admission frame request).isOk = true) :
    ∃ admitted, admission frame request = .ok admitted := by
  cases found : admission frame request with
  | ok admitted => exact ⟨admitted,rfl⟩
  | error exc => rw [found] at accepts; cases accepts

theorem stopped_service_is_guaranteed : ∃ admitted,
    admission (sampleFrame "https://hk.example/probe") sampleRequest = .ok admitted ∧
    Guaranteed (sampleFrame "https://hk.example/probe") admitted (sampleRun "https://hk.example/probe").1
      (sampleRun "https://hk.example/probe").2.1 (sampleRun "https://hk.example/probe").2.2 := by
  obtain ⟨admitted,accepted⟩ := accepted_of_ok
    (show (admission (sampleFrame "https://hk.example/probe") sampleRequest).isOk = true by decide +kernel)
  refine ⟨admitted,accepted,(stop_is_guaranteed_iff accepted (sampleRun_steps _)).mpr ?_⟩
  intro _ last final job listed serves _
  have none : runsOn (sampleKit "https://hk.example/probe") (sampleRun "https://hk.example/probe").1 = false := by decide +kernel
  rw [runsOn_last final,List.any_eq_false] at none
  by_contra running
  refine none job listed ?_
  rw [Bool.and_eq_true,Bool.not_eq_true']
  exact ⟨serves,by simpa using running⟩

-- With port 443 written out, a job runs on and the stop is reported as done.
theorem job_with_port_runs_on : ∃ admitted,
    admission (sampleFrame "https://hk.example:443/probe") sampleRequest = .ok admitted ∧
    (executeStop (sampleFrame "https://hk.example:443/probe") sampleRequest).Steps false true
      (sampleRun "https://hk.example:443/probe").1 (sampleRun "https://hk.example:443/probe").2.1
      (sampleRun "https://hk.example:443/probe").2.2 ∧
    ¬Guaranteed (sampleFrame "https://hk.example:443/probe") admitted (sampleRun "https://hk.example:443/probe").1
      (sampleRun "https://hk.example:443/probe").2.1 (sampleRun "https://hk.example:443/probe").2.2 := by
  obtain ⟨admitted,accepted⟩ := accepted_of_ok
    (show (admission (sampleFrame "https://hk.example:443/probe") sampleRequest).isOk = true by decide +kernel)
  refine ⟨admitted,accepted,sampleRun_steps _,?_⟩
  intro guaranteed
  have ended : ((sampleRun "https://hk.example:443/probe").2.1.isOk &&
      runsOn (sampleKit "https://hk.example:443/probe") (sampleRun "https://hk.example:443/probe").1) = true := by decide +kernel
  obtain ⟨returned,running⟩ := (Bool.and_eq_true _ _).mp ended
  obtain ⟨first,last,_,final,confirmed⟩ := guaranteed.confirmed returned
  rw [runsOn_last final,List.any_eq_true] at running
  obtain ⟨job,listed,stray⟩ := running
  rw [Bool.and_eq_true,Bool.not_eq_true'] at stray
  have paused := confirmed.quiet job listed stray.1
  rw [stray.2] at paused
  cases paused

end sample

end LongBridge.Stop
