import LongBridge.Guard.Dedupe

namespace LongBridge.Guard

variable {settings : Settings} {name : String} {log : List Record} {file : Option DedupeState}

def Record.healthy (record : Record) : Prop := record.run.issues = []

def Record.fingerprint (settings : Settings) (name : String) (record : Record) : String :=
  issueFingerprint settings name record.run.issues

def Record.sent (record : Record) : Prop := ∃ decision, record.decision = some decision ∧ decision.send = true

def Record.suppressed (record : Record) : Prop := ∃ decision, record.decision = some decision ∧ decision.send = false

-- The alert of this record reached the chats.
def Record.alerted (record : Record) : Prop := record.sent ∧ record.delivered = true

-- An alert of this fingerprint was delivered less than the reminder period ago,
-- and no run has been healthy since.
def AlertedWithin (settings : Settings) (name fingerprint : String) (now : ℤ) (log : List Record) : Prop :=
  ∃ before record after, log = before ++ record :: after ∧ record.alerted ∧
    record.fingerprint settings name = fingerprint ∧ record.run.now.instant ≤ now ∧
    now - record.run.now.instant < settings.reminder ∧ ∀ later ∈ after, ¬later.healthy

def EventAlerted (event : String) (log : List Record) : Prop :=
  ∃ record ∈ log, record.alerted ∧ event ∈ eventIds record.run.events

def Justified (settings : Settings) (name : String) (log : List Record) (record : Record) : Prop :=
  AlertedWithin settings name (record.fingerprint settings name) record.run.now.instant log ∧
    ∀ event ∈ eventIds record.run.events, EventAlerted event log

-- Every suppressed alert repeats alerts that were delivered.
def Truthful (settings : Settings) (name : String) (log : List Record) : Prop :=
  ∀ before record after, log = before ++ record :: after → record.suppressed → Justified settings name before record

def Ordered (log : List Record) : Prop := log.Pairwise fun one two => one.run.now.instant ≤ two.run.now.instant

def Delivering (log : List Record) : Prop := ∀ record ∈ log, record.sent → record.delivered = true

theorem snoc_split {α : Type} {items : List α} {last item : α} {before after : List α}
    (split : items ++ [last] = before ++ item :: after) :
    (after = [] ∧ item = last ∧ before = items) ∨ ∃ rest, after = rest ++ [last] ∧ items = before ++ item :: rest := by
  rcases List.eq_nil_or_concat after with rfl | ⟨rest,end_,rfl⟩
  · obtain ⟨same,tail⟩ := List.append_inj' split rfl
    cases tail
    exact .inl ⟨rfl,rfl,same.symm⟩
  · rw [List.concat_eq_append,← List.cons_append,← List.append_assoc] at split
    obtain ⟨same,tail⟩ := List.append_inj' split rfl
    cases tail
    exact .inr ⟨rest,by rw [List.concat_eq_append],same⟩

theorem truthful_snoc {record : Record} (before : Truthful settings name log)
    (last : record.suppressed → Justified settings name log record) : Truthful settings name (log ++ [record]) := by
  intro front item back split quiet
  rcases snoc_split split with ⟨rfl,rfl,rfl⟩ | ⟨rest,rfl,rfl⟩
  · exact last quiet
  · exact before front item rest rfl quiet

-- What the state file says, entry by entry, about a log of delivered alerts.
structure Faithful (settings : Settings) (name : String) (log : List Record) (state : DedupeState) : Prop where
  events : ∀ entry ∈ state.events, EventAlerted entry.1 log
  issues : ∀ entry ∈ state.issues, ∃ before record after, log = before ++ record :: after ∧ record.alerted ∧
    record.fingerprint settings name = entry.1 ∧ entry.2 = isoformat record.run.now.instant ∧
    ∀ later ∈ after, ¬later.healthy

theorem eventAlerted_snoc {event : String} (record : Record) (alerted : EventAlerted event log) :
    EventAlerted event (log ++ [record]) := by
  obtain ⟨old,member,delivered,listed⟩ := alerted
  exact ⟨old,List.mem_append_left _ member,delivered,listed⟩

theorem mem_setDefault {value : String} {entries : Texts} {key : String} {entry : String × String}
    (member : entry ∈ setDefault value entries key) : entry ∈ entries ∨ entry.1 = key := by
  unfold setDefault at member
  split at member
  · exact .inl member
  · rcases List.mem_append.mp member with old | new
    · exact .inl old
    · rw [List.mem_singleton.mp new]; exact .inr rfl

theorem mem_setDefaults {value : String} {keys : List String} {entries : Texts} {entry : String × String}
    (member : entry ∈ keys.foldl (setDefault value) entries) : entry ∈ entries ∨ entry.1 ∈ keys := by
  induction keys generalizing entries with
  | nil => exact .inl member
  | cons key rest ih =>
    rcases ih member with old | new
    · rcases mem_setDefault old with known | rfl
      · exact .inl known
      · exact .inr (List.mem_cons_self ..)
    · exact .inr (List.mem_cons_of_mem _ new)

theorem setDefaults_known {value : String} {keys : List String} {entries : Texts}
    (known : ∀ key ∈ keys, has entries key = true) : keys.foldl (setDefault value) entries = entries := by
  induction keys with
  | nil => rfl
  | cons key rest ih =>
    obtain ⟨first,others⟩ := List.forall_mem_cons.mp known
    rw [List.foldl_cons,show setDefault value entries key = entries by simp [setDefault,first]]
    exact ih others

theorem mem_assign {key value : String} {entries : Texts} {entry : String × String}
    (member : entry ∈ assign key value entries) : entry = (key,value) ∨ entry ∈ entries := by
  induction entries with
  | nil => exact .inl (List.mem_singleton.mp member)
  | cons head rest ih =>
    unfold assign at member
    split at member
    · rcases List.mem_cons.mp member with new | old
      · exact .inl new
      · exact .inr (List.mem_cons_of_mem _ old)
    · rcases List.mem_cons.mp member with rfl | later
      · exact .inr (List.mem_cons_self ..)
      · rcases ih later with new | old
        · exact .inl new
        · exact .inr (List.mem_cons_of_mem _ old)

theorem mem_of_has {entries : Texts} {key : String} (known : has entries key = true) : ∃ entry ∈ entries, entry.1 = key := by
  obtain ⟨value,found⟩ := Option.isSome_iff_exists.mp known
  obtain ⟨before,after,rfl,_⟩ := List.lookup_eq_some_iff.mp found
  exact ⟨(key,value),by simp,rfl⟩

theorem parse_isoformat (now : Reading) : parse (isoformat now.instant) = some now.instant := by
  have positive : 0 ≤ now.instant := le_trans (by unfold retention hourSpan; omega) now.late
  unfold parse
  rw [fromisoformat_isoformat positive now.early]
  simp

theorem repeats_true {state : DedupeState} {fingerprint : String} {ids : List String} {now : ℤ}
    (repeated : (repeats settings state fingerprint ids now).1 = true) : (∀ event ∈ ids, has state.events event = true) ∧
      ∃ last, lastAlert state fingerprint = some last ∧ now - last < settings.reminder := by
  unfold repeats at repeated
  split at repeated
  · cases repeated
  · rename_i known
    split at repeated
    · cases repeated
    · rename_i seen
      split at repeated
      · cases repeated
      · rename_i early
        refine ⟨?_,?_⟩
        · intro event member
          rw [not_not,newIds,List.filter_eq_nil_iff] at known
          simpa using known event member
        · obtain ⟨last,found⟩ := Option.ne_none_iff_exists'.mp seen
          refine ⟨last,found,?_⟩
          simpa [reminderDue,found] using early

theorem faithful_prune {state : DedupeState} (faithful : Faithful settings name log state) (now : ℤ) :
    Faithful settings name log (prune state now) :=
  ⟨fun entry member => faithful.events entry (List.mem_filter.mp member).1,faithful.issues⟩

theorem issue_extended {entry : String × String} {state : DedupeState} {record : Record}
    (faithful : Faithful settings name log state) (member : entry ∈ state.issues) (faulty : ¬record.healthy) :
    ∃ before old after, log ++ [record] = before ++ old :: after ∧ old.alerted ∧
      old.fingerprint settings name = entry.1 ∧ entry.2 = isoformat old.run.now.instant ∧
      ∀ later ∈ after, ¬later.healthy := by
  obtain ⟨before,old,after,rfl,alerted,same,stamped,since⟩ := faithful.issues entry member
  refine ⟨before,old,after ++ [record],by simp,alerted,same,stamped,?_⟩
  intro later present
  rcases List.mem_append.mp present with between | last
  · exact since later between
  · rw [List.mem_singleton.mp last]; exact faulty

theorem faithful_healthy {state : DedupeState} (faithful : Faithful settings name log state) (record : Record) (now : ℤ) :
    Faithful settings name (log ++ [record]) { prune state now with issues := [] } where
  events entry member := eventAlerted_snoc record ((faithful_prune faithful now).events entry member)
  issues _ member := by cases member

-- A repeated alert writes nothing but what was there.
theorem faithful_repeated {state : DedupeState} {fingerprint : String} {ids : List String} {now : ℤ} {record : Record}
    (faithful : Faithful settings name log state) (faulty : ¬record.healthy)
    (known : ∀ event ∈ ids, has state.events event = true) :
    Faithful settings name (log ++ [record]) (recorded state fingerprint ids now true) where
  events entry member := by
    change entry ∈ ids.foldl (setDefault (isoformat now)) state.events at member
    rw [setDefaults_known known] at member
    exact eventAlerted_snoc record (faithful.events entry member)
  issues _ member := issue_extended faithful member faulty

theorem faithful_alerted {state : DedupeState} {record : Record} (faithful : Faithful settings name log state)
    (faulty : ¬record.healthy) (alerted : record.alerted) :
    Faithful settings name (log ++ [record]) (recorded state (record.fingerprint settings name)
      (eventIds record.run.events) record.run.now.instant false) where
  events entry member := by
    rcases mem_setDefaults member with old | new
    · exact eventAlerted_snoc record (faithful.events entry old)
    · exact ⟨record,by simp,alerted,new⟩
  issues entry member := by
    rcases mem_assign member with rfl | old
    · exact ⟨log,record,[],rfl,alerted,rfl,rfl,by simp⟩
    · exact issue_extended faithful old faulty

theorem known_alerted {state : DedupeState} {event : String} (faithful : Faithful settings name log state)
    (known : has state.events event = true) : EventAlerted event log := by
  obtain ⟨entry,member,rfl⟩ := mem_of_has known
  exact faithful.events entry member

theorem lastAlert_alerted {state : DedupeState} {fingerprint : String} {last now : ℤ}
    (faithful : Faithful settings name log state) (found : lastAlert state fingerprint = some last)
    (recent : now - last < settings.reminder) (past : ∀ record ∈ log, record.run.now.instant ≤ now) :
    AlertedWithin settings name fingerprint now log := by
  unfold lastAlert at found
  cases entry : state.issues.lookup fingerprint with
  | none =>
    rw [entry] at found
    have nothing : parse ((none : Option String).getD "None") = none := by decide +kernel
    rw [nothing] at found
    cases found
  | some text =>
    obtain ⟨front,back,split,_⟩ := List.lookup_eq_some_iff.mp entry
    obtain ⟨before,record,after,rfl,alerted,same,stamped,since⟩ := faithful.issues (fingerprint,text) (by rw [split]; simp)
    dsimp only at same stamped
    rw [entry,Option.getD_some,stamped,parse_isoformat] at found
    cases found
    exact ⟨before,record,after,rfl,alerted,same,past record (by simp),recent,since⟩

theorem main_run (file : Option DedupeState) (run : Run) : (main settings name file run).1.run = run := by
  unfold main
  split
  · rfl
  · dsimp only
    split <;> rfl

-- A run with issues: what the decision says, and what it leaves behind.
theorem main_faulty {run : Run} (on : resolveMode settings.mode = .on) (faulty : run.issues ≠ [])
    (file : Option DedupeState) {repeated : Bool}
    (found : (repeats settings (prune (load file) run.now.instant) (issueFingerprint settings name run.issues)
      (eventIds run.events) run.now.instant).1 = repeated) :
    ((main settings name file run).1.suppressed ↔ repeated = true) ∧
      ((main settings name file run).1.sent ↔ repeated = false) ∧
      load (main settings name file run).2 = recorded (prune (load file) run.now.instant)
        (issueFingerprint settings name run.issues) (eventIds run.events) run.now.instant repeated := by
  unfold main decide
  simp only [if_neg faulty,found,on]
  cases repeated
  · simp [Record.suppressed,Record.sent,load]
  · simp [Record.suppressed,Record.sent,load]

theorem ran_truthful (on : resolveMode settings.mode = .on) (ran : Ran settings name log file) (ordered : Ordered log)
    (delivering : Delivering log) : Truthful settings name log ∧ Faithful settings name log (load file) := by
  induction ran with
  | start =>
    refine ⟨?_,?_,?_⟩
    · intro before record after split
      cases before <;> cases split
    · intro entry member; cases member
    · intro entry member; cases member
  | @next log file run ran ih =>
    obtain ⟨sorted,_,latest⟩ := List.pairwise_append.mp ordered
    obtain ⟨truthful,faithful⟩ := ih sorted fun record member => delivering record (List.mem_append_left _ member)
    have pruned := faithful_prune faithful run.now.instant
    by_cases healthy : run.issues = []
    · have quiet : main settings name file run = (⟨run,none,false⟩,some { prune (load file) run.now.instant with issues := [] }) := by
        unfold main clearIssues
        rw [if_pos healthy,if_neg (by rw [on]; simp)]
      rw [quiet]
      refine ⟨truthful_snoc truthful ?_,faithful_healthy faithful _ _⟩
      intro suppressed
      obtain ⟨_,none,_⟩ := suppressed
      cases none
    · have same := @main_run settings name file run
      have past : ∀ record ∈ log, record.run.now.instant ≤ run.now.instant := by
        intro record member
        have before := latest record member _ (List.mem_singleton.mpr rfl)
        rwa [same] at before
      have faulty : ¬(main settings name file run).1.healthy := by
        unfold Record.healthy
        rw [same]; exact healthy
      have named : (main settings name file run).1.fingerprint settings name = issueFingerprint settings name run.issues := by
        unfold Record.fingerprint
        rw [same]
      cases repeated : (repeats settings (prune (load file) run.now.instant) (issueFingerprint settings name run.issues)
        (eventIds run.events) run.now.instant).1 with
      | true =>
        obtain ⟨_,_,left⟩ := main_faulty on healthy file repeated
        obtain ⟨known,last,found,recent⟩ := repeats_true repeated
        rw [left]
        refine ⟨truthful_snoc truthful fun _ => ⟨?_,?_⟩,faithful_repeated pruned faulty known⟩
        · rw [same,named]; exact lastAlert_alerted pruned found recent past
        · intro event member
          rw [same] at member
          exact known_alerted pruned (known event member)
      | false =>
        obtain ⟨suppressed,sent,left⟩ := main_faulty on healthy file repeated
        have alerted : (main settings name file run).1.alerted :=
          ⟨sent.mpr rfl,delivering _ (by simp) (sent.mpr rfl)⟩
        rw [left]
        refine ⟨truthful_snoc truthful ?_,?_⟩
        · intro quiet
          cases suppressed.mp quiet
        · have kept := faithful_alerted pruned faulty alerted
          rwa [same,named] at kept

-- While every alert that is sent is delivered, no suppressed one was worth sending.
theorem suppressions_repeat_delivered_alerts (on : resolveMode settings.mode = .on) (ran : Ran settings name log file)
    (ordered : Ordered log) (delivering : Delivering log) : Truthful settings name log :=
  (ran_truthful on ran ordered delivering).1

def reminded : Settings where
  mode := some "on"
  reminder := 6 * hourSpan
  digest name issues := String.intercalate "|" (name :: issues)

def morning : Reading where
  instant := 63927302400000000
  late := by decide
  early := by decide

-- Half an hour later.
def nextRun : Reading where
  instant := 63927304200000000
  late := by decide
  early := by decide

def failing (now : Reading) (answer : Bool) : Run := ⟨now,["Cloud Run failure logs: 2"],["a","b"],[answer]⟩

def firstRun (answer : Bool) : Record × Option DedupeState := main reminded "Guard" none (failing morning answer)

def secondRun (answer : Bool) : Record × Option DedupeState :=
  main reminded "Guard" (firstRun answer).2 (failing nextRun true)

theorem failingTwice_ran (answer : Bool) :
    Ran reminded "Guard" ([] ++ [(firstRun answer).1] ++ [(secondRun answer).1]) (secondRun answer).2 := by
  unfold secondRun firstRun
  exact .next _ (.next _ .start)

theorem secondRun_suppressed (answer : Bool) : (secondRun answer).1.suppressed := by
  have quiet : (secondRun answer).1.decision.map DedupeDecision.send = some false := by
    cases answer <;> decide +kernel
  exact Option.map_eq_some_iff.mp quiet

theorem repeated_failure_is_justified : Truthful reminded "Guard" ([] ++ [(firstRun true).1] ++ [(secondRun true).1]) := by
  refine suppressions_repeat_delivered_alerts (by decide +kernel) (failingTwice_ran true) ?_ ?_
  · exact List.pairwise_pair.mpr (by decide +kernel)
  · intro record member sent
    rcases List.mem_cons.mp member with rfl | later
    · decide +kernel
    · rw [List.mem_singleton.mp later] at sent
      obtain ⟨decision,made,send⟩ := sent
      obtain ⟨_,made',quiet⟩ := secondRun_suppressed true
      rw [made] at made'
      cases made'
      rw [send] at quiet
      cases quiet

theorem undelivered_alert_suppresses : ∃ log file, resolveMode reminded.mode = .on ∧ Ran reminded "Guard" log file ∧
    Ordered log ∧ ¬Truthful reminded "Guard" log := by
  refine ⟨_,_,by decide +kernel,failingTwice_ran false,List.pairwise_pair.mpr (by decide +kernel),?_⟩
  intro truthful
  obtain ⟨⟨before,record,after,split,alerted,_⟩,_⟩ := truthful [(firstRun false).1] _ [] rfl (secondRun_suppressed false)
  have only : record = (firstRun false).1 := by
    cases before with
    | nil => exact (List.cons.inj split).1.symm
    | cons head rest => simp at split
  rw [only] at alerted
  exact absurd alerted.2 (by decide +kernel)

end LongBridge.Guard
