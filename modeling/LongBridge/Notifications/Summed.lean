import Mathlib.Data.List.Induction
import LongBridge.Notifications.InTurn

namespace LongBridge.Notifications
open Effects

section reported

def countFields : List String := ["order_count","fill_count","preview_count"]

-- The count a call reports in a field
def reported (field : String) (request : PersistRequest) : Option ℤ :=
  if field = "order_count" then request.event.orderCount else if field = "fill_count" then request.event.fillCount else request.previewCount

-- The observation counts a call gives, or that its report gives for it
def givenCounts (request : PersistRequest) : PyVal :=
  match request.observationCounts with
  | .none => request.reportCounts
  | value => value

def callCounts (request : PersistRequest) : Except PyExc (Option Counts) :=
  match givenCounts request with
  | .none => .ok none
  | value => (readCounts value).map some

-- Counts that are given must be what the run has already.
def agreedCounts (held : Option Counts) : Option Counts → Except PyExc (Option Counts)
  | none => .ok held
  | some told => match held with
    | some known => if known ≠ told then .error (valueError "candidate_plugin_observations_conflict") else .ok (some told)
    | none => .ok (some told)

def givenAgreed (old : Option SourceRun) : PyVal → Except PyExc (Option Counts)
  | .none => .ok (countsOf old)
  | value => (readCounts value).bind fun counts => agreedCounts (countsOf old) (some counts)

theorem mergedCounts_given (request : PersistRequest) (old : Option SourceRun) :
    mergedCounts request old = givenAgreed old (givenCounts request) := by
  obtain ⟨binding,slot,event,ran,preview,idle,reason,observed,told⟩ := request
  cases observed with
  | none => cases told <;> rfl
  | _ => rfl

theorem mergedCounts_eq (request : PersistRequest) (old : Option SourceRun) :
    mergedCounts request old = (callCounts request).bind (agreedCounts (countsOf old)) := by
  have stated : ∀ value : PyVal, ((readCounts value).bind fun counts => agreedCounts (countsOf old) (some counts)) =
      ((readCounts value).map some).bind (agreedCounts (countsOf old)) := by
    intro value
    cases readCounts value <;> rfl
  rw [mergedCounts_given,callCounts]
  cases givenCounts request with
  | none => rfl
  | bool value => exact stated (.bool value)
  | int value => exact stated (.int value)
  | float value text => exact stated (.float value text)
  | str value => exact stated (.str value)
  | list items => exact stated (.list items)
  | tuple items => exact stated (.tuple items)
  | dict entries => exact stated (.dict entries)
  | object truthy text items => exact stated (.object truthy text items)

theorem mergedCounts_ok {request : PersistRequest} {old : Option SourceRun} {counts : Option Counts} :
    mergedCounts request old = .ok counts ↔ ∃ given, callCounts request = .ok given ∧
      (∀ told held, given = some told → countsOf old = some held → held = told) ∧ counts = given.or (countsOf old) := by
  rw [mergedCounts_eq]
  cases callCounts request with
  | error raised => simp [Except.bind]
  | ok given =>
    cases given with
    | none => simp [Except.bind,agreedCounts,eq_comm]
    | some told =>
      cases countsOf old with
      | none => simp [Except.bind,agreedCounts,eq_comm]
      | some held =>
        by_cases same : held = told
        · simp [Except.bind,agreedCounts,same,eq_comm]
        · simp [Except.bind,agreedCounts,same]

-- What a call that ran writes down for its run
def sourceOf (request : PersistRequest) (dryRun : Bool) (old : Option SourceRun) (counts : Option Counts) : SourceRun :=
  .ran (keptCount (countField "order_count" old) request.event.orderCount) (keptCount (countField "fill_count" old) request.event.fillCount)
    (keptCount (countField "preview_count" old) request.previewCount) dryRun request.event.occurredAt request.event.eventKind counts

def noted (request : PersistRequest) (old : Option SourceRun) (conflicts : List Conflict) : List Conflict :=
  let run := request.event.sourceRunId
  noteConflict run "preview_count" (countField "preview_count" old) request.previewCount
    (noteConflict run "fill_count" (countField "fill_count" old) request.event.fillCount
      (noteConflict run "order_count" (countField "order_count" old) request.event.orderCount conflicts))

theorem recordSource_ran {request : PersistRequest} (ran : request.actuallyRan = true) (idle : request.notRun = false) {dryRun : Bool}
    {sources after : List (String × SourceRun)} {conflicts known : List Conflict}
    (executed : ∀ source, sources.lookup request.event.sourceRunId = some source → source.actuallyRan = true) :
    recordSource request dryRun sources conflicts = .ok (after,known) ↔
      ∃ counts, mergedCounts request (sources.lookup request.event.sourceRunId) = .ok counts ∧
        after = setEntry request.event.sourceRunId (sourceOf request dryRun (sources.lookup request.event.sourceRunId) counts) sources ∧
        known = noted request (sources.lookup request.event.sourceRunId) conflicts := by
  unfold recordSource idleSources
  rw [idle,ran]
  show recordRun request dryRun sources conflicts = .ok (after,known) ↔ _
  unfold recordRun
  dsimp only
  cases merged : mergedCounts request (sources.lookup request.event.sourceRunId) with
  | error raised => simp [bind,Except.bind]
  | ok counts =>
    cases old : sources.lookup request.event.sourceRunId with
    | none => simp [bind,Except.bind,sourceOf,noted,eq_comm]
    | some source =>
      cases source with
      | notRun asOf reason => cases executed _ old
      | ran orders fills previews dry asOf kind given => simp [bind,Except.bind,sourceOf,noted,eq_comm]

end reported

section sources

def SourceRun.asOf : SourceRun → String
  | .notRun asOf _ => asOf
  | .ran _ _ _ _ asOf _ _ => asOf

-- What the calls of a run report in a field, in their order
def reportedCounts (field run : String) (calls : List PersistRequest) : List ℤ :=
  calls.filterMap fun call => if call.event.sourceRunId = run then reported field call else none

def observedCounts (call : PersistRequest) : Option Counts :=
  match callCounts call with
  | .ok given => given
  | .error _ => none

def runCounts (run : String) (calls : List PersistRequest) : List Counts :=
  calls.filterMap fun call => if call.event.sourceRunId = run then observedCounts call else none

variable {past : List PersistRequest} {call : PersistRequest} {run field : String} {sources after : List (String × SourceRun)}
  {conflicts known : List Conflict} {dryRun : Bool}

theorem filterMap_snoc {α β : Type} (f : α → Option β) (items : List α) (last : α) :
    (items ++ [last]).filterMap f = items.filterMap f ++ (f last).toList := by
  rw [List.filterMap_append]
  cases found : f last <;> simp [found]

theorem reportedCounts_own (field : String) (past : List PersistRequest) (call : PersistRequest) :
    reportedCounts field call.event.sourceRunId (past ++ [call]) =
      reportedCounts field call.event.sourceRunId past ++ (reported field call).toList := by
  rw [reportedCounts,filterMap_snoc,if_pos rfl]
  rfl

theorem reportedCounts_other (apart : call.event.sourceRunId ≠ run) : reportedCounts field run (past ++ [call]) = reportedCounts field run past := by
  rw [reportedCounts,filterMap_snoc,if_neg apart]
  exact List.append_nil _

theorem runCounts_own (past : List PersistRequest) (call : PersistRequest) :
    runCounts call.event.sourceRunId (past ++ [call]) = runCounts call.event.sourceRunId past ++ (observedCounts call).toList := by
  rw [runCounts,filterMap_snoc,if_pos rfl]
  rfl

theorem runCounts_other (apart : call.event.sourceRunId ≠ run) : runCounts run (past ++ [call]) = runCounts run past := by
  rw [runCounts,filterMap_snoc,if_neg apart]
  exact List.append_nil _

theorem head_snoc {α : Type} (items : List α) (last : Option α) : (items ++ last.toList).head? = items.head?.or last := by
  cases last <;> simp

-- Some value is not the first.
def Differ (values : List ℤ) : Prop := ∃ value ∈ values, some value ≠ values.head?

theorem differ_snoc (values : List ℤ) (last : Option ℤ) : Differ (values ++ last.toList) ↔
    Differ values ∨ ∃ first other, values.head? = some first ∧ last = some other ∧ first ≠ other := by
  cases values with
  | nil => cases last <;> simp [Differ]
  | cons first rest =>
    cases last with
    | none => simp [Differ]
    | some other => simp [Differ,or_and_right,exists_or,eq_comm]

theorem mem_noteConflict {conflict : Conflict} {old observed : Option ℤ} : conflict ∈ noteConflict run field old observed conflicts ↔
    conflict ∈ conflicts ∨ ∃ previous other, old = some previous ∧ observed = some other ∧ previous ≠ other ∧ conflict = ⟨run,field,previous,other⟩ := by
  cases old with
  | none => simp [noteConflict]
  | some previous =>
    cases observed with
    | none => simp [noteConflict]
    | some other =>
      unfold noteConflict
      dsimp only
      split
      · rename_i fresh
        simp [fresh.1]
      · rename_i kept
        constructor
        · exact Or.inl
        · rintro (held | ⟨one,two,same,alike,apart,rfl⟩)
          · exact held
          · cases same
            cases alike
            exact not_not.mp fun missing => kept ⟨apart,missing⟩

-- A conflict of a run over a field
def Noted (conflicts : List Conflict) (run field : String) : Prop :=
  ∃ conflict ∈ conflicts, conflict.sourceRunId = run ∧ conflict.field = field

theorem noted_noteConflict {own name : String} {old observed : Option ℤ} : Noted (noteConflict own name old observed conflicts) run field ↔
    Noted conflicts run field ∨ (run = own ∧ field = name ∧ ∃ previous other, old = some previous ∧ observed = some other ∧ previous ≠ other) := by
  constructor
  · rintro ⟨conflict,member,rfl,rfl⟩
    rcases mem_noteConflict.mp member with held | ⟨previous,other,first,second,apart,rfl⟩
    · exact Or.inl ⟨conflict,held,rfl,rfl⟩
    · exact Or.inr ⟨rfl,rfl,previous,other,first,second,apart⟩
  · rintro (⟨conflict,held,same⟩ | ⟨rfl,rfl,previous,other,first,second,apart⟩)
    · exact ⟨conflict,mem_noteConflict.mpr (Or.inl held),same⟩
    · exact ⟨_,mem_noteConflict.mpr (Or.inr ⟨previous,other,first,second,apart,rfl⟩),rfl,rfl⟩

theorem reported_fields : reported "order_count" call = call.event.orderCount ∧ reported "fill_count" call = call.event.fillCount ∧
    reported "preview_count" call = call.previewCount :=
  ⟨if_pos rfl,(if_neg (by decide)).trans (if_pos rfl),(if_neg (by decide)).trans (if_neg (by decide))⟩

theorem noted_call {old : Option SourceRun} : Noted (noted call old conflicts) run field ↔ Noted conflicts run field ∨
    (run = call.event.sourceRunId ∧ field ∈ countFields ∧
      ∃ previous other, countField field old = some previous ∧ reported field call = some other ∧ previous ≠ other) := by
  obtain ⟨orders,fills,previews⟩ := @reported_fields call
  unfold noted countFields
  dsimp only
  rw [noted_noteConflict,noted_noteConflict,noted_noteConflict,List.mem_cons,List.mem_cons,List.mem_singleton,← orders,← fills,← previews]
  constructor
  · rintro (((held | ⟨rfl,rfl,differ⟩) | ⟨rfl,rfl,differ⟩) | ⟨rfl,rfl,differ⟩)
    · exact Or.inl held
    · exact Or.inr ⟨rfl,Or.inl rfl,differ⟩
    · exact Or.inr ⟨rfl,Or.inr (Or.inl rfl),differ⟩
    · exact Or.inr ⟨rfl,Or.inr (Or.inr rfl),differ⟩
  · rintro (held | ⟨rfl,rfl | rfl | rfl,differ⟩)
    · exact Or.inl (Or.inl (Or.inl held))
    · exact Or.inl (Or.inl (Or.inr ⟨rfl,rfl,differ⟩))
    · exact Or.inl (Or.inr ⟨rfl,rfl,differ⟩)
    · exact Or.inr ⟨rfl,rfl,differ⟩

-- The sources and the conflicts say what the calls so far have reported.
structure SumsSources (past : List PersistRequest) (sources : List (String × SourceRun)) (conflicts : List Conflict) : Prop where
  keys : (sources.map Prod.fst).Nodup
  listed : ∀ run, (sources.lookup run).isSome = true ↔ ∃ call ∈ past, call.event.sourceRunId = run
  ran : ∀ run source, sources.lookup run = some source → source.actuallyRan = true
  stamped : ∀ run source, sources.lookup run = some source →
    ∃ call ∈ past, call.event.sourceRunId = run ∧ source.asOf = call.event.occurredAt
  counts : ∀ run, ∀ field ∈ countFields, countField field (sources.lookup run) = (reportedCounts field run past).head?
  observed : ∀ run, countsOf (sources.lookup run) = (runCounts run past).head?
  conflicts : ∀ run field, Noted conflicts run field ↔ field ∈ countFields ∧ Differ (reportedCounts field run past)

theorem sumsSources_nil : SumsSources [] [] [] := by
  refine ⟨List.nodup_nil,fun run => ?_,(fun run source found => nomatch found),(fun run source found => nomatch found),fun run field member => ?_,
    fun run => rfl,fun run field => ?_⟩
  · simp
  · rfl
  · simp [Noted,Differ,reportedCounts]

theorem countField_sourceOf {old : Option SourceRun} {counts : Option Counts} (member : field ∈ countFields) :
    countField field (some (sourceOf call dryRun old counts)) = (countField field old).or (reported field call) := by
  rcases List.mem_cons.mp member with rfl | member
  · rfl
  rcases List.mem_cons.mp member with rfl | member
  · rfl
  rcases List.mem_singleton.mp member with rfl
  rfl

theorem observedCounts_or {old : Option SourceRun} {counts : Option Counts} (merged : mergedCounts call old = .ok counts) :
    counts = (countsOf old).or (observedCounts call) := by
  obtain ⟨given,read,agree,rfl⟩ := mergedCounts_ok.mp merged
  have own : observedCounts call = given := by rw [observedCounts,read]
  rw [own]
  cases given with
  | none => cases countsOf old <;> rfl
  | some told =>
    cases held : countsOf old with
    | none => rfl
    | some before => rw [agree told before rfl held,Option.some_or]

theorem sumsSources_record (sums : SumsSources past sources conflicts) (ran : call.actuallyRan = true) (idle : call.notRun = false)
    (recorded : recordSource call dryRun sources conflicts = .ok (after,known)) : SumsSources (past ++ [call]) after known := by
  obtain ⟨counts,merged,rfl,rfl⟩ := (recordSource_ran ran idle (sums.ran call.event.sourceRunId)).mp recorded
  refine ⟨nodup_setEntry sums.keys ..,fun run => ?_,fun run source found => ?_,fun run source found => ?_,fun run field member => ?_,fun run => ?_,
    fun run field => ?_⟩
  · rw [lookup_setEntry]
    by_cases own : run = call.event.sourceRunId
    · rw [if_pos own]
      exact iff_of_true rfl ⟨call,List.mem_append_right _ List.mem_cons_self,own.symm⟩
    · rw [if_neg own,sums.listed run]
      constructor
      · rintro ⟨other,member,same⟩
        exact ⟨other,List.mem_append_left _ member,same⟩
      · rintro ⟨other,member,same⟩
        rcases List.mem_append.mp member with earlier | last
        · exact ⟨other,earlier,same⟩
        · rw [List.mem_singleton.mp last] at same
          exact absurd same.symm own
  · rw [lookup_setEntry] at found
    split at found
    · cases found
      rfl
    · exact sums.ran run source found
  · rw [lookup_setEntry] at found
    split at found
    · rename_i own
      cases found
      exact ⟨call,List.mem_append_right _ List.mem_cons_self,own.symm,rfl⟩
    · obtain ⟨other,member,same⟩ := sums.stamped run source found
      exact ⟨other,List.mem_append_left _ member,same⟩
  · rw [lookup_setEntry]
    by_cases own : run = call.event.sourceRunId
    · subst own
      rw [if_pos rfl,countField_sourceOf member,reportedCounts_own,head_snoc,sums.counts _ field member]
    · rw [if_neg own,reportedCounts_other (Ne.symm own),sums.counts run field member]
  · rw [lookup_setEntry]
    by_cases own : run = call.event.sourceRunId
    · subst own
      rw [if_pos rfl,runCounts_own,head_snoc,← sums.observed]
      exact observedCounts_or merged
    · rw [if_neg own,runCounts_other (Ne.symm own),sums.observed run]
  · rw [noted_call,sums.conflicts run field]
    by_cases own : run = call.event.sourceRunId
    · subst own
      rw [reportedCounts_own,differ_snoc,and_or_left]
      refine or_congr Iff.rfl ⟨?_,?_⟩
      · rintro ⟨-,member,previous,other,before,now,apart⟩
        exact ⟨member,previous,other,(sums.counts _ field member).symm.trans before,now,apart⟩
      · rintro ⟨member,previous,other,before,now,apart⟩
        exact ⟨rfl,member,previous,other,(sums.counts _ field member).trans before,now,apart⟩
    · rw [reportedCounts_other (Ne.symm own)]
      exact or_iff_left fun ⟨same,_⟩ => own same

theorem sumsSources_stored (sums : SumsSources past sources conflicts) : SumsSources past (byKey sources) conflicts := by
  have same : ∀ run, (byKey sources).lookup run = sources.lookup run := lookup_perm sums.keys (List.perm_insertionSort ..)
  refine ⟨nodup_byKey sums.keys,fun run => ?_,fun run source found => ?_,fun run source found => ?_,fun run field member => ?_,fun run => ?_,sums.conflicts⟩
  · rw [same]
    exact sums.listed run
  · rw [same] at found
    exact sums.ran run source found
  · rw [same] at found
    exact sums.stamped run source found
  · rw [same]
    exact sums.counts run field member
  · rw [same]
    exact sums.observed run

end sources

end LongBridge.Notifications
