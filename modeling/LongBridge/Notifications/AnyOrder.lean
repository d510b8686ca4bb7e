import Mathlib.Data.String.Basic
import LongBridge.Notifications.Absorbed
import LongBridge.Python.Sorting

namespace LongBridge.Notifications
open Effects

-- The count all calls report, none when two of them differ
def commonCount : List ℤ → Option ℤ
  | [] => none
  | first :: rest => if ∀ other ∈ rest, other = first then some first else none

section counts
variable {values others : List ℤ}

theorem differ_iff : Differ values ↔ ∃ one ∈ values, ∃ two ∈ values, one ≠ two := by
  cases values with
  | nil => simp [Differ]
  | cons first rest =>
    constructor
    · rintro ⟨value,member,apart⟩
      exact ⟨value,member,first,List.mem_cons_self,fun same => apart (congrArg some same)⟩
    · rintro ⟨one,member,two,also,apart⟩
      by_cases same : one = first
      · exact ⟨two,also,fun again => apart (same.trans (Option.some.inj again).symm)⟩
      · exact ⟨one,member,fun again => same (Option.some.inj again)⟩

theorem commonCount_eq [Decidable (Differ values)] : commonCount values = if Differ values then none else values.head? := by
  cases values with
  | nil => simp [commonCount]
  | cons first rest =>
    rw [commonCount]
    by_cases same : ∀ other ∈ rest, other = first
    · rw [if_pos same,if_neg]
      · rfl
      · rintro ⟨value,member,apart⟩
        rcases List.mem_cons.mp member with rfl | later
        · exact apart rfl
        · exact apart (congrArg some (same value later))
    · rw [if_neg same,if_pos]
      push Not at same
      obtain ⟨other,member,apart⟩ := same
      exact ⟨other,List.mem_cons_of_mem _ member,fun again => apart (Option.some.inj again)⟩

-- Neither depends on the order of the calls.
theorem differ_members (same : ∀ value, value ∈ values ↔ value ∈ others) : Differ values ↔ Differ others := by
  simp only [differ_iff,same]

theorem commonCount_members (same : ∀ value, value ∈ values ↔ value ∈ others) : commonCount values = commonCount others := by
  classical
  rw [commonCount_eq,commonCount_eq]
  by_cases differ : Differ values
  · rw [if_pos differ,if_pos ((differ_members same).mp differ)]
  · have agree : ¬Differ others := fun other => differ ((differ_members same).mpr other)
    rw [if_neg differ,if_neg agree]
    cases first : values.head? with
    | some value =>
      cases second : others.head? with
      | some other =>
        have member := (same value).mp (List.mem_of_head? first)
        by_contra apart
        exact agree ⟨value,member,fun again => apart (again.trans second)⟩
      | none =>
        have member := (same value).mp (List.mem_of_head? first)
        rw [List.head?_eq_none_iff.mp second] at member
        cases member
    | none =>
      rw [List.head?_eq_none_iff] at first
      cases others with
      | nil => rfl
      | cons other rest =>
        have member := (same other).mpr List.mem_cons_self
        rw [first] at member
        cases member

end counts

def SameMembers (one two : List PersistRequest) : Prop := ∀ call, call ∈ one ↔ call ∈ two

-- Some count of the run is reported in two ways, or an event of it is out of the routine.
def Urgent (calls : List PersistRequest) (run : String) : Prop :=
  (∃ field ∈ countFields, Differ (reportedCounts field run calls)) ∨
    ∃ call ∈ calls, call.event.sourceRunId = run ∧ quietKinds.contains call.event.eventKind = false

-- What a row says of the calls
structure Tells (calls : List PersistRequest) (row : Row) : Prop where
  reported : ∃ call ∈ calls, call.event.sourceRunId = row.sourceRunId
  orders : row.orderCount = commonCount (reportedCounts "order_count" row.sourceRunId calls)
  fills : row.fillCount = commonCount (reportedCounts "fill_count" row.sourceRunId calls)
  previews : row.previewCount = commonCount (reportedCounts "preview_count" row.sourceRunId calls)
  alert : row.status = "alert" ↔ Urgent calls row.sourceRunId

-- Two rows that differ in the order of their events at most
structure AlikeRow (one two : ExportRow) : Prop where
  facts : { one with notificationEvents := [] } = { two with notificationEvents := [] }
  events : one.notificationEvents.Perm two.notificationEvents

section members
variable {one two : List PersistRequest} {run field : String}

theorem reportedCounts_members (same : SameMembers one two) (value : ℤ) : value ∈ reportedCounts field run one ↔ value ∈ reportedCounts field run two := by
  unfold reportedCounts
  simp only [List.mem_filterMap,same _]

theorem urgent_members (same : SameMembers one two) : Urgent one run ↔ Urgent two run := by
  refine or_congr (exists_congr fun field => and_congr_right fun _ => differ_members (reportedCounts_members same)) (exists_congr fun call => ?_)
  rw [same call]

theorem tells_members (same : SameMembers one two) {row : Row} (tells : Tells one row) : Tells two row := by
  obtain ⟨⟨call,member,own⟩,orders,fills,previews,alert⟩ := tells
  exact ⟨⟨call,(same call).mp member,own⟩,orders.trans (commonCount_members (reportedCounts_members same)),
    fills.trans (commonCount_members (reportedCounts_members same)),previews.trans (commonCount_members (reportedCounts_members same)),
    alert.trans (urgent_members same)⟩

end members

-- A count of a row, and whether the row is urgent
def agreedCount (conflicts : List Conflict) (run field : String) (count : Option ℤ) : Option ℤ :=
  if (conflicts.filter fun conflict => conflict.sourceRunId = run).any fun conflict => conflict.field == field then none else count

def urgentRow (conflicts : List Conflict) (run : String) (events : List CandidateEvent) : Bool :=
  !(conflicts.filter fun conflict => conflict.sourceRunId = run).isEmpty || events.any fun event => !quietKinds.contains event.eventKind

section rows
variable {hashes : CandidateHashes} {past : List PersistRequest} {state : CandidateState} {run field : String}

theorem noted_any {conflicts : List Conflict} :
    ((conflicts.filter fun conflict => conflict.sourceRunId = run).any fun conflict => conflict.field == field) = true ↔ Noted conflicts run field := by
  simp only [List.any_eq_true,List.mem_filter,decide_eq_true_eq,beq_iff_eq,Noted,and_assoc]

theorem agreedCount_common (summed : Summed hashes past state) (member : field ∈ countFields) :
    agreedCount state.conflicts run field (reportedCounts field run past).head? = commonCount (reportedCounts field run past) := by
  classical
  rw [agreedCount,commonCount_eq]
  refine if_congr ?_ rfl rfl
  rw [noted_any,summed.sources.conflicts run field]
  exact and_iff_right member

theorem urgentRow_iff (summed : Summed hashes past state) :
    urgentRow state.conflicts run (eventsOf state.events run) = true ↔ Urgent past run := by
  unfold urgentRow
  rw [Bool.or_eq_true]
  refine or_congr ?_ ?_
  · rw [Bool.not_eq_true',List.isEmpty_eq_false_iff_exists_mem]
    constructor
    · rintro ⟨conflict,member⟩
      obtain ⟨held,own⟩ := List.mem_filter.mp member
      exact ⟨conflict.field,(summed.sources.conflicts run _).mp ⟨conflict,held,of_decide_eq_true own,rfl⟩⟩
    · rintro ⟨field,differ⟩
      obtain ⟨conflict,held,own,-⟩ := (summed.sources.conflicts run field).mpr differ
      exact ⟨conflict,List.mem_filter.mpr ⟨held,decide_eq_true own⟩⟩
  · simp only [List.any_eq_true,Bool.not_eq_true']
    constructor
    · rintro ⟨event,member,loud⟩
      obtain ⟨⟨key,there⟩,own⟩ := mem_eventsOf.mp member
      obtain ⟨call,before,rfl⟩ := (summed.events.held event).mp (List.mem_map_of_mem (f := Prod.snd) there)
      exact ⟨call,before,own,loud⟩
    · rintro ⟨call,before,own,loud⟩
      obtain ⟨⟨key,event⟩,there,rfl⟩ := List.mem_map.mp ((summed.events.held _).mpr ⟨call,before,rfl⟩)
      exact ⟨_,mem_eventsOf.mpr ⟨⟨key,there⟩,own⟩,loud⟩

theorem mem_runs (summed : Summed hashes past state) : run ∈ (byKey state.sources).map Prod.fst ↔ ∃ call ∈ past, call.event.sourceRunId = run := by
  rw [← summed.sources.listed run]
  constructor
  · intro member
    obtain ⟨⟨_,source⟩,listed,rfl⟩ := List.mem_map.mp member
    exact Option.isSome_iff_exists.mpr ⟨source,lookup_of_mem summed.sources.keys (mem_byKey.mp listed)⟩
  · intro found
    obtain ⟨source,held⟩ := Option.isSome_iff_exists.mp found
    exact List.mem_map_of_mem (f := Prod.fst) (mem_byKey.mpr (mem_of_lookup held))

theorem byKey_ascending {α : Type} {entries : List (String × α)} (nodup : (entries.map Prod.fst).Nodup) :
    ((byKey entries).map Prod.fst).Pairwise (· < ·) := by
  have sorted : (byKey entries).Pairwise fun one two => one.1 ≤ two.1 := List.pairwise_insertionSort ..
  have ordered : ((byKey entries).map Prod.fst).Pairwise (· ≤ ·) := List.pairwise_map.mpr sorted
  exact (ordered.and (nodup_byKey nodup)).imp fun ⟨below,apart⟩ => lt_of_le_of_ne below apart

theorem forall₂_byKey {α β γ : Type} {r : β → γ → Prop} {xs ys : List (String × α)} {f : String × α → β} {g : String × α → γ}
    (keys : xs.map Prod.fst = ys.map Prod.fst) (each : ∀ key one two, (key,one) ∈ xs → (key,two) ∈ ys → r (f (key,one)) (g (key,two))) :
    List.Forall₂ r (xs.map f) (ys.map g) := by
  induction xs generalizing ys with
  | nil =>
    rw [List.map_eq_nil_iff.mp keys.symm]
    exact List.Forall₂.nil
  | cons head rest ih =>
    cases ys with
    | nil => cases keys
    | cons other more =>
      obtain ⟨key,one⟩ := head
      obtain ⟨name,two⟩ := other
      obtain ⟨rfl,later⟩ := List.cons.inj keys
      refine List.Forall₂.cons (each key one two List.mem_cons_self List.mem_cons_self) (ih later fun name one two first second => ?_)
      exact each name one two (List.mem_cons_of_mem _ first) (List.mem_cons_of_mem _ second)

-- The row of a run that the state lists
theorem sourceRow_ran (summed : Summed hashes past state) {source : SourceRun} (listed : (run,source) ∈ state.sources)
    (identity : Identity) (day : String) (dryRun : Bool) : ∃ call ∈ past, call.event.sourceRunId = run ∧
      sourceRow identity day dryRun state.events state.conflicts (run,source) =
        ranRow identity day run call.event.occurredAt dryRun state.conflicts (eventsOf state.events run) (reportedCounts "order_count" run past).head?
          (reportedCounts "fill_count" run past).head? (reportedCounts "preview_count" run past).head? (runCounts run past).head? := by
  have found := lookup_of_mem summed.sources.keys listed
  obtain ⟨call,member,own,stamped⟩ := summed.sources.stamped run source found
  refine ⟨call,member,own,?_⟩
  have ran := summed.sources.ran run source found
  have orders := summed.sources.counts run "order_count" (by decide)
  have fills := summed.sources.counts run "fill_count" (by decide)
  have previews := summed.sources.counts run "preview_count" (by decide)
  have observed := summed.sources.observed run
  rw [found] at orders fills previews observed
  rw [← orders,← fills,← previews,← observed,← stamped]
  cases source with
  | notRun asOf reason => cases ran
  | ran orders fills previews dry asOf kind counts => rfl

theorem tells_row (summed : Summed hashes past state) {source : SourceRun} (listed : (run,source) ∈ state.sources)
    (identity : Identity) (day : String) (dryRun : Bool) : Tells past (sourceRow identity day dryRun state.events state.conflicts (run,source)) := by
  obtain ⟨call,member,own,same⟩ := sourceRow_ran summed listed identity day dryRun
  rw [same]
  refine ⟨⟨call,member,own⟩,agreedCount_common summed (by decide),agreedCount_common summed (by decide),agreedCount_common summed (by decide),Iff.trans ?_ (urgentRow_iff summed)⟩
  show (if urgentRow state.conflicts run (eventsOf state.events run) = true then "alert" else "ok") = "alert" ↔
    urgentRow state.conflicts run (eventsOf state.events run) = true
  cases urgentRow state.conflicts run (eventsOf state.events run) <;> simp

end rows

section alike
variable {hashes : CandidateHashes} {past others : List PersistRequest} {one two : CandidateState} {run : String}

theorem agreedCount_alike (same : SameMembers past others) (first : Summed hashes past one) (second : Summed hashes others two) {field : String}
    (member : field ∈ countFields) : agreedCount one.conflicts run field (reportedCounts field run past).head? =
      agreedCount two.conflicts run field (reportedCounts field run others).head? := by
  rw [agreedCount_common first member,agreedCount_common second member]
  exact commonCount_members (reportedCounts_members same)

theorem urgentRow_alike (same : SameMembers past others) (first : Summed hashes past one) (second : Summed hashes others two) :
    urgentRow one.conflicts run (eventsOf one.events run) = urgentRow two.conflicts run (eventsOf two.events run) := by
  rw [Bool.eq_iff_iff,urgentRow_iff first,urgentRow_iff second]
  exact urgent_members same

theorem runCounts_alike (same : SameMembers past others) (sound : SoundCalls past) (also : SoundCalls others) :
    (runCounts run past).head? = (runCounts run others).head? := by
  refine Option.ext fun counts => ?_
  rw [runCounts_agree sound,runCounts_agree also,mem_runCounts,mem_runCounts]
  exact exists_congr fun call => and_congr_left' (same call)

theorem eventsOf_alike (same : SameMembers past others) (first : Summed hashes past one) (second : Summed hashes others two) :
    (eventsOf one.events run).Perm (eventsOf two.events run) := by
  refine List.Perm.filter _ ((List.perm_ext_iff_of_nodup first.events.once second.events.once).mpr fun event => ?_)
  rw [first.events.held,second.events.held]
  exact exists_congr fun call => and_congr_left' (same call)

-- The row of a run in two orders of the calls
theorem sourceRow_alike (same : SameMembers past others) (sound : SoundCalls past) (first : Summed hashes past one) (second : Summed hashes others two)
    (times : ∀ a ∈ past, ∀ b ∈ past, a.event.sourceRunId = b.event.sourceRunId → a.event.occurredAt = b.event.occurredAt)
    {source other : SourceRun} (listed : (run,source) ∈ one.sources) (also : (run,other) ∈ two.sources) (identity : Identity) (day : String)
    (dryRun : Bool) : AlikeRow (exportRow (sourceRow identity day dryRun one.events one.conflicts (run,source)))
      (exportRow (sourceRow identity day dryRun two.events two.conflicts (run,other))) := by
  obtain ⟨call,member,own,left⟩ := sourceRow_ran first listed identity day dryRun
  obtain ⟨later,there,its,right⟩ := sourceRow_ran second also identity day dryRun
  have orders := @agreedCount_alike hashes past others one two run same first second "order_count" (by decide)
  have fills := @agreedCount_alike hashes past others one two run same first second "fill_count" (by decide)
  have urgent := @urgentRow_alike hashes past others one two run same first second
  rw [left,right,times call member later ((same later).mpr there) (own.trans its.symm),
    runCounts_alike same sound (sound.of_subset fun call member => (same call).mpr member)]
  refine ⟨?_,eventsOf_alike same first second⟩
  unfold agreedCount at orders fills
  unfold urgentRow at urgent
  simp only [exportRow,ranRow,orders,fills,urgent]

theorem runs_alike (same : SameMembers past others) (first : Summed hashes past one) (second : Summed hashes others two) :
    (byKey one.sources).map Prod.fst = (byKey two.sources).map Prod.fst := by
  refine Sorting.ascending_unique (byKey_ascending first.sources.keys) (byKey_ascending second.sources.keys) fun run => ?_
  rw [mem_runs first,mem_runs second]
  exact exists_congr fun call => and_congr_left' (same call)

end alike

end LongBridge.Notifications
