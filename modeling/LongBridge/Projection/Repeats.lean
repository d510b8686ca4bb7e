import LongBridge.Projection.OrderFree
import Mathlib.Data.List.Forall2

namespace LongBridge.Projection
open Reporting

section placing
variable {kit : Kit} {target : Fields} {items others : List Prepared} {observedAt : ℤ} {readFailed : Bool} {place : Place} {item : Prepared}

-- In a named run all copies of a place agree.
def Consonant (runs : List Run) : Prop := ∀ group, group ≠ "" → Agreeing (copiesOf runs group)

section pairs
variable {runs : List Run}

end pairs

end placing

section growth
variable {runs others kept kept' : List Run} {run : Run}

end growth

section unnamed
variable {runs copies : List Run} {run : Run}

theorem settledCopies_runId (held : run ∈ settledCopies copies) : ∃ copy ∈ copies, run.runId = copy.runId := by
  by_cases agreeing : Agreeing copies
  · by_cases empty : copies = []
    · rw [empty,settledCopies_nil] at held
      cases held
    · obtain ⟨last,there,objects,same⟩ := settledCopies_agreeing agreeing empty
      rw [same,List.mem_singleton] at held
      exact ⟨last,there,by rw [held]⟩
  · rw [settledCopies_mixed agreeing] at held
    exact ⟨run,held,rfl⟩

theorem dedupeRuns_runId (held : run ∈ dedupeRuns runs) : ∃ copy ∈ runs, run.runId = copy.runId := by
  have there : run ∈ settledCopies (copiesOf runs run.group) := by
    rw [← copiesOf_dedupeRuns]
    exact mem_copiesOf.mpr ⟨held,rfl⟩
  obtain ⟨copy,listed,same⟩ := settledCopies_runId there
  exact ⟨copy,(mem_copiesOf.mp listed).1,same⟩

-- An id that is stated is not empty.
def Stated (runs : List Run) : Prop := ∀ run ∈ runs, run.runId ≠ some ""

theorem group_eq_empty (stated : run.runId ≠ some "") : run.group = "" ↔ run.runId = none := by
  unfold Run.group
  cases named : run.runId with
  | none => simp
  | some name =>
    rw [named] at stated
    constructor
    · intro empty
      exact absurd (congrArg some empty) stated
    · intro missing
      cases missing

def unnamed (runs : List Run) : List Run := runs.filter fun run => run.runId.isNone

theorem unnamed_eq (stated : Stated runs) : unnamed runs = copiesOf runs "" := by
  unfold unnamed copiesOf
  apply List.filter_congr
  intro run held
  rw [Bool.eq_iff_iff,Option.isNone_iff_eq_none,beq_iff_eq,group_eq_empty (stated run held)]

theorem stated_dedupeRuns (stated : Stated runs) : Stated (dedupeRuns runs) := by
  intro run held
  obtain ⟨copy,there,same⟩ := dedupeRuns_runId held
  rw [same]
  exact stated copy there

-- No two runs without an id are taken for copies of each other.
def Unmerged (runs : List Run) : Prop := ¬(2 ≤ (copiesOf runs "").length ∧ Agreeing (copiesOf runs ""))

theorem settledCopies_length_le : (settledCopies copies).length ≤ copies.length := by
  by_cases agreeing : Agreeing copies
  · by_cases empty : copies = []
    · rw [empty,settledCopies_nil]
    · obtain ⟨_,_,_,kept⟩ := settledCopies_agreeing agreeing empty
      rw [kept,List.length_singleton]
      exact List.length_pos_iff.mpr empty
  · rw [settledCopies_mixed agreeing]

theorem settledCopies_length : (settledCopies copies).length = copies.length ↔ ¬(2 ≤ copies.length ∧ Agreeing copies) := by
  by_cases agreeing : Agreeing copies
  · by_cases empty : copies = []
    · rw [empty,settledCopies_nil]
      simp
    · obtain ⟨_,_,_,kept⟩ := settledCopies_agreeing agreeing empty
      have filled := List.length_pos_iff.mpr empty
      rw [kept,List.length_singleton,not_and]
      constructor
      · intro single many
        omega
      · intro few
        by_contra apart
        exact few (by omega) agreeing
  · rw [settledCopies_mixed agreeing]
    exact ⟨fun _ both => agreeing both.2,fun _ => rfl⟩

theorem unnamed_dedupeRuns_le (stated : Stated runs) : (unnamed (dedupeRuns runs)).length ≤ (unnamed runs).length := by
  rw [unnamed_eq stated,unnamed_eq (stated_dedupeRuns stated),copiesOf_dedupeRuns]
  exact settledCopies_length_le

theorem unnamed_dedupeRuns (stated : Stated runs) : (unnamed (dedupeRuns runs)).length = (unnamed runs).length ↔ Unmerged runs := by
  rw [unnamed_eq stated,unnamed_eq (stated_dedupeRuns stated),copiesOf_dedupeRuns]
  exact settledCopies_length

theorem runId_kept (held : run ∈ runs) (stated : Stated runs) : run.runId ∈ (dedupeRuns runs).map Run.runId := by
  have there : run ∈ copiesOf runs run.group := mem_copiesOf.mpr ⟨held,rfl⟩
  have same : ∀ copy, copy ∈ runs → copy.group = run.group → copy.runId = run.runId := by
    intro copy listed equal
    have own := stated run held
    have other := stated copy listed
    cases named : run.runId with
    | none => exact (group_eq_empty other).mp (equal.trans ((group_eq_empty own).mpr named))
    | some name =>
      cases named' : copy.runId with
      | none => exact absurd ((group_eq_empty own).mp (equal.symm.trans ((group_eq_empty other).mpr named'))) (by rw [named]; simp)
      | some name' =>
        unfold Run.group at equal
        rw [named,named'] at equal
        exact congrArg some equal
  have filled : settledCopies (copiesOf runs run.group) ≠ [] := by
    by_cases agreeing : Agreeing (copiesOf runs run.group)
    · obtain ⟨_,_,_,kept⟩ := settledCopies_agreeing agreeing (List.ne_nil_of_mem there)
      rw [kept]
      simp
    · rw [settledCopies_mixed agreeing]
      exact List.ne_nil_of_mem there
  obtain ⟨kept,listed⟩ := List.exists_mem_of_ne_nil _ filled
  obtain ⟨copy,copied,equal⟩ := settledCopies_runId listed
  obtain ⟨held',group⟩ := mem_copiesOf.mp copied
  rw [← copiesOf_dedupeRuns] at listed
  rw [← same copy held' group,← equal]
  exact List.mem_map_of_mem (mem_copiesOf.mp listed).1

end unnamed

section records
variable {kit : Kit} {target : Fields} {items others : List Prepared} {observedAt : ℤ} {readFailed : Bool} {place : Place} {item : Prepared}

theorem runView_stated : (runView item).runId ≠ some "" := by
  have view : (runView item).runId = optionalText (item.payload.get "run_id") := rfl
  rw [view]
  unfold optionalText
  split
  · simp
  · rename_i filled
    simpa using filled

theorem placedAt_stated : Stated (placedAt kit target observedAt items place) := by
  intro run held
  obtain ⟨item,_,_,rfl⟩ := mem_placed.mp held
  exact runView_stated

-- The runs that a record is made of, before copies are collapsed.
def reportedRuns (kit : Kit) (target : Fields) (items : List Prepared) (observedAt : ℤ) : List Run :=
  placedAt kit target observedAt items .dated ++ placedAt kit target observedAt items .carriedUnresolved ++
    placedAt kit target observedAt items .undatedAnomaly

-- Every stated id is kept, and every run without an id.
def Separate (record : Record) (reported : List Run) : Prop :=
  (unnamed record.runs).length = (unnamed reported).length ∧ ∀ run ∈ reported, run.runId ∈ record.runs.map Run.runId

theorem separate_iff : Separate (projectTarget kit target items observedAt readFailed) (reportedRuns kit target items observedAt) ↔
    Unmerged (placedAt kit target observedAt items .dated) ∧ Unmerged (placedAt kit target observedAt items .carriedUnresolved) := by
  have counts : ∀ one two : List Run, unnamed (one ++ two) = unnamed one ++ unnamed two := fun one two => List.filter_append ..
  have dated := unnamed_dedupeRuns_le (@placedAt_stated kit target items observedAt .dated)
  have carried := unnamed_dedupeRuns_le (@placedAt_stated kit target items observedAt .carriedUnresolved)
  rw [← unnamed_dedupeRuns placedAt_stated,← unnamed_dedupeRuns placedAt_stated,projectTarget_judged]
  unfold Separate reportedRuns
  simp only [counts,List.length_append]
  constructor
  · intro separate
    obtain ⟨total,_⟩ := separate
    omega
  · intro kept
    obtain ⟨first,second⟩ := kept
    refine ⟨by omega,?_⟩
    intro run held
    rw [List.map_append,List.map_append]
    rcases List.mem_append.mp held with counted | lost
    · apply List.mem_append_left
      rcases List.mem_append.mp counted with here | here
      · exact List.mem_append_left _ (runId_kept here placedAt_stated)
      · exact List.mem_append_right _ (runId_kept here placedAt_stated)
    · exact List.mem_append_right _ (List.mem_map_of_mem lost)

end records

section reports
variable {kit : Kit} {targets reports others : List Fields} {target report : Fields} {observedAt : ℤ} {readErrors : List String}

end reports

-- No runs without an id are merged, and no named run is in conflict within its place.
structure Tidy (kit : Kit) (target : Fields) (items : List Prepared) (observedAt : ℤ) : Prop where
  dated_unmerged : Unmerged (placedAt kit target observedAt items .dated)
  carried_unmerged : Unmerged (placedAt kit target observedAt items .carriedUnresolved)
  dated_consonant : Consonant (placedAt kit target observedAt items .dated)
  carried_consonant : Consonant (placedAt kit target observedAt items .carriedUnresolved)

section tidiness
variable {kit : Kit} {targets reports : List Fields} {observedAt : ℤ} {readErrors : List String} {target : Fields} {place : Place}

end tidiness

section fixed

def statuses (observedAt : ℤ) (reports : List Fields) : List String :=
  (projectDailyRuntime (morningKit observedAt) [morningTarget] reports observedAt []).map Record.status

end fixed

end LongBridge.Projection
