import LongBridge.Projection.Anomalies

namespace LongBridge.Projection
open Reporting

section copies
variable {runs others copies : List Run} {run : Run} {group : String}

def Agreeing (copies : List Run) : Prop := ∀ one ∈ copies, ∀ two ∈ copies, one.signature = two.signature

theorem settledCopies_nil : settledCopies [] = [] := rfl

-- What is kept of agreeing copies is one of them but for its objects.
theorem settledCopies_agreeing (agreeing : Agreeing copies) (nonempty : copies ≠ []) :
    ∃ last ∈ copies, ∃ objects, settledCopies copies = [{ last with sourceObjects := objects }] := by
  unfold settledCopies
  cases found : copies.getLast? with
  | none => exact absurd (List.getLast?_eq_none_iff.mp found) nonempty
  | some last =>
    have there : last ∈ copies := List.mem_of_getLast? found
    have all : (copies.all fun copy => copy.signature == last.signature) = true := by
      rw [List.all_eq_true]
      intro copy held
      exact beq_iff_eq.mpr (agreeing copy held last there)
    dsimp only
    rw [if_pos all]
    exact ⟨last,there,_,rfl⟩

theorem settledCopies_mixed (mixed : ¬Agreeing copies) : settledCopies copies = copies := by
  unfold settledCopies
  cases found : copies.getLast? with
  | none => exact (List.getLast?_eq_none_iff.mp found).symm
  | some last =>
    dsimp only
    apply if_neg
    intro all
    apply mixed
    intro one held two other
    have first := beq_iff_eq.mp (List.all_eq_true.mp all one held)
    have second := beq_iff_eq.mp (List.all_eq_true.mp all two other)
    exact first.trans second.symm

theorem settledCopies_group (held : run ∈ settledCopies copies) : ∃ copy ∈ copies, run.group = copy.group := by
  by_cases agreeing : Agreeing copies
  · by_cases empty : copies = []
    · rw [empty,settledCopies_nil] at held
      cases held
    · obtain ⟨last,there,objects,same⟩ := settledCopies_agreeing agreeing empty
      rw [same,List.mem_singleton] at held
      exact ⟨last,there,by rw [held]; rfl⟩
  · rw [settledCopies_mixed agreeing] at held
    exact ⟨run,held,rfl⟩

theorem distinct_nodup (items : List String) : (distinct items).Nodup := by
  have all : ∀ kept : List String, kept.Nodup →
      (items.foldl (fun kept item => if kept.contains item then kept else kept ++ [item]) kept).Nodup := by
    induction items with
    | nil => exact fun kept nodup => nodup
    | cons first rest ih =>
      intro kept nodup
      rw [List.foldl_cons]
      apply ih
      split
      · exact nodup
      · rename_i fresh
        apply List.nodup_append.mpr
        refine ⟨nodup,List.nodup_singleton _,?_⟩
        intro one held two other same
        rw [List.mem_singleton] at other
        rw [same,other] at held
        exact fresh (List.contains_iff_mem.mpr held)
  exact all [] List.nodup_nil

theorem flatMap_only {α : Type} {groups : List String} (nodup : groups.Nodup) (there : group ∈ groups) (kept : List α) :
    (groups.flatMap fun other => if other = group then kept else []) = kept := by
  have absent : ∀ {rest : List String}, group ∉ rest → (rest.flatMap fun other => if other = group then kept else []) = [] := by
    intro rest missing
    apply List.flatMap_eq_nil_iff.mpr
    intro other held
    apply if_neg
    intro same
    exact missing (same ▸ held)
  induction groups with
  | nil => cases there
  | cons first rest ih =>
    rw [List.nodup_cons] at nodup
    rw [List.flatMap_cons]
    by_cases same : first = group
    · rw [if_pos same,absent (same ▸ nodup.1),List.append_nil]
    · rw [if_neg same,List.nil_append]
      apply ih nodup.2
      cases List.mem_cons.mp there with
      | inl here => exact absurd here.symm same
      | inr later => exact later

-- The copies that are left of one group are the settled copies of it.
theorem copiesOf_dedupeRuns : copiesOf (dedupeRuns runs) group = settledCopies (copiesOf runs group) := by
  have own : ∀ other, copiesOf (settledCopies (copiesOf runs other)) group = if other = group then settledCopies (copiesOf runs group) else [] := by
    intro other
    have groups : ∀ run ∈ settledCopies (copiesOf runs other), run.group = other := by
      intro run held
      obtain ⟨copy,there,same⟩ := settledCopies_group held
      rw [same]
      exact (mem_copiesOf.mp there).2
    by_cases same : other = group
    · rw [if_pos same,← same]
      apply List.filter_eq_self.mpr
      intro run held
      exact beq_iff_eq.mpr (groups run held)
    · rw [if_neg same]
      apply List.filter_eq_nil_iff.mpr
      intro run held
      rw [groups run held,beq_iff_eq]
      exact same
  have parts : copiesOf (dedupeRuns runs) group = (distinct (runs.map Run.group)).flatMap fun other =>
      if other = group then settledCopies (copiesOf runs group) else [] := by
    unfold dedupeRuns
    rw [copiesOf,List.filter_flatMap]
    exact List.flatMap_congr fun other _ => own other
  rw [parts]
  by_cases there : group ∈ distinct (runs.map Run.group)
  · exact flatMap_only (distinct_nodup _) there _
  · have none_ : copiesOf runs group = [] := by
      apply List.filter_eq_nil_iff.mpr
      intro run held same
      apply there
      rw [mem_distinct,← beq_iff_eq.mp same]
      exact List.mem_map_of_mem held
    rw [none_,settledCopies_nil]
    simp


variable {covers : Run → Bool} {seen : Core}

end copies

end LongBridge.Projection
