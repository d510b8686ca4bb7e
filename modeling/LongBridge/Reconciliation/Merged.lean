import Mathlib.Data.List.Perm.Lattice
import LongBridge.Effects.Fallible
import LongBridge.Reconciliation.Observe

namespace LongBridge.Reconciliation
open Effects Sorting

namespace ObservedExecution

def tradeId (observed : ObservedExecution) : String := observed.facts.tradeId

-- The time of an execution as the broker gave it
def native (observed : ObservedExecution) : Option String := observed.forward.map ForwardPart.nativeTradeDoneAt

def nativeValues (observed : ObservedExecution) : List String := (observed.forward.map ForwardPart.nativeTradeDoneAtValues).getD []

-- A row before anything is learned from others
def Fresh (observed : ObservedExecution) : Prop := observed.nativeValues = observed.native.toList

-- What is left of a record without the native time that stood first
def settled (observed : ObservedExecution) : ObservedExecution :=
  { observed with forward := observed.forward.map fun part => { part with nativeTradeDoneAt := "" } }

theorem settled_eq_iff {one two : ObservedExecution} :
    one.settled = two.settled ↔ one.canonical = two.canonical ∧ one.nativeValues = two.nativeValues := by
  obtain ⟨facts,forward⟩ := one
  obtain ⟨others,part⟩ := two
  cases forward <;> cases part <;> simp [settled,canonical,nativeValues,ForwardPart.labels,and_assoc]

theorem eq_of_settled {one two : ObservedExecution} (same : one.settled = two.settled) (natives : one.native = two.native) : one = two := by
  obtain ⟨facts,forward⟩ := one
  obtain ⟨others,part⟩ := two
  cases forward with
  | none => cases part <;> simp_all [settled]
  | some known =>
    cases part with
    | none => simp [settled] at same
    | some other =>
      obtain ⟨side,currency,first,values⟩ := known
      simp_all [settled,native]

theorem tradeId_of_canonical {one two : ObservedExecution} (same : one.canonical = two.canonical) : one.tradeId = two.tradeId :=
  congrArg (fun facts => facts.1.tradeId) same

theorem native_of_canonical {one two : ObservedExecution} (same : one.canonical = two.canonical) : one.native = none ↔ two.native = none := by
  have parts : one.forward.map ForwardPart.labels = two.forward.map ForwardPart.labels := congrArg Prod.snd same
  simp only [native,Option.map_eq_none_iff]
  constructor
  · intro empty
    simpa [empty,eq_comm] using parts
  · intro empty
    simpa [empty] using parts

section learn
variable {previous observed : ObservedExecution}

@[simp] theorem learn_canonical : (previous.learn observed).canonical = previous.canonical := by
  unfold learn
  split
  · rename_i known other held told
    simp [canonical,held,ForwardPart.labels]
  · rfl

@[simp] theorem learn_tradeId : (previous.learn observed).tradeId = previous.tradeId := tradeId_of_canonical learn_canonical

@[simp] theorem learn_native : (previous.learn observed).native = previous.native := by
  unfold learn
  split
  · rename_i known other held told
    simp [native,held]
  · rfl

end learn

end ObservedExecution

section merge
variable {known next : List ObservedExecution} {observed : ObservedExecution}

-- What one row can do: it is new, or it repeats the facts of the first record of its trade.
theorem mergeExecution_ok : mergeExecution known observed = .ok next ↔
    ((∀ record ∈ known, record.tradeId ≠ observed.tradeId) ∧ next = known ++ [observed]) ∨
    ∃ before previous after, known = before ++ previous :: after ∧ (∀ record ∈ before, record.tradeId ≠ observed.tradeId) ∧
      previous.canonical = observed.canonical ∧ next = before ++ previous.learn observed :: after := by
  induction known generalizing next with
  | nil => simp [mergeExecution,eq_comm]
  | cons head rest ih =>
    rw [mergeExecution]
    by_cases same : head.facts.tradeId = observed.facts.tradeId
    · rw [if_pos same]
      have here : head.tradeId = observed.tradeId := same
      constructor
      · intro ran
        split at ran
        · rename_i agree
          exact Or.inr ⟨[],head,rest,rfl,by simp,agree,(Except.ok.inj ran).symm⟩
        · cases ran
      · rintro (⟨apart,rfl⟩ | ⟨before,previous,after,parts,apart,agree,rfl⟩)
        · exact absurd here (apart head List.mem_cons_self)
        · cases before with
          | nil =>
            obtain ⟨rfl,rfl⟩ := List.cons.inj parts
            rw [if_pos agree]
            rfl
          | cons first others =>
            obtain ⟨rfl,rfl⟩ := List.cons.inj parts
            exact absurd here (apart _ List.mem_cons_self)
    · rw [if_neg same]
      have elsewhere : head.tradeId ≠ observed.tradeId := same
      constructor
      · intro ran
        cases inner : mergeExecution rest observed with
        | error raised => rw [inner] at ran; cases ran
        | ok merged =>
          rw [inner] at ran
          obtain rfl := Except.ok.inj ran
          rcases ih.mp inner with ⟨apart,rfl⟩ | ⟨before,previous,after,rfl,apart,agree,rfl⟩
          · exact Or.inl ⟨List.forall_mem_cons.mpr ⟨elsewhere,apart⟩,rfl⟩
          · exact Or.inr ⟨head :: before,previous,after,rfl,List.forall_mem_cons.mpr ⟨elsewhere,apart⟩,agree,rfl⟩
      · rintro (⟨apart,rfl⟩ | ⟨before,previous,after,parts,apart,agree,rfl⟩)
        · have inner := ih.mpr (Or.inl ⟨fun record member => apart record (List.mem_cons_of_mem _ member),rfl⟩)
          rw [inner]
          rfl
        · cases before with
          | nil =>
            obtain ⟨rfl,rfl⟩ := List.cons.inj parts
            exact absurd (ObservedExecution.tradeId_of_canonical agree) elsewhere
          | cons first others =>
            obtain ⟨rfl,rfl⟩ := List.cons.inj parts
            have inner := ih.mpr (Or.inr ⟨others,previous,after,rfl,fun record member => apart record (List.mem_cons_of_mem _ member),agree,rfl⟩)
            rw [inner]
            rfl

end merge

section runs

-- The first row of a trade
def firstNative (seen : List ObservedExecution) (trade : String) : Option String :=
  (seen.find? fun row => row.tradeId = trade).bind ObservedExecution.native

-- What the records hold of the rows seen so far
structure Gathered (seen known : List ObservedExecution) : Prop where
  single : (known.map ObservedExecution.tradeId).Nodup
  covers : ∀ row ∈ seen, ∃ record ∈ known, record.canonical = row.canonical
  sourced : ∀ record ∈ known, ∃ row ∈ seen, record.canonical = row.canonical
  first : ∀ record ∈ known, record.native = firstNative seen record.tradeId
  ascending : ∀ record ∈ known, record.nativeValues.Pairwise (· < ·)
  told : ∀ record ∈ known, ∀ text, text ∈ record.nativeValues ↔ ∃ row ∈ seen, row.tradeId = record.tradeId ∧ row.native = some text

-- Rows of one trade agree on its facts.
def Consistent (seen : List ObservedExecution) : Prop :=
  ∀ row ∈ seen, ∀ other ∈ seen, row.tradeId = other.tradeId → row.canonical = other.canonical

variable {seen known next : List ObservedExecution} {observed : ObservedExecution}

theorem gathered_nil : Gathered [] [] := ⟨List.nodup_nil,by simp,by simp,by simp,by simp,by simp⟩

theorem firstNative_append_of_mem {trade : String} (found : ∃ row ∈ seen, row.tradeId = trade) :
    firstNative (seen ++ [observed]) trade = firstNative seen trade := by
  have some : (seen.find? fun row => row.tradeId = trade).isSome := by
    obtain ⟨row,member,same⟩ := found
    exact List.find?_isSome.mpr ⟨row,member,by simpa using same⟩
  obtain ⟨row,hit⟩ := Option.isSome_iff_exists.mp some
  rw [firstNative,firstNative,List.find?_append,hit]
  rfl

theorem firstNative_append_new (apart : ∀ row ∈ seen, row.tradeId ≠ observed.tradeId) :
    firstNative (seen ++ [observed]) observed.tradeId = observed.native := by
  have none : (seen.find? fun row => row.tradeId = observed.tradeId) = none :=
    List.find?_eq_none.mpr fun row member => by simpa using apart row member
  rw [firstNative,List.find?_append,none]
  simp

theorem learn_values {previous : ObservedExecution} (agree : previous.canonical = observed.canonical)
    (sorted : previous.nativeValues.Pairwise (· < ·)) :
    (previous.learn observed).nativeValues.Pairwise (· < ·) ∧
    ∀ text, text ∈ (previous.learn observed).nativeValues ↔ text ∈ previous.nativeValues ∨ observed.native = some text := by
  have natives := ObservedExecution.native_of_canonical agree
  cases held : previous.forward with
  | none =>
    have nothing : observed.native = none := natives.mp (by simp [ObservedExecution.native,held])
    have same : previous.learn observed = previous := by simp [ObservedExecution.learn,held]
    rw [same,nothing]
    exact ⟨sorted,by simp⟩
  | some known =>
    cases told : observed.forward with
    | none =>
      have nothing : previous.native = none := natives.mpr (by simp [ObservedExecution.native,told])
      simp [ObservedExecution.native,held] at nothing
    | some other =>
      have values : (previous.learn observed).nativeValues = sortedSet (known.nativeTradeDoneAtValues ++ [other.nativeTradeDoneAt]) := by
        simp [ObservedExecution.learn,ObservedExecution.nativeValues,held,told]
      rw [values]
      refine ⟨sortedSet_sorted _,?_⟩
      intro text
      rw [mem_sortedSet]
      simp [ObservedExecution.nativeValues,ObservedExecution.native,held,told,eq_comm]

theorem gathered_new (gathered : Gathered seen known) (fresh : observed.Fresh) (apart : ∀ record ∈ known, record.tradeId ≠ observed.tradeId) :
    Gathered (seen ++ [observed]) (known ++ [observed]) := by
  have unseen : ∀ row ∈ seen, row.tradeId ≠ observed.tradeId := by
    intro row member same
    obtain ⟨record,kept,agree⟩ := gathered.covers row member
    exact apart record kept ((ObservedExecution.tradeId_of_canonical agree).trans same)
  refine ⟨?_,?_,?_,?_,?_,?_⟩
  · rw [List.map_append,List.nodup_append]
    refine ⟨gathered.single,by simp,?_⟩
    intro trade member other last same
    obtain ⟨record,kept,rfl⟩ := List.mem_map.mp member
    simp only [List.map_cons,List.map_nil,List.mem_singleton] at last
    exact apart record kept (same.trans last)
  · intro row member
    rcases List.mem_append.mp member with early | late
    · obtain ⟨record,kept,agree⟩ := gathered.covers row early
      exact ⟨record,List.mem_append_left _ kept,agree⟩
    · obtain rfl := List.mem_singleton.mp late
      exact ⟨row,List.mem_append_right _ List.mem_cons_self,rfl⟩
  · intro record member
    rcases List.mem_append.mp member with early | late
    · obtain ⟨row,kept,agree⟩ := gathered.sourced record early
      exact ⟨row,List.mem_append_left _ kept,agree⟩
    · obtain rfl := List.mem_singleton.mp late
      exact ⟨record,List.mem_append_right _ List.mem_cons_self,rfl⟩
  · intro record member
    rcases List.mem_append.mp member with early | late
    · obtain ⟨row,kept,agree⟩ := gathered.sourced record early
      rw [gathered.first record early]
      exact (firstNative_append_of_mem ⟨row,kept,(ObservedExecution.tradeId_of_canonical agree).symm⟩).symm
    · obtain rfl := List.mem_singleton.mp late
      exact (firstNative_append_new unseen).symm
  · intro record member
    rcases List.mem_append.mp member with early | late
    · exact gathered.ascending record early
    · obtain rfl := List.mem_singleton.mp late
      rw [fresh]
      cases record.native <;> simp
  · intro record member text
    rcases List.mem_append.mp member with early | late
    · rw [gathered.told record early]
      constructor
      · rintro ⟨row,kept,own⟩
        exact ⟨row,List.mem_append_left _ kept,own⟩
      · rintro ⟨row,kept,trade,own⟩
        rcases List.mem_append.mp kept with before | now
        · exact ⟨row,before,trade,own⟩
        · obtain rfl := List.mem_singleton.mp now
          exact absurd trade.symm (apart record early)
    · obtain rfl := List.mem_singleton.mp late
      rw [fresh,Option.mem_toList]
      constructor
      · intro own
        exact ⟨record,List.mem_append_right _ List.mem_cons_self,rfl,own⟩
      · rintro ⟨row,kept,trade,own⟩
        rcases List.mem_append.mp kept with before | now
        · exact absurd trade (unseen row before)
        · obtain rfl := List.mem_singleton.mp now
          exact own

theorem gathered_learn {before after : List ObservedExecution} {previous : ObservedExecution} (gathered : Gathered seen (before ++ previous :: after))
    (agree : previous.canonical = observed.canonical) : Gathered (seen ++ [observed]) (before ++ previous.learn observed :: after) := by
  have here : previous ∈ before ++ previous :: after := List.mem_append_right _ List.mem_cons_self
  have trade := ObservedExecution.tradeId_of_canonical agree
  obtain ⟨ascending,values⟩ := learn_values agree (gathered.ascending previous here)
  -- A record of the result is the one that learned, or it is an earlier record of another trade.
  have cases : ∀ record ∈ before ++ previous.learn observed :: after,
      record = previous.learn observed ∨ (record ∈ before ++ previous :: after ∧ record.tradeId ≠ observed.tradeId) := by
    intro record member
    have single := gathered.single
    rw [List.map_append,List.map_cons,List.nodup_append] at single
    rcases List.mem_append.mp member with early | late
    · refine Or.inr ⟨List.mem_append_left _ early,?_⟩
      rw [← trade]
      exact single.2.2 _ (List.mem_map_of_mem early) _ List.mem_cons_self
    · rcases List.mem_cons.mp late with rfl | later
      · exact Or.inl rfl
      · refine Or.inr ⟨List.mem_append_right _ (List.mem_cons_of_mem _ later),?_⟩
        rw [← trade]
        intro same
        exact (List.nodup_cons.mp single.2.1).1 (same ▸ List.mem_map_of_mem later)
  have kept : ∀ record ∈ before ++ previous :: after, ∃ other ∈ before ++ previous.learn observed :: after, other.canonical = record.canonical := by
    intro record member
    rcases List.mem_append.mp member with early | late
    · exact ⟨record,List.mem_append_left _ early,rfl⟩
    · rcases List.mem_cons.mp late with rfl | later
      · exact ⟨_,List.mem_append_right _ List.mem_cons_self,ObservedExecution.learn_canonical⟩
      · exact ⟨record,List.mem_append_right _ (List.mem_cons_of_mem _ later),rfl⟩
  refine ⟨?_,?_,?_,?_,?_,?_⟩
  · simpa using gathered.single
  · intro row member
    have old : ∃ record ∈ before ++ previous :: after, record.canonical = row.canonical := by
      rcases List.mem_append.mp member with early | late
      · exact gathered.covers row early
      · obtain rfl := List.mem_singleton.mp late
        exact ⟨previous,here,agree⟩
    obtain ⟨record,held,same⟩ := old
    obtain ⟨other,stays,also⟩ := kept record held
    exact ⟨other,stays,also.trans same⟩
  · intro record member
    rcases cases record member with rfl | ⟨old,_⟩
    · exact ⟨observed,List.mem_append_right _ List.mem_cons_self,ObservedExecution.learn_canonical.trans agree⟩
    · obtain ⟨row,inside,same⟩ := gathered.sourced record old
      exact ⟨row,List.mem_append_left _ inside,same⟩
  · intro record member
    have source : ∀ old ∈ before ++ previous :: after, old.native = firstNative (seen ++ [observed]) old.tradeId := by
      intro old held
      obtain ⟨row,inside,same⟩ := gathered.sourced old held
      rw [gathered.first old held]
      exact (firstNative_append_of_mem ⟨row,inside,(ObservedExecution.tradeId_of_canonical same).symm⟩).symm
    rcases cases record member with rfl | ⟨old,_⟩
    · simpa using source previous here
    · exact source record old
  · intro record member
    rcases cases record member with rfl | ⟨old,_⟩
    · exact ascending
    · exact gathered.ascending record old
  · intro record member text
    rcases cases record member with rfl | ⟨old,apart⟩
    · rw [values,gathered.told previous here,ObservedExecution.learn_tradeId]
      constructor
      · rintro (⟨row,inside,own⟩ | now)
        · exact ⟨row,List.mem_append_left _ inside,own⟩
        · exact ⟨observed,List.mem_append_right _ List.mem_cons_self,trade.symm,now⟩
      · rintro ⟨row,inside,same,own⟩
        rcases List.mem_append.mp inside with early | late
        · exact Or.inl ⟨row,early,same,own⟩
        · obtain rfl := List.mem_singleton.mp late
          exact Or.inr own
    · rw [gathered.told record old]
      constructor
      · rintro ⟨row,inside,own⟩
        exact ⟨row,List.mem_append_left _ inside,own⟩
      · rintro ⟨row,inside,same,own⟩
        rcases List.mem_append.mp inside with early | late
        · exact ⟨row,early,same,own⟩
        · obtain rfl := List.mem_singleton.mp late
          exact absurd same.symm apart

theorem gathered_step (gathered : Gathered seen known) (fresh : observed.Fresh) (ran : mergeExecution known observed = .ok next) :
    Gathered (seen ++ [observed]) next := by
  rcases mergeExecution_ok.mp ran with ⟨apart,rfl⟩ | ⟨before,previous,after,rfl,_,agree,rfl⟩
  · exact gathered_new gathered fresh apart
  · exact gathered_learn gathered agree

theorem mergeExecution_runs (gathered : Gathered seen known) :
    (∃ next, mergeExecution known observed = .ok next) ↔ ∀ row ∈ seen, row.tradeId = observed.tradeId → row.canonical = observed.canonical := by
  constructor
  · rintro ⟨next,ran⟩ row member same
    obtain ⟨record,held,own⟩ := gathered.covers row member
    have trade := (ObservedExecution.tradeId_of_canonical own).trans same
    rcases mergeExecution_ok.mp ran with ⟨apart,_⟩ | ⟨before,previous,after,rfl,_,agree,_⟩
    · exact absurd trade (apart record held)
    · have other := ObservedExecution.tradeId_of_canonical agree
      have equal : record = previous := List.inj_on_of_nodup_map gathered.single held (List.mem_append_right _ List.mem_cons_self) (trade.trans other.symm)
      rw [← own,equal,agree]
  · intro consistent
    by_cases present : ∃ record ∈ known, record.tradeId = observed.tradeId
    · obtain ⟨record,held,trade⟩ := present
      obtain ⟨row,inside,own⟩ := gathered.sourced record held
      have agree : record.canonical = observed.canonical := own.trans (consistent row inside ((ObservedExecution.tradeId_of_canonical own).symm.trans trade))
      obtain ⟨before,after,rfl⟩ := List.append_of_mem held
      refine ⟨_,mergeExecution_ok.mpr (Or.inr ⟨before,record,after,rfl,?_,agree,rfl⟩)⟩
      have single := gathered.single
      rw [List.map_append,List.map_cons,List.nodup_append] at single
      intro other early same
      exact single.2.2 _ (List.mem_map_of_mem early) _ List.mem_cons_self (same.trans trade.symm)
    · simp only [not_exists,not_and] at present
      exact ⟨_,mergeExecution_ok.mpr (Or.inl ⟨present,rfl⟩)⟩

theorem gathered_run {final : List ObservedExecution} (fresh : ∀ row ∈ seen, row.Fresh) (ran : seen.foldlM mergeExecution [] = .ok final) :
    Gathered seen final := by
  induction seen using List.reverseRecOn generalizing final with
  | nil =>
    rw [List.foldlM_nil,return_ok] at ran
    subst ran
    exact gathered_nil
  | append_singleton rows row ih =>
    rw [List.foldlM_append,bind_ok] at ran
    obtain ⟨middle,early,late⟩ := ran
    rw [List.foldlM_cons,bind_ok] at late
    obtain ⟨last,one,done⟩ := late
    rw [List.foldlM_nil,return_ok] at done
    subst done
    exact gathered_step (ih (fun other member => fresh other (List.mem_append_left _ member)) early) (fresh row (by simp)) one

theorem run_iff_consistent (fresh : ∀ row ∈ seen, row.Fresh) : (∃ final, seen.foldlM mergeExecution [] = .ok final) ↔ Consistent seen := by
  induction seen using List.reverseRecOn with
  | nil => exact ⟨fun _ row member => absurd member List.not_mem_nil,fun _ => ⟨[],rfl⟩⟩
  | append_singleton rows row ih =>
    have early : ∀ other ∈ rows, other.Fresh := fun other member => fresh other (List.mem_append_left _ member)
    have step : (∃ final, (rows ++ [row]).foldlM mergeExecution [] = .ok final) ↔
        ∃ middle, rows.foldlM mergeExecution [] = .ok middle ∧ ∃ next, mergeExecution middle row = .ok next := by
      simp only [List.foldlM_append,bind_ok,List.foldlM_cons,List.foldlM_nil,return_ok]
      constructor
      · rintro ⟨final,middle,ran,next,one,_⟩
        exact ⟨middle,ran,next,one⟩
      · rintro ⟨middle,ran,next,one⟩
        exact ⟨next,middle,ran,next,one,rfl⟩
    rw [step]
    constructor
    · rintro ⟨middle,ran,merged⟩
      have before : Consistent rows := (ih early).mp ⟨middle,ran⟩
      have last := (mergeExecution_runs (gathered_run early ran)).mp merged
      intro one first two second same
      rcases List.mem_append.mp first with inside | end1
      · rcases List.mem_append.mp second with also | end2
        · exact before one inside two also same
        · obtain rfl := List.mem_singleton.mp end2
          exact last one inside same
      · obtain rfl := List.mem_singleton.mp end1
        rcases List.mem_append.mp second with also | end2
        · exact (last two also same.symm).symm
        · obtain rfl := List.mem_singleton.mp end2
          rfl
    · intro consistent
      obtain ⟨middle,ran⟩ := (ih early).mpr fun one first two second => consistent one (List.mem_append_left _ first) two (List.mem_append_left _ second)
      refine ⟨middle,ran,(mergeExecution_runs (gathered_run early ran)).mpr ?_⟩
      intro other member same
      exact consistent other (List.mem_append_left _ member) row (by simp) same

end runs

section same
variable {seen others known held : List ObservedExecution}

-- The records of two runs over the same rows differ at most in the native time that stood first.
theorem gathered_settled (members : ∀ row, row ∈ seen ↔ row ∈ others) (one : Gathered seen known) (two : Gathered others held) :
    ∀ record ∈ known, ∃ other ∈ held, other.settled = record.settled := by
  intro record member
  obtain ⟨row,inside,own⟩ := one.sourced record member
  obtain ⟨other,kept,same⟩ := two.covers row ((members row).mp inside)
  have canonical : other.canonical = record.canonical := same.trans own.symm
  refine ⟨other,kept,ObservedExecution.settled_eq_iff.mpr ⟨canonical,?_⟩⟩
  refine ascending_unique (two.ascending other kept) (one.ascending record member) ?_
  intro text
  rw [one.told record member,two.told other kept,ObservedExecution.tradeId_of_canonical canonical]
  simp only [members]

theorem settled_tradeId {record : ObservedExecution} : record.settled.tradeId = record.tradeId := rfl

theorem gathered_nodup (one : Gathered seen known) : (known.map ObservedExecution.settled).Nodup := by
  refine List.Nodup.of_map ObservedExecution.tradeId ?_
  rw [List.map_map]
  exact one.single

theorem gathered_perm (members : ∀ row, row ∈ seen ↔ row ∈ others) (one : Gathered seen known) (two : Gathered others held) :
    (known.map ObservedExecution.settled).Perm (held.map ObservedExecution.settled) := by
  refine (List.perm_ext_iff_of_nodup (gathered_nodup one) (gathered_nodup two)).mpr ?_
  intro record
  simp only [List.mem_map]
  constructor
  · rintro ⟨own,member,rfl⟩
    exact gathered_settled members one two own member
  · rintro ⟨own,member,rfl⟩
    exact gathered_settled (fun row => (members row).symm) two one own member

-- Where the first rows of every trade name one native time, the records are the same.
theorem gathered_perm_iff (members : ∀ row, row ∈ seen ↔ row ∈ others) (one : Gathered seen known) (two : Gathered others held) :
    known.Perm held ↔ ∀ row ∈ seen, firstNative seen row.tradeId = firstNative others row.tradeId := by
  constructor
  · intro perm row member
    obtain ⟨record,kept,same⟩ := one.covers row member
    have trade := ObservedExecution.tradeId_of_canonical same
    rw [← trade,← one.first record kept,two.first record (perm.mem_iff.mp kept)]
  · intro natives
    have equal : ∀ record ∈ known, record ∈ held := by
      intro record member
      obtain ⟨other,kept,same⟩ := gathered_settled members one two record member
      obtain ⟨row,inside,own⟩ := one.sourced record member
      have trade : other.settled.tradeId = record.settled.tradeId := congrArg ObservedExecution.tradeId same
      have native : other.native = record.native := by
        rw [settled_tradeId,settled_tradeId] at trade
        rw [two.first other kept,one.first record member,trade,ObservedExecution.tradeId_of_canonical own]
        exact (natives row inside).symm
      exact ObservedExecution.eq_of_settled same native ▸ kept
    have single : known.Nodup := List.Nodup.of_map _ one.single
    refine (List.subperm_of_subset single equal).perm_of_length_le ?_
    have lengths := (gathered_perm members one two).length_eq
    rw [List.length_map,List.length_map] at lengths
    exact lengths.ge

end same

end LongBridge.Reconciliation
