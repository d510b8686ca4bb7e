import Mathlib.Data.String.Basic
import LongBridge.CycleHealth.IncidentHistory
import LongBridge.Python.Sorting

namespace LongBridge.CycleHealth
open Effects Sorting

variable {kit : Kit} {clock : Clock} {α : Type}

instance (key : α → String) : Std.Total (earlier key) where
  total one two := by
    rcases lt_trichotomy one.1 two.1 with before | same | after
    · exact .inl (.inl before)
    · rcases le_total (key one.2) (key two.2) with low | high
      · exact .inl (.inr ⟨same,low⟩)
      · exact .inr (.inr ⟨same.symm,high⟩)
    · exact .inr (.inl after)

instance (key : α → String) : IsTrans (Timed α) (earlier key) where
  trans one two three first second := by
    rcases first with before | ⟨same,low⟩
    · rcases second with next | ⟨again,_⟩
      · exact .inl (before.trans next)
      · exact .inl (again ▸ before)
    · rcases second with next | ⟨again,high⟩
      · exact .inl (same ▸ next)
      · exact .inr ⟨same.trans again,low.trans high⟩

-- The time a reading gives, on the items where it gives one.
def whenRead (read : α → Except PyExc ℤ) (item : α) : ℤ := (read item).toOption.getD 0

def stamp (read : α → Except PyExc ℤ) (item : α) : Timed α := (whenRead read item,item)

def Readable (read : α → Except PyExc ℤ) (items : List α) : Prop := ∀ item ∈ items, ∃ time, read item = .ok time

def timed (read : α → Except PyExc ℤ) (item : α) : Except PyExc (Timed α) := do
  let time ← read item
  return (time,item)

theorem timed_ok {read : α → Except PyExc ℤ} {item : α} {entry : Timed α} :
    timed read item = .ok entry ↔ (∃ time, read item = .ok time) ∧ entry = stamp read item := by
  unfold timed stamp whenRead
  rw [bind_ok]
  constructor
  · intro found
    obtain ⟨time,known,same⟩ := found
    cases return_ok.mp same
    exact ⟨⟨time,known⟩,by rw [known]; rfl⟩
  · intro found
    obtain ⟨⟨time,known⟩,rfl⟩ := found
    exact ⟨time,known,by rw [known]; rfl⟩

theorem timed_all {read : α → Except PyExc ℤ} {items : List α} {entries : List (Timed α)} :
    items.mapM (timed read) = .ok entries ↔ Readable read items ∧ entries = items.map (stamp read) := by
  induction items generalizing entries with
  | nil => rw [List.mapM_nil,return_ok]; simp [Readable,eq_comm]
  | cons item rest ih =>
    rw [List.mapM_cons,bind_ok]
    constructor
    · intro found
      obtain ⟨entry,one,found⟩ := found
      obtain ⟨others,more,same⟩ := bind_ok.mp found
      cases return_ok.mp same
      obtain ⟨known,rfl⟩ := timed_ok.mp one
      obtain ⟨all,rfl⟩ := ih.mp more
      exact ⟨List.forall_mem_cons.mpr ⟨known,all⟩,rfl⟩
    · intro found
      obtain ⟨all,rfl⟩ := found
      obtain ⟨known,others⟩ := List.forall_mem_cons.mp all
      exact ⟨_,timed_ok.mpr ⟨known,rfl⟩,bind_ok.mpr ⟨_,ih.mpr ⟨others,rfl⟩,rfl⟩⟩

-- The order of one list of items, each with its own reading.
def inOrder (read : α → Except PyExc ℤ) (key : α → String) (one two : α) : Prop :=
  earlier key (stamp read one) (stamp read two)

instance (read : α → Except PyExc ℤ) (key : α → String) : DecidableRel (inOrder read key) :=
  fun one two => inferInstanceAs (Decidable (earlier key (stamp read one) (stamp read two)))

instance (read : α → Except PyExc ℤ) (key : α → String) : Std.Total (inOrder read key) where
  total one two := total_of (earlier key) (stamp read one) (stamp read two)

instance (read : α → Except PyExc ℤ) (key : α → String) : IsTrans α (inOrder read key) where
  trans _ _ _ first second := trans_of (earlier key) first second

theorem sort_stamped (read : α → Except PyExc ℤ) (key : α → String) (items : List α) :
    (items.map (stamp read)).insertionSort (earlier key) = (items.insertionSort (inOrder read key)).map (stamp read) :=
  (List.map_insertionSort _ (earlier key) (stamp read) items fun _ _ _ _ => Iff.rfl).symm

-- Items with the same place in the order have the same key.
theorem inOrder_apart {read : α → Except PyExc ℤ} {key : α → String} {one two : α} (apart : key one ≠ key two) :
    ¬(inOrder read key one two ∧ inOrder read key two one) := by
  intro both
  rcases both.1 with before | ⟨same,low⟩
  · rcases both.2 with after | ⟨equal,_⟩
    · exact absurd before (not_lt.mpr after.le)
    · exact absurd before (by rw [equal]; exact lt_irrefl _)
  · rcases both.2 with after | ⟨_,high⟩
    · exact absurd after (by rw [same]; exact lt_irrefl _)
    · exact apart (le_antisymm low high)

def attemptTime (clock : Clock) (attempt : Attempt) : Except PyExc ℤ := faultTime clock attempt.cycle

def resolutionTime (clock : Clock) (resolution : Resolution) : Except PyExc ℤ := clock.instant resolution.verifiedThrough

def keyOf (attempt : Attempt) : String := attemptKey attempt.cycle

abbrev byFault (clock : Clock) : Attempt → Attempt → Prop := inOrder (attemptTime clock) keyOf

abbrev byWatermark (clock : Clock) : Resolution → Resolution → Prop := inOrder (resolutionTime clock) Resolution.evidenceRef

-- The fields of an incident once its attempts and its history are in order.
def assembled (clock : Clock) (attempts : List Attempt) (resolutions : List Resolution) : Except PyExc Incident :=
  match attempts.map (stamp (attemptTime clock)) with
  | [] => .error (valueError "max() arg is an empty sequence")
  | first :: rest =>
    let incident : Incident :=
      { cycle := (representative first rest).2.cycle
        category := incidentCategory (representative first rest).2.cycle
        latestFaultAt := clock.iso (latest first rest)
        activeCategory := activeCategory (attempts.filter isActive)
        faultAttempts := attempts
        resolutionHistory := resolutions
        resolution := none }
    if (attempts.filter isActive).isEmpty then
      match resolutions.getLast? with
      | some resolution => .ok { incident with resolution := some resolution }
      | none => .error ⟨"IndexError","list index out of range"⟩
    else .ok incident

theorem map_stamp_snd (read : α → Except PyExc ℤ) (items : List α) : (items.map (stamp read)).map Prod.snd = items := by
  rw [List.map_map]
  exact List.map_id _

theorem refreshIncident_eq (attempts : List Attempt) (history : List Resolution) (item : Incident) :
    refreshIncident clock attempts history = .ok item ↔
      Readable (attemptTime clock) attempts ∧ Readable (resolutionTime clock) history ∧
        assembled clock (attempts.insertionSort (byFault clock)) (history.insertionSort (byWatermark clock)) = .ok item := by
  constructor
  · intro refreshed
    obtain ⟨entries,read,refreshed⟩ := bind_ok.mp refreshed
    obtain ⟨dated,dates,refreshed⟩ := bind_ok.mp refreshed
    obtain ⟨readable,rfl⟩ := timed_all.mp read
    obtain ⟨past,rfl⟩ := timed_all.mp dates
    refine ⟨readable,past,?_⟩
    simp only [sort_stamped,map_stamp_snd] at refreshed
    exact refreshed
  · intro found
    obtain ⟨readable,past,built⟩ := found
    refine bind_ok.mpr ⟨_,timed_all.mpr ⟨readable,rfl⟩,bind_ok.mpr ⟨_,timed_all.mpr ⟨past,rfl⟩,?_⟩⟩
    simp only [sort_stamped,map_stamp_snd]
    exact built

theorem assembled_ok {attempts : List Attempt} {resolutions : List Resolution} {item : Incident}
    (built : assembled clock attempts resolutions = .ok item) :
    item.faultAttempts = attempts ∧ item.resolutionHistory = resolutions ∧
      ∃ first rest, attempts.map (stamp (attemptTime clock)) = first :: rest ∧
        item.cycle = (representative first rest).2.cycle := by
  unfold assembled at built
  cases entries : attempts.map (stamp (attemptTime clock)) with
  | nil => rw [entries] at built; cases built
  | cons first rest =>
    rw [entries] at built
    dsimp only at built
    split at built
    · split at built
      · cases built
        exact ⟨rfl,rfl,first,rest,rfl,rfl⟩
      · cases built
    · cases built
      exact ⟨rfl,rfl,first,rest,rfl,rfl⟩

-- An open attempt needs no resolution to show.
theorem assembled_open {attempts : List Attempt} {attempt : Attempt} (member : attempt ∈ attempts)
    (active : isActive attempt = true) (resolutions : List Resolution) :
    ∃ item, assembled clock attempts resolutions = .ok item := by
  have present : (attempts.filter isActive).isEmpty = false :=
    List.isEmpty_eq_false_iff_exists_mem.mpr ⟨attempt,List.mem_filter.mpr ⟨member,active⟩⟩
  unfold assembled
  cases entries : attempts.map (stamp (attemptTime clock)) with
  | nil =>
    rw [List.map_eq_nil_iff] at entries
    subst entries
    cases member
  | cons first rest =>
    dsimp only
    rw [if_neg (by simp [present])]
    exact ⟨_,rfl⟩

-- An incident that a refresh would leave as it is.
def Fresh (clock : Clock) (item : Incident) : Prop :=
  refreshIncident clock item.faultAttempts item.resolutionHistory = .ok item

theorem fresh_order {item : Incident} (fresh : Fresh clock item) :
    item.faultAttempts.Pairwise (byFault clock) ∧ item.resolutionHistory.Pairwise (byWatermark clock) := by
  obtain ⟨_,_,built⟩ := (refreshIncident_eq ..).mp fresh
  obtain ⟨attempts,history,_⟩ := assembled_ok built
  rw [attempts,history]
  exact ⟨List.pairwise_insertionSort ..,List.pairwise_insertionSort ..⟩

theorem fresh_nonempty {item : Incident} (fresh : Fresh clock item) : item.faultAttempts ≠ [] := by
  obtain ⟨_,_,built⟩ := (refreshIncident_eq ..).mp fresh
  obtain ⟨attempts,_,first,rest,entries,_⟩ := assembled_ok built
  intro none
  rw [attempts] at none
  rw [none] at entries
  cases entries

theorem readable_perm {read : α → Except PyExc ℤ} {items others : List α} (perm : items.Perm others)
    (readable : Readable read others) : Readable read items :=
  fun item member => readable item (perm.mem_iff.mp member)

theorem refreshed_fresh {attempts : List Attempt} {history : List Resolution} {item : Incident}
    (refreshed : refreshIncident clock attempts history = .ok item) : Fresh clock item ∧
      item.faultAttempts = attempts.insertionSort (byFault clock) ∧
      item.resolutionHistory = history.insertionSort (byWatermark clock) := by
  obtain ⟨readable,past,built⟩ := (refreshIncident_eq ..).mp refreshed
  obtain ⟨kept,proven,_⟩ := assembled_ok built
  refine ⟨(refreshIncident_eq ..).mpr ⟨?_,?_,?_⟩,kept,proven⟩
  · rw [kept]; exact readable_perm (List.perm_insertionSort ..) readable
  · rw [proven]; exact readable_perm (List.perm_insertionSort ..) past
  · rw [kept,proven,(List.pairwise_insertionSort ..).insertionSort_eq,(List.pairwise_insertionSort ..).insertionSort_eq]
    exact built

-- Sorting what a refresh is given beforehand changes nothing.
theorem refreshIncident_presorted {attempts more : List Attempt} {history others : List Resolution} {item : Incident} :
    refreshIncident clock (attempts.insertionSort (byFault clock) ++ more)
        (history.insertionSort (byWatermark clock) ++ others) = .ok item ↔
      refreshIncident clock (attempts ++ more) (history ++ others) = .ok item := by
  rw [refreshIncident_eq,refreshIncident_eq,insertionSort_sorted_append,insertionSort_sorted_append]
  have same : ((attempts.insertionSort (byFault clock)) ++ more).Perm (attempts ++ more) :=
    (List.perm_insertionSort ..).append_right more
  have past : ((history.insertionSort (byWatermark clock)) ++ others).Perm (history ++ others) :=
    (List.perm_insertionSort ..).append_right others
  constructor
  · intro found
    exact ⟨readable_perm same.symm found.1,readable_perm past.symm found.2.1,found.2.2⟩
  · intro found
    exact ⟨readable_perm same found.1,readable_perm past found.2.1,found.2.2⟩

theorem refreshIncident_swap {attempts : List Attempt} {one two : Attempt} {history : List Resolution} {item : Incident}
    (apart : keyOf one ≠ keyOf two)
    (refreshed : refreshIncident clock (attempts ++ [one] ++ [two]) history = .ok item) :
    refreshIncident clock (attempts ++ [two] ++ [one]) history = .ok item := by
  obtain ⟨readable,past,built⟩ := (refreshIncident_eq ..).mp refreshed
  have perm : (attempts ++ [two] ++ [one]).Perm (attempts ++ [one] ++ [two]) := by
    rw [List.append_assoc,List.append_assoc]
    exact (List.perm_append_comm).append_left attempts
  refine (refreshIncident_eq ..).mpr ⟨readable_perm perm readable,past,?_⟩
  rw [insertionSort_append_swap _ (inOrder_apart fun same => apart same.symm)]
  exact built

end LongBridge.CycleHealth
