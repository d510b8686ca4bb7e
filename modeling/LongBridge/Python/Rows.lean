import Mathlib.Data.List.Sort
import LongBridge.Effects.Fallible
import LongBridge.Python.Equality
import LongBridge.Python.Json

namespace LongBridge
open Effects

section plain

-- A text or nothing
def IsPlain : PyVal → Prop
  | .none | .str _ => True
  | _ => False

theorem plain_same {value : PyVal} (plain : IsPlain value) : PyVal.same value value = true := by
  cases value with
  | none => rfl
  | str text => exact beq_self_eq_true text
  | _ => cases plain

theorem plain_sorted {value : PyVal} (plain : IsPlain value) : value.jsonSorted = .ok value := by
  cases value with
  | none => rfl
  | str text => rfl
  | _ => cases plain

end plain

section pairs
variable {α β : Type} {r s : α → β → Prop} {ones : List α} {twos : List β}

theorem forall₂_right (related : List.Forall₂ r ones twos) {two : β} (member : two ∈ twos) : ∃ one ∈ ones, r one two := by
  induction related with
  | nil => cases member
  | cons head _ ih =>
    rcases List.mem_cons.mp member with rfl | later
    · exact ⟨_,List.mem_cons_self,head⟩
    · obtain ⟨one,there,held⟩ := ih later
      exact ⟨one,List.mem_cons_of_mem _ there,held⟩

theorem forall₂_mem (related : List.Forall₂ r ones twos) (each : ∀ one ∈ ones, ∀ two ∈ twos, r one two → s one two) : List.Forall₂ s ones twos := by
  induction related with
  | nil => exact List.Forall₂.nil
  | cons head _ ih =>
    refine List.Forall₂.cons (each _ List.mem_cons_self _ List.mem_cons_self head) (ih fun one first two second => ?_)
    exact each one (List.mem_cons_of_mem _ first) two (List.mem_cons_of_mem _ second)

end pairs

section copies
variable {row copy : Fields} {found copies : List Fields}

def dictList (rows : List Fields) : PyVal := .list (rows.map PyVal.dict)

-- Rows of a list and the same rows with their entries in some order
abbrev Copies (found copies : List Fields) : Prop := List.Forall₂ (fun row copy => copy.Perm row) found copies

theorem copies_refl (found : List Fields) : Copies found found := List.forall₂_same.mpr fun row _ => List.Perm.refl row

theorem copies_sorted (found : List Fields) : Copies found (found.map sortedByKey) :=
  List.forall₂_map_right_iff.mpr (List.forall₂_same.mpr fun row _ => sortedByKey_perm row)

theorem perm_of_lookup {one two : Fields} (names : (one.map Prod.fst).Nodup) (others : (two.map Prod.fst).Nodup)
    (same : ∀ key, one.lookup key = two.lookup key) : one.Perm two := by
  refine (List.perm_ext_iff_of_nodup (List.Nodup.of_map _ names) (List.Nodup.of_map _ others)).mpr fun entry => ⟨fun member => ?_,fun member => ?_⟩
  · exact mem_of_lookup ((same entry.1).symm.trans (lookup_of_mem names member))
  · exact mem_of_lookup ((same entry.1).trans (lookup_of_mem others member))

theorem lookup_of_get {row : Fields} {key text : String} (found : row.get key = .str text) : row.lookup key = some (.str text) := by
  unfold Fields.get at found
  cases there : row.lookup key with
  | none =>
    rw [there] at found
    cases found
  | some value =>
    rw [there] at found
    exact congrArg some found

theorem lookup_none {row : Fields} {key : String} (missing : ∀ entry ∈ row, entry.1 ≠ key) : row.lookup key = none := by
  rw [List.lookup_eq_none_iff]
  intro entry member
  exact bne_iff_ne.mpr (missing entry member).symm

theorem copies_back (copied : Copies found copies) : Copies copies found := copied.flip.imp fun _ _ perm => perm.symm

theorem get_perm (names : (row.map Prod.fst).Nodup) (perm : copy.Perm row) (key : String) : copy.get key = row.get key :=
  congrArg (fun value => Option.getD value PyVal.none) (lookup_perm names perm key)

theorem sameEntries_of {row other : Fields} (held : ∀ entry ∈ row, other.lookup entry.1 = some entry.2 ∧ IsPlain entry.2) :
    PyVal.sameEntries row other = true := by
  induction row with
  | nil => rfl
  | cons entry rest ih =>
    obtain ⟨key,value⟩ := entry
    obtain ⟨found,plain⟩ := held (key,value) List.mem_cons_self
    unfold PyVal.sameEntries
    rw [found]
    dsimp only
    rw [plain_same plain,ih fun other member => held other (List.mem_cons_of_mem _ member)]
    rfl

theorem same_perm (names : (row.map Prod.fst).Nodup) (plain : ∀ entry ∈ row, IsPlain entry.2) (perm : copy.Perm row) :
    PyVal.same (.dict row) (.dict copy) = true := by
  unfold PyVal.same
  rw [perm.length_eq,beq_self_eq_true,Bool.true_and]
  refine sameEntries_of fun entry member => ⟨?_,plain entry member⟩
  rw [lookup_perm names perm]
  exact lookup_of_mem names member

-- Rows that a store gives back entry by entry
structure PlainRow (row : Fields) : Prop where
  named : (row.map Prod.fst).Nodup
  plain : ∀ entry ∈ row, IsPlain entry.2

theorem copies_tidy (copied : Copies found copies) (rows : ∀ row ∈ found, PlainRow row) : ∀ row ∈ copies, PlainRow row := by
  intro copy member
  obtain ⟨row,listed,perm⟩ := forall₂_right copied member
  obtain ⟨names,plain⟩ := rows row listed
  exact ⟨(perm.map Prod.fst).nodup_iff.mpr names,fun entry inside => plain entry (perm.subset inside)⟩

theorem dictList_same (rows : ∀ row ∈ found, PlainRow row) (copied : Copies found copies) : PyVal.same (dictList found) (dictList copies) = true := by
  unfold dictList PyVal.same
  induction copied with
  | nil => rfl
  | @cons row copy rest others perm _ ih =>
    obtain ⟨names,plain⟩ := rows row List.mem_cons_self
    rw [List.map_cons,List.map_cons,PyVal.sameItems,same_perm names plain perm,ih fun other member => rows other (List.mem_cons_of_mem _ member)]
    rfl

theorem sortedEntries_ok {entries copies : Fields} (each : List.Forall₂ (fun entry copy => copy.1 = entry.1 ∧ entry.2.jsonSorted = .ok copy.2) entries copies) :
    PyVal.jsonSortedEntries entries = .ok copies := by
  induction each with
  | nil => rfl
  | @cons entry copy rest others head _ ih =>
    obtain ⟨key,value⟩ := entry
    obtain ⟨rfl,sorted⟩ := (head : copy.1 = key ∧ value.jsonSorted = .ok copy.2)
    unfold PyVal.jsonSortedEntries
    rw [sorted,ih]
    rfl

theorem sorted_row (plain : ∀ entry ∈ row, IsPlain entry.2) : PyVal.jsonSortedEntries row = .ok row :=
  sortedEntries_ok (List.forall₂_same.mpr fun entry member => ⟨rfl,plain_sorted (plain entry member)⟩)

theorem dictList_sorted (rows : ∀ row ∈ found, PlainRow row) : (dictList found).jsonSorted = .ok (dictList (found.map sortedByKey)) := by
  have items : PyVal.jsonSortedItems (found.map PyVal.dict) = .ok ((found.map sortedByKey).map PyVal.dict) := by
    induction found with
    | nil => rfl
    | cons row rest ih =>
      rw [List.map_cons,PyVal.jsonSortedItems,PyVal.jsonSorted,sorted_row (rows row List.mem_cons_self).plain,
        ih fun other member => rows other (List.mem_cons_of_mem _ member)]
      rfl
  unfold dictList
  rw [PyVal.jsonSorted,items]
  rfl

end copies

section sorting
variable {α κ : Type} [LinearOrder κ]

-- The order of `sorted(items, key=key)`
def byKey (key : α → κ) (one two : α) : Prop := key one ≤ key two

variable {key : α → κ} {items : List α}

instance : DecidableRel (byKey key) := fun _ _ => inferInstanceAs (Decidable (_ ≤ _))

instance : Std.Total (byKey key) := ⟨fun _ _ => le_total _ _⟩

instance : IsTrans α (byKey key) := ⟨fun _ _ _ => le_trans⟩

theorem sorted_rising (apart : (items.map key).Nodup) : ((items.insertionSort (byKey key)).map key).Pairwise (· < ·) := by
  have perm : ((items.insertionSort (byKey key)).map key).Perm (items.map key) := (List.perm_insertionSort _ _).map key
  have sorted : ((items.insertionSort (byKey key)).map key).Pairwise (· ≤ ·) := List.pairwise_map.mpr (List.pairwise_insertionSort (byKey key) items)
  exact (sorted.and (perm.nodup_iff.mpr apart)).imp fun ⟨below,unlike⟩ => lt_of_le_of_ne below unlike

theorem insertionSort_rising (rising : (items.map key).Pairwise (· < ·)) : items.insertionSort (byKey key) = items :=
  ((List.pairwise_map.mp rising).imp fun below => le_of_lt below).insertionSort_eq

end sorting

section readers
variable {σ : Type} {refused : PyExc} {read : σ → Fields → Except PyExc Fields} {next : σ → Fields → σ} {state : σ}
  {items : List PyVal} {found copies : List Fields}

-- A check of a row that leaves plain entries under distinct names, and leaves them alone in whatever order they come back
structure Rereads (read : Fields → Except PyExc Fields) : Prop where
  tidy : ∀ {row found}, read row = .ok found → PlainRow found
  again : ∀ {row found copy}, read row = .ok found → copy.Perm found → read copy = .ok found

-- A list of mappings, each read with what the ones before it have left
def readRows (refused : PyExc) (read : σ → Fields → Except PyExc Fields) (next : σ → Fields → σ) : σ → List PyVal → Except PyExc (List Fields)
  | _,[] => .ok []
  | state,.dict row :: rest => do
    let found ← read state row
    let others ← readRows refused read next (next state found) rest
    return found :: others
  | _,_ => .error refused

theorem readRows_cons {item : PyVal} {rest : List PyVal} : readRows refused read next state (item :: rest) = .ok found ↔
    ∃ row first others, item = .dict row ∧ read state row = .ok first ∧ readRows refused read next (next state first) rest = .ok others ∧
      found = first :: others := by
  cases item with
  | dict row =>
    rw [readRows,bind_ok]
    constructor
    · rintro ⟨first,one,others⟩
      obtain ⟨tail,more,same⟩ := bind_return_ok.mp others
      exact ⟨row,first,tail,rfl,one,more,same⟩
    · rintro ⟨row',first,tail,same,one,more,rfl⟩
      cases same
      exact ⟨first,one,bind_return_ok.mpr ⟨tail,more,rfl⟩⟩
  | _ => simp [readRows]

theorem readRows_row (ran : readRows refused read next state items = .ok found) : ∀ row ∈ found, ∃ state item, read state item = .ok row := by
  induction items generalizing state found with
  | nil =>
    cases ran
    intro row member
    cases member
  | cons item rest ih =>
    obtain ⟨row,first,others,-,one,more,rfl⟩ := readRows_cons.mp ran
    intro other member
    rcases List.mem_cons.mp member with rfl | later
    · exact ⟨state,row,one⟩
    · exact ih more other later

theorem readRows_length (ran : readRows refused read next state items = .ok found) : items.length = found.length := by
  induction items generalizing state found with
  | nil =>
    cases ran
    rfl
  | cons item rest ih =>
    obtain ⟨row,first,others,-,one,more,rfl⟩ := readRows_cons.mp ran
    exact congrArg (· + 1) (ih more)

theorem readRows_copies {rows : List Fields} (kept : ∀ state, ∀ row ∈ rows, ∀ first, read state row = .ok first → row.Perm first)
    (ran : readRows refused read next state (rows.map PyVal.dict) = .ok found) : Copies found rows := by
  induction rows generalizing state found with
  | nil =>
    cases ran
    exact List.Forall₂.nil
  | cons row rest ih =>
    obtain ⟨_,first,others,same,one,more,rfl⟩ := readRows_cons.mp ran
    cases same
    exact List.Forall₂.cons (kept state row List.mem_cons_self first one) (ih (fun state later member => kept state later (List.mem_cons_of_mem _ member)) more)

theorem readRows_weaken {loud : PyExc} {easy : σ → Fields → Except PyExc Fields}
    (weaker : ∀ state row first, read state row = .ok first → easy state row = .ok first) (ran : readRows refused read next state items = .ok found) :
    readRows loud easy next state items = .ok found := by
  induction items generalizing state found with
  | nil => exact ran
  | cons item rest ih =>
    obtain ⟨row,first,others,own,one,more,same⟩ := readRows_cons.mp ran
    exact readRows_cons.mpr ⟨row,first,others,own,weaker state row first one,ih more,same⟩

theorem readRows_tidy (reads : ∀ state, Rereads (read state)) (ran : readRows refused read next state items = .ok found) : ∀ row ∈ found, PlainRow row := by
  intro row member
  obtain ⟨other,item,one⟩ := readRows_row ran row member
  exact (reads other).tidy one

-- Rows that were read are read as themselves.
theorem readRows_again (reads : ∀ state, Rereads (read state)) (ran : readRows refused read next state items = .ok found) (copied : Copies found copies) :
    readRows refused read next state (copies.map PyVal.dict) = .ok found := by
  induction items generalizing state found copies with
  | nil =>
    cases ran
    cases copied
    rfl
  | cons item rest ih =>
    obtain ⟨row,first,others,-,one,more,rfl⟩ := readRows_cons.mp ran
    obtain ⟨copy,tail,perm,following,rfl⟩ := List.forall₂_cons_left_iff.mp copied
    rw [List.map_cons]
    exact readRows_cons.mpr ⟨copy,first,others,rfl,(reads state).again one perm,ih more following,rfl⟩

end readers

section distinct
variable {κ : Type} [DecidableEq κ] {refused : PyExc} {read : Fields → Except PyExc Fields} {key : Fields → κ} {seen : List κ}
  {items : List PyVal} {found : List Fields}

-- A row whose key no row before it has
def readNew (refused : PyExc) (read : Fields → Except PyExc Fields) (key : Fields → κ) (seen : List κ) (row : Fields) : Except PyExc Fields := do
  let found ← read row
  require (key found ∉ seen) refused
  return found

theorem readNew_ok {row first : Fields} : readNew refused read key seen row = .ok first ↔ read row = .ok first ∧ key first ∉ seen := by
  unfold readNew
  rw [bind_ok]
  constructor
  · rintro ⟨middle,one,rest⟩
    obtain ⟨_,fresh,same⟩ := bind_ok.mp rest
    cases return_ok.mp same
    exact ⟨one,require_ok.mp fresh⟩
  · rintro ⟨one,fresh⟩
    exact ⟨first,one,bind_ok.mpr ⟨(),require_ok.mpr fresh,rfl⟩⟩

def readDistinct (refused : PyExc) (read : Fields → Except PyExc Fields) (key : Fields → κ) : List κ → List PyVal → Except PyExc (List Fields) :=
  readRows refused (readNew refused read key) fun seen row => seen ++ [key row]

-- The order in which distinct rows come does not matter.
theorem readDistinct_ok : readDistinct refused read key seen items = .ok found ↔
    List.Forall₂ (fun item first => ∃ row, item = .dict row ∧ read row = .ok first) items found ∧ (found.map key).Nodup ∧
      ∀ row ∈ found, key row ∉ seen := by
  unfold readDistinct
  induction items generalizing seen found with
  | nil =>
    rw [List.forall₂_nil_left_iff]
    constructor
    · intro ran
      cases ran
      exact ⟨rfl,List.nodup_nil,fun _ member => nomatch member⟩
    · rintro ⟨rfl,-,-⟩
      rfl
  | cons item rest ih =>
    rw [readRows_cons,List.forall₂_cons_left_iff]
    constructor
    · rintro ⟨row,first,others,own,one,more,rfl⟩
      obtain ⟨read,fresh⟩ := readNew_ok.mp one
      obtain ⟨listed,apart,clear⟩ := ih.mp more
      have unlike : ∀ other ∈ others, key other ≠ key first ∧ key other ∉ seen := by
        intro other member
        have outside := clear other member
        rw [List.mem_append,List.mem_singleton,not_or] at outside
        exact ⟨outside.2,outside.1⟩
      refine ⟨⟨first,others,⟨row,own,read⟩,listed,rfl⟩,List.nodup_cons.mpr ⟨?_,apart⟩,?_⟩
      · rw [List.mem_map]
        rintro ⟨other,member,same⟩
        exact (unlike other member).1 same
      · intro other member
        rcases List.mem_cons.mp member with rfl | later
        · exact fresh
        · exact (unlike other later).2
    · rintro ⟨⟨first,others,⟨row,own,read⟩,listed,rfl⟩,apart,clear⟩
      obtain ⟨alone,apart⟩ := List.nodup_cons.mp apart
      refine ⟨row,first,others,own,readNew_ok.mpr ⟨read,clear first List.mem_cons_self⟩,ih.mpr ⟨listed,apart,?_⟩,rfl⟩
      intro other member outside
      rcases List.mem_append.mp outside with early | last
      · exact clear other (List.mem_cons_of_mem _ member) early
      · exact alone (List.mem_map.mpr ⟨other,member,List.mem_singleton.mp last⟩)

end distinct

end LongBridge
