import LongBridge.Observation.Snapshots
import LongBridge.Python.Rows

namespace LongBridge.Observation
open Effects

section checks

theorem instant_ok {value : PyVal} {time : ℤ} (read : instant value = .ok time) : 0 ≤ time ∧ time < lastInstant := by
  unfold instant at read
  split at read
  · split at read
    · split at read
      · rename_i inside
        cases read
        exact inside
      · cases read
    · cases read
  · cases read

-- A time that was read is read again from its text.
theorem instant_isoformat {time : ℤ} (inside : 0 ≤ time ∧ time < lastInstant) : instant (.str (isoformat time)) = .ok time := by
  unfold instant
  dsimp only
  rw [fromisoformat_isoformat inside.1 inside.2]
  dsimp only
  rw [sub_zero,if_pos inside]

-- A check whose results are plain and pass it unchanged
structure Settles (check : PyVal → Except PyExc PyVal) : Prop where
  plain : ∀ value result, check value = .ok result → IsPlain result
  again : ∀ value result, check value = .ok result → check result = .ok result

theorem text_settles (pattern : List Char → Bool) : Settles (text pattern) := by
  have kept : ∀ value result, text pattern value = .ok result → ∃ chars, result = .str chars ∧ text pattern result = .ok result := by
    intro value result checked
    cases value with
    | str chars =>
      unfold text at checked
      dsimp only at checked
      split at checked
      · rename_i holds
        cases checked
        exact ⟨chars,rfl,if_pos holds⟩
      · cases checked
    | _ => cases checked
  constructor
  · intro value result checked
    obtain ⟨chars,rfl,-⟩ := kept value result checked
    trivial
  · intro value result checked
    obtain ⟨chars,-,same⟩ := kept value result checked
    exact same

theorem amount_settles : Settles amount := by
  have kept : ∀ value result, amount value = .ok result → ∃ chars, result = .str chars ∧ amount result = .ok result := by
    intro value result checked
    cases value with
    | str chars =>
      unfold amount at checked
      dsimp only at checked
      split at checked
      · rename_i holds
        cases checked
        exact ⟨chars,rfl,if_pos holds⟩
      · cases checked
    | _ => cases checked
  constructor
  · intro value result checked
    obtain ⟨chars,rfl,-⟩ := kept value result checked
    trivial
  · intro value result checked
    obtain ⟨chars,-,same⟩ := kept value result checked
    exact same

theorem moment_ok {value result : PyVal} (checked : moment value = .ok result) :
    ∃ time, 0 ≤ time ∧ time < lastInstant ∧ result = .str (isoformat time) := by
  obtain ⟨time,read,same⟩ := bind_ok.mp checked
  cases same
  exact ⟨time,(instant_ok read).1,(instant_ok read).2,rfl⟩

theorem moment_isoformat {time : ℤ} (inside : 0 ≤ time ∧ time < lastInstant) : moment (.str (isoformat time)) = .ok (.str (isoformat time)) := by
  unfold moment
  rw [instant_isoformat inside]
  rfl

theorem moment_settles : Settles moment := by
  constructor
  · intro value result checked
    obtain ⟨time,-,-,rfl⟩ := moment_ok checked
    trivial
  · intro value result checked
    obtain ⟨time,positive,bound,rfl⟩ := moment_ok checked
    exact moment_isoformat ⟨positive,bound⟩

theorem isoformat_truthy (time : ℤ) : (PyVal.str (isoformat time)).truthy = true := by
  have some : isoformat time ≠ "" := by
    intro empty
    have chars := congrArg String.toList empty
    unfold isoformat at chars
    simp at chars
  simpa [PyVal.truthy] using some

theorem optionalMoment_settles : Settles optionalMoment := by
  have kept : ∀ value result, optionalMoment value = .ok result → result = .none ∨ ∃ time, 0 ≤ time ∧ time < lastInstant ∧ result = .str (isoformat time) := by
    intro value result checked
    unfold optionalMoment at checked
    split at checked
    · exact Or.inr (moment_ok checked)
    · cases checked
      exact Or.inl rfl
  constructor
  · intro value result checked
    rcases kept value result checked with rfl | ⟨time,-,-,rfl⟩
    · trivial
    · trivial
  · intro value result checked
    rcases kept value result checked with rfl | ⟨time,positive,bound,rfl⟩
    · rfl
    · unfold optionalMoment
      rw [isoformat_truthy,if_pos rfl]
      exact moment_isoformat ⟨positive,bound⟩

-- A list of row fields: each named once, each with a check that settles
structure Regular (fields : RowFields) : Prop where
  names : (fields.map Prod.fst).Nodup
  settles : ∀ field ∈ fields, Settles field.2

theorem regular_cons {name : String} {check : PyVal → Except PyExc PyVal} {fields : RowFields} (fresh : name ∉ fields.map Prod.fst)
    (settles : Settles check) (regular : Regular fields) : Regular ((name,check) :: fields) :=
  ⟨List.nodup_cons.mpr ⟨fresh,regular.names⟩,List.forall_mem_cons.mpr ⟨settles,regular.settles⟩⟩

theorem regular_nil : Regular [] := ⟨List.nodup_nil,fun _ member => nomatch member⟩

theorem cashFields_regular : Regular cashFields :=
  regular_cons (by decide) (text_settles _) (regular_cons (by decide) amount_settles (regular_cons (by decide) amount_settles
    (regular_cons (by decide) amount_settles regular_nil)))

theorem balanceFields_regular : Regular balanceFields :=
  regular_cons (by decide) (text_settles _) (regular_cons (by decide) amount_settles (regular_cons (by decide) amount_settles regular_nil))

theorem positionFields_regular : Regular positionFields :=
  regular_cons (by decide) (text_settles _) (regular_cons (by decide) (text_settles _) (regular_cons (by decide) amount_settles regular_nil))

theorem orderFields_regular : Regular orderFields :=
  regular_cons (by decide) (text_settles _) (regular_cons (by decide) (text_settles _) (regular_cons (by decide) (text_settles _)
    (regular_cons (by decide) (text_settles _) (regular_cons (by decide) (text_settles _) (regular_cons (by decide) amount_settles
      (regular_cons (by decide) amount_settles (regular_cons (by decide) moment_settles (regular_cons (by decide) optionalMoment_settles
        (regular_cons (by decide) (text_settles _) regular_nil)))))))))

end checks

section rows
variable {fields : RowFields} {row found copy : Fields}

-- A row as its check leaves it
structure Normal (fields : RowFields) (row : Fields) : Prop where
  keys : row.map Prod.fst = fields.map Prod.fst
  plain : ∀ entry ∈ row, IsPlain entry.2
  checked : checkedRow fields row = .ok row

theorem checkedRow_entries (checked : checkedRow fields row = .ok found) :
    List.Forall₂ (fun field entry => entry.1 = field.1 ∧ field.2 (row.get field.1) = .ok entry.2) fields found := by
  refine (mapM_ok.mp checked).imp fun field entry read => ?_
  obtain ⟨value,checked,same⟩ := bind_ok.mp read
  cases same
  exact ⟨rfl,checked⟩

theorem checkedRow_of {fields : RowFields} {row found : Fields}
    (entries : List.Forall₂ (fun field entry => entry.1 = field.1 ∧ field.2 (row.get field.1) = .ok entry.2) fields found) :
    checkedRow fields row = .ok found := by
  refine mapM_ok.mpr (entries.imp fun field entry ⟨same,checked⟩ => ?_)
  rw [checked,← same]
  rfl

theorem forall₂_keys {α β : Type} {r : String × α → String × β → Prop} {one : List (String × α)} {two : List (String × β)}
    (related : List.Forall₂ r one two) (names : ∀ first second, r first second → second.1 = first.1) :
    two.map Prod.fst = one.map Prod.fst := by
  induction related with
  | nil => rfl
  | cons head _ ih => exact congrArg₂ List.cons (names _ _ head) ih

-- What a checked row reads under its names
theorem get_checked (names : (found.map Prod.fst).Nodup) {entry : String × PyVal} (member : entry ∈ found) : found.get entry.1 = entry.2 := by
  unfold Fields.get
  rw [lookup_of_mem names member]
  rfl

theorem checkedRow_normal (regular : Regular fields) (checked : checkedRow fields row = .ok found) : Normal fields found := by
  have entries := checkedRow_entries checked
  have keys := forall₂_keys entries fun first second held => held.1
  have names : (found.map Prod.fst).Nodup := by
    rw [keys]
    exact regular.names
  refine ⟨keys,fun entry member => ?_,checkedRow_of ?_⟩
  · obtain ⟨field,listed,-,read⟩ := forall₂_right entries member
    exact (regular.settles field listed).plain _ _ read
  · refine forall₂_mem entries fun field listed entry member ⟨same,read⟩ => ⟨same,?_⟩
    rw [← same,get_checked names member]
    exact (regular.settles field listed).again _ _ read

-- A row with the same entries is checked as that row.
theorem checkedRow_perm (regular : Regular fields) (normal : Normal fields found) (perm : copy.Perm found) : checkedRow fields copy = .ok found := by
  have names : (found.map Prod.fst).Nodup := by
    rw [normal.keys]
    exact regular.names
  refine checkedRow_of ((checkedRow_entries normal.checked).imp fun field entry ⟨same,read⟩ => ⟨same,?_⟩)
  have reads : copy.get field.1 = found.get field.1 := congrArg (fun value => Option.getD value PyVal.none) (lookup_perm names perm field.1)
  rw [reads]
  exact read

theorem mapM_asRow (items : List Fields) : (items.map PyVal.dict).mapM asRow = some items := by
  induction items with
  | nil => rfl
  | cons item rest ih =>
    rw [List.map_cons,List.mapM_cons,ih]
    rfl

theorem rows_copies (regular : Regular fields) {found copies : List Fields} (normal : ∀ row ∈ found, Normal fields row) (short : found.length ≤ 5000)
    (copied : Copies found copies) : rows (rowList copies) fields = .ok found := by
  unfold rows rowList
  dsimp only
  rw [List.length_map,if_neg (by rw [← copied.length_eq]; omega),mapM_asRow]
  refine mapM_ok.mpr ((forall₂_mem copied fun row member copy _ perm => ?_).flip)
  exact checkedRow_perm regular (normal row member) perm

theorem mapM_asRow_length {items : List PyVal} {listed : List Fields} (all : items.mapM asRow = some listed) : listed.length = items.length := by
  induction items generalizing listed with
  | nil =>
    cases all
    rfl
  | cons item rest ih =>
    rw [List.mapM_cons] at all
    obtain ⟨row,-,others⟩ := Option.bind_eq_some_iff.mp all
    obtain ⟨more,found,same⟩ := Option.bind_eq_some_iff.mp others
    cases same
    exact congrArg (· + 1) (ih found)

theorem rows_normal (regular : Regular fields) {raw : PyVal} {found : List Fields} (read : rows raw fields = .ok found) :
    (∀ row ∈ found, Normal fields row) ∧ found.length ≤ 5000 := by
  unfold rows at read
  split at read
  · rename_i items
    split at read
    · cases read
    · rename_i short
      split at read
      · rename_i listed all
        have counted := mapM_asRow_length all
        refine ⟨fun row member => ?_,?_⟩
        · obtain ⟨item,there,checked⟩ := (mapM_mem read).2 row member
          exact checkedRow_normal regular checked
        · rw [← (mapM_ok.mp read).length_eq]
          omega
      · cases read
  · cases read

-- Rows that have been normalised are left as they are, also with their entries in another order.
theorem rows_idempotent (regular : Regular fields) {raw : PyVal} {found copies : List Fields} (read : rows raw fields = .ok found)
    (copied : Copies found copies) : rows (rowList copies) fields = .ok found :=
  rows_copies regular (rows_normal regular read).1 (rows_normal regular read).2 copied

theorem normal_plain (regular : Regular fields) (normal : Normal fields row) : PlainRow row :=
  ⟨by rw [normal.keys]; exact regular.names,normal.plain⟩

theorem same_copies (regular : Regular fields) {found copies : List Fields} (normal : ∀ row ∈ found, Normal fields row)
    (copied : Copies found copies) : PyVal.same (rowList found) (rowList copies) = true :=
  dictList_same (fun row member => normal_plain regular (normal row member)) copied

-- What a store gives back for rows
theorem sorted_rows (regular : Regular fields) {found : List Fields} (normal : ∀ row ∈ found, Normal fields row) :
    (rowList found).jsonSorted = .ok (rowList (found.map sortedByKey)) :=
  dictList_sorted fun row member => normal_plain regular (normal row member)

theorem rowFields_regular : ∀ entry ∈ rowFields, Regular entry.2 := by
  intro entry member
  simp only [rowFields,List.mem_cons,List.not_mem_nil,or_false] at member
  rcases member with rfl | rfl | rfl | rfl | rfl
  · exact cashFields_regular
  · exact balanceFields_regular
  · exact positionFields_regular
  · exact orderFields_regular
  · exact orderFields_regular

-- Rows that were normalised pass unchanged, and so does what the store gives back for them, which is equal to them.
theorem rows_settle {name : String} {raw : PyVal} {found : List Fields} (listed : (name,fields) ∈ rowFields) (read : rows raw fields = .ok found) :
    rows (rowList found) fields = .ok found ∧ ∃ copy, (rowList found).jsonSorted = .ok copy ∧ rows copy fields = .ok found ∧
      PyVal.same (rowList found) copy = true := by
  have regular := rowFields_regular _ listed
  have normal := (rows_normal regular read).1
  refine ⟨rows_idempotent regular read (copies_refl _),_,sorted_rows regular normal,rows_idempotent regular read (copies_sorted _),?_⟩
  exact same_copies regular normal (copies_sorted _)

def rawBalance : Fields := [("note",.int 3),("total_cash",.str "10.50"),("currency",.str "USD"),("net_assets",.str "1e2")]

def readBalance : Fields := [("currency",.str "USD"),("net_assets",.str "1e2"),("total_cash",.str "10.50")]

theorem rawBalance_settles : rows (rowList [readBalance]) balanceFields = .ok [readBalance] ∧
    ∃ copy, (rowList [readBalance]).jsonSorted = .ok copy ∧ rows copy balanceFields = .ok [readBalance] ∧ PyVal.same (rowList [readBalance]) copy = true :=
  rows_settle (List.mem_cons_of_mem _ List.mem_cons_self) (rfl : rows (.list [.dict rawBalance]) balanceFields = .ok [readBalance])

end rows

end LongBridge.Observation
