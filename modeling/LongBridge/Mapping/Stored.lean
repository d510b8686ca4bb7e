import LongBridge.Python.Symbols
import LongBridge.Mapping.Frozen

namespace LongBridge.Mapping
open Effects

-- What freezing leaves of targets and symbols, and what is read back from it.
theorem mem_keys_set {amounts : Amounts} {key name : String} {value : ℚ} :
    name ∈ (amounts.set key value).map Prod.fst ↔ name = key ∨ name ∈ amounts.map Prod.fst := by
  induction amounts with
  | nil => simp [Amounts.set]
  | cons entry rest ih =>
    obtain ⟨other,old⟩ := entry
    unfold Amounts.set
    split
    · rename_i same
      have equal : other = key := by simpa using same
      subst equal; simp
    · rw [List.map_cons,List.map_cons,List.mem_cons,List.mem_cons,ih]; tauto

theorem nodup_keys_set {amounts : Amounts} (key : String) (value : ℚ) (nodup : (amounts.map Prod.fst).Nodup) :
    ((amounts.set key value).map Prod.fst).Nodup := by
  induction amounts with
  | nil => simp [Amounts.set]
  | cons entry rest ih =>
    obtain ⟨other,old⟩ := entry
    rw [List.map_cons,List.nodup_cons] at nodup
    unfold Amounts.set
    split
    · rw [List.map_cons,List.nodup_cons]; exact nodup
    · rename_i unlike
      have apart : other ≠ key := by simpa using unlike
      rw [List.map_cons,List.nodup_cons,mem_keys_set]
      exact ⟨not_or.mpr ⟨apart,nodup.1⟩,ih nodup.2⟩

theorem normalized_keys (targets : Amounts) : (targets.normalized.map Prod.fst).Nodup ∧
    ∀ name ∈ targets.normalized.map Prod.fst, normalizedSymbol name = name := by
  have all : ∀ kept : Amounts, (kept.map Prod.fst).Nodup → (∀ name ∈ kept.map Prod.fst, normalizedSymbol name = name) →
      ((targets.foldl (fun kept entry => kept.set (normalizedSymbol entry.1) entry.2) kept).map Prod.fst).Nodup ∧
        ∀ name ∈ (targets.foldl (fun kept entry => kept.set (normalizedSymbol entry.1) entry.2) kept).map Prod.fst,
          normalizedSymbol name = name := by
    induction targets with
    | nil => exact fun kept nodup plain => ⟨nodup,plain⟩
    | cons entry rest ih =>
      intro kept nodup plain
      rw [List.foldl_cons]
      refine ih _ (nodup_keys_set _ _ nodup) ?_
      intro name member
      rcases mem_keys_set.mp member with rfl | old
      · exact normalizedSymbol_idem _
      · exact plain name old
  exact all [] List.nodup_nil (fun name member => nomatch member)

theorem lookup_jsonEntries {entries copies : Fields} (copied : PyVal.jsonEntries entries = .ok copies) (key : String) :
    match entries.lookup key with
    | some value => ∃ copy, value.jsonCopy = .ok copy ∧ copies.lookup key = some copy
    | none => copies.lookup key = none := by
  induction entries generalizing copies with
  | nil => cases copied; rfl
  | cons entry rest ih =>
    obtain ⟨name,value⟩ := entry
    obtain ⟨copy,one,more⟩ := bind_ok.mp copied
    obtain ⟨others,all,same⟩ := bind_ok.mp more
    cases same
    rw [List.lookup_cons,List.lookup_cons]
    cases key == name with
    | true => exact ⟨copy,one,rfl⟩
    | false => exact ih all

theorem lookup_text_copied {entries copies : Fields} (copied : PyVal.jsonEntries entries = .ok copies) {key text : String}
    (stored : entries.lookup key = some (.str text)) : copies.lookup key = some (.str text) := by
  have read := lookup_jsonEntries copied key
  rw [stored] at read
  obtain ⟨copy,one,found⟩ := read
  cases one
  exact found

theorem lookup_amount_copied {entries copies : Fields} (copied : PyVal.jsonEntries entries = .ok copies) {key text : String}
    {value : PyFloat} (stored : entries.lookup key = some (.float value text)) :
    copies.lookup key = some (.float value text) := by
  have read := lookup_jsonEntries copied key
  rw [stored] at read
  obtain ⟨copy,one,found⟩ := read
  cases one
  exact found

theorem lookup_copied_same {entries others copies more : Fields} (first : PyVal.jsonEntries entries = .ok copies)
    (second : PyVal.jsonEntries others = .ok more) {key : String} (same : entries.lookup key = others.lookup key) :
    copies.lookup key = more.lookup key := by
  have one := lookup_jsonEntries first key
  have two := lookup_jsonEntries second key
  rw [same] at one
  cases found : others.lookup key with
  | none => rw [found] at one two; exact one.trans two.symm
  | some value =>
    rw [found] at one two
    obtain ⟨copy,read,held⟩ := one
    obtain ⟨copyToo,readToo,heldToo⟩ := two
    rw [read] at readToo
    rw [held,heldToo,Except.ok.inj readToo]

-- Freezing raises for what the other fields hold, never for an amount.
theorem frozenExecution_cash {floatText : ℚ → String} {execution : Cycle.Execution} {stored : Fields}
    (frozen : frozenExecution floatText execution = .ok stored) (cash : ℚ) :
    ∃ again, frozenExecution floatText { execution with investableCash := cash } = .ok again := by
  obtain ⟨_,_,rest⟩ := bind_ok.mp frozen
  obtain ⟨_,first,_⟩ := bind_ok.mp rest
  obtain ⟨_,_,rest⟩ := bind_ok.mp first
  obtain ⟨_,second,_⟩ := bind_ok.mp rest
  obtain ⟨_,_,rest⟩ := bind_ok.mp second
  obtain ⟨_,third,_⟩ := bind_ok.mp rest
  obtain ⟨_,_,rest⟩ := bind_ok.mp third
  obtain ⟨fields,copied,_⟩ := bind_ok.mp rest
  have others : PyVal.jsonEntries execution.fields = .ok fields := copied
  unfold frozenExecution executionEntries
  simp only [List.cons_append,List.nil_append,PyVal.jsonEntries,PyVal.jsonCopy,bind,Except.bind,others]
  exact ⟨_,rfl⟩

theorem normalizedTargets_keys (targets : Amounts) : ((Strategy.normalizedTargets targets).map Prod.fst).Nodup ∧
    ∀ entry ∈ Strategy.normalizedTargets targets, normalizedSymbol entry.1 = entry.1 := by
  obtain ⟨nodup,plain⟩ := normalized_keys targets
  have sorted := List.perm_insertionSort (fun one two : String × ℚ => one.1 ≤ two.1)
    (targets.normalized.filter fun entry => entry.1 ≠ "")
  constructor
  · refine ((sorted.map Prod.fst).nodup_iff).mpr ?_
    exact nodup.sublist ((List.filter_sublist).map Prod.fst)
  · intro entry member
    have kept := (List.mem_filter.mp (sorted.mem_iff.mp member)).1
    exact plain entry.1 (List.mem_map_of_mem kept)

theorem normalizedSymbols_plain {symbols : List String} {symbol : String}
    (member : symbol ∈ Strategy.normalizedSymbols symbols) : normalizedSymbol symbol = symbol := by
  have sorted := List.perm_insertionSort (fun one two : String => one ≤ two)
    (distinct ((symbols.map normalizedSymbol).filter (· ≠ "")))
  have kept := (List.mem_filter.mp (mem_distinct.mp (sorted.mem_iff.mp member))).1
  obtain ⟨raw,_,same⟩ := List.mem_map.mp kept
  rw [← same,normalizedSymbol_idem]

theorem lookup_assignRole {symbols : List String} (plain : ∀ symbol ∈ symbols, normalizedSymbol symbol = symbol)
    (role : String) (roles : Fields) (symbol : String) :
    (assignRole role roles (symbols.map .str)).lookup symbol =
      if symbol ∈ symbols then some (.str role) else roles.lookup symbol := by
  unfold assignRole
  induction symbols generalizing roles with
  | nil => simp
  | cons first rest ih =>
    have own : normalizedSymbol (PyVal.str first).text = first := plain first (List.mem_cons_self ..)
    rw [List.map_cons,List.foldl_cons,ih (fun other member => plain other (List.mem_cons_of_mem _ member)),own]
    by_cases same : symbol = first
    · subst same
      simp [Fields.lookup_set_same]
    · simp [Fields.lookup_set_other roles _ same,same]

theorem storedSymbols_list {allocation : Fields} (field : String) {symbols : List String}
    (stored : allocation.get field = .list (symbols.map .str)) :
    storedSymbols allocation field = .ok (symbols.map .str) := by
  unfold storedSymbols
  rw [stored]
  cases symbols <;> rfl

-- One symbol stands under at most one of the three roles.
structure OneRole (allocation : Cycle.Allocation) (symbol : String) : Prop where
  placed : symbol ∈ Strategy.normalizedSymbols allocation.riskSymbols ∨
    symbol ∈ Strategy.normalizedSymbols allocation.incomeSymbols ∨
    symbol ∈ Strategy.normalizedSymbols allocation.safeHavenSymbols
  income : symbol ∈ Strategy.normalizedSymbols allocation.incomeSymbols →
    symbol ∉ Strategy.normalizedSymbols allocation.riskSymbols
  safeHaven : symbol ∈ Strategy.normalizedSymbols allocation.safeHavenSymbols →
    symbol ∉ Strategy.normalizedSymbols allocation.riskSymbols ∧
      symbol ∉ Strategy.normalizedSymbols allocation.incomeSymbols

variable {kit : Strategy.Kit} {allocation : Cycle.Allocation} {roles : Fields}

theorem frozenRoles_lookup (read : frozenRoles (Strategy.frozenAllocation kit allocation) = .ok roles) (symbol : String) :
    roleText (roles.get symbol) =
      if symbol ∈ Strategy.normalizedSymbols allocation.safeHavenSymbols then some "safe_haven"
      else if symbol ∈ Strategy.normalizedSymbols allocation.incomeSymbols then some "income"
      else if symbol ∈ Strategy.normalizedSymbols allocation.riskSymbols then some "risk" else none := by
  have risk := @storedSymbols_list (Strategy.frozenAllocation kit allocation) "risk_symbols" _ rfl
  have income := @storedSymbols_list (Strategy.frozenAllocation kit allocation) "income_symbols" _ rfl
  have safe := @storedSymbols_list (Strategy.frozenAllocation kit allocation) "safe_haven_symbols" _ rfl
  unfold frozenRoles at read
  rw [risk,income,safe] at read
  simp only [bind,Except.bind,pure,Except.pure,Except.ok.injEq] at read
  have plain : ∀ symbols : List String, ∀ symbol ∈ Strategy.normalizedSymbols symbols, normalizedSymbol symbol = symbol :=
    fun symbols symbol member => normalizedSymbols_plain member
  rw [← read,Fields.get,lookup_assignRole (plain _),lookup_assignRole (plain _),lookup_assignRole (plain _)]
  split_ifs <;> rfl

-- The position a stored target is read back as.
def storedPosition (roles : Fields) (entry : String × ℚ) : PositionTarget :=
  ⟨entry.1,none,some entry.2,roleText (roles.get entry.1),none⟩

theorem storedTargets_dict : storedTargets (Strategy.frozenAllocation kit allocation) =
    .ok ((Strategy.normalizedTargets allocation.targets).map fun entry =>
      (entry.1,.float (.finite entry.2) (kit.cycle.gate.floatText entry.2))) := by
  have stored : (Strategy.frozenAllocation kit allocation).get "targets" =
      .dict ((Strategy.normalizedTargets allocation.targets).map fun entry =>
        (entry.1,.float (.finite entry.2) (kit.cycle.gate.floatText entry.2))) := rfl
  unfold storedTargets
  rw [stored]
  cases Strategy.normalizedTargets allocation.targets <;> rfl

theorem frozenDecision_positions {execution annotations : Fields} {decision : StrategyDecision}
    (frozen : frozenDecision (Strategy.frozenAllocation kit allocation) execution annotations roles = .ok decision)
    (position : PositionTarget) :
    position ∈ decision.positions ↔
      ∃ entry ∈ Strategy.normalizedTargets allocation.targets, storedPosition roles entry = position := by
  unfold frozenDecision at frozen
  rw [storedTargets_dict] at frozen
  obtain ⟨targets,read,rest⟩ := bind_ok.mp frozen
  cases read
  obtain ⟨positions,mapped,same⟩ := bind_ok.mp rest
  cases same
  have sorted := List.perm_insertionSort (fun one two : String × PyVal => one.1 ≤ two.1)
    ((Strategy.normalizedTargets allocation.targets).map fun entry =>
      (entry.1,PyVal.float (.finite entry.2) (kit.cycle.gate.floatText entry.2)))
  have one : ∀ entry ∈ Strategy.normalizedTargets allocation.targets,
      frozenPosition roles (entry.1,.float (.finite entry.2) (kit.cycle.gate.floatText entry.2)) =
        .ok (storedPosition roles entry) := by
    intro entry member
    have plain := (normalizedTargets_keys allocation.targets).2 entry member
    rw [frozenPosition,plain]; rfl
  obtain ⟨forward,backward⟩ := mapM_mem mapped
  constructor
  · intro member
    obtain ⟨item,among,read⟩ := backward position member
    obtain ⟨entry,inside,equal⟩ := List.mem_map.mp (sorted.mem_iff.mp among)
    subst equal
    rw [one entry inside] at read
    exact ⟨entry,inside,Except.ok.inj read⟩
  · rintro ⟨entry,inside,rfl⟩
    obtain ⟨result,member,read⟩ := forward _ (sorted.mem_iff.mpr (List.mem_map.mpr ⟨entry,inside,rfl⟩))
    rw [one entry inside] at read
    rw [Except.ok.inj read]
    exact member

end LongBridge.Mapping
