import LongBridge.History.Kept

namespace LongBridge.History
open Effects Reconciliation

theorem foldlM_option {α σ : Type} {step : σ → α → Option σ} {keep : σ → Prop} {items : List α}
    (kept : ∀ state item next, item ∈ items → keep state → step state item = some next → keep next)
    {before after : σ} (start : keep before) (ran : items.foldlM step before = some after) : keep after := by
  induction items generalizing before with
  | nil =>
    cases ran
    exact start
  | cons item rest ih =>
    rw [List.foldlM_cons] at ran
    obtain ⟨middle,one,others⟩ := Option.bind_eq_some_iff.mp ran
    exact ih (fun state later next member => kept state later next (List.mem_cons_of_mem _ member)) (kept _ _ _ List.mem_cons_self start one) others

section positions
variable {rows next copies : List Fields} {native : NativePosition} {channels : Option (List (Option (List NativePosition)))}

-- An inventory as the cycle projects it
structure ProjectedInventory (rows : List Fields) : Prop where
  rowTexts : ∀ row ∈ rows, ∃ symbol currency quantity cost, PositionText symbol currency quantity cost ∧
    row = positionEntries symbol currency quantity ++ costEntries cost
  apart : (rows.map symbolOf).Nodup
  few : rows.length ≤ maxPositions

theorem projectedCost_native {value : NativeValue} {cost : String} (found : projectBrokerCostPrice value = some cost) : isNativeDetail cost = true := by
  have own : ∀ text, costText text = some cost → isNativeDetail cost = true := by
    intro text same
    obtain ⟨rfl,held⟩ := costText_ok.mp same
    exact held
  unfold projectBrokerCostPrice at found
  split at found
  · split at found
    · cases found
    · exact own _ found
  · exact own _ found
  · cases found

theorem normalizePosition_quantity {position : BrokerPosition} {record : PositionRecord} (ran : normalizePosition "" position = .ok record) :
    isDecimalText record.quantity = true ∧ decimalFinite record.quantity = .ok true := by
  unfold normalizePosition at ran
  dsimp only at ran
  split at ran
  · cases ran
  · obtain ⟨quantity,shown,same⟩ := bind_return_ok.mp ran
    rw [same]
    exact decimalText_decimal shown

theorem addPosition_keeps (inventory : ProjectedInventory rows) (added : addPosition rows native = some next) : ProjectedInventory next := by
  unfold addPosition at added
  split at added
  · cases added
  · rename_i record normal
    split at added
    · rename_i accepted
      simp only [Bool.and_eq_true,Bool.not_eq_true',decide_eq_true_eq,← Bool.not_eq_true,List.contains_iff_mem] at accepted
      obtain ⟨⟨⟨⟨named,coded⟩,short⟩,fresh⟩,room⟩ := accepted
      obtain ⟨decimal,finite⟩ := normalizePosition_quantity normal
      cases added
      refine ⟨fun row member => ?_,?_,?_⟩
      · rcases List.mem_append.mp member with old | new
        · exact inventory.rowTexts row old
        · exact ⟨_,_,_,_,⟨named,coded,decimal,short,finite,fun cost found => projectedCost_native found⟩,List.mem_singleton.mp new⟩
      · rw [List.map_append,List.map_singleton]
        exact List.Nodup.append inventory.apart (List.nodup_singleton _) (List.disjoint_singleton.mpr fresh)
      · rw [List.length_append,List.length_singleton]
        exact room
    · cases added

theorem projected_inventory (projected : projectCycleStockPositions channels = some rows) :
    ∃ listed, ProjectedInventory listed ∧ rows = listed.insertionSort (byKey inventoryKey) := by
  unfold projectCycleStockPositions at projected
  obtain ⟨open_,_,rest⟩ := Option.bind_eq_some_iff.mp projected
  obtain ⟨listed,walked,same⟩ := Option.bind_eq_some_iff.mp rest
  have empty : ProjectedInventory [] := ⟨fun row member => (nomatch member),List.nodup_nil,Nat.zero_le _⟩
  refine ⟨listed,foldlM_option (fun state positions later _ kept ran => ?_) empty walked,(Option.some.inj same).symm⟩
  obtain ⟨natives,_,steps⟩ := Option.bind_eq_some_iff.mp ran
  exact foldlM_option (fun state native next _ kept added => addPosition_keeps kept added) kept steps

-- The row that a projected position is checked as has its entries.
theorem projectedRow_read {symbol currency quantity : String} {cost : Option String} (text : PositionText symbol currency quantity cost) {copy : Fields}
    (perm : copy.Perm (positionEntries symbol currency quantity ++ costEntries cost)) :
    independentPosition copy = .ok (heldRow symbol currency quantity cost) ∧ copy.Perm (heldRow symbol currency quantity cost) := by
  have swapped : (positionEntries symbol currency quantity ++ costEntries cost).Perm (heldRow symbol currency quantity cost) :=
    List.Perm.append_right _ (List.Perm.cons _ (List.Perm.swap ..))
  exact ⟨heldRow_reads text (perm.trans swapped),perm.trans swapped⟩

-- What the cycle projects of an inventory passes the check of the producer, row by row and entry by entry.
theorem projected_positions_kept (projected : projectCycleStockPositions channels = some rows) (copied : Copies rows copies) :
    ∃ found, independentPositionRows (dictList copies) = .ok found ∧ Copies found copies := by
  obtain ⟨listed,inventory,rfl⟩ := projected_inventory projected
  have perm := List.perm_insertionSort (byKey inventoryKey) listed
  have rising := sorted_rising (inventoryKey_nodup inventory.apart)
  have apart := (perm.map symbolOf).nodup_iff.mpr inventory.apart
  have read : ∀ rows copies : List Fields, Copies rows copies → (∀ row ∈ rows, row ∈ listed) →
      ∃ found, List.Forall₂ (fun item first => ∃ row, item = PyVal.dict row ∧ independentPosition row = .ok first) (copies.map PyVal.dict) found ∧
        Copies found copies ∧ found.map symbolOf = rows.map symbolOf ∧ found.map inventoryKey = rows.map inventoryKey := by
    intro rows copies copied inside
    induction copied with
    | nil => exact ⟨[],List.Forall₂.nil,List.Forall₂.nil,rfl,rfl⟩
    | @cons row copy rest others moved _ ih =>
      obtain ⟨found,reads,same,symbols,keys⟩ := ih fun other member => inside other (List.mem_cons_of_mem _ member)
      obtain ⟨symbol,currency,quantity,cost,text,rfl⟩ := inventory.rowTexts row (inside row List.mem_cons_self)
      obtain ⟨one,entries⟩ := projectedRow_read text moved
      exact ⟨_,List.Forall₂.cons ⟨copy,rfl,one⟩ reads,List.Forall₂.cons entries same,congrArg (List.cons symbol) symbols,
        congrArg (List.cons (toLex (currency,symbol))) keys⟩
  obtain ⟨found,reads,same,symbols,keys⟩ := read _ _ copied fun row member => perm.subset member
  refine ⟨found,positions_listed ?_ reads (symbols ▸ apart) (keys ▸ rising),same⟩
  rw [List.length_map,← copied.length_eq,perm.length_eq]
  exact inventory.few

def nativeStock : NativePosition := ⟨⟨.str "700.HK",.str "hkd",.int 200⟩,.other (.str "310.5")⟩

def foreignStock : NativePosition := ⟨⟨.str "AAPL.US",.str "USD",.int 3⟩,.other .none⟩

def stockEntries : Fields := positionEntries "700.HK" "HKD" "200" ++ costEntries (some "310.5")

def foreignEntries : Fields := positionEntries "AAPL.US" "USD" "3" ++ costEntries none

-- The broker's order is another one than that of the inventory.
theorem nativeStock_kept : ∃ found, independentPositionRows (dictList [stockEntries.reverse,foreignEntries.reverse]) = .ok found ∧
    Copies found [stockEntries.reverse,foreignEntries.reverse] := by
  have projected : projectCycleStockPositions (some [some [foreignStock],some [nativeStock]]) = some [stockEntries,foreignEntries] := rfl
  exact projected_positions_kept projected (.cons (List.reverse_perm _) (.cons (List.reverse_perm _) .nil))

end positions

section balances
variable {refused : PyExc} {fields : List String} {rows copies : List Fields}

-- Rows of distinct currencies whose amounts are decimal texts
structure AmountRows (fields : List String) (rows : List Fields) : Prop where
  built : ∀ row ∈ rows, row = fields.map fun field => (field,row.get field)
  coded : ∀ row ∈ rows, row.get "currency" = .str (currencyOf row)
  amounts : ∀ row ∈ rows, ∀ field ∈ fields, field ≠ "currency" → ∃ text, row.get field = .str text ∧ isDecimalText text = true ∧ decimalFinite text = .ok true
  apart : (rows.map currencyOf).Nodup

theorem amountRow_text (listed : "currency" ∈ fields) (amounts : AmountRows fields rows) {row : Fields} (member : row ∈ rows) {seen : List String} :
    (∀ field ∈ fields, MoneyText seen field (row.get field)) ↔ isCurrency (currencyOf row) = true ∧ currencyOf row ∉ seen := by
  constructor
  · intro texts
    obtain ⟨text,same,held⟩ := texts "currency" listed
    rw [if_pos rfl] at held
    cases (amounts.coded row member).symm.trans same
    exact held
  · intro own field inside
    by_cases named : field = "currency"
    · subst named
      exact ⟨_,amounts.coded row member,by rw [if_pos rfl]; exact own⟩
    · obtain ⟨text,same,held⟩ := amounts.amounts row member field inside named
      exact ⟨text,same,by rw [if_neg named]; exact held⟩

theorem amountRows_read (listed : "currency" ∈ fields) {seen : List String} (amounts : AmountRows fields rows)
    (fresh : ∀ row ∈ rows, currencyOf row ∉ seen) (coded : ∀ row ∈ rows, isCurrency (currencyOf row) = true) :
    readRows refused (moneyRow refused fields) (fun seen row => seen ++ [currencyOf row]) seen (rows.map PyVal.dict) = .ok rows := by
  induction rows generalizing seen with
  | nil => rfl
  | cons row rest ih =>
    obtain ⟨alone,apart⟩ := List.nodup_cons.mp amounts.apart
    have later : ∀ other ∈ rest, other ∈ row :: rest := fun other member => List.mem_cons_of_mem _ member
    rw [List.map_cons]
    refine readRows_cons.mpr ⟨row,row,rest,rfl,moneyRow_ok.mpr ⟨amounts.built row List.mem_cons_self,?_⟩,?_,rfl⟩
    · exact (amountRow_text listed amounts List.mem_cons_self).mpr ⟨coded row List.mem_cons_self,fresh row List.mem_cons_self⟩
    · refine ih ⟨fun other member => amounts.built other (later other member),fun other member => amounts.coded other (later other member),
        fun other member => amounts.amounts other (later other member),apart⟩ (fun other member seen => ?_) fun other member => coded other (later other member)
      rcases List.mem_append.mp seen with old | last
      · exact fresh other (later other member) old
      · exact alone (List.mem_map.mpr ⟨other,member,List.mem_singleton.mp last⟩)

-- Such rows pass the check just where every currency is a code.
theorem amountRows_iff (names : fields.Nodup) (listed : "currency" ∈ fields) (amounts : AmountRows fields rows) (copied : Copies rows copies) :
    (∃ found, moneyRows refused fields (dictList copies) = .ok found) ↔ rows ≠ [] ∧ ∀ row ∈ rows, isCurrency (currencyOf row) = true := by
  constructor
  · rintro ⟨found,ran⟩
    obtain ⟨_,same,some,read⟩ := moneyRows_ok.mp ran
    cases same
    have filled : rows ≠ [] := by
      rintro rfl
      exact some (by rw [List.forall₂_nil_left_iff.mp copied]; rfl)
    refine ⟨filled,?_⟩
    have codes : ∀ (seen : List String) (copies rows found : List Fields), Copies rows copies → (∀ row ∈ rows, (row.map Prod.fst).Nodup) →
        (∀ row ∈ rows, row.get "currency" = .str (currencyOf row)) →
        readRows refused (moneyRow refused fields) (fun seen row => seen ++ [currencyOf row]) seen (copies.map PyVal.dict) = .ok found →
          ∀ row ∈ rows, isCurrency (currencyOf row) = true := by
      intro seen copies rows found copied tidy coded read
      induction copied generalizing seen found with
      | nil => exact fun _ member => nomatch member
      | @cons row copy rest others perm _ ih =>
        obtain ⟨_,first,tail,same,one,more,rfl⟩ := readRows_cons.mp read
        cases same
        intro other member
        rcases List.mem_cons.mp member with rfl | later
        · obtain ⟨text,same,held⟩ := (moneyRow_ok.mp one).2 "currency" listed
          rw [if_pos rfl] at held
          rw [get_perm (tidy _ List.mem_cons_self) perm,coded _ List.mem_cons_self] at same
          cases same
          exact held.1
        · exact ih _ _ (fun other member => tidy other (List.mem_cons_of_mem _ member)) (fun other member => coded other (List.mem_cons_of_mem _ member))
            more other later
    refine codes [] copies rows found copied (fun row member => ?_) amounts.coded read
    rw [amounts.built row member,List.map_map]
    exact (List.map_id _).symm ▸ names
  · rintro ⟨some,coded⟩
    have read : readRows refused (moneyRow refused fields) (fun seen row => seen ++ [currencyOf row]) [] (rows.map PyVal.dict) = .ok rows :=
      amountRows_read listed amounts (fun row member seen => (nomatch seen)) coded
    have ran : moneyRows refused fields (dictList rows) = .ok rows := moneyRows_ok.mpr ⟨_,rfl,by rwa [ne_eq,List.map_eq_nil_iff],read⟩
    exact ⟨rows,moneyRows_again names ran copied⟩

end balances

end LongBridge.History
