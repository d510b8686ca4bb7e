import LongBridge.History.Inventory

namespace LongBridge.History
open Effects Reconciliation

section money
variable {refused other : PyExc} {fields seen : List String} {row found : Fields} {rows copies : List Fields} {value : PyVal}

-- What a cell of a checked row holds
def MoneyText (seen : List String) (field : String) (value : PyVal) : Prop :=
  ∃ text, value = .str text ∧ if field = "currency" then isCurrency text = true ∧ text ∉ seen else isDecimalText text = true ∧ decimalFinite text = .ok true

theorem moneyCell_ok {field : String} {cell result : PyVal} :
    moneyCell refused seen field cell = .ok result ↔ result = cell ∧ MoneyText seen field cell := by
  unfold MoneyText
  cases cell with
  | str text =>
    unfold moneyCell
    by_cases named : field = "currency"
    · simp only [if_pos named,bind_ok,require_ok,return_ok]
      constructor
      · rintro ⟨_,held,rfl⟩
        exact ⟨rfl,text,rfl,held⟩
      · rintro ⟨rfl,_,same,held⟩
        cases same
        exact ⟨(),held,rfl⟩
    · simp only [if_neg named,bind_ok,require_ok,return_ok]
      constructor
      · rintro ⟨_,decimal,finite,known,_,rfl,rfl⟩
        exact ⟨rfl,text,rfl,decimal,known⟩
      · rintro ⟨rfl,_,same,decimal,known⟩
        cases same
        exact ⟨(),decimal,true,known,(),rfl,rfl⟩
  | _ =>
    constructor
    · intro ran
      cases ran
    · rintro ⟨_,_,same,_⟩
      cases same

theorem moneyRow_ok : moneyRow refused fields seen row = .ok found ↔
    found = fields.map (fun field => (field,row.get field)) ∧ ∀ field ∈ fields, MoneyText seen field (row.get field) := by
  unfold moneyRow
  rw [mapM_ok]
  induction fields generalizing found with
  | nil =>
    rw [List.forall₂_nil_left_iff]
    exact ⟨fun same => ⟨same,fun _ member => nomatch member⟩,And.left⟩
  | cons field rest ih =>
    rw [List.forall₂_cons_left_iff]
    constructor
    · rintro ⟨entry,others,one,more,rfl⟩
      obtain ⟨same,texts⟩ := ih.mp more
      obtain ⟨cell,checked,own⟩ := bind_return_ok.mp one
      obtain ⟨rfl,text⟩ := moneyCell_ok.mp checked
      refine ⟨by rw [own,same,List.map_cons],fun name member => ?_⟩
      rcases List.mem_cons.mp member with rfl | later
      · exact text
      · exact texts name later
    · rintro ⟨rfl,texts⟩
      refine ⟨(field,row.get field),_,?_,ih.mpr ⟨rfl,fun name member => texts name (List.mem_cons_of_mem _ member)⟩,rfl⟩
      exact bind_return_ok.mpr ⟨_,moneyCell_ok.mpr ⟨rfl,texts field List.mem_cons_self⟩,rfl⟩

theorem get_made {fields : List String} {given : String → PyVal} {field : String} (member : field ∈ fields) :
    Fields.get (fields.map fun name => (name,given name)) field = given field := by
  unfold Fields.get
  induction fields with
  | nil => cases member
  | cons name rest ih =>
    rw [List.map_cons,List.lookup_cons]
    cases same : field == name with
    | true => rw [beq_iff_eq.mp same]; rfl
    | false =>
      refine ih ((List.mem_cons.mp member).resolve_left ?_)
      rintro rfl
      simp at same

theorem moneyRow_rereads (names : fields.Nodup) (seen : List String) : Rereads (moneyRow refused fields seen) := by
  have listed : ∀ row : Fields, ((fields.map fun field => (field,row.get field)).map Prod.fst) = fields := by
    intro row
    rw [List.map_map]
    exact List.map_id _
  constructor
  · intro row found ran
    obtain ⟨rfl,texts⟩ := moneyRow_ok.mp ran
    refine ⟨(listed row).symm ▸ names,fun entry member => ?_⟩
    obtain ⟨field,inside,rfl⟩ := List.mem_map.mp member
    obtain ⟨text,same,_⟩ := texts field inside
    rw [same]
    trivial
  · intro row found copy ran perm
    obtain ⟨rfl,texts⟩ := moneyRow_ok.mp ran
    have reads : ∀ field ∈ fields, copy.get field = row.get field := fun field member =>
      (get_perm ((listed row).symm ▸ names) perm field).trans (get_made member)
    refine moneyRow_ok.mpr ⟨List.map_congr_left fun field member => by rw [reads field member],fun field member => ?_⟩
    rw [reads field member]
    exact texts field member

theorem moneyRows_ok : moneyRows refused fields value = .ok rows ↔ ∃ items : List PyVal, value = .list items ∧ items ≠ [] ∧
    readRows refused (moneyRow refused fields) (fun seen row => seen ++ [currencyOf row]) [] items = .ok rows := by
  unfold moneyRows
  split
  · rename_i items
    split
    · rename_i none
      constructor
      · exact fun ran => nomatch ran
      · rintro ⟨_,same,some,_⟩
        cases same
        exact absurd (List.isEmpty_iff.mp none) some
    · rename_i some
      constructor
      · exact fun ran => ⟨items,rfl,fun none => some (List.isEmpty_iff.mpr none),ran⟩
      · rintro ⟨_,same,_,ran⟩
        cases same
        exact ran
  · rename_i unlisted
    constructor
    · exact fun ran => nomatch ran
    · rintro ⟨items,rfl,_⟩
      exact absurd rfl (unlisted items)

-- Rows that one of the two programs has checked are taken by the other as they are.
theorem moneyRows_again (names : fields.Nodup) (ran : moneyRows refused fields value = .ok rows) (copied : Copies rows copies) :
    moneyRows other fields (dictList copies) = .ok rows := by
  obtain ⟨items,-,some,read⟩ := moneyRows_ok.mp ran
  refine moneyRows_ok.mpr ⟨_,rfl,?_,readRows_weaken (fun state row found one => ?_) (readRows_again (moneyRow_rereads names) read copied)⟩
  · rw [ne_eq,List.map_eq_nil_iff]
    rintro rfl
    exact some (List.length_eq_zero_iff.mp ((readRows_length read).trans copied.length_eq))
  · exact moneyRow_ok.mpr (moneyRow_ok.mp one)

theorem moneyRows_tidy (names : fields.Nodup) (ran : moneyRows refused fields value = .ok rows) : ∀ row ∈ rows, PlainRow row := by
  obtain ⟨items,-,_,read⟩ := moneyRows_ok.mp ran
  exact readRows_tidy (moneyRow_rereads names) read

end money

section positions
variable {item found : Fields} {rows copies : List Fields} {value : PyVal}

def heldRow (symbol currency quantity : String) (cost : Option String) : Fields :=
  [("symbol",.str symbol),("quantity",.str quantity),("currency",.str currency),("market_value",.none)] ++ costEntries cost

structure PositionText (symbol currency quantity : String) (cost : Option String) : Prop where
  named : isPositionSymbol symbol = true
  coded : isCurrency currency = true
  decimal : isDecimalText quantity = true
  short : (splitQuantity quantity).within 15 8 = true
  finite : decimalFinite quantity = .ok true
  native : ∀ text ∈ cost, isNativeDetail text = true

-- The cost that an item states, if it states one
def StatesCost (item : Fields) : Option String → Prop
  | none => (item.has "broker_cost_price" || item.has "broker_cost_method") = false
  | some cost => item.get "broker_cost_price" = .str cost ∧ (item.get "broker_cost_method").isStr "broker_configured" = true

theorem has_of_get {key text : String} (found : item.get key = .str text) : item.has key = true := congrArg Option.isSome (lookup_of_get found)

theorem costText_ok {text cost : String} : costText text = some cost ↔ text = cost ∧ isNativeDetail text = true := by
  unfold costText
  split
  · rename_i held
    exact ⟨fun same => ⟨Option.some.inj same,held⟩,fun ⟨same,_⟩ => congrArg some same⟩
  · rename_i wrong
    exact ⟨fun same => (nomatch same),fun ⟨_,held⟩ => absurd held wrong⟩

theorem independentPosition_ok : independentPosition item = .ok found ↔ ∃ symbol currency quantity cost, PositionText symbol currency quantity cost ∧
    item.get "symbol" = .str symbol ∧ item.get "currency" = .str currency ∧ item.get "quantity" = .str quantity ∧ StatesCost item cost ∧
      found = heldRow symbol currency quantity cost := by
  have native : ∀ cost, (projectBrokerCostPrice (.other (.str cost))).isSome = true ↔ isNativeDetail cost = true := by
    intro cost
    rw [Option.isSome_iff_exists]
    constructor
    · rintro ⟨_,found⟩
      exact (costText_ok.mp found).2
    · intro held
      exact ⟨cost,costText_ok.mpr ⟨rfl,held⟩⟩
  unfold independentPosition
  split
  · rename_i symbol currency quantity first second third
    simp only [bind_ok,require_ok]
    constructor
    · rintro ⟨_,⟨named,coded,decimal⟩,_,short,finite,known,_,rfl,rest⟩
      split at rest
      · split at rest
        · rename_i cost priced
          obtain ⟨_,checked,same⟩ := bind_ok.mp rest
          obtain ⟨proper,configured⟩ := require_ok.mp checked
          refine ⟨symbol,currency,quantity,some cost,⟨named,coded,decimal,short,known,?_⟩,first,second,third,⟨priced,configured⟩,(return_ok.mp same).symm⟩
          rintro _ ⟨⟩
          exact (native cost).mp proper
        · cases rest
      · rename_i free
        refine ⟨symbol,currency,quantity,none,⟨named,coded,decimal,short,known,?_⟩,first,second,third,Bool.eq_false_iff.mpr free,
          (return_ok.mp rest).symm⟩
        rintro _ ⟨⟩
    · rintro ⟨_,_,_,cost,text,one,two,three,stated,rfl⟩
      cases first.symm.trans one
      cases second.symm.trans two
      cases third.symm.trans three
      refine ⟨(),⟨text.named,text.coded,text.decimal⟩,(),text.short,true,text.finite,(),rfl,?_⟩
      cases cost with
      | none =>
        rw [if_neg (Bool.eq_false_iff.mp stated)]
        rfl
      | some cost =>
        obtain ⟨priced,configured⟩ := stated
        rw [if_pos (by rw [has_of_get priced]; rfl),priced]
        exact bind_ok.mpr ⟨(),require_ok.mpr ⟨(native cost).mpr (text.native cost rfl),configured⟩,rfl⟩
  · rename_i unread
    constructor
    · intro ran
      cases ran
    · rintro ⟨symbol,currency,quantity,cost,_,one,two,three,_⟩
      exact absurd three (unread symbol currency quantity one two)

theorem heldRow_names (symbol currency quantity : String) (cost : Option String) : ((heldRow symbol currency quantity cost).map Prod.fst).Nodup := by
  cases cost <;> simp [heldRow,costEntries]

theorem heldRow_reads {symbol currency quantity : String} {cost : Option String} (text : PositionText symbol currency quantity cost)
    (perm : item.Perm (heldRow symbol currency quantity cost)) : independentPosition item = .ok (heldRow symbol currency quantity cost) := by
  have names := heldRow_names symbol currency quantity cost
  have get := get_perm names perm
  have has : ∀ key, item.has key = (heldRow symbol currency quantity cost).has key := fun key => congrArg Option.isSome (lookup_perm names perm key)
  refine independentPosition_ok.mpr ⟨symbol,currency,quantity,cost,text,get _,get _,get _,?_,rfl⟩
  cases cost with
  | none =>
    unfold StatesCost
    rw [has,has]
    rfl
  | some cost => exact ⟨get _,by rw [get]; rfl⟩

theorem independentPosition_rereads : Rereads independentPosition := by
  constructor
  · intro row found ran
    obtain ⟨symbol,currency,quantity,cost,_,_,_,_,_,rfl⟩ := independentPosition_ok.mp ran
    refine ⟨heldRow_names symbol currency quantity cost,fun entry member => ?_⟩
    cases cost with
    | none =>
      simp only [heldRow,costEntries,List.append_nil,List.mem_cons,List.not_mem_nil,or_false] at member
      rcases member with rfl | rfl | rfl | rfl <;> trivial
    | some cost =>
      simp only [heldRow,costEntries,List.cons_append,List.nil_append,List.mem_cons,List.not_mem_nil,or_false] at member
      rcases member with rfl | rfl | rfl | rfl | rfl | rfl <;> trivial
  · intro row found copy ran perm
    obtain ⟨symbol,currency,quantity,cost,text,_,_,_,_,rfl⟩ := independentPosition_ok.mp ran
    exact heldRow_reads text perm

theorem independentPositionRows_ok : independentPositionRows value = .ok rows ↔ ∃ items read, value = .list items ∧ items.length ≤ maxPositions ∧
    List.Forall₂ (fun item first => ∃ row, item = PyVal.dict row ∧ independentPosition row = .ok first) items read ∧
      (read.map symbolOf).Nodup ∧ rows = read.insertionSort (byKey inventoryKey) := by
  unfold independentPositionRows
  split
  · rename_i items
    split
    · rename_i many
      constructor
      · exact fun ran => nomatch ran
      · rintro ⟨_,_,same,few,_⟩
        cases same
        exact absurd few (not_le.mpr many)
    · rename_i few
      rw [bind_return_ok]
      constructor
      · rintro ⟨read,distinct,rfl⟩
        obtain ⟨listed,apart,_⟩ := readDistinct_ok.mp distinct
        exact ⟨items,read,rfl,not_lt.mp few,listed,apart,rfl⟩
      · rintro ⟨_,read,same,_,listed,apart,rfl⟩
        cases same
        exact ⟨read,readDistinct_ok.mpr ⟨listed,apart,fun _ _ seen => nomatch seen⟩,rfl⟩
  · rename_i unlisted
    constructor
    · exact fun ran => nomatch ran
    · rintro ⟨items,_,rfl,_⟩
      exact absurd rfl (unlisted items)

theorem inventoryKey_nodup (apart : (rows.map symbolOf).Nodup) : (rows.map inventoryKey).Nodup := by
  refine List.Nodup.of_map (fun key => (ofLex key).2) ?_
  rw [List.map_map]
  exact apart

-- Rows that are in their order already
theorem positions_listed {items : List PyVal} (few : items.length ≤ maxPositions)
    (listed : List.Forall₂ (fun item first => ∃ row, item = PyVal.dict row ∧ independentPosition row = .ok first) items rows)
    (apart : (rows.map symbolOf).Nodup) (rising : (rows.map inventoryKey).Pairwise (· < ·)) : independentPositionRows (.list items) = .ok rows :=
  independentPositionRows_ok.mpr ⟨items,rows,rfl,few,listed,apart,(insertionSort_rising rising).symm⟩

theorem positions_again (ran : independentPositionRows value = .ok rows) (copied : Copies rows copies) :
    independentPositionRows (dictList copies) = .ok rows := by
  obtain ⟨items,read,-,few,listed,apart,rfl⟩ := independentPositionRows_ok.mp ran
  have perm := List.perm_insertionSort (byKey inventoryKey) read
  refine positions_listed ?_ ?_ ((perm.map symbolOf).nodup_iff.mpr apart) (sorted_rising (inventoryKey_nodup apart))
  · rw [List.length_map,← copied.length_eq,perm.length_eq,← listed.length_eq]
    exact few
  · refine List.forall₂_map_left_iff.mpr (forall₂_mem copied.flip fun copy _ row member moved => ⟨copy,rfl,?_⟩)
    obtain ⟨item,_,source,_,one⟩ := forall₂_right listed (perm.subset member)
    exact independentPosition_rereads.again one moved

theorem positions_tidy (ran : independentPositionRows value = .ok rows) : ∀ row ∈ rows, PlainRow row := by
  obtain ⟨items,read,-,_,listed,_,rfl⟩ := independentPositionRows_ok.mp ran
  intro row member
  obtain ⟨item,_,source,_,one⟩ := forall₂_right listed ((List.perm_insertionSort (byKey inventoryKey) read).subset member)
  exact independentPosition_rereads.tidy one

end positions

end LongBridge.History
