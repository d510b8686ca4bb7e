import LongBridge.Mapping.FrozenPlan

namespace LongBridge.Mapping
open Effects

-- The vendored kit reads and copies as the mapper relies on.
section Reading

variable {decision twin : StrategyDecision}

theorem getOr_alike (alike : Alike decision twin) {key : String} (inner : key ≠ "investable_cash")
    (outer : key ≠ "execution_annotations") :
    (annotationsIn twin.diagnostics).getOr key (twin.diagnostics.get key) =
      (annotationsIn decision.diagnostics).getOr key (decision.diagnostics.get key) := by
  rw [Fields.getOr,Fields.getOr,alike.diagnostics.inside key inner,alike.diagnostics.get key outer]

theorem pickText_alike (alike : Alike decision twin) {keys : List String}
    (apart : ∀ key ∈ keys, key ≠ "investable_cash" ∧ key ≠ "execution_annotations") :
    pickText (annotationsIn twin.diagnostics) twin.diagnostics keys =
      pickText (annotationsIn decision.diagnostics) decision.diagnostics keys := by
  induction keys with
  | nil => rfl
  | cons key rest ih =>
    obtain ⟨inner,outer⟩ := apart key (List.mem_cons_self ..)
    rw [pickText,pickText,getOr_alike alike inner outer,
      ih fun other member => apart other (List.mem_cons_of_mem _ member)]

theorem pickNumber_alike (alike : Alike decision twin) {keys : List String}
    (apart : ∀ key ∈ keys, key ≠ "investable_cash" ∧ key ≠ "execution_annotations") :
    pickNumber (annotationsIn twin.diagnostics) twin.diagnostics keys =
      pickNumber (annotationsIn decision.diagnostics) decision.diagnostics keys := by
  induction keys with
  | nil => rfl
  | cons key rest ih =>
    obtain ⟨inner,outer⟩ := apart key (List.mem_cons_self ..)
    rw [pickNumber,pickNumber,getOr_alike alike inner outer,
      ih fun other member => apart other (List.mem_cons_of_mem _ member)]

theorem pickNumber_stated {annotations diagnostics : Fields} {key text : String} {value : ℚ} {rest : List String}
    (stated : annotations.get key = .float (.finite value) text) :
    pickNumber annotations diagnostics (key :: rest) = .ok (some value) := by
  have held : annotations.getOr key (diagnostics.get key) = .float (.finite value) text := by
    rw [Fields.get] at stated
    rw [Fields.getOr]
    cases found : annotations.lookup key with
    | none => rw [found] at stated; cases stated
    | some held => rw [found] at stated; exact stated
  rw [pickNumber,held]

theorem pickText_stated {annotations diagnostics : Fields} {key text : String} (stated : annotations.get key = .str text) :
    strip ((pickText annotations diagnostics [key]).getD "") = strip text := by
  have held : annotations.getOr key (diagnostics.get key) = .str text := by
    rw [Fields.get] at stated
    rw [Fields.getOr]
    cases found : annotations.lookup key with
    | none => rw [found] at stated; cases stated
    | some held => rw [found] at stated; exact stated
  rw [pickText,held]
  change strip ((if strip text = "" then pickText annotations diagnostics [] else some (strip text)).getD "") = strip text
  by_cases bare : strip text = ""
  · rw [if_pos bare,bare]; rfl
  · rw [if_neg bare,Option.getD_some,strip_idem]

theorem pickedNumbers_alike (alike : Alike decision twin) {one two : ℚ} {text more : String} {numbers : PickedNumbers}
    (first : (annotationsIn decision.diagnostics).get "investable_cash" = .float (.finite one) text)
    (second : (annotationsIn twin.diagnostics).get "investable_cash" = .float (.finite two) more)
    (ran : pickedNumbers (annotationsIn decision.diagnostics) decision.diagnostics = .ok numbers) :
    numbers.investableCash = some one ∧ pickedNumbers (annotationsIn twin.diagnostics) twin.diagnostics =
      .ok { numbers with investableCash := some two } := by
  have same : ∀ {keys : List String}, (∀ key ∈ keys, key ≠ "investable_cash" ∧ key ≠ "execution_annotations") →
      pickNumber (annotationsIn twin.diagnostics) twin.diagnostics keys =
        pickNumber (annotationsIn decision.diagnostics) decision.diagnostics keys := fun apart => pickNumber_alike alike apart
  obtain ⟨threshold,readOne,rest⟩ := bind_ok.mp ran
  obtain ⟨reserved,readTwo,rest⟩ := bind_ok.mp rest
  obtain ⟨delay,readThree,rest⟩ := bind_ok.mp rest
  obtain ⟨benchmarkPrice,readFour,rest⟩ := bind_ok.mp rest
  obtain ⟨longTrendValue,readFive,rest⟩ := bind_ok.mp rest
  obtain ⟨exitLine,readSix,rest⟩ := bind_ok.mp rest
  obtain ⟨currentMinTrade,readSeven,rest⟩ := bind_ok.mp rest
  obtain ⟨investableCash,readEight,equal⟩ := bind_ok.mp rest
  rw [return_ok] at equal
  subst equal
  rw [pickNumber_stated first,Except.ok.injEq] at readEight
  refine ⟨readEight.symm,?_⟩
  rw [← same (by decide)] at readOne readTwo readThree readFour readFive readSix readSeven
  exact bind_ok.mpr ⟨_,readOne,bind_ok.mpr ⟨_,readTwo,bind_ok.mpr ⟨_,readThree,bind_ok.mpr ⟨_,readFour,bind_ok.mpr
    ⟨_,readFive,bind_ok.mpr ⟨_,readSix,bind_ok.mpr ⟨_,readSeven,bind_ok.mpr ⟨_,pickNumber_stated second,rfl⟩⟩⟩⟩⟩⟩⟩⟩

theorem pickedAnnotations_alike (alike : Alike decision twin) (numbers : PickedNumbers) (threshold cash : ℚ) :
    pickedAnnotations (annotationsIn twin.diagnostics) twin.diagnostics { numbers with investableCash := some cash } threshold =
      { pickedAnnotations (annotationsIn decision.diagnostics) decision.diagnostics numbers threshold with
        investableCash := some cash } := by
  have same : ∀ {keys : List String}, (∀ key ∈ keys, key ≠ "investable_cash" ∧ key ≠ "execution_annotations") →
      pickText (annotationsIn twin.diagnostics) twin.diagnostics keys =
        pickText (annotationsIn decision.diagnostics) decision.diagnostics keys := fun apart => pickText_alike alike apart
  unfold pickedAnnotations
  simp only [Annotations.mk.injEq,true_and,and_true]
  refine ⟨same ?_,same ?_,same ?_,same ?_,same ?_,same ?_,same ?_,same ?_,same ?_,same ?_,same ?_,same ?_,same ?_⟩ <;> decide

theorem executionAnnotations_parts {annotations : Annotations} (ran : executionAnnotations decision = .ok annotations) :
    ∃ numbers threshold, pickedNumbers (annotationsIn decision.diagnostics) decision.diagnostics = .ok numbers ∧
      numbers.threshold = some threshold ∧
      annotations = pickedAnnotations (annotationsIn decision.diagnostics) decision.diagnostics numbers threshold := by
  obtain ⟨numbers,read,rest⟩ := bind_ok.mp ran
  cases found : numbers.threshold with
  | none => rw [found] at rest; cases rest
  | some threshold => rw [found] at rest; cases rest; exact ⟨numbers,threshold,read,found,rfl⟩

end Reading

theorem vendoredKit_fieldByField : FieldByField vendoredKit := by
  constructor
  · intro decision twin alike
    simp only [vendoredKit,decisionTargetMode,alike.positions]
  · intro decision twin equity values alike translated
    simp only [vendoredKit,translateToValues] at translated ⊢
    split_ifs at translated with poor
    cases translated
    rw [if_neg poor]
    exact ⟨_,rfl,⟨by rw [alike.positions],alike.budgets,alike.riskFlags,alike.diagnostics⟩⟩
  · intro decision twin profile inputs annotations layout alike
    simp only [vendoredKit,valueTargetRuntimePlan,alike.positions]
  · intro decision profile inputs annotations layout plan built cash
    simp only [vendoredKit,valueTargetRuntimePlan] at built ⊢
    split_ifs at built ⊢
    cases built
    rfl
  · intro decision twin annotations one two text more alike first second stated
    obtain ⟨numbers,threshold,read,found,rfl⟩ := executionAnnotations_parts stated
    obtain ⟨own,again⟩ := pickedNumbers_alike alike first second read
    refine ⟨own,bind_ok.mpr ⟨_,again,?_⟩⟩
    simp only [found]
    exact congrArg _ (pickedAnnotations_alike alike numbers threshold two)

-- What the plan builder copies, field by field and target by target.
section Building

theorem lookup_unlisted {annotations : Annotations} {layout : Layout} {names : List String} {key : String}
    (unlisted : key ∉ names) : (names.flatMap (payloadField annotations layout)).lookup key = none := by
  refine lookup_none fun entry among same => ?_
  obtain ⟨name,listed,own⟩ := List.mem_flatMap.mp among
  rw [(payloadField_key own).symm.trans same] at listed
  exact unlisted listed

theorem lookup_flatMap {annotations : Annotations} {layout : Layout} {names : List String} {key : String}
    (listed : key ∈ names) : (names.flatMap (payloadField annotations layout)).lookup key =
      (payloadField annotations layout key).lookup key := by
  induction names with
  | nil => cases listed
  | cons name rest ih =>
    rw [List.flatMap_cons,List.lookup_append]
    by_cases same : name = key
    · subst same
      cases own : (payloadField annotations layout name).lookup name with
      | some value => rfl
      | none =>
        rw [Option.none_or]
        by_cases again : name ∈ rest
        · rw [ih again,own]
        · exact lookup_unlisted again
    · have later : key ∈ rest := (List.mem_cons.mp listed).resolve_left fun equal => same equal.symm
      rw [ih later,lookup_none fun entry member equal => same ((payloadField_key member).symm.trans equal),Option.none_or]

theorem layout_timing (profile : String) : ∀ key ∈ timingKeys, (resolveLayout profile).executionDefaults.get key = .str "" ∧
    (resolveLayout profile).executionDefaults.has key = true ∧
    key ∈ (resolveLayout profile).executionFields.filter fun key => !typedExecutionFields.contains key := by
  intro key listed
  simp only [timingKeys,List.mem_cons,List.not_mem_nil,or_false] at listed
  unfold resolveLayout
  rcases listed with rfl | rfl | rfl
  · split <;> exact ⟨rfl,rfl,by decide⟩
  · split <;> exact ⟨rfl,rfl,by decide⟩
  · split <;> exact ⟨rfl,rfl,by decide⟩

theorem layout_undiagnosed (profile : String) : ∀ key ∈ snapshotDiagnosticFields,
    key ∉ (resolveLayout profile).executionFields := by
  unfold resolveLayout
  split <;> decide

theorem payloadField_timing {annotations : Annotations} {profile key : String} (listed : key ∈ timingKeys) :
    ((payloadField annotations (resolveLayout profile) key).lookup key).getD .none =
      .str (strip (timingText annotations key)) := by
  obtain ⟨fallback,held,_⟩ := layout_timing profile key listed
  have filled : ∀ text : Option String, (textFields annotations).lookup key = some text → (numberFields annotations).lookup key = none →
      ((payloadField annotations (resolveLayout profile) key).lookup key).getD .none = .str (strip (text.getD "")) := by
    intro text texts numbers
    unfold payloadField
    rw [texts,numbers,fallback,held]
    cases text with
    | none => simp; decide
    | some text => simp
  simp only [timingKeys,List.mem_cons,List.not_mem_nil,or_false] at listed
  rcases listed with rfl | rfl | rfl
  · exact filled _ rfl rfl
  · exact filled _ rfl rfl
  · exact filled _ rfl rfl

theorem targetValues_fold {positions : List PositionTarget} {kept : Amounts} {symbol : String} {value : ℚ}
    (alone : ∀ rival ∈ positions, rival.symbol = symbol → rival.targetValue.getD 0 = value)
    (own : kept.lookup symbol = some value ∨ ∃ rival ∈ positions, rival.symbol = symbol) :
    (positions.foldl (fun kept position => kept.set position.symbol (position.targetValue.getD 0)) kept).lookup symbol =
      some value := by
  induction positions generalizing kept with
  | nil =>
    rcases own with held | ⟨rival,member,_⟩
    · exact held
    · cases member
  | cons position rest ih =>
    rw [List.foldl_cons]
    refine ih (fun rival member => alone rival (List.mem_cons_of_mem _ member)) ?_
    by_cases same : position.symbol = symbol
    · left
      rw [same,Amounts.lookup_set_same,alone position (List.mem_cons_self ..) same]
    · rcases own with held | ⟨rival,member,named⟩
      · left
        rw [Amounts.lookup_set_other _ _ (Ne.symm same),held]
      · right
        rcases List.mem_cons.mp member with rfl | later
        · exact absurd named same
        · exact ⟨rival,later,named⟩

theorem lookup_mapped {symbols : List String} {symbol : String} (value : String → ℚ) (listed : symbol ∈ symbols) :
    (symbols.map fun name => (name,value name)).lookup symbol = some (value symbol) := by
  induction symbols with
  | nil => cases listed
  | cons name rest ih =>
    by_cases same : symbol = name
    · subst same; simp
    · have later := (List.mem_cons.mp listed).resolve_left same
      have miss : (symbol == name) = false := by simpa using same
      simp [List.lookup_cons,miss,ih later]

theorem mem_positionsWith (role : Option String → Bool) {positions : List PositionTarget} {position : PositionTarget}
    (own : position ∈ positions) (alone : ∀ rival ∈ positions, rival.symbol = position.symbol → rival = position) :
    position.symbol ∈ positionsWith role positions ↔ role position.role = true := by
  unfold positionsWith
  rw [(List.perm_insertionSort _ _).mem_iff,mem_distinct]
  simp only [List.mem_map,List.mem_filter]
  constructor
  · rintro ⟨rival,⟨member,held⟩,same⟩
    rwa [alone rival member same] at held
  · intro held
    exact ⟨position,⟨own,held⟩,rfl⟩

end Building

theorem vendoredKit_copies : Copies vendoredKit := by
  constructor
  · intro decision annotations value text ran stated
    obtain ⟨numbers,threshold,read,_,rfl⟩ := executionAnnotations_parts ran
    change numbers.reserved.getD 0 = value
    obtain ⟨_,_,rest⟩ := bind_ok.mp read
    obtain ⟨reserved,picked,rest⟩ := bind_ok.mp rest
    obtain ⟨_,_,rest⟩ := bind_ok.mp rest
    obtain ⟨_,_,rest⟩ := bind_ok.mp rest
    obtain ⟨_,_,rest⟩ := bind_ok.mp rest
    obtain ⟨_,_,rest⟩ := bind_ok.mp rest
    obtain ⟨_,_,rest⟩ := bind_ok.mp rest
    obtain ⟨_,_,same⟩ := bind_ok.mp rest
    rw [return_ok] at same
    subst same
    rw [pickNumber_stated stated,Except.ok.injEq] at picked
    rw [← picked]; rfl
  · intro decision annotations key text ran listed stated
    obtain ⟨numbers,threshold,_,_,rfl⟩ := executionAnnotations_parts ran
    simp only [timingKeys,List.mem_cons,List.not_mem_nil,or_false] at listed
    rcases listed with rfl | rfl | rfl
    · exact pickText_stated stated
    · exact pickText_stated stated
    · exact pickText_stated stated
  · intro decision profile inputs annotations other plan built key listed
    simp only [vendoredKit,valueTargetRuntimePlan] at built
    split_ifs at built
    cases built
    exact lookup_unlisted fun member => layout_undiagnosed other key listed (List.mem_filter.mp member).1
  · intro decision profile inputs annotations other plan built
    simp only [vendoredKit,valueTargetRuntimePlan] at built
    split_ifs at built
    cases built
    rfl
  · intro decision profile inputs annotations other plan built key listed
    simp only [vendoredKit,valueTargetRuntimePlan] at built
    split_ifs at built
    cases built
    obtain ⟨_,_,field⟩ := layout_timing other key listed
    rw [Fields.get,lookup_flatMap field,payloadField_timing listed,PyVal.textOrEmpty_str]
  · intro decision profile inputs annotations other plan position built own alone
    simp only [vendoredKit,valueTargetRuntimePlan] at built
    split_ifs at built with empty missing
    cases built
    have risk := mem_positionsWith isRisk own alone
    have income := mem_positionsWith isIncome own alone
    have safe := mem_positionsWith isSafeHaven own alone
    have earning : position.symbol ∈ incomeSymbols decision.positions ↔ isIncome position.role = true := by
      unfold incomeSymbols
      rw [(List.perm_insertionSort _ _).mem_iff]
      exact income
    refine ⟨?_,risk,earning,safe⟩
    have placed : position.symbol ∈ positionsWith isRisk decision.positions ++ positionsWith isSafeHaven decision.positions ++
        incomeSymbols decision.positions := by
      rw [List.mem_append,List.mem_append,risk,safe,earning,isRisk]
      cases isSafeHaven position.role <;> cases isIncome position.role <;> simp
    have target : position.targetValue = some (position.targetValue.getD 0) := by
      cases held : position.targetValue with
      | none => exact absurd (List.any_eq_true.mpr ⟨position,own,by rw [held]; rfl⟩) missing
      | some value => rfl
    refine (lookup_mapped (fun name => (targetValues decision.positions).getOrZero name) placed).trans ?_
    rw [target]
    congr 1
    rw [Amounts.getOrZero,targetValues,targetValues_fold (fun rival member same => by rw [alone rival member same])
      (.inr ⟨position,own,rfl⟩)]
    rfl

end LongBridge.Mapping
