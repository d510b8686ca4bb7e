import LongBridge.History.Readback

namespace LongBridge.History
open Effects

section times
variable {time : ℤ}

theorem withoutZulu_isoformat (time : ℤ) : withoutZulu (isoformat time) = isoformat time := by
  have keeps : ∀ {chars : List Char}, (∀ char ∈ chars, char ≠ 'Z') →
      (chars.flatMap fun char => if char = 'Z' then ['+','0','0',':','0','0'] else [char]) = chars := by
    intro chars plain
    induction chars with
    | nil => rfl
    | cons char rest ih =>
      obtain ⟨own,later⟩ := List.forall_mem_cons.mp plain
      rw [List.flatMap_cons,if_neg own,ih later,List.singleton_append]
  have apart : ∀ {char : Char}, startsZone char = false → char ≠ 'Z' := by
    rintro char plain rfl
    exact absurd plain (by decide)
  unfold withoutZulu isoformat
  rw [String.toList_ofList,keeps]
  intro char member
  rw [dateText_chars] at member
  simp only [List.mem_append,List.mem_cons,List.not_mem_nil,or_false] at member
  rcases member with (year | rfl | month | rfl | day) | rfl | clock | rfl | rfl | rfl | rfl | rfl | rfl
  · exact apart (padded_plain _ _ _ year)
  · decide
  · exact apart (padded_plain _ _ _ month)
  · decide
  · exact apart (padded_plain _ _ _ day)
  · decide
  · exact apart (by simpa using text_plain _ char clock)
  all_goals decide

theorem aware_isoformat (inside : 0 ≤ time ∧ time < lastInstant) : aware (.str (isoformat time)) = .ok time := by
  unfold aware
  dsimp only
  rw [withoutZulu_isoformat,fromisoformat_isoformat inside.1 inside.2]
  dsimp only
  rw [sub_zero,if_pos inside]

theorem aware_text {value : PyVal} (read : aware value = .ok time) : value = .str (textOf value) := by
  cases value with
  | str text => rfl
  | _ => cases read

end times

section producer
variable {config : ProducerConfig} {binding balances cash : PyVal} {started finished : Option ℤ} {financing positions : Option PyVal} {now : ℤ}
  {object : HistoryObject}

theorem optionalRows_ok {read : PyVal → Except PyExc (List Fields)} {given : Option PyVal} {rows : Option (List Fields)} :
    optionalRows read given = .ok rows ↔ Option.Rel (fun value found => read value = .ok found) given rows := by
  cases given with
  | none =>
    constructor
    · intro ran
      cases ran
      exact .none
    · intro same
      cases same
      rfl
  | some value =>
    unfold optionalRows
    rw [bind_return_ok]
    constructor
    · rintro ⟨found,ran,rfl⟩
      exact .some ran
    · intro same
      cases same with
      | some ran => exact ⟨_,ran,rfl⟩

theorem producerTimes_ok {begun ended : ℤ} : producerTimes started finished now = .ok (begun,ended) ↔ started = some begun ∧ finished = some ended ∧
    begun ≤ ended ∧ ended ≤ now ∧ now - observationWindow ≤ begun := by
  unfold producerTimes
  split
  · rename_i one two
    split
    · rename_i outside
      constructor
      · exact fun ran => nomatch ran
      · rintro ⟨⟨⟩,⟨⟩,ordered,past,recent⟩
        omega
    · rename_i inside
      constructor
      · rintro ⟨⟩
        exact ⟨rfl,rfl,by omega,by omega,by omega⟩
      · rintro ⟨⟨⟩,⟨⟩,_⟩
        rfl
  · rename_i missing
    constructor
    · exact fun ran => nomatch ran
    · rintro ⟨rfl,rfl,_⟩
      exact (missing _ _ rfl rfl).elim

theorem producerFinancing_normal {value : PyVal} {allowed : List String} {rows : List Fields} (ran : producerFinancingRows value allowed = .ok rows) :
    NormalFinancing allowed rows := by
  unfold producerFinancingRows at ran
  split at ran
  · rename_i read
    cases ran
    exact validated_normal read
  · cases ran

-- What the producer makes of what it is given
structure Produced (config : ProducerConfig) (id : String) (begun ended : ℤ) (balanceRows cashRows : List Fields) (financed held : Option (List Fields))
    (object : HistoryObject) : Prop where
  body : (PyVal.dict (wholeRecord config.accountScope config.targetId (sourceBinding id) (isoformat begun) (isoformat ended)
    (dateText (utcOrdinal begun)) balanceRows cashRows financed held)).jsonSorted = .ok object.body
  uri : object.uri = config.gcsPrefix ++ "/" ++ config.targetId ++ "/" ++ id ++ "/" ++ dateText (utcOrdinal begun) ++ "/" ++ filenameFor ended

theorem producer_ok : producerHistoryObject config binding balances cash started finished financing positions now = .ok object ↔
    ∃ id begun ended balanceRows cashRows financed held, producerBinding binding = .ok id ∧ producerTimes started finished now = .ok (begun,ended) ∧
      moneyRows projectionInvalid balanceFields balances = .ok balanceRows ∧ moneyRows projectionInvalid cashFields cash = .ok cashRows ∧
      optionalRows (fun value => producerFinancingRows value (balanceRows.map currencyOf)) financing = .ok financed ∧
      optionalRows independentPositionRows positions = .ok held ∧ Produced config id begun ended balanceRows cashRows financed held object := by
  unfold producerHistoryObject
  rw [bind_ok]
  constructor
  · rintro ⟨id,bound,ran⟩
    obtain ⟨⟨begun,ended⟩,times,ran⟩ := bind_ok.mp ran
    obtain ⟨balanceRows,reported,ran⟩ := bind_ok.mp ran
    obtain ⟨cashRows,counted,ran⟩ := bind_ok.mp ran
    obtain ⟨financed,money,ran⟩ := bind_ok.mp ran
    obtain ⟨held,stock,ran⟩ := bind_ok.mp ran
    obtain ⟨body,sorted,same⟩ := bind_return_ok.mp ran
    refine ⟨id,begun,ended,balanceRows,cashRows,financed,held,bound,times,reported,counted,money,stock,?_,?_⟩
    · rw [same]
      exact sorted
    · rw [same]
  · rintro ⟨id,begun,ended,balanceRows,cashRows,financed,held,bound,times,reported,counted,money,stock,made⟩
    refine ⟨id,bound,bind_ok.mpr ⟨(begun,ended),times,bind_ok.mpr ⟨balanceRows,reported,bind_ok.mpr ⟨cashRows,counted,bind_ok.mpr ⟨financed,money,
      bind_ok.mpr ⟨held,stock,bind_return_ok.mpr ⟨object.body,made.body,?_⟩⟩⟩⟩⟩⟩⟩
    obtain ⟨body,uri⟩ := object
    exact congrArg (HistoryObject.mk body) made.uri

-- An instant that a datetime can be
def InCalendar (time : ℤ) : Prop := 0 ≤ time ∧ time < lastInstant

theorem optional_financed {allowed : List String} {given : Option PyVal} {rows : Option (List Fields)}
    (ran : optionalRows (fun value => producerFinancingRows value allowed) given = .ok rows) : ∀ found ∈ rows, NormalFinancing allowed found := by
  intro found there
  cases there
  cases optionalRows_ok.mp ran with
  | some read => exact producerFinancing_normal read

theorem producer_written {begun ended : ℤ} {balanceRows cashRows : List Fields} {financed held : Option (List Fields)}
    (times : producerTimes started finished now = .ok (begun,ended)) (begins : InCalendar begun) (ends : InCalendar ended)
    (reported : moneyRows projectionInvalid balanceFields balances = .ok balanceRows) (counted : moneyRows projectionInvalid cashFields cash = .ok cashRows)
    (money : optionalRows (fun value => producerFinancingRows value (balanceRows.map currencyOf)) financing = .ok financed)
    (stock : optionalRows independentPositionRows positions = .ok held) :
    Written (isoformat begun) (isoformat ended) begun ended balanceRows cashRows financed held := by
  refine ⟨aware_isoformat begins,aware_isoformat ends,(producerTimes_ok.mp times).2.2.1,⟨_,_,reported⟩,⟨_,_,counted⟩,optional_financed money,fun rows given => ?_⟩
  cases given
  cases optionalRows_ok.mp stock with
  | some ran => exact ⟨_,ran⟩

-- What the producer stores is taken, as it is read back, by the recorders that look for it and by no others.
theorem produced_accepted_iff (produced : producerHistoryObject config binding balances cash started finished financing positions now = .ok object)
    (inside : ∀ time, started = some time ∨ finished = some time → InCalendar time) :
    ∃ payload id begun ended, object.body = .dict payload ∧ producerBinding binding = .ok id ∧ started = some begun ∧ finished = some ended ∧
      (∀ bucket path, config.gcsPrefix = "gs://" ++ bucket ++ "/" ++ path →
        object.uri = "gs://" ++ bucket ++ "/" ++ expectedName ⟨path,config.targetId,config.accountScope,id⟩ begun ended) ∧
      ∀ recorder name triggeredAt later, validateHistoryObject payload recorder name triggeredAt later = .ok payload ↔
        Sought recorder config.accountScope config.targetId id begun ended name triggeredAt later := by
  obtain ⟨id,begun,ended,balanceRows,cashRows,financed,held,bound,times,reported,counted,money,stock,made⟩ := producer_ok.mp produced
  obtain ⟨rfl,rfl,_⟩ := producerTimes_ok.mp times
  have written := producer_written times (inside _ (.inl rfl)) (inside _ (.inr rfl)) reported counted money stock
  obtain ⟨payload,stored,reads⟩ := written_stored config.accountScope config.targetId id (dateText (utcOrdinal begun)) written rfl (.inl rfl)
  refine ⟨payload,id,begun,ended,Except.ok.inj (made.body.symm.trans stored),bound,rfl,rfl,fun bucket path same => ?_,fun recorder name triggeredAt later =>
    written_accepted written reads⟩
  rw [made.uri,same,expectedName]
  simp only [String.append_assoc]

def historyConfig : ProducerConfig := ⟨"gs://archive/account_snapshots","hk","HK","project"⟩

def bindingId : String := String.ofList (List.replicate 64 'a')

def usdBalances : PyVal := .list [.dict [("currency",.str "USD"),("net_assets",.str "10"),("total_cash",.str "10")]]

def usdCash : PyVal := .list [.dict [("currency",.str "USD"),("available_cash",.str "10"),("frozen_cash",.str "0"),("settling_cash",.str "0")]]

def usdRecorder : Config := ⟨"account_snapshots","hk","HK",bindingId⟩

theorem usdCycle_accepted : ∃ object payload, object.body = .dict payload ∧
    producerHistoryObject historyConfig (.dict (sourceBinding bindingId)) usdBalances usdCash (some 60000000) (some 120000000)
      (some (dictList [swappedRow])) (some (dictList [stockEntries])) 180000000 = .ok object ∧
    validateHistoryObject payload usdRecorder (expectedName usdRecorder 60000000 120000000) 0 240000000 = .ok payload := by
  obtain ⟨object,produced⟩ : ∃ object, producerHistoryObject historyConfig (.dict (sourceBinding bindingId)) usdBalances usdCash (some 60000000)
      (some 120000000) (some (dictList [swappedRow])) (some (dictList [stockEntries])) 180000000 = .ok object := ⟨_,rfl⟩
  obtain ⟨payload,id,begun,ended,stored,bound,⟨⟩,⟨⟩,-,accepts⟩ := produced_accepted_iff produced (by rintro time (⟨⟨⟩⟩ | ⟨⟨⟩⟩) <;> exact ⟨by decide,by decide⟩)
  have own : id = bindingId := (Except.ok.inj bound).symm
  subst own
  exact ⟨object,payload,stored,produced,(accepts ..).mpr ⟨rfl,rfl,rfl,rfl,by decide,by decide,by decide⟩⟩

end producer

section independent
variable {payload : PyVal} {record : Fields} {config : IndependentConfig} {startedAt now : ℤ}

theorem asSnapshotInvalid_ok {α : Type} {value : Except PyExc α} {result : α} : asSnapshotInvalid value = .ok result ↔ value = .ok result := by
  unfold asSnapshotInvalid
  split
  · exact Iff.rfl
  · constructor
    · intro ran
      split at ran <;> cases ran
    · exact fun ran => nomatch ran

theorem independentMoney_rows {value : PyVal} {fields : List String} {rows : List Fields} (ran : independentMoneyRows value fields = .ok rows) :
    moneyRows objectInvalid fields value = .ok rows := by
  unfold independentMoneyRows at ran
  split at ran
  · obtain ⟨_,_,ran⟩ := bind_ok.mp ran
    obtain ⟨_,_,ran⟩ := bind_ok.mp ran
    obtain ⟨found,read,ran⟩ := bind_ok.mp ran
    obtain ⟨_,_,same⟩ := bind_ok.mp ran
    cases return_ok.mp same
    exact read
  · cases ran

-- What is taken over from the public snapshot is a record too: the recorders of the archive would take it.
theorem independent_accepted_iff (projected : projectIndependentHistory payload config startedAt now = .ok record) :
    ∃ begun ended, aware (record.get "observed_started_at") = .ok begun ∧ aware (record.get "observed_finished_at") = .ok ended ∧
      startedAt ≤ begun ∧ ended ≤ now ∧ ∃ copy, (PyVal.dict record).jsonSorted = .ok (.dict copy) ∧
        ∀ recorder name triggeredAt later, validateHistoryObject copy recorder name triggeredAt later = .ok copy ↔
          Sought recorder config.accountScope config.targetId config.sourceBindingId begun ended name triggeredAt later := by
  unfold projectIndependentHistory at projected
  split at projected
  · rename_i fields
    split at projected
    · have ran := asSnapshotInvalid_ok.mp projected
      unfold independentRecord at ran
      obtain ⟨begun,begins,ran⟩ := bind_ok.mp ran
      obtain ⟨ended,ends,ran⟩ := bind_ok.mp ran
      obtain ⟨_,times,ran⟩ := bind_ok.mp ran
      obtain ⟨balances,reported,ran⟩ := bind_ok.mp ran
      obtain ⟨cash,counted,ran⟩ := bind_ok.mp ran
      obtain ⟨positions,held,ran⟩ := bind_ok.mp ran
      obtain ⟨financed,money,same⟩ := bind_ok.mp ran
      cases return_ok.mp same
      obtain ⟨triggered,ordered,past,_⟩ := require_ok.mp times
      rw [aware_text begins] at begins
      rw [aware_text ends] at ends
      have written : Written (textOf (Fields.get fields "observed_started_at")) (textOf (Fields.get fields "observed_finished_at")) begun ended balances cash
          financed (some positions) := by
        refine ⟨begins,ends,ordered,⟨_,_,independentMoney_rows reported⟩,⟨_,_,independentMoney_rows counted⟩,optional_financed money,fun rows given => ?_⟩
        cases given
        exact ⟨_,held⟩
      obtain ⟨copy,stored,reads⟩ := written_stored config.accountScope config.targetId config.sourceBindingId (dateText (utcOrdinal begun)) written rfl
        (.inr rfl)
      exact ⟨begun,ended,begins,ends,triggered,past,copy,stored,fun recorder name triggeredAt later => written_accepted written reads⟩
    · cases projected
  · cases projected

def paperConfig : IndependentConfig := ⟨"PAPER","paper",bindingId⟩

def publicSnapshot : Fields := [("schema_version",.str snapshotSchema),("status",.str "partial"),("account_scope",.str "PAPER"),("no_order",.bool true),
  ("live_authority_granted",.bool false),("snapshot_atomic",.bool false),("cash_complete",.bool true),("positions_complete",.bool true),
  ("source_binding",.dict (sourceBinding bindingId)),("observed_started_at",.str "0001-01-01T00:01:00Z"),
  ("observed_finished_at",.str "0001-01-01T00:02:00+00:00"),("broker_reported_balances",usdBalances),("cash",usdCash),
  ("positions",dictList [stockEntries]),("financing",dictList [swappedRow])]

set_option maxRecDepth 4000 in
theorem publicSnapshot_accepted : ∃ record copy, projectIndependentHistory (.dict publicSnapshot) paperConfig 0 180000000 = .ok record ∧
    (PyVal.dict record).jsonSorted = .ok (.dict copy) ∧
      validateHistoryObject copy ⟨"account_snapshots","paper","PAPER",bindingId⟩
        (expectedName ⟨"account_snapshots","paper","PAPER",bindingId⟩ 60000000 120000000) 0 240000000 = .ok copy := by
  obtain ⟨record,projected,first,last⟩ : ∃ record, projectIndependentHistory (.dict publicSnapshot) paperConfig 0 180000000 = .ok record ∧
      aware (record.get "observed_started_at") = .ok 60000000 ∧ aware (record.get "observed_finished_at") = .ok 120000000 := ⟨_,rfl,rfl,rfl⟩
  obtain ⟨begun,ended,begins,ends,-,-,copy,stored,accepts⟩ := independent_accepted_iff projected
  cases first.symm.trans begins
  cases last.symm.trans ends
  exact ⟨record,copy,projected,stored,(accepts ..).mpr ⟨rfl,rfl,rfl,rfl,by decide,by decide,by decide⟩⟩

end independent

end LongBridge.History
