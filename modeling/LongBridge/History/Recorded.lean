import LongBridge.History.Accepted
import LongBridge.History.Capture

namespace LongBridge.History
open Effects Reconciliation

section projection
variable {fields : List String} {rows next other : List Fields} {row : Fields} {answer : Option (List NativeBalance)} {projection : Projection}

-- A row of decimal amounts, whatever its currency is called
structure AmountRow (fields : List String) (row : Fields) : Prop where
  built : row = fields.map fun field => (field,row.get field)
  coded : row.get "currency" = .str (currencyOf row)
  amounts : ∀ field ∈ fields, field ≠ "currency" → ∃ text, row.get field = .str text ∧ isDecimalText text = true ∧ decimalFinite text = .ok true

theorem amountRows_nil : AmountRows fields [] :=
  ⟨fun _ member => absurd member List.not_mem_nil,fun _ member => absurd member List.not_mem_nil,fun _ member => absurd member List.not_mem_nil,List.nodup_nil⟩

theorem amountRows_perm (amounts : AmountRows fields rows) (perm : other.Perm rows) : AmountRows fields other := by
  refine ⟨fun row member => ?_,fun row member => ?_,fun row member => ?_,(perm.map currencyOf).nodup_iff.mpr amounts.apart⟩
  · exact amounts.built row (perm.subset member)
  · exact amounts.coded row (perm.subset member)
  · exact amounts.amounts row (perm.subset member)

theorem addRow_keeps (amounts : AmountRows fields rows) (own : AmountRow fields row) (added : addRow rows row = some next) : AmountRows fields next := by
  unfold addRow at added
  split at added
  · cases added
  · rename_i fresh
    rw [List.contains_iff_mem] at fresh
    cases added
    have split : ∀ found ∈ rows ++ [row], found ∈ rows ∨ found = row := by
      intro found member
      rw [List.mem_append,List.mem_singleton] at member
      exact member
    refine ⟨fun found member => ?_,fun found member => ?_,fun found member => ?_,?_⟩
    · rcases split found member with old | rfl
      · exact amounts.built found old
      · exact own.built
    · rcases split found member with old | rfl
      · exact amounts.coded found old
      · exact own.coded
    · rcases split found member with old | rfl
      · exact amounts.amounts found old
      · exact own.amounts
    · rw [List.map_append,List.map_singleton]
      exact List.Nodup.append amounts.apart (List.nodup_singleton _) (List.disjoint_singleton.mpr fresh)

theorem balanceRow_amounts {balance : BrokerBalance} {record : BalanceRecord} (ran : normalizeBrokerBalance balance = .ok record) :
    AmountRow balanceFields (balanceRow record) := by
  unfold normalizeBrokerBalance at ran
  dsimp only at ran
  split at ran
  · cases ran
  · obtain ⟨net,first,ran⟩ := bind_ok.mp ran
    obtain ⟨total,second,same⟩ := bind_return_ok.mp ran
    subst same
    refine ⟨rfl,rfl,fun field member unlike => ?_⟩
    simp only [balanceFields,List.mem_cons,List.not_mem_nil,or_false] at member
    rcases member with rfl | rfl | rfl
    · exact absurd rfl unlike
    · exact ⟨net,rfl,decimalText_decimal first⟩
    · exact ⟨total,rfl,decimalText_decimal second⟩

theorem cashRow_amounts {info : CashInfo} {record : CashInfoRecord} (ran : normalizeCashInfo info = .ok record) : AmountRow cashFields (cashRow record) := by
  unfold normalizeCashInfo at ran
  dsimp only at ran
  split at ran
  · cases ran
  · obtain ⟨available,first,ran⟩ := bind_ok.mp ran
    obtain ⟨frozen,second,ran⟩ := bind_ok.mp ran
    obtain ⟨settling,third,same⟩ := bind_return_ok.mp ran
    subst same
    refine ⟨rfl,rfl,fun field member unlike => ?_⟩
    simp only [cashFields,List.mem_cons,List.not_mem_nil,or_false] at member
    rcases member with rfl | rfl | rfl | rfl
    · exact absurd rfl unlike
    · exact ⟨available,rfl,decimalText_decimal first⟩
    · exact ⟨frozen,rfl,decimalText_decimal second⟩
    · exact ⟨settling,rfl,decimalText_decimal third⟩

theorem normalizeCash_infos {balance : BrokerBalance} {record : CashRecord} (ran : normalizeCash balance = .ok record) :
    ∀ found ∈ record.cashInfos, ∃ info, normalizeCashInfo info = .ok found := by
  unfold normalizeCash at ran
  split at ran
  · obtain ⟨detail,read,same⟩ := bind_return_ok.mp ran
    subst same
    intro found member
    have listed : found ∈ detail := (List.perm_insertionSort _ _).subset member
    obtain ⟨info,_,one⟩ := (mapM_mem read).2 found listed
    exact ⟨info,one⟩
  · cases ran

theorem toOption_ok {α : Type} {value : Except PyExc α} {result : α} : value.toOption = some result ↔ value = .ok result := by
  cases value with
  | error exc =>
    constructor
    · intro found
      cases found
    · intro ran
      cases ran
  | ok found =>
    constructor
    · intro same
      cases same
      rfl
    · intro ran
      cases ran
      rfl

theorem addBalance_keeps {before after : List Fields × List Fields} {native : NativeBalance}
    (kept : AmountRows balanceFields before.1 ∧ AmountRows cashFields before.2) (added : addBalance before native = some after) :
    AmountRows balanceFields after.1 ∧ AmountRows cashFields after.2 := by
  unfold addBalance at added
  obtain ⟨normalized,one,added⟩ := Option.bind_eq_some_iff.mp added
  obtain ⟨balances,first,added⟩ := Option.bind_eq_some_iff.mp added
  obtain ⟨record,two,added⟩ := Option.bind_eq_some_iff.mp added
  obtain ⟨cash,second,same⟩ := Option.bind_eq_some_iff.mp added
  cases same
  refine ⟨addRow_keeps kept.1 (balanceRow_amounts (toOption_ok.mp one)) first,?_⟩
  refine foldlM_option (fun state row later member kept ran => ?_) kept.2 second
  obtain ⟨found,listed,rfl⟩ := List.mem_map.mp member
  obtain ⟨info,read⟩ := normalizeCash_infos (toOption_ok.mp two) found listed
  exact addRow_keeps kept (cashRow_amounts read) ran

-- What a cycle projects of its balances
theorem projected_amounts (projected : projectCycleHistoryBalances answer = some projection) :
    (AmountRows balanceFields projection.balances ∧ projection.balances ≠ []) ∧ (AmountRows cashFields projection.cash ∧ projection.cash ≠ []) ∧
      ∃ accounts allowed, projection.financing = projectNativeFinancing accounts allowed ∧
        ∀ currency ∈ allowed, currency ∈ projection.balances.map currencyOf := by
  unfold projectCycleHistoryBalances at projected
  obtain ⟨accounts,_,projected⟩ := Option.bind_eq_some_iff.mp projected
  split at projected
  · cases projected
  · obtain ⟨⟨balances,cash⟩,walked,projected⟩ := Option.bind_eq_some_iff.mp projected
    dsimp only at projected
    split at projected
    · cases projected
    · rename_i listed
      rw [Bool.or_eq_true,not_or,List.isEmpty_iff,List.isEmpty_iff] at listed
      cases projected
      let keep : List Fields × List Fields → Prop := fun rows => AmountRows balanceFields rows.1 ∧ AmountRows cashFields rows.2
      have both : keep (balances,cash) :=
        foldlM_option (fun state native later _ kept ran => addBalance_keeps kept ran) ⟨amountRows_nil,amountRows_nil⟩ walked
      have first := List.perm_insertionSort (byKey currencyOf) balances
      have second := List.perm_insertionSort (byKey currencyOf) cash
      refine ⟨⟨amountRows_perm both.1 first,?_⟩,⟨amountRows_perm both.2 second,?_⟩,some (accounts.map NativeBalance.account),balances.map currencyOf,rfl,
        fun currency member => ?_⟩
      · exact fun none => listed.1 (List.length_eq_zero_iff.mp (first.length_eq ▸ List.length_eq_zero_iff.mpr none))
      · exact fun none => listed.2 (List.length_eq_zero_iff.mp (second.length_eq ▸ List.length_eq_zero_iff.mpr none))
      · exact (first.map currencyOf).symm.subset member

end projection

section recorded
variable {config : ProducerConfig} {binding : PyVal} {observed : Observed} {now : ℤ}

-- `observation["projection"].get("financing")`: there where it is not empty
def recordedFinancing (projection : Projection) : Option PyVal := if projection.financing.isEmpty then none else some (dictList projection.financing)

-- What `run_probe` hands over of an observation
def recordObservation (config : ProducerConfig) (binding : PyVal) (observed : Observed) (now : ℤ) : Except PyExc HistoryObject :=
  producerHistoryObject config binding (dictList observed.projection.balances) (dictList observed.projection.cash) observed.started observed.finished
    (recordedFinancing observed.projection) (observed.positions.map dictList) now

theorem normalFinancing_wider {allowed wider : List String} {rows : List Fields} (normal : NormalFinancing allowed rows)
    (within : ∀ currency ∈ allowed, currency ∈ wider) : NormalFinancing wider rows := by
  refine ⟨normal.some,normal.few,fun row member => ?_,normal.rising⟩
  obtain ⟨currency,permitted,built⟩ := normal.proper row member
  exact ⟨currency,within currency permitted,built⟩

theorem recorded_financing {projection : Projection} {allowed wider : List String} {accounts : Option (List NativeAccount)}
    (projected : projection.financing = projectNativeFinancing accounts allowed) (within : ∀ currency ∈ allowed, currency ∈ wider) :
    ∃ rows, optionalRows (fun value => producerFinancingRows value wider) (recordedFinancing projection) = .ok rows := by
  unfold recordedFinancing
  split
  · exact ⟨none,rfl⟩
  · rename_i filled
    rw [List.isEmpty_iff,projected] at filled
    have normal := validated_normal (projected_financing_validates filled (copies_refl _))
    have validated := normal_validates (normalFinancing_wider normal within) (copies_refl _)
    have ran : producerFinancingRows (dictList projection.financing) wider = .ok projection.financing := by
      unfold producerFinancingRows
      rw [projected,validated]
    exact ⟨some projection.financing,optionalRows_ok.mpr (.some ran)⟩

theorem recorded_positions {positions : Option (List Fields)} (projected : ∀ rows ∈ positions, ∃ channels, projectCycleStockPositions channels = some rows) :
    ∃ rows, optionalRows independentPositionRows (positions.map dictList) = .ok rows := by
  cases positions with
  | none => exact ⟨none,rfl⟩
  | some rows =>
    obtain ⟨channels,listed⟩ := projected rows rfl
    obtain ⟨found,ran,_⟩ := projected_positions_kept listed (copies_refl rows)
    exact ⟨some found,optionalRows_ok.mpr (.some ran)⟩

theorem amountRows_kept {fields : List String} {rows : List Fields} (listed : "currency" ∈ fields) (amounts : AmountRows fields rows) (some : rows ≠ [])
    (coded : ∀ row ∈ rows, isCurrency (currencyOf row) = true) : moneyRows projectionInvalid fields (dictList rows) = .ok rows := by
  refine moneyRows_ok.mpr ⟨_,rfl,?_,amountRows_read listed amounts (fun row member seen => absurd seen List.not_mem_nil) coded⟩
  rwa [ne_eq,List.map_eq_nil_iff]

theorem observation_recorded_iff {answer : Option (List NativeBalance)} (projected : projectCycleHistoryBalances answer = some observed.projection)
    (listed : ∀ rows ∈ observed.positions, ∃ channels, projectCycleStockPositions channels = some rows)
    (inside : ∀ time, observed.started = some time ∨ observed.finished = some time → InCalendar time) :
    (∃ object, recordObservation config binding observed now = .ok object) ↔
      (∃ id, producerBinding binding = .ok id) ∧ (∃ begun ended, producerTimes observed.started observed.finished now = .ok (begun,ended)) ∧
        ∀ row ∈ observed.projection.balances ++ observed.projection.cash, isCurrency (currencyOf row) = true := by
  obtain ⟨⟨reported,filled⟩,⟨counted,paid⟩,accounts,allowed,financing,within⟩ := projected_amounts projected
  unfold recordObservation
  constructor
  · rintro ⟨object,ran⟩
    obtain ⟨id,begun,ended,balanceRows,cashRows,financed,held,bound,times,first,second,_⟩ := producer_ok.mp ran
    refine ⟨⟨id,bound⟩,⟨begun,ended,times⟩,fun row member => ?_⟩
    rcases List.mem_append.mp member with balance | cash
    · exact ((amountRows_iff balanceFields_nodup (by decide) reported (copies_refl _)).mp ⟨_,first⟩).2 row balance
    · exact ((amountRows_iff cashFields_nodup (by decide) counted (copies_refl _)).mp ⟨_,second⟩).2 row cash
  · rintro ⟨⟨id,bound⟩,⟨begun,ended,times⟩,coded⟩
    have first := amountRows_kept (by decide) reported filled fun row member => coded row (List.mem_append_left _ member)
    have second := amountRows_kept (by decide) counted paid fun row member => coded row (List.mem_append_right _ member)
    obtain ⟨financed,money⟩ := recorded_financing financing within
    obtain ⟨held,stock⟩ := recorded_positions listed
    obtain ⟨begins,ends,_⟩ := producerTimes_ok.mp times
    have written := producer_written times (inside _ (.inl begins)) (inside _ (.inr ends)) first second money stock
    obtain ⟨payload,stored,_⟩ := written_stored config.accountScope config.targetId id (dateText (utcOrdinal begun)) written rfl (.inl rfl)
    exact ⟨⟨.dict payload,_⟩,producer_ok.mpr ⟨id,begun,ended,_,_,financed,held,bound,times,first,second,money,stock,stored,rfl⟩⟩

-- What a cycle has observed becomes an object just where its source is bound, its times are of now and every currency is a
-- three letter code: neither an amount nor the financing nor the positions ever stand in its way.
theorem cycle_recorded_iff {readers : List Reader} {held : Bool} {events : List ReadEvent} {result : Except PyExc (List Told)} {left : Option Capture}
    (run : (cycleReads readers).Steps held (some beginNaturalCycleHistory) events result left)
    (clock : ∀ held exc, .answered held .clock (.error exc) ∉ events) (found : cycleHistoryObservation left = some observed)
    (inside : ∀ time, observed.started = some time ∨ observed.finished = some time → InCalendar time) :
    (∃ object, recordObservation config binding observed now = .ok object) ↔
      (∃ id, producerBinding binding = .ok id) ∧ (∃ begun ended, producerTimes observed.started observed.finished now = .ok (begun,ended)) ∧
        ∀ row ∈ observed.projection.balances ++ observed.projection.cash, isCurrency (currencyOf row) = true := by
  obtain ⟨projected,listed⟩ := observed_sources run clock found
  obtain ⟨answer,same⟩ := projected
  exact observation_recorded_iff same listed inside

def usdNative : NativeBalance :=
  ⟨⟨.str " usd",.str "10.50",.int 10,some [⟨.str "USD",.int 10,.int 0,.str "-0.50"⟩]⟩,marginAccount.amount,.int 1⟩

def usdProjection : Projection :=
  ⟨[[("currency",.str "USD"),("net_assets",.str "10.5"),("total_cash",.str "10")]],
    [[("currency",.str "USD"),("available_cash",.str "10"),("frozen_cash",.str "0"),("settling_cash",.str "-0.5")]],[marginRow]⟩

def usdReads : List ReadEvent := [.answered true .clock (.ok (60000000 : ℤ)),.answered true .accountBalance (.ok (.listed [usdNative] : BalanceAnswer)),
  .answered true .clock (.ok (120000000 : ℤ)),.answered true .stockPositions (.ok (some [some [nativeStock]] : StocksAnswer)),
  .answered true .clock (.ok (180000000 : ℤ))]

theorem usdReads_recorded : ∃ observed object, observed.projection = usdProjection ∧ observed.positions = some [stockEntries] ∧
    recordObservation historyConfig (.dict (sourceBinding bindingId)) observed 240000000 = .ok object := by
  obtain ⟨told,left,observed,run,found,same,listed,begun,ended⟩ : ∃ told left observed,
      (cycleReads [.balance,.stocks]).Steps false (some beginNaturalCycleHistory) usdReads (.ok told) left ∧ cycleHistoryObservation left = some observed ∧
        observed.projection = usdProjection ∧ observed.positions = some [stockEntries] ∧ observed.started = some 60000000 ∧
          observed.finished = some 180000000 := ⟨_,_,_,.ask (.ask (.ask (.ask (.ask .done)))),rfl,rfl,rfl,rfl,rfl⟩
  obtain ⟨object,ran⟩ : ∃ object, recordObservation historyConfig (.dict (sourceBinding bindingId)) observed 240000000 = .ok object := by
    refine (cycle_recorded_iff run (by intro held exc member; simp [usdReads] at member) found ?_).mpr ⟨⟨bindingId,rfl⟩,⟨60000000,180000000,?_⟩,?_⟩
    · rw [begun,ended]
      rintro time (⟨⟨⟩⟩ | ⟨⟨⟩⟩) <;> exact ⟨by decide,by decide⟩
    · rw [begun,ended]
      rfl
    · rw [same]
      decide
  exact ⟨observed,object,same,listed,ran⟩

end recorded

end LongBridge.History
