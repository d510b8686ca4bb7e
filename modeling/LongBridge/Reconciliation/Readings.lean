import LongBridge.Effects.Fallible
import LongBridge.Reconciliation.Amounts

namespace LongBridge.Reconciliation

section lists
variable {α β γ : Type}

-- Lists of images are rearrangements of each other under two functions that tell the same items apart.
theorem perm_map_of_kernel (one : α → β) (two : α → γ) {first second : List α}
    (kernel : ∀ item ∈ first ++ second, ∀ other ∈ first ++ second, two item = two other → one item = one other)
    (perm : (first.map two).Perm (second.map two)) : (first.map one).Perm (second.map one) := by
  classical
  by_cases empty : first ++ second = []
  · obtain ⟨rfl,rfl⟩ := List.append_eq_nil_iff.mp empty
    exact List.Perm.refl _
  · obtain ⟨default,_⟩ := List.exists_mem_of_ne_nil _ empty
    let pick : γ → β := fun key => if found : ∃ item, item ∈ first ++ second ∧ two item = key then one (Classical.choose found) else one default
    have picks : ∀ item ∈ first ++ second, pick (two item) = one item := by
      intro item member
      have found : ∃ other, other ∈ first ++ second ∧ two other = two item := ⟨item,member,rfl⟩
      have chosen := Classical.choose_spec found
      show (if found : ∃ other, other ∈ first ++ second ∧ two other = two item then one (Classical.choose found) else one default) = _
      rw [dif_pos found]
      exact kernel _ chosen.1 _ member chosen.2
    have images : ∀ items : List α, (∀ item ∈ items, item ∈ first ++ second) → (items.map two).map pick = items.map one := by
      intro items inside
      rw [List.map_map]
      exact List.map_congr_left fun item member => picks item (inside item member)
    rw [← images first (fun item member => List.mem_append_left _ member),← images second (fun item member => List.mem_append_right _ member)]
    exact perm.map pick

theorem mapM_total {ε : Type} {f : α → Except ε β} {g : α → β} {items : List α} (all : ∀ item ∈ items, f item = .ok (g item)) :
    items.mapM f = .ok (items.map g) := by
  induction items with
  | nil => rfl
  | cons item rest ih =>
    rw [List.mapM_cons,all item List.mem_cons_self,ih fun other member => all other (List.mem_cons_of_mem _ member)]
    rfl

end lists

-- A reading of the broker that holds amounts
inductive Reading where
  | position (accountChannel : String) (position : BrokerPosition)
  | cash (balance : BrokerBalance)
  | order (order : BrokerOrder)
  | execution (execution : BrokerExecution)

inductive ReadingRecord where
  | position (record : PositionRecord)
  | cash (record : CashRecord)
  | order (record : OrderRecord)
  | execution (record : ExecutionRecord)
  deriving DecidableEq

namespace Reading

def normalize : Reading → Except PyExc ReadingRecord
  | .position channel stock => (normalizePosition channel stock).map .position
  | .cash balance => (normalizeCash balance).map .cash
  | .order placed => (normalizeOrder placed).map .order
  | .execution filled => (normalizeExecution filled).map .execution

-- Everything but the amounts, as the records show it
def frame : Reading → List String
  | .position channel stock => ["position",channel,upper (cleanText stock.symbol),upper (cleanText stock.currency)]
  | .cash _ => ["cash"]
  | .order placed => ["order",cleanText placed.orderId,removeLead "ORDERSTATUS." (enumName placed.status),upper (cleanText placed.symbol),
      upper (cleanText placed.currency),enumName placed.side,enumName placed.orderType,cleanText placed.submittedAt,cleanText placed.updatedAt]
  | .execution filled => ["execution",cleanText filled.orderId,cleanText filled.tradeId,upper (cleanText filled.symbol),
      cleanText filled.tradeDoneAt]

-- The amounts; those of a balance are grouped by currency, in the order of the broker.
def rows : Reading → List (String × List PyVal)
  | .position _ stock => [("",[stock.quantity])]
  | .cash balance => (balance.cashInfos.getD []).map fun info =>
      (upper (cleanText info.currency),[info.availableCash,info.frozenCash,info.settlingCash])
  | .order placed => [("",[placed.quantity,placed.executedQuantity])]
  | .execution filled => [("",[filled.quantity,filled.price])]

def named : Reading → List String
  | .position _ stock => [upper (cleanText stock.symbol),upper (cleanText stock.currency)]
  | .cash balance => (balance.cashInfos.getD []).map fun info => upper (cleanText info.currency)
  | .order placed => [cleanText placed.orderId,removeLead "ORDERSTATUS." (enumName placed.status),upper (cleanText placed.symbol),
      upper (cleanText placed.currency)]
  | .execution filled => [cleanText filled.orderId,cleanText filled.tradeId,upper (cleanText filled.symbol)]

-- Whatever has to be stated is stated, and every amount is a finite decimal.
structure Complete (reading : Reading) : Prop where
  stated : ∀ text ∈ reading.named, text ≠ ""
  held : reading.rows ≠ []
  finite : ∀ row ∈ reading.rows, ∀ value ∈ row.2, ∃ amount, amountOf value = some amount

def values (reading : Reading) : List (String × List (Option ℚ)) :=
  reading.rows.map fun row => (row.1,row.2.map fun value => (amountOf value).map Amount.value)

def signed (reading : Reading) : List (String × List (Option (ℚ × Bool))) :=
  reading.rows.map fun row => (row.1,row.2.map fun value => (amountOf value).map Amount.signed)

def Fits (reading : Reading) : Prop := ∀ row ∈ reading.rows, ∀ value ∈ row.2, ∀ amount, amountOf value = some amount → amount.Fits

-- The text of every amount states the amount itself.
def Exact (reading : Reading) : Prop := ∀ row ∈ reading.rows, ∀ value ∈ row.2, ∀ amount, amountOf value = some amount →
  ∀ fieldName, ∃ text, decimalText value fieldName = .ok text ∧ Denotes text amount.value

end Reading

section shown

-- The text of an amount that fits
def shownAmount (value : PyVal) : String := (decimalText value "").toOption.getD ""

structure Shows (value : PyVal) (amount : Amount) : Prop where
  stated : amountOf value = some amount
  fits : amount.Fits

theorem Shows.text {value : PyVal} {amount : Amount} (held : Shows value amount) (fieldName : String) :
    decimalText value fieldName = .ok (shownAmount value) := by
  obtain ⟨text,ran⟩ := decimalText_runs held.stated held.fits fieldName
  obtain ⟨other,done⟩ := decimalText_runs held.stated held.fits ""
  have same : text = other := (decimalText_eq_iff held.stated held.stated held.fits held.fits ran done).mpr rfl
  rw [ran,shownAmount,done,same]
  rfl

theorem shownAmount_eq_iff {value other : PyVal} {one two : Amount} (first : Shows value one) (second : Shows other two) :
    shownAmount value = shownAmount other ↔ (amountOf value).map Amount.signed = (amountOf other).map Amount.signed := by
  rw [decimalText_eq_iff first.stated second.stated first.fits second.fits (first.text "") (second.text ""),first.stated,second.stated]
  simp

theorem shows_of {reading : Reading} (complete : reading.Complete) (fits : reading.Fits) {row : String × List PyVal} (member : row ∈ reading.rows)
    {value : PyVal} (own : value ∈ row.2) : ∃ amount, Shows value amount := by
  obtain ⟨amount,stated⟩ := complete.finite row member value own
  exact ⟨amount,stated,fits row member value own amount stated⟩

end shown

section records

def shownInfo (info : CashInfo) : CashInfoRecord :=
  ⟨upper (cleanText info.currency),shownAmount info.availableCash,shownAmount info.frozenCash,shownAmount info.settlingCash⟩

-- The record of a reading whose amounts fit
def Reading.shown : Reading → ReadingRecord
  | .position channel stock => .position ⟨channel,upper (cleanText stock.symbol),upper (cleanText stock.currency),shownAmount stock.quantity⟩
  | .cash balance => .cash ⟨sortedByText CashInfoRecord.json ((balance.cashInfos.getD []).map shownInfo)⟩
  | .order placed => .order ⟨cleanText placed.orderId,removeLead "ORDERSTATUS." (enumName placed.status),upper (cleanText placed.symbol),
      upper (cleanText placed.currency),enumName placed.side,enumName placed.orderType,shownAmount placed.quantity,
      shownAmount placed.executedQuantity,cleanText placed.submittedAt,cleanText placed.updatedAt⟩
  | .execution filled => .execution ⟨cleanText filled.orderId,cleanText filled.tradeId,upper (cleanText filled.symbol),
      cleanText filled.tradeDoneAt,shownAmount filled.quantity,shownAmount filled.price⟩

theorem normalizeCashInfo_shown {info : CashInfo} {available frozen settling : Amount} (currency : upper (cleanText info.currency) ≠ "")
    (one : Shows info.availableCash available) (two : Shows info.frozenCash frozen) (three : Shows info.settlingCash settling) :
    normalizeCashInfo info = .ok (shownInfo info) := by
  unfold normalizeCashInfo
  rw [if_neg currency,one.text,two.text,three.text]
  rfl

theorem normalize_shown {reading : Reading} (complete : reading.Complete) (fits : reading.Fits) : reading.normalize = .ok reading.shown := by
  have told : ∀ row ∈ reading.rows, ∀ value ∈ row.2, ∃ amount, Shows value amount := fun row member value own => shows_of complete fits member own
  have stated := complete.stated
  cases reading with
  | position channel stock =>
    obtain ⟨quantity,held⟩ := told _ (List.mem_singleton_self _) stock.quantity (List.mem_singleton_self _)
    have named : ¬ (upper (cleanText stock.symbol) = "" ∨ upper (cleanText stock.currency) = "") :=
      not_or.mpr ⟨stated _ List.mem_cons_self,stated _ (List.mem_cons_of_mem _ List.mem_cons_self)⟩
    unfold Reading.normalize normalizePosition
    dsimp only
    rw [if_neg named,held.text]
    rfl
  | cash balance =>
    obtain ⟨currency,netAssets,totalCash,cashInfos⟩ := balance
    cases cashInfos with
    | none => exact absurd rfl complete.held
    | some infos =>
      cases infos with
      | nil => exact absurd rfl complete.held
      | cons info infos =>
        have all : ∀ item ∈ info :: infos, normalizeCashInfo item = .ok (shownInfo item) := by
          intro item member
          have row : (upper (cleanText item.currency),[item.availableCash,item.frozenCash,item.settlingCash]) ∈
              (Reading.cash ⟨currency,netAssets,totalCash,some (info :: infos)⟩).rows :=
            List.mem_map.mpr ⟨item,member,rfl⟩
          obtain ⟨available,one⟩ := told _ row item.availableCash List.mem_cons_self
          obtain ⟨frozen,two⟩ := told _ row item.frozenCash (List.mem_cons_of_mem _ List.mem_cons_self)
          obtain ⟨settling,three⟩ := told _ row item.settlingCash (List.mem_cons_of_mem _ (List.mem_cons_of_mem _ List.mem_cons_self))
          exact normalizeCashInfo_shown (stated _ (List.mem_map.mpr ⟨item,member,rfl⟩)) one two three
        unfold Reading.normalize normalizeCash
        dsimp only
        rw [mapM_total all]
        rfl
  | order placed =>
    obtain ⟨quantity,held⟩ := told _ (List.mem_singleton_self _) placed.quantity List.mem_cons_self
    obtain ⟨executed,also⟩ := told _ (List.mem_singleton_self _) placed.executedQuantity (List.mem_cons_of_mem _ List.mem_cons_self)
    have named : ¬ (cleanText placed.orderId = "" ∨ removeLead "ORDERSTATUS." (enumName placed.status) = "" ∨
        upper (cleanText placed.symbol) = "" ∨ upper (cleanText placed.currency) = "") := by
      rintro (empty | empty | empty | empty) <;> exact stated _ (by simp [Reading.named]) empty
    unfold Reading.normalize normalizeOrder
    dsimp only
    rw [if_neg named,held.text,also.text]
    rfl
  | execution filled =>
    obtain ⟨quantity,held⟩ := told _ (List.mem_singleton_self _) filled.quantity List.mem_cons_self
    obtain ⟨price,also⟩ := told _ (List.mem_singleton_self _) filled.price (List.mem_cons_of_mem _ List.mem_cons_self)
    have named : ¬ (cleanText filled.orderId = "" ∨ cleanText filled.tradeId = "" ∨ upper (cleanText filled.symbol) = "") := by
      rintro (empty | empty | empty) <;> exact stated _ (by simp [Reading.named]) empty
    unfold Reading.normalize normalizeExecution
    dsimp only
    rw [if_neg named,held.text,also.text]
    rfl

theorem CashInfoRecord.json_free : PrefixFree CashInfoRecord.json := by
  rintro ⟨currency,available,frozen,settling⟩ ⟨other,cash,kept,pending⟩ first second same
  unfold CashInfoRecord.json at same
  dsimp only at same
  simp only [List.append_assoc] at same
  obtain ⟨rfl,behindCash⟩ := jsonEntry_free jsonQuote_free same
  obtain ⟨rfl,behindCurrency⟩ := jsonEntry_free jsonQuote_free behindCash
  obtain ⟨rfl,behindFrozen⟩ := jsonEntry_free jsonQuote_free behindCurrency
  obtain ⟨rfl,behindSettling⟩ := jsonEntry_free jsonQuote_free behindFrozen
  exact ⟨rfl,List.append_cancel_left behindSettling⟩

def signedInfo (info : CashInfo) : String × List (Option (ℚ × Bool)) :=
  (upper (cleanText info.currency),[info.availableCash,info.frozenCash,info.settlingCash].map fun value => (amountOf value).map Amount.signed)

theorem signed_single {name : String} {one two : List (Option (ℚ × Bool))} : [(name,one)].Perm [(name,two)] ↔ one = two := by
  rw [List.singleton_perm_singleton,Prod.mk.injEq]
  simp

-- Records that differ in amounts only are the same exactly when the amounts are, with the signs of their zeros.
theorem shown_eq_iff {one two : Reading} (complete : one.Complete) (whole : two.Complete) (fits : one.Fits) (also : two.Fits)
    (framed : one.frame = two.frame) : one.shown = two.shown ↔ one.signed.Perm two.signed := by
  have first : ∀ row ∈ one.rows, ∀ value ∈ row.2, ∃ amount, Shows value amount := fun row member value own => shows_of complete fits member own
  have second : ∀ row ∈ two.rows, ∀ value ∈ row.2, ∃ amount, Shows value amount := fun row member value own => shows_of whole also member own
  cases one with
  | position channel stock =>
    cases two with
    | position other stake =>
      obtain ⟨quantity,held⟩ := first _ (List.mem_singleton_self _) stock.quantity (List.mem_singleton_self _)
      obtain ⟨amount,shown⟩ := second _ (List.mem_singleton_self _) stake.quantity (List.mem_singleton_self _)
      simp only [Reading.frame,List.cons.injEq,true_and,and_true] at framed
      obtain ⟨rfl,symbols,currencies⟩ := framed
      show _ ↔ [("",[(amountOf stock.quantity).map Amount.signed])].Perm [("",[(amountOf stake.quantity).map Amount.signed])]
      rw [signed_single,List.cons.injEq,← shownAmount_eq_iff held shown]
      simp [Reading.shown,symbols,currencies]
    | cash balance => simp [Reading.frame] at framed
    | order placed => simp [Reading.frame] at framed
    | execution filled => simp [Reading.frame] at framed
  | cash balance =>
    cases two with
    | cash other =>
      have list : ∀ balance : BrokerBalance, (Reading.cash balance).signed = (balance.cashInfos.getD []).map signedInfo := by
        intro balance
        unfold Reading.signed Reading.rows
        rw [List.map_map]
        rfl
      show ReadingRecord.cash ⟨_⟩ = ReadingRecord.cash ⟨_⟩ ↔ _
      rw [ReadingRecord.cash.injEq,CashRecord.mk.injEq,sortedByText_perm CashInfoRecord.json_free.injective,list,list]
      have same : ∀ item ∈ balance.cashInfos.getD [] ++ other.cashInfos.getD [], ∀ rival ∈ balance.cashInfos.getD [] ++ other.cashInfos.getD [],
          shownInfo item = shownInfo rival ↔ signedInfo item = signedInfo rival := by
        have told : ∀ item ∈ balance.cashInfos.getD [] ++ other.cashInfos.getD [],
            ∃ available frozen settling, Shows item.availableCash available ∧ Shows item.frozenCash frozen ∧ Shows item.settlingCash settling := by
          intro item member
          have shown : ∀ value ∈ [item.availableCash,item.frozenCash,item.settlingCash], ∃ amount, Shows value amount := by
            rcases List.mem_append.mp member with own | own
            · exact first _ (List.mem_map.mpr ⟨item,own,rfl⟩)
            · exact second _ (List.mem_map.mpr ⟨item,own,rfl⟩)
          obtain ⟨available,one⟩ := shown _ List.mem_cons_self
          obtain ⟨frozen,two⟩ := shown _ (List.mem_cons_of_mem _ List.mem_cons_self)
          obtain ⟨settling,three⟩ := shown _ (List.mem_cons_of_mem _ (List.mem_cons_of_mem _ List.mem_cons_self))
          exact ⟨available,frozen,settling,one,two,three⟩
        intro item member rival also
        obtain ⟨_,_,_,one,two,three⟩ := told item member
        obtain ⟨_,_,_,four,five,six⟩ := told rival also
        unfold shownInfo signedInfo
        rw [CashInfoRecord.mk.injEq,shownAmount_eq_iff one four,shownAmount_eq_iff two five,shownAmount_eq_iff three six]
        simp
      exact ⟨perm_map_of_kernel signedInfo shownInfo fun item member rival own => (same item member rival own).mp,
        perm_map_of_kernel shownInfo signedInfo fun item member rival own => (same item member rival own).mpr⟩
    | position channel stock => simp [Reading.frame] at framed
    | order placed => simp [Reading.frame] at framed
    | execution filled => simp [Reading.frame] at framed
  | order placed =>
    cases two with
    | order other =>
      obtain ⟨quantity,held⟩ := first _ (List.mem_singleton_self _) placed.quantity List.mem_cons_self
      obtain ⟨amount,shown⟩ := second _ (List.mem_singleton_self _) other.quantity List.mem_cons_self
      obtain ⟨executed,ran⟩ := first _ (List.mem_singleton_self _) placed.executedQuantity (List.mem_cons_of_mem _ List.mem_cons_self)
      obtain ⟨done,finished⟩ := second _ (List.mem_singleton_self _) other.executedQuantity (List.mem_cons_of_mem _ List.mem_cons_self)
      simp only [Reading.frame,List.cons.injEq,true_and,and_true] at framed
      show _ ↔ [("",[(amountOf placed.quantity).map Amount.signed,(amountOf placed.executedQuantity).map Amount.signed])].Perm
        [("",[(amountOf other.quantity).map Amount.signed,(amountOf other.executedQuantity).map Amount.signed])]
      rw [signed_single,List.cons.injEq,List.cons.injEq,← shownAmount_eq_iff held shown,← shownAmount_eq_iff ran finished]
      simp [Reading.shown,framed]
    | position channel stock => simp [Reading.frame] at framed
    | cash balance => simp [Reading.frame] at framed
    | execution filled => simp [Reading.frame] at framed
  | execution filled =>
    cases two with
    | execution other =>
      obtain ⟨quantity,held⟩ := first _ (List.mem_singleton_self _) filled.quantity List.mem_cons_self
      obtain ⟨amount,shown⟩ := second _ (List.mem_singleton_self _) other.quantity List.mem_cons_self
      obtain ⟨price,paid⟩ := first _ (List.mem_singleton_self _) filled.price (List.mem_cons_of_mem _ List.mem_cons_self)
      obtain ⟨cost,spent⟩ := second _ (List.mem_singleton_self _) other.price (List.mem_cons_of_mem _ List.mem_cons_self)
      simp only [Reading.frame,List.cons.injEq,true_and,and_true] at framed
      show _ ↔ [("",[(amountOf filled.quantity).map Amount.signed,(amountOf filled.price).map Amount.signed])].Perm
        [("",[(amountOf other.quantity).map Amount.signed,(amountOf other.price).map Amount.signed])]
      rw [signed_single,List.cons.injEq,List.cons.injEq,← shownAmount_eq_iff held shown,← shownAmount_eq_iff paid spent]
      simp [Reading.shown,framed]
    | position channel stock => simp [Reading.frame] at framed
    | cash balance => simp [Reading.frame] at framed
    | order placed => simp [Reading.frame] at framed

end records

end LongBridge.Reconciliation
