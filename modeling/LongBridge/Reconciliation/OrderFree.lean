import Mathlib.Data.List.Perm.Lattice
import LongBridge.Reconciliation.Merged
import LongBridge.Reconciliation.Readings

namespace LongBridge.Reconciliation
open Effects Sorting

section json

theorem jsonQuote_begins (text : String) : ∃ head rest, jsonQuote text = head :: rest ∧ head ≠ ']' := ⟨quoteMark,_,rfl,by decide⟩

theorem PositionRecord.json_free : PrefixFree PositionRecord.json := by
  rintro ⟨channel,symbol,currency,quantity⟩ ⟨account,name,money,amount⟩ first second same
  unfold PositionRecord.json at same
  dsimp only at same
  simp only [List.append_assoc] at same
  obtain ⟨rfl,behindChannel⟩ := jsonEntry_free jsonQuote_free same
  obtain ⟨rfl,behindCurrency⟩ := jsonEntry_free jsonQuote_free behindChannel
  obtain ⟨rfl,behindQuantity⟩ := jsonEntry_free jsonQuote_free behindCurrency
  obtain ⟨rfl,behindSymbol⟩ := jsonEntry_free jsonQuote_free behindQuantity
  exact ⟨rfl,List.append_cancel_left behindSymbol⟩

theorem CashInfoRecord.json_begins (record : CashInfoRecord) : ∃ head rest, record.json = head :: rest ∧ head ≠ ']' :=
  ⟨Char.ofNat 123,_,rfl,by decide⟩

theorem CashRecord.json_free : PrefixFree CashRecord.json := by
  rintro ⟨infos⟩ ⟨others⟩ first second same
  unfold CashRecord.json at same
  dsimp only at same
  simp only [List.append_assoc] at same
  obtain ⟨rfl,behind⟩ := jsonEntry_free (jsonList_free CashInfoRecord.json_free CashInfoRecord.json_begins) same
  exact ⟨rfl,List.append_cancel_left behind⟩

theorem BalanceRecord.json_free : PrefixFree BalanceRecord.json := by
  rintro ⟨currency,assets,cash⟩ ⟨money,net,total⟩ first second same
  unfold BalanceRecord.json at same
  dsimp only at same
  simp only [List.append_assoc] at same
  obtain ⟨rfl,behindCurrency⟩ := jsonEntry_free jsonQuote_free same
  obtain ⟨rfl,behindAssets⟩ := jsonEntry_free jsonQuote_free behindCurrency
  obtain ⟨rfl,behindCash⟩ := jsonEntry_free jsonQuote_free behindAssets
  exact ⟨rfl,List.append_cancel_left behindCash⟩

theorem OrderRecord.json_free : PrefixFree OrderRecord.json := by
  rintro ⟨orderId,status,symbol,currency,side,orderType,quantity,executed,submitted,updated⟩ ⟨id,state,name,money,way,kind,amount,done,sent,changed⟩
    first second same
  unfold OrderRecord.json at same
  dsimp only at same
  simp only [List.append_assoc] at same
  obtain ⟨rfl,behindCurrency⟩ := jsonEntry_free jsonQuote_free same
  obtain ⟨rfl,behindExecuted⟩ := jsonEntry_free jsonQuote_free behindCurrency
  obtain ⟨rfl,behindId⟩ := jsonEntry_free jsonQuote_free behindExecuted
  obtain ⟨rfl,behindType⟩ := jsonEntry_free jsonQuote_free behindId
  obtain ⟨rfl,behindQuantity⟩ := jsonEntry_free jsonQuote_free behindType
  obtain ⟨rfl,behindSide⟩ := jsonEntry_free jsonQuote_free behindQuantity
  obtain ⟨rfl,behindStatus⟩ := jsonEntry_free jsonQuote_free behindSide
  obtain ⟨rfl,behindSubmitted⟩ := jsonEntry_free jsonQuote_free behindStatus
  obtain ⟨rfl,behindSymbol⟩ := jsonEntry_free jsonQuote_free behindSubmitted
  obtain ⟨rfl,behindUpdated⟩ := jsonEntry_free jsonQuote_free behindSymbol
  exact ⟨rfl,List.append_cancel_left behindUpdated⟩

theorem ExecutionRecord.json_ends {lead : String} {one two : ExecutionRecord} {first second : List Char}
    (same : one.json lead ++ first = two.json lead ++ second) :
    one.orderId = two.orderId ∧ one.price = two.price ∧ one.quantity = two.quantity ∧ first = second := by
  unfold ExecutionRecord.json at same
  simp only [List.append_assoc] at same
  obtain ⟨orders,behindId⟩ := jsonEntry_free jsonQuote_free same
  obtain ⟨prices,behindPrice⟩ := jsonEntry_free jsonQuote_free behindId
  obtain ⟨quantities,rest⟩ := jsonEntry_free jsonQuote_free behindPrice
  exact ⟨orders,prices,quantities,rest⟩

theorem ends_free {one two : ExecutionRecord} {first second : List Char}
    (same : jsonEntry ", " "symbol" (jsonQuote one.symbol) ++ (jsonEntry ", " "trade_done_at" (jsonQuote one.tradeDoneAt) ++
        (jsonEntry ", " "trade_id" (jsonQuote one.tradeId) ++ ("\x7d".toList ++ first))) =
      jsonEntry ", " "symbol" (jsonQuote two.symbol) ++ (jsonEntry ", " "trade_done_at" (jsonQuote two.tradeDoneAt) ++
        (jsonEntry ", " "trade_id" (jsonQuote two.tradeId) ++ ("\x7d".toList ++ second)))) :
    one.symbol = two.symbol ∧ one.tradeDoneAt = two.tradeDoneAt ∧ one.tradeId = two.tradeId ∧ first = second := by
  obtain ⟨symbols,behindSymbol⟩ := jsonEntry_free jsonQuote_free same
  obtain ⟨times,behindTime⟩ := jsonEntry_free jsonQuote_free behindSymbol
  obtain ⟨trades,rest⟩ := jsonEntry_free jsonQuote_free behindTime
  exact ⟨symbols,times,trades,List.append_cancel_left rest⟩

theorem ObservedExecution.json_free : PrefixFree ObservedExecution.json := by
  rintro ⟨⟨order,trade,symbol,time,quantity,price⟩,part⟩ ⟨⟨id,exchange,name,done,amount,paid⟩,other⟩ first second same
  unfold ObservedExecution.json at same
  cases part with
  | some known =>
    cases other with
    | some told =>
      obtain ⟨side,currency,native,values⟩ := known
      obtain ⟨way,money,given,all⟩ := told
      dsimp only at same
      simp only [List.append_assoc] at same
      obtain ⟨rfl,behindCurrency⟩ := jsonEntry_free jsonOptional_free same
      obtain ⟨rfl,behindNative⟩ := jsonEntry_free jsonQuote_free behindCurrency
      obtain ⟨rfl,behindValues⟩ := jsonEntry_free (jsonList_free jsonQuote_free jsonQuote_begins) behindNative
      obtain ⟨orders,prices,quantities,behindFacts⟩ := ExecutionRecord.json_ends behindValues
      obtain ⟨rfl,behindSide⟩ := jsonEntry_free jsonOptional_free behindFacts
      obtain ⟨symbols,times,trades,rests⟩ := @ends_free ⟨order,trade,symbol,time,quantity,price⟩ ⟨id,exchange,name,done,amount,paid⟩ _ _ behindSide
      dsimp only at orders prices quantities symbols times trades
      subst orders prices quantities symbols times trades
      exact ⟨rfl,rests⟩
    | none => exact absurd (List.cons.inj (List.cons.inj (List.cons.inj same).2).2).1 (by decide)
  | none =>
    cases other with
    | some told => exact absurd (List.cons.inj (List.cons.inj (List.cons.inj same).2).2).1 (by decide)
    | none =>
      dsimp only at same
      simp only [List.append_assoc] at same
      obtain ⟨orders,prices,quantities,behindFacts⟩ := ExecutionRecord.json_ends same
      obtain ⟨symbols,times,trades,rests⟩ := @ends_free ⟨order,trade,symbol,time,quantity,price⟩ ⟨id,exchange,name,done,amount,paid⟩ _ _ behindFacts
      dsimp only at orders prices quantities symbols times trades
      subst orders prices quantities symbols times trades
      exact ⟨rfl,rests⟩

end json

section executions
variable (host : HostClock) (window : QueryWindow)

-- The rows of the reading that lie inside its window
def windowRows (rows : List BrokerExecution) : List ObservedExecution :=
  rows.filterMap fun execution => (observeExecution host window execution).toOption.bind id

variable {host window} {one two : List BrokerExecution}

theorem mergeExecutions_ok {rows : List BrokerExecution} {known final : List ObservedExecution} :
    mergeExecutions host window rows known = .ok final ↔
      (∀ execution ∈ rows, ∃ observed, observeExecution host window execution = .ok observed) ∧
        (windowRows host window rows).foldlM mergeExecution known = .ok final := by
  induction rows generalizing known with
  | nil => simp [mergeExecutions,windowRows,return_ok]
  | cons execution rest ih =>
    rw [mergeExecutions]
    cases read : observeExecution host window execution with
    | error raised =>
      simp only [List.forall_mem_cons,read]
      constructor
      · intro ran
        cases ran
      · rintro ⟨⟨⟨_,broken⟩,_⟩,_⟩
        cases broken
    | ok observed =>
      have rows : windowRows host window (execution :: rest) = observed.toList ++ windowRows host window rest := by
        cases observed <;> simp [windowRows,read,Except.toOption]
      rw [rows]
      simp only [List.forall_mem_cons,read]
      cases observed with
      | none =>
        show mergeExecutions host window rest known = .ok final ↔ _
        rw [ih]
        simp
      | some inside =>
        show (mergeExecution known inside >>= fun merged => mergeExecutions host window rest merged) = .ok final ↔ _
        rw [bind_ok]
        simp only [ih,Option.toList_some,List.singleton_append,List.foldlM_cons,bind_ok]
        constructor
        · rintro ⟨merged,step,all,more⟩
          exact ⟨⟨⟨_,rfl⟩,all⟩,merged,step,more⟩
        · rintro ⟨⟨_,all⟩,merged,step,more⟩
          exact ⟨merged,step,all,more⟩

theorem mem_windowRows {rows : List BrokerExecution} {observed : ObservedExecution} :
    observed ∈ windowRows host window rows ↔ ∃ execution ∈ rows, observeExecution host window execution = .ok (some observed) := by
  simp only [windowRows,List.mem_filterMap]
  refine exists_congr fun execution => and_congr_right fun _ => ?_
  cases read : observeExecution host window execution with
  | error raised => simp [Except.toOption]
  | ok seen => simp [Except.toOption]

-- A row that was read names its native time once, and only in a forward report.
theorem observeExecution_some {execution : BrokerExecution} {observed : ObservedExecution}
    (read : observeExecution host window execution = .ok (some observed)) :
    observed.Fresh ∧ (window.forward = false → observed.native = none) := by
  unfold observeExecution at read
  split at read
  · cases read
  · rename_i native _
    split at read
    · cases read
    · obtain ⟨tradedAt,_,read⟩ := bind_ok.mp read
      split at read
      · cases read
      · obtain ⟨record,_,read⟩ := bind_ok.mp read
        obtain rfl := Option.some.inj (return_ok.mp read)
        cases mode : window.forward with
        | true => exact ⟨rfl,by simp⟩
        | false => exact ⟨rfl,fun _ => rfl⟩

theorem windowRows_fresh {rows : List BrokerExecution} : ∀ row ∈ windowRows host window rows, row.Fresh := by
  intro row member
  obtain ⟨execution,_,read⟩ := mem_windowRows.mp member
  exact (observeExecution_some read).1

theorem windowRows_members (members : ∀ execution, execution ∈ one ↔ execution ∈ two) (row : ObservedExecution) :
    row ∈ windowRows host window one ↔ row ∈ windowRows host window two := by
  simp only [mem_windowRows,members]

variable (host window) in
-- The first row of every trade gives one native time in both readings.
def FirstTimesAgree (one two : List BrokerExecution) : Prop :=
  ∀ row ∈ windowRows host window one,
    firstNative (windowRows host window one) row.tradeId = firstNative (windowRows host window two) row.tradeId

theorem firstNative_legacy (legacy : window.forward = false) (rows : List BrokerExecution) (trade : String) :
    firstNative (windowRows host window rows) trade = none := by
  rw [firstNative]
  cases hit : (windowRows host window rows).find? fun row => row.tradeId = trade with
  | none => rfl
  | some row =>
    obtain ⟨execution,_,read⟩ := mem_windowRows.mp (List.mem_of_find?_eq_some hit)
    exact (observeExecution_some read).2 legacy

theorem mergeExecutions_alike (members : ∀ execution, execution ∈ one ↔ execution ∈ two) {first : List ObservedExecution}
    (ran : mergeExecutions host window one [] = .ok first) : ∃ second, mergeExecutions host window two [] = .ok second ∧
      (first.map ObservedExecution.settled).Perm (second.map ObservedExecution.settled) ∧
      (first.Perm second ↔ FirstTimesAgree host window one two) := by
  obtain ⟨readable,merged⟩ := mergeExecutions_ok.mp ran
  have rows : ∀ row, row ∈ windowRows host window one ↔ row ∈ windowRows host window two := windowRows_members members
  have consistent := (run_iff_consistent windowRows_fresh).mp ⟨first,merged⟩
  obtain ⟨second,also⟩ := (run_iff_consistent (@windowRows_fresh host window two)).mpr fun row inside other near =>
    consistent row ((rows row).mpr inside) other ((rows other).mpr near)
  have here := gathered_run windowRows_fresh merged
  have there := gathered_run windowRows_fresh also
  exact ⟨second,mergeExecutions_ok.mpr ⟨fun execution member => readable execution ((members execution).mpr member),also⟩,
    gathered_perm rows here there,gathered_perm_iff rows here there⟩

theorem mergeExecutions_conflict {rows : List BrokerExecution} {row other : ObservedExecution} (first : row ∈ windowRows host window rows)
    (second : other ∈ windowRows host window rows) (trade : row.tradeId = other.tradeId) (apart : row.canonical ≠ other.canonical)
    (final : List ObservedExecution) : mergeExecutions host window rows [] ≠ .ok final := by
  intro ran
  obtain ⟨_,merged⟩ := mergeExecutions_ok.mp ran
  exact apart ((run_iff_consistent windowRows_fresh).mp ⟨final,merged⟩ row first other second trade)

end executions

section alike

theorem mapM_perm {ε α β : Type} {f : α → Except ε β} {one two : List α} (perm : one.Perm two) {results : List β} (ran : one.mapM f = .ok results) :
    ∃ others, two.mapM f = .ok others ∧ results.Perm others := by
  obtain ⟨others,pairs,same⟩ := List.perm_comp_forall₂ perm.symm (mapM_ok.mp ran)
  exact ⟨others,mapM_ok.mpr pairs,same.symm⟩

-- A channel whose positions came in another order
structure ChannelAlike (one two : PositionChannel) : Prop where
  account : one.accountChannel = two.accountChannel
  positions : Option.Rel List.Perm one.positions two.positions

-- Readings whose rows came in another order, or whose executions were moved between the queries or repeated
structure RowsAlike (one two : BrokerRows) : Prop where
  balances : one.balances.Perm two.balances
  channels : ∃ turned, one.channels.Perm turned ∧ List.Forall₂ ChannelAlike turned two.channels
  orders : one.orders.Perm two.orders
  executions : ∀ execution, execution ∈ one.executions ++ one.todayExecutions ↔ execution ∈ two.executions ++ two.todayExecutions

theorem normalizeChannel_alike {one two : PositionChannel} (alike : ChannelAlike one two) {account : String} {records : List PositionRecord}
    (ran : normalizeChannel one = .ok (account,records)) : ∃ others, normalizeChannel two = .ok (account,others) ∧ records.Perm others := by
  obtain ⟨channel,positions⟩ := one
  obtain ⟨other,stocks⟩ := two
  obtain ⟨rfl,rows⟩ := alike
  unfold normalizeChannel at ran ⊢
  dsimp only at ran rows ⊢
  cases rows with
  | none => cases ran
  | some perm =>
    dsimp only at ran ⊢
    split at ran
    · cases ran
    · rename_i named
      obtain ⟨shown,all,same⟩ := bind_ok.mp ran
      obtain ⟨rfl,rfl⟩ := Prod.mk.inj (return_ok.mp same)
      obtain ⟨others,also,near⟩ := mapM_perm perm all
      rw [if_neg named,also]
      exact ⟨others,rfl,near⟩

theorem channels_alike {one two : List PositionChannel} (alike : List.Forall₂ ChannelAlike one two) {shown : List (String × List PositionRecord)}
    (ran : one.mapM normalizeChannel = .ok shown) : ∃ others, two.mapM normalizeChannel = .ok others ∧
      shown.map Prod.fst = others.map Prod.fst ∧ (shown.flatMap Prod.snd).Perm (others.flatMap Prod.snd) := by
  have pairs := mapM_ok.mp ran
  clear ran
  induction alike generalizing shown with
  | nil =>
    cases pairs
    exact ⟨[],rfl,rfl,List.Perm.refl _⟩
  | cons near _ ih =>
    cases pairs with
    | @cons _ entry _ entries first rest =>
      obtain ⟨account,records⟩ := entry
      obtain ⟨own,ran,perm⟩ := normalizeChannel_alike near first
      obtain ⟨others,all,names,perms⟩ := ih rest
      refine ⟨(account,own) :: others,?_,?_,?_⟩
      · rw [List.mapM_cons,ran,all]
        rfl
      · rw [List.map_cons,List.map_cons,names]
      · rw [List.flatMap_cons,List.flatMap_cons]
        exact perm.append perms

end alike

section observations
variable {host : HostClock} {window : QueryWindow} {withBalances : Bool} {one two : BrokerRows}

-- What two readings of the same rows agree on; `agree` says when no native time differs.
structure SameRecords (agree : Prop) (first second : Observations) : Prop where
  accountChannels : first.accountChannels = second.accountChannels
  positions : first.positions = second.positions
  cash : first.cash = second.cash
  openOrders : first.openOrders = second.openOrders
  recentOrders : first.recentOrders = second.recentOrders
  brokerReportedBalances : first.brokerReportedBalances = second.brokerReportedBalances
  settled : (first.recentExecutions.map ObservedExecution.settled).Perm (second.recentExecutions.map ObservedExecution.settled)
  recentExecutions : first.recentExecutions = second.recentExecutions ↔ agree

theorem brokerBalances_perm {first second : List BrokerBalance} (perm : first.Perm second) {records : List BalanceRecord}
    (ran : brokerBalances withBalances first = .ok records) : ∃ others, brokerBalances withBalances second = .ok others ∧ records.Perm others := by
  cases withBalances with
  | true => exact mapM_perm perm ran
  | false =>
    obtain rfl := Except.ok.inj ran
    exact ⟨[],rfl,List.Perm.refl _⟩

theorem observeRows_alike (alike : RowsAlike one two) {first : Observations} (ran : observeRows host window withBalances one = .ok first) :
    ∃ second, observeRows host window withBalances two = .ok second ∧
      SameRecords (FirstTimesAgree host window (one.executions ++ one.todayExecutions) (two.executions ++ two.todayExecutions)) first second := by
  obtain ⟨turned,channelPerm,near⟩ := alike.channels
  unfold observeRows at ran
  split at ran
  · cases ran
  · rename_i listed
    have filled : two.channels ≠ [] := by
      intro empty
      rw [empty,List.forall₂_nil_right_iff] at near
      exact listed (List.perm_nil.mp (near ▸ channelPerm))
    obtain ⟨executions,merged,ran⟩ := bind_ok.mp ran
    obtain ⟨channels,channelsRead,ran⟩ := bind_ok.mp ran
    obtain ⟨orders,ordersRead,ran⟩ := bind_ok.mp ran
    obtain ⟨balances,balancesRead,ran⟩ := bind_ok.mp ran
    obtain ⟨cash,cashRead,ran⟩ := bind_ok.mp ran
    obtain rfl := return_ok.mp ran
    obtain ⟨executions2,merged2,settled,agree⟩ := mergeExecutions_alike alike.executions merged
    obtain ⟨middle,middleRead,middlePerm⟩ := mapM_perm channelPerm channelsRead
    obtain ⟨channels2,channelsRead2,names,positions⟩ := channels_alike near middleRead
    obtain ⟨orders2,ordersRead2,orderPerm⟩ := mapM_perm alike.orders ordersRead
    obtain ⟨cash2,cashRead2,cashPerm⟩ := mapM_perm alike.balances cashRead
    obtain ⟨balances2,balancesRead2,balancePerm⟩ := brokerBalances_perm alike.balances balancesRead
    refine ⟨_,by rw [observeRows,if_neg filled,merged2,channelsRead2,ordersRead2,balancesRead2,cashRead2]; rfl,?_⟩
    refine ⟨?_,?_,?_,?_,?_,?_,?_,?_⟩
    · refine sortedSet_congr fun text => ?_
      rw [← names]
      exact (middlePerm.map Prod.fst).mem_iff
    · exact (sortedByText_perm PositionRecord.json_free.injective).mpr ((middlePerm.flatMap_right Prod.snd).trans positions)
    · exact (sortedByText_perm CashRecord.json_free.injective).mpr cashPerm
    · exact (sortedByText_perm OrderRecord.json_free.injective).mpr (orderPerm.filter _)
    · exact (sortedByText_perm OrderRecord.json_free.injective).mpr orderPerm
    · exact (sortedByText_perm BalanceRecord.json_free.injective).mpr balancePerm
    · have sorted := (List.perm_insertionSort (textAtMost ObservedExecution.json) executions).map ObservedExecution.settled
      have also := (List.perm_insertionSort (textAtMost ObservedExecution.json) executions2).map ObservedExecution.settled
      exact sorted.trans (settled.trans also.symm)
    · exact (sortedByText_perm ObservedExecution.json_free.injective).trans agree

variable {request : QueryRequest}

theorem ChannelAlike.symm {first second : PositionChannel} (alike : ChannelAlike first second) : ChannelAlike second first := by
  obtain ⟨channel,positions⟩ := first
  obtain ⟨other,stocks⟩ := second
  obtain ⟨rfl,rows⟩ := alike
  refine ⟨rfl,?_⟩
  dsimp only at rows ⊢
  cases rows with
  | none => exact .none
  | some perm => exact .some (List.Perm.symm perm)

theorem RowsAlike.symm (alike : RowsAlike one two) : RowsAlike two one := by
  refine ⟨alike.balances.symm,?_,alike.orders.symm,fun execution => (alike.executions execution).symm⟩
  obtain ⟨turned,perm,near⟩ := alike.channels
  have back : List.Forall₂ ChannelAlike two.channels turned := near.flip.imp fun _ _ held => held.symm
  have turn : (Relation.Comp (List.Forall₂ ChannelAlike) List.Perm) two.channels one.channels := ⟨turned,back,perm.symm⟩
  rw [List.forall₂_comp_perm_eq_perm_comp_forall₂] at turn
  exact turn

theorem collectObservations_window (windowed : queryWindow host request = .ok window) (rows : BrokerRows) :
    collectObservations host request withBalances rows = observeRows host window withBalances rows := by
  rw [collectObservations,windowed]
  rfl

theorem collectObservations_alike (alike : RowsAlike one two) {first : Observations}
    (ran : collectObservations host request withBalances one = .ok first) :
    ∃ window second, queryWindow host request = .ok window ∧ collectObservations host request withBalances two = .ok second ∧
      SameRecords (FirstTimesAgree host window (one.executions ++ one.todayExecutions) (two.executions ++ two.todayExecutions)) first second := by
  obtain ⟨window,windowed,observed⟩ := bind_ok.mp ran
  obtain ⟨second,also,same⟩ := observeRows_alike alike observed
  exact ⟨window,second,windowed,by rw [collectObservations_window windowed,also],same⟩

theorem queryWindow_legacy (anchor : request.forwardAnchor = none) (cutoff : request.forwardPreviousCutoff = none)
    (windowed : queryWindow host request = .ok window) : window.forward = false := by
  unfold queryWindow at windowed
  rw [anchor,cutoff] at windowed
  split at windowed
  · cases windowed
  · obtain ⟨referenceNow,_,windowed⟩ := bind_ok.mp windowed
    split at windowed
    · obtain rfl := return_ok.mp windowed
      rfl
    · cases windowed

-- The order of the rows, the query an execution came with and its repetitions leave only the native time of a forward report open.
theorem collectObservations_order_free (host : HostClock) (request : QueryRequest) (withBalances : Bool) (one two : BrokerRows)
    (alike : RowsAlike one two) :
    ((∃ error, collectObservations host request withBalances one = .error error) ↔
      ∃ error, collectObservations host request withBalances two = .error error) ∧
    (∀ window first second, queryWindow host request = .ok window → collectObservations host request withBalances one = .ok first →
      collectObservations host request withBalances two = .ok second →
        SameRecords (FirstTimesAgree host window (one.executions ++ one.todayExecutions) (two.executions ++ two.todayExecutions)) first second) ∧
    (request.forwardAnchor = none → request.forwardPreviousCutoff = none →
      ∀ first second, collectObservations host request withBalances one = .ok first → collectObservations host request withBalances two = .ok second →
        first.recentExecutions = second.recentExecutions) ∧
    ∀ window, queryWindow host request = .ok window → ∀ row ∈ windowRows host window (one.executions ++ one.todayExecutions),
      ∀ other ∈ windowRows host window (one.executions ++ one.todayExecutions), row.tradeId = other.tradeId → row.canonical ≠ other.canonical →
        ∃ error, collectObservations host request withBalances one = .error error := by
  have agree : ∀ window first second, queryWindow host request = .ok window → collectObservations host request withBalances one = .ok first →
      collectObservations host request withBalances two = .ok second →
        SameRecords (FirstTimesAgree host window (one.executions ++ one.todayExecutions) (two.executions ++ two.todayExecutions)) first second := by
    intro window first second windowed ran also
    obtain ⟨span,found,spanned,done,same⟩ := collectObservations_alike alike ran
    obtain rfl := Except.ok.inj (windowed.symm.trans spanned)
    obtain rfl := Except.ok.inj (also.symm.trans done)
    exact same
  refine ⟨?_,agree,?_,?_⟩
  · have carries : ∀ {left right : BrokerRows}, RowsAlike left right →
        (∃ error, collectObservations host request withBalances left = .error error) →
          ∃ error, collectObservations host request withBalances right = .error error := by
      intro left right near failed
      obtain ⟨error,failed⟩ := failed
      cases ran : collectObservations host request withBalances right with
      | error raised => exact ⟨raised,rfl⟩
      | ok found =>
        obtain ⟨_,_,_,done,_⟩ := collectObservations_alike near.symm ran
        rw [failed] at done
        cases done
    exact ⟨carries alike,carries alike.symm⟩
  · intro anchor cutoff first second ran also
    obtain ⟨window,windowed,_⟩ := bind_ok.mp ran
    have legacy := queryWindow_legacy anchor cutoff windowed
    refine (agree window first second windowed ran also).recentExecutions.mpr fun row _ => ?_
    rw [firstNative_legacy legacy,firstNative_legacy legacy]
  · intro window windowed row first other second trade apart
    cases ran : collectObservations host request withBalances one with
    | error raised => exact ⟨raised,rfl⟩
    | ok found =>
      rw [collectObservations_window windowed,observeRows] at ran
      split at ran
      · cases ran
      · obtain ⟨executions,merged,_⟩ := bind_ok.mp ran
        exact absurd merged (mergeExecutions_conflict first second trade apart executions)

end observations

section samples

def sampleNow : ℤ := forwardStart + 20 * hourSpan

def sampleHost : HostClock := ⟨fun time => .ok time.wall,sampleNow⟩

-- An execution at noon of November 3 in UTC, with the offset it was given in
def sampleExecution (offset : ℤ) : BrokerExecution :=
  { orderId := .str "o1",tradeId := .str "same",symbol := .str "AAPL.US",tradeDoneAt := .str "",tradedAt := some ⟨sampleNow + offset,some offset,false⟩
    quantity := .str "1",price := .str "10",side := ⟨.str "Buy",.none⟩,currency := .str "USD" }

def sampleRows (history today : ℤ) : BrokerRows :=
  ⟨[],[⟨.str "lb",some []⟩],[],[sampleExecution history],[sampleExecution today]⟩

def legacyRequest : QueryRequest := ⟨.str "PAPER",some ⟨sampleNow,some 0,false⟩,7 * daySpan,none,none⟩

def forwardRequest : QueryRequest := { legacyRequest with forwardAnchor := some ⟨forwardStart,some 0,false⟩ }

theorem sampleRows_alike (history today : ℤ) : RowsAlike (sampleRows history today) (sampleRows today history) := by
  refine ⟨List.Perm.refl _,⟨_,List.Perm.refl _,.cons ⟨rfl,.some (List.Perm.refl _)⟩ .nil⟩,List.Perm.refl _,?_⟩
  intro execution
  simp [sampleRows,or_comm]

theorem sample_legacy_executions : ∃ first second,
    collectObservations sampleHost legacyRequest true (sampleRows 0 (8 * hourSpan)) = .ok first ∧
    collectObservations sampleHost legacyRequest true (sampleRows (8 * hourSpan) 0) = .ok second ∧ first.recentExecutions = second.recentExecutions := by
  have one : ((collectObservations sampleHost legacyRequest true (sampleRows 0 (8 * hourSpan))).toOption).isSome = true := by decide +kernel
  have two : ((collectObservations sampleHost legacyRequest true (sampleRows (8 * hourSpan) 0)).toOption).isSome = true := by decide +kernel
  have order_free := collectObservations_order_free sampleHost legacyRequest true _ _ (sampleRows_alike 0 (8 * hourSpan))
  cases ran : collectObservations sampleHost legacyRequest true (sampleRows 0 (8 * hourSpan)) with
  | error raised => rw [ran] at one; cases one
  | ok first =>
    cases also : collectObservations sampleHost legacyRequest true (sampleRows (8 * hourSpan) 0) with
    | error raised => rw [also] at two; cases two
    | ok second => exact ⟨first,second,rfl,rfl,order_free.2.2.1 rfl rfl first second ran also⟩

-- One trade, given in two offsets: the query that comes first decides what time the record shows.
theorem first_native_time_shown : RowsAlike (sampleRows 0 (8 * hourSpan)) (sampleRows (8 * hourSpan) 0) ∧
    ((collectObservations sampleHost forwardRequest true (sampleRows 0 (8 * hourSpan))).toOption.map Observations.recentExecutions).isSome = true ∧
    (collectObservations sampleHost forwardRequest true (sampleRows 0 (8 * hourSpan))).toOption.map Observations.recentExecutions ≠
      (collectObservations sampleHost forwardRequest true (sampleRows (8 * hourSpan) 0)).toOption.map Observations.recentExecutions :=
  ⟨sampleRows_alike 0 (8 * hourSpan),by decide +kernel,by decide +kernel⟩

end samples

end LongBridge.Reconciliation
