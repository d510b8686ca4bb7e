import LongBridge.Observation.Normalised

namespace LongBridge.Observation
open Effects

section gathering
variable {start stop : ℤ} {source : List Fields} {byId next : List (String × Fields)} {order : Fields}

theorem need_ok {holds : Bool} {done : Unit} : need holds = .ok done ↔ holds = true := by
  unfold need
  split
  · exact iff_of_true rfl ‹_›
  · rename_i fails
    exact iff_of_false (fun same => nomatch same) fails

theorem need_true {holds : Bool} (held : holds = true) : need holds = .ok () := if_pos held

-- The orders of a payload by their digests, each in the window
structure Gathered (start stop : ℤ) (source : List Fields) (byId : List (String × Fields)) : Prop where
  keys : (byId.map Prod.fst).Nodup
  own : ∀ entry ∈ byId, entry.1 = digestOf entry.2 ∧ entry.2 ∈ source ∧ insideWindow start stop entry.2 = .ok ()

theorem gathered_replaced (gathered : Gathered start stop source byId) (member : order ∈ source) (inside : insideWindow start stop order = .ok ()) :
    Gathered start stop source (byId.map fun entry => if entry.1 == digestOf order then (entry.1,order) else entry) := by
  constructor
  · rw [List.map_map]
    refine (congrArg List.Nodup (List.map_congr_left fun entry _ => ?_)).mpr gathered.keys
    show (if entry.1 == digestOf order then (entry.1,order) else entry).1 = entry.1
    split <;> rfl
  · intro entry listed
    obtain ⟨old,before,rfl⟩ := List.mem_map.mp listed
    split
    · rename_i same
      exact ⟨by simpa using same,member,inside⟩
    · exact gathered.own old before

theorem gathered_added (gathered : Gathered start stop source byId) (member : order ∈ source) (inside : insideWindow start stop order = .ok ())
    (fresh : byId.lookup (digestOf order) = none) : Gathered start stop source (byId ++ [(digestOf order,order)]) := by
  constructor
  · rw [List.map_append]
    refine List.nodup_append.mpr ⟨gathered.keys,List.nodup_singleton _,fun key held other last => ?_⟩
    rw [List.mem_singleton.mp last]
    rintro rfl
    obtain ⟨⟨_,old⟩,listed,rfl⟩ := List.mem_map.mp held
    rw [lookup_of_mem gathered.keys listed] at fresh
    cases fresh
  · intro entry listed
    rcases List.mem_append.mp listed with earlier | last
    · exact gathered.own entry earlier
    · rw [List.mem_singleton.mp last]
      exact ⟨rfl,member,inside⟩

theorem addOrder_gathers (gathered : Gathered start stop source byId) (member : order ∈ source) (added : addOrder start stop byId order = .ok next) :
    Gathered start stop source next ∧ next.length ≤ byId.length + 1 := by
  obtain ⟨submitted,read,rest⟩ := bind_ok.mp added
  obtain ⟨⟨⟩,within,rest⟩ := bind_ok.mp rest
  have inside : insideWindow start stop order = .ok () := by
    unfold insideWindow
    rw [read]
    exact within
  split at rest
  · obtain ⟨⟨⟩,-,same⟩ := bind_ok.mp rest
    cases same
    refine ⟨gathered_replaced gathered member inside,?_⟩
    rw [List.length_map]
    omega
  · rename_i fresh
    cases rest
    refine ⟨gathered_added gathered member inside fresh,?_⟩
    rw [List.length_append]
    exact le_refl _

theorem foldlM_gathers {orders : List Fields} (gathered : Gathered start stop source byId) (members : ∀ order ∈ orders, order ∈ source)
    (folded : orders.foldlM (addOrder start stop) byId = .ok next) : Gathered start stop source next ∧ next.length ≤ byId.length + orders.length := by
  induction orders generalizing byId with
  | nil =>
    cases folded
    exact ⟨gathered,le_refl _⟩
  | cons order rest ih =>
    rw [List.foldlM_cons] at folded
    obtain ⟨middle,added,others⟩ := bind_ok.mp folded
    obtain ⟨kept,short⟩ := addOrder_gathers gathered (members order List.mem_cons_self) added
    obtain ⟨last,shorter⟩ := ih kept (fun other member => members other (List.mem_cons_of_mem _ member)) others
    refine ⟨last,?_⟩
    rw [List.length_cons]
    omega

end gathering

-- A list of normal rows that may be stored
structure NormalRows (fields : RowFields) (found : List Fields) : Prop where
  normal : ∀ row ∈ found, Normal fields row
  short : found.length ≤ 5000

-- What sanitize has seen at a time: instants, a week of orders and normal rows
structure Observed (now started finished start : ℤ) (cash balances positions orders : List Fields) : Prop where
  begins : 0 ≤ started ∧ started < lastInstant
  ends : 0 ≤ finished ∧ finished < lastInstant
  opens : 0 ≤ start ∧ start < lastInstant
  recent : now - 5 * minuteSpan ≤ started
  ordered : started ≤ finished
  close : finished ≤ now + 30 * secondSpan
  week : started - start = 7 * daySpan
  cashRows : NormalRows cashFields cash
  balanceRows : NormalRows balanceFields balances
  positionRows : NormalRows positionFields positions
  orderRows : NormalRows orderFields orders
  some : cash ≠ [] ∧ balances ≠ []
  digests : (orders.map digestOf).Nodup
  inside : ∀ order ∈ orders, insideWindow start started order = .ok ()

def observedRecord (started finished start : ℤ) (cash balances positions orders : List Fields) : Fields := [
  ("schema_version",.str "paper_observation.v1"),("account_scope",.str "PAPER"),("account_id",.none),
  ("identity_verification",.str "source_binding_only"),("snapshot_atomic",.bool false),
  ("observed_started_at",.str (isoformat started)),("observed_finished_at",.str (isoformat finished)),
  ("cash",rowList cash),("broker_reported_balances",rowList balances),("positions",rowList positions),
  ("recent_orders_7d",rowList orders),("known_non_terminal_orders_7d",rowList (orders.filter isWorking)),
  ("recent_orders_complete",.bool false),("open_orders_complete",.bool false),
  ("orders_query_start",.str (isoformat start)),("orders_query_end",.str (isoformat started))]

theorem rows_normalRows {fields : RowFields} (regular : Regular fields) {raw : PyVal} {found : List Fields} (read : rows raw fields = .ok found) :
    NormalRows fields found := ⟨(rows_normal regular read).1,(rows_normal regular read).2⟩

theorem sanitize_ok {payload : PyVal} {binding : String} {now : ℤ} {record : Fields} (accepted : sanitize payload binding now = .ok record) :
    ∃ started finished start cash balances positions orders, Observed now started finished start cash balances positions orders ∧
      record = observedRecord started finished start cash balances positions orders := by
  have body : sanitizeBody payload binding now = .ok record := by
    unfold sanitize at accepted
    split at accepted
    · rename_i found
      cases accepted
      exact found
    · split at accepted <;> cases accepted
  obtain ⟨fields,-,rest⟩ := bind_ok.mp body
  obtain ⟨⟨⟩,-,rest⟩ := bind_ok.mp rest
  obtain ⟨source,-,rest⟩ := bind_ok.mp rest
  obtain ⟨⟨⟩,-,rest⟩ := bind_ok.mp rest
  obtain ⟨started,readStarted,rest⟩ := bind_ok.mp rest
  obtain ⟨finished,readFinished,rest⟩ := bind_ok.mp rest
  obtain ⟨⟨⟩,window,rest⟩ := bind_ok.mp rest
  obtain ⟨cash,cashRead,rest⟩ := bind_ok.mp rest
  obtain ⟨balances,balancesRead,rest⟩ := bind_ok.mp rest
  obtain ⟨positions,positionsRead,rest⟩ := bind_ok.mp rest
  obtain ⟨query,-,rest⟩ := bind_ok.mp rest
  obtain ⟨start,readStart,rest⟩ := bind_ok.mp rest
  obtain ⟨stop,readStop,rest⟩ := bind_ok.mp rest
  obtain ⟨⟨⟩,week,rest⟩ := bind_ok.mp rest
  obtain ⟨found,ordersRead,rest⟩ := bind_ok.mp rest
  obtain ⟨byId,folded,same⟩ := bind_ok.mp rest
  rw [need_ok] at window week
  obtain ⟨recent,ordered,close⟩ := of_decide_eq_true window
  simp only [Bool.and_eq_true,decide_eq_true_eq,Bool.not_eq_true',List.isEmpty_eq_false_iff] at week
  obtain ⟨⟨⟨⟨⟨rfl,span⟩,-⟩,-⟩,someCash⟩,someBalances⟩ := week
  have empty : Gathered start stop found [] := ⟨List.nodup_nil,fun _ member => nomatch member⟩
  obtain ⟨gathered,shorter⟩ := foldlM_gathers empty (fun _ member => member) folded
  obtain ⟨normal,short⟩ := rows_normal orderFields_regular ordersRead
  have digests : (byId.map Prod.snd).map digestOf = byId.map Prod.fst := by
    rw [List.map_map]
    exact List.map_congr_left fun entry member => (gathered.own entry member).1.symm
  have own : ∀ order ∈ byId.map Prod.snd, order ∈ found ∧ insideWindow start stop order = .ok () := by
    intro order member
    obtain ⟨entry,listed,rfl⟩ := List.mem_map.mp member
    exact (gathered.own entry listed).2
  refine ⟨_,finished,start,cash,balances,positions,byId.map Prod.snd,⟨instant_ok readStarted,instant_ok readFinished,instant_ok readStart,recent,ordered,
    close,span,rows_normalRows cashFields_regular cashRead,rows_normalRows balanceFields_regular balancesRead,
    rows_normalRows positionFields_regular positionsRead,
    ⟨fun order member => normal order (own order member).1,?_⟩,⟨someCash,someBalances⟩,?_,fun order member => (own order member).2⟩,?_⟩
  · rw [List.length_map]
    exact shorter.trans (by simpa using short)
  · rw [digests]
    exact gathered.keys
  · cases same
    rfl

end LongBridge.Observation
