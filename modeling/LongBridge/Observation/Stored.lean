import LongBridge.Observation.Canonical
import LongBridge.Observation.Collecting

namespace LongBridge.Observation
open Effects

section entries
variable (bundle : Bundle) (day : ℕ) (started finished start due now stored : ℤ)

-- A canonical record, with its rows as they are stored
def canonicalEntries (cash balances positions orders working : PyVal) : Fields := [
  ("schema_version",.str "paper_observation.v1"),("account_scope",.str "PAPER"),("account_id",.none),
  ("identity_verification",.str "source_binding_only"),("snapshot_atomic",.bool false),
  ("observed_started_at",.str (isoformat started)),("observed_finished_at",.str (isoformat finished)),
  ("cash",cash),("broker_reported_balances",balances),("positions",positions),
  ("recent_orders_7d",orders),("known_non_terminal_orders_7d",working),
  ("recent_orders_complete",.bool false),("open_orders_complete",.bool false),
  ("orders_query_start",.str (isoformat start)),("orders_query_end",.str (isoformat started)),
  ("trading_date",.str (dateText day)),("scheduled_at",.str (isoformat due)),("job_started_at",.str (isoformat now)),
  ("store_requested_at",.str (isoformat stored)),
  ("lateness_seconds",.float (.finite (latenessSeconds started due)) (bundle.floatText (latenessSeconds started due))),
  ("timing",.str (timingOf (latenessSeconds started due)))]

theorem canonicalRecord_eq (cash balances positions orders : List Fields) :
    canonicalRecord bundle (observedRecord started finished start cash balances positions orders) day started due now stored =
      canonicalEntries bundle day started finished start due now stored (rowList cash) (rowList balances) (rowList positions) (rowList orders)
        (rowList (orders.filter isWorking)) := rfl

def canonicalKeys : List String := ["schema_version","account_scope","account_id","identity_verification","snapshot_atomic","observed_started_at",
  "observed_finished_at","cash","broker_reported_balances","positions","recent_orders_7d","known_non_terminal_orders_7d","recent_orders_complete",
  "open_orders_complete","orders_query_start","orders_query_end","trading_date","scheduled_at","job_started_at","store_requested_at",
  "lateness_seconds","timing"]

theorem canonicalKeys_nodup : canonicalKeys.Nodup := by decide

-- What a reader finds in a record that has these entries in some order
structure ReadsBack (cash balances positions orders : List Fields) (fields : Fields) : Prop where
  exactly : hasExactly fields storedKeys = true
  fixed : hasFixed fields (storedFixed day) = true
  cashCopy : ∃ copies, Copies cash copies ∧ fields.get "cash" = rowList copies
  balanceCopy : ∃ copies, Copies balances copies ∧ fields.get "broker_reported_balances" = rowList copies
  positionCopy : ∃ copies, Copies positions copies ∧ fields.get "positions" = rowList copies
  orderCopy : ∃ copies, Copies orders copies ∧ fields.get "recent_orders_7d" = rowList copies
  workingCopy : ∃ copies, Copies (orders.filter isWorking) copies ∧ fields.get "known_non_terminal_orders_7d" = rowList copies
  begins : fields.get "observed_started_at" = .str (isoformat started)
  ends : fields.get "observed_finished_at" = .str (isoformat finished)
  opens : fields.get "orders_query_start" = .str (isoformat start)
  closes : fields.get "orders_query_end" = .str (isoformat started)
  scheduled : fields.get "scheduled_at" = .str (isoformat due)
  job : fields.get "job_started_at" = .str (isoformat now)
  requested : fields.get "store_requested_at" = .str (isoformat stored)
  lateness : fields.get "lateness_seconds" = .float (.finite (latenessSeconds started due)) (bundle.floatText (latenessSeconds started due))
  timing : fields.get "timing" = .str (timingOf (latenessSeconds started due))

theorem hasExactly_perm {fields entries : Fields} (names : (entries.map Prod.fst).Nodup) (perm : fields.Perm entries) (keys : List String) :
    hasExactly fields keys = hasExactly entries keys := by
  have has : ∀ key, fields.has key = entries.has key := fun key => congrArg Option.isSome (lookup_perm names perm key)
  unfold hasExactly
  rw [perm.all_eq]
  simp only [has]

theorem hasFixed_perm {fields entries : Fields} (names : (entries.map Prod.fst).Nodup) (perm : fields.Perm entries) (expected : Fields) :
    hasFixed fields expected = hasFixed entries expected := by
  have get : ∀ key, fields.get key = entries.get key := fun key => congrArg (fun value => Option.getD value PyVal.none) (lookup_perm names perm key)
  unfold hasFixed
  simp only [get]

variable {bundle day started finished start due now stored}

theorem reads_entries {cash balances positions orders cash' balances' positions' orders' working' : List Fields} (cashes : Copies cash cash')
    (reported : Copies balances balances') (held : Copies positions positions') (ordered : Copies orders orders')
    (working : Copies (orders.filter isWorking) working') {fields : Fields}
    (perm : fields.Perm (canonicalEntries bundle day started finished start due now stored (rowList cash') (rowList balances') (rowList positions')
      (rowList orders') (rowList working'))) : ReadsBack bundle day started finished start due now stored cash balances positions orders fields := by
  have names : ((canonicalEntries bundle day started finished start due now stored (rowList cash') (rowList balances') (rowList positions')
      (rowList orders') (rowList working')).map Prod.fst).Nodup := canonicalKeys_nodup
  have get : ∀ key, fields.get key = _ := fun key => congrArg (fun value => Option.getD value PyVal.none) (lookup_perm names perm key)
  refine ⟨?_,?_,⟨cash',cashes,get _⟩,⟨balances',reported,get _⟩,⟨positions',held,get _⟩,⟨orders',ordered,get _⟩,⟨working',working,get _⟩,get _,get _,get _,
    get _,get _,get _,get _,get _,get _⟩
  · rw [hasExactly_perm names perm]
    rfl
  · rw [hasFixed_perm names perm]
    simp [hasFixed,storedFixed,canonicalEntries,isFixed,Fields.get,List.lookup_cons]

end entries

section check
variable {bundle : Bundle} {day : ℕ} {started finished start due now clock stored : ℤ} {cash balances positions orders : List Fields} {fields : Fields}

theorem ok_bind {ε α β : Type} (value : α) (rest : α → Except ε β) : (Except.ok value >>= rest) = rest value := rfl

theorem storedRows_reads {rowFields : RowFields} (regular : Regular rowFields) {name : String} {found copies : List Fields}
    (normal : NormalRows rowFields found) (copied : Copies found copies) (reads : fields.get name = rowList copies) :
    storedRows fields (name,rowFields) = .ok found := by
  unfold storedRows
  dsimp only
  rw [reads,rows_copies regular normal.normal normal.short copied,ok_bind,same_copies regular normal.normal copied]
  rfl

theorem forM_ok {ε α : Type} {items : List α} {body : α → Except ε Unit} (each : ∀ item ∈ items, body item = .ok ()) : items.forM body = .ok () := by
  induction items with
  | nil => rfl
  | cons item rest ih =>
    change (body item >>= fun _ => rest.forM body) = _
    rw [each item List.mem_cons_self,ok_bind]
    exact ih fun other member => each other (List.mem_cons_of_mem _ member)

-- The times between which a record was asked for, observed and stored
structure Timely (bundle : Bundle) (day : ℕ) (started due now clock stored : ℤ) : Prop where
  scheduled : bundle.due day = .ok (some due)
  dueInside : 0 ≤ due ∧ due < lastInstant
  nowInside : 0 ≤ now ∧ now < lastInstant
  storedInside : 0 ≤ stored ∧ stored < lastInstant
  elapsed : due ≤ now
  before : now ≤ clock
  after : clock ≤ stored
  observedOn : bundle.newYork.date started = day
  startedOn : bundle.newYork.date now = day
  late : 0 ≤ latenessSeconds started due

theorem checkStored_reads (observed : Observed clock started finished start cash balances positions orders)
    (timely : Timely bundle day started due now clock stored)
    (reads : ReadsBack bundle day started finished start due now stored cash balances positions orders fields) :
    checkStored bundle (.dict fields) day = .ok () := by
  obtain ⟨cash',cashes,cashRead⟩ := reads.cashCopy
  obtain ⟨balances',reported,balancesRead⟩ := reads.balanceCopy
  obtain ⟨positions',held,positionsRead⟩ := reads.positionCopy
  obtain ⟨orders',ordered,ordersRead⟩ := reads.orderCopy
  obtain ⟨working',working,workingRead⟩ := reads.workingCopy
  have workingRows : NormalRows orderFields (orders.filter isWorking) :=
    ⟨fun row member => observed.orderRows.normal row (List.mem_filter.mp member).1,(List.length_filter_le ..).trans observed.orderRows.short⟩
  have filled : (!cash.isEmpty && !balances.isEmpty) = true := by simp [observed.some]
  have times : decide (started ≤ finished ∧ now ≤ stored ∧ max now (finished - 30 * secondSpan) ≤ min stored (started + 5 * minuteSpan) ∧
      bundle.newYork.date started = day ∧ bundle.newYork.date now = day) = true := by
    have recent := observed.recent
    have close := observed.close
    refine decide_eq_true ⟨observed.ordered,timely.before.trans timely.after,?_,timely.observedOn,timely.startedOn⟩
    refine max_le (le_min (timely.before.trans timely.after) ?_) (le_min ?_ ?_)
    · linarith [timely.before]
    · linarith [timely.after]
    · linarith
  have schedule : decide (some due = some due ∧ due ≤ now ∧ started = started ∧ started - start = 7 * daySpan) = true :=
    decide_eq_true ⟨rfl,timely.elapsed,rfl,observed.week⟩
  unfold checkStored
  rw [show asFields (.dict fields) = .ok fields from rfl,ok_bind,reads.exactly,reads.fixed,show need (true && true) = .ok () from rfl,ok_bind,
    storedRows_reads cashFields_regular observed.cashRows cashes cashRead,ok_bind,
    storedRows_reads balanceFields_regular observed.balanceRows reported balancesRead,ok_bind,
    storedRows_reads positionFields_regular observed.positionRows held positionsRead,ok_bind,
    storedRows_reads orderFields_regular observed.orderRows ordered ordersRead,ok_bind,
    storedRows_reads orderFields_regular workingRows working workingRead,ok_bind,need_true filled,ok_bind,
    reads.begins,instant_isoformat observed.begins,ok_bind,reads.ends,instant_isoformat observed.ends,ok_bind,
    reads.opens,instant_isoformat observed.opens,ok_bind,reads.closes,instant_isoformat observed.begins,ok_bind,
    reads.scheduled,instant_isoformat timely.dueInside,ok_bind,reads.job,instant_isoformat timely.nowInside,ok_bind,
    reads.requested,instant_isoformat timely.storedInside,ok_bind]
  rw [need_true times,ok_bind,timely.scheduled,ok_bind,need_true schedule,ok_bind,need_true (decide_eq_true observed.digests),ok_bind,
    forM_ok observed.inside,ok_bind,workingRead,need_true (same_copies orderFields_regular workingRows.normal working),ok_bind,reads.lateness,reads.timing]
  refine need_true ?_
  simp [isNumber,PyVal.sameNumber,PyVal.number,timely.late,isFixed]

-- What the store gives back for a canonical record, its keys sorted
theorem canonicalEntries_sorted (observed : Observed clock started finished start cash balances positions orders) :
    (PyVal.dict (canonicalEntries bundle day started finished start due now stored (rowList cash) (rowList balances) (rowList positions) (rowList orders)
        (rowList (orders.filter isWorking)))).jsonSorted =
      .ok (.dict (sortedByKey (canonicalEntries bundle day started finished start due now stored (rowList (cash.map sortedByKey))
        (rowList (balances.map sortedByKey)) (rowList (positions.map sortedByKey)) (rowList (orders.map sortedByKey))
        (rowList ((orders.filter isWorking).map sortedByKey))))) := by
  have working : ∀ row ∈ orders.filter isWorking, Normal orderFields row :=
    fun row member => observed.orderRows.normal row (List.mem_filter.mp member).1
  simp only [canonicalEntries,PyVal.jsonSorted,PyVal.jsonSortedEntries,sorted_rows cashFields_regular observed.cashRows.normal,sorted_rows balanceFields_regular observed.balanceRows.normal,
    sorted_rows positionFields_regular observed.positionRows.normal,sorted_rows orderFields_regular observed.orderRows.normal,sorted_rows orderFields_regular working,ok_bind]
  rfl

def Fits (bundle : Bundle) (day : ℕ) (value : PyVal) : Prop :=
  validateStored bundle value day = .ok value ∧ ∃ copy, value.jsonSorted = .ok copy ∧ validateStored bundle copy day = .ok copy

theorem validateStored_ok {record : PyVal} (checked : checkStored bundle record day = .ok ()) : validateStored bundle record day = .ok record := by
  rw [validateStored,checked]

-- A canonical record passes as it is and as it is read back.
theorem canonicalRecord_fits (observed : Observed clock started finished start cash balances positions orders)
    (timely : Timely bundle day started due now clock stored) : Fits bundle day
      (.dict (canonicalRecord bundle (observedRecord started finished start cash balances positions orders) day started due now stored)) := by
  rw [canonicalRecord_eq]
  constructor
  · exact validateStored_ok (checkStored_reads observed timely (reads_entries (copies_refl _) (copies_refl _) (copies_refl _) (copies_refl _)
      (copies_refl _) (List.Perm.refl _)))
  · refine ⟨_,canonicalEntries_sorted observed,validateStored_ok (checkStored_reads observed timely ?_)⟩
    exact reads_entries (copies_sorted _) (copies_sorted _) (copies_sorted _) (copies_sorted _) (copies_sorted _) (sortedByKey_perm _)

end check

end LongBridge.Observation
