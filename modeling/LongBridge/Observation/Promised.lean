import LongBridge.Observation.Claiming

namespace LongBridge.Observation
open Effects

-- Days and times of a calendar are dates and times.
structure Dated (bundle : Bundle) : Prop where
  starts : 1 ≤ bundle.calendar.start
  stops : bundle.calendar.stop ≤ lastOrdinal
  dues : ∀ day due, bundle.due day = .ok (some due) → 0 ≤ due

def Due (bundle : Bundle) (now : ℤ) (gap : Gap) : Prop := bundle.due gap.1 = .ok (some gap.2) ∧ gap.2 ≤ now

-- A due day is marked, or its snapshot was not there.
def Marked (phase : Doing) (day : ℕ) : Prop := markerKey day ∈ phase.present ∨ snapshotKey day ∈ phase.missing

-- What a run holds after it has read the account
def Witnessed (now : ℤ) (phase : Doing) (record : Fields) (started : ℤ) : Prop :=
  phase.steady = true → ∃ time finished start cash balances positions orders, now ≤ time ∧ time ≤ phase.clock ∧ time < lastInstant ∧
    Observed time started finished start cash balances positions orders ∧ record = observedRecord started finished start cash balances positions orders

section facts
variable {bundle : Bundle} {fetching : Doing → Prop} {before after : Doing} {now started : ℤ} {record : Fields} {day : ℕ}

theorem due_day (dated : Dated bundle) {found : Option ℤ} (due : bundle.due day = .ok found) : IsDay day := by
  unfold Bundle.due Calendar.due at due
  split at due
  · cases due
  · rename_i inside
    have range := not_not.mp inside
    exact ⟨dated.starts.trans range.1,range.2.trans dated.stops⟩

theorem Marked.learnt (learnt : Learnt before after) (marked : Marked before day) : Marked after day :=
  marked.imp (learnt.present _) (learnt.missing _)

theorem Witnessed.learnt (learnt : Learnt before after) (witnessed : Witnessed now before record started) :
    Witnessed now after record started := by
  intro held
  obtain ⟨steady,later⟩ := learnt.steady held
  obtain ⟨time,finished,start,cash,balances,positions,orders,first,last,rest⟩ := witnessed steady
  exact ⟨time,finished,start,cash,balances,positions,orders,first,last.trans later,rest⟩

theorem validated_truthy {value : PyVal} (valid : validateStored bundle value day = .ok value) : value.truthy = true := by
  unfold validateStored at valid
  split at valid
  · rename_i checked
    cases value with
    | dict fields =>
      cases fields with
      | nil =>
        obtain ⟨fields,same,rest⟩ := bind_ok.mp checked
        cases same
        obtain ⟨⟨⟩,exactly,-⟩ := bind_ok.mp rest
        cases exactly
      | cons entry rest => rfl
    | _ =>
      obtain ⟨fields,same,-⟩ := bind_ok.mp checked
      cases same
  · cases valid

end facts

section promises
variable {bundle : Bundle} {fetching : Doing → Prop} {phase : Doing} {held : Bool} {now : ℤ} {day today : ℕ}

theorem storeNote_promises {key : String} {fields : Fields} (note : isNote key = true) :
    (storeObject key (.dict fields)).Promises (oneCollection bundle now fetching) Free phase held () := by
  refine promises_mono ?_ (storeObject_promises (.note note))
  intro after result locals reached
  cases result with
  | ok value => trivial
  | error raised => trivial

theorem complete_promises (dated : IsDay day) {record : PyVal} (read : record.truthy = true → (snapshotKey day,record) ∈ phase.known) :
    (complete bundle day record).Promises (oneCollection bundle now fetching) (Outcome (fun after _ _ => markerKey day ∈ after.present) Anything)
      phase held () := by
  refine promises_bind.mpr (promises_fromExcept.mpr ?_)
  cases validated : validateStored bundle record day with
  | error raised => trivial
  | ok value =>
    have valid : validateStored bundle record day = .ok record := by
      unfold validateStored at validated ⊢
      split at validated
      · rfl
      · cases validated
    have known := read (validated_truthy valid)
    refine promises_then (storeObject_promises (.baseline day record rfl rfl known valid dated)) ?_ (fun _ _ _ _ => trivial)
    intro after result locals reached
    obtain ⟨wrote,rfl⟩ := reached
    refine promises_mono ?_ (storeObject_promises (.marker day record rfl rfl known valid dated))
    intro last result locals reached
    cases result with
    | error raised => trivial
    | ok value =>
      obtain ⟨wrote,rfl⟩ := reached
      exact List.mem_cons_self

-- What scanning a day comes to
def ScannedDay (bundle : Bundle) (now : ℤ) (day : ℕ) (after : Doing) (gaps : List Gap) (_ : Unit) : Prop :=
  (∀ gap ∈ gaps, Due bundle now gap) ∧ ∀ due, bundle.due day = .ok (some due) → due ≤ now → Marked after day

theorem visitDay_promises (dated : IsDay day) {due : ℤ} {gaps : List Gap} (found : bundle.due day = .ok (some due)) (elapsed : due ≤ now)
    (dues : ∀ gap ∈ gaps, Due bundle now gap) :
    (visitDay bundle gaps day due).Promises (oneCollection bundle now fetching) (Outcome (ScannedDay bundle now day) Anything) phase held () := by
  refine promises_then (get_promises _) ?_ (fun _ _ _ _ => trivial)
  intro after record locals reached
  subst reached
  cases truthy : record.truthy with
  | true =>
    rw [if_pos rfl]
    refine promises_then (complete_promises dated fun truthy => read_known truthy) ?_ (fun _ _ _ _ => trivial)
    intro last result locals marked
    exact ⟨dues,fun _ _ _ => Or.inl marked⟩
  | false =>
    rw [if_neg (by decide)]
    refine ⟨fun gap member => ?_,fun _ _ _ => Or.inr ?_⟩
    · rcases List.mem_append.mp member with old | new
      · exact dues gap old
      · rw [List.mem_singleton.mp new]
        exact ⟨found,elapsed⟩
    · exact read_missing truthy

theorem visitDue_promises (dated : IsDay day) {due : ℤ} {gaps : List Gap} (found : bundle.due day = .ok (some due)) (elapsed : due ≤ now)
    (dues : ∀ gap ∈ gaps, Due bundle now gap) :
    (visitDue bundle gaps day due).Promises (oneCollection bundle now fetching) (Outcome (ScannedDay bundle now day) Anything) phase held () := by
  refine promises_then (get_promises _) ?_ (fun _ _ _ _ => trivial)
  intro after marker locals reached
  subst reached
  cases truthy : marker.truthy with
  | true =>
    rw [if_pos rfl]
    refine ⟨dues,fun _ _ _ => Or.inl ?_⟩
    exact read_present truthy
  | false =>
    rw [if_neg (by decide)]
    exact visitDay_promises dated found elapsed dues

theorem scanDay_promises (dated : Dated bundle) {gaps : List Gap} (dues : ∀ gap ∈ gaps, Due bundle now gap) :
    (scanDay bundle now gaps day).Promises (oneCollection bundle now fetching) (Outcome (ScannedDay bundle now day) Anything) phase held () := by
  refine promises_bind.mpr (promises_fromExcept.mpr ?_)
  cases found : bundle.due day with
  | error raised => trivial
  | ok due =>
    cases due with
    | none =>
      refine ⟨dues,fun due same => ?_⟩
      rw [found] at same
      cases same
    | some due =>
      show (if due ≤ now then visitDue bundle gaps day due else pure gaps).Promises _ _ phase held ()
      by_cases elapsed : due ≤ now
      · rw [if_pos elapsed]
        exact visitDue_promises (due_day dated found) found elapsed dues
      · rw [if_neg elapsed]
        refine ⟨dues,fun other same early => ?_⟩
        rw [found] at same
        cases same
        exact absurd early elapsed

theorem markGaps_promises {gaps : List Gap} : (markGaps today gaps).Promises (oneCollection bundle now fetching) Free phase held () := by
  refine promises_forM (I := fun _ _ _ => True) ?_ trivial
  intro front gap phase locals _ _
  split
  · refine promises_mono ?_ (storeNote_promises (isNote_of (gapKey_start gap.1) (by decide)))
    intro after result locals reached
    cases result <;> trivial
  · trivial

theorem stopDay_promises {code : String} : (stopDay today code).Promises (oneCollection bundle now fetching) Free phase held () := by
  refine promises_then (storeNote_promises (isNote_of (stoppedKey_start today) (by decide))) ?_ (fun _ _ _ _ => trivial)
  intro after result locals reached
  trivial

theorem recordFailure_promises {code : String} : (recordFailure today now code).Promises (oneCollection bundle now fetching) Free phase held () := by
  refine promises_then (storeNote_promises (isNote_of (failureKey_start today now) (by decide))) ?_ (fun _ _ _ _ => trivial)
  intro after result locals reached
  split
  · exact stopDay_promises
  · trivial

-- The account is read once for the claim, and its record is what sanitize has accepted.
theorem readAccount_promises {binding : String} (claimed : collectorFetch bundle now phase) (begun : phase.steady = true → now ≤ phase.clock) :
    (readAccount binding).Promises (oneCollection bundle now (collectorFetch bundle now))
      (Outcome (fun after record _ => ∀ started, instant (record.get "observed_started_at") = .ok started → Witnessed now after record started) Anything)
      phase held () := by
  refine promises_bind.mpr (promises_invoke.mpr ⟨claimed,fun answer _ => ?_⟩)
  cases answer with
  | error raised => trivial
  | ok payload =>
    refine promises_bind.mpr (promises_invoke.mpr ⟨trivial,fun reading possible => ?_⟩)
    cases reading with
    | error raised => trivial
    | ok time =>
      refine promises_fromExcept.mpr ?_
      cases accepted : sanitize payload binding time with
      | error raised => trivial
      | ok record =>
        intro started read held
        obtain ⟨steady,later⟩ := ticked_steady held
        have begins : now ≤ phase.clock := begun steady
        obtain ⟨other,finished,start,cash,balances,positions,orders,observed,rfl⟩ := sanitize_ok accepted
        have again : instant (.str (isoformat other)) = .ok started := read
        rw [instant_isoformat observed.begins] at again
        cases again
        exact ⟨time,finished,start,cash,balances,positions,orders,begins.trans later,le_refl _,possible,observed,rfl⟩

theorem storeSnapshot_promises (dated : Dated bundle) {record : Fields} {started due : ℤ} (scheduled : Due bundle now (day,due)) (positive : 0 ≤ now)
    (same : bundle.newYork.date now = day) (observedOn : bundle.newYork.date started = day) (witnessed : Witnessed now phase record started) :
    (storeSnapshot bundle record now started day due).Promises (oneCollection bundle now (collectorFetch bundle now)) Free phase held () := by
  unfold storeSnapshot
  split
  · trivial
  · rename_i late
    refine promises_bind.mpr (promises_invoke.mpr ⟨trivial,fun reading possible => ?_⟩)
    cases reading with
    | error raised => trivial
    | ok stored =>
      have may : MayCreate bundle now ((phase.ticked stored).steady = true) (phase.ticked stored).known
          (snapshotKey day) (.dict (canonicalRecord bundle record day started due now stored)) := by
        refine .snapshot day rfl (due_day dated scheduled.1) fun held => ?_
        obtain ⟨steady,later⟩ := ticked_steady held
        obtain ⟨time,finished,start,cash,balances,positions,orders,begun,ended,bound,observed,rfl⟩ := witnessed steady
        have after : time ≤ stored := ended.trans later
        exact canonicalRecord_fits observed ⟨scheduled.1,⟨dated.dues day due scheduled.1,lt_of_le_of_lt scheduled.2 (lt_of_le_of_lt begun bound)⟩,
          ⟨positive,lt_of_le_of_lt begun bound⟩,⟨positive.trans (begun.trans after),possible⟩,scheduled.2,begun,after,observedOn,same,not_lt.mp late⟩
      refine promises_then (storeObject_promises may) ?_ (fun _ _ _ _ => trivial)
      intro after result locals reached
      obtain ⟨wrote,rfl⟩ := reached
      refine promises_then (get_promises _) ?_ (fun _ _ _ _ => trivial)
      intro last copy locals reached
      subst reached
      refine promises_mono ?_ (complete_promises (due_day dated scheduled.1) fun truthy => read_known truthy)
      intro after result locals reached
      cases result <;> trivial

theorem storeOrders_promises {record : Fields} {observed : ℤ} :
    (storeOrders bundle record now observed day).Promises (oneCollection bundle now (collectorFetch bundle now)) Free phase held () := by
  unfold storeOrders
  split
  · refine promises_bind.mpr (promises_fromExcept.mpr ?_)
    cases ordersOn bundle.newYork record day with
    | error raised => trivial
    | ok orders => exact storeNote_promises (isNote_orders day observed)
  · trivial

-- What the run knows when it fills its gaps
structure Filling (bundle : Bundle) (now : ℤ) (today : ℕ) (gaps : List Gap) : Prop where
  dated : Dated bundle
  positive : 0 ≤ now
  same : bundle.newYork.date now = today
  dues : ∀ gap ∈ gaps, Due bundle now gap

theorem storeGap_promises {gaps : List Gap} (filling : Filling bundle now today gaps) {record : Fields} {observed : ℤ}
    (observedOn : bundle.newYork.date observed = today) (witnessed : Witnessed now phase record observed) {gap : Gap} (member : gap ∈ gaps) :
    (storeGap bundle record today now observed gap).Promises (oneCollection bundle now (collectorFetch bundle now)) Free phase held () := by
  have first : (storeToday bundle record today now observed gap).Promises (oneCollection bundle now (collectorFetch bundle now)) Free phase held () := by
    unfold storeToday
    split
    · rename_i own
      exact storeSnapshot_promises filling.dated (filling.dues gap member) filling.positive (filling.same.trans own.symm)
        (observedOn.trans own.symm) witnessed
    · trivial
  refine promises_then first ?_ (fun _ _ _ _ => trivial)
  intro after result locals reached
  exact storeOrders_promises

theorem storeGaps_promises {gaps : List Gap} (filling : Filling bundle now today gaps) {record : Fields} {observed : ℤ}
    (observedOn : bundle.newYork.date observed = today) (witnessed : Witnessed now phase record observed) :
    (storeGaps bundle record today now observed gaps).Promises (oneCollection bundle now (collectorFetch bundle now)) Free phase held () := by
  refine promises_then (learns (storeNote_promises (isNote_of (observationKey_start observed) (by decide)))) ?_ (fun _ _ _ _ => trivial)
  intro after result locals ⟨_,learnt⟩
  have loop : (gaps.forM (storeGap bundle record today now observed)).Promises (oneCollection bundle now (collectorFetch bundle now)) Free after held () := by
    refine promises_mono ?_ (promises_forM (B := Anything) (I := fun _ phase _ => Witnessed now phase record observed) ?_ (witnessed.learnt learnt))
    · intro last result locals reached
      cases result <;> trivial
    · intro front gap phase locals before kept
      have member : gap ∈ gaps := before.subset (List.mem_append_right _ List.mem_cons_self)
      refine promises_mono ?_ (learns (storeGap_promises filling observedOn kept member))
      intro last result locals reached
      cases result with
      | error raised => trivial
      | ok value => exact kept.learnt reached.2
  refine promises_then loop ?_ (fun _ _ _ _ => trivial)
  intro last result locals reached
  trivial

theorem storeObservation_promises {gaps : List Gap} (filling : Filling bundle now today gaps) {record : Fields}
    (witnessed : ∀ started, instant (record.get "observed_started_at") = .ok started → Witnessed now phase record started) :
    (storeObservation bundle record today now gaps).Promises (oneCollection bundle now (collectorFetch bundle now)) Free phase held () := by
  refine promises_bind.mpr (promises_fromExcept.mpr ?_)
  cases read : instant (record.get "observed_started_at") with
  | error raised => trivial
  | ok observed =>
    show (if bundle.newYork.date observed ≠ today then stopDay today "schema_invalid" else storeGaps bundle record today now observed gaps).Promises
      _ _ phase held ()
    split
    · exact stopDay_promises
    · rename_i same
      exact storeGaps_promises filling (not_not.mp same) (witnessed observed read)

theorem observeClaimed_promises {gaps : List Gap} (filling : Filling bundle now today gaps) {binding : String}
    (claimed : collectorFetch bundle now phase) (begun : phase.steady = true → now ≤ phase.clock) :
    (observeClaimed bundle binding today now gaps).Promises (oneCollection bundle now (collectorFetch bundle now)) Free phase held () := by
  refine promises_bind.mpr (promises_attempt.mpr (promises_mono ?_ (readAccount_promises claimed begun)))
  intro after result locals reached
  cases result with
  | ok record => exact storeObservation_promises filling reached
  | error exc =>
    show (if exc.kind = "ObservationError" then recordFailure today now exc.text else Script.raise exc).Promises _ _ after held locals
    split
    · exact recordFailure_promises
    · trivial

theorem observe_promises {gaps : List Gap} (filling : Filling bundle now today gaps) {binding claim : String} (own : claim ∈ runClaims bundle now)
    (unfetched : phase.fetched = false) (begun : phase.steady = true → now ≤ phase.clock) :
    (observe bundle binding today now gaps claim).Promises (oneCollection bundle now (collectorFetch bundle now)) Free phase held () := by
  refine promises_then (create_promises (.claim own rfl)) ?_ (fun _ _ _ _ => trivial)
  intro after claimed locals reached
  subst reached
  cases claimed with
  | true => exact observeClaimed_promises filling ⟨unfetched,claim,own,List.mem_cons_self⟩ begun
  | false => trivial

theorem ordinary_claim {gaps : List Gap} {due : ℤ} (found : ordinaryGap today now gaps = some (day,due)) :
    attemptKey day ((now - due) / (900 * secondSpan)) ∈ claimKeys today (utcOrdinal now) := by
  have holds := List.find?_some found
  rw [Bool.and_eq_true_iff,decide_eq_true_eq,decide_eq_true_eq] at holds
  obtain ⟨same,low,high⟩ : day = today ∧ 0 ≤ now - due ∧ now - due < 45 * minuteSpan := holds
  have number : (now - due) / (900 * secondSpan) = 0 ∨ (now - due) / (900 * secondSpan) = 1 ∨ (now - due) / (900 * secondSpan) = 2 := by
    have minutes : 45 * minuteSpan = 3 * (900 * secondSpan) := by decide
    have positive : (0 : ℤ) < 900 * secondSpan := by decide
    have bottom := Int.ediv_nonneg low positive.le
    have top : (now - due) / (900 * secondSpan) < 3 := Int.ediv_lt_of_lt_mul positive (by linarith)
    omega
  rw [same]
  rcases number with zero | one | two
  · rw [zero]
    exact List.mem_cons_self
  · rw [one]
    exact List.mem_cons_of_mem _ List.mem_cons_self
  · rw [two]
    exact List.mem_cons_of_mem _ (List.mem_cons_of_mem _ List.mem_cons_self)

theorem recovery_claim (today date : ℕ) : recoveryKey date ∈ claimKeys today date :=
  List.mem_cons_of_mem _ (List.mem_cons_of_mem _ (List.mem_cons_of_mem _ List.mem_cons_self))

theorem recoverGaps_promises {gaps : List Gap} (filling : Filling bundle now today gaps) {binding : String} (unfetched : phase.fetched = false)
    (begun : phase.steady = true → now ≤ phase.clock) :
    (recoverGaps bundle binding today now gaps).Promises (oneCollection bundle now (collectorFetch bundle now)) Free phase held () := by
  refine promises_then (quietly markGaps_promises) ?_ (fun _ _ _ _ => trivial)
  intro after result locals ⟨_,learnt,same⟩
  split
  · exact observe_promises filling (recovery_claim _ _) (same.trans unfetched) fun held => (begun (learnt.steady held).1).trans (learnt.steady held).2
  · trivial

theorem claimGaps_promises {gaps : List Gap} (filling : Filling bundle now today gaps) {binding : String} (unfetched : phase.fetched = false)
    (begun : phase.steady = true → now ≤ phase.clock) :
    (claimGaps bundle binding today now gaps).Promises (oneCollection bundle now (collectorFetch bundle now)) Free phase held () := by
  unfold claimGaps
  split
  · rename_i day due found
    have own : attemptKey day ((now - due) / (900 * secondSpan)) ∈ runClaims bundle now := by
      rw [runClaims,filling.same]
      exact ordinary_claim found
    exact observe_promises filling own unfetched begun
  · split
    · trivial
    · exact recoverGaps_promises filling unfetched begun

theorem fillGaps_promises {gaps : List Gap} (filling : Filling bundle now today gaps) {binding : String} (unfetched : phase.fetched = false)
    (begun : phase.steady = true → now ≤ phase.clock) :
    (fillGaps bundle binding today now gaps).Promises (oneCollection bundle now (collectorFetch bundle now)) Free phase held () := by
  refine promises_then (quietly (get_promises _)) ?_ (fun _ _ _ _ => trivial)
  intro after stopped locals ⟨_,learnt,same⟩
  split
  · trivial
  · exact claimGaps_promises filling (same.trans unfetched) fun held => (begun (learnt.steady held).1).trans (learnt.steady held).2

-- Every day up to today that is due is marked, or its snapshot was not there.
def Covered (bundle : Bundle) (start : ℕ) (now : ℤ) (phase : Doing) : Prop :=
  ∀ day ∈ expectedDays start (bundle.newYork.date now), ∀ due, bundle.due day = .ok (some due) → due ≤ now → Marked phase day

theorem scan_promises (dated : Dated bundle) {days : List ℕ} :
    (days.foldlM (scanDay bundle now) []).Promises (oneCollection bundle now fetching)
      (Outcome (fun after gaps _ => (∀ gap ∈ gaps, Due bundle now gap) ∧
        ∀ day ∈ days, ∀ due, bundle.due day = .ok (some due) → due ≤ now → Marked after day) Anything) phase held () := by
  refine promises_foldlM (I := fun front after gaps _ => (∀ gap ∈ gaps, Due bundle now gap) ∧
    ∀ day ∈ front, ∀ due, bundle.due day = .ok (some due) → due ≤ now → Marked after day) ?_ ⟨(fun _ member => nomatch member),fun _ member => nomatch member⟩
  intro front day phase gaps locals _ kept
  refine promises_mono ?_ (learns (scanDay_promises dated kept.1))
  intro after result locals reached
  cases result with
  | error raised => trivial
  | ok gaps' =>
    obtain ⟨⟨dues,marked⟩,learnt⟩ := reached
    refine ⟨dues,fun other member due found elapsed => ?_⟩
    rcases List.mem_append.mp member with earlier | last
    · exact (kept.2 other earlier due found elapsed).learnt learnt
    · rw [List.mem_singleton.mp last] at found ⊢
      exact marked due found elapsed

-- What a whole run promises
theorem collect_promises (dated : Dated bundle) {binding : String} {start : ℕ} (positive : 0 ≤ now) :
    (collect bundle binding start now).Promises (oneCollection bundle now (collectorFetch bundle now)) (Outcome (fun after _ _ => Covered bundle start now after) Anything)
      (.fresh now) held () := by
  refine promises_then (quietly (storeNote_promises (isNote_of (heartbeatKey_start now) (by decide)))) ?_ (fun _ _ _ _ => trivial)
  intro phase result locals ⟨_,learnt,same⟩
  refine promises_bind.mpr (promises_fromExcept.mpr ?_)
  cases bundle.due (bundle.newYork.date now) with
  | error raised => trivial
  | ok due =>
    refine promises_then (quietly (scan_promises dated)) ?_ (fun _ _ _ _ => trivial)
    intro after gaps locals ⟨⟨dues,marked⟩,learnt',same'⟩
    split
    · exact marked
    · have begun : after.steady = true → now ≤ after.clock := fun held =>
        (learnt.steady (learnt'.steady held).1).2.trans (learnt'.steady held).2
      refine promises_mono ?_ (learns (fillGaps_promises ⟨dated,positive,rfl,dues⟩ (same'.trans same) begun))
      intro last result locals reached
      cases result with
      | error raised => trivial
      | ok text => exact fun day member due found elapsed => (marked day member due found elapsed).learnt reached.2

end promises

end LongBridge.Observation
