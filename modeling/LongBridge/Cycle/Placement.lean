import LongBridge.Cycle.Quiet

namespace LongBridge.Cycle
open Effects

-- A run that ends normally has no failure behind it, where nothing handles one.
def Clean (script : Step α) : Prop :=
  ∀ held before events value after, script.Steps held before events (.ok value) after →
    ∀ event ∈ events, hookFailed event = false

theorem clean_pure (value : α) : Clean (pure value : Step α) := by
  intro held before events result after steps
  obtain ⟨rfl,_⟩ := steps_pure.mp steps
  simp

theorem clean_bind {script : Step α} {rest : α → Step β} (first : Clean script) (second : ∀ value, Clean (rest value)) :
    Clean (script >>= rest) := by
  intro held before events result after steps
  rcases steps_bind.mp steps with ⟨one,two,value,middle,rfl,ran,ended⟩ | ⟨error,wrong,_⟩
  · intro event member
    exact (List.mem_append.mp member).elim (first _ _ _ _ _ ran event) (second value _ _ _ _ _ ended event)
  · cases wrong

theorem clean_call (request : Call) : Clean (call request) := by
  intro held before events value after steps
  obtain ⟨rfl,_⟩ := steps_invoke.mp steps
  intro event member
  rw [List.mem_singleton.mp member]
  cases held <;> cases request <;> simp [hookFailed,isError]

theorem clean_changeJournal (change : Journal → Journal) : Clean (changeJournal change) := by
  intro held before events value after steps
  obtain ⟨rfl,_⟩ := steps_modify.mp steps
  simp

theorem clean_ite {c : Prop} [Decidable c] {yes no : Step α} (first : Clean yes) (second : Clean no) :
    Clean (if c then yes else no) := by
  split
  · exact first
  · exact second

theorem clean_whenever {condition : Bool} {script : Step Unit} (clean : Clean script) : Clean (whenever condition script) :=
  clean_ite clean (clean_pure ())

theorem clean_appendOrderIdSuffix (message : String) (brokerOrderId : Option String) :
    Clean (appendOrderIdSuffix message brokerOrderId) :=
  clean_ite (clean_pure _) (clean_bind (clean_call _) (fun _ => clean_pure _))

theorem clean_afterSubmission (settings : Settings) (intent : OrderIntent) (report : ExecutionReport) (message : String) :
    Clean (afterSubmission settings intent report message) := by
  refine clean_bind (clean_appendOrderIdSuffix _ _) (fun suffixed => ?_)
  refine clean_bind (clean_call _) (fun pendingLog => ?_)
  refine clean_bind (clean_changeJournal _) (fun _ => ?_)
  exact clean_bind (clean_bind (clean_call _) (fun _ => clean_pure _)) (fun _ => clean_whenever (clean_call _))

-- What may happen behind a submission besides a failing hook.
structure Placid (before : Locals) (events : List Happening) (after : Locals) : Prop where
  events : ∀ event ∈ events, isOrder event = false ∧ isFetch event = false ∧ isAdjustment event = false
  book : after.book = before.book
  gate : after.gate = before.gate
  view : after.view = before.view

theorem placid_composes : Composes Placid where
  refl before := ⟨by simp,rfl,rfl,rfl⟩
  trans one two :=
    ⟨fun event member => (List.mem_append.mp member).elim (one.events event) (two.events event),
      two.book.trans one.book,two.gate.trans one.gate,two.view.trans one.view⟩

theorem placid_call {request : Call} {held : Bool} (quiet : ∀ answer : Except PyExc (Result request),
    isOrder (.answered held request answer : Happening) = false ∧ isFetch (.answered held request answer : Happening) = false) :
    Keeps Placid held (call request) :=
  keeps_invoke (fun _ answer => ⟨by simpa [isAdjustment] using quiet answer,rfl,rfl,rfl⟩)

theorem placid_changeJournal {held : Bool} (change : Journal → Journal) : Keeps Placid held (changeJournal change) :=
  keeps_modify (fun _ => ⟨by simp,rfl,rfl,rfl⟩)

theorem placid_afterSubmission {held : Bool} (settings : Settings) (intent : OrderIntent) (report : ExecutionReport)
    (message : String) : Keeps Placid held (afterSubmission settings intent report message) := by
  refine keeps_bind placid_composes ?_ (fun suffixed => ?_)
  · refine keeps_ite (keeps_pure placid_composes _) ?_
    exact keeps_bind placid_composes (placid_call (fun _ => ⟨rfl,rfl⟩)) (fun suffix => keeps_pure placid_composes _)
  refine keeps_bind placid_composes (placid_call (fun _ => ⟨rfl,rfl⟩)) (fun pendingLog => ?_)
  refine keeps_bind placid_composes (placid_changeJournal _) (fun _ => ?_)
  refine keeps_bind placid_composes ?_ (fun _ => ?_)
  · exact keeps_bind placid_composes (placid_call (fun _ => ⟨rfl,rfl⟩)) (fun _ => keeps_pure placid_composes _)
  · exact keeps_ite (placid_call (fun _ => ⟨rfl,rfl⟩)) (keeps_pure placid_composes _)

theorem changeBook_bind {change : OrderBook → OrderBook} {rest : Unit → Step α} {held : Bool} {before after : Locals}
    {events : List Happening} {result : Except PyExc α} :
    (changeBook change >>= rest).Steps held before events result after ↔
      (rest ()).Steps held { before with book := change before.book } events result after := steps_modify_bind

-- What the cycle does with one answer of the port.
structure Settled (intent : OrderIntent) (answer : Except PyExc (Option ExecutionReport)) (before : Locals)
    (events : List Happening) (after : Locals) : Prop where
  harmless : ∀ event ∈ events, isOrder event = false ∧ isFetch event = false ∧ isAdjustment event = false
  pending : after.book.pendingOrders = before.book.pendingOrders ++ (recordedOrder intent answer).toList
  unknown : outcomeUnknown answer = true → after.book.submissionHalted = true
  hook : (∃ event ∈ events, hookFailed event = true) → after.book.submissionHalted = true
  sticky : before.book.submissionHalted = true → after.book.submissionHalted = true
  dryRun : after.book.dryRunOrders = before.book.dryRunOrders
  gate : after.gate = before.gate
  view : after.view = before.view

theorem quiet_placid {before after : Locals} {events : List Happening} (quiet : Quiet before events after) :
    ∀ event ∈ events, isOrder event = false ∧ isFetch event = false ∧ isAdjustment event = false := by
  intro event member
  obtain ⟨order,fetch,adjustment,_⟩ := quiet_parts (quiet.events event member)
  exact ⟨order,fetch,adjustment⟩

theorem quiet_noHook {before after : Locals} {events : List Happening} (quiet : Quiet before events after) :
    ¬∃ event ∈ events, hookFailed event = true := by
  rintro ⟨event,member,failed⟩
  rw [(quiet_parts (quiet.events event member)).2.2.2] at failed
  cases failed

theorem notify_then {title detail : String} {value : α} {before after : Locals} {events : List Happening}
    {result : Except PyExc α}
    (steps : (notifySubmissionIssue title detail >>= fun _ => (pure value : Step α)).Steps false before events result after) :
    Quiet before events after :=
  quiet_bind (quiet_notifySubmissionIssue title detail) (fun _ => quiet_pure value) before events result after steps

theorem recordUnknown_settled {intent : OrderIntent} {answer : Except PyExc (Option ExecutionReport)}
    {brokerOrderId : Option String} {before after : Locals} {events : List Happening} {result : Except PyExc Bool}
    (recorded : recordedOrder intent answer = some (unknownOrder intent brokerOrderId))
    (steps : (recordUnknown intent answer brokerOrderId).Steps false before events result after) :
    Settled intent answer before events after := by
  unfold recordUnknown halt recordPending at steps
  rw [changeBook_bind,changeBook_bind] at steps
  have quiet := notify_then steps
  refine ⟨quiet_placid quiet,?_,?_,fun failed => absurd failed (quiet_noHook quiet),?_,?_,quiet.gate,quiet.view⟩
  all_goals rw [quiet.book]
  · rw [recorded]; rfl
  · exact fun _ => rfl
  · exact fun _ => rfl

theorem recordKnown_settled {settings : Settings} {intent : OrderIntent} {report : ExecutionReport} {message : String}
    {before after : Locals} {events : List Happening} {result : Except PyExc Bool}
    (notRejected : reportStatus (some report) ≠ "rejected") (known : isKnownSubmission (reportStatus (some report)) = true)
    (steps : (recordKnown settings intent report message).Steps false before events result after) :
    Settled intent (.ok (some report)) before events after := by
  have recorded : recordedOrder intent (.ok (some report)) = some (knownOrder intent report) := by
    simp [recordedOrder,notRejected,known]
  have certain : outcomeUnknown (.ok (some report)) = false := by simp [outcomeUnknown,known]
  unfold recordKnown recordPending recordSubmitted at steps
  rw [changeBook_bind,changeBook_bind] at steps
  rcases steps_bind.mp steps with ⟨one,two,finished,middle,rfl,ran,ended⟩ | ⟨error,_,ran⟩
  · obtain ⟨reply,same,inside⟩ := steps_attempt.mp ran
    cases same
    have placid := placid_afterSubmission settings intent report message _ _ _ _ inside
    cases finished with
    | ok done =>
      obtain ⟨rfl,_,rfl⟩ := steps_pure.mp ended
      have clean := clean_afterSubmission settings intent report message _ _ _ _ _ inside
      rw [List.append_nil]
      refine ⟨placid.events,?_,?_,?_,?_,?_,placid.gate,placid.view⟩
      · rw [placid.book,recorded]; rfl
      · rw [certain]; exact fun wrong => by cases wrong
      · rintro ⟨event,member,failed⟩
        rw [clean event member] at failed; cases failed
      · rw [placid.book]; exact id
      · rw [placid.book]
    | error exc =>
      unfold halt at ended
      have quiet := notify_then (changeBook_bind.mp ended)
      refine ⟨?_,?_,?_,?_,?_,?_,quiet.gate.trans placid.gate,quiet.view.trans placid.view⟩
      · exact fun event member => (List.mem_append.mp member).elim (placid.events event) (quiet_placid quiet event)
      all_goals rw [quiet.book]
      · simp only [placid.book,recorded]; rfl
      · exact fun _ => rfl
      · exact fun _ => rfl
      · exact fun _ => rfl
      · simp only [placid.book]
  · obtain ⟨_,same,_⟩ := steps_attempt.mp ran; cases same

theorem recordAnswer_settled {settings : Settings} {intent : OrderIntent} {message : String}
    {answer : Except PyExc (Option ExecutionReport)} {before after : Locals} {events : List Happening}
    {result : Except PyExc Bool}
    (steps : (recordAnswer settings intent message answer).Steps false before events result after) :
    Settled intent answer before events after := by
  rcases answer with exc | ⟨_ | report⟩
  · exact recordUnknown_settled rfl steps
  · exact recordUnknown_settled rfl steps
  · simp only [recordAnswer] at steps
    split at steps
    · rename_i rejected
      have quiet := notify_then steps
      refine ⟨quiet_placid quiet,?_,?_,fun failed => absurd failed (quiet_noHook quiet),?_,?_,quiet.gate,quiet.view⟩
      all_goals rw [quiet.book]
      · simp [recordedOrder,rejected]
      · simp [outcomeUnknown,rejected]
      · exact id
    · rename_i notRejected
      split at steps
      · exact recordKnown_settled notRejected ‹_› steps
      · rename_i unknown
        exact recordUnknown_settled (by simp [recordedOrder,notRejected,unknown]) steps

end LongBridge.Cycle
