import LongBridge.Cycle.Submissions
import LongBridge.Strategy.CommandStore

namespace LongBridge.Strategy
open Effects

-- A claimed command: the one outcome its cycle records, and reconciliations by any
-- later cycles, in any order and with any answers. What happens to other commands
-- in between does not touch its events.
inductive Life (command : Command) : Option Cycle.CycleResult → List Happening → Ledger → Prop where
  | claim : ledger.state command = .claimed → Life command none [] ledger
  | record : Life command none history ledger →
      (recordLiveCommandOutcome command cycle).Steps held before events result after → ledger.Follows events later →
      Life command (some cycle) (history ++ events) later
  | reconcile : Life command recorded history ledger →
      (reconcileLiveCommand config command).Steps held before events result after → ledger.Follows events later →
      Life command recorded (history ++ events) later
  | elsewhere : Life command recorded history ledger →
      later.log command.commandId = ledger.log command.commandId → Life command recorded history later

section operations
variable {config : Config} {command : Command} {cycle : Cycle.CycleResult} {held : Bool} {before after : ClaimState}
  {events : List Happening} {ledger later : Ledger}

-- A broker said this about an order.
def Reported (events : List Happening) (brokerOrderId status : String) : Prop :=
  ∃ flag report, (.answered flag (.cycle (.fetchOrderStatus brokerOrderId)) (.ok (some report)) : Happening) ∈ events ∧
    brokerStatus report = status

theorem Reported.mono {more : List Happening} {id status : String} (reported : Reported events id status)
    (subset : ∀ event ∈ events, event ∈ more) : Reported more id status := by
  obtain ⟨flag,report,member,same⟩ := reported
  exact ⟨flag,report,subset _ member,same⟩

-- A chain that stops anywhere has written the first of its states.
theorem appendChain_writes {details : Details} {states : List CommandState} {result : Except PyExc Unit}
    (steps : (appendChain command details states).Steps held before events result after)
    (follows : ledger.Follows events later) :
    ∃ taken, taken <+: states ∧
      later.log command.commandId = ledger.log command.commandId ++ taken.map fun state => ⟨state,details⟩ := by
  induction states generalizing events ledger before with
  | nil =>
    obtain ⟨rfl,_,_⟩ := steps_pure.mp steps
    rw [follows_nil.mp follows]
    exact ⟨[],List.prefix_rfl,by simp⟩
  | cons state rest ih =>
    rcases steps_invoke_bind.mp steps with ⟨written,tail,rfl,going⟩ | ⟨error,rfl,_,_⟩
    · obtain ⟨middle,one,following⟩ := follows_cons.mp follows
      cases written with
      | true =>
        obtain ⟨taken,lead,same⟩ := ih going following
        rw [show middle = _ from one,Ledger.append_same] at same
        exact ⟨state :: taken,(List.prefix_cons_inj state).mpr lead,by rw [same]; simp⟩
      | false =>
        obtain ⟨rfl,_,_⟩ := steps_pure.mp going
        rw [follows_nil.mp following,show middle = ledger from one]
        exact ⟨[],List.nil_prefix,by simp⟩
    · rcases follows_one.mp follows with rfl | rfl
      · exact ⟨[],List.nil_prefix,by simp⟩
      · exact ⟨[state],(List.prefix_cons_inj state).mpr List.nil_prefix,by simp⟩

-- The appends of a chain are of its own states, with the same details.
theorem appendChain_appends {details : Details} {states : List CommandState} {result : Except PyExc Unit}
    (steps : (appendChain command details states).Steps held before events result after) :
    ∀ event ∈ events, ∃ state ∈ states, ∃ answer,
      event = .answered held (.appendEvent command state details none) answer := by
  induction states generalizing events before with
  | nil =>
    obtain ⟨rfl,_,_⟩ := steps_pure.mp steps
    intro event member; cases member
  | cons state rest ih =>
    rcases steps_invoke_bind.mp steps with ⟨written,tail,rfl,going⟩ | ⟨error,rfl,_,_⟩
    · intro event member
      rcases List.mem_cons.mp member with rfl | after_
      · exact ⟨state,List.mem_cons_self ..,_,rfl⟩
      · cases written with
        | true =>
          obtain ⟨other,among,answer,same⟩ := ih going event after_
          exact ⟨other,List.mem_cons_of_mem _ among,answer,same⟩
        | false =>
          obtain ⟨rfl,_,_⟩ := steps_pure.mp going
          cases after_
    · intro event member
      obtain rfl := List.mem_singleton.mp member
      exact ⟨state,List.mem_cons_self ..,_,rfl⟩

-- What the outcome of a cycle may end its command with.
theorem outcomeStates_filled (member : CommandState.filled ∈ outcomeStates cycle) :
    cycle.pendingOrders ≠ [] ∧ ∀ order ∈ cycle.pendingOrders, lower order.submissionStatus = "filled" := by
  unfold outcomeStates at member
  simp only at member
  split at member
  · rename_i every
    simpa [recordedCommandOrder] using every
  · split_ifs at member <;> simp at member

theorem outcomeStates_withdrawn {next : CommandState} (member : next ∈ outcomeStates cycle)
    (withdrawn : next = .cancelled ∨ next = .rejected) : cycle.pendingOrders = [] ∧ cycle.actionDone = false := by
  unfold outcomeStates at member
  simp only at member
  split_ifs at member with filled working accepted left
  · rcases withdrawn with rfl | rfl <;> simp at member
  · rcases withdrawn with rfl | rfl <;> simp at member
  · rcases withdrawn with rfl | rfl <;> simp at member
  · rcases withdrawn with rfl | rfl <;> simp at member
  · simpa using left
  · simpa using left

theorem readStatuses_run {orders : List RecordedOrder} {result : Except PyExc (Option (List String))}
    (steps : (readStatuses orders).Steps held before events result after) :
    (∀ event ∈ events, isCommandWrite event = false) ∧
    ∀ statuses, result = .ok (some statuses) →
      List.Forall₂ (fun order status => Reported events order.brokerOrderId status) orders statuses := by
  induction orders generalizing events before after result with
  | nil =>
    obtain ⟨rfl,rfl,_⟩ := steps_pure.mp steps
    refine ⟨by simp,fun statuses same => ?_⟩
    cases same; exact .nil
  | cons order rest ih =>
    obtain ⟨answer,tail,rfl,going⟩ := steps_attempt_invoke_bind.mp steps
    have stopped : (pure none : Run (Option (List String))).Steps held before tail result after →
        (∀ event ∈ tail, isCommandWrite event = false) ∧ ∀ statuses, result ≠ .ok (some statuses) := by
      intro ended
      obtain ⟨rfl,rfl,_⟩ := steps_pure.mp ended
      exact ⟨by simp,fun statuses same => by cases same⟩
    rcases answer with error | _ | report
    · obtain ⟨quiet,never⟩ := stopped going
      exact ⟨List.forall_mem_cons.mpr ⟨rfl,quiet⟩,fun statuses same => (never statuses same).elim⟩
    · obtain ⟨quiet,never⟩ := stopped going
      exact ⟨List.forall_mem_cons.mpr ⟨rfl,quiet⟩,fun statuses same => (never statuses same).elim⟩
    · rcases steps_bind.mp going with ⟨one,two,others,middle,rfl,ran,ended⟩ | ⟨error,rfl,ran⟩
      · obtain ⟨quiet,found⟩ := ih ran
        obtain ⟨rfl,rfl,_⟩ := steps_pure.mp ended
        refine ⟨List.forall_mem_cons.mpr ⟨rfl,by rw [List.append_nil]; exact quiet⟩,fun statuses same => ?_⟩
        obtain ⟨tail,rfl,rfl⟩ := Option.map_eq_some_iff.mp (Except.ok.inj same)
        refine .cons ⟨_,report,List.mem_cons_self ..,rfl⟩ ((found tail rfl).imp fun order status told => ?_)
        exact told.mono (fun event member => by simp [member])
      · exact ⟨List.forall_mem_cons.mpr ⟨rfl,(ih ran).1⟩,fun statuses same => by cases same⟩

-- The one event a reconciliation writes, and what it was told before.
structure Reconciled (command : Command) (events : List Happening) (ledger : Ledger) (next : CommandState)
    (orders : List RecordedOrder) : Prop where
  from_ : reconcilable (ledger.state command) = true
  asked : orders = askableOrders (ledger.log command.commandId)
  some_ : orders ≠ []
  told : ∃ statuses, List.Forall₂ (fun order status => Reported events order.brokerOrderId status) orders statuses ∧
    reconciledState statuses = some next

theorem appendReconciled_run {state : CommandState} {orders : List RecordedOrder} {statuses : List String}
    {result : Except PyExc Unit} (steps : (appendReconciled command state orders statuses).Steps held before events result after) :
    events = [] ∨ ∃ next answer, reconciledState statuses = some next ∧
      events = [.answered held (.appendEvent command next ⟨none,orders.length,orders⟩ (some state)) answer] := by
  unfold appendReconciled at steps
  split at steps
  · exact .inl (steps_pure.mp steps).1
  · rename_i next found
    split at steps
    · exact .inl (steps_pure.mp steps).1
    · rcases steps_invoke_bind.mp steps with ⟨written,tail,rfl,ended⟩ | ⟨error,rfl,_,_⟩
      · obtain ⟨rfl,_,_⟩ := steps_pure.mp ended
        exact .inr ⟨next,_,found,rfl⟩
      · exact .inr ⟨next,_,found,rfl⟩

-- Either nothing is written, or the last thing that happens is one append.
theorem reconcileLiveCommand_run {result : Except PyExc Unit}
    (steps : (reconcileLiveCommand config command).Steps held before events result after)
    (follows : ledger.Follows events later) :
    later = ledger ∧ (∀ event ∈ events, isCommandWrite event = false) ∨
    ∃ front next orders answer, events = front ++
        [.answered held (.appendEvent command next ⟨none,orders.length,orders⟩ (some (ledger.state command))) answer] ∧
      (∀ event ∈ front, isCommandWrite event = false) ∧ Reconciled command front ledger next orders := by
  have quietly : (∀ event ∈ events, isCommandWrite event = false) →
      later = ledger ∧ ∀ event ∈ events, isCommandWrite event = false :=
    fun reads => ⟨ledger_unless_write reads follows,reads⟩
  rcases steps_invoke_bind.mp steps with ⟨state,tail,rfl,going⟩ | ⟨error,rfl,_,_⟩
  · split at going
    · obtain ⟨rfl,_,_⟩ := steps_pure.mp going
      exact .inl (quietly (List.forall_mem_singleton.mpr rfl))
    · rename_i open_
      rcases steps_invoke_bind.mp going with ⟨kept,tail,rfl,reading⟩ | ⟨error,rfl,_,_⟩
      · obtain ⟨_,⟨rfl,rfl⟩,follow⟩ := follows_cons.mp follows
        obtain ⟨_,⟨rfl,rfl⟩,_⟩ := follows_cons.mp follow
        simp only at reading
        have asked {tail : List Happening} {state : CommandState} {kept : List CommandEvent}
            (reads : ∀ event ∈ tail, isCommandWrite event = false) : ∀ event ∈
              .answered held (.currentState command) (.ok state) :: .answered held (.commandEvents command) (.ok kept) :: tail,
              isCommandWrite event = false :=
          List.forall_mem_cons.mpr ⟨rfl,List.forall_mem_cons.mpr ⟨rfl,reads⟩⟩
        split at reading
        · obtain ⟨rfl,_,_⟩ := steps_pure.mp reading
          exact .inl (quietly (asked (by simp)))
        · rename_i some_
          rcases steps_bind.mp reading with ⟨one,two,statuses,middle,rfl,ran,ended⟩ | ⟨error,rfl,ran⟩
          · obtain ⟨reads,told⟩ := readStatuses_run ran
            cases statuses with
            | none =>
              obtain ⟨rfl,_,_⟩ := steps_pure.mp ended
              exact .inl (quietly (by rw [List.append_nil]; exact asked reads))
            | some statuses =>
              rcases appendReconciled_run ended with rfl | ⟨next,answer,found,rfl⟩
              · exact .inl (quietly (by rw [List.append_nil]; exact asked reads))
              · refine .inr ⟨_ :: _ :: one,next,_,answer,rfl,asked reads,?_⟩
                refine ⟨by simpa using And.left (by simpa using open_),rfl,by simpa using some_,statuses,?_,found⟩
                exact (told statuses rfl).imp fun order status said => said.mono (fun event member => by simp [member])
          · exact .inl (quietly (asked (readStatuses_run ran).1))
      · exact .inl (quietly (List.forall_mem_cons.mpr ⟨rfl,List.forall_mem_singleton.mpr rfl⟩))
  · exact .inl (quietly (List.forall_mem_singleton.mpr rfl))

-- Nothing of this order can still be working: its submission was answered as
-- filled, or a broker has since named a terminal status for it.
def Done (history : List Happening) (order : RecordedOrder) : Prop :=
  order.submissionStatus = "filled" ∨
    ∃ status, Reported history order.brokerOrderId status ∧ isTerminalStatus status = true

theorem Done.mono {history more : List Happening} {order : RecordedOrder} (done : Done history order)
    (subset : ∀ event ∈ history, event ∈ more) : Done more order := by
  rcases done with filled | ⟨status,reported,ends⟩
  · exact .inl filled
  · exact .inr ⟨status,reported.mono subset,ends⟩

def orders (cycle : Cycle.CycleResult) : List RecordedOrder := cycle.pendingOrders.map recordedCommandOrder

theorem reconciledState_filled {statuses : List String} (found : reconciledState statuses = some .filled) :
    ∀ status ∈ statuses, status = "filled" := by
  unfold reconciledState at found
  split_ifs at found with every
  · simpa using every
  all_goals cases found

theorem reconciledState_cancelled {statuses : List String} (found : reconciledState statuses = some .cancelled) :
    ∀ status ∈ statuses, isTerminalStatus status = true := by
  unfold reconciledState at found
  split_ifs at found with filled every
  all_goals cases found
  simpa using every

theorem reconciledState_not_rejected {statuses : List String} : reconciledState statuses ≠ some .rejected := by
  unfold reconciledState
  split_ifs <;> simp

theorem forall₂_left {R : α → β → Prop} {S : β → Prop} {left : List α} {right : List β} (pairs : List.Forall₂ R left right)
    (all : ∀ two ∈ right, S two) : ∀ one ∈ left, ∃ two, R one two ∧ S two := by
  induction pairs with
  | nil => simp
  | cons related _ ih =>
    intro one member
    rcases List.mem_cons.mp member with rfl | among
    · exact ⟨_,related,all _ (List.mem_cons_self ..)⟩
    · exact ih (fun two later => all two (List.mem_cons_of_mem _ later)) one among

-- A reconciliation asks for the orders of the last event, all of them.
theorem askableOrders_last {log : List CommandEvent} (some_ : askableOrders log ≠ []) :
    ∃ event, log.getLast? = some event ∧ askableOrders log = event.details.orders := by
  unfold askableOrders at some_ ⊢
  simp only at some_ ⊢
  split at some_
  · exact (some_ rfl).elim
  · rename_i named
    rw [if_neg named]
    cases found : log.getLast? with
    | none => simp [found] at some_
    | some event => exact ⟨event,rfl,rfl⟩

theorem reconciled_filled {next : CommandState} {listed : List RecordedOrder}
    (reconciled : Reconciled command events ledger next listed) (filled : next = .filled) :
    ∀ order ∈ listed, Reported events order.brokerOrderId "filled" := by
  obtain ⟨statuses,told,found⟩ := reconciled.told
  subst filled
  intro order member
  obtain ⟨status,said,rfl⟩ := forall₂_left told (reconciledState_filled found) order member
  exact said

theorem reconciled_cancelled {next : CommandState} {listed : List RecordedOrder}
    (reconciled : Reconciled command events ledger next listed) (cancelled : next = .cancelled) :
    ∀ order ∈ listed, ∃ status, Reported events order.brokerOrderId status ∧ isTerminalStatus status = true := by
  obtain ⟨statuses,told,found⟩ := reconciled.told
  subst cancelled
  exact forall₂_left told (reconciledState_cancelled found)

theorem reconciled_not_rejected {next : CommandState} {listed : List RecordedOrder}
    (reconciled : Reconciled command events ledger next listed) : next ≠ .rejected := by
  obtain ⟨statuses,_,found⟩ := reconciled.told
  rintro rfl
  exact reconciledState_not_rejected found

-- What the last event of a command knows: every order, and the end only when each of them is done.
structure Accountable (command : Command) (cycle : Cycle.CycleResult) (history : List Happening) (ledger : Ledger) : Prop where
  keeps : ledger.state command = .claimed ∨ ∃ event, ledger.last command = some event ∧ event.details.orders = orders cycle
  filled : ledger.state command = .filled → orders cycle ≠ [] ∧ ∀ order ∈ orders cycle,
    order.submissionStatus = "filled" ∨ Reported history order.brokerOrderId "filled"
  withdrawn : ledger.state command = .cancelled ∨ ledger.state command = .rejected →
    orders cycle = [] ∧ cycle.actionDone = false ∨ orders cycle ≠ [] ∧ ∀ order ∈ orders cycle, Done history order

theorem last_written {taken : List CommandState} {details : Details} {state : CommandState}
    (written : later.log command.commandId = ledger.log command.commandId ++ (taken ++ [state]).map fun state => ⟨state,details⟩) :
    later.last command = some ⟨state,details⟩ := by
  unfold Ledger.last
  rw [written,List.map_append,← List.append_assoc]
  simp

theorem state_last {event : CommandEvent} (last : ledger.last command = some event) : ledger.state command = event.state := by
  simp [Ledger.state,last]

theorem orders_nil : orders cycle = [] ↔ cycle.pendingOrders = [] := List.map_eq_nil_iff

theorem record_accountable {result : Except PyExc Unit} {history : List Happening}
    (claimed : ledger.state command = .claimed)
    (steps : (recordLiveCommandOutcome command cycle).Steps held before events result after)
    (follows : ledger.Follows events later) : Accountable command cycle history later := by
  obtain ⟨taken,lead,written⟩ := appendChain_writes steps follows
  rcases List.eq_nil_or_concat' taken with rfl | ⟨front,state,rfl⟩
  · have same : later.state command = .claimed := by
      rw [← claimed]; simp [Ledger.state,Ledger.last,written]
    exact ⟨.inl same,fun wrong => by simp [same] at wrong,fun wrong => by simp [same] at wrong⟩
  · have last := last_written written
    have member : state ∈ outcomeStates cycle := lead.subset (by simp)
    refine ⟨.inr ⟨_,last,rfl⟩,fun filled => ?_,fun withdrawn => .inl ?_⟩
    · obtain rfl : state = .filled := (state_last last).symm.trans filled
      obtain ⟨some_,every⟩ := outcomeStates_filled member
      refine ⟨fun none_ => some_ (orders_nil.mp none_),fun order among => .inl ?_⟩
      obtain ⟨payload,present,rfl⟩ := List.mem_map.mp among
      exact every payload present
    · rw [state_last last] at withdrawn
      obtain ⟨none_,idle⟩ := outcomeStates_withdrawn member withdrawn
      exact ⟨orders_nil.mpr none_,idle⟩

theorem Accountable.mono {history more : List Happening} (accountable : Accountable command cycle history ledger)
    (same : later.log command.commandId = ledger.log command.commandId) (subset : ∀ event ∈ history, event ∈ more) :
    Accountable command cycle more later := by
  have last : later.last command = ledger.last command := by rw [Ledger.last,same]; rfl
  have state : later.state command = ledger.state command := by rw [Ledger.state,last]; rfl
  refine ⟨?_,?_,?_⟩
  · rw [state,last]; exact accountable.keeps
  · rw [state]
    intro filled
    refine ⟨(accountable.filled filled).1,fun order member => ?_⟩
    exact ((accountable.filled filled).2 order member).imp id (fun reported => reported.mono subset)
  · rw [state]
    intro withdrawn
    refine (accountable.withdrawn withdrawn).imp id ?_
    intro known
    exact ⟨known.1,fun order member => (known.2 order member).mono subset⟩

-- One reconciliation: nothing written, or one append with all the orders there were.
theorem reconcile_cases {result : Except PyExc Unit}
    (steps : (reconcileLiveCommand config command).Steps held before events result after)
    (follows : ledger.Follows events later) :
    later = ledger ∨ ∃ next listed, Reconciled command events ledger next listed ∧
      later = ledger.append command ⟨next,⟨none,listed.length,listed⟩⟩ := by
  rcases reconcileLiveCommand_run steps follows with ⟨same,_⟩ | ⟨front,next,listed,answer,rfl,reads,reconciled⟩
  · exact .inl same
  · obtain ⟨middle,leading,last⟩ := Effects.follows_append.mp follows
    obtain rfl := ledger_unless_write reads leading
    have told : Reconciled command (front ++ [.answered held (.appendEvent command next ⟨none,listed.length,listed⟩
        (some (middle.state command))) answer]) middle next listed := by
      obtain ⟨statuses,said,found⟩ := reconciled.told
      exact ⟨reconciled.from_,reconciled.asked,reconciled.some_,statuses,
        said.imp (fun order status one => one.mono (fun event member => List.mem_append_left _ member)),found⟩
    have step := Effects.follows_one.mp last
    rcases answer with error | written
    · exact step.imp id (fun same => ⟨next,listed,told,same⟩)
    · cases written with
      | true => exact .inr ⟨next,listed,told,step⟩
      | false => exact .inl step

theorem reconcile_accountable {result : Except PyExc Unit} {history : List Happening}
    (accountable : Accountable command cycle history ledger)
    (steps : (reconcileLiveCommand config command).Steps held before events result after)
    (follows : ledger.Follows events later) : Accountable command cycle (history ++ events) later := by
  rcases reconcile_cases steps follows with rfl | ⟨next,listed,reconciled,rfl⟩
  · exact accountable.mono rfl (fun event member => List.mem_append_left _ member)
  · obtain ⟨event,last,same⟩ := askableOrders_last (reconciled.asked ▸ reconciled.some_)
    have all : listed = orders cycle := by
      rcases accountable.keeps with claimed | ⟨kept,found,known⟩
      · have moving := reconciled.from_
        rw [claimed] at moving; cases moving
      · rw [Ledger.last,last] at found
        cases found
        rw [reconciled.asked,same,known]
    subst all
    refine ⟨.inr ⟨⟨next,⟨none,(orders cycle).length,orders cycle⟩⟩,by simp [Ledger.last],rfl⟩,fun filled => ?_,fun withdrawn => ?_⟩
    · rw [Ledger.state_append_same] at filled
      refine ⟨reconciled.some_,fun order member => .inr ?_⟩
      exact (reconciled_filled reconciled filled order member).mono (fun event present => List.mem_append_right _ present)
    · rw [Ledger.state_append_same] at withdrawn
      rcases withdrawn with cancelled | rejected
      · refine .inr ⟨reconciled.some_,fun order member => .inr ?_⟩
        obtain ⟨status,reported,ends⟩ := reconciled_cancelled reconciled cancelled order member
        exact ⟨status,reported.mono (fun event present => List.mem_append_right _ present),ends⟩
      · exact (reconciled_not_rejected reconciled rejected).elim

def Sound (command : Command) (recorded : Option Cycle.CycleResult) (history : List Happening) (ledger : Ledger) : Prop :=
  match recorded with
  | none => ledger.state command = .claimed
  | some cycle => Accountable command cycle history ledger

theorem life_sound {recorded : Option Cycle.CycleResult} {history : List Happening}
    (life : Life command recorded history ledger) : Sound command recorded history ledger := by
  induction life with
  | claim claimed => exact claimed
  | record _ steps follows claimed => exact record_accountable claimed steps follows
  | @reconcile recorded history ledger config held before events result after later _ steps follows ih =>
    cases recorded with
    | some cycle => exact reconcile_accountable ih steps follows
    | none =>
      rcases reconcile_cases steps follows with rfl | ⟨next,listed,reconciled,rfl⟩
      · exact ih
      · have moving := reconciled.from_
        rw [show ledger.state command = .claimed from ih] at moving; cases moving
  | @elsewhere recorded history ledger later _ same ih =>
    cases recorded with
    | some cycle => exact ih.mono same (fun event member => member)
    | none =>
      have claimed : ledger.state command = .claimed := ih
      show later.state command = .claimed
      rw [← claimed]; simp [Ledger.state,Ledger.last,same]

-- What one outcome writes: never an end while an order of it may be working.
theorem record_appends {result : Except PyExc Unit}
    (steps : (recordLiveCommandOutcome command cycle).Steps held before events result after) :
    ∀ event ∈ events, ∃ next answer,
      event = .answered held (.appendEvent command next (recordedDetails cycle) none) answer ∧
      (next = .cancelled ∨ next = .rejected → cycle.pendingOrders = [] ∧ cycle.actionDone = false) ∧
      (next = .filled → cycle.pendingOrders ≠ [] ∧ ∀ order ∈ cycle.pendingOrders, lower order.submissionStatus = "filled") := by
  intro event member
  obtain ⟨next,among,answer,rfl⟩ := appendChain_appends steps event member
  refine ⟨next,answer,rfl,outcomeStates_withdrawn among,?_⟩
  rintro rfl
  exact outcomeStates_filled among

-- What one reconciliation writes: the orders of the last event, all of them, and
-- an end only when the broker named one for each.
theorem reconcile_appends {result : Except PyExc Unit}
    (steps : (reconcileLiveCommand config command).Steps held before events result after)
    (follows : ledger.Follows events later) :
    ∀ event ∈ events, isCommandWrite event = true → ∃ next last answer, ledger.last command = some last ∧
      event = .answered held (.appendEvent command next ⟨none,last.details.orders.length,last.details.orders⟩
        (some (ledger.state command))) answer ∧ next ≠ .rejected ∧
      (next = .filled → ∀ order ∈ last.details.orders, Reported events order.brokerOrderId "filled") ∧
      (next = .cancelled → ∀ order ∈ last.details.orders,
        ∃ status, Reported events order.brokerOrderId status ∧ isTerminalStatus status = true) := by
  intro event member writes
  rcases reconcileLiveCommand_run steps follows with ⟨_,reads⟩ | ⟨front,next,listed,answer,rfl,reads,reconciled⟩
  · rw [reads event member] at writes; cases writes
  · have early : ∀ event ∈ front, event ∈ front ++ [.answered held (.appendEvent command next
        ⟨none,listed.length,listed⟩ (some (ledger.state command))) answer] :=
      fun event present => List.mem_append_left _ present
    rcases List.mem_append.mp member with present | final
    · rw [reads event present] at writes; cases writes
    · obtain rfl := List.mem_singleton.mp final
      obtain ⟨last,found,same⟩ := askableOrders_last (reconciled.asked ▸ reconciled.some_)
      obtain rfl : listed = last.details.orders := reconciled.asked.trans same
      refine ⟨next,last,answer,found,rfl,reconciled_not_rejected reconciled,fun filled order among => ?_,?_⟩
      · exact (reconciled_filled reconciled filled order among).mono early
      · intro cancelled order among
        obtain ⟨status,said,ends⟩ := reconciled_cancelled reconciled cancelled order among
        exact ⟨status,said.mono early,ends⟩

end operations

-- Over a whole life a command ends only when none of its orders can be working,
-- and from the recorded outcome on its last event lists every one of them.
theorem ended_commands_leave_no_order_working :
    (∀ (command : Command) (cycle : Cycle.CycleResult) held before events result after,
      (recordLiveCommandOutcome command cycle).Steps held before events result after → ∀ event ∈ events, ∃ next answer,
        event = .answered held (.appendEvent command next (recordedDetails cycle) none) answer ∧
        (next = .cancelled ∨ next = .rejected → cycle.pendingOrders = [] ∧ cycle.actionDone = false) ∧
        (next = .filled → cycle.pendingOrders ≠ [] ∧
          ∀ order ∈ cycle.pendingOrders, lower order.submissionStatus = "filled")) ∧
    (∀ (config : Config) (command : Command) held before events result after (ledger later : Ledger),
      (reconcileLiveCommand config command).Steps held before events result after → ledger.Follows events later →
      ∀ event ∈ events, isCommandWrite event = true → ∃ next last answer, ledger.last command = some last ∧
        event = .answered held (.appendEvent command next ⟨none,last.details.orders.length,last.details.orders⟩
          (some (ledger.state command))) answer ∧ next ≠ .rejected ∧
        (next = .filled → ∀ order ∈ last.details.orders, Reported events order.brokerOrderId "filled") ∧
        (next = .cancelled → ∀ order ∈ last.details.orders,
          ∃ status, Reported events order.brokerOrderId status ∧ isTerminalStatus status = true)) ∧
    ∀ (command : Command) recorded history (ledger : Ledger), Life command recorded history ledger →
      ((ledger.state command).terminal = true → recorded.isSome) ∧
      ∀ cycle, recorded = some cycle →
        (ledger.state command = .claimed ∨ ∃ last, ledger.last command = some last ∧ last.details.orders = orders cycle) ∧
        (ledger.state command = .filled → orders cycle ≠ [] ∧ ∀ order ∈ orders cycle,
          order.submissionStatus = "filled" ∨ Reported history order.brokerOrderId "filled") ∧
        (ledger.state command = .cancelled ∨ ledger.state command = .rejected →
          orders cycle = [] ∧ cycle.actionDone = false ∨ orders cycle ≠ [] ∧ ∀ order ∈ orders cycle, Done history order) := by
  refine ⟨fun command cycle held before events result after steps => record_appends steps,?_,?_⟩
  · intro config command held before events result after ledger later steps follows
    exact reconcile_appends steps follows
  · intro command recorded history ledger life
    have sound := life_sound life
    cases recorded with
    | none =>
      have claimed : ledger.state command = .claimed := sound
      constructor
      · intro terminal
        simp [claimed,CommandState.terminal] at terminal
      · intro cycle same
        cases same
    | some cycle =>
      refine ⟨fun _ => rfl,fun other same => ?_⟩
      cases same
      exact ⟨sound.keeps,sound.filled,sound.withdrawn⟩

def soldOrder (status : String) : OrderPayload :=
  knownOrder ⟨"SPY.US",.sell,50,.limit,some 99⟩ ⟨status,none,none,some "7"⟩

def soldResult (status : String) : Cycle.CycleResult :=
  { Cycle.blockedResult (Cycle.openingLocals Cycle.twoSells) with pendingOrders := [soldOrder status], actionDone := true }

def heldCommand : Command := ⟨"c1","longbridge","sg","rotation","live","2026-07-17","2026-07-20","next_open",[]⟩

def claimedLedger : Ledger := Ledger.empty.append heldCommand ⟨.claimed,⟨none,0,[]⟩⟩

def acceptedDetails : Details := recordedDetails (soldResult "accepted")

def acceptedLedger : Ledger :=
  (claimedLedger.append heldCommand ⟨.submitted,acceptedDetails⟩).append heldCommand ⟨.accepted,acceptedDetails⟩

def filledLedger : Ledger := acceptedLedger.append heldCommand ⟨.filled,⟨none,1,acceptedDetails.orders⟩⟩

-- A store that writes everything, over a broker that reports every order filled.
def fillingWorld (log : List CommandEvent) : World ports PyExc := fun _ request =>
  match request with
  | .currentState _ => .ok ((log.getLast?.map CommandEvent.state).getD .queued)
  | .commandEvents _ => .ok log
  | .appendEvent _ _ _ _ => .ok true
  | .cycle (.fetchOrderStatus _) => .ok (some ⟨"Filled",none,none⟩)
  | _ => .error ⟨"RuntimeError","not asked"⟩

def recordedRun : List Happening × Except PyExc Unit × ClaimState :=
  play (fillingWorld []) [] ((recordLiveCommandOutcome heldCommand (soldResult "accepted")).run false ⟨true,true⟩)

def quietConfig : Config :=
  ⟨Cycle.wholeShareSettings false,Cycle.gateOff,"rotation","SG","lb-sg-001",true,true,true,false,true,true,true,true,
    "aaaa",false,none,true,true,[]⟩

def reconciledRun : List Happening × Except PyExc Unit × ClaimState :=
  play (fillingWorld (acceptedLedger.log "c1")) []
    ((reconcileLiveCommand quietConfig heldCommand).run false ⟨false,false⟩)

theorem filled_order_fills_its_command :
    Life heldCommand (some (soldResult "accepted")) ([] ++ recordedRun.1 ++ reconciledRun.1) filledLedger ∧
    filledLedger.state heldCommand = .filled ∧
    ∀ order ∈ orders (soldResult "accepted"), order.submissionStatus = "filled" ∨
      Reported ([] ++ recordedRun.1 ++ reconciledRun.1) order.brokerOrderId "filled" := by
  have claimed : Life heldCommand none [] claimedLedger := .claim rfl
  have wrote : claimedLedger.Follows recordedRun.1 acceptedLedger := .cons rfl (.cons rfl .nil)
  have recorded : Life heldCommand (some (soldResult "accepted")) ([] ++ recordedRun.1) acceptedLedger :=
    claimed.record (play_runs _ _ _) wrote
  have asked : acceptedLedger.Follows reconciledRun.1 filledLedger :=
    .cons ⟨rfl,rfl⟩ (.cons ⟨rfl,rfl⟩ (.cons rfl (.cons rfl .nil)))
  have life : Life heldCommand (some (soldResult "accepted")) ([] ++ recordedRun.1 ++ reconciledRun.1) filledLedger :=
    recorded.reconcile (play_runs _ _ _) asked
  exact ⟨life,rfl,((ended_commands_leave_no_order_working.2.2 _ _ _ _ life).2 _ rfl).2.1 rfl |>.2⟩

end LongBridge.Strategy
