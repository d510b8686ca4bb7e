import LongBridge.Notifications.Promises

namespace LongBridge.Notifications
open Effects

-- The notification store: markers, and the reasons of every group.
structure MarkerStore where
  markers : Versioned String Marker
  groups : Versioned String Reasons

-- What a download gives, by what its generation holds.
def downloaded {α : Type} : Option α → Except PyExc α
  | some value => .ok value
  | none => .error preconditionFailed

-- Each request is atomic and none fails but for its condition; a read is two of them. A sender may do anything.
def storeStep (before : MarkerStore) (event : Event incidentPorts PyExc) (after : MarkerStore) : Prop :=
  match event with
  | .answered _ (.reloadMarker key) answer => answer = .ok ((before.markers.cells key).map Prod.fst) ∧ after = before
  | .answered _ (.downloadMarker key generation) answer => answer = downloaded (before.markers.held key generation) ∧ after = before
  | .answered _ (.setMarker key version value) answer =>
    answer = .ok (before.markers.compareAndSet key version value).1 ∧
      after = { before with markers := (before.markers.compareAndSet key version value).2 }
  | .answered _ (.reloadGroup key) answer => answer = .ok ((before.groups.cells key).map Prod.fst) ∧ after = before
  | .answered _ (.downloadGroup key generation) answer => answer = downloaded (before.groups.held key generation) ∧ after = before
  | .answered _ (.setGroup key version value) answer =>
    answer = .ok (before.groups.compareAndSet key version value).1 ∧
      after = { before with groups := (before.groups.compareAndSet key version value).2 }
  | _ => after = before

-- A call of either function, with its own time, state and severity.
inductive ObservingCall where
  | send (event : NotificationEvent) (state : Option String) (severity : ℤ)
  | observe (event : NotificationEvent) (state : String) (severity : ℤ) (recovered : Bool)

namespace ObservingCall

def stamp : ObservingCall → Moment
  | .send event .. => event.occurredAt
  | .observe event .. => event.occurredAt

def sends : ObservingCall → Bool
  | .send .. => true
  | .observe .. => false

def script (digests : Digests) : ObservingCall → IncidentRun Unit
  | .send event state severity => do
    let _ ← sendIncident digests event state severity
    return ()
  | .observe event state severity recovered => do
    let _ ← observeIncident digests event state severity recovered
    return ()

def program (digests : Digests) (call : ObservingCall) : Tree incidentPorts PyExc (Except PyExc Unit × Unit) :=
  (call.script digests).run false ()

end ObservingCall

abbrev StoreTurn (ι : Type) := Turn incidentPorts PyExc MarkerStore ι

def generationAt (store : MarkerStore) (key : String) : ℤ := Progress.generationOf (store.markers.cells key)

-- The turn that moves a marker to a generation.
def Reserves {ι : Type} (turn : StoreTurn ι) (key : String) (generation : ℤ) : Prop :=
  generationAt turn.before key ≠ generationAt turn.after key ∧ generationAt turn.after key = generation

def isSend {ι : Type} (turn : StoreTurn ι) : Bool :=
  match turn.event with
  | .answered _ .send _ => true
  | _ => false

def observedAt (store : MarkerStore) (key : String) : Option Moment := (store.markers.cells key).bind fun cell => cell.2.observedAt

section Runs

variable {ι : Type} [DecidableEq ι]

def HasReserved (turns : List (StoreTurn ι)) (who : ι) : Prop :=
  ∃ turn ∈ turns, turn.who = who ∧ ∃ key generation, Reserves turn key generation

def sendsOf (turns : List (StoreTurn ι)) (who : ι) : List (StoreTurn ι) :=
  turns.filter fun turn => decide (turn.who = who) && isSend turn

-- A marker newer than the observation, or a read or a conditional write behind another write.
def overtaken (stamp : Moment) (turn : StoreTurn ι) : Bool :=
  match turn.event with
  | .answered _ (.downloadMarker key generation) _ => match turn.before.markers.held key generation with
    | some value => isNewer stamp (some (generation,value))
    | none => true
  | .answered _ (.downloadGroup key generation) _ => (turn.before.groups.held key generation).isNone
  | .answered _ (.setMarker key version _) _ => decide ((turn.before.markers.cells key).map Prod.fst ≠ version)
  | .answered _ (.setGroup key version _) _ => decide ((turn.before.groups.cells key).map Prod.fst ≠ version)
  | _ => false

-- Nobody comes between a reservation and its send, and only calls with a sender reserve.
structure Undisturbed (calls : ι → ObservingCall) (turns : List (StoreTurn ι)) : Prop where
  behind : ∀ before turn rest, turns = before ++ turn :: rest → HasReserved before turn.who → sendsOf before turn.who = [] →
    overtaken (calls turn.who).stamp turn = false
  senders : ∀ who, HasReserved turns who → (calls who).sends = true

structure Delivered (turns : List (StoreTurn ι)) (left : ι → Tree incidentPorts PyExc (Except PyExc Unit × Unit)) : Prop where
  distinct : turns.Pairwise fun one two => ∀ key generation, Reserves one key generation → ¬Reserves two key generation
  reservedOnce : ∀ who, (turns.Pairwise fun one two => one.who = who → two.who = who →
    (∃ key generation, Reserves one key generation) → ¬∃ key generation, Reserves two key generation)
  sentOnce : ∀ who, (sendsOf turns who).length ≤ 1
  byOwner : ∀ before turn rest, turns = before ++ turn :: rest → isSend turn = true → HasReserved before turn.who
  noneLost : ∀ who, HasReserved turns who → (left who).isDone = true → (sendsOf turns who).length = 1
  forward : ∀ turn ∈ turns, ∀ key moment, observedAt turn.before key = some moment →
    ∃ later, observedAt turn.after key = some later ∧ moment.instant ≤ later.instant

theorem snoc_split {α : Type} {items before rest : List α} {last item : α} (split : items ++ [last] = before ++ item :: rest) :
    (items = before ∧ last = item ∧ rest = []) ∨ ∃ front, items = before ++ item :: front := by
  rcases List.eq_nil_or_concat rest with rfl | ⟨front,other,rfl⟩
  · obtain ⟨same,equal⟩ := List.append_inj' split rfl
    exact .inl ⟨same,List.singleton_inj.mp equal,rfl⟩
  · right
    rw [List.concat_eq_append,← List.cons_append,← List.append_assoc] at split
    exact ⟨front,List.append_inj_left' split rfl⟩

variable {turns : List (StoreTurn ι)} {turn : StoreTurn ι} {who : ι}

omit [DecidableEq ι] in
theorem hasReserved_snoc : HasReserved (turns ++ [turn]) who ↔
    HasReserved turns who ∨ (turn.who = who ∧ ∃ key generation, Reserves turn key generation) := by
  unfold HasReserved
  simp only [List.mem_append,List.mem_singleton,or_and_right,exists_or,exists_eq_left]

theorem sendsOf_snoc : sendsOf (turns ++ [turn]) who =
    sendsOf turns who ++ if decide (turn.who = who) && isSend turn then [turn] else [] := by
  unfold sendsOf
  rw [List.filter_append,List.filter_cons,List.filter_nil]

theorem Undisturbed.earlier {calls : ι → ObservingCall} (calm : Undisturbed calls (turns ++ [turn])) :
    Undisturbed calls turns := by
  constructor
  · intro before one rest split
    exact calm.behind before one (rest ++ [turn]) (by rw [split,List.append_assoc]; rfl)
  · exact fun who reserved => calm.senders who (hasReserved_snoc.mpr (.inl reserved))

-- The calls' own progress against the store and the run so far.
structure Accounts (calls : ι → ObservingCall) (turns : List (StoreTurn ι)) (store : MarkerStore) (phases : ι → Progress) :
    Prop where
  recalls : ∀ who key found, (phases who).seen = some (key,found) → store.markers.Recalls key found
  reserved : ∀ who, (phases who).reserved.isSome = true ↔ HasReserved turns who
  sent : ∀ who, (sendsOf turns who).length = if (phases who).sent then 1 else 0
  past : ∀ turn ∈ turns, ∀ key generation, Reserves turn key generation → generation ≤ generationAt store key
  distinct : turns.Pairwise fun one two => ∀ key generation, Reserves one key generation → ¬Reserves two key generation
  once : ∀ who, (turns.Pairwise fun one two => one.who = who → two.who = who →
    (∃ key generation, Reserves one key generation) → ¬∃ key generation, Reserves two key generation)
  byOwner : ∀ before turn rest, turns = before ++ turn :: rest → isSend turn = true → HasReserved before turn.who
  forward : ∀ turn ∈ turns, ∀ key moment, observedAt turn.before key = some moment →
    ∃ later, observedAt turn.after key = some later ∧ moment.instant ≤ later.instant
  calm : Undisturbed calls turns → ∀ who, (phases who).lost = false

variable {calls : ι → ObservingCall} {store after : MarkerStore} {phases : ι → Progress} {next : Progress}

theorem accounts_start (calls : ι → ObservingCall) (store : MarkerStore) :
    Accounts calls ([] : List (StoreTurn ι)) store fun _ => Progress.fresh := by
  constructor
  · intro who key found seen; cases seen
  · intro who
    refine iff_of_false (by decide) ?_
    rintro ⟨turn,member,_⟩; cases member
  · exact fun who => rfl
  · intro turn member; cases member
  · exact .nil
  · exact fun who => .nil
  · intro before turn rest split
    cases before <;> cases split
  · intro turn member; cases member
  · exact fun _ _ => rfl

theorem Accounts.waiting (accounts : Accounts calls turns store phases) (pending : (phases who).pending = true) :
    HasReserved turns who ∧ sendsOf turns who = [] := by
  rw [Progress.pending,Bool.and_eq_true,Bool.not_eq_true'] at pending
  refine ⟨(accounts.reserved who).mp pending.1,List.eq_nil_of_length_eq_zero ?_⟩
  rw [accounts.sent,pending.2]; rfl

-- Of a call that waits for its send, nothing was overtaken.
theorem Accounts.current (accounts : Accounts calls turns store phases) (calm : Undisturbed calls (turns ++ [turn]))
    (pending : (phases turn.who).pending = true) : overtaken (calls turn.who).stamp turn = false := by
  obtain ⟨reserved,unsent⟩ := accounts.waiting pending
  exact calm.behind turns turn [] rfl reserved unsent

-- What every turn owes to the store, whatever it is.
structure Moves (store after : MarkerStore) : Prop where
  generations : ∀ key, generationAt store key ≤ generationAt after key
  times : ∀ key moment, observedAt store key = some moment →
    ∃ later, observedAt after key = some later ∧ moment.instant ≤ later.instant

omit [DecidableEq ι] in
theorem reserves_before {key : String} {generation : ℤ} {event : Event incidentPorts PyExc}
    (reserves : Reserves (⟨store,who,event,after⟩ : StoreTurn ι) key generation) (moves : Moves store after) :
    generationAt store key < generation := by
  obtain ⟨other,same⟩ := reserves
  subst same
  exact lt_of_le_of_ne (moves.generations key) other

theorem Accounts.next_turn (accounts : Accounts calls turns store phases) {event : Event incidentPorts PyExc}
    (moves : Moves store after)
    (recalls : ∀ other key found, (Function.update phases who next other).seen = some (key,found) →
      after.markers.Recalls key found)
    (reserved : next.reserved.isSome = true ↔ (phases who).reserved.isSome = true ∨
      ∃ key generation, Reserves (⟨store,who,event,after⟩ : StoreTurn ι) key generation)
    (free : (∃ key generation, Reserves (⟨store,who,event,after⟩ : StoreTurn ι) key generation) → (phases who).reserved = none)
    (sent : next.sent = ((phases who).sent || isSend (⟨store,who,event,after⟩ : StoreTurn ι)))
    (may : isSend (⟨store,who,event,after⟩ : StoreTurn ι) = true → MaySend (phases who))
    (calm : Undisturbed calls (turns ++ [⟨store,who,event,after⟩]) → next.lost = false) :
    Accounts calls (turns ++ [⟨store,who,event,after⟩]) after (Function.update phases who next) := by
  constructor
  · exact recalls
  · intro other
    rw [hasReserved_snoc]
    by_cases same : other = who
    · subst same
      rw [Function.update_self,reserved,accounts.reserved]
      simp
    · rw [Function.update_of_ne same,accounts.reserved]
      simp [Ne.symm same]
  · intro other
    rw [sendsOf_snoc,List.length_append,accounts.sent]
    by_cases same : other = who
    · subst same
      rw [Function.update_self,sent]
      cases sends : isSend (⟨store,other,event,after⟩ : StoreTurn ι) with
      | false => simp
      | true => rw [(may sends).2.1]; simp
    · rw [Function.update_of_ne same]
      simp [Ne.symm same]
  · intro turn member key generation reserves
    rcases List.mem_append.mp member with early | late
    · exact (accounts.past turn early key generation reserves).trans (moves.generations key)
    · cases List.mem_singleton.mp late
      exact reserves.2.ge
  · refine List.pairwise_append.mpr ⟨accounts.distinct,List.pairwise_singleton ..,?_⟩
    intro one early two late key generation first second
    cases List.mem_singleton.mp late
    have old := accounts.past one early key generation first
    have new := reserves_before second moves
    omega
  · intro other
    refine List.pairwise_append.mpr ⟨accounts.once other,List.pairwise_singleton ..,?_⟩
    intro one early two late mine yours first second
    cases List.mem_singleton.mp late
    subst yours
    have held := (accounts.reserved who).mpr ⟨one,early,mine,first⟩
    rw [free second] at held
    cases held
  · intro before turn rest split sends
    rcases snoc_split split with ⟨rfl,rfl,_⟩ | ⟨front,earlier⟩
    · exact (accounts.reserved who).mp (may sends).1
    · exact accounts.byOwner before turn front earlier sends
  · intro turn member
    rcases List.mem_append.mp member with early | late
    · exact accounts.forward turn early
    · cases List.mem_singleton.mp late
      exact moves.times
  · intro undisturbed other
    by_cases same : other = who
    · subst same
      rw [Function.update_self]
      exact calm undisturbed
    · rw [Function.update_of_ne same]
      exact accounts.calm undisturbed.earlier other

theorem moves_same (same : after.markers = store.markers) : Moves store after := by
  constructor
  · intro key
    rw [generationAt,generationAt,same]
  · intro key moment held
    exact ⟨moment,by rw [observedAt,same]; exact held,le_refl _⟩

omit [DecidableEq ι] in
theorem reserves_none {event : Event incidentPorts PyExc} (same : after.markers = store.markers) :
    ¬∃ key generation, Reserves (⟨store,who,event,after⟩ : StoreTurn ι) key generation := by
  rintro ⟨key,generation,other,_⟩
  refine other ?_
  rw [generationAt,generationAt,same]

-- A turn that leaves the markers alone and sends nothing.
theorem Accounts.still_turn (accounts : Accounts calls turns store phases) {event : Event incidentPorts PyExc}
    (same : after.markers = store.markers) (quiet : isSend (⟨store,who,event,after⟩ : StoreTurn ι) = false)
    (seen : ∀ key found, next.seen = some (key,found) → store.markers.Recalls key found)
    (reserved : next.reserved = (phases who).reserved) (sent : next.sent = (phases who).sent)
    (calm : Undisturbed calls (turns ++ [⟨store,who,event,after⟩]) → next.lost = false) :
    Accounts calls (turns ++ [⟨store,who,event,after⟩]) after (Function.update phases who next) := by
  refine accounts.next_turn (moves_same same) ?_ ?_ ?_ ?_ ?_ calm
  · intro other key found held
    rw [same]
    by_cases own : other = who
    · subst own
      rw [Function.update_self] at held
      exact seen key found held
    · rw [Function.update_of_ne own] at held
      exact accounts.recalls other key found held
  · rw [reserved]
    exact (or_iff_left (reserves_none same)).symm
  · exact fun reserves => absurd reserves (reserves_none same)
  · rw [sent,quiet,Bool.or_false]
  · rw [quiet]; exact fun sends => nomatch sends

theorem generationAt_write (key : String) (value : Marker) (other : String) :
    generationAt { store with markers := store.markers.write key value } other =
      if other = key then value.generation else generationAt store other := by
  unfold generationAt
  by_cases same : other = key
  · subst same
    rw [if_pos rfl,Versioned.write_same]; rfl
  · rw [if_neg same,Versioned.write_other _ _ same]

theorem observedAt_write (key : String) (value : Marker) (other : String) :
    observedAt { store with markers := store.markers.write key value } other =
      if other = key then value.observedAt else observedAt store other := by
  unfold observedAt
  by_cases same : other = key
  · subst same
    rw [if_pos rfl,Versioned.write_same]; rfl
  · rw [if_neg same,Versioned.write_other _ _ same]

theorem moves_write {key : String} {found : Option (ℕ × Marker)} {value : Marker} (held : store.markers.cells key = found)
    (time : KeepsTime found value) (generation : value.generation = Progress.generationOf found ∨
      value.generation = Progress.generationOf found + 1) :
    Moves store { store with markers := store.markers.write key value } := by
  have own : generationAt store key = Progress.generationOf found := by rw [generationAt,held]
  constructor
  · intro other
    rw [generationAt_write]
    split
    · rename_i same; subst same; omega
    · exact le_refl _
  · intro other moment observed
    rw [observedAt_write]
    split
    · rename_i same
      subst same
      rw [observedAt,held] at observed
      obtain ⟨⟨version,marker⟩,found,stamped⟩ := Option.bind_eq_some_iff.mp observed
      exact time version marker moment found stamped
    · exact ⟨moment,observed,le_refl _⟩

-- A conditional write that went through: the generation that was read, or the next one.
theorem Accounts.set_turn (accounts : Accounts calls turns store phases) {flag : Bool} {key : String} {version : Option ℕ}
    {value : Marker} {written : Versioned String Marker} (may : MaySet (phases who) key version value)
    (through : store.markers.compareAndSet key version value = (true,written)) :
    Accounts calls (turns ++ [⟨store,who,.answered flag (.setMarker key version value) (.ok true),{ store with markers := written }⟩])
      { store with markers := written } (Function.update phases who ((phases who).wrote key value)) := by
  obtain ⟨found,seen,rfl,time,generation⟩ := may
  obtain ⟨held,rfl⟩ := Versioned.compareAndSet_found (accounts.recalls who key found seen) through
  have moves : Moves store { store with markers := store.markers.write key value } :=
    moves_write held time (generation.imp_right And.left)
  have own : generationAt store key = Progress.generationOf found := by rw [generationAt,held]
  have saw : (phases who).seenGeneration = Progress.generationOf found := by rw [Progress.seenGeneration,seen]
  have reserves : (∃ other number, Reserves (⟨store,who,.answered flag (.setMarker key (found.map Prod.fst) value) (.ok true),
      { store with markers := store.markers.write key value }⟩ : StoreTurn ι) other number) ↔
        value.generation ≠ Progress.generationOf found := by
    unfold Reserves
    simp only [generationAt_write]
    constructor
    · rintro ⟨other,number,moved,_⟩ same
      split at moved
      · rename_i equal; subst equal; omega
      · exact moved rfl
    · intro moved
      refine ⟨key,_,?_,rfl⟩
      rw [if_pos rfl,own]; exact Ne.symm moved
  refine accounts.next_turn moves ?_ ?_ ?_ ?_ ?_ ?_
  · intro other name known held
    by_cases mine : other = who
    · subst mine
      rw [Function.update_self] at held
      cases held
    · rw [Function.update_of_ne mine] at held
      exact Versioned.recalls_write (accounts.recalls other name known held) key value
  · rw [reserves]
    change Option.isSome (if value.generation = (phases who).seenGeneration then (phases who).reserved
      else some (key,value.generation)) = true ↔ _
    rw [saw]
    by_cases kept : value.generation = Progress.generationOf found
    · rw [if_pos kept]; simp [kept]
    · rw [if_neg kept]; simp [kept]
  · intro moved
    exact (generation.resolve_left (reserves.mp moved)).2
  · exact (Bool.or_false _).symm
  · intro sends; cases sends
  · exact fun undisturbed => accounts.calm undisturbed.earlier who

-- After a conditional write behind another one, a waiting call is lost; no waiting call makes one.
theorem Accounts.missed_turn (accounts : Accounts calls turns store phases) {event : Event incidentPorts PyExc}
    (same : after = store) (quiet : isSend (⟨store,who,event,after⟩ : StoreTurn ι) = false)
    (behind : overtaken (calls who).stamp (⟨store,who,event,after⟩ : StoreTurn ι) = true) :
    Accounts calls (turns ++ [⟨store,who,event,after⟩]) after (Function.update phases who (phases who).missed) := by
  refine accounts.still_turn (by rw [same]) quiet (accounts.recalls who) rfl rfl fun undisturbed => ?_
  have kept := accounts.calm undisturbed.earlier who
  cases pending : (phases who).pending with
  | true => exact absurd behind (Bool.eq_false_iff.mp (accounts.current undisturbed pending))
  | false =>
    change ((phases who).lost || (phases who).pending) = false
    rw [kept,pending]; rfl

-- A request that changes nothing and that no call waits for
theorem Accounts.idle_turn (accounts : Accounts calls turns store phases) {event : Event incidentPorts PyExc}
    (quiet : isSend (⟨store,who,event,after⟩ : StoreTurn ι) = false) (same : after = store) :
    Accounts calls (turns ++ [⟨store,who,event,after⟩]) after (Function.update phases who (phases who)) :=
  accounts.still_turn (by rw [same]) quiet (accounts.recalls who) rfl rfl fun undisturbed => accounts.calm undisturbed.earlier who

theorem Accounts.send_turn (accounts : Accounts calls turns store phases) {flag : Bool} {answer : Except PyExc SendResult}
    (allowed : (oneObservation (calls who).stamp).allows (phases who) (.answered flag .send answer)) :
    Accounts calls (turns ++ [⟨store,who,.answered flag .send answer,store⟩]) store (Function.update phases who (phases who).delivered) := by
  refine accounts.next_turn (moves_same rfl) ?_ ?_ ?_ ?_ (fun _ => allowed) ?_
  · intro other key found held
    refine accounts.recalls other key found ?_
    by_cases own : other = who
    · subst own; rw [Function.update_self] at held; exact held
    · rwa [Function.update_of_ne own] at held
  · exact (or_iff_left (reserves_none rfl)).symm
  · exact fun reserves => absurd reserves (reserves_none rfl)
  · exact (Bool.or_true _).symm
  · exact fun undisturbed => accounts.calm undisturbed.earlier who

-- A reload that finds nothing has read the marker: it is not there.
theorem Accounts.absent_turn (accounts : Accounts calls turns store phases) {flag : Bool} {key : String} (there : store.markers.cells key = none) :
    Accounts calls (turns ++ [⟨store,who,.answered flag (.reloadMarker key) (.ok none),store⟩]) store
      (Function.update phases who ((oneObservation (calls who).stamp).moved (phases who) (.answered flag (.reloadMarker key) (.ok none)))) := by
  refine accounts.still_turn rfl rfl ?_ rfl rfl fun undisturbed => ?_
  · intro other found held
    cases held
    rw [← there]
    exact Versioned.recalls_read _ _
  · have kept := accounts.calm undisturbed.earlier who
    change ((phases who).lost || ((phases who).pending && false)) = false
    rw [kept,Bool.and_false]; rfl

-- A download of the generation that was reloaded; a waiting call is lost where its marker is newer than the call.
theorem Accounts.downloaded_turn (accounts : Accounts calls turns store phases) {flag : Bool} {key : String} {generation : ℕ} {value : Marker}
    (there : store.markers.held key generation = some value) :
    Accounts calls (turns ++ [⟨store,who,.answered flag (.downloadMarker key generation) (.ok value),store⟩]) store
      (Function.update phases who ((oneObservation (calls who).stamp).moved (phases who)
        (.answered flag (.downloadMarker key generation) (.ok value)))) := by
  refine accounts.still_turn rfl rfl ?_ rfl rfl fun undisturbed => ?_
  · intro other found held
    cases held
    rw [← Versioned.held_cells there]
    exact Versioned.recalls_read _ _
  · have kept := accounts.calm undisturbed.earlier who
    change ((phases who).lost || ((phases who).pending && isNewer (calls who).stamp (some (generation,value)))) = false
    rw [kept,Bool.false_or]
    cases pending : (phases who).pending with
    | false => rfl
    | true =>
      have current := accounts.current undisturbed pending
      unfold overtaken at current
      simp only [there] at current
      exact current

theorem accounts_turn (accounts : Accounts calls turns store phases) {event : Event incidentPorts PyExc}
    (allowed : (oneObservation (calls who).stamp).allows (phases who) event) (answered : storeStep store event after) :
    (oneObservation (calls who).stamp).expects (phases who) event ∧
      Accounts calls (turns ++ [⟨store,who,event,after⟩]) after
        (Function.update phases who ((oneObservation (calls who).stamp).moved (phases who) event)) := by
  cases event with
  | fault flag error => exact ⟨trivial,accounts.idle_turn rfl answered⟩
  | marked label => exact label.elim
  | answered flag call answer =>
    cases call with
    | send =>
      have same : after = store := answered
      subst same
      have progress : (oneObservation (calls who).stamp).moved (phases who) (.answered flag .send answer) =
          (phases who).delivered := by cases answer <;> rfl
      rw [progress]
      exact ⟨trivial,accounts.send_turn allowed⟩
    | reloadMarker key =>
      obtain ⟨rfl,rfl⟩ := answered
      refine ⟨⟨_,rfl⟩,?_⟩
      cases there : after.markers.cells key with
      | some cell => exact accounts.idle_turn rfl rfl
      | none => exact accounts.absent_turn there
    | downloadMarker key generation =>
      obtain ⟨rfl,rfl⟩ := answered
      cases there : after.markers.held key generation with
      | none => exact ⟨.inr rfl,accounts.missed_turn rfl rfl (by unfold overtaken; simp only [there])⟩
      | some value => exact ⟨.inl ⟨value,rfl⟩,accounts.downloaded_turn there⟩
    | reloadGroup key =>
      obtain ⟨rfl,same⟩ := answered
      exact ⟨⟨_,rfl⟩,accounts.idle_turn rfl same⟩
    | downloadGroup key generation =>
      obtain ⟨rfl,rfl⟩ := answered
      cases there : after.groups.held key generation with
      | none => exact ⟨.inr rfl,accounts.missed_turn rfl rfl (by unfold overtaken; simp only [there,Option.isNone_none])⟩
      | some value => exact ⟨.inl ⟨value,rfl⟩,accounts.idle_turn rfl rfl⟩
    | setMarker key version value =>
      obtain ⟨rfl,same⟩ := answered
      refine ⟨⟨_,rfl⟩,?_⟩
      cases written : store.markers.compareAndSet key version value with
      | mk done markers =>
        rw [written] at same
        cases done with
        | true => rw [same]; exact accounts.set_turn allowed written
        | false =>
          obtain ⟨stale,rfl⟩ := Versioned.compareAndSet_missed written
          exact accounts.missed_turn same rfl (decide_eq_true stale)
    | setGroup key version value =>
      obtain ⟨rfl,same⟩ := answered
      refine ⟨⟨_,rfl⟩,?_⟩
      cases written : store.groups.compareAndSet key version value with
      | mk done groups =>
        rw [written] at same
        cases done with
        | true =>
          exact accounts.still_turn (by rw [same]) rfl (accounts.recalls who) rfl rfl
            fun undisturbed => accounts.calm undisturbed.earlier who
        | false =>
          obtain ⟨stale,rfl⟩ := Versioned.compareAndSet_missed written
          exact accounts.missed_turn same rfl (decide_eq_true stale)

def endsDelivered (call : ObservingCall) (progress : Progress) (_ : Except PyExc Unit × Unit) : Prop :=
  call.sends = true → progress.pending = true → progress.lost = true

theorem fresh_unsent : Unsent Progress.fresh := ⟨rfl,rfl⟩

theorem program_conforms (digests : Digests) (call : ObservingCall) :
    Conforms (oneObservation call.stamp) (endsDelivered call) Progress.fresh (call.program digests) := by
  cases call with
  | send event state severity =>
    change Script.Promises (sendIncident digests event state severity >>= fun _ => pure ()) (oneObservation event.occurredAt)
      (fun progress result after => endsDelivered (.send event state severity) progress (result,after)) Progress.fresh false ()
    refine promises_bind.mpr (promises_mono ?_ (sendIncident_promises fresh_unsent rfl))
    intro after result _ ended
    cases result with
    | ok _ => exact fun _ => ended
    | error _ => exact fun _ => ended
  | observe event state severity recovered =>
    change Script.Promises (observeIncident digests event state severity recovered >>= fun _ => pure ())
      (oneObservation event.occurredAt) (fun progress result after =>
        endsDelivered (.observe event state severity recovered) progress (result,after)) Progress.fresh false ()
    refine promises_bind.mpr (promises_mono ?_ (observeIncident_promises fresh_unsent rfl))
    intro after result _ _
    cases result with
    | ok _ => exact fun sends => nomatch sends
    | error _ => exact fun sends => nomatch sends

-- In every run in which nobody comes between a reservation and its send, each generation
-- is sent once, by the call that reserved it, and none is left behind.
theorem reservations_are_sent (digests : Digests) (calls : ι → ObservingCall) (start : MarkerStore)
    (left : ι → Tree incidentPorts PyExc (Except PyExc Unit × Unit))
    (run : Interleaves storeStep (fun who => (calls who).program digests) start turns store left)
    (undisturbed : Undisturbed calls turns) : Delivered turns left := by
  obtain ⟨phases,accounts,conforms⟩ := interleaved_keeps (fun who => oneObservation (calls who).stamp)
    (fun who => endsDelivered (calls who)) (fun _ => Progress.fresh) (fun who => program_conforms digests (calls who))
    (Accounts calls) (accounts_start calls start)
    (fun _ _ _ _ _ _ accounts allowed answered => accounts_turn accounts allowed answered) run
  refine ⟨accounts.distinct,accounts.once,?_,accounts.byOwner,?_,accounts.forward⟩
  · intro who
    rw [accounts.sent]
    split <;> decide
  · intro who reserved done
    have own := conforms who
    cases tree : left who with
    | ask => rw [tree] at done; cases done
    | fault => rw [tree] at done; cases done
    | mark => rw [tree] at done; cases done
    | done value =>
      rw [tree] at own
      have ended : (phases who).pending = true → (phases who).lost = true := own (undisturbed.senders who reserved)
      rw [accounts.sent]
      cases sent : (phases who).sent with
      | true => rfl
      | false =>
        have pending : (phases who).pending = true := by
          rw [Progress.pending,sent,(accounts.reserved who).mpr reserved]; rfl
        have lost := ended pending
        rw [accounts.calm undisturbed who] at lost
        cases lost

end Runs

-- A store that answers at once, and a sender that acknowledges.
def storeServe (before : MarkerStore) : (call : IncidentCall) → Except PyExc call.Result × MarkerStore
  | .reloadMarker key => (.ok ((before.markers.cells key).map Prod.fst),before)
  | .downloadMarker key generation => (downloaded (before.markers.held key generation),before)
  | .setMarker key version value =>
    let written := before.markers.compareAndSet key version value
    (.ok written.1,{ before with markers := written.2 })
  | .reloadGroup key => (.ok ((before.groups.cells key).map Prod.fst),before)
  | .downloadGroup key generation => (downloaded (before.groups.held key generation),before)
  | .setGroup key version value =>
    let written := before.groups.compareAndSet key version value
    (.ok written.1,{ before with groups := written.2 })
  | .send => (.ok ⟨true,none⟩,before)

theorem storeServe_answers : Answers (P := incidentPorts) storeServe storeStep := by
  constructor
  · intro store held call
    cases call with
    | send => rfl
    | reloadMarker => exact ⟨rfl,rfl⟩
    | downloadMarker => exact ⟨rfl,rfl⟩
    | setMarker => exact ⟨rfl,rfl⟩
    | reloadGroup => exact ⟨rfl,rfl⟩
    | downloadGroup => exact ⟨rfl,rfl⟩
    | setGroup => exact ⟨rfl,rfl⟩
  · exact fun _ _ _ => rfl
  · exact fun _ label => label.elim

def brokerDown (instant : ℤ) : NotificationEvent :=
  ⟨"real_error",⟨instant,0⟩,some "longbridge",some "account",some "target",some "profile",some "run",none,some "broker down"⟩

def shortDigests : Digests := ⟨fun parts => if parts.length = 6 then "incident" else "transition",fun _ => "group"⟩

-- Two observations of one incident, ten ticks apart.
def twoObservations : Bool → ObservingCall
  | false => .send (brokerDown 0) none 1
  | true => .send (brokerDown 10) none 1

def noMarkers : MarkerStore := ⟨.empty,.empty⟩

def race (order : List Bool) :=
  perform (P := incidentPorts) storeServe order [] noMarkers fun who => (twoObservations who).program shortDigests

theorem race_runs (order : List Bool) :
    Interleaves storeStep (fun who => (twoObservations who).program shortDigests) noMarkers (race order).1 (race order).2.1
      (race order).2.2 :=
  perform_interleaves storeServe_answers order .start

theorem race_reserved {order : List Bool} {who : Bool} (found : (race order).1.any (fun turn => decide (turn.who = who) &&
    decide (generationAt turn.before "incident" ≠ generationAt turn.after "incident")) = true) :
    HasReserved (race order).1 who := by
  obtain ⟨turn,member,held⟩ := List.any_eq_true.mp found
  rw [Bool.and_eq_true,decide_eq_true_eq,decide_eq_true_eq] at held
  exact ⟨turn,member,held.1,"incident",_,held.2,rfl⟩

-- One observation after the other.
def inTurn : List Bool := List.replicate 8 false ++ List.replicate 8 true

theorem observations_in_turn_send : ∃ turns store left,
    Interleaves storeStep (fun who => (twoObservations who).program shortDigests) noMarkers turns store left ∧
    HasReserved turns false ∧ (left false).isDone = true ∧ Delivered turns left := by
  refine ⟨_,_,_,race_runs inTurn,race_reserved (by decide +kernel),by decide +kernel,
    reservations_are_sent shortDigests twoObservations noMarkers _ (race_runs inTurn) ⟨?_,?_⟩⟩
  · intro before turn rest split _ _
    have all : (race inTurn).1.all fun turn => !overtaken (twoObservations turn.who).stamp turn := by decide +kernel
    have own := List.all_eq_true.mp all turn (by rw [split]; simp)
    simpa using own
  · intro who _
    cases who <;> rfl

-- The first has reserved; the second moves the time on; the first finds a newer time.
def overtakenOrder : List Bool := [false,false] ++ List.replicate 8 true ++ List.replicate 8 false

theorem later_observation_loses_the_send : ∃ turns store left,
    Interleaves storeStep (fun who => (twoObservations who).program shortDigests) noMarkers turns store left ∧
    HasReserved turns false ∧ (left false).isDone = true ∧ (left true).isDone = true ∧
    (∀ who, sendsOf turns who = []) ∧ ¬Delivered turns left := by
  have nothing : ∀ who, (sendsOf (race overtakenOrder).1 who).length = 0 := by decide +kernel
  have reserved : HasReserved (race overtakenOrder).1 false := race_reserved (by decide +kernel)
  have done : ((race overtakenOrder).2.2 false).isDone = true := by decide +kernel
  refine ⟨_,_,_,race_runs overtakenOrder,reserved,done,by decide +kernel,
    fun who => List.eq_nil_of_length_eq_zero (nothing who),fun delivered => ?_⟩
  have sent := delivered.noneLost false reserved done
  rw [nothing] at sent
  cases sent

end LongBridge.Notifications
