import LongBridge.Effects.Histories
import LongBridge.Notifications.Persisting

namespace LongBridge.Notifications
open Effects

-- The private states and the exported objects, each store with versions of its own.
structure CandidateStores where
  states : Versioned String CandidateState
  exports : Versioned String CandidateObject

namespace CandidateStores

def empty : CandidateStores := ⟨.empty,.empty⟩

def writeState (stores : CandidateStores) (key : String) (value : CandidateState) : CandidateStores :=
  { stores with states := stores.states.write key value }

def writeExport (stores : CandidateStores) (key : String) (value : CandidateObject) : CandidateStores :=
  { stores with exports := stores.exports.write key value }

end CandidateStores

-- Reads and conditional writes are atomic; any of them may fail.
def storesStep (before : CandidateStores) (event : Event candidatePorts PyExc) (after : CandidateStores) : Prop :=
  match event with
  | .answered _ (.readState key) answer => before.states.Reads key answer ∧ after = before
  | .answered _ (.setState key version value) answer =>
    before.states.Sets key version value answer after.states ∧ after.exports = before.exports
  | .answered _ (.readExport key) answer => before.exports.Reads key answer ∧ after = before
  | .answered _ (.setExport key version value) answer =>
    before.exports.Sets key version value answer after.exports ∧ after.states = before.states
  | _ => after = before

abbrev StoresTurn (ι : Type) := Turn candidatePorts PyExc CandidateStores ι

def persistProgram (hashes : CandidateHashes) (request : PersistRequest) : Tree candidatePorts PyExc (Except PyExc Bool × Unit) :=
  (persistCandidate hashes request).run false ()

-- The version of the private state, and the state, that each version of an object shows.
abbrev Origin := String → ℕ → ℕ × CandidateState

section Runs

variable {ι : Type} [DecidableEq ι]

abbrev HadState (turns : List (StoresTurn ι)) (stores : CandidateStores) := Had CandidateStores.states turns stores

abbrev HadExport (turns : List (StoresTurn ι)) (stores : CandidateStores) := Had CandidateStores.exports turns stores

-- What a call has in hand, against the stores and the run so far.
structure Knows (turns : List (StoresTurn ι)) (stores : CandidateStores) (origin : Origin) (phase : Persisting) : Prop where
  state : ∀ key found, phase.seenState = some (key,found) →
    stores.states.Recalls key found ∧ ∀ cell, found = some cell → HadState turns stores key cell
  object : ∀ key found, phase.seenExport = some (key,found) →
    stores.exports.Recalls key found ∧ ∀ cell, found = some cell → HadExport turns stores key cell
  wrote : ∀ key object, phase.exported = some (key,object) → ∃ number, HadExport turns stores key (number,object)
  fresh : phase.inOrder = true → ∀ key seen cell, phase.seenExport = some (key,seen) → phase.seenState = some (key,some cell) →
    stores.exports.cells key = seen → ∀ older, HadExport turns stores key older → (origin key older.1).1 ≤ cell.1

structure Kept (hashes : CandidateHashes) (requests : ι → PersistRequest) (origin : Origin) (turns : List (StoresTurn ι))
    (stores : CandidateStores) (phases : ι → Persisting) : Prop where
  states : History (fun _ one two => Grows one.2 two.2) CandidateStores.states turns stores
  exports : History (fun key one two => (origin key one.1).1 ≤ (origin key two.1).1) CandidateStores.exports turns stores
  recorded : ∀ key cell, HadState turns stores key cell → Recorded hashes requests cell.2
  projected : ∀ key cell, HadExport turns stores key cell →
    cell.2 = projection (origin key cell.1).2 ∧ HadState turns stores key (origin key cell.1)
  knows : ∀ who, Knows turns stores origin (phases who)

variable {hashes : CandidateHashes} {requests : ι → PersistRequest} {origin : Origin} {turns : List (StoresTurn ι)}
  {stores : CandidateStores} {phases : ι → Persisting} {phase next : Persisting} {who : ι}
  {event : Event candidatePorts PyExc} {key : String}

omit [DecidableEq ι] in
theorem knows_fresh : Knows turns stores origin Persisting.fresh := by
  constructor
  · exact fun _ _ seen => nomatch seen
  · exact fun _ _ seen => nomatch seen
  · exact fun _ _ wrote => nomatch wrote
  · exact fun ordered => nomatch ordered

omit [DecidableEq ι] in
theorem kept_start : Kept hashes requests origin ([] : List (StoresTurn ι)) .empty fun _ => Persisting.fresh := by
  have never : ∀ {ν : Type} (view : CandidateStores → Versioned String ν), (∀ key, (view .empty).cells key = none) →
      ∀ key cell, ¬Had view ([] : List (StoresTurn ι)) CandidateStores.empty key cell := by
    rintro ν view none key cell (found | ⟨turn,member,_⟩)
    · rw [none] at found; cases found
    · cases member
  constructor
  · exact history_start fun _ => rfl
  · exact history_start fun _ => rfl
  · exact fun key cell had => absurd had (never _ (fun _ => rfl) key cell)
  · exact fun key cell had => absurd had (never _ (fun _ => rfl) key cell)
  · exact fun _ => knows_fresh

omit [DecidableEq ι] in
theorem knows_turn {after : CandidateStores} {later : Origin} (knows : Knows turns stores origin phase)
    (states : ∀ key found, stores.states.Recalls key found → after.states.Recalls key found)
    (objects : ∀ key found, stores.exports.Recalls key found → after.exports.Recalls key found)
    (fresh : phase.inOrder = true → ∀ key seen cell, phase.seenExport = some (key,seen) →
      phase.seenState = some (key,some cell) → after.exports.cells key = seen →
      ∀ older, HadExport (turns ++ [⟨stores,who,event,after⟩]) after key older → (later key older.1).1 ≤ cell.1) :
    Knows (turns ++ [⟨stores,who,event,after⟩]) after later phase := by
  constructor
  · intro key found seen
    obtain ⟨recalls,had⟩ := knows.state key found seen
    exact ⟨states key found recalls,fun cell same => had_snoc.mpr (.inr (had cell same))⟩
  · intro key found seen
    obtain ⟨recalls,had⟩ := knows.object key found seen
    exact ⟨objects key found recalls,fun cell same => had_snoc.mpr (.inr (had cell same))⟩
  · intro key object wrote
    obtain ⟨number,had⟩ := knows.wrote key object wrote
    exact ⟨number,had_snoc.mpr (.inr had)⟩
  · exact fresh

theorem knows_update {turns : List (StoresTurn ι)} (all : ∀ other, Knows turns stores origin (phases other))
    (own : Knows turns stores origin next) (other : ι) : Knows turns stores origin (Function.update phases who next other) := by
  by_cases same : other = who
  · subst same
    rw [Function.update_self]; exact own
  · rw [Function.update_of_ne same]; exact all other

-- A turn that leaves the stores alone.
theorem Kept.still_turn (kept : Kept hashes requests origin turns stores phases) (own : Knows turns stores origin next) :
    Kept hashes requests origin (turns ++ [⟨stores,who,event,stores⟩]) stores (Function.update phases who next) := by
  have still : ∀ {phase : Persisting}, Knows turns stores origin phase →
      Knows (turns ++ [⟨stores,who,event,stores⟩]) stores origin phase := by
    intro phase knows
    refine knows_turn knows (fun _ _ recalls => recalls) (fun _ _ recalls => recalls) ?_
    intro ordered key seen cell object state current older had
    exact knows.fresh ordered key seen cell object state current older ((had_still rfl).mp had)
  refine ⟨kept.states.still rfl,kept.exports.still rfl,?_,?_,knows_update (fun other => still (kept.knows other)) (still own)⟩
  · exact fun key cell had => kept.recorded key cell ((had_still rfl).mp had)
  · intro key cell had
    obtain ⟨same,source⟩ := kept.projected key cell ((had_still rfl).mp had)
    exact ⟨same,(had_still rfl).mpr source⟩

theorem Kept.state_turn (kept : Kept hashes requests origin turns stores phases) {value : CandidateState}
    (recorded : Recorded hashes requests value) (grows : ∀ cell, stores.states.cells key = some cell → Grows cell.2 value)
    (own : Knows turns stores origin next) :
    Kept hashes requests origin (turns ++ [⟨stores,who,event,stores.writeState key value⟩]) (stores.writeState key value)
      (Function.update phases who next) := by
  have objects : (stores.writeState key value).exports = stores.exports := rfl
  have other : ∀ {phase : Persisting}, Knows turns stores origin phase →
      Knows (turns ++ [⟨stores,who,event,stores.writeState key value⟩]) (stores.writeState key value) origin phase := by
    intro phase knows
    refine knows_turn knows (fun _ _ recalls => Versioned.recalls_write recalls key value) (fun _ _ recalls => recalls) ?_
    intro ordered name seen cell object state current older had
    exact knows.fresh ordered name seen cell object state current older ((had_still objects).mp had)
  refine ⟨kept.states.write rfl (.refl value) ?_,kept.exports.still rfl,?_,?_,
    knows_update (fun one => other (kept.knows one)) (other own)⟩
  · intro cell had
    obtain ⟨now,found,order⟩ := kept.states.current key cell had
    exact (kept.states.ordered key cell now had (.inl found) order).trans (grows now found)
  · intro name cell had
    rcases (had_written rfl).mp had with ⟨_,rfl⟩ | earlier
    · exact recorded
    · exact kept.recorded name cell earlier
  · intro name cell had
    obtain ⟨same,source⟩ := kept.projected name cell ((had_still objects).mp had)
    exact ⟨same,had_snoc.mpr (.inr source)⟩

def Origin.set (origin : Origin) (key : String) (number : ℕ) (state : ℕ × CandidateState) : Origin :=
  fun name version => if name = key ∧ version = number then state else origin name version

omit [DecidableEq ι] in
theorem origin_kept {state : ℕ × CandidateState} {place : String} {cell : ℕ × CandidateObject}
    (history : History (fun key one two => (origin key one.1).1 ≤ (origin key two.1).1) CandidateStores.exports turns stores)
    (had : HadExport turns stores key cell) :
    origin.set place (stores.exports.last + 1) state key cell.1 = origin key cell.1 := by
  have bound := history.bounded had
  refine if_neg fun same => ?_
  omega

theorem Kept.export_turn (kept : Kept hashes requests origin turns stores phases) {seen : Option (ℕ × CandidateObject)}
    {state : ℕ × CandidateState} (ordered : (phases who).inOrder = true) (object : (phases who).seenExport = some (key,seen))
    (latest : (phases who).seenState = some (key,some state)) (found : stores.exports.cells key = seen)
    (own : next = phases who ∨ next = (phases who).wroteExport key (projection state.2)) :
    Kept hashes requests (origin.set key (stores.exports.last + 1) state)
      (turns ++ [⟨stores,who,event,stores.writeExport key (projection state.2)⟩]) (stores.writeExport key (projection state.2))
      (Function.update phases who next) := by
  have states : (stores.writeExport key (projection state.2)).states = stores.states := rfl
  have new : origin.set key (stores.exports.last + 1) state key (stores.exports.last + 1) = state := if_pos ⟨rfl,rfl⟩
  have newest : ∀ older, HadExport turns stores key older → (origin key older.1).1 ≤ state.1 :=
    (kept.knows who).fresh ordered key seen state object latest found
  have other : ∀ {phase : Persisting}, Knows turns stores origin phase →
      Knows (turns ++ [⟨stores,who,event,stores.writeExport key (projection state.2)⟩])
        (stores.writeExport key (projection state.2)) (origin.set key (stores.exports.last + 1) state) phase := by
    intro phase knows
    refine knows_turn knows (fun _ _ recalls => recalls) (fun _ _ recalls => Versioned.recalls_write recalls _ _) ?_
    intro inOrder name held cell exported read current older had
    rcases (had_written rfl).mp had with ⟨rfl,rfl⟩ | earlier
    · -- What the call has read of this key is not what is there now.
      have written := Versioned.write_same stores.exports name (projection state.2)
      have now : some (stores.exports.last + 1,projection state.2) = held := written.symm.trans current
      subst now
      have bound := ((knows.object name _ exported).1 _ _ rfl).1
      omega
    · rw [origin_kept kept.exports earlier]
      by_cases here : name = key
      · subst here
        have written := Versioned.write_same stores.exports name (projection state.2)
        have now : some (stores.exports.last + 1,projection state.2) = held := written.symm.trans current
        subst now
        have bound := ((knows.object name _ exported).1 _ _ rfl).1
        omega
      · have current : stores.exports.cells name = held := (Versioned.write_other _ _ here).symm.trans current
        exact knows.fresh inOrder name held cell exported read current older earlier
  refine ⟨kept.states.still rfl,?_,?_,?_,knows_update (fun one => other (kept.knows one)) ?_⟩
  · refine (kept.exports.mono ?_).write rfl (Nat.le_refl _) ?_
    · intro name one two first second _ order
      rw [origin_kept kept.exports first,origin_kept kept.exports second]; exact order
    · intro cell had
      rw [origin_kept kept.exports had,new]
      exact newest cell had
  · exact fun name cell had => kept.recorded name cell ((had_still states).mp had)
  · intro name cell had
    rcases (had_written rfl).mp had with ⟨rfl,rfl⟩ | earlier
    · rw [new]
      exact ⟨rfl,(had_still states).mpr (((kept.knows who).state name _ latest).2 state rfl)⟩
    · obtain ⟨same,source⟩ := kept.projected name cell earlier
      rw [origin_kept kept.exports earlier]
      exact ⟨same,(had_still states).mpr source⟩
  · have kept := other (kept.knows who)
    rcases own with rfl | rfl
    · exact kept
    · refine ⟨kept.state,kept.object,?_,fun ordered => nomatch ordered⟩
      intro name written same
      cases same
      exact ⟨_,(had_written rfl).mpr (.inl ⟨rfl,rfl⟩)⟩

omit [DecidableEq ι] in
theorem Kept.knows_readState (kept : Kept hashes requests origin turns stores phases) (who : ι) (key : String) :
    Knows turns stores origin ((phases who).readState key (stores.states.cells key)) := by
  have knows := kept.knows who
  refine ⟨?_,knows.object,knows.wrote,?_⟩
  · intro name found seen
    cases seen
    exact ⟨Versioned.recalls_read _ _,fun cell same => .inl same⟩
  · intro _ name seen cell _ latest _ older had
    obtain ⟨same,current⟩ := Prod.mk.inj (Option.some.inj latest)
    subst same
    obtain ⟨_,source⟩ := kept.projected key older had
    obtain ⟨now,found,order⟩ := kept.states.current key _ source
    rw [Option.some.inj (current.symm.trans found)]
    exact order

omit [DecidableEq ι] in
theorem Kept.knows_readExport (kept : Kept hashes requests origin turns stores phases) (who : ι) (key : String) :
    Knows turns stores origin ((phases who).readExport key (stores.exports.cells key)) := by
  have knows := kept.knows who
  refine ⟨knows.state,?_,knows.wrote,fun ordered => nomatch ordered⟩
  intro name found seen
  cases seen
  exact ⟨Versioned.recalls_read _ _,fun cell same => .inl same⟩

omit [DecidableEq ι] in
theorem Kept.knows_wroteState (kept : Kept hashes requests origin turns stores phases) (who : ι) :
    Knows turns stores origin (phases who).wroteState :=
  ⟨(fun _ _ seen => nomatch seen),(kept.knows who).object,(kept.knows who).wrote,fun ordered => nomatch ordered⟩

theorem kept_turn {after : CandidateStores} (kept : Kept hashes requests origin turns stores phases)
    (allowed : (onePersist hashes requests).allows (phases who) event) (answered : storesStep stores event after) :
    (onePersist hashes requests).expects (phases who) event ∧ ∃ later, Kept hashes requests later
      (turns ++ [⟨stores,who,event,after⟩]) after
      (Function.update phases who ((onePersist hashes requests).moved (phases who) event)) := by
  cases event with
  | fault flag error =>
    have same : after = stores := answered
    subst same
    exact ⟨trivial,origin,kept.still_turn (kept.knows who)⟩
  | marked label => exact label.elim
  | answered flag call answer =>
    cases call with
    | readState key =>
      obtain ⟨read,rfl⟩ := answered
      rcases read with rfl | ⟨error,rfl⟩
      · refine ⟨?_,origin,kept.still_turn (kept.knows_readState who key)⟩
        cases found : after.states.cells key with
        | none => exact trivial
        | some cell => exact kept.recorded key cell (.inl found)
      · exact ⟨trivial,origin,kept.still_turn (kept.knows who)⟩
    | readExport key =>
      obtain ⟨read,rfl⟩ := answered
      rcases read with rfl | ⟨error,rfl⟩
      · exact ⟨trivial,origin,kept.still_turn (kept.knows_readExport who key)⟩
      · exact ⟨trivial,origin,kept.still_turn (kept.knows who)⟩
    | setState key version value =>
      obtain ⟨found,seen,rfl,recorded,grows⟩ := allowed
      obtain ⟨sets,same⟩ := answered
      have knows : Knows turns stores origin
          ((onePersist hashes requests).moved (phases who) (.answered flag (.setState key (found.map Prod.fst) value) answer)) := by
        cases answer with
        | ok done => exact kept.knows_wroteState who
        | error exc => exact kept.knows who
      refine ⟨trivial,origin,?_⟩
      rcases Versioned.sets_cases ((kept.knows who).state key found seen).1 sets with ⟨held,written⟩ | ⟨still,_⟩
      · have moved : after = stores.writeState key value := by cases after; subst written; subst same; rfl
        subst moved
        exact kept.state_turn recorded (fun cell now => grows cell.1 cell.2 (held.symm.trans now)) knows
      · have idle : after = stores := by cases after; subst still; subst same; rfl
        subst idle
        exact kept.still_turn knows
    | setExport key version value =>
      obtain ⟨ordered,found,number,state,object,rfl,latest,rfl⟩ := allowed
      obtain ⟨sets,same⟩ := answered
      rcases Versioned.sets_cases ((kept.knows who).object key found object).1 sets with ⟨held,written⟩ | ⟨still,failed⟩
      · have moved : after = stores.writeExport key (projection state) := by cases after; subst written; subst same; rfl
        subst moved
        refine ⟨trivial,_,kept.export_turn ordered object latest held ?_⟩
        match answer with
        | .ok true => exact .inr rfl
        | .ok false => exact .inl rfl
        | .error _ => exact .inl rfl
      · have idle : after = stores := by cases after; subst still; subst same; rfl
        subst idle
        refine ⟨trivial,origin,kept.still_turn ?_⟩
        match answer with
        | .ok true => exact absurd rfl failed
        | .ok false => exact kept.knows who
        | .error _ => exact kept.knows who

-- Every version of an object shows a version of the private state.
structure ShowsStates (origin : Origin) (turns : List (StoresTurn ι)) (stores : CandidateStores) : Prop where
  projected : ∀ key cell, HadExport turns stores key cell →
    cell.2 = projection (origin key cell.1).2 ∧ HadState turns stores key (origin key cell.1)
  replaced : ∀ turn ∈ turns, ∀ key cell, turn.before.exports.cells key = some cell →
    ∃ later, turn.after.exports.cells key = some later ∧ (origin key cell.1).1 ≤ (origin key later.1).1

structure Preserved (requests : ι → PersistRequest) (turns : List (StoresTurn ι)) (stores : CandidateStores)
    (left : ι → Tree candidatePorts PyExc (Except PyExc Bool × Unit)) : Prop where
  grows : ∀ turn ∈ turns, ∀ key cell, turn.before.states.cells key = some cell →
    ∃ later, turn.after.states.cells key = some later ∧ cell.1 ≤ later.1 ∧ Grows cell.2 later.2
  forward : ∃ origin, ShowsStates origin turns stores
  shown : ∀ who identity dryRun, left who = .done (.ok true,()) → (requests who).binding = .ok (identity,dryRun) →
    (requests who).actuallyRan = true → ∃ number state, HadState turns stores (candidateKey (requests who) identity) state ∧
      stores.exports.cells (candidateKey (requests who) identity) = some (number,projection state.2) ∧
      (∃ name, (name,(requests who).event) ∈ state.2.events) ∧
      Shows (projection state.2) (requests who).event.sourceRunId (requests who).event

omit [DecidableEq ι] in
theorem Kept.shown (kept : Kept hashes requests origin turns stores phases) {identity : Identity} {dryRun : Bool}
    (persisted : Persisted hashes requests who (phases who) (.ok true)) (bound : (requests who).binding = .ok (identity,dryRun))
    (ran : (requests who).actuallyRan = true) :
    ∃ number state, HadState turns stores (candidateKey (requests who) identity) state ∧
      stores.exports.cells (candidateKey (requests who) identity) = some (number,projection state.2) ∧
      (∃ name, (name,(requests who).event) ∈ state.2.events) ∧
      Shows (projection state.2) (requests who).event.sourceRunId (requests who).event := by
  obtain ⟨own,flag,same,state,recorded,holds,exported⟩ := persisted rfl
  rw [bound] at same
  cases same
  have had : ∃ number, HadExport turns stores (candidateKey (requests who) identity) (number,projection state) := by
    rcases exported with wrote | ⟨version,seen⟩
    · exact (kept.knows who).wrote _ _ wrote
    · exact ⟨version,((kept.knows who).object _ _ seen).2 _ rfl⟩
  obtain ⟨number,had⟩ := had
  obtain ⟨⟨newer,object⟩,found,order⟩ := kept.exports.current _ _ had
  obtain ⟨equal,first⟩ := kept.projected _ _ had
  obtain ⟨shows,last⟩ := kept.projected _ _ (.inl found)
  have equal : projection state = projection (origin (candidateKey (requests who) identity) number).2 := equal
  have shows : object = projection (origin (candidateKey (requests who) identity) newer).2 := shows
  have grows := kept.states.ordered _ _ _ first last (kept.exports.ordered _ _ _ had (.inl found) order)
  have row : Shows (projection (origin (candidateKey (requests who) identity) newer).2) (requests who).event.sourceRunId
      (requests who).event := by
    refine shows_grows (kept.recorded _ _ first) (kept.recorded _ _ last) grows rfl ?_
    rw [← equal]
    exact shows_projection recorded rfl holds.event (holds.source ran)
  subst shows
  refine ⟨newer,_,last,found,?_,row⟩
  obtain ⟨exported,member,_,_,listed⟩ := row
  obtain ⟨row,there,rfl⟩ := List.mem_map.mp member
  exact ((kept.recorded _ _ last).shown row there).2 _ listed

-- In every run of any calls over stores that start empty: the private state only grows, an
-- object never goes back to an older state, and what a call has reported stays exported.
theorem candidates_are_preserved (hashes : CandidateHashes) (requests : ι → PersistRequest) (separated : Separated hashes requests)
    {left : ι → Tree candidatePorts PyExc (Except PyExc Bool × Unit)}
    (run : Interleaves storesStep (fun who => persistProgram hashes (requests who)) .empty turns stores left) :
    Preserved requests turns stores left := by
  obtain ⟨phases,⟨origin,kept⟩,conforms⟩ := interleaved_keeps (fun _ => onePersist hashes requests)
    (fun who phase (result : Except PyExc Bool × Unit) => Persisted hashes requests who phase result.1) (fun _ => Persisting.fresh)
    (fun who => persistCandidate_promises separated who) (fun turns stores phases => ∃ origin, Kept hashes requests origin turns stores phases)
    ⟨fun _ _ => (0,emptyState),kept_start⟩
    (fun _ _ _ _ _ _ kept allowed answered => by obtain ⟨origin,kept⟩ := kept; exact kept_turn kept allowed answered) run
  constructor
  · intro turn member key cell before
    obtain ⟨later,after,order⟩ := kept.states.forward turn member key cell before
    exact ⟨later,after,order,kept.states.ordered key cell later (.inr ⟨turn,member,.inl before⟩) (.inr ⟨turn,member,.inr after⟩) order⟩
  · refine ⟨origin,kept.projected,fun turn member key cell before => ?_⟩
    obtain ⟨later,after,order⟩ := kept.exports.forward turn member key cell before
    exact ⟨later,after,kept.exports.ordered key cell later (.inr ⟨turn,member,.inl before⟩) (.inr ⟨turn,member,.inr after⟩) order⟩
  · intro who identity dryRun done bound ran
    have own := conforms who
    rw [done] at own
    exact kept.shown own bound ran

end Runs

-- Stores that answer at once.
def storesServe (before : CandidateStores) : (call : CandidateCall) → Except PyExc call.Result × CandidateStores
  | .readState key => (.ok (before.states.cells key),before)
  | .setState key version value =>
    let written := before.states.compareAndSet key version value
    (.ok written.1,{ before with states := written.2 })
  | .readExport key => (.ok (before.exports.cells key),before)
  | .setExport key version value =>
    let written := before.exports.compareAndSet key version value
    (.ok written.1,{ before with exports := written.2 })

theorem storesServe_answers : Answers (P := candidatePorts) storesServe storesStep := by
  constructor
  · intro stores held call
    cases call with
    | readState => exact ⟨.inl rfl,rfl⟩
    | setState => exact ⟨.inl ⟨rfl,rfl⟩,rfl⟩
    | readExport => exact ⟨.inl rfl,rfl⟩
    | setExport => exact ⟨.inl ⟨rfl,rfl⟩,rfl⟩
  · exact fun _ _ _ => rfl
  · exact fun _ label => label.elim

def ranCycle (run dedupe : String) : PersistRequest where
  binding := .ok (⟨"longbridge","profile","target","account"⟩,false)
  slot := "slot"
  event := ⟨"routine_cycle","2026-01-05T15:00:00+00:00",some "longbridge",some "account",some "target",some "profile",run,none,
    none,some 0,some 0,none,"2026-01-05","2026-01-05","window",dedupe,"known"⟩
  actuallyRan := true
  previewCount := none
  notRun := false
  skipReason := none
  observationCounts := .none
  reportCounts := .none

def twoCycles : Bool → PersistRequest
  | false => ranCycle "morning" "one"
  | true => ranCycle "evening" "two"

def plainHashes : CandidateHashes := ⟨CandidateEvent.dedupeKey,Identity.targetId⟩

theorem twoCycles_separated : Separated plainHashes twoCycles := by
  constructor
  · intro one two
    cases one <;> cases two <;> decide
  · intro one two
    cases one <;> cases two <;> decide

def twoPersist (order : List Bool) :=
  perform (P := candidatePorts) storesServe order [] .empty fun who => persistProgram plainHashes (twoCycles who)

theorem twoPersist_runs (order : List Bool) :
    Interleaves storesStep (fun who => persistProgram plainHashes (twoCycles who)) .empty (twoPersist order).1 (twoPersist order).2.1
      (twoPersist order).2.2 :=
  perform_interleaves storesServe_answers order .start

-- The second call reads the private state before the first has written it, and conflicts.
def conflictOrder : List Bool := [true] ++ List.replicate 8 false ++ List.replicate 8 true

theorem conflicting_cycles_are_preserved : ∃ turns stores left,
    Interleaves storesStep (fun who => persistProgram plainHashes (twoCycles who)) .empty turns stores left ∧
    (left false).isDone = true ∧ (left true).isDone = true ∧ (stores.exports.cells "longbridge/2026-01-05/slot").isSome = true ∧
    Preserved twoCycles turns stores left :=
  ⟨_,_,_,twoPersist_runs conflictOrder,by decide +kernel,by decide +kernel,by decide +kernel,
    candidates_are_preserved plainHashes twoCycles twoCycles_separated (twoPersist_runs conflictOrder)⟩

end LongBridge.Notifications
