import LongBridge.Effects.Alone
import LongBridge.Notifications.Persistence

namespace LongBridge.Notifications
open Effects

-- The stores of a call that nobody disturbs
def quietStores : CandidateStores → (call : candidatePorts.Call) → Except PyExc (candidatePorts.Result call) × CandidateStores := storesServe

-- Calls one after another, up to the first that raises
def persistInTurn (hashes : CandidateHashes) : List PersistRequest → CandidateStores → Except PyExc CandidateStores
  | [],stores => .ok stores
  | request :: rest,stores => match (persistCandidate hashes request).alone quietStores stores with
    | (.ok _,after) => persistInTurn hashes rest after
    | (.error raised,_) => .error raised

-- What the two stores hold under a key when the last call has ended
def Slot (stores : CandidateStores) (key : String) : Option CandidateState → Prop
  | none => stores.states.cells key = none ∧ stores.exports.cells key = none
  | some state => (∃ version, stores.states.cells key = some (version,state.stored)) ∧
      ∃ version, stores.exports.cells key = some (version,projection state)

-- What one call makes of the slot, without the stores
def absorb (hashes : CandidateHashes) (state : Option CandidateState) (request : PersistRequest) : Except PyExc CandidateState := do
  let (identity,dryRun) ← boundTarget request
  if state.any fun previous => previous.scopeKey ≠ hashes.scope identity then .error (valueError "notification_candidate_scope_conflict")
  else mergedState hashes request identity dryRun ((state.map CandidateState.stored).getD emptyState)

section alone
variable {hashes : CandidateHashes} {request : PersistRequest} {stores : CandidateStores} {key : String} {state : Option CandidateState}
  {identity : Identity} {dryRun : Bool}

theorem compareAndSet_current {κ ν : Type} [DecidableEq κ] (store : Versioned κ ν) (key : κ) (value : ν) :
    store.compareAndSet key ((store.cells key).map Prod.fst) value = (true,store.write key value) := if_pos rfl

theorem ask_readState (key : String) : (askCandidate (.readState key)).alone quietStores stores = (.ok (stores.states.cells key),stores) := rfl

theorem ask_readExport (key : String) : (askCandidate (.readExport key)).alone quietStores stores = (.ok (stores.exports.cells key),stores) := rfl

theorem ask_setState (key : String) (value : CandidateState) :
    (askCandidate (.setState key ((stores.states.cells key).map Prod.fst) value) : CandidateRun Bool).alone quietStores stores =
      (.ok true,stores.writeState key value) := by
  show ((.ok (stores.states.compareAndSet key ((stores.states.cells key).map Prod.fst) value).1 : Except PyExc Bool),
    { stores with states := (stores.states.compareAndSet key ((stores.states.cells key).map Prod.fst) value).2 }) = _
  rw [compareAndSet_current]
  rfl

theorem ask_setExport (key : String) (value : CandidateObject) :
    (askCandidate (.setExport key ((stores.exports.cells key).map Prod.fst) value) : CandidateRun Bool).alone quietStores stores =
      (.ok true,stores.writeExport key value) := by
  show ((.ok (stores.exports.compareAndSet key ((stores.exports.cells key).map Prod.fst) value).1 : Except PyExc Bool),
    { stores with exports := (stores.exports.compareAndSet key ((stores.exports.cells key).map Prod.fst) value).2 }) = _
  rw [compareAndSet_current]
  rfl

theorem exportProjection_alone {next : CandidateState} {version : ℕ} (held : stores.states.cells key = some (version,next.stored)) :
    ∃ after, (exportProjection key next).alone quietStores stores = (.ok true,after) ∧ Slot after key (some next) := by
  unfold exportProjection
  rw [Script.alone_bind_ok quietStores stores (ask_readExport key),Script.alone_bind_ok quietStores stores (ask_readState key),held,if_neg (by simp)]
  split
  · rename_i same
    obtain ⟨⟨number,object⟩,found,rfl⟩ := Option.map_eq_some_iff.mp same
    exact ⟨stores,rfl,⟨version,held⟩,number,found⟩
  · exact ⟨_,Script.alone_bind_ok quietStores stores (ask_setExport key (projection next)),⟨version,held⟩,_,Versioned.write_same ..⟩

-- A call that raises before it writes leaves the stores as they are.
theorem checkHistory_alone (slot : Slot stores key state) :
    (checkHistory hashes identity key (stores.states.cells key)).alone quietStores stores =
      (if state.any fun previous => previous.scopeKey ≠ hashes.scope identity then .error (valueError "notification_candidate_scope_conflict") else .ok (),
        stores) := by
  cases state with
  | none =>
    rw [slot.1]
    unfold checkHistory
    rw [Script.alone_bind_ok quietStores stores (ask_readExport key),slot.2]
    rfl
  | some previous =>
    obtain ⟨⟨version,held⟩,_⟩ := slot
    rw [held]
    unfold checkHistory
    show Script.alone quietStores (if previous.scopeKey ≠ hashes.scope identity then _ else _) stores = _
    simp only [Option.any_some,decide_eq_true_eq]
    split <;> rfl

theorem storeState_alone {next : CandidateState} :
    ∃ middle, (storeState key (stores.states.cells key) next).alone quietStores stores = (.ok (),middle) ∧
      (∃ version, middle.states.cells key = some (version,next.stored)) := by
  unfold storeState
  split
  · rename_i same
    obtain ⟨⟨version,value⟩,found,rfl⟩ := Option.map_eq_some_iff.mp same
    exact ⟨stores,rfl,version,found⟩
  · exact ⟨_,Script.alone_bind_ok quietStores stores (ask_setState key next.stored),_,Versioned.write_same ..⟩

theorem slot_previous (slot : Slot stores key state) :
    ((stores.states.cells key).map Prod.snd).getD emptyState = (state.map CandidateState.stored).getD emptyState := by
  cases state with
  | none => rw [slot.1]; rfl
  | some previous =>
    obtain ⟨⟨version,held⟩,_⟩ := slot
    rw [held]
    rfl

theorem absorb_bound (bound : boundTarget request = .ok (identity,dryRun)) : absorb hashes state request =
    if state.any fun previous => previous.scopeKey ≠ hashes.scope identity then .error (valueError "notification_candidate_scope_conflict")
    else mergedState hashes request identity dryRun ((state.map CandidateState.stored).getD emptyState) := by
  rw [absorb,bound]
  rfl

-- One call, on a slot as the last call has left it
theorem persistCandidate_alone (slot : Slot stores key state) (here : ∀ identity dryRun, boundTarget request = .ok (identity,dryRun) → candidateKey request identity = key) :
    (∃ next after, absorb hashes state request = .ok next ∧ (persistCandidate hashes request).alone quietStores stores = (.ok true,after) ∧
      Slot after key (some next)) ∨
    ∃ error raised after, absorb hashes state request = .error error ∧
      (persistCandidate hashes request).alone quietStores stores = (.error raised,after) := by
  cases bound : boundTarget request with
  | error raised =>
    refine Or.inr ⟨raised,raised,stores,by rw [absorb,bound]; rfl,?_⟩
    rw [persistCandidate,bound]
    exact Script.alone_bind_error quietStores stores (Script.alone_fromExcept ..)
  | ok target =>
    obtain ⟨identity,dryRun⟩ := target
    rw [absorb_bound bound,persistCandidate,bound,
      Script.alone_bind_ok quietStores stores (Script.alone_fromExcept quietStores stores (Except.ok (identity,dryRun)))]
    dsimp only
    rw [here identity dryRun bound,Script.alone_bind_ok quietStores stores (ask_readState key)]
    have history := @checkHistory_alone hashes stores key state identity slot
    by_cases apart : (state.any fun previous => previous.scopeKey ≠ hashes.scope identity) = true
    · rw [if_pos apart] at history ⊢
      exact Or.inr ⟨_,_,_,rfl,Script.alone_bind_error quietStores stores history⟩
    · rw [if_neg apart] at history ⊢
      rw [Script.alone_bind_ok quietStores stores history,slot_previous slot]
      cases merged : mergedState hashes request identity dryRun ((state.map CandidateState.stored).getD emptyState) with
      | error raised => exact Or.inr ⟨raised,raised,stores,rfl,Script.alone_bind_error quietStores stores (Script.alone_fromExcept ..)⟩
      | ok next =>
        rw [Script.alone_bind_ok quietStores stores (Script.alone_fromExcept quietStores stores (Except.ok next))]
        obtain ⟨middle,stored,version,held⟩ := @storeState_alone stores key next
        rw [Script.alone_bind_ok quietStores stores stored]
        obtain ⟨after,done,slotted⟩ := exportProjection_alone held
        exact Or.inl ⟨next,after,rfl,done,slotted⟩

end alone

section turns
variable {hashes : CandidateHashes} {key : String}

-- The same without the stores
def absorbAll (hashes : CandidateHashes) (requests : List PersistRequest) (state : Option CandidateState) : Except PyExc (Option CandidateState) :=
  requests.foldlM (fun state request => (absorb hashes state request).map some) state

theorem persistInTurn_absorbs {requests : List PersistRequest}
    (here : ∀ request ∈ requests, ∀ identity dryRun, boundTarget request = .ok (identity,dryRun) → candidateKey request identity = key)
    {stores : CandidateStores} {state : Option CandidateState} (slot : Slot stores key state) :
    (∃ last after, absorbAll hashes requests state = .ok last ∧ persistInTurn hashes requests stores = .ok after ∧ Slot after key last) ∨
    ∃ error raised, absorbAll hashes requests state = .error error ∧ persistInTurn hashes requests stores = .error raised := by
  induction requests generalizing stores state with
  | nil => exact Or.inl ⟨state,stores,rfl,rfl,slot⟩
  | cons request rest ih =>
    unfold absorbAll persistInTurn
    rw [List.foldlM_cons]
    rcases @persistCandidate_alone hashes request stores key state slot (here request List.mem_cons_self) with
      ⟨next,after,absorbed,ran,slotted⟩ | ⟨error,raised,after,absorbed,ran⟩
    · rw [absorbed,ran]
      exact ih (fun other member => here other (List.mem_cons_of_mem _ member)) slotted
    · rw [absorbed,ran]
      exact Or.inr ⟨error,raised,rfl,rfl⟩

end turns

end LongBridge.Notifications
