import Mathlib.Data.List.Basic

namespace Effects

-- A program reaches the outside only through the calls of its ports. What a
-- call answers is not computed here: a run receives it. A mark is a step nobody
-- answers: a note in the run, to speak about the moment it was made.
structure Ports where
  Call : Type
  Result : Call → Type
  Mark : Type

variable {P : Ports} {ε α β : Type}

-- `held` says that the program itself handles a failure of this step, so that a
-- failing step which is not held is one that leaves the program.
inductive Event (P : Ports) (ε : Type) where
  | answered (held : Bool) (call : P.Call) (answer : Except ε (P.Result call))
  | fault (held : Bool) (error : ε)
  | marked (label : P.Mark)

def Event.held : Event P ε → Bool
  | .answered held _ _ => held
  | .fault held _ => held
  | .marked _ => true

def Event.escapes : Event P ε → Option ε
  | .answered false _ (.error error) => some error
  | .fault false error => some error
  | _ => none

theorem Event.escapes_held {event : Event P ε} (held : event.held = true) : event.escapes = none := by
  cases event with
  | answered flag call answer => cases flag <;> simp_all [Event.held,Event.escapes]
  | fault flag error => cases flag <;> simp_all [Event.held,Event.escapes]
  | marked label => rfl

theorem Event.escapes_fault (held : Bool) (error : ε) :
    (.fault held error : Event P ε).escapes = if held then none else some error := by cases held <;> rfl

inductive Tree (P : Ports) (ε α : Type) where
  | done (value : α)
  | ask (held : Bool) (call : P.Call) (next : Except ε (P.Result call) → Tree P ε α)
  | fault (held : Bool) (error : ε) (next : Tree P ε α)
  | mark (label : P.Mark) (next : Tree P ε α)

namespace Tree

def bind (tree : Tree P ε α) (rest : α → Tree P ε β) : Tree P ε β :=
  match tree with
  | .done value => rest value
  | .ask held call next => .ask held call (fun answer => (next answer).bind rest)
  | .fault held error next => .fault held error (next.bind rest)
  | .mark label next => .mark label (next.bind rest)

end Tree

-- A complete run: the answers are chosen by nobody in particular, so a property
-- of every run holds for every behaviour of the ports, also one that depends on
-- everything that happened before.
inductive Runs : Tree P ε α → List (Event P ε) → α → Prop where
  | done : Runs (.done value) [] value
  | ask {next : Except ε (P.Result call) → Tree P ε α} : Runs (next answer) events value →
      Runs (.ask held call next) (.answered held call answer :: events) value
  | fault : Runs next events value → Runs (.fault held error next) (.fault held error :: events) value
  | mark : Runs next events value → Runs (.mark label next) (.marked label :: events) value

theorem runs_done {value result : α} {events : List (Event P ε)} :
    Runs (.done value : Tree P ε α) events result ↔ events = [] ∧ result = value := by
  constructor
  · intro run; cases run; exact ⟨rfl,rfl⟩
  · rintro ⟨rfl,rfl⟩; exact .done

theorem runs_ask {call : P.Call} {next : Except ε (P.Result call) → Tree P ε α} :
    Runs (.ask held call next) events value ↔
      ∃ answer rest, events = .answered held call answer :: rest ∧ Runs (next answer) rest value := by
  constructor
  · intro run; cases run with
    | ask rest => exact ⟨_,_,rfl,rest⟩
  · rintro ⟨answer,rest,rfl,run⟩; exact .ask run

theorem runs_fault {next : Tree P ε α} :
    Runs (.fault held error next) events value ↔
      ∃ rest, events = .fault held error :: rest ∧ Runs next rest value := by
  constructor
  · intro run; cases run with
    | fault rest => exact ⟨_,rfl,rest⟩
  · rintro ⟨rest,rfl,run⟩; exact .fault run

theorem runs_mark {next : Tree P ε α} :
    Runs (.mark label next) events value ↔ ∃ rest, events = .marked label :: rest ∧ Runs next rest value := by
  constructor
  · intro run; cases run with
    | mark rest => exact ⟨_,rfl,rest⟩
  · rintro ⟨rest,rfl,run⟩; exact .mark run

theorem runs_bind {tree : Tree P ε α} {rest : α → Tree P ε β} :
    Runs (tree.bind rest) events result ↔
      ∃ first second value, events = first ++ second ∧ Runs tree first value ∧
        Runs (rest value) second result := by
  induction tree generalizing events with
  | done value =>
    simp only [Tree.bind,runs_done]
    constructor
    · intro run; exact ⟨[],events,value,rfl,⟨rfl,rfl⟩,run⟩
    · rintro ⟨first,second,_,rfl,⟨rfl,rfl⟩,run⟩; exact run
  | ask held call next ih =>
    simp only [Tree.bind,runs_ask]
    constructor
    · rintro ⟨answer,tail,rfl,run⟩
      obtain ⟨first,second,value,rfl,one,two⟩ := (ih answer).mp run
      exact ⟨_ :: first,second,value,rfl,⟨answer,first,rfl,one⟩,two⟩
    · rintro ⟨_,second,value,rfl,⟨answer,first,rfl,one⟩,two⟩
      exact ⟨answer,first ++ second,rfl,(ih answer).mpr ⟨first,second,value,rfl,one,two⟩⟩
  | fault held error next ih =>
    simp only [Tree.bind,runs_fault]
    constructor
    · rintro ⟨tail,rfl,run⟩
      obtain ⟨first,second,value,rfl,one,two⟩ := ih.mp run
      exact ⟨_ :: first,second,value,rfl,⟨first,rfl,one⟩,two⟩
    · rintro ⟨_,second,value,rfl,⟨first,rfl,one⟩,two⟩
      exact ⟨first ++ second,rfl,ih.mpr ⟨first,second,value,rfl,one,two⟩⟩
  | mark label next ih =>
    simp only [Tree.bind,runs_mark]
    constructor
    · rintro ⟨tail,rfl,run⟩
      obtain ⟨first,second,value,rfl,one,two⟩ := ih.mp run
      exact ⟨_ :: first,second,value,rfl,⟨first,rfl,one⟩,two⟩
    · rintro ⟨_,second,value,rfl,⟨first,rfl,one⟩,two⟩
      exact ⟨first ++ second,rfl,ih.mpr ⟨first,second,value,rfl,one,two⟩⟩

-- Answers given as a function of what happened so far: any such world has
-- exactly one run, and it is computed.
abbrev World (P : Ports) (ε : Type) := List (Event P ε) → (call : P.Call) → Except ε (P.Result call)

def play (world : World P ε) (past : List (Event P ε)) : Tree P ε α → List (Event P ε) × α
  | .done value => ([],value)
  | .ask held call next =>
    let event : Event P ε := .answered held call (world past call)
    let (events,value) := play world (past ++ [event]) (next (world past call))
    (event :: events,value)
  | .fault held error next =>
    let (events,value) := play world (past ++ [.fault held error]) next
    (.fault held error :: events,value)
  | .mark label next =>
    let (events,value) := play world (past ++ [.marked label]) next
    (.marked label :: events,value)

theorem play_runs (world : World P ε) (past : List (Event P ε)) (tree : Tree P ε α) :
    Runs tree (play world past tree).1 (play world past tree).2 := by
  induction tree generalizing past with
  | done value => exact .done
  | ask held call next ih => exact .ask (ih _ _)
  | fault held error next ih => exact .fault (ih _)
  | mark label next ih => exact .mark (ih _)

-- Two runs whose events begin one and the same list are one run.
theorem runs_unique {tree : Tree P ε α} {one two later rest : List (Event P ε)} {value other : α}
    (first : Runs tree one value) (second : Runs tree two other) (same : one ++ later = two ++ rest) : one = two ∧ value = other := by
  induction first generalizing two with
  | done =>
    cases second
    exact ⟨rfl,rfl⟩
  | ask _ ih =>
    cases second with
    | ask run =>
      obtain ⟨head,tail⟩ := List.cons.inj same
      cases head
      obtain ⟨rfl,rfl⟩ := ih run tail
      exact ⟨rfl,rfl⟩
  | fault _ ih =>
    cases second with
    | fault run =>
      obtain ⟨rfl,rfl⟩ := ih run (List.cons.inj same).2
      exact ⟨rfl,rfl⟩
  | mark _ ih =>
    cases second with
    | mark run =>
      obtain ⟨rfl,rfl⟩ := ih run (List.cons.inj same).2
      exact ⟨rfl,rfl⟩

end Effects
