import Mathlib.Logic.Function.Basic
import LongBridge.Effects.Script

namespace Effects

variable {P : Ports} {ε σ τ α β W φ ι : Type}

-- One step of a program: what it does next, and what is left of it then.
inductive Advances : Tree P ε α → Event P ε → Tree P ε α → Prop where
  | ask {next : Except ε (P.Result call) → Tree P ε α} :
      Advances (.ask held call next) (.answered held call answer) (next answer)
  | fault : Advances (.fault held error next) (.fault held error) next
  | mark : Advances (.mark label next) (.marked label) next

-- A step that some program made, with the outside on both sides of it.
structure Turn (P : Ports) (ε W ι : Type) where
  before : W
  who : ι
  event : Event P ε
  after : W

-- Programs that run side by side over one outside. A program that makes no further
-- turn has crashed or is waiting; nobody can tell.
inductive Interleaves [DecidableEq ι] (step : W → Event P ε → W → Prop) (programs : ι → Tree P ε α) (start : W) :
    List (Turn P ε W ι) → W → (ι → Tree P ε α) → Prop where
  | start : Interleaves step programs start [] start programs
  | turn : Interleaves step programs start turns world left → Advances (left who) event tree → step world event after →
      Interleaves step programs start (turns ++ [⟨world,who,event,after⟩]) after (Function.update left who tree)

def Tree.isDone : Tree P ε α → Bool
  | .done _ => true
  | _ => false

-- The next step of a program, answered by the outside; a program that is done has none.
def advance (serve : W → (call : P.Call) → Except ε (P.Result call) × W) (world : W) :
    Tree P ε α → Option (Event P ε × W × Tree P ε α)
  | .done _ => none
  | .ask held call next => some (.answered held call (serve world call).1,(serve world call).2,next (serve world call).1)
  | .fault held error next => some (.fault held error,world,next)
  | .mark label next => some (.marked label,world,next)

-- The run in which the programs move in the given order.
def perform [DecidableEq ι] (serve : W → (call : P.Call) → Except ε (P.Result call) × W) :
    List ι → List (Turn P ε W ι) → W → (ι → Tree P ε α) → List (Turn P ε W ι) × W × (ι → Tree P ε α)
  | [],turns,world,left => (turns,world,left)
  | who :: rest,turns,world,left => match advance serve world (left who) with
    | none => perform serve rest turns world left
    | some (event,after,tree) => perform serve rest (turns ++ [⟨world,who,event,after⟩]) after (Function.update left who tree)

structure Answers (serve : W → (call : P.Call) → Except ε (P.Result call) × W) (step : W → Event P ε → W → Prop) : Prop where
  calls : ∀ world held call, step world (.answered held call (serve world call).1) (serve world call).2
  faults : ∀ world held error, step world (.fault held error) world
  marks : ∀ world label, step world (.marked label) world

theorem perform_interleaves [DecidableEq ι] {serve : W → (call : P.Call) → Except ε (P.Result call) × W}
    {step : W → Event P ε → W → Prop} (answers : Answers serve step) {programs : ι → Tree P ε α} {start : W} (order : List ι)
    {turns : List (Turn P ε W ι)} {world : W} {left : ι → Tree P ε α} (run : Interleaves step programs start turns world left) :
    Interleaves step programs start (perform serve order turns world left).1 (perform serve order turns world left).2.1
      (perform serve order turns world left).2.2 := by
  induction order generalizing turns world left with
  | nil => exact run
  | cons who rest ih =>
    unfold perform
    cases tree : left who with
    | done value => exact ih run
    | ask held call next => exact ih (.turn run (by rw [tree]; exact .ask) (answers.calls ..))
    | fault held error next => exact ih (.turn run (by rw [tree]; exact .fault) (answers.faults ..))
    | mark label next => exact ih (.turn run (by rw [tree]; exact .mark) (answers.marks ..))

-- What a program keeps to on its own: the calls it may make in a phase, the answers it
-- counts on there, and the phase an answer leads to.
structure Discipline (P : Ports) (ε φ : Type) where
  allow : φ → P.Call → Prop
  possible : φ → (call : P.Call) → Except ε (P.Result call) → Prop
  move : φ → (call : P.Call) → Except ε (P.Result call) → φ

def Discipline.moved (rule : Discipline P ε φ) (phase : φ) : Event P ε → φ
  | .answered _ call answer => rule.move phase call answer
  | _ => phase

def Discipline.allows (rule : Discipline P ε φ) (phase : φ) : Event P ε → Prop
  | .answered _ call _ => rule.allow phase call
  | _ => True

def Discipline.expects (rule : Discipline P ε φ) (phase : φ) : Event P ε → Prop
  | .answered _ call answer => rule.possible phase call answer
  | _ => True

-- A program that keeps to the rule from a phase on, and ends as promised.
def Conforms (rule : Discipline P ε φ) (ends : φ → α → Prop) : φ → Tree P ε α → Prop
  | phase,.done value => ends phase value
  | phase,.ask _ call next => rule.allow phase call ∧
      ∀ answer, rule.possible phase call answer → Conforms rule ends (rule.move phase call answer) (next answer)
  | phase,.fault _ _ next => Conforms rule ends phase next
  | phase,.mark _ next => Conforms rule ends phase next

theorem conforms_bind {rule : Discipline P ε φ} {ends : φ → β → Prop} {tree : Tree P ε α} {rest : α → Tree P ε β} {phase : φ} :
    Conforms rule ends phase (tree.bind rest) ↔ Conforms rule (fun phase value => Conforms rule ends phase (rest value)) phase tree := by
  induction tree generalizing phase with
  | done value => exact Iff.rfl
  | ask held call next ih =>
    simp only [Tree.bind,Conforms]
    exact and_congr_right fun _ => forall_congr' fun answer => imp_congr_right fun _ => ih answer
  | fault held error next ih => exact ih
  | mark label next ih => exact ih

theorem conforms_mono {rule : Discipline P ε φ} {one two : φ → α → Prop} (weaker : ∀ phase value, one phase value → two phase value)
    {tree : Tree P ε α} {phase : φ} (conforms : Conforms rule one phase tree) : Conforms rule two phase tree := by
  induction tree generalizing phase with
  | done value => exact weaker _ _ conforms
  | ask held call next ih => exact ⟨conforms.1,fun answer possible => ih answer (conforms.2 answer possible)⟩
  | fault held error next ih => exact ih conforms
  | mark label next ih => exact ih conforms

theorem conforms_advances {rule : Discipline P ε φ} {ends : φ → α → Prop} {tree next : Tree P ε α} {event : Event P ε}
    {phase : φ} (conforms : Conforms rule ends phase tree) (advances : Advances tree event next) :
    rule.allows phase event ∧ (rule.expects phase event → Conforms rule ends (rule.moved phase event) next) := by
  cases advances with
  | ask => exact ⟨conforms.1,conforms.2 _⟩
  | fault => exact ⟨trivial,fun _ => conforms⟩
  | mark => exact ⟨trivial,fun _ => conforms⟩

-- Programs that keep to their rules keep what every single step keeps.
theorem interleaved_keeps [DecidableEq ι] {step : W → Event P ε → W → Prop} {programs : ι → Tree P ε α} {start world : W}
    {turns : List (Turn P ε W ι)} {left : ι → Tree P ε α} (rule : ι → Discipline P ε φ) (ends : ι → φ → α → Prop) (first : ι → φ)
    (conforms : ∀ who, Conforms (rule who) (ends who) (first who) (programs who))
    (I : List (Turn P ε W ι) → W → (ι → φ) → Prop) (init : I [] start first)
    (keeps : ∀ turns world phases who event after, I turns world phases → (rule who).allows (phases who) event →
      step world event after → (rule who).expects (phases who) event ∧
        I (turns ++ [⟨world,who,event,after⟩]) after (Function.update phases who ((rule who).moved (phases who) event)))
    (run : Interleaves step programs start turns world left) :
    ∃ phases, I turns world phases ∧ ∀ who, Conforms (rule who) (ends who) (phases who) (left who) := by
  induction run with
  | start => exact ⟨first,init,conforms⟩
  | @turn turns world left who event tree after _ advances answered ih =>
    obtain ⟨phases,held,own⟩ := ih
    obtain ⟨allowed,next⟩ := conforms_advances (own who) advances
    obtain ⟨expected,kept⟩ := keeps _ _ _ _ _ _ held allowed answered
    refine ⟨_,kept,fun other => ?_⟩
    by_cases same : other = who
    · subst same
      rw [Function.update_self,Function.update_self]
      exact next expected
    · rw [Function.update_of_ne same,Function.update_of_ne same]
      exact own other

-- The same promise for a function body.
def Script.Promises (script : Script P ε σ α) (rule : Discipline P ε φ) (ends : φ → Except ε α → σ → Prop) (phase : φ) (held : Bool)
    (before : σ) : Prop :=
  Conforms rule (fun phase (result : Except ε α × σ) => ends phase result.1 result.2) phase (script.run held before)

section promises

variable {rule : Discipline P ε φ} {phase : φ} {held : Bool} {before : σ}

theorem promises_pure {value : α} {ends : φ → Except ε α → σ → Prop} :
    (pure value : Script P ε σ α).Promises rule ends phase held before ↔ ends phase (.ok value) before := Iff.rfl

theorem promises_bind {script : Script P ε σ α} {rest : α → Script P ε σ β} {ends : φ → Except ε β → σ → Prop} :
    (script >>= rest).Promises rule ends phase held before ↔
      script.Promises rule (fun phase result after => match result with
        | .ok value => (rest value).Promises rule ends phase held after
        | .error error => ends phase (.error error) after) phase held before := by
  change Conforms rule _ phase ((script.run held before).bind (Script.bindTree held fun value => (rest value).run)) ↔ _
  rw [conforms_bind]
  constructor
  · refine conforms_mono fun phase result reached => ?_
    obtain ⟨value | value,after⟩ := result
    · exact reached
    · exact reached
  · refine conforms_mono fun phase result reached => ?_
    obtain ⟨value | value,after⟩ := result
    · exact reached
    · exact reached

theorem promises_get {ends : φ → Except ε σ → σ → Prop} :
    (Script.get : Script P ε σ σ).Promises rule ends phase held before ↔ ends phase (.ok before) before := Iff.rfl

theorem promises_modify {change : σ → σ} {ends : φ → Except ε Unit → σ → Prop} :
    (Script.modify change : Script P ε σ Unit).Promises rule ends phase held before ↔ ends phase (.ok ()) (change before) :=
  Iff.rfl

theorem promises_raise {error : ε} {ends : φ → Except ε α → σ → Prop} :
    (Script.raise error : Script P ε σ α).Promises rule ends phase held before ↔ ends phase (.error error) before := Iff.rfl

theorem promises_invoke {call : P.Call} {ends : φ → Except ε (P.Result call) → σ → Prop} :
    (Script.invoke call : Script P ε σ _).Promises rule ends phase held before ↔ rule.allow phase call ∧
      ∀ answer, rule.possible phase call answer → ends (rule.move phase call answer) answer before := Iff.rfl

theorem promises_attempt {script : Script P ε σ α} {ends : φ → Except ε (Except ε α) → σ → Prop} :
    script.attempt.Promises rule ends phase held before ↔
      script.Promises rule (fun phase result after => ends phase (.ok result) after) phase true before := by
  change Conforms rule _ phase ((script.run true before).bind _) ↔ _
  rw [conforms_bind]
  exact Iff.rfl

theorem promises_fromExcept {value : Except ε α} {ends : φ → Except ε α → σ → Prop} :
    (Script.fromExcept value : Script P ε σ α).Promises rule ends phase held before ↔ ends phase value before := by
  cases value <;> exact Iff.rfl

theorem promises_mono {script : Script P ε σ α} {one two : φ → Except ε α → σ → Prop}
    (weaker : ∀ phase result after, one phase result after → two phase result after)
    (promises : script.Promises rule one phase held before) : script.Promises rule two phase held before := by
  unfold Script.Promises at promises ⊢
  refine conforms_mono ?_ promises
  intro phase result reached
  exact weaker _ _ _ reached

end promises
end Effects
