import LongBridge.Effects.Interleaving
import LongBridge.Effects.Serve

namespace Effects

variable {P Q : Ports} {ε σ τ α β φ ψ : Type}

-- What every move keeps, a program keeps from its first phase on.
theorem conforms_grows {rule : Discipline P ε φ} {R : φ → φ → Prop} (refl : ∀ phase, R phase phase)
    (trans : ∀ one two three, R one two → R two three → R one three)
    (step : ∀ phase call answer, rule.allow phase call → rule.possible phase call answer → R phase (rule.move phase call answer))
    {ends : φ → α → Prop} {tree : Tree P ε α} {phase : φ} (conforms : Conforms rule ends phase tree) : Conforms rule (fun after value => ends after value ∧ R phase after) phase tree := by
  induction tree generalizing phase with
  | done value => exact ⟨conforms,refl phase⟩
  | ask held call next ih =>
    refine ⟨conforms.1,fun answer possible => ?_⟩
    refine conforms_mono ?_ (ih answer (conforms.2 answer possible))
    intro after value reached
    exact ⟨reached.1,trans _ _ _ (step phase call answer conforms.1 possible) reached.2⟩
  | fault held error next ih => exact ih conforms
  | mark label next ih => exact ih conforms

-- A rule that allows more is kept as well.
theorem conforms_allows {rule other : Discipline P ε φ} (allow : ∀ phase call, rule.allow phase call → other.allow phase call)
    (possible : ∀ phase call answer, other.possible phase call answer → rule.possible phase call answer) (move : other.move = rule.move)
    {ends : φ → α → Prop} {tree : Tree P ε α} {phase : φ} (conforms : Conforms rule ends phase tree) : Conforms other ends phase tree := by
  induction tree generalizing phase with
  | done value => exact conforms
  | ask held call next ih =>
    refine ⟨allow phase call conforms.1,fun answer reached => ?_⟩
    rw [move]
    exact ih answer (conforms.2 answer (possible phase call answer reached))
  | fault held error next ih => exact ih conforms
  | mark label next ih => exact ih conforms

-- Along a run: the calls that a rule allows, the answers that it counts on, and the phase at the end
def Discipline.Allowed (rule : Discipline P ε φ) : φ → List (Event P ε) → Prop
  | _,[] => True
  | phase,event :: rest => rule.allows phase event ∧ rule.Allowed (rule.moved phase event) rest

def Discipline.Expected (rule : Discipline P ε φ) : φ → List (Event P ε) → Prop
  | _,[] => True
  | phase,event :: rest => rule.expects phase event ∧ rule.Expected (rule.moved phase event) rest

theorem conforms_runs {rule : Discipline P ε φ} {ends : φ → α → Prop} {tree : Tree P ε α} {phase : φ} {events : List (Event P ε)} {value : α}
    (conforms : Conforms rule ends phase tree) (run : Runs tree events value) (expected : rule.Expected phase events) :
    rule.Allowed phase events ∧ ends (events.foldl rule.moved phase) value := by
  induction run generalizing phase with
  | done => exact ⟨trivial,conforms⟩
  | ask rest ih =>
    obtain ⟨allowed,ended⟩ := ih (conforms.2 _ expected.1) expected.2
    exact ⟨⟨conforms.1,allowed⟩,ended⟩
  | fault rest ih =>
    obtain ⟨allowed,ended⟩ := ih conforms expected.2
    exact ⟨⟨trivial,allowed⟩,ended⟩
  | mark rest ih =>
    obtain ⟨allowed,ended⟩ := ih conforms expected.2
    exact ⟨⟨trivial,allowed⟩,ended⟩

-- Events of a kind that the rule allows only while none was there yet
theorem allowed_once {rule : Discipline P ε φ} {once : Event P ε → Bool} (made : φ → Bool)
    (first : ∀ phase event, rule.allows phase event → once event = true → made phase = false ∧ made (rule.moved phase event) = true)
    (stays : ∀ phase event, once event = false → made (rule.moved phase event) = made phase) {phase : φ} {events : List (Event P ε)}
    (allowed : rule.Allowed phase events) : events.countP once ≤ if made phase then 0 else 1 := by
  induction events generalizing phase with
  | nil => exact Nat.zero_le _
  | cons event rest ih =>
    have later := ih allowed.2
    rw [List.countP_cons]
    cases counted : once event with
    | true =>
      obtain ⟨free,taken⟩ := first phase event allowed.1 counted
      rw [taken] at later
      rw [free]
      exact Nat.add_le_add_right later 1
    | false =>
      rw [stays phase event counted] at later
      exact later

section loops
variable {rule : Discipline P ε φ} {phase : φ} {held : Bool} {before : σ}

-- What is promised of a result, and of an exception
def Outcome (good : φ → β → σ → Prop) (B : φ → ε → σ → Prop) : φ → Except ε β → σ → Prop
  | phase,.ok value,after => good phase value after
  | phase,.error error,after => B phase error after

theorem promises_then {script : Script P ε σ α} {rest : α → Script P ε σ β} {good : φ → α → σ → Prop} {B : φ → ε → σ → Prop}
    {ends : φ → Except ε β → σ → Prop} (first : script.Promises rule (Outcome good B) phase held before)
    (second : ∀ phase value after, good phase value after → (rest value).Promises rule ends phase held after)
    (failed : ∀ phase error after, B phase error after → ends phase (.error error) after) :
    (script >>= rest).Promises rule ends phase held before := by
  refine promises_bind.mpr (promises_mono ?_ first)
  intro phase result after reached
  cases result with
  | ok value => exact second phase value after reached
  | error error => exact failed phase error after reached

theorem promises_grows {R : φ → φ → Prop} (refl : ∀ phase, R phase phase) (trans : ∀ one two three, R one two → R two three → R one three)
    (step : ∀ phase call answer, rule.allow phase call → rule.possible phase call answer → R phase (rule.move phase call answer))
    {script : Script P ε σ α} {ends : φ → Except ε α → σ → Prop} (promises : script.Promises rule ends phase held before) :
    script.Promises rule (fun after result locals => ends after result locals ∧ R phase after) phase held before :=
  conforms_grows refl trans step promises

-- A loop keeps what its body keeps of the items that are done.
theorem promises_foldlM {items : List α} {body : β → α → Script P ε σ β} {I : List α → φ → β → σ → Prop} {B : φ → ε → σ → Prop}
    (step : ∀ front item phase value before, front ++ [item] <+: items → I front phase value before →
      (body value item).Promises rule (Outcome (I (front ++ [item])) B) phase held before)
    {value : β} (first : I [] phase value before) : (items.foldlM body value).Promises rule (Outcome (I items) B) phase held before := by
  have loop : ∀ rest front phase value before, front ++ rest = items → I front phase value before →
      (rest.foldlM body value).Promises rule (Outcome (I items) B) phase held before := by
    intro rest
    induction rest with
    | nil =>
      intro front phase value before whole kept
      rw [List.append_nil] at whole
      subst whole
      exact kept
    | cons item rest ih =>
      intro front phase value before whole kept
      rw [List.foldlM_cons]
      have more : (front ++ [item]) ++ rest = items := by rw [List.append_assoc,List.singleton_append,whole]
      refine promises_then (step front item phase value before ⟨rest,more⟩ kept) ?_ ?_
      · intro phase value after kept
        exact ih _ phase value after more kept
      · intro phase error after failed
        exact failed
  exact loop items [] phase value before rfl first

theorem promises_forM {items : List α} {body : α → Script P ε σ Unit} {I : List α → φ → σ → Prop} {B : φ → ε → σ → Prop}
    (step : ∀ front item phase before, front ++ [item] <+: items → I front phase before →
      (body item).Promises rule (Outcome (fun phase _ after => I (front ++ [item]) phase after) B) phase held before)
    (first : I [] phase before) : (items.forM body).Promises rule (Outcome (fun phase _ after => I items phase after) B) phase held before := by
  have loop : ∀ rest front phase before, front ++ rest = items → I front phase before →
      (rest.forM body).Promises rule (Outcome (fun phase _ after => I items phase after) B) phase held before := by
    intro rest
    induction rest with
    | nil =>
      intro front phase before whole kept
      rw [List.append_nil] at whole
      subst whole
      exact kept
    | cons item rest ih =>
      intro front phase before whole kept
      change ((body item) >>= fun _ => rest.forM body).Promises rule _ phase held before
      have more : (front ++ [item]) ++ rest = items := by rw [List.append_assoc,List.singleton_append,whole]
      refine promises_then (step front item phase before ⟨rest,more⟩ kept) ?_ ?_
      · intro phase value after kept
        exact ih _ phase after more kept
      · intro phase error after failed
        exact failed
  exact loop items [] phase before rfl first

end loops

section serving
variable {rule : Discipline P ε φ} {low : Discipline Q ε ψ} {R : φ → ψ → Prop} {serve : (call : P.Call) → Script Q ε τ (P.Result call)}

-- Servers that each keep to the rule below, and answer what the rule above counts on, make
-- a program keep to the rule below.
theorem conforms_serveTree (each : ∀ phase under call held shared, R phase under → rule.allow phase call → (serve call).Promises low
      (fun after answer _ => rule.possible phase call answer ∧ R (rule.move phase call answer) after) under held shared)
    {ends : φ → α → Prop} {tree : Tree P ε α} {phase : φ} {under : ψ} {shared : τ} (conforms : Conforms rule ends phase tree) (related : R phase under) :
    Conforms low (fun after (result : α × τ) => ∃ phase, ends phase result.1 ∧ R phase after) under (serveTree serve tree shared) := by
  induction tree generalizing phase under shared with
  | done value => exact ⟨phase,conforms,related⟩
  | ask held call next ih =>
    obtain ⟨allowed,later⟩ := conforms
    refine conforms_bind.mpr (conforms_mono ?_ (each phase under call held shared related allowed))
    intro after result reached
    exact ih result.1 (later result.1 reached.1) reached.2
  | fault held error next ih => exact ih conforms related
  | mark label next ih => exact ih conforms related

theorem promises_serving (each : ∀ phase under call held shared, R phase under → rule.allow phase call → (serve call).Promises low
      (fun after answer _ => rule.possible phase call answer ∧ R (rule.move phase call answer) after) under held shared)
    {ends : φ → Except ε α → σ → Prop} {script : Script P ε σ α} {phase : φ} {under : ψ} {held : Bool} {locals : σ} {shared : τ}
    (promises : script.Promises rule ends phase held locals) (related : R phase under) :
    (script.serving locals serve).Promises low (fun after result _ => ∃ phase left, ends phase result left ∧ R phase after) under held shared := by
  refine conforms_bind.mpr (conforms_mono ?_ (conforms_serveTree each promises related))
  intro after result reached
  obtain ⟨phase,ended,still⟩ := reached
  exact ⟨phase,_,ended,still⟩

end serving
end Effects
