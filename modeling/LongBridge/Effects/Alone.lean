import LongBridge.Effects.Script

namespace Effects

variable {P : Ports} {ε W α β : Type}

-- A program that runs alone: every call is answered from a world nobody else touches.
def Tree.served (serve : W → (call : P.Call) → Except ε (P.Result call) × W) : Tree P ε α → W → α × W
  | .done value,world => (value,world)
  | .ask _ call next,world => (next (serve world call).1).served serve (serve world call).2
  | .fault _ _ next,world => next.served serve world
  | .mark _ next,world => next.served serve world

theorem Tree.served_bind (serve : W → (call : P.Call) → Except ε (P.Result call) × W) (tree : Tree P ε α) (rest : α → Tree P ε β) (world : W) :
    (tree.bind rest).served serve world = (rest (tree.served serve world).1).served serve (tree.served serve world).2 := by
  induction tree generalizing world with
  | done value => rfl
  | ask held call next ih => exact ih _ _
  | fault held error next ih => exact ih _
  | mark label next ih => exact ih _

namespace Script

-- What a body without local variables comes to
def alone (serve : W → (call : P.Call) → Except ε (P.Result call) × W) (script : Script P ε Unit α) (world : W) : Except ε α × W :=
  let ((result,_),after) := (script.run false ()).served serve world
  (result,after)

variable (serve : W → (call : P.Call) → Except ε (P.Result call) × W) (world : W)

@[simp] theorem alone_pure (value : α) : (pure value : Script P ε Unit α).alone serve world = (.ok value,world) := rfl

@[simp] theorem alone_raise (error : ε) : (Script.raise error : Script P ε Unit α).alone serve world = (.error error,world) := rfl

@[simp] theorem alone_fromExcept (value : Except ε α) : (Script.fromExcept value : Script P ε Unit α).alone serve world = (value,world) := by
  cases value <;> rfl

theorem alone_bind (script : Script P ε Unit α) (rest : α → Script P ε Unit β) :
    (script >>= rest).alone serve world = match script.alone serve world with
      | (.ok value,middle) => (rest value).alone serve middle
      | (.error error,middle) => (.error error,middle) := by
  show (let ((result,_),after) := (((script.run false ()).bind (bindTree false fun value => (rest value).run)).served serve world); (result,after)) = _
  rw [Tree.served_bind]
  unfold alone
  obtain ⟨⟨result,⟨⟩⟩,after⟩ := (script.run false ()).served serve world
  cases result <;> rfl

theorem alone_bind_ok {script : Script P ε Unit α} {rest : α → Script P ε Unit β} {value : α} {middle : W}
    (ran : script.alone serve world = (.ok value,middle)) : (script >>= rest).alone serve world = (rest value).alone serve middle := by
  rw [alone_bind,ran]

theorem alone_bind_error {script : Script P ε Unit α} {rest : α → Script P ε Unit β} {error : ε} {middle : W}
    (ran : script.alone serve world = (.error error,middle)) : (script >>= rest).alone serve world = (.error error,middle) := by
  rw [alone_bind,ran]

end Script

end Effects
