import Dbmail.Lib.Run

/-!
Contract: the states of a run that others can see.

Owns the list of these states for a machine whose steps pass through further
states, and the rule for what holds in all of them.

Does not own: what an observer does with them.
-/

namespace Dbmail.Lib

section Observed

variable {σ ι ε : Type} (step : σ → ι → Except ε σ) (between : σ → ι → List σ)

/-- The states of a run in their order: those before and after each step, and those
that a step passes through. -/
def observed : σ → List ι → List σ
  | state, [] => [state]
  | state, input :: rest =>
    state :: (between state input ++
      match step state input with
      | .error _ => []
      | .ok next => observed next rest)

variable {step between}

/-- What holds in the states of an invariant, and in those that a step from there passes
through, holds in every state of a run. -/
theorem forall_observed {condition : σ → ι → Prop} (holds seen : σ → Prop)
    (preserved : ∀ state input next, holds state → condition state input →
      step state input = .ok next → holds next)
    (atRest : ∀ state, holds state → seen state)
    (passing : ∀ state input, holds state → condition state input →
      ∀ passed ∈ between state input, seen passed)
    {state : σ} {inputs : List ι} (initially : holds state)
    (meets : StepsMeet step condition state inputs) :
    ∀ passed ∈ observed step between state inputs, seen passed := by
  induction inputs generalizing state with
  | nil =>
    intro passed member
    obtain rfl := List.mem_singleton.mp member
    exact atRest passed initially
  | cons input rest ih =>
    intro passed member
    obtain rfl | later := List.mem_cons.mp member
    · exact atRest passed initially
    · obtain within | after := List.mem_append.mp later
      · exact passing state input initially meets.1 passed within
      · cases stepped : step state input with
        | error fault => simp [stepped] at after
        | ok next =>
          rw [stepped] at after
          exact ih (preserved state input next initially meets.1 stepped)
            (meets.2 next stepped) passed after

end Observed

end Dbmail.Lib
