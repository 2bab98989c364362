import Mathlib.Logic.Basic

/-!
Contract: runs of a step function that can fail, and what holds along them.

Owns the fold of a step function over a list of inputs, the invariant rule,
runs whose steps all meet a condition, and the agreement of two machines along
such runs.

Does not own: any particular machine.
-/

namespace Dbmail.Lib

theorem bind_eq_ok_iff {ε α β : Type} {first : Except ε α} {next : α → Except ε β} {result : β} :
    first >>= next = .ok result ↔ ∃ value, first = .ok value ∧ next value = .ok result := by
  cases first <;> simp [bind, Except.bind]

theorem map_eq_ok_iff {ε α β : Type} {change : α → β} {result : Except ε α} {value : β} :
    change <$> result = .ok value ↔ ∃ before, result = .ok before ∧ change before = value := by
  cases result <;> simp [Functor.map, Except.map]

section Run

variable {σ ι ε : Type} (step : σ → ι → Except ε σ)

/-- Feed a list of inputs to a machine; the run ends at the first failure. -/
def run : σ → List ι → Except ε σ
  | state, [] => .ok state
  | state, input :: rest =>
    match step state input with
    | .error fault => .error fault
    | .ok next => run next rest

/-- Every step of the run meets a condition on its input and the state it
starts from. -/
def StepsMeet (condition : σ → ι → Prop) : σ → List ι → Prop
  | _, [] => True
  | state, input :: rest =>
    condition state input ∧ ∀ next, step state input = .ok next →
      StepsMeet condition next rest

instance StepsMeet.decidable (condition : σ → ι → Prop)
    [∀ state input, Decidable (condition state input)] :
    (state : σ) → (inputs : List ι) → Decidable (StepsMeet step condition state inputs)
  | _, [] => isTrue trivial
  | state, input :: rest =>
    match stepped : step state input with
    | .error _ => decidable_of_iff (condition state input) (by simp [StepsMeet, stepped])
    | .ok next =>
      have := StepsMeet.decidable condition next rest
      decidable_of_iff (condition state input ∧ StepsMeet step condition next rest)
        (by simp [StepsMeet, stepped])

variable {step}

/-- What every step that meets the condition preserves holds after a run of such
steps. -/
theorem run_invariant_of_stepsMeet {condition : σ → ι → Prop} (holds : σ → Prop)
    (preserved : ∀ state input next, holds state → condition state input →
      step state input = .ok next → holds next)
    {state final : σ} {inputs : List ι} (initially : holds state)
    (meets : StepsMeet step condition state inputs)
    (ran : run step state inputs = .ok final) : holds final := by
  induction inputs generalizing state with
  | nil =>
    cases ran
    exact initially
  | cons input rest ih =>
    rw [run] at ran
    cases stepped : step state input with
    | error fault => simp [stepped] at ran
    | ok next =>
      simp only [stepped] at ran
      exact ih (preserved state input next initially meets.1 stepped)
        (meets.2 next stepped) ran

/-- If a step that meets one condition keeps an invariant and meets another condition, then
a run of steps that meet the first meets the second. -/
theorem stepsMeet_of_invariant {condition kept : σ → ι → Prop} (holds : σ → Prop)
    (preserved : ∀ state input, holds state → condition state input →
      kept state input ∧ ∀ next, step state input = .ok next → holds next)
    {state : σ} {inputs : List ι} (initially : holds state)
    (meets : StepsMeet step condition state inputs) : StepsMeet step kept state inputs := by
  induction inputs generalizing state with
  | nil => trivial
  | cons input rest ih =>
    obtain ⟨isKept, next⟩ := preserved state input initially meets.1
    exact ⟨isKept, fun after stepped =>
      ih (next after stepped) (meets.2 after stepped)⟩

theorem StepsMeet.imp {condition other : σ → ι → Prop}
    (weaker : ∀ state input, condition state input → other state input) {state : σ}
    {inputs : List ι} (meets : StepsMeet step condition state inputs) :
    StepsMeet step other state inputs :=
  stepsMeet_of_invariant (fun _ => True)
    (fun state input _ met => ⟨weaker state input met, fun _ _ => trivial⟩) trivial meets

theorem StepsMeet.and {condition other : σ → ι → Prop} {state : σ} {inputs : List ι}
    (meets : StepsMeet step condition state inputs) (also : StepsMeet step other state inputs) :
    StepsMeet step (fun state input => condition state input ∧ other state input) state inputs := by
  induction inputs generalizing state with
  | nil => trivial
  | cons input rest ih =>
    exact ⟨⟨meets.1, also.1⟩, fun next stepped => ih (meets.2 next stepped) (also.2 next stepped)⟩

theorem stepsMeet_true (state : σ) (inputs : List ι) :
    StepsMeet step (fun _ _ => True) state inputs := by
  induction inputs generalizing state with
  | nil => trivial
  | cons input rest ih =>
    exact ⟨trivial, fun next _ => ih next⟩

theorem stepsMeet_of_forall {condition : ι → Prop} {inputs : List ι}
    (met : ∀ input ∈ inputs, condition input) (state : σ) :
    StepsMeet step (fun _ input => condition input) state inputs := by
  induction inputs generalizing state with
  | nil => trivial
  | cons input rest ih =>
    exact ⟨met input List.mem_cons_self,
      fun next _ => ih (fun other member => met other (List.mem_cons_of_mem _ member)) next⟩

/-- Two conditions that say the same wherever an invariant holds are met by the
same runs, among the runs whose steps meet a third. -/
theorem stepsMeet_congr {first second condition : σ → ι → Prop} (holds : σ → Prop)
    (preserved : ∀ state input next, holds state → condition state input →
      step state input = .ok next → holds next)
    (same : ∀ state input, holds state → condition state input →
      (first state input ↔ second state input))
    {state : σ} {inputs : List ι} (initially : holds state)
    (meets : StepsMeet step condition state inputs) :
    StepsMeet step first state inputs ↔ StepsMeet step second state inputs := by
  induction inputs generalizing state with
  | nil => exact Iff.rfl
  | cons input rest ih =>
    refine and_congr (same state input initially meets.1) (forall_congr' fun next => ?_)
    refine forall_congr' fun stepped => ?_
    exact ih (preserved state input next initially meets.1 stepped) (meets.2 next stepped)

/-- What every step preserves holds after a run. -/
theorem run_invariant (holds : σ → Prop)
    (preserved : ∀ state input next, holds state → step state input = .ok next → holds next)
    {state final : σ} {inputs : List ι} (initially : holds state)
    (ran : run step state inputs = .ok final) : holds final :=
  run_invariant_of_stepsMeet holds
    (fun state input next kept _ stepped => preserved state input next kept stepped)
    initially (stepsMeet_true state inputs) ran

/-- If a step that meets the condition keeps the invariant and is also a step of
another machine, then a run of such steps is a run of both. -/
theorem run_agrees {other : σ → ι → Except ε σ} {condition : σ → ι → Prop} {holds : σ → Prop}
    (progress : ∀ state input, holds state → condition state input →
      ∃ next, step state input = .ok next ∧ other state input = .ok next ∧ holds next)
    {state : σ} {inputs : List ι} (initially : holds state)
    (meets : StepsMeet step condition state inputs) :
    ∃ final, run step state inputs = .ok final ∧ run other state inputs = .ok final := by
  induction inputs generalizing state with
  | nil => exact ⟨state, rfl, rfl⟩
  | cons input rest ih =>
    obtain ⟨next, stepped, otherStepped, kept⟩ := progress state input initially meets.1
    obtain ⟨final, ran, otherRan⟩ := ih kept (meets.2 next stepped)
    refine ⟨final, ?_, ?_⟩
    · simp [run, stepped, ran]
    · simp [run, otherStepped, otherRan]

end Run

end Dbmail.Lib
