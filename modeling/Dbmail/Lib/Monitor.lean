import Mathlib.Data.List.Induction
import Mathlib.Data.Option.Basic

/-!
Contract: safety monitors over traces.

Owns partial automata that read a trace event by event, their behaviour on
concatenated traces, and the reading of an accepted trace at any of its
positions.

Does not own: any particular event or policy.
-/

namespace Dbmail.Lib

open Option

section Monitor

variable {σ ε : Type} (observe : σ → ε → Option σ)

/-- Read a trace; `none` is rejection. -/
def observeAll : σ → List ε → Option σ
  | state, [] => some state
  | state, event :: rest => (observe state event).bind fun next => observeAll next rest

@[simp] theorem observeAll_nil (state : σ) : observeAll observe state [] = some state := rfl

@[simp] theorem observeAll_cons (state : σ) (event : ε) (rest : List ε) :
    observeAll observe state (event :: rest) =
      (observe state event).bind fun next => observeAll observe next rest := rfl

theorem observeAll_append (state : σ) (first second : List ε) :
    observeAll observe state (first ++ second) =
      (observeAll observe state first).bind fun next => observeAll observe next second := by
  induction first generalizing state with
  | nil => rfl
  | cons event rest ih =>
    simp [bind_assoc, ih]

/-- In an accepted trace, every event is accepted in the state its prefix
leads to. -/
theorem observeAll_split {observe : σ → ε → Option σ} {state final : σ} {before after : List ε}
    {event : ε} (accepted : observeAll observe state (before ++ event :: after) = some final) :
    ∃ middle next, observeAll observe state before = some middle ∧
      observe middle event = some next := by
  rw [observeAll_append, bind_eq_some_iff] at accepted
  obtain ⟨middle, reached, rest⟩ := accepted
  rw [observeAll_cons, bind_eq_some_iff] at rest
  obtain ⟨next, taken, -⟩ := rest
  exact ⟨middle, next, reached, taken⟩

/-- What every accepted event establishes from the events before it holds of
the state a trace leads to. -/
theorem observeAll_history {observe : σ → ε → Option σ} (holds : List ε → σ → Prop) {initial : σ}
    (start : holds [] initial)
    (extend : ∀ before state event next, holds before state → observe state event = some next →
      holds (before ++ [event]) next)
    {trace : List ε} {final : σ} (accepted : observeAll observe initial trace = some final) :
    holds trace final := by
  induction trace using List.reverseRecOn generalizing final with
  | nil =>
    cases accepted
    exact start
  | append_singleton before event ih =>
    rw [observeAll_append, bind_eq_some_iff] at accepted
    obtain ⟨state, reached, taken⟩ := accepted
    simp only [observeAll_cons, observeAll_nil, bind_fun_some] at taken
    exact extend before state event final (ih reached) taken

end Monitor

end Dbmail.Lib
