import Mathlib.Logic.Basic

/-!
Contract: code in a state monad and what it leaves alone.

Owns the notions that code keeps a view of the state and that it keeps a
property of the state, each with a rule for each way in which code is put
together.

Does not own: any particular state or code.
-/

namespace Dbmail.Lib

section Keeps

variable {σ α β γ : Type} {view : σ → γ}

/-- Code that leaves a view of the state as it was. -/
def Keeps (view : σ → γ) (body : StateM σ α) : Prop :=
  ∀ state, view (body.run state).2 = view state

@[grind ←] theorem Keeps.pure (value : α) : Keeps view (pure value : StateM σ α) := fun _ => rfl

@[grind ←] theorem Keeps.bind {first : StateM σ α} {next : α → StateM σ β} (kept : Keeps view first)
    (rest : ∀ value, Keeps view (next value)) : Keeps view (first >>= next) :=
  fun state => (rest _ _).trans (kept state)

@[grind ←] theorem Keeps.get : Keeps view (get : StateM σ σ) := fun _ => rfl

theorem Keeps.ite {condition : Prop} [Decidable condition] {first second : StateM σ α}
    (whenTrue : Keeps view first) (whenFalse : Keeps view second) :
    Keeps view (if condition then first else second) := by
  split
  · exact whenTrue
  · exact whenFalse

@[grind ←] theorem Keeps.forM {body : α → StateM σ PUnit} (each : ∀ value, Keeps view (body value))
    (values : List α) : Keeps view (values.forM body) := by
  induction values with
  | nil => exact .pure _
  | cons value rest ih =>
    exact .bind (each value) fun _ => ih

end Keeps

section Ensures

variable {σ α β γ : Type} {good : σ → Prop}

/-- Code that keeps a property of the state, with a fact about what it returns. -/
def Ensures (good : σ → Prop) (body : StateM σ α) (post : α → Prop) : Prop :=
  ∀ state, good state → good (body.run state).2 ∧ post (body.run state).1

theorem Ensures.pure {post : α → Prop} {value : α} (holds : post value) :
    Ensures good (pure value : StateM σ α) post := fun _ kept => ⟨kept, holds⟩

theorem Ensures.bind {first : StateM σ α} {next : α → StateM σ β} {middle : α → Prop}
    {post : β → Prop} (begins : Ensures good first middle)
    (rest : ∀ value, middle value → Ensures good (next value) post) :
    Ensures good (first >>= next) post := by
  intro state kept
  obtain ⟨kept, returned⟩ := begins state kept
  exact rest _ returned _ kept

theorem Ensures.branch {condition : Prop} [Decidable condition] {first second : StateM σ α}
    {post : α → Prop} (whenTrue : condition → Ensures good first post)
    (whenFalse : ¬ condition → Ensures good second post) :
    Ensures good (if condition then first else second) post := by
  split
  · exact whenTrue ‹_›
  · exact whenFalse ‹_›

end Ensures

end Dbmail.Lib
