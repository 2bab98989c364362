import Mathlib.Data.List.Basic

/-!
Contract: a flag that some events set and others clear.

Owns the value of the flag after a list of events, its behaviour on concatenated
lists, and the exact lists on which it records whether a setting event occurred.

Does not own: what the events are.
-/

namespace Dbmail.Lib

open List

section Latch

variable {ε : Type} (sets clears : ε → Bool)

/-- The flag after one event. Setting goes before clearing. -/
def latchStep (flag : Bool) (event : ε) : Bool :=
  if sets event then true else if clears event then false else flag

def latch (flag : Bool) (events : List ε) : Bool := events.foldl (latchStep sets clears) flag

theorem latch_append (flag : Bool) (before after : List ε) :
    latch sets clears flag (before ++ after) =
      latch sets clears (latch sets clears flag before) after :=
  foldl_append

/-- Every event that clears the flag after it was set is followed by one that sets
it again. -/
def ClearsRepaired (events : List ε) : Prop :=
  ∀ before clearing after, events = before ++ clearing :: after →
    sets clearing = false → clears clearing = true →
    (∃ event ∈ before, sets event = true) → ∃ event ∈ after, sets event = true

variable {sets clears}

variable {events : List ε}

theorem latch_unset (unset : ∀ event ∈ events, sets event = false) :
    latch sets clears false events = false := by
  induction events with
  | nil => rfl
  | cons head tail ih =>
    have down : latchStep sets clears false head = false := by
      simp [latchStep, unset head mem_cons_self]
    show latch sets clears (latchStep sets clears false head) tail = false
    rw [down]
    exact ih fun event member => unset event (mem_cons_of_mem head member)

theorem latch_kept (kept : ∀ event ∈ events, sets event = false → clears event = false) :
    latch sets clears true events = true := by
  induction events with
  | nil => rfl
  | cons head tail ih =>
    have up : latchStep sets clears true head = true := by
      unfold latchStep
      by_cases set : sets head = true
      · rw [if_pos set]
      · have uncleared := kept head mem_cons_self (by simpa using set)
        rw [if_neg set, uncleared, if_neg Bool.false_ne_true]
    show latch sets clears (latchStep sets clears true head) tail = true
    rw [up]
    exact ih fun event member => kept event (mem_cons_of_mem head member)

/-- The last setting event of a list. -/
theorem exists_last_set (set : ∃ event ∈ events, sets event = true) :
    ∃ before event after, events = before ++ event :: after ∧ sets event = true ∧
      ∀ later ∈ after, sets later = false := by
  induction events with
  | nil =>
    obtain ⟨event, member, -⟩ := set
    cases member
  | cons head tail ih =>
    by_cases later : ∃ event ∈ tail, sets event = true
    · obtain ⟨before, event, after, rfl, isSet, unset⟩ := ih later
      exact ⟨head :: before, event, after, rfl, isSet, unset⟩
    · have unset : ∀ event ∈ tail, sets event = false := by
        intro event member
        by_contra isSet
        exact later ⟨event, member, by simpa using isSet⟩
      obtain ⟨event, member, isSet⟩ := set
      obtain rfl | inTail := mem_cons.mp member
      · exact ⟨[], event, tail, rfl, isSet, unset⟩
      · exact absurd ⟨event, inTail, isSet⟩ later

theorem ClearsRepaired.of_uncleared
    (uncleared : ∀ event ∈ events, clears event = false) : ClearsRepaired sets clears events := by
  rintro before clearing after rfl - clear -
  rw [uncleared clearing (by simp)] at clear
  cases clear

/-- Leaving out events that do not set the flag keeps clearings repaired. -/
theorem ClearsRepaired.filter (repaired : ClearsRepaired sets clears events)
    {stays : ε → Bool} (setsStay : ∀ event, sets event = true → stays event = true) :
    ClearsRepaired sets clears (events.filter stays) := by
  intro before clearing after split notSet clear earlier
  obtain ⟨front, rest, rfl, rfl, second⟩ := filter_eq_append_iff.mp split
  obtain ⟨middle, back, rfl, -, -, rfl⟩ := filter_eq_cons_iff.mp second
  obtain ⟨event, member, isSet⟩ := earlier
  obtain ⟨later, inBack, laterSet⟩ := repaired (front ++ middle) clearing back (by simp) notSet clear
    ⟨event, mem_append_left _ (mem_filter.mp member).1, isSet⟩
  exact ⟨later, mem_filter.mpr ⟨inBack, setsStay later laterSet⟩, laterSet⟩

/-- A flag that starts down tells whether a setting event occurred exactly when every
clearing of a set flag is repaired. -/
theorem latch_tells_iff (events : List ε) :
    (latch sets clears false events = true ↔ ∃ event ∈ events, sets event = true) ↔
      ClearsRepaired sets clears events := by
  constructor
  · rintro tells before clearing after rfl notSet clear ⟨event, member, isSet⟩
    by_contra unrepaired
    have unset : ∀ later ∈ after, sets later = false := by
      intro later inAfter
      by_contra set
      exact unrepaired ⟨later, inAfter, by simpa using set⟩
    have up := tells.mpr ⟨event, mem_append_left _ member, isSet⟩
    rw [latch_append] at up
    have down : ∀ flag, latch sets clears flag (clearing :: after) = false := by
      intro flag
      show latch sets clears (latchStep sets clears flag clearing) after = false
      have cleared : latchStep sets clears flag clearing = false := by
        simp [latchStep, notSet, clear]
      rw [cleared]
      exact latch_unset unset
    rw [down] at up
    cases up
  · intro repaired
    constructor
    · intro up
      by_contra none
      have unset : ∀ event ∈ events, sets event = false := by
        intro event member
        by_contra set
        exact none ⟨event, member, by simpa using set⟩
      rw [latch_unset unset] at up
      cases up
    · intro set
      obtain ⟨before, event, after, rfl, isSet, unset⟩ := exists_last_set set
      have raised : ∀ flag, latchStep sets clears flag event = true := fun flag => by
        simp [latchStep, isSet]
      rw [latch_append]
      show latch sets clears (latchStep sets clears _ event) after = true
      rw [raised]
      apply latch_kept
      intro clearing member notSet
      by_contra clear
      obtain ⟨front, back, rfl⟩ := append_of_mem member
      obtain ⟨later, inBack, laterSet⟩ := repaired (before ++ event :: front) clearing back
        (by simp) notSet (by simpa using clear) ⟨event, by simp, isSet⟩
      have laterUnset := unset later (mem_append_right _ (mem_cons_of_mem _ inBack))
      rw [laterSet] at laterUnset
      cases laterUnset

end Latch

end Dbmail.Lib
