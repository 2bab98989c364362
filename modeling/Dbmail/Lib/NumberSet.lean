import Dbmail.Lib.CRuntime
import Mathlib.Data.List.SplitOn

/-!
Contract: sets of numbers written as ranges in decimal text.

Owns that decimal text reads back, the ranges that a text such as `3,7:9` stands
for, and the runs of marked numbers among the keys of an ordered list, which may
be written as one range each.

Does not own: sets with `*`.
-/

namespace Dbmail.Lib

open List

/-! ## Decimal text -/

theorem digits_eq (number : Nat) :
    digits number = (Nat.toDigits 10 number).map fun char => char.toNat.toUInt8 := by
  show ((Nat.repr number).toList).map _ = _
  rw [Nat.toList_repr]

theorem digit_toNat {char : Char} (digit : char.isDigit = true) :
    48 ≤ char.toNat ∧ char.toNat ≤ 57 ∧ char.toNat.toUInt8.toNat = char.toNat := by
  obtain ⟨lower, upper⟩ := Char.isDigit_iff_toNat.mp digit
  have below : char.toNat ≤ 57 := upper
  refine ⟨lower, below, ?_⟩
  exact Nat.mod_eq_of_lt (by omega)

theorem decimal_digits (number : Nat) : decimal (digits number) = number := by
  have reads : ∀ (chars : List Char), (∀ char ∈ chars, char.isDigit = true) → ∀ start,
      (chars.map fun char => char.toNat.toUInt8).foldl
          (fun value digit => 10 * value + (digit.toNat - 48)) start =
        Nat.ofDigitChars 10 chars start := by
    intro chars
    induction chars with
    | nil =>
      intro _ _
      rfl
    | cons char rest ih =>
      intro all start
      have digit := digit_toNat (all char mem_cons_self)
      rw [map_cons, foldl_cons, digit.2.2,
        ih fun other member => all other (mem_cons_of_mem _ member)]
      rfl
  rw [digits_eq]
  unfold decimal
  rw [reads _ fun char member => Nat.isDigit_of_mem_toDigits (by decide) (by decide) member]
  exact Nat.ofDigitChars_ten_toDigits

theorem strtoul_digits {text : Bytes} (onlyDigits : text.all isDigit = true) :
    strtoul text = (if 2 ^ 64 ≤ decimal text then 2 ^ 64 - 1 else decimal text, []) := by
  cases text with
  | nil => rfl
  | cons head tail =>
    have digit : isDigit head = true := (all_eq_true.mp onlyDigits) head mem_cons_self
    have notSpace : isSpace head = false := by
      unfold isDigit at digit
      unfold isSpace
      grind
    have notSign : head ≠ 45 ∧ head ≠ 43 := by
      constructor <;> rintro rfl <;> revert digit <;> decide
    have whole : (head :: tail).takeWhile isDigit = head :: tail :=
      takeWhile_eq_self_iff.mpr (all_eq_true.mp onlyDigits)
    have rest : (head :: tail).dropWhile isDigit = [] :=
      dropWhile_eq_nil_iff.mpr (all_eq_true.mp onlyDigits)
    unfold strtoul
    simp [notSpace, notSign.1, notSign.2, whole, rest]

theorem isDigit_of_mem_digits {number : Nat} {byte : UInt8} (member : byte ∈ digits number) :
    isDigit byte = true := by
  rw [digits_eq] at member
  obtain ⟨char, inChars, rfl⟩ := mem_map.mp member
  obtain ⟨lower, upper, same⟩ :=
    digit_toNat (Nat.isDigit_of_mem_toDigits (by decide) (by decide) inChars)
  unfold isDigit
  rw [Bool.and_eq_true, decide_eq_true_iff, decide_eq_true_iff, UInt8.le_iff_toNat_le,
    UInt8.le_iff_toNat_le, same]
  exact ⟨lower, upper⟩

/-! ## Ranges as text -/

def readRange (part : Bytes) : Nat × Nat :=
  let first := decimal (part.takeWhile isDigit)
  match part.dropWhile isDigit with
  | [] => (first, first)
  | _ :: rest => (first, decimal rest)

def readRanges (text : Bytes) : List (Nat × Nat) := (text.splitOn 44).map readRange

def InRanges (ranges : List (Nat × Nat)) (number : Nat) : Prop :=
  ∃ range ∈ ranges, range.1 ≤ number ∧ number ≤ range.2

instance (ranges : List (Nat × Nat)) (number : Nat) : Decidable (InRanges ranges number) :=
  inferInstanceAs (Decidable (∃ range ∈ ranges, _))

theorem readRange_number (number : Nat) : readRange (digits number) = (number, number) := by
  have taken : (digits number).takeWhile isDigit = digits number :=
    takeWhile_eq_self_iff.mpr fun _ member => isDigit_of_mem_digits member
  have dropped : (digits number).dropWhile isDigit = [] :=
    dropWhile_eq_nil_iff.mpr fun _ member => isDigit_of_mem_digits member
  unfold readRange
  rw [taken, dropped, decimal_digits]

theorem readRange_pair (first last : Nat) :
    readRange (digits first ++ 58 :: digits last) = (first, last) := by
  have only : ∀ byte ∈ digits first, isDigit byte = true := fun _ member =>
    isDigit_of_mem_digits member
  have taken : (digits first ++ 58 :: digits last).takeWhile isDigit = digits first := by
    rw [takeWhile_append_of_pos only]
    simp [isDigit]
  have dropped : (digits first ++ 58 :: digits last).dropWhile isDigit = 58 :: digits last := by
    rw [dropWhile_append_of_pos only]
    simp [isDigit]
  unfold readRange
  rw [taken, dropped, decimal_digits]
  dsimp only
  rw [decimal_digits]

theorem lf_not_mem_digits (number : Nat) : (10 : UInt8) ∉ digits number := by
  intro member
  exact absurd (isDigit_of_mem_digits member) (by decide)

theorem comma_not_mem_digits (number : Nat) : 44 ∉ digits number := by
  intro member
  exact absurd (isDigit_of_mem_digits member) (by decide)

theorem intercalate_cons_map {α β : Type} (separator : α) (first : List α) (rest : List β)
    (write : β → List α) :
    [separator].intercalate (first :: rest.map write) =
      first ++ rest.flatMap fun item => separator :: write item := by
  induction rest generalizing first with
  | nil => simp
  | cons item later ih =>
    rw [map_cons, intercalate_cons_cons, ih]
    simp

/-- Ranges that are written one by one, each in a way that reads back, read back. -/
theorem readRanges_intercalate {ranges : List (Nat × Nat)} {write : Nat × Nat → Bytes}
    (some_ : ranges ≠ []) (reads : ∀ range ∈ ranges, readRange (write range) = range)
    (separate : ∀ range ∈ ranges, 44 ∉ write range) :
    readRanges ([44].intercalate (ranges.map write)) = ranges := by
  unfold readRanges
  rw [splitOn_intercalate 44 _ (by simpa using some_), map_map]
  · conv_rhs => rw [← map_id ranges]
    apply map_congr_left
    intro range member
    exact reads range member
  · intro part member
    obtain ⟨range, inRanges, rfl⟩ := mem_map.mp member
    exact separate range inRanges

/-! ## Runs of marked keys -/

/-- The runs of neighbouring marked keys, with the run that is open. -/
def runs (marked : Nat → Bool) : Option (Nat × Nat) → List Nat → List (Nat × Nat)
  | open_, [] => open_.toList
  | open_, key :: rest =>
    if marked key then runs marked (some ((open_.map Prod.fst).getD key, key)) rest
    else open_.toList ++ runs marked none rest

/-- The number lies between two keys that have only marked keys from the one to the
other. -/
def Between (marked : Nat → Bool) (keys : List Nat) (number : Nat) : Prop :=
  ∃ first ∈ keys, ∃ last ∈ keys, first ≤ number ∧ number ≤ last ∧
    ∀ key ∈ keys, first ≤ key → key ≤ last → marked key = true

instance (marked : Nat → Bool) (keys : List Nat) (number : Nat) :
    Decidable (Between marked keys number) :=
  inferInstanceAs (Decidable (∃ first ∈ keys, _))

section Runs

variable {marked : Nat → Bool} {number : Nat}

/-- Where the runs begin, and that they are ranges. -/
theorem runs_bounds {open_ : Option (Nat × Nat)} {keys : List Nat} (sorted : keys.Pairwise (· < ·))
    (ordered : ∀ run, open_ = some run → run.1 ≤ run.2 ∧ ∀ key ∈ keys, run.2 < key) :
    ∀ run ∈ runs marked open_ keys, run.1 ≤ run.2 ∧
      (run.1 ∈ keys ∨ ∃ other, open_ = some other ∧ run.1 = other.1) := by
  induction keys generalizing open_ with
  | nil =>
    intro run member
    rw [runs, Option.mem_toList] at member
    exact ⟨(ordered run member).1, .inr ⟨run, member, rfl⟩⟩
  | cons key rest ih =>
    obtain ⟨below, sortedRest⟩ := pairwise_cons.mp sorted
    intro run member
    rw [runs] at member
    by_cases isMarked : marked key = true
    · rw [if_pos isMarked] at member
      have begins : (open_.map Prod.fst).getD key ≤ key := by
        cases open_ with
        | none => exact Nat.le_refl _
        | some other =>
          have := ordered other rfl
          have := this.2 key mem_cons_self
          show other.1 ≤ key
          omega
      obtain ⟨isRange, origin⟩ := ih sortedRest (by
        intro other isOther
        cases isOther
        exact ⟨begins, below⟩) run member
      refine ⟨isRange, ?_⟩
      rcases origin with later | ⟨other, isOther, same⟩
      · exact .inl (mem_cons_of_mem _ later)
      · cases isOther
        cases open_ with
        | none => exact .inl (same ▸ mem_cons_self)
        | some first => exact .inr ⟨first, rfl, same⟩
    · rw [if_neg isMarked, mem_append, Option.mem_toList] at member
      rcases member with isOpen | later
      · exact ⟨(ordered run isOpen).1, .inr ⟨run, isOpen, rfl⟩⟩
      · obtain ⟨isRange, origin⟩ := @ih none sortedRest
          (fun other none => by cases none) run later
        refine ⟨isRange, ?_⟩
        rcases origin with found | ⟨other, isOther, _⟩
        · exact .inl (mem_cons_of_mem _ found)
        · cases isOther

theorem runs_open_head (start stop : Nat) (keys : List Nat) :
    (runs marked (some (start, stop)) keys).head?.map Prod.fst = some start := by
  induction keys generalizing stop with
  | nil => rfl
  | cons key rest ih =>
    rw [runs]
    split
    · exact ih key
    · rfl

variable {keys : List Nat} {key : Nat}

theorem runs_eq_nil_iff : runs marked none keys = [] ↔ keys.filter marked = [] := by
  induction keys with
  | nil => simp [runs]
  | cons key rest ih =>
    rw [runs, filter_cons]
    split
    · have head := @runs_open_head marked key key rest
      constructor
      · intro none
        rw [show runs marked (some (key, key)) rest = [] from none] at head
        cases head
      · intro none
        cases none
    · exact ih

theorem runs_head_le (sorted : keys.Pairwise (· < ·)) : ∀ run ∈ runs marked none keys,
      ((runs marked none keys).head?.map Prod.fst).getD 0 ≤ run.1 := by
  induction keys with
  | nil =>
    intro run none
    cases none
  | cons key rest ih =>
    obtain ⟨below, sortedRest⟩ := pairwise_cons.mp sorted
    intro run member
    by_cases isMarked : marked key = true
    · have begins : runs marked none (key :: rest) = runs marked (some (key, key)) rest := by
        rw [runs, if_pos isMarked]
        rfl
      rw [begins] at member ⊢
      rw [runs_open_head]
      obtain ⟨_, origin⟩ := runs_bounds sortedRest (by
        intro other isOther
        cases isOther
        exact ⟨Nat.le_refl _, below⟩) run member
      rcases origin with later | ⟨other, isOther, same⟩
      · exact Nat.le_of_lt (below run.1 later)
      · cases isOther
        exact Nat.le_of_eq same.symm
    · have skips : runs marked none (key :: rest) = runs marked none rest := by
        rw [runs, if_neg isMarked]
        rfl
      rw [skips] at member ⊢
      exact ih sortedRest run member

theorem between_congr {keys other : List Nat} (same : ∀ key, key ∈ keys ↔ key ∈ other) :
    Between marked keys number ↔ Between marked other number := by
  unfold Between
  simp [same]

theorem between_self (member : key ∈ keys) (isMarked : marked key = true) :
    Between marked keys key := by
  refine ⟨key, member, key, member, Nat.le_refl _, Nat.le_refl _, ?_⟩
  intro other _ after before
  exact Nat.le_antisymm before after ▸ isMarked

section Cons

variable (below : ∀ other ∈ keys, key < other)

include below

theorem Between.mono (between : Between marked keys number) :
    Between marked (key :: keys) number := by
  obtain ⟨first, isFirst, last, isLast, lower, upper, all⟩ := between
  refine ⟨first, mem_cons_of_mem _ isFirst, last, mem_cons_of_mem _ isLast, lower, upper, ?_⟩
  intro other member after before
  rcases mem_cons.mp member with rfl | later
  · have := below first isFirst
    omega
  · exact all other later after before

/-- From `stop` on, marked keys reach up to the number. -/
def Reaches (marked : Nat → Bool) (keys : List Nat) (stop number : Nat) : Prop :=
  ∃ last, (last = stop ∨ last ∈ keys) ∧ number ≤ last ∧ ∀ key ∈ keys, key ≤ last → marked key = true

theorem reaches_cons_marked {stop : Nat} (next : stop < key) (isMarked : marked key = true) :
    Reaches marked (key :: keys) stop number ↔ Reaches marked keys key number := by
  constructor
  · intro ⟨last, isLast, upper, all⟩
    rcases isLast with rfl | member
    · refine ⟨key, .inl rfl, by omega, ?_⟩
      intro other later before
      have := below other later
      omega
    · exact ⟨last, mem_cons.mp member, upper, fun other later =>
        all other (mem_cons_of_mem _ later)⟩
  · intro ⟨last, isLast, upper, all⟩
    refine ⟨last, .inr (mem_cons.mpr isLast), upper, ?_⟩
    intro other member before
    rcases mem_cons.mp member with rfl | later
    · exact isMarked
    · exact all other later before

theorem reaches_cons_unmarked {stop : Nat} (behind : ∀ other ∈ key :: keys, stop < other)
    (unmarked : marked key = false) :
    Reaches marked (key :: keys) stop number ↔ number ≤ stop := by
  constructor
  · intro ⟨last, isLast, upper, all⟩
    rcases isLast with rfl | member
    · exact upper
    · have atLeast : key ≤ last := by
        rcases mem_cons.mp member with rfl | later
        · omega
        · exact Nat.le_of_lt (below last later)
      rw [all key mem_cons_self atLeast] at unmarked
      cases unmarked
  · intro upper
    refine ⟨stop, .inl rfl, upper, ?_⟩
    intro other member before
    have := behind other member
    omega

theorem between_cons_marked (isMarked : marked key = true) :
    Between marked (key :: keys) number ↔
      (key ≤ number ∧ Reaches marked keys key number) ∨ Between marked keys number := by
  constructor
  · intro ⟨first, isFirst, last, isLast, lower, upper, all⟩
    rcases mem_cons.mp isFirst with rfl | later
    · refine .inl ⟨lower, last, mem_cons.mp isLast, upper, ?_⟩
      intro other member before
      exact all other (mem_cons_of_mem _ member) (Nat.le_of_lt (below other member)) before
    · have := below first later
      have isLater : last ∈ keys := by
        rcases mem_cons.mp isLast with rfl | found
        · omega
        · exact found
      exact .inr ⟨first, later, last, isLater, lower, upper, fun other member =>
        all other (mem_cons_of_mem _ member)⟩
  · intro either
    rcases either with ⟨lower, last, isLast, upper, all⟩ | between
    · refine ⟨key, mem_cons_self, last, mem_cons.mpr isLast, lower, upper, ?_⟩
      intro other member _ before
      rcases mem_cons.mp member with rfl | later
      · exact isMarked
      · exact all other later before
    · exact between.mono below

theorem between_cons_unmarked (unmarked : marked key = false) :
    Between marked (key :: keys) number ↔ Between marked keys number := by
  constructor
  · intro ⟨first, isFirst, last, isLast, lower, upper, all⟩
    have inner : ∀ other ∈ key :: keys, first ≤ other → other ≤ last → other ∈ keys := by
      intro other member after before
      rcases mem_cons.mp member with rfl | later
      · rw [all other member after before] at unmarked
        cases unmarked
      · exact later
    have ordered := Nat.le_trans lower upper
    exact ⟨first, inner first isFirst (Nat.le_refl _) ordered, last,
      inner last isLast ordered (Nat.le_refl _), lower, upper, fun other member =>
        all other (mem_cons_of_mem _ member)⟩
  · exact Between.mono below

end Cons

/-- What the runs cover, without an open run and with one that ends before the keys. -/
theorem inRanges_runs (sorted : keys.Pairwise (· < ·)) :
    (InRanges (runs marked none keys) number ↔ Between marked keys number) ∧
      ∀ start stop, start ≤ stop → (∀ key ∈ keys, stop < key) →
        (InRanges (runs marked (some (start, stop)) keys) number ↔
          (start ≤ number ∧ Reaches marked keys stop number) ∨ Between marked keys number) := by
  induction keys with
  | nil => simp [runs, InRanges, Between, Reaches]
  | cons key rest ih =>
    obtain ⟨below, sortedRest⟩ := pairwise_cons.mp sorted
    obtain ⟨closed, opened⟩ := ih sortedRest
    cases isMarked : marked key with
    | true =>
      have absorbs : ∀ start, start ≤ key →
          (InRanges (runs marked (some (start, key)) rest) number ↔
            (start ≤ number ∧ Reaches marked rest key number) ∨
              Between marked (key :: rest) number) := by
        intro start before
        rw [opened start key before below, between_cons_marked below isMarked]
        have weaker : key ≤ number → start ≤ number := Nat.le_trans before
        tauto
      constructor
      · rw [runs, if_pos isMarked, between_cons_marked below isMarked]
        exact opened key key (Nat.le_refl _) below
      · intro start stop ordered behind
        have next := behind key mem_cons_self
        rw [runs, if_pos isMarked, reaches_cons_marked below next isMarked]
        exact absorbs start (by omega)
    | false =>
      have unmarked : ¬ marked key = true := by simp [isMarked]
      constructor
      · rw [runs, if_neg unmarked, between_cons_unmarked below isMarked]
        exact closed
      · intro start stop ordered behind
        rw [runs, if_neg unmarked, reaches_cons_unmarked below behind isMarked,
          between_cons_unmarked below isMarked, ← closed]
        simp [InRanges]

end Runs

end Dbmail.Lib
