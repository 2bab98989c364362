import Mathlib.Data.List.Basic
import Mathlib.Data.List.Nodup
import Mathlib.Data.List.Sort
import Mathlib.Order.Basic

/-!
Contract: balanced trees keyed by numbers, seen through their traversal.

Owns the tree as its entries in the order of the keys, lookup, insertion and
removal, and the rank of a key in a sorted list.

Does not own: the shape of the tree. Every traversal of the modelled trees is in
the order of the keys, and no caller sees more than that.
-/

namespace Dbmail.Lib

open List

/-! ## Ranks -/

/-- In a sorted list an element stands behind exactly the smaller ones. -/
theorem idxOf_eq_countP_lt {keys : List Nat} (sorted : keys.Pairwise (· < ·)) {key : Nat}
    (member : key ∈ keys) : keys.idxOf key = keys.countP (· < key) := by
  induction keys with
  | nil => simp at member
  | cons head tail ih =>
    obtain ⟨above, sortedTail⟩ := pairwise_cons.mp sorted
    by_cases same : head = key
    · subst same
      have noneBelow : tail.countP (· < head) = 0 := by
        apply countP_eq_zero.mpr
        intro other inTail
        have := above other inTail
        simp only [decide_eq_true_eq]
        omega
      simp [noneBelow]
    · have inTail : key ∈ tail := (mem_cons.mp member).resolve_left (Ne.symm same)
      have below : head < key := above key inTail
      rw [idxOf_cons_ne _ same, ih sortedTail inTail, countP_cons_of_pos (by simpa using below)]

/-! ## Trees -/

variable {α : Type}

/-- A tree keyed by numbers, as its entries in the order of the keys. -/
structure KeyTree (α : Type) where
  entries : List (Nat × α)
  sorted : (entries.map Prod.fst).Pairwise (· < ·)

/-! ## Loops -/

section Loop

variable {α β γ : Type} {turn : β → α → β} {items : List α}

/-- A loop that skips each of its turns. -/
theorem foldl_skipped {start : β} (skipped : ∀ item ∈ items, turn start item = start) :
    items.foldl turn start = start := by
  refine foldlRecOn (motive := (· = start)) items turn rfl ?_
  rintro _ rfl item member
  exact skipped item member

/-- A loop whose turns change what is seen of the state only for some items, and no more the
second time. -/
theorem foldl_seen {view : β → γ} {change : γ → γ} {hit : α → Prop} [DecidablePred hit]
    (turned : ∀ item ∈ items, ∀ state, view (turn state item) =
      if hit item then change (view state) else view state)
    (again : ∀ seen, change (change seen) = change seen) (start : β) :
    view (items.foldl turn start) =
      if ∃ item ∈ items, hit item then change (view start) else view start := by
  induction items generalizing start with
  | nil => simp
  | cons head tail ih =>
    rw [foldl_cons, ih fun item member => turned item (mem_cons_of_mem _ member),
      turned head mem_cons_self]
    by_cases here : hit head
    · simp [here, again]
    · simp [here]

end Loop

namespace KeyTree

def empty : KeyTree α := ⟨[], List.Pairwise.nil⟩

def keys (tree : KeyTree α) : List Nat := tree.entries.map Prod.fst

def lookup (tree : KeyTree α) (key : Nat) : Option α :=
  (tree.entries.find? fun entry => entry.1 == key).map Prod.snd

def insertEntry (key : Nat) (value : α) : List (Nat × α) → List (Nat × α)
  | [] => [(key, value)]
  | entry :: rest =>
    if key < entry.1 then (key, value) :: entry :: rest
    else if key = entry.1 then (key, value) :: rest
    else entry :: insertEntry key value rest

variable {tree : KeyTree α} {test : α → Bool} {key : Nat} {entry : Nat × α} {value : α}

theorem mem_insertEntry {entries : List (Nat × α)} {entry : Nat × α}
    (member : entry ∈ insertEntry key value entries) :
    entry = (key, value) ∨ entry ∈ entries := by
  induction entries with
  | nil => simpa [insertEntry] using member
  | cons head tail ih =>
    rw [insertEntry] at member
    split_ifs at member with before same
    · simpa using member
    · rcases mem_cons.mp member with here | there
      · exact .inl here
      · exact .inr (mem_cons_of_mem _ there)
    · rcases mem_cons.mp member with here | there
      · exact .inr (by simp [here])
      · rcases ih there with new | old
        · exact .inl new
        · exact .inr (mem_cons_of_mem _ old)

theorem insertEntry_sorted (key : Nat) (value : α) {entries : List (Nat × α)}
    (sorted : (entries.map Prod.fst).Pairwise (· < ·)) :
    ((insertEntry key value entries).map Prod.fst).Pairwise (· < ·) := by
  induction entries with
  | nil => simp [insertEntry]
  | cons head tail ih =>
    obtain ⟨above, sortedTail⟩ := pairwise_cons.mp sorted
    rw [insertEntry]
    split_ifs with before same
    · apply pairwise_cons.mpr
      refine ⟨?_, sorted⟩
      intro other inRest
      rcases mem_cons.mp inRest with here | there
      · exact here ▸ before
      · exact Nat.lt_trans before (above other there)
    · subst same
      exact pairwise_cons.mpr ⟨above, sortedTail⟩
    · apply pairwise_cons.mpr
      refine ⟨?_, ih sortedTail⟩
      intro other inRest
      obtain ⟨entry, member, rfl⟩ := mem_map.mp inRest
      rcases mem_insertEntry member with rfl | old
      · omega
      · exact above entry.1 (mem_map_of_mem old)

def insert (tree : KeyTree α) (key : Nat) (value : α) : KeyTree α :=
  ⟨insertEntry key value tree.entries, insertEntry_sorted key value tree.sorted⟩

def remove (tree : KeyTree α) (key : Nat) : KeyTree α where
  entries := tree.entries.filter fun entry => entry.1 != key
  sorted := tree.sorted.sublist (filter_sublist.map Prod.fst)

def keysWhere (tree : KeyTree α) (test : α → Bool) : List Nat :=
  (tree.entries.filter fun entry => test entry.2).map Prod.fst

theorem keysWhere_sorted (tree : KeyTree α) (test : α → Bool) :
    (tree.keysWhere test).Pairwise (· < ·) :=
  tree.sorted.sublist (filter_sublist.map Prod.fst)

theorem mem_insert {entry : Nat × α} (member : entry ∈ (tree.insert key value).entries) :
    entry = (key, value) ∨ entry ∈ tree.entries :=
  mem_insertEntry member

theorem mem_remove (member : entry ∈ (tree.remove key).entries) : entry ∈ tree.entries :=
  mem_of_mem_filter member

theorem mem_of_lookup (found : tree.lookup key = some value) : (key, value) ∈ tree.entries := by
  obtain ⟨entry, first, rfl⟩ := Option.map_eq_some_iff.mp found
  have sameKey : entry.1 = key := by simpa using List.find?_some first
  have member := mem_of_find?_eq_some first
  rwa [← sameKey]

theorem lookup_of_mem (member : entry ∈ tree.entries) : tree.lookup entry.1 = some entry.2 := by
  obtain ⟨entries, sorted⟩ := tree
  replace member : entry ∈ entries := member
  show (entries.find? fun other => other.1 == entry.1).map Prod.snd = some entry.2
  induction entries with
  | nil => simp at member
  | cons head tail ih =>
    obtain ⟨above, sortedTail⟩ := pairwise_cons.mp sorted
    rcases mem_cons.mp member with here | there
    · simp [here]
    · have := above entry.1 (mem_map_of_mem there)
      rw [List.find?_cons_of_neg (by simp only [beq_iff_eq]; omega), ih sortedTail there]

theorem lookup_isSome_iff (tree : KeyTree α) (key : Nat) :
    (tree.lookup key).isSome ↔ key ∈ tree.keys := by
  simp [lookup, keys]

theorem mem_keys_insert {other : Nat}
    (member : other ∈ (tree.insert key value).keys) : other = key ∨ other ∈ tree.keys := by
  obtain ⟨entry, inEntries, rfl⟩ := mem_map.mp member
  rcases mem_insert inEntries with rfl | old
  · exact .inl rfl
  · exact .inr (mem_map_of_mem old)

theorem mem_keys_remove {key other : Nat}
    (member : other ∈ (tree.remove key).keys) : other ∈ tree.keys := by
  obtain ⟨entry, inEntries, rfl⟩ := mem_map.mp member
  exact mem_map_of_mem (mem_remove inEntries)

theorem mem_keys_of_mem_keysWhere (member : key ∈ tree.keysWhere test) : key ∈ tree.keys := by
  obtain ⟨entry, passes, rfl⟩ := mem_map.mp member
  exact mem_map_of_mem (mem_of_mem_filter passes)

theorem exists_lookup (member : key ∈ tree.keys) : ∃ value, tree.lookup key = some value :=
  Option.isSome_iff_exists.mp ((tree.lookup_isSome_iff key).mpr member)

theorem mem_keys_of_lookup (found : tree.lookup key = some value) : key ∈ tree.keys :=
  mem_map_of_mem (mem_of_lookup found)

theorem mem_keysWhere_iff :
    key ∈ tree.keysWhere test ↔ ∃ value, tree.lookup key = some value ∧ test value = true := by
  constructor
  · intro member
    obtain ⟨entry, passes, rfl⟩ := mem_map.mp member
    obtain ⟨inTree, accepted⟩ := mem_filter.mp passes
    exact ⟨entry.2, lookup_of_mem inTree, accepted⟩
  · intro ⟨value, found, accepted⟩
    exact mem_map.mpr ⟨(key, value), mem_filter.mpr ⟨mem_of_lookup found, accepted⟩, rfl⟩

theorem keysWhere_eq_keys
    (all : ∀ entry ∈ tree.entries, test entry.2 = true) : tree.keysWhere test = tree.keys := by
  unfold keysWhere keys
  rw [filter_eq_self.mpr all]

/-- An insertion is seen at its own key and nowhere else. -/
theorem lookup_insert (tree : KeyTree α) (key : Nat) (value : α) (other : Nat) :
    (tree.insert key value).lookup other = if other = key then some value else tree.lookup other := by
  obtain ⟨entries, sorted⟩ := tree
  show ((insertEntry key value entries).find? fun entry => entry.1 == other).map Prod.snd =
    if other = key then some value else (entries.find? fun entry => entry.1 == other).map Prod.snd
  clear sorted
  induction entries with
  | nil =>
    by_cases here : other = key
    · simp [insertEntry, here]
    · simp [insertEntry, here, Ne.symm here]
  | cons head tail ih =>
    rw [insertEntry]
    by_cases before : key < head.1
    · rw [if_pos before]
      by_cases here : other = key
      · simp [here]
      · simp [here, Ne.symm here]
    rw [if_neg before]
    by_cases same : key = head.1
    · rw [if_pos same]
      by_cases here : other = key
      · simp [here]
      · have skipped : ¬ head.1 = other := same ▸ Ne.symm here
        simp [here, Ne.symm here, skipped]
    rw [if_neg same]
    by_cases found : head.1 = other
    · have elsewhere : ¬ other = key := found ▸ Ne.symm same
      simp [found, elsewhere]
    · rw [List.find?_cons_of_neg (by simp [found]), List.find?_cons_of_neg (by simp [found]), ih]

theorem lookup_remove (tree : KeyTree α) (key other : Nat) :
    (tree.remove key).lookup other = if other = key then none else tree.lookup other := by
  show ((tree.entries.filter fun entry => entry.1 != key).find? fun entry => entry.1 == other).map
    Prod.snd = _
  rw [List.find?_filter]
  by_cases here : other = key
  · rw [if_pos here, List.find?_eq_none.mpr]
    · rfl
    · intro entry _
      simp [here]
  · rw [if_neg here]
    have sameTest : (fun entry : Nat × α => decide ((entry.1 != key) = true ∧
        (entry.1 == other) = true)) = fun entry => entry.1 == other := by
      funext entry
      by_cases found : entry.1 = other
      · simp [found, here]
      · simp [found]
    rw [sameTest]
    rfl

theorem lookup_empty (key : Nat) : (empty : KeyTree α).lookup key = none := rfl

/-- Trees with the same entry at every key are equal. -/
theorem ext_lookup {first second : KeyTree α} (same : ∀ key, first.lookup key = second.lookup key) :
    first = second := by
  have within {first second : KeyTree α} (same : ∀ key, first.lookup key = second.lookup key)
      {entry : Nat × α} (member : entry ∈ first.entries) : entry ∈ second.entries :=
    mem_of_lookup ((same entry.1).symm.trans (lookup_of_mem member))
  have equal : first.entries = second.entries :=
    haveI : Std.Asymm fun one other : Nat × α => one.1 < other.1 := ⟨fun _ _ => Nat.lt_asymm⟩
    haveI : Std.Irrefl fun one other : Nat × α => one.1 < other.1 := ⟨fun _ => Nat.lt_irrefl _⟩
    (pairwise_map.mp first.sorted).eq_of_mem_iff (pairwise_map.mp second.sorted)
      fun _ => ⟨within same, within fun key => (same key).symm⟩
  cases first
  cases second
  cases equal
  rfl

theorem keys_insert_of_mem (member : key ∈ tree.keys) (value : α) :
    (tree.insert key value).keys = tree.keys := by
  refine (tree.insert key value).sorted.eq_of_mem_iff tree.sorted fun other => ?_
  change other ∈ (tree.insert key value).keys ↔ other ∈ tree.keys
  rw [← lookup_isSome_iff, ← lookup_isSome_iff, lookup_insert]
  split
  · rename_i here
    exact iff_of_true rfl ((lookup_isSome_iff _ _).mpr (here ▸ member))
  · rfl

/-- An entry that fails the test takes its key out. -/
theorem keysWhere_insert_of_not (tree : KeyTree α) {test : α → Bool} (key : Nat) {value : α}
    (fails : test value = false) :
    (tree.insert key value).keysWhere test = (tree.keysWhere test).filter (· != key) := by
  refine ((tree.insert key value).keysWhere_sorted test).eq_of_mem_iff
    ((tree.keysWhere_sorted test).filter _) fun other => ?_
  rw [mem_filter, mem_keysWhere_iff, mem_keysWhere_iff, lookup_insert]
  by_cases here : other = key
  · simp [here, fails]
  · simp [here]

def map {β : Type} (tree : KeyTree α) (change : Nat → α → β) : KeyTree β where
  entries := tree.entries.map fun entry => (entry.1, change entry.1 entry.2)
  sorted := by
    have keys : (tree.entries.map fun entry => (entry.1, change entry.1 entry.2)).map Prod.fst =
        tree.entries.map Prod.fst := by
      rw [map_map]
      rfl
    rw [keys]
    exact tree.sorted

@[simp] theorem keys_map {β : Type} (tree : KeyTree α) (change : Nat → α → β) :
    (tree.map change).keys = tree.keys := by
  simp [map, keys]

theorem lookup_map {β : Type} (tree : KeyTree α) (change : Nat → α → β) (key : Nat) :
    (tree.map change).lookup key = (tree.lookup key).map (change key) := by
  simp only [map, lookup, List.find?_map]
  cases found : tree.entries.find? ((fun entry => entry.1 == key) ∘
      fun entry => (entry.1, change entry.1 entry.2)) with
  | none =>
    have missing : tree.entries.find? (fun entry => entry.1 == key) = none := found
    simp [missing]
  | some entry =>
    have here : tree.entries.find? (fun entry => entry.1 == key) = some entry := found
    have sameKey : entry.1 = key := by simpa using List.find?_some here
    simp [here, sameKey]

end KeyTree

/-! ## Traversals -/

section Walk

variable {σ : Type} {visit : σ → Nat → σ × Bool}

/-- A traversal that the visitor can break off. -/
def walk (visit : σ → Nat → σ × Bool) : σ → List Nat → σ
  | state, [] => state
  | state, key :: rest =>
    if (visit state key).2 then (visit state key).1 else walk visit (visit state key).1 rest

/-- What every visit keeps holds at the end of the traversal. -/
theorem walk_keeps {good : σ → Prop} {keys : List Nat}
    (kept : ∀ state, ∀ key ∈ keys, good state → good (visit state key).1) {state : σ}
    (holds : good state) : good (walk visit state keys) := by
  induction keys generalizing state with
  | nil => exact holds
  | cons key rest ih =>
    have next := kept state key mem_cons_self holds
    rw [walk]
    split
    · exact next
    · apply ih
      · intro later other member
        exact kept later other (mem_cons_of_mem key member)
      · exact next

end Walk

end Dbmail.Lib
