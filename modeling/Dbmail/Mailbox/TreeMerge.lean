import Dbmail.Lib.SortedTree

/-!
Contract: the boolean merge of two trees.

Owns `g_tree_merge` (`dm_misc.c`) with what it leaves in both trees, entry by
entry.

Does not own: which trees are merged. Values are never null pointers here, so that
a lookup tells whether a key is there.
-/

namespace Dbmail.Mailbox

open Dbmail.Lib List KeyTree

inductive MergeCondition where
  | and | or | not
deriving DecidableEq, Repr

namespace TreeMerge

variable {α : Type}

def move (trees : KeyTree α × KeyTree α) (key : Nat) : KeyTree α × KeyTree α :=
  match trees.2.lookup key with
  | none => trees
  | some value => (trees.1.insert key value, trees.2.remove key)

def exchange (trees : KeyTree α × KeyTree α) (key : Nat) : KeyTree α × KeyTree α :=
  if (trees.1.lookup key).isSome then (trees.1.remove key, trees.2) else move trees key

end TreeMerge

open TreeMerge

/-- The result is in the first tree. -/
def gTreeMerge {α : Type} (condition : MergeCondition) (a b : KeyTree α) : KeyTree α × KeyTree α :=
  match condition with
  | .and => ((a.keys.filter fun key => (b.lookup key).isNone).foldl KeyTree.remove a, b)
  | .or => (b.keys.filter fun key => (a.lookup key).isNone).foldl move (a, b)
  | .not => b.keys.foldl exchange (a, b)

namespace TreeMerge

variable {α : Type}

/-! ## Runs over keys -/

theorem lookup_removeAll (keys : List Nat) (tree : KeyTree α) (key : Nat) :
    (keys.foldl KeyTree.remove tree).lookup key = if key ∈ keys then none else tree.lookup key := by
  have seen := @foldl_seen _ _ _ KeyTree.remove keys (·.lookup key) (fun _ => none) (key = ·) _
    (fun head _ tree => tree.lookup_remove head key) (fun _ => rfl) tree
  simpa using seen

theorem move_lookup (trees : KeyTree α × KeyTree α) (key other : Nat) :
    (move trees key).1.lookup other =
        (if other = key then (trees.2.lookup key).or (trees.1.lookup other)
          else trees.1.lookup other) ∧
      (move trees key).2.lookup other = if other = key then none else trees.2.lookup other := by
  unfold move
  cases found : trees.2.lookup key with
  | none =>
    by_cases here : other = key
    · simp [here, found]
    · simp [here]
  | some value =>
    rw [lookup_insert, lookup_remove]
    exact ⟨rfl, rfl⟩

theorem lookup_moveAll (keys : List Nat) (trees : KeyTree α × KeyTree α) (key : Nat) :
    (keys.foldl move trees).1.lookup key =
        (if key ∈ keys then (trees.2.lookup key).or (trees.1.lookup key)
          else trees.1.lookup key) ∧
      (keys.foldl move trees).2.lookup key = if key ∈ keys then none else trees.2.lookup key := by
  have seen := @foldl_seen _ _ _ move keys (fun trees => (trees.1.lookup key, trees.2.lookup key))
    (fun values => (values.2.or values.1, none)) (key = ·) _ ?_ (by simp) trees
  · split_ifs at seen ⊢ <;> simp_all
  · intro head _ trees
    obtain ⟨movedTo, movedFrom⟩ := move_lookup trees head key
    rw [movedTo, movedFrom]
    split_ifs <;> simp_all

theorem exchange_lookup (trees : KeyTree α × KeyTree α) (key other : Nat) :
    (exchange trees key).1.lookup other =
        (if other = key then
          if (trees.1.lookup other).isSome then none else trees.2.lookup other
        else trees.1.lookup other) ∧
      (exchange trees key).2.lookup other =
        if other = key ∧ trees.1.lookup other = none then none else trees.2.lookup other := by
  unfold exchange
  cases held : trees.1.lookup key with
  | some value =>
    rw [Option.isSome_some, if_pos rfl, lookup_remove]
    by_cases here : other = key
    · simp [here, held]
    · simp [here]
  | none =>
    obtain ⟨movedTo, movedFrom⟩ := move_lookup trees key other
    rw [Option.isSome_none, if_neg (by decide), movedTo, movedFrom]
    by_cases here : other = key
    · simp [here, held]
    · simp [here]

theorem lookup_exchangeAll {keys : List Nat} (distinct : keys.Nodup)
    (trees : KeyTree α × KeyTree α) (key : Nat) :
    (keys.foldl exchange trees).1.lookup key =
        (if key ∈ keys then if (trees.1.lookup key).isSome then none else trees.2.lookup key
        else trees.1.lookup key) ∧
      (keys.foldl exchange trees).2.lookup key =
        if key ∈ keys ∧ trees.1.lookup key = none then none else trees.2.lookup key := by
  induction keys generalizing trees with
  | nil => simp
  | cons head tail ih =>
    obtain ⟨apart, distinctTail⟩ := nodup_cons.mp distinct
    obtain ⟨firstTree, secondTree⟩ := ih distinctTail (exchange trees head)
    obtain ⟨exchanged, left⟩ := exchange_lookup trees head key
    rw [foldl_cons, firstTree, secondTree, exchanged, left]
    by_cases here : key = head
    · subst here
      simp [apart]
    · simp [here]

theorem keys_nodup (tree : KeyTree α) : tree.keys.Nodup :=
  tree.sorted.imp Nat.ne_of_lt

theorem mem_keys_iff {tree : KeyTree α} {key : Nat} :
    key ∈ tree.keys ↔ (tree.lookup key).isSome = true :=
  (tree.lookup_isSome_iff key).symm

end TreeMerge

/-! ## What a merge leaves -/

section Merge

variable {α : Type} (a b : KeyTree α) (key : Nat)

theorem lookup_merge_and :
    (gTreeMerge .and a b).1.lookup key = if (b.lookup key).isSome then a.lookup key else none := by
  unfold gTreeMerge
  rw [lookup_removeAll]
  cases inFirst : a.lookup key with
  | none => simp
  | some value =>
    have member : key ∈ a.keys := mem_keys_of_lookup inFirst
    cases inSecond : b.lookup key with
    | none => simp [member, inSecond]
    | some other => simp [inSecond]

theorem lookup_merge_or :
    (gTreeMerge .or a b).1.lookup key = (a.lookup key).or (b.lookup key) ∧
      (gTreeMerge .or a b).2.lookup key = if (a.lookup key).isSome then b.lookup key else none := by
  unfold gTreeMerge
  obtain ⟨firstTree, secondTree⟩ :=
    lookup_moveAll (b.keys.filter fun key => (a.lookup key).isNone) (a, b) key
  rw [firstTree, secondTree]
  cases inFirst : a.lookup key with
  | some value => simp [inFirst]
  | none =>
    cases inSecond : b.lookup key with
    | none => simp
    | some value =>
      have member : key ∈ b.keys := mem_keys_of_lookup inSecond
      simp [member, inFirst]

/-- The merge that is to negate exchanges the keys: it takes out those that both trees
have and brings in the others of the second. -/
theorem lookup_merge_not :
    (gTreeMerge .not a b).1.lookup key =
        (if (b.lookup key).isSome then if (a.lookup key).isSome then none else b.lookup key
        else a.lookup key) ∧
      (gTreeMerge .not a b).2.lookup key = if (a.lookup key).isSome then b.lookup key else none := by
  unfold gTreeMerge
  obtain ⟨firstTree, secondTree⟩ := lookup_exchangeAll (keys_nodup b) (a, b) key
  rw [firstTree, secondTree]
  simp only [mem_keys_iff]
  cases a.lookup key <;> cases b.lookup key <;> simp

/-! ## Set algebra -/

def MergeCondition.combines : MergeCondition → Prop → Prop → Prop
  | .and, inFirst, inSecond => inFirst ∧ inSecond
  | .or, inFirst, inSecond => inFirst ∨ inSecond
  | .not, inFirst, inSecond => Xor inFirst inSecond

/-- The values stand for the nodes of the trees: no two entries are the same node. -/
abbrev DistinctStorage : Prop :=
  ((a.entries ++ b.entries).map Prod.snd).Nodup

variable {a b} in
theorem DistinctStorage.apart (distinct : DistinctStorage a b) {other : Nat} {node : α}
    (found : b.lookup other = some node) :
    a.lookup key ≠ some node ∧ (b.lookup key = some node → key = other) := by
  rw [DistinctStorage, map_append] at distinct
  have member := mem_of_lookup found
  constructor
  · intro alsoFirst
    exact (nodup_append.mp distinct).2.2 _ (mem_map_of_mem (mem_of_lookup alsoFirst))
      _ (mem_map_of_mem member) rfl
  · intro again
    exact congrArg Prod.fst (inj_on_of_nodup_map distinct.of_append_right
      (mem_of_lookup again) member rfl)

theorem gTreeMerge_setAlgebra (condition : MergeCondition) (distinct : DistinctStorage a b) :
    (key ∈ (gTreeMerge condition a b).1.keys ↔
        condition.combines (key ∈ a.keys) (key ∈ b.keys)) ∧
      ∀ node, (gTreeMerge condition a b).1.lookup key = some node →
        (a.lookup key).or (b.lookup key) = some node ∧
          ∀ other, (gTreeMerge condition a b).2.lookup other ≠ some node := by
  have merged (key) := And.intro (lookup_merge_and a b key)
    (And.intro (lookup_merge_or a b key) (lookup_merge_not a b key))
  constructor
  · simp only [mem_keys_iff]
    cases condition <;> cases inFirst : a.lookup key <;> cases inSecond : b.lookup key <;>
      simp [merged, inFirst, inSecond, MergeCondition.combines]
  · intro node found
    have own : a.lookup key = some node ∨
        a.lookup key = none ∧ b.lookup key = some node ∧ condition ≠ .and := by
      cases condition <;> cases inFirst : a.lookup key <;> cases inSecond : b.lookup key <;>
        simp_all
    refine ⟨by rcases own with own | own <;> simp [own], ?_⟩
    intro other left
    have inSecond : b.lookup other = some node ∧ (condition ≠ .and → a.lookup other ≠ none) := by
      cases condition <;> simp_all [gTreeMerge, Option.isSome_iff_ne_none]
    obtain ⟨notFirst, sameKey⟩ := distinct.apart key inSecond.1
    rcases own with own | ⟨missing, taken, differs⟩
    · exact notFirst own
    · cases sameKey taken
      exact inSecond.2 differs missing

theorem gTreeMerge_setAlgebra_shared :
    let first := (KeyTree.empty.insert 1 10).insert 2 20
    let second := (KeyTree.empty.insert 2 21).insert 3 31
    (gTreeMerge .not first second).1.keys = [1, 3] ∧ ∀ key,
      (key ∈ (gTreeMerge .not first second).1.keys ↔ Xor (key ∈ first.keys) (key ∈ second.keys)) :=
  ⟨rfl, fun key => (gTreeMerge_setAlgebra _ _ key .not (by decide)).1⟩

end Merge

end Dbmail.Mailbox
