import Dbmail.Lib.NumberSet

/-!
Contract: a list of ids or names in the slices that batched statements take.

Owns `g_list_slices` and `g_list_slices_u64`, and that they lose nothing.

Does not own: the statements.
-/

namespace Dbmail.Mailbox

open Dbmail.Lib List

section Slices

-- `ahead`: the cursor has stepped to NULL when the inner loop meets the end
variable {α : Type} (text : α → Bytes) (ahead : Bool) (limit : Nat)

/-- The inner loop. A cursor is the list from its node on, and empty for NULL. -/
def sliceLoop : (turns : Nat) → (slice : Bytes) → (cursor : List α) → Bytes × List α
  | 0, slice, cursor => (slice, cursor)
  | turns + 1, slice, cursor =>
    match cursor.tail with
    | [] => (slice, if ahead then [] else cursor)
    | next :: rest => sliceLoop turns (slice ++ 44 :: text next) (next :: rest)

def slicesLoop : (turns : Nat) → (cursor : List α) → List Bytes
  | turns + 1, data :: rest =>
    let (slice, cursor) := sliceLoop text ahead (limit - 1) (text data) (data :: rest)
    slice :: slicesLoop turns cursor.tail
  | _, _ => []

end Slices

def gListSlices (list : List Bytes) (limit : Nat) : List Bytes :=
  slicesLoop id true limit list.length list

def gListSlicesU64 (list : List Nat) (limit : Nat) : List Bytes :=
  slicesLoop digits false limit list.length list

/-- Split at commas, the slices are the list, in full slices but for the last. -/
def Slices (limit : Nat) (list slices : List Bytes) : Prop :=
  let parts := slices.map (splitOn 44)
  parts.flatten = list ∧ (∀ part ∈ parts, 1 ≤ part.length ∧ part.length ≤ limit) ∧
    ∀ part ∈ parts.dropLast, part.length = limit

variable {α : Type} (text : α → Bytes) (ahead : Bool) {limit : Nat}

/-- One slice, and the node behind it, wherever the cursor was left. -/
theorem sliceLoop_eq (turns : Nat) (slice : Bytes) (data : α) (rest : List α) :
    (sliceLoop text ahead turns slice (data :: rest)).1 =
        slice ++ (rest.take turns).flatMap (fun next => 44 :: text next) ∧
      (sliceLoop text ahead turns slice (data :: rest)).2.tail = rest.drop turns := by
  induction turns generalizing slice data rest with
  | zero => simp [sliceLoop]
  | succ turns ih =>
    cases rest with
    | nil => cases ahead <;> simp [sliceLoop]
    | cons next rest =>
      obtain ⟨written, left⟩ := ih (slice ++ 44 :: text next) next rest
      exact ⟨by simpa [sliceLoop] using written, left⟩

theorem slicesLoop_slices (positive : 1 ≤ limit) {turns : Nat} {list : List α}
    (enough : list.length ≤ turns) (plain : ∀ data ∈ list, 44 ∉ text data) :
    Slices limit (list.map text) (slicesLoop text ahead limit turns list) := by
  induction turns generalizing list with
  | zero =>
    obtain rfl := length_eq_zero_iff.mp (Nat.le_zero.mp enough)
    simp [slicesLoop, Slices]
  | succ turns ih =>
    cases list with
    | nil => simp [slicesLoop, Slices]
    | cons data rest =>
      obtain ⟨written, left⟩ := sliceLoop_eq text ahead (limit - 1) (text data) data rest
      have part : (sliceLoop text ahead (limit - 1) (text data) (data :: rest)).1.splitOn 44 =
          (data :: rest.take (limit - 1)).map text := by
        rw [written, ← intercalate_cons_map, ← map_cons]
        refine splitOn_intercalate 44 ?_ (by simp)
        rw [forall_mem_map]
        intro next member
        exact plain next (((take_sublist _ _).cons_cons data).subset member)
      have counted : rest.length ≤ turns := by simpa using enough
      obtain ⟨whole, bounds, full⟩ := @ih (rest.drop (limit - 1)) (by simp; omega)
        fun next member => plain next (mem_cons_of_mem _ (mem_of_mem_drop member))
      simp only [Slices, slicesLoop, map_cons, part, left]
      generalize (slicesLoop text ahead limit turns _).map (splitOn 44) = later at whole bounds full
      refine ⟨by simp [whole], forall_mem_cons.mpr ⟨by simp; omega, bounds⟩, ?_⟩
      cases later with
      | nil => simp
      | cons next others =>
        refine forall_mem_cons.mpr ⟨?_, full⟩
        -- a slice follows, so that the list goes on behind this one
        have follows := (bounds next mem_cons_self).1
        have length := congrArg List.length whole
        simp at length ⊢
        omega

/-- Both functions lose nothing, whatever the list and the limit are. -/
theorem gListSlices_lossless (positive : 1 ≤ limit) :
    (∀ list, (∀ text ∈ list, 44 ∉ text) → Slices limit list (gListSlices list limit)) ∧
      ∀ list, Slices limit (list.map digits) (gListSlicesU64 list limit) := by
  refine ⟨fun list plain => ?_, fun list => ?_⟩
  · have whole := slicesLoop_slices id true positive (Nat.le_refl list.length) plain
    rwa [map_id] at whole
  · exact slicesLoop_slices digits false positive (Nat.le_refl list.length)
      fun id _ => comma_not_mem_digits id

theorem gListSlices_three :
    Slices 2 [lit "a", lit "b", lit "c"] (gListSlices [lit "a", lit "b", lit "c"] 2) :=
  (gListSlices_lossless (by decide)).1 _ (by decide)

end Dbmail.Mailbox
