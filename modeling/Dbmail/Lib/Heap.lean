import Dbmail.Lib.SortedTree

/-!
Contract: objects that are allocated, read, written and freed by address.

Owns the heap with its frontier, and what a read finds after each operation. An
address is never given out twice, so that a read of a freed object is seen as
such.

Does not own: who holds an address.
-/

namespace Dbmail.Lib

open KeyTree

/-- The live objects by address; no address at or above the frontier has been given out. -/
structure Heap (α : Type) where
  cells : KeyTree α
  next : Nat
  bounded : ∀ address ∈ cells.keys, address < next

namespace Heap

variable {α : Type} (heap : Heap α)

def empty : Heap α := ⟨KeyTree.empty, 0, fun _ none => by simp [KeyTree.empty, KeyTree.keys] at none⟩

def read (address : Nat) : Option α := heap.cells.lookup address

def alloc (value : α) : Heap α where
  cells := heap.cells.insert heap.next value
  next := heap.next + 1
  bounded := by
    intro address member
    rcases mem_keys_insert member with rfl | old
    · omega
    · have := heap.bounded address old
      omega

def free (address : Nat) : Heap α where
  cells := heap.cells.remove address
  next := heap.next
  bounded := fun other member => heap.bounded other (mem_keys_remove member)

def write (address : Nat) (value : α) : Heap α where
  cells := heap.cells.map fun other old => if other = address then value else old
  next := heap.next
  bounded := by
    intro other member
    rw [keys_map] at member
    exact heap.bounded other member

variable {heap}

theorem read_lt_next {address : Nat} {value : α} (found : heap.read address = some value) :
    address < heap.next :=
  heap.bounded address (mem_keys_of_lookup found)

theorem read_alloc (value : α) (address : Nat) :
    (heap.alloc value).read address =
      if address = heap.next then some value else heap.read address :=
  lookup_insert _ _ _ _

theorem read_free (freed address : Nat) :
    (heap.free freed).read address = if address = freed then none else heap.read address :=
  lookup_remove _ _ _

theorem read_write (written : Nat) (value : α) (address : Nat) :
    (heap.write written value).read address =
      (heap.read address).map fun old => if address = written then value else old :=
  lookup_map _ _ _

end Heap

end Dbmail.Lib
