import Dbmail.Mailbox.State

/-!
Contract: which messages a set argument stands for.

Owns `checkset`, `find_modseq` and `dbmail_mailbox_get_set` (`dm_mailbox.c`) and
`MailboxState_get_set` with `find_range` (`dm_mailboxstate.c`).

Does not own: what a command does with the messages.
-/

namespace Dbmail.Mailbox

open Dbmail.Lib List

def checkset (set : Bytes) : Bool := set.all fun byte => (lit "0123456789:,*").contains byte

/-- `dm_strtoull` on text that `checkset` has accepted: the number, 0 when it is out
of range or missing, and the unread text. -/
def setNumber (text : Bytes) : Nat × Bytes :=
  let value := decimal (text.takeWhile isDigit)
  (if 2 ^ 63 ≤ value then 0 else value, text.dropWhile isDigit)

inductive SetPart where
  | range (first last : Nat)
  | stop
  | error
deriving DecidableEq, Repr

/-- The end of a range that began at `first`. -/
def rangeEnd (hi first : Nat) (rest : Bytes) : SetPart :=
  if rest.head? = some 58 then
    let rest := if 1 < rest.length then rest.drop 1 else rest
    if rest.head? = some 42 then
      if first = 0 ∨ hi = 0 then .stop else .range (min first hi) (max first hi)
    else
      let number := (setNumber rest).1
      if number = 0 then .error
      else
        let last := if number = 0xffffffff then hi else number
        if first = 0 ∨ last = 0 then .stop else .range (min first last) (max first last)
  else if first = 0 then .stop
  else .range first first

def setPart (lo hi : Nat) (uid : Bool) (part : Bytes) : SetPart :=
  if part = [] then .stop
  else if part.head? = some 42 then rangeEnd hi hi (if 1 < part.length then part.drop 1 else part)
  else
    let number := (setNumber part).1
    if number = 0 then .error
    else
      let first := if number = 0xffffffff then hi else number
      rangeEnd hi (if uid then first else max first lo) (setNumber part).2

/-- A part of a set over an empty mailbox is only looked at for its form. -/
def emptyPart (part : Bytes) : SetPart :=
  if part = [] then .stop
  else if part.head? = some 42 then .range 1 1
  else
    let number := (setNumber part).1
    let rest := (setNumber part).2
    if number = 0 then .error
    else if rest = [] then .range 1 1
    else if rest.head? ≠ some 58 then .error
    else if (rest.drop 1).head? ≠ some 42 ∧ (setNumber (rest.drop 1)).1 = 0 then .error
    else .range 1 1

namespace MailboxState

variable (state : MailboxState)

def findRange (uid : Bool) (first last : Nat) : List (Nat × Nat) :=
  (state.ids.map fun id => (id, state.msn id)).filter fun entry =>
    let number := if uid then entry.1 else entry.2
    first ≤ number && number ≤ last

/-- `g_tree_merge` with `IST_SUBSEARCH_OR`: keys that are there already stay. -/
def mergeOr (found : KeyTree Nat) (entries : List (Nat × Nat)) : KeyTree Nat :=
  entries.foldl (fun tree entry =>
    if (tree.lookup entry.1).isSome then tree else tree.insert entry.1 entry.2) found

/-- The loop over the parts; `none` is an error. -/
def getParts (state : MailboxState) (uid : Bool) : KeyTree Nat → List Bytes → Option (KeyTree Nat)
  | found, [] => some found
  | found, part :: rest =>
    if state.ids = [] then
      match emptyPart part with
      | .stop => some found
      | .error => none
      -- an entry is made up for a mailbox without messages
      | .range _ _ => getParts state uid (found.insert 1 state.uidnext) rest
    else
      let lo := if uid then state.ids.head?.getD 0 else 1
      let hi := if uid then state.ids.getLast?.getD 0 else state.getExists
      match setPart lo hi uid part with
      | .stop => some found
      | .error => none
      | .range first last =>
        getParts state uid (mergeOr found (state.findRange uid first last)) rest

/-- `MailboxState_get_set`. -/
def getSet (set : Bytes) (uid : Bool) : Option (KeyTree Nat) :=
  state.getParts uid .empty (if set = [] then [] else set.splitOn 44)

/-- The keys `filter_modseq` collects: a UID without a message ends its walk. -/
def staleKeys (state : MailboxState) (modseq : Nat) : List Nat → List Nat
  | [] => []
  | uid :: rest =>
    match state.msginfo.lookup uid with
    | none => []
    | some info =>
      if info.seq ≤ modseq then uid :: staleKeys state modseq rest
      else staleKeys state modseq rest

def findModseq (modseq : Nat) (found : KeyTree Nat) : KeyTree Nat :=
  if modseq = 0 then found else (state.staleKeys modseq found.keys).foldl KeyTree.remove found

/-- `dbmail_mailbox_get_set`, with the MODSEQ bound of the mailbox. -/
def mailboxGetSet (modseq : Nat) (set : Bytes) (uid : Bool) : Option (KeyTree Nat) :=
  if !uid ∧ state.ids = [] then none
  else if !checkset set then none
  else (state.getSet set uid).map (state.findModseq modseq)

/-! ## What a set reaches -/

variable {state : MailboxState}

variable {modseq : Nat} {uid : Bool} {found : KeyTree Nat}

theorem mem_keys_mergeOr {entries : List (Nat × Nat)} {key : Nat}
    (member : key ∈ (mergeOr found entries).keys) :
    key ∈ found.keys ∨ key ∈ entries.map Prod.fst := by
  induction entries generalizing found with
  | nil => exact .inl member
  | cons entry rest ih =>
    rcases ih member with earlier | later
    · dsimp only at earlier
      split at earlier
      · exact .inl earlier
      · rcases KeyTree.mem_keys_insert earlier with rfl | old
        · exact .inr mem_cons_self
        · exact .inl old
    · exact .inr (mem_cons_of_mem _ later)

theorem mem_ids_of_findRange {first last key : Nat}
    (member : key ∈ (state.findRange uid first last).map Prod.fst) : key ∈ state.ids := by
  obtain ⟨entry, inRange, rfl⟩ := mem_map.mp member
  obtain ⟨id, inIds, rfl⟩ := mem_map.mp (mem_of_mem_filter inRange)
  exact inIds

variable {good : Nat → Prop} (made : state.ids = [] → good 1) (listed : ∀ key ∈ state.ids, good key)

include made listed in
/-- Every part adds UIDs of messages only, and over an empty mailbox the same entry. -/
theorem getParts_keys {parts : List Bytes} {start found : KeyTree Nat}
    (ran : state.getParts uid start parts = some found)
    (within : ∀ key ∈ start.keys, good key) : ∀ key ∈ found.keys, good key := by
  induction parts generalizing start with
  | nil =>
    cases ran
    exact within
  | cons part rest ih =>
    rw [getParts] at ran
    split at ran
    · rename_i none
      split at ran
      · cases ran
        exact within
      · cases ran
      · apply ih ran
        intro key member
        rcases KeyTree.mem_keys_insert member with rfl | earlier
        · exact made none
        · exact within key earlier
    · dsimp only at ran
      split at ran
      · cases ran
        exact within
      · cases ran
      · apply ih ran
        intro key member
        rcases mem_keys_mergeOr member with earlier | found
        · exact within key earlier
        · exact listed key (mem_ids_of_findRange found)

include made listed in
theorem getSet_keys {set : Bytes} (ran : state.getSet set uid = some found) :
    ∀ key ∈ found.keys, good key :=
  getParts_keys made listed ran (by simp [KeyTree.keys, KeyTree.empty])

theorem mem_keys_findModseq {key : Nat}
    (member : key ∈ (state.findModseq modseq found).keys) : key ∈ found.keys := by
  unfold findModseq at member
  split at member
  · exact member
  · generalize state.staleKeys modseq found.keys = stale at member
    induction stale generalizing found with
    | nil => exact member
    | cons uid rest ih =>
      exact KeyTree.mem_keys_remove (ih member)

include made listed in
theorem mailboxGetSet_within {set : Bytes}
    (ran : state.mailboxGetSet modseq set uid = some found) : ∀ key ∈ found.keys, good key := by
  unfold mailboxGetSet at ran
  split at ran
  · cases ran
  split at ran
  · cases ran
  obtain ⟨whole, parsed, rfl⟩ := Option.map_eq_some_iff.mp ran
  exact fun key member => getSet_keys made listed parsed key (mem_keys_findModseq member)

theorem mailboxGetSet_keys {set : Bytes} (some_ : state.ids ≠ [])
    (ran : state.mailboxGetSet modseq set uid = some found) :
    ∀ key ∈ found.keys, key ∈ state.ids :=
  mailboxGetSet_within (fun none => absurd none some_) (fun _ member => member) ran

/-- A set over an empty mailbox has at most one entry. -/
theorem mailboxGetSet_single {set : Bytes} (none : state.ids = [])
    (ran : state.mailboxGetSet modseq set uid = some found) : found.keys.length ≤ 1 := by
  have single : ∀ key ∈ found.keys, key = 1 :=
    mailboxGetSet_within (fun _ => rfl) (by simp [none]) ran
  have distinct : found.keys.Nodup := found.sorted.imp Nat.ne_of_lt
  rw [eq_replicate_of_mem single] at distinct
  exact nodup_replicate.mp distinct

/-- Without messages a UID set stands for an entry that is made up. -/
example : ((blank 3).mailboxGetSet 0 (lit "5") true).map KeyTree.keys = some [1] := by decide

end MailboxState

end Dbmail.Mailbox
