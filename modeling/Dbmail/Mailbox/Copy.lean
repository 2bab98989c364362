import Dbmail.Mailbox.Sets
import Dbmail.Mailbox.TreeMerge

/-!
Contract: COPY and the UIDs it reports.

Owns `_do_copy` and `_ic_copy_enter` (`imapcommands.c`) for every combination of the
results of `db_copymsg`, and when a COPY is all or nothing with a faithful COPYUID.

Does not own: `db_copymsg` itself, lookups that fail, and the refresh of the selected
mailbox, which prints untagged responses only.
-/

namespace Dbmail.Mailbox

open Dbmail.Lib List

/-! ## The command -/

/-- The results of `db_copymsg`: a copy with its UID, -1 and -2. -/
inductive CopyResult where
  | copied (uid : Nat)
  | missing
  | overQuota
deriving DecidableEq, Repr

inductive CopyReply where
  | no (text : Bytes)
  | bad (text : Bytes)
  | ok (mailbox : Nat) (source copies : List Nat)
deriving DecidableEq, Repr

/-- The command: the destination that was found, whether the checks on both mailboxes
pass, and the set. -/
structure CopyCommand where
  destination : Option Nat
  readable : Bool
  insertable : Bool
  set : Bytes
  uid : Bool

/-- What the walk over the messages builds up: `self->new_ids`, last first, the messages
that are new in the destination with their originals, and whether a copy was refused. -/
structure Copying where
  newIds : List Nat
  inserted : List (Nat × Nat)
  refused : Bool

/-- `_do_copy`. -/
def copyVisit (state : MailboxState) (results : Nat → CopyResult) (copying : Copying) (uid : Nat) :
    Copying × Bool :=
  match state.msginfo.lookup uid with
  | none => (copying, false)
  | some _ =>
    match results uid with
    | .missing => (copying, false)
    | .overQuota => ({ copying with refused := true }, true)
    | .copied copy =>
      ({ copying with
        newIds := copy :: copying.newIds
        inserted := copying.inserted ++ [(uid, copy)] }, false)

structure CopyOutcome where
  replies : List CopyReply
  inserted : List (Nat × Nat)

section Command

variable (state : MailboxState) (modseq : Nat) (results : Nat → CopyResult) (command : CopyCommand)

/-- `_dm_imapsession_get_ids`: an empty set of MSNs is refused, one of UIDs is not. -/
def copyIds : Option (List Nat) :=
  match state.mailboxGetSet modseq command.set command.uid with
  | none => none
  | some found => if !command.uid ∧ found.keys = [] then none else some found.keys

def icCopyEnter : CopyOutcome :=
  match command.destination with
  | none => ⟨[.no (lit "[TRYCREATE] specified mailbox does not exist")], []⟩
  | some mailbox =>
    if !command.readable ∨ !command.insertable then ⟨[.no (lit "permission denied")], []⟩
    else match copyIds state modseq command with
      | none =>
        ⟨[.bad (lit "invalid sequence in " ++ (if command.uid then lit "uid" else lit "msn") ++
          lit " set [" ++ command.set ++ lit "]")], []⟩
      | some keys =>
        let copying := walk (copyVisit state results) ⟨[], [], false⟩ keys
        -- the command is completed after a refusal as well
        ⟨(if copying.refused then [.no (lit "quota would be exceeded")] else []) ++
          [.ok mailbox keys copying.newIds.reverse], copying.inserted⟩

/-! ## All or nothing -/

/-- The messages that the set stands for, whatever bound an earlier command has left. -/
def addressed : List Nat := ((state.mailboxGetSet 0 command.set command.uid).map KeyTree.keys).getD []

/-- One tagged response; with OK every addressed message has been copied, and the copies
are reported in the order of their originals; with NO nothing has. -/
structure CopyExact : Prop where
  once : (icCopyEnter state modseq results command).replies.length = 1
  faithful : ∀ mailbox source copies,
    .ok mailbox source copies ∈ (icCopyEnter state modseq results command).replies →
      source = addressed state command ∧ source.length = copies.length ∧
        ∀ pair ∈ source.zip copies, pair ∈ (icCopyEnter state modseq results command).inserted
  nothing : ∀ text, .no text ∈ (icCopyEnter state modseq results command).replies →
    (icCopyEnter state modseq results command).inserted = []

def Copies (uid : Nat) : Prop :=
  uid ∈ state.msginfo.keys ∧ ∃ copy, results uid = .copied copy

/-- The message is newer than the bound, if there is one. -/
def Unbounded (uid : Nat) : Prop :=
  modseq ≠ 0 → ∀ info, state.msginfo.lookup uid = some info → modseq < info.seq

/-- The walk is not reached, or every message of the set is cached, is not held back by the
bound, and gets copied. -/
def CopyComplete : Prop :=
  command.destination ≠ none → command.readable = true → command.insertable = true →
    copyIds state modseq command ≠ none → ∀ uid ∈ addressed state command,
      Copies state results uid ∧ Unbounded state modseq uid

end Command

/-! ## The walk -/

section Walk

variable {state : MailboxState} {results : Nat → CopyResult}

theorem copyVisit_copies {copying : Copying} {uid copy : Nat} (cached : uid ∈ state.msginfo.keys)
    (copied : results uid = .copied copy) :
    copyVisit state results copying uid =
      ({ copying with
        newIds := copy :: copying.newIds
        inserted := copying.inserted ++ [(uid, copy)] }, false) := by
  obtain ⟨info, isInfo⟩ := KeyTree.exists_lookup cached
  rw [copyVisit, isInfo]
  rw [copied]

theorem copyVisit_passes {copying : Copying} {uid : Nat} (not : ¬ Copies state results uid) :
    (copyVisit state results copying uid).1.newIds = copying.newIds := by
  unfold copyVisit
  cases cached : state.msginfo.lookup uid with
  | none => rfl
  | some info =>
    cases result : results uid with
    | copied copy => exact absurd ⟨KeyTree.mem_keys_of_lookup cached, copy, result⟩ not
    | missing | overQuota => rfl

/-- The walk reports no more copies than there are messages, and as many only when it has
copied every one. -/
theorem copyWalk_atMost (keys : List Nat) (before : Copying) :
    ∃ added : List Nat,
      (walk (copyVisit state results) before keys).newIds = added ++ before.newIds ∧
      added.length ≤ keys.length ∧
      (added.length = keys.length → ∀ uid ∈ keys, Copies state results uid) := by
  induction keys generalizing before with
  | nil => exact ⟨[], by simp [walk]⟩
  | cons uid rest ih =>
    rw [walk]
    by_cases copies : Copies state results uid
    · obtain ⟨copy, copied⟩ := copies.2
      rw [copyVisit_copies copies.1 copied]
      dsimp only
      rw [if_neg (by decide)]
      obtain ⟨added, newIds, atMost, complete⟩ := ih
        { before with
          newIds := copy :: before.newIds
          inserted := before.inserted ++ [(uid, copy)] }
      refine ⟨added ++ [copy], by rw [newIds]; simp, by simpa using atMost, ?_⟩
      intro same other member
      rcases mem_cons.mp member with rfl | later
      · exact copies
      · exact complete (by simpa using same) other later
    · have newIds : (copyVisit state results before uid).1.newIds = before.newIds :=
        copyVisit_passes copies
      split
      · exact ⟨[], by simp [newIds]⟩
      · obtain ⟨added, newIdsRest, atMost, _⟩ :=
          ih (copyVisit state results before uid).1
        refine ⟨added, by rw [newIdsRest, newIds], ?_, ?_⟩
        · rw [length_cons]
          omega
        · intro same
          rw [length_cons] at same
          omega

/-- When everything gets copied, every message is reported with its copy. -/
theorem copyWalk_complete {keys : List Nat} (all : ∀ uid ∈ keys, Copies state results uid)
    (before : Copying) :
    ∃ pairs : List (Nat × Nat), pairs.map Prod.fst = keys ∧
      (walk (copyVisit state results) before keys).inserted = before.inserted ++ pairs ∧
      (walk (copyVisit state results) before keys).newIds =
        (pairs.map Prod.snd).reverse ++ before.newIds ∧
      (walk (copyVisit state results) before keys).refused = before.refused := by
  induction keys generalizing before with
  | nil => exact ⟨[], rfl, by simp [walk], by simp [walk], rfl⟩
  | cons uid rest ih =>
    obtain ⟨cached, copy, copied⟩ := all uid mem_cons_self
    obtain ⟨pairs, originals, inserted, newIds, refused⟩ := ih
      (fun other member => all other (mem_cons_of_mem _ member))
      { before with
        newIds := copy :: before.newIds
        inserted := before.inserted ++ [(uid, copy)] }
    refine ⟨(uid, copy) :: pairs, by simp [originals], ?_, ?_, ?_⟩
    all_goals
      rw [walk, copyVisit_copies cached copied]
      dsimp only
      rw [if_neg (by decide)]
    · rw [inserted, append_assoc]
      rfl
    · rw [newIds]
      simp
    · exact refused

end Walk

/-! ## The bound -/

section Bound

variable {state : MailboxState} {modseq : Nat}

/-- Among cached messages the bound collects those that are not newer. -/
theorem mem_staleKeys_iff {keys : List Nat} (cached : ∀ uid ∈ keys, uid ∈ state.msginfo.keys)
    {uid : Nat} : uid ∈ state.staleKeys modseq keys ↔
      uid ∈ keys ∧ ∃ info, state.msginfo.lookup uid = some info ∧ info.seq ≤ modseq := by
  induction keys with
  | nil => simp [MailboxState.staleKeys]
  | cons head rest ih =>
    obtain ⟨info, isInfo⟩ := KeyTree.exists_lookup (cached head mem_cons_self)
    rw [MailboxState.staleKeys, isInfo]
    dsimp only
    split
    · rw [mem_cons, mem_cons, ih fun other member => cached other (mem_cons_of_mem _ member)]
      grind
    · rw [mem_cons, ih fun other member => cached other (mem_cons_of_mem _ member)]
      grind

/-- The bound takes out none of the cached messages exactly when all are newer. -/
theorem findModseq_keys_iff {found : KeyTree Nat}
    (cached : ∀ uid ∈ found.keys, uid ∈ state.msginfo.keys) :
    (state.findModseq modseq found).keys = found.keys ↔
      ∀ uid ∈ found.keys, Unbounded state modseq uid := by
  unfold MailboxState.findModseq
  split
  · next none => simp [Unbounded, none]
  · next bounded =>
    constructor
    · intro same uid member _ info isInfo
      rw [← same] at member
      obtain ⟨value, isValue⟩ := KeyTree.exists_lookup member
      rw [TreeMerge.lookup_removeAll] at isValue
      split at isValue
      · cases isValue
      · next fresh =>
        rw [same] at member
        by_contra old
        exact fresh ((mem_staleKeys_iff cached).mpr ⟨member, info, isInfo, by omega⟩)
    · intro unbounded
      have nothing : state.staleKeys modseq found.keys = [] := by
        apply eq_nil_iff_forall_not_mem.mpr
        intro uid stale
        obtain ⟨member, info, isInfo, old⟩ := (mem_staleKeys_iff cached).mp stale
        have newer := unbounded uid member bounded info isInfo
        omega
      rw [nothing]
      rfl

/-- A set that is accepted is walked from what it stands for, with the bound. -/
theorem copyIds_eq_some {command : CopyCommand} {keys : List Nat}
    (isKeys : copyIds state modseq command = some keys) :
    ∃ found, addressed state command = found.keys ∧ keys = (state.findModseq modseq found).keys := by
  unfold copyIds MailboxState.mailboxGetSet at isKeys
  unfold addressed MailboxState.mailboxGetSet
  split_ifs at isKeys ⊢ with empty bad
  cases resolved : state.getSet command.set command.uid with
  | none => simp [resolved] at isKeys
  | some found =>
    refine ⟨found, rfl, ?_⟩
    rw [resolved] at isKeys
    dsimp only [Option.map_some] at isKeys
    split at isKeys
    · cases isKeys
    · exact (Option.some.inj isKeys).symm

end Bound

/-- A COPY is refused before its walk, or answers what the walk has built up. -/
theorem icCopyEnter_cases (state : MailboxState) (modseq : Nat) (results : Nat → CopyResult)
    (command : CopyCommand) :
    (∃ reply, icCopyEnter state modseq results command = ⟨[reply], []⟩ ∧
        (∀ mailbox source copies, reply ≠ .ok mailbox source copies) ∧
        CopyComplete state modseq results command) ∨
      ∃ mailbox keys, copyIds state modseq command = some keys ∧
        (let copying := walk (copyVisit state results) ⟨[], [], false⟩ keys
        icCopyEnter state modseq results command =
          ⟨(if copying.refused then [.no (lit "quota would be exceeded")] else []) ++
            [.ok mailbox keys copying.newIds.reverse], copying.inserted⟩) ∧
        (CopyComplete state modseq results command ↔ ∀ uid ∈ addressed state command,
          Copies state results uid ∧ Unbounded state modseq uid) := by
  unfold icCopyEnter CopyComplete
  cases command.destination with
  | none => exact .inl ⟨_, rfl, nofun, fun found => absurd rfl found⟩
  | some mailbox =>
    dsimp only
    split
    · next denied => exact .inl ⟨_, rfl, nofun, fun _ readable => by simp_all⟩
    · next allowed =>
      cases copyIds state modseq command with
      | none => exact .inl ⟨_, rfl, nofun, nofun⟩
      | some keys => exact .inr ⟨mailbox, keys, rfl, rfl, by simp_all⟩

/-- A COPY is all or nothing with a faithful COPYUID exactly when its walk, if it comes to
it, copies every message of the set. -/
theorem copyExact_iff (state : MailboxState) (modseq : Nat) (results : Nat → CopyResult)
    (command : CopyCommand) :
    CopyExact state modseq results command ↔ CopyComplete state modseq results command := by
  obtain ⟨reply, entered, refused, complete⟩ | ⟨mailbox, keys, isKeys, entered, complete⟩ :=
    icCopyEnter_cases state modseq results command
  · refine iff_of_true ⟨by rw [entered]; rfl, ?_, fun _ _ => by rw [entered]⟩ complete
    intro mailbox source copies member
    rw [entered, mem_singleton] at member
    exact absurd member.symm (refused mailbox source copies)
  obtain ⟨found, isFound, bounded⟩ := copyIds_eq_some isKeys
  rw [complete]
  constructor
  · intro exactly
    obtain ⟨added, newIds, _, whole⟩ := @copyWalk_atMost state results keys ⟨[], [], false⟩
    obtain ⟨same, sameLength, _⟩ := exactly.faithful mailbox keys
      (walk (copyVisit state results) ⟨[], [], false⟩ keys).newIds.reverse (by rw [entered]; simp)
    have reported : added.length = keys.length := by
      rw [newIds] at sameLength
      simpa using sameLength.symm
    have copies := whole reported
    rw [same, isFound] at copies
    have unbounded := (findModseq_keys_iff fun uid member => (copies uid member).1).mp
      (bounded.symm.trans (same.trans isFound))
    rw [isFound]
    exact fun uid member => ⟨copies uid member, unbounded uid member⟩
  · intro all
    have same : keys = addressed state command := by
      rw [isFound] at all ⊢
      rw [bounded]
      exact (findModseq_keys_iff fun uid member => (all uid member).1.1).mpr
        fun uid member => (all uid member).2
    obtain ⟨pairs, originals, inserted, newIds, refused⟩ :=
      copyWalk_complete (fun uid member => (all uid (same ▸ member)).1) ⟨[], [], false⟩
    have answered : icCopyEnter state modseq results command =
        ⟨[.ok mailbox keys (pairs.map Prod.snd)], pairs⟩ := by
      rw [entered, refused, inserted, newIds]
      simp
    refine ⟨by rw [answered]; rfl, ?_, by rw [answered]; simp⟩
    intro other source copies member
    rw [answered, mem_singleton] at member
    cases member
    refine ⟨same, by rw [← originals]; simp, ?_⟩
    intro pair inZip
    rw [answered]
    rwa [← originals, ← unzip_fst, ← unzip_snd, zip_unzip] at inZip

/-! ## A copy that does not fit -/

def copySource : MailboxState :=
  MailboxState.new {}
    ⟨some ⟨3, 2⟩, [⟨4, .seen, {}, 2, []⟩, ⟨7, .seen, {}, 1, []⟩], by decide, by decide⟩ 1

/-- `COPY 1:2`, with room for the first message only: the second one is refused with NO,
and the command is completed. -/
theorem copy_answered_twice :
    ¬ CopyExact copySource 0 (fun uid => if uid = 4 then .copied 12 else .overQuota)
      ⟨some 9, true, true, lit "1:2", false⟩ := by
  intro exactly
  have twice : (icCopyEnter copySource 0 (fun uid => if uid = 4 then .copied 12 else .overQuota)
      ⟨some 9, true, true, lit "1:2", false⟩).replies.length = 2 := by decide +kernel
  have once := exactly.once
  cases once

end Dbmail.Mailbox
