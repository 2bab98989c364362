import Dbmail.Mailbox.Commands
import Dbmail.Mailbox.SetMeaning

/-!
Contract: the EXPUNGE of a session in its own mailbox, as its client follows it.

Owns `_do_expunge` with the line that `notify_expunge` writes for it, what a
client makes of the lines of `dbmail_imap_session_mailbox_expunge`, and the
messages whose status changes in the tables.

Does not own: the grammar of a message set, quota, and failing queries besides
the UPDATE of a message.
-/

namespace Dbmail.Mailbox

open Dbmail.Lib Dbmail.Imap List

/-! ## The command -/

/-- An EXPUNGE under way: the tables, the state of the session and the lines written. -/
structure Expunging where
  tables : Tables
  state : MailboxState
  sent : List Response

/-- `_do_expunge` with its line. -/
def doExpungeSending (viewer : Viewer) (updated : Nat → Bool) (expunging : Expunging) (uid : Nat) :
    Expunging :=
  match expunging.state.msginfo.lookup uid with
  | none => expunging
  | some info =>
    if !info.flags.deleted then expunging
    else
      let notify := notifyExpunge viewer ⟨expunging.state, expunging.state, expunging.sent⟩ uid
      ⟨if updated uid then expunging.tables.setMessageStatus uid .delete else expunging.tables,
        notify.old, notify.sent⟩

/-- `dbmail_imap_session_mailbox_expunge` with its lines. -/
def sessionMailboxExpunge (conf : ServerConf) (viewer : Viewer) (tables : Tables)
    (state : MailboxState) (command : ExpungeCommand) : Expunging :=
  if state.ids = [] then ⟨tables, state, []⟩
  else
    let expunged := (expungeTargets state command).foldl (doExpungeSending viewer command.updated)
      ⟨tables, state, []⟩
    { expunged with
      tables := if expunged.state.ids.length < state.ids.length then
          (expunged.tables.mailboxSeqUpdate conf.store.seqStrategy state.id 0).1
        else expunged.tables }

def MailboxState.flaggedDeleted (state : MailboxState) (uid : Nat) : Bool :=
  (state.msginfo.lookup uid).any fun info => info.flags.deleted

section Walk

variable {viewer : Viewer} {updated : Nat → Bool} {tables : Tables} {start : MailboxState}
  {gone : Nat → Bool} {expunging : Expunging} {uid : Nat}

theorem doExpungeSending_visits (speaks : viewer.withholds = false) :
    ((doExpungeSending viewer updated expunging uid).tables,
        (doExpungeSending viewer updated expunging uid).state) =
      expungeVisit updated (expunging.tables, expunging.state) uid := by
  unfold doExpungeSending expungeVisit
  cases found : expunging.state.msginfo.lookup uid with
  | none => rfl
  | some info =>
    dsimp only
    split
    · rfl
    · simp only [notifyExpunge, speaks, MailboxState.removeUid, found]
      congr 1
      split <;> rfl

/-- The lines apart, this is what the command writes. -/
theorem sessionMailboxExpunge_writes (conf : ServerConf) (speaks : viewer.withholds = false)
    (command : ExpungeCommand) :
    ((sessionMailboxExpunge conf viewer tables start command).tables,
        (sessionMailboxExpunge conf viewer tables start command).state) =
      mailboxExpunge conf tables start command := by
  have walked (uids : List Nat) (expunging : Expunging) :
      ((uids.foldl (doExpungeSending viewer command.updated) expunging).tables,
          (uids.foldl (doExpungeSending viewer command.updated) expunging).state) =
        uids.foldl (expungeVisit command.updated) (expunging.tables, expunging.state) := by
    induction uids generalizing expunging with
    | nil => rfl
    | cons uid rest ih => rw [foldl_cons, foldl_cons, ih, doExpungeSending_visits speaks]
  unfold sessionMailboxExpunge mailboxExpunge
  split
  · rfl
  · rw [← walked _ ⟨tables, start, []⟩]

/-! ## The walk over the messages -/

/-- Between two visits: the messages that are gone are those that the client has
deleted from its list and that are marked in the tables. -/
structure Followed (tables : Tables) (start : MailboxState) (gone : Nat → Bool)
    (expunging : Expunging) : Prop where
  source : expunging.state.ids = expunging.state.msginfo.keysWhere MessageInfo.live
  view : replayAll (viewOf start.ids 0) expunging.sent = viewOf expunging.state.ids 0
  ids : expunging.state.ids = start.ids.filter fun uid => !gone uid
  flags : ∀ uid, expunging.state.flaggedDeleted uid = start.flaggedDeleted uid
  status : ∀ uid, expunging.tables.messages.lookup uid =
    (tables.messages.lookup uid).map fun message =>
      if gone uid then { message with status := .delete } else message

theorem Followed.congr {other : Nat → Bool} (followed : Followed tables start gone expunging)
    (same : ∀ uid, other uid = gone uid) : Followed tables start other expunging := by
  rwa [funext same]

theorem removeUid_flaggedDeleted {state removed : MailboxState}
    (removes : state.removeUid uid = some removed) (other : Nat) :
    removed.flaggedDeleted other = state.flaggedDeleted other := by
  unfold MailboxState.removeUid at removes
  cases found : state.msginfo.lookup uid with
  | none => simp [found] at removes
  | some info =>
    simp only [found, Option.some.injEq] at removes
    subst removes
    show ((state.msginfo.insert uid _).lookup other).any _ = _
    rw [KeyTree.lookup_insert]
    unfold MailboxState.flaggedDeleted
    split
    · rename_i same
      subst same
      simp [found]
    · rfl

theorem Followed.visit (followed : Followed tables start gone expunging)
    (sorted : start.ids.Pairwise (· < ·)) (speaks : viewer.withholds = false)
    (succeeds : updated uid = true) (known : uid ∈ start.ids) :
    Followed tables start (fun other => gone other || (other == uid && start.flaggedDeleted other))
      (doExpungeSending viewer updated expunging uid) := by
  have flagged := followed.flags uid
  cases isFlagged : start.flaggedDeleted uid with
  | false =>
    have idle : doExpungeSending viewer updated expunging uid = expunging := by
      rw [isFlagged, MailboxState.flaggedDeleted] at flagged
      unfold doExpungeSending
      split
      · rfl
      · rename_i info found
        rw [found] at flagged
        exact if_pos (by simpa using flagged)
    rw [idle]
    apply followed.congr
    intro other
    by_cases same : other = uid
    · simp [same, isFlagged]
    · simp [same]
  | true =>
    obtain ⟨info, found, deleted⟩ : ∃ info, expunging.state.msginfo.lookup uid = some info ∧
        info.flags.deleted = true := by
      rw [isFlagged, MailboxState.flaggedDeleted] at flagged
      simpa [Option.any_eq_true] using flagged
    unfold doExpungeSending
    simp only [found, deleted, succeeds, Bool.not_true, Bool.false_eq_true, if_false, if_true]
    have status (other : Nat) : (expunging.tables.setMessageStatus uid .delete).messages.lookup
        other = (tables.messages.lookup other).map fun message =>
          if gone other || (other == uid && start.flaggedDeleted other) then
            { message with status := .delete } else message := by
      rw [Tables.setMessageStatus, Tables.lookup_update, followed.status, Option.map_map]
      congr 1
      funext message
      by_cases same : other = uid
      · subst same
        cases gone other <;> simp [isFlagged]
      · cases gone other <;> simp [same]
    by_cases member : uid ∈ expunging.state.ids
    · obtain ⟨removed, removes, filtered, remapped⟩ :=
        MailboxState.removeUid_of_mem followed.source member
      simp only [notifyExpunge, member, if_true, speaks, Bool.false_eq_true, if_false, removes]
      have sortedIds : expunging.state.ids.Pairwise (· < ·) := by
        rw [followed.ids]
        exact sorted.filter _
      refine ⟨remapped, ?_, ?_, fun other => ?_, status⟩
      · rw [replayAll_append, followed.view, filtered]
        exact replay_expunge (sortedIds.imp Nat.ne_of_lt) member 0
      · rw [filtered, followed.ids, filter_filter]
        apply filter_congr
        intro other _
        by_cases same : other = uid
        · subst same
          simp [isFlagged]
        · have different : (other == uid) = false := by simpa using same
          simp [bne, different]
      · rw [removeUid_flaggedDeleted removes, followed.flags]
    · -- the message is gone already
      simp only [notifyExpunge, member, if_false]
      have isGone : gone uid = true := by
        rw [followed.ids] at member
        simpa [known] using member
      refine ⟨followed.source, followed.view, ?_, followed.flags, status⟩
      rw [followed.ids]
      apply filter_congr
      intro other _
      by_cases same : other = uid
      · simp [same, isGone]
      · simp [same]

theorem Followed.walk (sorted : start.ids.Pairwise (· < ·)) (speaks : viewer.withholds = false)
    (succeeds : ∀ uid, updated uid = true) {uids : List Nat} (known : ∀ uid ∈ uids, uid ∈ start.ids)
    (followed : Followed tables start gone expunging) :
    Followed tables start (fun other => gone other || (uids.contains other &&
      start.flaggedDeleted other)) (uids.foldl (doExpungeSending viewer updated) expunging) := by
  induction uids generalizing gone expunging with
  | nil =>
    apply followed.congr
    simp
  | cons uid rest ih =>
    rw [forall_mem_cons] at known
    apply (ih known.2 (followed.visit sorted speaks (succeeds uid) known.1)).congr
    intro other
    by_cases same : other = uid <;> cases gone other <;> simp [same]

end Walk

/-! ## The whole command -/

theorem expungeTargets_inside {state : MailboxState} (inhabited : state.ids ≠ [])
    (command : ExpungeCommand) : ∀ uid ∈ expungeTargets state command, uid ∈ state.ids := by
  intro uid member
  unfold expungeTargets at member
  rw [mem_reverse] at member
  cases given : command.set with
  | none =>
    rw [given] at member
    exact member
  | some set =>
    simp only [given] at member
    cases found : state.mailboxGetSet command.modseq set command.uid with
    | none => simp [found] at member
    | some keys =>
      rw [found] at member
      exact MailboxState.mailboxGetSet_keys inhabited found uid member

/-- What a command names: a sequence set of UIDs, or nothing for the whole mailbox. -/
def Named (state : MailboxState) (set : Option (List SeqElement)) (uid : Nat) : Prop :=
  ∀ elements, set = some elements → ∃ element ∈ elements, element.Covers (state.largest true) uid

def expungeCommand (set : Option (List SeqElement)) (modseq : Nat) (updated : Nat → Bool) :
    ExpungeCommand :=
  ⟨set.map sequenceSet, modseq, true, updated⟩

section Sets

variable {state : SessionMailbox} (inhabited : state.ids ≠ [])
  (positive : ∀ uid ∈ state.ids, 0 < uid) (set : Option (List SeqElement)) (modseq : Nat)

theorem largest_eq : state.toMailboxState.largest true = state.ids.getLast inhabited := by
  have numbers : state.ids.map (state.toMailboxState.numberOf true) = state.ids := by
    rw [show state.toMailboxState.numberOf true = id from rfl, map_id]
  rw [MailboxState.largest, numbers]
  exact MailboxState.foldr_max_eq_of_mem (getLast_mem inhabited) fun uid member =>
    MailboxState.le_getLast_of_sorted state.held.ids_sorted inhabited member

include inhabited positive

/-- The walk goes over the messages of the set that are newer than the bound which the mailbox
object has from an earlier command. -/
theorem mem_expungeTargets (updated : Nat → Bool) (uid : Nat) :
    uid ∈ expungeTargets state.toMailboxState (expungeCommand set modseq updated) ↔
      uid ∈ state.ids ∧ Named state.toMailboxState set uid ∧
        (set ≠ none → ¬ state.toMailboxState.Stale modseq uid) := by
  unfold expungeTargets expungeCommand
  rw [mem_reverse]
  cases set with
  | none => simp [Named]
  | some elements =>
    have isLast : state.ids.getLast?.getD 0 = state.ids.getLast inhabited := by
      rw [List.getLast?_eq_some_getLast inhabited]
      rfl
    obtain ⟨found, ran, lookups⟩ := @MailboxState.getParts_resolves state.toMailboxState true elements
      (state.ids.getLast inhabited) inhabited isLast (positive _ (getLast_mem inhabited)) .empty
    have resolved : state.toMailboxState.mailboxGetSet modseq (sequenceSet elements) true =
        some (state.toMailboxState.findModseq modseq found) := by
      rw [MailboxState.mailboxGetSet, if_neg (by simp), if_neg (by simp [MailboxState.checkset_sequenceSet]),
        MailboxState.getSet, sequenceSet_parts, ran]
      rfl
    have inSet (key : Nat) : (found.lookup key).isSome = true ↔
        key ∈ state.ids ∧ Named state.toMailboxState (some elements) key := by
      rw [lookups key, KeyTree.lookup_empty, Option.none_or, Named]
      simp only [Option.some.injEq, forall_eq', largest_eq inhabited]
      split
      · next there => exact iff_of_true rfl there
      · next missing => exact iff_of_false Bool.false_ne_true missing
    have known : ∀ key ∈ found.keys, key ∈ state.msginfo.keys := by
      intro key member
      rw [← KeyTree.lookup_isSome_iff] at member
      exact state.held.mem_keys ((inSet key).mp member).1
    simp only [Option.map_some, resolved, Option.getD_some, ← KeyTree.lookup_isSome_iff]
    rw [findModseq_isSome known, inSet, and_assoc]
    simp

end Sets

/-- The lines of an EXPUNGE lead a client that holds the UID list in the order of
the MSNs to the list of the session, from which exactly these messages are missing, and exactly
these are marked in the tables. -/
structure Replayed (state : MailboxState) (tables : Tables) (removed : Nat → Prop)
    (expunged : Expunging) : Prop where
  view : replayAll (state.ids.map some) expunged.sent = expunged.state.ids.map some
  ids : ∀ uid, uid ∈ expunged.state.ids ↔ uid ∈ state.ids ∧ ¬ removed uid
  sorted : expunged.state.ids.Sublist state.ids
  marked : ∀ uid, (removed uid ∧ uid ∈ state.ids → expunged.tables.messages.lookup uid =
      (tables.messages.lookup uid).map fun message => { message with status := .delete }) ∧
    (¬ (removed uid ∧ uid ∈ state.ids) →
      expunged.tables.messages.lookup uid = tables.messages.lookup uid)

theorem expunge_replayed (conf : ServerConf) (viewer : Viewer) (tables : Tables)
    (state : SessionMailbox) (command : ExpungeCommand)
    (expunges : viewer.commandType ∈ [some .expunge, some .close, some .uid])
    (succeeds : ∀ uid, command.updated uid = true) :
    Replayed state.toMailboxState tables (fun uid =>
        uid ∈ expungeTargets state.toMailboxState command ∧ state.flaggedDeleted uid = true)
      (sessionMailboxExpunge conf viewer tables state.toMailboxState command) := by
  have speaks : viewer.withholds = false := by
    simp only [mem_cons, not_mem_nil, or_false] at expunges
    rcases expunges with is | is | is <;> simp [Viewer.withholds, is]
  by_cases empty : state.ids = []
  · have nothing : sessionMailboxExpunge conf viewer tables state.toMailboxState command =
        ⟨tables, state.toMailboxState, []⟩ := if_pos empty
    rw [nothing]
    exact ⟨rfl, by simp [empty], Sublist.refl _, fun uid => ⟨by simp [empty], fun _ => rfl⟩⟩
  have inside := expungeTargets_inside empty command
  have begun : Followed tables state.toMailboxState (fun _ => false)
      ⟨tables, state.toMailboxState, []⟩ :=
    ⟨state.held.ids_eq, rfl, by simp, fun _ => rfl, by simp⟩
  have followed := Followed.walk state.held.ids_sorted speaks succeeds inside begun
  generalize walked : (expungeTargets state.toMailboxState command).foldl
    (doExpungeSending viewer command.updated) ⟨tables, state.toMailboxState, []⟩ = after at followed
  have same : (sessionMailboxExpunge conf viewer tables state.toMailboxState command).state =
        after.state ∧
      (sessionMailboxExpunge conf viewer tables state.toMailboxState command).sent = after.sent ∧
      (sessionMailboxExpunge conf viewer tables state.toMailboxState command).tables.messages =
        after.tables.messages := by
    simp only [sessionMailboxExpunge, if_neg empty, walked, Tables.mailboxSeqUpdate, true_and]
    split_ifs <;> rfl
  obtain ⟨sameState, sameSent, sameMessages⟩ := same
  refine ⟨?_, fun uid => ?_, ?_, fun uid => ?_⟩
  · have view := followed.view
    rw [sameState, sameSent]
    simpa [viewOf] using view
  · rw [sameState, followed.ids, mem_filter]
    simp [imp_iff_not_or]
  · rw [sameState, followed.ids]
    exact filter_sublist
  · rw [sameMessages, followed.status]
    constructor
    · rintro ⟨⟨target, flagged⟩, -⟩
      simp [target, flagged]
    · intro kept
      have stays : ¬ (uid ∈ expungeTargets state.toMailboxState command ∧
          state.flaggedDeleted uid = true) := fun gone => kept ⟨gone, inside uid gone.1⟩
      simp [stays]

/-- A client can replay the EXPUNGE, with exactly the flagged messages of the set removed, unless
one of them is hidden by a MODSEQ bound that an earlier command has left on the mailbox. -/
theorem expunge_replayable_iff (conf : ServerConf) (viewer : Viewer) (tables : Tables)
    (state : SessionMailbox) (set : Option (List SeqElement)) (modseq : Nat) (updated : Nat → Bool)
    (expunges : viewer.commandType ∈ [some .expunge, some .close, some .uid])
    (succeeds : ∀ uid, updated uid = true) (positive : ∀ uid ∈ state.ids, 0 < uid) :
    Replayed state.toMailboxState tables (fun uid =>
        Named state.toMailboxState set uid ∧ state.flaggedDeleted uid = true)
      (sessionMailboxExpunge conf viewer tables state.toMailboxState
        (expungeCommand set modseq updated)) ↔
      (set ≠ none → ∀ uid ∈ state.ids, Named state.toMailboxState set uid →
        state.flaggedDeleted uid = true → ¬ state.toMailboxState.Stale modseq uid) := by
  have replayed := expunge_replayed conf viewer tables state (expungeCommand set modseq updated)
    expunges succeeds
  by_cases empty : state.ids = []
  · refine iff_of_true ⟨replayed.view, fun uid => ?_, replayed.sorted, fun uid => ?_⟩ ?_
    · rw [replayed.ids]
      simp [empty]
    · refine ⟨by simp [empty], fun _ => (replayed.marked uid).2 ?_⟩
      simp [empty]
    · simp [empty]
  have targets := mem_expungeTargets empty positive set modseq updated
  constructor
  · intro exact_ given uid member named flagged stale
    have gone : uid ∉ (sessionMailboxExpunge conf viewer tables state.toMailboxState
        (expungeCommand set modseq updated)).state.ids :=
      fun stays => ((exact_.ids uid).mp stays).2 ⟨named, flagged⟩
    refine gone ((replayed.ids uid).mpr ⟨member, fun removed => ?_⟩)
    exact ((targets uid).mp removed.1).2.2 given stale
  · intro fresh
    have removed_iff (uid : Nat) (member : uid ∈ state.ids) :
        (uid ∈ expungeTargets state.toMailboxState (expungeCommand set modseq updated) ∧
            state.flaggedDeleted uid = true) ↔
          Named state.toMailboxState set uid ∧ state.flaggedDeleted uid = true := by
      rw [targets uid]
      constructor
      · rintro ⟨⟨-, named, -⟩, flagged⟩
        exact ⟨named, flagged⟩
      · rintro ⟨named, flagged⟩
        exact ⟨⟨member, named, fun given => fresh given uid member named flagged⟩, flagged⟩
    refine ⟨replayed.view, fun uid => ?_, replayed.sorted, fun uid => ⟨fun gone => ?_, fun kept => ?_⟩⟩
    · rw [replayed.ids]
      exact and_congr_right fun member => not_congr (removed_iff uid member)
    · exact (replayed.marked uid).1 ⟨(removed_iff uid gone.2).mpr gone.1, gone.2⟩
    · exact (replayed.marked uid).2 fun gone => kept ⟨(removed_iff uid gone.2).mp gone.1, gone.2⟩

def flaggedMessages : Tables where
  mailboxes := ⟨[(7, ⟨⟨3, imappermReadwrite⟩, 1⟩)], by decide⟩
  messages := ⟨[(1, ⟨7, .seen, { deleted := true }, 1, [], 10⟩), (2, ⟨7, .seen, {}, 2, [], 10⟩),
    (3, ⟨7, .seen, { deleted := true }, 3, [], 10⟩), (5, ⟨7, .seen, { deleted := true }, 5, [], 10⟩)],
    by decide⟩

def flaggedMailbox : SessionMailbox :=
  ⟨MailboxState.new {} (flaggedMessages.view 7) 7, by decide, MailboxState.new_held _ _ _⟩

/-- `2:3` -/
def twoToThree : List SeqElement :=
  [.range (.number ⟨lit "2", by decide +kernel, by decide, by decide +kernel, by decide⟩)
    (.number ⟨lit "3", by decide +kernel, by decide, by decide +kernel, by decide⟩)]

/-- Of three flagged messages the one in the set is expunged. -/
theorem expunge_replayable_twoToThree :
    flaggedMailbox.ids = [1, 2, 3, 5] ∧
    Replayed flaggedMailbox.toMailboxState flaggedMessages
      (fun uid => Named flaggedMailbox.toMailboxState (some twoToThree) uid ∧
        flaggedMailbox.flaggedDeleted uid = true)
      (sessionMailboxExpunge {} ⟨some .uid, false, false⟩ flaggedMessages
        flaggedMailbox.toMailboxState (expungeCommand (some twoToThree) 0 fun _ => true)) ∧
    (sessionMailboxExpunge {} ⟨some .uid, false, false⟩ flaggedMessages
      flaggedMailbox.toMailboxState (expungeCommand (some twoToThree) 0 fun _ => true)).sent =
        [.expunge 3] := by
  refine ⟨by decide +kernel, ?_, by decide +kernel⟩
  refine (expunge_replayable_iff {} ⟨some .uid, false, false⟩ flaggedMessages flaggedMailbox
    (some twoToThree) 0 (fun _ => true) (by decide) (fun _ => rfl) (by decide +kernel)).mpr ?_
  rintro - uid - - - ⟨bounded, -⟩
  exact bounded rfl

/-- With the bound 3 on the mailbox nothing of the set is expunged. -/
theorem expunge_bounded :
    ¬ Replayed flaggedMailbox.toMailboxState flaggedMessages
      (fun uid => Named flaggedMailbox.toMailboxState (some twoToThree) uid ∧
        flaggedMailbox.flaggedDeleted uid = true)
      (sessionMailboxExpunge {} ⟨some .uid, false, false⟩ flaggedMessages
        flaggedMailbox.toMailboxState (expungeCommand (some twoToThree) 3 fun _ => true)) := by
  intro replayed
  have kept : 3 ∈ (sessionMailboxExpunge {} ⟨some .uid, false, false⟩ flaggedMessages
      flaggedMailbox.toMailboxState (expungeCommand (some twoToThree) 3 fun _ => true)).state.ids := by
    decide +kernel
  refine ((replayed.ids 3).mp kept).2 ⟨?_, by decide +kernel⟩
  rintro elements ⟨⟩
  exact ⟨_, mem_singleton.mpr rfl, by decide +kernel⟩

end Dbmail.Mailbox
