import Dbmail.Mailbox.Store

/-!
Contract: STORE and the rights that govern flags.

Owns the right that governs each system flag and the keywords, what it means that
a command respects them, and the exact commands that do.

Does not own: the lookups behind a right.
-/

namespace Dbmail.Mailbox

open Dbmail.Lib Dbmail.Imap List

/-- The right that governs a system flag: `s`, `t` or `w`. -/
def governs : ImapFlag → AclRight
  | .seen => .seen
  | .deleted => .deleted
  | _ => .write

/-- For every flag and keyword of a stored message that differs, the user held the right
that governs it. -/
def RightsRespected (held : AclRight → Bool) (before after : Tables) : Prop :=
  ∀ uid old new, before.messages.lookup uid = some old → after.messages.lookup uid = some new →
    (∀ flag, old.flags.get flag ≠ new.flags.get flag → held (governs flag) = true) ∧
      ∀ word, ¬ (word ∈ old.keywords ↔ word ∈ new.keywords) → held .write = true

section Rights

variable (held : AclRight → Bool) (tables : Tables) (selected : Selected) (command : StoreCommand)

/-- A replacement takes from no message it reaches a flag that is not named, unless the
user holds the right that governs it. -/
def ReplacesHeld : Prop :=
  command.action = .replace → (storeState tables selected command).writable = true →
    ∀ uid ∈ storeTargets held tables selected command, uid ∈ selected.state.msginfo.keys →
      ∀ message, tables.messages.lookup uid = some message → command.change.reaches message = true →
        ∀ flag, flag ≠ .recent → message.flags.get flag = true → command.named.get flag = false →
          held (governs flag) = true

variable {held tables selected command}

/-! ## What was checked -/

theorem accepted_of_target {uid : Nat} (target : uid ∈ storeTargets held tables selected command) :
    (∀ word ∈ command.words, StoreCommand.isRecent word = false) ∧
      storeAccepted held tables selected command = true := by
  unfold storeTargets at target
  split at target
  · simp at target
  · rename_i open_
    simpa using open_

theorem held_of_listed (accepted : storeAccepted held tables selected command = true)
    {right : AclRight} (listed : right ∈ flagRights command.words false) : held right = true := by
  have granted := all_eq_true.mp accepted right listed
  exact (Bool.and_eq_true_iff.mp granted).2

theorem isRecent_of_systemFlag {word : Bytes} (named : systemFlag word = some .recent) :
    StoreCommand.isRecent word = true := by
  obtain ⟨entry, found, isRecent⟩ := Option.map_eq_some_iff.mp named
  have member := mem_of_find?_eq_some found
  have matched := List.find?_some found
  simp only [imapFlagDescEscaped, mem_cons, not_mem_nil, or_false] at member
  rcases member with rfl | rfl | rfl | rfl | rfl | rfl <;> first | exact matched | cases isRecent

theorem named_iff (flag : ImapFlag) :
    command.named.get flag = true ↔ flag ∈ command.words.filterMap systemFlag := by
  simp [StoreCommand.named]

theorem held_of_named (plain : ∀ word ∈ command.words, StoreCommand.isRecent word = false)
    (accepted : storeAccepted held tables selected command = true) {flag : ImapFlag}
    (named : command.named.get flag = true) : held (governs flag) = true := by
  have listed := (named_iff flag).mp named
  apply held_of_listed accepted
  unfold flagRights
  cases flag with
  | recent =>
    obtain ⟨word, member, isRecent⟩ := mem_filterMap.mp listed
    have := plain word member
    rw [isRecent_of_systemFlag isRecent] at this
    cases this
  | _ => simp [governs, listed]

theorem held_of_keywords (accepted : storeAccepted held tables selected command = true)
    (some_ : command.keywords ≠ []) : held .write = true := by
  apply held_of_listed accepted
  obtain ⟨word, member⟩ := exists_mem_of_ne_nil _ some_
  obtain ⟨inWords, isKeyword⟩ := mem_filter.mp member
  unfold flagRights
  simp only [mem_append]
  right
  rw [if_pos]
  · exact mem_singleton_self _
  · simp only [Bool.or_eq_true, any_eq_true]
    exact .inr ⟨word, inWords, isKeyword⟩

/-! ## What changes -/

/-- A flag changes where it is named, or where a replacement does not name it. -/
theorem named_or_cleared {flag : ImapFlag} {old : Bool}
    (differs : old ≠ command.change.onFlag flag old) :
    command.named.get flag = true ∨
      (command.action = .replace ∧ flag ≠ .recent ∧ old = true ∧ command.named.get flag = false) := by
  cases named : command.named.get flag with
  | true => exact .inl rfl
  | false =>
    right
    have unnamed : command.change.named.get flag = false := named
    unfold FlagChange.onFlag at differs
    cases isAction : command.action with
    | add =>
      have isAdd : command.change.action = .add := isAction
      simp [isAdd, unnamed] at differs
    | remove =>
      have isRemove : command.change.action = .remove := isAction
      simp [isRemove, unnamed] at differs
    | replace =>
      have isReplace : command.change.action = .replace := isAction
      by_cases isRecent : flag = .recent
      · subst isRecent
        have noRecent : command.change.named.recent = false := unnamed
        simp [isReplace, noRecent] at differs
      · simp only [isReplace, isRecent, unnamed] at differs
        refine ⟨rfl, isRecent, ?_, rfl⟩
        simpa using differs

theorem storeMessage_flags (conf : StoreConf) (seq : Nat) (foldsCase writable : Bool)
    (info : MessageInfo) (message : StoredMessage) :
    (storeMessage conf command seq foldsCase writable info message).flags =
      if writable && command.change.setsFlags && command.change.reaches message then
        command.change.onFlags message.flags
      else message.flags := by
  unfold storeMessage
  cases writable with
  | false => simp
  | true =>
    simp only [Bool.not_true, Bool.false_eq_true, if_false]
    split <;> rfl

theorem storeMessage_keywords (conf : StoreConf) (seq : Nat) (foldsCase writable : Bool)
    (info : MessageInfo) (message : StoredMessage) :
    (storeMessage conf command seq foldsCase writable info message).keywords =
      if writable then command.change.onKeywords foldsCase info.keywords message.keywords
      else message.keywords := by
  unfold storeMessage
  cases writable with
  | false => simp
  | true =>
    simp only [Bool.not_true, Bool.false_eq_true, if_false]
    split <;> rfl

end Rights

/-- STORE respects the rights exactly when no replacement takes away a flag that it does
not name and whose right the user lacks. -/
theorem rightsRespected_iff (conf : StoreConf) (held : AclRight → Bool) (tables : Tables)
    (state : SessionMailbox) (modseq : Nat) (condstore : Bool) (command : StoreCommand) :
    RightsRespected held tables
        (storeEnter conf held tables ⟨state.toMailboxState, modseq, condstore⟩ command).1.tables ↔
      ReplacesHeld held tables ⟨state.toMailboxState, modseq, condstore⟩ command := by
  have after := @storeEnter_lookup conf held tables ⟨state.toMailboxState, modseq, condstore⟩ command
    (storeTargets_unbroken state modseq condstore)
  constructor
  · intro respected isReplace writable uid target cached message stored reached flag notRecent set
      unnamed
    obtain ⟨info, found⟩ := KeyTree.exists_lookup cached
    have changed := after uid
    rw [if_pos target, found, stored] at changed
    refine (respected uid message _ stored changed).1 flag ?_
    have sets : command.change.setsFlags = true := by
      have action : command.change.action = .replace := isReplace
      simp [FlagChange.setsFlags, action]
    rw [storeMessage_flags, writable, sets, reached]
    have cleared : command.change.onFlag flag true = false := by
      have action : command.change.action = .replace := isReplace
      have notNamed : command.change.named.get flag = false := unnamed
      simp [FlagChange.onFlag, action, notRecent, notNamed]
    simp [FlagChange.onFlags, set, cleared]
  · intro replaces uid old new stored changed
    rw [after uid, stored] at changed
    by_cases target : uid ∈ storeTargets held tables ⟨state.toMailboxState, modseq, condstore⟩ command
    · obtain ⟨plain, accepted⟩ := accepted_of_target target
      rw [if_pos target] at changed
      cases cached : state.msginfo.lookup uid with
      | none =>
        simp only [cached, Option.some.injEq] at changed
        subst changed
        exact ⟨fun flag differs => absurd rfl differs, fun word differs => absurd Iff.rfl differs⟩
      | some info =>
        simp only [cached, Option.map_some, Option.some.injEq] at changed
        subst changed
        constructor
        · intro flag differs
          rw [storeMessage_flags] at differs
          split at differs
          · rename_i written
            simp only [Bool.and_eq_true] at written
            rw [FlagChange.onFlags, Flags.get_of] at differs
            rcases named_or_cleared differs with named | ⟨isReplace, notRecent, set, unnamed⟩
            · exact held_of_named plain accepted named
            · exact replaces isReplace written.1.1 uid target
                (KeyTree.mem_keys_of_lookup cached) old stored written.2 flag notRecent set unnamed
          · exact absurd rfl differs
        · intro word differs
          apply held_of_keywords accepted
          intro none
          have noKeywords : command.change.keywords = [] := none
          rw [storeMessage_keywords] at differs
          simp [FlagChange.onKeywords, noKeywords] at differs
    · rw [if_neg target] at changed
      cases changed
      exact ⟨fun flag differs => absurd rfl differs, fun word differs => absurd Iff.rfl differs⟩

/-! ## A replacement by nothing -/

def sharedTables : Tables where
  mailboxes := KeyTree.empty.insert 1 ⟨⟨4, imappermReadwrite⟩, 2⟩
  messages := KeyTree.empty.insert 7 ⟨1, .seen, { seen := true, deleted := true }, 3, [], 100⟩

def sharedMailbox : SessionMailbox where
  toMailboxState := MailboxState.new {} (sharedTables.view 1) 1
  id_ne_zero := by decide
  held := MailboxState.new_held _ _ _

/-- `STORE 1 FLAGS ()`. -/
def storeNothing : StoreCommand := ⟨.replace, false, [], 0, lit "1", false⟩

/-- A user who may only read clears the flags of a message of a mailbox. -/
theorem empty_replacement_clears_flags :
    ¬ RightsRespected (fun right => right = .read) sharedTables
      (storeEnter {} (fun right => right = .read) sharedTables
        ⟨sharedMailbox.toMailboxState, 0, false⟩ storeNothing).1.tables := by
  intro respected
  have before : sharedTables.messages.lookup 7 =
      some ⟨1, .seen, { seen := true, deleted := true }, 3, [], 100⟩ := by decide +kernel
  have after : (storeEnter {} (fun right => right = .read) sharedTables
      ⟨sharedMailbox.toMailboxState, 0, false⟩ storeNothing).1.tables.messages.lookup 7 =
      some ⟨1, .seen, {}, 5, [], 100⟩ := by decide +kernel
  have seen := (respected 7 _ _ before after).1 .seen (by decide)
  exact absurd seen (by decide)

end Dbmail.Mailbox
