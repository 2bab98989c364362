import Dbmail.Mailbox.Copy
import Dbmail.Mailbox.Loading

/-!
Contract: what the commands on a selected mailbox write to the tables.

Owns the writes of FETCH (`_fetch_get_items` and the flush of
`_ic_fetch_enter`), of `dbmail_imap_session_mailbox_expunge` with `_do_expunge`,
of COPY with the rows that `db_copymsg` inserts, and of APPEND; the recent marks
and messages that `MailboxState_build_recent`, `MailboxState_clear_recent` and
`MailboxState_addMsginfo` give a cached state.

Does not own: quota, and the statements that fail besides the UPDATE of an
expunge and the copies whose results are given.
-/

namespace Dbmail.Mailbox

open Dbmail.Lib Dbmail.Imap

/-! ## Copies and recent marks -/

/-- The row that `db_copymsg` inserts, and the sequence it gets. An id that is in use
cannot be given to a new row. -/
def Tables.insertCopy (tables : Tables) (strategy : Int) (uid mailbox copy : Nat) : Tables :=
  match tables.messages.lookup uid with
  | none => tables
  | some message =>
    if copy ∈ tables.messages.keys then tables
    else
      ({ tables with
        messages := tables.messages.insert copy
          { message with mailbox := mailbox, seq := 0 } }.mailboxSeqUpdate strategy mailbox copy).1

def MailboxState.clearRecent (state : MailboxState) : MailboxState :=
  if state.permission = imappermReadwrite then
    { state with
      msginfo := state.msginfo.map fun _ info =>
        { info with flags := { info.flags with recent := false } }
      recentQueue := state.recentQueue.filter (· ∉ state.msginfo.keys) }
  else state

def MailboxState.buildRecent (state : MailboxState) : MailboxState :=
  if state.permission = imappermReadwrite then
    { state with
      recentQueue := (state.recentQueue ++
        state.msginfo.keysWhere fun info => info.flags.recent).dedup }
  else state

/-- `MailboxState_addMsginfo` of a recent message, once the permission is known. The
sequence is an `uint64_t`. -/
def MailboxState.addMsginfo (state : MailboxState) (uid : Nat) (info : MessageInfo) : MailboxState :=
  { state with
    msginfo := state.msginfo.insert uid info
    seq := (state.seq + 2 ^ 64 - 1) % 2 ^ 64
    recent := state.recent + 1 }.buildRecent.remap

/-! ## APPEND -/

/-- An APPEND that stores its message: the new UID, the flags of its list and the size. -/
structure AppendCommand where
  uid : Nat
  named : Flags
  keywords : List Bytes
  size : Nat

/-- The tables after `db_append_msg` and the flags of the list: the message is copied from
the mailbox it was stored in, and gets its status. -/
def Tables.append (tables : Tables) (strategy : Int) (mailbox : Nat) (command : AppendCommand) :
    Tables :=
  if command.uid ∈ tables.messages.keys then tables
  else
    let stored := ({ tables with
      messages := tables.messages.insert command.uid
        ⟨mailbox, .seen, { recent := true }, 0, [], command.size⟩ }.mailboxSeqUpdate strategy mailbox
          command.uid).1
    if command.named = {} ∧ command.keywords = [] then stored
    else
      ((stored.setMsgflag command.uid ⟨.add, command.named, command.keywords, 0⟩ []).mailboxSeqUpdate
        strategy mailbox command.uid).1

def AppendCommand.info (command : AppendCommand) : MessageInfo where
  status := .new
  flags := { command.named with recent := true }
  seq := 0
  keywords := command.keywords
  expunge := 0
  expunged := false

/-! ## FETCH -/

/-- `setSeenSet`, added by `db_set_msgflag`. -/
def seenChange : FlagChange := ⟨.add, { seen := true }, [], 0⟩

/-- The cached message and the tables after one statement of a FETCH. -/
def fetchWrite (strategy : Int) (fetching : Tables × MailboxState) : DbCall → Tables × MailboxState
  | .setMsgflag uid =>
    (fetching.1.setMsgflag uid seenChange [],
      match fetching.2.msginfo.lookup uid with
      | none => fetching.2
      | some info =>
        { fetching.2 with
          msginfo := fetching.2.msginfo.insert uid
            { info with flags := seenChange.onFlags info.flags } })
  | .setSeq uid => ((fetching.1.mailboxSeqUpdate strategy fetching.2.id uid).1, fetching.2)
  | _ => fetching

structure FetchCommand where
  items : FetchItems
  answers : FetchAnswers
  modseq : Nat
  set : Bytes
  uid : Bool

section Commands

variable (conf : ServerConf) (held : AclRight → Bool) (tables : Tables) (state : MailboxState)

/-- `_ic_fetch_enter` behind the parser of the items. The flush at its end asks for the
permission in any case. -/
def fetchEnter (command : FetchCommand) : Tables × MailboxState :=
  let known := state.loadPermission (tables.view state.id)
  let answers := { command.answers with
    mayMarkSeen := if known.grants held .seen then 1 else 0 }
  let calls := (SetCommand.fetch command.items answers).calls known command.modseq command.set
    command.uid
  let fetched := calls.foldl (fetchWrite conf.store.seqStrategy) (tables, known)
  (fetched.2.flushTables conf.store.seqStrategy fetched.1, fetched.2.flushRecent)

/-! ## EXPUNGE -/

/-- `_do_expunge`, with the result of its UPDATE: `db_exec` gives FALSE for one that fails, which
is not DM_EQUERY. -/
def expungeVisit (updated : Nat → Bool) (expunging : Tables × MailboxState) (uid : Nat) :
    Tables × MailboxState :=
  match expunging.2.msginfo.lookup uid with
  | none => expunging
  | some info =>
    if !info.flags.deleted then expunging
    else
      (if updated uid then expunging.1.setMessageStatus uid .delete else expunging.1,
        if uid ∈ expunging.2.ids then (expunging.2.removeUid uid).getD expunging.2
        else expunging.2)

/-- The arguments of an EXPUNGE: without a set it is about the whole mailbox. -/
structure ExpungeCommand where
  set : Option Bytes
  modseq : Nat
  uid : Bool
  updated : Nat → Bool

def expungeTargets (command : ExpungeCommand) : List Nat :=
  (match command.set with
    | none => state.ids
    | some set => ((state.mailboxGetSet command.modseq set command.uid).map KeyTree.keys).getD
        []).reverse

/-- `dbmail_imap_session_mailbox_expunge`. -/
def mailboxExpunge (command : ExpungeCommand) : Tables × MailboxState :=
  if state.ids = [] then (tables, state)
  else
    let expunged := (expungeTargets state command).foldl (expungeVisit command.updated)
      (tables, state)
    (if expunged.2.ids.length < state.ids.length then
        (expunged.1.mailboxSeqUpdate conf.store.seqStrategy state.id 0).1
      else expunged.1,
      expunged.2)

/-- `_ic_expunge` with `_ic_expunge_enter`. -/
def expungeEnter (command : ExpungeCommand) : Tables × MailboxState :=
  let known := state.loadPermission (tables.view state.id)
  if known.grants held .expunge then mailboxExpunge conf tables known command else (tables, known)

/-! ## COPY -/

/-- `_do_copy` on the tables. The original gets the sequence of the destination. -/
def copyTables (results : Nat → CopyResult) (mailbox seq : Nat) (tables : Tables) (uid : Nat) :
    Tables × Bool :=
  match state.msginfo.lookup uid with
  | none => (tables, false)
  | some _ =>
    let copied :=
      match results uid with
      | .copied copy => tables.insertCopy conf.store.seqStrategy uid mailbox copy
      | _ => tables
    (copied.messageSetSeq uid seq, results uid = .overQuota)

/-- The writes of `_ic_copy_enter`. -/
def copyWrites (modseq : Nat) (results : Nat → CopyResult) (command : CopyCommand) : Tables :=
  match command.destination with
  | none => tables
  | some mailbox =>
    if !command.readable ∨ !command.insertable then tables
    else match copyIds state modseq command with
      | none => tables
      | some keys =>
        let bumped := tables.mailboxSeqUpdate conf.store.seqStrategy mailbox 0
        walk (copyTables conf state results mailbox bumped.2) bumped.1 keys

end Commands

end Dbmail.Mailbox
