import Dbmail.Imap.Workers
import Dbmail.Mailbox.State

/-!
Contract: the stored messages and the statements that change them.

Owns the tables of mailboxes and messages, what a load of one mailbox sees of
them, and `db_set_msgflag` with `db_set_msgkeywords`, `db_set_message_status`,
`db_mailbox_seq_update`, `db_message_set_seq` (`dm_db.c`) and `_update_recent`
(`dm_mailboxstate.c`).

Does not own: failing statements. Keywords are ASCII texts, and a second INSERT of a
keyword is ignored.
-/

namespace Dbmail.Mailbox

open Dbmail.Lib Dbmail.Imap List

/-! ## Rows -/

/-- A row of the table of messages, with its keywords and the size of its physical
message. The key is the UID. -/
structure StoredMessage where
  mailbox : Nat
  status : MessageStatus
  flags : Flags
  seq : Nat
  keywords : List Bytes
  size : Nat
deriving DecidableEq

structure MailboxEntry extends MailboxRow where
  owner : Nat

/-- Keywords are compared without regard to case, as the MySQL schema has it, or byte by byte,
as those of PostgreSQL and SQLite have it. -/
structure Tables where
  mailboxes : KeyTree MailboxEntry
  messages : KeyTree StoredMessage
  foldsCase : Bool := false

variable (change : FlagChange) (tables : Tables)

namespace Tables

def messagesOf (mailbox : Nat) : List (Nat × StoredMessage) :=
  tables.messages.entries.filter fun entry => entry.2.mailbox = mailbox

def rowOf (entry : Nat × StoredMessage) : Row :=
  ⟨entry.1, entry.2.status, entry.2.flags, entry.2.seq, entry.2.keywords⟩

/-- `ORDER BY seq DESC`. -/
def newer (earlier later : Row) : Prop := later.seq ≤ earlier.seq

instance : DecidableRel newer := fun _ _ => inferInstanceAs (Decidable (_ ≤ _))

instance : Std.Total newer := ⟨fun first second => Nat.le_total second.seq first.seq⟩

instance : IsTrans Row newer := ⟨fun _ _ _ above below => Nat.le_trans below above⟩

def rowsOf (mailbox : Nat) : List Row :=
  ((tables.messagesOf mailbox).map rowOf).insertionSort newer

theorem rowsOf_perm (mailbox : Nat) :
    (tables.rowsOf mailbox).Perm ((tables.messagesOf mailbox).map rowOf) :=
  perm_insertionSort _ _

theorem rowsOf_unique (mailbox : Nat) : ((tables.rowsOf mailbox).map Row.uid).Nodup := by
  have keys : ((tables.messagesOf mailbox).map rowOf).map Row.uid =
      (tables.messagesOf mailbox).map Prod.fst := by
    rw [map_map]
    rfl
  rw [((tables.rowsOf_perm mailbox).map Row.uid).nodup_iff, keys]
  have sorted : ((tables.messagesOf mailbox).map Prod.fst).Pairwise (· < ·) :=
    tables.messages.sorted.sublist (filter_sublist.map Prod.fst)
  exact sorted.imp Nat.ne_of_lt

def view (mailbox : Nat) : MailboxDb where
  mailbox := (tables.mailboxes.lookup mailbox).map MailboxEntry.toMailboxRow
  rows := tables.rowsOf mailbox
  ordered := pairwise_insertionSort newer _
  unique := tables.rowsOf_unique mailbox

/-! ## Statements -/

/-- An UPDATE of messages: those at which the WHERE clause holds change. -/
def update (applies : Nat → StoredMessage → Bool)
    (change : StoredMessage → StoredMessage) : Tables :=
  { tables with
    messages := tables.messages.map fun uid message =>
      if applies uid message then change message else message }

/-- `db_set_message_status`. -/
def setMessageStatus (uid : Nat) (status : MessageStatus) : Tables :=
  tables.update (fun id _ => id = uid) fun message => { message with status := status }

/-- `db_message_set_seq`. -/
def messageSetSeq (uid seq : Nat) : Tables :=
  tables.update (fun id message => id = uid && message.seq < seq)
    fun message => { message with seq := seq }

/-- With whether a row has changed. -/
def updateRecent (uids : List Nat) (seq : Nat) : Tables × Bool :=
  let applies (id : Nat) (message : StoredMessage) : Bool :=
    message.flags.recent && message.seq < seq && id ∈ uids
  (tables.update applies fun message =>
      { message with flags := { message.flags with recent := false }, seq := seq },
    tables.messages.entries.any fun entry => applies entry.1 entry.2)

def bump (mailbox count : Nat) : Tables :=
  { tables with
    mailboxes := tables.mailboxes.map fun id entry =>
      if id = mailbox then { entry with seq := entry.seq + count } else entry }

def seqOf (mailbox : Nat) : Nat :=
  ((tables.mailboxes.lookup mailbox).map fun entry => entry.seq).getD 0

/-- `db_mailbox_seq_update`, by `mailbox_update_seq_strategy`. The second strategy
runs its first statement twice; any other value does nothing. -/
def mailboxSeqUpdate (strategy : Int) (mailbox uid : Nat) : Tables × Nat :=
  if strategy = 1 then
    let bumped := tables.bump mailbox 1
    let seq := bumped.seqOf mailbox
    (if uid = 0 then bumped else bumped.messageSetSeq uid seq, seq)
  else if strategy = 2 then
    let bumped := tables.bump mailbox 2
    (if uid = 0 then bumped
      else { bumped with
        messages := bumped.messages.map fun id message =>
          if id = uid then { message with seq := bumped.seqOf message.mailbox } else message },
      bumped.seqOf mailbox)
  else (tables, 0)

end Tables

/-! ## Flags and keywords -/

def Flags.get (flags : Flags) : ImapFlag → Bool
  | .seen => flags.seen
  | .answered => flags.answered
  | .deleted => flags.deleted
  | .flagged => flags.flagged
  | .draft => flags.draft
  | .recent => flags.recent

def Flags.of (value : ImapFlag → Bool) : Flags :=
  ⟨value .seen, value .answered, value .deleted, value .flagged, value .draft, value .recent⟩

@[simp] theorem Flags.get_of (value : ImapFlag → Bool) (flag : ImapFlag) :
    (Flags.of value).get flag = value flag := by
  cases flag <;> rfl

/-- The arguments of `db_set_msgflag`. -/
structure FlagChange where
  action : FlagAction
  named : Flags
  keywords : List Bytes
  unchangedsince : Nat

namespace FlagChange

/-- The value of a flag under the SET clause. REPLACE leaves \Recent alone. -/
def onFlag (flag : ImapFlag) (old : Bool) : Bool :=
  match change.action with
  | .add => old || change.named.get flag
  | .remove => old && !change.named.get flag
  | .replace => if flag = .recent then old || change.named.recent else change.named.get flag

def onFlags (old : Flags) : Flags :=
  .of fun flag => change.onFlag flag (old.get flag)

def setsFlags : Bool := change.action = .replace || change.named ≠ {}

def reaches (message : StoredMessage) : Bool :=
  message.status.live && (change.unchangedsince = 0 || message.seq ≤ change.unchangedsince)

/-- A keyword of the command is among those of the cached message. -/
def listed (known : List Bytes) (keyword : Bytes) : Bool :=
  known.any fun other => strcasecmpEq other keyword

/-- The database takes two texts for the same keyword. -/
def sameKeyword (foldsCase : Bool) (first second : Bytes) : Bool :=
  if foldsCase then strcasecmpEq first second else first == second

/-- One turn of the loops of `db_set_msgkeywords`. -/
def keywordTurn (foldsCase : Bool) (known stored : List Bytes) (keyword : Bytes) : List Bytes :=
  match change.action with
  | .remove =>
    if listed known keyword then stored.filter (!sameKeyword foldsCase · keyword) else stored
  | .add =>
    if listed known keyword then stored
    else stored.filter (!sameKeyword foldsCase · keyword) ++ [keyword]
  | .replace =>
    if listed known keyword || stored.any (sameKeyword foldsCase · keyword) then stored
    else stored ++ [keyword]

/-- The keywords after `db_set_msgkeywords`. -/
def onKeywords (foldsCase : Bool) (known stored : List Bytes) : List Bytes :=
  if change.keywords = [] then stored
  else change.keywords.foldl (change.keywordTurn foldsCase known)
    (if change.action = .replace then [] else stored)

/-- The count that `db_set_msgkeywords` returns. -/
def keywordCount (known : List Bytes) : Nat :=
  change.keywords.countP fun keyword => listed known keyword == decide (change.action = .remove)

/-- The stored message after `db_set_msgflag`. -/
def onMessage (foldsCase : Bool) (known : List Bytes) (message : StoredMessage) : StoredMessage :=
  { message with
    flags := if change.setsFlags && change.reaches message then change.onFlags message.flags
      else message.flags
    keywords := change.onKeywords foldsCase known message.keywords }

/-- The UPDATE reports a changed row: some drivers count the rows it matched, others
those it altered. -/
def updatesRow (countsMatched : Bool) (message : StoredMessage) : Bool :=
  change.setsFlags && change.reaches message &&
    (countsMatched || change.onFlags message.flags ≠ message.flags)

/-- The result of `db_set_msgflag` is 1. -/
def counts (countsMatched : Bool) (known : List Bytes) (message : Option StoredMessage) : Bool :=
  message.any (change.updatesRow countsMatched) || 0 < change.keywordCount known

end FlagChange

/-- `db_set_msgflag` on the tables; `known` are the cached keywords. -/
def Tables.setMsgflag (uid : Nat) (change : FlagChange) (known : List Bytes) : Tables :=
  tables.update (fun id _ => id = uid) (change.onMessage tables.foldsCase known)

/-! ## Reading back -/

namespace Tables

variable (tables : Tables)

theorem lookup_update (applies : Nat → StoredMessage → Bool)
    (change : StoredMessage → StoredMessage) (uid : Nat) :
    (tables.update applies change).messages.lookup uid =
      (tables.messages.lookup uid).map fun message =>
        if applies uid message then change message else message :=
  KeyTree.lookup_map _ _ _

theorem lookup_setMsgflag (uid : Nat) (change : FlagChange) (known : List Bytes) (id : Nat) :
    (tables.setMsgflag uid change known).messages.lookup id =
      if id = uid then (tables.messages.lookup id).map (change.onMessage tables.foldsCase known)
      else tables.messages.lookup id := by
  rw [setMsgflag, lookup_update]
  by_cases here : id = uid <;> simp [here]

theorem lookup_messageSetSeq (uid seq id : Nat) :
    (tables.messageSetSeq uid seq).messages.lookup id =
      if id = uid then
        (tables.messages.lookup id).map fun message => { message with seq := max message.seq seq }
      else tables.messages.lookup id := by
  rw [messageSetSeq, lookup_update]
  by_cases here : id = uid
  · simp only [here, decide_true, Bool.true_and, decide_eq_true_eq]
    congr 1
    funext message
    split
    · rw [Nat.max_eq_right (by omega)]
    · rw [Nat.max_eq_left (by omega)]
  · simp [here]

@[simp] theorem messages_bump (mailbox count : Nat) :
    (tables.bump mailbox count).messages = tables.messages := rfl

theorem messages_mailboxSeqUpdate (strategy : Int) (mailbox : Nat) :
    (tables.mailboxSeqUpdate strategy mailbox 0).1.messages = tables.messages := by
  unfold mailboxSeqUpdate
  by_cases first : strategy = 1
  · simp [if_pos first]
  by_cases second : strategy = 2
  · simp [if_neg first, if_pos second]
  · simp [if_neg first, if_neg second]

theorem foldsCase_mailboxSeqUpdate (strategy : Int) (mailbox : Nat) :
    (tables.mailboxSeqUpdate strategy mailbox 0).1.foldsCase = tables.foldsCase := by
  unfold mailboxSeqUpdate
  split_ifs <;> rfl

end Tables

end Dbmail.Mailbox
