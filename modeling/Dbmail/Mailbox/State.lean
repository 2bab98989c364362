import Dbmail.Lib.CRuntime
import Dbmail.Lib.SortedTree

/-!
Contract: the view of a mailbox that an IMAP session holds.

Owns `MailboxState_T` with its message tree and its UID list, the load of its
counters and messages from the database (`state_load_metadata`,
`state_load_messages`), `MailboxState_new`, `MailboxState_update`,
`MailboxState_remap` and `MailboxState_removeUid`.

Does not own: the other columns of a message (dates, sizes), the owner and the
ACL of a mailbox, and failing queries. A database is what the queries of one
load see, with the messages in the order in which they are returned.
-/

namespace Dbmail.Mailbox

open Dbmail.Lib

/-! ## Messages -/

/-- `MESSAGE_STATUS_*`, in the order of their values. -/
inductive MessageStatus where
  | new
  | seen
  | delete
  | purge
  | unused
  | insert
  | error
deriving DecidableEq, Repr

def MessageStatus.code : MessageStatus → Nat
  | .new => 0
  | .seen => 1
  | .delete => 2
  | .purge => 3
  | .unused => 4
  | .insert => 5
  | .error => 6

/-- `status < MESSAGE_STATUS_DELETE`. -/
def MessageStatus.live (status : MessageStatus) : Bool :=
  status.code < MessageStatus.delete.code

structure Flags where
  seen : Bool := false
  answered : Bool := false
  deleted : Bool := false
  flagged : Bool := false
  draft : Bool := false
  recent : Bool := false
deriving DecidableEq, Repr

structure Row where
  uid : Nat
  status : MessageStatus
  flags : Flags
  seq : Nat
  keywords : List Bytes

/-- `MessageInfo`. The UID is its key in the tree, and `msn` is its place in the
UID list. -/
structure MessageInfo where
  status : MessageStatus
  flags : Flags
  seq : Nat
  keywords : List Bytes
  expunge : Nat
  expunged : Bool

def MessageInfo.live (info : MessageInfo) : Bool := info.status.live

structure MailboxRow where
  seq : Nat
  permission : Nat

structure MailboxDb where
  mailbox : Option MailboxRow
  rows : List Row
  ordered : rows.Pairwise fun earlier later => later.seq ≤ earlier.seq
  unique : (rows.map Row.uid).Nodup

variable (conf : LoadConf) (state : MailboxState) (db : MailboxDb)

def MailboxDb.liveRows : List Row := db.rows.filter fun row => row.status.live

/-! ## The state -/

/-- `MailboxState_T`. The tree `ids` is the list of its keys: the MSN of a UID is
its place in it, counted from one. -/
structure MailboxState where
  id : Nat
  uidnext : Nat
  seq : Nat
  stateSeq : Nat
  differentialIterations : Nat
  existsCount : Nat
  recent : Nat
  permission : Nat
  keywords : List Bytes
  msginfo : KeyTree MessageInfo
  ids : List Nat
  recentQueue : List Nat

namespace MailboxState

/-- A state as the memory pool hands it out. -/
def blank (id : Nat) : MailboxState :=
  ⟨id, 0, 0, 0, 0, 0, 0, 0, [], KeyTree.empty, [], []⟩

def msn (uid : Nat) : Nat := state.ids.idxOf uid + 1

/-- `MailboxState_remap`. -/
def remap : MailboxState :=
  { state with ids := state.msginfo.keysWhere MessageInfo.live }

/-- `MailboxState_removeUid`: `none` is `DM_EGENERAL`. -/
def removeUid (uid : Nat) : Option MailboxState :=
  match state.msginfo.lookup uid with
  | none => none
  | some info =>
    some { state with
      msginfo := state.msginfo.insert uid { info with status := .delete }
      existsCount := state.existsCount - 1 }.remap

/-- `MailboxState_getExists`, which raises the counter to the number of UIDs. -/
def getExists : Nat :=
  if state.existsCount < state.ids.length then state.ids.length else state.existsCount

/-- `db_getmailbox_seq`. -/
def getmailboxSeq : MailboxState :=
  match db.mailbox with
  | some row => { state with seq := row.seq }
  | none => state

/-- `MailboxState_getSeq`. -/
def getSeq : MailboxState :=
  if state.seq = 0 then state.getmailboxSeq db else state

/-- `MailboxState_flags`. -/
def flagsText : Bytes :=
  gStrchomp (lit "\\Seen \\Answered \\Deleted \\Flagged \\Draft" ++
    if state.keywords = [] then [] else lit " " ++ (lit " ").intercalate state.keywords)

/-! ## Loading -/

/-- `db_getmailbox_count`: the counters, and the UID after the largest one ever
given out unless no message is left. -/
def getmailboxCount : MailboxState :=
  { state with
    existsCount := db.liveRows.length
    recent := db.liveRows.countP fun row => row.flags.recent
    uidnext := if db.liveRows = [] then 1 else (db.rows.map Row.uid).foldr max 0 + 1 }

/-- `state_load_metadata`. -/
def loadMetadata : MailboxState :=
  let current := state.getmailboxSeq db
  if current.uidnext ≠ 0 ∧ current.seq = state.seq then current
  else
    { current.getmailboxCount db with
      permission := (db.mailbox.map MailboxRow.permission).getD current.permission
      keywords := current.keywords ++ (db.liveRows.flatMap Row.keywords).dedup }

end MailboxState

structure LoadConf where
  updateStrategy : Int := 1
  maxIterations : Nat := 300
  syncDeleted : Int := 1
  syncBatchSize : Nat := 64
deriving DecidableEq, Repr

structure Load where
  msginfo : KeyTree MessageInfo
  batch : Nat

/-- The fields of a message as a row gives them; the expunge marks survive. -/
def MessageInfo.ofRow (found : Option MessageInfo) (row : Row) : MessageInfo where
  status := row.status
  flags := row.flags
  seq := row.seq
  keywords := (if row.flags.seen then [lit "\\Seen"] else []) ++ row.keywords.filter (· ≠ [])
  expunge := (found.map MessageInfo.expunge).getD 0
  expunged := (found.map MessageInfo.expunged).getD false

def LoadConf.marks (batch : Nat) (info : MessageInfo) : Bool :=
  info.flags.deleted && info.live && conf.syncDeleted = 2 && 0 < batch

def MessageInfo.leaving (info : MessageInfo) : Bool :=
  !info.live || info.flags.deleted || info.expunged || 1 ≤ info.expunge

/-- The message that a row leads to, and whether it was marked. -/
def LoadConf.readInfo (batch : Nat) (found : Option MessageInfo) (row : Row) : MessageInfo :=
  let info := MessageInfo.ofRow found row
  let info := if conf.marks batch info then { info with status := .delete } else info
  if info.leaving then { info with expunge := info.expunge + 1 } else info

def Load.found (load : Load) (coldLoad : Bool) (uid : Nat) : Option MessageInfo :=
  if coldLoad then none else load.msginfo.lookup uid

/-- Keep a message; an expunge that has been announced takes it out. -/
def keepInfo (msginfo : KeyTree MessageInfo) (uid : Nat) (info : MessageInfo) : KeyTree MessageInfo :=
  if info.expunged then msginfo.remove uid else msginfo.insert uid info

/-- One turn of the first loop of `state_load_messages`. -/
def LoadConf.readRow (coldLoad : Bool) (load : Load) (row : Row) : Load :=
  let found := load.found coldLoad row.uid
  -- A differential load does not add a message that is deleted already.
  if !coldLoad && found.isNone && !row.status.live then load
  else
    { msginfo := keepInfo load.msginfo row.uid (conf.readInfo load.batch found row)
      batch := load.batch - if conf.marks load.batch (.ofRow found row) then 1 else 0 }

/-- The rows that the query of `state_load_messages` returns. -/
def MailboxDb.selected (coldLoad : Bool) (stateSeq : Nat) : List Row :=
  if coldLoad then db.liveRows
  else db.rows.filter fun row =>
    stateSeq ≤ row.seq + 1 && row.status.code ≤ MessageStatus.delete.code

namespace MailboxState

/-- `state_load_messages`. -/
def loadMessages (conf : LoadConf) (db : MailboxDb) (coldLoad : Bool) : MailboxState :=
  let load := (db.selected coldLoad state.stateSeq).foldl (conf.readRow coldLoad)
    ⟨state.msginfo, conf.syncBatchSize⟩
  { state with msginfo := load.msginfo, stateSeq := (state.getSeq db).seq }.remap

/-- `MailboxState_new` for the id of a mailbox, which is not zero. -/
def new (id : Nat) : MailboxState :=
  ((blank id).loadMetadata db).loadMessages conf db true

/-- The differential part of `MailboxState_update`: the messages of the old
state move over to the new one. -/
def renew (old : MailboxState) : MailboxState :=
  ({ blank old.id with
      differentialIterations := old.differentialIterations + 1
      stateSeq := old.stateSeq
      msginfo := old.msginfo }.loadMetadata db).loadMessages conf db false

/-- `MailboxState_update` falls back on a full load. -/
def exhausted : Bool :=
  0 < conf.maxIterations && conf.maxIterations ≤ state.differentialIterations + 1

/-- A refresh loads the whole mailbox, and does not continue the old state. -/
def reloads : Bool :=
  conf.updateStrategy ≠ 2 || state.exhausted conf

def refreshed (state : MailboxState) : MailboxState :=
  if state.reloads conf then new conf db state.id else renew conf db state

/-- What the load of a refresh leaves of the old state: a differential load
takes its messages away. -/
def leftover : MailboxState :=
  if state.reloads conf then state else { state with msginfo := KeyTree.empty, seq := 0 }

end MailboxState

/-! ## States that a session holds -/

def ExpungedDead (msginfo : KeyTree MessageInfo) : Prop :=
  ∀ entry ∈ msginfo.entries, entry.2.expunged = true → entry.2.live = false

/-- The UID list is the list of the live messages, and announced expunges are
not taken back. -/
structure MailboxState.Held (state : MailboxState) : Prop where
  ids_eq : state.ids = state.msginfo.keysWhere MessageInfo.live
  expunged_dead : ExpungedDead state.msginfo

structure SessionMailbox extends MailboxState where
  id_ne_zero : id ≠ 0
  held : toMailboxState.Held

variable (conf : LoadConf) (db : MailboxDb) {state : MailboxState}

theorem MailboxState.Held.ids_sorted (held : state.Held) : state.ids.Pairwise (· < ·) := by
  rw [held.ids_eq]
  exact state.msginfo.keysWhere_sorted _

theorem MailboxState.Held.mem_keys (held : state.Held) {uid : Nat}
    (member : uid ∈ state.ids) : uid ∈ state.msginfo.keys := by
  rw [held.ids_eq] at member
  exact KeyTree.mem_keys_of_mem_keysWhere member

theorem expungedDead_empty : ExpungedDead KeyTree.empty := by
  intro entry member
  simp [KeyTree.empty] at member

theorem ExpungedDead.insert {msginfo : KeyTree MessageInfo} (dead : ExpungedDead msginfo) (uid : Nat)
    {info : MessageInfo} (ofInfo : info.expunged = true → info.live = false) :
    ExpungedDead (msginfo.insert uid info) := by
  intro entry member
  rcases KeyTree.mem_insert member with rfl | old
  · exact ofInfo
  · exact dead entry old

theorem ExpungedDead.keepInfo {msginfo : KeyTree MessageInfo} (dead : ExpungedDead msginfo)
    (uid : Nat) (info : MessageInfo) : ExpungedDead (keepInfo msginfo uid info) := by
  unfold Mailbox.keepInfo
  split_ifs with expunged
  · intro entry member
    exact dead entry (KeyTree.mem_remove member)
  · apply dead.insert
    intro marked
    exact absurd marked expunged

theorem ExpungedDead.readRow {conf : LoadConf} {coldLoad : Bool} {load : Load}
    (dead : ExpungedDead load.msginfo) (row : Row) :
    ExpungedDead (conf.readRow coldLoad load row).msginfo := by
  unfold LoadConf.readRow
  dsimp only
  split
  · exact dead
  · exact dead.keepInfo _ _

theorem ExpungedDead.readRows {conf : LoadConf} {coldLoad : Bool} (rows : List Row) {load : Load}
    (dead : ExpungedDead load.msginfo) :
    ExpungedDead (rows.foldl (conf.readRow coldLoad) load).msginfo := by
  induction rows generalizing load with
  | nil => exact dead
  | cons head tail ih => exact ih (dead.readRow head)

theorem MailboxState.loadMessages_held {conf : LoadConf} {db : MailboxDb} {coldLoad : Bool}
    {state : MailboxState} (dead : ExpungedDead state.msginfo) :
    (state.loadMessages conf db coldLoad).Held where
  ids_eq := rfl
  expunged_dead := ExpungedDead.readRows _ dead

theorem MailboxState.loadMetadata_keeps (state : MailboxState) (db : MailboxDb) :
    (state.loadMetadata db).msginfo = state.msginfo ∧ (state.loadMetadata db).id = state.id := by
  have seqOnly : (state.getmailboxSeq db).msginfo = state.msginfo ∧
      (state.getmailboxSeq db).id = state.id := by
    unfold getmailboxSeq
    cases db.mailbox <;> exact ⟨rfl, rfl⟩
  unfold loadMetadata
  dsimp only
  split_ifs
  · exact seqOnly
  · exact seqOnly

theorem MailboxState.new_id (id : Nat) : (new conf db id).id = id :=
  ((blank id).loadMetadata_keeps db).2

theorem MailboxState.refreshed_id (state : MailboxState) :
    (state.refreshed conf db).id = state.id := by
  unfold refreshed
  split_ifs
  · exact new_id conf db state.id
  · exact (loadMetadata_keeps _ db).2

theorem MailboxState.new_held (id : Nat) : (new conf db id).Held := by
  apply loadMessages_held
  rw [(loadMetadata_keeps _ db).1]
  exact expungedDead_empty

theorem MailboxState.refreshed_held (held : state.Held) : (state.refreshed conf db).Held := by
  unfold refreshed
  split_ifs
  · exact new_held conf db state.id
  · apply loadMessages_held
    rw [(loadMetadata_keeps _ db).1]
    exact held.expunged_dead

end Dbmail.Mailbox
