import Dbmail.Mailbox.Store

/-!
Contract: what the loads and refreshes of a session write, and the states it caches.

Owns the messages that `state_load_messages` marks as deleted
(`mailbox_sync_deleted`), the writes of `MailboxState_flush_recent`, the refresh
of `dbmail_imap_session_mailbox_status` on the tables, and
`dbmail_imap_session_mbxinfo_lookup`.

Does not own: failing statements.
-/

namespace Dbmail.Mailbox

open Dbmail.Lib Dbmail.Imap MailboxState List

structure ServerConf where
  load : LoadConf := {}
  store : StoreConf := {}

/-! ## Marked messages -/

/-- The messages that the loop of `state_load_messages` marks. -/
def LoadConf.markedBy (conf : LoadConf) (coldLoad : Bool) : Load → List Row → List Nat
  | _, [] => []
  | load, row :: rest =>
    (if conf.marks load.batch (.ofRow (load.found coldLoad row.uid) row) then [row.uid] else []) ++
      conf.markedBy coldLoad (conf.readRow coldLoad load row) rest

def LoadConf.Syncs (conf : LoadConf) (rows : List Row) : Prop :=
  conf.syncDeleted = 2 ∧ 0 < conf.syncBatchSize ∧
    ∃ row ∈ rows, row.status.live = true ∧ row.flags.deleted = true

instance (conf : LoadConf) (rows : List Row) : Decidable (conf.Syncs rows) :=
  inferInstanceAs (Decidable (_ ∧ _ ∧ ∃ row ∈ rows, _))

variable {conf : LoadConf} (state : MailboxState) (db : MailboxDb) {coldLoad : Bool}
  {rows : List Row} {load : Load}

theorem LoadConf.markedBy_eq_nil
    (never : ∀ row ∈ rows, ∀ batch found, conf.marks batch (.ofRow found row) = false) (load : Load) :
    conf.markedBy coldLoad load rows = [] := by
  induction rows generalizing load with
  | nil => rfl
  | cons row rest ih =>
    rw [markedBy, never row mem_cons_self,
      ih fun other member => never other (mem_cons_of_mem _ member)]
    rfl

theorem LoadConf.markedBy_exhausted (rows : List Row)
    {load : Load} (exhausted : load.batch = 0) : conf.markedBy coldLoad load rows = [] := by
  induction rows generalizing load with
  | nil => rfl
  | cons row rest ih =>
    have stays : (conf.readRow coldLoad load row).batch = 0 := by
      unfold readRow
      dsimp only
      split
      · exact exhausted
      · simp [exhausted]
    rw [markedBy, ih stays]
    simp [marks, exhausted]

theorem LoadConf.markedBy_unmarked (idle : ¬ conf.Syncs rows) (msginfo : KeyTree MessageInfo) :
    conf.markedBy coldLoad ⟨msginfo, conf.syncBatchSize⟩ rows = [] := by
  by_cases empty : conf.syncBatchSize = 0
  · exact markedBy_exhausted rows empty
  · apply markedBy_eq_nil
    intro row member batch found
    by_cases syncs : conf.syncDeleted = 2
    · have spared : ¬ (row.status.live = true ∧ row.flags.deleted = true) := fun doomed =>
        idle ⟨syncs, by omega, row, member, doomed⟩
      simp only [marks, MessageInfo.live, MessageInfo.ofRow]
      cases live : row.status.live <;> cases deleted : row.flags.deleted <;> simp_all
    · simp [marks, syncs]

theorem LoadConf.mem_markedBy
    {uid : Nat} (marked : uid ∈ conf.markedBy coldLoad load rows) : uid ∈ rows.map Row.uid := by
  induction rows generalizing load with
  | nil => cases marked
  | cons row rest ih =>
    rw [markedBy, mem_append] at marked
    rw [map_cons, mem_cons]
    rcases marked with here | later
    · split at here
      · exact .inl (mem_singleton.mp here)
      · cases here
    · exact .inr (ih later)

/-- A cached message is as its row says, but for the mark of the load. -/
structure MessageInfo.Reflects (info : MessageInfo) (row : Row) (marked : Prop) : Prop where
  marked_status : marked → info.status = .delete
  kept_status : ¬ marked → info.status = row.status
  flags_eq : info.flags = row.flags
  seq_eq : info.seq = row.seq
  keywords_eq : info.keywords = (MessageInfo.ofRow none row).keywords

theorem LoadConf.readInfo_reflects (conf : LoadConf) (batch : Nat) (row : Row) :
    (conf.readInfo batch none row).Reflects row (conf.marks batch (.ofRow none row) = true) ∧
      (conf.readInfo batch none row).expunged = false := by
  unfold readInfo
  by_cases marked : conf.marks batch (.ofRow none row) = true
  · simp only [if_pos marked]
    refine ⟨⟨fun _ => ?_, fun spared => absurd marked spared, ?_, ?_, ?_⟩, ?_⟩ <;> split <;> rfl
  · simp only [if_neg marked]
    refine ⟨⟨fun isMarked => absurd isMarked marked, fun _ => ?_, ?_, ?_, ?_⟩, ?_⟩ <;> split <;> rfl

/-- A full load brings one message for each row, and touches no other. -/
theorem LoadConf.readRows_reflect (unique : (rows.map Row.uid).Nodup) :
    (∀ row ∈ rows, ∃ info, (rows.foldl (conf.readRow true) load).msginfo.lookup row.uid = some info ∧
      info.Reflects row (row.uid ∈ conf.markedBy true load rows)) ∧
      ∀ uid, uid ∉ rows.map Row.uid →
        (rows.foldl (conf.readRow true) load).msginfo.lookup uid = load.msginfo.lookup uid := by
  induction rows generalizing load with
  | nil => exact ⟨nofun, fun _ _ => rfl⟩
  | cons row rest ih =>
    rw [map_cons, nodup_cons] at unique
    obtain ⟨reflects, notExpunged⟩ := conf.readInfo_reflects load.batch row
    have step : (conf.readRow true load row).msginfo =
        load.msginfo.insert row.uid (conf.readInfo load.batch none row) := by
      show keepInfo load.msginfo row.uid (conf.readInfo load.batch none row) = _
      rw [keepInfo, notExpunged]
      rfl
    obtain ⟨later, others⟩ := @ih (conf.readRow true load row) unique.2
    have marks : ∀ uid, uid ∈ conf.markedBy true load (row :: rest) ↔
        (uid = row.uid ∧ conf.marks load.batch (.ofRow none row) = true) ∨
          uid ∈ conf.markedBy true (conf.readRow true load row) rest := by
      intro uid
      rw [markedBy, mem_append]
      have found : load.found true row.uid = none := rfl
      rw [found]
      by_cases isMarked : conf.marks load.batch (.ofRow none row) = true <;> simp [isMarked]
    rw [foldl_cons]
    constructor
    · intro other member
      rcases mem_cons.mp member with rfl | inRest
      · have notLater : other.uid ∉ conf.markedBy true (conf.readRow true load other) rest :=
          fun marked => unique.1 (mem_markedBy marked)
        refine ⟨conf.readInfo load.batch none other, ?_, ?_⟩
        · rw [others other.uid unique.1, step, KeyTree.lookup_insert, if_pos rfl]
        · have same : (other.uid ∈ conf.markedBy true load (other :: rest)) ↔
              conf.marks load.batch (.ofRow none other) = true := by
            rw [marks]
            simp [notLater]
          rwa [same]
      · obtain ⟨info, isInfo, isReflected⟩ := later other inRest
        have apart : other.uid ≠ row.uid := fun same =>
          unique.1 (same ▸ mem_map_of_mem inRest)
        have same : (other.uid ∈ conf.markedBy true load (row :: rest)) ↔
            other.uid ∈ conf.markedBy true (conf.readRow true load row) rest := by
          rw [marks]
          simp [apart]
        exact ⟨info, isInfo, by rwa [same]⟩
    · intro uid absent
      rw [map_cons, mem_cons, not_or] at absent
      rw [others uid absent.2, step, KeyTree.lookup_insert, if_neg absent.1]

namespace MailboxState

/-- The messages that `state_load_messages` marks. -/
def loadMarks (state : MailboxState) (conf : LoadConf) (db : MailboxDb) (coldLoad : Bool) :
    List Nat :=
  conf.markedBy coldLoad ⟨state.msginfo, conf.syncBatchSize⟩ (db.selected coldLoad state.stateSeq)

def refreshRows (conf : LoadConf) (db : MailboxDb) (state : MailboxState) : List Row :=
  if state.reloads conf then db.liveRows else db.selected false state.stateSeq

def refreshMarks (conf : LoadConf) (db : MailboxDb) (state : MailboxState) : List Nat :=
  if state.reloads conf then (blank state.id).loadMarks conf db true
  else state.loadMarks conf db false

theorem refreshMarks_eq_nil {conf : LoadConf} {db : MailboxDb} {state : MailboxState}
    (idle : ¬ conf.Syncs (state.refreshRows conf db)) : state.refreshMarks conf db = [] := by
  unfold refreshRows at idle
  unfold refreshMarks
  by_cases full : state.reloads conf = true
  · rw [if_pos full] at idle ⊢
    exact LoadConf.markedBy_unmarked idle _
  · rw [if_neg full] at idle ⊢
    exact LoadConf.markedBy_unmarked idle _

end MailboxState

/-- The marks reach the tables one by one. -/
def Tables.markDeleted (tables : Tables) (uids : List Nat) : Tables :=
  uids.foldl (fun tables uid => tables.setMessageStatus uid .delete) tables

/-! ## Recent messages -/

/-- The writes of `MailboxState_flush_recent`. -/
def MailboxState.flushTables (state : MailboxState) (strategy : Int) (tables : Tables) : Tables :=
  if state.permission ≠ imappermReadwrite ∨ state.recentQueue = [] then tables
  else
    let (updated, changed) := tables.updateRecent state.recentQueue
      ((state.getSeq (tables.view state.id)).seq + 1)
    if changed then (updated.mailboxSeqUpdate strategy state.id 0).1 else updated

/-! ## The refresh -/

/-- The states at the end of the notifications, before the recent messages are
flushed. -/
def notified (conf : LoadConf) (viewer : Viewer) (old new : MailboxState) : Notify :=
  let expunged := mailboxNotifyExpunge viewer ⟨old.leftover conf, new, counters viewer old new⟩
  expunged.old.ids.foldl (notifyFetch viewer) { expunged with sent := expunged.sent ++ flagLines old new }

theorem notifications_eq (conf : LoadConf) (viewer : Viewer) (old new : MailboxState) :
    notifications conf viewer old new =
      ((notified conf viewer old new).new.flushRecent, (notified conf viewer old new).sent) := rfl

/-- `dbmail_imap_session_mailbox_status` with `update`, on the tables. -/
def Tables.refresh (conf : ServerConf) (viewer : Viewer) (tables : Tables) (state : MailboxState) :
    Tables × MailboxState × List Response :=
  let db := tables.view state.id
  let old := state.consulted db
  let writes :=
    if old.outdated db then
      (notified conf.load viewer old (old.successor conf.load db)).new.flushTables
        conf.store.seqStrategy (tables.markDeleted (old.refreshMarks conf.load db))
    else tables
  (writes, mailboxStatus conf.load db viewer state)

/-! ## Cached states -/

/-- The sequence of the mailbox has grown, as an `unsigned` shows it. -/
def MailboxState.superseded (state : MailboxState) (db : MailboxDb) : Bool :=
  state.seq % 2 ^ 32 < ((blank state.id).getSeq db).seq % 2 ^ 32

/-- `dbmail_imap_session_mbxinfo_lookup` for a mailbox that is not selected, with the
state that is cached for it. A full load never lets EXISTS decrease. -/
def Tables.mbxinfoLookup (conf : LoadConf) (tables : Tables) (cached : Option MailboxState)
    (id : Nat) : Tables × MailboxState :=
  let db := tables.view id
  let new := MailboxState.new conf db id
  let marked := tables.markDeleted ((MailboxState.blank id).loadMarks conf db true)
  match cached with
  | none => (marked, new)
  | some state =>
    let old := state.consulted db
    if old.superseded db then
      (marked, { new with existsCount := max old.getExists new.getExists })
    else (tables, old)

/-! ## What a refresh keeps of the loaded state -/

section Keeps

variable {viewer : Viewer} {notify : Notify}

def SameAccess (first second : MailboxState) : Prop :=
  first.id = second.id ∧ first.permission = second.permission

theorem SameAccess.trans {first second third : MailboxState} (same : SameAccess first second)
    (next : SameAccess second third) : SameAccess first third :=
  ⟨same.1.trans next.1, same.2.trans next.2⟩

theorem expungeTurn_new (uid : Nat) :
    SameAccess (expungeTurn viewer notify uid).new notify.new := by
  unfold expungeTurn
  cases notify.new.msginfo.lookup uid with
  | none => exact ⟨rfl, rfl⟩
  | some info =>
    dsimp only
    by_cases kept : uid ∈ notify.new.ids
    · rw [if_pos kept]
      exact ⟨rfl, rfl⟩
    · rw [if_neg kept]
      unfold notifyExpunge
      split
      · split
        · exact ⟨rfl, rfl⟩
        · split <;> exact ⟨rfl, rfl⟩
      · exact ⟨rfl, rfl⟩

theorem notifyFetch_new (uid : Nat) :
    SameAccess (notifyFetch viewer notify uid).new notify.new := by
  unfold notifyFetch
  cases notify.new.msginfo.lookup uid with
  | none => exact ⟨rfl, rfl⟩
  | some info =>
    dsimp only
    split <;> exact ⟨rfl, rfl⟩

theorem notified_new (conf : LoadConf) (viewer : Viewer) (old new : MailboxState) :
    SameAccess (notified conf viewer old new).new new := by
  apply List.foldlRecOn (motive := fun notify : Notify => SameAccess notify.new new)
  · apply List.foldlRecOn (motive := fun notify : Notify => SameAccess notify.new new)
    · exact ⟨rfl, rfl⟩
    · exact fun notify same uid _ => (expungeTurn_new uid).trans same
  · exact fun notify same uid _ => (notifyFetch_new uid).trans same

end Keeps

def MailboxDb.permission (db : MailboxDb) : Nat := (db.mailbox.map MailboxRow.permission).getD 0

def MailboxDb.seq (db : MailboxDb) : Nat := (db.mailbox.map MailboxRow.seq).getD 0

theorem MailboxState.loadMetadata_permission {state : MailboxState} {db : MailboxDb}
    (fresh : state.uidnext = 0) (unknown : state.permission = 0) :
    (state.loadMetadata db).permission = db.permission := by
  have sameUidnext : (state.getmailboxSeq db).uidnext = 0 := by
    unfold getmailboxSeq
    cases db.mailbox <;> exact fresh
  have samePermission : (state.getmailboxSeq db).permission = 0 := by
    unfold getmailboxSeq
    cases db.mailbox <;> exact unknown
  unfold loadMetadata
  rw [if_neg (by simp [sameUidnext])]
  rw [samePermission]
  rfl

theorem MailboxState.refreshed_permission (conf : LoadConf) (db : MailboxDb) (state : MailboxState) :
    (state.refreshed conf db).permission = db.permission := by
  unfold refreshed
  split <;> exact loadMetadata_permission rfl rfl

theorem loadMetadata_blank (id : Nat) :
    ((MailboxState.blank id).loadMetadata db).existsCount = db.liveRows.length ∧
      ((MailboxState.blank id).loadMetadata db).seq = db.seq ∧
      ((MailboxState.blank id).loadMetadata db).msginfo = KeyTree.empty := by
  have fresh : ((MailboxState.blank id).getmailboxSeq db).uidnext = 0 := by
    unfold getmailboxSeq
    cases db.mailbox <;> rfl
  unfold loadMetadata
  rw [if_neg (by simp [fresh])]
  refine ⟨rfl, ?_, ?_⟩
  · unfold getmailboxSeq MailboxDb.seq
    cases db.mailbox <;> rfl
  · unfold getmailboxSeq
    cases db.mailbox <;> rfl

/-- A full load has a message for each live row. -/
theorem new_reflects (conf : LoadConf) (db : MailboxDb) (id : Nat) :
    (∀ row ∈ db.liveRows, ∃ info, (MailboxState.new conf db id).msginfo.lookup row.uid = some info ∧
      info.Reflects row (row.uid ∈ (MailboxState.blank id).loadMarks conf db true)) ∧
      ∀ uid, uid ∉ db.liveRows.map Row.uid →
        (MailboxState.new conf db id).msginfo.lookup uid = none := by
  have unique : (db.liveRows.map Row.uid).Nodup := db.unique.sublist (filter_sublist.map _)
  obtain ⟨rows, others⟩ := @LoadConf.readRows_reflect conf db.liveRows
    ⟨KeyTree.empty, conf.syncBatchSize⟩ unique
  have loaded : (MailboxState.new conf db id).msginfo =
      (db.liveRows.foldl (conf.readRow true) ⟨KeyTree.empty, conf.syncBatchSize⟩).msginfo := by
    show (db.liveRows.foldl (conf.readRow true)
      ⟨((MailboxState.blank id).loadMetadata db).msginfo, conf.syncBatchSize⟩).msginfo = _
    rw [(loadMetadata_blank db id).2.2]
  rw [loaded]
  exact ⟨rows, fun uid absent => others uid absent⟩

theorem getSeq_blank (id : Nat) : ((MailboxState.blank id).getSeq db).seq = db.seq := by
  unfold getSeq getmailboxSeq MailboxDb.seq
  cases db.mailbox <;> rfl

theorem consulted_seq : (state.consulted db).seq = if state.seq = 0 then db.seq else state.seq := by
  show (state.getSeq db).seq = _
  unfold getSeq getmailboxSeq MailboxDb.seq
  split
  · rename_i unknown
    cases db.mailbox with
    | none => exact unknown
    | some row => rfl
  · rfl

theorem getExists_consulted : (state.consulted db).getExists = state.getExists := by
  have ids := (state.consulted_keeps db).1
  have count : (state.consulted db).existsCount = state.getExists := rfl
  have atLeast := state.length_le_getExists
  rw [getExists, count, ids, if_neg (by omega)]

end Dbmail.Mailbox
