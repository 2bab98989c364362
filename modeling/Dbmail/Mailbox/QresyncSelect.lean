import Dbmail.Mailbox.Qresync
import Mathlib.Data.List.Dedup

/-!
Contract: whether SELECT with QRESYNC arguments brings a client up to date.

Owns the SELECT of a session with whatever state it has cached, the messages that
the state lists and tells to have vanished, and the exact condition on the tables
and the session under which the client ends with the current mailbox.

Does not own: how the sequences of the messages came about.
-/

namespace Dbmail.Mailbox

open Dbmail.Lib Dbmail.Imap MailboxState BoxSession Tables List KeyTree

/-! ## SELECT -/

namespace BoxSession

variable (conf : ServerConf) (mailbox : Nat) (session : BoxSession)

def selectQresync (select : Bool) (args : QresyncArgs) : Except Fault (List ResyncResponse) :=
  match (session.open_ conf mailbox ⟨select, true, true⟩).cached with
  | none => .ok []
  | some state => state.qresync args

def marks : List Nat := (MailboxState.blank mailbox).loadMarks conf.load (session.db mailbox) true

def listed : List Nat :=
  if session.stale mailbox then (session.db mailbox).liveRows.map Row.uid
  else (session.cached.map fun state => state.msginfo.keys).getD []

def newer (modseq uid : Nat) : Bool :=
  if session.stale mailbox then
    (session.db mailbox).liveRows.any fun row => row.uid = uid && modseq < row.seq
  else session.cached.any fun state => state.newer modseq uid

/-- A listed message is told to have vanished. A load lists no message that is expunged
already, but those that it marks itself. -/
def vanishing (modseq uid : Nat) : Bool :=
  if session.stale mailbox then uid ∈ session.marks conf mailbox && session.newer mailbox modseq uid
  else session.cached.any fun state => state.vanishing modseq uid

def keeps (uid : Nat) : Bool :=
  session.tables.liveIn mailbox uid && !(session.stale mailbox && uid ∈ session.marks conf mailbox)

end BoxSession

def ClientResynchronised (conf : ServerConf) (mailbox : Nat) (before : Tables) (session : BoxSession)
    (select : Bool) (args : QresyncArgs) : Prop :=
  ∃ responses, session.selectQresync conf mailbox select args = .ok responses ∧
    Resynchronised mailbox before (session.open_ conf mailbox ⟨select, true, true⟩).tables responses

/-- Each message that the client knew and that is gone lies between two vanishing ones that
have only vanishing ones between them, and an empty mailbox does not list a newer message 1. -/
def GoneListed (conf : ServerConf) (mailbox : Nat) (before : Tables) (session : BoxSession)
    (modseq : Nat) : Prop :=
  (∀ uid, before.liveIn mailbox uid = true → session.keeps conf mailbox uid = false →
    Between (session.vanishing conf mailbox modseq) (session.listed mailbox) uid) ∧
  ¬ ((∀ uid, session.keeps conf mailbox uid = false) ∧ session.newer mailbox modseq 1 = true)

/-! ## States that differ in recent messages -/

section Recent

variable {mailbox : Nat} {tables : Tables} {first second : MailboxState}

structure SameMessages (first second : MailboxState) : Prop where
  id_eq : second.id = first.id
  ids_eq : second.ids = first.ids
  msginfo_eq : second.msginfo = first.msginfo
  keywords_eq : second.keywords = first.keywords

theorem SameMessages.trans {third : MailboxState} (before : SameMessages first second)
    (after : SameMessages second third) : SameMessages first third :=
  ⟨after.id_eq.trans before.id_eq, after.ids_eq.trans before.ids_eq,
    after.msginfo_eq.trans before.msginfo_eq, after.keywords_eq.trans before.keywords_eq⟩

/-- The flags of a message but \Recent depend on its data and the keywords of the state. -/
theorem mem_messageFlags_iff {uid : Nat} {info : MessageInfo} {flag : Bytes}
    (notRecent : flag ≠ lit "\\Recent") :
    flag ∈ first.messageFlags uid info ↔
      flag ∈ (info.flags.described.filter Prod.fst).map Prod.snd ∨
        flag ∈ info.keywords.filter (· ∈ first.keywords) := by
  unfold messageFlags
  split <;> simp [notRecent]

theorem UpToDate.congr (upToDate : UpToDate mailbox tables first) (same : SameMessages first second) :
    UpToDate mailbox tables second := by
  refine ⟨same.id_eq.trans upToDate.id_eq, ⟨?_, ?_⟩, ?_, ?_, ?_⟩
  · rw [same.ids_eq, same.msginfo_eq]
    exact upToDate.held.ids_eq
  · rw [same.msginfo_eq]
    exact upToDate.held.expunged_dead
  · rw [same.msginfo_eq]
    exact upToDate.positive
  · rw [same.ids_eq]
    exact upToDate.listed
  · intro uid info message listed isInfo isMessage
    rw [same.ids_eq] at listed
    rw [same.msginfo_eq] at isInfo
    obtain ⟨seq, flags⟩ := upToDate.current uid info message listed isInfo isMessage
    refine ⟨seq, ?_⟩
    intro flag notRecent
    rw [← flags flag notRecent, mem_messageFlags_iff notRecent, mem_messageFlags_iff notRecent,
      same.keywords_eq]

theorem buildRecent_same (state : MailboxState) : SameMessages state state.buildRecent := by
  unfold buildRecent
  split <;> exact ⟨rfl, rfl, rfl, rfl⟩

theorem flushRecent_same (state : MailboxState) : SameMessages state state.flushRecent := by
  unfold flushRecent
  split <;> exact ⟨rfl, rfl, rfl, rfl⟩

theorem consulted_same (state : MailboxState) (db : MailboxDb) :
    SameMessages state (state.consulted db) := by
  unfold consulted getSeq getmailboxSeq
  split
  · cases db.mailbox <;> exact ⟨rfl, rfl, rfl, rfl⟩
  · exact ⟨rfl, rfl, rfl, rfl⟩

theorem opened_same (command : OpenCommand) (state : MailboxState) :
    SameMessages state (BoxSession.opened command state) := by
  unfold opened
  split
  · exact ⟨rfl, rfl, rfl, rfl⟩
  · obtain ⟨sameId, sameIds, sameInfo, sameKeywords⟩ := buildRecent_same
      { state with permission := if command.select then imappermReadwrite else imappermRead }
    exact ⟨sameId, sameIds, sameInfo, sameKeywords⟩

end Recent

/-! ## What a load sees -/

section Load

variable {mailbox : Nat} {tables : Tables}

variable (uids : List Nat) {row : Row} (uid : Nat)

theorem mem_liveRows_iff : row ∈ (tables.view mailbox).liveRows ↔
      ∃ message, tables.messages.lookup row.uid = some message ∧ message.mailbox = mailbox ∧
        message.status.live = true ∧ row = rowOf (row.uid, message) := by
  unfold MailboxDb.liveRows
  rw [mem_filter]
  show row ∈ tables.rowsOf mailbox ∧ _ ↔ _
  rw [(tables.rowsOf_perm mailbox).mem_iff, mem_map]
  constructor
  · intro ⟨⟨entry, member, isRow⟩, live⟩
    obtain ⟨inTable, here⟩ := mem_filter.mp member
    subst isRow
    exact ⟨entry.2, lookup_of_mem inTable, of_decide_eq_true here, live, rfl⟩
  · intro ⟨message, found, here, live, isRow⟩
    refine ⟨⟨(row.uid, message), ?_, isRow.symm⟩, ?_⟩
    · exact mem_filter.mpr ⟨mem_of_lookup found, decide_eq_true here⟩
    · rw [isRow]
      exact live

theorem liveIn_iff {uid : Nat} :
    tables.liveIn mailbox uid = true ↔ ∃ message, tables.messages.lookup uid = some message ∧
      message.mailbox = mailbox ∧ message.status.live = true := by
  unfold liveIn
  cases tables.messages.lookup uid with
  | none | some => simp

theorem mem_liveUids_iff {uid : Nat} :
    uid ∈ (tables.view mailbox).liveRows.map Row.uid ↔ tables.liveIn mailbox uid = true := by
  rw [mem_map, liveIn_iff]
  constructor
  · intro ⟨row, isRow, same⟩
    obtain ⟨message, found, here, live, _⟩ := mem_liveRows_iff.mp isRow
    subst same
    exact ⟨message, found, here, live⟩
  · intro ⟨message, found, here, live⟩
    exact ⟨rowOf (uid, message), mem_liveRows_iff.mpr ⟨message, found, here, live, rfl⟩, rfl⟩

theorem lookup_markDeleted :
    (tables.markDeleted uids).messages.lookup uid = (tables.messages.lookup uid).map fun message =>
      if uid ∈ uids then { message with status := .delete } else message := by
  unfold markDeleted
  induction uids generalizing tables with
  | nil => simp
  | cons marked rest ih =>
    rw [foldl_cons, ih, setMessageStatus, lookup_update, Option.map_map]
    congr 1
    funext message
    by_cases here : uid = marked
    all_goals
      by_cases later : uid ∈ rest <;> simp [here]

/-- Marks take their messages away and leave the others. -/
theorem visible_markDeleted : (tables.markDeleted uids).visible mailbox uid =
      if uid ∈ uids then none else tables.visible mailbox uid := by
  unfold visible liveIn
  rw [lookup_markDeleted]
  cases tables.messages.lookup uid with
  | none => simp
  | some message =>
    by_cases marked : uid ∈ uids
    · simp [marked, MessageStatus.live]
    · simp [marked]

theorem liveIn_markDeleted :
    (tables.markDeleted uids).liveIn mailbox uid = (tables.liveIn mailbox uid && uid ∉ uids) := by
  rw [← visible_isSome, visible_markDeleted, ← visible_isSome]
  by_cases marked : uid ∈ uids
  · simp [marked]
  · simp [marked]

theorem loaded_flags {info : MessageInfo} {marked : Prop} {state : MailboxState}
    (reflects : info.Reflects row marked) (known : ∀ keyword ∈ row.keywords, keyword ∈ state.keywords)
    {uid : Nat} {flag : Bytes} (notRecent : flag ≠ lit "\\Recent") :
    flag ∈ state.messageFlags uid info ↔
      flag ∈ flagNames { row.flags with recent := false } row.keywords := by
  rw [mem_messageFlags_iff notRecent, reflects.flags_eq, reflects.keywords_eq]
  unfold flagNames MessageInfo.ofRow
  rw [mem_append]
  have named : flag ∈ (row.flags.described.filter Prod.fst).map Prod.snd ↔
      flag ∈ (({ row.flags with recent := false } : Flags).described.filter Prod.fst).map
        Prod.snd := by
    unfold Flags.described
    simp only [mem_map, mem_filter]
    refine exists_congr fun entry => and_congr_left fun isFlag => and_congr_left fun _ => ?_
    -- The two lists differ in their entry of \Recent.
    have other (set : Bool) : entry ≠ (set, lit "\\Recent") := by
      rintro rfl
      exact notRecent isFlag.symm
    simp [other]
  rw [named]
  refine ⟨fun either => either.elim .inl fun keyword => ?_, Or.imp_right fun keyword => ?_⟩
  · obtain isSeen | isKeyword := mem_append.mp (mem_of_mem_filter keyword)
    · -- The loader adds \Seen to the keywords.
      split at isSeen
      · rename_i seen
        rw [mem_singleton.mp isSeen]
        left
        simp [Flags.described, seen]
      · cases isSeen
    · exact .inr isKeyword
  · refine mem_filter.mpr ⟨mem_append_right _ keyword, ?_⟩
    exact decide_eq_true (known flag (mem_of_mem_filter keyword))

theorem new_keywords {conf : LoadConf} {db : MailboxDb} {id : Nat} {row : Row}
    (isRow : row ∈ db.liveRows) :
    ∀ keyword ∈ row.keywords, keyword ∈ (MailboxState.new conf db id).keywords := by
  intro keyword member
  have fresh : ((MailboxState.blank id).getmailboxSeq db).uidnext = 0 := by
    unfold getmailboxSeq
    cases db.mailbox <;> rfl
  show keyword ∈ ((MailboxState.blank id).loadMetadata db).keywords
  unfold loadMetadata
  rw [if_neg (by simp [fresh])]
  apply mem_append_right
  rw [mem_dedup]
  exact mem_flatMap.mpr ⟨row, isRow, member⟩

/-- A message is loaded from its row, if there is one. -/
theorem new_lookup_cases (conf : LoadConf) (db : MailboxDb) (id uid : Nat) :
    (∃ row ∈ db.liveRows, row.uid = uid ∧
      ∃ info, (MailboxState.new conf db id).msginfo.lookup uid = some info ∧
        info.Reflects row (uid ∈ (MailboxState.blank id).loadMarks conf db true)) ∨
    uid ∉ db.liveRows.map Row.uid ∧ (MailboxState.new conf db id).msginfo.lookup uid = none := by
  obtain ⟨rows, others⟩ := new_reflects conf db id
  by_cases listed : uid ∈ db.liveRows.map Row.uid
  · obtain ⟨row, isRow, rfl⟩ := mem_map.mp listed
    exact .inl ⟨row, isRow, rfl, rows row isRow⟩
  · exact .inr ⟨listed, others uid listed⟩

/-- A full load agrees with the tables, once its marks have reached them. -/
theorem new_upToDate (conf : LoadConf) (positive : ∀ uid ∈ tables.messages.keys, 0 < uid) :
    UpToDate mailbox
      (tables.markDeleted ((MailboxState.blank mailbox).loadMarks conf (tables.view mailbox) true))
      (MailboxState.new conf (tables.view mailbox) mailbox) := by
  have held := new_held conf (tables.view mailbox) mailbox
  have rowOf : ∀ uid info, (MailboxState.new conf (tables.view mailbox) mailbox).msginfo.lookup uid =
      some info → ∃ message, tables.messages.lookup uid = some message ∧
        Tables.rowOf (uid, message) ∈ (tables.view mailbox).liveRows ∧
        info.Reflects (Tables.rowOf (uid, message))
          (uid ∈ (MailboxState.blank mailbox).loadMarks conf (tables.view mailbox) true) := by
    intro uid info isInfo
    obtain ⟨row, isRow, rfl, loaded, isLoaded, reflects⟩ | ⟨-, missing⟩ :=
      new_lookup_cases conf (tables.view mailbox) mailbox uid
    · obtain ⟨message, found, _, _, same⟩ := mem_liveRows_iff.mp isRow
      cases isInfo.symm.trans isLoaded
      exact ⟨message, found, same ▸ isRow, same ▸ reflects⟩
    · cases isInfo.symm.trans missing
  refine ⟨new_id _ _ _, held, ?_, ?_, ?_⟩
  · intro uid member
    obtain ⟨info, isInfo⟩ := exists_lookup member
    obtain ⟨message, found, _⟩ := rowOf uid info isInfo
    exact positive uid (mem_keys_of_lookup found)
  · intro uid
    rw [held.ids_eq, mem_keysWhere_iff, liveIn_markDeleted, Bool.and_eq_true, decide_eq_true_iff]
    constructor
    · rintro ⟨info, isInfo, live⟩
      obtain ⟨message, found, isRow, reflects⟩ := rowOf uid info isInfo
      refine ⟨mem_liveUids_iff.mp (mem_map.mpr ⟨_, isRow, rfl⟩), ?_⟩
      intro isMarked
      rw [MessageInfo.live, reflects.marked_status isMarked] at live
      cases live
    · rintro ⟨isLive, spared⟩
      obtain ⟨row, isRow, rfl, info, isInfo, reflects⟩ | ⟨absent, -⟩ :=
        new_lookup_cases conf (tables.view mailbox) mailbox uid
      swap
      · exact absurd (mem_liveUids_iff.mpr isLive) absent
      refine ⟨info, isInfo, ?_⟩
      rw [MessageInfo.live, reflects.kept_status spared]
      exact (mem_filter.mp isRow).2
  · intro uid info message _ isInfo isMessage
    obtain ⟨stored, found, isRow, reflects⟩ := rowOf uid info isInfo
    rw [lookup_markDeleted, found] at isMessage
    have same : message.seq = stored.seq ∧ message.flags = stored.flags ∧
        message.keywords = stored.keywords := by
      split at isMessage <;> cases isMessage <;> exact ⟨rfl, rfl, rfl⟩
    refine ⟨reflects.seq_eq.trans same.1.symm, ?_⟩
    intro flag notRecent
    rw [loaded_flags reflects (new_keywords isRow) notRecent, same.2.1, same.2.2]
    rfl

end Load

/-! ## The state of a SELECT -/

section Session

variable {conf : ServerConf} {mailbox : Nat} {session : BoxSession}

/-- The state that a lookup ends with agrees with the tables and lists what the condition
speaks about. -/
structure Looked (conf : ServerConf) (mailbox : Nat) (session : BoxSession) (tables : Tables)
    (state : MailboxState) : Prop where
  upToDate : UpToDate mailbox tables state
  keys : ∀ uid, uid ∈ state.msginfo.keys ↔ uid ∈ session.listed mailbox
  newer : ∀ modseq, state.newer modseq = session.newer mailbox modseq
  vanishing : ∀ modseq, state.vanishing modseq = session.vanishing conf mailbox modseq
  keeps : ∀ uid, tables.liveIn mailbox uid = session.keeps conf mailbox uid
  visible : ∀ uid, tables.liveIn mailbox uid = true →
    tables.visible mailbox uid = session.tables.visible mailbox uid
  seq : ∀ uid message, session.tables.messages.lookup uid = some message →
    ∃ now, tables.messages.lookup uid = some now ∧ now.seq = message.seq

theorem Looked.congr {tables : Tables} {first second : MailboxState}
    (looked : Looked conf mailbox session tables first) (same : SameMessages first second) :
    Looked conf mailbox session tables second := by
  refine ⟨looked.upToDate.congr same, ?_, ?_, ?_, looked.keeps, looked.visible, looked.seq⟩
  · rw [same.msginfo_eq]
    exact looked.keys
  · intro modseq
    rw [← looked.newer]
    unfold MailboxState.newer
    rw [same.msginfo_eq]
  · intro modseq
    rw [← looked.vanishing]
    unfold MailboxState.vanishing
    rw [same.msginfo_eq]

theorem loaded_looked (positive : ∀ uid ∈ session.tables.messages.keys, 0 < uid)
    (stale : session.stale mailbox = true) :
    Looked conf mailbox session (session.tables.markDeleted (session.marks conf mailbox))
      (MailboxState.new conf.load (session.tables.view mailbox) mailbox) := by
  have unique : (session.db mailbox).liveRows.map Row.uid |>.Nodup :=
    (session.db mailbox).unique.sublist (filter_sublist.map _)
  have loads := new_lookup_cases conf.load (session.tables.view mailbox) mailbox
  have newer : ∀ modseq uid,
      (MailboxState.new conf.load (session.tables.view mailbox) mailbox).newer modseq uid =
        session.newer mailbox modseq uid := by
    intro modseq uid
    unfold MailboxState.newer BoxSession.newer
    rw [if_pos stale, Bool.eq_iff_iff, any_eq_true]
    simp only [Bool.and_eq_true, decide_eq_true_eq]
    obtain ⟨row, isRow, rfl, info, isInfo, reflects⟩ | ⟨absent, missing⟩ := loads uid
    · rw [isInfo, Option.any_some, decide_eq_true_iff, reflects.seq_eq]
      refine ⟨fun above => ⟨row, isRow, rfl, above⟩, fun ⟨other, isOther, here, above⟩ => ?_⟩
      obtain rfl : other = row := inj_on_of_nodup_map unique isOther isRow here
      exact above
    · rw [missing]
      refine iff_of_false nofun fun ⟨row, isRow, here, _⟩ => ?_
      exact absent (mem_map.mpr ⟨row, isRow, here⟩)
  refine ⟨new_upToDate conf.load positive, ?_, fun modseq => funext (newer modseq), ?_, ?_, ?_, ?_⟩
  · intro uid
    rw [← lookup_isSome_iff, listed, if_pos stale]
    obtain ⟨row, isRow, rfl, info, isInfo, _⟩ | ⟨absent, missing⟩ := loads uid
    · rw [isInfo]
      exact iff_of_true rfl (mem_map_of_mem isRow)
    · rw [missing]
      exact iff_of_false nofun absent
  · intro modseq
    funext uid
    unfold BoxSession.vanishing
    rw [if_pos stale, ← newer]
    unfold MailboxState.vanishing MailboxState.newer
    obtain ⟨row, isRow, rfl, info, isInfo, reflects⟩ | ⟨-, missing⟩ := loads uid
    · have status : info.status = .delete ↔ row.uid ∈ session.marks conf mailbox := by
        refine ⟨fun deleted => ?_, reflects.marked_status⟩
        by_contra spared
        have live : row.status.live = true := (mem_filter.mp isRow).2
        rw [← reflects.kept_status spared, deleted] at live
        cases live
      rw [isInfo]
      simp only [Option.any_some, status]
      exact Bool.and_comm _ _
    · simp [missing]
  · intro uid
    rw [liveIn_markDeleted, keeps, stale]
    simp
  · intro uid isLive
    rw [liveIn_markDeleted, Bool.and_eq_true, decide_eq_true_iff] at isLive
    rw [visible_markDeleted, if_neg isLive.2]
  · intro uid message isMessage
    rw [lookup_markDeleted, isMessage]
    refine ⟨_, rfl, ?_⟩
    split <;> rfl

/-- A cached state that is not superseded is taken as it is. -/
theorem cached_looked {state : MailboxState} (fresh : session.stale mailbox = false)
    (isCached : session.cached = some state) (upToDate : UpToDate mailbox session.tables state) :
    Looked conf mailbox session session.tables state := by
  have notStale : ¬ session.stale mailbox = true := by simp [fresh]
  refine ⟨upToDate, ?_, ?_, ?_, ?_, fun _ _ => rfl, fun _ message found => ⟨message, found, rfl⟩⟩
  · intro uid
    rw [listed, if_neg notStale, isCached]
    rfl
  · intro modseq
    funext uid
    rw [BoxSession.newer, if_neg notStale, isCached]
    rfl
  · intro modseq
    funext uid
    rw [BoxSession.vanishing, if_neg notStale, isCached]
    rfl
  · intro uid
    rw [keeps, fresh]
    simp

theorem look_looked (detached : session.attached = false)
    (positive : ∀ uid ∈ session.tables.messages.keys, 0 < uid)
    (coherent : session.stale mailbox = false → ∀ state, session.cached = some state →
      UpToDate mailbox session.tables state) :
    ∃ state, (session.look conf mailbox).cached = some state ∧
      Looked conf mailbox session (session.look conf mailbox).tables state := by
  have notAttached : ¬ session.attached = true := by simp [detached]
  unfold look
  rw [if_neg notAttached]
  unfold mbxinfoLookup
  cases isCached : session.cached with
  | none =>
    have stale : session.stale mailbox = true := by
      unfold BoxSession.stale
      rw [isCached]
    exact ⟨_, rfl, loaded_looked positive stale⟩
  | some state =>
    have isStale : session.stale mailbox =
        (state.consulted (session.tables.view mailbox)).superseded (session.tables.view mailbox) := by
      unfold BoxSession.stale
      rw [isCached]
      rfl
    dsimp only
    split
    · rename_i superseded
      refine ⟨_, rfl, ?_⟩
      exact (loaded_looked positive (isStale.trans superseded)).congr ⟨rfl, rfl, rfl, rfl⟩
    · rename_i current
      have fresh : session.stale mailbox = false := by
        rw [isStale]
        exact Bool.eq_false_iff.mpr current
      refine ⟨_, rfl, ?_⟩
      exact (cached_looked fresh isCached (coherent fresh state isCached)).congr
        (consulted_same state _)

/-- The flush of recent messages changes nothing that a client keeps. -/
theorem visible_flushTables (state : MailboxState) (strategy : Int) (tables : Tables) (uid : Nat) :
    (state.flushTables strategy tables).visible mailbox uid = tables.visible mailbox uid := by
  have kept : ∀ uids seq, (tables.updateRecent uids seq).1.visible mailbox uid =
      tables.visible mailbox uid := by
    intro uids seq
    unfold updateRecent visible liveIn
    rw [lookup_update]
    cases tables.messages.lookup uid with
    | none => rfl
    | some message =>
      simp only [Option.map_some]
      split <;> rfl
  unfold flushTables
  split
  · rfl
  · dsimp only
    split
    · unfold visible liveIn
      rw [messages_mailboxSeqUpdate]
      exact kept _ _
    · exact kept _ _

/-- The state that the QRESYNC part of a SELECT works on. -/
theorem open_looked (select : Bool) (positive : ∀ uid ∈ session.tables.messages.keys, 0 < uid)
    (coherent : session.left.stale mailbox = false → ∀ state, session.left.cached = some state →
      UpToDate mailbox session.tables state) :
    ∃ state tables, (session.open_ conf mailbox ⟨select, true, true⟩).cached = some state ∧
      Looked conf mailbox session.left tables state ∧
      ∀ uid, (session.open_ conf mailbox ⟨select, true, true⟩).tables.visible mailbox uid =
        tables.visible mailbox uid := by
  obtain ⟨state, isState, looked⟩ := @look_looked conf mailbox session.left session.left_unattached
    (by rw [session.left_tables]; exact positive) (by rw [session.left_tables]; exact coherent)
  have enteredCached : (session.entered conf mailbox ⟨select, true, true⟩).cached =
      some (opened ⟨select, true, true⟩ state) := by
    show (session.left.look conf mailbox).cached.map _ = _
    rw [isState]
    rfl
  have isSelected : (session.entered conf mailbox ⟨select, true, true⟩).selected = true := rfl
  cases select with
  | true =>
    have isOpen : session.open_ conf mailbox ⟨true, true, true⟩ =
        { session.entered conf mailbox ⟨true, true, true⟩ with
          tables := (opened ⟨true, true, true⟩ state).flushTables
            conf.store.seqStrategy (session.left.look conf mailbox).tables
          cached := some (opened ⟨true, true, true⟩ state).flushRecent } := by
      unfold open_
      dsimp only
      rw [enteredCached]
      rfl
    rw [isOpen]
    refine ⟨_, (session.left.look conf mailbox).tables, rfl, ?_, ?_⟩
    · exact looked.congr ((opened_same _ state).trans (flushRecent_same _))
    · exact visible_flushTables _ _ _
  | false =>
    have isOpen : session.open_ conf mailbox ⟨false, true, true⟩ =
        session.entered conf mailbox ⟨false, true, true⟩ := by
      rfl
    exact ⟨_, (session.left.look conf mailbox).tables, enteredCached,
      looked.congr (opened_same _ state), fun _ => rfl⟩

theorem resynchronised_congr {before now other : Tables} {responses : List ResyncResponse}
    (same : ∀ uid, now.visible mailbox uid = other.visible mailbox uid)
    (resynchronised : Resynchronised mailbox before now responses) :
    Resynchronised mailbox before other responses := by
  have live : ∀ uid, now.liveIn mailbox uid = other.liveIn mailbox uid := by
    intro uid
    rw [← visible_isSome, same, visible_isSome]
  obtain ⟨uids, changed, flags⟩ := resynchronised
  simp only [live, same] at uids changed flags
  exact ⟨uids, changed, flags⟩

end Session

/-- A client that knew the mailbox is brought up to date by a SELECT with its UIDVALIDITY and
a sequence that every later change went beyond, exactly if each message it knew that is gone
lies among messages that are listed as vanished. A load lists none that was expunged
before. -/
theorem resynchronised_iff (conf : ServerConf) {mailbox modseq : Nat} (mailbox_pos : 0 < mailbox)
    (modseq_pos : 0 < modseq) {before : Tables} {session : BoxSession} (select : Bool)
    (positive : ∀ uid ∈ session.tables.messages.keys, 0 < uid)
    (sequenced : Sequenced mailbox before session.tables modseq)
    (coherent : session.left.stale mailbox = false → ∀ state, session.left.cached = some state →
      UpToDate mailbox session.tables state) :
    ClientResynchronised conf mailbox before session select
        (.bare mailbox modseq mailbox_pos modseq_pos) ↔
      GoneListed conf mailbox before session.left modseq := by
  obtain ⟨state, tables, isState, looked, visible⟩ := open_looked select positive coherent
  have answers : session.selectQresync conf mailbox select
      (.bare mailbox modseq mailbox_pos modseq_pos) =
      state.qresync (.bare mailbox modseq mailbox_pos modseq_pos) := by
    unfold selectQresync
    rw [isState]
  have changes : ∀ uid, tables.liveIn mailbox uid = true →
      before.visible mailbox uid ≠ tables.visible mailbox uid →
        ∃ message, tables.messages.lookup uid = some message ∧ modseq < message.seq := by
    intro uid isLive changed
    rw [looked.visible uid isLive, session.left_tables] at changed
    obtain ⟨message, isMessage, _, above⟩ := sequenced uid changed
    obtain ⟨now, isNow, seq⟩ := looked.seq uid message (session.left_tables ▸ isMessage)
    exact ⟨now, isNow, seq ▸ above⟩
  have exactly := qresync_iff mailbox_pos modseq_pos looked.upToDate changes
  have empty : state.ids = [] ↔ ∀ uid, session.left.keeps conf mailbox uid = false := by
    rw [eq_nil_iff_forall_not_mem]
    simp [looked.upToDate.listed, looked.keeps]
  unfold GoneListed
  rw [← looked.vanishing, ← looked.newer, ← empty]
  simp only [← looked.keeps, ← between_congr looked.keys]
  rw [← exactly]
  unfold ClientResynchronised
  rw [answers]
  constructor
  · intro ⟨responses, isOk, resynchronised⟩
    exact ⟨responses, isOk, resynchronised_congr visible resynchronised⟩
  · intro ⟨responses, isOk, resynchronised⟩
    exact ⟨responses, isOk, resynchronised_congr (fun uid => (visible uid).symm) resynchronised⟩

/-! ## A flag change and an expunge -/

def knownTables : Tables where
  mailboxes := KeyTree.empty.insert 1 ⟨⟨4, imappermReadwrite⟩, 2⟩
  messages := (KeyTree.empty.insert 7 ⟨1, .seen, {}, 3, [], 100⟩).insert 8 ⟨1, .seen, {}, 4, [], 100⟩

def changedTables (status : MessageStatus) (flags : Flags) : Tables where
  mailboxes := KeyTree.empty.insert 1 ⟨⟨5, imappermReadwrite⟩, 2⟩
  messages := (KeyTree.empty.insert 7 ⟨1, .seen, {}, 3, [], 100⟩).insert 8 ⟨1, status, flags, 5, [], 100⟩

theorem changedTables_sequenced (status : MessageStatus) (flags : Flags) :
    Sequenced 1 knownTables (changedTables status flags) 4 := by
  intro uid changed
  by_cases second : uid = 8
  · subst second
    exact ⟨⟨1, status, flags, 5, [], 100⟩, rfl, rfl, Nat.lt_succ_self 4⟩
  · have same : knownTables.messages.lookup uid =
        (changedTables status flags).messages.lookup uid := by
      unfold knownTables changedTables
      rw [lookup_insert, if_neg second, lookup_insert _ 8, if_neg second]
    unfold visible liveIn at changed
    rw [same] at changed
    exact absurd rfl changed

/-- Another session has flagged the second message. -/
theorem flag_resynchronised :
    ClientResynchronised {} 1 knownTables (.start (changedTables .seen { flagged := true })) true
      (.bare 1 4 (by decide) (by decide)) := by
  refine (resynchronised_iff {} (by decide) (by decide) true (by decide +kernel)
    (changedTables_sequenced _ _) (fun _ state none => by cases none)).mpr ⟨?_, ?_⟩
  · intro uid known gone
    have listed : uid = 7 ∨ uid = 8 := by
      by_contra other
      rw [not_or] at other
      unfold Tables.liveIn knownTables at known
      rw [lookup_insert, if_neg other.2, lookup_insert, if_neg other.1] at known
      cases known
    rcases listed with rfl | rfl <;> exact absurd gone (by decide +kernel)
  · intro ⟨empty, _⟩
    exact absurd (empty 7) (by decide +kernel)

/-- Another session has expunged the second message: nothing tells the client. -/
theorem expunge_not_resynchronised :
    Sequenced 1 knownTables (changedTables .delete { deleted := true }) 4 ∧
      ¬ ClientResynchronised {} 1 knownTables
        (.start (changedTables .delete { deleted := true })) true
        (.bare 1 4 (by decide) (by decide)) := by
  refine ⟨changedTables_sequenced _ _, ?_⟩
  intro ⟨responses, isOk, resynchronised⟩
  have silent : (start (changedTables .delete { deleted := true })).selectQresync {} 1 true
      (.bare 1 4 (by decide) (by decide)) = .ok [] := by decide +kernel
  cases isOk
  have told : ¬ Vanished [] 8 := fun ⟨_, member, _⟩ => by cases member
  have kept := (resynchronised.uids 8).mp (.inl ⟨by decide +kernel, told⟩)
  exact absurd kept (by decide +kernel)

end Dbmail.Mailbox
