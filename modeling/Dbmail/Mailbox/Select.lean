import Dbmail.Mailbox.Sequences
import Mathlib.Data.List.Find

/-!
Contract: what SELECT and EXAMINE announce.

Owns the EXISTS, UNSEEN and HIGHESTMODSEQ responses of `_ic_select_enter` with
`mailbox_first_unseen`, and a condition on the steps of a session under which
every announcement agrees with the tree of messages and with the tables that
were loaded into it.

Does not own: the other responses of SELECT, and QRESYNC.
-/

namespace Dbmail.Mailbox

open Dbmail.Lib Dbmail.Imap MailboxState BoxSession KeyTree List Option

/-! ## The announcement -/

structure Announcement where
  existsCount : Nat
  unseen : Option Nat
  highestmodseq : Nat

/-- `mailbox_first_unseen`, over the tree of messages. -/
def MailboxState.firstUnseen (state : MailboxState) : Option Nat :=
  (state.msginfo.entries.find? fun entry => !entry.2.flags.seen).map Prod.fst

/-- The responses of `_ic_select_enter`; `allowUnseen` is `command_select_allow_unseen`. -/
def announce (allowUnseen : Int) (select : Bool) (db : MailboxDb) (state : MailboxState) :
    Announcement where
  existsCount := state.getExists
  unseen :=
    if select ∧ allowUnseen = 1 ∧ state.getExists ≠ 0 then
      match state.firstUnseen with
      | none => none
      | some uid => if 0 < uid ∧ uid ∈ state.ids then some (state.msn uid) else none
    else none
  highestmodseq := (state.getSeq db).seq

def MailboxState.unseen (state : MailboxState) (uid : Nat) : Bool :=
  (state.msginfo.lookup uid).any fun info => !info.flags.seen

structure AnnouncesExactly (allowUnseen : Int) (select : Bool) (db : MailboxDb)
    (loaded : Option MailboxDb) (state : MailboxState) : Prop where
  listed : (announce allowUnseen select db state).existsCount = state.ids.length
  stored : ∃ seen, loaded = some seen ∧
    (announce allowUnseen select db state).existsCount = seen.liveRows.length
  unseen : select = true → (announce allowUnseen select db state).unseen =
    (state.ids.find? state.unseen).map state.msn
  modseq : ∀ uid ∈ state.ids, ∀ info, state.msginfo.lookup uid = some info →
    info.seq ≤ (announce allowUnseen select db state).highestmodseq

variable (conf : ServerConf)

def SelectAnnounces (allowUnseen : Int) (mailbox : Nat) (session : BoxSession) :
    BoxStep → Prop
  | .open_ command =>
    let entered := session.entered conf mailbox command
    entered.selected = true → ∀ state, entered.cached = some state →
      AnnouncesExactly allowUnseen command.select (entered.db mailbox) entered.loaded state
  | _ => True

/-! ## The condition on the steps -/

/-- The mailbox has a sequence that no live message exceeds, and the load marks nothing. -/
structure LoadExact (conf : LoadConf) (db : MailboxDb) : Prop where
  positive : 0 < db.seq
  bounded : ∀ row ∈ db.liveRows, row.seq ≤ db.seq ∧ 0 < row.uid
  idle : ¬ conf.Syncs db.liveRows

/-- A lookup compares sequences below 2^32; if it loads the mailbox, it has not shrunk
below the count of the cached state. -/
def LookExact (mailbox : Nat) (session : BoxSession) : Prop :=
  session.attached = false → (session.db mailbox).seq < 2 ^ 32 ∧
      (session.stale mailbox = true → LoadExact conf.load (session.db mailbox) ∧
        ∀ state, session.cached = some state →
          state.getExists ≤ (session.db mailbox).liveRows.length)

/-- A refresh that finds the mailbox changed loads it whole, and it has not shrunk. -/
def RefreshExact (session : BoxSession) : Prop :=
  session.selected = true → ∀ state, session.cached = some state →
    let db := session.tables.view state.id
    (state.consulted db).outdated db = true →
      (state.consulted db).reloads conf.load = true ∧ LoadExact conf.load db ∧
        state.getExists ≤ db.liveRows.length

/-- An APPEND takes one from the sequence of a state, and leaves a positive one. -/
def AppendExact (mailbox : Nat) (session : BoxSession) : Prop :=
  LookExact conf mailbox session ∧ session.tables.seqOf mailbox < 2 ^ 64 ∧
    if session.attached = false ∧ session.stale mailbox = true then 2 ≤ (session.db mailbox).seq
    else ∀ state, session.cached = some state → 2 ≤ state.seq

def ExactStep (allowUnseen : Int) (mailbox : Nat) (session : BoxSession) :
    BoxStep → Prop
  | .others tables => session.tables.seqOf mailbox ≤ tables.seqOf mailbox
  | .lookup => LookExact conf mailbox session
  | .open_ command =>
    LookExact conf mailbox session.left ∧ (command.select = true → allowUnseen = 1)
  | .refresh _ => RefreshExact conf session
  | .append _ => AppendExact conf mailbox session
  | .store _ _ _ _ | .expunge _ _ | .close _ _ => Counting conf.store.seqStrategy
  | .fetch _ _ | .copy _ _ _ | .unselect => True

/-! ## Full loads -/

section Load

variable {conf : LoadConf} {db : MailboxDb}

/-- The state lists all its messages, as many as were loaded, and counts no more; no message
is newer than the state. -/
structure Exact (db : MailboxDb) (state : MailboxState) : Prop where
  ids_eq : state.ids = state.msginfo.keys
  counted : state.existsCount ≤ state.ids.length
  loaded : db.liveRows.length = state.ids.length
  live : ∀ entry ∈ state.msginfo.entries, entry.2.live = true
  bounded : ∀ entry ∈ state.msginfo.entries, entry.2.seq ≤ state.seq
  positive : ∀ uid ∈ state.ids, 0 < uid

theorem Exact.getExists_eq {state : MailboxState} (exactly : Exact db state) :
    state.getExists = state.ids.length := by
  have counted := exactly.counted
  unfold getExists
  split
  · rfl
  · omega

/-- A full load that marks nothing brings one live message for each row. -/
theorem new_exact (loadExact : LoadExact conf db) (id : Nat) :
    Exact db (MailboxState.new conf db id) ∧ (MailboxState.new conf db id).seq = db.seq := by
  obtain ⟨isExists, isSeq, -⟩ := loadMetadata_blank db id
  obtain ⟨rows, others⟩ := new_reflects conf db id
  have unmarked : (MailboxState.blank id).loadMarks conf db true = [] :=
    LoadConf.markedBy_unmarked loadExact.idle _
  have fromRow : ∀ entry ∈ (MailboxState.new conf db id).msginfo.entries,
      ∃ row ∈ db.liveRows, entry.1 = row.uid ∧ entry.2.live = true ∧ entry.2.seq = row.seq := by
    intro entry member
    have found := lookup_of_mem member
    by_cases listed : entry.1 ∈ db.liveRows.map Row.uid
    · obtain ⟨row, isRow, same⟩ := mem_map.mp listed
      obtain ⟨info, isInfo, reflects⟩ := rows row isRow
      rw [same, found] at isInfo
      cases isInfo
      refine ⟨row, isRow, same.symm, ?_, reflects.seq_eq⟩
      rw [MessageInfo.live, reflects.kept_status (by simp [unmarked])]
      exact (mem_filter.mp isRow).2
    · rw [others entry.1 listed] at found
      cases found
  have ids : (MailboxState.new conf db id).ids = (MailboxState.new conf db id).msginfo.keys := by
    apply keysWhere_eq_keys
    intro entry member
    obtain ⟨_, _, _, live, _⟩ := fromRow entry member
    exact live
  have size : db.liveRows.length = (MailboxState.new conf db id).ids.length := by
    have unique : (db.liveRows.map Row.uid).Nodup := db.unique.sublist (filter_sublist.map _)
    have same : (db.liveRows.map Row.uid).Perm (MailboxState.new conf db id).msginfo.keys := by
      refine (perm_ext_iff_of_nodup unique (sorted _).nodup).mpr fun uid => ⟨?_, ?_⟩
      · intro listed
        obtain ⟨row, isRow, rfl⟩ := mem_map.mp listed
        obtain ⟨info, isInfo, -⟩ := rows row isRow
        exact mem_keys_of_lookup isInfo
      · intro inTree
        obtain ⟨entry, inEntries, rfl⟩ := mem_map.mp inTree
        obtain ⟨row, isRow, isUid, _⟩ := fromRow entry inEntries
        exact isUid ▸ mem_map_of_mem isRow
    rw [ids, ← same.length_eq, length_map]
  have seq : (MailboxState.new conf db id).seq = db.seq := isSeq
  refine ⟨⟨ids, ?_, size, ?_, ?_, ?_⟩, seq⟩
  · show ((MailboxState.blank id).loadMetadata db).existsCount ≤ _
    rw [isExists, size]
  · intro entry member
    obtain ⟨_, _, _, live, _⟩ := fromRow entry member
    exact live
  · intro entry member
    obtain ⟨row, isRow, _, _, isSeq⟩ := fromRow entry member
    rw [seq, isSeq]
    exact (loadExact.bounded row isRow).1
  · intro uid member
    rw [ids] at member
    obtain ⟨entry, inEntries, rfl⟩ := mem_map.mp member
    obtain ⟨row, isRow, isUid, _⟩ := fromRow entry inEntries
    rw [isUid]
    exact (loadExact.bounded row isRow).2

end Load

/-! ## States that are only retouched -/

/-- The list and the count are the same, and so are the sequences and which messages are
live; flags, permission and recent marks may differ. -/
structure Retouched (before after : MailboxState) : Prop where
  id : after.id = before.id
  seq : after.seq = before.seq
  ids : after.ids = before.ids
  existsCount : after.existsCount = before.existsCount
  keys : after.msginfo.keys = before.msginfo.keys
  seqs : ∀ entry ∈ after.msginfo.entries, ∃ old ∈ before.msginfo.entries,
    old.2.seq = entry.2.seq ∧ old.2.live = entry.2.live

section Retouched

variable {before middle after state : MailboxState} {db : MailboxDb}

theorem Retouched.refl (state : MailboxState) : Retouched state state :=
  ⟨rfl, rfl, rfl, rfl, rfl, fun entry member => ⟨entry, member, rfl, rfl⟩⟩

theorem Retouched.of_msginfo (id : after.id = before.id) (seq : after.seq = before.seq)
    (ids : after.ids = before.ids) (existsCount : after.existsCount = before.existsCount)
    (msginfo : after.msginfo = before.msginfo) : Retouched before after :=
  ⟨id, seq, ids, existsCount, by rw [msginfo],
    fun entry member => ⟨entry, msginfo ▸ member, rfl, rfl⟩⟩

theorem Retouched.trans (first : Retouched before middle) (second : Retouched middle after) :
    Retouched before after where
  id := second.id.trans first.id
  seq := second.seq.trans first.seq
  ids := second.ids.trans first.ids
  existsCount := second.existsCount.trans first.existsCount
  keys := second.keys.trans first.keys
  seqs := by
    intro entry member
    obtain ⟨between, inMiddle, sameSeq, sameLive⟩ := second.seqs entry member
    obtain ⟨old, inBefore, seqBefore, liveBefore⟩ := first.seqs between inMiddle
    exact ⟨old, inBefore, seqBefore.trans sameSeq, liveBefore.trans sameLive⟩

theorem Exact.retouched (exactly : Exact db before) (retouched : Retouched before after) :
    Exact db after where
  ids_eq := by rw [retouched.ids, retouched.keys, exactly.ids_eq]
  counted := by
    rw [retouched.existsCount, retouched.ids]
    exact exactly.counted
  loaded := by
    rw [retouched.ids]
    exact exactly.loaded
  live := by
    intro entry member
    obtain ⟨old, inBefore, _, same⟩ := retouched.seqs entry member
    rw [← same]
    exact exactly.live old inBefore
  bounded := by
    intro entry member
    obtain ⟨old, inBefore, same, _⟩ := retouched.seqs entry member
    rw [← same, retouched.seq]
    exact exactly.bounded old inBefore
  positive := by
    rw [retouched.ids]
    exact exactly.positive

/-- Another message of the same sequence and status in the place of one. -/
theorem Retouched.insert {uid : Nat} {old info : MessageInfo}
    (found : state.msginfo.lookup uid = some old) (sameSeq : info.seq = old.seq)
    (sameLive : info.live = old.live) :
    Retouched state { state with msginfo := state.msginfo.insert uid info } := by
  refine ⟨rfl, rfl, rfl, rfl, keys_insert_of_mem (mem_keys_of_lookup found) info, ?_⟩
  intro entry member
  rcases mem_insert member with rfl | earlier
  · exact ⟨(uid, old), mem_of_lookup found, sameSeq.symm, sameLive.symm⟩
  · exact ⟨entry, earlier, rfl, rfl⟩

theorem loadPermission_retouched (state : MailboxState) (db : MailboxDb) :
    Retouched state (state.loadPermission db) := by
  unfold loadPermission
  split <;> exact .of_msginfo rfl rfl rfl rfl rfl

theorem flushRecent_retouched (state : MailboxState) : Retouched state state.flushRecent := by
  unfold flushRecent
  split <;> exact .of_msginfo rfl rfl rfl rfl rfl

theorem buildRecent_retouched (state : MailboxState) : Retouched state state.buildRecent := by
  unfold buildRecent
  split <;> exact .of_msginfo rfl rfl rfl rfl rfl

theorem clearRecent_retouched (state : MailboxState) : Retouched state state.clearRecent := by
  unfold clearRecent
  split
  · refine ⟨rfl, rfl, rfl, rfl, keys_map _ _, ?_⟩
    intro entry member
    obtain ⟨old, inBefore, rfl⟩ := mem_map.mp member
    exact ⟨old, inBefore, rfl, rfl⟩
  · exact .refl state

theorem opened_retouched (command : OpenCommand) (state : MailboxState) :
    Retouched state (BoxSession.opened command state) := by
  unfold opened
  split
  · exact .refl state
  · refine Retouched.trans ?_ (buildRecent_retouched _)
    exact .of_msginfo rfl rfl rfl rfl rfl

theorem foldl_fetchWrite_retouched (strategy : Int) (calls : List DbCall)
    (fetching : Tables × MailboxState) :
    Retouched fetching.2 (calls.foldl (fetchWrite strategy) fetching).2 := by
  induction calls generalizing fetching with
  | nil => exact .refl _
  | cons call rest ih =>
    refine Retouched.trans ?_ (ih (fetchWrite strategy fetching call))
    cases call with
    | setMsgflag uid =>
      unfold fetchWrite
      dsimp only
      cases found : fetching.2.msginfo.lookup uid with
      | none => exact .refl _
      | some info => exact .insert found rfl rfl
    | _ => exact .refl _

theorem fetchEnter_retouched (held : AclRight → Bool) (tables : Tables)
    (state : MailboxState) (command : FetchCommand) :
    Retouched state (fetchEnter conf held tables state command).2 := by
  refine (loadPermission_retouched state (tables.view state.id)).trans ?_
  exact (foldl_fetchWrite_retouched conf.store.seqStrategy _
    (tables, state.loadPermission (tables.view state.id))).trans (flushRecent_retouched _)

end Retouched

/-! ## The cached state and the tables -/

/-- A cached state knows a sequence of the mailbox. It is exact, or the mailbox has a newer
sequence. -/
structure Tracked (mailbox : Nat) (tables : Tables) (loaded : Option MailboxDb)
    (state : MailboxState) : Prop where
  id_eq : state.id = mailbox
  positive : 0 < state.seq
  known : state.seq ≤ tables.seqOf mailbox
  current : (∃ db, loaded = some db ∧ Exact db state) ∨ state.seq < tables.seqOf mailbox

def BoxSession.Tracks (mailbox : Nat) (session : BoxSession) : Prop :=
  ∀ state, session.cached = some state → Tracked mailbox session.tables session.loaded state

section Tracked

variable {mailbox : Nat} {tables later : Tables} {loaded : Option MailboxDb}
  {state after : MailboxState}

theorem Tracked.of_exact {db : MailboxDb} (id_eq : state.id = mailbox) (positive : 0 < state.seq)
    (known : state.seq ≤ tables.seqOf mailbox) (isLoaded : loaded = some db)
    (exactly : Exact db state) : Tracked mailbox tables loaded state :=
  ⟨id_eq, positive, known, .inl ⟨db, isLoaded, exactly⟩⟩

/-- Commands that only retouch the state, while sequences grow. -/
theorem Tracked.retouched (tracked : Tracked mailbox tables loaded state)
    (retouched : Retouched state after) (grows : SeqGrows tables later) :
    Tracked mailbox later loaded after where
  id_eq := retouched.id.trans tracked.id_eq
  positive := by
    rw [retouched.seq]
    exact tracked.positive
  known := by
    rw [retouched.seq]
    exact Nat.le_trans tracked.known (grows mailbox)
  current := by
    rw [retouched.seq]
    rcases tracked.current with ⟨db, isLoaded, exactly⟩ | behind
    · exact .inl ⟨db, isLoaded, exactly.retouched retouched⟩
    · exact .inr (Nat.lt_of_lt_of_le behind (grows mailbox))

theorem Tracked.of_lt (id_eq : state.id = mailbox) (positive : 0 < state.seq)
    (behind : state.seq < tables.seqOf mailbox) : Tracked mailbox tables loaded state :=
  ⟨id_eq, positive, Nat.le_of_lt behind, .inr behind⟩

/-- Commands that change the state, and raise the sequence of the mailbox. -/
theorem Tracked.behind (tracked : Tracked mailbox tables loaded state) (id_eq : after.id = state.id)
    (seq_eq : after.seq = state.seq) (raised : tables.seqOf mailbox < later.seqOf mailbox) :
    Tracked mailbox later loaded after := by
  refine .of_lt (id_eq.trans tracked.id_eq) (seq_eq ▸ tracked.positive) ?_
  rw [seq_eq]
  exact Nat.lt_of_le_of_lt tracked.known raised

theorem consulted_of_pos (positive : 0 < state.seq) (db : MailboxDb) :
    state.consulted db = { state with existsCount := state.getExists } := by
  unfold consulted getSeq
  rw [if_neg (by omega)]

theorem Tracked.consulted (tracked : Tracked mailbox tables loaded state) (db : MailboxDb) :
    Tracked mailbox tables loaded (state.consulted db) := by
  rw [consulted_of_pos tracked.positive]
  refine ⟨tracked.id_eq, tracked.positive, tracked.known, ?_⟩
  rcases tracked.current with ⟨seen, isLoaded, exactly⟩ | behind
  · refine .inl ⟨seen, isLoaded, exactly.ids_eq, ?_, exactly.loaded, exactly.live, exactly.bounded,
      exactly.positive⟩
    exact Nat.le_of_eq exactly.getExists_eq
  · exact .inr behind

end Tracked

/-! ## Lookups -/

section Look

variable {conf : ServerConf} {mailbox : Nat} {session : BoxSession}

/-- A load that is exact, over a count that is not larger. -/
theorem exact_of_count {conf : LoadConf} {db : MailboxDb} (loadExact : LoadExact conf db) (id : Nat)
    {count : Nat} (atMost : count ≤ db.liveRows.length) :
    Exact db { MailboxState.new conf db id with
      existsCount := max count (MailboxState.new conf db id).getExists } := by
  obtain ⟨exactly, _⟩ := new_exact loadExact id
  refine ⟨exactly.ids_eq, ?_, exactly.loaded, exactly.live, exactly.bounded, exactly.positive⟩
  have loaded := exactly.loaded
  have counted := exactly.getExists_eq
  dsimp only
  omega

/-- The state after a lookup that does not find the mailbox attached is exact. -/
theorem look_exact (tracks : session.Tracks mailbox) (condition : LookExact conf mailbox session)
    (unattached : session.attached = false) :
    ∃ state db, (session.look conf mailbox).cached = some state ∧
      (session.look conf mailbox).loaded = some db ∧ Exact db state ∧ state.id = mailbox ∧
      0 < state.seq ∧ state.seq ≤ session.tables.seqOf mailbox ∧
      (if session.stale mailbox = true then state.seq = (session.db mailbox).seq
        else ∃ old, session.cached = some old ∧ state.seq = old.seq) := by
  obtain ⟨small, load⟩ := condition unattached
  have dbSeq : (session.tables.view mailbox).seq = session.tables.seqOf mailbox := view_seq _ _
  simp only [BoxSession.db] at small load ⊢
  unfold look Tables.mbxinfoLookup
  rw [unattached]
  cases isCached : session.cached with
  | none =>
    have stale : session.stale mailbox = true := by
      unfold BoxSession.stale
      rw [isCached]
    obtain ⟨loadExact, _⟩ := load stale
    obtain ⟨exactly, seq⟩ := new_exact loadExact mailbox
    simp only [stale]
    refine ⟨_, _, rfl, rfl, exactly, new_id _ _ _, ?_, ?_, seq⟩
    · exact seq ▸ loadExact.positive
    · exact Nat.le_of_eq (seq.trans dbSeq)
  | some state =>
    have tracked := tracks state isCached
    have isStale : session.stale mailbox = (state.consulted (session.tables.view mailbox)).superseded
        (session.tables.view mailbox) := by
      unfold BoxSession.stale
      rw [isCached]
      rfl
    rw [isStale]
    by_cases superseded : (state.consulted (session.tables.view mailbox)).superseded
        (session.tables.view mailbox) = true
    · obtain ⟨loadExact, shrunk⟩ := load (isStale.trans superseded)
      obtain ⟨_, seq⟩ := new_exact loadExact mailbox
      have atMost := shrunk state isCached
      rw [← getExists_consulted state (session.tables.view mailbox)] at atMost
      simp only [if_pos superseded]
      refine ⟨_, _, rfl, rfl, exact_of_count loadExact mailbox atMost,
        new_id conf.load _ _, ?_, ?_, seq⟩
      · exact seq ▸ loadExact.positive
      · exact Nat.le_of_eq (seq.trans dbSeq)
    · simp only [if_neg superseded]
      have consulted := tracked.consulted (session.tables.view mailbox)
      have seqs : (state.consulted (session.tables.view mailbox)).seq = state.seq := by
        rw [consulted_of_pos tracked.positive]
      rcases consulted.current with ⟨seen, isLoaded, exactly⟩ | behind
      · exact ⟨_, seen, rfl, isLoaded, exactly, consulted.id_eq, consulted.positive,
          consulted.known, state, rfl, seqs⟩
      · -- a newer sequence below 2^32 would have been noticed
        exfalso
        apply superseded
        unfold MailboxState.superseded
        rw [getSeq_blank, dbSeq, Nat.mod_eq_of_lt (by omega), Nat.mod_eq_of_lt (by omega)]
        exact decide_eq_true behind

theorem look_attached (isAttached : session.attached = true) :
    session.look conf mailbox = session := by
  rw [look, if_pos isAttached]

theorem look_tracks (tracks : session.Tracks mailbox) (condition : LookExact conf mailbox session) :
    (session.look conf mailbox).Tracks mailbox := by
  cases isAttached : session.attached with
  | true =>
    rwa [look_attached isAttached]
  | false =>
    obtain ⟨state, db, isCached, isLoaded, exactly, id_eq, positive, known, _⟩ :=
      look_exact tracks condition isAttached
    intro other isOther
    rw [isCached] at isOther
    cases isOther
    refine .of_exact id_eq positive (Nat.le_trans known ?_) isLoaded exactly
    unfold look
    rw [isAttached]
    exact mbxinfoLookup_grows _ _ _ _ mailbox

theorem left_tracks (tracks : session.Tracks mailbox) : session.left.Tracks mailbox := by
  unfold left
  split
  · intro state isState
    obtain ⟨old, isOld, rfl⟩ := map_eq_some_iff.mp isState
    exact (tracks old isOld).retouched
      ((loadPermission_retouched old _).trans (clearRecent_retouched _)) (.refl _)
  · exact tracks

end Look

/-! ## Refreshes -/

section Refresh

variable {viewer : Viewer} {notify : Notify}

/-- A state that lists all its messages has no expunge to announce. -/
theorem foldl_expungeTurn_eq (listed : notify.new.ids = notify.new.msginfo.keys) (uids : List Nat) :
    uids.foldl (expungeTurn viewer) notify = notify := by
  apply foldl_skipped
  intro uid _
  unfold expungeTurn
  cases found : notify.new.msginfo.lookup uid with
  | none => rfl
  | some info =>
    have member : uid ∈ notify.new.ids := listed ▸ mem_keys_of_lookup found
    dsimp only
    rw [if_pos member]

theorem foldl_notifyFetch_retouched (uids : List Nat) :
    Retouched notify.new (uids.foldl (notifyFetch viewer) notify).new := by
  induction uids generalizing notify with
  | nil => exact .refl _
  | cons uid rest ih =>
    refine Retouched.trans ?_ ih
    unfold notifyFetch
    cases notify.new.msginfo.lookup uid with
    | none => exact .refl _
    | some info =>
      dsimp only
      split
      · exact .of_msginfo rfl rfl rfl rfl rfl
      · exact .refl _

theorem notified_retouched (conf : LoadConf) (viewer : Viewer) (old : MailboxState)
    {new : MailboxState} (listed : new.ids = new.msginfo.keys) :
    Retouched new (notified conf viewer old new).new := by
  unfold notified mailboxNotifyExpunge
  rw [foldl_expungeTurn_eq listed]
  exact @foldl_notifyFetch_retouched viewer ⟨old.leftover conf, new, counters viewer old new ++
    beyondCounter (old.leftover conf) ++ flagLines old new⟩ _

variable {conf : ServerConf} {mailbox : Nat} {session : BoxSession}

theorem reload_exact (viewer : Viewer) {tables : Tables} {state : MailboxState} {db : MailboxDb}
    (isDb : tables.view state.id = db) (outdated : (state.consulted db).outdated db = true)
    (full : (state.consulted db).reloads conf.load = true) (loadExact : LoadExact conf.load db)
    (atMost : state.getExists ≤ db.liveRows.length) :
    ∃ new, Exact db new ∧ new.id = state.id ∧ new.seq = db.seq ∧
      Retouched new (tables.refresh conf viewer state).2.1 := by
  rw [← getExists_consulted state db] at atMost
  have successor : (state.consulted db).successor conf.load db =
      { MailboxState.new conf.load db state.id with
        existsCount := max (state.consulted db).getExists
          (MailboxState.new conf.load db state.id).getExists } := by
    unfold MailboxState.successor refreshed
    rw [if_pos full, (state.consulted_keeps _).2.2]
  have exactly := exact_of_count loadExact state.id atMost
  rw [← successor] at exactly
  refine ⟨_, exactly, ?_, ?_, ?_⟩
  · rw [successor]
    exact new_id conf.load _ _
  · rw [successor]
    exact (new_exact loadExact state.id).2
  · unfold Tables.refresh mailboxStatus
    dsimp only
    rw [isDb, if_pos outdated]
    exact (notified_retouched conf.load viewer _ exactly.ids_eq).trans (flushRecent_retouched _)

theorem refresh_tracks (tracks : session.Tracks mailbox) (condition : RefreshExact conf session)
    (viewer : Viewer) : (session.refresh conf viewer).Tracks mailbox := by
  refine on_selected tracks fun state isSelected isCached => ?_
  intro after isAfter
  cases isAfter
  have tracked := tracks state isCached
  have grows := refresh_grows conf viewer session.tables state
  have dbSeq : (session.tables.view state.id).seq = session.tables.seqOf mailbox := by
    rw [tracked.id_eq]
    exact view_seq _ _
  have meets := condition isSelected state isCached
  dsimp only at meets ⊢
  by_cases outdated : (state.consulted (session.tables.view state.id)).outdated
      (session.tables.view state.id) = true
  · obtain ⟨full, loadExact, atMost⟩ := meets outdated
    obtain ⟨new, exactly, id, seq, retouched⟩ :=
      reload_exact viewer rfl outdated full loadExact atMost
    rw [if_pos outdated]
    refine .of_exact (retouched.id.trans (id.trans tracked.id_eq)) ?_ ?_ rfl
      (exactly.retouched retouched)
    · rw [retouched.seq, seq]
      exact loadExact.positive
    · rw [retouched.seq, seq, dbSeq]
      exact grows mailbox
  · have same : session.tables.refresh conf viewer state =
        (session.tables, state.consulted (session.tables.view state.id), []) := by
      unfold Tables.refresh mailboxStatus
      dsimp only
      rw [if_neg outdated, if_neg outdated]
    rw [if_neg outdated, same]
    exact tracked.consulted _

end Refresh

/-! ## Commands that change the state -/

section Commands

variable {conf : ServerConf} {mailbox : Nat} {tables : Tables} {loaded : Option MailboxDb}
  {state : MailboxState}

/-- A STORE that walks over messages raises the sequence of the mailbox first. -/
theorem storeEnter_tracked (counting : Counting conf.store.seqStrategy) {selected : Selected}
    (tracked : Tracked mailbox tables loaded selected.state) (held : AclRight → Bool)
    (command : StoreCommand) :
    Tracked mailbox (storeEnter conf.store held tables selected command).1.tables loaded
      (storeEnter conf.store held tables selected command).1.state := by
  obtain ⟨keywords, permission, frame⟩ := @storeState_frame tables selected command
  have retouched : Retouched selected.state (storeState tables selected command) := by
    rw [frame]
    exact .of_msginfo rfl rfl rfl rfl rfl
  have noted : SeqGrows tables
      (if (storeState tables selected command).keywords = selected.state.keywords then tables
        else (tables.mailboxSeqUpdate conf.store.seqStrategy
          (storeState tables selected command).id 0).1) := by
    split
    · exact .refl tables
    · exact mailboxSeqUpdate_grows _ _ _ _
  unfold storeEnter
  split
  · exact tracked.retouched retouched (.refl tables)
  split
  · exact tracked.retouched retouched (.refl tables)
  cases storeSet tables selected command with
  | none => exact tracked.retouched retouched noted
  | some found =>
    have raised : tables.seqOf mailbox <
        (storeBump conf.store tables selected command).1.seqOf mailbox := by
      have positive : 0 < tables.seqOf mailbox := Nat.lt_of_lt_of_le tracked.positive tracked.known
      refine Nat.lt_of_le_of_lt (noted mailbox) ?_
      unfold storeBump
      dsimp only
      rw [retouched.id.trans tracked.id_eq] at noted ⊢
      exact mailboxSeqUpdate_raises counting (Nat.lt_of_lt_of_le positive (noted mailbox))
    generalize storeBump conf.store tables selected command = bumped at raised
    obtain ⟨sameMailboxes, sameId, sameSeq⟩ := @walk_keeps Storing
      (storeVisit conf.store selected.condstore command bumped.2)
      (fun storing => storing.tables.mailboxes = bumped.1.mailboxes ∧
        storing.state.id = selected.state.id ∧ storing.state.seq = selected.state.seq) found.keys
      (by
        intro storing uid _ kept
        obtain ⟨keptMailboxes, keptId, keptSeq⟩ := kept
        have frame := (@storeVisit_walked conf.store selected.condstore command bumped.2 storing
          uid).frame
        refine ⟨(storeVisit_mailboxes _ _ _ _ _ _).trans keptMailboxes, ?_, ?_⟩
        · rw [frame]
          exact keptId
        · rw [frame]
          exact keptSeq)
      ⟨bumped.1, storeState tables selected command, [], [], none⟩
      ⟨rfl, retouched.id, retouched.seq⟩
    exact tracked.behind sameId sameSeq
      (Nat.lt_of_lt_of_le raised (SeqGrows.of_eq sameMailboxes mailbox))

/-- A visit of an EXPUNGE leaves the state alone or makes its list shorter. -/
theorem expungeVisit_shrinks (updated : Nat → Bool) (uid : Nat) {expunging : Tables × MailboxState}
    (source : expunging.2.ids = expunging.2.msginfo.keysWhere MessageInfo.live) :
    (expungeVisit updated expunging uid).2 = expunging.2 ∨
      ((expungeVisit updated expunging uid).2.ids =
          (expungeVisit updated expunging uid).2.msginfo.keysWhere MessageInfo.live ∧
        (expungeVisit updated expunging uid).2.ids.length < expunging.2.ids.length) := by
  unfold expungeVisit
  split
  · exact .inl rfl
  split
  · exact .inl rfl
  dsimp only
  split
  · rename_i member
    obtain ⟨removed, isRemoved, filtered, sourceAfter⟩ :=
      removeUid_of_mem source member
    rw [isRemoved, getD_some]
    refine .inr ⟨sourceAfter, ?_⟩
    rw [filtered]
    exact length_filter_lt_length_iff_exists.mpr ⟨uid, member, by simp⟩
  · exact .inl rfl

theorem foldl_expungeVisit_shrinks (updated : Nat → Bool) (uids : List Nat)
    {expunging : Tables × MailboxState}
    (source : expunging.2.ids = expunging.2.msginfo.keysWhere MessageInfo.live) :
    (uids.foldl (expungeVisit updated) expunging).2 = expunging.2 ∨
      (uids.foldl (expungeVisit updated) expunging).2.ids.length < expunging.2.ids.length := by
  induction uids generalizing expunging with
  | nil => exact .inl rfl
  | cons uid rest ih =>
    rcases expungeVisit_shrinks updated uid source with same | ⟨sourceAfter, shorter⟩
    · rw [← same] at source ⊢
      exact ih source
    · rcases ih sourceAfter with same | less
      · exact .inr (same ▸ shorter)
      · exact .inr (Nat.lt_trans less shorter)

theorem removeUid_frame {uid : Nat} {after : MailboxState} (removed : state.removeUid uid = some after) :
    after.id = state.id ∧ after.seq = state.seq := by
  unfold removeUid at removed
  split at removed
  · cases removed
  · cases removed
    exact ⟨rfl, rfl⟩

theorem foldl_expungeVisit_frame (updated : Nat → Bool) (uids : List Nat)
    (expunging : Tables × MailboxState) :
    (uids.foldl (expungeVisit updated) expunging).2.id = expunging.2.id ∧
      (uids.foldl (expungeVisit updated) expunging).2.seq = expunging.2.seq := by
  induction uids generalizing expunging with
  | nil => exact ⟨rfl, rfl⟩
  | cons uid rest ih =>
    have visited : (expungeVisit updated expunging uid).2.id = expunging.2.id ∧
        (expungeVisit updated expunging uid).2.seq = expunging.2.seq := by
      unfold expungeVisit
      split
      · exact ⟨rfl, rfl⟩
      split
      · exact ⟨rfl, rfl⟩
      dsimp only
      split
      · cases removed : expunging.2.removeUid uid with
        | none => exact ⟨rfl, rfl⟩
        | some after => exact removeUid_frame removed
      · exact ⟨rfl, rfl⟩
    obtain ⟨sameId, sameSeq⟩ := ih (expungeVisit updated expunging uid)
    exact ⟨sameId.trans visited.1, sameSeq.trans visited.2⟩

theorem mailboxExpunge_tracked (counting : Counting conf.store.seqStrategy)
    (tracked : Tracked mailbox tables loaded state) (command : ExpungeCommand) :
    Tracked mailbox (mailboxExpunge conf tables state command).1 loaded
      (mailboxExpunge conf tables state command).2 := by
  have grows := mailboxExpunge_grows conf tables state command
  unfold mailboxExpunge at grows ⊢
  by_cases empty : state.ids = []
  · rw [if_pos empty]
    exact tracked
  rw [if_neg empty] at grows ⊢
  dsimp only at grows ⊢
  obtain ⟨sameId, sameSeq⟩ := foldl_expungeVisit_frame command.updated
    (expungeTargets state command) (tables, state)
  have sameMailboxes := foldl_expungeVisit_mailboxes command.updated
    (expungeTargets state command) (tables, state)
  have shrinks := @foldl_expungeVisit_shrinks command.updated (expungeTargets state command)
    (tables, state)
  generalize (expungeTargets state command).foldl (expungeVisit command.updated) (tables, state) =
    walked at *
  have known := tracked.known
  have positive := tracked.positive
  rcases tracked.current with ⟨db, isLoaded, exactly⟩ | behind
  · have source : state.ids = state.msginfo.keysWhere MessageInfo.live := by
      rw [keysWhere_eq_keys exactly.live, exactly.ids_eq]
    rcases shrinks source with same | shorter
    · rw [same] at grows ⊢
      exact tracked.retouched (.refl state) grows
    · rw [if_pos shorter]
      refine tracked.behind sameId sameSeq ?_
      have unchanged : tables.seqOf mailbox ≤ walked.1.seqOf mailbox :=
        SeqGrows.of_eq sameMailboxes mailbox
      rw [tracked.id_eq]
      exact Nat.lt_of_le_of_lt unchanged (mailboxSeqUpdate_raises counting (by omega))
  · refine .of_lt (sameId.trans tracked.id_eq) (sameSeq ▸ positive) ?_
    rw [sameSeq]
    exact Nat.lt_of_lt_of_le behind (grows mailbox)

theorem expungeEnter_tracked (counting : Counting conf.store.seqStrategy)
    (tracked : Tracked mailbox tables loaded state) (held : AclRight → Bool)
    (command : ExpungeCommand) :
    Tracked mailbox (expungeEnter conf held tables state command).1 loaded
      (expungeEnter conf held tables state command).2 := by
  have known := tracked.retouched (loadPermission_retouched state (tables.view state.id)) (.refl _)
  unfold expungeEnter
  dsimp only
  split
  · exact mailboxExpunge_tracked counting known command
  · exact known

end Commands

/-! ## Steps -/

section Steps

variable {conf : ServerConf} {mailbox : Nat} {session : BoxSession}

/-- The first unseen message of the tree is the first one of the list. -/
theorem firstUnseen_eq {db : MailboxDb} {state : MailboxState} (exactly : Exact db state) :
    state.ids.find? state.unseen = state.firstUnseen := by
  have agrees : ∀ entry ∈ state.msginfo.entries, state.unseen entry.1 = !entry.2.flags.seen := by
    intro entry member
    unfold unseen
    rw [lookup_of_mem member]
    rfl
  rw [exactly.ids_eq, KeyTree.keys, List.find?_map]
  congr 1
  exact List.find?_congr agrees

theorem announcesExactly_of_exact {allowUnseen : Int} {select : Bool} {db seen : MailboxDb}
    {state : MailboxState} (exactly : Exact seen state) (positive : 0 < state.seq)
    (allowed : select = true → allowUnseen = 1) :
    AnnouncesExactly allowUnseen select db (some seen) state := by
  have counted := exactly.getExists_eq
  refine ⟨counted, ⟨seen, rfl, counted.trans exactly.loaded.symm⟩, ?_, ?_⟩
  · intro isSelect
    show (if select = true ∧ allowUnseen = 1 ∧ state.getExists ≠ 0 then _ else none) = _
    rw [firstUnseen_eq exactly]
    by_cases empty : state.ids = []
    · have none_ : state.firstUnseen = none := by
        rw [← firstUnseen_eq exactly, empty]
        rfl
      rw [if_neg (by simp [counted, empty]), none_]
      rfl
    · rw [if_pos ⟨isSelect, allowed isSelect, by simpa [counted] using empty⟩]
      cases first : state.firstUnseen with
      | none => rfl
      | some uid =>
        have member : uid ∈ state.ids := by
          rw [← firstUnseen_eq exactly] at first
          exact mem_of_find?_eq_some first
        dsimp only
        rw [if_pos ⟨exactly.positive uid member, member⟩]
        rfl
  · intro uid _ info found
    show info.seq ≤ (state.getSeq db).seq
    unfold getSeq
    rw [if_neg (by omega)]
    exact exactly.bounded (uid, info) (mem_of_lookup found)

section Tracks

variable {allowUnseen : Int} (tracks : session.Tracks mailbox)

include tracks

/-- A command on the selected mailbox that keeps its state tracked. -/
theorem command_tracks {body : Tables → MailboxState → Tables × MailboxState}
    (keeps : ∀ state, Tracked mailbox session.tables session.loaded state →
      Tracked mailbox (body session.tables state).1 session.loaded (body session.tables state).2) :
    (session.command body).Tracks mailbox := by
  refine on_selected tracks fun state _ isCached => ?_
  intro after isAfter
  cases isAfter
  exact keeps state (tracks state isCached)

theorem close_tracks (counting : Counting conf.store.seqStrategy) (held : AclRight → Bool)
    (updated : Nat → Bool) :
    (session.close conf held updated).Tracks mailbox := by
  refine on_selected tracks fun state _ isCached => ?_
  have known := (tracks state isCached).retouched
    (loadPermission_retouched state (session.tables.view state.id)) (.refl _)
  dsimp only
  split
  · apply left_tracks
    intro after isAfter
    cases isAfter
    exact mailboxExpunge_tracked counting known _
  · intro after isAfter
    cases isAfter
    exact known

theorem look_seq (condition : AppendExact conf mailbox session)
    {state : MailboxState} (isCached : (session.look conf mailbox).cached = some state) :
    2 ≤ state.seq ∧ state.seq < 2 ^ 64 := by
  obtain ⟨looks, small, enough⟩ := condition
  cases isAttached : session.attached with
  | true =>
    rw [look_attached isAttached] at isCached
    rw [if_neg (by simp [isAttached])] at enough
    have known := (tracks state isCached).known
    exact ⟨enough state isCached, by omega⟩
  | false =>
    obtain ⟨other, _, isOther, _, _, _, _, known, seq⟩ := look_exact tracks looks isAttached
    rw [isCached] at isOther
    cases isOther
    refine ⟨?_, by omega⟩
    by_cases stale : session.stale mailbox = true
    · rw [if_pos stale] at seq
      rw [if_pos ⟨isAttached, stale⟩] at enough
      omega
    · rw [if_neg stale] at seq
      rw [if_neg (by simp [stale])] at enough
      obtain ⟨old, isOld, same⟩ := seq
      have := enough old isOld
      omega

theorem append_tracks (condition : AppendExact conf mailbox session)
    {command : AppendCommand} {next : BoxSession}
    (stepped : session.append conf mailbox command = .ok next) : next.Tracks mailbox := by
  have looks := look_tracks tracks condition.1
  have grows := append_grows (session.look conf mailbox).tables conf.store.seqStrategy mailbox command
  unfold append at stepped
  dsimp only at stepped
  cases isCached : (session.look conf mailbox).cached with
  | none =>
    rw [isCached] at stepped
    cases stepped
    intro state isState
    cases isState
  | some state =>
    rw [isCached] at stepped
    have tracked := looks state isCached
    obtain ⟨enough, small⟩ := look_seq tracks condition isCached
    have known := tracked.known
    dsimp only at stepped
    generalize isDb : ((session.look conf mailbox).tables.append conf.store.seqStrategy mailbox
      command).view state.id = db at stepped
    have current : ∀ known, (if (session.look conf mailbox).selected = true then state.consulted db
        else state).loadPermission db = known → known.id = state.id ∧ known.seq = state.seq := by
      rintro known rfl
      obtain ⟨id, seq, _⟩ := loadPermission_retouched
        (if (session.look conf mailbox).selected = true then state.consulted db else state) db
      rw [id, seq]
      split
      · rw [consulted_of_pos tracked.positive]
        exact ⟨rfl, rfl⟩
      · exact ⟨rfl, rfl⟩
    generalize isKnown : (if (session.look conf mailbox).selected = true then state.consulted db
      else state).loadPermission db = current_ at stepped
    obtain ⟨sameId, sameSeq⟩ := current current_ isKnown
    split at stepped
    · cases stepped
    · cases stepped
      intro after isAfter
      cases isAfter
      have seq : (current_.addMsginfo command.uid command.info).seq =
          (current_.seq + 2 ^ 64 - 1) % 2 ^ 64 := (buildRecent_retouched _).seq
      have lowered : (state.seq + 2 ^ 64 - 1) % 2 ^ 64 = state.seq - 1 := by omega
      have later := grows mailbox
      have id : (current_.addMsginfo command.uid command.info).id = state.id :=
        (buildRecent_retouched _).id.trans sameId
      refine .of_lt (id.trans tracked.id_eq) (by omega) ?_
      show _ < ((session.look conf mailbox).tables.append conf.store.seqStrategy mailbox
        command).seqOf mailbox
      omega

theorem entered_tracks (condition : LookExact conf mailbox session.left) (command : OpenCommand) :
    (session.entered conf mailbox command).Tracks mailbox := by
  intro state isState
  obtain ⟨found, isFound, rfl⟩ := map_eq_some_iff.mp isState
  exact (look_tracks (left_tracks tracks) condition found isFound).retouched
    (opened_retouched command found) (.refl _)

theorem open_tracks (condition : LookExact conf mailbox session.left) (command : OpenCommand) :
    (session.open_ conf mailbox command).Tracks mailbox := by
  have entered := entered_tracks tracks condition command
  unfold open_
  dsimp only
  split
  · rename_i isCached
    intro after isAfter
    cases isAfter
    exact (entered _ isCached).retouched (flushRecent_retouched _) flushTables_grows
  · exact entered

/-! ## Announcements -/

theorem open_announces {command : OpenCommand} (condition : LookExact conf mailbox session.left)
    (allowed : command.select = true → allowUnseen = 1) :
    SelectAnnounces conf allowUnseen mailbox session (.open_ command) := by
  intro _ state isState
  obtain ⟨found, db, isFound, isLoaded, exactly, _, positive, _⟩ :=
    look_exact (left_tracks tracks) condition session.left_unattached
  obtain ⟨other, isOther, rfl⟩ := map_eq_some_iff.mp isState
  rw [isFound] at isOther
  cases isOther
  have retouched := opened_retouched command found
  have loaded : (session.entered conf mailbox command).loaded = some db := isLoaded
  rw [loaded]
  apply announcesExactly_of_exact (exactly.retouched retouched) _ allowed
  rw [retouched.seq]
  exact positive

theorem boxStep_announces {step : BoxStep}
    (condition : ExactStep conf allowUnseen mailbox session step) :
    SelectAnnounces conf allowUnseen mailbox session step := by
  cases step with
  | open_ command => exact open_announces tracks condition.1 condition.2
  | _ => trivial

theorem boxStep_tracks {step : BoxStep}
    (condition : ExactStep conf allowUnseen mailbox session step) {next : BoxSession}
    (stepped : boxStep conf mailbox session step = .ok next) : next.Tracks mailbox := by
  cases step with
  | append command => exact append_tracks tracks condition stepped
  | others tables =>
    cases stepped
    intro state isState
    obtain ⟨id_eq, positive, known, current⟩ := tracks state isState
    have grows : session.tables.seqOf mailbox ≤ tables.seqOf mailbox := condition
    refine ⟨id_eq, positive, Nat.le_trans known grows, ?_⟩
    exact current.imp_right fun behind => Nat.lt_of_lt_of_le behind grows
  | lookup =>
    cases stepped
    exact look_tracks tracks condition
  | open_ command =>
    cases stepped
    exact open_tracks tracks condition.1 command
  | refresh viewer =>
    cases stepped
    exact refresh_tracks tracks condition viewer
  | fetch held command =>
    cases stepped
    refine command_tracks tracks fun state tracked => ?_
    exact tracked.retouched (fetchEnter_retouched conf held _ state command)
      (fetchEnter_grows conf held _ state command)
  | store held modseq condstore command =>
    cases stepped
    exact command_tracks tracks fun state tracked =>
      @storeEnter_tracked _ _ _ _ condition ⟨state, modseq, condstore⟩ tracked held command
  | expunge held command =>
    cases stepped
    exact command_tracks tracks fun state tracked =>
      expungeEnter_tracked condition tracked held command
  | copy modseq results command =>
    cases stepped
    refine command_tracks tracks fun state tracked => ?_
    exact tracked.retouched (.refl state)
      (copyWrites_grows conf session.tables state modseq results command)
  | close held updated =>
    cases stepped
    exact close_tracks tracks condition held updated
  | unselect =>
    cases stepped
    exact left_tracks tracks

end Tracks

/-- In every run of a session whose steps meet the condition, SELECT and EXAMINE announce
what they open. -/
theorem select_announces (conf : ServerConf) (allowUnseen : Int) (mailbox : Nat) (tables : Tables)
    (steps : List BoxStep)
    (meets : StepsMeet (boxStep conf mailbox) (ExactStep conf allowUnseen mailbox) (.start tables)
      steps) :
    StepsMeet (boxStep conf mailbox) (SelectAnnounces conf allowUnseen mailbox) (.start tables)
      steps := by
  refine stepsMeet_of_invariant (BoxSession.Tracks mailbox) ?_ ?_ meets
  · intro session step tracks condition
    exact ⟨boxStep_announces tracks condition, fun _ => boxStep_tracks tracks condition⟩
  · intro state isState
    cases isState

end Steps

/-! ## A mailbox that shrinks -/

def selectTables : Tables where
  mailboxes := KeyTree.empty.insert 1 ⟨⟨4, imappermReadwrite⟩, 2⟩
  messages := (KeyTree.empty.insert 7 ⟨1, .seen, {}, 3, [], 100⟩).insert 8 ⟨1, .seen, {}, 4, [], 100⟩

def expungedTables : Tables where
  mailboxes := KeyTree.empty.insert 1 ⟨⟨5, imappermReadwrite⟩, 2⟩
  messages :=
    (KeyTree.empty.insert 7 ⟨1, .seen, {}, 3, [], 100⟩).insert 8 ⟨1, .delete, {}, 4, [], 100⟩

def grownTables : Tables where
  mailboxes := KeyTree.empty.insert 1 ⟨⟨5, imappermReadwrite⟩, 2⟩
  messages := selectTables.messages.insert 9 ⟨1, .new, {}, 5, [], 100⟩

/-- The mailbox is selected again after a message has come. -/
theorem select_announced_again :
    StepsMeet (boxStep {} 1) (SelectAnnounces {} 1 1) (.start selectTables)
      [.open_ ⟨true, true, true⟩, .unselect, .others grownTables, .open_ ⟨true, true, true⟩] := by
  refine select_announces {} 1 1 selectTables _ ⟨⟨?_, fun _ => rfl⟩, ?_⟩
  · intro _
    refine ⟨by decide +kernel, fun _ => ⟨⟨by decide +kernel, by decide +kernel, by decide +kernel⟩, ?_⟩⟩
    intro state isState
    cases isState
  · intro opened isOpened
    cases isOpened
    refine ⟨trivial, ?_⟩
    intro left isLeft
    cases isLeft
    refine ⟨show Tables.seqOf _ 1 ≤ grownTables.seqOf 1 by decide +kernel, ?_⟩
    intro grown isGrown
    cases isGrown
    refine ⟨⟨?_, fun _ => rfl⟩, fun _ _ => trivial⟩
    intro _
    refine ⟨by decide +kernel, fun _ => ⟨⟨by decide +kernel, by decide +kernel, by decide +kernel⟩, ?_⟩⟩
    intro state isState
    cases isState
    decide +kernel

/-- The second SELECT tells the old number of messages. -/
theorem select_tells_old_count :
    ¬ StepsMeet (boxStep {} 1) (SelectAnnounces {} 1 1) (.start selectTables)
      [.open_ ⟨true, true, true⟩, .unselect, .others expungedTables, .open_ ⟨true, true, true⟩] := by
  intro announces
  have listed := ((((announces.2 _ rfl).2 _ rfl).2 _ rfl).1 rfl _ rfl).listed
  exact absurd listed (by decide +kernel)

end Dbmail.Mailbox
