import Dbmail.Imap.Session
import Dbmail.Mailbox.State
import Mathlib.Data.List.InsertIdx
import Mathlib.Data.List.Perm.Basic

/-!
Contract: the refresh of a selected mailbox and what a client makes of it.

Owns `dbmail_imap_session_mailbox_status` with `update` set, the notifications
`notify_expunge` and `notify_fetch` with their loops, the replay of the
responses by a client, and the exact condition under which the client's list
and the new UID list agree.

Does not own: the database writes of a refresh (the recent flags it clears and
the messages it marks as deleted).
-/

namespace Dbmail.Mailbox

open Dbmail.Lib Dbmail.Imap MailboxState List KeyTree

/-! ## Responses -/

inductive Response where
  | exists_ (count : Nat)
  | recent (count : Nat)
  | expunge (msn : Nat)
  | flags (text : Bytes)
  | permanentFlags (text : Bytes)
  | fetch (msn : Nat) (items : List Bytes)
deriving DecidableEq, Repr

structure Viewer where
  commandType : Option Command
  useUid : Bool
  condstore : Bool
deriving DecidableEq, Repr

variable (conf : LoadConf) (viewer : Viewer) (notify : Notify)

def Viewer.forces : Bool :=
  viewer.commandType ∈ [some .examine, some .select, some .search, some .sort]

def Viewer.withholds : Bool :=
  viewer.commandType ∈ [some .fetch, some .store, some .search]

structure Notify where
  old : MailboxState
  new : MailboxState
  sent : List Response

/-! ## Expunged messages -/

def notifyExpunge (uid : Nat) : Notify :=
  if uid ∈ notify.old.ids then
    if viewer.withholds then notify
    else
      match notify.old.removeUid uid with
      | some removed =>
        { notify with
          old := removed
          sent := notify.sent ++ [.expunge (notify.old.msn uid)] }
      | none => notify
  else notify

def Notify.markExpunged (uid : Nat) (info : MessageInfo) : Notify :=
  { notify with
    new := { notify.new with
      msginfo := notify.new.msginfo.insert uid { info with expunged := true } } }

/-- One turn of the loop of `mailbox_notify_expunge`. -/
def expungeTurn (uid : Nat) : Notify :=
  match notify.new.msginfo.lookup uid with
  | some info =>
    if uid ∈ notify.new.ids then notify
    else notifyExpunge viewer (notify.markExpunged uid info) uid
  | none => notify

variable (state : MailboxState)

/-- The EXISTS of `mailbox_notify_expunge`, for a last message beyond the
counter. -/
def beyondCounter : List Response :=
  match state.ids.getLast? with
  | some uid => if state.getExists < state.msn uid then [.exists_ state.getExists] else []
  | none => []

/-- `mailbox_notify_expunge` walks the old UIDs from the last to the first. -/
def mailboxNotifyExpunge : Notify :=
  notify.old.ids.reverse.foldl (expungeTurn viewer)
    { notify with sent := notify.sent ++ beyondCounter notify.old }

/-! ## Changed messages -/

/-- The flag columns with `imap_flag_desc_escaped`. -/
def Flags.described (flags : Flags) : List (Bool × Bytes) :=
  [(flags.seen, lit "\\Seen"), (flags.answered, lit "\\Answered"),
    (flags.deleted, lit "\\Deleted"), (flags.flagged, lit "\\Flagged"),
    (flags.draft, lit "\\Draft"), (flags.recent, lit "\\Recent")]

def MailboxState.messageFlags (uid : Nat) (info : MessageInfo) : List Bytes :=
  (info.flags.described.filter Prod.fst).map Prod.snd ++
    (if !info.flags.recent ∧ uid ∈ state.recentQueue then [lit "\\Recent"] else []) ++
    info.keywords.filter (· ∈ state.keywords)

/-- `dbmail_imap_plist_as_string`, for a list that does not start with a list. -/
def plistAsString (items : List Bytes) : Bytes :=
  lit "(" ++ (lit " ").intercalate items ++ lit ")"

/-- `MailboxState_merge_recent`. -/
def Notify.mergeRecent : Notify :=
  let queue := (notify.new.recentQueue ++ notify.old.recentQueue).dedup
  { notify with
    old := { notify.old with recentQueue := [] }
    new := { notify.new with recentQueue := queue, recent := queue.length } }

def fetchItems (uid : Nat) (modseq flags : Option Bytes) : List Bytes :=
  (if viewer.useUid then [lit "UID " ++ digits uid] else []) ++
    (if viewer.condstore then modseq.toList else []) ++ flags.toList

/-- `notify_fetch` once the recent messages are merged. -/
def fetchResponse (uid : Nat) (info : MessageInfo) : List Response :=
  let before := notify.old.msginfo.lookup uid
  let oldFlags := plistAsString ((before.map (notify.old.messageFlags uid)).getD [])
  let newFlags := plistAsString (notify.new.messageFlags uid info)
  let modseqChanged := before.all fun old => old.seq < info.seq
  let flagsChanged := !strcasecmpEq oldFlags newFlags
  if modseqChanged || flagsChanged then
    [.fetch (notify.old.msn uid) (fetchItems viewer uid
      (if modseqChanged then some (lit "MODSEQ (" ++ digits info.seq ++ lit ")") else none)
      (if flagsChanged then some (lit "FLAGS " ++ newFlags) else none))]
  else []

def notifyFetch (uid : Nat) : Notify :=
  match notify.new.msginfo.lookup uid with
  | some info =>
    if uid ≠ 0 ∧ uid ∈ notify.old.ids then
      let merged := notify.mergeRecent
      { merged with sent := merged.sent ++ fetchResponse viewer merged uid info }
    else notify
  | none => notify

def imappermReadwrite : Nat := 2

/-- `MailboxState_flush_recent`, as far as the state goes. -/
def MailboxState.flushRecent : MailboxState :=
  if state.permission = imappermReadwrite then { state with recentQueue := [] } else state

/-- `mailbox_notify_fetch`; the new state becomes that of the session. -/
def mailboxNotifyFetch : MailboxState × List Response :=
  let after := notify.old.ids.foldl (notifyFetch viewer) notify
  (after.new.flushRecent, after.sent)

/-! ## The refresh -/

/-- The old state as a refresh reads it: the sequence of the mailbox is loaded
when it is not known, and the counter raised to the number of UIDs. -/
def MailboxState.consulted (db : MailboxDb) : MailboxState :=
  { state.getSeq db with existsCount := state.getExists }

/-- The state that a refresh switches to, before any notification. EXISTS never
decreases. -/
def MailboxState.successor (db : MailboxDb) (state : MailboxState) : MailboxState :=
  let new := state.refreshed conf db
  { new with existsCount := max state.getExists new.getExists }

/-- The sequence of the mailbox has changed, as an `unsigned` shows it. -/
def MailboxState.outdated (db : MailboxDb) : Bool :=
  state.seq % 2 ^ 32 ≠ ((blank state.id).getSeq db).seq % 2 ^ 32

def showsExists (old new : MailboxState) : Bool :=
  old.uidnext < new.uidnext || viewer.forces

def counters (old new : MailboxState) : List Response :=
  (if showsExists viewer old new && new.getExists ≠ 0 then [.exists_ new.getExists] else []) ++
    if (new.recent ≠ 0 || viewer.forces) && new.recent ≠ 0 then [.recent new.recent] else []

def flagLines (old new : MailboxState) : List Response :=
  if strcasecmpEq new.flagsText old.flagsText then []
  else [.flags new.flagsText, .permanentFlags (new.flagsText ++ lit " \\*")]

def notifications (old new : MailboxState) : MailboxState × List Response :=
  let expunged := mailboxNotifyExpunge viewer ⟨old.leftover conf, new, counters viewer old new⟩
  mailboxNotifyFetch viewer { expunged with sent := expunged.sent ++ flagLines old new }

/-- `dbmail_imap_session_mailbox_status` with `update`, for a selected mailbox. -/
def mailboxStatus (db : MailboxDb) (viewer : Viewer) (state : MailboxState) :
    MailboxState × List Response :=
  let old := state.consulted db
  if old.outdated db then notifications conf viewer old (old.successor conf db) else (old, [])

/-! ## The client -/

/-- What a client makes of a response: it grows its list to the number of an
EXISTS, and deletes the entry of an EXPUNGE. A new entry has no UID yet. -/
def replay (view : List (Option Nat)) : Response → List (Option Nat)
  | .exists_ count => view ++ List.replicate (count - view.length) none
  | .expunge msn => view.eraseIdx (msn - 1)
  | _ => view

def replayAll (view : List (Option Nat)) (sent : List Response) : List (Option Nat) :=
  sent.foldl replay view

/-- The client's list has the length of the new UID list, and every UID that was
in the old one stands at its new MSN. -/
def InStep (view : List (Option Nat)) (oldIds : List Nat) (new : MailboxState) : Prop :=
  view.length = new.ids.length ∧
    ∀ uid ∈ oldIds, uid ∈ new.ids → view[new.msn uid - 1]? = some (some uid)

instance (view : List (Option Nat)) (oldIds : List Nat) (new : MailboxState) :
    Decidable (InStep view oldIds new) :=
  inferInstanceAs (Decidable (_ ∧ ∀ uid ∈ oldIds, uid ∈ new.ids → _))

/-- A client that holds the UID list is in step after the refresh. -/
def ViewConsistent (db : MailboxDb) (viewer : Viewer) (state : MailboxState) : Prop :=
  let after := mailboxStatus conf db viewer state
  InStep (replayAll (state.ids.map some) after.2) state.ids after.1

instance (db : MailboxDb) (viewer : Viewer) (state : MailboxState) :
    Decidable (ViewConsistent conf db viewer state) :=
  inferInstanceAs (Decidable (InStep _ _ _))

/-! ## When the client stays in step -/

/-- The expunge of a UID is announced: the load was a full one, the command lets
it through, and the message was loaded and is not live. -/
def announced (full : Bool) (viewer : Viewer) (new : MailboxState) (uid : Nat) : Bool :=
  full && !viewer.withholds && uid ∈ new.msginfo.keys && uid ∉ new.ids

def lost (full : Bool) (viewer : Viewer) (old new : MailboxState) : List Nat :=
  old.ids.filter fun uid => uid ∉ new.ids && !announced full viewer new uid

def arrived (old new : MailboxState) : List Nat := new.ids.filter fun uid => uid ∉ old.ids

def shownLength (old new : MailboxState) : Nat :=
  if showsExists viewer old new then max old.getExists new.getExists else old.ids.length

/-- The announced length leaves room for exactly the new messages and the
announced expunges, and below every message that stays as many messages arrive
as go without being announced. -/
structure Accounted (full : Bool) (viewer : Viewer) (old new : MailboxState) : Prop where
  length : shownLength viewer old new = new.ids.length + old.ids.countP (announced full viewer new)
  below : ∀ uid ∈ old.ids, uid ∈ new.ids →
    (lost full viewer old new).countP (· < uid) = (arrived old new).countP (· < uid)

/-- The old state is not outdated, or the changes are accounted for. -/
def RefreshAccounted (db : MailboxDb) (viewer : Viewer) (state : MailboxState) : Prop :=
  let old := state.consulted db
  old.outdated db = true → Accounted (old.reloads conf) viewer old (old.refreshed conf db)

/-! ## Replaying -/

variable (conf : LoadConf) (view : List (Option Nat)) (viewer : Viewer) (state : MailboxState)
  (db : MailboxDb) (old new : MailboxState)

theorem replayAll_append (first second : List Response) :
    replayAll view (first ++ second) = replayAll (replayAll view first) second :=
  foldl_append

def viewOf (ids : List Nat) (room : Nat) : List (Option Nat) :=
  ids.map some ++ List.replicate room none

theorem viewOf_length (ids : List Nat) (room : Nat) :
    (viewOf ids room).length = ids.length + room := by
  simp [viewOf]

theorem replay_exists (ids : List Nat) (room count : Nat) :
    replay (viewOf ids room) (.exists_ count) = viewOf ids (max room (count - ids.length)) := by
  have total : room + (count - (ids.length + room)) = max room (count - ids.length) := by omega
  simp [replay, viewOf, total]

theorem replay_expunge {ids : List Nat} (nodup : ids.Nodup) {uid : Nat} (member : uid ∈ ids)
    (room : Nat) :
    replay (viewOf ids room) (.expunge (ids.idxOf uid + 1)) =
      viewOf (ids.filter (· != uid)) room := by
  have inside : ids.idxOf uid < (ids.map some).length := by
    simpa using idxOf_lt_length_iff.mpr member
  have erased : (ids.map some).eraseIdx (ids.idxOf uid) = (ids.erase uid).map some := by
    rw [erase_eq_eraseIdx_of_idxOf rfl, eraseIdx_map]
  rw [replay, viewOf, Nat.add_sub_cancel, eraseIdx_append_of_lt_length inside, erased,
    nodup.erase_eq_filter]
  rfl

/-- A known UID is found at its place in the list and nowhere else. -/
theorem viewOf_getElem?_iff {ids : List Nat} (nodup : ids.Nodup) {uid : Nat} (member : uid ∈ ids)
    (room index : Nat) :
    (viewOf ids room)[index]? = some (some uid) ↔ ids.idxOf uid = index := by
  constructor
  · intro found
    by_cases inside : index < ids.length
    · rw [viewOf, List.getElem?_append_left (by simpa using inside)] at found
      obtain ⟨_, here⟩ := List.getElem?_eq_some_iff.mp found
      have same : ids[index] = uid := by simpa using here
      rw [← same, nodup.idxOf_getElem]
    · rw [viewOf, List.getElem?_append_right (by simpa using inside)] at found
      obtain ⟨_, here⟩ := List.getElem?_eq_some_iff.mp found
      simp at here
  · rintro rfl
    have inside := idxOf_lt_length_iff.mpr member
    rw [viewOf, List.getElem?_append_left (by simpa using inside), List.getElem?_map,
      List.getElem?_idxOf member]
    rfl

/-! ## The walk over the old UIDs -/

section Walk

variable (viewer : Viewer) {full : Bool} {fresh : MailboxState} {start : List (Option Nat)} {room : Nat}

/-- Between two turns the client's list is the old UID list, which still goes
with the old messages unless these have moved to the new state. -/
structure Walking (full : Bool) (fresh : MailboxState) (start : List (Option Nat)) (room : Nat)
    (notify : Notify) : Prop where
  view : replayAll start notify.sent = viewOf notify.old.ids room
  sorted : notify.old.ids.Pairwise (· < ·)
  source : if full then notify.old.ids = notify.old.msginfo.keysWhere MessageInfo.live
    else notify.old.msginfo = KeyTree.empty
  ids : notify.new.ids = fresh.ids
  keys : notify.new.msginfo.keys = fresh.msginfo.keys

theorem MailboxState.removeUid_of_mem {state : MailboxState} {uid : Nat}
    (source : state.ids = state.msginfo.keysWhere MessageInfo.live) (member : uid ∈ state.ids) :
    ∃ removed, state.removeUid uid = some removed ∧
      removed.ids = state.ids.filter (· != uid) ∧
      removed.ids = removed.msginfo.keysWhere MessageInfo.live := by
  have present : uid ∈ state.msginfo.keys := by
    rw [source] at member
    exact mem_keys_of_mem_keysWhere member
  obtain ⟨info, found⟩ := exists_lookup present
  rw [removeUid, found]
  refine ⟨_, rfl, ?_, rfl⟩
  rw [source]
  exact state.msginfo.keysWhere_insert_of_not uid rfl

/-- What `notify_expunge` does to the old UID list. -/
theorem notifyExpunge_walking {notify : Notify}
    (walking : Walking full fresh start room notify) (uid : Nat) :
    Walking full fresh start room (notifyExpunge viewer notify uid) ∧
      (notifyExpunge viewer notify uid).old.ids =
        if full && !viewer.withholds then notify.old.ids.filter (· != uid)
        else notify.old.ids := by
  rw [notifyExpunge]
  split_ifs with member withheld announces
  · simp [withheld] at announces
  · exact ⟨walking, rfl⟩
  · -- The load was a full one: the message is still known and the removal succeeds.
    have isFull : full = true := by simp_all
    have source := walking.source
    rw [if_pos isFull] at source
    obtain ⟨removed, removes, filtered, remapped⟩ :=
      removeUid_of_mem source member
    rw [removes]
    refine ⟨⟨?_, ?_, ?_, walking.ids, walking.keys⟩, filtered⟩
    · rw [replayAll_append, walking.view, filtered]
      exact replay_expunge walking.sorted.nodup member room
    · rw [filtered]
      exact walking.sorted.filter _
    · rw [if_pos isFull]
      exact remapped
  · have notFull : full = false := by simp_all
    have source := walking.source
    rw [notFull] at source
    have fails : notify.old.removeUid uid = none := by
      rw [removeUid, source]
      rfl
    rw [fails]
    exact ⟨walking, rfl⟩
  · refine ⟨walking, ?_⟩
    apply Eq.symm
    apply filter_eq_self.mpr
    intro other present
    simp only [bne_iff_ne]
    rintro rfl
    exact member present
  · exact ⟨walking, rfl⟩

theorem expungeTurn_walking {notify : Notify}
    (walking : Walking full fresh start room notify) (uid : Nat) :
    Walking full fresh start room (expungeTurn viewer notify uid) ∧
      (expungeTurn viewer notify uid).old.ids =
        notify.old.ids.filter fun other => !(other == uid && announced full viewer fresh uid) := by
  have present := notify.new.msginfo.lookup_isSome_iff uid
  rw [walking.keys] at present
  rw [expungeTurn]
  cases found : notify.new.msginfo.lookup uid with
  | none =>
    have absent : uid ∉ fresh.msginfo.keys := by
      rw [← present, found]
      simp
    refine ⟨walking, ?_⟩
    simp [announced, absent]
  | some info =>
    have loaded : uid ∈ fresh.msginfo.keys := by
      rw [← present, found]
      rfl
    split_ifs with live
    · rw [walking.ids] at live
      refine ⟨walking, ?_⟩
      simp [announced, live]
    · rw [walking.ids] at live
      have marked : Walking full fresh start room (notify.markExpunged uid info) := by
        refine ⟨walking.view, walking.sorted, walking.source, walking.ids, ?_⟩
        have known : uid ∈ notify.new.msginfo.keys := by rwa [walking.keys]
        exact (keys_insert_of_mem known _).trans walking.keys
      obtain ⟨next, filtered⟩ := notifyExpunge_walking viewer marked uid
      refine ⟨next, ?_⟩
      rw [filtered]
      cases all : full && !viewer.withholds
      · simp [announced, all, Notify.markExpunged]
      · simp [announced, all, loaded, live, Notify.markExpunged, bne]

/-- The whole walk leaves the UIDs whose expunge it does not announce. -/
theorem expungeTurns_walking (uids : List Nat) {notify : Notify}
    (walking : Walking full fresh start room notify) :
    Walking full fresh start room (uids.foldl (expungeTurn viewer) notify) ∧
      (uids.foldl (expungeTurn viewer) notify).old.ids =
        notify.old.ids.filter fun uid => !(uid ∈ uids && announced full viewer fresh uid) := by
  induction uids generalizing notify with
  | nil => exact ⟨walking, by simp⟩
  | cons head tail ih =>
    obtain ⟨turned, first⟩ := expungeTurn_walking viewer walking head
    obtain ⟨walked, rest⟩ := ih turned
    refine ⟨walked, ?_⟩
    rw [foldl_cons, rest, first, filter_filter]
    apply filter_congr
    intro uid _
    by_cases same : uid = head
    · subst same
      cases announced full viewer fresh uid <;> simp
    · simp [same]

end Walk

/-! ## The rest of a refresh -/

theorem notifyFetch_keeps (view : List (Option Nat)) (notify : Notify) (uid : Nat) :
    replayAll view (notifyFetch viewer notify uid).sent = replayAll view notify.sent ∧
      (notifyFetch viewer notify uid).new.ids = notify.new.ids := by
  rw [notifyFetch]
  cases notify.new.msginfo.lookup uid with
  | none => exact ⟨rfl, rfl⟩
  | some info =>
    split_ifs with shown
    · refine ⟨?_, rfl⟩
      rw [replayAll_append]
      unfold fetchResponse
      dsimp only
      split_ifs <;> rfl
    · exact ⟨rfl, rfl⟩

theorem notifyFetches_keep (view : List (Option Nat)) (uids : List Nat) (notify : Notify) :
    replayAll view (uids.foldl (notifyFetch viewer) notify).sent = replayAll view notify.sent ∧
      (uids.foldl (notifyFetch viewer) notify).new.ids = notify.new.ids := by
  induction uids generalizing notify with
  | nil => exact ⟨rfl, rfl⟩
  | cons head tail ih =>
    obtain ⟨sameView, sameIds⟩ := notifyFetch_keeps viewer view notify head
    obtain ⟨restView, restIds⟩ := ih (notifyFetch viewer notify head)
    exact ⟨restView.trans sameView, restIds.trans sameIds⟩

theorem flagLines_silent : replayAll view (flagLines old new) = view := by
  unfold flagLines
  split_ifs <;> rfl

theorem MailboxState.length_le_getExists : state.ids.length ≤ state.getExists := by
  unfold getExists
  split_ifs <;> omega

/-- The counter is never below the MSN of the last message. -/
theorem beyondCounter_nil : beyondCounter state = [] := by
  unfold beyondCounter
  cases last : state.ids.getLast? with
  | none => rfl
  | some uid =>
    have inside := idxOf_lt_length_iff.mpr (mem_of_getLast? last)
    have bound := state.length_le_getExists
    have notBeyond : ¬ state.getExists < state.msn uid := by
      unfold msn
      omega
    dsimp only
    rw [if_neg notBeyond]

theorem replayAll_counters : replayAll (viewOf old.ids 0) (counters viewer old new) =
      viewOf old.ids
        ((if showsExists viewer old new then new.getExists else old.ids.length) -
          old.ids.length) := by
  have recentSilent : ∀ view : List (Option Nat),
      replayAll view (if (new.recent ≠ 0 || viewer.forces) && new.recent ≠ 0 then
        [.recent new.recent] else []) = view := by
    intro view
    split_ifs <;> rfl
  rw [counters, replayAll_append, recentSilent]
  cases shown : showsExists viewer old new
  · simp [replayAll]
  · by_cases none : new.getExists = 0
    · simp [none, replayAll]
    · simp [none, replayAll, replay_exists]

/-- The client's list and the new UID list at the end of the notifications. -/
theorem notifications_spec (source : old.ids = old.msginfo.keysWhere MessageInfo.live) :
    replayAll (viewOf old.ids 0) (notifications conf viewer old new).2 =
        viewOf (old.ids.filter fun uid => !announced (old.reloads conf) viewer new uid)
          ((if showsExists viewer old new then new.getExists else old.ids.length) -
            old.ids.length) ∧
      (notifications conf viewer old new).1.ids = new.ids := by
  have leftoverIds : (old.leftover conf).ids = old.ids := by
    unfold leftover
    split_ifs <;> rfl
  have walking : Walking (old.reloads conf) new (viewOf old.ids 0)
      ((if showsExists viewer old new then new.getExists else old.ids.length) - old.ids.length)
      ⟨old.leftover conf, new, counters viewer old new ++ beyondCounter (old.leftover conf)⟩ := by
    refine ⟨?_, ?_, ?_, rfl, rfl⟩
    · rw [beyondCounter_nil, append_nil, leftoverIds]
      exact replayAll_counters viewer old new
    · rw [leftoverIds, source]
      exact old.msginfo.keysWhere_sorted _
    · rw [leftoverIds]
      unfold leftover
      split_ifs with full
      · exact source
      · rfl
  obtain ⟨walked, kept⟩ := expungeTurns_walking viewer (old.leftover conf).ids.reverse walking
  obtain ⟨sameView, sameIds⟩ := notifyFetches_keep viewer (viewOf old.ids 0)
    (mailboxNotifyExpunge viewer ⟨old.leftover conf, new, counters viewer old new⟩).old.ids
    { mailboxNotifyExpunge viewer ⟨old.leftover conf, new, counters viewer old new⟩ with
      sent := (mailboxNotifyExpunge viewer
        ⟨old.leftover conf, new, counters viewer old new⟩).sent ++ flagLines old new }
  constructor
  · refine sameView.trans ?_
    rw [replayAll_append, flagLines_silent]
    refine walked.view.trans ?_
    rw [kept, leftoverIds]
    congr 1
    apply filter_congr
    intro uid member
    simp [member]
  · have flushed : ∀ state : MailboxState, state.flushRecent.ids = state.ids := by
      intro state
      unfold flushRecent
      split_ifs <;> rfl
    exact (flushed _).trans (sameIds.trans walked.ids)

theorem MailboxState.consulted_keeps :
    (state.consulted db).ids = state.ids ∧ (state.consulted db).msginfo = state.msginfo ∧
      (state.consulted db).id = state.id := by
  unfold consulted getSeq getmailboxSeq
  split_ifs
  · cases db.mailbox <;> exact ⟨rfl, rfl, rfl⟩
  · exact ⟨rfl, rfl, rfl⟩

/-! ## The refreshed state is one that a session can hold -/

structure MailboxState.Fit (id : Nat) (state : MailboxState) : Prop where
  held : state.Held
  id_eq : state.id = id

section Fit

variable {viewer : Viewer} {notify : Notify} {id : Nat}

theorem notifyExpunge_new (uid : Nat) : (notifyExpunge viewer notify uid).new = notify.new := by
  unfold notifyExpunge
  split_ifs
  · rfl
  · cases notify.old.removeUid uid <;> rfl
  · rfl

/-- Only a message that is not live is marked. -/
theorem markExpunged_fit {uid : Nat} {info : MessageInfo} (fit : notify.new.Fit id)
    (found : notify.new.msginfo.lookup uid = some info) (gone : uid ∉ notify.new.ids) :
    (notify.markExpunged uid info).new.Fit id := by
  have dead : MessageInfo.live { info with expunged := true } = false := by
    apply Bool.eq_false_iff.mpr
    intro live
    apply gone
    rw [fit.held.ids_eq]
    exact mem_map_of_mem (mem_filter.mpr ⟨mem_of_lookup found, live⟩)
  refine ⟨⟨?_, fit.held.expunged_dead.insert uid fun _ => dead⟩, fit.id_eq⟩
  show notify.new.ids = (notify.new.msginfo.insert uid _).keysWhere MessageInfo.live
  rw [keysWhere_insert_of_not _ uid dead, ← fit.held.ids_eq]
  apply Eq.symm
  apply filter_eq_self.mpr
  intro other present
  simp only [bne_iff_ne]
  rintro rfl
  exact gone present

theorem expungeTurn_fit (fit : notify.new.Fit id) (uid : Nat) :
    (expungeTurn viewer notify uid).new.Fit id := by
  unfold expungeTurn
  cases found : notify.new.msginfo.lookup uid with
  | none => exact fit
  | some info =>
    split_ifs with live
    · exact fit
    · rw [notifyExpunge_new]
      exact markExpunged_fit fit found live

theorem notifyFetch_fit (fit : notify.new.Fit id) (uid : Nat) :
    (notifyFetch viewer notify uid).new.Fit id := by
  unfold notifyFetch
  cases notify.new.msginfo.lookup uid with
  | none => exact fit
  | some info =>
    split_ifs
    · exact ⟨⟨fit.held.ids_eq, fit.held.expunged_dead⟩, fit.id_eq⟩
    · exact fit

/-- A loop whose turns keep the new state fit keeps it fit. -/
theorem foldl_fit {turn : Notify → Nat → Notify}
    (keeps : ∀ {notify : Notify}, notify.new.Fit id → ∀ uid, (turn notify uid).new.Fit id)
    (uids : List Nat) (fit : notify.new.Fit id) : (uids.foldl turn notify).new.Fit id := by
  induction uids generalizing notify with
  | nil => exact fit
  | cons head tail ih => exact ih (keeps fit head)

theorem notifications_fit (conf : LoadConf) (old : MailboxState) {new : MailboxState}
    (fit : new.Fit id) : (notifications conf viewer old new).1.Fit id := by
  have expunged : (mailboxNotifyExpunge viewer
      ⟨old.leftover conf, new, counters viewer old new⟩).new.Fit id :=
    foldl_fit expungeTurn_fit _ fit
  have flushed : ∀ state : MailboxState, state.Fit id → state.flushRecent.Fit id := by
    intro state ready
    unfold flushRecent
    split_ifs
    · exact ⟨⟨ready.held.ids_eq, ready.held.expunged_dead⟩, ready.id_eq⟩
    · exact ready
  exact flushed _ (foldl_fit notifyFetch_fit _ expunged)

end Fit

theorem mailboxStatus_fit (viewer : Viewer) (mailbox : SessionMailbox) :
    (mailboxStatus conf db viewer mailbox.toMailboxState).1.Fit mailbox.id := by
  obtain ⟨sameIds, sameInfo, sameId⟩ := mailbox.consulted_keeps db
  have held : (mailbox.consulted db).Held := by
    refine ⟨?_, ?_⟩
    · rw [sameIds, sameInfo]
      exact mailbox.held.ids_eq
    · rw [sameInfo]
      exact mailbox.held.expunged_dead
  unfold mailboxStatus
  dsimp only
  split_ifs with outdated
  · have loaded := refreshed_held conf db held
    exact notifications_fit conf _
      ⟨⟨loaded.ids_eq, loaded.expunged_dead⟩, (refreshed_id conf db _).trans sameId⟩
  · exact ⟨held, sameId⟩

def SessionMailbox.refresh (conf : LoadConf) (db : MailboxDb) (viewer : Viewer)
    (mailbox : SessionMailbox) : SessionMailbox × List Response :=
  let after := mailboxStatus conf db viewer mailbox.toMailboxState
  have fit := mailboxStatus_fit conf db viewer mailbox
  (⟨after.1, fit.id_eq ▸ mailbox.id_ne_zero, fit.held⟩, after.2)

/-- Over any run of refreshes the state lists the live messages of one mailbox. -/
theorem mailboxStatus_run (mailbox : SessionMailbox)
    (rounds : List (LoadConf × MailboxDb × Viewer)) :
    (rounds.foldl (fun state (conf, db, viewer) => (mailboxStatus conf db viewer state).1)
      mailbox.toMailboxState).Fit mailbox.id := by
  induction rounds generalizing mailbox with
  | nil => exact ⟨mailbox.held, rfl⟩
  | cons round rest ih =>
    obtain ⟨conf, db, viewer⟩ := round
    rw [← (mailboxStatus_fit conf db viewer mailbox).id_eq]
    exact ih (mailbox.refresh conf db viewer).1

/-! ## The condition is exact -/

section Exact

variable (full : Bool) (viewer : Viewer) {old new : MailboxState}

/-- Among the UIDs that stay, the old list without the announced expunges counts
as many smaller ones as the new list, up to what was lost and what arrived. -/
theorem countP_kept_add_arrived (sortedOld : old.ids.Pairwise (· < ·))
    (sortedNew : new.ids.Pairwise (· < ·)) (test : Nat → Bool) :
    (old.ids.filter fun uid => !announced full viewer new uid).countP test +
        (arrived old new).countP test =
      new.ids.countP test + (lost full viewer old new).countP test := by
  have oldSplit := countP_eq_countP_filter_add
    (old.ids.filter fun uid => !announced full viewer new uid) test (· ∈ new.ids)
  have newSplit := countP_eq_countP_filter_add new.ids test (· ∈ old.ids)
  have stay : ((old.ids.filter fun uid => !announced full viewer new uid).filter
      (· ∈ new.ids)).Perm (new.ids.filter (· ∈ old.ids)) := by
    apply (perm_ext_iff_of_nodup ((sortedOld.filter _).filter _).nodup
      (sortedNew.filter _).nodup).mpr
    intro uid
    simp only [announced]
    by_cases isNew : uid ∈ new.ids <;> simp [isNew]
  have sameStay := stay.countP_eq test
  have lostEq : lost full viewer old new =
      (old.ids.filter fun uid => !announced full viewer new uid).filter
        (fun uid => !decide (uid ∈ new.ids)) := by
    simp [lost]
  have arrivedEq : arrived old new = new.ids.filter (fun uid => !decide (uid ∈ old.ids)) := by
    simp [arrived]
  rw [lostEq, arrivedEq]
  omega

theorem inStep_viewOf_iff (sortedOld : old.ids.Pairwise (· < ·))
    (sortedNew : new.ids.Pairwise (· < ·)) {shown : Nat} (atLeast : old.ids.length ≤ shown)
    {after : MailboxState} (switched : after.ids = new.ids) :
    InStep (viewOf (old.ids.filter fun uid => !announced full viewer new uid)
        (shown - old.ids.length)) old.ids after ↔
      shown = new.ids.length + old.ids.countP (announced full viewer new) ∧
      ∀ uid ∈ old.ids, uid ∈ new.ids →
        (lost full viewer old new).countP (· < uid) = (arrived old new).countP (· < uid) := by
  have sortedKept := sortedOld.filter fun uid => !announced full viewer new uid
  unfold InStep msn
  rw [switched]
  apply and_congr
  · have parts : old.ids.length = _ + _ :=
      length_eq_countP_add_countP (announced full viewer new)
    rw [viewOf_length, ← countP_eq_length_filter]
    have same : old.ids.countP (fun uid => !announced full viewer new uid) =
        old.ids.countP (fun uid => decide ¬announced full viewer new uid = true) := by
      simp
    omega
  · refine forall₃_congr fun uid isOld isNew => ?_
    have isKept : uid ∈ old.ids.filter fun uid => !announced full viewer new uid := by
      apply mem_filter.mpr
      exact ⟨isOld, by simp [announced, isNew]⟩
    rw [viewOf_getElem?_iff sortedKept.nodup isKept,
      idxOf_eq_countP_lt sortedKept isKept, idxOf_eq_countP_lt sortedNew isNew]
    have counted := countP_kept_add_arrived full viewer sortedOld sortedNew (· < uid)
    omega

end Exact

theorem MailboxState.refreshed_ids_sorted
    (state : MailboxState) : (state.refreshed conf db).ids.Pairwise (· < ·) := by
  unfold refreshed
  split_ifs <;> exact keysWhere_sorted _ _

theorem MailboxState.successor_getExists (state : MailboxState) :
    (state.successor conf db).getExists =
      max state.getExists (state.refreshed conf db).getExists := by
  have bound := (state.refreshed conf db).length_le_getExists
  have notBelow : ¬ max state.getExists (state.refreshed conf db).getExists <
      (state.refreshed conf db).ids.length := by omega
  exact if_neg notBelow

/-- A client is in step after a refresh exactly when the changes are accounted
for. -/
theorem viewConsistent_iff (conf : LoadConf) (db : MailboxDb) (viewer : Viewer)
    (mailbox : SessionMailbox) :
    ViewConsistent conf db viewer mailbox.toMailboxState ↔
      RefreshAccounted conf db viewer mailbox.toMailboxState := by
  obtain ⟨sameIds, sameInfo, _⟩ := mailbox.consulted_keeps db
  have source : (mailbox.consulted db).ids =
      (mailbox.consulted db).msginfo.keysWhere MessageInfo.live := by
    rw [sameIds, sameInfo]
    exact mailbox.held.ids_eq
  have sorted : (mailbox.consulted db).ids.Pairwise (· < ·) := by
    rw [sameIds]
    exact mailbox.held.ids_sorted
  have known : mailbox.ids.map some = viewOf (mailbox.consulted db).ids 0 := by
    simp [viewOf, sameIds]
  unfold ViewConsistent RefreshAccounted mailboxStatus
  dsimp only
  rw [known, ← sameIds]
  generalize mailbox.consulted db = old at source sorted
  cases outdated : old.outdated db
  · -- Nothing is written and nothing is switched.
    simp only [Bool.false_eq_true, false_implies, iff_true]
    refine ⟨by simp [replayAll, viewOf_length], ?_⟩
    intro uid isOld _
    exact (viewOf_getElem?_iff sorted.nodup isOld 0 _).mpr rfl
  · simp only [if_true, true_implies]
    obtain ⟨view, switched⟩ := notifications_spec conf viewer old (old.successor conf db) source
    have atLeast : old.ids.length ≤ shownLength viewer old (old.refreshed conf db) := by
      have := old.length_le_getExists
      unfold shownLength
      split_ifs <;> omega
    have shown : (if showsExists viewer old (old.successor conf db) then
        (old.successor conf db).getExists else old.ids.length) =
        shownLength viewer old (old.refreshed conf db) := by
      rw [successor_getExists]
      rfl
    rw [view, shown]
    refine (inStep_viewOf_iff (old.reloads conf) viewer sorted
      (old.refreshed_ids_sorted conf db) atLeast switched).trans ?_
    exact ⟨fun both => ⟨both.1, both.2⟩, fun accounted => ⟨accounted.length, accounted.below⟩⟩

/-- The view of a mailbox with three messages, the second of which another
session expunges before the next poll. -/
def threeMessages : MailboxDb where
  mailbox := some ⟨3, imappermReadwrite⟩
  rows := [⟨3, .seen, {}, 3, []⟩, ⟨2, .seen, {}, 2, []⟩, ⟨1, .seen, {}, 1, []⟩]
  ordered := by decide
  unique := by decide

def secondExpunged : MailboxDb where
  mailbox := some ⟨4, imappermReadwrite⟩
  rows := [⟨2, .delete, { deleted := true }, 4, []⟩, ⟨3, .seen, {}, 3, []⟩, ⟨1, .seen, {}, 1, []⟩]
  ordered := by decide
  unique := by decide

def sessionOf (conf : LoadConf) : SessionMailbox where
  toMailboxState := MailboxState.new conf threeMessages 7
  id_ne_zero := by
    rw [MailboxState.new_id]
    decide
  held := MailboxState.new_held conf threeMessages 7

def noopViewer : Viewer := ⟨some .noop, false, false⟩

def differential : LoadConf := { updateStrategy := 2 }

/-- With either strategy a NOOP leaves the client with three messages, and the
session with two. -/
theorem expunge_goes_unannounced :
    (sessionOf {}).ids = [1, 2, 3] ∧
      (mailboxStatus {} secondExpunged noopViewer (sessionOf {}).toMailboxState).1.ids = [1, 3] ∧
      ¬ ViewConsistent {} secondExpunged noopViewer (sessionOf {}).toMailboxState ∧
      ¬ ViewConsistent differential secondExpunged noopViewer
        (sessionOf differential).toMailboxState := by
  decide +kernel

end Dbmail.Mailbox
