import Dbmail.Mailbox.Sets
import Dbmail.Mailbox.Refresh

/-!
Contract: which messages FETCH, STORE, COPY and EXPUNGE name to the database.

Owns the walks `_do_fetch` with `_fetch_get_items` (`dm_imapsession.c`),
`_do_store` and `_do_copy` (`imapcommands.c`) and `_do_expunge`, each with every
statement that goes by the id of a message, and that these ids are messages of
the cached state.

Does not own: what the commands answer, and what the statements do.
-/

namespace Dbmail.Mailbox

open Dbmail.Lib List KeyTree

/-! ## Statements -/

/-- A statement that goes by the ids of messages. `content` is the retrieval of the
physical message that the cached entry of a message names; the two range queries
are also bound to the id of the mailbox. -/
inductive DbCall where
  | content (uid : Nat)
  | envelopes (first last : Nat)
  | headers (first last : Nat)
  | getMsgflag (uid : Nat)
  | setMsgflag (uid : Nat)
  | setSeq (uid : Nat)
  | copymsg (uid : Nat)
  | setDeleted (uid : Nat)
deriving DecidableEq, Repr

def DbCall.names : DbCall → List Nat
  | .content uid | .getMsgflag uid | .setMsgflag uid | .setSeq uid | .copymsg uid
  | .setDeleted uid => [uid]
  | .envelopes first last | .headers first last => [first, last]

/-! ## FETCH -/

/-- The kinds of `body_fetch` that differ here. -/
inductive BodySection where
  | plain
  | part (isZero : Bool)
  | headerFields (isZero : Bool)
deriving DecidableEq, Repr

/-- `fetch_items`, as far as it decides on statements. -/
structure FetchItems where
  changedsince : Nat
  msgparseNeeded : Bool
  getStructure : Bool
  getEnvelope : Bool
  getRFC822 : Bool
  getBodyTotal : Bool
  getRFC822Text : Bool
  noseen : Bool
  sections : List BodySection

structure FetchAnswers where
  retrieve : Nat → Bool
  structureKnown : Nat → Bool
  /-- The messages of the rows of the query for envelopes, unless it fails. -/
  envelopeRows : Nat → Nat → Option (List Nat)
  headersRead : Nat → Nat → Bool
  seen : Nat → Bool
  mayMarkSeen : Int
  setMsgflag : Nat → Int

structure Fetching where
  calls : List DbCall
  setseen : Bool
  envelopes : Option (List Nat)
  /-- The sections whose tree of headers exists. -/
  started : List Nat
  lo : Nat
  ceiling : Nat

def queryBatchsize : Nat := 2000

/-- The last message of the batch that begins at position `lo`. -/
def batchEnd (idsList : List Nat) (lo : Nat) : Nat :=
  (idsList[lo + queryBatchsize]?).getD (idsList.getLast?.getD 0)

section Fetch

variable (state : MailboxState) (items : FetchItems) (answers : FetchAnswers) (idsList : List Nat)

def fetchEnvelopes (fetching : Fetching) (uid : Nat) : Fetching :=
  let known := fetching.envelopes.getD []
  let lo := if fetching.envelopes.isNone then 0 else fetching.lo
  if uid ∈ known then fetching
  else
    let last := batchEnd idsList lo
    let calls := fetching.calls ++ [.envelopes uid last]
    match answers.envelopeRows uid last with
    | none => { fetching with calls := calls, envelopes := some known, lo := lo }
    | some rows =>
      { fetching with
        calls := calls
        envelopes := some (known ++ rows.filter fun row => row ∈ idsList)
        lo := lo + queryBatchsize }

/-- `_fetch_headers` for the section at a position. -/
def fetchHeaders (fetching : Fetching) (uid position : Nat) : Fetching :=
  let fresh := position ∉ fetching.started
  let lo := if fresh then 0 else fetching.lo
  let ceiling := if fresh then 0 else fetching.ceiling
  let opened := { fetching with
    started := if fresh then position :: fetching.started else fetching.started
    lo := lo
    ceiling := ceiling }
  if uid ≤ ceiling then opened
  else
    let last := batchEnd idsList lo
    let asked := { opened with calls := opened.calls ++ [.headers uid last] }
    if answers.headersRead uid last then
      { asked with lo := lo + queryBatchsize, ceiling := last }
    else asked

/-- `_imap_show_body_section`. -/
def showBodySection (uid : Nat) (fetching : Fetching) (entry : BodySection × Nat) : Fetching :=
  let marked := { fetching with setseen := fetching.setseen || !items.noseen }
  match entry.1 with
  | .plain => fetching
  | .part isZero => if items.msgparseNeeded ∧ isZero then fetching else marked
  | .headerFields isZero =>
    if items.msgparseNeeded ∧ isZero then fetching
    else fetchHeaders answers idsList marked uid entry.2

/-- The end of `_fetch_get_items`, with whether it fails. -/
def markSeen (fetching : Fetching) (uid : Nat) : Fetching × Bool :=
  if !fetching.setseen then (fetching, false)
  else
    let asked := { fetching with calls := fetching.calls ++ [.getMsgflag uid] }
    if answers.seen uid then (asked, false)
    else if answers.mayMarkSeen = -1 then (asked, true)
    else if answers.mayMarkSeen = 1 then
      let marked := { asked with calls := asked.calls ++ [.setMsgflag uid] }
      if answers.setMsgflag uid = -1 then (marked, true)
      else ({ marked with calls := marked.calls ++ [.setSeq uid] }, false)
    else (asked, false)

/-- `_fetch_get_items` behind the retrieval of the message. -/
def showItems (fetching : Fetching) (uid : Nat) : Fetching × Bool :=
  if items.getStructure ∧ !answers.structureKnown uid then (fetching, true)
  else
    let enveloped := if items.getEnvelope then fetchEnvelopes answers idsList fetching uid else fetching
    let shown := { enveloped with
      setseen := enveloped.setseen || items.getRFC822 || items.getBodyTotal || items.getRFC822Text }
    markSeen answers (items.sections.zipIdx.foldl (showBodySection items answers idsList uid) shown) uid

/-- `_fetch_get_items`, and whether `_do_fetch` breaks the walk off. -/
def fetchGetItems (fetching : Fetching) (uid : Nat) : Fetching × Bool :=
  match state.msginfo.lookup uid with
  | none => (fetching, false)
  | some info =>
    if uid ∉ state.ids then (fetching, true)
    else if items.changedsince ≠ 0 ∧ info.seq ≤ items.changedsince then (fetching, false)
    else if items.msgparseNeeded then
      let loaded := { fetching with calls := fetching.calls ++ [.content uid] }
      if answers.retrieve uid then showItems items answers idsList loaded uid else (loaded, false)
    else showItems items answers idsList fetching uid

/-- The statements of `dbmail_imap_session_fetch_get_items`. -/
def fetchCalls : List DbCall :=
  (walk (fetchGetItems state items answers idsList) ⟨[], false, none, [], 0, 0⟩ idsList).calls

end Fetch

/-! ## STORE, COPY and EXPUNGE -/

variable (state : MailboxState)

/-- With the results of `db_set_msgflag`. -/
def doStore (changed : Nat → Int) (calls : List DbCall) (uid : Nat) : List DbCall × Bool :=
  match state.msginfo.lookup uid with
  | none => (calls, true)
  | some _ =>
    if state.permission ≠ imappermReadwrite then (calls, false)
    else if changed uid < 0 then (calls ++ [.setMsgflag uid], true)
    else if changed uid = 0 then (calls ++ [.setMsgflag uid], false)
    else (calls ++ [.setMsgflag uid, .setSeq uid], false)

/-- With the results of `db_copymsg`. -/
def doCopy (copied : Nat → Int) (calls : List DbCall) (uid : Nat) : List DbCall × Bool :=
  match state.msginfo.lookup uid with
  | none => (calls, false)
  | some _ => (calls ++ [.copymsg uid, .setSeq uid], copied uid = -2)

/-- Whatever the result of the UPDATE. The announcement takes the
message out of the list of UIDs. -/
def doExpunge (walking : MailboxState × List DbCall) (uid : Nat) : MailboxState × List DbCall :=
  match walking.1.msginfo.lookup uid with
  | none => walking
  | some info =>
    if !info.flags.deleted then walking
    else
      let calls := walking.2 ++ [.setDeleted uid]
      if uid ∈ walking.1.ids then ((walking.1.removeUid uid).getD walking.1, calls)
      else (walking.1, calls)

/-- The commands with a set, with what the database answers to them. EXPUNGE
without a set is about the whole mailbox. -/
inductive SetCommand where
  | fetch (items : FetchItems) (answers : FetchAnswers)
  | store (changed : Nat → Int)
  | copy (copied : Nat → Int)
  | expunge (whole : Bool)

def SetCommand.calls (modseq : Nat) (set : Bytes) (uid : Bool) :
    SetCommand → List DbCall
  | .fetch items answers =>
    match state.mailboxGetSet modseq set uid with
    | none => []
    | some found => fetchCalls state items answers found.keys
  | .store changed =>
    match state.mailboxGetSet modseq set uid with
    | none => []
    | some found => walk (doStore state changed) [] found.keys
  | .copy copied =>
    match state.mailboxGetSet modseq set uid with
    | none => []
    | some found => walk (doCopy state copied) [] found.keys
  | .expunge whole =>
    if state.ids = [] then []
    else
      let ids :=
        if whole then state.ids
        else ((state.mailboxGetSet modseq set uid).map KeyTree.keys).getD []
      (ids.reverse.foldl doExpunge (state, [])).2

/-! ## The ids are messages of the mailbox -/

def Inside (calls : List DbCall) : Prop :=
  ∀ call ∈ calls, ∀ uid ∈ call.names, uid ∈ state.msginfo.keys

section Inside

variable {state : MailboxState} {calls : List DbCall} {uid : Nat}

theorem Inside.nil : Inside state [] := by
  intro call none
  simp at none

theorem Inside.append {more : List DbCall} (inside : Inside state calls)
    (named : ∀ call ∈ more, ∀ uid ∈ call.names, uid ∈ state.msginfo.keys) :
    Inside state (calls ++ more) := by
  intro call member
  rcases mem_append.mp member with earlier | new
  · exact inside call earlier
  · exact named call new

theorem Inside.about {more : List DbCall} (inside : Inside state calls)
    (member : uid ∈ state.msginfo.keys) (one : ∀ call ∈ more, call.names = [uid]) :
    Inside state (calls ++ more) := by
  apply inside.append
  intro call new other named
  rw [one call new] at named
  cases mem_singleton.mp named
  exact member

theorem doStore_inside (changed : Nat → Int) (inside : Inside state calls) :
    Inside state (doStore state changed calls uid).1 := by
  unfold doStore
  cases found : state.msginfo.lookup uid with
  | none => exact inside
  | some info =>
    have member := mem_keys_of_lookup found
    split_ifs
    · exact inside
    all_goals exact inside.about member (by simp [DbCall.names])

theorem doCopy_inside (copied : Nat → Int) (inside : Inside state calls) :
    Inside state (doCopy state copied calls uid).1 := by
  unfold doCopy
  cases found : state.msginfo.lookup uid with
  | none => exact inside
  | some info => exact inside.about (mem_keys_of_lookup found) (by simp [DbCall.names])

end Inside

section Expunge

variable {state : MailboxState}

theorem removeUid_keys {uid : Nat} {after : MailboxState} (removed : state.removeUid uid = some after) :
    after.msginfo.keys = state.msginfo.keys := by
  unfold MailboxState.removeUid at removed
  cases found : state.msginfo.lookup uid with
  | none =>
    rw [found] at removed
    cases removed
  | some info =>
    rw [found] at removed
    cases removed
    exact keys_insert_of_mem (mem_keys_of_lookup found) _

/-- The walk of EXPUNGE marks messages and keeps the keys of their tree. -/
theorem doExpunge_inside {walking : MailboxState × List DbCall} (uid : Nat)
    (keys : walking.1.msginfo.keys = state.msginfo.keys) (inside : Inside state walking.2) :
    (doExpunge walking uid).1.msginfo.keys = state.msginfo.keys ∧
      Inside state (doExpunge walking uid).2 := by
  unfold doExpunge
  cases found : walking.1.msginfo.lookup uid with
  | none => exact ⟨keys, inside⟩
  | some info =>
    have member : uid ∈ state.msginfo.keys := keys ▸ mem_keys_of_lookup found
    have named : Inside state (walking.2 ++ [.setDeleted uid]) :=
      inside.about member (by simp [DbCall.names])
    dsimp only
    split_ifs
    · exact ⟨keys, inside⟩
    · refine ⟨?_, named⟩
      cases removed : walking.1.removeUid uid with
      | none => exact keys
      | some after => exact (removeUid_keys removed).trans keys
    · exact ⟨keys, named⟩

theorem expunge_inside (uids : List Nat) {walking : MailboxState × List DbCall}
    (keys : walking.1.msginfo.keys = state.msginfo.keys) (inside : Inside state walking.2) :
    Inside state (uids.foldl doExpunge walking).2 := by
  induction uids generalizing walking with
  | nil => exact inside
  | cons uid rest ih =>
    obtain ⟨keysAfter, insideAfter⟩ := doExpunge_inside uid keys inside
    exact ih keysAfter insideAfter

end Expunge

/-! ## The statements of a FETCH -/

section FetchMakes

variable {state : MailboxState} {items : FetchItems} {answers : FetchAnswers} {idsList : List Nat}
  {fetching : Fetching} {uid : Nat} {allowed : DbCall → Prop}

structure FetchMakes (answers : FetchAnswers) (idsList : List Nat) (allowed : DbCall → Prop)
    (uid : Nat) : Prop where
  content : allowed (.content uid)
  envelopes : ∀ last ∈ idsList, allowed (.envelopes uid last)
  headers : ∀ last ∈ idsList, allowed (.headers uid last)
  asks : allowed (.getMsgflag uid)
  marks : answers.mayMarkSeen = 1 → allowed (.setMsgflag uid) ∧ allowed (.setSeq uid)

theorem batchEnd_mem (member : uid ∈ idsList) (lo : Nat) : batchEnd idsList lo ∈ idsList := by
  unfold batchEnd
  cases found : idsList[lo + queryBatchsize]? with
  | some last => exact mem_of_getElem? found
  | none =>
    rw [List.getLast?_eq_getLast_of_ne_nil (ne_nil_of_mem member)]
    exact getLast_mem _

theorem all_snoc {calls : List DbCall} {call : DbCall} (all : ∀ call ∈ calls, allowed call)
    (last : allowed call) : ∀ other ∈ calls ++ [call], allowed other := by
  intro other member
  rcases mem_append.mp member with earlier | new
  · exact all other earlier
  · exact mem_singleton.mp new ▸ last

theorem markSeen_makes (makes : FetchMakes answers idsList allowed uid)
    (all : ∀ call ∈ fetching.calls, allowed call) :
    ∀ call ∈ (markSeen answers fetching uid).1.calls, allowed call := by
  have asked : ∀ call ∈ fetching.calls ++ [.getMsgflag uid], allowed call := all_snoc all makes.asks
  unfold markSeen
  by_cases silent : (!fetching.setseen) = true
  · rw [if_pos silent]
    exact all
  rw [if_neg silent]
  by_cases seen : answers.seen uid = true
  · rw [if_pos seen]
    exact asked
  rw [if_neg seen]
  by_cases failed : answers.mayMarkSeen = -1
  · rw [if_pos failed]
    exact asked
  rw [if_neg failed]
  by_cases may : answers.mayMarkSeen = 1
  · rw [if_pos may]
    have marked := all_snoc asked (makes.marks may).1
    split
    · exact marked
    · exact all_snoc marked (makes.marks may).2
  · rw [if_neg may]
    exact asked

variable (member : uid ∈ idsList) (makes : FetchMakes answers idsList allowed uid)
  (all : ∀ call ∈ fetching.calls, allowed call)

include member makes all

theorem fetchEnvelopes_makes :
    ∀ call ∈ (fetchEnvelopes answers idsList fetching uid).calls, allowed call := by
  have asked (lo : Nat) :
      ∀ call ∈ fetching.calls ++ [.envelopes uid (batchEnd idsList lo)], allowed call :=
    all_snoc all (makes.envelopes _ (batchEnd_mem member lo))
  unfold fetchEnvelopes
  dsimp only
  by_cases known : uid ∈ fetching.envelopes.getD []
  · rw [if_pos known]
    exact all
  rw [if_neg known]
  split
  · exact asked _
  · exact asked _

theorem fetchHeaders_makes (position : Nat) :
    ∀ call ∈ (fetchHeaders answers idsList fetching uid position).calls, allowed call := by
  have asked (lo : Nat) :
      ∀ call ∈ fetching.calls ++ [.headers uid (batchEnd idsList lo)], allowed call :=
    all_snoc all (makes.headers _ (batchEnd_mem member lo))
  unfold fetchHeaders
  dsimp only
  generalize (if position ∉ fetching.started then 0 else fetching.ceiling) = ceiling
  generalize (if position ∉ fetching.started then 0 else fetching.lo) = lo
  by_cases known : uid ≤ ceiling
  · rw [if_pos known]
    exact all
  rw [if_neg known]
  by_cases read : answers.headersRead uid (batchEnd idsList lo) = true
  · rw [if_pos read]
    exact asked lo
  · rw [if_neg read]
    exact asked lo

theorem showBodySections_makes (sections : List (BodySection × Nat)) :
    ∀ call ∈ (sections.foldl (showBodySection items answers idsList uid) fetching).calls,
      allowed call := by
  induction sections generalizing fetching with
  | nil => exact all
  | cons entry rest ih =>
    apply ih
    unfold showBodySection
    split
    · exact all
    · split
      · exact all
      · exact all
    · split
      · exact all
      · apply fetchHeaders_makes member makes
        exact all

theorem showItems_makes :
    ∀ call ∈ (showItems items answers idsList fetching uid).1.calls, allowed call := by
  unfold showItems
  split
  · exact all
  · apply markSeen_makes makes
    apply showBodySections_makes member makes
    split
    · exact fetchEnvelopes_makes member makes all
    · exact all

end FetchMakes

section Walks

variable {state : MailboxState} {items : FetchItems} {answers : FetchAnswers} {idsList : List Nat}
  {allowed : DbCall → Prop}

/-- A message that is not in the list of UIDs, such as the one made up for an empty
mailbox, makes no statement. -/
theorem fetchGetItems_makes {fetching : Fetching} {uid : Nat} (member : uid ∈ idsList)
    (makes : uid ∈ state.ids → FetchMakes answers idsList allowed uid)
    (all : ∀ call ∈ fetching.calls, allowed call) :
    ∀ call ∈ (fetchGetItems state items answers idsList fetching uid).1.calls, allowed call := by
  unfold fetchGetItems
  cases found : state.msginfo.lookup uid with
  | none => exact all
  | some info =>
    dsimp only
    by_cases known : uid ∉ state.ids
    · rw [if_pos known]
      exact all
    rw [if_neg known]
    have makesHere := makes (not_not.mp known)
    split
    · exact all
    split
    · have loaded := all_snoc all makesHere.content
      split
      · exact showItems_makes member makesHere loaded
      · exact loaded
    · exact showItems_makes member makesHere all

theorem fetchCalls_makes
    (makes : ∀ uid ∈ idsList, uid ∈ state.ids → FetchMakes answers idsList allowed uid) :
    ∀ call ∈ fetchCalls state items answers idsList, allowed call := by
  refine @walk_keeps Fetching _ (fun fetching => ∀ call ∈ fetching.calls, allowed call) _ ?_ _
    (by simp)
  intro fetching uid member all
  exact fetchGetItems_makes member (makes uid member) all

end Walks

/-- Whatever set is given, all ids that reach the database are messages of the
selected mailbox. -/
theorem setCommand_inside (mailbox : SessionMailbox) (modseq : Nat) (set : Bytes) (uid : Bool)
    (command : SetCommand) :
    Inside mailbox.toMailboxState (command.calls mailbox.toMailboxState modseq set uid) := by
  have live (id : Nat) (member : id ∈ mailbox.ids) : id ∈ mailbox.msginfo.keys :=
    mailbox.held.mem_keys member
  cases command with
  | fetch items answers =>
    unfold SetCommand.calls
    cases parsed : mailbox.mailboxGetSet modseq set uid with
    | none => exact .nil
    | some found =>
      apply fetchCalls_makes
      intro key member known
      have listed (id : Nat) (inSet : id ∈ found.keys) : id ∈ mailbox.msginfo.keys :=
        live id (MailboxState.mailboxGetSet_keys (ne_nil_of_mem known) parsed id inSet)
      refine ⟨?_, ?_, ?_, ?_, fun _ => ⟨?_, ?_⟩⟩
      all_goals simp [DbCall.names, or_false]
      all_goals first
        | exact listed key member
        | exact fun last inSet => ⟨listed key member, listed last inSet⟩
  | store changed =>
    unfold SetCommand.calls
    cases found : mailbox.mailboxGetSet modseq set uid with
    | none => exact .nil
    | some found =>
      refine walk_keeps ?_ .nil
      intro calls key _ inside
      exact doStore_inside changed inside
  | copy copied =>
    unfold SetCommand.calls
    cases found : mailbox.mailboxGetSet modseq set uid with
    | none => exact .nil
    | some found =>
      refine walk_keeps ?_ .nil
      intro calls key _ inside
      exact doCopy_inside copied inside
  | expunge whole =>
    unfold SetCommand.calls
    dsimp only
    split
    · exact .nil
    · exact expunge_inside _ rfl .nil

end Dbmail.Mailbox
