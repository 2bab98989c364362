import Dbmail.Lib.Run
import Dbmail.Mailbox.Commands

/-!
Contract: one mailbox as one session sees it.

Owns the machine of a session's commands on a mailbox, selected or only looked up
in the cache, with arbitrary changes of the tables by others between them:
`imap_session_mailbox_open`, `imap_session_mailbox_close`, the refresh, FETCH,
STORE, EXPUNGE, COPY, APPEND, CLOSE and UNSELECT. What the session does to other
mailboxes is a change of the tables like any other.

Does not own: the lookups that find a mailbox by its name, and failing statements.
-/

namespace Dbmail.Mailbox

open Dbmail.Lib Dbmail.Imap

/-- The tables, the state that is cached for the mailbox, what the load of that state saw
(only the properties of runs read it), whether the mailbox is that of `self->mailbox`, and
whether the session is in the selected state. A CLOSE without the right to expunge, and a
SELECT that is refused, leave the mailbox attached. -/
structure BoxSession where
  tables : Tables
  cached : Option MailboxState
  loaded : Option MailboxDb
  attached : Bool
  selected : Bool

def BoxSession.start (tables : Tables) : BoxSession := ⟨tables, none, none, false, false⟩

structure OpenCommand where
  select : Bool
  readable : Bool
  selectable : Bool

/-- The steps of a run. A command that refreshes the mailbox (NOOP, CHECK, SEARCH, COPY to
the mailbox itself) makes a step `refresh`, COPY after its own step; SEARCH writes nothing
else. The commands that only look the mailbox up make a step `lookup`. -/
inductive BoxStep where
  | others (tables : Tables)
  | lookup
  | open_ (command : OpenCommand)
  | refresh (viewer : Viewer)
  | fetch (held : AclRight → Bool) (command : FetchCommand)
  | store (held : AclRight → Bool) (modseq : Nat) (condstore : Bool) (command : StoreCommand)
  | expunge (held : AclRight → Bool) (command : ExpungeCommand)
  | copy (modseq : Nat) (results : Nat → CopyResult) (command : CopyCommand)
  | append (command : AppendCommand)
  | close (held : AclRight → Bool) (updated : Nat → Bool)
  | unselect

def imappermRead : Nat := 1

namespace BoxSession

variable (conf : ServerConf) (mailbox : Nat) (session : BoxSession)

def db : MailboxDb := session.tables.view mailbox

def stale : Bool :=
  match session.cached with
  | none => true
  | some state => (state.consulted (session.db mailbox)).superseded (session.db mailbox)

/-- `dbmail_imap_session_mbxinfo_lookup`. The state of an attached mailbox is taken as it is. -/
def look : BoxSession :=
  if session.attached then session
  else
    let found := session.tables.mbxinfoLookup conf.load session.cached mailbox
    { session with
      tables := found.1
      cached := some found.2
      loaded := if session.stale mailbox then some (session.db mailbox) else session.loaded }

/-- `imap_session_mailbox_close`. -/
def left : BoxSession :=
  if session.attached then
    { session with
      cached := session.cached.map fun state =>
        (state.loadPermission (session.tables.view state.id)).clearRecent
      attached := false
      selected := false }
  else session

/-- `imap_session_mailbox_open` behind the lookup. -/
def opened (command : OpenCommand) (state : MailboxState) : MailboxState :=
  if !command.readable then state
  else
    { state with
      permission := if command.select then imappermReadwrite else imappermRead }.buildRecent

def entered (command : OpenCommand) : BoxSession :=
  let found := (session.left).look conf mailbox
  { found with
    cached := found.cached.map (opened command)
    attached := true
    selected := command.readable && command.selectable }

/-- `_ic_select_enter`: SELECT flushes the recent messages once they are announced. -/
def open_ (command : OpenCommand) : BoxSession :=
  let found := session.entered conf mailbox command
  match found.selected && command.select, found.cached with
  | true, some state =>
    { found with
      tables := state.flushTables conf.store.seqStrategy found.tables
      cached := some state.flushRecent }
  | _, _ => found

/-- A command on the selected mailbox; without one it is refused. -/
def command (body : Tables → MailboxState → Tables × MailboxState) : BoxSession :=
  match session.selected, session.cached with
  | true, some state =>
    let after := body session.tables state
    { session with tables := after.1, cached := some after.2 }
  | _, _ => session

def refresh (viewer : Viewer) : BoxSession :=
  match session.selected, session.cached with
  | true, some state =>
    let db := session.tables.view state.id
    let after := session.tables.refresh conf viewer state
    { session with
      tables := after.1
      cached := some after.2.1
      loaded := if (state.consulted db).outdated db then some db else session.loaded }
  | _, _ => session

/-- `_ic_close_enter`. -/
def close (held : AclRight → Bool) (updated : Nat → Bool) : BoxSession :=
  match session.selected, session.cached with
  | true, some state =>
    let known := state.loadPermission (session.tables.view state.id)
    if known.grants held .expunge then
      let expunged := mailboxExpunge conf session.tables known ⟨none, 0, false, updated⟩
      { session with tables := expunged.1, cached := some expunged.2, selected := false }.left
    else { session with cached := some known, selected := false }
  | _, _ => session

/-- `_ic_append_enter` from its lookup on. A selected mailbox is refreshed when the message
is stored; a new state then takes the place of the one that was looked up, which is freed
and gets the message all the same. -/
def append (command : AppendCommand) : Except Fault BoxSession :=
  let found := session.look conf mailbox
  let stored := found.tables.append conf.store.seqStrategy mailbox command
  match found.cached with
  | none => .ok { found with tables := stored }
  | some state =>
    let db := stored.view state.id
    let known := (if found.selected then state.consulted db else state).loadPermission db
    if found.selected ∧ command.uid ≠ 0 ∧ known.outdated db then .error .freed
    else
      .ok { found with
        tables := stored
        cached := some (known.addMsginfo command.uid command.info) }

end BoxSession

/-- A command on the selected mailbox goes on with its state, or does nothing. -/
theorem BoxSession.on_selected {session : BoxSession} {holds : BoxSession → Prop}
    {goesOn : MailboxState → BoxSession} (idle : holds session)
    (acts : ∀ state, session.selected = true → session.cached = some state →
      holds (goesOn state)) :
    holds (match session.selected, session.cached with
      | true, some state => goesOn state
      | _, _ => session) := by
  cases isSelected : session.selected with
  | false => exact idle
  | true =>
    cases isCached : session.cached with
    | none => exact idle
    | some state => exact acts state isSelected isCached

/-! ## Lookups that write nothing -/

theorem BoxSession.left_tables (session : BoxSession) : session.left.tables = session.tables := by
  unfold BoxSession.left
  split <;> rfl

theorem BoxSession.left_unattached (session : BoxSession) : session.left.attached = false := by
  unfold BoxSession.left
  cases isAttached : session.attached with
  | true => rfl
  | false => simp [isAttached]

theorem BoxSession.look_tables {conf : ServerConf} {mailbox : Nat} {session : BoxSession}
    (idle : session.stale mailbox = true → ¬ conf.load.Syncs (session.db mailbox).liveRows) :
    (session.look conf mailbox).tables = session.tables := by
  unfold BoxSession.look
  split
  · rfl
  have unmarked (stale : session.stale mailbox = true) :
      (MailboxState.blank mailbox).loadMarks conf.load (session.tables.view mailbox) true = [] :=
    LoadConf.markedBy_unmarked (idle stale) _
  unfold BoxSession.stale at unmarked
  unfold Tables.mbxinfoLookup
  dsimp only
  cases isCached : session.cached with
  | none =>
    rw [unmarked (by rw [isCached])]
    rfl
  | some state =>
    dsimp only
    split
    · rename_i superseded
      rw [unmarked (by rw [isCached]; exact superseded)]
      rfl
    · rfl

/-! ## Runs -/

def boxStep (conf : ServerConf) (mailbox : Nat) (session : BoxSession) :
    BoxStep → Except Fault BoxSession
  | .others tables => .ok { session with tables := tables }
  | .lookup => .ok (session.look conf mailbox)
  | .open_ command => .ok (session.open_ conf mailbox command)
  | .refresh viewer => .ok (session.refresh conf viewer)
  | .fetch held command =>
    .ok (session.command fun tables state => fetchEnter conf held tables state command)
  | .store held modseq condstore command =>
    .ok (session.command fun tables state =>
      let after := (storeEnter conf.store held tables ⟨state, modseq, condstore⟩ command).1
      (after.tables, after.state))
  | .expunge held command =>
    .ok (session.command fun tables state => expungeEnter conf held tables state command)
  | .copy modseq results command =>
    .ok (session.command fun tables state =>
      (copyWrites conf tables state modseq results command, state))
  | .append command => session.append conf mailbox command
  | .close held updated => .ok (session.close conf held updated)
  | .unselect => .ok session.left

end Dbmail.Mailbox
