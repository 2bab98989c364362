import Dbmail.Lib.Heap
import Dbmail.Mailbox.Sequences

/-!
Contract: the mailbox states of a session as objects that are freed.

Owns the cache `mbxinfo` with the addresses it holds, `self->mailbox` with the
address of its state, `dbmail_imap_session_mbxinfo_lookup`, the switch of states
in `mailbox_notify_fetch`, and which addresses each command keeps and uses: a
state is freed when another one takes its place in the cache.

Does not own: what the commands do to a state that they reach, which is any
change that keeps its id.
-/

namespace Dbmail.Mailbox

open Dbmail.Lib Dbmail.Imap Option

/-- A session: the tables, the live states by address, the cache, the id and the state of
`self->mailbox`, and whether the session is in the selected state. -/
structure StateCache where
  tables : Tables
  heap : Heap MailboxState
  mbxinfo : KeyTree Nat
  mailbox : Option (Nat × Nat)
  selected : Bool

abbrev Work := Tables → MailboxState → Tables × MailboxState

/-! ## Operations -/

namespace StateCache

variable (conf : ServerConf) (session : StateCache)

def start (tables : Tables) : StateCache := ⟨tables, .empty, .empty, none, false⟩

def work (address : Nat) (body : Work) : Except Fault StateCache :=
  match session.heap.read address with
  | none => .error .freed
  | some state =>
    let after := body session.tables state
    .ok { session with
      tables := after.1
      heap := session.heap.write address { after.2 with id := state.id } }

/-- `g_tree_replace` of a new state: the one it takes the place of is freed. -/
def replace (id : Nat) (state : MailboxState) : StateCache :=
  let heap :=
    match session.mbxinfo.lookup id with
    | none => session.heap
    | some old => session.heap.free old
  { session with heap := heap.alloc state, mbxinfo := session.mbxinfo.insert id heap.next }

def fresh : Nat := session.heap.next

/-- The part of `dbmail_imap_session_mbxinfo_lookup` for a mailbox that is not attached. -/
def lookupCached (id : Nat) : Except Fault (Nat × StateCache) :=
  match session.mbxinfo.lookup id with
  | none =>
    let found := session.tables.mbxinfoLookup conf.load none id
    .ok (session.fresh, { session with tables := found.1 }.replace id found.2)
  | some address =>
    match session.heap.read address with
    | none => .error .freed
    | some state =>
      let db := session.tables.view id
      let found := session.tables.mbxinfoLookup conf.load (some state) id
      if (state.consulted db).superseded db then
        .ok (session.fresh, { session with tables := found.1 }.replace id found.2)
      else
        .ok (address, { session with
          tables := found.1
          heap := session.heap.write address found.2 })

/-- `dbmail_imap_session_mbxinfo_lookup`. -/
def lookup (id : Nat) : Except Fault (Nat × StateCache) :=
  match session.mailbox with
  | none => session.lookupCached conf id
  | some (_, address) =>
    match session.heap.read address with
    | none => .error .freed
    | some state => if state.id = id then .ok (address, session) else session.lookupCached conf id

/-- What is done in the selected state, with the id and the state of `self->mailbox`. -/
def onSelected (body : Nat → Nat → Except Fault StateCache) : Except Fault StateCache :=
  if session.selected then
    match session.mailbox with
    | none => .error .nullPointer
    | some (id, address) => body id address
  else .ok session

/-- `dbmail_imap_session_mailbox_status` with `update`: a changed mailbox gets a new state,
in `self->mailbox` and in the cache. -/
def refresh (viewer : Viewer) : Except Fault StateCache :=
  session.onSelected fun id address =>
    match session.heap.read address with
    | none => .error .freed
    | some state =>
      let db := session.tables.view state.id
      let after := session.tables.refresh conf viewer state
      if (state.consulted db).outdated db then
        .ok { { session with tables := after.1 }.replace after.2.1.id after.2.1 with
          mailbox := some (id, session.fresh) }
      else
        .ok { session with tables := after.1, heap := session.heap.write address after.2.1 }

/-- `imap_session_mailbox_close`. -/
def close : Except Fault StateCache :=
  match session.mailbox with
  | none => .ok { session with selected := false }
  | some (_, address) => do
    let cleared ← session.work address fun tables state =>
      (tables, (state.loadPermission (tables.view state.id)).clearRecent)
    return { cleared with mailbox := none, selected := false }

def uses (session : StateCache) : List (Nat × Work) → Except Fault StateCache
  | [] => .ok session
  | (id, body) :: rest => do
    let (state, found) ← session.lookup conf id
    let used ← found.work state body
    used.uses rest

end StateCache

/-! ## Commands -/

/-- The commands of a session, as far as they go to mailbox states, and the changes by
others between them.
- `named`: the commands that look mailboxes up by their names, one by one, and use the
  states; a missing right, or the deletion of the selected mailbox, ends the selected state.
- `open_`: SELECT and EXAMINE.
- `close`: with the right to expunge, the mailbox is given up after the work.
- `current`: FETCH, STORE, EXPUNGE and what else works on the selected mailbox.
- `refresh`: NOOP, CHECK, IDLE, SEARCH, SORT and THREAD.
- `copy`: the checks of both mailboxes, the copies, and a refresh when the destination is
  the selected mailbox.
- `append`: an APPEND that stores its message; one that fails is a `named` command. -/
inductive CacheCommand where
  | others (tables : Tables)
  | named (looks : List (Nat × Work)) (leaves : Bool)
  | open_ (id : Nat) (selectable : Bool) (body : Work)
  | unselect
  | close (permitted : Bool) (body : Work)
  | current (body : Work)
  | refresh (viewer : Viewer)
  | copy (id : Nat) (check : Work) (copies : Tables → Tables) (viewer : Viewer)
  | append (id : Nat) (command : AppendCommand) (viewer : Viewer)

/-- `acl_has_right` may have to load the permission of a state. -/
def checkAcl : Work := fun tables state => (tables, state.loadPermission (tables.view state.id))

section Step

variable (conf : ServerConf) (session : StateCache)

/-- `_ic_append_enter` from the message on: the state was looked up at its beginning and is
used to the end. -/
def appendStored (state id : Nat) (command : AppendCommand) (viewer : Viewer) :
    Except Fault StateCache := do
  let stored : StateCache :=
    { session with tables := session.tables.append conf.store.seqStrategy id command }
  let notified ←
    if command.uid ≠ 0 ∧ stored.mailbox.map Prod.fst = some id then stored.refresh conf viewer
    else .ok stored
  notified.work state fun tables state =>
    (tables, (state.loadPermission (tables.view state.id)).addMsginfo command.uid command.info)

/-- `_ic_append_enter`. -/
def appendEnter (id : Nat) (command : AppendCommand) (viewer : Viewer) : Except Fault StateCache := do
  let (state, found) ← session.lookup conf id
  -- `imap_session_mailbox_check_acl` looks the mailbox up once more
  let (again, found) ← found.lookup conf id
  let checked ← found.work again checkAcl
  let checked ← checked.work state checkAcl
  appendStored conf checked state id command viewer

def cacheStep : CacheCommand → Except Fault StateCache
  | .others tables => .ok { session with tables := tables }
  | .named looks leaves => do
    let used ← session.uses conf looks
    return { used with selected := used.selected && !leaves }
  | .open_ id selectable body => do
    let closed ← session.close
    let (state, found) ← closed.lookup conf id
    let opened ← { found with mailbox := some (id, state) }.work state body
    return { opened with selected := selectable }
  | .unselect => session.close
  | .close permitted body => session.onSelected fun _ address => do
    let worked ← session.work address body
    if permitted then worked.close else return { worked with selected := false }
  | .current body => session.onSelected fun _ address => session.work address body
  | .refresh viewer => session.refresh conf viewer
  | .copy id check copies viewer => session.onSelected fun own address => do
    let checked ← session.work address checkAcl
    let (state, found) ← checked.lookup conf id
    let checked ← found.work state check
    let copied := { checked with tables := copies checked.tables }
    if own = id then copied.refresh conf viewer else return copied
  | .append id command viewer => appendEnter conf session id command viewer

end Step

/-! ## What is to hold -/

/-- Every cached state is live, and that of `self->mailbox` is the cached one for its id. -/
structure StateCache.Consistent (session : StateCache) : Prop where
  cached : ∀ id address, session.mbxinfo.lookup id = some address →
    ∃ state, session.heap.read address = some state ∧ state.id = id
  attached : ∀ id address, session.mailbox = some (id, address) →
    session.mbxinfo.lookup id = some address
  present : session.selected = true → session.mailbox ≠ none

def Safe (result : Except Fault StateCache) : Prop :=
  ∃ next, result = .ok next ∧ next.Consistent

def SafeCommand (conf : ServerConf) (session : StateCache) (command : CacheCommand) : Prop :=
  Safe (cacheStep conf session command)

def appendRaise (strategy : Int) (tables : Tables) (id : Nat) (command : AppendCommand) : Nat :=
  if command.uid ∈ tables.messages.keys ∨ tables.mailboxes.lookup id = none then 0
  else
    (if strategy = 1 then 1 else if strategy = 2 then 2 else 0) *
      if command.named = {} ∧ command.keywords = [] then 1 else 2

/-- An APPEND that stores a message in the selected mailbox finds its state without a
sequence, or with the sequence that the mailbox is about to get. -/
def AppendSettled (conf : ServerConf) (session : StateCache) : CacheCommand → Prop
  | .append id command _ =>
    command.uid ≠ 0 → session.selected = true → ∀ address state,
      session.mailbox = some (id, address) → session.heap.read address = some state →
        state.seq = 0 ∨ state.seq % 2 ^ 32 = (session.tables.seqOf id +
          appendRaise conf.store.seqStrategy session.tables id command) % 2 ^ 32
  | _ => True

open StateCache

/-! ## The cache -/

section Operations

variable {conf : ServerConf} {session : StateCache}

structure SameCache (before after : StateCache) : Prop where
  mbxinfo : after.mbxinfo = before.mbxinfo
  mailbox : after.mailbox = before.mailbox
  selected : after.selected = before.selected

variable {id address : Nat} {state : MailboxState} {command : AppendCommand} {viewer : Viewer}
  {next : StateCache}

theorem Safe.bind {result : Except Fault StateCache} {rest : StateCache → Except Fault StateCache}
    (safe : Safe result) (goesOn : ∀ next, next.Consistent → Safe (rest next)) :
    Safe (result >>= rest) := by
  obtain ⟨next, returned, consistent⟩ := safe
  rw [returned]
  exact goesOn next consistent

theorem SameCache.refl (session : StateCache) : SameCache session session := ⟨rfl, rfl, rfl⟩

theorem lookup_replace (id : Nat) (state : MailboxState) (other : Nat) :
    (session.replace id state).mbxinfo.lookup other =
      if other = id then some session.fresh else session.mbxinfo.lookup other := by
  have next : ((match session.mbxinfo.lookup id with
      | none => session.heap
      | some old => session.heap.free old) : Heap MailboxState).next = session.heap.next := by
    cases session.mbxinfo.lookup id <;> rfl
  unfold replace fresh
  rw [KeyTree.lookup_insert, next]

theorem read_replace (id : Nat) (state : MailboxState) :
    (session.replace id state).heap.read session.fresh = some state := by
  unfold replace fresh
  rw [Heap.read_alloc]
  cases session.mbxinfo.lookup id <;> exact if_pos rfl

/-- A lookup again finds the same state, and leaves the cache alone. -/
def FoundAgain (conf : ServerConf) (session : StateCache) (id address : Nat) : Prop :=
  ∃ again, session.lookup conf id = .ok (address, again) ∧ again.Consistent ∧ SameCache session again

theorem superseded_iff (state : MailboxState) (db : MailboxDb) :
    (state.consulted db).superseded db = true ↔
      state.seq ≠ 0 ∧ state.seq % 2 ^ 32 < db.seq % 2 ^ 32 := by
  unfold MailboxState.superseded
  rw [getSeq_blank, consulted_seq]
  by_cases unknown : state.seq = 0
  · simp [unknown]
  · simp [unknown]

theorem outdated_iff (state : MailboxState) (db : MailboxDb) :
    (state.consulted db).outdated db = true ↔
      state.seq ≠ 0 ∧ state.seq % 2 ^ 32 ≠ db.seq % 2 ^ 32 := by
  unfold MailboxState.outdated
  rw [getSeq_blank, consulted_seq]
  by_cases unknown : state.seq = 0
  · simp [unknown]
  · simp [unknown]

structure Found (conf : ServerConf) (session : StateCache) (id address : Nat) (next : StateCache) :
    Prop where
  consistent : next.Consistent
  cached : next.mbxinfo.lookup id = some address
  mailbox : next.mailbox = session.mailbox
  selected : next.selected = session.selected
  settled : FoundAgain conf next id address

theorem onSelected_eq (selected : session.selected = true)
    (attached : session.mailbox = some (id, address)) (body : Nat → Nat → Except Fault StateCache) :
    session.onSelected body = body id address := by
  unfold onSelected
  rw [if_pos selected, attached]

theorem refresh_id (conf : ServerConf) (viewer : Viewer) (tables : Tables) (state : MailboxState) :
    (tables.refresh conf viewer state).2.1.id = state.id := by
  have flushed : ∀ other : MailboxState, other.flushRecent.id = other.id := by
    intro other
    unfold MailboxState.flushRecent
    split <;> rfl
  have same := (state.consulted_keeps (tables.view state.id)).2.2
  unfold Tables.refresh mailboxStatus
  dsimp only
  split
  · rw [notifications_eq, flushed, (notified_new _ _ _ _).1]
    exact (MailboxState.refreshed_id _ _ _).trans same
  · exact same

theorem loadPermission_seq (state : MailboxState) (db : MailboxDb) :
    (state.loadPermission db).seq = state.seq := by
  unfold MailboxState.loadPermission
  split <;> rfl

/-- The check of a right leaves the tables and the sequences of all states. -/
theorem work_checkAcl (isNext : session.work address checkAcl = .ok next) :
    next.tables = session.tables ∧ ∀ own,
      (next.heap.read own).map MailboxState.seq = (session.heap.read own).map MailboxState.seq := by
  unfold work at isNext
  cases isRead : session.heap.read address with
  | none =>
    rw [isRead] at isNext
    cases isNext
  | some state =>
    rw [isRead] at isNext
    cases isNext
    refine ⟨rfl, fun own => ?_⟩
    rw [Heap.read_write, map_map]
    by_cases here : own = address
    · rw [here, isRead]
      simp only [if_true]
      exact congrArg some (loadPermission_seq state _)
    · simp only [if_neg here]
      rfl

/-- The condition on an APPEND reads no more than this of a session. -/
theorem AppendSettled.of_same {first second : StateCache} (tables : second.tables = first.tables)
    (same : SameCache first second) (seq : ∀ own, (second.heap.read own).map MailboxState.seq =
        (first.heap.read own).map MailboxState.seq)
    (settled : AppendSettled conf first (.append id command viewer)) :
    AppendSettled conf second (.append id command viewer) := by
  intro stored selected address state attached isRead
  have known := seq address
  rw [isRead] at known
  obtain ⟨before, wasRead, isSeq⟩ := map_eq_some_iff.mp known.symm
  rw [tables, ← isSeq]
  exact settled stored (same.selected ▸ selected) address before (same.mailbox ▸ attached) wasRead

theorem appendSettled_checked (isNext : session.work address checkAcl = .ok next)
    (same : SameCache session next) :
    AppendSettled conf next (.append id command viewer) ↔
      AppendSettled conf session (.append id command viewer) := by
  obtain ⟨tables, seq⟩ := work_checkAcl isNext
  constructor
  · exact AppendSettled.of_same tables.symm
      ⟨same.mbxinfo.symm, same.mailbox.symm, same.selected.symm⟩ fun own => (seq own).symm
  · exact AppendSettled.of_same tables same seq

section Sequence

variable (tables : Tables) (strategy : Int)

theorem seqOf_markDeleted (uids : List Nat) (id : Nat) :
    (tables.markDeleted uids).seqOf id = tables.seqOf id := by
  unfold Tables.seqOf
  rw [markDeleted_mailboxes]

theorem seqOf_own_mailboxSeqUpdate (mailbox uid : Nat) :
    (tables.mailboxSeqUpdate strategy mailbox uid).1.seqOf mailbox =
      tables.seqOf mailbox + if tables.mailboxes.lookup mailbox = none then 0
        else if strategy = 1 then 1 else if strategy = 2 then 2 else 0 := by
  rw [seqOf_mailboxSeqUpdate, seqOf_bump]
  cases tables.mailboxes.lookup mailbox <;> simp

theorem seqOf_append (id : Nat) (command : AppendCommand) :
    (tables.append strategy id command).seqOf id =
      tables.seqOf id + appendRaise strategy tables id command := by
  unfold Tables.append appendRaise
  by_cases used : command.uid ∈ tables.messages.keys
  · rw [if_pos used, if_pos (Or.inl used)]
    rfl
  rw [if_neg used]
  by_cases plain : command.named = {} ∧ command.keywords = []
  · rw [if_pos plain, if_pos plain, seqOf_own_mailboxSeqUpdate, Nat.mul_one]
    simp only [used, false_or]
    rfl
  · rw [if_neg plain, if_neg plain, seqOf_own_mailboxSeqUpdate]
    -- The flags are set between two updates of the sequence.
    have between : ∀ stored : Tables,
        (stored.setMsgflag command.uid ⟨.add, command.named, command.keywords, 0⟩ []).mailboxes =
          stored.mailboxes := fun _ => rfl
    rw [Tables.seqOf, between, ← Tables.seqOf, seqOf_own_mailboxSeqUpdate]
    simp only [mailboxes_mailboxSeqUpdate, Tables.bump, KeyTree.lookup_map, map_eq_none_iff, used,
        false_or]
    by_cases missing : tables.mailboxes.lookup id = none
    · simp only [if_pos missing]
      rfl
    · simp only [if_neg missing]
      rw [Nat.mul_two, ← Nat.add_assoc]
      rfl

/-- The refresh of an APPEND finds the sequence that the APPEND leads to. -/
theorem outdated_append_iff (state : MailboxState) (tables : Tables) (strategy : Int) (id : Nat)
    (command : AppendCommand) :
    (state.consulted ((tables.append strategy id command).view id)).outdated
        ((tables.append strategy id command).view id) = true ↔
      ¬ (state.seq = 0 ∨ state.seq % 2 ^ 32 =
        (tables.seqOf id + appendRaise strategy tables id command) % 2 ^ 32) := by
  rw [outdated_iff, view_seq, seqOf_append, not_or]

end Sequence

variable (consistent : session.Consistent)

include consistent

theorem StateCache.Consistent.withTables (tables : Tables) :
    { session with tables := tables }.Consistent :=
  { consistent with }

theorem StateCache.Consistent.withoutSelection : { session with selected := false }.Consistent :=
  ⟨consistent.cached, consistent.attached, fun selected => absurd selected (by simp)⟩

/-- The state of `self->mailbox` is live. -/
theorem StateCache.Consistent.read_attached (attached : session.mailbox = some (id, address)) :
    ∃ state, session.heap.read address = some state ∧ state.id = id :=
  consistent.cached id address (consistent.attached id address attached)

theorem write_consistent {address : Nat} {old state : MailboxState}
    (found : session.heap.read address = some old) (same : state.id = old.id) (tables : Tables) :
    { session with tables := tables, heap := session.heap.write address state }.Consistent := by
  refine ⟨?_, consistent.attached, consistent.present⟩
  intro id other isCached
  obtain ⟨cached, isRead, isId⟩ := consistent.cached id other isCached
  rw [Heap.read_write, isRead]
  by_cases here : other = address
  · subst here
    rw [found] at isRead
    cases isRead
    exact ⟨state, by simp, same.trans isId⟩
  · exact ⟨cached, by simp [here], isId⟩

theorem work_ok (isCached : session.mbxinfo.lookup id = some address) (body : Work) :
    ∃ next, session.work address body = .ok next ∧ next.Consistent ∧ SameCache session next := by
  obtain ⟨state, isRead, _⟩ := consistent.cached id address isCached
  unfold work
  rw [isRead]
  refine ⟨_, rfl, ?_, ⟨rfl, rfl, rfl⟩⟩
  exact @write_consistent session consistent address state
    { (body session.tables state).2 with id := state.id } isRead rfl _

theorem work_safe (isCached : session.mbxinfo.lookup id = some address) (body : Work) :
    Safe (session.work address body) := by
  obtain ⟨next, worked, kept, _⟩ := work_ok consistent isCached body
  exact ⟨next, worked, kept⟩

/-- What the cache holds is live after a replacement: the state that is freed is the one
that leaves the cache. -/
theorem replace_cached {id : Nat} {state : MailboxState}
    (same : state.id = id) {other address : Nat}
    (isCached : (session.replace id state).mbxinfo.lookup other = some address) :
    ∃ live, (session.replace id state).heap.read address = some live ∧ live.id = other := by
  rw [lookup_replace] at isCached
  by_cases here : other = id
  · rw [if_pos here] at isCached
    cases isCached
    exact ⟨state, read_replace id state, same.trans here.symm⟩
  · rw [if_neg here] at isCached
    obtain ⟨live, isRead, isId⟩ := consistent.cached other address isCached
    refine ⟨live, ?_, isId⟩
    have below := Heap.read_lt_next isRead
    unfold replace
    rw [Heap.read_alloc]
    cases old : session.mbxinfo.lookup id with
    | none =>
      dsimp only
      rw [if_neg (by omega)]
      exact isRead
    | some freed =>
      obtain ⟨dead, wasRead, wasId⟩ := consistent.cached id freed old
      have apart : address ≠ freed := by
        intro equal
        rw [equal, wasRead] at isRead
        cases isRead
        exact here (isId.symm.trans wasId)
      have beyond : ¬ address = (session.heap.free freed).next := Nat.ne_of_lt below
      rw [if_neg beyond, Heap.read_free, if_neg apart]
      exact isRead

theorem lookup_attached (attached : session.mailbox = some (id, address)) :
    session.lookup conf id = .ok (address, session) := by
  obtain ⟨state, isRead, isId⟩ := consistent.read_attached attached
  unfold lookup
  simp [attached, isRead, if_pos isId]

section Detached

variable (detached : ∀ address, session.mailbox ≠ some (id, address))

include detached

/-- A new state for a mailbox that is not that of `self->mailbox`. -/
theorem replace_consistent (same : state.id = id) :
    (session.replace id state).Consistent := by
  refine ⟨fun other address => replace_cached consistent same, ?_, consistent.present⟩
  intro other address attached
  rw [lookup_replace, if_neg]
  · exact consistent.attached other address attached
  · rintro rfl
    exact detached address attached

/-! ## Lookups -/

theorem lookup_detached : session.lookup conf id = session.lookupCached conf id := by
  unfold lookup
  cases attached : session.mailbox with
  | none => rfl
  | some found =>
    obtain ⟨own, address⟩ := found
    obtain ⟨state, isRead, isId⟩ := consistent.read_attached attached
    have other : state.id ≠ id := by
      rw [isId]
      rintro rfl
      exact detached address attached
    simp [isRead, if_neg other]

/-- A cached state that is not superseded is found again. -/
theorem settled_of_current (isCached : session.mbxinfo.lookup id = some address)
    (isRead : session.heap.read address = some state)
    (current : ¬ (state.seq ≠ 0 ∧ state.seq % 2 ^ 32 < (session.tables.view id).seq % 2 ^ 32)) :
    FoundAgain conf session id address := by
  have stays : ¬ ((state.consulted (session.tables.view id)).superseded
      (session.tables.view id) = true) := fun superseded =>
    current ((superseded_iff state _).mp superseded)
  refine ⟨{ session with
    tables := session.tables
    heap := session.heap.write address (state.consulted (session.tables.view id)) }, ?_, ?_,
    ⟨rfl, rfl, rfl⟩⟩
  · rw [lookup_detached consistent detached]
    unfold lookupCached Tables.mbxinfoLookup
    simp [isCached, isRead, if_neg stays]
  · exact write_consistent consistent isRead (state.consulted_keeps _).2.2 _

/-- A mailbox that is loaded anew is not loaded again by the next lookup. -/
theorem replaced_found (tables : Tables) (same : state.id = id)
    (current : state.seq = tables.seqOf id) :
    Found conf session id session.fresh ({ session with tables := tables }.replace id state) := by
  have isCached : ({ session with tables := tables }.replace id state).mbxinfo.lookup id =
      some session.fresh := by
    rw [lookup_replace, if_pos rfl]
    rfl
  have replaced := replace_consistent (consistent.withTables tables) detached same
  refine ⟨replaced, isCached, rfl, rfl, ?_⟩
  apply settled_of_current replaced detached isCached (read_replace id state)
  rintro ⟨_, below⟩
  have seq : (({ session with tables := tables }.replace id state).tables.view id).seq =
      tables.seqOf id := view_seq tables id
  rw [seq, current] at below
  exact Nat.lt_irrefl _ below

theorem lookupCached_ok : ∃ address next, session.lookupCached conf id = .ok (address, next) ∧
      Found conf session id address next := by
  have loaded : (MailboxState.new conf.load (session.tables.view id) id).seq =
      session.tables.seqOf id := (loadMetadata_blank _ _).2.1.trans (view_seq _ _)
  unfold lookupCached
  cases isCached : session.mbxinfo.lookup id with
  | none =>
    refine ⟨_, _, rfl, ?_⟩
    apply replaced_found consistent detached
    · exact MailboxState.new_id _ _ _
    · exact loaded.trans (seqOf_markDeleted _ _ _).symm
  | some address =>
    obtain ⟨state, isRead, isId⟩ := consistent.cached id address isCached
    dsimp only
    rw [isRead]
    unfold Tables.mbxinfoLookup
    by_cases superseded : (state.consulted (session.tables.view id)).superseded
        (session.tables.view id) = true
    · simp only [if_pos superseded]
      refine ⟨_, _, rfl, ?_⟩
      apply replaced_found consistent detached
      · exact MailboxState.new_id conf.load (session.tables.view id) id
      · exact loaded.trans (seqOf_markDeleted _ _ _).symm
    · simp only [if_neg superseded]
      have same := (state.consulted_keeps (session.tables.view id)).2.2
      have written := write_consistent consistent isRead same session.tables
      have known : ¬ (state.seq ≠ 0 ∧
          state.seq % 2 ^ 32 < (session.tables.view id).seq % 2 ^ 32) := fun lower =>
        superseded ((superseded_iff state _).mpr lower)
      have isWritten : (session.heap.write address
          (state.consulted (session.tables.view id))).read address =
          some (state.consulted (session.tables.view id)) := by
        rw [Heap.read_write, isRead]
        simp
      refine ⟨_, _, rfl, written, isCached, rfl, rfl, ?_⟩
      apply settled_of_current written detached isCached isWritten
      rw [consulted_seq]
      dsimp only
      split <;> omega

end Detached

theorem lookup_ok (conf : ServerConf) (id : Nat) :
    ∃ address next, session.lookup conf id = .ok (address, next) ∧
      Found conf session id address next := by
  by_cases attached : ∃ address, session.mailbox = some (id, address)
  · obtain ⟨address, isMailbox⟩ := attached
    refine ⟨address, session, lookup_attached consistent isMailbox, consistent,
      consistent.attached id address isMailbox, rfl, rfl, ?_⟩
    exact ⟨session, lookup_attached consistent isMailbox, consistent, .refl session⟩
  · have detached : ∀ address, session.mailbox ≠ some (id, address) := fun address isMailbox =>
      attached ⟨address, isMailbox⟩
    rw [lookup_detached consistent detached]
    exact lookupCached_ok consistent detached

theorem uses_safe (conf : ServerConf) (looks : List (Nat × Work)) :
    Safe (session.uses conf looks) := by
  induction looks generalizing session with
  | nil => exact ⟨session, rfl, consistent⟩
  | cons look rest ih =>
    obtain ⟨id, body⟩ := look
    obtain ⟨address, next, isFound, found⟩ := lookup_ok consistent conf id
    rw [uses, isFound]
    exact (work_safe found.consistent found.cached body).bind fun used kept => ih kept

/-! ## Refreshes and closes -/

theorem onSelected_safe {body : Nat → Nat → Except Fault StateCache}
    (safe : ∀ id address, session.mailbox = some (id, address) → Safe (body id address)) :
    Safe (session.onSelected body) := by
  unfold onSelected
  by_cases selected : session.selected = true
  · rw [if_pos selected]
    cases attached : session.mailbox with
    | none => exact absurd attached (consistent.present selected)
    | some found => exact safe found.1 found.2 attached
  · rw [if_neg selected]
    exact ⟨session, rfl, consistent⟩

/-- A refresh leaves the new state in the cache and in `self->mailbox`. -/
theorem refresh_safe (conf : ServerConf) (viewer : Viewer) :
    Safe (session.refresh conf viewer) := by
  apply onSelected_safe consistent
  intro id address attached
  obtain ⟨state, isRead, isId⟩ := consistent.read_attached attached
  rw [isRead]
  dsimp only
  have same := refresh_id conf viewer session.tables state
  split
  · refine ⟨_, rfl, ?_, ?_, fun _ => by simp⟩
    · intro other cached isCached
      exact @replace_cached { session with tables := (session.tables.refresh conf viewer state).1 }
        (consistent.withTables _) _ _ rfl _ _ isCached
    · intro other cached isMailbox
      cases isMailbox
      have here := isId.symm.trans same.symm
      exact (lookup_replace _ (session.tables.refresh conf viewer state).2.1 _).trans (if_pos here)
  · exact ⟨_, rfl, write_consistent consistent isRead same _⟩

/-- A refresh that finds nothing new keeps the state where it is. -/
theorem refresh_same (viewer : Viewer)
    (current : session.selected = true → ∀ id address state,
      session.mailbox = some (id, address) → session.heap.read address = some state →
        (state.consulted (session.tables.view id)).outdated (session.tables.view id) = false) :
    ∃ next, session.refresh conf viewer = .ok next ∧ next.Consistent ∧ SameCache session next := by
  unfold refresh
  by_cases selected : session.selected = true
  · obtain ⟨⟨id, address⟩, attached⟩ := ne_none_iff_exists'.mp (consistent.present selected)
    obtain ⟨state, isRead, isId⟩ := consistent.read_attached attached
    have settled := current selected id address state attached isRead
    rw [onSelected_eq selected attached, isRead]
    dsimp only
    rw [isId, settled]
    refine ⟨_, rfl, ?_, ⟨rfl, rfl, rfl⟩⟩
    exact write_consistent consistent isRead (refresh_id conf viewer session.tables state) _
  · unfold onSelected
    rw [if_neg selected]
    exact ⟨session, rfl, consistent, .refl session⟩

theorem close_safe : ∃ next, session.close = .ok next ∧ next.Consistent ∧ next.mailbox = none := by
  unfold close
  cases attached : session.mailbox with
  | none =>
    refine ⟨_, rfl, ⟨consistent.cached, ?_, ?_⟩, rfl⟩
    · intro id address isMailbox
      cases isMailbox
    · intro selected
      cases selected
  | some found =>
    obtain ⟨cleared, isCleared, kept, _⟩ :=
      work_ok consistent (consistent.attached found.1 found.2 attached) fun tables state =>
        (tables, (state.loadPermission (tables.view state.id)).clearRecent)
    dsimp only
    rw [isCleared]
    refine ⟨_, rfl, ⟨kept.cached, ?_, ?_⟩, rfl⟩
    · intro id address isMailbox
      cases isMailbox
    · intro selected
      cases selected

/-! ## APPEND -/

/-- A refresh that finds a new sequence frees the state that it replaces. -/
theorem refresh_frees (viewer : Viewer) (selected : session.selected = true)
    (attached : session.mailbox = some (id, address))
    (isRead : session.heap.read address = some state)
    (outdated : (state.consulted (session.tables.view id)).outdated (session.tables.view id) = true) :
    ∃ next, session.refresh conf viewer = .ok next ∧ next.heap.read address = none := by
  have isCached := consistent.attached id address attached
  have isId : state.id = id := by
    obtain ⟨live, liveRead, liveId⟩ := consistent.read_attached attached
    rw [isRead] at liveRead
    cases liveRead
    exact liveId
  have same := refresh_id conf viewer session.tables state
  unfold refresh
  rw [onSelected_eq selected attached, isRead]
  dsimp only
  rw [if_pos (isId ▸ outdated)]
  refine ⟨_, rfl, ?_⟩
  unfold replace
  rw [same, isId, isCached, Heap.read_alloc]
  have below : address < session.heap.next := Heap.read_lt_next isRead
  have beyond : ¬ address = (session.heap.free address).next := Nat.ne_of_lt below
  rw [if_neg beyond, Heap.read_free, if_pos rfl]

/-- An APPEND from the message on is safe exactly if its state is still the cached one
after the refresh. -/
theorem appendStored_safe_iff {state : Nat} (isCached : session.mbxinfo.lookup id = some state) :
    Safe (appendStored conf session state id command viewer) ↔
      AppendSettled conf session (.append id command viewer) := by
  have stored := consistent.withTables (session.tables.append conf.store.seqStrategy id command)
  unfold appendStored
  by_cases refreshes : command.uid ≠ 0 ∧ session.mailbox.map Prod.fst = some id
  · rw [if_pos refreshes]
    obtain ⟨⟨own, address⟩, attached, isOwn⟩ := map_eq_some_iff.mp refreshes.2
    cases isOwn
    have isState : address = state :=
      Option.some.inj ((consistent.attached own address attached).symm.trans isCached)
    subst isState
    constructor
    · intro safe _ selected other found isMailbox isRead
      cases attached.symm.trans isMailbox
      by_contra differs
      obtain ⟨next, isNext, freed⟩ := @refresh_frees conf
        { session with tables := session.tables.append conf.store.seqStrategy own command }
        own address found stored viewer selected attached isRead
        ((outdated_append_iff _ _ _ _ _).mpr differs)
      obtain ⟨final, isFinal, _⟩ := safe
      rw [isNext] at isFinal
      have faults : next.work address (fun tables state =>
          (tables, (state.loadPermission (tables.view state.id)).addMsginfo command.uid
            command.info)) = .error .freed := by
        unfold work
        rw [freed]
      cases faults.symm.trans isFinal
    · intro settled
      obtain ⟨next, isNext, kept, same⟩ := @refresh_same conf
        { session with tables := session.tables.append conf.store.seqStrategy own command } stored
        viewer (by
          intro selected other place found isMailbox isRead
          cases attached.symm.trans isMailbox
          rw [Bool.eq_false_iff]
          intro outdated
          apply (outdated_append_iff _ _ _ _ _).mp outdated
          exact settled refreshes.1 selected address found attached isRead)
      rw [isNext]
      dsimp [bind, Except.bind]
      exact work_safe kept (same.mbxinfo ▸ isCached) _
  · rw [if_neg refreshes]
    refine iff_of_true ?_ ?_
    · dsimp [bind, Except.bind]
      exact work_safe stored isCached _
    · intro isStored _ address _ attached _
      exact absurd ⟨isStored, by rw [attached]; rfl⟩ refreshes

/-- A lookup leaves what the condition on an APPEND speaks about. -/
theorem appendSettled_found (isFound : session.lookup conf id = .ok (address, next))
    (same : next.mailbox = session.mailbox) :
    AppendSettled conf next (.append id command viewer) ↔
      AppendSettled conf session (.append id command viewer) := by
  by_cases attached : ∃ own, session.mailbox = some (id, own)
  · obtain ⟨own, isMailbox⟩ := attached
    rw [lookup_attached consistent isMailbox] at isFound
    cases isFound
    exact Iff.rfl
  · -- The condition asks for nothing when the mailbox is not that of the session.
    constructor
    · intro _ _ _ own _ isMailbox _
      exact absurd ⟨own, isMailbox⟩ attached
    · intro _ _ _ own _ isMailbox _
      exact absurd ⟨own, same ▸ isMailbox⟩ attached

/-- An APPEND is safe exactly if the refresh in its middle keeps the state it holds. -/
theorem appendEnter_safe_iff :
    Safe (appendEnter conf session id command viewer) ↔
      AppendSettled conf session (.append id command viewer) := by
  obtain ⟨address, next, isFound, found⟩ := lookup_ok consistent conf id
  obtain ⟨again, isAgain, stays, same⟩ := found.settled
  have cachedAgain : again.mbxinfo.lookup id = some address := same.mbxinfo ▸ found.cached
  obtain ⟨first, isFirst, firstStays, firstSame⟩ := work_ok stays cachedAgain checkAcl
  have cachedFirst : first.mbxinfo.lookup id = some address := firstSame.mbxinfo ▸ cachedAgain
  obtain ⟨second, isSecond, secondStays, secondSame⟩ := work_ok firstStays cachedFirst checkAcl
  have cachedSecond : second.mbxinfo.lookup id = some address := secondSame.mbxinfo ▸ cachedFirst
  have unfolds : appendEnter conf session id command viewer =
      appendStored conf second address id command viewer := by
    unfold appendEnter
    rw [isFound]
    show (next.lookup conf id >>= _) = _
    rw [isAgain]
    show (again.work address checkAcl >>= _) = _
    rw [isFirst]
    show (first.work address checkAcl >>= _) = _
    rw [isSecond]
    rfl
  rw [unfolds, appendStored_safe_iff secondStays cachedSecond,
    appendSettled_checked isSecond secondSame, appendSettled_checked isFirst firstSame,
    appendSettled_found found.consistent isAgain same.mailbox,
    appendSettled_found consistent isFound found.mailbox]

/-! ## Commands -/

theorem named_safe (looks : List (Nat × Work)) (leaves : Bool) :
    Safe (cacheStep conf session (.named looks leaves)) := by
  refine (uses_safe consistent conf looks).bind fun used kept => ?_
  refine ⟨_, rfl, kept.cached, kept.attached, fun selected => ?_⟩
  exact kept.present (Bool.and_eq_true_iff.mp selected).1

theorem current_safe (body : Work) : Safe (cacheStep conf session (.current body)) := by
  apply onSelected_safe consistent
  intro id address attached
  exact work_safe consistent (consistent.attached id address attached) body

theorem close_command_safe (permitted : Bool) (body : Work) :
    Safe (cacheStep conf session (.close permitted body)) := by
  apply onSelected_safe consistent
  intro id address attached
  refine (work_safe consistent (consistent.attached id address attached) body).bind
    fun worked kept => ?_
  cases permitted with
  | false => exact ⟨_, rfl, kept.withoutSelection⟩
  | true =>
    obtain ⟨closed, isClosed, final, _⟩ := close_safe kept
    exact ⟨closed, isClosed, final⟩

theorem open_safe (id : Nat) (selectable : Bool) (body : Work) :
    Safe (cacheStep conf session (.open_ id selectable body)) := by
  obtain ⟨closed, isClosed, kept, _⟩ := close_safe consistent
  obtain ⟨address, next, isFound, found⟩ := lookup_ok kept conf id
  have opened : { next with mailbox := some (id, address) }.Consistent := by
    refine ⟨found.consistent.cached, ?_, fun _ => by simp⟩
    intro own other isMailbox
    cases isMailbox
    exact found.cached
  obtain ⟨worked, isWorked, final, same⟩ := work_ok opened found.cached body
  unfold cacheStep
  rw [isClosed]
  show Safe (closed.lookup conf id >>= _)
  rw [isFound]
  show Safe (work _ address body >>= _)
  rw [isWorked]
  refine ⟨_, rfl, final.cached, final.attached, fun _ => ?_⟩
  rw [same.mailbox]
  simp

theorem copy_safe (id : Nat) (check : Work) (copies : Tables → Tables) (viewer : Viewer) :
    Safe (cacheStep conf session (.copy id check copies viewer)) := by
  apply onSelected_safe consistent
  intro own address attached
  refine (work_safe consistent (consistent.attached own address attached) checkAcl).bind
    fun first kept => ?_
  obtain ⟨other, next, isFound, found⟩ := lookup_ok kept conf id
  rw [isFound]
  refine (work_safe found.consistent found.cached check).bind fun second checked => ?_
  split
  · exact refresh_safe (checked.withTables _) conf viewer
  · exact ⟨_, rfl, checked.withTables _⟩

/-- Every command but an APPEND to the selected mailbox is safe, and an APPEND is unless the
refresh in its middle replaces the state it holds. -/
theorem safeCommand_iff (command : CacheCommand) :
    SafeCommand conf session command ↔ AppendSettled conf session command := by
  cases command with
  | others tables => exact iff_of_true ⟨_, rfl, consistent.withTables tables⟩ trivial
  | named looks leaves => exact iff_of_true (named_safe consistent looks leaves) trivial
  | open_ id selectable body => exact iff_of_true (open_safe consistent id selectable body) trivial
  | unselect =>
    obtain ⟨closed, isClosed, kept, _⟩ := close_safe consistent
    exact iff_of_true ⟨closed, isClosed, kept⟩ trivial
  | close permitted body => exact iff_of_true (close_command_safe consistent permitted body) trivial
  | current body => exact iff_of_true (current_safe consistent body) trivial
  | refresh viewer => exact iff_of_true (refresh_safe consistent conf viewer) trivial
  | copy id check copies viewer =>
    exact iff_of_true (copy_safe consistent id check copies viewer) trivial
  | append id command viewer => exact appendEnter_safe_iff consistent

end Operations

/-! ## Runs -/

theorem start_consistent (tables : Tables) : (StateCache.start tables).Consistent := by
  refine ⟨?_, ?_, ?_⟩
  · intro id address isCached
    cases isCached
  · intro id address isMailbox
    cases isMailbox
  · intro selected
    cases selected

theorem run_returns_of_safe {conf : ServerConf} {session : StateCache} {commands : List CacheCommand}
    (safe : StepsMeet (cacheStep conf) (SafeCommand conf) session commands) :
    ∃ final, run (cacheStep conf) session commands = .ok final := by
  induction commands generalizing session with
  | nil => exact ⟨session, rfl⟩
  | cons command rest ih =>
    obtain ⟨next, isNext, _⟩ := safe.1
    rw [run, isNext]
    exact ih (safe.2 next isNext)

/-- In a session that starts with an empty cache, every command uses live states only and
leaves the state of the selected mailbox in the cache, exactly if no APPEND to the selected
mailbox finds its sequence changed by itself. -/
theorem states_not_stale_iff (conf : ServerConf) (tables : Tables) (commands : List CacheCommand) :
    StepsMeet (cacheStep conf) (SafeCommand conf) (StateCache.start tables) commands ↔
      StepsMeet (cacheStep conf) (AppendSettled conf) (StateCache.start tables) commands := by
  have kept : ∀ session command next, session.Consistent → SafeCommand conf session command →
      cacheStep conf session command = .ok next → next.Consistent := by
    intro session command next _ safe stepped
    obtain ⟨after, isAfter, consistent⟩ := safe
    rw [stepped] at isAfter
    cases isAfter
    exact consistent
  constructor
  · apply stepsMeet_of_invariant StateCache.Consistent _ (start_consistent tables)
    intro session command consistent safe
    exact ⟨(safeCommand_iff consistent command).mp safe, fun next =>
      kept session command next consistent safe⟩
  · apply stepsMeet_of_invariant StateCache.Consistent _ (start_consistent tables)
    intro session command consistent settled
    have safe := (safeCommand_iff consistent command).mpr settled
    exact ⟨safe, fun next => kept session command next consistent safe⟩

def cachedTables : Tables where
  mailboxes := KeyTree.empty.insert 1 ⟨⟨4, imappermReadwrite⟩, 2⟩
  messages := KeyTree.empty.insert 7 ⟨1, .seen, {}, 3, [], 100⟩

/-- The message of an APPEND to the selected mailbox is added to a state that its refresh
has freed. -/
theorem append_uses_freed_state : ¬ StepsMeet (cacheStep {}) (SafeCommand {}) (.start cachedTables)
      [.open_ 1 true checkAcl, .append 1 ⟨8, {}, [], 50⟩ noopViewer] := by
  intro safe
  obtain ⟨final, isFinal⟩ := run_returns_of_safe safe
  have fails : (run (cacheStep {}) (.start cachedTables)
      [.open_ 1 true checkAcl, .append 1 ⟨8, {}, [], 50⟩ noopViewer]).toOption.isSome = false := by
    decide +kernel
  rw [isFinal] at fails
  cases fails

end Dbmail.Mailbox
