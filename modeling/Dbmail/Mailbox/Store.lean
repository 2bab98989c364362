import Dbmail.Mailbox.Addressing
import Dbmail.Mailbox.Tables

/-!
Contract: the STORE command on the cached state and on the tables.

Owns `_ic_store_enter` behind its token loop, `_do_store`, `_fetch_update`
(`imapcommands.c`) and `g_list_merge` (`dm_list.c`), and what a STORE leaves of
each message in the cache and in the tables.

Does not own: the token loop that finds the action and the flag words, the ACL
lookups, and failing statements.
-/

namespace Dbmail.Mailbox

open Dbmail.Lib Dbmail.Imap List

/-! ## The command -/

structure StoreCommand where
  action : FlagAction
  silent : Bool
  words : List Bytes
  unchangedsince : Nat
  set : Bytes
  uid : Bool

namespace StoreCommand

/-- `flaglist`. -/
def named (command : StoreCommand) : Flags :=
  .of fun flag => command.words.any fun word => systemFlag word = some flag

def keywords (command : StoreCommand) : List Bytes :=
  command.words.filter fun word => (systemFlag word).isNone

/-- What `_do_store` asks of `db_set_msgflag`. -/
def change (command : StoreCommand) : FlagChange :=
  ⟨command.action, command.named, command.keywords, command.unchangedsince⟩

def isRecent (word : Bytes) : Bool := smatch word "\\Recent"

end StoreCommand

/-- The settings a STORE reads, and how the database counts the rows of an UPDATE. -/
structure StoreConf where
  seqStrategy : Int := 1
  ignoreSilent : Bool := false
  countsMatched : Bool := true

structure Selected where
  state : MailboxState
  modseq : Nat
  condstore : Bool

/-- An untagged FETCH of `_fetch_update`: the flags, the mark of the recent queue and
the keywords are those of `MailboxState_message_flags`. -/
structure StoreResponse where
  uid : Nat
  msn : Nat
  shown : Option (Flags × Bool × List Bytes)
  modseq : Option Nat

structure Storing where
  tables : Tables
  state : MailboxState
  /-- The messages that are answered as MODIFIED. -/
  modified : List Nat
  sent : List StoreResponse
  fault : Option Fault

/-- `g_list_merge`. -/
def mergeKeywords (action : FlagAction) (known keywords : List Bytes) : List Bytes :=
  match action with
  | .add => keywords.foldl
      (fun known keyword => if FlagChange.listed known keyword then known else known ++ [keyword])
      known
  | .remove => keywords.foldl
      (fun known keyword => known.eraseP fun other => strcasecmpEq other keyword) known
  | .replace => keywords

variable (state : MailboxState)

/-- `MailboxState_getPermission` asks the database once it is not known. -/
def MailboxState.loadPermission (db : MailboxDb) : MailboxState :=
  if state.permission = 0 then
    { state with permission := (db.mailbox.map MailboxRow.permission).getD 0 }
  else state

def MailboxState.writable : Bool := state.permission = imappermReadwrite

section Walk

variable (conf : StoreConf) (condstore : Bool) (command : StoreCommand) (seq : Nat)

/-- `db_set_msgflag` reports a change of a message. -/
def storeCounts (writable : Bool) (info : MessageInfo) (message : Option StoredMessage) : Bool :=
  writable && command.change.counts conf.countsMatched info.keywords message

def storeCounted (storing : Storing) (uid : Nat) (info : MessageInfo) : Bool :=
  storeCounts conf command storing.state.writable info (storing.tables.messages.lookup uid)

/-- The cached message after `_do_store`. The flags that `db_set_msgflag` has set
already are set once more, whatever it has done to the tables. -/
def storeInfo (counted : Bool) (info : MessageInfo) : MessageInfo :=
  { info with
    flags := command.change.onFlags info.flags
    keywords := mergeKeywords command.action info.keywords command.keywords
    seq := if counted then seq else info.seq }

/-- The tables after the statements of `_do_store`. -/
def storeTables (writable counted : Bool) (info : MessageInfo) (tables : Tables) (uid : Nat) :
    Tables :=
  if !writable then tables
  else
    let flagged := tables.setMsgflag uid command.change info.keywords
    if counted then flagged.messageSetSeq uid seq else flagged

/-- `_fetch_update` after `_do_store`. -/
def storeResponse (state : MailboxState) (counted : Bool) (uid : Nat) (info : MessageInfo) :
    StoreResponse where
  uid := uid
  msn := state.msn uid
  shown :=
    if !command.silent || (conf.ignoreSilent && counted) then
      some (info.flags, !info.flags.recent && uid ∈ state.recentQueue,
        info.keywords.filter (· ∈ state.keywords))
    else none
  modseq := if counted && (command.unchangedsince ≠ 0 || condstore) then some info.seq else none

/-- `_do_store`, with whether the walk ends. A message that is reported and has no MSN
is a NULL pointer. -/
def storeVisit (storing : Storing) (uid : Nat) : Storing × Bool :=
  match storing.state.msginfo.lookup uid with
  | none => (storing, true)
  | some info =>
    let writable := storing.state.writable
    let counted := storeCounted conf command storing uid info
    let after := storeInfo command seq counted info
    let state := { storing.state with msginfo := storing.state.msginfo.insert uid after }
    let stored : Storing := { storing with
      tables := storeTables command seq writable counted info storing.tables uid
      state := state
      modified := if writable && !counted then uid :: storing.modified else storing.modified }
    if command.silent && !counted then (stored, false)
    else if uid ∈ state.ids then
      ({ stored with
        sent := stored.sent ++ [storeResponse conf condstore command state counted uid after] },
        false)
    else ({ stored with fault := some .nullPointer }, true)

end Walk

inductive StoreOutcome where
  | badFlags
  | denied
  | badSet
  | walked
deriving DecidableEq, Repr

/-- The keywords of the flag words that the state does not know are added to it. -/
def MailboxState.addKeywords (words : List Bytes) : MailboxState :=
  words.foldl (fun state word =>
    if (systemFlag word).isNone && word ∉ state.keywords then
      { state with keywords := state.keywords ++ [word] }
    else state) state

/-- `_dm_imapsession_get_ids`; `none` is answered as a bad set. -/
def Selected.getIds (selected : Selected) (set : Bytes) (uid : Bool) : Option (KeyTree Nat) :=
  (selected.state.mailboxGetSet selected.modseq set uid).filter fun found =>
    uid || found.keys ≠ []

/-- The rights check of `acl_has_right`, all of whose rights here need a writable
mailbox. -/
def MailboxState.grants (held : AclRight → Bool) (right : AclRight) : Bool :=
  state.writable && held right

section Enter

variable (conf : StoreConf) (held : AclRight → Bool) (tables : Tables) (selected : Selected)
  (command : StoreCommand)

def storeState : MailboxState :=
  let known := selected.state.addKeywords (command.words.takeWhile (!StoreCommand.isRecent ·))
  known.loadPermission (tables.view known.id)

def storeAccepted : Bool :=
  (flagRights command.words false).all ((storeState tables selected command).grants held)

def storeSet : Option (KeyTree Nat) :=
  Selected.getIds { selected with state := storeState tables selected command } command.set
    command.uid

/-- The tables before the walk, with the new sequence: a new keyword of the mailbox is
announced to other sessions, and then the STORE itself. -/
def storeBump : Tables × Nat :=
  let state := storeState tables selected command
  let noted :=
    if state.keywords = selected.state.keywords then tables
    else (tables.mailboxSeqUpdate conf.seqStrategy state.id 0).1
  noted.mailboxSeqUpdate conf.seqStrategy state.id 0

/-- `_ic_store_enter` behind its token loop, with the rights that the ACL lookups
grant. -/
def storeEnter : Storing × StoreOutcome :=
  let state := storeState tables selected command
  if command.words.any StoreCommand.isRecent then (⟨tables, state, [], [], none⟩, .badFlags)
  else if !storeAccepted held tables selected command then
    (⟨tables, state, [], [], none⟩, .denied)
  else
    match storeSet tables selected command with
    | none =>
      let noted :=
        if state.keywords = selected.state.keywords then tables
        else (tables.mailboxSeqUpdate conf.seqStrategy state.id 0).1
      (⟨noted, state, [], [], none⟩, .badSet)
    | some found =>
      let bumped := storeBump conf tables selected command
      (walk (storeVisit conf selected.condstore command bumped.2)
        ⟨bumped.1, state, [], [], none⟩ found.keys, .walked)

def storeTargets : List Nat :=
  if command.words.any StoreCommand.isRecent || !storeAccepted held tables selected command then []
  else ((storeSet tables selected command).map KeyTree.keys).getD []

end Enter

/-! ## One visit -/

section Visit

variable {conf : StoreConf} {condstore : Bool} {command : StoreCommand} {seq : Nat}
  {storing : Storing} {uid : Nat} {info : MessageInfo}

/-- The stored message after the statements of `_do_store`. -/
def storeMessage (conf : StoreConf) (command : StoreCommand) (seq : Nat)
    (foldsCase writable : Bool) (info : MessageInfo) (message : StoredMessage) : StoredMessage :=
  if !writable then message
  else
    let flagged := command.change.onMessage foldsCase info.keywords message
    if storeCounts conf command writable info (some message) then
      { flagged with seq := max message.seq seq }
    else flagged

variable (conf condstore command seq) in
/-- What a walk over some messages leaves of the tables and the cache: each message is
worked on by itself. -/
structure Walked (keys : List Nat) (before after : Storing) : Prop where
  frame : after.state = { before.state with msginfo := after.state.msginfo }
  foldsCase : after.tables.foldsCase = before.tables.foldsCase
  tables : ∀ id, after.tables.messages.lookup id = if id ∈ keys then
      match before.state.msginfo.lookup id with
      | none => before.tables.messages.lookup id
      | some info => (before.tables.messages.lookup id).map
          (storeMessage conf command seq before.tables.foldsCase before.state.writable info)
    else before.tables.messages.lookup id
  msginfo : ∀ id, after.state.msginfo.lookup id = if id ∈ keys then
      (before.state.msginfo.lookup id).map fun info =>
        storeInfo command seq (storeCounted conf command before id info) info
    else before.state.msginfo.lookup id
  modified : ∀ id, id ∈ after.modified ↔ id ∈ before.modified ∨ (id ∈ keys ∧
    ∃ info, before.state.msginfo.lookup id = some info ∧ before.state.writable = true ∧
      storeCounted conf command before id info = false)
  sent : ∀ response ∈ after.sent, response ∈ before.sent ∨ ∃ id ∈ keys, ∃ info,
    before.state.msginfo.lookup id = some info ∧
      response = storeResponse conf condstore command before.state
        (storeCounted conf command before id info) id
        (storeInfo command seq (storeCounted conf command before id info) info)

theorem storeTables_lookup (id : Nat) :
    (storeTables command seq storing.state.writable (storeCounted conf command storing uid info) info
        storing.tables uid).messages.lookup id =
      if id = uid then
        (storing.tables.messages.lookup id).map
          (storeMessage conf command seq storing.tables.foldsCase storing.state.writable info)
      else storing.tables.messages.lookup id := by
  unfold storeTables storeMessage storeCounted
  cases storing.state.writable with
  | false => by_cases here : id = uid <;> simp
  | true =>
    simp only [Bool.not_true, Bool.false_eq_true, if_false]
    by_cases here : id = uid
    · cases found : storing.tables.messages.lookup id with
      | none =>
        split <;> simp [Tables.lookup_setMsgflag, Tables.lookup_messageSetSeq, found]
      | some message =>
        split <;>
          simp_all [Tables.lookup_setMsgflag, Tables.lookup_messageSetSeq, FlagChange.onMessage]
    · split <;> simp [Tables.lookup_setMsgflag, Tables.lookup_messageSetSeq, here]

theorem storeVisit_walked :
    Walked conf condstore command seq [uid] storing
      (storeVisit conf condstore command seq storing uid).1 := by
  unfold storeVisit
  cases cached : storing.state.msginfo.lookup uid with
  | none =>
    refine ⟨rfl, rfl, ?_, ?_, ?_, fun _ earlier => .inl earlier⟩
    all_goals
      intro id
      by_cases here : id = uid <;> simp [here, cached]
  | some info =>
    have lookups := @storeTables_lookup conf command seq storing uid info
    generalize isCounted : storeCounted conf command storing uid info = counted at lookups
    -- the three ways out differ in what is sent and in the fault
    suffices visited : ∀ (sent : List StoreResponse) (fault : Option Fault), (∀ response ∈ sent,
        response ∈ storing.sent ∨ response = storeResponse conf condstore command storing.state
          counted uid (storeInfo command seq counted info)) →
        Walked conf condstore command seq [uid] storing
          ⟨storeTables command seq storing.state.writable counted info storing.tables uid,
            { storing.state with
              msginfo := storing.state.msginfo.insert uid (storeInfo command seq counted info) },
            if storing.state.writable && !counted then uid :: storing.modified
            else storing.modified, sent, fault⟩ by
      dsimp only
      rw [isCounted]
      split
      · exact visited _ _ fun _ earlier => .inl earlier
      split
      · refine visited _ _ fun response member => ?_
        exact (mem_append.mp member).imp id mem_singleton.mp
      · exact visited _ _ fun _ earlier => .inl earlier
    intro sent fault new
    refine ⟨rfl, ?_, fun id => ?_, fun id => ?_, fun id => ?_, fun response member => ?_⟩
    · dsimp only [storeTables]
      split_ifs <;> rfl
    · rw [lookups id]
      by_cases here : id = uid <;> simp [here, cached]
    · rw [KeyTree.lookup_insert]
      by_cases here : id = uid <;> simp [here, cached, isCounted]
    · by_cases here : id = uid
      · split <;> simp_all
      · split <;> simp [here]
    · refine (new response member).imp id fun isNew => ?_
      exact ⟨uid, mem_singleton_self uid, info, cached, isCounted.symm ▸ isNew⟩

/-- A visit to a message with an MSN goes on to the next one. -/
theorem storeVisit_continues (cached : (storing.state.msginfo.lookup uid).isSome = true)
    (known : uid ∈ storing.state.ids) :
    (storeVisit conf condstore command seq storing uid).2 = false ∧
      (storeVisit conf condstore command seq storing uid).1.fault = storing.fault := by
  obtain ⟨info, found⟩ := Option.isSome_iff_exists.mp cached
  unfold storeVisit
  rw [found]
  dsimp only
  by_cases quiet : (command.silent && !storeCounted conf command storing uid info) = true
  · rw [if_pos quiet]
    exact ⟨rfl, rfl⟩
  · rw [if_neg quiet, if_pos known]
    exact ⟨rfl, rfl⟩

theorem Walked.nil : Walked conf condstore command seq [] storing storing where
  frame := rfl
  foldsCase := rfl
  tables := by simp
  msginfo := by simp
  modified := by simp
  sent := fun _ earlier => .inl earlier

/-- A visit to one message and a walk over others make one walk. -/
theorem Walked.cons {keys : List Nat} {before middle after : Storing}
    (first : Walked conf condstore command seq [uid] before middle)
    (rest : Walked conf condstore command seq keys middle after) (fresh : uid ∉ keys) :
    Walked conf condstore command seq (uid :: keys) before after := by
  have writable : middle.state.writable = before.state.writable := by
    rw [first.frame]
    rfl
  have apart (id : Nat) (other : id ≠ uid) :
      middle.state.msginfo.lookup id = before.state.msginfo.lookup id ∧
        middle.tables.messages.lookup id = before.tables.messages.lookup id := by
    rw [first.msginfo, first.tables]
    simp [other]
  have counted (id : Nat) (other : id ≠ uid) (info : MessageInfo) :
      storeCounted conf command middle id info = storeCounted conf command before id info := by
    rw [storeCounted, storeCounted, writable, (apart id other).2]
  have ofRest (id : Nat) (member : id ∈ keys) : id ≠ uid := fun same => fresh (same ▸ member)
  refine ⟨?_, rest.foldsCase.trans first.foldsCase, ?_, ?_, ?_, ?_⟩
  · rw [rest.frame, first.frame]
  · intro id
    rw [rest.tables, first.foldsCase]
    by_cases here : id = uid
    · subst here
      simp [fresh, first.tables]
    · obtain ⟨sameInfo, sameMessage⟩ := apart id here
      simp [here, sameInfo, sameMessage, writable]
  · intro id
    rw [rest.msginfo]
    by_cases here : id = uid
    · subst here
      simp [fresh, first.msginfo]
    · obtain ⟨sameInfo, -⟩ := apart id here
      simp [here, sameInfo, counted id here]
  · intro id
    rw [rest.modified, first.modified]
    by_cases here : id = uid
    · subst here
      simp [fresh]
    · obtain ⟨sameInfo, -⟩ := apart id here
      simp [here, sameInfo, counted id here, writable]
  · intro response member
    rcases rest.sent response member with earlier | ⟨id, inRest, info, cached, rfl⟩
    · rcases first.sent response earlier with start | ⟨id, here, found⟩
      · exact .inl start
      · cases mem_singleton.mp here
        exact .inr ⟨uid, mem_cons_self, found⟩
    · have other := ofRest id inRest
      rw [(apart id other).1] at cached
      refine .inr ⟨id, mem_cons_of_mem _ inRest, info, cached, ?_⟩
      rw [counted id other info, first.frame]
      rfl

abbrev Listed (keys : List Nat) : Prop :=
  ∀ key ∈ keys, key ∈ state.ids ∧ (state.msginfo.lookup key).isSome = true

/-- The walk meets no message that ends it before the last one. -/
def Unbroken (keys : List Nat) : Prop :=
  (∀ key ∈ keys, key ∈ state.ids ∧ (state.msginfo.lookup key).isSome = true) ∨ keys.length ≤ 1

theorem Walked.listed {keys : List Nat} {middle : Storing}
    (visited : Walked conf condstore command seq [uid] storing middle) (fresh : uid ∉ keys)
    (listed : Listed storing.state (uid :: keys)) : Listed middle.state keys := by
  intro key member
  have other : key ≠ uid := fun same => fresh (same ▸ member)
  rw [visited.msginfo, visited.frame]
  simpa [other] using listed key (mem_cons_of_mem _ member)

theorem storeWalk_walked {keys : List Nat} (nodup : keys.Nodup)
    (unbroken : Unbroken storing.state keys) :
    Walked conf condstore command seq keys storing
      (walk (storeVisit conf condstore command seq) storing keys) := by
  induction keys generalizing storing with
  | nil => exact .nil
  | cons uid rest ih =>
    obtain ⟨fresh, nodupRest⟩ := nodup_cons.mp nodup
    have visited := @storeVisit_walked conf condstore command seq storing uid
    rw [walk]
    rcases unbroken with listed | short
    · obtain ⟨known, cached⟩ := listed uid mem_cons_self
      rw [(storeVisit_continues cached known).1]
      exact visited.cons (ih nodupRest (.inl (visited.listed fresh listed))) fresh
    · have single : rest = [] := eq_nil_of_length_eq_zero (by simpa using short)
      subst single
      split
      · exact visited
      · exact visited

theorem storeWalk_fault {keys : List Nat} (nodup : keys.Nodup)
    (listed : Listed storing.state keys) :
    (walk (storeVisit conf condstore command seq) storing keys).fault = storing.fault := by
  induction keys generalizing storing with
  | nil => rfl
  | cons uid rest ih =>
    obtain ⟨fresh, nodupRest⟩ := nodup_cons.mp nodup
    obtain ⟨known, cached⟩ := listed uid mem_cons_self
    obtain ⟨continues, fault⟩ := @storeVisit_continues conf condstore command seq _ _ cached known
    rw [walk, continues, if_neg Bool.false_ne_true,
      ih nodupRest (storeVisit_walked.listed fresh listed), fault]

/-- The walk faults exactly at a message that is reported and has no MSN. -/
theorem storeWalk_fault_iff {keys : List Nat} (nodup : keys.Nodup)
    (unbroken : Unbroken storing.state keys) (sound : storing.fault = none) :
    (walk (storeVisit conf condstore command seq) storing keys).fault = none ↔
      ∀ key ∈ keys, ∀ info, storing.state.msginfo.lookup key = some info →
        (command.silent && !storeCounted conf command storing key info) = false →
          key ∈ storing.state.ids := by
  rcases unbroken with listed | short
  · rw [storeWalk_fault nodup listed]
    exact iff_of_true sound fun key member _ _ _ => (listed key member).1
  · match keys with
    | [] => simpa [walk] using sound
    | [uid] =>
      have last : walk (storeVisit conf condstore command seq) storing [uid] =
          (storeVisit conf condstore command seq storing uid).1 := by
        simp [walk]
      rw [last]
      unfold storeVisit
      cases cached : storing.state.msginfo.lookup uid with
      | none => simp [sound, cached]
      | some info =>
        simp only [mem_singleton, forall_eq, cached, Option.some.injEq, forall_eq']
        by_cases quiet : (command.silent && !storeCounted conf command storing uid info) = true
        · rw [if_pos quiet]
          simp [sound, quiet]
        rw [if_neg quiet]
        by_cases known : uid ∈ storing.state.ids
        · rw [if_pos known]
          simp [sound, known]
        · rw [if_neg known]
          simp [known, quiet]
    | _ :: _ :: _ => simp at short

end Visit

/-! ## The whole command -/

section Command

variable {conf : StoreConf} {held : AclRight → Bool} {tables : Tables} {selected : Selected}
  {command : StoreCommand}

theorem addKeywords_frame (words : List Bytes) :
    ∃ keywords, state.addKeywords words = { state with keywords := keywords } := by
  refine foldlRecOn words _ (motive := fun after : MailboxState => ∃ keywords, after =
    { state with keywords := keywords }) ⟨state.keywords, rfl⟩ ?_
  rintro _ ⟨keywords, rfl⟩ word _
  split
  · exact ⟨_, rfl⟩
  · exact ⟨keywords, rfl⟩

/-- The flag words and the permission are all that a STORE adds to the state before its
walk. -/
theorem storeState_frame :
    ∃ keywords permission, storeState tables selected command =
      { selected.state with keywords := keywords, permission := permission } := by
  obtain ⟨keywords, known⟩ := addKeywords_frame selected.state
    (command.words.takeWhile (!StoreCommand.isRecent ·))
  unfold storeState
  rw [known]
  unfold MailboxState.loadPermission
  dsimp only
  split
  · exact ⟨keywords, _, rfl⟩
  · exact ⟨keywords, selected.state.permission, rfl⟩

theorem storeState_held : (storeState tables selected command).msginfo = selected.state.msginfo ∧
    (storeState tables selected command).ids = selected.state.ids := by
  obtain ⟨keywords, permission, same⟩ := @storeState_frame tables selected command
  rw [same]
  exact ⟨rfl, rfl⟩

theorem storeBump_messages :
    (storeBump conf tables selected command).1.messages = tables.messages := by
  unfold storeBump
  rw [Tables.messages_mailboxSeqUpdate]
  split
  · rfl
  · exact Tables.messages_mailboxSeqUpdate _ _ _

theorem storeBump_foldsCase :
    (storeBump conf tables selected command).1.foldsCase = tables.foldsCase := by
  unfold storeBump
  rw [Tables.foldsCase_mailboxSeqUpdate]
  split
  · rfl
  · exact Tables.foldsCase_mailboxSeqUpdate _ _ _

def storeStart (conf : StoreConf) (tables : Tables) (selected : Selected) (command : StoreCommand) :
    Storing :=
  ⟨(storeBump conf tables selected command).1, storeState tables selected command, [], [], none⟩

/-- A STORE over an unbroken set is a walk over its targets. -/
theorem storeEnter_walked
    (unbroken : Unbroken selected.state (storeTargets held tables selected command)) :
    (storeTargets held tables selected command = [] ∧
      ∃ noted : Tables, noted.messages = tables.messages ∧
        (storeEnter conf held tables selected command).1 =
          ⟨noted, storeState tables selected command, [], [], none⟩) ∨
    (Walked conf selected.condstore command (storeBump conf tables selected command).2
        (storeTargets held tables selected command) (storeStart conf tables selected command)
        (storeEnter conf held tables selected command).1 ∧
      ((storeEnter conf held tables selected command).1.fault = none ↔
        ∀ key ∈ storeTargets held tables selected command, ∀ info,
          selected.state.msginfo.lookup key = some info →
          (command.silent && !storeCounts conf command (storeState tables selected command).writable
            info (tables.messages.lookup key)) = false → key ∈ selected.state.ids)) := by
  unfold storeEnter storeTargets at *
  by_cases recent : command.words.any StoreCommand.isRecent = true
  · exact .inl ⟨by simp [recent], tables, rfl, by simp [recent]⟩
  by_cases accepted : storeAccepted held tables selected command = true
  · simp only [recent, accepted]
      at unbroken ⊢
    cases found : storeSet tables selected command with
    | none =>
      refine .inl ⟨rfl, _, ?_, rfl⟩
      split
      · rfl
      · exact Tables.messages_mailboxSeqUpdate _ _ _
    | some targets =>
      rw [found] at unbroken
      have nodup : targets.keys.Nodup := targets.sorted.imp Nat.ne_of_lt
      obtain ⟨msginfo, ids⟩ := @storeState_held tables selected command
      have whole : Unbroken (storeStart conf tables selected command).state targets.keys := by
        rw [storeStart, Unbroken, msginfo, ids]
        exact unbroken
      refine .inr ⟨storeWalk_walked nodup whole, (storeWalk_fault_iff nodup whole rfl).trans ?_⟩
      have counted (key : Nat) (info : MessageInfo) :
          storeCounted conf command (storeStart conf tables selected command) key info =
            storeCounts conf command (storeState tables selected command).writable info
              (tables.messages.lookup key) := by
        rw [storeCounted, storeStart, storeBump_messages]
      simp only [counted]
      rw [storeStart, msginfo, ids]
      rfl
  · exact .inl ⟨by simp [recent, accepted], tables, rfl, by simp [recent, accepted]⟩

/-- Every target is a message with an MSN, unless there is only one. -/
theorem storeTargets_unbroken (state : SessionMailbox) (modseq : Nat) (condstore : Bool) :
    Unbroken state.toMailboxState
      (storeTargets held tables ⟨state.toMailboxState, modseq, condstore⟩ command) := by
  unfold storeTargets
  split
  · exact .inr (by simp)
  cases found : storeSet tables ⟨state.toMailboxState, modseq, condstore⟩ command with
  | none => exact .inr (by simp)
  | some targets =>
    obtain ⟨keywords, permission, same⟩ :=
      @storeState_frame tables ⟨state.toMailboxState, modseq, condstore⟩ command
    obtain ⟨resolved, -⟩ := Option.filter_eq_some_iff.mp found
    rw [same] at resolved
    by_cases none : state.ids = []
    · exact .inr (MailboxState.mailboxGetSet_single (by exact none) resolved)
    · refine .inl fun key member => ?_
      have known : key ∈ state.ids :=
        MailboxState.mailboxGetSet_keys (by exact none) resolved key member
      exact ⟨known, (KeyTree.lookup_isSome_iff _ key).mpr (state.held.mem_keys known)⟩

theorem storeEnter_lookup
    (unbroken : Unbroken selected.state (storeTargets held tables selected command)) (id : Nat) :
    (storeEnter conf held tables selected command).1.tables.messages.lookup id =
      if id ∈ storeTargets held tables selected command then
        match selected.state.msginfo.lookup id with
        | none => tables.messages.lookup id
        | some info => (tables.messages.lookup id).map
            (storeMessage conf command (storeBump conf tables selected command).2
              tables.foldsCase (storeState tables selected command).writable info)
      else tables.messages.lookup id := by
  rcases storeEnter_walked unbroken with ⟨none, noted, messages, same⟩ | ⟨walked, -⟩
  · rw [same, none, messages]
    simp
  · rw [walked.tables, storeStart, storeBump_messages, storeBump_foldsCase, storeState_held.1]

end Command

end Dbmail.Mailbox
