import Dbmail.Mailbox.Box

/-!
Contract: a mailbox that is opened with EXAMINE.

Owns the runs of a session that opens a mailbox read-only, with arbitrary changes
by other sessions between its steps, and a condition on the steps under which
the session changes no flag, recent mark, keyword or status.

Does not own: commands that a session gives without a selected mailbox.
-/

namespace Dbmail.Mailbox

open Dbmail.Lib Dbmail.Imap MailboxState BoxSession Bool

/-! ## Runs -/

inductive ExamineStep where
  | others (tables : Tables)
  | examine (readable selectable : Bool)
  | refresh (viewer : Viewer)
  | fetch (held : AclRight → Bool) (command : FetchCommand)
  | store (held : AclRight → Bool) (modseq : Nat) (condstore : Bool) (command : StoreCommand)
  | expunge (held : AclRight → Bool) (command : ExpungeCommand)
  | copy (modseq : Nat) (results : Nat → CopyResult) (command : CopyCommand)
  | close (held : AclRight → Bool) (updated : Nat → Bool)

namespace ExamineStep

def own : ExamineStep → Bool
  | .others _ => false
  | _ => true

def box : ExamineStep → BoxStep
  | .others tables => .others tables
  | .examine readable selectable => .open_ ⟨false, readable, selectable⟩
  | .refresh viewer => .refresh viewer
  | .fetch held command => .fetch held command
  | .store held modseq condstore command => .store held modseq condstore command
  | .expunge held command => .expunge held command
  | .copy modseq results command => .copy modseq results command
  | .close held updated => .close held updated

end ExamineStep

variable (conf : ServerConf)

def examineStep (mailbox : Nat) (session : BoxSession) (step : ExamineStep) :
    Except Fault BoxSession :=
  boxStep conf mailbox session step.box

/-! ## What a read-only session leaves alone -/

/-- What a message shows: its mailbox and status, flags with the recent mark, keywords. -/
def StoredMessage.marks (message : StoredMessage) : Nat × MessageStatus × Flags × List Bytes :=
  (message.mailbox, message.status, message.flags, message.keywords)

def MarksKept (mailbox : Nat) (before after : Tables) : Prop :=
  ∀ uid message, before.messages.lookup uid = some message → message.mailbox = mailbox →
    (after.messages.lookup uid).map StoredMessage.marks = some message.marks

def ExamineKeeps (mailbox : Nat) (session : BoxSession) (step : ExamineStep) : Prop :=
  step.own = true → ∀ next, examineStep conf mailbox session step = .ok next →
    MarksKept mailbox session.tables next.tables

def OnlyReads (permission : Nat) : Prop := permission ≠ 0 ∧ permission ≠ imappermReadwrite

/-- A refresh that finds the mailbox changed finds it with such a permission, and no
message to mark. -/
def RefreshReadOnly (tables : Tables) (state : MailboxState) : Prop :=
  let db := tables.view state.id
  let old := state.consulted db
  old.outdated db = true →
    OnlyReads db.permission ∧ ¬ conf.load.Syncs (old.refreshRows conf.load db)

/-- The load of an EXAMINE, unless the cached state is used, finds no message to mark. -/
def OpenReadOnly (mailbox : Nat) (session : BoxSession) : Prop :=
  session.left.stale mailbox = true → ¬ conf.load.Syncs (session.db mailbox).liveRows

def ReadOnlyStep (mailbox : Nat) (session : BoxSession) : ExamineStep → Prop
  | .examine _ _ => OpenReadOnly conf mailbox session
  | .refresh _ =>
    session.selected = true → ∀ state, session.cached = some state →
      RefreshReadOnly conf session.tables state
  | _ => True

/-! ## Statements that keep the marks -/

def AllKept (before after : Tables) : Prop :=
  ∀ uid message, before.messages.lookup uid = some message →
    (after.messages.lookup uid).map StoredMessage.marks = some message.marks

section Kept

variable {before middle after tables : Tables}

theorem AllKept.refl (tables : Tables) : AllKept tables tables := by
  intro uid message found
  rw [found]
  rfl

theorem AllKept.of_eq (same : after.messages = before.messages) : AllKept before after := by
  intro uid message found
  rw [same, found]
  rfl

theorem AllKept.trans (first : AllKept before middle) (second : AllKept middle after) :
    AllKept before after := by
  intro uid message found
  obtain ⟨between, isBetween, marks⟩ := Option.map_eq_some_iff.mp (first uid message found)
  rw [second uid between isBetween, marks]

theorem messageSetSeq_kept {tables : Tables} {uid seq : Nat} :
    AllKept tables (tables.messageSetSeq uid seq) := by
  intro id message found
  rw [Tables.lookup_messageSetSeq, found]
  split <;> rfl

theorem mailboxSeqUpdate_kept (tables : Tables) (strategy : Int) (mailbox uid : Nat) :
    AllKept tables (tables.mailboxSeqUpdate strategy mailbox uid).1 := by
  unfold Tables.mailboxSeqUpdate
  by_cases first : strategy = 1
  · rw [if_pos first]
    split
    · exact .of_eq rfl
    · exact AllKept.trans (.of_eq rfl) messageSetSeq_kept
  rw [if_neg first]
  by_cases second : strategy = 2
  · rw [if_pos second]
    split
    · exact .of_eq rfl
    · intro id message found
      rw [KeyTree.lookup_map, Tables.messages_bump, found]
      split <;> rfl
  · rw [if_neg second]
    exact .refl tables

theorem insertCopy_kept (tables : Tables) (strategy : Int) (uid mailbox copy : Nat) :
    AllKept tables (tables.insertCopy strategy uid mailbox copy) := by
  unfold Tables.insertCopy
  cases tables.messages.lookup uid with
  | none => exact .refl tables
  | some message =>
    dsimp only
    by_cases used : copy ∈ tables.messages.keys
    · rw [if_pos used]
      exact .refl tables
    · rw [if_neg used]
      refine AllKept.trans ?_ (mailboxSeqUpdate_kept _ strategy mailbox copy)
      intro id other found
      rw [KeyTree.lookup_insert, if_neg, found]
      · rfl
      · rintro rfl
        exact used (KeyTree.mem_keys_of_lookup found)

theorem copyWrites_kept (tables : Tables) (state : MailboxState) (modseq : Nat)
    (results : Nat → CopyResult) (command : CopyCommand) :
    AllKept tables (copyWrites conf tables state modseq results command) := by
  unfold copyWrites
  cases command.destination with
  | none => exact .refl tables
  | some mailbox =>
    dsimp only
    split
    · exact .refl tables
    · cases copyIds state modseq command with
      | none => exact .refl tables
      | some keys =>
        refine AllKept.trans (mailboxSeqUpdate_kept tables conf.store.seqStrategy mailbox 0) ?_
        refine walk_keeps ?_ (.refl _)
        intro walked uid _ kept
        unfold copyTables
        cases state.msginfo.lookup uid with
        | none => exact kept
        | some info =>
          apply kept.trans
          cases results uid with
          | copied copy =>
            exact (insertCopy_kept _ _ _ _ _).trans messageSetSeq_kept
          | missing | overQuota => exact messageSetSeq_kept

end Kept

/-! ## Commands without the permission to write -/

section ReadOnly

variable {conf : ServerConf} {tables : Tables} {state : MailboxState}

/-- Statements that only read leave everything as it is. -/
theorem foldl_fetchWrite_eq {strategy : Int} {calls : List DbCall}
    (quiet : ∀ call ∈ calls, ∀ uid, call ≠ .setMsgflag uid ∧ call ≠ .setSeq uid)
    (fetching : Tables × MailboxState) :
    calls.foldl (fetchWrite strategy) fetching = fetching := by
  apply foldl_skipped
  intro call member
  cases call with
  | setMsgflag uid => exact absurd rfl (quiet _ member uid).1
  | setSeq uid => exact absurd rfl (quiet _ member uid).2
  | _ => rfl

/-- The walk of a STORE leaves the messages alone when the mailbox is not writable. -/
theorem storeVisit_of_onlyReads {condstore : Bool} {command : StoreCommand} {seq uid : Nat}
    {storing : Storing} (reads : OnlyReads storing.state.permission) :
    (storeVisit conf.store condstore command seq storing uid).1.tables = storing.tables ∧
      (storeVisit conf.store condstore command seq storing uid).1.state.permission =
        storing.state.permission := by
  have closed : storing.state.writable = false := by
    simp [writable, reads.2]
  unfold storeVisit
  cases storing.state.msginfo.lookup uid with
  | none => exact ⟨rfl, rfl⟩
  | some info =>
    simp only [closed]
    split
    · exact ⟨rfl, rfl⟩
    · split <;> exact ⟨rfl, rfl⟩

variable (reads : OnlyReads state.permission)

include reads

theorem loadPermission_of_onlyReads (db : MailboxDb) : state.loadPermission db = state := by
  rw [loadPermission, if_neg reads.1]

theorem grants_of_onlyReads (held : AclRight → Bool) (right : AclRight) :
    state.grants held right = false := by
  simp [grants, writable, reads.2]

theorem flushTables_of_onlyReads (strategy : Int) (tables : Tables) :
    state.flushTables strategy tables = tables := by
  rw [flushTables, if_pos (.inl reads.2)]

theorem flushRecent_of_onlyReads : state.flushRecent = state := by
  rw [flushRecent, if_neg reads.2]

/-- Without the right to mark messages as seen a FETCH makes no statement that writes. -/
theorem fetchEnter_of_onlyReads (held : AclRight → Bool)
    (command : FetchCommand) : fetchEnter conf held tables state command = (tables, state) := by
  unfold fetchEnter
  simp only [loadPermission_of_onlyReads reads, grants_of_onlyReads reads]
  rw [foldl_fetchWrite_eq]
  · rw [flushTables_of_onlyReads reads, flushRecent_of_onlyReads reads]
  · unfold SetCommand.calls
    cases state.mailboxGetSet command.modseq command.set command.uid with
    | none => simp
    | some found =>
      apply fetchCalls_makes
      intro uid _ _
      refine ⟨?_, ?_, ?_, ?_, fun granted => absurd (show (0 : Int) = 1 from granted) (by decide)⟩
      all_goals simp

theorem storeState_permission (modseq : Nat) (condstore : Bool) (command : StoreCommand) :
    (storeState tables ⟨state, modseq, condstore⟩ command).permission = state.permission := by
  unfold storeState
  obtain ⟨keywords, known⟩ := addKeywords_frame state
    (command.words.takeWhile (!StoreCommand.isRecent ·))
  have stays := @loadPermission_of_onlyReads { state with keywords := keywords } reads
    (tables.view state.id)
  simp only [known]
  rw [stays]

theorem storeEnter_of_onlyReads (held : AclRight → Bool)
    (modseq : Nat) (condstore : Bool) (command : StoreCommand) :
    AllKept tables
        (storeEnter conf.store held tables ⟨state, modseq, condstore⟩ command).1.tables ∧
      OnlyReads
        (storeEnter conf.store held tables ⟨state, modseq, condstore⟩ command).1.state.permission := by
  have same := @storeState_permission tables state reads modseq condstore command
  have known : OnlyReads (storeState tables ⟨state, modseq, condstore⟩ command).permission := by
    rwa [same]
  have noted : AllKept tables
      (if (storeState tables ⟨state, modseq, condstore⟩ command).keywords = state.keywords then tables
        else (tables.mailboxSeqUpdate conf.store.seqStrategy
          (storeState tables ⟨state, modseq, condstore⟩ command).id 0).1) := by
    split
    · exact .refl tables
    · exact mailboxSeqUpdate_kept _ _ _ _
  unfold storeEnter
  split
  · exact ⟨.refl tables, known⟩
  split
  · exact ⟨.refl tables, known⟩
  cases storeSet tables ⟨state, modseq, condstore⟩ command with
  | none => exact ⟨noted, known⟩
  | some found =>
    refine @walk_keeps Storing _
      (fun storing => AllKept tables storing.tables ∧ OnlyReads storing.state.permission) _ ?_ _
      ⟨noted.trans (mailboxSeqUpdate_kept _ _ _ _), known⟩
    intro storing uid _ kept
    obtain ⟨sameTables, samePermission⟩ :=
      @storeVisit_of_onlyReads conf condstore command
        (storeBump conf.store tables ⟨state, modseq, condstore⟩ command).2 uid storing kept.2
    rw [sameTables, samePermission]
    exact kept

/-- A refresh that meets the condition writes nothing, and the mailbox stays read-only. -/
theorem refresh_of_onlyReads (viewer : Viewer) (condition : RefreshReadOnly conf tables state) :
    (tables.refresh conf viewer state).1 = tables ∧
      OnlyReads (tables.refresh conf viewer state).2.1.permission := by
  unfold RefreshReadOnly at condition
  unfold Tables.refresh mailboxStatus
  dsimp only at condition ⊢
  generalize isDb : tables.view state.id = db at condition ⊢
  by_cases outdated : (state.consulted db).outdated db = true
  · obtain ⟨readsRow, idle⟩ := condition outdated
    have access := (notified_new conf.load viewer (state.consulted db)
      ((state.consulted db).successor conf.load db)).2
    have loaded : ((state.consulted db).successor conf.load db).permission = db.permission :=
      refreshed_permission conf.load db _
    have readsNew : OnlyReads (notified conf.load viewer (state.consulted db)
        ((state.consulted db).successor conf.load db)).new.permission := by
      rwa [access, loaded]
    rw [if_pos outdated, if_pos outdated, flushTables_of_onlyReads readsNew,
      refreshMarks_eq_nil idle, notifications_eq, flushRecent_of_onlyReads readsNew]
    exact ⟨rfl, readsNew⟩
  · rw [if_neg outdated, if_neg outdated]
    have same : (state.consulted db).permission = state.permission := by
      unfold consulted getSeq getmailboxSeq
      split
      · split <;> rfl
      · rfl
    exact ⟨rfl, by rwa [same]⟩

end ReadOnly

/-! ## Runs that stay read-only -/

def BoxSession.ReadOnly (session : BoxSession) : Prop :=
  session.selected = true → ∀ state, session.cached = some state → OnlyReads state.permission

def BoxSession.Kept (session next : BoxSession) : Prop :=
  AllKept session.tables next.tables ∧ next.ReadOnly

section Run

variable {conf : ServerConf} {mailbox : Nat} {session : BoxSession}

theorem command_kept {body : Tables → MailboxState → Tables × MailboxState}
    (readOnly : session.ReadOnly)
    (keeps : ∀ state, OnlyReads state.permission →
      AllKept session.tables (body session.tables state).1 ∧
        OnlyReads (body session.tables state).2.permission) :
    session.Kept (session.command body) := by
  refine on_selected ⟨.refl _, readOnly⟩ fun state isSelected isCached => ?_
  obtain ⟨kept, reads⟩ := keeps state (readOnly isSelected state isCached)
  refine ⟨kept, fun _ other isOther => ?_⟩
  cases isOther
  exact reads

theorem refresh_kept (readOnly : session.ReadOnly) (viewer : Viewer)
    (condition : session.selected = true → ∀ state, session.cached = some state →
      RefreshReadOnly conf session.tables state) :
    session.Kept (session.refresh conf viewer) := by
  refine on_selected ⟨.refl _, readOnly⟩ fun state isSelected isCached => ?_
  obtain ⟨same, reads⟩ := refresh_of_onlyReads (readOnly isSelected state isCached) viewer
    (condition isSelected state isCached)
  dsimp only
  rw [same]
  refine ⟨.refl _, fun _ other isOther => ?_⟩
  cases isOther
  exact reads

theorem close_kept (readOnly : session.ReadOnly) (held : AclRight → Bool) (updated : Nat → Bool) :
    session.Kept (session.close conf held updated) := by
  refine on_selected ⟨.refl _, readOnly⟩ fun state isSelected isCached => ?_
  have reads := readOnly isSelected state isCached
  simp only [loadPermission_of_onlyReads reads, grants_of_onlyReads reads]
  refine ⟨.refl _, fun selected => ?_⟩
  cases selected

theorem open_kept (condition : OpenReadOnly conf mailbox session) (readable selectable : Bool) :
    (session.open_ conf mailbox ⟨false, readable, selectable⟩).tables = session.tables ∧
      (session.open_ conf mailbox ⟨false, readable, selectable⟩).ReadOnly := by
  have same : (session.left.look conf mailbox).tables = session.tables := by
    rw [look_tables, left_tables]
    intro stale
    unfold db
    rw [left_tables]
    exact condition stale
  unfold open_
  dsimp only
  rw [Bool.and_false]
  refine ⟨same, ?_⟩
  intro selected state isState
  obtain ⟨found, -, rfl⟩ := Option.map_eq_some_iff.mp isState
  have isReadable : readable = true := (Bool.and_eq_true_iff.mp selected).1
  have permission : (opened ⟨false, readable, selectable⟩ found).permission = imappermRead := by
    unfold opened buildRecent
    simp [isReadable, imappermRead, imappermReadwrite]
  rw [permission]
  exact ⟨by decide, by decide⟩

theorem examineStep_kept (readOnly : session.ReadOnly) {step : ExamineStep}
    (condition : ReadOnlyStep conf mailbox session step) :
    ExamineKeeps conf mailbox session step ∧
      ∀ next, examineStep conf mailbox session step = .ok next → next.ReadOnly := by
  suffices kept : ∀ next, examineStep conf mailbox session step = .ok next →
      (step.own = true → AllKept session.tables next.tables) ∧ next.ReadOnly from
    ⟨fun own next stepped uid message found _ => (kept next stepped).1 own uid message found,
      fun next stepped => (kept next stepped).2⟩
  have own {next : BoxSession} (both : session.Kept next) :
      (step.own = true → AllKept session.tables next.tables) ∧ next.ReadOnly :=
    ⟨fun _ => both.1, both.2⟩
  intro next stepped
  cases step with
  | others tables =>
    cases stepped
    exact ⟨fun own => absurd own false_ne_true, readOnly⟩
  | examine readable selectable =>
    cases stepped
    obtain ⟨same, stays⟩ := @open_kept conf mailbox session condition readable selectable
    exact own ⟨.of_eq (by rw [same]), stays⟩
  | refresh viewer =>
    cases stepped
    exact own (refresh_kept readOnly viewer condition)
  | fetch held command =>
    cases stepped
    refine own (command_kept readOnly fun state reads => ?_)
    rw [fetchEnter_of_onlyReads reads]
    exact ⟨.refl _, reads⟩
  | store held modseq condstore command =>
    cases stepped
    exact own (command_kept readOnly fun state reads =>
      storeEnter_of_onlyReads reads held modseq condstore command)
  | expunge held command =>
    cases stepped
    refine own (command_kept readOnly fun state reads => ?_)
    simp only [expungeEnter, loadPermission_of_onlyReads reads, grants_of_onlyReads reads]
    exact ⟨.refl _, reads⟩
  | copy modseq results command =>
    cases stepped
    exact own (command_kept readOnly fun state reads =>
      ⟨copyWrites_kept conf _ state modseq results command, reads⟩)
  | close held updated =>
    cases stepped
    exact own (close_kept readOnly held updated)

/-- In every run whose refreshes find the mailbox read-only and whose loads find nothing to
mark, no step of the session changes a flag, a recent mark, a keyword or a status. -/
theorem examine_readOnly (conf : ServerConf) (mailbox : Nat) (session : BoxSession)
    (steps : List ExamineStep)
    (meets : StepsMeet (examineStep conf mailbox) (ReadOnlyStep conf mailbox)
      { session with selected := false } steps) :
    StepsMeet (examineStep conf mailbox) (ExamineKeeps conf mailbox)
      { session with selected := false } steps := by
  refine stepsMeet_of_invariant BoxSession.ReadOnly ?_ ?_ meets
  · intro session step readOnly condition
    exact examineStep_kept readOnly condition
  · intro selected
    cases selected

end Run

/-! ## A mailbox that becomes writable -/

def examinedTables : Tables where
  mailboxes := KeyTree.empty.insert 1 ⟨⟨4, imappermReadwrite⟩, 2⟩
  messages := KeyTree.empty.insert 7 ⟨1, .seen, {}, 3, [], 100⟩

/-- `STORE 1 +FLAGS (\\Flagged)`. -/
def storeFlagged : StoreCommand := ⟨.add, false, [lit "\\Flagged"], 0, lit "1", false⟩

/-- `STORE 1 FLAGS ()`. -/
def storeEmpty : StoreCommand := ⟨.replace, false, [], 0, lit "1", false⟩

/-- Another session has added a message, and the mailbox is read-only by now. -/
def readonlyTables : Tables where
  mailboxes := KeyTree.empty.insert 1 ⟨⟨5, 1⟩, 2⟩
  messages := examinedTables.messages.insert 8 ⟨1, .new, {}, 5, [], 100⟩

theorem examined_store_refused :
    StepsMeet (examineStep {} 1) (ExamineKeeps {} 1) (.start examinedTables)
      [.examine true true, .others readonlyTables, .refresh ⟨none, false, false⟩,
        .store (fun _ => true) 0 false storeFlagged] := by
  refine examine_readOnly {} 1 (.start examinedTables) _ ⟨?_, ?_⟩
  · intro _
    decide +kernel
  · intro opened isOpened
    cases isOpened
    refine ⟨trivial, ?_⟩
    intro changed isChanged
    cases isChanged
    refine ⟨?_, fun _ _ => ⟨trivial, fun _ _ => trivial⟩⟩
    intro _ state isState _
    cases isState
    exact ⟨⟨by decide +kernel, by decide +kernel⟩, by decide +kernel⟩

/-- The empty STORE changes nothing but raises the sequence of the mailbox, the refresh
then takes the permission from the table, and the second STORE is carried out. -/
theorem examined_store_carried_out :
    ¬ StepsMeet (examineStep {} 1) (ExamineKeeps {} 1) (.start examinedTables)
      [.examine true true, .store (fun _ => true) 0 false storeEmpty,
        .refresh ⟨none, false, false⟩, .store (fun _ => true) 0 false storeFlagged] := by
  intro keeps
  have kept := (((keeps.2 _ rfl).2 _ rfl).2 _ rfl).1 rfl _ rfl 7 ⟨1, .seen, {}, 3, [], 100⟩
    (by decide +kernel) rfl
  exact absurd kept (by decide +kernel)

end Dbmail.Mailbox
