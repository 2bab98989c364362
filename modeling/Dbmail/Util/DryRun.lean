import Dbmail.Mailbox.State

/-!
Contract: what dbmail-util does to the database.

Owns the options of `main` in maintenance.c, the tasks it dispatches with the
statements they issue to change the database, and the condition under which a run
without -y issues none.

Does not own: statements that only read, and what the run prints.
-/

namespace Dbmail.Util

open Dbmail.Lib Dbmail.Mailbox List

/-! ## Options -/

/-- What `getopt_long` returns. -/
inductive Opt where
  | rehash | move (days : Int) | erase (days : Int) | trash (name : Bytes) | inbox (name : Bytes)
  | allChecks | cleanDatabase | checkBody | checkEmptyCache | purgeDeleted | setDeleted
  | removeInvalidAliases | testIntegrity | deprecated | clearIplog (timespec : Bytes)
  | clearReplycache (timespec : Bytes) | migrateLegacy | migrateLimit (limit : Int) | interactive
  | help | no | yes | quiet | config (file : Bytes) | verbose | version | unrecognized
deriving DecidableEq

/-- The variables of `main`. The two names are not initialised. -/
structure Settings where
  mbtrashName : Bytes
  mbinboxName : Bytes
  checkIntegrity : Bool := false
  checkIplog : Bool := false
  checkReplycache : Bool := false
  timespecIplog : Bytes := []
  timespecReplycache : Bytes := []
  checkEmptyEnvelope : Bool := false
  vacuumDb : Bool := false
  purgeDeleted : Bool := false
  setDeleted : Bool := false
  danglingAliases : Bool := false
  rehash : Bool := false
  moveOld : Bool := false
  eraseOld : Bool := false
  daysMove : Int := 0
  daysErase : Int := 0
  isHeader : Bool := false
  migrate : Bool := false
  migrateLimit : Int := 10000
  showHelp : Bool := false
  doNothing : Bool := true
  noToAll : Bool := false
  yesToAll : Bool := false

def Settings.asked (settings : Settings) : Settings := { settings with doNothing := false }

/-- One turn of the option loop; some options end the program. -/
def Settings.take (settings : Settings) : Opt → Option Settings
  | .rehash => some { settings.asked with rehash := true }
  | .move days => some { settings.asked with moveOld := true, daysMove := days }
  | .erase days =>
    some { settings.asked with eraseOld := true, purgeDeleted := true, daysErase := days }
  | .trash name => some { settings.asked with mbtrashName := name }
  | .inbox name => some { settings.asked with mbinboxName := name }
  | .allChecks =>
    some { settings.asked with
      vacuumDb := true, purgeDeleted := true, setDeleted := true, danglingAliases := true,
      checkIntegrity := true, isHeader := true }
  | .cleanDatabase => some { settings.asked with vacuumDb := true }
  | .checkBody => some { settings.asked with isHeader := true }
  | .checkEmptyCache => some { settings.asked with checkEmptyEnvelope := true }
  | .purgeDeleted => some { settings.asked with purgeDeleted := true }
  | .setDeleted => some { settings.asked with setDeleted := true }
  | .removeInvalidAliases => some { settings.asked with danglingAliases := true }
  | .testIntegrity => some { settings.asked with checkIntegrity := true }
  | .clearIplog timespec =>
    some { settings.asked with checkIplog := true, timespecIplog := timespec }
  | .clearReplycache timespec =>
    some { settings.asked with checkReplycache := true, timespecReplycache := timespec }
  | .migrateLegacy => some { settings.asked with migrate := true }
  | .migrateLimit limit => some { settings with migrateLimit := limit }
  | .help => some { settings.asked with showHelp := true }
  | .no => some { settings with noToAll := true }
  | .yes => some { settings with yesToAll := true }
  | .config file => if file = [] then none else some settings
  | .deprecated | .quiet | .verbose => some settings
  | .interactive | .version => none
  | .unrecognized => some { settings with showHelp := true }

/-- The settings with which `main` dispatches its tasks, if it does not show its help. -/
def dispatched (start : Settings) (options : List Opt) : Option Settings :=
  (options.foldlM Settings.take start).filter fun settings =>
    !(settings.doNothing || settings.showHelp || (settings.noToAll && settings.yesToAll))

/-! ## Tasks -/

/-- The checks that find rows to repair: loose rows are deleted, the others cached anew. -/
inductive Check where
  | physmessages | partlists | mimeparts | headernames | headervalues
  | rfcsize | envelope | headercache | emptyEnvelope
deriving DecidableEq

inductive Statement where
  | setMessageStatus (id : Nat) (status : MessageStatus)
  | moveMessage (id mailbox : Nat)
  | mailboxSeqUpdate (mailbox : Nat)
  | repair (check : Check) (id : Nat)
  | deletedPurge | setDeleted | quotaRebuild
  | removealias (name : Bytes) (deliverTo : Nat)
  | cleanupIplog | cleanupReplycache | cleanup | rehashStore
  | messageStore (id : Nat)
  | deleteMessageblks (id : Nat)
deriving DecidableEq

structure MessageRow where
  id : Nat
  owner : Nat
  mailbox : Nat
  name : Bytes
  status : MessageStatus
  internalDate : Int

/-- What the database and the calls around it answer at one time. A query that fails ends
its task: it finds nothing, or its rows are those before the failure. -/
structure Answers where
  messages : List MessageRow
  expire : Int → Int
  findMailbox : Nat → Bytes → Option Nat
  icheck : Check → Option (List Nat)
  retrieve : Nat → Bool
  headerCacheReadonly : Bool
  danglingAliases : List (Bytes × Nat)
  setDeleted : Bool
  findTime : Bytes → Bool
  messageblks : Int → List Nat
  messageStore : Nat → Bool

section Tasks

variable (yesToAll : Bool) (answers : Answers)

/-- The query of `do_erase_old` and `do_move_old`. -/
def Answers.old (days : Int) (name : Bytes) : List MessageRow :=
  answers.messages.filter fun row =>
    row.name = name && row.status.live && decide (row.internalDate < answers.expire days)

def doEraseOld (days : Int) (mbtrashName : Bytes) : List Statement :=
  (answers.old days mbtrashName).map fun row => .setMessageStatus row.id .purge

def doMoveOld (days : Int) (mbinboxName mbtrashName : Bytes) : List Statement :=
  (answers.old days mbinboxName).flatMap fun row =>
    match answers.findMailbox row.owner mbtrashName with
    | some mailbox =>
      [.moveMessage row.id mailbox, .mailboxSeqUpdate mailbox, .mailboxSeqUpdate row.mailbox]
    | none => []

/-- Checks one after the other, up to the first that fails. A row is cached anew only if its
message is retrieved. -/
def checkAll : List Check → List Statement
  | [] => []
  | check :: rest =>
    match answers.icheck check with
    | none => []
    | some lost =>
      (if yesToAll then
        (lost.filter fun id =>
          !(check ∈ [.rfcsize, .envelope, .headercache, .emptyEnvelope]) ||
            answers.retrieve id).map (.repair check)
      else []) ++ checkAll rest

def doCheckIntegrity : List Statement :=
  checkAll yesToAll answers ([.physmessages, .partlists, .mimeparts] ++
    (if answers.headerCacheReadonly then [] else [.headernames]) ++ [.headervalues])

def doHeaderCache : List Statement :=
  checkAll yesToAll answers [.rfcsize, .envelope, .headercache]

def doCheckEmptyEnvelope : List Statement := checkAll yesToAll answers [.emptyEnvelope]

def doSetDeleted : List Statement :=
  if yesToAll then .setDeleted :: (if answers.setDeleted then [.quotaRebuild] else []) else []

def doDanglingAliases : List Statement :=
  answers.danglingAliases.flatMap fun dangling =>
    if yesToAll then [.removealias dangling.1 dangling.2] else []

/-- `do_check_iplog` and `do_check_replycache`. -/
def doCheckTimed (statement : Statement) (timespec : Bytes) : List Statement :=
  if answers.findTime timespec && yesToAll then [statement] else []

def doMigrate (migrateLimit : Int) : List Statement :=
  if !yesToAll then []
  else (answers.messageblks migrateLimit).flatMap fun id =>
    .messageStore id :: (if answers.messageStore id then [.deleteMessageblks id] else [])

end Tasks

/-- The tasks in the order in which `main` dispatches them. -/
def Settings.tasks (settings : Settings) : List (Answers → List Statement) :=
  let yes := settings.yesToAll
  [fun answers =>
      if settings.eraseOld then doEraseOld answers settings.daysErase settings.mbtrashName else [],
    fun answers =>
      if settings.moveOld then
        doMoveOld answers settings.daysMove settings.mbinboxName settings.mbtrashName
      else [],
    fun answers => if settings.checkIntegrity then doCheckIntegrity yes answers else [],
    fun _ => if settings.purgeDeleted && yes then [.deletedPurge] else [],
    fun answers => if settings.isHeader then doHeaderCache yes answers else [],
    fun answers => if settings.setDeleted then doSetDeleted yes answers else [],
    fun answers => if settings.danglingAliases then doDanglingAliases yes answers else [],
    fun answers =>
      if settings.checkIplog then doCheckTimed yes answers .cleanupIplog settings.timespecIplog
      else [],
    fun answers =>
      if settings.checkReplycache then
        doCheckTimed yes answers .cleanupReplycache settings.timespecReplycache
      else [],
    fun _ => if settings.vacuumDb && yes then [.cleanup] else [],
    fun _ => if settings.rehash && yes then [.rehashStore] else [],
    fun answers => if settings.migrate then doMigrate yes answers settings.migrateLimit else [],
    fun answers => if settings.checkEmptyEnvelope then doCheckEmptyEnvelope yes answers else []]

/-- The statements of a run. `respond` answers as the database is after the statements
issued so far. -/
def issue (respond : List Statement → Answers) :
    List Statement → List (Answers → List Statement) → List Statement
  | issued, [] => issued
  | issued, task :: rest => issue respond (issued ++ task (respond issued)) rest

def main (respond : List Statement → Answers) (start : Settings) (options : List Opt) :
    List Statement :=
  match dispatched start options with
  | none => []
  | some settings => issue respond [] settings.tasks

/-! ## A run without -y -/

def DryRunKeeps (respond : List Statement → Answers) (wild : Bytes × Bytes) (options : List Opt) :
    Prop :=
  .yes ∉ options → main respond { mbtrashName := wild.1, mbinboxName := wild.2 } options = []

/-- There is no old message to erase, and none to move to a mailbox its owner has. -/
structure NothingOld (answers : Answers) (settings : Settings) : Prop where
  erase : settings.eraseOld = true → answers.old settings.daysErase settings.mbtrashName = []
  move : settings.moveOld = true → ∀ row ∈ answers.old settings.daysMove settings.mbinboxName,
    answers.findMailbox row.owner settings.mbtrashName = none

section Dry

variable {respond : List Statement → Answers} {settings after : Settings} {options : List Opt}

theorem take_yesToAll {option : Opt} (other : option ≠ .yes)
    (taken : settings.take option = some after) : after.yesToAll = settings.yesToAll := by
  cases option with
  | yes => exact absurd rfl other
  | config file =>
    simp only [Settings.take, Option.ite_none_left_eq_some, Option.some.injEq] at taken
    exact taken.2 ▸ rfl
  | interactive | version => cases taken
  | _ =>
    cases taken
    rfl

theorem options_yesToAll (dry : .yes ∉ options)
    (taken : options.foldlM Settings.take settings = some after) :
    after.yesToAll = settings.yesToAll := by
  induction options generalizing settings with
  | nil =>
    cases taken
    rfl
  | cons option rest ih =>
    obtain ⟨otherOption, otherRest⟩ := not_or.mp (mem_cons.not.mp dry)
    obtain ⟨next, first, others⟩ := Option.bind_eq_some_iff.mp taken
    exact (ih otherRest others).trans (take_yesToAll (Ne.symm otherOption) first)

theorem checkAll_dry (answers : Answers) (checks : List Check) :
    checkAll false answers checks = [] := by
  induction checks with
  | nil => rfl
  | cons check rest ih =>
    rw [checkAll]
    cases answers.icheck check with
    | none => rfl
    | some lost => exact ih

theorem doMoveOld_eq_nil (answers : Answers) (days : Int) (inbox trash : Bytes) :
    doMoveOld answers days inbox trash = [] ↔
      ∀ row ∈ answers.old days inbox, answers.findMailbox row.owner trash = none := by
  rw [doMoveOld, flatMap_eq_nil_iff]
  refine forall₂_congr fun row _ => ?_
  cases answers.findMailbox row.owner trash <;> simp

/-- Every task but two asks for -y. -/
theorem tasks_dry (answers : Answers) (dry : settings.yesToAll = false) :
    (∀ task ∈ settings.tasks, task answers = []) ↔ NothingOld answers settings := by
  have guarded : (∀ task ∈ settings.tasks, task answers = []) ↔
      (settings.eraseOld = true → doEraseOld answers settings.daysErase settings.mbtrashName = []) ∧
      (settings.moveOld = true → doMoveOld answers settings.daysMove settings.mbinboxName
        settings.mbtrashName = []) := by
    simp [Settings.tasks, dry, doCheckIntegrity, doHeaderCache, doCheckEmptyEnvelope, checkAll_dry,
      doSetDeleted, doDanglingAliases, doCheckTimed, doMigrate]
  rw [guarded, doMoveOld_eq_nil, doEraseOld, map_eq_nil_iff]
  exact ⟨fun ⟨erase, move⟩ => ⟨erase, move⟩, fun ⟨erase, move⟩ => ⟨erase, move⟩⟩

theorem issue_eq_nil {tasks : List (Answers → List Statement)} {issued : List Statement} :
    issue respond issued tasks = [] ↔ issued = [] ∧ ∀ task ∈ tasks, task (respond []) = [] := by
  induction tasks generalizing issued with
  | nil => simp [issue]
  | cons task rest ih =>
    rw [issue, ih, append_eq_nil_iff, forall_mem_cons, and_assoc]
    refine and_congr_right fun none => ?_
    rw [none]

end Dry

theorem dryRunKeeps_iff (respond : List Statement → Answers) (wild : Bytes × Bytes)
    (options : List Opt) :
    DryRunKeeps respond wild options ↔ (.yes ∉ options → ∀ settings,
      dispatched { mbtrashName := wild.1, mbinboxName := wild.2 } options = some settings →
        NothingOld (respond []) settings) := by
  refine forall_congr' fun dry => ?_
  unfold main
  cases found : dispatched { mbtrashName := wild.1, mbinboxName := wild.2 } options with
  | none => simp
  | some settings =>
    have unasked : settings.yesToAll = false :=
      options_yesToAll dry (Option.filter_eq_some_iff.mp found).1
    simp only [issue_eq_nil, true_and, tasks_dry (respond []) unasked, Option.some.injEq,
      forall_eq']

def oldTrash : Answers where
  messages := [⟨7, 1, 2, lit "Trash", .seen, 0⟩]
  expire := fun days => 100 - days
  findMailbox := fun _ _ => some 2
  icheck := fun _ => some []
  retrieve := fun _ => true
  headerCacheReadonly := true
  danglingAliases := []
  setDeleted := true
  findTime := fun _ => true
  messageblks := fun _ => []
  messageStore := fun _ => true

theorem dryRun_purges :
    ¬ DryRunKeeps (fun _ => oldTrash) ([], []) [.erase 30, .trash (lit "Trash")] := by
  intro keeps
  have purges : main (fun _ => oldTrash) { mbtrashName := [], mbinboxName := [] }
      [.erase 30, .trash (lit "Trash")] = [.setMessageStatus 7 .purge] := by decide +kernel
  rw [keeps (by decide +kernel)] at purges
  cases purges

end Dbmail.Util
