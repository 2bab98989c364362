import Dbmail.Imap.Rights

/-!
Contract: what a command of a user does with a mailbox of somebody else that
grants the user nothing.

Owns the names a command uses for mailboxes, the comparison of two databases
that differ in one mailbox, and which commands neither change the mailbox nor
show anything of it.

Does not own: the ACL itself.
-/

namespace Dbmail.Imap

open Dbmail.Lib Dbmail.Auth List

/-! ## Code behind a refused check -/

def Deed.write? : Deed → Option (Nat × Change)
  | .passed _ _ => none
  | .wrote mailbox change => some (mailbox, change)

def Effects.writes (effects : Effects) : List (Nat × Change) :=
  effects.deeds.filterMap Deed.write?

/-- The changes that are asked for, and the mailboxes that a load changes. -/
def Effects.touches (effects : Effects) : List (Nat × Change) × List Nat :=
  (effects.writes, effects.synced)

abbrev Harmless {α : Type} (body : Worker α) : Prop := Keeps Effects.touches body

theorem answer_harmless {reply : Reply} {status : Int} : Harmless (answer reply status) :=
  fun _ => rfl

theorem passed_harmless {mailbox : Nat} {right : AclRight} :
    Harmless (note (.passed mailbox right)) := by
  intro effects
  have same : (effects.deeds ++ [Deed.passed mailbox right]).filterMap Deed.write? =
      effects.writes := by
    rw [filterMap_append]
    exact append_nil _
  exact congrArg (Prod.mk · effects.synced) same

theorem finish_harmless (session : Session) : Harmless (finish session) :=
  .bind (.ite (.pure _) fun _ => rfl) fun _ => .pure _

/-- The end of a command whose check is refused and that leaves the mailbox. -/
def refusal : Worker Int := do
  say (.no (lit "permission denied"))
  moveTo .authenticated
  return 1

theorem refusal_harmless : Harmless refusal := fun _ => rfl

structure Unmoved (first second : Worker Int) : Prop where
  same : second = first
  harmless : Harmless first

section Checks

variable {world : World} {session : Session} {mailbox : Nat} {right : AclRight}

theorem mailboxCheckAcl_harmless (asked : Nat) :
    Harmless (mailboxCheckAcl world session asked right) :=
  .ite answer_harmless (.ite answer_harmless (.pure _))

variable (quiet : ∀ asked, world.syncs asked = false)

include quiet in
/-- Without `mailbox_sync_deleted` 2 the lookup of a state changes nothing. -/
theorem sessionMbxinfoLookup_quiet (asked : Nat) : sessionMbxinfoLookup world asked = pure () := by
  funext effects
  show ((), effects.lookedUp world asked) = ((), effects)
  simp [Effects.lookedUp, quiet]

include quiet in
theorem imapSessionMailboxCheckAcl_harmless (asked : Nat) :
    Harmless (imapSessionMailboxCheckAcl world session asked right) := by
  unfold imapSessionMailboxCheckAcl
  rw [sessionMbxinfoLookup_quiet quiet, pure_bind]
  exact .bind (mailboxCheckAcl_harmless asked) fun _ =>
    .ite (.bind (fun _ => rfl) fun _ => .pure _) (.pure _)

variable (denied : world.aclHasRight mailbox session.userid right = 0)

include denied in
theorem mailboxCheckAcl_refused :
    mailboxCheckAcl world session mailbox right = answer (.no (lit "permission denied")) 1 := by
  unfold mailboxCheckAcl
  simp [denied]

include quiet denied in
theorem imapSessionMailboxCheckAcl_refused :
    imapSessionMailboxCheckAcl world session mailbox right = refusal := by
  unfold imapSessionMailboxCheckAcl
  rw [sessionMbxinfoLookup_quiet quiet, pure_bind, mailboxCheckAcl_refused denied]
  rfl

include denied in
theorem checked_refused (rest : Worker Int) :
    (do
      let access ← mailboxCheckAcl world session mailbox right
      if access ≠ 0 then return access
      rest : Worker Int) = answer (.no (lit "permission denied")) 1 := by
  rw [mailboxCheckAcl_refused denied]
  rfl

include quiet denied in
theorem sessionChecked_refused (rest : Worker Int) :
    (do
      let access ← imapSessionMailboxCheckAcl world session mailbox right
      if access ≠ 0 then return access
      rest : Worker Int) = refusal := by
  rw [imapSessionMailboxCheckAcl_refused quiet denied]
  rfl

end Checks

theorem renameRequest_ok {world : World} {session : Session} {oldname newname : Bytes} {box : Nat}
    {parent : Option Nat}
    (request : renameRequest world session oldname newname = .ok (box, parent)) :
    world.findMailbox oldname session.userid = some box ∧
      world.findMailbox newname session.userid = none ∧
      ∀ name, parentName newname = some name → parent = world.findMailbox name session.userid := by
  unfold renameRequest at request
  cases old : world.findMailbox oldname session.userid with
  | none =>
    rw [old] at request
    cases request
  | some found =>
    simp only [old] at request
    split_ifs at request with _ taken
    have new : world.findMailbox newname session.userid = none := by simpa using taken
    cases above : parentName newname with
    | none =>
      rw [above] at request
      cases request
      exact ⟨rfl, new, fun _ isParent => absurd isParent (by simp)⟩
    | some name =>
      rw [above] at request
      simp only [Option.map_some] at request
      cases beside : world.findMailbox name session.userid with
      | none =>
        rw [beside] at request
        cases request
      | some above =>
        rw [beside] at request
        cases request
        refine ⟨rfl, new, fun other isParent => ?_⟩
        cases isParent
        exact beside.symm

/-! ## Two worlds that differ behind a mailbox -/

structure Alike (first second : World) (user mailbox : Nat) : Prop where
  find : second.findMailbox = first.findMailbox
  rights : ∀ asked right, second.aclHasRight asked user right = first.aclHasRight asked user right
  info : second.mailboxInfo mailbox = first.mailboxInfo mailbox
  administer : second.preAdminister = first.preAdminister
  administered : ∀ name username, first.findMailbox name user = some mailbox →
    (first.preAdminister name username user).2 = mailbox
  listing : second.listRights = first.listRights
  loads : second.loads = first.loads
  quiet : ∀ asked, first.syncs asked = false
  alsoQuiet : ∀ asked, second.syncs asked = false
  own : second.myRights user mailbox = first.myRights user mailbox

structure Shut (first second : World) (user mailbox : Nat) : Prop
    extends Alike first second user mailbox where
  denied : ∀ right, first.aclHasRight mailbox user right = 0

section Alike

variable {first second : World} {session : Session} {mailbox : Nat}
  (alike : Alike first second session.userid mailbox)

include alike

theorem Alike.check (asked : Nat) (right : AclRight) :
    mailboxCheckAcl second session asked right = mailboxCheckAcl first session asked right := by
  unfold mailboxCheckAcl
  rw [alike.rights]

theorem Alike.listrights (name username : Bytes) :
    Unmoved (listrightsEnter first session name username)
      (listrightsEnter second session name username) := by
  constructor
  · unfold listrightsEnter
    rw [alike.administer, alike.listing]
    simp [alike.check, sessionMbxinfoLookup_quiet alike.quiet, sessionMbxinfoLookup_quiet alike.alsoQuiet]
  · refine .ite answer_harmless (.ite answer_harmless ?_)
    rw [sessionMbxinfoLookup_quiet alike.quiet]
    refine .bind (.pure _) fun _ => .bind (mailboxCheckAcl_harmless _) fun _ => .ite (.pure _) ?_
    refine .bind passed_harmless fun _ => ?_
    split
    · exact answer_harmless
    · exact .bind (fun _ => rfl) fun _ => finish_harmless session

theorem Alike.myrights {name : Bytes}
    (found : first.findMailbox name session.userid = some mailbox) :
    Unmoved (myrightsEnter first session name) (myrightsEnter second session name) := by
  unfold myrightsEnter
  rw [alike.find, found]
  dsimp only
  rw [alike.own]
  refine ⟨rfl, ?_⟩
  split
  · exact answer_harmless
  · exact .bind (fun _ => rfl) fun _ => finish_harmless session

end Alike

section Shut

variable {first second : World} {session : Session} {mailbox : Nat}
  (shut : Shut first second session.userid mailbox)

include shut

theorem Shut.deniedSecond {right : AclRight} :
    second.aclHasRight mailbox session.userid right = 0 :=
  (shut.rights mailbox right).trans (shut.denied right)

theorem Shut.sessionCheck (asked : Nat) (right : AclRight) :
    imapSessionMailboxCheckAcl second session asked right =
      imapSessionMailboxCheckAcl first session asked right := by
  unfold imapSessionMailboxCheckAcl
  rw [shut.toAlike.check, sessionMbxinfoLookup_quiet shut.quiet, sessionMbxinfoLookup_quiet shut.alsoQuiet]

theorem Shut.foundSecond {name : Bytes}
    (found : first.findMailbox name session.userid = some mailbox) :
    second.findMailbox name session.userid = some mailbox := by
  rw [shut.find]
  exact found

/-- A worker that comes to the same harmless code in every world that is shut to the user. -/
theorem Shut.unmoved {worker : World → Worker Int} {refused : Worker Int}
    (code : ∀ world, Shut first world session.userid mailbox → worker world = refused)
    (harmless : Harmless refused) : Unmoved (worker first) (worker second) := by
  have own : Shut first first session.userid mailbox :=
    ⟨⟨rfl, fun _ _ => rfl, rfl, rfl, shut.administered, rfl, rfl, shut.quiet, shut.quiet, rfl⟩,
      shut.denied⟩
  rw [code first own, code second shut]
  exact ⟨rfl, harmless⟩

theorem Shut.copy {src dst : Bytes} (found : first.findMailbox dst session.userid = some mailbox) :
    Unmoved (copyEnter first session src dst) (copyEnter second session src dst) := by
  apply shut.unmoved
  · intro world shut
    unfold copyEnter
    simp only [shut.foundSecond found, sessionMbxinfoLookup_quiet shut.alsoQuiet, pure_bind]
    rw [checked_refused shut.deniedSecond, shut.toAlike.check]
  · refine .bind (mailboxCheckAcl_harmless _) fun _ => .ite (.pure _) ?_
    exact .bind passed_harmless fun _ => answer_harmless

section Found

variable {name username rights : Bytes} (found : first.findMailbox name session.userid = some mailbox)

include found

theorem Shut.delete :
    Unmoved (deleteEnter first session name) (deleteEnter second session name) := by
  apply shut.unmoved
  · intro world shut
    unfold deleteEnter
    simp only [shut.foundSecond found]
    rw [sessionChecked_refused shut.alsoQuiet shut.deniedSecond]
  · exact .ite answer_harmless refusal_harmless

theorem Shut.subscribe :
    Unmoved (subscribeEnter first session name) (subscribeEnter second session name) := by
  apply shut.unmoved
  case harmless => exact refusal_harmless
  case code =>
    intro world shut
    unfold subscribeEnter
    simp only [shut.foundSecond found]
    rw [imapSessionMailboxCheckAcl_refused shut.alsoQuiet shut.deniedSecond]
    rfl

theorem Shut.status (words : List Bytes) :
    Unmoved (statusAnswer first session name words) (statusAnswer second session name words) := by
  apply shut.unmoved
  · intro world shut
    unfold statusAnswer
    simp only [findOrCreateInbox, shut.foundSecond found, shut.info]
    rw [checked_refused shut.deniedSecond]
  · exact .ite answer_harmless answer_harmless

theorem Shut.setacl : Unmoved (setaclEnter first session name username rights)
      (setaclEnter second session name username rights) := by
  apply shut.unmoved
  · intro world shut
    unfold setaclEnter
    simp only [shut.administer, shut.administered name username found,
      sessionMbxinfoLookup_quiet shut.alsoQuiet, pure_bind]
    rw [checked_refused shut.deniedSecond]
  · exact .ite answer_harmless (.ite answer_harmless answer_harmless)

theorem Shut.deleteacl : Unmoved (deleteaclEnter first session name username)
      (deleteaclEnter second session name username) := by
  apply shut.unmoved
  · intro world shut
    unfold deleteaclEnter
    simp only [shut.administer, shut.administered name username found,
      sessionMbxinfoLookup_quiet shut.alsoQuiet, pure_bind]
    rw [checked_refused shut.deniedSecond]
  · exact .ite answer_harmless answer_harmless

theorem Shut.select_unread : selectReadsFreed first session name = false ∧
    selectReadsFreed second session name = false := by
  have foundSecond := shut.foundSecond found
  have denied := shut.denied .read
  have deniedSecond := @Shut.deniedSecond _ _ _ _ shut .read
  simp [selectReadsFreed, findOrCreateInbox, found, foundSecond, denied, deniedSecond]

theorem Shut.select :
    Unmoved (selectEnter first session name) (selectEnter second session name) := by
  have inbox {world : World} (found : world.findMailbox name session.userid = some mailbox) :
      findOrCreateInbox world session name = some mailbox := by
    simp [findOrCreateInbox, found]
  constructor
  · funext effects
    show (selectEnter second session name).run effects = (selectEnter first session name).run effects
    simp [selectEnter_run, imapSessionMailboxOpen_run, inbox found,
      inbox (shut.foundSecond found), shut.denied, shut.deniedSecond, Effects.lookedUp,
      shut.quiet, shut.alsoQuiet, shut.loads]
  · intro effects
    simp only [selectEnter_run, imapSessionMailboxOpen_run, inbox found, shut.denied,
      imapSessionMailboxClose_run, Effects.lookedUp, shut.quiet]
    cases selectParseArgs session with
    | none => rfl
    | some parsed => exact congrArg (Prod.mk effects.writes) (append_nil _)

end Found

theorem Shut.renameRequest (oldname newname : Bytes) :
    renameRequest second session oldname newname = renameRequest first session oldname newname := by
  unfold Dbmail.Imap.renameRequest
  rw [shut.find]

/-- RENAME looks at the mailbox it renames before the parent of the new name. -/
theorem Shut.rename {oldname newname : Bytes}
    (named : first.findMailbox oldname session.userid = some mailbox ∨
      first.findMailbox newname session.userid = some mailbox ∨
      ∃ name, parentName newname = some name ∧
        first.findMailbox name session.userid = some mailbox) :
    Unmoved (renameEnter first session oldname newname)
      (renameEnter second session oldname newname) := by
  rw [renameEnter_eq, renameEnter_eq, shut.renameRequest]
  cases request : Dbmail.Imap.renameRequest first session oldname newname with
  | error text => exact ⟨rfl, answer_harmless⟩
  | ok found =>
    obtain ⟨box, parent⟩ := found
    obtain ⟨old, new, above⟩ := renameRequest_ok request
    by_cases renamed : box = mailbox
    · subst renamed
      dsimp only
      unfold renameChecked
      rw [sessionChecked_refused shut.quiet (shut.denied _),
        sessionChecked_refused shut.alsoQuiet shut.deniedSecond]
      exact ⟨rfl, refusal_harmless⟩
    · have below : parent = some mailbox := by
        rcases named with isOld | isNew | ⟨name, isParent, isAbove⟩
        · exact absurd (Option.some.inj (old.symm.trans isOld)) renamed
        · exact absurd (new.symm.trans isNew) (by simp)
        · exact (above name isParent).trans isAbove
      subst below
      have code {world : World} (quiet : ∀ asked, world.syncs asked = false)
          (denied : world.aclHasRight mailbox session.userid .create = 0) :
          renameBelow world session box oldname newname (some mailbox) = refusal :=
        sessionChecked_refused quiet denied _
      dsimp only
      unfold renameChecked
      rw [code shut.quiet (shut.denied _), code shut.alsoQuiet shut.deniedSecond, shut.sessionCheck]
      refine ⟨rfl, .bind (imapSessionMailboxCheckAcl_harmless shut.quiet _) fun _ => .ite (.pure _) ?_⟩
      exact .bind passed_harmless fun _ => refusal_harmless

end Shut

/-! ## Names and databases -/

/-- The names of mailboxes among the arguments of a command; RENAME also goes by
the parent of the new name. -/
def mailboxNames (session : Session) : Command → Except Fault (List Bytes)
  | .select | .setacl | .deleteacl | .getacl | .listrights | .myrights => do
    return [← session.arg session.argsIdx]
  | .copy => do return [← session.arg (session.argsIdx + 1)]
  | .status | .append | .delete | .subscribe => do return [← session.arg 0]
  | .rename => do
    let oldname ← session.arg 0
    let newname ← session.arg 1
    return oldname :: newname :: (parentName newname).toList
  | _ => .ok []

/-- The mailbox belongs to another user, who is not the owner of the public
folders, and there is no ACL row for the user or for `anyone`. -/
structure Stranger (db : Database) (user mailbox : Nat) : Prop where
  isUser : (db.directory.users.byIdnr (db.directory.owner mailbox)).isSome = true
  other : db.directory.owner mailbox ≠ user
  notPublic : db.directory.owner mailbox ≠ db.directory.userExists publicFolderUser
  ownRow : db.row user mailbox = none
  anyoneRow : db.row db.anyone mailbox = none

/-- Two databases that differ only in the messages of a mailbox and in the ACL rows
of other users for it. -/
structure DifferOnlyIn (first second : Database) (user mailbox : Nat) : Prop where
  directory : second.directory = first.directory
  acl : ∀ other, other ≠ mailbox → second.acl other = first.acl other
  messages : ∀ other, other ≠ mailbox → second.messages other = first.messages other
  first : Stranger first user mailbox
  second : Stranger second user mailbox

def seen (result : Int × Effects) : Int × List Reply := (result.1, result.2.replies)

/-- A command that names a mailbox the user has no right to neither changes it nor
depends on what is in it. The mailbox belongs to the user `anyone` or does not,
and loads mark deleted messages or do not. -/
def KeptOut (job : Command) (ofAnyone syncDeleted : Bool) : Prop :=
  ∀ (base : Directory → (Nat → List StoredMessage) → World) (first second : Database)
    (user mailbox : Nat) (session : Session),
    DifferOnlyIn first second user mailbox →
    (first.directory.owner mailbox = first.anyone ↔ ofAnyone = true) → session.userid = user →
    (∃ names, mailboxNames session job = .ok names ∧
      ∃ name ∈ names, first.directory.resolve name user = some mailbox) →
    (enter (second.world syncDeleted base) session job).map seen =
        (enter (first.world syncDeleted base) session job).map seen ∧
      ∀ result, enter (first.world syncDeleted base) session job = .ok result →
        mailbox ∉ result.2.synced ∧ ∀ change, .wrote mailbox change ∉ result.2.deeds

section Databases

variable {first second : Database} {user mailbox : Nat}

theorem Stranger.denied (stranger : Stranger first user mailbox)
    (notAnyone : first.directory.owner mailbox ≠ first.anyone) (right : AclRight) :
    first.hasRight mailbox user right = 0 := by
  have own := stranger.ownRow
  have shared := stranger.anyoneRow
  by_cases none : first.directory.owner mailbox = 0
  · simp [Database.hasRight, aclHasRight, hasPermission, Database.tables, CheckFaults.healthy, none]
  · simp [Database.hasRight, aclHasRight, hasPermission, AclTables.carries, Database.tables, own,
      shared, stranger.other, notAnyone, CheckFaults.healthy, none]

variable (differ : DifferOnlyIn first second user mailbox)

include differ

theorem DifferOnlyIn.anyone : second.anyone = first.anyone := by
  unfold Database.anyone
  rw [differ.directory]

theorem DifferOnlyIn.row {reader : Nat} (reads : reader = user ∨ reader = first.anyone)
    (asked : Nat) :
    second.row reader asked = first.row reader asked := by
  by_cases here : asked = mailbox
  · subst here
    rcases reads with rfl | rfl
    · rw [differ.first.ownRow, differ.second.ownRow]
    · rw [differ.first.anyoneRow, ← differ.anyone, differ.second.anyoneRow]
  · unfold Database.row
    rw [differ.acl asked here]

theorem DifferOnlyIn.hasRight (asked : Nat) (right : AclRight) :
    second.hasRight asked user right = first.hasRight asked user right := by
  have own := differ.row (.inl rfl) asked
  have shared := differ.row (.inr rfl) asked
  simp [Database.hasRight, aclHasRight, hasPermission, AclTables.carries, Database.tables,
    differ.directory, differ.anyone, own, shared]

theorem DifferOnlyIn.rightsString :
    second.rightsString user mailbox = first.rightsString user mailbox := by
  unfold Database.rightsString
  rw [differ.directory, differ.anyone, differ.row (.inl rfl), differ.row (.inr rfl)]

theorem DifferOnlyIn.alike (base : Directory → (Nat → List StoredMessage) → World) :
    Alike (first.world false base) (second.world false base) user mailbox where
  find := congrArg Directory.resolve differ.directory
  rights := differ.hasRight
  info := rfl
  administer := congrArg Directory.preAdminister differ.directory
  administered := by
    intro name username found
    show (first.directory.preAdminister name username user).2 = mailbox
    unfold Directory.preAdminister
    rw [show first.directory.resolve name user = some mailbox from found]
  listing := by
    funext username asked
    show some (second.directory.listRights username asked) = _
    rw [differ.directory]
    rfl
  loads := rfl
  quiet := fun _ => rfl
  alsoQuiet := fun _ => rfl
  own := differ.rightsString

theorem DifferOnlyIn.shut (notAnyone : first.directory.owner mailbox ≠ first.anyone)
    (base : Directory → (Nat → List StoredMessage) → World) :
    Shut (first.world false base) (second.world false base) user mailbox where
  __ := differ.alike base
  denied := differ.first.denied notAnyone

end Databases

/-! ## Whole commands -/

structure SameRun (first second : Except Fault (Int × Effects)) : Prop where
  same : second = first
  harmless : ∀ result, first = .ok result → result.2.touches = ([], [])

theorem Unmoved.still {first second : Worker Int} (unmoved : Unmoved first second)
    (session : Session) :
    SameRun (Worker.perform session first) (Worker.perform session second) := by
  refine ⟨congrArg (Worker.perform session) unmoved.same, fun result performed => ?_⟩
  rw [← Except.ok.inj performed]
  exact unmoved.harmless _

/-- Arguments are read before the databases play a part. -/
theorem SameRun.bind {α : Type} {slot : Except Fault α}
    {first second : α → Except Fault (Int × Effects)}
    (rest : ∀ value, SameRun (first value) (second value)) :
    SameRun (slot >>= first) (slot >>= second) := by
  cases slot with
  | error fault => exact ⟨rfl, nofun⟩
  | ok value => exact rest value

theorem SameRun.read {α : Type} {slot : Except Fault α} {value : α}
    {first second : α → Except Fault (Int × Effects)} (given : slot = .ok value)
    (rest : SameRun (first value) (second value)) : SameRun (slot >>= first) (slot >>= second) := by
  subst given
  exact rest

section Commands

variable {first second : World} {session : Session} {mailbox : Nat} {name : Bytes}

theorem statusRequest_name (request : statusRequest session = .ok (.ok name)) :
    session.arg 0 = .ok name := by
  obtain ⟨opening, -, request⟩ := bind_eq_ok_iff.mp request
  simp only at request
  split_ifs at request
  iterate 3 cases request
  obtain ⟨behind, -, request⟩ := bind_eq_ok_iff.mp request
  cases behind with
  | some word => cases request
  | none =>
    obtain ⟨given, read, request⟩ := bind_eq_ok_iff.mp request
    cases request
    exact read

theorem Shut.statusEnter (shut : Shut first second session.userid mailbox)
    (given : session.arg 0 = .ok name)
    (found : first.findMailbox name session.userid = some mailbox) :
    SameRun (statusEnter first session) (statusEnter second session) := by
  have unmoved := shut.status found (session.args.drop 2)
  constructor
  · unfold Dbmail.Imap.statusEnter
    simp [given, bind, Except.bind, unmoved.same]
  · intro result returned
    obtain ⟨body, entered, performed⟩ := statusEnter_entered returned
    cases entered with
    | statusRefused request =>
      exact ((⟨rfl, answer_harmless⟩ : Unmoved _ _).still session).harmless result performed
    | @status other request =>
      cases given.symm.trans (statusRequest_name request)
      exact (unmoved.still session).harmless result performed
    | unpushed other => cases other

theorem Shut.appendEnter (shut : Shut first second session.userid mailbox)
    (given : session.arg 0 = .ok name)
    (found : first.findMailbox name session.userid = some mailbox) :
    SameRun (appendEnter first session) (appendEnter second session) := by
  have code {world : World} (quiet : ∀ asked, world.syncs asked = false)
      (found : world.findMailbox name session.userid = some mailbox)
      (denied : world.aclHasRight mailbox session.userid .insert = 0) :
      Dbmail.Imap.appendEnter world session = Worker.perform session refusal := by
    unfold Dbmail.Imap.appendEnter
    simp only [given, bind, Except.bind]
    rw [show findOrCreateInbox world session name = some mailbox by simp [findOrCreateInbox, found]]
    dsimp only
    rw [imapSessionMailboxCheckAcl_refused quiet denied]
    rfl
  rw [code shut.quiet found (shut.denied _),
    code shut.alsoQuiet (shut.foundSecond found) shut.deniedSecond]
  exact (⟨rfl, refusal_harmless⟩ : Unmoved _ _).still session

section Named

variable {job : Command} {names : List Bytes} (named : mailboxNames session job = .ok names)
  (member : name ∈ names)

include named member

/-- LISTRIGHTS and MYRIGHTS show only what the directory and the user's own rows
say. -/
theorem Alike.enter (alike : Alike first second session.userid mailbox)
    (found : first.findMailbox name session.userid = some mailbox)
    (listing : job = .listrights ∨ job = .myrights) :
    SameRun (enter first session job) (enter second session job) := by
  rcases listing with rfl | rfl
  · refine .bind fun name => .bind fun username => ?_
    exact (alike.listrights name username).still session
  · obtain ⟨only, given, ⟨⟩⟩ := bind_eq_ok_iff.mp named
    cases mem_singleton.mp member
    exact .read given ((alike.myrights found).still session)

theorem Shut.enter (shut : Shut first second session.userid mailbox)
    (found : first.findMailbox name session.userid = some mailbox) (other : job ≠ .getacl) :
    SameRun (enter first session job) (enter second session job) := by
  cases job with
  | select =>
    obtain ⟨only, given, ⟨⟩⟩ := bind_eq_ok_iff.mp named
    cases mem_singleton.mp member
    obtain ⟨unread, alsoUnread⟩ := shut.select_unread found
    refine .read given ?_
    simp only [unread, alsoUnread]
    exact (shut.select found).still session
  | delete | subscribe | setacl | deleteacl | status | append | copy =>
    obtain ⟨only, given, ⟨⟩⟩ := bind_eq_ok_iff.mp named
    cases mem_singleton.mp member
    first
      | exact .read given ((shut.delete found).still session)
      | exact .read given ((shut.subscribe found).still session)
      | exact .read given (.bind fun _ => .bind fun _ => (shut.setacl found).still session)
      | exact .read given (.bind fun _ => (shut.deleteacl found).still session)
      | exact .bind fun _ => .read given ((shut.copy found).still session)
      | exact shut.statusEnter given found
      | exact shut.appendEnter given found
  | rename =>
    obtain ⟨oldname, old, named⟩ := bind_eq_ok_iff.mp named
    obtain ⟨newname, new, ⟨⟩⟩ := bind_eq_ok_iff.mp named
    refine .read old (.read new ((shut.rename ?_).still session))
    rcases mem_cons.mp member with rfl | member
    · exact .inl found
    rcases mem_cons.mp member with rfl | member
    · exact .inr (.inl found)
    · exact .inr (.inr ⟨name, Option.mem_toList.mp member, found⟩)
  | listrights => exact shut.toAlike.enter named member found (.inl rfl)
  | myrights => exact shut.toAlike.enter named member found (.inr rfl)
  | getacl => exact absurd rfl other
  | _ =>
    cases named
    cases member

end Named

end Commands

/-! ## Commands that get through -/

/-- Four users, one of them `anyone`. -/
def fourUsers : UserTable where
  rows := [⟨1, lit "anyone", [], [], [], 0⟩, ⟨2, lit "reader", [], [], [], 1⟩,
    ⟨3, lit "keeper", [], [], [], 1⟩, ⟨4, lit "guest", [], [], [], 1⟩]
  primaryKey := by decide
  keyRange := by decide

/-- A database in which mailbox 7 is `box` of the given owner and every other
mailbox belongs to user 2. -/
def boxOf (owner : Nat) (rows : List (Nat × AclRow)) (messages : List StoredMessage) : Database where
  directory := {
    users := fourUsers
    owner := fun mailbox => if mailbox = 7 then owner else 2
    owned := fun user name => if user = owner ∧ name = lit "box" then some 7 else none
    writable := fun _ => true }
  acl := fun mailbox => if mailbox = 7 then rows else []
  messages := fun mailbox => if mailbox = 7 then messages else []

/-- Every lookup of a state loads it, and STATUS counts messages. -/
def countingBase (_ : Directory) (messages : Nat → List StoredMessage) : World where
  __ := openWorld
  syncs := fun _ => true
  statusItem := fun mailbox _ => digits (messages mailbox).length

def readerSession (args : List Bytes) : Session where
  __ := probeSession 8 2 args
  commandType := some .select

/-- The owner of the mailbox and its name for others. -/
def boxOwner (ofAnyone : Bool) : Nat := if ofAnyone then 1 else 3

def boxName (ofAnyone : Bool) : Bytes :=
  if ofAnyone then lit "#Users/anyone/box" else lit "#Users/keeper/box"

theorem boxOf_stranger (ofAnyone : Bool) (messages : List StoredMessage) :
    Stranger (boxOf (boxOwner ofAnyone) [] messages) 2 7 := by
  have bare : Stranger (boxOf (boxOwner ofAnyone) [] []) 2 7 := by
    cases ofAnyone <;> exact ⟨by decide, by decide, by decide, rfl, rfl⟩
  exact ⟨bare.isUser, bare.other, bare.notPublic, bare.ownRow, bare.anyoneRow⟩

theorem boxOf_differ (ofAnyone : Bool) (rows : List (Nat × AclRow))
    (first second : List StoredMessage)
    (ownRow : rows.lookup 2 = none) (anyoneRow : rows.lookup 1 = none) :
    DifferOnlyIn (boxOf (boxOwner ofAnyone) [] first) (boxOf (boxOwner ofAnyone) rows second) 2 7
    where
  directory := rfl
  acl := fun other elsewhere => by simp [boxOf, elsewhere]
  messages := fun other elsewhere => by simp [boxOf, elsewhere]
  first := boxOf_stranger ofAnyone first
  second :=
    { boxOf_stranger ofAnyone second with
      ownRow := ownRow
      anyoneRow := anyoneRow }

/-- What holds of a command that is kept out, for the mailbox of the examples. -/
theorem KeptOut.box {job : Command} {ofAnyone syncDeleted : Bool}
    (kept : KeptOut job ofAnyone syncDeleted) (args : List Bytes) {names : List Bytes}
    (named : mailboxNames (readerSession args) job = .ok names) (member : boxName ofAnyone ∈ names)
    (rows : List (Nat × AclRow)) (first second : List StoredMessage)
    (ownRow : rows.lookup 2 = none) (anyoneRow : rows.lookup 1 = none) :
    let world := fun rows messages =>
      (boxOf (boxOwner ofAnyone) rows messages).world syncDeleted countingBase
    (enter (world rows second) (readerSession args) job).map seen =
        (enter (world [] first) (readerSession args) job).map seen ∧
      ∀ result, enter (world [] first) (readerSession args) job = .ok result →
        7 ∉ result.2.synced ∧ ∀ change, .wrote 7 change ∉ result.2.deeds := by
  have found : (boxOf (boxOwner ofAnyone) [] []).directory.resolve (boxName ofAnyone) 2 =
      some 7 := by
    cases ofAnyone <;> decide +kernel
  have isOwner : (boxOf (boxOwner ofAnyone) [] []).directory.owner 7 =
      (boxOf (boxOwner ofAnyone) [] []).anyone ↔ ofAnyone = true := by
    cases ofAnyone <;> decide
  exact kept countingBase _ _ 2 7 (readerSession args)
    (boxOf_differ ofAnyone rows first second ownRow anyoneRow) isOwner rfl
    ⟨names, named, _, member, found⟩

def guestRow : AclRow := ⟨fun right => right = .lookup, false⟩

/-- STATUS counts the messages of a mailbox of `anyone`. -/
theorem status_not_keptOut (syncDeleted : Bool) : ¬ KeptOut .status true syncDeleted := by
  intro kept
  have same := (kept.box [boxName true, lit "(", lit "messages", lit ")"] rfl
    (mem_singleton_self _) [] [] [⟨1, [], []⟩] rfl rfl).1
  revert same
  cases syncDeleted <;> decide +kernel

/-- GETACL shows the row of the guest. -/
theorem getacl_not_keptOut (ofAnyone syncDeleted : Bool) :
    ¬ KeptOut .getacl ofAnyone syncDeleted := by
  intro kept
  have same := (kept.box [boxName ofAnyone] rfl (mem_singleton_self _) [(4, guestRow)] [] []
    rfl rfl).1
  revert same
  cases ofAnyone <;> cases syncDeleted <;> decide +kernel

/-- The commands that act on a mailbox of `anyone` as its owner could. -/
def actsOnMailbox : Command → Bool
  | .select | .status | .append | .copy | .delete | .rename | .subscribe | .setacl | .deleteacl =>
    true
  | _ => false

/-- The commands that look up the state of the mailbox before they check a right. -/
def looksUpState : Command → Bool
  | .select | .append | .copy | .delete | .rename | .subscribe | .setacl | .deleteacl
  | .listrights => true
  | _ => false

/-- Arguments with which a command names a mailbox. -/
def boxArgs (name : Bytes) : Command → List Bytes
  | .append => [name, lit "text"]
  | .copy => [lit "1", name]
  | .rename => [name, lit "other"]
  | .setacl => [name, lit "guest", lit "r"]
  | .deleteacl | .listrights => [name, lit "guest"]
  | _ => [name]

/-- The worker changes the mailbox of the examples. -/
def touchesBox (job : Command) (ofAnyone syncDeleted : Bool) : Bool :=
  match enter ((boxOf (boxOwner ofAnyone) [] [⟨1, [.deleted], []⟩]).world syncDeleted countingBase)
      (readerSession (boxArgs (boxName ofAnyone) job)) job with
  | .ok result => result.2.synced.contains 7 || result.2.writes.any fun write => write.1 = 7
  | .error _ => false

theorem touching_not_keptOut {job : Command} {ofAnyone syncDeleted : Bool} {names : List Bytes}
    (named : mailboxNames (readerSession (boxArgs (boxName ofAnyone) job)) job = .ok names)
    (member : boxName ofAnyone ∈ names) (touches : touchesBox job ofAnyone syncDeleted = true) :
    ¬ KeptOut job ofAnyone syncDeleted := by
  intro kept
  have untouched := (kept.box _ named member [] [⟨1, [.deleted], []⟩] [] rfl rfl).2
  unfold touchesBox at touches
  split at touches
  · next result ran =>
    obtain ⟨unsynced, unwritten⟩ := untouched result ran
    rcases Bool.or_eq_true_iff.mp touches with synced | written
    · exact unsynced (contains_iff_mem.mp synced)
    · obtain ⟨⟨mailbox, change⟩, member, isBox⟩ := any_eq_true.mp written
      obtain ⟨deed, done, isWrite⟩ := mem_filterMap.mp member
      cases deed with
      | passed => cases isWrite
      | wrote mailbox change =>
        cases isWrite
        cases of_decide_eq_true isBox
        exact unwritten _ done
  · cases touches

theorem exposed_not_keptOut {job : Command} {ofAnyone syncDeleted : Bool}
    (exposed : (ofAnyone = true ∧ actsOnMailbox job = true) ∨
      (syncDeleted = true ∧ looksUpState job = true)) : ¬ KeptOut job ofAnyone syncDeleted := by
  cases job with
  | status =>
    obtain ⟨rfl, -⟩ := exposed.resolve_right fun looksUp => nomatch looksUp.2
    exact status_not_keptOut syncDeleted
  | select | append | copy | delete | rename | subscribe | setacl | deleteacl | listrights =>
    refine touching_not_keptOut rfl (by simp) ?_
    revert exposed
    cases ofAnyone <;> cases syncDeleted <;> decide +kernel
  | _ => rcases exposed with ⟨-, acts⟩ | ⟨-, looksUp⟩ <;> contradiction

/-- STATUS looks up no state, so that it makes no marks. -/
theorem statusEnter_unmarked (db : Database)
    (base : Directory → (Nat → List StoredMessage) → World) (session : Session)
    (syncDeleted : Bool) :
    statusEnter (db.world syncDeleted base) session = statusEnter (db.world false base) session := by
  have items (mailbox : Nat) (given words : List Bytes) :
      statusItems (db.world syncDeleted base) session mailbox given words =
        statusItems (db.world false base) session mailbox given words := by
    induction words generalizing given with
    | nil => rfl
    | cons word rest ih =>
      simp only [statusItems, ih]
      rfl
  unfold statusEnter statusAnswer
  simp only [items]
  rfl

end Dbmail.Imap
