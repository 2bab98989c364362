import Dbmail.Imap.Dispatch
import Dbmail.Lib.Run

/-!
Contract: which code a pushed handler runs.

Owns the list of the bodies that `enter` can run for each command, with what
is known of the arguments in each, and what the checks of a right return.

Does not own: any property of the bodies.
-/

namespace Dbmail.Imap

open Dbmail.Lib Dbmail.Auth

/-! ## Steps and checks -/

theorem note_bind_run {α : Type} (deed : Deed) (next : Unit → Worker α) (effects : Effects) :
    (note deed >>= next).run effects =
      (next ()).run { effects with deeds := effects.deeds ++ [deed] } := rfl

theorem sessionMbxinfoLookup_bind_run {α : Type} (world : World) (mailbox : Nat)
    (next : Unit → Worker α) (effects : Effects) :
    (sessionMbxinfoLookup world mailbox >>= next).run effects =
      (next ()).run (effects.lookedUp world mailbox) := rfl

variable (world : World) (session : Session)

/-- A check of a right fails, denies the command or passes. -/
abbrev Checks (mailbox : Nat) (right : AclRight) (check : Worker Int)
    (looked : Effects → Effects) (moved : List Move → List Move) : Prop :=
  ∀ effects, check.run effects = if world.aclHasRight mailbox session.userid right < 0 then
      (-1, { looked effects with
        replies := (looked effects).replies ++ [.untagged (lit "BYE internal database error")] })
    else if world.aclHasRight mailbox session.userid right = 0 then
      (1, { looked effects with
        replies := (looked effects).replies ++ [.no (lit "permission denied")]
        moves := moved (looked effects).moves })
    else (0, looked effects)

section Checks

variable {world session} {mailbox : Nat} {right : AclRight}

theorem mailboxCheckAcl_run :
    Checks world session mailbox right (mailboxCheckAcl world session mailbox right)
      (fun effects => effects) fun moves => moves := by
  intro effects
  unfold mailboxCheckAcl
  simp only
  split
  · rfl
  split <;> rfl

theorem imapSessionMailboxCheckAcl_run :
    Checks world session mailbox right (imapSessionMailboxCheckAcl world session mailbox right)
      (Effects.lookedUp world mailbox) (· ++ [.authenticated]) := by
  intro effects
  unfold imapSessionMailboxCheckAcl
  rw [sessionMbxinfoLookup_bind_run, StateT.run_bind, mailboxCheckAcl_run]
  split
  · rfl
  split <;> rfl

end Checks

/-! ## Arguments -/

/-- The mailbox name of STATUS, or the answer to a command without a list. -/
def statusRequest : Except Fault (Except Bytes Bytes) := do
  let opening ← session.arg 1
  if opening.head? ≠ some 40 then return .error (lit "argument list should be parenthesed")
  else
    let scanned := statusList 2 (session.args.drop 2)
    if scanned = .nested then return .error (lit "too many parentheses specified")
    else if scanned = .closed 2 then return .error (lit "argument list empty")
    else
      match ← session.slot (scanned.endfound + 1) with
      | some _ => return .error (lit "argument list too long")
      | none => return .ok (← session.arg 0)

/-- The position before the date or message of APPEND, and the flag words. -/
def appendWords (opening : Bytes) : Except Fault (Nat × List Bytes) :=
  if opening.head? = some 40 then appendFlags session maxArgs 2 [] else .ok (0, [])

/-- The flag words, the date and the message of APPEND, if there is a message. -/
def appendRequest : Except Fault (Option (List Bytes × Option Bytes × Bytes)) := do
  let opening ← session.arg 1
  let flags ← appendWords session opening
  match ← session.slot (flags.1 + 1) with
  | none => return none
  | some first =>
    match ← session.slot (flags.1 + 2) with
    | none => return some (flags.2, none, first)
    | some message => return some (flags.2, some first, message)

def expungeSet : Except Fault (Option Bytes) :=
  if session.useUid then some <$> session.arg session.argsIdx else .ok none

/-- The set and the flag words of STORE, or the answer to a command without them. -/
def storeRequest : Except Fault (Except Bytes (Bytes × List Bytes)) := do
  let scanned ← storeScan session maxArgs (session.argsIdx + 1) {}
  if scanned.2.action.isNone then return .error (lit "invalid STORE action specified")
  else if scanned.2.needflags ∧ scanned.2.startflags = 0 then
    return .error (lit "invalid argument(s) to STORE")
  else
    let endflags := if scanned.2.endflags = 0 then scanned.1 - 1 else scanned.2.endflags
    let words ← storeWords session (endflags + 1 - scanned.2.startflags) scanned.2.startflags
    let set ← session.arg session.argsIdx
    return .ok (set, words)

/-! ## RENAME in parts -/

section Rename

variable (world : World) (session : Session)

/-- The mailbox that RENAME renames and the parent of its new name, or why it
does not get as far as checking the rights to them. -/
def renameRequest (oldname newname : Bytes) : Except Bytes (Nat × Option Nat) :=
  match world.findMailbox oldname session.userid with
  | none => .error (lit "mailbox does not exist")
  | some mailbox =>
    if !checkmailboxname newname then .error (lit "new mailbox name contains invalid characters")
    else if (world.findMailbox newname session.userid).isSome then
      .error (lit "new mailbox already exists")
    else if invadesStructure oldname newname then
      .error (lit "new mailbox would invade mailbox structure")
    else
      match (parentName newname).map fun name => world.findMailbox name session.userid with
      | some none => .error (lit "new mailbox would invade mailbox structure")
      | some (some parent) => .ok (mailbox, some parent)
      | none => .ok (mailbox, none)

def renameMove (mailbox : Nat) (oldname newname : Bytes) : Worker Int := do
  if smatch oldname "INBOX" then
    let (created, target) := world.createMailbox newname session.userid
    if created ≠ -1 then
      note (.wrote (target.getD 0) .filled)
      note (.wrote mailbox .emptied)
    if created = -1 ∨ world.moveMessages (target.getD 0) mailbox = -1 then
      answer byeDatabase (-1)
    else finish session
  else match world.listChildren mailbox session.userid with
    | none => answer byeDatabase (-1)
    | some children => renameTree world session mailbox newname children

def renameBelow (mailbox : Nat) (oldname newname : Bytes) : Option Nat → Worker Int
  | none => renameMove world session mailbox oldname newname
  | some parent => do
    let access ← imapSessionMailboxCheckAcl world session parent .create
    if access ≠ 0 then return access
    note (.passed parent .create)
    renameMove world session mailbox oldname newname

def renameChecked (mailbox : Nat) (oldname newname : Bytes) (parent : Option Nat) : Worker Int := do
  let access ← imapSessionMailboxCheckAcl world session mailbox .delete
  if access ≠ 0 then return access
  note (.passed mailbox .delete)
  renameBelow world session mailbox oldname newname parent

theorem renameEnter_eq (oldname newname : Bytes) :
    renameEnter world session oldname newname =
      match renameRequest world session oldname newname with
      | .error text => answer (.no text) 1
      | .ok (mailbox, parent) => renameChecked world session mailbox oldname newname parent := by
  unfold renameEnter renameRequest
  cases world.findMailbox oldname session.userid with
  | none => rfl
  | some mailbox =>
    dsimp only
    by_cases invalid : (!checkmailboxname newname) = true
    · rw [if_pos invalid, if_pos invalid]
    rw [if_neg invalid, if_neg invalid]
    by_cases taken : (world.findMailbox newname session.userid).isSome = true
    · rw [if_pos taken, if_pos taken]
    rw [if_neg taken, if_neg taken]
    by_cases invades : invadesStructure oldname newname = true
    · rw [if_pos invades, if_pos invades]
    rw [if_neg invades, if_neg invades]
    cases (parentName newname).map fun name => world.findMailbox name session.userid with
    | none => rfl
    | some parent => cases parent <;> rfl

end Rename

/-! ## SELECT in parts -/

section Select

variable (world : World) (session : Session)

theorem imapSessionMailboxClose_run (effects : Effects) :
    (imapSessionMailboxClose session).run effects =
      ((), { effects with
        moves := effects.moves ++ [.authenticated]
        mailbox := none
        replies := effects.replies ++
          if effects.mailbox.isSome ∧ effects.qresync ∧
              (session.commandType = some .select ∨ session.commandType = some .examine) then
            [.untagged (lit "OK [CLOSED]")] else [] }) := by
  cases opened : effects.mailbox with
  | none =>
    simp [imapSessionMailboxClose, moveTo, opened]
    rfl
  | some mailbox =>
    by_cases closing : effects.qresync ∧
      (session.commandType = some .select ∨ session.commandType = some .examine)
    all_goals
      simp [imapSessionMailboxClose, moveTo, opened, closing]
      rfl

theorem imapSessionMailboxOpen_run (name : Bytes) (effects : Effects) :
    (imapSessionMailboxOpen world session name).run effects =
      match findOrCreateInbox world session name with
      | none =>
        (.error 1, { effects with
          replies := effects.replies ++ [.no (lit "specified mailbox does not exist")] })
      | some mailbox =>
        if world.aclHasRight mailbox session.userid .read = 0 then
          (.error 1, { effects.lookedUp world mailbox with
            replies := effects.replies ++ [.no (lit "permission denied")]
            moves := effects.moves ++ [.authenticated]
            mailbox := some mailbox
            loaded := world.loads mailbox })
        else
          (if world.noSelect mailbox then .error 1 else .ok mailbox,
            { effects.lookedUp world mailbox with
            replies := effects.replies ++
              if world.aclHasRight mailbox session.userid .read < 0 then
                [.untagged (lit "BYE internal database error")] else []
            mailbox := some mailbox
            loaded := world.loads mailbox
            deeds := effects.deeds ++ [.passed mailbox .read] }) := by
  unfold imapSessionMailboxOpen
  cases findOrCreateInbox world session name with
  | none => rfl
  | some mailbox =>
    simp only [StateT.run_bind, mailboxCheckAcl_run]
    rcases lt_trichotomy (world.aclHasRight mailbox session.userid .read) 0 with
      failed | denied | granted
    · simp only [failed, failed.ne]
      cases world.noSelect mailbox <;> rfl
    · simp [denied, moveTo]
      rfl
    · simp only [granted.ne', not_lt.mpr granted.le, if_false, List.append_nil]
      cases world.noSelect mailbox <;> rfl

def selectAnswer (mailbox : Nat) : Worker Int := do
  moveTo .selected
  sayAll (world.selectLines mailbox)
  if session.commandType = some .select then note (.wrote mailbox .recentCleared)
  if (← get).resync.uidvalidity = mailbox then sayAll (world.resyncLines mailbox)
  let okarg := if session.commandType = some .select then lit "READ-WRITE" else lit "READ-ONLY"
  let effects ← get
  answer (.ok (lit "[" ++ okarg ++ lit "] " ++ session.command ++ lit " completed" ++
    (if effects.condstore then lit ", CONDSTORE is now enabled" else []))) 0

/-- Without kept parameters nothing freed is read. -/
theorem selectReadsFreed_eq_false (unkept : session.resync.keepsSets = false)
    (unlisted : session.resync.knownUids = none) (name : Bytes) :
    selectReadsFreed world session name = false := by
  simp [selectReadsFreed, unkept, unlisted]

/-- What follows the parameters. -/
def selectOpen (name : Bytes) : Worker Int := do
  imapSessionMailboxClose session
  match ← imapSessionMailboxOpen world session name with
  | .error status => return status
  | .ok mailbox => selectAnswer world session mailbox

theorem selectEnter_run (name : Bytes) (effects : Effects) :
    (selectEnter world session name).run effects =
      match selectParseArgs session with
      | none => (answer (.bad (lit "invalid parameter")) 1).run effects
      | some (condstore, given) =>
        let closed := ((imapSessionMailboxClose session).run { effects with
          condstore := condstore || effects.condstore, resync := given.getD effects.resync }).2
        match (imapSessionMailboxOpen world session name).run closed with
        | (.error status, opened) => (status, opened)
        | (.ok mailbox, opened) => (selectAnswer world session mailbox).run opened := by
  unfold selectEnter
  cases selectParseArgs session with
  | none => rfl
  | some parsed =>
    have rest (start : Effects) : (selectOpen world session name).run start =
        match (imapSessionMailboxOpen world session name).run
            ((imapSessionMailboxClose session).run start).2 with
        | (.error status, opened) => (status, opened)
        | (.ok mailbox, opened) => (selectAnswer world session mailbox).run opened := by
      rw [selectOpen, StateT.run_bind]
      change ((imapSessionMailboxOpen world session name >>= fun _ => _).run _) = _
      rw [StateT.run_bind]
      generalize (imapSessionMailboxOpen world session name).run
        ((imapSessionMailboxClose session).run start).2 = opened
      obtain ⟨outcome, effects⟩ := opened
      cases outcome <;> rfl
    exact rest _

end Select

/-! ## Bodies -/

def pushesWorker : Command → Bool
  | .logout | .authenticate | .login | .examine | .unsubscribe | .lsub | .uid | .idle | .starttls =>
    false
  | _ => true

def appendGranted (mailbox : Nat) (words : List Bytes)
    (date : Option Bytes) (message : Bytes) : Worker Int := do
  sessionMbxinfoLookup world mailbox
  note (.passed mailbox .insert)
  let access ← checkRights world session mailbox none (flagRights words true)
  if access ≠ 0 then return access
  appendMessage world session mailbox date message

section Bodies

variable (world : World) (session : Session)

/-- The code that `enter` runs for a command. -/
inductive Entered : Command → Worker Int → Prop where
  | capability : Entered .capability (capabilityEnter session)
  | noop : Entered .noop (noopEnter world session)
  | id : Entered .id (idEnter world session)
  | select {name : Bytes} (given : session.arg session.argsIdx = .ok name) :
      Entered .select (selectEnter world session name)
  | enable : Entered .enable (enableEnter session)
  | create {name : Bytes} (given : session.arg session.argsIdx = .ok name) :
      Entered .create (createEnter world session name)
  | delete {name : Bytes} (given : session.arg 0 = .ok name) :
      Entered .delete (deleteEnter world session name)
  | rename {oldname newname : Bytes} (old : session.arg 0 = .ok oldname)
      (new : session.arg 1 = .ok newname) :
      Entered .rename (renameEnter world session oldname newname)
  | subscribe {name : Bytes} (given : session.arg 0 = .ok name) :
      Entered .subscribe (subscribeEnter world session name)
  | list {refname pattern : Bytes} (reference : session.arg 0 = .ok refname)
      (given : session.arg 1 = .ok pattern) :
      Entered .list (listEnter world session refname pattern)
  | statusRefused {text : Bytes} (request : statusRequest session = .ok (.error text)) :
      Entered .status (answer (.bad text) 1)
  | status {name : Bytes} (request : statusRequest session = .ok (.ok name)) :
      Entered .status (statusAnswer world session name (session.args.drop 2))
  | appendUnknown {name : Bytes} (given : session.arg 0 = .ok name)
      (unknown : findOrCreateInbox world session name = none) :
      Entered .append (answer (.no (lit "[TRYCREATE]")) 1)
  | appendDenied {name : Bytes} {mailbox : Nat} (given : session.arg 0 = .ok name)
      (found : findOrCreateInbox world session name = some mailbox)
      (denied : world.aclHasRight mailbox session.userid .insert ≤ 0) :
      Entered .append (imapSessionMailboxCheckAcl world session mailbox .insert)
  | appendIncomplete {name : Bytes} {mailbox : Nat} (given : session.arg 0 = .ok name)
      (found : findOrCreateInbox world session name = some mailbox)
      (granted : 0 < world.aclHasRight mailbox session.userid .insert)
      (request : appendRequest session = .ok none) :
      Entered .append (do
        sessionMbxinfoLookup world mailbox
        note (.passed mailbox .insert)
        answer (.bad (lit "invalid arguments specified to APPEND")) 1)
  | append {name : Bytes} {mailbox : Nat} {words : List Bytes} {date : Option Bytes}
      {message : Bytes} (given : session.arg 0 = .ok name)
      (found : findOrCreateInbox world session name = some mailbox)
      (granted : 0 < world.aclHasRight mailbox session.userid .insert)
      (request : appendRequest session = .ok (some (words, date, message))) :
      Entered .append (appendGranted world session mailbox words date message)
  | check : Entered .check (checkEnter world session)
  | close : Entered .close (closeEnter world session)
  | unselect : Entered .unselect (unselectEnter session)
  | expunge {set : Option Bytes} (given : expungeSet session = .ok set) :
      Entered .expunge (expungeEnter world session set)
  | search : Entered .search (sortedSearchEnter world session .unordered)
  | sort : Entered .sort (sortedSearchEnter world session .sorted)
  | thread : Entered .thread (sortedSearchEnter world session .orderedSubject)
  | fetch {set : Bytes} {parsed : Bool} (given : session.arg session.argsIdx = .ok set)
      (parse : world.fetchParse = .ok parsed) :
      Entered .fetch (fetchEnter world session parsed set)
  | storeRefused {text : Bytes} (request : storeRequest session = .ok (.error text)) :
      Entered .store (answer (.bad text) 1)
  | store {set : Bytes} {words : List Bytes}
      (request : storeRequest session = .ok (.ok (set, words))) :
      Entered .store (storeMessages world session set words)
  | copy {src dst : Bytes} (given : session.arg session.argsIdx = .ok src)
      (target : session.arg (session.argsIdx + 1) = .ok dst) :
      Entered .copy (copyEnter world session src dst)
  | getquotaroot {name : Bytes} (given : session.arg session.argsIdx = .ok name) :
      Entered .getquotaroot (getquotarootEnter world session name)
  | getquota {name : Bytes} (given : session.arg session.argsIdx = .ok name) :
      Entered .getquota (getquotaEnter world session name)
  | setacl {mailbox username rights : Bytes} (given : session.arg session.argsIdx = .ok mailbox)
      (user : session.arg (session.argsIdx + 1) = .ok username)
      (text : session.arg (session.argsIdx + 2) = .ok rights) :
      Entered .setacl (setaclEnter world session mailbox username rights)
  | deleteacl {mailbox username : Bytes} (given : session.arg session.argsIdx = .ok mailbox)
      (user : session.arg (session.argsIdx + 1) = .ok username) :
      Entered .deleteacl (deleteaclEnter world session mailbox username)
  | getacl {mailbox : Bytes} (given : session.arg session.argsIdx = .ok mailbox) :
      Entered .getacl (getaclEnter world session mailbox)
  | listrights {mailbox username : Bytes} (given : session.arg session.argsIdx = .ok mailbox)
      (user : session.arg (session.argsIdx + 1) = .ok username) :
      Entered .listrights (listrightsEnter world session mailbox username)
  | myrights {mailbox : Bytes} (given : session.arg session.argsIdx = .ok mailbox) :
      Entered .myrights (myrightsEnter world session mailbox)
  | nameSpace : Entered .nameSpace (namespaceEnter session)
  | unpushed {job : Command} (other : pushesWorker job = false) :
      Entered job (pure 0)

end Bodies

section Cases

variable {world : World} {session : Session} {result : Int × Effects}

theorem statusEnter_entered (returned : statusEnter world session = .ok result) :
    ∃ body, Entered world session .status body ∧ Worker.perform session body = .ok result := by
  obtain ⟨opening, read, returned⟩ := bind_eq_ok_iff.mp returned
  have refused {text : Bytes} (request : statusRequest session = .ok (.error text))
      (performed : Worker.perform session (answer (.bad text) 1) = .ok result) :
      ∃ body, Entered world session .status body ∧ Worker.perform session body = .ok result :=
    ⟨_, .statusRefused request, performed⟩
  simp only at returned
  split at returned
  · refine refused ?_ returned
    simp [statusRequest, bind, Except.bind, pure, Except.pure, *]
  split at returned
  · refine refused ?_ returned
    simp [statusRequest, bind, Except.bind, pure, Except.pure, *]
  split at returned
  · refine refused ?_ returned
    simp [statusRequest, bind, Except.bind, pure, Except.pure, *]
  obtain ⟨behind, slot, returned⟩ := bind_eq_ok_iff.mp returned
  cases behind with
  | some _ =>
    refine refused ?_ returned
    simp [statusRequest, bind, Except.bind, pure, Except.pure, *]
  | none =>
    obtain ⟨name, given, returned⟩ := bind_eq_ok_iff.mp returned
    refine ⟨_, .status ?_, returned⟩
    simp [statusRequest, bind, Except.bind, pure, Except.pure, *]

/-- APPEND checks its right, and then reads its arguments. -/
theorem appendEnter_eq (world : World) (session : Session) :
    appendEnter world session = (do
      let name ← session.arg 0
      match findOrCreateInbox world session name with
      | none => Worker.perform session (answer (.no (lit "[TRYCREATE]")) 1)
      | some mailbox =>
        if world.aclHasRight mailbox session.userid .insert ≤ 0 then
          Worker.perform session (imapSessionMailboxCheckAcl world session mailbox .insert)
        else
          match ← appendRequest session with
          | none =>
            Worker.perform session do
              sessionMbxinfoLookup world mailbox
              note (.passed mailbox .insert)
              answer (.bad (lit "invalid arguments specified to APPEND")) 1
          | some (words, date, message) =>
            Worker.perform session (appendGranted world session mailbox words date message)) := by
  unfold appendEnter
  cases session.arg 0 with
  | error fault => rfl
  | ok name =>
    dsimp [bind, Except.bind]
    cases findOrCreateInbox world session name with
    | none => rfl
    | some mailbox =>
      dsimp [Worker.perform]
      rw [imapSessionMailboxCheckAcl_run]
      rcases lt_trichotomy (world.aclHasRight mailbox session.userid .insert) 0 with
        failed | denied | granted
      · rw [if_pos failed, if_pos failed.le]
        rfl
      · rw [if_neg denied.not_lt, if_pos denied, if_pos denied.le]
        rfl
      · rw [if_neg (not_lt.mpr granted.le), if_neg granted.ne', if_neg (not_le.mpr granted), appendRequest]
        cases session.arg 1 with
        | error fault => rfl
        | ok opening =>
          have words : (if opening.head? = some 40 then do
                let flags ← appendFlags session maxArgs 2 []
                appendTail world session mailbox (flags.1 + 1) flags.2
              else appendTail world session mailbox 1 []) =
              appendWords session opening >>= fun flags =>
                appendTail world session mailbox (flags.1 + 1) flags.2 := by
            unfold appendWords
            split <;> rfl
          refine words.trans ?_
          dsimp [bind, Except.bind]
          cases appendWords session opening with
          | error fault => rfl
          | ok flags =>
            dsimp [appendTail, bind, Except.bind]
            cases session.slot (flags.1 + 1) with
            | error fault => rfl
            | ok first =>
              cases first with
              | none => rfl
              | some first =>
                cases session.slot (flags.1 + 2) with
                | error fault => rfl
                | ok second => cases second <;> rfl

theorem appendEnter_entered (returned : appendEnter world session = .ok result) :
    ∃ body, Entered world session .append body ∧ Worker.perform session body = .ok result := by
  rw [appendEnter_eq] at returned
  obtain ⟨name, given, returned⟩ := bind_eq_ok_iff.mp returned
  cases found : findOrCreateInbox world session name with
  | none =>
    rw [found] at returned
    exact ⟨_, .appendUnknown given found, returned⟩
  | some mailbox =>
    rw [found] at returned
    dsimp only at returned
    by_cases denied : world.aclHasRight mailbox session.userid .insert ≤ 0
    · rw [if_pos denied] at returned
      exact ⟨_, .appendDenied given found denied, returned⟩
    · rw [if_neg denied] at returned
      obtain ⟨request, read, returned⟩ := bind_eq_ok_iff.mp returned
      cases request with
      | none => exact ⟨_, .appendIncomplete given found (not_le.mp denied) read, returned⟩
      | some words => exact ⟨_, .append given found (not_le.mp denied) read, returned⟩

theorem storeEnter_entered (returned : storeEnter world session = .ok result) :
    ∃ body, Entered world session .store body ∧ Worker.perform session body = .ok result := by
  obtain ⟨scanned, scan, returned⟩ := bind_eq_ok_iff.mp returned
  by_cases action : scanned.2.action.isNone
  · rw [if_pos action] at returned
    refine ⟨_, .storeRefused ?_, returned⟩
    simp only [storeRequest, scan, bind, Except.bind, action]
    rfl
  rw [if_neg action] at returned
  by_cases flagless : scanned.2.needflags ∧ scanned.2.startflags = 0
  · rw [if_pos flagless] at returned
    refine ⟨_, .storeRefused ?_, returned⟩
    rw [storeRequest, scan]
    change ite _ _ _ = _
    rw [if_neg action, if_pos flagless]
    rfl
  rw [if_neg flagless] at returned
  obtain ⟨words, read, returned⟩ := bind_eq_ok_iff.mp returned
  obtain ⟨set, given, returned⟩ := bind_eq_ok_iff.mp returned
  refine ⟨_, .store ?_, returned⟩
  simp only [storeRequest, scan, bind, Except.bind, action, flagless]
  rw [read]
  simp only [given]
  rfl

/-- What `enter` runs is one of the listed bodies. -/
theorem enter_entered {job : Command} (returned : enter world session job = .ok result) :
    ∃ body, Entered world session job body ∧ Worker.perform session body = .ok result := by
  cases job with
  | status => exact statusEnter_entered returned
  | append => exact appendEnter_entered returned
  | store => exact storeEnter_entered returned
  | capability | noop | id | enable | check | close | unselect | search | sort | thread |
    nameSpace =>
    refine ⟨_, ?_, returned⟩
    constructor
  -- the others read one, two or three arguments first
  | select =>
    obtain ⟨name, given, returned⟩ := bind_eq_ok_iff.mp returned
    simp only at returned
    split at returned
    · cases returned
    · exact ⟨_, .select given, returned⟩
  | fetch =>
    obtain ⟨set, given, returned⟩ := bind_eq_ok_iff.mp returned
    obtain ⟨parsed, parse, returned⟩ := bind_eq_ok_iff.mp returned
    simp only at returned
    split at returned
    · cases returned
    · exact ⟨_, .fetch given parse, returned⟩
  | create | delete | subscribe | getquotaroot | getquota | getacl | myrights =>
    obtain ⟨name, given, returned⟩ := bind_eq_ok_iff.mp returned
    refine ⟨_, ?_, returned⟩
    constructor
    exact given
  | rename | list | copy | deleteacl | listrights =>
    obtain ⟨first, given, returned⟩ := bind_eq_ok_iff.mp returned
    obtain ⟨second, alsoGiven, returned⟩ := bind_eq_ok_iff.mp returned
    refine ⟨_, ?_, returned⟩
    constructor
    · exact given
    · exact alsoGiven
  | setacl =>
    obtain ⟨mailbox, given, returned⟩ := bind_eq_ok_iff.mp returned
    obtain ⟨username, user, returned⟩ := bind_eq_ok_iff.mp returned
    obtain ⟨rights, text, returned⟩ := bind_eq_ok_iff.mp returned
    exact ⟨_, .setacl given user text, returned⟩
  | expunge =>
    change (if session.useUid then (some <$> session.arg session.argsIdx) >>= fun set =>
        Worker.perform session (expungeEnter world session set)
      else pure none >>= fun set => Worker.perform session (expungeEnter world session set)) =
        .ok result at returned
    split at returned
    · rename_i isUid
      obtain ⟨set, given, returned⟩ := bind_eq_ok_iff.mp returned
      exact ⟨_, .expunge ((if_pos isUid).trans given), returned⟩
    · rename_i notUid
      exact ⟨_, .expunge (if_neg notUid), returned⟩
  | logout | authenticate | login | examine | unsubscribe | lsub | uid | idle | starttls =>
    exact ⟨_, .unpushed rfl, returned⟩

end Cases

end Dbmail.Imap
