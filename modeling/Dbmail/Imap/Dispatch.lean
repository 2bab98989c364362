import Dbmail.Imap.Workers

/-!
Contract: from a complete argument list to a running worker.

Owns `check_state_and_args`, the handlers `_ic_*` of `imapcommands.c`, the
dispatch of `imap4`, and the worker run of a pushed handler, authentication
included.

Does not own: the input loop around the dispatch.
-/

namespace Dbmail.Imap

open Dbmail.Lib Dbmail.Auth

/-! ## The check before a handler -/

def ClientState.code : ClientState → Nat
  | .initialConnect => 0
  | .nonAuthenticated => 1
  | .authenticated => 2
  | .selected => 3
  | .logout => 4
  | .quit => 5
  | .error => 6
  | .quitQueued => 7

/-- A session in `actual` state may run a command for `required` state. -/
def ClientState.admits (required actual : ClientState) : Bool :=
  actual = required || (required = .authenticated && actual = .selected)

/-- What `check_state_and_args` decides. -/
inductive Checked where
  | passed
  | refused (reply : Option Reply)
deriving DecidableEq

variable (env : AuthEnv) (session : Session)

/-- `check_state_and_args`; no `required` state is `CLIENTSTATE_ANY`, and 0 for
`maxargs` is no limit. The walk to the end of the list reads every slot up to
the terminating NULL. -/
def checkStateAndArgs (minargs maxargs : Nat)
    (required : Option ClientState) : Except Fault Checked :=
  if session.state = .error then .ok (.refused none)
  else match required.filter fun state => !state.admits session.state with
    | some state =>
      .ok (.refused (some (.bad (session.command ++ lit " command received in invalid state [" ++
        digits session.state.code ++ lit "] != [" ++ digits state.code ++ lit "]"))))
    | none =>
      if minargs ≠ 0 ∧ session.args.length < session.argsIdx + minargs then
        .ok (.refused (some (.bad (lit "missing argument" ++
          (if minargs = 1 then [] else lit "(s)") ++ lit " to " ++ session.command))))
      else if maxArgs ≤ session.args.length then .error .outOfBounds
      else if maxargs ≠ 0 ∧ maxargs < session.args.length - session.argsIdx then
        .ok (.refused (some (.bad (lit "too many arguments to " ++ session.command))))
      else .ok .passed

/-- `dm_thread_data_push`: nothing is pushed on a session that is quitting. -/
def Session.push (job : Command) : Session :=
  if session.state = .quitQueued then session
  else { session with job := some job, commandState := .inProgress }

def guarded (minargs maxargs : Nat) (required : Option ClientState)
    (body : Except Fault (Session × Int)) : Except Fault (Session × Int) := do
  match ← checkStateAndArgs session minargs maxargs required with
  | .refused reply => return (session.send reply.toList, 1)
  | .passed => body

/-- Most handlers: check, push the worker, return 0. -/
def guardedPush (minargs maxargs : Nat) (required : Option ClientState)
    (job : Command) : Except Fault (Session × Int) :=
  guarded session minargs maxargs required (.ok (session.push job, 0))

/-! ## Handlers -/

section Handlers

variable (session : Session)

def icCapability := guardedPush session 0 0 none .capability
def icNoop := guardedPush session 0 0 none .noop
def icId := guardedPush session 1 0 none .id
def icSelect := guardedPush session 1 0 (some .authenticated) .select
def icExamine := icSelect session
def icEnable := guardedPush session 1 0 (some .authenticated) .enable
def icCreate := guardedPush session 1 1 (some .authenticated) .create
def icDelete := guardedPush session 1 1 (some .authenticated) .delete
def icRename := guardedPush session 2 2 (some .authenticated) .rename
def icSubscribe := guardedPush session 1 1 (some .authenticated) .subscribe
def icUnsubscribe := icSubscribe session
def icList := guardedPush session 2 2 (some .authenticated) .list
def icLsub := icList session
def icStatus := guardedPush session 3 0 (some .authenticated) .status
def icAppend := guardedPush session 2 0 (some .authenticated) .append
def icCheck := guardedPush session 0 0 (some .selected) .check
def icClose := guardedPush session 0 0 (some .selected) .close
def icUnselect := guardedPush session 0 0 (some .selected) .unselect
def icFetch := guardedPush session 2 0 (some .selected) .fetch
def icStore := guardedPush session 2 0 (some .selected) .store
def icCopy := guardedPush session 2 2 (some .selected) .copy
def icGetquotaroot := guardedPush session 1 1 (some .authenticated) .getquotaroot
def icGetquota := guardedPush session 1 1 (some .authenticated) .getquota
def icSetacl := guardedPush session 3 3 (some .authenticated) .setacl
def icDeleteacl := guardedPush session 2 2 (some .authenticated) .deleteacl
def icGetacl := guardedPush session 1 1 (some .authenticated) .getacl
def icListrights := guardedPush session 2 2 (some .authenticated) .listrights
def icMyrights := guardedPush session 1 1 (some .authenticated) .myrights
def icNamespace := guardedPush session 0 0 (some .authenticated) .nameSpace

/-- `sorted_search`; the pushed handler stands for `self->order`. -/
def sortedSearch (order : Command) := guardedPush session 1 0 (some .selected) order

def icSearch := sortedSearch session .search
def icSort := sortedSearch session .sort

/-- `_ic_thread` reads its first argument before any check. -/
def icThread : Except Fault (Session × Int) := do
  let algorithm ← session.arg session.argsIdx
  if smatch algorithm "ORDEREDSUBJECT" then sortedSearch session .thread
  else if smatch algorithm "REFERENCES" then
    return (session.send [.bad (lit "THREAD=REFERENCES not supported")], 1)
  else return (session, 1)

def icExpunge (world : World) : Except Fault (Session × Int) :=
  let bounds := if session.useUid then 1 else 0
  guarded session bounds bounds (some .selected)
    (if world.permissionReadWrite then .ok (session.push .expunge, 0)
    else .ok (session.send [.no (lit "you do not have write permission on this folder")], 1))

/-- With the outcome of `ci_starttls`. -/
def icStarttls (conf : ServerConf) (accepted : Bool) : Except Fault (Session × Int) :=
  guarded session 0 0 none
    (if !conf.ssl then .ok (session.send [.no (lit "TLS not available")], 1)
    else if session.sslState then .ok (session.send [.no (lit "TLS already active")], 1)
    else
      let session := session.send [.ok (lit "Begin TLS now")]
      if accepted then .ok (sessionEncrypted conf { session with sslState := true }, 3)
      else .ok (session, 1))

def icLogout : Except Fault (Session × Int) :=
  guarded session 0 0 none (.ok (session.setState .logout, 2))

def Session.loginDisabled (session : Session) : Bool :=
  session.preauthCapa.matches (lit "LOGINDISABLED") && !session.sslState

/-- The end of `_ic_authenticate`. -/
def authenticatePush : Except Fault (Session × Int) :=
  if session.loginDisabled then .ok (session.send [.no (lit "try STARTTLS first")], 1)
  else .ok (session.push .authenticate, 0)

def mechanismOffered (mechanism : Bytes) : Bool :=
  (smatch mechanism "login" && session.preauthCapa.matches (lit "AUTH=LOGIN")) ||
    (smatch mechanism "plain" && session.preauthCapa.matches (lit "AUTH=PLAIN")) ||
    (smatch mechanism "cram-md5" && session.preauthCapa.matches (lit "AUTH=CRAM-MD5"))

def icAuthenticate : Except Fault (Session × Int) :=
  if session.commandType = some .authenticate then
    guarded session 1 3 (some .nonAuthenticated) do
      let mechanism ← session.arg session.argsIdx
      if !mechanismOffered session mechanism then
        return (session.send [.no (lit "Invalid authentication mechanism specified")], 1)
      authenticatePush { session with argsIdx := session.argsIdx + 1 }
  else guarded session 2 2 (some .nonAuthenticated) (authenticatePush session)

def icLogin := icAuthenticate session

/-- `dbmail_imap_session_mailbox_status`, outside a worker. -/
def Session.refresh (world : World) : Session :=
  if session.state = .selected then
    { session.send (world.mailboxStatus.map Reply.untagged) with
      loaded := session.loaded && world.reloads }
  else session

/-- The refresh runs in the handler itself. -/
def icIdle (world : World) : Except Fault (Session × Int) :=
  guarded session 0 0 (some .authenticated)
    (.ok (({ session with commandState := .idle }.send
      [.continuation (lit "idling")]).refresh world, 0))

def uidHandler (world : World) (command : Bytes) :
    Option (Session → Except Fault (Session × Int)) :=
  if smatch command "fetch" then some icFetch
  else if smatch command "copy" then some icCopy
  else if smatch command "store" then some icStore
  else if smatch command "search" then some icSearch
  else if smatch command "sort" then some icSort
  else if smatch command "thread" then some icThread
  else if smatch command "expunge" then some (icExpunge · world)
  else none

def icUid (world : World) : Except Fault (Session × Int) := do
  if session.state ≠ .selected then
    return (session.send [.bad (lit "UID command received in invalid state")], 1)
  let first ← session.slot 0
  let next ← session.slot session.argsIdx
  match first, next with
  | some _, some command =>
    match uidHandler world command with
    | some handler =>
      handler { session with
        useUid := true, command := command.take 15, argsIdx := session.argsIdx + 1 }
    | none =>
      return ({ session with useUid := false }.send [.bad (lit "invalid UID command")], 1)
  | _, _ => return (session.send [.bad (lit "missing argument(s) to UID")], 1)

end Handlers

/-- `imap_handler_functions`. -/
def handler (conf : ServerConf) (world : World) (accepted : Bool) (session : Session) :
    Command → Except Fault (Session × Int)
  | .capability => icCapability session
  | .noop => icNoop session
  | .logout => icLogout session
  | .authenticate => icAuthenticate session
  | .login => icLogin session
  | .select => icSelect session
  | .examine => icExamine session
  | .enable => icEnable session
  | .create => icCreate session
  | .delete => icDelete session
  | .rename => icRename session
  | .subscribe => icSubscribe session
  | .unsubscribe => icUnsubscribe session
  | .list => icList session
  | .lsub => icLsub session
  | .status => icStatus session
  | .append => icAppend session
  | .check => icCheck session
  | .close => icClose session
  | .expunge => icExpunge session world
  | .search => icSearch session
  | .fetch => icFetch session
  | .store => icStore session
  | .copy => icCopy session
  | .uid => icUid session world
  | .sort => icSort session
  | .getquotaroot => icGetquotaroot session
  | .getquota => icGetquota session
  | .setacl => icSetacl session
  | .deleteacl => icDeleteacl session
  | .getacl => icGetacl session
  | .listrights => icListrights session
  | .myrights => icMyrights session
  | .nameSpace => icNamespace session
  | .thread => icThread session
  | .unselect => icUnselect session
  | .idle => icIdle session world
  | .starttls => icStarttls session conf accepted
  | .id => icId session

/-! ## `imap4` -/

/-- `p_string_unescape`: a backslash before a quote or a backslash is dropped. -/
def unescape : Bytes → Bytes
  | 92 :: 34 :: rest => 34 :: unescape rest
  | 92 :: 92 :: rest => 92 :: unescape rest
  | byte :: rest => byte :: unescape rest
  | [] => []

/-- The commands whose arguments `imap_unescape_args` changes. -/
def unescapes : Command → Bool
  | .examine | .select | .search | .create | .delete | .rename | .subscribe | .unsubscribe
  | .status | .copy | .login => true
  | _ => false

/-- The session that `imap4` hands to a handler. -/
def Session.dispatched (command : Command) : Session :=
  { session with
    errorCount := 0, commandType := some command, commandState := .inProgress
    args := if unescapes command then session.args.map unescape else session.args }

/-- With the outcome of the database ping. -/
def imap4 (conf : ServerConf) (world : World) (ping accepted : Bool) (session : Session) :
    Except Fault (Session × Int) :=
  if !ping then .ok (session.abort, dmEQuery)
  else if session.commandState = .done then .ok (session, 0)
  else
    let session := { session with commandState := .done }
    if session.tag = [] ∨ session.command = [] then .ok (session, 1)
    else match lookupCommand session.command with
      | none => .ok (session.send [.bad (lit "no valid command")], 1)
      | some command =>
        handler conf world accepted (session.dispatched command) command

/-! ## Worker runs -/

def Move.target : Move → ClientState
  | .authenticated => .authenticated
  | .selected => .selected

def Session.applyMoves (moves : List Move) : Session :=
  moves.foldl (fun session move => session.setState move.target) session

def Session.applyEffects (effects : Effects) : Session :=
  { session.applyMoves effects.moves with
    mailbox := effects.mailbox, loaded := effects.loaded, resync := effects.resync
    condstore := effects.condstore, qresync := effects.qresync }.send effects.replies

/-- The worker function of a pushed handler, authentication apart, with the
arguments it reads. -/
def enter (world : World) (session : Session) : Command → Except Fault (Int × Effects)
  | .capability => Worker.perform session (capabilityEnter session)
  | .noop => Worker.perform session (noopEnter world session)
  | .id => Worker.perform session (idEnter world session)
  | .select => do
    let name ← session.arg session.argsIdx
    if selectReadsFreed world session name then throw .freed
    Worker.perform session (selectEnter world session name)
  | .enable => Worker.perform session (enableEnter session)
  | .create => do
    let name ← session.arg session.argsIdx
    Worker.perform session (createEnter world session name)
  | .delete => do
    let name ← session.arg 0
    Worker.perform session (deleteEnter world session name)
  | .rename => do
    let oldname ← session.arg 0
    let newname ← session.arg 1
    Worker.perform session (renameEnter world session oldname newname)
  | .subscribe => do
    let name ← session.arg 0
    Worker.perform session (subscribeEnter world session name)
  | .list => do
    let refname ← session.arg 0
    let pattern ← session.arg 1
    Worker.perform session (listEnter world session refname pattern)
  | .status => statusEnter world session
  | .append => appendEnter world session
  | .check => Worker.perform session (checkEnter world session)
  | .close => Worker.perform session (closeEnter world session)
  | .unselect => Worker.perform session (unselectEnter session)
  | .expunge => do
    let set ← if session.useUid then some <$> session.arg session.argsIdx else pure none
    Worker.perform session (expungeEnter world session set)
  | .search => Worker.perform session (sortedSearchEnter world session .unordered)
  | .sort => Worker.perform session (sortedSearchEnter world session .sorted)
  | .thread => Worker.perform session (sortedSearchEnter world session .orderedSubject)
  | .fetch => do
    let set ← session.arg session.argsIdx
    let parsed ← world.fetchParse
    if fetchReadsFreed world session parsed then throw .freed
    Worker.perform session (fetchEnter world session parsed set)
  | .store => storeEnter world session
  | .copy => do
    let src ← session.arg session.argsIdx
    let dst ← session.arg (session.argsIdx + 1)
    Worker.perform session (copyEnter world session src dst)
  | .getquotaroot => do
    let name ← session.arg session.argsIdx
    Worker.perform session (getquotarootEnter world session name)
  | .getquota => do
    let name ← session.arg session.argsIdx
    Worker.perform session (getquotaEnter world session name)
  | .setacl => do
    let mailbox ← session.arg session.argsIdx
    let username ← session.arg (session.argsIdx + 1)
    let rights ← session.arg (session.argsIdx + 2)
    Worker.perform session (setaclEnter world session mailbox username rights)
  | .deleteacl => do
    let mailbox ← session.arg session.argsIdx
    let username ← session.arg (session.argsIdx + 1)
    Worker.perform session (deleteaclEnter world session mailbox username)
  | .getacl => do
    let mailbox ← session.arg session.argsIdx
    Worker.perform session (getaclEnter world session mailbox)
  | .listrights => do
    let mailbox ← session.arg session.argsIdx
    let username ← session.arg (session.argsIdx + 1)
    Worker.perform session (listrightsEnter world session mailbox username)
  | .myrights => do
    let mailbox ← session.arg session.argsIdx
    Worker.perform session (myrightsEnter world session mailbox)
  | .nameSpace => Worker.perform session (namespaceEnter session)
  -- these push no worker of their own
  | _ => Worker.perform session (return 0)

/-! ## Authentication -/

/-- The exchange object as `auth_validate` finds it. -/
def AuthSlot.read : AuthSlot → Except Fault (Option Cram)
  | .null => .ok none
  | .live cram => .ok (some cram)
  | .freed => .error .freed

/-- An attempt as `auth_validate` saw and decided it. -/
structure Attempt where
  auth : Option Cram
  username : Option Bytes
  password : Option Bytes
  verdict : Int
  userid : Nat
  /-- LOGINDISABLED was announced and TLS was not active. -/
  exposed : Bool
deriving DecidableEq

/-- The effect of a failed CRAM-MD5 login on the announced mechanisms: only the
known plain-text encryption of the account keeps the mechanism. -/
def afterRejection (auth : Option Cram) (userid : Nat) : Session :=
  if auth.isNone then session
  else
    let enctype := if userid = 0 then .noRow
      else selectUser env.db.users env.faults.encryption userid UserRow.encryptionType
    if enctype = .row [] then session
    else
      let session := { session with
        preauthCapa := session.preauthCapa.remove (lit "AUTH=CRAM-MD5") }
      session.send [.untagged (lit "CAPABILITY " ++ session.preauthCapa.asString)]

/-- The name the attempt is made for: that of the exchange object, if any. -/
def attemptName (auth : Option Cram) (username : Option Bytes) : Except Fault (Option Bytes) :=
  match auth with
  | some cram => some <$> cramGetUsername cram
  | none => .ok username

/-- The `switch` on the result of `auth_validate`. -/
def settle (attempt : Attempt) : Session × Int :=
  if attempt.verdict = -1 then
    (session.send [.untagged (lit "BYE internal db error validating user")], -1)
  else if attempt.verdict = 0 then
    ((afterRejection env session attempt.auth attempt.userid).send [.no (lit "login rejected")], 1)
  else if attempt.verdict = 1 then
    ({ session with userid := attempt.userid }.setState .authenticated, 0)
  else (session, -1)

/-- `dbmail_imap_session_handle_auth`: the new session, the status, and what
`auth_validate` was called with. -/
def handleAuth (username password : Option Bytes) :
    Except Fault (Session × Int × Attempt) := do
  let auth ← session.auth.read
  let name ← attemptName auth username
  let result ← authValidate env auth name password
  let attempt : Attempt := ⟨auth, name, password, result.1, result.2, session.loginDisabled⟩
  return ((settle env session attempt).1, (settle env session attempt).2, attempt)

/-- The credentials of `_ic_authenticate_enter`: two arguments, or none. -/
def Session.credentials : Except Fault (Option (Bytes × Bytes)) := do
  match ← session.slot session.argsIdx with
  | none => return none
  | some username =>
    match ← session.slot (session.argsIdx + 1) with
    | none => return none
    | some password => return some (username, password)

/-- `_ic_authenticate_enter`. -/
def authenticateEnter :
    Except Fault (Session × Int × Attempt) := do
  let credentials ← session.credentials
  let (session, status, attempt) ←
    handleAuth env session (credentials.map Prod.fst) (credentials.map Prod.snd)
  if status ≠ 0 ∨ session.state = .error then return (session, status, attempt)
  return (session.send [.ok (lit "[CAPABILITY " ++ session.capa.asString ++ lit "] User " ++
    attempt.username.getD [] ++ lit " authenticated")], 0, attempt)

end Dbmail.Imap
