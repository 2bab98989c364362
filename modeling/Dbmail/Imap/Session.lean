import Dbmail.Auth.Validate

/-!
Contract: the IMAP session object of `dm_imapsession.c`.

Owns the commands, the capability sets (`dm_capa.c`), the session record, its
construction from the configuration, the state changes of
`dbmail_imap_session_set_state`, the reset between commands, and the reads of
the argument array.

Does not own: what fills the arguments or acts on them.
-/

namespace Dbmail.Imap

open Dbmail.Lib Dbmail.Auth

/-- `ClientState_T`. -/
inductive ClientState where
  | initialConnect
  | nonAuthenticated
  | authenticated
  | selected
  | logout
  | quit
  | error
  | quitQueued
deriving DecidableEq, Repr

/-- `IMAP_COMMAND_TYPES`. -/
inductive Command where
  | capability | noop | logout | authenticate | login | select | examine | enable | create
  | delete | rename | subscribe | unsubscribe | list | lsub | status | append | check | close
  | expunge | search | fetch | store | copy | uid | sort | getquotaroot | getquota | setacl
  | deleteacl | getacl | listrights | myrights | nameSpace | thread | unselect | idle | starttls
  | id
deriving DecidableEq, Repr

/-- `IMAP_COMMANDS`, without the sentinels. -/
def imapCommands : List (Bytes × Command) :=
  [(lit "capability", .capability), (lit "noop", .noop), (lit "logout", .logout),
    (lit "authenticate", .authenticate), (lit "login", .login), (lit "select", .select),
    (lit "examine", .examine), (lit "enable", .enable), (lit "create", .create),
    (lit "delete", .delete), (lit "rename", .rename), (lit "subscribe", .subscribe),
    (lit "unsubscribe", .unsubscribe), (lit "list", .list), (lit "lsub", .lsub),
    (lit "status", .status), (lit "append", .append), (lit "check", .check),
    (lit "close", .close), (lit "expunge", .expunge), (lit "search", .search),
    (lit "fetch", .fetch), (lit "store", .store), (lit "copy", .copy), (lit "uid", .uid),
    (lit "sort", .sort), (lit "getquotaroot", .getquotaroot), (lit "getquota", .getquota),
    (lit "setacl", .setacl), (lit "deleteacl", .deleteacl), (lit "getacl", .getacl),
    (lit "listrights", .listrights), (lit "myrights", .myrights), (lit "namespace", .nameSpace),
    (lit "thread", .thread), (lit "unselect", .unselect), (lit "idle", .idle),
    (lit "starttls", .starttls), (lit "id", .id)]

/-- The command lookup of `imap4`. -/
def lookupCommand (text : Bytes) : Option Command :=
  (imapCommands.find? fun entry => strcasecmpEq text entry.1).map Prod.snd

/-- What the server writes: a tagged status line, an untagged line, a
continuation request, or text that is none of these. -/
inductive Reply where
  | ok (text : Bytes)
  | no (text : Bytes)
  | bad (text : Bytes)
  | untagged (text : Bytes)
  | continuation (text : Bytes)
  | raw (text : Bytes)
deriving DecidableEq, Repr

/-! ## Capabilities -/

/-- `Capa_T`: what can be announced and what is. -/
structure Capa where
  maxSet : List Bytes
  currentSet : List Bytes
deriving DecidableEq, Repr

def imapCapabilityString : Bytes :=
  lit ("IMAP4rev1 AUTH=LOGIN AUTH=PLAIN AUTH=CRAM-MD5 ACL RIGHTS=texk NAMESPACE CHILDREN SORT " ++
    "QUOTA THREAD=ORDEREDSUBJECT UNSELECT IDLE STARTTLS ID UIDPLUS WITHIN LOGINDISABLED " ++
    "CONDSTORE LITERAL+ ENABLE QRESYNC")

/-- With the configured string (empty when unset). -/
def capaNew (configured : Bytes) : Capa :=
  let entries := ((if configured = [] then imapCapabilityString else configured).take 1023).splitOn 32
  ⟨entries, entries⟩

/-- `Capa_match`. -/
def Capa.matches (capa : Capa) (name : Bytes) : Bool :=
  capa.currentSet.any fun entry => strcasecmpEq entry name

def Capa.add (capa : Capa) (name : Bytes) : Capa :=
  match capa.maxSet.find? fun entry => strcasecmpEq entry name with
  | some entry => { capa with currentSet := capa.currentSet ++ [entry] }
  | none => capa

def Capa.remove (capa : Capa) (name : Bytes) : Capa :=
  { capa with currentSet := capa.currentSet.eraseP fun entry => strcasecmpEq entry name }

def Capa.asString (capa : Capa) : Bytes :=
  ([32].intercalate capa.currentSet).take 1023

/-! ## The session -/

structure ServerConf where
  capability : Bytes
  /-- `login_disabled` is not `no`. -/
  loginDisabled : Bool
  /-- `enable_cram_md5` is not `no`. -/
  enableCramMd5 : Bool
  authdriverLdap : Bool
  ssl : Bool
  /-- `MAX_MESSAGE_SIZE`, 0 for no limit. -/
  maxMessageSize : Nat

/-- `ci->auth`. `Cram_free` does not clear the pointer it is given. -/
inductive AuthSlot where
  | null
  | live (cram : Cram)
  | freed
deriving DecidableEq, Repr

/-- FALSE, TRUE or IDLE. -/
inductive CommandState where
  | inProgress
  | done
  | idle
deriving DecidableEq, Repr

/-- `parser_state`, negative, zero or positive. -/
inductive ParserState where
  | error
  | pending
  | complete
deriving DecidableEq, Repr

def maxArgs : Nat := 512

/-- `qresync_args`. The texts are arguments of the SELECT that gave them. -/
structure QresyncArgs where
  uidvalidity : Nat := 0
  modseq : Nat := 0
  knownUids : Option Bytes := none
  knownSeqset : Option Bytes := none
  knownUidset : Option Bytes := none

/-- `ImapSession` with the fields of `ClientBase_T` that it reads. `args` holds
the slots before the first NULL; all later slots of the array are NULL. `job`
is the handler whose worker function was pushed and has not returned. `resync`
is kept from one SELECT to the next. `loaded` tells whether the state of the
mailbox opened last is a loaded one: a load that fails frees the state and leaves
the pointer to it. -/
structure Session where
  state : ClientState
  tag : Bytes
  command : Bytes
  commandType : Option Command
  commandState : CommandState
  parserState : ParserState
  args : List Bytes
  argsIdx : Nat
  rbuffSize : Nat
  useUid : Bool
  errorCount : Nat
  preauthCapa : Capa
  capa : Capa
  auth : AuthSlot
  userid : Nat
  sslState : Bool
  mailbox : Option Nat
  loaded : Bool
  resync : QresyncArgs
  condstore : Bool
  qresync : Bool
  eof : Bool
  job : Option Command
  sent : List Reply

variable (conf : ServerConf) (session : Session)

def preauthCapabilities : Capa :=
  let hidden := [lit "ACL", lit "RIGHTS=texk", lit "NAMESPACE", lit "CHILDREN", lit "SORT",
    lit "QUOTA", lit "THREAD=ORDEREDSUBJECT", lit "UNSELECT", lit "IDLE", lit "UIDPLUS",
    lit "WITHIN", lit "CONDSTORE", lit "ENABLE", lit "QRESYNC"]
  let base := hidden.foldl Capa.remove (capaNew conf.capability)
  let tls := if conf.ssl then base else base.remove (lit "STARTTLS")
  let cram :=
    if !conf.enableCramMd5 || conf.authdriverLdap then tls.remove (lit "AUTH=CRAM-MD5") else tls
  if conf.loginDisabled && conf.ssl then
    ((cram.remove (lit "AUTH=LOGIN")).remove (lit "AUTH=PLAIN")).remove (lit "AUTH=CRAM-MD5")
  else cram.remove (lit "LOGINDISABLED")

def loginCapabilities : Capa :=
  [lit "STARTTLS", lit "LOGINDISABLED", lit "AUTH=LOGIN", lit "AUTH=PLAIN",
    lit "AUTH=CRAM-MD5"].foldl Capa.remove (capaNew conf.capability)

def Capa.announce (capa : Capa) (name : Bytes) : Capa :=
  if capa.matches name then capa else capa.add name

/-- `dbmail_imap_session_encrypted`. -/
def sessionEncrypted : Session :=
  let base := (session.preauthCapa.remove (lit "STARTTLS")).remove (lit "LOGINDISABLED")
  let plain := (base.announce (lit "AUTH=LOGIN")).announce (lit "AUTH=PLAIN")
  { session with
    preauthCapa :=
      if conf.enableCramMd5 && !conf.authdriverLdap then plain.announce (lit "AUTH=CRAM-MD5")
      else plain }

/-- `dbmail_imap_session_new`. -/
def sessionNew (sslState : Bool) : Session where
  state := .nonAuthenticated
  tag := []
  command := []
  commandType := none
  commandState := .inProgress
  parserState := .pending
  args := []
  argsIdx := 0
  rbuffSize := 0
  useUid := false
  errorCount := 0
  preauthCapa := preauthCapabilities conf
  capa := loginCapabilities conf
  auth := .null
  userid := 0
  sslState := sslState
  mailbox := none
  loaded := false
  resync := {}
  condstore := false
  qresync := false
  eof := false
  job := none
  sent := []

/-- `imap_handle_connection` up to the greeting. -/
def handleConnection (sslState : Bool) : Session :=
  let session := sessionNew conf sslState
  let session := if !conf.ssl || sslState then sessionEncrypted conf session else session
  { session with
    sent := [.untagged (lit "OK [CAPABILITY " ++ session.preauthCapa.asString ++ lit "]")] }

def Session.send (replies : List Reply) : Session :=
  { session with sent := session.sent ++ replies }

/-- `dbmail_imap_session_set_state`: `QUIT_QUEUED` is final. -/
def Session.setState (state : ClientState) : Session :=
  if session.state = .quitQueued then session else { session with state := state }

/-- `imap_session_reset`. The pending literal size is kept. -/
def Session.reset : Session :=
  { session with
    tag := [], command := [], useUid := false, commandType := none
    commandState := .inProgress, parserState := .pending, args := [], argsIdx := 0 }

/-- `imap_session_bailout`. -/
def Session.bailout : Session := session.setState .quitQueued

/-- `imap_handle_abort`. -/
def Session.abort : Session :=
  if session.state = .error ∨ session.state = .quitQueued then session
  else (session.setState .error).reset.bailout

/-! ## Arguments -/

/-- Read `args[index]`; `none` is NULL. -/
def Session.slot (index : Nat) : Except Fault (Option Bytes) :=
  if index < maxArgs then .ok session.args[index]? else .error .outOfBounds

/-- `p_string_str(args[index])`. -/
def Session.arg (index : Nat) : Except Fault Bytes := do
  match ← session.slot index with
  | some text => return text
  | none => throw .nullPointer

/-- The terminating NULL of the argument list lies in the array. -/
def Session.Terminated : Prop := session.args.length < maxArgs

@[simp] theorem Session.slot_of_lt {session : Session} {index : Nat} (inArray : index < maxArgs) :
    session.slot index = .ok session.args[index]? := if_pos inArray

theorem Session.arg_of_lt {session : Session} {index : Nat} (terminated : session.Terminated)
    (given : index < session.args.length) :
    session.arg index = .ok session.args[index] := by
  have inArray : index < maxArgs := Nat.lt_trans given terminated
  simp [Session.arg, inArray, given, bind, Except.bind, pure, Except.pure]

theorem Session.arg_of_missing {session : Session} {index : Nat} (inArray : index < maxArgs)
    (missing : session.args.length ≤ index) : session.arg index = .error .nullPointer := by
  simp [Session.arg, inArray, missing, bind, Except.bind, throw, throwThe, MonadExceptOf.throw]

end Dbmail.Imap
