import Dbmail.Client.Upgrade
import Dbmail.Imap.Confinement

/-!
Contract: the POP3, ManageSieve and IMAP servers over one read buffer, and what
crosses the switch to TLS.

Owns the POP3 command line and its STLS, the ManageSieve tokenizer and its
STARTTLS, the three servers as instances of the shared input loop, and the
result for all of them.

Does not own: the bodies of the other POP3 and ManageSieve commands, which are
given as functions on the session: none of them touches the read buffer or TLS.
-/

namespace Dbmail.Client

open Dbmail.Lib Bool
open Dbmail.Imap (ClientState)

/-! ## Command lines -/

/-- The first byte stays. -/
def stripCrlf : Bytes → Bytes
  | [] => []
  | first :: rest => first :: rest.rdropWhile fun byte => byte = 13 || byte = 10

def commandLine (input : Bytes) : Bytes := gStrstrip (stripCrlf (cstr input))

def lineCommand (line : Bytes) : Bytes := line.takeWhile (· ≠ 32)

/-- What follows the first space of a line, if it is not empty. -/
def lineValue (line : Bytes) : Option Bytes :=
  if line.drop ((lineCommand line).length + 1) = [] then none
  else some (line.drop ((lineCommand line).length + 1))

/-! ## POP3 -/

inductive Pop3Command where
  | quit | user | pass | stat | list | retr | dele | noop | last | rset | uidl | apop | auth
  | top | capa | stls
deriving DecidableEq

/-- `commands` of the POP3 server. -/
def pop3Commands : List (Bytes × Pop3Command) :=
  [(lit "quit", .quit), (lit "user", .user), (lit "pass", .pass), (lit "stat", .stat),
    (lit "list", .list), (lit "retr", .retr), (lit "dele", .dele), (lit "noop", .noop),
    (lit "last", .last), (lit "rset", .rset), (lit "uidl", .uidl), (lit "apop", .apop),
    (lit "auth", .auth), (lit "top", .top), (lit "capa", .capa), (lit "stls", .stls)]

def Pop3Command.bare : Pop3Command → Bool
  | .quit | .list | .stat | .rset | .noop | .last | .uidl | .auth | .capa | .stls => true
  | .user | .pass | .retr | .dele | .apop | .top => false

structure Pop3Session where
  state : ClientState
  errorCount : Nat
  sent : List Bytes

/-- What a call of the POP3 input handler meets: whether output is pending,
whether a write fails, and the commands whose bodies are not modelled. -/
structure Pop3Env where
  outputPending : Bool
  clientError : Bool
  others : Pop3Command → Option Bytes → Pop3Session → Pop3Session × Int

def Pop3Session.write (session : Pop3Session) (text : Bytes) : Pop3Session :=
  { session with sent := session.sent ++ [text] }

/-- With `MAX_ERRORS`. -/
def pop3Error (env : Pop3Env) (session : Pop3Session) (text : Bytes) : Pop3Session × Int :=
  if 3 ≤ session.errorCount then (session.write (lit "-ERR too many errors\r\n"), -3)
  else if env.clientError then (session.write text, -3)
  else ({ session.write text with errorCount := session.errorCount + 1 }, 1)

/-- STLS goes on to `ci_starttls`. -/
def Pop3Session.upgrades (session : Pop3Session) (ssl active : Bool) : Bool :=
  session.state = .initialConnect && ssl && !active

/-- `POP3_STLS`. The result of `ci_starttls` is 0 or `DM_EGENERAL`, which is 1:
a handshake that fails is not noticed. -/
def pop3Stls (ssl : Bool) (env : Pop3Env) (active : Bool) (session : Pop3Session) :
    Pop3Session × Int :=
  if session.state ≠ .initialConnect then pop3Error env session (lit "-ERR wrong command mode\r\n")
  else if !ssl then pop3Error env session (lit "-ERR server error\r\n")
  else if active then pop3Error env session (lit "-ERR TLS already active\r\n")
  else (session.write (lit "+OK Begin TLS now\r\n"), 1)

def pop3Command (line : Bytes) : Option Pop3Command :=
  (pop3Commands.find? fun entry => strcasecmpEq (lineCommand line) entry.1).map Prod.snd

def pop3 (ssl : Bool) (env : Pop3Env) (active : Bool) (session : Pop3Session) (input : Bytes) :
    Pop3Session × Int :=
  let line := commandLine input
  if line = [] then (session, 1)
  else match pop3Command line with
    | none =>
      pop3Error env session
        (if lineValue line = none then lit "-ERR your command does not compute\r\n"
        else lit "-ERR command not understood\r\n")
    | some command =>
      if lineValue line = none ∧ !command.bare then
        pop3Error env session (lit "-ERR your command does not compute\r\n")
      else match command with
        -- `pop3_close` may update the mailbox; its reply is left to `others`
        | .quit => ({ (env.others .quit (lineValue line) session).1 with state := .quit }, 0)
        | .stls => pop3Stls ssl env active session
        | .capa =>
          (session.write (lit "+OK Capability list follows\r\nTOP\r\nUSER\r\nUIDL" ++
            (if ssl then lit "\r\nSTLS" else []) ++ lit "\r\n.\r\n"), 1)
        | command => env.others command (lineValue line) session

/-- `client_session_bailout`. -/
def Pop3Session.bailout (session : Pop3Session) : Pop3Session :=
  { session with state := .quitQueued }

/-- One call of `pop3_handle_input` takes one line. -/
def pop3Feed (ssl : Bool) (env : Pop3Env) (_ : Handshake) (active : Bool) (session : Pop3Session)
    (input : Bytes) : Except Fault (Fed Pop3Session) :=
  .ok
    { state :=
        if (pop3 ssl env active session input).2 ≤ 0 then
          (pop3 ssl env active session input).1.bailout
        else (pop3 ssl env active session input).1
      starttls := pop3Command (commandLine input) = some .stls && session.upgrades ssl active
      again := false }

/-- The POP3 server. Its parser keeps nothing between lines, and
`pop3_cb_write` handles input after each write. -/
def pop3Server (ssl : Bool) : CommandServer Pop3Session Pop3Env Unit where
  closed session := session.state = .quitQueued
  bailout := Pop3Session.bailout
  enter env session := if env.outputPending then none else some session
  need _ := 0
  literals := false
  feed := pop3Feed ssl
  wake _ session := .ok (session, session.state ≠ .quit)
  blank _ := true
  feed_blank _ _ _ _ _ _ _ _ _ := rfl

/-! ## ManageSieve -/

/-- `command_id`. No command is pending when the type is 0, which is LOGOUT. -/
inductive SieveCommand where
  | logout | starttls | capability | listscripts | authenticate | deletescript | getscript
  | setactive | havespace | putscript
  | unknown
deriving DecidableEq

/-- `commands` of the ManageSieve server. -/
def sieveCommands : List (Bytes × SieveCommand) :=
  [(lit "LOGOUT", .logout), (lit "STARTTLS", .starttls), (lit "CAPABILITY", .capability),
    (lit "LISTSCRIPTS", .listscripts), (lit "AUTHENTICATE", .authenticate),
    (lit "DELETESCRIPT", .deletescript), (lit "GETSCRIPT", .getscript),
    (lit "SETACTIVE", .setactive), (lit "HAVESPACE", .havespace), (lit "PUTSCRIPT", .putscript)]

/-- The commands above `SIEVE_LIST`. -/
def SieveCommand.takesArgument : SieveCommand → Bool
  | .logout | .starttls | .capability | .listscripts | .unknown => false
  | .authenticate | .deletescript | .getscript | .setactive | .havespace | .putscript => true

structure SieveSession where
  state : ClientState
  commandType : SieveCommand
  parserState : Bool
  /-- `ci->rbuff_size`, which a reset of the parser keeps. -/
  rbuffSize : Nat
  rbuff : Bytes
  args : List Bytes
  errorCount : Nat
  sent : List Bytes

structure SieveConf where
  ssl : Bool
  banner : Bytes
  version : Bytes
  extensions : Bytes

structure SieveEnv where
  ping : Bool
  clientError : Bool
  others : SieveCommand → SieveSession → SieveSession × Int

variable (env : SieveEnv) (conf : Imap.ServerConf) (session : SieveSession)

def SieveSession.write (texts : List Bytes) : SieveSession :=
  { session with sent := session.sent ++ texts }

/-- `send_greeting`. -/
def sieveGreeting (conf : SieveConf) (env : SieveEnv) (session : SieveSession) : SieveSession :=
  if !env.ping then
    { session.write [lit "BYE \"database has gone fishing\"\r\n"] with state := .quit }
  else session.write
    [if conf.banner = [] then
        lit "\"IMPLEMENTATION\" \"DBMail sieved " ++ conf.version ++ lit "\"\r\n"
      else lit "\"IMPLEMENTATION\" \"" ++ conf.banner ++ lit "\"\r\n",
      lit "\"SASL\" \"PLAIN\"\r\n", lit "\"SIEVE\" \"" ++ conf.extensions ++ lit "\"\r\n",
      lit "\"STARTTLS\"\r\n", lit "OK\r\n"]

/-- With `MAX_FAULTY_RESPONSES`. -/
def sieveError (text : Bytes) : SieveSession × Int :=
  if 3 ≤ session.errorCount then
    (session.write [lit "BYE \"Too many errors, closing connection.\"\r\n"], -3)
  else if env.clientError then (session.write [text], -3)
  else ({ session.write [text] with errorCount := session.errorCount + 1 }, 1)

/-- The scan of an argument text: in quotes or not, the last byte, the token so
far and the arguments. -/
structure SieveScan where
  inquote : Bool
  previous : UInt8
  token : Bytes
  args : List Bytes

/-- The loop over the argument text. It ends early at a literal, with its size. -/
def sieveScan : SieveScan → Bytes → SieveScan × Option Nat
  | scan, [] => (scan, none)
  | scan, byte :: rest =>
    if scan.inquote then
      if byte = 34 ∧ scan.previous ≠ 92 then
        sieveScan ⟨false, byte, [], scan.args ++ [scan.token]⟩ rest
      else sieveScan { scan with token := scan.token ++ [byte], previous := byte } rest
    else if byte = 34 ∧ scan.previous ≠ 92 then
      sieveScan { scan with inquote := true, previous := byte } rest
    else if byte = 32 ∧ scan.previous ≠ 92 then sieveScan { scan with previous := byte } rest
    else if byte = 123 then (scan, some (strtoul rest).1)
    else sieveScan { scan with token := scan.token ++ [byte], previous := byte } rest

/-- The part of `sieve_tokenizer` behind the command: a piece of a literal, or
the arguments on the line. -/
def sieveArguments (buffer : Bytes) (value : Option Bytes) : SieveSession × Int :=
  if session.rbuffSize ≠ 0 then
    let rbuff := session.rbuff ++ buffer.take session.rbuffSize
    if session.rbuffSize ≤ buffer.length then
      ({ session with
          rbuff := [], rbuffSize := 0, args := session.args ++ [rbuff], parserState := true }, 1)
    else
      ({ session with rbuff := rbuff, rbuffSize := session.rbuffSize - buffer.length },
        if session.parserState then 1 else 0)
  else match value with
    | none => ({ session with parserState := true }, 1)
    | some value =>
      match sieveScan ⟨false, 0, [], session.args⟩ value with
      | (scan, some size) => ({ session with args := scan.args, rbuffSize := size }, 0)
      | (scan, none) =>
        ({ session with
            args := scan.args ++ (if scan.token = [] then [] else [scan.token])
            parserState := true }, 1)

def sieveCommand (line : Bytes) : SieveCommand :=
  ((sieveCommands.find? fun entry => strcasecmpEq (lineCommand line) entry.1).map
    Prod.snd).getD .unknown

def sieveTokenizer (input : Bytes) : SieveSession × Int :=
  if session.commandType ≠ .logout then sieveArguments session (cstr input) none
  else if commandLine input = [] then (session, 0)
  else if lineValue (commandLine input) = none ∧ (sieveCommand (commandLine input)).takesArgument then
    sieveError env session (lit "NO \"This command requires an argument.\"\r\n")
  else
    sieveArguments { session with commandType := sieveCommand (commandLine input) }
      (lineCommand (commandLine input)) (lineValue (commandLine input))

/-- STARTTLS goes on to `ci_starttls`. -/
def SieveSession.upgrades (ssl active : Bool) : Bool :=
  session.commandType = .starttls && session.state ≠ .authenticated && ssl && !active

/-- `SIEVE_STLS`. A failed handshake returns `DM_EGENERAL` instead of 3. -/
def sieveStarttls (conf : SieveConf) (env : SieveEnv) (handshake : Handshake) (active : Bool)
    (session : SieveSession) : SieveSession × Int :=
  if session.state = .authenticated then (session.write [lit "Already authenticatd\r\n"], 1)
  else if !conf.ssl then (session.write [lit "NO TLS not available\r\n"], 1)
  else if active then (session.write [lit "NO TLS already active\r\n"], 1)
  else
    (sieveGreeting conf env (session.write [lit "OK Begin TLS now\r\n"]),
      if handshake.succeeds then 3 else dmEGeneral)

def sieve (conf : SieveConf) (env : SieveEnv) (handshake : Handshake) (active : Bool)
    (session : SieveSession) : SieveSession × Int :=
  match session.commandType with
  | .logout => ({ session.write [lit "OK \"Bye.\"\r\n"] with state := .quit }, 1)
  | .starttls => sieveStarttls conf env handshake active session
  | .capability => (sieveGreeting conf env session, 1)
  | .unknown => sieveError env session (lit "NO \"What are you trying to say here?\"\r\n")
  | command => env.others command session

/-- `client_session_reset_parser`. -/
def SieveSession.resetParser : SieveSession :=
  { session with parserState := false, commandType := .logout, rbuff := [], args := [] }

/-- `client_session_bailout`. -/
def SieveSession.bailout : SieveSession :=
  { session with state := .quitQueued }

/-- A complete command in `sieve_handle_input`. -/
def sieveDispatch (conf : SieveConf) (env : SieveEnv) (handshake : Handshake) (active : Bool)
    (session : SieveSession) : Fed SieveSession :=
  if (sieve conf env handshake active session).2 = -3 then
    ⟨(sieve conf env handshake active session).1.bailout, session.upgrades conf.ssl active, false⟩
  else
    ⟨(sieve conf env handshake active session).1.resetParser, session.upgrades conf.ssl active,
      true⟩

/-- The body of the loop in `sieve_handle_input`, which reads on after every
command. -/
def sieveFeed (conf : SieveConf) (env : SieveEnv) (handshake : Handshake) (active : Bool)
    (session : SieveSession) (input : Bytes) : Except Fault (Fed SieveSession) :=
  if (sieveTokenizer env session input).2 = 0 then
    .ok ⟨(sieveTokenizer env session input).1, false, true⟩
  else if (sieveTokenizer env session input).2 = -3 then
    .ok ⟨(sieveTokenizer env session input).1.bailout, false, false⟩
  else .ok (sieveDispatch conf env handshake active (sieveTokenizer env session input).1)

/-- The parser is as `client_session_reset_parser` leaves it. -/
def SieveSession.blank : Bool :=
  session.commandType = .logout && !session.parserState && session.rbuff = [] && session.args = []

/-- A STARTTLS that is carried out does not close the session. -/
theorem sieve_of_upgrades {conf : SieveConf} {env : SieveEnv} {handshake : Handshake}
    {active : Bool} {session : SieveSession} (upgrades : session.upgrades conf.ssl active = true) :
    (sieve conf env handshake active session).2 ≠ -3 := by
  simp only [SieveSession.upgrades, Bool.and_eq_true, decide_eq_true_eq, Bool.not_eq_true']
    at upgrades
  obtain ⟨⟨⟨starttls, state⟩, ssl⟩, inactive⟩ := upgrades
  simp only [sieve, starttls, sieveStarttls, state, ssl, inactive, if_false, Bool.not_true,
    Bool.false_eq_true]
  split <;> decide

theorem sieveFeed_blank (conf : SieveConf) (env : SieveEnv) (handshake : Handshake)
    (active : Bool) (session : SieveSession) (input : Bytes) (result : Fed SieveSession)
    (returned : sieveFeed conf env handshake active session input = .ok result)
    (starttls : result.starttls = true) (_ : handshake.succeeds = true) :
    result.state.blank = true := by
  unfold sieveFeed at returned
  split_ifs at returned with pending failed
  · cases returned
    cases starttls
  · cases returned
    cases starttls
  · cases returned
    unfold sieveDispatch at starttls ⊢
    split_ifs at starttls ⊢ with refused
    · exact absurd refused (sieve_of_upgrades starttls)
    · rfl

/-- The ManageSieve server. It is woken when the socket is writable, with
whether output is still pending. -/
def sieveServer (conf : SieveConf) : CommandServer SieveSession SieveEnv Bool where
  closed session := session.state = .quitQueued
  bailout := SieveSession.bailout
  enter _ session := some session
  need := SieveSession.rbuffSize
  literals := false
  feed := sieveFeed conf
  wake pending session := .ok (session, session.state ≠ .quit && !pending)
  blank := SieveSession.blank
  feed_blank := sieveFeed_blank conf

/-! ## IMAP -/

/-- STARTTLS goes on to `ci_starttls`; the session holds a complete command. -/
def imapUpgrades (ping : Bool) (session : Imap.Session) : Bool :=
  ping && session.commandState ≠ .done && session.tag ≠ [] && session.command ≠ [] &&
    Imap.lookupCommand session.command = some .starttls &&
    (match Imap.checkStateAndArgs (session.dispatched .starttls) 0 0 none with
      | .ok .passed => true
      | _ => false) && conf.ssl && !session.sslState

/-- The loop reads on after a text that completes no command, in an IDLE loop,
and once IDLE has begun. -/
def imapReadsOn (env : Imap.InputEnv) (session after : Imap.Session) (input : Bytes) : Bool :=
  session.errorCount < Imap.maxFaultyResponses &&
    (session.idling || match Imap.tokenizer conf env.token session input with
      | .ok (_, .pending) => true
      | .ok (_, .complete) => after.idling
      | _ => false)

/-- The text completes a STARTTLS that is carried out. -/
def imapStarttls (env : Imap.InputEnv) (session : Imap.Session) (input : Bytes) : Bool :=
  session.errorCount < Imap.maxFaultyResponses && !session.idling &&
    match Imap.tokenizer conf env.token session input with
    | .ok (parsed, .complete) => imapUpgrades conf env.ping parsed
    | _ => false

/-- The body of the loop in `imap_handle_input`. -/
def imapBody (env : Imap.InputEnv) (session : Imap.Session)
    (input : Bytes) : Except Fault (Fed Imap.Session) :=
  match Imap.inputLoop conf env session [input] with
  | .error fault => .error fault
  | .ok (after, _) =>
    .ok ⟨after, imapStarttls conf env session input, imapReadsOn conf env session after input⟩

/-- The body of the loop on a connection with its own TLS state. -/
def imapFeed (env : Imap.InputEnv) (handshake : Handshake) (active : Bool)
    (session : Imap.Session) (input : Bytes) : Except Fault (Fed Imap.Session) :=
  imapBody conf { env with accepted := handshake.succeeds } { session with sslState := active } input

/-- The parser is as `imap_session_reset` leaves it. -/
def imapBlank (session : Imap.Session) : Bool :=
  session.tag = [] && session.command = [] && session.args = [] && session.parserState = .pending

theorem dispatchCommand_of_upgrades {conf : Imap.ServerConf} {env : Imap.InputEnv}
    {before after : Imap.Session} {trace : List Imap.TraceEvent}
    (upgrades : imapUpgrades conf env.ping before = true) (accepted : env.accepted = true)
    (returned : Imap.dispatchCommand conf env before = .ok (after, trace)) :
    imapBlank after = true := by
  simp only [imapUpgrades, and_eq_true, decide_eq_true_eq, not_eq_true'] at upgrades
  obtain ⟨⟨⟨⟨⟨⟨⟨ping, commandState⟩, tag⟩, command⟩, starttls⟩, passed⟩, ssl⟩, inactive⟩ := upgrades
  have check : Imap.checkStateAndArgs (before.dispatched .starttls) 0 0 none = .ok .passed := by
    split at passed
    · assumption
    · cases passed
  have handled : ∃ session, Imap.imap4 conf env.world env.ping env.accepted before =
      .ok (session, 3) := by
    -- `imap4` marks the command done before the handler marks it in progress
    have dispatched : Imap.imap4 conf env.world env.ping env.accepted before =
        Imap.icStarttls (before.dispatched .starttls) conf env.accepted := by
      simp only [Imap.imap4, ping, commandState, tag, command, starttls]
      rfl
    rw [dispatched, Imap.icStarttls, Imap.guarded, check]
    simp only [ssl, show (before.dispatched .starttls).sslState = false from inactive, accepted]
    exact ⟨_, rfl⟩
  obtain ⟨session, ran⟩ := handled
  rw [Imap.dispatchCommand, ran] at returned
  cases returned
  rfl

theorem imapBody_blank {conf : Imap.ServerConf} {env : Imap.InputEnv} {session : Imap.Session}
    {input : Bytes} {result : Fed Imap.Session}
    (returned : imapBody conf env session input = .ok result)
    (starttls : result.starttls = true) (accepted : env.accepted = true) :
    imapBlank result.state = true := by
  unfold imapBody at returned
  split at returned
  · cases returned
  · next after trace looped =>
    cases returned
    simp only [imapStarttls, and_eq_true, decide_eq_true_eq, not_eq_true'] at starttls
    obtain ⟨⟨few, notIdling⟩, upgrades⟩ := starttls
    split at upgrades
    · next parsed read =>
      rw [Imap.inputLoop, Imap.inputLoopWith, if_neg (by omega), if_neg (by simp [notIdling]),
        read] at looped
      exact dispatchCommand_of_upgrades upgrades accepted looped
    · cases upgrades

inductive ImapWake where
  | complete (env : Auth.AuthEnv) (world : Imap.World) (clientError : Bool)
  | timeout (world : Imap.World)

/-- The worker returns 0, so that `imap_handle_continue` handles buffered input. -/
def imapContinues (env : Auth.AuthEnv) (world : Imap.World) (session : Imap.Session)
    (job : Imap.Command) : Bool :=
  if job = .authenticate then
    match Imap.authenticateEnter env session with
    | .ok (_, 0, _) => true
    | _ => false
  else
    match Imap.enter world session job with
    | .ok (0, _) => true
    | _ => false

def imapWake : ImapWake → Imap.Session → Except Fault (Imap.Session × Bool)
  | .complete env world clientError, session =>
    match session.job with
    | none => .ok (session, false)
    | some job => do
      let after ← Imap.completeJob env world clientError ⟨session, []⟩ job
      return (after.session, !clientError && imapContinues env world session job)
  | .timeout world, session => .ok (session.timeout world, false)

def imapServer : CommandServer Imap.Session Imap.InputEnv ImapWake where
  closed session := session.state = .quitQueued
  bailout := Imap.Session.bailout
  enter _ session :=
    if session.commandState = .inProgress ∧ session.parserState = .complete then none
    else some (if session.commandState = .done then session.reset else session)
  need := Imap.Session.rbuffSize
  literals := true
  feed := imapFeed conf
  wake := imapWake
  blank := imapBlank
  feed_blank _ _ _ _ _ _ returned starttls succeeds := imapBody_blank returned starttls succeeds

/-! ## The three servers -/

structure Service where
  State : Type
  Env : Type
  Cause : Type
  server : CommandServer State Env Cause
  initial : State

inductive Protocol where
  | imap (conf : Imap.ServerConf)
  | pop3 (ssl : Bool)
  | managesieve (conf : SieveConf)

/-- The service of a protocol, for a connection with TLS from the start or
without. -/
def Protocol.service (tls : Bool) : Protocol → Service
  | .imap conf => ⟨Imap.Session, Imap.InputEnv, ImapWake, imapServer conf,
      Imap.handleConnection conf tls⟩
  | .pop3 ssl => ⟨Pop3Session, Pop3Env, Unit, pop3Server ssl, ⟨.initialConnect, 0, []⟩⟩
  | .managesieve conf => ⟨SieveSession, SieveEnv, Bool, sieveServer conf,
      ⟨.nonAuthenticated, .logout, false, 0, [], [], 0, []⟩⟩

def Service.start (service : Service) (tls : Bool) : Connection service.State :=
  ⟨service.initial, clientNew tls, []⟩

theorem sealed_start (service : Service) (tls : Bool) : Sealed (service.start tls) where
  consistent := rfl
  unread := by simp [Service.start, clientNew, ClientBase.unread]
  log := by simp [NoCrossing, Service.start]

abbrev Protocol.Run (protocol : Protocol) (tls : Bool) : Type :=
  List (Event (protocol.service tls).Env (protocol.service tls).Cause)

/-- Every step of the run leaves nothing to read behind a line that switches to
TLS. -/
def CleanSwitches (protocol : Protocol) (tls : Bool) (events : protocol.Run tls) : Prop :=
  StepsMeet (step (protocol.service tls).server)
    (fun connection event => cleanEvent (protocol.service tls).server connection event = true)
    ((protocol.service tls).start tls) events

instance (protocol : Protocol) (tls : Bool) (events : protocol.Run tls) :
    Decidable (CleanSwitches protocol tls events) :=
  inferInstanceAs (Decidable (StepsMeet _ _ _ _))

def logOf (protocol : Protocol) (tls : Bool) (events : protocol.Run tls) :
    Except Fault (List Entry) :=
  (run (step (protocol.service tls).server) ((protocol.service tls).start tls) events).map
    Connection.log

def CrossingFree (protocol : Protocol) (tls : Bool) (events : protocol.Run tls) : Prop :=
  ∀ final, run (step (protocol.service tls).server) ((protocol.service tls).start tls) events =
    .ok final → NoCrossing final

theorem crossingFree_iff {protocol : Protocol} {tls : Bool} {events : protocol.Run tls}
    {log : List Entry} (logged : logOf protocol tls events = .ok log) :
    CrossingFree protocol tls events ↔ ∀ entry ∈ log, entry.sound = true := by
  unfold logOf at logged
  unfold CrossingFree
  cases ran : run (step (protocol.service tls).server) ((protocol.service tls).start tls)
      events with
  | error fault =>
    rw [ran] at logged
    cases logged
  | ok final =>
    rw [ran] at logged
    cases logged
    simp [NoCrossing]

/-- In a run in which nothing is left to read behind a line that switches to
TLS, no octet from before the switch is in a command after it. -/
theorem crossingFree_of_cleanSwitches (protocol : Protocol) (tls : Bool)
    (events : protocol.Run tls) (clean : CleanSwitches protocol tls events) :
    CrossingFree protocol tls events := by
  intro final ran
  have sealed : Sealed final := by
    apply run_invariant_of_stepsMeet Sealed _ (sealed_start _ tls) clean ran
    intro connection event next sealed clean stepped
    exact sealed.step clean stepped
  exact sealed.log

/-! ## Runs with and without pipelined commands -/

def octets (text : String) (secure : Bool) : List Octet := (lit text).map fun byte => ⟨byte, secure⟩

def imapTls : Protocol := .imap { Imap.plainConf with ssl := true }

def pop3Tls : Protocol := .pop3 true

def sieveTls : Protocol := .managesieve ⟨true, [], lit "3.3", lit "fileinto"⟩

def pop3Quiet : Pop3Env := ⟨false, false, fun _ _ session => (session, 1)⟩

def sieveQuiet : SieveEnv := ⟨true, false, fun _ session => (session, 1)⟩

def patient {ε ω : Type} (env : ε) (texts : List String) : List (Event ε ω) :=
  texts.map fun text => .readable env .waiting [lit text] .again

theorem crossingFree_of_cleanSwitches_patient :
    CrossingFree imapTls false (patient Imap.plainInput ["a STARTTLS\r\n", "b NOOP\r\n"]) ∧
    CrossingFree pop3Tls false (patient pop3Quiet ["STLS\r\n", "USER mrose\r\n"]) ∧
    CrossingFree sieveTls false (patient sieveQuiet ["STARTTLS\r\n", "LISTSCRIPTS\r\n"]) ∧
    logOf imapTls false (patient Imap.plainInput ["a STARTTLS\r\n", "b NOOP\r\n"]) =
      .ok [.tokenised (octets "a STARTTLS\r\n" false) false, .upgraded true,
        .tokenised (octets "b NOOP\r\n" true) true] := by
  refine ⟨?_, ?_, ?_, by decide +kernel⟩
  all_goals
    apply crossingFree_of_cleanSwitches
    decide +kernel

def imapPipelined : imapTls.Run false :=
  [.readable Imap.plainInput .waiting [lit "a STARTTLS\r\nb LOGIN mrose tanstaaf\r\n"] .again,
    .readable Imap.plainInput .waiting [lit "c NOOP\r\n"] .again]

def pop3Pipelined : pop3Tls.Run false :=
  [.readable pop3Quiet .waiting [lit "STLS\r\nUSER mrose\r\n"] .again, .wake pop3Quiet .waiting ()]

def sievePipelined : sieveTls.Run false :=
  [.readable sieveQuiet .waiting [lit "STARTTLS\r\nLISTSCRIPTS\r\n"] .again]

def crossed (switch command : String) : List Entry :=
  [.tokenised (octets switch false) false, .upgraded true, .tokenised (octets command false) true]

/-- A command pipelined behind STARTTLS is taken up under TLS: by the IMAP server
when the next input comes, by the POP3 server at its next write, and by the
ManageSieve server at once. -/
theorem pipelined_command_crosses :
    (logOf imapTls false imapPipelined =
        .ok (crossed "a STARTTLS\r\n" "b LOGIN mrose tanstaaf\r\n") ∧
      ¬ CrossingFree imapTls false imapPipelined) ∧
    (logOf pop3Tls false pop3Pipelined = .ok (crossed "STLS\r\n" "USER mrose\r\n") ∧
      ¬ CrossingFree pop3Tls false pop3Pipelined) ∧
    (logOf sieveTls false sievePipelined = .ok (crossed "STARTTLS\r\n" "LISTSCRIPTS\r\n") ∧
      ¬ CrossingFree sieveTls false sievePipelined) := by
  have imap : logOf imapTls false imapPipelined =
      .ok (crossed "a STARTTLS\r\n" "b LOGIN mrose tanstaaf\r\n") := by decide +kernel
  have pop3 : logOf pop3Tls false pop3Pipelined =
      .ok (crossed "STLS\r\n" "USER mrose\r\n") := by decide +kernel
  have sieve : logOf sieveTls false sievePipelined =
      .ok (crossed "STARTTLS\r\n" "LISTSCRIPTS\r\n") := by decide +kernel
  refine ⟨⟨imap, ?_⟩, ⟨pop3, ?_⟩, ⟨sieve, ?_⟩⟩
  · rw [crossingFree_iff imap]
    decide +kernel
  · rw [crossingFree_iff pop3]
    decide +kernel
  · rw [crossingFree_iff sieve]
    decide +kernel

end Dbmail.Client
