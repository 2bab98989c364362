import Dbmail.Imap.Dispatch
import Dbmail.Lib.Run

/-!
Contract: one IMAP connection as a state machine.

Owns the input loop `imap_handle_input`, the ends of a command
(`imap_handle_exit` and its cases), the return of a worker (`_ic_cb_leave`),
the timeout callback, and the trace of what the connection did with the
accounts and mailboxes.

Does not own: the socket. A call of the input loop is given the texts that its
reads return, in any split.
-/

namespace Dbmail.Imap

open Dbmail.Lib Dbmail.Auth

/-! ## The end of a command -/

variable (conf : ServerConf) (session : Session)

/-- `imap_handle_continue`, up to the handling of buffered input. -/
def Session.continue_ : Session :=
  if session.state.code < ClientState.logout.code ∧ session.commandState = .done then session.reset
  else session

/-- `imap_handle_retry`. -/
def Session.retry : Session :=
  if session.eof then session.bailout
  else { session with errorCount := session.errorCount + 1 }.reset

/-- `imap_handle_done`. -/
def Session.done : Session :=
  (session.send [.untagged (lit "BYE Requested"), .ok (lit "LOGOUT completed")]).bailout

/-- `imap_handle_exit`. -/
def Session.exit (status : Int) : Session :=
  if status = -1 then session.abort
  else if status = 0 then session.continue_
  else if status = 1 then session.retry
  else if status = 2 then session.done
  else if status = 3 then session.reset
  else session

/-! ## Input -/

def maxFaultyResponses : Nat := 5

structure InputEnv where
  token : TokenEnv
  world : World
  ping : Bool
  accepted : Bool

def Session.idleLine (input : Bytes) : Session :=
  let buffer := cstr input
  (session.send [if 4 < buffer.length ∧ smatch (buffer.take 4) "DONE" then
    .ok (lit "IDLE terminated") else .bad (lit "Expecting DONE")]).reset

def Session.idling : Bool :=
  session.commandType = some .idle && session.commandState = .idle

/-! ## What is observed -/

/-- What a connection does with accounts and mailboxes: a call of
`auth_validate`, a handler that passes its state check, and a worker or
refresh that runs. -/
inductive TraceEvent where
  | attempt (attempt : Attempt)
  | passed (command : Command) (userid : Nat)
  | ran (command : Command) (userid : Nat)
deriving DecidableEq

/-- The commands that reach mailboxes, messages, subscriptions, quota or ACLs,
and the two (ENABLE, NAMESPACE) that only need a login. -/
def gated : Command → Bool
  | .capability | .noop | .logout | .authenticate | .login | .starttls | .id => false
  | _ => true

def pushTrace (before after : Session) : List TraceEvent :=
  match after.job with
  | some job => if before.job.isNone ∧ gated job then [.passed job after.userid] else []
  | none => []

def dispatchTrace (before after : Session) : List TraceEvent :=
  pushTrace before after ++
    if after.idling then [.passed .idle after.userid, .ran .idle after.userid] else []

/-! ## The input loop -/

def dispatchCommand (env : InputEnv) (before : Session) :
    Except Fault (Session × List TraceEvent) := do
  let (after, result) ← imap4 conf env.world env.ping env.accepted before
  let trace := dispatchTrace before after
  if result ≠ 0 ∨ after.idling then return (after.exit result, trace)
  return (after, trace)

/-- A tokenizer, which is given its environment, a session and a text. -/
abbrev Reader := TokenEnv → Session → Bytes → Except Fault (Session × ParserState)

/-- The loop of `imap_handle_input` over the texts its reads return. -/
def inputLoopWith (conf : ServerConf) (read : Reader) (env : InputEnv) :
    Session → List Bytes → Except Fault (Session × List TraceEvent)
  | session, [] => .ok (session, [])
  | session, input :: rest =>
    if maxFaultyResponses ≤ session.errorCount then
      .ok ((session.send [.untagged (lit "BYE [TRY RFC]")]).abort, [])
    else if session.idling then inputLoopWith conf read env (session.idleLine input) rest
    else
      match read env.token session input with
      | .error fault => .error fault
      | .ok (session, .pending) => inputLoopWith conf read env session rest
      | .ok (session, .error) => .ok ((session.send [.bad (lit "parse error")]).retry, [])
      | .ok (session, .complete) => dispatchCommand conf env session

/-- `imap_handle_input`: nothing happens while a command is in progress. -/
def handleInputWith (read : Reader) (env : InputEnv) (session : Session)
    (inputs : List Bytes) : Except Fault (Session × List TraceEvent) :=
  if session.commandState = .inProgress ∧ session.parserState = .complete then .ok (session, [])
  else
    inputLoopWith conf read env
      (if session.commandState = .done then session.reset else session) inputs

def inputLoop := inputLoopWith conf (tokenizer conf)

def handleInput := handleInputWith conf (tokenizer conf)

/-! ## The machine -/

structure Connection where
  session : Session
  trace : List TraceEvent

/-- What can happen to a connection. A worker runs and returns in one step:
until it has returned, no event of the client is delivered. -/
inductive Event where
  | input (env : InputEnv) (inputs : List Bytes)
  | complete (env : AuthEnv) (world : World) (clientError : Bool)
  | timeout (world : World)
  | clientError
  | clientEof
  | writeError

/-- The return of a worker through `_ic_cb_leave`. -/
def Session.leave (status : Int) (clientError : Bool) : Session :=
  let session := { session with job := none, commandState := .done }
  if clientError then session.abort else session.exit status

def completeJob (env : AuthEnv) (world : World) (clientError : Bool) (connection : Connection)
    (job : Command) : Except Fault Connection := do
  let session := connection.session
  if job = .authenticate then
    let (session, status, attempt) ← authenticateEnter env session
    return ⟨session.leave status clientError, connection.trace ++ [.attempt attempt]⟩
  else
    let (status, effects) ← enter world session job
    let runs := gated job ∨ (job = .noop ∧ session.state = .selected)
    return ⟨(session.applyEffects effects).leave status clientError,
      connection.trace ++ if runs then [.ran job session.userid] else []⟩

/-- `imap_cb_time`. -/
def Session.timeout (session : Session) (world : World) : Session :=
  if session.idling then session.refresh world
  else ((session.setState .error).send
    [.untagged (lit "BYE dbmail IMAP4 server signing off due to timeout")]).bailout

def stepWith (read : Reader) (connection : Connection) :
    Event → Except Fault Connection
  | .input env inputs => do
    let (after, trace) ← handleInputWith conf read env connection.session inputs
    return ⟨after, connection.trace ++ trace⟩
  | .complete env world clientError =>
    match connection.session.job with
    | some job => completeJob env world clientError connection job
    | none => .ok connection
  | .timeout world =>
    .ok ⟨connection.session.timeout world,
      connection.trace ++
        if connection.session.idling then [.ran .idle connection.session.userid] else []⟩
  | .clientError => .ok { connection with session := connection.session.bailout }
  | .clientEof => .ok { connection with session := { connection.session with eof := true } }
  | .writeError => .ok { connection with session := connection.session.abort }

def step := stepWith conf (tokenizer conf)

def start (sslState : Bool) : Connection := ⟨handleConnection conf sslState, []⟩

end Dbmail.Imap
