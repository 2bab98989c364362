import Dbmail.Auth.Accounts
import Dbmail.Client.Services
import Dbmail.Sieve.Scripts

/-!
Contract: the lines of a ManageSieve session.

Owns the bodies of the commands of `sieve` on their argument list,
`base64_decodev`, the handling of one line, long ones included, with the tokenizer and
the dispatcher of the session, and when a line is answered as the command it names.

Does not own: the tokenizer and the dispatcher themselves, base64, or the
authentication, which says for a name and a password which user they are of.
-/

namespace Dbmail.Sieve

open Dbmail.Auth (SelectFault)
open Dbmail.Lib Dbmail.Client List

/-! ## The server of a session -/

structure Backend where
  conf : SieveConf
  base64 : Bytes → Bytes
  libsieve : Libsieve

structure LineMet where
  ping : Bool := true
  clientError : Bool := false
  handshake : Handshake
  active : Bool := false
  /-- `auth_validate`: the user when it returns 1. -/
  validate : Option Bytes → Option Bytes → Option Nat
  put : PutMet := {}
  listing : SelectFault := .none
  readFails : Bool := false
  fails : Bool := false

/-- A line on the network, of any length. -/
structure SentLine where
  content : Bytes
  noLf : (10 : UInt8) ∉ content
  noNul : (0 : UInt8) ∉ content

def SentLine.bytes (line : SentLine) : Bytes := line.content ++ [10]

/-- A session with its user and the table of scripts. A line that `ci_readln` does not return
stalls it: the line stays in the read buffer, and nothing behind it is read. -/
structure ScriptServer where
  session : SieveSession
  useridnr : Nat
  scripts : Scripts
  stalled : Bool := false

def LineMet.env (met : LineMet) : SieveEnv := ⟨met.ping, met.clientError, fun _ session => (session, 1)⟩

def ScriptServer.write (server : ScriptServer) (texts : List Bytes) : ScriptServer :=
  { server with session := server.session.write texts }

/-- The end of a command: what `sieve` returns, and the arguments it has run with. -/
structure Body where
  server : ScriptServer
  result : Int
  ran : Option (List Bytes)

section Bodies

variable (backend : Backend) (met : LineMet) (server : ScriptServer)

/-- A return of `sieve_error`. -/
def refuse (text : Bytes) : Body :=
  let refused := sieveError met.env server.session text
  ⟨{ server with session := refused.1 }, refused.2, none⟩

def authenticatedOnly (body : Except Fault Body) : Except Fault Body :=
  if server.session.state ≠ .authenticated then
    .ok ⟨server.write [lit "NO \"Please authenticate first.\"\r\n"], 1, none⟩
  else body

/-- A field of `base64_decodev`. The array has a NULL behind the last field. -/
def saslField (fields : List Bytes) (index : Nat) : Except Fault (Option Bytes) :=
  if fields.length < index then .error .outOfBounds else .ok fields[index]?

/-- `base64_decodev` on the decoded bytes and the NUL behind them. -/
def base64Decodev (decoded : Bytes) : List Bytes := decoded.splitOn 0

/-- `SIEVE_AUTH`. Too few fields are reported, and read all the same. -/
def sieveAuth : Except Fault Body :=
  match server.session.args with
  | [] => .ok ⟨server, 1, none⟩
  | mechanism :: rest =>
    if strcasecmpEq mechanism (lit "PLAIN") then
      match rest with
      | [] => .ok (refuse met server (lit "NO \"Missing argument.\"\r\n"))
      | response :: _ =>
        let fields := base64Decodev (backend.base64 response)
        let warned := if fields.length < 3 then
          (refuse met server (lit "NO \"Too few encoded SASL arguments.\"\r\n")).server
          else server
        match saslField fields 1, saslField fields 2 with
        | .ok username, .ok password =>
          match met.validate username password with
          | some useridnr =>
            let greeted := warned.session.write [lit "OK\r\n"]
            .ok ⟨{ warned with
              session := { greeted with state := .authenticated }
              useridnr := useridnr }, 1, some server.session.args⟩
          | none =>
            .ok { refuse met warned (lit "NO \"Username or password incorrect.\"\r\n") with
              ran := some server.session.args }
        | .error fault, _ => .error fault
        | _, .error fault => .error fault
    else .ok (refuse met server (lit "NO \"Authentication scheme not supported.\"\r\n"))

def conclude (outcome : Outcome) : Body :=
  let changed := { server with scripts := outcome.scripts }
  match outcome.reply with
  | .ok text => ⟨changed.write [text], 1, some server.session.args⟩
  | .error text => { refuse met changed text with ran := some server.session.args }

/-- `SIEVE_PUTS`. The assertion is on the second argument. -/
def sievePuts : Except Fault Body :=
  authenticatedOnly server <| match server.session.args with
    | [] => .ok ⟨server, 1, none⟩
    | [_] => .error .assertion
    | name :: script :: _ =>
      .ok (conclude met server
        (putscript backend.libsieve server.scripts server.useridnr name script met.put))

/-- `SIEVE_SETS`. Without an argument the active script is deactivated. -/
def sieveSets : Except Fault Body :=
  authenticatedOnly server (.ok (conclude met server
    (setactive server.scripts server.useridnr (server.session.args.head?.getD []) met.readFails
      met.fails)))

def sieveGets : Except Fault Body :=
  authenticatedOnly server <| match server.session.args with
    | [] => .ok ⟨server, 1, none⟩
    | name :: _ =>
      if name = [] then .ok (refuse met server (lit "NO \"Script name required.\"\r\n"))
      else
        match if met.readFails then none
          else sievescriptGetbyname server.scripts server.useridnr name with
        | none =>
          .ok { refuse met server (lit "NO \"Script not found.\"\r\n") with
            ran := some server.session.args }
        | some script =>
          .ok ⟨server.write [lit "\x7b" ++ digits script.length ++ lit "\x7d\r\n",
            script ++ lit "\r\n", lit "OK\r\n"], 1, some server.session.args⟩

def sieveDels : Except Fault Body :=
  authenticatedOnly server <| match server.session.args with
    | [] => .ok ⟨server, 1, none⟩
    | name :: _ =>
      .ok (conclude met server (deletescript server.scripts server.useridnr name met.fails))

/-- `SIEVE_SPAC`. The check of the quota always succeeds. -/
def sieveSpac : Except Fault Body :=
  authenticatedOnly server
    (.ok ⟨server.write [lit "OK (QUOTA)\r\n"], 1, some server.session.args⟩)

/-- `SIEVE_LIST`. The list is built from its end, with names of at most 511 bytes. A query that
fails gives no rows. -/
def sieveList : Except Fault Body :=
  let own := if met.listing = .query then []
    else (server.scripts.filter fun row => row.owner = server.useridnr).reverse
  let line := fun row : ScriptRow => lit "\"" ++ row.name.take 511 ++ lit "\"" ++
    (if row.active then lit " ACTIVE" else []) ++ lit "\r\n"
  authenticatedOnly server
    (.ok ⟨server.write (if met.listing = .fetch then [lit "NO \"Internal error.\"\r\n"]
      else if own = [] then [lit "OK \"No scripts found.\"\r\n"]
      else own.map line ++ [lit "OK\r\n"]), 1, some server.session.args⟩)

/-- The arguments with which one of the commands of the shared dispatcher runs. -/
def sharedRuns : Option (List Bytes) :=
  match server.session.commandType with
  | .logout | .capability => some server.session.args
  | .starttls =>
    if server.session.upgrades backend.conf.ssl met.active then some server.session.args else none
  | _ => none

/-- `sieve`, with the bodies of all commands. -/
def sieveBody : Except Fault Body :=
  match server.session.commandType with
  | .authenticate => sieveAuth backend met server
  | .putscript => sievePuts backend met server
  | .setactive => sieveSets met server
  | .getscript => sieveGets met server
  | .deletescript => sieveDels met server
  | .havespace => sieveSpac server
  | .listscripts => sieveList met server
  | _ =>
    let done := sieve backend.conf met.env met.handshake met.active server.session
    .ok ⟨{ server with session := done.1 }, done.2, sharedRuns backend met server⟩

end Bodies

/-! ## Lines -/

structure LineDone where
  server : ScriptServer
  ran : Option (SieveCommand × List Bytes)

variable (backend : Backend) (server : ScriptServer) (input : LineMet × SentLine)

/-- One turn of the loop in `sieve_handle_input`. Nothing is read for a closed session. A line
that fills the buffer leaves no room for the terminating NUL, and the tokenizer reads past its
end. -/
def sieveLine : Except Fault LineDone :=
  if server.session.state = .quitQueued ∨ server.stalled = true then .ok ⟨server, none⟩
  else if maxLinesize < input.2.bytes.length then .ok ⟨{ server with stalled := true }, none⟩
  else if input.2.bytes.length = maxLinesize then .error .outOfBounds
  else
    let token := sieveTokenizer input.1.env server.session input.2.bytes
    if token.2 = 0 then .ok ⟨{ server with session := token.1 }, none⟩
    else if token.2 = -3 then .ok ⟨{ server with session := token.1.bailout }, none⟩
    else
      match sieveBody backend input.1 { server with session := token.1 } with
      | .error fault => .error fault
      | .ok body =>
        .ok ⟨{ body.server with
          session := if body.result = -3 then body.server.session.bailout
            else body.server.session.resetParser
          stalled := false }, body.ran.map fun args => (token.1.commandType, args)⟩

def lineStep :
    Except Fault ScriptServer := (sieveLine backend server input).map LineDone.server

/-! ## What is expected of a line -/

/-- A text with NO has been sent, or the last one before the session is closed for its
errors. -/
def Refused (before after : List Bytes) : Prop :=
  ∃ new, after = before ++ new ∧ ∃ text ∈ new,
    lit "NO" <+: text ∨ text = lit "BYE \"Too many errors, closing connection.\"\r\n"

def HasArguments (base64 : Bytes → Bytes) : SieveCommand → List Bytes → Prop
  | .authenticate, args =>
    ∃ response ∈ args[1]?, 3 ≤ (base64Decodev (base64 response)).length
  | .putscript, args | .havespace, args => 2 ≤ args.length
  | .setactive, args | .getscript, args | .deletescript, args => 1 ≤ args.length
  | _, _ => True

def lineNames (session : SieveSession) (line : Bytes) : SieveCommand :=
  if session.commandType = .logout then sieveCommand (commandLine line) else session.commandType

/-- A line does no harm: it is read; what runs is the command it names, with its arguments; if
nothing runs, the line is blank, or the command waits for more, or NO is answered. -/
def LineRight : Prop :=
  server.session.state = .quitQueued ∨ ∃ done, sieveLine backend server input = .ok done ∧
      done.server.stalled = false ∧
      match done.ran with
      | some (command, args) =>
        command = lineNames server.session input.2.bytes ∧ HasArguments backend.base64 command args
      | none =>
        (server.session.commandType = .logout ∧ commandLine input.2.bytes = []) ∨
        (lineNames server.session input.2.bytes ≠ .logout ∧ done.server.session.state ≠ .quitQueued ∧
          done.server.session.commandType = lineNames server.session input.2.bytes) ∨
        Refused server.session.sent done.server.session.sent

/-! ## When a line is served -/

/-- The arguments that a text completes. -/
def gathered (session : SieveSession) (buffer : Bytes) (value : Option Bytes) :
    Option (List Bytes) :=
  if (sieveArguments session buffer value).2 = 0 then none
  else some (sieveArguments session buffer value).1.args

def Suffices (base64 : Bytes → Bytes) (state : Imap.ClientState) : SieveCommand → List Bytes → Prop
  | .starttls, _ => state ≠ .authenticated
  | .authenticate, args =>
    ∃ mechanism ∈ args.head?, strcasecmpEq mechanism (lit "PLAIN") = true →
      ∀ response ∈ args[1]?, 3 ≤ (base64Decodev (base64 response)).length
  | .putscript, args | .havespace, args => state = .authenticated → 2 ≤ args.length
  | .setactive, args | .getscript, args | .deletescript, args =>
    state = .authenticated → 1 ≤ args.length
  | _, _ => True

/-- What a line has to meet: it leaves room in the buffer, and so have those before it; a command
that takes an argument has one on its line, unless the session is closed for it; LOGOUT has no
literal; and completed arguments are enough. -/
def LineServed : Prop :=
  let session := server.session
  let line := commandLine input.2.bytes
  if session.state = .quitQueued then True
  else if server.stalled = true ∨ maxLinesize ≤ input.2.bytes.length then False
  else if session.commandType ≠ .logout then
    ∀ args ∈ gathered session (cstr input.2.bytes) none,
      Suffices backend.base64 session.state session.commandType args
  else if line = [] then True
  else if lineValue line = none ∧ (sieveCommand line).takesArgument then
    3 ≤ session.errorCount ∨ input.1.clientError = true
  else
    match gathered { session with commandType := sieveCommand line } (lineCommand line)
        (lineValue line) with
    | none => sieveCommand line ≠ .logout
    | some args => Suffices backend.base64 session.state (sieveCommand line) args

instance Suffices.decidable (base64 : Bytes → Bytes) (state : Imap.ClientState) :
    (command : SieveCommand) → (args : List Bytes) → Decidable (Suffices base64 state command args)
  | .starttls, _ => inferInstanceAs (Decidable (state ≠ .authenticated))
  | .authenticate, args => inferInstanceAs (Decidable (∃ mechanism ∈ args.head?,
      strcasecmpEq mechanism (lit "PLAIN") = true →
        ∀ response ∈ args[1]?, 3 ≤ (base64Decodev (base64 response)).length))
  | .putscript, args | .havespace, args =>
    inferInstanceAs (Decidable (state = .authenticated → 2 ≤ args.length))
  | .setactive, args | .getscript, args | .deletescript, args =>
    inferInstanceAs (Decidable (state = .authenticated → 1 ≤ args.length))
  | .logout, _ | .capability, _ | .listscripts, _ | .unknown, _ => inferInstanceAs (Decidable True)

instance LineServed.decidable : Decidable (LineServed backend server input) := by
  unfold LineServed
  dsimp only
  cases gathered { server.session with commandType := sieveCommand (commandLine input.2.bytes) }
    (lineCommand (commandLine input.2.bytes)) (lineValue (commandLine input.2.bytes))
  all_goals
    dsimp only
    infer_instance

/-! ## The bodies -/

section Bodies

variable {backend : Backend} {met : LineMet} {server : ScriptServer}

/-- A body returns, and either its command has had its arguments or NO is answered. -/
def Ends (base64 : Bytes → Bytes) (server : ScriptServer) (result : Except Fault Body) : Prop :=
  ∃ body, result = .ok body ∧
    match body.ran with
    | some args => HasArguments base64 server.session.commandType args
    | none => Refused server.session.sent body.server.session.sent

theorem refused_no {before : List Bytes} {text : Bytes} (isNo : lit "NO" <+: text) :
    Refused before (before ++ [text]) :=
  ⟨[text], rfl, text, mem_singleton_self text, .inl isNo⟩

theorem refused_sieveError {env : SieveEnv} {session : SieveSession} {text : Bytes}
    (isNo : lit "NO" <+: text) : Refused session.sent (sieveError env session text).1.sent := by
  unfold sieveError
  split
  · exact ⟨_, rfl, _, mem_singleton_self _, .inr rfl⟩
  · split <;> exact refused_no isNo

theorem not_refused_self (sent : List Bytes) : ¬ Refused sent sent := by
  rintro ⟨new, same, text, member, _⟩
  obtain rfl : new = [] := by simpa using same
  cases member

variable {base64 : Bytes → Bytes}

theorem ends_refuse {text : Bytes} (isNo : lit "NO" <+: text) :
    Ends base64 server (.ok (refuse met server text)) :=
  ⟨_, rfl, refused_sieveError isNo⟩

theorem not_ends_silent : ¬ Ends base64 server (.ok ⟨server, 1, none⟩) := by
  rintro ⟨body, returned, refused⟩
  cases returned
  exact not_refused_self _ refused

theorem not_ends_error {fault : Fault} : ¬ Ends base64 server (.error fault) := by
  rintro ⟨body, returned, _⟩
  cases returned

theorem ends_ran {body : Body} {args : List Bytes} (ran : body.ran = some args) :
    Ends base64 server (.ok body) ↔ HasArguments base64 server.session.commandType args := by
  constructor
  · rintro ⟨same, returned, has⟩
    cases returned
    rw [ran] at has
    exact has
  · intro has
    refine ⟨body, rfl, ?_⟩
    rw [ran]
    exact has

theorem ends_authenticatedOnly (result : Except Fault Body) :
    Ends base64 server (authenticatedOnly server result) ↔
      (server.session.state = .authenticated → Ends base64 server result) := by
  unfold authenticatedOnly
  by_cases inside : server.session.state = .authenticated
  · rw [if_neg (not_not.mpr inside)]
    exact ⟨fun ends _ => ends, fun ends => ends inside⟩
  · rw [if_pos inside]
    refine ⟨fun _ other => absurd other inside, fun _ => ⟨_, rfl, ?_⟩⟩
    exact refused_no (by decide +kernel)

theorem conclude_ran {outcome : Outcome} :
    (conclude met server outcome).ran = some server.session.args := by
  unfold conclude
  split <;> rfl

/-- The fields are read in full only when there are three. -/
theorem saslField_ok {fields : List Bytes} (enough : 3 ≤ fields.length) :
    (∃ username, saslField fields 1 = .ok username) ∧
      ∃ password, saslField fields 2 = .ok password := by
  unfold saslField
  rw [if_neg (by omega), if_neg (by omega)]
  exact ⟨⟨_, rfl⟩, _, rfl⟩

theorem ends_sieveAuth (pending : server.session.commandType = .authenticate) :
    Ends backend.base64 server (sieveAuth backend met server) ↔
      Suffices backend.base64 server.session.state .authenticate server.session.args := by
  unfold sieveAuth
  cases given : server.session.args with
  | nil =>
    exact ⟨fun ends => absurd ends not_ends_silent, by simp [Suffices]⟩
  | cons mechanism rest =>
    dsimp only
    by_cases plain : strcasecmpEq mechanism (lit "PLAIN") = true
    · rw [if_pos plain]
      cases rest with
      | nil =>
        refine ⟨fun _ => ⟨mechanism, rfl, fun _ response none_ => ?_⟩, fun _ => ?_⟩
        · cases none_
        · exact ends_refuse (by decide +kernel)
      | cons response others =>
        have suffices_iff : Suffices backend.base64 server.session.state .authenticate
            (mechanism :: response :: others) ↔
              3 ≤ (base64Decodev (backend.base64 response)).length := by
          simp [Suffices, plain]
        have has_iff : HasArguments backend.base64 server.session.commandType
            (mechanism :: response :: others) ↔
              3 ≤ (base64Decodev (backend.base64 response)).length := by
          simp [HasArguments, pending]
        rw [suffices_iff]
        dsimp only
        generalize base64Decodev (backend.base64 response) = fields at has_iff
        cases first : saslField fields 1 with
        | error fault =>
          refine ⟨fun ends => absurd ends not_ends_error, ?_⟩
          intro enough
          obtain ⟨username, read⟩ := (saslField_ok enough).1
          rw [read] at first
          cases first
        | ok username =>
          cases second : saslField fields 2 with
          | error fault =>
            refine ⟨fun ends => absurd ends not_ends_error, ?_⟩
            intro enough
            obtain ⟨password, read⟩ := (saslField_ok enough).2
            rw [read] at second
            cases second
          | ok password =>
            dsimp only
            rw [← has_iff]
            split <;> exact ends_ran rfl
    · rw [if_neg plain]
      refine ⟨fun _ => ⟨mechanism, rfl, fun other => absurd other plain⟩, fun _ => ?_⟩
      exact ends_refuse (by decide +kernel)

theorem ends_sievePuts (pending : server.session.commandType = .putscript) :
    Ends backend.base64 server (sievePuts backend met server) ↔
      Suffices backend.base64 server.session.state .putscript server.session.args := by
  unfold sievePuts
  rw [ends_authenticatedOnly]
  apply imp_congr_right
  intro _
  cases given : server.session.args with
  | nil => simpa using not_ends_silent
  | cons name rest =>
    cases rest with
    | nil => simpa using not_ends_error
    | cons script others =>
      rw [ends_ran conclude_ran, pending, given]
      rfl

theorem ends_sieveSets (pending : server.session.commandType = .setactive) :
    Ends base64 server (sieveSets met server) ↔
      Suffices base64 server.session.state .setactive server.session.args := by
  unfold sieveSets
  rw [ends_authenticatedOnly, ends_ran conclude_ran, pending]
  rfl

theorem ends_sieveGets (pending : server.session.commandType = .getscript) :
    Ends base64 server (sieveGets met server) ↔
      Suffices base64 server.session.state .getscript server.session.args := by
  unfold sieveGets
  rw [ends_authenticatedOnly]
  apply imp_congr_right
  intro _
  cases given : server.session.args with
  | nil => simpa using not_ends_silent
  | cons name others =>
    dsimp only
    refine iff_of_true ?_ (Nat.le_add_left 1 others.length)
    have has : HasArguments base64 server.session.commandType (name :: others) := by
      rw [pending]
      exact Nat.le_add_left 1 others.length
    split
    · exact ends_refuse (by decide +kernel)
    · split <;> exact (ends_ran rfl).mpr has

theorem ends_sieveDels (pending : server.session.commandType = .deletescript) :
    Ends base64 server (sieveDels met server) ↔
      Suffices base64 server.session.state .deletescript server.session.args := by
  unfold sieveDels
  rw [ends_authenticatedOnly]
  apply imp_congr_right
  intro _
  cases given : server.session.args with
  | nil => simpa using not_ends_silent
  | cons name others =>
    rw [ends_ran conclude_ran, pending, given]
    rfl

theorem ends_sieveSpac (pending : server.session.commandType = .havespace) :
    Ends base64 server (sieveSpac server) ↔
      Suffices base64 server.session.state .havespace server.session.args := by
  unfold sieveSpac
  rw [ends_authenticatedOnly, ends_ran rfl, pending]
  rfl

theorem ends_sieveList (pending : server.session.commandType = .listscripts) :
    Ends base64 server (sieveList met server) := by
  unfold sieveList
  rw [ends_authenticatedOnly, ends_ran rfl, pending]
  exact fun _ => trivial

/-- STARTTLS runs, or is refused, unless the session is authenticated. -/
theorem ends_sieveStarttls (pending : server.session.commandType = .starttls) :
    Ends backend.base64 server (sieveBody backend met server) ↔
      server.session.state ≠ .authenticated := by
  have body : sieveBody backend met server =
      .ok ⟨{ server with
        session := (sieveStarttls backend.conf met.env met.handshake met.active server.session).1 },
        (sieveStarttls backend.conf met.env met.handshake met.active server.session).2,
        if server.session.upgrades backend.conf.ssl met.active then some server.session.args
        else none⟩ := by
    simp [sieveBody, sieve, sharedRuns, pending]
  rw [body]
  by_cases inside : server.session.state = .authenticated
  · refine iff_of_false ?_ (not_not.mpr inside)
    have stays : server.session.upgrades backend.conf.ssl met.active = false := by
      simp [SieveSession.upgrades, inside]
    rintro ⟨done, returned, refused⟩
    cases returned
    rw [stays, sieveStarttls, if_pos inside] at refused
    obtain ⟨new, same, text, member, isNo⟩ := refused
    obtain rfl : [lit "Already authenticatd\r\n"] = new := append_cancel_left same
    obtain rfl := mem_singleton.mp member
    revert isNo
    decide +kernel
  · refine iff_of_true ?_ inside
    by_cases upgrades : server.session.upgrades backend.conf.ssl met.active = true
    · rw [upgrades]
      refine (ends_ran rfl).mpr ?_
      rw [pending]
      trivial
    · refine ⟨_, rfl, ?_⟩
      rw [Bool.not_eq_true] at upgrades
      rw [upgrades]
      unfold sieveStarttls
      rw [if_neg inside]
      cases ssl : backend.conf.ssl with
      | false =>
        exact refused_no (by decide +kernel)
      | true =>
        cases active : met.active with
        | true =>
          exact refused_no (by decide +kernel)
        | false => simp [SieveSession.upgrades, pending, inside, ssl, active] at upgrades

/-- A body ends as it should exactly when its arguments are enough. -/
theorem ends_sieveBody :
    Ends backend.base64 server (sieveBody backend met server) ↔
      Suffices backend.base64 server.session.state server.session.commandType
        server.session.args := by
  by_cases upgrade : server.session.commandType = .starttls
  · rw [upgrade]
    exact ends_sieveStarttls upgrade
  rw [sieveBody]
  cases pending : server.session.commandType with
  | logout | capability =>
    simp only [sharedRuns, pending]
    rw [ends_ran rfl, pending]
    rfl
  | unknown =>
    simp only [sharedRuns]
    refine iff_of_true ⟨_, rfl, ?_⟩ trivial
    simp only [sieve, pending]
    exact refused_sieveError (by decide +kernel)
  | starttls => exact absurd pending upgrade
  | listscripts => exact iff_of_true (ends_sieveList pending) trivial
  | authenticate => exact ends_sieveAuth pending
  | deletescript => exact ends_sieveDels pending
  | getscript => exact ends_sieveGets pending
  | setactive => exact ends_sieveSets pending
  | havespace => exact ends_sieveSpac pending
  | putscript => exact ends_sievePuts pending

end Bodies

/-! ## The tokenizer -/

section Tokenizer

variable {session : SieveSession} {buffer : Bytes} {value : Option Bytes}

theorem sieveArguments_kept :
    (sieveArguments session buffer value).1.commandType = session.commandType ∧
      (sieveArguments session buffer value).1.state = session.state ∧
      (sieveArguments session buffer value).1.sent = session.sent := by
  unfold sieveArguments
  split
  · split <;> exact ⟨rfl, rfl, rfl⟩
  · split
    · exact ⟨rfl, rfl, rfl⟩
    · split <;> exact ⟨rfl, rfl, rfl⟩

/-- A text completes the arguments or leaves the parser as it was. -/
theorem sieveArguments_result (off : session.parserState = false) :
    (sieveArguments session buffer value).2 = 1 ∨
      (sieveArguments session buffer value).2 = 0 ∧
        (sieveArguments session buffer value).1.parserState = false := by
  unfold sieveArguments
  split
  · split
    · exact .inl rfl
    · refine .inr ⟨?_, off⟩
      rw [off]
      rfl
  · split
    · exact .inl rfl
    · split
      · exact .inr ⟨rfl, off⟩
      · exact .inl rfl

end Tokenizer

/-! ## Lines and runs -/

section Lines

variable {backend : Backend} {server : ScriptServer} {input : LineMet × SentLine}

variable {session : SieveSession}

section Token

variable (isOpen : server.session.state ≠ .quitQueued) (reads : server.stalled = false)
  (fits : input.2.bytes.length < maxLinesize)
  (filled : ¬ (server.session.commandType = .logout ∧ commandLine input.2.bytes = []))

include isOpen reads fits

omit filled in
theorem sieveLine_read : sieveLine backend server input =
    let token := sieveTokenizer input.1.env server.session input.2.bytes
    if token.2 = 0 then .ok ⟨{ server with session := token.1 }, none⟩
    else if token.2 = -3 then .ok ⟨{ server with session := token.1.bailout }, none⟩
    else
      match sieveBody backend input.1 { server with session := token.1 } with
      | .error fault => .error fault
      | .ok body =>
        .ok ⟨{ body.server with
          session := if body.result = -3 then body.server.session.bailout
            else body.server.session.resetParser
          stalled := false }, body.ran.map fun args => (token.1.commandType, args)⟩ := by
  rw [sieveLine, if_neg (by simp [isOpen, reads]), if_neg (by omega), if_neg (by omega)]

include filled

theorem lineRight_pending (token : sieveTokenizer input.1.env server.session input.2.bytes = (session, 0))
    (same : session.commandType = lineNames server.session input.2.bytes)
    (state : session.state = server.session.state) (sent : session.sent = server.session.sent) :
    LineRight backend server input ↔ lineNames server.session input.2.bytes ≠ .logout := by
  have done : sieveLine backend server input = .ok ⟨{ server with session := session }, none⟩ := by
    rw [sieveLine_read isOpen reads fits, token]
    rfl
  constructor
  · rintro (closed | ⟨result, returned, -, right⟩)
    · exact absurd closed isOpen
    · rw [done] at returned
      cases returned
      obtain blank | pending | refused := right
      · exact absurd blank filled
      · exact pending.1
      · rw [sent] at refused
        exact absurd refused (not_refused_self _)
  · intro named
    exact .inr ⟨_, done, reads, .inr (.inl ⟨named, state ▸ isOpen, same⟩)⟩

theorem lineRight_complete (token : sieveTokenizer input.1.env server.session input.2.bytes = (session, 1))
    (same : session.commandType = lineNames server.session input.2.bytes)
    (sent : session.sent = server.session.sent) :
    LineRight backend server input ↔ Ends backend.base64 { server with session := session }
        (sieveBody backend input.1 { server with session := session }) := by
  have line : sieveLine backend server input =
      match sieveBody backend input.1 { server with session := session } with
      | .error fault => .error fault
      | .ok body =>
        .ok ⟨{ body.server with
          session := if body.result = -3 then body.server.session.bailout
            else body.server.session.resetParser
          stalled := false }, body.ran.map fun args => (session.commandType, args)⟩ := by
    rw [sieveLine_read isOpen reads fits, token]
    rfl
  unfold LineRight Ends
  rw [line]
  cases sieveBody backend input.1 { server with session := session } with
  | error fault =>
    refine iff_of_false ?_ (by simp)
    rintro (closed | ⟨done, returned, _⟩)
    · exact isOpen closed
    · cases returned
  | ok body =>
    have sentAfter : (if body.result = -3 then body.server.session.bailout
        else body.server.session.resetParser).sent = body.server.session.sent := by
      split <;> rfl
    simp only [isOpen, false_or, Except.ok.injEq, exists_eq_left', true_and]
    cases body.ran with
    | some args => exact and_iff_right same
    | none =>
      rw [sentAfter, ← sent]
      refine ⟨fun right => ?_, fun refused => .inr (.inr refused)⟩
      obtain blank | ⟨named, stays, pending⟩ | refused := right
      · exact absurd blank filled
      · -- the parser is reset, and a session that is closed does not stay open
        split at stays
        · exact absurd rfl stays
        · rename_i kept
          rw [if_neg kept] at pending
          exact absurd pending.symm named
      · exact refused

/-- A text for the arguments of a command, that of the line or a pending one. -/
theorem lineRight_arguments {buffer : Bytes} {value : Option Bytes}
    (off : session.parserState = false)
    (token : sieveTokenizer input.1.env server.session input.2.bytes =
      sieveArguments session buffer value)
    (named : session.commandType = lineNames server.session input.2.bytes)
    (state : session.state = server.session.state) (sent : session.sent = server.session.sent) :
    LineRight backend server input ↔
      match gathered session buffer value with
      | none => session.commandType ≠ .logout
      | some args => Suffices backend.base64 session.state session.commandType args := by
  obtain ⟨keptType, keptState, keptSent⟩ := @sieveArguments_kept session buffer value
  obtain complete | ⟨waits, -⟩ := @sieveArguments_result session buffer value off
  · have all : gathered session buffer value =
        some (sieveArguments session buffer value).1.args := by
      rw [gathered, if_neg (by simp [complete])]
    rw [lineRight_complete isOpen reads fits filled (token.trans (Prod.ext rfl complete))
      (keptType.trans named) (keptSent.trans sent), ends_sieveBody, all]
    rw [keptState, keptType]
  · have some_ : gathered session buffer value = none := if_pos waits
    rw [lineRight_pending isOpen reads fits filled (token.trans (Prod.ext rfl waits))
      (keptType.trans named) (keptState.trans state) (keptSent.trans sent), some_, named]

end Token

variable {env : SieveEnv} {text : Bytes}

theorem sieveError_closes (closes : 3 ≤ session.errorCount ∨ env.clientError = true) :
    (sieveError env session text).2 = -3 := by
  unfold sieveError
  split
  · rfl
  · rename_i few
    rw [if_pos (closes.resolve_left few)]

theorem sieveError_returns (stays : ¬ (3 ≤ session.errorCount ∨ env.clientError = true)) :
    (sieveError env session text).2 = 1 ∧
      (sieveError env session text).1.commandType = session.commandType := by
  obtain ⟨few, noError⟩ := not_or.mp stays
  unfold sieveError
  rw [if_neg few, if_neg noError]
  exact ⟨rfl, rfl⟩

/-- A command without the argument it takes is refused, and LOGOUT runs in its place. -/
theorem lineRight_missing (isNo : lit "NO" <+: text)
    (isOpen : server.session.state ≠ .quitQueued) (reads : server.stalled = false)
    (fits : input.2.bytes.length < maxLinesize) (idle : server.session.commandType = .logout)
    (takes : (sieveCommand (commandLine input.2.bytes)).takesArgument = true)
    (token : sieveTokenizer input.1.env server.session input.2.bytes =
      sieveError input.1.env server.session text) :
    LineRight backend server input ↔
      3 ≤ server.session.errorCount ∨ input.1.clientError = true := by
  by_cases closes : 3 ≤ server.session.errorCount ∨ input.1.clientError = true
  · refine iff_of_true ?_ closes
    have result := @sieveError_closes server.session input.1.env text closes
    have done : sieveLine backend server input = .ok ⟨{ server with
        session := (sieveError input.1.env server.session text).1.bailout }, none⟩ := by
      rw [sieveLine_read isOpen reads fits]
      rw [token, if_neg (by rw [result]; decide), if_pos result]
    exact .inr ⟨_, done, reads, .inr (.inr (refused_sieveError isNo))⟩
  · refine iff_of_false ?_ closes
    obtain ⟨result, logout⟩ := @sieveError_returns server.session input.1.env text closes
    rintro (closed | ⟨done, returned, -, right⟩)
    · exact isOpen closed
    · rw [sieveLine_read isOpen reads fits] at returned
      rw [token, if_neg (by rw [result]; decide), if_neg (by rw [result]; decide)] at returned
      simp only [sieveBody, sharedRuns, logout, idle] at returned
      cases returned
      obtain ⟨same, _⟩ := right
      rw [lineNames, if_pos idle] at same
      rw [← same] at takes
      cases takes

/-- A line that does not fit is not read, or the tokenizer runs past its end. -/
theorem not_lineRight_unread (isOpen : server.session.state ≠ .quitQueued)
    (unread : server.stalled = true ∨ maxLinesize ≤ input.2.bytes.length) :
    ¬ LineRight backend server input := by
  rintro (closed | ⟨done, returned, reads, -⟩)
  · exact isOpen closed
  rw [sieveLine] at returned
  by_cases stalled : server.stalled = true
  · rw [if_pos (.inr stalled)] at returned
    cases returned
    rw [stalled] at reads
    cases reads
  have long := unread.resolve_left stalled
  rw [if_neg (by simp [isOpen, stalled])] at returned
  by_cases longer : maxLinesize < input.2.bytes.length
  · rw [if_pos longer] at returned
    cases returned
    cases reads
  · rw [if_neg longer, if_pos (by omega)] at returned
    cases returned

theorem lineRight_iff (off : server.session.state = .quitQueued ∨
    server.session.parserState = false) :
    LineRight backend server input ↔ LineServed backend server input := by
  unfold LineServed
  by_cases closed : server.session.state = .quitQueued
  · rw [if_pos closed]
    exact iff_of_true (.inl closed) trivial
  · have reset := off.resolve_left closed
    rw [if_neg closed]
    by_cases unread : server.stalled = true ∨ maxLinesize ≤ input.2.bytes.length
    · rw [if_pos unread]
      exact iff_of_false (not_lineRight_unread closed unread) id
    rw [if_neg unread]
    rw [not_or, Bool.not_eq_true, not_le] at unread
    obtain ⟨reads, fits⟩ := unread
    by_cases pending : server.session.commandType ≠ .logout
    · rw [if_pos pending, lineRight_arguments closed reads fits (fun blank => pending blank.1) reset
        (by rw [sieveTokenizer, if_pos pending]) (by rw [lineNames, if_neg pending]) rfl rfl]
      cases gathered server.session (cstr input.2.bytes) none with
      | none => simp [pending]
      | some args => simp
    · rw [if_neg pending]
      have idle := not_not.mp pending
      by_cases blank : commandLine input.2.bytes = []
      · rw [if_pos blank]
        refine iff_of_true (.inr ⟨⟨server, none⟩, ?_, reads, .inl ⟨idle, blank⟩⟩) trivial
        rw [sieveLine_read closed reads fits, sieveTokenizer, if_neg pending, if_pos blank]
        rfl
      · rw [if_neg blank]
        by_cases missing : lineValue (commandLine input.2.bytes) = none ∧
            (sieveCommand (commandLine input.2.bytes)).takesArgument = true
        · rw [if_pos missing]
          have isNo : lit "NO" <+: lit "NO \"This command requires an argument.\"\r\n" := by
            decide +kernel
          exact lineRight_missing isNo closed reads fits idle missing.2
            (by rw [sieveTokenizer, if_neg pending, if_neg blank, if_pos missing])
        · rw [if_neg missing]
          exact @lineRight_arguments backend server input
            { server.session with commandType := sieveCommand (commandLine input.2.bytes) }
            closed reads fits (fun both => blank both.2) (lineCommand (commandLine input.2.bytes))
            (lineValue (commandLine input.2.bytes)) reset
            (by rw [sieveTokenizer, if_neg pending, if_neg blank, if_neg missing])
            (by rw [lineNames, if_pos idle]) rfl rfl

theorem sieveTokenizer_waits {line : Bytes}
    (off : session.parserState = false) (waits : (sieveTokenizer env session line).2 = 0) :
    (sieveTokenizer env session line).1.parserState = false := by
  have arguments : ∀ (pending : SieveSession) (buffer : Bytes) (value : Option Bytes),
      pending.parserState = false → (sieveArguments pending buffer value).2 = 0 →
        (sieveArguments pending buffer value).1.parserState = false := by
    intro pending buffer value reset waits
    obtain complete | ⟨-, stays⟩ := @sieveArguments_result pending buffer value reset
    · cases waits.symm.trans complete
    · exact stays
  unfold sieveTokenizer at waits ⊢
  by_cases pending : session.commandType ≠ .logout
  · rw [if_pos pending] at waits ⊢
    exact arguments _ _ _ off waits
  rw [if_neg pending] at waits ⊢
  by_cases blank : commandLine line = []
  · rw [if_pos blank]
    exact off
  rw [if_neg blank] at waits ⊢
  by_cases missing : lineValue (commandLine line) = none ∧
      (sieveCommand (commandLine line)).takesArgument = true
  · rw [if_pos missing] at waits
    by_cases closes : 3 ≤ session.errorCount ∨ env.clientError = true
    · rw [sieveError_closes closes] at waits
      cases waits
    · rw [(sieveError_returns closes).1] at waits
      cases waits
  · rw [if_neg missing] at waits ⊢
    exact arguments { session with commandType := sieveCommand (commandLine line) } _ _ off waits

/-- The parser is reset between the lines of an open session. -/
theorem lineStep_reset {next : ScriptServer}
    (off : server.session.state = .quitQueued ∨ server.session.parserState = false)
    (stepped : lineStep backend server input = .ok next) :
    next.session.state = .quitQueued ∨ next.session.parserState = false := by
  unfold lineStep sieveLine at stepped
  by_cases unread : server.session.state = .quitQueued ∨ server.stalled = true
  · rw [if_pos unread] at stepped
    cases stepped
    exact off
  rw [if_neg unread] at stepped
  by_cases longer : maxLinesize < input.2.bytes.length
  · rw [if_pos longer] at stepped
    cases stepped
    exact off
  rw [if_neg longer] at stepped
  by_cases full : input.2.bytes.length = maxLinesize
  · rw [if_pos full] at stepped
    cases stepped
  · rw [if_neg full] at stepped
    by_cases waits : (sieveTokenizer input.1.env server.session input.2.bytes).2 = 0
    · rw [if_pos waits] at stepped
      cases stepped
      exact .inr (sieveTokenizer_waits (off.resolve_left (not_or.mp unread).1) waits)
    · rw [if_neg waits] at stepped
      split at stepped
      · cases stepped
        exact .inl rfl
      · split at stepped
        · cases stepped
        · cases stepped
          split
          · exact .inl rfl
          · exact .inr rfl

/-- The lines of a session are all answered as they should exactly when they are all
served. -/
theorem lines_right_iff (backend : Backend) (server : ScriptServer)
    (inputs : List (LineMet × SentLine))
    (off : server.session.state = .quitQueued ∨ server.session.parserState = false) :
    StepsMeet (lineStep backend) (LineRight backend) server inputs ↔
      StepsMeet (lineStep backend) (LineServed backend) server inputs :=
  stepsMeet_congr
    (fun server => server.session.state = .quitQueued ∨ server.session.parserState = false)
    (fun _ _ _ reset _ stepped => lineStep_reset reset stepped)
    (fun _ _ reset _ => lineRight_iff reset) off (stepsMeet_true server inputs)

/-- A line that returns is handled as the loop of the shared model handles it, with the
body of the command in its place. -/
theorem sieveLine_feed {done : LineDone} (isOpen : server.session.state ≠ .quitQueued)
    (reads : server.stalled = false) (fits : input.2.bytes.length < maxLinesize)
    (returned : sieveLine backend server input = .ok done) :
    ∃ others, (sieveFeed backend.conf ⟨input.1.ping, input.1.clientError, others⟩
      input.1.handshake input.1.active server.session input.2.bytes).map Fed.state =
        .ok done.server.session := by
  rw [sieveLine_read isOpen reads fits] at returned
  dsimp only at returned
  have token : ∀ others, sieveTokenizer ⟨input.1.ping, input.1.clientError, others⟩ server.session
      input.2.bytes = sieveTokenizer input.1.env server.session input.2.bytes := fun _ => rfl
  by_cases waits : (sieveTokenizer input.1.env server.session input.2.bytes).2 = 0
  · rw [if_pos waits] at returned
    cases returned
    refine ⟨fun _ session => (session, 1), ?_⟩
    rw [sieveFeed, token, if_pos waits]
    rfl
  rw [if_neg waits] at returned
  by_cases refused : (sieveTokenizer input.1.env server.session input.2.bytes).2 = -3
  · rw [if_pos refused] at returned
    cases returned
    refine ⟨fun _ session => (session, 1), ?_⟩
    rw [sieveFeed, token, if_neg waits, if_pos refused]
    rfl
  rw [if_neg refused] at returned
  generalize parsed : (sieveTokenizer input.1.env server.session input.2.bytes).1 = session at returned
  cases ran : sieveBody backend input.1 { server with session := session } with
  | error fault =>
    rw [ran] at returned
    cases returned
  | ok body =>
    rw [ran] at returned
    cases returned
    have same : sieve backend.conf
        ⟨input.1.ping, input.1.clientError, fun _ _ => (body.server.session, body.result)⟩
        input.1.handshake input.1.active session = (body.server.session, body.result) := by
      cases pending : session.commandType with
      | logout =>
        simp only [sieveBody, pending] at ran
        cases ran
        simp [sieve, pending]
      | starttls | capability | unknown =>
        simp only [sieveBody, pending] at ran
        cases ran
        simp only [sieve, pending]
        rfl
      | listscripts | authenticate | deletescript | getscript | setactive | havespace
      | putscript => simp [sieve, pending]
    refine ⟨fun _ _ => (body.server.session, body.result), ?_⟩
    rw [sieveFeed, token, if_neg waits, if_neg refused, parsed, sieveDispatch, same]
    split <;> rfl

def plainBackend : Backend := ⟨⟨false, [], [], []⟩, id, lenient⟩

def quietMet : LineMet := { handshake := .refused, validate := fun _ _ => none }

def authenticatedServer : ScriptServer :=
  { session := ⟨.authenticated, .logout, false, 0, [], [], 0, []⟩, useridnr := 1, scripts := [] }

/-- A script in a literal, and the commands around it. -/
theorem literal_script_right :
    StepsMeet (lineStep plainBackend) (LineRight plainBackend) authenticatedServer
      ([⟨lit "PUTSCRIPT \"main\" \x7b5\x7d\r", by decide +kernel, by decide +kernel⟩,
        ⟨lit "keep;\r", by decide +kernel, by decide +kernel⟩,
        ⟨lit "SETACTIVE \"main\"\r", by decide +kernel, by decide +kernel⟩,
        ⟨lit "LISTSCRIPTS\r", by decide +kernel, by decide +kernel⟩,
        ⟨lit "NOOP\r", by decide +kernel, by decide +kernel⟩,
        ⟨lit "LOGOUT\r", by decide +kernel, by decide +kernel⟩].map (Prod.mk quietMet)) :=
  (lines_right_iff plainBackend authenticatedServer _ (.inr rfl)).mpr (by decide +kernel)

def nameAlone : LineMet × SentLine :=
  (quietMet, ⟨lit "PUTSCRIPT \"main\"\r", by decide +kernel, by decide +kernel⟩)

/-- PUTSCRIPT with a name alone fails the assertion on the second argument. -/
theorem putscript_name_alone :
    ¬ StepsMeet (lineStep plainBackend) (LineRight plainBackend) authenticatedServer
      [nameAlone] := by
  rintro ⟨closed | ⟨done, returned, _⟩, _⟩
  · cases closed
  · have fails : sieveLine plainBackend authenticatedServer nameAlone = .error .assertion := rfl
    cases returned

end Lines

end Dbmail.Sieve
