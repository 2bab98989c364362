import Dbmail.Client.Services
import Dbmail.Delivery.Resolve

/-!
Contract: the LMTP server, line by line.

Owns the session with its transaction and its parser, the tokenizer with the data
phase, the bodies of all commands with their replies (`lmtp.c`), the texts of the
delivery statuses (`dm_dsn.c`), how the text of a message is handed to GMime
(`dm_message.c`), and what `lmtp_handle_input` does with one line.

Does not own: how lines are taken from the read buffer, the resolution of an
address, which is that of the delivery model, what GMime makes of a text, and
`insert_messages`, which is seen as the value it returns and the status it leaves with
each recipient. A reply counts as sent once it is handed to `ci_write`.
-/

namespace Dbmail.Lmtp

open Dbmail.Lib Dbmail.Delivery
open Dbmail.Imap (ClientState)
open Dbmail.Client (commandLine lineCommand lineValue maxLinesize)

/-! ## Delivery statuses -/

/-- The value of a `dsn_class_t`. -/
def dsnCode : DsnClass → Nat
  | .none => 0
  | .ok => 2
  | .temp => 4
  | .fail => 5
  | .quota => 6

/-- `DSN_STRINGS_CLASS`, for the classes that `dsn_tostring` looks up. -/
def dsnStringsClass : DsnClass → Option Bytes
  | .ok => some (lit "Success")
  | .temp => some (lit "Persistent Transient Failure")
  | .fail => some (lit "Permanent Failure")
  | .none | .quota => none

def dsnStringsSubject : List Bytes :=
  [[], lit "Address Status", lit "Mailbox Status", lit "Mail System Status",
    lit "Network and Routing Status", lit "Mail Delivery Protocol Status",
    lit "Message Content or Message Media Status", lit "Security or Policy Status"]

/-- `DSN_STRINGS_DETAIL`. The bounds in `DSN_STRINGS_DETAIL_VALID` are those of the
tables. -/
def dsnStringsDetail : List (List Bytes) :=
  [[[]], [lit "Other address status", lit "Bad destination mailbox address",
      lit "Bad destination system address", lit "Bad destination mailbox address syntax",
      lit "Destination mailbox address ambiguous", lit "Destination mailbox address valid",
      lit "Mailbox has moved", lit "Bad sender's mailbox address syntax",
      lit "Bad sender's system address"],
    [lit "Other or undefined mailbox status", lit "Mailbox disabled, not accepting messages",
      lit "Mailbox full", lit "Message length exceeds administrative limit",
      lit "Mailing list expansion problem"],
    [lit "Other or undefined mail system status", lit "Mail system full",
      lit "System not accepting network messages", lit "System not capable of selected features",
      lit "Message too big for system"],
    [lit "Other or undefined network or routing status", lit "No answer from host",
      lit "Bad connection", lit "Routing server failure", lit "Unable to route",
      lit "Network congestion", lit "Routing loop detected", lit "Delivery time expired"],
    [lit "Other or undefined protocol status", lit "Invalid command", lit "Syntax error",
      lit "Too many recipients", lit "Invalid command arguments", lit "Wrong protocol version"],
    [lit "Other or undefined media error", lit "Media not supported",
      lit "Conversion required and prohibited", lit "Conversion required but not supported",
      lit "Conversion with loss performed", lit "Conversion failed"],
    [lit "Other or undefined security status", lit "Delivery not authorized, message refused",
      lit "Mailing list expansion prohibited",
      lit "Security conversion required but not possible", lit "Security features not supported",
      lit "Cryptographic failure", lit "Cryptographic algorithm not supported",
      lit "Message integrity failure"]]

/-- Three texts, all of them empty if one is missing. -/
def dsnTostring (dsn : Dsn) : Bytes × Bytes × Bytes :=
  match dsnStringsClass dsn.cls, dsnStringsSubject[dsn.subject]?,
      dsnStringsDetail[dsn.subject]?.bind (·[dsn.detail]?) with
  | some cls, some subject, some detail => (cls, subject, detail)
  | _, _, _ => ([], [], [])

/-! ## Commands -/

/-- `lmtp_command`. The first one is 0, which also stands for no command. -/
inductive LmtpCommand where
  | lhlo | quit | rset | data | mail | vrfy | expn | help | noop | rcpt
deriving DecidableEq, Repr

def LmtpCommand.name : LmtpCommand → Bytes
  | .lhlo => lit "LHLO"
  | .quit => lit "QUIT"
  | .rset => lit "RSET"
  | .data => lit "DATA"
  | .mail => lit "MAIL"
  | .vrfy => lit "VRFY"
  | .expn => lit "EXPN"
  | .help => lit "HELP"
  | .noop => lit "NOOP"
  | .rcpt => lit "RCPT"

def commands : List LmtpCommand :=
  [.lhlo, .quit, .rset, .data, .mail, .vrfy, .expn, .help, .noop, .rcpt]

def commandOf (name : Bytes) : Option LmtpCommand :=
  commands.find? fun command => strcasecmpEq name command.name

/-- The commands that are allowed to have no arguments. HELP knows the same ones. -/
def LmtpCommand.bare : LmtpCommand → Bool
  | .lhlo | .data | .rset | .quit | .noop | .help => true
  | .mail | .vrfy | .expn | .rcpt => false

def lmtpHelpText : Option LmtpCommand → Bytes
  | some command =>
    lit "214-The " ++ command.name ++ lit " command begins a client/server\r\n" ++
      lit "214-dialogue. The commands MAIL, RCPT and DATA\r\n" ++
      lit "214-may only be issued after a successful LHLO.\r\n" ++
      lit "214 Syntax: LHLO [your hostname]\r\n"
  | none =>
    lit "214-This is DBMail-LMTP.\r\n" ++ lit "214-The following commands are supported:\r\n" ++
      lit "214-LHLO, RSET, NOOP, QUIT, HELP.\r\n" ++
      lit "214-VRFY, EXPN, MAIL, RCPT, DATA.\r\n" ++
      lit "214-For more information about a command:\r\n" ++ lit "214 Use HELP <command>.\r\n"

/-! ## Sessions -/

/-- A recipient, `Delivery_T`. -/
structure Recipient where
  address : Bytes
  targets : Targets
  dsn : Dsn

/-- The part of `ClientSession_T` that LMTP uses. -/
structure Session where
  state : ClientState
  /-- `from`. -/
  sender : List Bytes
  rcpt : List Recipient
  rbuff : Bytes
  args : List Bytes
  commandType : LmtpCommand
  parserState : Bool
  errorCount : Nat

/-- `client_session_new`. -/
def Session.fresh : Session := ⟨.initialConnect, [], [], [], [], .lhlo, false, 0⟩

variable (met : LineMet) (session : Session)

/-- `client_session_reset_parser`. -/
def Session.resetParser : Session :=
  { session with parserState := false, commandType := .lhlo, rbuff := [], args := [] }

/-- `client_session_reset`. -/
def Session.reset : Session :=
  { session with rcpt := [], sender := [], state := .initialConnect }.resetParser

/-- `client_session_bailout`. -/
def Session.bailout : Session :=
  { session.reset with state := .quitQueued }

/-- `lmtp_rset(session, TRUE)`. -/
def Session.lmtpRset : Session :=
  { session.reset with state := .authenticated }

/-- What `insert_messages` returns, and the status that it leaves with each
recipient. -/
structure InsertOutcome where
  status : Int
  dsn : Nat → Dsn

/-- What the outcome of the delivery model is to a session. -/
def InsertOutcome.ofInserted (inserted : Inserted) : InsertOutcome :=
  ⟨inserted.status, fun index => (inserted.reports[index]?.map Report.dsn).getD .unset⟩

/-- The texts that GMime's parser constructs a message or a part from. -/
structure Mime where
  message : Bytes → Bool
  part : Bytes → Bool

/-- What a line meets outside the session: the tables that addresses are looked up
in, the outcome of `insert_messages`, whether the socket has failed, GMime and the setting for
what it rejects, and the memory that `rbuff` has behind its NUL. -/
structure LineMet where
  book : AddressBook
  inserted : InsertOutcome
  clientError : Bool
  mime : Mime
  allowInvalidMessages : Bool
  behind : Bytes

structure Answer where
  session : Session
  replies : List Bytes
  result : Int

/-- With `MAX_ERRORS`. -/
def lmtpError (text : Bytes) : Answer :=
  if 3 ≤ session.errorCount then
    ⟨session, [lit "500 Too many errors, closing connection.\r\n"], -3⟩
  else if met.clientError then ⟨session, [text], -3⟩
  else ⟨{ session with errorCount := session.errorCount + 1 }, [text], -1⟩

/-! ## The tokenizer -/

def isTerminator (buffer : Bytes) : Bool :=
  strncmpEq buffer (lit ".\n") 2 || strncmpEq buffer (lit ".\r\n") 3

def startMailInput : Bytes := lit "354 Start mail input; end with <CRLF>.<CRLF>\r\n"

/-- The checks of `lmtp_tokenizer` on the line of a DATA command. -/
def dataCommand : Answer :=
  if session.state ≠ .authenticated then
    lmtpError met session (lit "550 Command out of sequence\r\n")
  else if session.rcpt.length < 1 then lmtpError met session (lit "503 No valid recipients\r\n")
  else if session.sender.length < 1 then lmtpError met session (lit "554 No valid sender.\r\n")
  else ⟨session, [startMailInput], 0⟩

/-- The part of `lmtp_tokenizer` for a line behind an accepted DATA command. -/
def dataLine (buffer : Bytes) : Session :=
  if isTerminator buffer then { session with parserState := true }
  else if strncmpEq buffer (lit ".") 1 then
    { session with rbuff := session.rbuff ++ buffer.drop 1 }
  else { session with rbuff := session.rbuff ++ buffer }

/-- The part of `lmtp_tokenizer` for the line of a command. -/
def commandTokens (line : Bytes) : Answer :=
  if line = [] then ⟨session, [], 0⟩
  else match commandOf (lineCommand line) with
    | none => lmtpError met session (lit "500 Invalid command.\r\n")
    | some command =>
      if lineValue line = none ∧ !command.bare then
        lmtpError met session (lit "500 This command requires an argument.\r\n")
      else
        let session := { session with
          commandType := command
          args := session.args ++ (lineValue line).toList }
        if command = .data then dataCommand met session
        else ⟨{ session with parserState := true }, [], 1⟩

def lmtpTokenizer (buffer : Bytes) : Answer :=
  if session.commandType = .lhlo then
    commandTokens met { session with parserState := false } (commandLine buffer)
  else
    let session :=
      if session.commandType = .data then dataLine session (cstr buffer)
      else { session with parserState := true }
    ⟨session, [], if session.parserState then 1 else 0⟩

/-! ## The commands -/

/-- `find_bounded` for two different bounds: what stands between the first `left` and
the last `right`, and the rest from there on. -/
def findBounded (left right : UInt8) (value : Bytes) : Option (Bytes × Bytes) :=
  match value.dropWhile (· ≠ left) with
  | [] => none
  | _ :: inner =>
    if inner.contains right then
      some ((inner.rdropWhile (· ≠ right)).dropLast, right :: inner.rtakeWhile (· ≠ right))
    else none

/-- What follows the first `=` of a text. -/
def behindEquals (text : Bytes) : Option Bytes :=
  match text.dropWhile (· ≠ 61) with
  | [] => none
  | _ :: body => some body

def lmtpMail : Answer :=
  if session.state ≠ .authenticated then
    ⟨session, [lit "550 Command out of sequence.\r\n"], 1⟩
  else if 0 < session.sender.length then
    ⟨session, [lit "500 Sender already received. Use RSET to clear.\r\n"], 1⟩
  else match session.args.head? with
    | none => ⟨session, [], 1⟩
    | some arg =>
      match findBounded 60 62 arg with
      | none => ⟨session, [lit "500 No address found. Missing <> boundries.\r\n"], 1⟩
      | some (address, rest) =>
        if (behindEquals rest).any fun body => smatch body "BINARYMIME" then
          ⟨session, [lit "500 Please use 7BIT MIME, 8BITMIME or SMTPUTF8.\r\n"], 1⟩
        else
          ⟨{ session with sender := address :: session.sender },
            [lit "250 Sender <" ++ address ++ lit "> OK\r\n"], 1⟩

def lmtpRcpt : Except Fault Answer :=
  if session.state ≠ .authenticated then
    .ok ⟨session, [lit "550 Command out of sequence.\r\n"], 1⟩
  else match session.args.head? with
    | none => .ok ⟨session, [], 1⟩
    | some arg =>
      match findBounded 60 62 arg with
      | none | some ([], _) =>
        .ok ⟨session, [lit "500 No address found. Missing <> boundries or address is null.\r\n"], 1⟩
      | some (address, _) =>
        match met.book.resolve 0 address with
        | .error fault => .error fault
        | .ok resolution =>
          if resolution.status ≠ 0 then
            .ok ⟨session, [lit "430 Temporary failure in recipient lookup\r\n"], 1⟩
          else if resolution.dsn.cls = .ok then
            let recipient := ⟨address, resolution.targets, resolution.dsn⟩
            .ok ⟨{ session with rcpt := session.rcpt ++ [recipient] },
              [lit "250 Recipient <" ++ address ++ lit "> OK\r\n"], 1⟩
          else .ok ⟨session, [lit "550 Recipient <" ++ address ++ lit "> FAIL\r\n"], 1⟩

def dsnReply (address : Bytes) (dsn : Dsn) : Bytes :=
  let code := digits (dsnCode dsn.cls) ++ digits dsn.subject ++ digits dsn.detail
  let texts := dsnTostring dsn
  code ++ lit " Recipient <" ++ address ++ lit ">" ++ (if dsn.cls = .ok then lit " OK"
    else lit " " ++ texts.1 ++ lit " " ++ texts.2.1 ++ lit " " ++ texts.2.2) ++ lit "\r\n"

/-- The first line, if it begins with a blank and ends within `FROMLINE` bytes. -/
def brokenFirstLine (text : Bytes) : Nat :=
  if strncmpEq text (lit " ") 1 ∧ (10 : UInt8) ∈ text.take 80 then text.idxOf 10 + 1 else 0

/-- `dbmail_message_init_with_string`. The length was taken before a broken first line is
skipped, so that as much is read behind the text. `dbmail_message_to_string` asserts that there is
a content. -/
def dbmailMessageInitWithString (text : Bytes) : Except Fault Unit :=
  let str := text.drop (brokenFirstLine text)
  let stream := (str ++ 0 :: met.behind).take text.length
  if stream.length < text.length then .error .outOfBounds
  else if met.mime.message stream || met.mime.part stream || met.allowInvalidMessages &&
      met.mime.message (lit "MIME-Version: 1.0\r\nContent-Type: text/plain\r\n\r\n" ++ str) then
    .ok ()
  else .error .assertion

/-- What follows in `LMTP_DATA` when there is a message. -/
def lmtpInsert : Except Fault Answer :=
  if session.rcpt = [] then .error .nullPointer
  else if met.inserted.status = -1 then
    .ok ⟨{ session with rbuff := [] }, [lit "430 Message not received\r\n"], 1⟩
  else
    .ok ⟨session.lmtpRset, session.rcpt.mapIdx fun index recipient =>
        dsnReply recipient.address (met.inserted.dsn index), 1⟩

/-- `LMTP_DATA`, for the message in `rbuff`. -/
def lmtpData : Except Fault Answer := do
  dbmailMessageInitWithString met session.rbuff
  lmtpInsert met session

/-- `lmtp`, on a host. -/
def lmtp (hostname : Bytes) (met : LineMet) (session : Session) : Except Fault Answer :=
  match session.commandType with
  | .quit => .ok ⟨{ session with state := .quit }, [lit "221 " ++ hostname ++ lit " BYE\r\n"], 1⟩
  | .noop => .ok ⟨session, [lit "250 OK\r\n"], 1⟩
  | .rset => .ok ⟨session.lmtpRset, [lit "250 OK\r\n"], 1⟩
  | .lhlo =>
    .ok ⟨{ session.reset with state := .authenticated },
      [lit "250-" ++ hostname ++ lit "\r\n" ++ lit "250-PIPELINING\r\n" ++
        lit "250-ENHANCEDSTATUSCODES\r\n" ++ lit "250-8BITMIME\r\n" ++ lit "250-SMTPUTF8\r\n" ++
        lit "250 SIZE\r\n"], 1⟩
  | .help =>
    .ok ⟨session, [lmtpHelpText ((session.args.head?.bind commandOf).filter LmtpCommand.bare)], 1⟩
  | .vrfy | .expn => .ok ⟨session, [lit "502 Command not implemented\r\n"], 1⟩
  | .mail => .ok (lmtpMail session)
  | .rcpt => lmtpRcpt met session
  | .data => lmtpData met session

/-! ## One line -/

/-- What a line comes to: the session, the replies, and the command and the buffer with
which `lmtp` was called, if it was. -/
structure Turn where
  session : Session
  replies : List Bytes
  call : Option (LmtpCommand × Bytes)

/-- The body of the loop in `lmtp_handle_input`. A line that fills the buffer leaves no
room for the terminating NUL, and the tokenizer reads past its end. -/
def lmtpHandleLine (hostname : Bytes) (met : LineMet) (session : Session) (buffer : Bytes) :
    Except Fault Turn :=
  if maxLinesize ≤ buffer.length then .error .outOfBounds
  else
    let token := lmtpTokenizer met session buffer
    if token.result = 0 then .ok ⟨token.session, token.replies, none⟩
    else if token.result = -3 then .ok ⟨token.session.bailout, token.replies, none⟩
    else if token.result < 0 then .ok ⟨token.session.resetParser, token.replies, none⟩
    else match lmtp hostname met token.session with
      | .error fault => .error fault
      | .ok answer =>
        .ok ⟨if answer.result = -3 then answer.session.bailout else answer.session.resetParser,
          token.replies ++ answer.replies,
          some (token.session.commandType, token.session.rbuff)⟩

end Dbmail.Lmtp
