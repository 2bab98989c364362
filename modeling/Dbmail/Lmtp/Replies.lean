import Dbmail.Lib.TextLines
import Dbmail.Lmtp.Session

/-!
Contract: the replies behind the data of an LMTP transaction.

Owns the transaction as a client follows it in the replies, the reply that each
accepted recipient is due after the data, runs of a session over lines, and the
exact runs in which every accepted DATA command is answered in full and leaves no
transaction behind.

Does not own: the lines of the data itself.
-/

namespace Dbmail.Lmtp

open Dbmail.Lib Dbmail.Delivery List Option
open Dbmail.Imap (ClientState)
open Dbmail.Client (commandLine lineCommand lineValue maxLinesize stripCrlf)

/-! ## Lines of input -/

/-- A line as `ci_readln` takes it from the read buffer. -/
structure InputLine where
  content : Bytes
  noLf : (10 : UInt8) ∉ content
  noNul : (0 : UInt8) ∉ content
  fits : content.length < maxLinesize

def InputLine.bytes (line : InputLine) : Bytes := line.content ++ [10]

/-! ## The client's view -/

/-- A transaction as the client knows it: the recipients that were accepted, in the order
of their commands, and whether DATA was answered with 354. -/
structure Transaction where
  recipients : List Bytes
  data : Bool

def accepts (replies : List Bytes) : Bool := replies.any fun reply => strncmpEq reply (lit "250") 3

def addressOf (line : Bytes) : Bytes :=
  match findBounded 60 62 ((lineValue line).getD []) with
  | some (address, _) => address
  | none => []

/-- The client sends a line and sees the replies to it. The line that ends the data ends
the transaction. -/
def Transaction.observe (transaction : Transaction) (buffer : Bytes) (replies : List Bytes) :
    Transaction :=
  if transaction.data then if isTerminator buffer then ⟨[], false⟩ else transaction
  else match commandOf (lineCommand (commandLine buffer)) with
    | some .lhlo | some .rset => ⟨[], false⟩
    | some .rcpt =>
      if accepts replies then
        { transaction with
          recipients := transaction.recipients ++ [addressOf (commandLine buffer)] }
      else transaction
    | some .data => { transaction with data := replies = [startMailInput] }
    | _ => transaction

structure Dialogue where
  session : Session
  transaction : Transaction

def Dialogue.fresh : Dialogue := ⟨.fresh, ⟨[], false⟩⟩

def dialogueStep (hostname : Bytes) (dialogue : Dialogue) (input : LineMet × InputLine) :
    Except Fault Dialogue :=
  if dialogue.session.state = .quitQueued then .ok dialogue
  else
    match lmtpHandleLine hostname input.1 dialogue.session input.2.bytes with
    | .error fault => .error fault
    | .ok turn => .ok ⟨turn.session, dialogue.transaction.observe input.2.bytes turn.replies⟩

/-! ## What is due after the data -/

variable (dialogue : Dialogue) (input : LineMet × InputLine)

def EndsData : Prop :=
  dialogue.transaction.data = true ∧ isTerminator input.2.bytes = true

/-- A reply line about a recipient whose code has the class of a status. -/
def ReplyFor (address : Bytes) (cls : DsnClass) (reply : Bytes) : Prop :=
  ∃ code text, reply = code ++ lit " Recipient <" ++ address ++ lit ">" ++ text ++ lit "\r\n" ∧
    code.take 1 = digits (dsnCode cls) ∧ (10 : UInt8) ∉ code ++ address ++ text

/-- One reply line for each accepted recipient, in their order, with the class of the
status that `insert_messages` has left with it. -/
structure Reported (recipients : List Bytes) (inserted : InsertOutcome) (replies : List Bytes) :
    Prop where
  count : replies.length = recipients.length
  matching : ∀ index address, recipients[index]? = some address →
    ∃ reply, replies[index]? = some reply ∧ ReplyFor address (inserted.dsn index).cls reply

structure Cleared (session : Session) : Prop where
  sender : session.sender = []
  rcpt : session.rcpt = []
  rbuff : session.rbuff = []

/-- The line that ends the data is answered in full, and the transaction is over. -/
def DataAnswered (hostname : Bytes) (dialogue : Dialogue) (input : LineMet × InputLine) : Prop :=
  EndsData dialogue input →
    ∃ turn, lmtpHandleLine hostname input.1 dialogue.session input.2.bytes = .ok turn ∧
      Reported dialogue.transaction.recipients input.1.inserted turn.replies ∧
      Cleared turn.session

/-- GMime makes a message of the text that ends here, and `insert_messages` takes it. -/
def MessageTaken : Prop :=
  EndsData dialogue input →
    dbmailMessageInitWithString input.1 dialogue.session.rbuff = .ok () ∧
      input.1.inserted.status ≠ -1

/-! ## Bytes of a line -/

variable {hostname : Bytes} {byte : UInt8} {met : LineMet} {session : Session}

theorem mem_of_mem_rdropWhile {text : Bytes} {test : UInt8 → Bool}
    (member : byte ∈ text.rdropWhile test) : byte ∈ text :=
  ( rdropWhile_prefix test text).subset member

theorem mem_of_mem_gStrstrip {text : Bytes} (member : byte ∈ gStrstrip text) : byte ∈ text :=
  mem_of_mem_rdropWhile ((dropWhile_sublist _).subset member)

theorem lf_not_mem_commandLine (line : InputLine) : (10 : UInt8) ∉ commandLine line.bytes := by
  have nulFree : (0 : UInt8) ∉ line.bytes := by simp [InputLine.bytes, line.noNul]
  rw [commandLine, cstr_eq_self nulFree, InputLine.bytes]
  have noLf := line.noLf
  cases whole : line.content with
  | nil => decide
  | cons first rest =>
    rw [whole] at noLf
    intro member
    have inside := mem_of_mem_gStrstrip member
    rw [cons_append, stripCrlf, rdropWhile_concat_pos _ _ _ (by decide)] at inside
    obtain same | further := mem_cons.mp inside
    · exact noLf (by simp [same])
    · exact noLf (mem_cons_of_mem _ (mem_of_mem_rdropWhile further))

theorem mem_of_findBounded {left right byte : UInt8} {value address rest : Bytes}
    (found : findBounded left right value = some (address, rest)) (member : byte ∈ address) :
    byte ∈ value := by
  unfold findBounded at found
  split at found
  · cases found
  · rename_i first inner dropped
    split at found
    · obtain ⟨rfl, -⟩ := found
      have inInner : byte ∈ inner := mem_of_mem_rdropWhile (mem_of_mem_dropLast member)
      apply (dropWhile_sublist (· ≠ left)).subset
      rw [dropped]
      exact mem_cons_of_mem _ inInner
    · cases found

theorem mem_of_lineValue {line value : Bytes} {byte : UInt8} (valued : lineValue line = some value)
    (member : byte ∈ value) : byte ∈ line := by
  unfold lineValue at valued
  split at valued
  · cases valued
  · cases valued
    exact mem_of_mem_drop member

/-! ## The replies -/

theorem lf_not_mem_dsnTostring (dsn : Dsn) :
    (10 : UInt8) ∉ (dsnTostring dsn).1 ++ (dsnTostring dsn).2.1 ++ (dsnTostring dsn).2.2 := by
  unfold dsnTostring
  split
  · rename_i cls subject detail isClass isSubject isDetail
    have noClass : (10 : UInt8) ∉ cls := by
      have all : ∀ cls text, dsnStringsClass cls = some text → (10 : UInt8) ∉ text := by
        intro cls text found
        cases cls <;> cases found <;> rw [lit_ofList] <;> decide
      exact all _ _ isClass
    have noSubject : (10 : UInt8) ∉ subject := by
      have all : ∀ text ∈ dsnStringsSubject, (10 : UInt8) ∉ text := by
        decide +kernel
      exact all _ (mem_of_getElem? isSubject)
    have noDetail : (10 : UInt8) ∉ detail := by
      have all : ∀ texts ∈ dsnStringsDetail, ∀ text ∈ texts, (10 : UInt8) ∉ text := by
        decide +kernel
      obtain ⟨texts, isTexts, inTexts⟩ := bind_eq_some_iff.mp isDetail
      exact all _ (mem_of_getElem? isTexts) _ (mem_of_getElem? inTexts)
    simp [noClass, noSubject, noDetail]
  · decide

/-- The reply for a recipient is one line, and its code has the class of the status. -/
theorem replyFor_dsnReply {address : Bytes} (dsn : Dsn) (noLf : (10 : UInt8) ∉ address) :
    ReplyFor address dsn.cls (dsnReply address dsn) := by
  refine ⟨digits (dsnCode dsn.cls) ++ digits dsn.subject ++ digits dsn.detail, _, rfl, ?_, ?_⟩
  · have one : (digits (dsnCode dsn.cls)).length = 1 := by
      cases dsn.cls <;> decide +kernel
    rw [append_assoc, take_append_of_le_length (by omega), ← one, take_length]
  · have texts := lf_not_mem_dsnTostring dsn
    have blank : (10 : UInt8) ∉ lit " " := by decide
    have good : (10 : UInt8) ∉ lit " OK" := by decide
    simp only [mem_append, not_or] at texts
    split <;> simp [noLf, lf_not_mem_digits, texts, blank, good]

/-! ## Commands -/

def Session.given (session : Session) (command : LmtpCommand) (line : Bytes) : Session :=
  { session with commandType := command, args := (lineValue line).toList, parserState := true }

/-- What a line comes to when it is read as a command. -/
inductive CommandTurn (hostname : Bytes) (met : LineMet) (session : Session) (line : Bytes) :
    Turn → Prop
  | empty (blank : commandOf (lineCommand line) = none) :
      CommandTurn hostname met session line ⟨{ session with parserState := false }, [], none⟩
  | refused (rejected after : Session) (reply : Bytes) (rcpt : rejected.rcpt = session.rcpt)
      (closes : after = rejected.bailout ∨ after = rejected.resetParser)
      (code : accepts [reply] = false) (notStart : reply ≠ startMailInput)
      (notReset : commandOf (lineCommand line) ≠ some .lhlo ∧
        commandOf (lineCommand line) ≠ some .rset) :
      CommandTurn hostname met session line ⟨after, [reply], none⟩
  | data (isData : commandOf (lineCommand line) = some .data) (given : session.rcpt ≠ []) :
      CommandTurn hostname met session line
        ⟨{ session with
            parserState := false
            commandType := .data
            args := (lineValue line).toList }, [startMailInput], none⟩
  | called (command : LmtpCommand) (answer : Answer)
      (isCommand : commandOf (lineCommand line) = some command) (notData : command ≠ .data)
      (argued : lineValue line = none → command.bare = true)
      (answered : lmtp hostname met (session.given command line) = .ok answer) :
      CommandTurn hostname met session line
        ⟨answer.session.resetParser, answer.replies, some (command, session.rbuff)⟩

section Commands

variable {hostname : Bytes} {met : LineMet} {session : Session} {answer : Answer}

def Refuses (text : Bytes) : Prop := accepts [text] = false ∧ text ≠ startMailInput

instance (text : Bytes) : Decidable (Refuses text) := inferInstanceAs (Decidable (_ ∧ _))

/-- `lmtp_error` writes one reply, and closes the session or goes on. -/
theorem lmtpError_cases (met : LineMet) (session : Session) {text : Bytes}
    (refuses : Refuses text) :
    ∃ rejected reply result, lmtpError met session text = ⟨rejected, [reply], result⟩ ∧
      (result = -3 ∨ result = -1) ∧ rejected.rcpt = session.rcpt ∧ Refuses reply := by
  unfold lmtpError
  split
  · exact ⟨_, _, _, rfl, .inl rfl, rfl, by decide +kernel⟩
  split
  · exact ⟨_, _, _, rfl, .inl rfl, rfl, refuses⟩
  · exact ⟨_, _, _, rfl, .inr rfl, rfl, refuses⟩

theorem dataCommand_cases (met : LineMet) (session : Session) :
    (∃ text, Refuses text ∧ dataCommand met session = lmtpError met session text) ∨
      session.rcpt ≠ [] ∧ dataCommand met session = ⟨session, [startMailInput], 0⟩ := by
  unfold dataCommand
  split
  · exact .inl ⟨_, by decide +kernel, rfl⟩
  split
  · exact .inl ⟨_, by decide +kernel, rfl⟩
  rename_i given
  split
  · exact .inl ⟨_, by decide +kernel, rfl⟩
  · exact .inr ⟨by simpa using given, rfl⟩

theorem lmtpMail_kept (session : Session) :
    (lmtpMail session).result = 1 ∧ (lmtpMail session).session.rcpt = session.rcpt := by
  unfold lmtpMail
  split
  · exact ⟨rfl, rfl⟩
  split
  · exact ⟨rfl, rfl⟩
  split
  · exact ⟨rfl, rfl⟩
  split
  · exact ⟨rfl, rfl⟩
  split <;> exact ⟨rfl, rfl⟩

/-- RCPT changes nothing, or it accepts the address between the brackets. -/
theorem lmtpRcpt_cases (answered : lmtpRcpt met session = .ok answer) :
    (∃ replies, accepts replies = false ∧ answer = ⟨session, replies, 1⟩) ∨
      ∃ arg address rest targets dsn, session.args.head? = some arg ∧
        findBounded 60 62 arg = some (address, rest) ∧
        answer = ⟨{ session with rcpt := session.rcpt ++ [⟨address, targets, dsn⟩] },
          [lit "250 Recipient <" ++ address ++ lit "> OK\r\n"], 1⟩ := by
  unfold lmtpRcpt at answered
  split at answered
  · cases answered
    exact .inl ⟨_, by decide +kernel, rfl⟩
  split at answered
  · cases answered
    exact .inl ⟨_, rfl, rfl⟩
  rename_i arg isArg
  split at answered
  · cases answered
    exact .inl ⟨_, by decide +kernel, rfl⟩
  · cases answered
    exact .inl ⟨_, by decide +kernel, rfl⟩
  rename_i address rest notEmpty found
  split at answered
  · cases answered
  split at answered
  · cases answered
    exact .inl ⟨_, by decide +kernel, rfl⟩
  split at answered
  · cases answered
    exact .inr ⟨arg, address, rest, _, _, isArg, found, rfl⟩
  · cases answered
    refine .inl ⟨_, ?_, rfl⟩
    rfl

/-- A message is inserted once there is one. -/
theorem lmtpData_eq_ok : lmtpData met session = .ok answer ↔
    dbmailMessageInitWithString met session.rbuff = .ok () ∧
      lmtpInsert met session = .ok answer := by
  rw [lmtpData]
  cases dbmailMessageInitWithString met session.rbuff with
  | error fault => exact iff_of_false nofun nofun
  | ok _ => exact ⟨fun inserted => ⟨rfl, inserted⟩, And.right⟩

theorem lmtp_result (answered : lmtp hostname met session = .ok answer) : answer.result = 1 := by
  unfold lmtp at answered
  cases command : session.commandType <;> rw [command] at answered <;> dsimp only at answered
  case mail =>
    cases answered
    exact (lmtpMail_kept session).1
  case rcpt =>
    obtain ⟨_, _, rfl⟩ | ⟨_, _, _, _, _, _, _, rfl⟩ := lmtpRcpt_cases answered <;> rfl
  case data =>
    obtain ⟨-, inserted⟩ := lmtpData_eq_ok.mp answered
    unfold lmtpInsert at inserted
    split_ifs at inserted <;> cases inserted <;> rfl
  all_goals
    cases answered
    rfl

/-- A line of a session that waits for a command is read as one. -/
theorem commandTurn_of_handled {buffer : Bytes} {turn : Turn} (idle : session.commandType = .lhlo)
    (noArgs : session.args = [])
    (handled : lmtpHandleLine hostname met session buffer = .ok turn) :
    CommandTurn hostname met session (commandLine buffer) turn := by
  unfold lmtpHandleLine at handled
  by_cases long : maxLinesize ≤ buffer.length
  · rw [if_pos long] at handled
    cases handled
  rw [if_neg long, lmtpTokenizer, if_pos idle] at handled
  generalize commandLine buffer = line at handled ⊢
  -- a refusal ends in the same way wherever it is made
  have refusal : ∀ (rejected : Session) (text : Bytes), rejected.rcpt = session.rcpt →
      Refuses text →
      (commandOf (lineCommand line) ≠ some .lhlo ∧ commandOf (lineCommand line) ≠ some .rset) →
      commandTokens met { session with parserState := false } line = lmtpError met rejected text →
      CommandTurn hostname met session line turn := by
    intro rejected text rcpt refuses notReset tokens
    obtain ⟨after, reply, result, refused, ends, kept, code, notStart⟩ :=
      lmtpError_cases met rejected refuses
    rw [tokens, refused] at handled
    obtain rfl | rfl := ends
    · cases handled
      exact .refused after _ reply (kept.trans rcpt) (.inl rfl) code notStart notReset
    · cases handled
      exact .refused after _ reply (kept.trans rcpt) (.inr rfl) code notStart notReset
  by_cases empty : line = []
  · rw [commandTokens, if_pos empty] at handled
    cases handled
    subst empty
    exact .empty (by decide +kernel)
  cases named : commandOf (lineCommand line) with
  | none =>
    apply refusal { session with parserState := false } (lit "500 Invalid command.\r\n") rfl
      (by decide +kernel) (by simp [named])
    rw [commandTokens, if_neg empty, named]
  | some command =>
    by_cases missing : lineValue line = none ∧ (!command.bare) = true
    · apply refusal { session with parserState := false }
        (lit "500 This command requires an argument.\r\n") rfl (by decide +kernel)
      · rw [named]
        cases command <;> simp_all [LmtpCommand.bare]
      · rw [commandTokens, if_neg empty, named]
        exact if_pos missing
    by_cases isData : command = .data
    · subst isData
      have tokens : commandTokens met { session with parserState := false } line =
          dataCommand met { session with
            parserState := false
            commandType := .data
            args := (lineValue line).toList } := by
        rw [commandTokens, if_neg empty, named]
        refine (if_neg missing).trans ((if_pos rfl).trans ?_)
        rw [noArgs]
        rfl
      obtain ⟨text, refuses, refused⟩ | ⟨given, started⟩ := dataCommand_cases met
        { session with
          parserState := false
          commandType := .data
          args := (lineValue line).toList }
      · apply refusal _ text _ refuses (by simp [named]) (tokens.trans refused)
        rfl
      · rw [tokens, started] at handled
        cases handled
        exact .data named given
    · have tokens : commandTokens met { session with parserState := false } line =
          ⟨session.given command line, [], 1⟩ := by
        rw [commandTokens, if_neg empty, named]
        refine (if_neg missing).trans ((if_neg isData).trans ?_)
        rw [Session.given, noArgs]
        rfl
      rw [tokens] at handled
      dsimp only at handled
      rw [if_neg (by decide), if_neg (by decide), if_neg (by decide)] at handled
      cases answered : lmtp hostname met (session.given command line) with
      | error fault =>
        rw [answered] at handled
        cases handled
      | ok answer =>
        rw [answered] at handled
        dsimp only at handled
        rw [if_neg (by simp [lmtp_result answered]), nil_append] at handled
        cases handled
        apply CommandTurn.called command answer named isData _ answered
        intro none
        simpa [none] using missing

end Commands

/-! ## The session and its client -/

/-- What the client knows is so, and no half-read command is left between lines. -/
structure Agrees (dialogue : Dialogue) : Prop where
  phase : dialogue.session.commandType = if dialogue.transaction.data then .data else .lhlo
  args : dialogue.transaction.data = false → dialogue.session.args = []
  parser : dialogue.session.parserState = false
  given : dialogue.transaction.data = true → dialogue.session.rcpt ≠ []
  isOpen : dialogue.transaction.data = true → dialogue.session.state ≠ .quitQueued
  recipients : dialogue.session.state ≠ .quitQueued →
    dialogue.transaction.recipients = dialogue.session.rcpt.map Recipient.address
  noLf : ∀ recipient ∈ dialogue.session.rcpt, (10 : UInt8) ∉ recipient.address

/-- A parser that was reset between two commands. -/
theorem agrees_resetParser {recipients : List Bytes}
    (same : session.state ≠ .quitQueued → recipients = session.rcpt.map Recipient.address)
    (noLf : ∀ recipient ∈ session.rcpt, (10 : UInt8) ∉ recipient.address) :
    Agrees ⟨session.resetParser, ⟨recipients, false⟩⟩ where
  phase := rfl
  args := fun _ => rfl
  parser := rfl
  given := fun data => absurd data Bool.false_ne_true
  isOpen := fun data => absurd data Bool.false_ne_true
  recipients := same
  noLf := noLf

theorem agrees_fresh : Agrees .fresh := @agrees_resetParser .fresh [] (fun _ => rfl) nofun

/-- The client goes on with the recipients it knows. -/
theorem Agrees.kept {transaction : Transaction} {after : Session}
    (agrees : Agrees ⟨session, transaction⟩) (isOpen : session.state ≠ .quitQueued)
    (rcpt : after.rcpt = session.rcpt) :
    Agrees ⟨after.resetParser, ⟨transaction.recipients, false⟩⟩ := by
  apply agrees_resetParser <;> rw [rcpt]
  · exact fun _ => agrees.recipients isOpen
  · exact agrees.noLf

theorem agrees_bailout (session : Session) (recipients : List Bytes) :
    Agrees ⟨session.bailout, ⟨recipients, false⟩⟩ :=
  @agrees_resetParser { session with rcpt := [], sender := [], state := .quitQueued } recipients
    (fun closed => absurd rfl closed) nofun

theorem lmtp_rcpt_eq {answer : Answer}
    (notData : session.commandType ≠ .data) (notRcpt : session.commandType ≠ .rcpt)
    (answered : lmtp hostname met session = .ok answer) :
    answer.session.rcpt =
      if session.commandType = .lhlo ∨ session.commandType = .rset then [] else session.rcpt := by
  unfold lmtp at answered
  cases command : session.commandType <;> rw [command] at answered <;> dsimp only at answered
  case data => exact absurd command notData
  case rcpt => exact absurd command notRcpt
  case mail =>
    cases answered
    exact (lmtpMail_kept session).2
  all_goals
    cases answered
    rfl

theorem agrees_commandTurn {transaction : Transaction} {line : InputLine} {turn : Turn}
    (agrees : Agrees ⟨session, transaction⟩) (isOpen : session.state ≠ .quitQueued)
    (idle : transaction.data = false)
    (handled : CommandTurn hostname met session (commandLine line.bytes) turn) :
    Agrees ⟨turn.session, transaction.observe line.bytes turn.replies⟩ := by
  have same := agrees.recipients isOpen
  obtain ⟨recipients, data⟩ := transaction
  obtain rfl : data = false := idle
  have observed : ∀ replies, Transaction.observe ⟨recipients, false⟩ line.bytes replies =
      match commandOf (lineCommand (commandLine line.bytes)) with
      | some .lhlo | some .rset => ⟨[], false⟩
      | some .rcpt =>
        if accepts replies then ⟨recipients ++ [addressOf (commandLine line.bytes)], false⟩
        else ⟨recipients, false⟩
      | some .data => ⟨recipients, replies = [startMailInput]⟩
      | _ => ⟨recipients, false⟩ := fun _ => rfl
  rw [observed]
  cases handled with
  | empty blank =>
    rw [blank]
    exact ⟨agrees.phase, agrees.args, rfl, agrees.given, agrees.isOpen, agrees.recipients,
      agrees.noLf⟩
  | refused rejected after reply rcpt closes code notStart notReset =>
    have stays : ∀ result : Transaction, result = ⟨recipients, false⟩ → Agrees ⟨after, result⟩ := by
      rintro result rfl
      obtain rfl | rfl := closes
      · exact agrees_bailout rejected recipients
      · exact agrees.kept isOpen rcpt
    apply stays
    split
    · rename_i isLhlo
      exact absurd isLhlo notReset.1
    · rename_i isRset
      exact absurd isRset notReset.2
    · exact if_neg (by simp [code])
    · simp [notStart]
    · rfl
  | data isData given =>
    rw [isData]
    exact ⟨rfl, fun data => absurd data (by simp), rfl, fun _ => given, fun _ => isOpen,
      fun _ => same, agrees.noLf⟩
  | called command answer isCommand notData argued answered =>
    rw [isCommand]
    by_cases isRcpt : command = .rcpt
    · subst isRcpt
      obtain ⟨replies, refused, rfl⟩ | ⟨arg, address, rest, targets, dsn, isArg, found, rfl⟩ :=
        lmtpRcpt_cases answered
      · rw [if_neg (by simp [refused])]
        exact agrees.kept isOpen rfl
      · have valued : lineValue (commandLine line.bytes) = some arg := by
          rwa [Session.given, Option.head?_toList] at isArg
        have accepted : accepts [lit "250 Recipient <" ++ address ++ lit "> OK\r\n"] = true := by
          rfl
        rw [if_pos accepted, addressOf, valued, getD_some, found]
        apply agrees_resetParser
        · intro _
          rw [map_append]
          exact congrArg (· ++ [address]) same
        · intro other member
          obtain old | new := mem_append.mp member
          · exact agrees.noLf other old
          · obtain rfl := mem_singleton.mp new
            intro lf
            apply lf_not_mem_commandLine line
            exact mem_of_lineValue valued (mem_of_findBounded found lf)
    · have after := lmtp_rcpt_eq notData isRcpt answered
      cases command with
      | lhlo | rset => apply agrees_resetParser <;> simp [after, Session.given]
      | data => exact absurd rfl notData
      | rcpt => exact absurd rfl isRcpt
      | quit | mail | vrfy | expn | help | noop => exact agrees.kept isOpen after

/-! ## The data -/

theorem isTerminator_iff (line : InputLine) :
    isTerminator line.bytes = true ↔ line.content = [46] ∨ line.content = [46, 13] := by
  have noLf := line.noLf
  have lf : lit ".\n" = [46, 10] := lit_ofList _
  have crlf : lit ".\r\n" = [46, 13, 10] := lit_ofList _
  rw [isTerminator, strncmpEq, strncmpEq, lf, crlf, InputLine.bytes, Bool.or_eq_true, beq_iff_eq,
    beq_iff_eq]
  -- a line feed among the first bytes can only be the one at the end
  match whole : line.content with
  | [] => decide
  | [first] => simp
  | [first, second] =>
    rw [whole] at noLf
    simp only [mem_cons, not_mem_nil, or_false, not_or] at noLf
    simp [Ne.symm noLf.2]
  | first :: second :: third :: rest =>
    rw [whole] at noLf
    simp only [mem_cons, not_or] at noLf
    simp [Ne.symm noLf.2.1, Ne.symm noLf.2.2.1]

theorem handleLine_data {line : InputLine}
    (inData : session.commandType = .data) (parser : session.parserState = false)
    (fits : line.bytes.length < maxLinesize) :
    lmtpHandleLine hostname met session line.bytes =
      if isTerminator line.bytes then
        (lmtpData met { session with parserState := true }).map fun answer =>
          ⟨answer.session.resetParser, answer.replies, some (.data, session.rbuff)⟩
      else .ok ⟨{ session with rbuff := session.rbuff ++ unstuff line.bytes }, [], none⟩ := by
  have nulFree : (0 : UInt8) ∉ line.bytes := by simp [InputLine.bytes, line.noNul]
  have notIdle : session.commandType ≠ .lhlo := by simp [inData]
  have tokens : lmtpTokenizer met session line.bytes = ⟨dataLine session line.bytes, [],
        if (dataLine session line.bytes).parserState then 1 else 0⟩ := by
    rw [lmtpTokenizer, if_neg notIdle, if_pos inData, cstr_eq_self nulFree]
  rw [lmtpHandleLine, if_neg (by omega), tokens]
  by_cases ends : isTerminator line.bytes = true
  · rw [if_pos ends, dataLine, if_pos ends]
    have called : lmtp hostname met { session with parserState := true } =
        lmtpData met { session with parserState := true } := by
      rw [lmtp, inData]
    dsimp only
    rw [if_pos rfl, if_neg (by decide), if_neg (by decide), if_neg (by decide), called]
    cases answered : lmtpData met { session with parserState := true } with
    | error fault => rfl
    | ok answer =>
      have returned := lmtp_result (called.trans answered)
      dsimp only
      rw [if_neg (by simp [returned]), inData]
      rfl
  · rw [if_neg ends, dataLine, if_neg ends]
    have dotted : strncmpEq line.bytes (lit ".") 1 = true ↔ line.bytes.head? = some 46 := by
      rw [strncmpEq, beq_iff_eq]
      cases line.bytes with
      | nil => decide +kernel
      | cons first rest =>
        rw [show lit "." = [46] from lit_ofList _]
        simp
    by_cases dot : strncmpEq line.bytes (lit ".") 1 = true
    · rw [if_pos dot, unstuff, if_pos (dotted.mp dot), ← drop_one]
      rw [parser]
      rfl
    · rw [if_neg dot, unstuff, if_neg fun first => dot (dotted.mpr first)]
      rw [parser]
      rfl

theorem lmtpInsert_stored (given : session.rcpt ≠ []) (stored : met.inserted.status ≠ -1) :
    lmtpInsert met session =
      .ok ⟨session.lmtpRset, session.rcpt.mapIdx fun index recipient =>
        dsnReply recipient.address (met.inserted.dsn index), 1⟩ := by
  rw [lmtpInsert, if_neg given, if_neg stored]

/-- The replies behind the data, one for each recipient. -/
theorem reported_mapIdx {rcpt : List Recipient} (inserted : InsertOutcome)
    (noLf : ∀ recipient ∈ rcpt, (10 : UInt8) ∉ recipient.address) :
    Reported (rcpt.map Recipient.address) inserted
      (rcpt.mapIdx fun index recipient => dsnReply recipient.address (inserted.dsn index)) where
  count := by simp
  matching := by
    intro index address isAddress
    rw [List.getElem?_map, map_eq_some_iff] at isAddress
    obtain ⟨recipient, isRecipient, rfl⟩ := isAddress
    refine ⟨dsnReply recipient.address (inserted.dsn index), ?_, ?_⟩
    · rw [List.getElem?_mapIdx, isRecipient]
      rfl
    · exact replyFor_dsnReply _ (noLf recipient (mem_of_getElem? isRecipient))

section Run

variable {hostname : Bytes} {dialogue : Dialogue} {input : LineMet × InputLine}

/-- The data is answered in full exactly when the message is taken. -/
theorem dataAnswered_iff (agrees : Agrees dialogue) :
    DataAnswered hostname dialogue input ↔ MessageTaken dialogue input := by
  refine imp_congr_right fun ⟨data, ends⟩ => ?_
  have inData : dialogue.session.commandType = .data := by
    rw [agrees.phase, if_pos data]
  have given : dialogue.session.rcpt ≠ [] := agrees.given data
  have fits : input.2.bytes.length < maxLinesize := by
    unfold InputLine.bytes maxLinesize
    obtain dot | dot := (isTerminator_iff input.2).mp ends <;> rw [dot] <;> decide
  rw [handleLine_data inData agrees.parser fits, if_pos ends, lmtpData]
  cases parsed : dbmailMessageInitWithString input.1 dialogue.session.rbuff with
  | error fault => exact iff_of_false nofun nofun
  | ok _ =>
    refine Iff.trans ?_ (and_iff_right rfl).symm
    show (∃ turn, (lmtpInsert input.1 _).map _ = .ok turn ∧ _) ↔ _
    by_cases refused : input.1.inserted.status = -1
    · rw [lmtpInsert, if_neg given, if_pos refused]
      refine iff_of_false ?_ (not_not.mpr refused)
      rintro ⟨turn, handled, -, cleared⟩
      cases handled
      exact given cleared.rcpt
    · rw [@lmtpInsert_stored input.1 { dialogue.session with parserState := true } given refused]
      refine iff_of_true ⟨_, rfl, ?_, rfl, rfl, rfl⟩ refused
      rw [agrees.recipients (agrees.isOpen data)]
      exact reported_mapIdx input.1.inserted agrees.noLf

/-- A line keeps the agreement, unless it ends the data and the message is not taken. -/
theorem agrees_dialogueStep {next : Dialogue} (agrees : Agrees dialogue)
    (taken : MessageTaken dialogue input)
    (stepped : dialogueStep hostname dialogue input = .ok next) : Agrees next := by
  unfold dialogueStep at stepped
  by_cases closed : dialogue.session.state = .quitQueued
  · rw [if_pos closed] at stepped
    cases stepped
    exact agrees
  rw [if_neg closed] at stepped
  cases handled : lmtpHandleLine hostname input.1 dialogue.session input.2.bytes with
  | error fault =>
    rw [handled] at stepped
    cases stepped
  | ok turn =>
    rw [handled] at stepped
    cases stepped
    cases data : dialogue.transaction.data with
    | false =>
      apply agrees_commandTurn agrees closed data
      apply commandTurn_of_handled _ (agrees.args data) handled
      rw [agrees.phase, data]
      rfl
    | true =>
      have inData : dialogue.session.commandType = .data := by
        rw [agrees.phase, if_pos data]
      have fits : input.2.bytes.length < maxLinesize := by
        by_contra long
        rw [lmtpHandleLine, if_pos (by omega)] at handled
        cases handled
      rw [handleLine_data inData agrees.parser fits] at handled
      rw [Transaction.observe, if_pos data]
      by_cases ends : isTerminator input.2.bytes = true
      · obtain ⟨parsed, stored⟩ := taken ⟨data, ends⟩
        have inserted := @lmtpInsert_stored input.1 { dialogue.session with parserState := true }
          (agrees.given data) stored
        rw [if_pos ends, (@lmtpData_eq_ok input.1 { dialogue.session with parserState := true }
          _).mpr ⟨parsed, inserted⟩] at handled
        cases handled
        rw [if_pos ends]
        exact agrees_resetParser (fun _ => rfl) nofun
      · rw [if_neg ends] at handled
        cases handled
        rw [if_neg ends]
        exact { agrees with }

end Run

/-- A message that is not taken shows in the replies or in what is left behind. -/
theorem messageTaken_of_dataAnswered {inputs : List (LineMet × InputLine)}
    (answered : StepsMeet (dialogueStep hostname) (DataAnswered hostname) .fresh inputs) :
    StepsMeet (dialogueStep hostname) MessageTaken .fresh inputs := by
  apply stepsMeet_of_invariant Agrees _ agrees_fresh answered
  intro dialogue input agrees answered
  have taken := (dataAnswered_iff agrees).mp answered
  exact ⟨taken, fun next stepped => agrees_dialogueStep agrees taken stepped⟩

/-- In a session, all data is answered in full and every transaction ends with its data
exactly when GMime and `insert_messages` take every message that is ended. -/
theorem data_answered_iff (hostname : Bytes) (inputs : List (LineMet × InputLine)) :
    StepsMeet (dialogueStep hostname) (DataAnswered hostname) .fresh inputs ↔
      StepsMeet (dialogueStep hostname) MessageTaken .fresh inputs := by
  refine ⟨messageTaken_of_dataAnswered, ?_⟩
  apply stepsMeet_of_invariant Agrees _ agrees_fresh
  intro dialogue input agrees taken
  exact ⟨(dataAnswered_iff agrees).mpr taken,
    fun next stepped => agrees_dialogueStep agrees taken stepped⟩

/-! ## The outcome of the delivery model -/

theorem deliverAll_deliveries (world : InsertWorld) (post : Post) (deliveries : List Dsnuser) :
    (deliverAll world post deliveries).2.map Report.delivery = deliveries := by
  induction deliveries generalizing post with
  | nil => rfl
  | cons delivery rest ih =>
    rw [deliverAll, map_cons, ih]

/-- A message that was stored is taken, and the status of a recipient is the one that was
reported of its delivery. -/
theorem ofInserted_dsn {world : InsertWorld} {store : Int} {post : Post}
    {deliveries : List Dsnuser} {index : Nat} {delivery : Dsnuser} (stored : store ≠ -1)
    (isDelivery : deliveries[index]? = some delivery) :
    (InsertOutcome.ofInserted (insertMessages world store post deliveries)).status ≠ -1 ∧
      ∃ report ∈ (insertMessages world store post deliveries).reports,
        report.delivery = delivery ∧
        (InsertOutcome.ofInserted (insertMessages world store post deliveries)).dsn index =
          report.dsn := by
  rw [insertMessages, if_neg stored]
  refine ⟨show (0 : Int) ≠ -1 by decide, ?_⟩
  have same : (deliverAll world post deliveries).2[index]?.map Report.delivery = some delivery := by
    rw [← List.getElem?_map, deliverAll_deliveries, isDelivery]
  obtain ⟨report, isReport, rfl⟩ := map_eq_some_iff.mp same
  refine ⟨report, mem_of_getElem? isReport, rfl, ?_⟩
  simp [InsertOutcome.ofInserted, isReport]

/-! ## A message that could not be stored -/

instance : Decidable (EndsData dialogue input) :=
  inferInstanceAs (Decidable (_ ∧ _))

instance : Decidable (MessageTaken dialogue input) :=
  inferInstanceAs (Decidable (_ → _))

/-- A parser that wants a subject first. -/
def subjectFirst : Mime := ⟨fun text => strncmpEq text (lit "Subject:") 8, fun _ => false⟩

/-- The tables of the delivery model, and `insert_messages` failing to store. -/
def storeFails : LineMet :=
  ⟨forwardBook, ⟨-1, fun _ => .valid⟩, false, subjectFirst, false, []⟩

def envelope : List InputLine :=
  [⟨lit "LHLO client\r", by decide +kernel, by decide +kernel, by decide +kernel⟩,
    ⟨lit "MAIL FROM:<c@host>\r", by decide +kernel, by decide +kernel, by decide +kernel⟩,
    ⟨lit "RCPT TO:<a@host>\r", by decide +kernel, by decide +kernel, by decide +kernel⟩]

def dataLineInput : InputLine :=
  ⟨lit "DATA\r", by decide +kernel, by decide +kernel, by decide +kernel⟩

def twoRecipients : List (LineMet × InputLine) :=
  (envelope ++
    [⟨lit "RCPT TO:<b@host>\r", by decide +kernel, by decide +kernel, by decide +kernel⟩,
      dataLineInput,
      ⟨lit "Subject: test\r", by decide +kernel, by decide +kernel, by decide +kernel⟩]).map
    fun line => (storeFails, line)

def lastLine : InputLine := ⟨lit ".\r", by decide +kernel, by decide +kernel, by decide +kernel⟩

/-- Two recipients were accepted, one reply is given, and the transaction stays. -/
theorem message_not_received :
    ¬ StepsMeet (dialogueStep (lit "server")) (DataAnswered (lit "server")) .fresh
        (twoRecipients ++ [(storeFails, lastLine)]) ∧
    ((run (dialogueStep (lit "server")) .fresh twoRecipients) >>= fun dialogue =>
        (lmtpHandleLine (lit "server") storeFails dialogue.session lastLine.bytes).map fun turn =>
          (dialogue.transaction.recipients, turn.replies,
            turn.session.sender, turn.session.rcpt.map Recipient.address)) =
      .ok ([lit "a@host", lit "b@host"], [lit "430 Message not received\r\n"],
        [lit "c@host"], [lit "a@host", lit "b@host"]) := by
  constructor
  · intro answered
    exact absurd (messageTaken_of_dataAnswered answered) (by decide +kernel)
  · decide +kernel

end Dbmail.Lmtp
