import Dbmail.Client.Lines
import Dbmail.Lmtp.Replies

/-!
Contract: the data of an LMTP transaction on its way from the network into the
session.

Owns the LMTP server as an instance of the shared input loop, with a log of the
lines that its tokenizer was given, and the exact messages that reach `lmtp` as they
were, whatever the network reads are.

Does not own: the dot stuffing, and what is done with the message.
-/

namespace Dbmail.Lmtp

open Dbmail.Lib Dbmail.Delivery Dbmail.Client
open Dbmail.Imap (ClientState)

/-! ## The server -/

/-- A line that the tokenizer was given, whether it was read as that of a command, and the
command and the buffer with which `lmtp` was called for it, if it was and has returned. -/
structure Tokenised where
  line : Bytes
  command : Bool
  call : Option (LmtpCommand × Bytes)

/-- A session with the lines that it was given. It may have been aborted, or have run into
undefined behaviour. -/
structure Served where
  session : Session
  log : List Tokenised
  crashed : Bool

def Served.fresh : Served := ⟨.fresh, [], false⟩

def Served.closed (served : Served) : Bool :=
  served.crashed || served.session.state = .quitQueued

section Server

variable (hostname : Bytes) (world : Nat → LineMet)

/-- A line is handled. What it meets outside the session depends on its number. -/
def Served.take (served : Served) (line : Bytes) : Served :=
  if served.closed then served
  else
    let command := decide (served.session.commandType = .lhlo)
    match lmtpHandleLine hostname (world served.log.length) served.session line with
    | .error _ => ⟨served.session, served.log ++ [⟨line, command, none⟩], true⟩
    | .ok turn => ⟨turn.session, served.log ++ [⟨line, command, turn.call⟩], false⟩

/-- The LMTP server. The write callback, which enters the same loop, is left out. -/
def lmtpServer : CommandServer Served Unit Empty where
  closed := Served.closed
  bailout served := { served with session := served.session.bailout }
  enter _ served := some served
  need _ := 0
  literals := false
  feed _ _ _ served line :=
    .ok ⟨served.take hostname world line, false, !(served.take hostname world line).closed⟩
  wake cause _ := cause.elim
  blank served := served.session.commandType = .lhlo
  feed_blank := by
    intro _ _ _ _ _ fed returned starttls
    cases returned
    cases starttls

def received (tls : Bool) (chunks : List Bytes) : Except Fault (Connection Served) :=
  run (step (lmtpServer hostname world)) ⟨.fresh, clientNew tls, []⟩ (chunks.map (readOf ()))

/-! ## Transparency -/

def Served.takeAll (served : Served) (lines : List Bytes) : Served :=
  lines.foldl (Served.take hostname world) served

structure AcceptsData (served : Served) (command : InputLine) : Prop where
  isOpen : served.closed = false
  idle : served.session.commandType = .lhlo
  greeted : served.session.state = .authenticated
  sender : served.session.sender ≠ []
  rcpt : served.session.rcpt ≠ []
  isData : commandOf (lineCommand (commandLine command.bytes)) = some .data
  fits : command.bytes.length < maxLinesize

/-- The bytes behind the data are tokenised in their order, the first line of them as a
command. -/
structure TokenisedNext (rest : Bytes) (later : List Tokenised) : Prop where
  inOrder : (later.map Tokenised.line).flatten <+: rest
  asCommand : ∀ next : InputLine, next.bytes.length < maxLinesize → next.bytes <+: rest →
    ∃ entry others, later = entry :: others ∧ entry.line = next.bytes ∧ entry.command = true

/-- What the tokenizer is given of a message: the DATA command, the lines of the data with
no call for any of them, the terminator with a call for the text as it was, and then the
next command. -/
def Transparent (result : Except Fault (Connection Served)) (earlier : List Tokenised)
    (command : InputLine) (text : List InputLine) (dot rest : Bytes) : Prop :=
  ∃ connection later, result = .ok connection ∧ TokenisedNext rest later ∧
    connection.state.log = earlier ++ ⟨command.bytes, true, none⟩ ::
      (text.map fun line => ⟨stuff line.bytes, false, none⟩) ++
      ⟨dot, false, some (.data, text.flatMap InputLine.bytes)⟩ :: later

variable {hostname world}

open Served

/-! ## One line -/

variable {served : Served} (line : InputLine) {data : Bytes}

theorem take_of_ok {line : Bytes} {turn : Turn} (isOpen : served.closed = false)
    (handled : lmtpHandleLine hostname (world served.log.length) served.session line = .ok turn) :
    served.take hostname world line =
      ⟨turn.session,
        served.log ++ [⟨line, decide (served.session.commandType = .lhlo), turn.call⟩], false⟩ := by
  rw [take, if_neg (by simp [isOpen]), handled]

theorem take_log (isOpen : served.closed = false) (line : Bytes) :
    ∃ call, (served.take hostname world line).log =
      served.log ++ [⟨line, decide (served.session.commandType = .lhlo), call⟩] := by
  rw [take, if_neg (by simp [isOpen])]
  split
  · exact ⟨none, rfl⟩
  · rename_i turn handled
    exact ⟨turn.call, rfl⟩

/-- Between two lines the parser holds nothing but the data of an accepted DATA command. -/
structure Rested (session : Session) : Prop where
  phase : session.commandType = .lhlo ∨ session.commandType = .data
  blank : session.commandType = .lhlo → session.rbuff = [] ∧ session.args = []
  parser : session.parserState = false

theorem rested_resetParser (session : Session) : Rested session.resetParser :=
  ⟨.inl rfl, fun _ => ⟨rfl, rfl⟩, rfl⟩

theorem rested_handleLine {met : LineMet} {session : Session} {line : InputLine} {turn : Turn}
    (rested : Rested session)
    (handled : lmtpHandleLine hostname met session line.bytes = .ok turn) :
    Rested turn.session := by
  obtain idle | inData := rested.phase
  · have read := commandTurn_of_handled idle (rested.blank idle).2 handled
    cases read with
    | empty => exact ⟨rested.phase, rested.blank, rfl⟩
    | refused rejected after reply rcpt closes =>
      obtain rfl | rfl := closes
      · exact ⟨.inl rfl, fun _ => ⟨rfl, rfl⟩, rfl⟩
      · exact rested_resetParser rejected
    | data =>
      refine ⟨.inr rfl, ?_, rfl⟩
      intro idle
      cases idle
    | called => exact rested_resetParser _
  · have fits : line.bytes.length < maxLinesize := by
      by_contra long
      rw [lmtpHandleLine, if_pos (by omega)] at handled
      cases handled
    rw [handleLine_data inData rested.parser fits] at handled
    split at handled
    · cases answered : lmtpData met { session with parserState := true } with
      | error fault =>
        rw [answered] at handled
        cases handled
      | ok answer =>
        rw [answered] at handled
        cases handled
        exact rested_resetParser _
    · cases handled
      refine ⟨.inr inData, ?_, rested.parser⟩
      intro idle
      rw [inData] at idle
      cases idle

theorem rested_takeAll (rested : Rested served.session) (lines : List InputLine) :
    Rested (served.takeAll hostname world (lines.map InputLine.bytes)).session := by
  induction lines generalizing served with
  | nil => exact rested
  | cons line others ih =>
    apply ih
    unfold take
    split
    · exact rested
    · split
      · exact rested
      · rename_i turn handled
        exact rested_handleLine rested handled

structure InData (served : Served) (data : Bytes) : Prop where
  running : served.crashed = false
  phase : served.session.commandType = .data
  rbuff : served.session.rbuff = data
  parser : served.session.parserState = false
  rcpt : served.session.rcpt ≠ []
  state : served.session.state = .authenticated

theorem InData.isOpen (inData : InData served data) : served.closed = false := by
  simp [closed, inData.running, inData.state]

def Session.entersData (session : Session) (line : Bytes) : Session :=
  { session with
    parserState := false
    commandType := .data
    args := session.args ++ (lineValue line).toList }

theorem take_dataCommand {command : InputLine} (rested : Rested served.session)
    (accepts : AcceptsData served command) :
    (served.take hostname world command.bytes).log =
        served.log ++ [⟨command.bytes, true, none⟩] ∧
      InData (served.take hostname world command.bytes) [] := by
  have nonempty : commandLine command.bytes ≠ [] := by
    intro empty
    have isData := accepts.isData
    rw [empty] at isData
    revert isData
    decide +kernel
  have tokens : ∀ met, lmtpTokenizer met served.session command.bytes =
      dataCommand met (served.session.entersData (commandLine command.bytes)) := by
    intro met
    rw [lmtpTokenizer, if_pos accepts.idle, commandTokens, if_neg nonempty, accepts.isData]
    dsimp only
    rw [if_neg (by simp [LmtpCommand.bare])]
    rfl
  have taken : ∀ met session, session.state = ClientState.authenticated → session.rcpt ≠ [] →
      session.sender ≠ [] → dataCommand met session = ⟨session, [startMailInput], 0⟩ := by
    intro met session greeted rcpt sender
    rw [dataCommand, if_neg (by simp [greeted]), if_neg (by simpa using rcpt),
      if_neg (by simpa using sender)]
  have handled : ∀ met, lmtpHandleLine hostname met served.session command.bytes =
      .ok ⟨served.session.entersData (commandLine command.bytes), [startMailInput], none⟩ := by
    intro met
    have fits := accepts.fits
    rw [lmtpHandleLine, if_neg (by omega), tokens, taken]
    · rfl
    · exact accepts.greeted
    · exact accepts.rcpt
    · exact accepts.sender
  rw [take_of_ok accepts.isOpen (handled _), accepts.idle]
  exact ⟨rfl, rfl, rfl, (rested.blank accepts.idle).1, rfl, accepts.rcpt, accepts.greeted⟩

/-! ## The lines of the data -/

theorem stuff_bytes : stuff line.bytes = stuff line.content ++ [10] := by
  unfold InputLine.bytes
  cases line.content with
  | nil => rfl
  | cons first rest =>
    unfold stuff
    split <;> simp_all

/-- A line as it is sent, if it fits into the buffer. -/
def stuffed (line : InputLine) (fits : (stuff line.bytes).length ≤ maxLinesize) : InputLine where
  content := stuff line.content
  noLf := not_mem_stuff (by decide) line.noLf
  noNul := not_mem_stuff (by decide) line.noNul
  fits := by
    rw [stuff_bytes, List.length_append, List.length_singleton] at fits
    omega

theorem stuffed_bytes (fits : (stuff line.bytes).length ≤ maxLinesize) :
    (stuffed line fits).bytes = stuff line.bytes := (stuff_bytes line).symm

theorem stuffed_not_terminator (fits : (stuff line.bytes).length ≤ maxLinesize) :
    isTerminator (stuffed line fits).bytes = false := by
  rw [← Bool.not_eq_true, isTerminator_iff]
  rintro (dot | dotCr)
  · exact stuff_ne_dot line.content (by decide) dot
  · -- a dot in front of a carriage return would have been doubled
    exact stuff_ne_dot line.content (by decide) dotCr

theorem take_data (inData : InData served data)
    (line : InputLine) (fits : (stuff line.bytes).length < maxLinesize) :
    (served.take hostname world (stuff line.bytes)).log =
        served.log ++ [⟨stuff line.bytes, false, none⟩] ∧
      InData (served.take hostname world (stuff line.bytes)) (data ++ line.bytes) := by
  have sent := stuffed_bytes line fits.le
  have handled := @handleLine_data hostname (world served.log.length) served.session
    (stuffed line fits.le) inData.phase inData.parser (by rw [sent]; exact fits)
  rw [if_neg (by simp [stuffed_not_terminator]), sent, unstuff_stuff] at handled
  rw [take_of_ok inData.isOpen handled, inData.phase]
  refine ⟨rfl, ?_⟩
  exact ⟨rfl, rfl, congrArg (· ++ line.bytes) inData.rbuff, inData.parser, inData.rcpt,
    inData.state⟩

theorem takeAll_data (inData : InData served data)
    (text : List InputLine) (fits : ∀ line ∈ text, (stuff line.bytes).length < maxLinesize) :
    (served.takeAll hostname world (text.map fun line => stuff line.bytes)).log =
        served.log ++ text.map (fun line => ⟨stuff line.bytes, false, none⟩) ∧
      InData (served.takeAll hostname world (text.map fun line => stuff line.bytes))
        (data ++ text.flatMap InputLine.bytes) := by
  induction text generalizing served data with
  | nil =>
    rw [List.map_nil, List.map_nil, List.append_nil, List.flatMap_nil, List.append_nil]
    exact ⟨rfl, inData⟩
  | cons line others ih =>
    obtain ⟨logged, next⟩ := @take_data hostname world served data inData line
      (fits line List.mem_cons_self)
    obtain ⟨log, final⟩ := ih next
      fun other member => fits other (List.mem_cons_of_mem _ member)
    rw [logged, List.append_assoc] at log
    rw [List.append_assoc] at final
    exact ⟨log, final⟩

theorem exists_dotLine {dot : Bytes} (isDot : dot = [46, 10] ∨ dot = [46, 13, 10]) :
    ∃ line : InputLine, line.bytes = dot ∧ isTerminator line.bytes = true ∧
      line.bytes.length < maxLinesize := by
  obtain rfl | rfl := isDot
  · refine ⟨⟨[46], by decide, by decide, by decide⟩, rfl, ?_, by decide⟩
    exact (isTerminator_iff _).mpr (.inl rfl)
  · refine ⟨⟨[46, 13], by decide, by decide, by decide⟩, rfl, ?_, by decide⟩
    exact (isTerminator_iff _).mpr (.inr rfl)

/-- The terminator dispatches the message, and a command comes next. -/
theorem take_dot {data dot : Bytes} (inData : InData served data)
    (isDot : dot = [46, 10] ∨ dot = [46, 13, 10])
    (parsed : dbmailMessageInitWithString (world served.log.length) data = .ok ()) :
    (served.take hostname world dot).log = served.log ++ [⟨dot, false, some (.data, data)⟩] ∧
      (served.take hostname world dot).closed = false ∧
      (served.take hostname world dot).session.commandType = .lhlo := by
  obtain ⟨line, rfl, ends, fits⟩ := exists_dotLine isDot
  have handled := @handleLine_data hostname (world served.log.length) served.session line
    inData.phase inData.parser fits
  rw [← inData.rbuff] at parsed
  rw [if_pos ends] at handled
  have inserted : ∃ answer, lmtpInsert (world served.log.length)
      { served.session with parserState := true } = .ok answer ∧
      answer.session.state = .authenticated := by
    rw [lmtpInsert, if_neg inData.rcpt]
    split
    · exact ⟨_, rfl, inData.state⟩
    · exact ⟨_, rfl, rfl⟩
  obtain ⟨answer, isAnswer, greeted⟩ := inserted
  have returned : lmtpData (world served.log.length)
      { served.session with parserState := true } = .ok answer :=
    lmtpData_eq_ok.mpr ⟨parsed, isAnswer⟩
  rw [returned] at handled
  rw [take_of_ok inData.isOpen handled, inData.phase, inData.rbuff]
  refine ⟨rfl, ?_, rfl⟩
  simp [closed, Session.resetParser, greeted]

/-- A text of which no message is made is the last one. -/
theorem take_dot_unparsed {data dot : Bytes} (inData : InData served data)
    (isDot : dot = [46, 10] ∨ dot = [46, 13, 10])
    (unparsed : dbmailMessageInitWithString (world served.log.length) data ≠ .ok ()) :
    served.take hostname world dot =
      ⟨served.session, served.log ++ [⟨dot, false, none⟩], true⟩ := by
  obtain ⟨line, rfl, ends, fits⟩ := exists_dotLine isDot
  have handled := @handleLine_data hostname (world served.log.length) served.session line
    inData.phase inData.parser fits
  rw [← inData.rbuff] at unparsed
  rw [take, if_neg (by simp [inData.isOpen]), handled, if_pos ends, inData.phase]
  cases answered : lmtpData (world served.log.length) _ with
  | error fault => rfl
  | ok answer => exact absurd (lmtpData_eq_ok.mp answered).1 unparsed

/-! ## The stream -/

theorem closed_take (served : Served) (line : Bytes) (closed : served.closed = true) :
    (served.take hostname world line).closed = true := by
  rw [Served.take, if_pos closed]
  exact closed

/-- A line in front of other input is what is read first. -/
theorem cutLine_bytes (rest : Bytes) : cutLine (line.bytes ++ rest) = some (line.bytes, rest) := by
  have fits := line.fits
  refine cutLine_eq_some.mpr ⟨?_, ?_, ?_⟩
  · rw [InputLine.bytes, List.append_assoc]
    exact firstLine_content line.noLf line.noNul rest
  · rw [InputLine.bytes, List.length_append, List.length_singleton]
    omega
  · rw [List.drop_left]

/-- The log grows by lines of the stream, in their order. -/
theorem consume_log (served : Served) (stream : Bytes) :
    ∃ later, (consume lineCutter closed (take hostname world) served stream).1.log =
        served.log ++ later ∧ (later.map Tokenised.line).flatten <+: stream := by
  induction served, stream using
    consume.induct lineCutter closed (take hostname world) with
  | case1 served stream stops =>
    rw [consume_of_stopped _ _ stops]
    exact ⟨[], by simp, List.nil_prefix⟩
  | case2 served stream going nothing =>
    rw [consume_of_none _ _ nothing]
    exact ⟨[], by simp, List.nil_prefix⟩
  | case3 served stream going line rest found shorter ih =>
    have isOpen : served.closed = false := by simpa using going
    obtain ⟨later, log, inOrder⟩ := ih
    obtain ⟨call, logged⟩ := @take_log hostname world served isOpen line
    rw [consume_of_some _ _ isOpen found]
    refine ⟨⟨line, decide (served.session.commandType = .lhlo), call⟩ :: later, ?_, ?_⟩
    · rw [log, logged, List.append_assoc]
      rfl
    · rw [lineCutter.whole found]
      exact (List.prefix_append_right_inj line).mpr inOrder

/-- Input for a session that waits for a command. -/
theorem tokenisedNext_consume (isOpen : served.closed = false)
    (idle : served.session.commandType = .lhlo) (rest : Bytes) :
    ∃ later, TokenisedNext rest later ∧
      (consume lineCutter closed (take hostname world) served rest).1.log =
        served.log ++ later := by
  obtain ⟨later, log, inOrder⟩ := @consume_log hostname world served rest
  refine ⟨later, ⟨inOrder, ?_⟩, log⟩
  rintro next - ⟨behind, rfl⟩
  rw [consume_of_some _ _ isOpen (cutLine_bytes next behind)] at log
  obtain ⟨call, logged⟩ := @take_log hostname world served isOpen next.bytes
  obtain ⟨others, further, -⟩ := @consume_log hostname world
    (served.take hostname world next.bytes) behind
  rw [further, logged, List.append_assoc, List.append_cancel_left_eq] at log
  exact ⟨_, others, log.symm, rfl, by simp [idle]⟩

theorem received_log (tls : Bool) (chunks : List Bytes) :
    ∃ connection, received hostname world tls chunks = .ok connection ∧
      connection.state = (consume lineCutter closed (take hostname world) .fresh
        chunks.flatten).1 := by
  have linewise : Linewise (lmtpServer hostname world) (take hostname world) :=
    ⟨rfl, fun _ _ => rfl, fun _ _ _ _ _ => rfl⟩
  exact run_reads linewise () .fresh tls chunks

/-! ## A message in the stream -/

/-- All that is sent: lines up to a DATA command, the text with its dots, the line that ends
it, and more. -/
def sent (before : List InputLine) (command : InputLine) (text : List InputLine)
    (dot rest : Bytes) : Bytes :=
  before.flatMap InputLine.bytes ++ (command.bytes ++
    ((text.flatMap fun line => stuff line.bytes) ++ (dot ++ rest)))

section Message

variable {before : List InputLine} {command : InputLine}

theorem consume_command
    (accepts : AcceptsData (fresh.takeAll hostname world (before.map InputLine.bytes))
      command) (stream : Bytes) :
    ∃ served, served.log = (fresh.takeAll hostname world (before.map InputLine.bytes)).log ++
        [⟨command.bytes, true, none⟩] ∧
      InData served [] ∧
      consume lineCutter closed (take hostname world) .fresh
          (before.flatMap InputLine.bytes ++ (command.bytes ++ stream)) =
        consume lineCutter closed (take hostname world) served stream := by
  have rested : Rested fresh.session := ⟨.inl rfl, fun _ => ⟨rfl, rfl⟩, rfl⟩
  obtain ⟨logged, inData⟩ :=
    @take_dataCommand hostname world _ command (rested_takeAll rested before) accepts
  refine ⟨_, logged, inData, ?_⟩
  rw [← consume_of_some lineCutter _ accepts.isOpen (cutLine_bytes command stream)]
  refine consume_tokens lineCutter _ closed_take _ ?_ accepts.isOpen
  intro line member behind
  obtain ⟨input, -, rfl⟩ := List.mem_map.mp member
  exact cutLine_bytes input behind

/-- The input up to the lines of the data that fit. -/
theorem consume_data
    (accepts : AcceptsData (fresh.takeAll hostname world (before.map InputLine.bytes)) command)
    {text : List InputLine} (fits : ∀ line ∈ text, (stuff line.bytes).length < maxLinesize)
    (stream : Bytes) :
    ∃ after, after.log = (fresh.takeAll hostname world (before.map InputLine.bytes)).log ++
        ⟨command.bytes, true, none⟩ :: text.map (fun line => ⟨stuff line.bytes, false, none⟩) ∧
      InData after (text.flatMap InputLine.bytes) ∧
      consume lineCutter closed (take hostname world) .fresh (before.flatMap InputLine.bytes ++
          (command.bytes ++ ((text.flatMap fun line => stuff line.bytes) ++ stream))) =
        consume lineCutter closed (take hostname world) after stream := by
  obtain ⟨served, commanded, inData, upto⟩ := consume_command accepts
    ((text.flatMap fun line => stuff line.bytes) ++ stream)
  obtain ⟨log, final⟩ := @takeAll_data hostname world served [] inData text fits
  rw [commanded, List.append_assoc] at log
  refine ⟨_, log, final, upto.trans ?_⟩
  refine consume_tokens lineCutter _ closed_take _ ?_ final.isOpen
  intro line member behind
  obtain ⟨input, inText, rfl⟩ := List.mem_map.mp member
  rw [← stuffed_bytes input (fits input inText).le]
  exact cutLine_bytes _ behind

/-- A line that does not fit is the last one that is read. -/
theorem consume_long {served : Served} {data : Bytes} (inData : InData served data)
    {line : InputLine} (long : maxLinesize ≤ (stuff line.bytes).length) (stream : Bytes) :
    (consume lineCutter closed (take hostname world) served
      (stuff line.bytes ++ stream)).1.log.length ≤ served.log.length + 1 := by
  by_cases full : (stuff line.bytes).length ≤ maxLinesize
  · -- the line fills the buffer: it is read, and the tokenizer runs past its end
    have cut := cutLine_bytes (stuffed line full) stream
    rw [stuffed_bytes] at cut
    rw [consume_of_some lineCutter _ inData.isOpen cut]
    have crash : served.take hostname world (stuff line.bytes) =
        ⟨served.session, served.log ++ [⟨stuff line.bytes, false, none⟩], true⟩ := by
      rw [take, if_neg (by simp [inData.isOpen]), lmtpHandleLine, if_pos long, inData.phase]
      rfl
    rw [crash, consume_of_stopped lineCutter _ rfl]
    simp
  · -- the line is longer than that, and `ci_readln` leaves it where it is
    have nothing : cutLine (stuff line.bytes ++ stream) = none := by
      have first : firstLine (stuff line.bytes ++ stream) = some (stuff line.bytes) := by
        rw [stuff_bytes, List.append_assoc]
        exact firstLine_content (not_mem_stuff (by decide) line.noLf)
          (not_mem_stuff (by decide) line.noNul) _
      rw [cutLine, first]
      exact if_pos (by omega)
    rw [consume_of_none lineCutter _ nothing]
    exact Nat.le_succ _

/-- A line that does not fit keeps the message from being dispatched. -/
theorem fits_of_transparent {tls : Bool} {text : List InputLine} {dot rest : Bytes}
    {chunks : List Bytes}
    (accepts : AcceptsData (fresh.takeAll hostname world (before.map InputLine.bytes)) command)
    (arrives : chunks.flatten = sent before command text dot rest)
    (transparent : Transparent (received hostname world tls chunks)
      (fresh.takeAll hostname world (before.map InputLine.bytes)).log command text dot rest) :
    ∀ line ∈ text, (stuff line.bytes).length < maxLinesize := by
  by_contra some_
  obtain ⟨connection, later, returned, -, log⟩ := transparent
  obtain ⟨other, returned', state⟩ := @received_log hostname world tls chunks
  rw [returned] at returned'
  cases returned'
  obtain ⟨fitting, line, others, split, short, long⟩ :=
    @FirstSplit.exists _ (fun line : InputLine => maxLinesize ≤ (stuff line.bytes).length)
      text (by simpa using some_)
  obtain ⟨after, logged, inData, fed⟩ := consume_data accepts
    (fun other member => not_le.mp (short other member))
    (stuff line.bytes ++ ((others.flatMap fun line => stuff line.bytes) ++ (dot ++ rest)))
  have bound := @consume_long hostname world after _ inData line long
    ((others.flatMap fun line => stuff line.bytes) ++ (dot ++ rest))
  rw [arrives, sent, split, List.flatMap_append, List.flatMap_cons, List.append_assoc,
    List.append_assoc, fed] at state
  rw [← state, log, logged, split] at bound
  simp only [List.length_append, List.length_cons, List.length_map] at bound
  omega

end Message

theorem cutLine_dot {dot : Bytes} (isDot : dot = [46, 10] ∨ dot = [46, 13, 10]) (rest : Bytes) :
    cutLine (dot ++ rest) = some (dot, rest) := by
  obtain ⟨line, rfl, -⟩ := exists_dotLine isDot
  exact cutLine_bytes line rest

/-- A message reaches `lmtp` as it was sent and is followed by the next command, whatever the
network reads are, exactly when each of its lines, with its dot and its line feed, leaves room in
the buffer, and a message can be made of it. -/
theorem transparent_iff (tls : Bool) (before : List InputLine) (command : InputLine)
    (text : List InputLine) (dot rest : Bytes) (chunks : List Bytes)
    (accepts : AcceptsData (Served.fresh.takeAll hostname world (before.map InputLine.bytes))
      command)
    (isDot : dot = [46, 10] ∨ dot = [46, 13, 10])
    (arrives : chunks.flatten = sent before command text dot rest) :
    Transparent (received hostname world tls chunks)
        (Served.fresh.takeAll hostname world (before.map InputLine.bytes)).log command text dot
        rest ↔
      (∀ line ∈ text, (stuff line.bytes).length < maxLinesize) ∧
        dbmailMessageInitWithString
          (world ((Served.fresh.takeAll hostname world (before.map InputLine.bytes)).log.length +
            1 + text.length))
          (text.flatMap InputLine.bytes) = .ok () := by
  obtain ⟨connection, returned, state⟩ := @received_log hostname world tls chunks
  rw [arrives, sent] at state
  -- the session as the line that ends the data finds it
  have upto : (∀ line ∈ text, (stuff line.bytes).length < maxLinesize) →
      ∃ after : Served, after.log =
          (Served.fresh.takeAll hostname world (before.map InputLine.bytes)).log ++
            ⟨command.bytes, true, none⟩ ::
              text.map (fun line => ⟨stuff line.bytes, false, none⟩) ∧
        InData after (text.flatMap InputLine.bytes) ∧
        connection.state = (consume lineCutter closed (take hostname world)
          (after.take hostname world dot) rest).1 := by
    intro fits
    obtain ⟨after, logged, inData, fed⟩ := consume_data accepts fits (dot ++ rest)
    refine ⟨after, logged, inData, ?_⟩
    rw [state, fed, consume_of_some lineCutter _ inData.isOpen (cutLine_dot isDot rest)]
  have count : ∀ after : Served, after.log =
      (Served.fresh.takeAll hostname world (before.map InputLine.bytes)).log ++
        ⟨command.bytes, true, none⟩ :: text.map (fun line => ⟨stuff line.bytes, false, none⟩) →
      after.log.length =
        (Served.fresh.takeAll hostname world (before.map InputLine.bytes)).log.length + 1 +
          text.length := by
    intro after logged
    rw [logged]
    simp only [List.length_append, List.length_cons, List.length_map]
    omega
  constructor
  · intro transparent
    have fits := fits_of_transparent accepts arrives transparent
    refine ⟨fits, ?_⟩
    obtain ⟨after, logged, inData, fed⟩ := upto fits
    rw [← count after logged]
    by_contra unparsed
    obtain ⟨other, later, returned', -, log⟩ := transparent
    rw [returned] at returned'
    cases returned'
    rw [take_dot_unparsed inData isDot unparsed, consume_of_stopped lineCutter _ rfl] at fed
    rw [fed, logged] at log
    simp at log
  · rintro ⟨fits, parsed⟩
    obtain ⟨after, logged, inData, fed⟩ := upto fits
    rw [← count after logged] at parsed
    obtain ⟨dispatched, isOpen, idle⟩ := @take_dot hostname world after _ dot inData isDot parsed
    obtain ⟨later, next, log⟩ := @tokenisedNext_consume hostname world _ isOpen idle rest
    refine ⟨connection, later, returned, next, ?_⟩
    rw [fed, log, dispatched, logged]
    simp

end Server

/-! ## A message with a long line -/

def storeWorks (_ : Nat) : LineMet :=
  ⟨forwardBook, ⟨0, fun _ => .valid⟩, false, subjectFirst, false, []⟩

theorem envelope_acceptsData :
    AcceptsData (Served.fresh.takeAll (lit "server") storeWorks (envelope.map InputLine.bytes))
      dataLineInput where
  isOpen := by decide +kernel
  idle := by decide +kernel
  greeted := by decide +kernel
  sender := by decide +kernel
  rcpt := by
    intro none
    have count : (Served.fresh.takeAll (lit "server") storeWorks
        (envelope.map InputLine.bytes)).session.rcpt.length = 1 := by decide +kernel
    rw [none] at count
    cases count
  isData := by decide +kernel
  fits := by decide +kernel

/-- Lines of dots, split in the middle of the terminator and with a command behind it. -/
theorem dots_transparent :
    Transparent
      (received (lit "server") storeWorks false
        [lit "LHLO client\r\nMAIL FROM:<c@host>\r\nRCPT TO:<a@host>\r\nDA",
          lit "TA\r\nSubject: dots\r\n\n..\r\n...\n.", lit "\r\nNOOP\r\n"])
      (Served.fresh.takeAll (lit "server") storeWorks (envelope.map InputLine.bytes)).log
      dataLineInput
      [⟨lit "Subject: dots\r", by decide +kernel, by decide +kernel, by decide +kernel⟩,
        ⟨[], by decide, by decide, by decide⟩, lastLine,
        ⟨lit "..", by decide +kernel, by decide +kernel, by decide +kernel⟩]
      (lit ".\r\n") (lit "NOOP\r\n") := by
  apply (transparent_iff false envelope dataLineInput _ _ _ _ envelope_acceptsData
    (by decide +kernel) (by decide +kernel)).mpr
  refine ⟨fun line member => ?_, by decide +kernel⟩
  simp only [List.mem_cons, List.not_mem_nil, or_false] at member
  obtain rfl | rfl | rfl | rfl := member <;> decide +kernel

def dottedLine (count : Nat) (fits : count + 1 < maxLinesize) : InputLine where
  content := 46 :: List.replicate count 120
  noLf := by simp [List.mem_replicate]
  noNul := by simp [List.mem_replicate]
  fits := by simpa using fits

theorem dottedLine_length (count : Nat) (fits : count + 1 < maxLinesize) :
    (dottedLine count fits).bytes.length = count + 2 ∧
      (stuff (dottedLine count fits).bytes).length = count + 3 := by
  rw [stuff]
  simp [InputLine.bytes, dottedLine]

/-- A line of 65535 bytes that starts with a dot. -/
def longLine : InputLine := dottedLine 65533 (by decide)

/-- With the dot that is stuffed in front of it the line fills the buffer. -/
theorem long_line_lost :
    longLine.bytes.length < maxLinesize ∧
    ¬ Transparent
        (received (lit "server") storeWorks false
          [sent envelope dataLineInput [longLine] (lit ".\r\n") []])
        (Served.fresh.takeAll (lit "server") storeWorks (envelope.map InputLine.bytes)).log
        dataLineInput [longLine] (lit ".\r\n") [] := by
  have size : longLine.bytes.length = 65535 := (dottedLine_length _ _).1
  have stuffedSize : (stuff longLine.bytes).length = 65536 := (dottedLine_length _ _).2
  refine ⟨by rw [size]; decide, fun transparent => ?_⟩
  have fits := fits_of_transparent envelope_acceptsData (by simp) transparent longLine
    List.mem_cons_self
  rw [stuffedSize] at fits
  exact absurd fits (by decide)

end Dbmail.Lmtp
