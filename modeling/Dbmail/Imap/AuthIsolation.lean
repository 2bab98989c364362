import Dbmail.Imap.Arguments

/-!
Contract: what one authentication exchange leaves behind for the next.

Owns the isolated machine, in which every command starts from a session that
keeps nothing of an earlier command, the condition under which a text can be
read without anything left behind by earlier exchanges, and the agreement of
the two machines along every run that meets it.

Does not own: the decision of a single attempt.
-/

namespace Dbmail.Imap

open Dbmail.Lib Dbmail.Auth Session List Option

variable (conf : ServerConf) (env : TokenEnv) {word input text buffer : Bytes} {session : Session}

/-! ## The isolated machine -/

def Session.begins (session : Session) (input : Bytes) : Bool :=
  session.tag = [] && cstr input ≠ [] &&
    !(cstr input).head? = some 10 && !(lit "\r\n").isPrefixOf (cstr input)

/-- The session as it would be if no earlier command had left anything in the
parser or in `ci->auth`. -/
def Session.isolated (session : Session) (input : Bytes) : Session :=
  if session.begins input then { session.reset with rbuffSize := 0, auth := .null } else session

def isolatedReader (conf : ServerConf) : Reader :=
  fun env session input => tokenizer conf env (session.isolated input) input

def isolatedStep (conf : ServerConf) := stepWith conf (isolatedReader conf)

/-- The connection returns from all events, in the state and with the attempts
of the isolated machine. -/
def Isolated (conf : ServerConf) (sslState : Bool) (events : List Event) : Prop :=
  ∃ connection, run (step conf) (start conf sslState) events = .ok connection ∧
    run (isolatedStep conf) (start conf sslState) events = .ok connection

/-! ## The condition -/

/-- The command is LOGIN or AUTHENTICATE, or none that exists. -/
def authWord (word : Bytes) : Bool :=
  match lookupCommand word with
  | none | some .login | some .authenticate => true
  | some _ => false

def lineWords (text : Bytes) : Option (List Bytes) :=
  match scan ((gStrchomp text).length + 1) none (gStrchomp text) [] [] none with
  | .finished words true => some words
  | _ => none

/-- The first line asks for a CRAM-MD5 exchange, and gets a new object. -/
def Session.opensExchange (session : Session) (buffer : Bytes) : Bool :=
  stridx buffer 32 ≠ buffer.length && checktag (tagWord buffer) && argumentText buffer ≠ [] &&
    session.preauthCapa.matches (lit "AUTH=CRAM-MD5") &&
    match lineWords (argumentText buffer) with
    | some [word] => smatch word "CRAM-MD5"
    | _ => false

/-- Nothing of an earlier command is left in the parser. -/
def Session.atStart (session : Session) : Bool :=
  session.command = [] && !session.useUid && session.commandType = none &&
    session.commandState = .inProgress && session.parserState = .pending &&
    session.args = [] && session.argsIdx = 0 && session.rbuffSize = 0

def Session.cleanStart (session : Session) (buffer : Bytes) : Bool :=
  session.atStart && authWord (commandWord buffer) &&
    (session.auth = .null || session.opensExchange buffer)

/-- What a further line of a command needs: a reply to PLAIN has its two NULs,
and a reply to CRAM-MD5 follows a challenge. -/
def Session.cleanReply (env : TokenEnv) (session : Session) (line : Bytes) : Bool :=
  match session.args with
  | [] => true
  | first :: _ =>
    smatch line "*" || ((!smatch first "PLAIN" || 2 ≤ (env.base64Decode line).count 0) &&
        (!(smatch first "CRAM-MD5" && session.argsIdx = 1) || session.auth ≠ .null))

def Session.clean (env : TokenEnv) (session : Session) (input : Bytes) : Bool :=
  session.state.code < ClientState.logout.code && session.argsIdx + 2 < maxArgs &&
    if session.begins input then session.cleanStart (cstr input)
    else if session.rbuffSize ≠ 0 then (cstr input).length ≤ session.rbuffSize
    else session.cleanReply env (gStrchomp (cstr input))

def cleanInput (conf : ServerConf) (env : TokenEnv) : Session → List Bytes → Bool
  | _, [] => true
  | session, input :: rest =>
    maxFaultyResponses ≤ session.errorCount ||
      (session.clean env input &&
        match tokenizer conf env session input with
        | .ok (after, .pending) => cleanInput conf env after rest
        | _ => true)

def cleanEvent (conf : ServerConf) (connection : Connection) : Event → Bool
  | .input env inputs =>
    let session := connection.session
    (session.commandState = .inProgress && session.parserState = .complete) ||
      cleanInput conf env.token
        (if session.commandState = .done then session.reset else session) inputs
  | _ => true

/-! ## A clean text reads the same in both machines -/

def Session.named (session : Session) (buffer : Bytes) : Session :=
  { session with
    parserState := .pending, tag := tagWord buffer, command := commandWord buffer }

def Session.opened (env : TokenEnv) (session : Session) (buffer word : Bytes) : Session :=
  { session.named buffer with args := [word], argsIdx := 1 }.challenge env

variable {conf env}

theorem begins_iff :
    session.begins input = true ↔ session.tag = [] ∧ cstr input ≠ [] ∧
      ¬ ((cstr input).head? = some 10 ∨ (lit "\r\n").isPrefixOf (cstr input) = true) := by
  simp only [begins, Bool.and_eq_true, decide_eq_true_eq, Bool.not_eq_true',
    decide_eq_false_iff_not, not_or, Bool.not_eq_true, and_assoc]

theorem atStart_iff : session.atStart = true ↔
    session.command = [] ∧ session.useUid = false ∧ session.commandType = none ∧
      session.commandState = .inProgress ∧ session.parserState = .pending ∧
      session.args = [] ∧ session.argsIdx = 0 ∧ session.rbuffSize = 0 := by
  simp [atStart, and_assoc]

theorem isolated_of_atStart (begins : session.begins input = true)
    (start : session.atStart = true) : session.isolated input = { session with auth := .null } := by
  have noTag := (begins_iff.mp begins).1
  have fields := atStart_iff.mp start
  cases session
  simp_all [isolated, reset]

/-- A line whose only word is the mechanism is answered with a challenge. -/
theorem scanLine_opens (session : Session) (fresh : session.args = [] ∧ session.argsIdx = 0)
    (words : lineWords text = some [word]) (mechanism : smatch word "CRAM-MD5" = true)
    (announced : session.preauthCapa.matches (lit "AUTH=CRAM-MD5") = true) :
    scanLine conf env session (gStrchomp text) =
      .ok ({ session with args := [word], argsIdx := 1 }.challenge env, .pending) := by
  have scanned : scan ((gStrchomp text).length + 1) none (gStrchomp text) [] [] none =
      .finished [word] true := by
    unfold lineWords at words
    split at words
    · cases words
      assumption
    · cases words
  have notLogin := (smatch_eq mechanism).trans (show smatch (lit "CRAM-MD5") "LOGIN" = false by decide)
  have notPlain := (smatch_eq mechanism).trans (show smatch (lit "CRAM-MD5") "PLAIN" = false by decide)
  simp [scanLine, fresh.1, scanned, finalize, asksFor, notLogin, notPlain, mechanism, announced]

theorem tokenizer_of_begins (begins : session.begins input = true) :
    tokenizer conf env session input = firstLine conf env session (cstr input) := by
  obtain ⟨noTag, nonempty, line⟩ := begins_iff.mp begins
  simp only [tokenizer, nonempty, noTag, line, if_false, ne_eq, not_true_eq_false]

theorem firstLine_of_command (hasCommand : stridx buffer 32 ≠ buffer.length)
    (goodTag : checktag (tagWord buffer) = true) :
    firstLine conf env session buffer =
      parseArgs conf env (session.named buffer) (argumentText buffer) := by
  simp only [firstLine, hasCommand, goodTag]
  rfl

theorem tokenizerMain_of_fresh (session : Session) (hasText : text ≠ [])
    (noLiteral : session.rbuffSize = 0) (noArgs : session.args = []) :
    tokenizerMain conf env session text = scanLine conf env session (gStrchomp text) := by
  simp only [tokenizerMain, hasText, noLiteral, if_false, ne_eq, not_true_eq_false]
  rw [noArgs]

structure Opening (session : Session) (buffer word : Bytes) : Prop where
  hasCommand : stridx buffer 32 ≠ buffer.length
  goodTag : checktag (tagWord buffer) = true
  hasText : argumentText buffer ≠ []
  announced : session.preauthCapa.matches (lit "AUTH=CRAM-MD5") = true
  words : lineWords (argumentText buffer) = some [word]
  mechanism : smatch word "CRAM-MD5" = true

theorem Opening.of_opensExchange (opens : session.opensExchange buffer = true) :
    ∃ word, Opening session buffer word := by
  simp only [opensExchange, Bool.and_eq_true, decide_eq_true_eq] at opens
  obtain ⟨⟨⟨⟨hasCommand, goodTag⟩, hasText⟩, announced⟩, single⟩ := opens
  split at single
  · rename_i word words
    exact ⟨word, hasCommand, goodTag, hasText, announced, words, single⟩
  · cases single

theorem tokenizer_opens (session : Session) (begins : session.begins input = true)
    (start : session.atStart = true) (opening : Opening session (cstr input) word) :
    tokenizer conf env session input = .ok (session.opened env (cstr input) word, .pending) := by
  obtain ⟨-, -, -, -, -, noArgs, noIndex, noLiteral⟩ := atStart_iff.mp start
  rw [tokenizer_of_begins begins,
    firstLine_of_command opening.hasCommand opening.goodTag, parseArgs,
    tokenizerMain_of_fresh (session.named _) opening.hasText noLiteral noArgs,
    scanLine_opens (session.named _) ⟨noArgs, noIndex⟩ opening.words opening.mechanism
      opening.announced]
  rfl

/-- Under the condition nothing left behind has been read. -/
theorem isolatedReader_eq (clean : session.clean env input = true) :
    isolatedReader conf env session input = tokenizer conf env session input := by
  unfold isolatedReader
  cases begins : session.begins input with
  | false => simp [isolated, begins]
  | true =>
    simp only [Session.clean, begins, if_true, cleanStart, Bool.and_eq_true,
      Bool.or_eq_true, decide_eq_true_eq] at clean
    obtain ⟨-, ⟨start, -⟩, free | opens⟩ := clean
    · rw [isolated_of_atStart begins start, ← free]
    · obtain ⟨word, opening⟩ := Opening.of_opensExchange opens
      have openingToo : Opening { session with auth := .null } (cstr input) word :=
        { opening with }
      rw [isolated_of_atStart begins start, tokenizer_opens session begins start opening,
        tokenizer_opens { session with auth := .null } begins start openingToo]
      rfl

/-! ## What a clean text leads to -/

def Awaits (session : Session) : Prop :=
  (∃ cram, session.auth = .live cram ∧ cram.challenge.isSome) ∧
    (∃ first rest, session.args = first :: rest ∧ smatch first "CRAM-MD5" = true) ∧
    session.argsIdx = 1 ∧ session.rbuffSize = 0

/-- The object of an exchange that has been answered. -/
def CramAnswered (cram : Cram) : Prop :=
  cram.challenge.isSome ∧ cram.username.isSome ∧ cram.response.isSome

def AuthSlot.Usable (auth : AuthSlot) : Prop :=
  auth = .null ∨ ∃ cram, auth = .live cram ∧ CramAnswered cram

/-- The parser changes neither the command nor what has been pushed. -/
structure SameCommand (before after : Session) : Prop where
  job : after.job = before.job
  commandType : after.commandType = before.commandType
  tag : after.tag = before.tag
  command : after.command = before.command
  commandState : before.commandState ≠ .idle → after.commandState ≠ .idle

theorem SameCommand.refl (session : Session) : SameCommand session session :=
  ⟨rfl, rfl, rfl, rfl, id⟩

theorem SameCommand.trans {first second third : Session} (left : SameCommand first second)
    (right : SameCommand second third) : SameCommand first third :=
  ⟨right.job.trans left.job, right.commandType.trans left.commandType, right.tag.trans left.tag,
    right.command.trans left.command, right.commandState ∘ left.commandState⟩

/-- What the result of the parser says about `ci->auth` and the list. -/
def Parsed (after : Session) : ParserState → Prop
  | .pending => after.auth = .null ∨ Awaits after
  | .complete => after.auth.Usable ∧ after.argsIdx = 0 ∧ after.Terminated
  | .error => True

def Parses (session : Session) (result : Except Fault (Session × ParserState)) : Prop :=
  ∃ after verdict, result = .ok (after, verdict) ∧ SameCommand session after ∧ Parsed after verdict

theorem Parses.of_same {before middle : Session} {result : Except Fault (Session × ParserState)}
    (same : SameCommand before middle) (parses : Parses middle result) : Parses before result := by
  obtain ⟨after, verdict, returned, sameToo, parsed⟩ := parses
  exact ⟨after, verdict, returned, same.trans sameToo, parsed⟩

/-- The list is terminated and the parse complete. -/
theorem terminate_parses (room : session.argsIdx < maxArgs) (usable : session.auth.Usable) :
    Parses session
      (.ok ({ session with args := session.args.take session.argsIdx, argsIdx := 0 }, .complete)) := by
  refine ⟨_, _, rfl, ⟨rfl, rfl, rfl, rfl, id⟩, usable, rfl, ?_⟩
  exact Nat.lt_of_le_of_lt (length_take_le _ _) room

theorem finalize_parses (free : session.auth = .null)
    (room : session.argsIdx < maxArgs) (noLiteral : session.rbuffSize = 0) :
    Parses session (finalize env session) := by
  unfold finalize
  split
  · exact ⟨_, _, rfl, ⟨rfl, rfl, rfl, rfl, id⟩, .inl free⟩
  split
  · exact ⟨_, _, rfl, ⟨rfl, rfl, rfl, rfl, id⟩, .inl free⟩
  split
  · rename_i asks
    simp only [asksFor, Bool.and_eq_true, decide_eq_true_eq] at asks
    obtain ⟨⟨single, -⟩, mechanism⟩ := asks
    refine ⟨_, _, rfl, ⟨rfl, rfl, rfl, rfl, id⟩, .inr ⟨⟨_, rfl, rfl⟩, ?_, single, noLiteral⟩⟩
    cases args : session.args with
    | nil =>
      rw [args] at mechanism
      exact absurd mechanism (by decide)
    | cons first rest =>
      rw [args] at mechanism
      exact ⟨first, rest, args, mechanism⟩
  exact terminate_parses room (.inl free)

def Scanned.args : Scanned → List Bytes
  | .finished args _ => args
  | .unbalanced args => args
  | .literal args _ _ => args

/-- The scan never fills the last slot. -/
theorem scan_args_length (fuel : Nat) (before : Option UInt8) (text : Bytes) (args : List Bytes)
    (open_ : List UInt8) (quote : Option Bytes) (room : args.length < maxArgs) :
    (scan fuel before text args open_ quote).args.length < maxArgs := by
  induction fuel generalizing before text args open_ quote with
  | zero => exact room
  | succ fuel ih =>
    cases text with
    | nil => exact room
    | cons char rest =>
      unfold scan
      split
      · exact room
      have more (word : Bytes) : (args ++ [word]).length < maxArgs := by
        simp only [length_append, length_singleton]
        omega
      split
      · cases quote with
        | some word => exact ih _ _ _ _ _ (more word)
        | none => exact ih _ _ _ _ _ room
      · cases quote with
        | some word => exact ih _ _ _ _ _ room
        | none =>
          simp only
          split
          · cases parenthesis open_ char with
            | some opened => exact ih _ _ _ _ _ (more [char])
            | none => exact room
          split
          · exact ih _ _ _ _ _ room
          split
          · exact room
          · exact ih _ _ _ _ _ (more _)

theorem scanLine_parses (line : Bytes) (free : session.auth = .null)
    (room : session.argsIdx < maxArgs) (noLiteral : session.rbuffSize = 0) :
    Parses session (scanLine conf env session line) := by
  have bound := scan_args_length (line.length + 1) none line
    (session.args.take session.argsIdx) [] none
    (Nat.lt_of_le_of_lt (length_take_le _ _) room)
  unfold scanLine
  split
  · exact ⟨_, _, rfl, ⟨rfl, rfl, rfl, rfl, id⟩, trivial⟩
  · exact ⟨_, _, rfl, ⟨rfl, rfl, rfl, rfl, id⟩, trivial⟩
  · rename_i args scanned
    rw [scanned] at bound
    refine .of_same ?_ (@finalize_parses env { session with args := args, argsIdx := args.length }
      free bound noLiteral)
    exact ⟨rfl, rfl, rfl, rfl, id⟩
  · split
    · exact ⟨_, _, rfl, ⟨rfl, rfl, rfl, rfl, fun _ => by simp [send]⟩, .inl free⟩
    · exact ⟨_, _, rfl, ⟨rfl, rfl, rfl, rfl, id⟩, .inl free⟩

theorem pushArg_ok (session : Session) (room : session.argsIdx < maxArgs) (text : Bytes) :
    ∃ after, session.pushArg text = .ok after ∧ SameCommand session after ∧
      after.auth = session.auth ∧ after.argsIdx = session.argsIdx + 1 ∧
      after.rbuffSize = session.rbuffSize := by
  refine ⟨{ session with
    args := session.args.take session.argsIdx ++ [text], argsIdx := session.argsIdx + 1 },
    if_pos room, ⟨rfl, rfl, rfl, rfl, id⟩, rfl, rfl, rfl⟩

theorem loginLine_parses (line : Bytes) (free : session.auth = .null)
    (room : session.argsIdx + 2 < maxArgs) (noLiteral : session.rbuffSize = 0) :
    Parses session (loginLine conf env session line) := by
  obtain ⟨after, pushed, same, auth, index, literal⟩ :=
    pushArg_ok session (by omega) (cstr (env.base64Decode line))
  unfold loginLine
  rw [pushed]
  simp only [bind, Except.bind]
  apply Parses.of_same same
  split
  · exact finalize_parses (auth.trans free) (by omega) (literal.trans noLiteral)
  split
  · exact ⟨_, _, rfl, ⟨rfl, rfl, rfl, rfl, id⟩, .inl (auth.trans free)⟩
  · exact scanLine_parses line (auth.trans free) (by omega) (literal.trans noLiteral)

theorem dropWhile_of_count {count : Nat} (zeros : count + 1 ≤ text.count 0) :
    ∃ rest, text.dropWhile (· ≠ 0) = 0 :: rest ∧ count ≤ rest.count 0 := by
  have member : 0 ∈ text := count_pos_iff.mp (by omega)
  obtain ⟨before, rest, rfl, free⟩ := eq_append_cons_of_mem member
  refine ⟨rest, ?_, ?_⟩
  · rw [dropWhile_append_of_pos fun byte inside => by
      simpa using ne_of_mem_of_not_mem inside free]
    rfl
  · rw [count_append, count_eq_zero.mpr free, count_cons_self] at zeros
    omega

theorem plainLine_parses {line : Bytes} (free : session.auth = .null)
    (room : session.argsIdx + 2 < maxArgs) (noLiteral : session.rbuffSize = 0)
    (zeros : 2 ≤ (env.base64Decode line).count 0) :
    Parses session (plainLine env session line) := by
  obtain ⟨afterAuthzid, first, left⟩ := dropWhile_of_count zeros
  obtain ⟨afterAuthcid, second, -⟩ := dropWhile_of_count left
  obtain ⟨one, pushedOne, sameOne, authOne, indexOne, literalOne⟩ :=
    pushArg_ok session (by omega) (cstr afterAuthzid)
  obtain ⟨two, pushedTwo, sameTwo, authTwo, indexTwo, literalTwo⟩ :=
    pushArg_ok one (by omega) (cstr afterAuthcid)
  unfold plainLine
  simp only [first, second, pushedOne, pushedTwo, bind, Except.bind]
  apply Parses.of_same (sameOne.trans sameTwo)
  apply finalize_parses
  · rw [authTwo, authOne, free]
  · omega
  · rw [literalTwo, literalOne, noLiteral]

theorem cramLine_parses (line : Bytes) (awaits : Awaits session) :
    Parses session (cramLine env session line) := by
  obtain ⟨⟨cram, live, challenged⟩, -, index, -⟩ := awaits
  unfold cramLine
  rw [live]
  simp only
  cases decoded : cramDecode env.base64Decode cram line with
  | none => exact ⟨_, _, rfl, ⟨rfl, rfl, rfl, rfl, id⟩, trivial⟩
  | some answered =>
    obtain ⟨challenge, ⟨name, named⟩, digest, digested⟩ := cramDecode_some decoded
    simp only [index]
    refine .of_same ?_ (@terminate_parses { session with auth := .live answered, argsIdx := 2 }
      (show 2 < maxArgs by decide) (.inr ⟨answered, rfl, ?_⟩))
    · exact ⟨rfl, rfl, rfl, rfl, id⟩
    · simp [CramAnswered, challenge, challenged, named, digested]

theorem literalChunk_parses (free : session.auth = .null) (room : session.argsIdx < maxArgs)
    (fits : buffer.length ≤ session.rbuffSize) : Parses session (literalChunk session buffer) := by
  unfold literalChunk
  rw [if_neg (Nat.not_lt.mpr fits), if_neg (Nat.not_le.mpr room)]
  exact ⟨_, _, rfl, ⟨rfl, rfl, rfl, rfl, id⟩, .inl free⟩

theorem tokenizerMain_parses (nonempty : buffer ≠ [])
    (own : session.auth = .null ∨ Awaits session) (room : session.argsIdx + 2 < maxArgs)
    (fits : session.rbuffSize ≠ 0 → buffer.length ≤ session.rbuffSize)
    (reply : session.rbuffSize = 0 → session.cleanReply env (gStrchomp buffer) = true) :
    Parses session (tokenizerMain conf env session buffer) := by
  unfold tokenizerMain
  rw [if_neg nonempty]
  split
  · rename_i literal
    apply literalChunk_parses _ (by omega) (fits literal)
    rcases own with free | awaits
    · exact free
    · exact absurd awaits.2.2.2 literal
  · rename_i noLiteral
    rw [not_not] at noLiteral
    have clean := reply noLiteral
    cases args : session.args with
    | nil =>
      apply scanLine_parses _ _ (by omega) noLiteral
      rcases own with free | ⟨-, ⟨first, rest, split, -⟩, -⟩
      · exact free
      · rw [args] at split
        cases split
    | cons first rest =>
      simp only [cleanReply, args] at clean
      simp only
      split
      · exact ⟨_, _, rfl, .refl session, trivial⟩
      rename_i goesOn
      simp only [goesOn, Bool.false_or, Bool.and_eq_true, Bool.or_eq_true, Bool.not_eq_true',
        decide_eq_true_eq, Bool.and_eq_false_iff] at clean
      -- an exchange that waits for its reply is one of CRAM-MD5
      have freeUnless (other : smatch first "CRAM-MD5" = false) : session.auth = .null := by
        rcases own with free | ⟨-, ⟨head, tail, split, isCram⟩, -⟩
        · exact free
        · cases args.symm.trans split
          rw [other] at isCram
          cases isCram
      split
      · rename_i isLogin
        apply loginLine_parses _ (freeUnless _) room noLiteral
        exact (smatch_eq isLogin).trans (by decide)
      split
      · rename_i isPlain
        apply plainLine_parses (freeUnless _) room noLiteral
        · exact clean.1.resolve_left (by simp [isPlain])
        · exact (smatch_eq isPlain).trans (by decide)
      split
      · rename_i isCram
        apply cramLine_parses
        apply own.resolve_left
        intro free
        rcases clean.2 with (other | other) | challenged
        · simp [isCram.1] at other
        · simp [isCram.2] at other
        · simp [free] at challenged
      · rename_i other
        apply scanLine_parses _ _ (by omega) noLiteral
        apply own.resolve_right
        rintro ⟨-, ⟨head, tail, split, isCram⟩, index, -⟩
        cases args.symm.trans split
        exact other ⟨isCram, index⟩

structure Readable (session : Session) : Prop where
  noJob : session.job = none
  notIdle : session.commandType ≠ some .idle ∧ session.commandState ≠ .idle
  own : session.tag ≠ [] → authWord session.command = true ∧ (session.auth = .null ∨ Awaits session)

structure Completed (session : Session) : Prop where
  noJob : session.job = none
  notIdle : session.commandType ≠ some .idle ∧ session.commandState ≠ .idle
  word : authWord session.command = true
  usable : session.auth.Usable
  atStart : session.argsIdx = 0
  terminated : session.Terminated
  parsed : session.parserState = .complete

def ReadTo (after : Session) : ParserState → Prop
  | .pending => Readable after
  | .complete => Completed after
  | .error =>
    after.job = none ∧ after.commandType ≠ some .idle ∧ after.commandState ≠ .idle

abbrev NotIdle (session : Session) : Prop :=
  session.commandType ≠ some .idle ∧ session.commandState ≠ .idle

theorem parseArgs_reads (readable : Readable session) (word : authWord session.command = true)
    (parses : Parses session (tokenizerMain conf env session text)) :
    ∃ after verdict, parseArgs conf env session text = .ok (after, verdict) ∧
      ReadTo after verdict := by
  obtain ⟨after, verdict, returned, same, parsed⟩ := parses
  refine ⟨{ after with parserState := verdict }, verdict, ?_, ?_⟩
  · simp [parseArgs, returned, bind, Except.bind, pure, Except.pure]
  · have noJob : after.job = none := same.job.trans readable.noJob
    have wordToo : authWord after.command = true := same.command ▸ word
    have notIdle : NotIdle after :=
      ⟨same.commandType ▸ readable.notIdle.1, same.commandState readable.notIdle.2⟩
    cases verdict with
    | pending => exact ⟨noJob, notIdle, fun _ => ⟨wordToo, parsed⟩⟩
    | complete => exact ⟨noJob, notIdle, wordToo, parsed.1, parsed.2.1, parsed.2.2, rfl⟩
    | error => exact ⟨noJob, notIdle⟩

theorem Readable.refuseLine (readable : Readable session) (noCommand : session.command = [])
    (free : session.auth = .null) (tag : Bytes) (reply : Reply) :
    Readable ({ session with parserState := .pending, tag := tag }.refuseLine reply) := by
  refine ⟨readable.noJob, ⟨readable.notIdle.1, nofun⟩, fun _ => ⟨?_, .inl free⟩⟩
  show authWord session.command = true
  rw [noCommand]
  decide

theorem firstLine_reads (buffer : Bytes) (readable : Readable session)
    (start : session.atStart = true) (word : authWord (commandWord buffer) = true)
    (free : session.auth = .null) :
    ∃ after verdict, firstLine conf env session buffer = .ok (after, verdict) ∧
      ReadTo after verdict := by
  obtain ⟨noCommand, -, -, -, -, noArgs, noIndex, noLiteral⟩ := atStart_iff.mp start
  by_cases hasCommand : stridx buffer 32 = buffer.length
  · unfold firstLine
    rw [if_pos hasCommand]
    exact ⟨_, _, rfl, readable.refuseLine noCommand free _ _⟩
  cases goodTag : checktag (tagWord buffer) with
  | false =>
    simp only [firstLine, hasCommand, goodTag]
    exact ⟨_, _, rfl, readable.refuseLine noCommand free _ _⟩
  | true =>
    rw [firstLine_of_command hasCommand goodTag]
    apply parseArgs_reads _ word
    · by_cases hasText : argumentText buffer = []
      · rw [hasText]
        exact finalize_parses free
          (by simp [named, noIndex, maxArgs]) noLiteral
      · rw [tokenizerMain_of_fresh (session.named buffer) hasText noLiteral noArgs]
        exact scanLine_parses _ free (by simp [named, noIndex, maxArgs]) noLiteral
    · exact ⟨readable.noJob, readable.notIdle, fun _ => ⟨word, .inl free⟩⟩

theorem tokenizer_reads (conf : ServerConf) (readable : Readable session)
    (clean : session.clean env input = true) :
    ∃ after verdict, tokenizer conf env session input = .ok (after, verdict) ∧
      ReadTo after verdict := by
  cases begins : session.begins input with
  | true =>
    simp only [Session.clean, begins, if_true, cleanStart, Bool.and_eq_true,
      Bool.or_eq_true, decide_eq_true_eq] at clean
    obtain ⟨-, ⟨start, word⟩, free | opens⟩ := clean
    · rw [tokenizer_of_begins begins]
      exact firstLine_reads _ readable start word free
    · obtain ⟨mechanism, opening⟩ := Opening.of_opensExchange opens
      obtain ⟨-, -, -, -, -, -, -, noLiteral⟩ := atStart_iff.mp start
      refine ⟨_, _, tokenizer_opens session begins start opening, readable.noJob,
        readable.notIdle, fun _ => ⟨word, .inr ⟨⟨_, rfl, rfl⟩, ?_, rfl, noLiteral⟩⟩⟩
      exact ⟨mechanism, [], rfl, opening.mechanism⟩
  | false =>
    simp only [Session.clean, begins, Bool.and_eq_true, decide_eq_true_eq] at clean
    obtain ⟨⟨-, room⟩, rest⟩ := clean
    by_cases empty : cstr input = []
    · refine ⟨session, .pending, ?_, readable⟩
      simp [tokenizer, empty]
    by_cases noTag : session.tag = []
    · refine ⟨session, .pending, ?_, readable⟩
      have blank : (cstr input).head? = some 10 ∨ (lit "\r\n").isPrefixOf (cstr input) = true := by
        by_contra line
        rw [begins_iff.mpr ⟨noTag, empty, line⟩] at begins
        cases begins
      simp only [tokenizer, empty, noTag, blank, if_false, if_true, ne_eq, not_true_eq_false]
    · obtain ⟨word, own⟩ := readable.own noTag
      have continued : tokenizer conf env session input =
          parseArgs conf env session (cstr input) := by
        simp [tokenizer, empty, noTag]
      rw [continued]
      apply parseArgs_reads readable word
      apply tokenizerMain_parses empty own room
      · intro literal
        simpa [literal] using rest
      · intro noLiteral
        simpa [noLiteral] using rest

/-! ## The invariant -/

def Session.isOpen (session : Session) : Prop := session.state.code < ClientState.logout.code

structure Armed (session : Session) : Prop where
  job : session.job = some .authenticate
  usable : session.auth.Usable
  terminated : session.Terminated
  inList : session.argsIdx ≤ session.args.length

/-- Between two events: an attempt is waiting for its worker, or the input loop
finds the session readable. -/
structure Sound (session : Session) : Prop where
  notIdle : session.commandType ≠ some .idle ∧ session.commandState ≠ .idle
  waits : session.job = none ∨ Armed session
  busy : session.isOpen → session.job ≠ none →
    session.commandState = .inProgress ∧ session.parserState = .complete
  own : session.isOpen → session.tag ≠ [] → session.parserState ≠ .complete →
    authWord session.command = true ∧ (session.auth = .null ∨ Awaits session)

theorem Armed.reset (armed : Armed session) : Armed session.reset where
  job := armed.job
  usable := armed.usable
  terminated := by
    show 0 < maxArgs
    decide
  inList := Nat.le_refl 0

theorem Armed.setState (armed : Armed session) (state : ClientState) :
    Armed (session.setState state) := by
  unfold Session.setState
  split
  · exact armed
  · exact { armed with }

theorem waits_setState (waits : session.job = none ∨ Armed session) (state : ClientState) :
    (session.setState state).job = none ∨ Armed (session.setState state) := by
  rcases waits with noJob | armed
  · left
    unfold setState
    split <;> exact noJob
  · exact .inr (armed.setState state)

theorem Readable.sound (readable : Readable session) : Sound session where
  notIdle := readable.notIdle
  waits := .inl readable.noJob
  busy := fun _ pushed => absurd readable.noJob pushed
  own := fun _ hasTag _ => readable.own hasTag

section Closing

variable (notIdle : NotIdle session) (waits : session.job = none ∨ Armed session)

include notIdle waits

/-- Nothing is read on a closed connection. -/
theorem Sound.of_closed (closed : ¬ session.isOpen) : Sound session :=
  ⟨notIdle, waits, fun isOpen => absurd isOpen closed, fun isOpen => absurd isOpen closed⟩

theorem Sound.bailout : Sound session.bailout := by
  rw [bailout_eq]
  refine Sound.of_closed notIdle ?_ ?_
  · exact waits.imp_right fun armed => { armed with }
  · show ¬ ClientState.quitQueued.code < ClientState.logout.code
    decide

theorem Sound.abort : Sound session.abort := by
  unfold Session.abort
  split
  · rename_i closed
    apply Sound.of_closed notIdle waits
    rcases closed with state | state <;> simp [isOpen, state, ClientState.code]
  · apply Sound.bailout ⟨by simp [reset], by simp [reset]⟩
    exact (waits_setState waits .error).imp_right fun armed => armed.reset

end Closing

theorem Sound.reset (noJob : session.job = none) : Sound session.reset where
  notIdle := ⟨nofun, nofun⟩
  waits := .inl noJob
  busy := fun _ pushed => absurd noJob pushed
  own := fun _ hasTag => absurd rfl hasTag

theorem Sound.retry (noJob : session.job = none) (notIdle : NotIdle session) :
    Sound session.retry := by
  unfold Session.retry
  split
  · exact .bailout notIdle (.inl noJob)
  · exact .reset noJob

/-! ## Dispatch -/

def Dispatched (after : Session) (result : Int) : Prop :=
  (after.commandType ≠ some .idle ∧ after.commandState ≠ .idle) ∧
    (((result = 1 ∨ result = -1) ∧ after.job = none) ∨ (result = 0 ∧ Sound after))

section Authenticate

variable (noJob : session.job = none) (notIdle : session.commandType ≠ some .idle)
  (inProgress : session.commandState = .inProgress) (usable : session.auth.Usable)
  (terminated : session.Terminated) (parsed : session.parserState = .complete)

include noJob notIdle inProgress usable terminated parsed

theorem authenticatePush_dispatched (inList : session.argsIdx ≤ session.args.length) :
    ∃ after result, authenticatePush session = .ok (after, result) ∧ Dispatched after result := by
  unfold authenticatePush
  split
  · exact ⟨_, _, rfl, ⟨notIdle, by simp [send, inProgress]⟩, .inl ⟨.inl rfl, noJob⟩⟩
  unfold push
  split
  · rename_i closed
    refine ⟨_, _, rfl, ⟨notIdle, by simp [inProgress]⟩, .inr ⟨rfl, ?_⟩⟩
    apply Sound.of_closed ⟨notIdle, by simp [inProgress]⟩ (.inl noJob)
    simp [isOpen, closed, ClientState.code]
  · refine ⟨_, _, rfl, ⟨notIdle, by simp⟩, .inr ⟨rfl, ?_⟩⟩
    exact ⟨⟨notIdle, by simp⟩, .inr ⟨rfl, usable, terminated, inList⟩, fun _ _ => ⟨rfl, parsed⟩,
      fun _ _ incomplete => absurd parsed incomplete⟩

theorem icAuthenticate_dispatched (atStart : session.argsIdx = 0)
    (alive : session.state ≠ .error) :
    ∃ after result, icAuthenticate session = .ok (after, result) ∧ Dispatched after result := by
  have inList : session.argsIdx ≤ session.args.length := by omega
  have refused (replies : List Reply) : Dispatched (session.send replies) 1 :=
    ⟨⟨notIdle, by simp [send, inProgress]⟩, .inl ⟨.inl rfl, noJob⟩⟩
  unfold icAuthenticate guarded
  split
  · rcases checkStateAndArgs_cases terminated alive inList 1 3 (some .nonAuthenticated) with
      ⟨text, check⟩ | ⟨check, enough, -⟩
    · rw [check]
      exact ⟨_, _, rfl, refused _⟩
    · rw [check]
      simp only [bind, Except.bind]
      rw [arg_of_lt terminated enough]
      simp only
      split
      · exact ⟨_, _, rfl, refused _⟩
      · exact authenticatePush_dispatched noJob notIdle inProgress usable terminated parsed enough
  · rcases checkStateAndArgs_cases terminated alive inList 2 2 (some .nonAuthenticated) with
      ⟨text, check⟩ | ⟨check, -⟩
    · rw [check]
      exact ⟨_, _, rfl, refused _⟩
    · rw [check]
      exact authenticatePush_dispatched noJob notIdle inProgress usable terminated parsed inList

end Authenticate

theorem imap4_dispatched (world : World) (ping accepted : Bool) (completed : Completed session)
    (alive : session.state ≠ .error) :
    ∃ after result, imap4 conf world ping accepted session = .ok (after, result) ∧
      Dispatched after result := by
  unfold imap4
  split
  · refine ⟨_, _, rfl, (Sound.abort completed.notIdle (.inl completed.noJob)).notIdle, .inl ⟨.inr rfl, ?_⟩⟩
    exact Calm.abort.job.trans completed.noJob
  split
  · refine ⟨_, _, rfl, completed.notIdle, .inr ⟨rfl, ?_⟩⟩
    exact ⟨completed.notIdle, .inl completed.noJob, fun _ pushed => absurd completed.noJob pushed,
      fun _ _ incomplete => absurd completed.parsed incomplete⟩
  simp only
  split
  · exact ⟨_, _, rfl, ⟨completed.notIdle.1, by simp⟩, .inl ⟨.inl rfl, completed.noJob⟩⟩
  have word := completed.word
  unfold authWord at word
  split
  · exact ⟨_, _, rfl, ⟨completed.notIdle.1, by simp [send]⟩, .inl ⟨.inl rfl, completed.noJob⟩⟩
  · rename_i command found
    have terminated := terminated_dispatched completed.terminated command
    have reached : ∃ after result, icAuthenticate ({ session with commandState := .done }.dispatched
        command) = .ok (after, result) ∧ Dispatched after result := by
      refine icAuthenticate_dispatched completed.noJob ?_ rfl completed.usable terminated
        completed.parsed completed.atStart alive
      rintro ⟨⟩
      rw [found] at word
      cases word
    rw [found] at word
    cases command with
    | login | authenticate => exact reached
    | _ => cases word

theorem dispatchCommand_sound (env : InputEnv) (completed : Completed session)
    (alive : session.state ≠ .error) :
    ∃ after trace, dispatchCommand conf env session = .ok (after, trace) ∧ Sound after := by
  obtain ⟨after, result, returned, notIdle, outcome⟩ :=
    imap4_dispatched env.world env.ping env.accepted completed alive
  have notIdling : after.idling = false := by simp [idling, notIdle.1]
  unfold dispatchCommand
  rw [returned]
  rcases outcome with ⟨rfl | rfl, noJob⟩ | ⟨rfl, sound⟩
  · exact ⟨_, _, rfl, Sound.retry noJob notIdle⟩
  · exact ⟨_, _, rfl, Sound.abort notIdle (.inl noJob)⟩
  · refine ⟨after, dispatchTrace session after, ?_, sound⟩
    simp [bind, Except.bind, notIdling, pure, Except.pure]

/-! ## Input -/

/-- A call of the input loop on clean texts returns, and is one of the isolated
machine. -/
theorem inputLoop_isolated (env : InputEnv) {inputs : List Bytes} (sound : Sound session)
    (readable : session.isOpen → Readable session)
    (clean : cleanInput conf env.token session inputs = true) :
    ∃ after trace, inputLoopWith conf (tokenizer conf) env session inputs = .ok (after, trace) ∧
      inputLoopWith conf (isolatedReader conf) env session inputs = .ok (after, trace) ∧
      Sound after := by
  induction inputs generalizing session with
  | nil => exact ⟨session, [], rfl, rfl, sound⟩
  | cons input rest ih =>
    have notIdling : session.idling = false := by simp [idling, sound.notIdle.1]
    unfold inputLoopWith
    by_cases faulty : maxFaultyResponses ≤ session.errorCount
    · simp only [faulty]
      refine ⟨_, _, rfl, rfl, Sound.abort sound.notIdle ?_⟩
      exact sound.waits.imp_right fun armed => { armed with }
    · simp only [cleanInput, faulty, decide_false, Bool.false_or, Bool.and_eq_true] at clean
      obtain ⟨cleanText, cleanRest⟩ := clean
      have isOpen : session.isOpen := by
        simp only [Session.clean, Bool.and_eq_true, decide_eq_true_eq] at cleanText
        exact cleanText.1.1
      obtain ⟨after, verdict, read, readTo⟩ :=
        tokenizer_reads conf (readable isOpen) cleanText
      simp only [faulty, notIdling, isolatedReader_eq cleanText, read]
      cases verdict with
      | pending =>
        rw [read] at cleanRest
        exact ih (Readable.sound readTo) (fun _ => readTo) cleanRest
      | error => exact ⟨_, _, rfl, rfl, Sound.retry readTo.1 readTo.2⟩
      | complete =>
        have alive : after.state ≠ .error := by
          refine (tokenizer_calm after _ read).1.state_ne ?_ rfl
          intro failed
          rw [Session.isOpen, failed] at isOpen
          exact absurd isOpen (by decide)
        obtain ⟨final, trace, dispatched, soundFinal⟩ :=
          dispatchCommand_sound env readTo alive
        exact ⟨final, trace, dispatched, dispatched, soundFinal⟩

/-! ## The worker -/

section Decidable

variable {auth : Option Cram} {password : Option Bytes}
  (decidable : (∃ cram, auth = some cram ∧ CramAnswered cram) ∨ (auth = none ∧ password.isSome))

include decidable

theorem dbUserValidate_returns (digests : Digests) (fetched : Fetch (Bytes × Bytes)) :
    ∃ verdict, dbUserValidate digests auth fetched password = .ok verdict := by
  unfold dbUserValidate
  cases fetched with
  | exception | noRow => exact ⟨_, rfl⟩
  | row columns =>
    simp only
    split
    · exact ⟨_, rfl⟩
    split
    · rcases decidable with ⟨cram, rfl, challenged, -, responded⟩ | ⟨rfl, given⟩
      · obtain ⟨challenge, hasChallenge⟩ := isSome_iff_exists.mp challenged
        obtain ⟨response, hasResponse⟩ := isSome_iff_exists.mp responded
        simp [cramVerify, hasChallenge, hasResponse]
      · obtain ⟨text, rfl⟩ := isSome_iff_exists.mp given
        exact ⟨_, rfl⟩
    · cases password <;> exact ⟨_, rfl⟩

theorem validatePasswords_returns (env : AuthEnv) (userIdnr : Nat) :
    ∃ valid, validatePasswords env auth userIdnr password = .ok valid := by
  unfold validatePasswords
  obtain ⟨first, returned⟩ := dbUserValidate_returns decidable env.digests
    (selectUser env.db.users env.faults.passwd userIdnr fun row => (row.passwd, row.encryptionType))
  rw [returned]
  simp only [bind, Except.bind]
  split
  · exact ⟨_, rfl⟩
  · exact dbUserValidate_returns decidable env.digests _

theorem authValidate_of_named {env : AuthEnv} {username : Option Bytes} (tuser : Bytes)
    (named : loginName auth username password = .ok (some tuser)) :
    ∃ result, authValidate env auth username password = .ok result := by
  unfold authValidate
  rw [named]
  simp only [bind, Except.bind]
  cases admittedUser env tuser with
  | error early => exact ⟨_, rfl⟩
  | ok userIdnr =>
    obtain ⟨valid, returned⟩ := validatePasswords_returns decidable env userIdnr
    simp only [returned]
    exact ⟨_, rfl⟩

end Decidable

/-- Validation returns without an object and with an answered one. -/
theorem authValidate_returns (env : AuthEnv) {auth : Option Cram} (username password : Option Bytes)
    (usable : ∀ cram, auth = some cram → CramAnswered cram) :
    ∃ result, authValidate env auth username password = .ok result := by
  cases missing : constNull username || constNull password with
  | true =>
    cases auth with
    | some cram =>
      have answered := usable cram rfl
      obtain ⟨name, hasName⟩ := isSome_iff_exists.mp answered.2.1
      apply authValidate_of_named (.inl ⟨cram, rfl, answered⟩) name
      simp [loginName, missing, cramGetUsername, hasName]
    | none =>
      refine ⟨(0, 0), ?_⟩
      simp [authValidate, loginName, missing, bind, Except.bind, pure, Except.pure]
  | false =>
    cases username with
    | none => cases missing
    | some text =>
      refine authValidate_of_named ?_ text ?_
      · cases auth with
        | some cram => exact .inl ⟨cram, rfl, usable cram rfl⟩
        | none => cases password <;> simp [constNull] at missing ⊢
      · simp [loginName, missing]

theorem settle_frame (env : AuthEnv) (session : Session) (attempt : Attempt) :
    (settle env session attempt).1.commandType = session.commandType ∧
      ((settle env session attempt).2 = -1 ∨ (settle env session attempt).2 = 0 ∨
        (settle env session attempt).2 = 1) := by
  rcases settle_cases env session attempt with ⟨-, settled⟩ | ⟨-, -, sameType, status⟩
  · rw [settled]
    refine ⟨?_, .inr (.inl rfl)⟩
    unfold setState
    split <;> rfl
  · exact ⟨sameType, status.imp_right .inr⟩

theorem handleAuth_returns (env : AuthEnv) (usable : session.auth.Usable)
    (username password : Option Bytes) :
    ∃ attempt, handleAuth env session username password =
      .ok ((settle env session attempt).1, (settle env session attempt).2, attempt) := by
  have read : ∃ auth, session.auth.read = .ok auth ∧ ∀ cram, auth = some cram → CramAnswered cram := by
    rcases usable with free | ⟨cram, live, answered⟩
    · rw [free]
      exact ⟨none, rfl, nofun⟩
    · rw [live]
      refine ⟨some cram, rfl, ?_⟩
      rintro _ ⟨⟩
      exact answered
  obtain ⟨auth, isRead, answered⟩ := read
  have named : ∃ name, attemptName auth username = .ok name := by
    cases auth with
    | none => exact ⟨username, rfl⟩
    | some cram =>
      obtain ⟨name, hasName⟩ := isSome_iff_exists.mp (answered cram rfl).2.1
      exact ⟨some name, by simp [attemptName, cramGetUsername, hasName]⟩
  obtain ⟨name, isNamed⟩ := named
  obtain ⟨result, validated⟩ := authValidate_returns env name password answered
  refine ⟨⟨auth, name, password, result.1, result.2, session.loginDisabled⟩, ?_⟩
  simp only [handleAuth, isRead, isNamed, validated, bind, Except.bind]
  rfl

theorem authenticateEnter_returns (env : AuthEnv) (armed : Armed session) :
    ∃ after status attempt, authenticateEnter env session = .ok (after, status, attempt) ∧
      after.commandType = session.commandType ∧ (status = -1 ∨ status = 0 ∨ status = 1) := by
  obtain ⟨credentials, read⟩ := credentials_ok armed.terminated armed.inList
  obtain ⟨attempt, handled⟩ := handleAuth_returns env armed.usable
    (credentials.map Prod.fst) (credentials.map Prod.snd)
  obtain ⟨sameType, status⟩ := settle_frame env session attempt
  unfold authenticateEnter
  rw [read]
  simp only [bind, Except.bind, handled]
  split
  · exact ⟨_, _, _, rfl, sameType, status⟩
  · exact ⟨_, _, _, rfl, sameType, .inr (.inl rfl)⟩

theorem Sound.leave (notIdle : session.commandType ≠ some .idle) {status : Int}
    (known : status = -1 ∨ status = 0 ∨ status = 1) (clientError : Bool) :
    Sound (session.leave status clientError) := by
  unfold Session.leave
  have returned : NotIdle { session with job := none, commandState := .done } :=
    ⟨notIdle, by simp⟩
  split
  · exact .abort returned (.inl rfl)
  rcases known with rfl | rfl | rfl
  · exact .abort returned (.inl rfl)
  · show Sound (continue_ _)
    unfold continue_
    split
    · exact .reset rfl
    · rename_i closed
      apply Sound.of_closed returned (.inl rfl)
      intro isOpen
      exact closed ⟨isOpen, rfl⟩
  · exact .retry rfl returned

/-! ## Runs -/

theorem handleInput_isolated {connection : Connection} {env : InputEnv} {inputs : List Bytes}
    (sound : Sound connection.session)
    (clean : cleanEvent conf connection (.input env inputs) = true) :
    ∃ after trace,
      handleInputWith conf (tokenizer conf) env connection.session inputs = .ok (after, trace) ∧
      handleInputWith conf (isolatedReader conf) env connection.session inputs =
        .ok (after, trace) ∧ Sound after := by
  unfold handleInputWith
  split
  · exact ⟨_, _, rfl, rfl, sound⟩
  rename_i reads
  have cleanTexts : cleanInput conf env.token
      (if connection.session.commandState = .done then connection.session.reset
        else connection.session) inputs = true := by
    simpa [cleanEvent, reads] using clean
  have noJob : connection.session.isOpen → connection.session.job = none := by
    intro isOpen
    by_contra pushed
    exact reads (sound.busy isOpen pushed)
  split at cleanTexts
  · rename_i finished
    rw [if_pos finished]
    have resetSound : Sound connection.session.reset := by
      by_cases isOpen : connection.session.isOpen
      · exact .reset (noJob isOpen)
      · refine .of_closed ⟨by simp [reset], by simp [reset]⟩ ?_ isOpen
        exact sound.waits.imp_right fun armed => armed.reset
    apply inputLoop_isolated env resetSound _ cleanTexts
    intro isOpen
    exact ⟨noJob isOpen, resetSound.notIdle, fun hasTag => absurd rfl hasTag⟩
  · rename_i unfinished
    rw [if_neg unfinished]
    apply inputLoop_isolated env sound _ cleanTexts
    intro isOpen
    refine ⟨noJob isOpen, sound.notIdle, fun hasTag => sound.own isOpen hasTag ?_⟩
    intro parsed
    cases state : connection.session.commandState with
    | inProgress => exact reads ⟨state, parsed⟩
    | done => exact unfinished state
    | idle => exact sound.notIdle.2 state

/-- Every step that meets the condition is one of the isolated machine. -/
theorem step_isolated (connection : Connection) (event : Event) (sound : Sound connection.session)
    (clean : cleanEvent conf connection event = true) :
    ∃ next, step conf connection event = .ok next ∧ isolatedStep conf connection event = .ok next ∧
      Sound next.session := by
  cases event with
  | input env inputs =>
    obtain ⟨after, trace, handled, isolated, soundAfter⟩ :=
      handleInput_isolated sound clean
    refine ⟨⟨after, connection.trace ++ trace⟩, ?_, ?_, soundAfter⟩
    · simp only [step, stepWith, handled]
      rfl
    · simp only [isolatedStep, stepWith, isolated]
      rfl
  | complete env world clientError =>
    cases pushed : connection.session.job with
    | none =>
      refine ⟨connection, ?_, ?_, sound⟩
      · simp [step, stepWith, pushed]
      · simp [isolatedStep, stepWith, pushed]
    | some job =>
      have armed : Armed connection.session := by
        apply sound.waits.resolve_left
        simp [pushed]
      cases pushed.symm.trans armed.job
      obtain ⟨after, status, attempt, entered, sameType, known⟩ :=
        authenticateEnter_returns env armed
      have completed : completeJob env world clientError connection .authenticate =
          .ok ⟨after.leave status clientError, connection.trace ++ [.attempt attempt]⟩ := by
        simp only [completeJob, entered, bind]
        rfl
      refine ⟨⟨after.leave status clientError, connection.trace ++ [.attempt attempt]⟩, ?_, ?_,
        Sound.leave (sameType ▸ sound.notIdle.1) known clientError⟩
      · simp [step, stepWith, pushed, completed]
      · simp [isolatedStep, stepWith, pushed, completed]
  | timeout world =>
    refine ⟨_, rfl, rfl, ?_⟩
    have notIdling : connection.session.idling = false := by
      simp [idling, sound.notIdle.1]
    have notIdle : NotIdle (connection.session.setState .error) := by
      unfold setState
      split <;> exact sound.notIdle
    simp only [Session.timeout, notIdling]
    refine Sound.bailout notIdle ?_
    exact (waits_setState sound.waits .error).imp_right fun armed => { armed with }
  | clientError => exact ⟨_, rfl, rfl, Sound.bailout sound.notIdle sound.waits⟩
  | clientEof =>
    refine ⟨_, rfl, rfl, sound.notIdle, ?_, sound.busy, sound.own⟩
    exact sound.waits.imp_right fun armed => { armed with }
  | writeError => exact ⟨_, rfl, rfl, Sound.abort sound.notIdle sound.waits⟩

theorem sound_start (sslState : Bool) : Sound (start conf sslState).session := by
  apply Readable.sound
  unfold start handleConnection
  split <;> exact ⟨rfl, ⟨nofun, nofun⟩, fun hasTag => absurd rfl hasTag⟩

/-- In every run whose events all meet the condition no fault happens, and every
attempt is one of the isolated machine. -/
theorem authentication_isolated (conf : ServerConf) (sslState : Bool) (events : List Event)
    (meets : StepsMeet (step conf) (fun connection event => cleanEvent conf connection event = true)
      (start conf sslState) events) : Isolated conf sslState events :=
  run_agrees step_isolated (sound_start sslState) meets

def exchangeRun : List Event :=
  [.input plainInput [lit "a LOGIN mrose wrong\r\n"], .complete activeEnv openWorld false,
    .input plainInput [lit "b AUTHENTICATE CRAM-MD5\r\n", lit "*\r\n"],
    .input plainInput [lit "c AUTHENTICATE CRAM-MD5\r\n"],
    .input plainInput [lit "mrose b913a602c7eda7a495b4e6e7334d3890\r\n"],
    .complete activeEnv openWorld false]

theorem authentication_isolated_exchangeRun :
    StepsMeet (step plainConf) (fun connection event => cleanEvent plainConf connection event = true)
      (start plainConf false) exchangeRun ∧ Isolated plainConf false exchangeRun := by
  have meets : StepsMeet (step plainConf)
      (fun connection event => cleanEvent plainConf connection event = true)
      (start plainConf false) exchangeRun := by
    decide +kernel
  exact ⟨meets, authentication_isolated plainConf false exchangeRun meets⟩

def cancelledRun : List Event :=
  [.input plainInput [lit "a AUTHENTICATE CRAM-MD5\r\n"], .input plainInput [lit "*\r\n"],
    .input plainInput [lit "b LOGIN mrose tanstaaf\r\n"], .complete activeEnv openWorld false]

/-- The LOGIN reaches the assertion of `Cram_getUsername`; alone it succeeds. -/
theorem cancelled_exchange_asserts :
    ¬ Isolated plainConf false cancelledRun ∧
      (run (step plainConf) (start plainConf false) cancelledRun).map Connection.trace =
        .error .assertion ∧
      (run (isolatedStep plainConf) (start plainConf false) cancelledRun).map Connection.trace =
        .ok [.attempt ⟨none, some (lit "mrose"), some (lit "tanstaaf"), 1, 7, false⟩] := by
  have faulted : (run (step plainConf) (start plainConf false) cancelledRun).map Connection.trace =
      .error .assertion := by
    decide +kernel
  refine ⟨?_, faulted, by decide +kernel⟩
  rintro ⟨connection, returned, -⟩
  rw [returned] at faulted
  cases faulted

end Dbmail.Imap
