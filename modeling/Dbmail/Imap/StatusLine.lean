import Dbmail.Imap.AuthIsolation

/-!
Contract: the bytes of a tagged status line.

Owns the run of one command from its dispatch to its end and what of its replies is
written, the expansion of a format, the tag as a status line prints it, the two ways
in which a status line reaches the write buffer, and the tags that every status
line of their command echoes.

Does not own: which status lines a command is answered with.
-/

namespace Dbmail.Imap

open Dbmail.Lib Dbmail.Auth Session List

/-! ## The run of a command -/

structure Outcome where
  written : List Reply
  after : Session

/-- What `imap_handle_exit` writes of the replies in the buffer. An aborted
connection is closed without them. -/
def Session.written (session : Session) (status : Int) : List Reply :=
  if status = 2 then [.untagged (lit "BYE Requested"), .ok (lit "LOGOUT completed")]
  else if status = 3 then session.sent
  else if (status = 0 ∨ (status = 1 ∧ session.eof = false)) ∧
      session.state.code < ClientState.logout.code then session.sent
  else []

def Session.ended (session : Session) (status : Int) : Outcome :=
  ⟨session.written status, { session with job := none, commandState := .done }.exit status⟩

/-- From the return of a handler to the end of its command. An IDLE is answered
at the next line; 0 without a worker ends nothing. -/
def finishCommand (auth : AuthEnv) (world : World) (next : Bytes) (handled : Session × Int) :
    Except Fault Outcome :=
  match handled.1.job with
  | none =>
    if handled.1.idling then .ok ⟨(handled.1.idleLine next).sent, handled.1.idleLine next⟩
    else if handled.2 = 0 then .ok ⟨[], handled.1⟩
    else .ok (handled.1.ended handled.2)
  | some job =>
    if job = .authenticate then do
      let (after, status, _) ← authenticateEnter auth handled.1
      return after.ended status
    else do
      let (status, effects) ← enter world handled.1 job
      return (handled.1.applyEffects effects).ended status

def commandRun (conf : ServerConf) (input : InputEnv) (auth : AuthEnv) (world : World)
    (next : Bytes) (session : Session) : ParserState → Except Fault Outcome
  | .pending => .ok ⟨[], session⟩
  | .error => .ok ((session.send [.bad (lit "parse error")]).ended 1)
  | .complete => do
    let handled ← imap4 conf input.world input.ping input.accepted session
    finishCommand auth world next handled

@[simp] def Reply.tagged : Reply → Bool
  | .ok _ | .no _ | .bad _ => true
  | _ => false

/-! ## Formats -/

theorem formatted_two (front back : Bytes) :
    formatted (lit "%s%s") [front, back] = .ok (front ++ back) := by
  have printed : formatted (lit "%s%s") [front, back] = .ok (front ++ (back ++ [])) := rfl
  rw [printed, append_nil]

theorem formatted_one (text : Bytes) : formatted (lit "%s") [text] = .ok text := by
  have printed : formatted (lit "%s") [text] = .ok (text ++ []) := rfl
  rw [printed, append_nil]

/-- An expansion without arguments halves the percent signs. -/
theorem formatted_count {format : Bytes} {args : List Bytes} {out : Bytes} (bare : args = [])
    (printed : formatted format args = .ok out) : 2 * out.count 37 = format.count 37 := by
  fun_induction formatted format args generalizing out with
  | case4 first second rest args other ih =>
    obtain ⟨behind, expanded, rfl⟩ := map_eq_ok_iff.mp printed
    simpa [count_cons, other] using ih bare expanded
  | case5 first rest args isPercent ih =>
    obtain ⟨behind, expanded, rfl⟩ := map_eq_ok_iff.mp printed
    grind
  | _ => grind

/-! ## Status lines -/

/-- `session->tag` as a string: a tag that fills its field is not terminated, and the
field of the command name is the next one. -/
def Session.tagText (session : Session) : Bytes :=
  if session.tag.length < 16 then session.tag else session.tag ++ session.command

def Reply.statusText : Reply → Bytes
  | .ok text => lit " OK " ++ text ++ lit "\r\n"
  | .no text => lit " NO " ++ text ++ lit "\r\n"
  | .bad text => lit " BAD " ++ text ++ lit "\r\n"
  | _ => []

/-- The status lines of `imap_session_printf`. All others are collected in
`session->buff`, or are written by `ci_write` at once. -/
def directLines : List Reply :=
  [.ok (lit "LOGOUT completed"), .ok (lit "IDLE terminated"), .bad (lit "Expecting DONE"),
    .bad (lit "parse error"), .bad (lit "no valid command")]

def Session.statusLine (session : Session) (reply : Reply) : Except Fault Bytes := do
  let buff ← formatted (lit "%s%s") [session.tagText, reply.statusText]
  -- `imap_session_printf` passes its text to `ci_write` as the format
  if reply ∈ directLines then formatted buff [] else formatted (lit "%s") [buff]

theorem Session.statusLine_eq (session : Session) (reply : Reply) :
    session.statusLine reply =
      if reply ∈ directLines then formatted (session.tagText ++ reply.statusText) []
      else .ok (session.tagText ++ reply.statusText) := by
  rw [statusLine, formatted_two]
  exact if_congr Iff.rfl rfl (formatted_one _)

theorem directLines_plain : ∀ reply ∈ directLines, 37 ∉ reply.statusText := by
  decide

/-! ## Commands -/

/-- The reads of one command in the loop of `imap_handle_input`. -/
def readCommand (conf : ServerConf) (env : TokenEnv) :
    Session → List Bytes → Except Fault (Session × ParserState)
  | session, [] => .ok (session, .pending)
  | session, input :: rest =>
    match tokenizer conf env session input with
    | .ok (session, .pending) => readCommand conf env session rest
    | result => result

def answering (conf : ServerConf) (input : InputEnv) (session : Session) : ParserState → Session
  | .complete =>
    match imap4 conf input.world input.ping input.accepted session with
    | .ok (handled, _) => handled
    | .error _ => session
  | _ => session

/-- Every status line that is sent for a command with the tag consists of the tag and
the response text. -/
def EchoesTag (tag : Bytes) : Prop :=
  ∀ (conf : ServerConf) (input : InputEnv) (auth : AuthEnv) (world : World) (next : Bytes)
    (session : Session) (rest : Bytes) (more : List Bytes) (parsed : Session)
    (state : ParserState) (outcome : Outcome),
    session.tag = [] → session.job = none → session.sent = [] →
    readCommand conf input.token session ((tag ++ 32 :: rest) :: more) = .ok (parsed, state) →
    commandRun conf input auth world next parsed state = .ok outcome →
    ∀ reply, reply.tagged = true →
      (reply ∈ parsed.sent → parsed.statusLine reply = .ok (tag ++ reply.statusText)) ∧
        (reply ∈ outcome.written →
          (answering conf input parsed state).statusLine reply = .ok (tag ++ reply.statusText))

/-! ## The tag of a command -/

def HasTag {α : Type} (tag : Bytes) (result : Except Fault (Session × α)) : Prop :=
  ∀ after value, result = .ok (after, value) → after.tag = tag

section HasTag

variable {α β : Type} {tag : Bytes} {session : Session}

@[simp] theorem hasTag_ok {value : α} : HasTag tag (.ok (session, value)) ↔ session.tag = tag := by
  simp [HasTag]

@[simp] theorem hasTag_pure {value : α} : HasTag tag (pure (session, value)) ↔ session.tag = tag :=
  hasTag_ok

@[simp] theorem hasTag_error {fault : Fault} : @HasTag α tag (.error fault) := by
  simp [HasTag]

@[simp] theorem hasTag_bind {first : Except Fault β} {next : β → Except Fault (Session × α)} :
    HasTag tag (first >>= next) ↔ ∀ value, first = .ok value → HasTag tag (next value) := by
  cases first <;> simp [HasTag, bind, Except.bind]

@[simp] theorem hasTag_ite {condition : Prop} [Decidable condition]
    {first second : Except Fault (Session × α)} :
    HasTag tag (if condition then first else second) ↔
      (condition → HasTag tag first) ∧ (¬ condition → HasTag tag second) := by
  split <;> simp [*]

@[simp] theorem send_tag (replies : List Reply) : (session.send replies).tag = session.tag := rfl

@[simp] theorem push_tag (job : Command) : (session.push job).tag = session.tag := by
  unfold push
  split <;> rfl

@[simp] theorem setState_tag (state : ClientState) : (session.setState state).tag = session.tag := by
  unfold setState
  split <;> rfl

end HasTag

section Reading

variable (conf : ServerConf) (env : TokenEnv) {session : Session} {tag : Bytes} (text : Bytes)
  (same : session.tag = tag)

include same

@[simp] theorem finalize_hasTag : HasTag tag (finalize env session) := by
  simp [finalize, prompt, challenge, same]

theorem pushArg_tag {after : Session} (pushed : session.pushArg text = .ok after) :
    after.tag = tag := by
  unfold pushArg at pushed
  split at pushed <;> cases pushed
  exact same

@[simp] theorem scanLine_hasTag : HasTag tag (scanLine conf env session text) := by
  unfold scanLine
  split <;> simp [same]

theorem tokenizerMain_hasTag : HasTag tag (tokenizerMain conf env session text) := by
  have scanned {session : Session} := @scanLine_hasTag conf env session tag
  have ended {session : Session} := @finalize_hasTag env session tag
  have pushed {session : Session} {text : Bytes} := @pushArg_tag session tag text
  refine hasTag_ite.mpr ⟨fun _ => ended same, fun _ => hasTag_ite.mpr ⟨fun _ => ?_, fun _ => ?_⟩⟩
  · simp [literalChunk, same]
  split
  · exact scanned _ same
  simp only [hasTag_ite, hasTag_ok, same, implies_true, true_and]
  intro _
  refine ⟨fun _ => ?_, fun _ => ⟨fun _ => ?_, fun _ => ⟨fun _ => ?_, fun _ => scanned _ same⟩⟩⟩
  · refine hasTag_bind.mpr fun after named => ?_
    have kept : after.tag = tag := pushed same named
    simp [prompt, kept]
  · unfold plainLine
    split
    · exact hasTag_error
    split
    · exact hasTag_error
    exact hasTag_bind.mpr fun named first => hasTag_bind.mpr fun after second =>
      ended (pushed (pushed same first) second)
  · unfold cramLine
    split
    · simp
    · simp
    split <;> simp [same]

theorem parseArgs_hasTag : HasTag tag (parseArgs conf env session text) :=
  hasTag_bind.mpr fun parsed returned => hasTag_pure.mpr
    (tokenizerMain_hasTag conf env text same parsed.1 parsed.2 returned)

end Reading

/-- The further reads of a command leave its tag alone. -/
theorem readCommand_keeps (conf : ServerConf) (env : TokenEnv) {session parsed : Session}
    {inputs : List Bytes} {state : ParserState}
    (tagged : session.tag ≠ []) (read : readCommand conf env session inputs = .ok (parsed, state)) :
    parsed.tag = session.tag ∧ parsed.job = session.job := by
  induction inputs generalizing session with
  | nil =>
    cases read
    exact ⟨rfl, rfl⟩
  | cons input rest ih =>
    have step : ∀ after verdict, tokenizer conf env session input = .ok (after, verdict) →
        after.tag = session.tag ∧ after.job = session.job := by
      intro after verdict returned
      refine ⟨?_, (tokenizer_calm after verdict returned).1.job⟩
      unfold tokenizer at returned
      dsimp only at returned
      rw [if_pos tagged] at returned
      exact hasTag_ite.mpr ⟨fun _ => hasTag_ok.mpr rfl, fun _ => parseArgs_hasTag conf env _ rfl⟩
        after verdict returned
    unfold readCommand at read
    split at read
    · rename_i after returned
      obtain ⟨sameTag, sameJob⟩ := step after _ returned
      obtain ⟨tag, job⟩ := ih (sameTag ▸ tagged) read
      exact ⟨tag.trans sameTag, job.trans sameJob⟩
    · exact step parsed state read

@[simp] theorem refresh_tag (session : Session) (world : World) :
    (session.refresh world).tag = session.tag := by
  unfold Session.refresh
  split <;> rfl

section Handling

variable {session : Session} {world : World} {tag : Bytes} (same : session.tag = tag)

include same

@[simp] theorem guarded_hasTag {minargs maxargs : Nat} {required : Option ClientState}
    {body : Except Fault (Session × Int)} (kept : HasTag tag body) :
    HasTag tag (guarded session minargs maxargs required body) := by
  refine hasTag_bind.mpr fun checked _ => ?_
  cases checked with
  | refused reply => exact hasTag_ok.mpr same
  | passed => exact kept

@[simp] theorem guardedPush_hasTag {minargs maxargs : Nat} {required : Option ClientState}
    {job : Command} : HasTag tag (guardedPush session minargs maxargs required job) := by
  simp [guardedPush, same]

@[simp] theorem icThread_hasTag : HasTag tag (icThread session) := by
  simp [icThread, sortedSearch, same]

@[simp] theorem icExpunge_hasTag : HasTag tag (icExpunge session world) := by
  simp [icExpunge, same]

theorem icUid_hasTag : HasTag tag (icUid session world) := by
  have handlers : ∀ command run, uidHandler world command = some run →
      ∀ session : Session, session.tag = tag → HasTag tag (run session) := by
    intro command run found session same
    unfold uidHandler at found
    repeat' split at found
    all_goals cases found
    all_goals first
      | exact guardedPush_hasTag same
      | simp [same]
  refine hasTag_ite.mpr ⟨fun _ => hasTag_ok.mpr same, fun _ => ?_⟩
  refine hasTag_bind.mpr fun first _ => hasTag_bind.mpr fun next _ => ?_
  split
  · split
    · exact handlers _ _ ‹_› _ same
    · exact hasTag_ok.mpr same
  · exact hasTag_ok.mpr same

theorem handler_hasTag (conf : ServerConf) (accepted : Bool) (command : Command) :
    HasTag tag (handler conf world accepted session command) := by
  cases command with
  | uid => exact icUid_hasTag same
  | authenticate | login =>
    simp [handler, icLogin, icAuthenticate, authenticatePush, same]
  | logout => simp [handler, icLogout, same]
  | starttls => simp [handler, icStarttls, sessionEncrypted, same]
  | idle => simp [handler, icIdle, same]
  | thread => exact icThread_hasTag same
  | expunge => exact icExpunge_hasTag same
  | _ => exact guardedPush_hasTag same

end Handling

theorem imap4_hasTag {world : World} (conf : ServerConf) (accepted : Bool) (session : Session) :
    HasTag session.tag (imap4 conf world true accepted session) := by
  unfold imap4
  simp only [Bool.not_true, Bool.false_eq_true, if_false, hasTag_ite, hasTag_ok, implies_true, true_and]
  intro _ _
  split
  · simp
  · exact handler_hasTag rfl conf accepted _

/-- Whenever something is written, the tag is still there. -/
theorem answering_tag {conf : ServerConf} {input : InputEnv} {auth : AuthEnv} {next : Bytes}
    {world : World} {session : Session} {state : ParserState} {outcome : Outcome} (noJob : session.job = none)
    (ran : commandRun conf input auth world next session state = .ok outcome)
    {reply : Reply} (written : reply ∈ outcome.written) :
    (answering conf input session state).tag = session.tag := by
  cases state with
  | pending | error => rfl
  | complete =>
    obtain ⟨⟨handled, status⟩, dispatched, finished⟩ := bind_eq_ok_iff.mp ran
    simp only [answering, dispatched]
    cases gone : input.ping with
    | true =>
      rw [gone] at dispatched
      exact imap4_hasTag conf input.accepted session handled status dispatched
    | false =>
      -- an aborted command has no tag any more, but its buffer is not written either
      rw [gone] at dispatched
      cases dispatched
      unfold abort at finished ⊢
      split
      · rfl
      · rename_i alive
        rw [if_neg alive] at finished
        have silent : outcome.written = [] := by
          rw [not_or] at alive
          simp [finishCommand, bailout, setState, reset, alive.2, noJob,
            idling, ended, Session.written, dmEQuery] at finished
          rw [← finished]
        rw [silent] at written
        cases written

/-! ## Echoed tags -/

section Tags

variable {tag : Bytes} (nonempty : tag ≠ []) (accepted : checktag tag = true) (oneWord : 32 ∉ tag)

include accepted in
theorem accepted_bytes : ∀ byte ∈ tag, byte ≠ 0 ∧ byte ≠ 10 ∧ byte ≠ 13 := by
  have chars : ∀ byte ∈ acceptedTagChars, byte ≠ 0 ∧ byte ≠ 10 ∧ byte ≠ 13 := by
    decide +kernel
  intro byte inside
  exact chars byte (contains_iff_mem.mp (all_eq_true.mp accepted byte inside))

include accepted oneWord in
theorem stridx_tag (rest : Bytes) : stridx (tag ++ 32 :: rest) 32 = tag.length := by
  unfold stridx
  rw [takeWhile_append_of_pos, takeWhile_cons_of_neg (by simp), append_nil]
  intro byte inside
  have notBlank : byte ≠ 32 := fun isBlank => oneWord (isBlank ▸ inside)
  simp [(accepted_bytes accepted byte inside).1, notBlank]

include accepted oneWord in
theorem tagWord_tag (rest : Bytes) : tagWord (tag ++ 32 :: rest) = tag.take 16 := by
  rw [tagWord, stridx_tag accepted oneWord, take_left]

include accepted oneWord in
include nonempty accepted oneWord in
theorem tokenizer_tag (conf : ServerConf) (env : TokenEnv) {session : Session}
    (atRest : session.tag = []) (rest : Bytes) :
    tokenizer conf env session (tag ++ 32 :: rest) =
      parseArgs conf env (session.named (tag ++ 32 :: cstr rest))
        (argumentText (tag ++ 32 :: cstr rest)) := by
  have cut : cstr (tag ++ 32 :: rest) = tag ++ 32 :: cstr rest := by
    unfold cstr
    rw [takeWhile_append_of_pos, takeWhile_cons_of_pos (by decide)]
    intro byte inside
    simp [(accepted_bytes accepted byte inside).1]
  have begins : session.begins (tag ++ 32 :: rest) = true := by
    rw [begins_iff, cut]
    refine ⟨atRest, by simp, ?_⟩
    obtain ⟨first, others, rfl⟩ := exists_cons_of_ne_nil nonempty
    obtain ⟨-, notLf, notCr⟩ := accepted_bytes accepted first (mem_cons_self ..)
    have newline : lit "\r\n" = [13, 10] := lit_ofList _
    simp [newline, notLf, Ne.symm notCr]
  rw [tokenizer_of_begins begins, cut]
  refine firstLine_of_command ?_ ?_
  · rw [stridx_tag accepted oneWord]
    simp
  · rw [tagWord_tag accepted oneWord]
    exact all_eq_true.mpr fun byte inside =>
      all_eq_true.mp accepted byte (mem_of_mem_take inside)

include nonempty accepted oneWord in
theorem readCommand_tag {conf : ServerConf} {env : TokenEnv} {session parsed : Session}
    {rest : Bytes} {more : List Bytes} {state : ParserState} (atRest : session.tag = [])
    (read : readCommand conf env session ((tag ++ 32 :: rest) :: more) = .ok (parsed, state)) :
    parsed.tag = tag.take 16 ∧ parsed.job = session.job := by
  have named : (session.named (tag ++ 32 :: cstr rest)).tag = tag.take 16 :=
    tagWord_tag accepted oneWord _
  have first : ∀ after verdict,
      tokenizer conf env session (tag ++ 32 :: rest) = .ok (after, verdict) →
        after.tag = tag.take 16 ∧ after.job = session.job := by
    intro after verdict returned
    have job := (tokenizer_calm after verdict returned).1.job
    rw [tokenizer_tag nonempty accepted oneWord conf env atRest] at returned
    exact ⟨parseArgs_hasTag conf env _ named after verdict returned, job⟩
  unfold readCommand at read
  split at read
  · rename_i after returned
    obtain ⟨sameTag, sameJob⟩ := first after _ returned
    have tagged : after.tag ≠ [] := by simp [sameTag, nonempty]
    obtain ⟨keptTag, keptJob⟩ := readCommand_keeps conf env tagged read
    exact ⟨keptTag.trans sameTag, keptJob.trans sameJob⟩
  · exact first parsed state read

/-- A connection that nothing was sent on, and a command without arguments on it. -/
def atRest : Session := { handleConnection plainConf true with sent := [] }

def bareCommand (tag word : Bytes) : Session :=
  { atRest with tag := tag.take 16, command := word, parserState := .complete }

include nonempty accepted oneWord in
theorem readCommand_bare {word : Bytes} (known : word ∈ [lit "LOGOUT", lit "X"]) :
    readCommand plainConf plainInput.token atRest [tag ++ 32 :: (word ++ lit "\r\n")] =
      .ok (bareCommand tag word, .complete) := by
  have parts : stripCrlf (((cstr (word ++ lit "\r\n")).take
        (stridx (cstr (word ++ lit "\r\n")) 32)).take 16) = word ∧
      (cstr (word ++ lit "\r\n")).drop (stridx (cstr (word ++ lit "\r\n")) 32) = [] := by
    revert word
    repeat rw [lit_ofList]
    decide
  rw [readCommand, tokenizer_tag nonempty accepted oneWord _ _ rfl, named, commandWord,
    argumentText, commandText, stridx_tag accepted oneWord, ← drop_drop, drop_left,
    tagWord_tag accepted oneWord, drop_one, tail_cons, parts.1, parts.2]
  rfl

include nonempty in
theorem imap4_bare {word : Bytes} (known : word ∈ [lit "LOGOUT", lit "X"]) :
    imap4 plainConf openWorld true false (bareCommand tag word) =
      match lookupCommand word with
      | none => .ok ({ bareCommand tag word with
          commandState := .done, sent := [.bad (lit "no valid command")] }, 1)
      | some command =>
        handler plainConf openWorld false
          ({ bareCommand tag word with commandState := .done }.dispatched command) command := by
  have named : word ≠ [] := by
    revert word
    repeat rw [lit_ofList]
    decide
  have tagged : ¬ ((bareCommand tag word).tag = [] ∨ (bareCommand tag word).command = []) := by
    simp [bareCommand, nonempty, named]
  have going : ¬ (bareCommand tag word).commandState = .done := by
    show ¬ CommandState.inProgress = .done
    decide
  exact if_neg tagged

include nonempty accepted oneWord in
/-- What an echoed tag needs of a line of `imap_session_printf`. -/
theorem EchoesTag.direct (echoes : EchoesTag tag) (word : Bytes) (reply : Reply) {handled : Session}
    {status : Int} {outcome : Outcome} (known : word ∈ [lit "LOGOUT", lit "X"])
    (dispatched : imap4 plainConf openWorld true false (bareCommand tag word) = .ok (handled, status))
    (same : handled.tag = tag.take 16 ∧ handled.command = word)
    (finished : finishCommand activeEnv openWorld [] (handled, status) = .ok outcome)
    (written : reply ∈ outcome.written) (tagged : reply.tagged = true)
    (direct : reply ∈ directLines) :
    formatted ((if tag.length < 16 then tag else tag.take 16 ++ word) ++ reply.statusText) [] =
      .ok (tag ++ reply.statusText) := by
  have ran : commandRun plainConf plainInput activeEnv openWorld [] (bareCommand tag word)
      .complete = .ok outcome :=
    bind_eq_ok_iff.mpr ⟨(handled, status), dispatched, finished⟩
  have line := (echoes plainConf plainInput activeEnv openWorld [] atRest (word ++ lit "\r\n") []
    (bareCommand tag word) .complete outcome rfl rfl rfl
    (readCommand_bare nonempty accepted oneWord known) ran reply tagged).2 written
  have answered : answering plainConf plainInput (bareCommand tag word) .complete = handled := by
    have world : imap4 plainConf plainInput.world plainInput.ping plainInput.accepted
        (bareCommand tag word) = .ok (handled, status) := dispatched
    rw [answering, world]
  rw [answered, statusLine_eq, if_pos direct, tagText, same.1, same.2, length_take] at line
  by_cases short : tag.length < 16
  · rw [if_pos (by omega), take_of_length_le (by omega)] at line
    rwa [if_pos short]
  · rw [if_neg (by omega)] at line
    rwa [if_neg short]

end Tags

/-- A tag is echoed exactly when it leaves room for the end of its field and has no
percent sign. -/
theorem echoesTag_iff {tag : Bytes} (nonempty : tag ≠ []) (accepted : checktag tag = true)
    (oneWord : 32 ∉ tag) : EchoesTag tag ↔ tag.length < 16 ∧ 37 ∉ tag := by
  constructor
  · intro echoes
    have logout := echoes.direct nonempty accepted oneWord (lit "LOGOUT")
      (.ok (lit "LOGOUT completed")) (by simp) (imap4_bare nonempty (by simp)) ⟨rfl, rfl⟩ rfl
      (mem_cons_of_mem _ (mem_cons_self ..)) rfl (by simp [directLines])
    have unknown := echoes.direct nonempty accepted oneWord (lit "X")
      (.bad (lit "no valid command")) (by simp) (imap4_bare nonempty (by simp)) ⟨rfl, rfl⟩ rfl
      (mem_cons_self ..) rfl (by simp [directLines])
    have fewer : (tag.take 16).count 37 ≤ tag.count 37 := (take_sublist 16 tag).count_le 37
    have counts : (Reply.ok (lit "LOGOUT completed")).statusText.count 37 = 0 ∧
        (lit "LOGOUT").count 37 = 0 := by
      repeat rw [lit_ofList]
      decide
    have halved := formatted_count rfl logout
    have noPercent : 37 ∉ tag := by
      rw [← count_eq_zero]
      split at halved
      · simp only [count_append, counts.1] at halved
        omega
      · simp only [count_append, counts.1, counts.2] at halved
        omega
    refine ⟨not_le.mp fun long => ?_, noPercent⟩
    rw [if_neg (not_lt.mpr long)] at logout unknown
    have plain : 37 ∉ tag.take 16 := fun inside => noPercent (mem_of_mem_take inside)
    rw [formatted_plain (by simp [plain]; decide +kernel)] at logout unknown
    have longer := congrArg List.length (Except.ok.inj logout)
    have shorter := congrArg List.length (Except.ok.inj unknown)
    have lengths : (lit "LOGOUT").length = 6 ∧ (lit "X").length = 1 := by
      decide
    simp only [length_append, length_take, lengths.1, lengths.2] at longer shorter
    omega
  · rintro ⟨short, plain⟩ conf input auth world next session rest more parsed state outcome atRest
      noJob silent read ran reply tagged
    obtain ⟨sameTag, sameJob⟩ := readCommand_tag nonempty accepted oneWord atRest read
    rw [take_of_length_le (by omega)] at sameTag
    have echoed : ∀ answered : Session, answered.tag = tag →
        answered.statusLine reply = .ok (tag ++ reply.statusText) := by
      intro answered same
      rw [statusLine_eq, tagText, same, if_pos short]
      split
      · rename_i direct
        refine formatted_plain ?_
        rw [mem_append, not_or]
        exact ⟨plain, directLines_plain reply direct⟩
      · rfl
    exact ⟨fun _ => echoed parsed sameTag, fun written =>
      echoed _ ((answering_tag (sameJob.trans noJob) ran written).trans sameTag)⟩

theorem echoesTag_a001 : EchoesTag (lit "a001") :=
  (echoesTag_iff (by decide +kernel) (by decide +kernel) (by decide +kernel)).mpr (by decide +kernel)

def logoutLine (tag : Bytes) : Except Fault Bytes := do
  let (parsed, state) ← readCommand plainConf plainInput.token atRest [tag ++ lit " LOGOUT\r\n"]
  (answering plainConf plainInput parsed state).statusLine (.ok (lit "LOGOUT completed"))

/-- A doubled percent sign is halved, a conversion reads an argument that is not
there, and a long tag is cut and followed by the command. -/
theorem tag_not_echoed :
    logoutLine (lit "50%%") = .ok (lit "50% OK LOGOUT completed\r\n") ∧
      logoutLine (lit "a%n") = .error .outOfBounds ∧
      logoutLine (lit "abcdefghijklmnopqrst") =
        .ok (lit "abcdefghijklmnopLOGOUT OK LOGOUT completed\r\n") := by
  decide +kernel

end Dbmail.Imap
