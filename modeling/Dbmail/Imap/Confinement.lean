import Dbmail.Auth.ChallengeResponse
import Dbmail.Imap.Server
import Dbmail.Imap.WorkerFrames
import Dbmail.Lib.Monitor

/-!
Contract: what a connection may do before and after login.

Owns the abstract login policy as a monitor over traces, the relation `Calm`
(changes that bear on no login), one inversion lemma for each layer of the
server (tokenizer, handlers, input loop, worker), the invariant that ties a
session to the monitor, and the confinement of every run.

Does not own: the decision of a single attempt.
-/

namespace Dbmail.Imap

open Dbmail.Lib Dbmail.Auth Session List

variable {trace : List TraceEvent} {session before middle after : Session} {minargs maxargs : Nat}
  {result status : Int} {job : Command} {world : World} {conf : ServerConf} {accepted : Bool}
  {env : InputEnv} {account : Option Nat} {connection : Connection}

/-! ## The policy -/

/-- The login policy. The state is the account logged in, if any: attempts are
made only before a login and never exposed; handlers pass and run only after
it, for its account. -/
def loginPolicy : Option Nat → TraceEvent → Option (Option Nat)
  | none, .attempt attempt =>
    if attempt.exposed then none
    else some (if attempt.verdict = 1 then some attempt.userid else none)
  | some _, .attempt _ => none
  | none, .passed _ _ => none
  | none, .ran _ _ => none
  | some account, .passed _ userid => if userid = account then some (some account) else none
  | some account, .ran _ userid => if userid = account then some (some account) else none

/-- The policy spelled out over a trace: a handler passes its check or runs only
after a successful attempt and for the account of that attempt; an attempt is
not exposed and comes after no success. -/
structure Confined (trace : List TraceEvent) : Prop where
  passed : ∀ before command userid after, trace = before ++ .passed command userid :: after →
    ∃ attempt, .attempt attempt ∈ before ∧ attempt.verdict = 1 ∧ attempt.userid = userid
  ran : ∀ before command userid after, trace = before ++ .ran command userid :: after →
    ∃ attempt, .attempt attempt ∈ before ∧ attempt.verdict = 1 ∧ attempt.userid = userid
  attempts : ∀ before attempt after, trace = before ++ .attempt attempt :: after →
    attempt.exposed = false ∧ ∀ earlier, .attempt earlier ∈ before → earlier.verdict ≠ 1

private def History (trace : List TraceEvent) : Option Nat → Prop
  | none => ∀ attempt, .attempt attempt ∈ trace → attempt.verdict ≠ 1
  | some account =>
    ∃ attempt, .attempt attempt ∈ trace ∧ attempt.verdict = 1 ∧ attempt.userid = account

private theorem History.extend (before : List TraceEvent) (state : Option Nat)
    (event : TraceEvent) (next : Option Nat) (history : History before state)
    (taken : loginPolicy state event = some next) : History (before ++ [event]) next := by
  cases state with
  | none =>
    cases event with
    | passed | ran => simp [loginPolicy] at taken
    | attempt made =>
      simp only [loginPolicy] at taken
      split at taken
      · cases taken
      · cases taken
        by_cases success : made.verdict = 1
        · rw [if_pos success]
          exact ⟨made, by simp, success, rfl⟩
        · rw [if_neg success]
          intro attempt member
          rcases mem_append.mp member with earlier | last
          · exact history attempt earlier
          · cases mem_singleton.mp last
            exact success
  | some account =>
    obtain ⟨attempt, member, success⟩ := history
    have kept : next = some account := by
      cases event with
      | attempt => simp [loginPolicy] at taken
      | passed | ran =>
        simp only [loginPolicy] at taken
        split at taken <;> simp_all
    rw [kept]
    exact ⟨attempt, mem_append_left _ member, success⟩

private theorem history_of_observed {state : Option Nat}
    (observed : observeAll loginPolicy none trace = some state) : History trace state :=
  observeAll_history History (by simp [History]) History.extend observed

/-- A trace that the monitor accepts is confined. -/
theorem Confined.of_observed {final : Option Nat}
    (observed : observeAll loginPolicy none trace = some final) : Confined trace := by
  constructor
  case passed | ran =>
    rintro before command userid after rfl
    obtain ⟨state, next, reached, taken⟩ := observeAll_split observed
    cases state with
    | none => simp [loginPolicy] at taken
    | some account =>
      simp only [loginPolicy] at taken
      split at taken
      · subst account
        exact history_of_observed reached
      · cases taken
  case attempts =>
    rintro before attempt after rfl
    obtain ⟨state, next, reached, taken⟩ := observeAll_split observed
    cases state with
    | some account => simp [loginPolicy] at taken
    | none =>
      refine ⟨?_, history_of_observed reached⟩
      simp only [loginPolicy] at taken
      split at taken
      · cases taken
      · simpa using ‹¬ attempt.exposed = true›

/-! ## Calm changes -/

/-- A state in which the connection is being closed. The error state is left
again within one step. -/
def ClientState.closing : ClientState → Bool
  | .logout | .quitQueued => true
  | _ => false

def ClientState.loggedIn : ClientState → Bool
  | .authenticated | .selected => true
  | _ => false

/-- The mailbox object, and whether its state is a loaded one. -/
def Session.selection (session : Session) : Option Nat × Bool := (session.mailbox, session.loaded)

/-- The change touches neither account, job, mailbox nor mechanisms; the state
stays or the connection is being closed; an IDLE loop is not entered. -/
structure Calm (before after : Session) : Prop where
  userid : after.userid = before.userid
  sslState : after.sslState = before.sslState
  preauthCapa : after.preauthCapa = before.preauthCapa
  job : after.job = before.job
  selection : after.selection = before.selection
  state : after.state = before.state ∨ after.state.closing = true
  commandState : after.commandState = before.commandState ∨ after.commandState ≠ .idle

theorem Calm.of_same (same : (after.userid, after.sslState, after.preauthCapa, after.job,
      after.selection, after.state, after.commandState) =
    (before.userid, before.sslState, before.preauthCapa, before.job, before.selection, before.state,
      before.commandState)) : Calm before after := by
  simp only [Prod.mk.injEq] at same
  obtain ⟨userid, sslState, preauthCapa, job, selection, state, commandState⟩ := same
  exact ⟨userid, sslState, preauthCapa, job, selection, .inl state, .inl commandState⟩

theorem Calm.refl : Calm session session := .of_same rfl

theorem Calm.trans {first second third : Session} (left : Calm first second)
    (right : Calm second third) : Calm first third where
  userid := right.userid.trans left.userid
  sslState := right.sslState.trans left.sslState
  preauthCapa := right.preauthCapa.trans left.preauthCapa
  job := right.job.trans left.job
  selection := right.selection.trans left.selection
  state := by
    rcases right.state with same | closing
    · rw [same]
      exact left.state
    · exact .inr closing
  commandState := by
    rcases right.commandState with same | notIdle
    · rw [same]
      exact left.commandState
    · exact .inr notIdle

theorem Calm.loginDisabled (calm : Calm before after) :
    after.loginDisabled = before.loginDisabled := by
  simp [Session.loginDisabled, calm.preauthCapa, calm.sslState]

theorem Calm.state_ne {state : ClientState} (calm : Calm before after)
    (other : before.state ≠ state) (going : state.closing = false) : after.state ≠ state := by
  rintro rfl
  rcases calm.state with same | closing
  · exact other same.symm
  · cases closing.symm.trans going

theorem Calm.send {replies : List Reply} : Calm session (session.send replies) :=
  .of_same rfl

theorem Calm.reset : Calm session session.reset :=
  ⟨rfl, rfl, rfl, rfl, rfl, .inl rfl, .inr (by simp [Session.reset])⟩

theorem Calm.setState (session : Session) {state : ClientState} (closing : state.closing = true) :
    Calm session (session.setState state) := by
  unfold Session.setState
  split
  · exact .refl
  · exact ⟨rfl, rfl, rfl, rfl, rfl, .inr closing, .inl rfl⟩

theorem Calm.bailout : Calm session session.bailout :=
  .setState session rfl

theorem bailout_eq (session : Session) :
    session.bailout = { session with state := .quitQueued } := by
  unfold bailout setState
  split
  · rename_i already
    rw [← already]
  · rfl

/-- Closing from the error state leaves nothing of that state behind. -/
theorem Calm.of_error_bailout
    (calm : Calm { before with state := .quitQueued } { middle with state := .quitQueued }) :
    Calm before middle.bailout := by
  rw [bailout_eq]
  exact ⟨calm.userid, calm.sslState, calm.preauthCapa, calm.job, calm.selection, .inr rfl, calm.commandState⟩

/-- The error state itself, seen without the state. -/
theorem setState_error_eq (session : Session) :
    { session.setState .error with state := .quitQueued } =
      { session with state := .quitQueued } := by
  unfold setState
  split <;> rfl

theorem Calm.abort : Calm session session.abort := by
  unfold Session.abort
  split
  · exact .refl
  · refine .of_error_bailout ?_
    have same : { (session.setState .error).reset with state := .quitQueued } =
        { session with state := .quitQueued }.reset := by
      rw [← setState_error_eq session]
      rfl
    rw [same]
    exact .reset

theorem Calm.retry : Calm session session.retry := by
  unfold Session.retry
  split
  · exact .bailout
  · exact .trans (.of_same (by rfl)) .reset

theorem Calm.continue_ : Calm session session.continue_ := by
  unfold Session.continue_
  split
  · exact .reset
  · exact .refl

theorem Calm.exit {status : Int} : Calm session (session.exit status) := by
  unfold Session.exit
  repeat' split
  · exact .abort
  · exact .continue_
  · exact .retry
  · exact Calm.send.trans .bailout
  · exact .reset
  · exact .refl

/-- A refresh replaces the state of the mailbox, and nothing else. -/
theorem refresh_eq (session : Session) (world : World) : ∃ sent loaded,
    session.refresh world = { session with sent := sent, loaded := loaded } ∧
      (world.reloads = true → loaded = session.loaded) := by
  unfold Session.refresh
  split
  · exact ⟨_, _, rfl, fun reloads => by rw [reloads, Bool.and_true]⟩
  · exact ⟨_, _, rfl, fun _ => rfl⟩

theorem Calm.timeout (session : Session) (world : World) : ∃ loaded,
    Calm { session with loaded := loaded } (session.timeout world) ∧
      (world.reloads = true → loaded = session.loaded) := by
  unfold Session.timeout
  split
  · obtain ⟨sent, loaded, isRefresh, kept⟩ := refresh_eq session world
    rw [isRefresh]
    exact ⟨loaded, .of_same rfl, kept⟩
  · refine ⟨session.loaded, .of_error_bailout ?_, fun _ => rfl⟩
    rw [← setState_error_eq session]
    exact .send

/-! ## The tokenizer is calm -/

/-- Every session the tokenizer returns is a calm change, and a complete parse leaves a
terminated list with the index at its start. -/
def CalmParse (before : Session) (result : Except Fault (Session × ParserState)) : Prop :=
  ∀ after verdict, result = .ok (after, verdict) →
    Calm before after ∧ (verdict = .complete → after.argsIdx = 0 ∧ after.Terminated)

theorem CalmParse.of_ok {verdict : ParserState} (calm : Calm before after)
    (going : verdict ≠ .complete) : CalmParse before (.ok (after, verdict)) := by
  rintro _ _ ⟨⟩
  exact ⟨calm, fun complete => absurd complete going⟩

theorem CalmParse.error {fault : Fault} : CalmParse before (.error fault) := by
  rintro _ _ ⟨⟩

theorem CalmParse.trans {result : Except Fault (Session × ParserState)}
    (calm : Calm before middle) (rest : CalmParse middle result) : CalmParse before result :=
  fun after verdict returned =>
    ⟨calm.trans (rest after verdict returned).1, (rest after verdict returned).2⟩

theorem pushArg_calm {text : Bytes} (pushed : session.pushArg text = .ok after) :
    Calm session after := by
  unfold pushArg at pushed
  split at pushed
  · cases pushed
    exact .of_same rfl
  · cases pushed

section Tokenizer

variable {conf : ServerConf} {env : TokenEnv} {session : Session} {text : Bytes}

theorem finalize_calm : CalmParse session (finalize env session) := by
  unfold finalize
  split
  · exact .of_ok .send nofun
  split
  · exact .of_ok .send nofun
  split
  · exact .of_ok (.of_same rfl) nofun
  split
  · rename_i inArray
    rintro _ _ ⟨⟩
    refine ⟨.of_same rfl, fun _ => ⟨rfl, ?_⟩⟩
    exact Nat.lt_of_le_of_lt (length_take_le _ _) inArray
  · exact .error

theorem literalChunk_calm : CalmParse session (literalChunk session text) := by
  unfold literalChunk
  repeat' split
  all_goals first
    | exact .error
    | exact .of_ok (.of_same rfl) nofun

theorem scanLine_calm : CalmParse session (scanLine conf env session text) := by
  have filled (args : List Bytes) :
      Calm session { session with args := args, argsIdx := args.length } :=
    .of_same rfl
  unfold scanLine
  split
  · exact .of_ok (filled _) nofun
  · exact .of_ok (filled _) nofun
  · exact .trans (filled _) finalize_calm
  · split
    · exact .of_ok ⟨rfl, rfl, rfl, rfl, rfl, .inl rfl, .inr (by simp [send])⟩ nofun
    · exact .of_ok (.of_same rfl) nofun

theorem loginLine_calm : CalmParse session (loginLine conf env session text) := by
  intro after verdict returned
  obtain ⟨pushed, push, rest⟩ := bind_eq_ok_iff.mp returned
  apply CalmParse.trans (pushArg_calm push) _ after verdict rest
  split
  · exact finalize_calm
  · split
    · exact .of_ok .send nofun
    · exact scanLine_calm

theorem plainLine_calm : CalmParse session (plainLine env session text) := by
  intro after verdict returned
  unfold plainLine at returned
  split at returned
  · cases returned
  · split at returned
    · cases returned
    · obtain ⟨first, pushFirst, returned⟩ := bind_eq_ok_iff.mp returned
      obtain ⟨second, pushSecond, returned⟩ := bind_eq_ok_iff.mp returned
      exact CalmParse.trans ((pushArg_calm pushFirst).trans (pushArg_calm pushSecond))
        finalize_calm _ _ returned

theorem cramLine_calm : CalmParse session (cramLine env session text) := by
  unfold cramLine
  split
  · exact .error
  · exact .error
  · split
    · exact .of_ok (.of_same rfl) nofun
    · exact .trans (.of_same (by rfl)) finalize_calm

theorem tokenizerMain_calm : CalmParse session (tokenizerMain conf env session text) := by
  unfold tokenizerMain
  split
  · exact finalize_calm
  split
  · exact literalChunk_calm
  simp only
  split
  · exact scanLine_calm
  repeat' split
  · exact .of_ok .refl nofun
  · exact loginLine_calm
  · exact plainLine_calm
  · exact cramLine_calm
  · exact scanLine_calm

theorem parseArgs_calm : CalmParse session (parseArgs conf env session text) := by
  intro after verdict returned
  obtain ⟨⟨parsed, state⟩, ran, returned⟩ := bind_eq_ok_iff.mp returned
  cases returned
  obtain ⟨calm, complete⟩ := tokenizerMain_calm _ _ ran
  exact ⟨calm.trans (.of_same (by rfl)), complete⟩

theorem refuseLine_calm {reply : Reply} : Calm session (session.refuseLine reply) :=
  ⟨rfl, rfl, rfl, rfl, rfl, .inl rfl, .inr (by simp [refuseLine, send])⟩

theorem firstLine_calm : CalmParse session (firstLine conf env session text) := by
  unfold firstLine
  simp only
  split
  · exact .of_ok (.trans (.of_same (by rfl)) refuseLine_calm) nofun
  split
  · exact .of_ok (.trans (.of_same (by rfl)) refuseLine_calm) nofun
  · exact .trans (.of_same (by rfl)) parseArgs_calm

theorem tokenizer_calm : CalmParse session (tokenizer conf env session text) := by
  unfold tokenizer
  simp only
  split
  · exact .of_ok .refl nofun
  split
  · exact parseArgs_calm
  split
  · exact .of_ok .refl nofun
  · exact firstLine_calm

end Tokenizer

/-! ## Handlers -/

/-- What a handler may do to a session: a calm change, a push that its state
check allows, the start of TLS, or the start of an IDLE loop. -/
inductive Handled (world : World) (before : Session) : Session → Prop where
  | calm {after : Session} (calm : Calm before after) : Handled world before after
  | pushed {middle : Session} {job : Command} (calm : Calm before middle)
      (allowed : gated job = true → before.state.loggedIn = true)
      (attempt : job = .authenticate →
        before.state = .nonAuthenticated ∧ before.loginDisabled = false) :
      Handled world before (middle.push job)
  | encrypted {after : Session} (userid : after.userid = before.userid)
      (job : after.job = before.job) (selection : after.selection = before.selection)
      (state : after.state = before.state)
      (commandState : after.commandState = before.commandState) (active : after.sslState = true) :
      Handled world before after
  | idle {after : Session} (loggedIn : before.state.loggedIn = true)
      (userid : after.userid = before.userid) (job : after.job = before.job)
      (selection : world.reloads = true → after.selection = before.selection)
      (state : after.state = before.state) (loginDisabled : after.loginDisabled = before.loginDisabled) :
      Handled world before after

theorem Handled.of_calm (handled : Handled world middle after) (calm : Calm before middle)
    (sameState : middle.state = before.state)
    (sameCommand : middle.commandState = before.commandState) : Handled world before after := by
  have sameDisabled := calm.loginDisabled
  cases handled with
  | calm rest => exact .calm (calm.trans rest)
  | pushed rest allowed attempt =>
    rw [sameState] at allowed
    rw [sameState, sameDisabled] at attempt
    exact .pushed (calm.trans rest) allowed attempt
  | encrypted userid job selection state commandState active =>
    exact .encrypted (userid.trans calm.userid) (job.trans calm.job)
      (selection.trans calm.selection) (state.trans sameState)
      (commandState.trans sameCommand) active
  | idle loggedIn userid job selection state loginDisabled =>
    rw [sameState] at loggedIn
    exact .idle loggedIn (userid.trans calm.userid) (job.trans calm.job)
      (fun reloads => (selection reloads).trans calm.selection) (state.trans sameState)
      (loginDisabled.trans sameDisabled)

theorem checkStateAndArgs_passed {required : ClientState}
    (passed : checkStateAndArgs session minargs maxargs (some required) = .ok .passed) :
    required.admits session.state = true := by
  unfold checkStateAndArgs at passed
  split at passed
  · cases passed
  · by_cases admitted : required.admits session.state = true
    · exact admitted
    · simp [Option.filter, admitted] at passed

theorem loggedIn_of_admits {required state : ClientState}
    (needs : required = .authenticated ∨ required = .selected)
    (admitted : required.admits state = true) : state.loggedIn = true := by
  rcases needs with rfl | rfl <;> cases state <;> first | rfl | cases admitted

/-- A guarded handler refuses calmly or runs its body behind a passed check. -/
theorem guarded_handled {required : Option ClientState} {body : Except Fault (Session × Int)}
    (returned : guarded session minargs maxargs required body = .ok (after, result))
    (behind : checkStateAndArgs session minargs maxargs required = .ok .passed →
      body = .ok (after, result) → Handled world session after) : Handled world session after := by
  obtain ⟨checked, check, rest⟩ := bind_eq_ok_iff.mp returned
  cases checked with
  | refused reply =>
    cases rest
    exact .calm .send
  | passed => exact behind check rest

theorem guardedPush_handled {required : Option ClientState}
    (returned : guardedPush session minargs maxargs required job = .ok (after, result))
    (guard : gated job = true → required = some .authenticated ∨ required = some .selected)
    (other : job ≠ .authenticate) : Handled world session after := by
  refine guarded_handled returned fun check pushed => ?_
  cases pushed
  refine .pushed .refl (fun isGated => ?_) (fun same => absurd same other)
  rcases guard isGated with rfl | rfl
  · exact loggedIn_of_admits (.inl rfl) (checkStateAndArgs_passed check)
  · exact loggedIn_of_admits (.inr rfl) (checkStateAndArgs_passed check)

theorem icThread_handled (returned : icThread session = .ok (after, result)) :
    Handled world session after := by
  obtain ⟨algorithm, -, rest⟩ := bind_eq_ok_iff.mp returned
  split at rest
  · exact guardedPush_handled rest (by decide) (by decide)
  · split at rest <;> cases rest
    · exact .calm .send
    · exact .calm .refl

theorem icExpunge_handled (returned : icExpunge session world = .ok (after, result)) :
    Handled world session after := by
  refine guarded_handled returned fun check body => ?_
  split at body <;> cases body
  · exact .pushed .refl
      (fun _ => loggedIn_of_admits (.inr rfl) (checkStateAndArgs_passed check)) nofun
  · exact .calm .send

theorem uidHandler_handled {command : Bytes} {run : Session → Except Fault (Session × Int)}
    (found : uidHandler world command = some run) (returned : run session = .ok (after, result)) :
    Handled world session after := by
  unfold uidHandler at found
  repeat' split at found
  all_goals cases found
  all_goals first
    | exact guardedPush_handled returned (by decide) (by decide)
    | exact icThread_handled returned
    | exact icExpunge_handled returned

theorem icUid_handled (returned : icUid session world = .ok (after, result)) :
    Handled world session after := by
  unfold icUid at returned
  split at returned
  · cases returned
    exact .calm .send
  obtain ⟨first, -, returned⟩ := bind_eq_ok_iff.mp returned
  obtain ⟨next, -, returned⟩ := bind_eq_ok_iff.mp returned
  split at returned
  · split at returned
    · rename_i found
      have handled := uidHandler_handled found returned
      exact handled.of_calm (.of_same rfl) rfl rfl
    · cases returned
      exact .calm (.of_same rfl)
  · cases returned
    exact .calm .send

theorem icStarttls_handled (returned : icStarttls session conf accepted = .ok (after, result)) :
    Handled world session after := by
  refine guarded_handled returned fun _ body => ?_
  repeat' split at body
  all_goals cases body
  · exact .calm .send
  · exact .calm .send
  · exact .encrypted rfl rfl rfl rfl rfl rfl
  · exact .calm .send

theorem icIdle_handled (returned : icIdle session world = .ok (after, result)) :
    Handled world session after := by
  refine guarded_handled returned fun check body => ?_
  cases body
  have loggedIn := loggedIn_of_admits (.inl rfl) (checkStateAndArgs_passed check)
  obtain ⟨sent, loaded, isRefresh, kept⟩ := refresh_eq
    ({ session with commandState := .idle }.send [.continuation (lit "idling")]) world
  rw [isRefresh]
  exact .idle loggedIn rfl rfl (fun reloads => congrArg (Prod.mk _) (kept reloads)) rfl rfl

theorem authenticatePush_handled (fresh : session.state = .nonAuthenticated)
    (returned : authenticatePush session = .ok (after, result)) : Handled world session after := by
  unfold authenticatePush at returned
  split at returned <;> cases returned
  · exact .calm .send
  · next enabled => exact .pushed .refl nofun fun _ => ⟨fresh, eq_false_of_ne_true enabled⟩

theorem icAuthenticate_handled (returned : icAuthenticate session = .ok (after, result)) :
    Handled world session after := by
  have fresh {minargs maxargs : Nat}
      (check : checkStateAndArgs session minargs maxargs (some .nonAuthenticated) =
        .ok .passed) : session.state = .nonAuthenticated := by
    have admitted := checkStateAndArgs_passed check
    cases state : session.state <;> rw [state] at admitted <;> first | rfl | cases admitted
  unfold icAuthenticate at returned
  split at returned
  · refine guarded_handled returned fun check body => ?_
    obtain ⟨mechanism, -, body⟩ := bind_eq_ok_iff.mp body
    split at body
    · cases body
      exact .calm .send
    · have handled : Handled world _ after := authenticatePush_handled (by exact fresh check) body
      exact handled.of_calm (.of_same rfl) rfl rfl
  · exact guarded_handled returned fun check => authenticatePush_handled (fresh check)

theorem handler_handled {command : Command}
    (returned : handler conf world accepted session command = .ok (after, result)) :
    Handled world session after := by
  cases command with
  | logout =>
    refine guarded_handled returned fun _ body => ?_
    cases body
    exact .calm (.setState session rfl)
  | authenticate | login => exact icAuthenticate_handled returned
  | expunge => exact icExpunge_handled returned
  | uid => exact icUid_handled returned
  | thread => exact icThread_handled returned
  | idle => exact icIdle_handled returned
  | starttls => exact icStarttls_handled returned
  | _ => exact guardedPush_handled returned (by decide) (by decide)

/-! ## Input -/

/-- The session that `imap4` hands to a handler. -/
private theorem imap4_cases {ping : Bool}
    (returned : imap4 conf world ping accepted session = .ok (after, result)) :
    Calm session after ∨ ∃ middle, Calm session middle ∧ Handled world middle after := by
  unfold imap4 at returned
  split at returned
  · cases returned
    exact .inl .abort
  split at returned
  · cases returned
    exact .inl .refl
  simp only at returned
  split at returned
  · cases returned
    exact .inl ⟨rfl, rfl, rfl, rfl, rfl, .inl rfl, .inr (by simp)⟩
  split at returned
  · cases returned
    exact .inl ⟨rfl, rfl, rfl, rfl, rfl, .inl rfl, .inr (by simp [send])⟩
  · refine .inr ⟨_, ?_, handler_handled returned⟩
    exact ⟨rfl, rfl, rfl, rfl, rfl, .inl rfl, .inr (by simp [dispatched])⟩

def InputResult (world : World) (before after : Session) (trace : List TraceEvent) : Prop :=
  (Calm before after ∧ trace = []) ∨
    ∃ called left, Calm before called ∧ Calm left after ∧ trace = dispatchTrace called left ∧
      (Calm called left ∨ ∃ middle, Calm called middle ∧ Handled world middle left)

theorem InputResult.of_calm (result : InputResult world middle after trace) (calm : Calm before middle) :
    InputResult world before after trace := by
  rcases result with ⟨rest, unobserved⟩ | ⟨called, left, rest, observed⟩
  · exact .inl ⟨calm.trans rest, unobserved⟩
  · exact .inr ⟨called, left, calm.trans rest, observed⟩

theorem dispatchCommand_result (returned : dispatchCommand conf env before = .ok (after, trace)) :
    InputResult env.world before after trace := by
  obtain ⟨⟨left, result⟩, called, rest⟩ := bind_eq_ok_iff.mp returned
  refine .inr ⟨before, left, .refl, ?_⟩
  simp only at rest
  split at rest <;> cases rest
  · exact ⟨.exit, rfl, imap4_cases called⟩
  · exact ⟨.refl, rfl, imap4_cases called⟩

theorem inputLoop_result {inputs : List Bytes}
    (returned : inputLoop conf env before inputs = .ok (after, trace)) :
    InputResult env.world before after trace := by
  induction inputs generalizing before with
  | nil =>
    cases returned
    exact .inl ⟨.refl, rfl⟩
  | cons input rest ih =>
    unfold inputLoop inputLoopWith at returned
    split at returned
    · cases returned
      exact .inl ⟨Calm.send.trans .abort, rfl⟩
    split at returned
    · exact (ih returned).of_calm (Calm.send.trans .reset)
    split at returned
    · cases returned
    · exact (ih returned).of_calm
        (tokenizer_calm _ _ ‹_›).1
    · cases returned
      have calm := (tokenizer_calm _ _ ‹_›).1
      exact .inl ⟨calm.trans (Calm.send.trans .retry), rfl⟩
    · exact (dispatchCommand_result returned).of_calm
        (tokenizer_calm _ _ ‹_›).1

theorem handleInput_result {inputs : List Bytes}
    (returned : handleInput conf env before inputs = .ok (after, trace)) :
    InputResult env.world before after trace := by
  unfold handleInput handleInputWith at returned
  split at returned
  · cases returned
    exact .inl ⟨.refl, rfl⟩
  · split at returned
    · exact (inputLoop_result returned).of_calm .reset
    · exact inputLoop_result returned

/-! ## The invariant -/

structure Agrees (account : Option Nat) (session : Session) : Prop where
  alive : session.state ≠ .error
  anonymous : account = none → session.state.loggedIn = false ∧ session.commandState ≠ .idle ∧
    ∀ job, session.job = some job → gated job = false
  known : ∀ userid, account = some userid → session.userid = userid ∧
    session.state ≠ .nonAuthenticated ∧ session.job ≠ some .authenticate
  guarded : session.job = some .authenticate → session.loginDisabled = false

theorem Agrees.of_calm (agrees : Agrees account before) (calm : Calm before after) :
    Agrees account after where
  alive := calm.state_ne agrees.alive rfl
  anonymous := by
    intro nobody
    obtain ⟨loggedOut, notIdle, jobs⟩ := agrees.anonymous nobody
    refine ⟨?_, ?_, fun job pushed => jobs job (calm.job ▸ pushed)⟩
    · rcases calm.state with same | closing
      · rw [same]
        exact loggedOut
      · cases state : after.state <;> rw [state] at closing <;> first | rfl | cases closing
    · rcases calm.commandState with same | other
      · rw [same]
        exact notIdle
      · exact other
  known := by
    intro userid somebody
    obtain ⟨sameUser, loggedIn, job⟩ := agrees.known userid somebody
    exact ⟨calm.userid.trans sameUser, calm.state_ne loggedIn rfl, calm.job ▸ job⟩
  guarded := by
    intro pushed
    rw [calm.job] at pushed
    rw [calm.loginDisabled]
    exact agrees.guarded pushed

theorem Agrees.of_handled (agrees : Agrees account before) (handled : Handled world before after) :
    Agrees account after := by
  cases handled with
  | calm calm => exact agrees.of_calm calm
  | @pushed middle job calm allowed attempt =>
    have middleAgrees := agrees.of_calm calm
    unfold push
    split
    · exact middleAgrees
    refine ⟨middleAgrees.alive, fun nobody => ?_, fun userid somebody => ?_, fun isAttempt => ?_⟩
    · refine ⟨(middleAgrees.anonymous nobody).1, by simp, ?_⟩
      rintro _ ⟨⟩
      have loggedOut := (agrees.anonymous nobody).1
      cases isGated : gated job with
      | false => rfl
      | true =>
        rw [allowed isGated] at loggedOut
        cases loggedOut
    · obtain ⟨sameUser, loggedIn, -⟩ := middleAgrees.known userid somebody
      refine ⟨sameUser, loggedIn, ?_⟩
      rintro ⟨⟩
      exact (agrees.known userid somebody).2.1 (attempt rfl).1
    · cases isAttempt
      exact calm.loginDisabled.trans (attempt rfl).2
  | encrypted userid job mailbox state commandState active =>
    refine ⟨state ▸ agrees.alive, fun nobody => ?_, fun account somebody => ?_, fun _ => ?_⟩
    · obtain ⟨loggedOut, notIdle, jobs⟩ := agrees.anonymous nobody
      exact ⟨state ▸ loggedOut, commandState ▸ notIdle, job ▸ jobs⟩
    · obtain ⟨sameUser, loggedIn, noAttempt⟩ := agrees.known account somebody
      exact ⟨userid.trans sameUser, state ▸ loggedIn, job ▸ noAttempt⟩
    · simp [Session.loginDisabled, active]
  | idle loggedIn userid job mailbox state loginDisabled =>
    refine ⟨state ▸ agrees.alive, fun nobody => ?_, fun account somebody => ?_, fun pushed => ?_⟩
    · have loggedOut := (agrees.anonymous nobody).1
      rw [loggedIn] at loggedOut
      cases loggedOut
    · obtain ⟨sameUser, loggedIn, noAttempt⟩ := agrees.known account somebody
      exact ⟨userid.trans sameUser, state ▸ loggedIn, job ▸ noAttempt⟩
    · rw [loginDisabled]
      exact agrees.guarded (job ▸ pushed)

/-- The monitor accepts what a dispatch shows. -/
theorem observeAll_dispatchTrace (agrees : Agrees account after) :
    observeAll loginPolicy account (dispatchTrace before after) = some account := by
  unfold dispatchTrace pushTrace
  cases account with
  | none =>
    obtain ⟨-, notIdle, jobs⟩ := agrees.anonymous rfl
    have notIdling : after.idling = false := by
      simp [idling, notIdle]
    cases pushed : after.job with
    | none => simp [notIdling]
    | some job => simp [notIdling, jobs job pushed]
  | some userid =>
    obtain ⟨sameUser, -⟩ := agrees.known userid rfl
    split
    · split <;> split <;> simp [loginPolicy, sameUser]
    · split <;> simp [loginPolicy, sameUser]

theorem Agrees.of_input (agrees : Agrees account before) (result : InputResult world before after trace) :
    Agrees account after ∧ observeAll loginPolicy account trace = some account := by
  rcases result with ⟨calm, rfl⟩ | ⟨called, left, calm, rest, rfl, body⟩
  · exact ⟨agrees.of_calm calm, rfl⟩
  · have leftAgrees : Agrees account left := by
      rcases body with calmBody | ⟨middle, calmBody, handled⟩
      · exact (agrees.of_calm calm).of_calm calmBody
      · exact ((agrees.of_calm calm).of_calm calmBody).of_handled handled
    exact ⟨leftAgrees.of_calm rest, observeAll_dispatchTrace leftAgrees⟩

/-! ## Workers -/

instance : Unspoken Effects.moves := ⟨fun _ _ _ _ _ _ => rfl⟩

/-- A handler that is open to everybody moves the session to no other state. -/
theorem enter_moves_eq_nil {effects : Effects} (public_ : gated job = false)
    (returned : enter world session job = .ok (status, effects)) : effects.moves = [] := by
  have of_still {body : Worker Int} (still : Keeps Effects.moves body)
      (performed : Worker.perform session body = .ok (status, effects)) : effects.moves = [] := by
    have effectsEq := congrArg Prod.snd (Except.ok.inj performed)
    rw [← show _ = effects from effectsEq]
    exact still _
  cases job with
  | capability | id => exact of_still (.bind (say_keeps _) fun _ => finish_keeps session) returned
  | noop =>
    refine of_still (.ite ?_ (finish_keeps session)) returned
    exact .bind (sessionMailboxStatus_keeps world fun _ => rfl) fun _ => finish_keeps session
  | logout | authenticate | login | starttls => exact of_still (.pure 0) returned
  | _ => cases public_

theorem setState_userid (session : Session) (state : ClientState) :
    (session.setState state).userid = session.userid := by
  unfold setState
  split <;> rfl

/-- A change of state leads to the new state, or changes nothing because the
connection is already closed. -/
theorem setState_state (session : Session) (state : ClientState) :
    (session.setState state).state = state ∨ (session.setState state).state = .quitQueued := by
  unfold setState
  split
  · exact .inr ‹_›
  · exact .inl rfl

/-- State changes of workers keep the account, and put no session before login
or into the error state. -/
theorem applyMoves_known (moves : List Move) (session : Session) :
    (session.applyMoves moves).userid = session.userid ∧
      ∀ state, state = .nonAuthenticated ∨ state = .error → session.state ≠ state →
        (session.applyMoves moves).state ≠ state := by
  induction moves generalizing session with
  | nil => exact ⟨rfl, fun _ _ => id⟩
  | cons move rest ih =>
    obtain ⟨sameUser, stays⟩ := ih (session.setState move.target)
    refine ⟨sameUser.trans (setState_userid session _), fun state known _ => ?_⟩
    refine stays state known ?_
    rcases setState_state session move.target with moved | closed
    · rw [moved]
      rcases known with rfl | rfl <;> cases move <;> simp [Move.target]
    · rw [closed]
      rcases known with rfl | rfl <;> simp

theorem Agrees.of_leave (status : Int) (clientError : Bool) (alive : session.state ≠ .error)
    (anonymous : account = none → session.state.loggedIn = false)
    (known : ∀ userid, account = some userid →
        session.userid = userid ∧ session.state ≠ .nonAuthenticated) :
    Agrees account (session.leave status clientError) := by
  have returned : Agrees account { session with job := none, commandState := .done } :=
    ⟨alive, fun nobody => ⟨anonymous nobody, by simp, nofun⟩,
      fun userid somebody => ⟨(known userid somebody).1, (known userid somebody).2, nofun⟩, nofun⟩
  unfold leave
  split
  · exact returned.of_calm .abort
  · exact returned.of_calm .exit

/-- An attempt changes account and state only by succeeding. -/
theorem settle_cases (env : AuthEnv) (session : Session) (attempt : Attempt) :
    (attempt.verdict = 1 ∧ settle env session attempt =
        ({ session with userid := attempt.userid }.setState .authenticated, 0)) ∨
      (attempt.verdict ≠ 1 ∧ (settle env session attempt).1.state = session.state ∧
        (settle env session attempt).1.commandType = session.commandType ∧
        ((settle env session attempt).2 = -1 ∨ (settle env session attempt).2 = 1)) := by
  unfold settle
  split
  · exact .inr ⟨by simp_all, rfl, rfl, .inl rfl⟩
  split
  · refine .inr ⟨by simp_all, ?_⟩
    unfold afterRejection
    split
    · exact ⟨rfl, rfl, .inr rfl⟩
    · simp only
      generalize (if attempt.userid = 0 then _ else _ : Fetch Bytes) = enctype
      split <;> exact ⟨rfl, rfl, .inr trivial⟩
  split
  · exact .inl ⟨‹_›, rfl⟩
  · exact .inr ⟨‹_›, rfl, rfl, .inl rfl⟩

theorem handleAuth_cases {env : AuthEnv} {username password : Option Bytes} {attempt : Attempt}
    (returned : handleAuth env session username password = .ok (after, status, attempt)) :
    attempt.exposed = session.loginDisabled ∧ after = (settle env session attempt).1 := by
  obtain ⟨auth, -, returned⟩ := bind_eq_ok_iff.mp returned
  obtain ⟨name, -, returned⟩ := bind_eq_ok_iff.mp returned
  obtain ⟨result, -, returned⟩ := bind_eq_ok_iff.mp returned
  cases returned
  exact ⟨rfl, rfl⟩

theorem authenticateEnter_cases {env : AuthEnv} {attempt : Attempt}
    (returned : authenticateEnter env session = .ok (after, status, attempt)) :
    attempt.exposed = session.loginDisabled ∧
      ((attempt.verdict = 1 ∧ after.userid = attempt.userid ∧
          (after.state = .authenticated ∨ after.state = .quitQueued)) ∨
        (attempt.verdict ≠ 1 ∧ after.state = session.state)) := by
  obtain ⟨credentials, -, returned⟩ := bind_eq_ok_iff.mp returned
  obtain ⟨⟨middle, code, made⟩, handled, returned⟩ := bind_eq_ok_iff.mp returned
  obtain ⟨exposed, rfl⟩ := handleAuth_cases handled
  have sameSession : after.userid = (settle env session made).1.userid ∧
      after.state = (settle env session made).1.state ∧ attempt = made := by
    simp only at returned
    split at returned <;> cases returned <;> exact ⟨rfl, rfl, rfl⟩
  obtain ⟨sameUser, sameState, rfl⟩ := sameSession
  refine ⟨exposed, ?_⟩
  rw [sameUser, sameState]
  rcases settle_cases env session attempt with ⟨success, settled⟩ | ⟨failed, same, -⟩
  · rw [settled]
    exact .inl ⟨success, setState_userid _ _, setState_state _ _⟩
  · exact .inr ⟨failed, same⟩

/-! ## Runs -/

def Observed (connection : Connection) : Prop :=
  ∃ account, observeAll loginPolicy none connection.trace = some account ∧
    Agrees account connection.session

theorem Observed.extend (next : Option Nat)
    (observed : observeAll loginPolicy none connection.trace = some account)
    (taken : observeAll loginPolicy account trace = some next) (agrees : Agrees next session) :
    Observed ⟨session, connection.trace ++ trace⟩ :=
  ⟨next, by rw [observeAll_append, observed, Option.bind_some, taken], agrees⟩

theorem Observed.calm (observed : Observed connection) (calm : Calm connection.session session) :
    Observed { connection with session := session } := by
  obtain ⟨account, accepted, agrees⟩ := observed
  exact ⟨account, accepted, agrees.of_calm calm⟩

theorem Observed.complete {after : Connection} {env : AuthEnv} {clientError : Bool}
    (observed : Observed connection) (pushed : connection.session.job = some job)
    (returned : completeJob env world clientError connection job = .ok after) : Observed after := by
  obtain ⟨account, accepted, agrees⟩ := observed
  unfold completeJob at returned
  split at returned
  · rename_i isAttempt
    subst isAttempt
    obtain ⟨⟨session, status, attempt⟩, made, returned⟩ := bind_eq_ok_iff.mp returned
    cases returned
    obtain ⟨exposed, outcome⟩ := authenticateEnter_cases made
    -- a pending attempt means that nobody is logged in
    have nobody : account = none := by
      cases account with
      | none => rfl
      | some userid => exact absurd pushed (agrees.known userid rfl).2.2
    subst nobody
    rw [agrees.guarded pushed] at exposed
    rcases outcome with ⟨success, sameUser, loggedIn⟩ | ⟨failure, sameState⟩
    · have moved : session.state ≠ .error ∧ session.state ≠ .nonAuthenticated := by
        rcases loggedIn with reached | closed
        · simp [reached]
        · simp [closed]
      refine Observed.extend (some attempt.userid) accepted ?_
        (.of_leave _ _ moved.1 nofun ?_)
      · simp [loginPolicy, exposed, success]
      · rintro _ ⟨⟩
        exact ⟨sameUser, moved.2⟩
    · refine Observed.extend none accepted ?_
        (.of_leave _ _ (sameState ▸ agrees.alive) (fun _ => ?_) nofun)
      · simp [loginPolicy, exposed, failure]
      · rw [sameState]
        exact (agrees.anonymous rfl).1
  · obtain ⟨⟨status, effects⟩, entered, returned⟩ := bind_eq_ok_iff.mp returned
    cases returned
    have moves := applyMoves_known effects.moves connection.session
    refine Observed.extend account accepted ?_
      (.of_leave _ _ (moves.2 _ (.inr rfl) agrees.alive) ?_ ?_)
    · cases account with
      | none =>
        obtain ⟨loggedOut, -, jobs⟩ := agrees.anonymous rfl
        have notSelected : connection.session.state ≠ .selected := by
          intro selected
          rw [selected] at loggedOut
          cases loggedOut
        simp [jobs job pushed, notSelected]
      | some userid =>
        have sameUser := (agrees.known userid rfl).1
        split <;> simp [loginPolicy, sameUser]
    · rintro rfl
      obtain ⟨loggedOut, -, jobs⟩ := agrees.anonymous rfl
      have still := enter_moves_eq_nil (jobs job pushed) entered
      simpa [applyEffects, still, applyMoves, send] using loggedOut
    · rintro userid rfl
      obtain ⟨sameUser, loggedIn, -⟩ := agrees.known userid rfl
      exact ⟨moves.1.trans sameUser, moves.2 _ (.inl rfl) loggedIn⟩

/-- Every step keeps the connection within the policy. -/
theorem observed_step (connection : Connection) (event : Event) (after : Connection)
    (observed : Observed connection) (stepped : step conf connection event = .ok after) :
    Observed after := by
  cases event with
  | input env inputs =>
    obtain ⟨account, accepted, agrees⟩ := observed
    obtain ⟨⟨session, trace⟩, handled, stepped⟩ := bind_eq_ok_iff.mp stepped
    cases stepped
    obtain ⟨kept, taken⟩ := agrees.of_input (handleInput_result handled)
    exact .extend _ accepted taken kept
  | complete env world clientError =>
    simp only [step, stepWith] at stepped
    split at stepped
    · exact observed.complete ‹_› stepped
    · cases stepped
      exact observed
  | timeout world =>
    obtain ⟨account, accepted, agrees⟩ := observed
    cases stepped
    obtain ⟨loaded, calm, -⟩ := Calm.timeout connection.session world
    have unloaded : Agrees account { connection.session with loaded := loaded } :=
      ⟨agrees.alive, agrees.anonymous, agrees.known, agrees.guarded⟩
    refine .extend _ accepted ?_ (unloaded.of_calm calm)
    cases account with
    | none =>
      have notIdle := (agrees.anonymous rfl).2.1
      simp [idling, notIdle]
    | some userid =>
      have sameUser := (agrees.known userid rfl).1
      split <;> simp [loginPolicy, sameUser]
  | clientError =>
    cases stepped
    exact observed.calm .bailout
  | clientEof =>
    cases stepped
    exact observed.calm (.of_same rfl)
  | writeError =>
    cases stepped
    exact observed.calm .abort

theorem observed_start (conf : ServerConf) (sslState : Bool) : Observed (start conf sslState) := by
  unfold Observed start handleConnection
  split
  all_goals
    exact ⟨none, rfl, by simp [sessionNew, sessionEncrypted],
      fun _ => ⟨rfl, by simp [sessionNew, sessionEncrypted], nofun⟩, nofun, nofun⟩

/-- Every run of a connection is confined: before a successful attempt no
handler of mailboxes passes its check or runs, afterwards all of them run for
the account of that attempt, no further attempt is made, and no attempt is made
while login is disabled. -/
theorem connection_confined (conf : ServerConf) (sslState : Bool) (events : List Event)
    (connection : Connection)
    (ran : run (step conf) (start conf sslState) events = .ok connection) :
    Confined connection.trace := by
  obtain ⟨account, observed, -⟩ :=
    run_invariant Observed observed_step (observed_start conf sslState) ran
  exact .of_observed observed

def activeEnv : AuthEnv where
  digests := testDigests
  sockScore := fun _ _ => 0
  db := {
    users := {
      rows := [⟨7, lit "mrose", lit "tanstaaf", [], [], 1⟩]
      primaryKey := by decide
      keyRange := by decide }
    usermap := none }
  faults := .healthy
  peer := ⟨1, lit "192.0.2.1", lit "143"⟩

def plainConf : ServerConf := ⟨lit "IMAP4rev1 AUTH=PLAIN AUTH=CRAM-MD5", false, true, false, false, 0⟩

def plainInput : InputEnv := ⟨⟨id, id, lit "<1@localhost>"⟩, openWorld, true, false⟩

def loginRun : List Event :=
  [.input plainInput [lit "a LOGIN mrose tanstaaf\r\n"], .complete activeEnv openWorld false,
    .input plainInput [lit "b SELECT INBOX\r\n"], .complete activeEnv openWorld false]

theorem connection_confined_loginRun :
    ∃ connection, run (step plainConf) (start plainConf false) loginRun = .ok connection ∧
      connection.trace =
        [.attempt ⟨none, some (lit "mrose"), some (lit "tanstaaf"), 1, 7, false⟩,
          .passed .select 7, .ran .select 7] ∧ Confined connection.trace := by
  have traced : Connection.trace <$> run (step plainConf) (start plainConf false) loginRun =
      .ok [.attempt ⟨none, some (lit "mrose"), some (lit "tanstaaf"), 1, 7, false⟩,
        .passed .select 7, .ran .select 7] := by
    decide +kernel
  obtain ⟨connection, ran, sees⟩ := map_eq_ok_iff.mp traced
  exact ⟨connection, ran, sees, connection_confined plainConf false loginRun connection ran⟩

end Dbmail.Imap
