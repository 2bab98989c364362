import Dbmail.Client.Base
import Dbmail.Lib.Run

/-!
Contract: a line-oriented server over the client's read buffer, up to and past
the switch to TLS.

Owns the input loop that the servers share (take a line or a literal, hand it to
the command parser, read on or return), the callbacks that enter it, the log of
what was handed to a parser, and the proof that no octet from before the switch
is in a command after it when nothing is left unread at the switch.

Does not own: what a server does with a line.
-/

namespace Dbmail.Client

open Dbmail.Lib List Bool

/-! ## Servers -/

structure Fed (σ : Type) where
  state : σ
  /-- `ci_starttls` was called. -/
  starttls : Bool
  /-- The input loop reads on. -/
  again : Bool

/-- A server by what its input loop needs of it: `σ` are the states of a
session, `ε` what a call of the loop meets outside it, and `ω` the events other
than input. -/
structure CommandServer (σ ε ω : Type) where
  /-- The session is gone, or waits to be cleaned up. -/
  closed : σ → Bool
  bailout : σ → σ
  /-- The part of `handle_input` before its loop, which may return at once. -/
  enter : ε → σ → Option σ
  /-- `rbuff_size`. -/
  need : σ → Nat
  /-- A pending literal is taken with `ci_read`. -/
  literals : Bool
  /-- The body of the loop. It is told whether TLS is active. -/
  feed : ε → Handshake → Bool → σ → Bytes → Except Fault (Fed σ)
  /-- Another event, and whether it goes on to handle input. -/
  wake : ω → σ → Except Fault (σ × Bool)
  /-- No part of a command is held by the parser. -/
  blank : σ → Bool
  feed_blank : ∀ env handshake active state text fed,
    feed env handshake active state text = .ok fed → fed.starttls = true →
      handshake.succeeds = true → blank fed.state = true

/-! ## Connections -/

/-- What is observed: a text that a parser was given, with whether TLS was
active, and a switch to TLS, with whether the parser was blank after it. -/
inductive Entry where
  | tokenised (octets : List Octet) (active : Bool)
  | upgraded (blank : Bool)
deriving DecidableEq

/-- Under TLS a parser is given octets that came through TLS only, and a switch
leaves no half-read command. -/
def Entry.sound : Entry → Bool
  | .tokenised octets active => !active || octets.all (·.secure)
  | .upgraded blank => blank

structure Connection (σ : Type) where
  state : σ
  client : ClientBase
  log : List Entry

def NoCrossing {σ : Type} (connection : Connection σ) : Prop :=
  ∀ entry ∈ connection.log, entry.sound = true

section Server

variable {σ ε ω : Type} (server : CommandServer σ ε ω)

variable (connection : Connection σ)

def readText : ClientBase × List Octet :=
  if server.literals && server.need connection.state ≠ 0 then
    ciRead connection.client (server.need connection.state)
  else ciReadln connection.client

/-- The connection after a text was handed to the parser; `client` is the
client after the text was taken. -/
def Connection.fed (client : ClientBase) (octets : List Octet)
    (handshake : Handshake) (result : Fed σ) : Connection σ :=
  let entry := Entry.tokenised octets client.sslState
  if result.starttls then
    ⟨result.state, (ciStarttls client handshake).1, connection.log ++ entry ::
      if (ciStarttls client handshake).2 = 0 then [.upgraded (server.blank result.state)] else []⟩
  else ⟨result.state, client, connection.log ++ [entry]⟩

/-- The loop of `handle_input`. -/
def inputLoop (env : ε) (handshake : Handshake) : Nat → Connection σ → Except Fault (Connection σ)
  | 0, connection => .ok connection
  | fuel + 1, connection =>
    if (readText server connection).2 = [] then
      .ok { connection with client := (readText server connection).1 }
    else
      match server.feed env handshake (readText server connection).1.sslState connection.state
        ((readText server connection).2.map Octet.byte) with
      | .error fault => .error fault
      | .ok result =>
        let next := connection.fed server (readText server connection).1
          (readText server connection).2 handshake result
        if result.again then inputLoop env handshake fuel next else .ok next

def handleInput (env : ε) (handshake : Handshake) (connection : Connection σ) :
    Except Fault (Connection σ) :=
  match server.enter env connection.state with
  | none => .ok connection
  | some state =>
    inputLoop server env handshake (connection.client.budget + 1) { connection with state := state }

/-- What can happen to a connection: the socket is readable, the server is
called for something else, or a write fails. -/
inductive Event (ε ω : Type) where
  | readable (env : ε) (handshake : Handshake) (chunks : List Bytes) (ending : ReadEnd)
  | wake (env : ε) (handshake : Handshake) (cause : ω)
  | writeError

def enough : Bool :=
  if 0 < server.need connection.state then
    server.need connection.state ≤ connection.client.text.length
  else 0 < connection.client.text.length

/-- `imap_cb_read` and `client_session_read`, after the reads: the session is
given up, or input is handled, or there is none. -/
def onRead (env : ε) (handshake : Handshake) (connection : Connection σ) :
    Connection σ × Option (ε × Handshake) :=
  if connection.client.failed || (connection.client.eof && !enough server connection) then
    ({ connection with state := server.bailout connection.state }, none)
  else
    (connection,
      if connection.client.eof || 0 < connection.client.text.length then some (env, handshake)
      else none)

/-- A callback up to its call of `handle_input`, if it makes one. -/
def arrive (event : Event ε ω) : Except Fault (Connection σ × Option (ε × Handshake)) :=
  if server.closed connection.state then .ok (connection, none)
  else match event with
    | .readable env handshake chunks ending =>
      .ok (onRead server env handshake
        { connection with client := ciReadCb connection.client chunks ending })
    | .wake env handshake cause =>
      match server.wake cause connection.state with
      | .error fault => .error fault
      | .ok (state, handles) =>
        .ok ({ connection with state := state }, if handles then some (env, handshake) else none)
    | .writeError =>
      .ok ({ connection with client := { connection.client.rbufClear with failed := true } }, none)

def step (event : Event ε ω) : Except Fault (Connection σ) :=
  match arrive server connection event with
  | .error fault => .error fault
  | .ok (connection, none) => .ok connection
  | .ok (connection, some (env, handshake)) => handleInput server env handshake connection

/-! ## Switches with nothing behind them -/

/-- Nothing can be read behind a text that switches to TLS, at every turn of the
loop. -/
def cleanLoop (env : ε) (handshake : Handshake) : Nat → Connection σ → Bool
  | 0, _ => true
  | fuel + 1, connection =>
    if (readText server connection).2 = [] then true
    else
      match server.feed env handshake (readText server connection).1.sslState connection.state
        ((readText server connection).2.map Octet.byte) with
      | .error _ => true
      | .ok result =>
        (!(result.starttls && handshake.succeeds) ||
          (readText server connection).1.unread = []) &&
        (!result.again ||
          cleanLoop env handshake fuel (connection.fed server (readText server connection).1
            (readText server connection).2 handshake result))

def cleanInput (env : ε) (handshake : Handshake) (connection : Connection σ) : Bool :=
  match server.enter env connection.state with
  | none => true
  | some state =>
    cleanLoop server env handshake (connection.client.budget + 1) { connection with state := state }

def cleanEvent (event : Event ε ω) : Bool :=
  match arrive server connection event with
  | .ok (connection, some (env, handshake)) => cleanInput server env handshake connection
  | _ => true

/-! ## What a step keeps -/

/-- Under TLS all that can be read came through TLS, and the log is sound. -/
structure Sealed (connection : Connection σ) : Prop where
  consistent : connection.client.sslState = connection.client.ssl
  unread : connection.client.ssl = true → ∀ octet ∈ connection.client.unread, octet.secure = true
  log : NoCrossing connection

variable {server}

theorem Sealed.withState {connection : Connection σ} (sealed : Sealed connection) (state : σ) :
    Sealed { connection with state := state } :=
  { sealed with }

variable (server) in
theorem taken_readText :
    Taken connection.client (readText server connection).1 (readText server connection).2 := by
  unfold readText
  split
  · exact taken_ciRead _ _
  · exact taken_ciReadln _

section Sealed

variable {connection after : Connection σ} {client : ClientBase} {octets : List Octet} {env : ε}
  {handshake : Handshake} {event : Event ε ω} (sealed : Sealed connection)

include sealed

theorem Sealed.tokenised_sound (taken : Taken connection.client client octets) :
    (Entry.tokenised octets client.sslState).sound = true := by
  rw [Entry.sound, taken.sslState_eq]
  cases active : connection.client.sslState with
  | false => rfl
  | true =>
    rw [Bool.not_true, Bool.false_or, all_eq_true]
    intro octet member
    apply sealed.unread (sealed.consistent.symm.trans active)
    exact taken.octets_unread octet member

theorem Sealed.fed (taken : Taken connection.client client octets)
    {active : Bool} {state : σ} {text : Bytes} {result : Fed σ}
    (returned : server.feed env handshake active state text = .ok result)
    (clean : result.starttls = true → handshake.succeeds = true → client.unread = []) :
    Sealed (connection.fed server client octets handshake result) := by
  have consistent : client.sslState = client.ssl := by
    rw [taken.sslState_eq, taken.ssl_eq, sealed.consistent]
  have unread : client.ssl = true → ∀ octet ∈ client.unread, octet.secure = true := by
    intro ssl octet member
    apply sealed.unread (taken.ssl_eq ▸ ssl)
    exact taken.rest_unread octet member
  have sound := sealed.tokenised_sound taken
  unfold Connection.fed
  split
  · next called =>
    refine ⟨ciStarttls_consistent consistent, ?_, ?_⟩
    · intro ssl octet member
      have before := unread_ciStarttls client handshake member
      cases plain : client.ssl with
      | true => exact unread plain octet before
      | false =>
        -- the switch happens here, and nothing was left to read
        rw [clean called (ciStarttls_succeeds plain ssl)] at before
        cases before
    · intro entry member
      simp only [mem_append, mem_cons] at member
      obtain old | rfl | upgrade := member
      · exact sealed.log entry old
      · exact sound
      · split at upgrade
        · next zero =>
          rw [mem_singleton] at upgrade
          subst upgrade
          exact server.feed_blank _ _ _ _ _ _ returned called (ciStarttls_zero consistent zero)
        · cases upgrade
  · refine ⟨consistent, unread, ?_⟩
    intro entry member
    simp only [mem_append, mem_singleton] at member
    obtain old | rfl := member
    · exact sealed.log entry old
    · exact sound

theorem Sealed.inputLoop {fuel : Nat}
    (clean : cleanLoop server env handshake fuel connection = true)
    (returned : inputLoop server env handshake fuel connection = .ok after) : Sealed after := by
  induction fuel generalizing connection with
  | zero =>
    cases returned
    exact sealed
  | succ fuel ih =>
    have taken := taken_readText server connection
    rw [Client.inputLoop] at returned
    rw [cleanLoop] at clean
    split at returned
    · next nothing =>
      cases returned
      refine ⟨?_, ?_, sealed.log⟩
      · exact taken.sslState_eq.trans (sealed.consistent.trans taken.ssl_eq.symm)
      · intro ssl octet member
        apply sealed.unread (taken.ssl_eq.symm.trans ssl)
        exact taken.rest_unread octet member
    · next something =>
      rw [if_neg something] at clean
      cases fed : server.feed env handshake (readText server connection).1.sslState
          connection.state ((readText server connection).2.map Octet.byte) with
      | error fault => simp [fed] at returned
      | ok result =>
        simp only [fed, and_eq_true, or_eq_true, decide_eq_true_eq] at returned clean
        have next := sealed.fed taken fed fun called succeeds =>
          clean.1.resolve_left (by simp [called, succeeds])
        split at returned
        · next again =>
          apply ih next _ returned
          exact clean.2.resolve_left (by simp [again])
        · cases returned
          exact next

theorem Sealed.handleInput (clean : cleanInput server env handshake connection = true)
    (returned : handleInput server env handshake connection = .ok after) : Sealed after := by
  unfold Client.handleInput at returned
  unfold cleanInput at clean
  cases entered : server.enter env connection.state with
  | none =>
    simp only [entered, Except.ok.injEq] at returned
    exact returned ▸ sealed
  | some state =>
    simp only [entered] at returned clean
    exact (sealed.withState state).inputLoop clean returned

theorem Sealed.arrive {call : Option (ε × Handshake)}
    (returned : arrive server connection event = .ok (after, call)) : Sealed after := by
  unfold Client.arrive at returned
  split at returned
  · cases returned
    exact sealed
  · cases event with
    | readable env handshake chunks ending =>
      obtain ⟨ssl, sslState, unread⟩ := unread_ciReadCb connection.client chunks ending
      have read : Sealed { connection with client := ciReadCb connection.client chunks ending } := by
        refine ⟨?_, ?_, sealed.log⟩
        · exact sslState.trans (sealed.consistent.trans ssl.symm)
        · intro secured octet member
          have secured : connection.client.ssl = true := ssl.symm.trans secured
          obtain old | new := unread octet member
          · exact sealed.unread secured octet old
          · exact new.trans secured
      simp only [onRead] at returned
      split at returned
      · cases returned
        exact read.withState _
      · cases returned
        exact read
    | wake env handshake cause =>
      cases woken : server.wake cause connection.state with
      | error fault => simp [woken] at returned
      | ok result =>
        simp only [woken] at returned
        cases returned
        exact sealed.withState _
    | writeError =>
      cases returned
      refine ⟨?_, ?_, sealed.log⟩
      · simpa using sealed.consistent
      · intro ssl octet member
        exact sealed.unread (by simpa using ssl) octet (unread_rbufClear _ member)

theorem Sealed.step (clean : cleanEvent server connection event = true)
    (returned : step server connection event = .ok after) : Sealed after := by
  unfold Client.step at returned
  unfold cleanEvent at clean
  split at returned
  · cases returned
  · next arrived =>
    cases returned
    exact sealed.arrive arrived
  · next arrived =>
    simp only [arrived] at clean
    exact (sealed.arrive arrived).handleInput clean returned

end Sealed

/-! ## The bound on the loop -/

theorem budget_readText (taken : (readText server connection).2 ≠ []) :
    (readText server connection).1.budget < connection.client.budget := by
  unfold readText at taken ⊢
  split at taken
  · next literal =>
    rw [if_pos literal]
    exact budget_ciRead _ taken
  · next line =>
    rw [if_neg line]
    exact budget_ciReadln _ taken

variable (server) in
theorem budget_fed (client : ClientBase) (octets : List Octet)
    (handshake : Handshake) (result : Fed σ) :
    (connection.fed server client octets handshake result).client.budget ≤ client.budget := by
  unfold Connection.fed
  split
  · exact budget_ciStarttls client handshake
  · exact le_rfl

theorem inputLoop_settled (env : ε) (handshake : Handshake) {fuel : Nat}
    (connection : Connection σ) (bounded : connection.client.budget < fuel) :
    inputLoop server env handshake fuel connection =
      inputLoop server env handshake (fuel + 1) connection := by
  induction fuel generalizing connection with
  | zero => omega
  | succ fuel ih =>
    rw [inputLoop, inputLoop]
    split
    · rfl
    · next taken =>
      have shorter := budget_readText connection taken
      split
      · rfl
      · next result _ =>
        have fed := budget_fed server connection (readText server connection).1
          (readText server connection).2 handshake result
        split
        · apply ih
          omega
        · rfl

/-- The loop of `handle_input` ends by itself: more turns change nothing. -/
theorem inputLoop_ends (env : ε) (handshake : Handshake) (extra : Nat) :
    inputLoop server env handshake (connection.client.budget + 1) connection =
      inputLoop server env handshake (connection.client.budget + 1 + extra) connection := by
  induction extra with
  | zero => rfl
  | succ extra ih =>
    rw [ih]
    exact inputLoop_settled env handshake connection (Nat.le_add_right _ _)

end Server

end Dbmail.Client
