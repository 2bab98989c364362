import Mathlib.Data.List.Basic

/-!
Contract: machines that take tokens from the front of a stream.

Owns how a stream is cut into tokens, the consumption of a stream by a machine
that may stop, and that the way in which the stream arrives in pieces is of no
consequence.

Does not own: any particular token.
-/

namespace Dbmail.Lib

open List

/-- How a stream is cut: its first token and what is behind it. More input does not
change a token that is there. -/
structure Cutter (α : Type) where
  next : List α → Option (List α × List α)
  whole : ∀ {stream token rest}, next stream = some (token, rest) → stream = token ++ rest
  nonempty : ∀ {stream token rest}, next stream = some (token, rest) → token ≠ []
  stable : ∀ {stream token rest} (more : List α), next stream = some (token, rest) →
    next (stream ++ more) = some (token, rest ++ more)

theorem Cutter.shorter {α : Type} (cut : Cutter α) {stream token rest : List α}
    (found : cut.next stream = some (token, rest)) : rest.length < stream.length := by
  have positive := length_pos_iff.mpr (cut.nonempty found)
  rw [cut.whole found, length_append]
  omega

section Consume

variable {α σ : Type} (cut : Cutter α) (stopped : σ → Bool) (feed : σ → List α → σ)

/-- Take tokens from a stream until none is left or the machine stops. -/
def consume (state : σ) (stream : List α) : σ × List α :=
  if stopped state then (state, stream)
  else
    match found : cut.next stream with
    | none => (state, stream)
    | some (token, rest) =>
      have := cut.shorter found
      consume (feed state token) rest
termination_by stream.length

/-- A piece of input is put behind what is left, and tokens are taken again. -/
def receive (held : σ × List α) (piece : List α) : σ × List α :=
  consume cut stopped feed held.1 (held.2 ++ piece)

variable {stopped}

theorem consume_of_stopped {state : σ} (stops : stopped state = true) (stream : List α) :
    consume cut stopped feed state stream = (state, stream) := by
  rw [consume, if_pos stops]

theorem consume_of_none {state : σ} {stream : List α} (nothing : cut.next stream = none) :
    consume cut stopped feed state stream = (state, stream) := by
  rw [consume]
  split
  · rfl
  · split
    · rfl
    · rename_i found
      rw [nothing] at found
      cases found

theorem consume_of_some {state : σ} {stream token rest : List α} (going : stopped state = false)
    (found : cut.next stream = some (token, rest)) :
    consume cut stopped feed state stream = consume cut stopped feed (feed state token) rest := by
  rw [consume, if_neg (by simp [going])]
  split
  · rename_i nothing
    rw [nothing] at found
    cases found
  · rename_i other found'
    rw [found] at found'
    cases found'
    rfl

/-- Input may come later: what is taken from the first part does not depend on it. -/
theorem consume_append (state : σ) (front more : List α) :
    consume cut stopped feed state (front ++ more) =
      consume cut stopped feed (consume cut stopped feed state front).1
        ((consume cut stopped feed state front).2 ++ more) := by
  induction state, front using consume.induct cut stopped feed with
  | case1 state stream stops =>
    rw [consume_of_stopped cut feed stops stream]
  | case2 state stream going nothing =>
    rw [consume_of_none cut feed nothing]
  | case3 state stream going token rest found shorter ih =>
    have isGoing : stopped state = false := by simpa using going
    rw [consume_of_some cut feed isGoing found,
      consume_of_some cut feed isGoing (cut.stable more found), ih]

theorem consume_settled (state : σ) (stream : List α) :
    consume cut stopped feed (consume cut stopped feed state stream).1
      (consume cut stopped feed state stream).2 = consume cut stopped feed state stream := by
  have again := @consume_append α σ cut stopped feed state stream []
  rw [append_nil, append_nil] at again
  exact again.symm

/-- Tokens that stand one after the other are taken one after the other, if the machine
has not stopped behind them. -/
theorem consume_tokens (absorbing : ∀ state token, stopped state = true →
      stopped (feed state token) = true) {state : σ} {tokens : List (List α)} (rest : List α)
    (cuts : ∀ token ∈ tokens, ∀ behind, cut.next (token ++ behind) = some (token, behind))
    (going : stopped (tokens.foldl feed state) = false) :
    consume cut stopped feed state (tokens.flatten ++ rest) =
      consume cut stopped feed (tokens.foldl feed state) rest := by
  induction tokens generalizing state with
  | nil => rfl
  | cons token others ih =>
    have stays : ∀ (tokens : List (List α)) (state : σ), stopped state = true →
        stopped (tokens.foldl feed state) = true := by
      intro tokens
      induction tokens with
      | nil => exact fun _ stops => stops
      | cons token others later =>
        exact fun state stops => later (feed state token) (absorbing state token stops)
    have started : stopped state = false := by
      by_contra stops
      rw [Bool.not_eq_false] at stops
      rw [stays _ state stops] at going
      cases going
    rw [flatten_cons, append_assoc, consume_of_some cut feed started (cuts token mem_cons_self _)]
    exact ih (fun other member => cuts other (mem_cons_of_mem _ member))
      going

/-- Whatever the pieces, the machine ends as with the whole stream at once. -/
theorem foldl_receive (held : σ × List α) (pieces : List (List α))
    (settled : consume cut stopped feed held.1 held.2 = held) :
    pieces.foldl (receive cut stopped feed) held =
      consume cut stopped feed held.1 (held.2 ++ pieces.flatten) := by
  induction pieces generalizing held with
  | nil =>
    rw [flatten_nil, append_nil, settled]
    rfl
  | cons piece others ih =>
    rw [foldl_cons, ih]
    · rw [receive, flatten_cons, ← append_assoc, consume_append cut feed held.1 (held.2 ++ piece)]
    · exact consume_settled cut feed held.1 (held.2 ++ piece)

end Consume

end Dbmail.Lib
