import Dbmail.Client.Upgrade
import Dbmail.Lib.Stream

/-!
Contract: a server that reads nothing but lines, over the read buffer.

Owns the cut of a byte stream into the lines that `ci_readln` returns, what a read
and the input loop do to the unread bytes, which lines successive calls deliver as a
stream arrives, and that a server of lines ends up in the same state whatever the
network reads are.

Does not own: what a server does with a line.
-/

namespace Dbmail.Client

open Dbmail.Lib List

/-! ## Lines of a stream -/

/-- The first line of a stream, with its line feed. A NUL in front of it hides it. -/
def firstLine : Bytes → Option Bytes
  | [] => none
  | byte :: rest =>
    if byte = 0 then none
    else if byte = 10 then some [byte]
    else (firstLine rest).map (byte :: ·)

theorem firstLine_bytes (octets : List Octet) :
    firstLine (octets.map Octet.byte) = (lineOf octets).map (List.map Octet.byte) := by
  induction octets with
  | nil => rfl
  | cons octet rest ih =>
    rw [map_cons, firstLine, lineOf, ih]
    split
    · rfl
    · split
      · rfl
      · simp [Function.comp_def]

theorem firstLine_isPrefix {stream line : Bytes} (found : firstLine stream = some line) :
    line <+: stream := by
  induction stream generalizing line with
  | nil => cases found
  | cons byte rest ih =>
    rw [firstLine] at found
    split at found
    · cases found
    split at found
    · cases found
      exact ⟨rest, rfl⟩
    · obtain ⟨shorter, foundRest, rfl⟩ := Option.map_eq_some_iff.mp found
      exact cons_prefix_cons.mpr ⟨rfl, ih foundRest⟩

theorem firstLine_ne_nil {stream line : Bytes} (found : firstLine stream = some line) :
    line ≠ [] := by
  cases stream with
  | nil => cases found
  | cons byte rest =>
    rw [firstLine] at found
    split at found
    · cases found
    split at found
    · cases found
      simp
    · obtain ⟨shorter, -, rfl⟩ := Option.map_eq_some_iff.mp found
      simp

theorem firstLine_append {stream line : Bytes} (more : Bytes)
    (found : firstLine stream = some line) : firstLine (stream ++ more) = some line := by
  induction stream generalizing line with
  | nil => cases found
  | cons byte rest ih =>
    rw [cons_append, firstLine]
    rw [firstLine] at found
    split at found
    · cases found
    rename_i nonzero
    rw [if_neg nonzero]
    split at found
    · rename_i isLf
      rw [if_pos isLf]
      exact found
    · rename_i notLf
      obtain ⟨shorter, foundRest, rfl⟩ := Option.map_eq_some_iff.mp found
      rw [if_neg notLf, ih foundRest]
      rfl

theorem firstLine_content {content : Bytes} (noLf : (10 : UInt8) ∉ content)
    (noNul : (0 : UInt8) ∉ content) (rest : Bytes) :
    firstLine (content ++ 10 :: rest) = some (content ++ [10]) := by
  induction content with
  | nil => rfl
  | cons byte others ih =>
    have notLf : byte ≠ 10 := fun same => noLf (by simp [same])
    have notNul : byte ≠ 0 := fun same => noNul (by simp [same])
    rw [cons_append, firstLine, if_neg notNul, if_neg notLf,
      ih (fun member => noLf (by simp [member]))
        fun member => noNul (by simp [member])]
    rfl

/-- The line that `ci_readln` returns, and what is left. -/
def cutLine (stream : Bytes) : Option (Bytes × Bytes) :=
  match firstLine stream with
  | none => none
  | some line =>
    if maxLinesize < line.length then none else some (line, stream.drop line.length)

theorem cutLine_eq_some {stream line rest : Bytes} :
    cutLine stream = some (line, rest) ↔
      firstLine stream = some line ∧ line.length ≤ maxLinesize ∧
        rest = stream.drop line.length := by
  unfold cutLine
  cases firstLine stream with
  | none => simp
  | some other =>
    dsimp only
    split
    · refine iff_of_false (by simp) ?_
      rintro ⟨same, short, -⟩
      cases same
      omega
    · constructor
      · intro same
        cases same
        exact ⟨rfl, by omega, rfl⟩
      · rintro ⟨same, -, rfl⟩
        cases same
        rfl

def lineCutter : Cutter UInt8 where
  next := cutLine
  whole := by
    intro stream line rest found
    obtain ⟨first, -, rfl⟩ := cutLine_eq_some.mp found
    exact (prefix_iff_eq_append.mp (firstLine_isPrefix first)).symm
  nonempty := by
    intro stream line rest found
    exact firstLine_ne_nil (cutLine_eq_some.mp found).1
  stable := by
    intro stream line rest more found
    obtain ⟨first, short, rfl⟩ := cutLine_eq_some.mp found
    refine cutLine_eq_some.mpr ⟨firstLine_append more first, short, ?_⟩
    exact (drop_append_of_le_length (firstLine_isPrefix first).length_le).symm

/-! ## The read buffer as a stream -/

/-- The offset is inside the buffer, and these bytes are unread. -/
structure Holds (client : ClientBase) (bytes : Bytes) : Prop where
  inside : client.offset ≤ client.text.length
  unread : client.unread.map Octet.byte = bytes

theorem lineOf_nul (octets tail : List Octet) : lineOf (octets ++ nul :: tail) = lineOf octets := by
  induction octets with
  | nil => rfl
  | cons octet rest ih =>
    rw [cons_append, lineOf, lineOf, ih]

section Holds

variable {client : ClientBase} {bytes : Bytes} (holds : Holds client bytes)

include holds

theorem Holds.append (chunk : Bytes) : Holds (client.append chunk) (bytes ++ chunk) := by
  have inside := holds.inside
  have within : (client.append chunk).offset ≤ (client.append chunk).text.length := by
    simp only [ClientBase.append, length_append]
    omega
  refine ⟨within, ?_⟩
  rw [← holds.unread, ClientBase.unread, if_pos within, ClientBase.unread, if_pos inside]
  simp only [ClientBase.append]
  rw [drop_append_of_le_length inside]
  simp [Function.comp_def]

theorem Holds.advance {count : Nat} (within : count ≤ bytes.length) :
    Holds (client.advance count) (bytes.drop count) := by
  have inside := holds.inside
  have size : bytes.length = client.text.length - client.offset := by
    rw [← holds.unread, length_map, ClientBase.unread, if_pos inside, length_drop]
  have left : bytes.drop count = (client.text.drop (client.offset + count)).map Octet.byte := by
    rw [← holds.unread, ClientBase.unread, if_pos inside, ← drop_drop, map_drop, map_drop, map_drop]
  unfold ClientBase.advance ClientBase.rbufScale
  split
  · rename_i drained
    have empty : bytes.drop count = [] := by
      rw [left, drop_of_length_le (by simpa using drained.ge)]
      rfl
    refine ⟨by simp, ?_⟩
    rw [ClientBase.unread, empty]
    simp
  · have stays : client.offset + count ≤ client.text.length := by omega
    refine ⟨stays, ?_⟩
    rw [ClientBase.unread, if_pos stays, left]

/-- `ci_readln` takes the first line, if there is one that fits. -/
theorem ciReadln_cut :
    (cutLine bytes = none ∧ (ciReadln client).2 = [] ∧ Holds (ciReadln client).1 bytes) ∨
      ∃ line rest, cutLine bytes = some (line, rest) ∧
        (ciReadln client).2.map Octet.byte = line ∧ (ciReadln client).2 ≠ [] ∧
        Holds (ciReadln client).1 rest := by
  have seen : (lineOf (client.str.drop client.offset)).map (List.map Octet.byte) =
      firstLine bytes := by
    rw [str_drop_of_le holds.inside, lineOf_nul, ← firstLine_bytes, holds.unread]
  unfold ciReadln
  cases found : lineOf (client.str.drop client.offset) with
  | none =>
    rw [found] at seen
    refine .inl ⟨?_, rfl, holds⟩
    rw [cutLine, ← seen]
    rfl
  | some line =>
    rw [found] at seen
    dsimp only
    have first : firstLine bytes = some (line.map Octet.byte) := seen.symm
    by_cases long : maxLinesize < line.length
    · rw [if_pos long]
      refine .inl ⟨?_, rfl, holds.inside, holds.unread⟩
      rw [cutLine, first]
      exact if_pos (by simpa using long)
    · rw [if_neg long]
      refine .inr ⟨line.map Octet.byte, bytes.drop line.length, ?_, rfl, ?_, ?_⟩
      · exact cutLine_eq_some.mpr ⟨first, by simpa using long, by simp⟩
      · intro nothing
        apply firstLine_ne_nil first
        simpa using nothing
      · apply holds.advance
        simpa using (firstLine_isPrefix first).length_le

end Holds

/-! ## Lines as they arrive -/

/-- The lines that `ci_readln` returns one after the other, until it returns none. -/
def readLines : Nat → ClientBase → ClientBase × List Bytes
  | 0, client => (client, [])
  | fuel + 1, client =>
    if (ciReadln client).2 = [] then ((ciReadln client).1, [])
    else
      let (after, lines) := readLines fuel (ciReadln client).1
      (after, (ciReadln client).2.map Octet.byte :: lines)

/-- A network read, and the calls of `ci_readln` that follow it. -/
def takeLines (held : ClientBase × List Bytes) (chunk : Bytes) : ClientBase × List Bytes :=
  let client := ciReadCb held.1 [chunk] .again
  let (after, lines) := readLines (client.budget + 1) client
  (after, held.2 ++ lines)

def linesTaken (tls : Bool) (chunks : List Bytes) : ClientBase × List Bytes :=
  chunks.foldl takeLines (clientNew tls, [])

/-- The LF-terminated lines of a stream; a NUL is a byte like others. -/
def wholeLines : Bytes → List Bytes
  | [] => []
  | byte :: rest =>
    if byte = 10 then [byte] :: wholeLines rest
    else match wholeLines rest with
      | [] => []
      | line :: lines => (byte :: line) :: lines

def Fits (line : Bytes) : Prop := line.length + 1 ≤ maxLinesize

instance (line : Bytes) : Decidable (Fits line) := inferInstanceAs (Decidable (_ ≤ _))

/-- The error is seen: the callback for the next read looks at it behind `ci_read_cb`. -/
def Reported (client : ClientBase) : Prop :=
  ∀ chunk, (ciReadCb client [chunk] .again).failed = true

/-- After every read the lines that have arrived are delivered, up to the first that does
not fit, and there is an error when there is such a line, which ends the connection. -/
def LinesAssembled (tls : Bool) (chunks : List Bytes) : Prop :=
  ∀ arrived, arrived <+: chunks →
    (linesTaken tls arrived).2 = (wholeLines arrived.flatten).takeWhile (Fits ·) ∧
      ((∃ line ∈ wholeLines arrived.flatten, ¬ Fits line) → Reported (linesTaken tls arrived).1) ∧
      ((linesTaken tls arrived).1.failed = true → ∃ line ∈ wholeLines arrived.flatten, ¬ Fits line)

theorem wholeLines_firstLine {stream : Bytes} :
    match firstLine stream with
    | none => wholeLines stream = [] ∨ ∃ line more, wholeLines stream = line :: more ∧ 0 ∈ line
    | some line => (0 : UInt8) ∉ line ∧
        ∀ more, wholeLines (line ++ more) = line :: wholeLines more := by
  induction stream with
  | nil => exact .inl rfl
  | cons byte rest ih =>
    rw [firstLine, wholeLines]
    by_cases isNul : byte = 0
    · subst isNul
      cases wholeLines rest with
      | nil => exact .inl rfl
      | cons line more => exact .inr ⟨_, more, rfl, mem_cons_self⟩
    rw [if_neg isNul]
    by_cases isLf : byte = 10
    · subst isLf
      exact ⟨by decide, fun more => rfl⟩
    rw [if_neg isLf, if_neg isLf]
    cases found : firstLine rest with
    | none =>
      rw [found] at ih
      obtain nothing | ⟨line, more, split, hidden⟩ := ih
      · exact .inl (by rw [nothing])
      · exact .inr ⟨byte :: line, more, by rw [split], mem_cons_of_mem byte hidden⟩
    | some line =>
      rw [found] at ih
      refine ⟨by simp [Ne.symm isNul, ih.1], fun more => ?_⟩
      rw [cons_append, wholeLines, if_neg isLf, ih.2 more]

theorem wholeLines_append (stream more : Bytes) :
    wholeLines stream <+: wholeLines (stream ++ more) := by
  induction stream with
  | nil => exact nil_prefix
  | cons byte rest ih =>
    rw [cons_append, wholeLines, wholeLines]
    split
    · exact cons_prefix_cons.mpr ⟨rfl, ih⟩
    · cases lines : wholeLines rest with
      | nil => exact nil_prefix
      | cons line others =>
        obtain ⟨later, whole⟩ := ih
        rw [← whole, lines]
        exact ⟨later, rfl⟩

structure IsLine (line : Bytes) : Prop where
  noNul : (0 : UInt8) ∉ line
  first : ∀ more, wholeLines (line ++ more) = line :: wholeLines more
  short : line.length ≤ maxLinesize

theorem wholeLines_flatten {lines : List Bytes} (cut : ∀ line ∈ lines, IsLine line) (left : Bytes) :
    wholeLines (lines.flatten ++ left) = lines ++ wholeLines left := by
  induction lines with
  | nil => rfl
  | cons line others ih =>
    rw [flatten_cons, append_assoc, (cut line mem_cons_self).first,
      ih fun other member => cut other (mem_cons_of_mem line member), cons_append]

def tooLong (bytes : Bytes) : Bool := (firstLine bytes).any (maxLinesize < ·.length)

theorem ciReadln_failed {client : ClientBase} {bytes : Bytes} (holds : Holds client bytes) :
    (ciReadln client).1.failed = (client.failed || tooLong bytes) := by
  have seen : firstLine bytes =
      (lineOf (client.str.drop client.offset)).map (List.map Octet.byte) := by
    rw [str_drop_of_le holds.inside, lineOf_nul, ← firstLine_bytes, holds.unread]
  unfold ciReadln tooLong
  rw [seen]
  cases lineOf (client.str.drop client.offset) with
  | none => simp
  | some line =>
    dsimp only
    split
    · rename_i long
      simp [long]
    · rename_i short
      have kept : (client.advance line.length).failed = client.failed := by
        simp only [ClientBase.advance, ClientBase.rbufScale, ClientBase.rbufClear]
        split_ifs <;> rfl
      simp [short, kept]

/-- What the calls of `ci_readln` leave begins with no line that can be taken. -/
theorem readLines_cut {fuel : Nat} {client : ClientBase} {bytes : Bytes}
    (holds : Holds client bytes) (enough : client.budget < fuel) :
    ∃ left, bytes = (readLines fuel client).2.flatten ++ left ∧
      Holds (readLines fuel client).1 left ∧ cutLine left = none ∧
      (readLines fuel client).1.failed = (client.failed || tooLong left) ∧
      ∀ line ∈ (readLines fuel client).2, IsLine line := by
  induction fuel generalizing client bytes with
  | zero => omega
  | succ fuel ih =>
    have failing := ciReadln_failed holds
    rw [readLines]
    obtain ⟨nothing, none, left⟩ | ⟨line, rest, found, taken, some_, left⟩ := ciReadln_cut holds
    · rw [if_pos none]
      exact ⟨bytes, rfl, left, nothing, failing, by simp⟩
    · rw [if_neg some_]
      have shorter := budget_ciReadln client some_
      obtain ⟨final, split, holds', stuck, failed, cut⟩ := ih left (by omega)
      obtain ⟨first, short, -⟩ := cutLine_eq_some.mp found
      have front := @wholeLines_firstLine bytes
      rw [first] at front
      have notLong : tooLong bytes = false := by
        simp [tooLong, first, short]
      rw [notLong, Bool.or_false] at failing
      refine ⟨final, ?_, holds', stuck, failing ▸ failed, ?_⟩
      · rw [taken, flatten_cons, append_assoc, ← split]
        exact lineCutter.whole found
      · intro other member
        rw [taken] at member
        cases member with
        | head => exact ⟨front.1, front.2, short⟩
        | tail _ inside => exact cut other inside

theorem linesTaken_cut (tls : Bool) (chunks : List Bytes) :
    ∃ left, chunks.flatten = (linesTaken tls chunks).2.flatten ++ left ∧
      Holds (linesTaken tls chunks).1 left ∧ cutLine left = none ∧
      (linesTaken tls chunks).1.failed = tooLong left ∧
      ∀ line ∈ (linesTaken tls chunks).2, IsLine line := by
  induction chunks using List.reverseRecOn with
  | nil => exact ⟨[], rfl, ⟨le_rfl, rfl⟩, rfl, rfl, fun _ none => nomatch none⟩
  | append_singleton earlier chunk ih =>
    have last : linesTaken tls (earlier ++ [chunk]) = takeLines (linesTaken tls earlier) chunk :=
      foldl_concat ..
    rw [last]
    generalize linesTaken tls earlier = held at ih ⊢
    obtain ⟨left, split, holds, -, -, cut⟩ := ih
    obtain ⟨inside, unread⟩ := holds.append chunk
    have arrived : Holds (ciReadCb held.1 [chunk] .again) (left ++ chunk) := ⟨inside, unread⟩
    obtain ⟨final, whole, holds', stuck, failed, cut'⟩ :=
      readLines_cut arrived (Nat.lt_succ_self _)
    refine ⟨final, ?_, holds', stuck, failed, ?_⟩
    · simp only [takeLines, flatten_append, flatten_singleton, append_assoc]
      rw [split, append_assoc, ← whole]
    · intro line member
      obtain old | new := mem_append.mp member
      · exact cut line old
      · exact cut' line new

/-- When no line can be taken, there is none, the first is hidden, or it is too long. -/
theorem cutLine_eq_none {left : Bytes} (stuck : cutLine left = none) :
    (tooLong left = false ∧
        (wholeLines left = [] ∨ ∃ line more, wholeLines left = line :: more ∧ 0 ∈ line)) ∨
      tooLong left = true ∧ ∃ line more, wholeLines left = line :: more ∧ (0 : UInt8) ∉ line ∧
        maxLinesize < line.length := by
  have front := @wholeLines_firstLine left
  unfold cutLine at stuck
  unfold tooLong
  cases found : firstLine left with
  | none =>
    rw [found] at front
    exact .inl ⟨rfl, front⟩
  | some line =>
    rw [found] at front stuck
    have long : maxLinesize < line.length := by
      by_contra short
      simp [short] at stuck
    obtain ⟨more, rfl⟩ := firstLine_isPrefix found
    exact .inr ⟨by simpa using long, line, wholeLines more, front.2 more, front.1, long⟩

/-- `ci_read_cb` clears the error of `ci_readln`. -/
theorem not_reported (client : ClientBase) : ¬ Reported client := by
  intro reported
  exact absurd (reported []) (by simp [ciReadCb, ClientBase.readEnd])

/-- When all lines fit and none has a NUL, all of them are taken. -/
theorem linesTaken_all {tls : Bool} {chunks : List Bytes}
    (sound : ∀ line ∈ wholeLines chunks.flatten, (0 : UInt8) ∉ line ∧ Fits line) :
    (linesTaken tls chunks).2 = wholeLines chunks.flatten ∧
      (linesTaken tls chunks).1.failed = false := by
  obtain ⟨left, split, -, stuck, failed, cut⟩ := linesTaken_cut tls chunks
  rw [split, wholeLines_flatten cut] at sound ⊢
  rw [failed]
  obtain ⟨short, nothing | ⟨line, more, first, hidden⟩⟩ | ⟨-, line, more, first, -, misfit⟩ :=
    cutLine_eq_none stuck
  · rw [nothing, append_nil]
    exact ⟨rfl, short⟩
  · exact absurd hidden (sound line (by simp [first])).1
  · have fits := (sound line (by simp [first])).2
    unfold Fits at fits
    omega

/-- Lines are assembled as they should be if and only if none has a NUL and all fit. -/
theorem linesAssembled_iff (tls : Bool) (chunks : List Bytes) :
    LinesAssembled tls chunks ↔
      ∀ line ∈ wholeLines chunks.flatten, (0 : UInt8) ∉ line ∧ Fits line := by
  constructor
  · intro assembled
    obtain ⟨delivered, reported, -⟩ := assembled chunks (prefix_refl _)
    have fit : ∀ line ∈ wholeLines chunks.flatten, Fits line := by
      by_contra misfit
      push Not at misfit
      exact not_reported _ (reported misfit)
    rw [takeWhile_eq_self_iff.mpr (by simpa using fit)] at delivered
    obtain ⟨-, -, -, -, -, cut⟩ := linesTaken_cut tls chunks
    intro line member
    exact ⟨(cut line (delivered ▸ member)).noNul, fit line member⟩
  · rintro sound arrived ⟨later, rfl⟩
    rw [flatten_append] at sound
    have arrivedSound : ∀ line ∈ wholeLines arrived.flatten, (0 : UInt8) ∉ line ∧ Fits line :=
      fun line member => sound line ((wholeLines_append _ _).subset member)
    have fit : ∀ line ∈ wholeLines arrived.flatten, Fits line :=
      fun line member => (arrivedSound line member).2
    obtain ⟨delivered, calm⟩ := @linesTaken_all tls _ arrivedSound
    rw [delivered, calm, takeWhile_eq_self_iff.mpr (by simpa using fit)]
    refine ⟨rfl, ?_, nofun⟩
    rintro ⟨line, member, misfit⟩
    exact absurd (fit line member) misfit

/-- A NUL in front of a line feed hides the line and those behind it, and nothing is
reported. -/
theorem nul_hides_lines : ¬ LinesAssembled false [[0, 10], lit "QUIT\r\n"] := by
  intro assembled
  have first := (assembled [[0, 10]] ⟨_, rfl⟩).1
  revert first
  decide

/-! ## Servers of lines -/

section Server

variable {σ ε ω : Type} {server : CommandServer σ ε ω} {take : σ → Bytes → σ}

/-- The server does nothing but hand one line after the other to `take`, until the
session is closed. -/
structure Linewise (server : CommandServer σ ε ω) (take : σ → Bytes → σ) : Prop where
  literals : server.literals = false
  enter : ∀ env state, server.enter env state = some state
  feed : ∀ env handshake active state text, server.feed env handshake active state text =
      .ok ⟨take state text, false, !server.closed (take state text)⟩

/-- The connection is in a state with these bytes unread. What a closed session has not
read does not matter. -/
structure Stands (server : CommandServer σ ε ω) (connection : Connection σ) (held : σ × Bytes) :
    Prop where
  state : connection.state = held.1
  unread : server.closed held.1 = true ∨ Holds connection.client held.2

theorem inputLoop_consume (linewise : Linewise server take) (env : ε) (handshake : Handshake)
    {fuel : Nat} {connection : Connection σ} {bytes : Bytes}
    (isOpen : server.closed connection.state = false) (holds : Holds connection.client bytes)
    (enough : connection.client.budget < fuel) :
    ∃ after, inputLoop server env handshake fuel connection = .ok after ∧
      Stands server after (consume lineCutter server.closed take connection.state bytes) := by
  induction fuel generalizing connection bytes with
  | zero => omega
  | succ fuel ih =>
    have read : readText server connection = ciReadln connection.client := by
      rw [readText, linewise.literals]
      rfl
    rw [inputLoop, read]
    obtain ⟨nothing, none, left⟩ | ⟨line, rest, found, taken, some_, left⟩ := ciReadln_cut holds
    · rw [if_pos none, consume_of_none lineCutter take nothing]
      exact ⟨_, rfl, rfl, .inr left⟩
    · rw [if_neg some_, linewise.feed, taken, consume_of_some lineCutter take isOpen found]
      have shorter := budget_ciReadln connection.client some_
      generalize (ciReadln connection.client).1 = client at left shorter ⊢
      generalize (ciReadln connection.client).2 = octets
      -- without STARTTLS the client is left as the read has left it
      have fed : ∀ again, connection.fed server client octets handshake
          ⟨take connection.state line, false, again⟩ = ⟨take connection.state line, client,
              connection.log ++ [.tokenised octets client.sslState]⟩ := fun _ => rfl
      cases closes : server.closed (take connection.state line) with
      | true =>
        rw [consume_of_stopped lineCutter take closes]
        exact ⟨_, rfl, rfl, .inl closes⟩
      | false =>
        exact @ih ⟨take connection.state line, client, _⟩ rest closes left
          (by
            show client.budget < fuel
            omega)

def readOf (env : ε) (chunk : Bytes) : Event ε ω := .readable env .noContext [chunk] .again

theorem step_receive (linewise : Linewise server take) (env : ε) {connection : Connection σ}
    {held : σ × Bytes} (stands : Stands server connection held)
    (settled : consume lineCutter server.closed take held.1 held.2 = held) (chunk : Bytes) :
    ∃ after, step server connection (readOf env chunk) = .ok after ∧
      Stands server after (receive lineCutter server.closed take held chunk) := by
  obtain ⟨state, bytes⟩ := held
  obtain ⟨same, unread⟩ := stands
  dsimp only at same unread settled
  unfold step arrive receive
  cases closed : server.closed state with
  | true =>
    rw [if_pos (by rw [same, closed])]
    rw [consume_of_stopped lineCutter take closed]
    exact ⟨_, rfl, same, .inl closed⟩
  | false =>
    have holds := unread.resolve_left (by simp [closed])
    rw [if_neg (by simp [same, closed])]
    have appended := holds.append chunk
    have read : ciReadCb connection.client [chunk] .again =
        { connection.client.append chunk with failed := false, eof := false } := rfl
    dsimp [readOf]
    rw [onRead, read]
    rw [Bool.false_and, Bool.or_false, if_neg Bool.false_ne_true]
    by_cases some_ : 0 < (connection.client.append chunk).text.length
    · rw [if_pos (by simpa using some_)]
      dsimp only
      rw [handleInput, linewise.enter]
      have arrived : Holds { connection.client.append chunk with failed := false, eof := false }
          (bytes ++ chunk) := ⟨appended.inside, appended.unread⟩
      rw [← same]
      exact inputLoop_consume linewise env .noContext (by rw [same, closed]) arrived
        (Nat.lt_succ_self _)
    · rw [if_neg (by simpa using some_)]
      have empty : bytes ++ chunk = [] := by
        have noText : (connection.client.append chunk).text = [] := by simpa using some_
        rw [← appended.unread, ClientBase.unread, if_pos appended.inside, noText]
        simp
      rw [empty, consume_of_none lineCutter take rfl]
      exact ⟨_, rfl, same, .inr ⟨appended.inside, appended.unread.trans empty⟩⟩

/-- A new connection that reads a stream ends as if it had read it at once. -/
theorem run_reads (linewise : Linewise server take) (env : ε) (state : σ) (tls : Bool)
    (chunks : List Bytes) :
    ∃ after, run (step server) ⟨state, clientNew tls, []⟩ (chunks.map (readOf env)) = .ok after ∧
      after.state = (consume lineCutter server.closed take state chunks.flatten).1 := by
  have reads : ∀ (connection : Connection σ) (held : σ × Bytes), Stands server connection held →
      consume lineCutter server.closed take held.1 held.2 = held →
      ∃ after, run (step server) connection (chunks.map (readOf env)) = .ok after ∧
        Stands server after (chunks.foldl (receive lineCutter server.closed take) held) := by
    induction chunks with
    | nil => exact fun connection held stands _ => ⟨connection, rfl, stands⟩
    | cons chunk others ih =>
      intro connection held stands settled
      obtain ⟨next, stepped, stands'⟩ := step_receive linewise env stands settled chunk
      obtain ⟨after, ran, final⟩ := ih next _ stands'
        (consume_settled lineCutter take held.1 (held.2 ++ chunk))
      refine ⟨after, ?_, final⟩
      rw [map_cons, run, stepped]
      exact ran
  have none : consume lineCutter server.closed take state [] = (state, []) :=
    consume_of_none lineCutter take rfl
  obtain ⟨after, ran, stands⟩ := reads ⟨state, clientNew tls, []⟩ (state, [])
    ⟨rfl, .inr ⟨Nat.le_refl 0, rfl⟩⟩ none
  refine ⟨after, ran, ?_⟩
  rw [stands.state, foldl_receive lineCutter take (state, []) chunks none]
  rfl

end Server

end Dbmail.Client
