import Dbmail.Lib.CRuntime

/-!
Contract: the output side of a connection, `ci_write`.

Owns the write buffer with its offset, the segment that TLS has to be offered again
unchanged, the loop of `ci_write` over the answers of the transport, `ci_write_cb`, and
that what the transport accepts is the messages in their order.

Does not own: the formatting of a message, the record layer, or the events that a
callback adds and removes.
-/

namespace Dbmail.Client

open Dbmail.Lib List

/-! ## The write buffer -/

/-- The part of `ClientBase_T` that output goes through. -/
structure Writer where
  /-- The used bytes of `write_buffer`. -/
  text : Bytes
  /-- `write_buffer_offset`. -/
  offset : Nat
  /-- `sock->ssl` is set. -/
  ssl : Bool
  /-- The first `tls_wbuf_n` bytes of `tls_wbuf`. -/
  segment : Bytes
  /-- `CLIENT_ERR`. -/
  failed : Bool
deriving DecidableEq

def writerNew (tls : Bool) : Writer := ⟨[], 0, tls, [], false⟩

variable (writer : Writer)

/-- What `ci_wbuf_len` counts, without an error. -/
def Writer.pending : Bytes := writer.text.drop writer.offset

/-- `client_wbuf_clear`, which leaves the offset as it is. -/
def Writer.wbufClear : Writer := { writer with text := [] }

/-- `client_wbuf_scale`. -/
def Writer.wbufScale : Writer :=
  if writer.offset = writer.text.length then { writer with text := [], offset := 0 } else writer

def tlsSegment : Nat := 262144

/-- Up to the first NUL, then filled with NULs. -/
def strncpy (source : Bytes) (count : Nat) : Bytes :=
  let copied := (source.take count).takeWhile (· ≠ 0)
  copied ++ List.replicate (count - copied.length) 0

/-! ## Writing -/

/-- What one `write` or `SSL_write` answers: it takes that many bytes, possibly none; it
fails, and `cb_error` asks to try later; it fails with `SSL_ERROR_WANT_READ`; it fails, and
`cb_error` finds a hard error; `SSL_write` returns 0, and `cb_error` finds a hard error. -/
inductive Answer where
  | took (count : Nat)
  | again
  | wantRead
  | broken
  | ended
deriving DecidableEq

/-- The bytes that the transport is offered, and the segment that TLS keeps them in. -/
def Writer.offer : Writer × Bytes :=
  let count := min writer.pending.length (tlsSegment - 1)
  if writer.ssl then
    let segment := if writer.segment = [] then strncpy writer.pending count else writer.segment
    ({ writer with segment }, segment)
  else (writer, writer.pending.take count)

/-- The transport has taken that many bytes. -/
def Writer.sent (count : Nat) : Writer :=
  let moved := { writer with offset := writer.offset + count }.wbufScale
  if writer.ssl then { moved with segment := [] } else moved

/-- A hard error in `cb_error`. -/
def Writer.fail : Writer := { writer.wbufClear with failed := true }

/-- The loop of `ci_write`: the bytes that the transport accepts and the result, `none`
while an answer is awaited. `tries` retries are left for a transport that wants to read,
and during them any failure leads to the next one. -/
def writeLoop : List Answer → Nat → Bool → Writer → Writer × Bytes × Option Int
  | answers, tries, retrying, writer =>
    if writer.pending = [] then (writer, [], some 1)
    else
      let (writer, offered) := writer.offer
      match answers with
      | [] => (writer, [], none)
      | answer :: answers =>
        let onward (count : Nat) :=
          let (after, accepted, result) := writeLoop answers tries false (writer.sent count)
          (after, offered.take count ++ accepted, result)
        match answer with
        | .took count => onward (min count offered.length)
        | .ended => if writer.ssl then (writer.fail, [], some (-1)) else onward 0
        | .again | .wantRead | .broken =>
          if writer.ssl ∧ (retrying ∨ answer = .wantRead) ∧ 0 < tries then
            writeLoop answers (tries - 1) true writer
          else if answer = .broken then (writer.fail, [], some (-1))
          else (writer, [], some 0)

/-- `ci_write` with a formatted message or none. -/
def ciWrite (timeout : Nat) (writer : Writer) (message : Option Bytes) (answers : List Answer) :
    Writer × Bytes × Option Int :=
  if writer.failed then (writer, [], some (-1))
  else writeLoop answers timeout false { writer with text := writer.text ++ message.getD [] }

/-- With the result of its `ci_write`. -/
def ciWriteCb (timeout : Nat) (writer : Writer) (answers : List Answer) :
    Writer × Bytes × Option Int :=
  if writer.failed then (writer.wbufClear, [], none)
  else if writer.pending = [] then (writer, [], none)
  else
    let (after, accepted, result) := ciWrite timeout writer none answers
    (if result = some (-1) then after.wbufClear else after, accepted, result)

/-- A call that writes, with the answers that the transport gives during it. -/
inductive Call where
  | write (message : Option Bytes) (answers : List Answer)
  | callback (answers : List Answer)

def Call.text : Call → Bytes
  | .write message _ => message.getD []
  | .callback _ => []

def Call.run (timeout : Nat) (writer : Writer) : Call → Writer × Bytes × Option Int
  | .write message answers => ciWrite timeout writer message answers
  | .callback answers => ciWriteCb timeout writer answers

/-- The writer after some calls, what the transport has accepted, and the last result. -/
def output (timeout : Nat) (tls : Bool) (calls : List Call) : Writer × Bytes × Option Int :=
  calls.foldl (fun output call =>
    let (after, accepted, result) := call.run timeout output.1
    (after, output.2.1 ++ accepted, result)) (writerNew tls, [], none)

/-! ## Nothing is lost -/

/-- What was queued is what was accepted and what is pending, and a segment that was kept
for TLS is the front of what is pending. -/
structure Intact (queued accepted : Bytes) (writer : Writer) : Prop where
  inside : writer.offset ≤ writer.text.length
  whole : accepted ++ writer.pending = queued
  kept : writer.segment <+: writer.pending
  plain : writer.ssl = false → writer.segment = []
  going : writer.failed = false

/-- What a call leaves: all is intact, and a result of 1 means that nothing is pending; or
there was an error. -/
def Delivers (queued accepted : Bytes) (after : Writer × Bytes × Option Int) : Prop :=
  (Intact queued (accepted ++ after.2.1) after.1 ∧ (after.2.2 = some 1 → after.1.pending = []) ∧
      after.2.2 ≠ some (-1)) ∨
    after.1.failed = true ∧ accepted ++ after.2.1 <+: queued ∧ after.2.2 ≠ some 1

variable {queued accepted : Bytes} {writer : Writer}

theorem strncpy_of_nulFree {source : Bytes} (nulFree : (0 : UInt8) ∉ source) {count : Nat}
    (within : count ≤ source.length) : strncpy source count = source.take count := by
  have all : (source.take count).takeWhile (· ≠ 0) = source.take count := by
    rw [takeWhile_eq_self_iff]
    intro byte member
    have other : byte ≠ 0 := fun same => nulFree (same ▸ mem_of_mem_take member)
    simpa using other
  rw [strncpy, all, length_take, Nat.min_eq_left within]
  simp

section Intact

variable (intact : Intact queued accepted writer)

include intact

/-- The transport is offered the front of what is pending. -/
theorem Intact.offer (nulFree : (0 : UInt8) ∉ queued) :
    Intact queued accepted writer.offer.1 ∧ writer.offer.2 <+: writer.offer.1.pending := by
  have clean : (0 : UInt8) ∉ writer.pending := by
    intro member
    apply nulFree
    rw [← intact.whole]
    exact mem_append_right accepted member
  unfold Writer.offer
  split
  · rename_i tls
    have front : (if writer.segment = [] then
        strncpy writer.pending (min writer.pending.length (tlsSegment - 1))
        else writer.segment) <+: writer.pending := by
      split
      · rw [strncpy_of_nulFree clean (Nat.min_le_left _ _)]
        exact take_prefix _ _
      · exact intact.kept
    exact ⟨⟨intact.inside, intact.whole, front, by simp [tls], intact.going⟩, front⟩
  · exact ⟨intact, take_prefix _ _⟩

theorem Intact.sent {count : Nat} (within : count ≤ writer.pending.length) :
    Intact queued (accepted ++ writer.pending.take count) (writer.sent count) := by
  obtain ⟨inside, whole, -, plain, going⟩ := intact
  have room : writer.offset + count ≤ writer.text.length := by
    rw [Writer.pending, length_drop] at within
    omega
  have noSegment : (writer.sent count).segment = [] := by
    unfold Writer.sent Writer.wbufScale
    split_ifs <;> simp_all
  have left : (writer.sent count).pending = writer.pending.drop count := by
    unfold Writer.sent Writer.wbufScale
    split_ifs <;> simp_all [Writer.pending]
  refine ⟨?_, ?_, noSegment ▸ nil_prefix, fun _ => noSegment, ?_⟩
  · unfold Writer.sent Writer.wbufScale
    split_ifs <;> simp_all
  · rw [left, append_assoc, take_append_drop, whole]
  · unfold Writer.sent Writer.wbufScale
    split_ifs <;> exact going

theorem Intact.returns {result : Option Int}
    (drained : result = some 1 → writer.pending = []) (accepts : result ≠ some (-1)) :
    Delivers queued accepted (writer, [], result) := by
  refine .inl ⟨?_, drained, accepts⟩
  rw [append_nil]
  exact intact

theorem Intact.fails : Delivers queued accepted (writer.fail, [], some (-1)) := by
  refine .inr ⟨rfl, ⟨writer.pending, ?_⟩, by simp⟩
  rw [append_nil]
  exact intact.whole

end Intact

theorem Delivers.behind {front : Bytes} {after : Writer × Bytes × Option Int}
    (delivers : Delivers queued (accepted ++ front) after) :
    Delivers queued accepted (after.1, front ++ after.2.1, after.2.2) := by
  unfold Delivers at delivers ⊢
  rw [append_assoc] at delivers
  exact delivers

theorem writeLoop_delivers (nulFree : (0 : UInt8) ∉ queued) (answers : List Answer) (tries : Nat)
    (retrying : Bool) (intact : Intact queued accepted writer) :
    Delivers queued accepted (writeLoop answers tries retrying writer) := by
  induction answers generalizing accepted writer tries retrying with
  | nil =>
    rw [writeLoop]
    split
    · rename_i drained
      exact intact.returns (fun _ => drained) (by simp)
    · exact (intact.offer nulFree).1.returns (by simp) (by simp)
  | cons answer answers ih =>
    rw [writeLoop]
    split
    · rename_i drained
      exact intact.returns (fun _ => drained) (by simp)
    obtain ⟨offering, front⟩ := intact.offer nulFree
    generalize writer.offer = offer at offering front
    obtain ⟨writer', offered⟩ := offer
    have onward : ∀ {count : Nat}, count ≤ offered.length → Delivers queued accepted
          ((writeLoop answers tries false (writer'.sent count)).1,
            offered.take count ++ (writeLoop answers tries false (writer'.sent count)).2.1,
            (writeLoop answers tries false (writer'.sent count)).2.2) := by
      intro count within
      have taken : offered.take count = writer'.pending.take count := by
        obtain ⟨rest, whole⟩ := front
        rw [← whole, take_append_of_le_length within]
      rw [taken]
      exact (ih _ _ (offering.sent (within.trans front.length_le))).behind
    have failed : Delivers queued accepted
        (if writer'.ssl ∧ (retrying ∨ answer = .wantRead) ∧ 0 < tries then
          writeLoop answers (tries - 1) true writer'
        else if answer = .broken then (writer'.fail, [], some (-1))
        else (writer', [], some 0)) := by
      split_ifs
      · exact ih _ _ offering
      · exact offering.fails
      · exact offering.returns (by simp) (by simp)
    cases answer with
    | took count => exact onward (Nat.min_le_right _ _)
    | ended =>
      dsimp only
      split
      · exact offering.fails
      · exact onward (Nat.zero_le _)
    | again | wantRead | broken => exact failed

/-! ## Runs -/

theorem ciWrite_delivers (timeout : Nat) (message : Option Bytes) (answers : List Answer)
    (nulFree : (0 : UInt8) ∉ queued ++ message.getD []) (intact : Intact queued accepted writer) :
    Delivers (queued ++ message.getD []) accepted (ciWrite timeout writer message answers) := by
  obtain ⟨inside, whole, kept, plain, going⟩ := intact
  have longer : (writer.text ++ message.getD []).drop writer.offset =
      writer.pending ++ message.getD [] := drop_append_of_le_length inside
  rw [ciWrite, if_neg (by simp [going])]
  refine writeLoop_delivers nulFree answers timeout false ⟨?_, ?_, ?_, plain, going⟩
  · exact inside.trans (prefix_append _ _).length_le
  · rw [Writer.pending, longer, ← append_assoc, whole]
  · rw [Writer.pending, longer]
    exact kept.trans (prefix_append _ _)

/-- One call keeps what is queued, with the call's own message behind it. -/
theorem Call.run_delivers (timeout : Nat) (call : Call) (nulFree : (0 : UInt8) ∉ queued ++ call.text)
    {before : Writer × Bytes × Option Int} (delivers : Delivers queued [] before) :
    Delivers (queued ++ call.text) before.2.1 (call.run timeout before.1) := by
  obtain ⟨intact, -⟩ | ⟨failed, front, -⟩ := delivers
  · cases call with
    | write message answers => exact ciWrite_delivers timeout message answers nulFree intact
    | callback answers =>
      have written := ciWrite_delivers timeout none answers nulFree intact
      rw [Call.text, append_nil] at nulFree ⊢
      rw [Option.getD_none, append_nil] at written
      rw [Call.run, ciWriteCb, if_neg (by simp [intact.going])]
      dsimp only
      split_ifs with drained refused
      · exact intact.returns (by simp) (by simp)
      · obtain ⟨-, -, accepts⟩ | failed := written
        · exact absurd refused accepts
        · exact .inr failed
      · exact written
  · have longer : before.2.1 ++ [] <+: queued ++ call.text := by
      rw [append_nil]
      exact front.trans (prefix_append _ _)
    cases call with
    | write message answers =>
      rw [Call.run, ciWrite, if_pos failed]
      exact .inr ⟨failed, longer, by simp⟩
    | callback answers =>
      rw [Call.run, ciWriteCb, if_pos failed]
      exact .inr ⟨failed, longer, by simp⟩

theorem output_delivers (timeout : Nat) (tls : Bool) (calls : List Call)
    (nulFree : (0 : UInt8) ∉ calls.flatMap Call.text) :
    Delivers (calls.flatMap Call.text) [] (output timeout tls calls) := by
  induction calls using List.reverseRecOn with
  | nil => exact .inl ⟨⟨le_rfl, rfl, nil_prefix, fun _ => rfl, rfl⟩, by simp [output]⟩
  | append_singleton earlier call ih =>
    rw [flatMap_append, flatMap_singleton] at nulFree ⊢
    have before := ih fun member => nulFree (mem_append_left _ member)
    rw [output, foldl_concat]
    exact (call.run_delivers timeout nulFree before).behind

/-- What the transport has accepted is always the front of the messages. Before an error
the rest of them is pending, and there is none when the last call has returned 1. -/
theorem output_inOrder (timeout : Nat) (tls : Bool) (calls : List Call)
    (nulFree : ∀ call ∈ calls, (0 : UInt8) ∉ call.text) :
    (output timeout tls calls).2.1 <+: calls.flatMap Call.text ∧
      ((output timeout tls calls).1.failed = false → (output timeout tls calls).2.1 ++
        (output timeout tls calls).1.pending = calls.flatMap Call.text) ∧
      ((output timeout tls calls).2.2 = some 1 →
        (output timeout tls calls).2.1 = calls.flatMap Call.text) := by
  have clean : (0 : UInt8) ∉ calls.flatMap Call.text := by simpa using nulFree
  obtain ⟨intact, drained, -⟩ | ⟨failed, front, unfinished⟩ :=
    output_delivers timeout tls calls clean
  · have whole := intact.whole
    refine ⟨⟨_, whole⟩, fun _ => whole, fun isOne => ?_⟩
    rw [drained isOne, append_nil] at whole
    exact whole
  · refine ⟨front, fun going => ?_, fun isOne => absurd isOne unfinished⟩
    rw [failed] at going
    cases going

/-- Short writes, a TLS retry and a flush in between. -/
theorem output_inOrder_retried :
    (output 1 true [.write (some (lit "* OK\r\n")) [.took 2, .wantRead, .again],
        .write (some (lit "a OK\r\n")) [.again], .write none [.took 9, .took 9]]).2.1 =
      lit "* OK\r\na OK\r\n" := by
  have all := (output_inOrder 1 true [.write (some (lit "* OK\r\n")) [.took 2, .wantRead, .again],
    .write (some (lit "a OK\r\n")) [.again], .write none [.took 9, .took 9]] (by decide)).2.2
    (by decide)
  decide

end Dbmail.Client
