import Dbmail.Lib.CRuntime

/-!
Contract: the client side of a connection, `ClientBase_T`.

Owns the read buffer with its offset and the memory behind it, the reads of
`ci_read_cb`, the two ways to take input out of the buffer (`ci_read` and
`ci_readln`), `ci_starttls`, and which octets a later read can still return.

Does not own: the write buffer, whose only effect here is that a failed write
clears the read buffer, and the record layer, which is seen as the octets that
`SSL_read` returns and the outcome of `SSL_accept`.
-/

namespace Dbmail.Client

open Dbmail.Lib List

/-! ## The read buffer -/

/-- A byte in memory, and whether `SSL_read` delivered it. -/
structure Octet where
  byte : UInt8
  secure : Bool
deriving DecidableEq

def nul : Octet := ⟨0, true⟩

/-- The part of `ClientBase_T` that input goes through. `text` are the used
bytes of `read_buffer`, and `tail` is what its memory holds behind the
terminating NUL. -/
structure ClientBase where
  text : List Octet
  tail : List Octet
  /-- `read_buffer_offset`. -/
  offset : Nat
  /-- `sock->ssl` is set. -/
  ssl : Bool
  /-- `sock->ssl_state`. -/
  sslState : Bool
  /-- `CLIENT_ERR`. -/
  failed : Bool
  /-- `CLIENT_EOF`. -/
  eof : Bool
deriving DecidableEq

variable (client : ClientBase)

/-- The memory of `read_buffer`. -/
def ClientBase.str : List Octet := client.text ++ nul :: client.tail

/-- A new connection, on a port with TLS from the start or without. -/
def clientNew (tls : Bool) : ClientBase := ⟨[], [], 0, tls, tls, false, false⟩

/-- `p_string_append_len` on `read_buffer`. -/
def ClientBase.append (chunk : Bytes) : ClientBase :=
  { client with
    text := client.text ++ chunk.map fun byte => ⟨byte, client.ssl⟩
    tail := client.tail.drop chunk.length }

/-- `client_rbuf_clear`, which leaves the offset as it is. -/
def ClientBase.rbufClear : ClientBase :=
  if client.text = [] then client else { client with text := [], tail := client.str.drop 1 }

/-- `client_rbuf_scale`. -/
def ClientBase.rbufScale : ClientBase :=
  if client.offset = client.text.length then { client.rbufClear with offset := 0 } else client

def ClientBase.advance (count : Nat) : ClientBase :=
  { client with offset := client.offset + count }.rbufScale

/-! ## Reading from the socket -/

/-- How the reads of one callback end: the socket is drained, it returns 0, or
it fails. -/
inductive ReadEnd where
  | again
  | closed
  | broken

def ClientBase.readEnd : ReadEnd → ClientBase
  | .again => client
  -- a plain read of 0 sets both flags, an orderly end of TLS only one
  | .closed => { client with failed := client.failed || !client.ssl, eof := true }
  | .broken => { client.rbufClear with failed := true }

/-- All available data goes into the read buffer. -/
def ciReadCb (chunks : List Bytes) (ending : ReadEnd) : ClientBase :=
  (chunks.foldl (fun client chunk => { client.append chunk with failed := false, eof := false })
    client).readEnd ending

/-! ## Taking input from the buffer -/

def maxLinesize : Nat := 64 * 1024

def lineOf : List Octet → Option (List Octet)
  | [] => none
  | octet :: rest =>
    if octet.byte = 0 then none
    else if octet.byte = 10 then some [octet]
    else (lineOf rest).map (octet :: ·)

/-- The line that was taken, empty when there is none. -/
def ciReadln : ClientBase × List Octet :=
  match lineOf (client.str.drop client.offset) with
  | none => (client, [])
  | some line =>
    if maxLinesize < line.length then ({ client with failed := true }, [])
    else (client.advance line.length, line)

/-- `ci_read`: `count` bytes or none. -/
def ciRead (count : Nat) : ClientBase × List Octet :=
  if client.offset + count ≤ client.text.length then
    (client.advance count, (client.str.drop client.offset).take count)
  else (client, [])

/-! ## STARTTLS -/

/-- What `ci_starttls` meets: `tls_setup` fails, `SSL_accept` succeeds, it has
to wait for the peer, or it fails for good. -/
inductive Handshake where
  | noContext
  | accepted
  | waiting
  | refused
deriving DecidableEq

/-- `ci_starttls` ends with TLS in place. -/
def Handshake.succeeds : Handshake → Bool
  | .accepted | .waiting => true
  | .noContext | .refused => false

def dmEGeneral : Int := 1

def ciStarttls (handshake : Handshake) : ClientBase × Int :=
  if client.ssl && client.sslState then (client, dmEGeneral)
  else if !client.ssl && handshake = .noContext then
    ({ client with sslState := false }, dmEGeneral)
  else if handshake = .refused then
    ({ client.rbufClear with ssl := false, sslState := false }, dmEGeneral)
  else ({ client with ssl := true, sslState := true }, 0)

/-! ## What can still be read -/

/-- The octets that later reads can return. Behind the end of the buffer, where
clearing it can leave the offset, a line is still found in what the memory held
before. -/
def ClientBase.unread : List Octet :=
  if client.offset ≤ client.text.length then client.text.drop client.offset
  else (client.tail.drop (client.offset - client.text.length - 1)).takeWhile (·.byte ≠ 0)

open ClientBase

variable (client : ClientBase) {octet : Octet} {count : Nat} {handshake : Handshake}

theorem str_drop_of_le {client : ClientBase} (inside : client.offset ≤ client.text.length) :
    client.str.drop client.offset = client.unread ++ nul :: client.tail := by
  rw [str, drop_append_of_le_length inside, unread, if_pos inside]

theorem str_drop_of_lt {client : ClientBase} (behind : client.text.length < client.offset) :
    client.str.drop client.offset = client.tail.drop (client.offset - client.text.length - 1) := by
  obtain ⟨gap, distance⟩ : ∃ gap, client.offset = client.text.length + (gap + 1) :=
    ⟨client.offset - client.text.length - 1, by omega⟩
  rw [str, distance, drop_length_add_append, drop_succ_cons]
  congr 1
  omega

/-- What a C string function sees behind the offset can still be read. -/
theorem takeWhile_str_isPrefix :
    (client.str.drop client.offset).takeWhile (·.byte ≠ 0) <+: client.unread := by
  by_cases inside : client.offset ≤ client.text.length
  · rw [str_drop_of_le inside, takeWhile_append]
    split
    · simp [nul]
    · exact takeWhile_prefix _
  · rw [str_drop_of_lt (by omega), unread, if_neg inside]

theorem unread_append (chunk : Bytes) (unread : octet ∈ (client.append chunk).unread) :
    octet ∈ client.unread ∨ octet.secure = client.ssl := by
  have received : ∀ octet ∈ chunk.map fun byte => (⟨byte, client.ssl⟩ : Octet),
      octet.secure = client.ssl := by
    intro octet member
    obtain ⟨byte, -, rfl⟩ := mem_map.mp member
    rfl
  simp only [ClientBase.unread, append, length_append, length_map] at unread
  split at unread
  · rw [drop_append, mem_append] at unread
    obtain old | new := unread
    · left
      have inside : client.offset ≤ client.text.length := by
        by_contra behind
        rw [drop_of_length_le (by omega)] at old
        cases old
      rwa [ClientBase.unread, if_pos inside]
    · exact .inr (received octet (mem_of_mem_drop new))
  · next behind =>
    left
    rw [drop_drop] at unread
    rw [ClientBase.unread, if_neg (by omega)]
    convert unread using 4
    omega

theorem unread_rbufClear (unread : octet ∈ client.rbufClear.unread) : octet ∈ client.unread := by
  unfold rbufClear at unread
  split at unread
  · exact unread
  · simp only [ClientBase.unread, length_nil, drop_nil, drop_drop] at unread
    split at unread
    · cases unread
    · next moved =>
      apply (takeWhile_str_isPrefix client).subset
      convert unread using 3
      omega

@[simp] theorem rbufClear_text : client.rbufClear.text = [] := by
  unfold rbufClear
  split
  · assumption
  · rfl

@[simp] theorem rbufClear_ssl : client.rbufClear.ssl = client.ssl := by
  unfold rbufClear
  split <;> rfl

@[simp] theorem rbufClear_sslState : client.rbufClear.sslState = client.sslState := by
  unfold rbufClear
  split <;> rfl

theorem unread_rbufScale (unread : octet ∈ client.rbufScale.unread) : octet ∈ client.unread := by
  unfold rbufScale at unread
  split at unread
  · simp [ClientBase.unread] at unread
  · exact unread

theorem takeWhile_drop (memory : List Octet)
    (within : count ≤ (memory.takeWhile (·.byte ≠ 0)).length) :
    (memory.drop count).takeWhile (·.byte ≠ 0) = (memory.takeWhile (·.byte ≠ 0)).drop count := by
  induction memory generalizing count with
  | nil => simp
  | cons octet rest ih =>
    cases count with
    | zero => simp
    | succ count =>
      by_cases nonzero : octet.byte = 0
      · simp [nonzero] at within
      · rw [takeWhile_cons_of_pos (by simpa using nonzero)] at within ⊢
        apply ih
        simpa using within

/-- A step that stays inside what can be read leaves the rest of it. -/
theorem unread_advance (within : count ≤ client.unread.length)
    (unread : octet ∈ (client.advance count).unread) : octet ∈ client.unread := by
  have moved := unread_rbufScale _ unread
  unfold ClientBase.unread at moved within ⊢
  simp only at moved
  by_cases inside : client.offset ≤ client.text.length
  · rw [if_pos inside, length_drop] at within
    rw [if_pos (by omega), ← drop_drop] at moved
    rw [if_pos inside]
    exact mem_of_mem_drop moved
  · rw [if_neg inside] at within ⊢
    rw [if_neg (by omega), show client.offset + count - client.text.length - 1 =
      client.offset - client.text.length - 1 + count by omega, ← drop_drop] at moved
    generalize client.tail.drop (client.offset - client.text.length - 1) = memory at moved within ⊢
    rw [takeWhile_drop memory within] at moved
    exact mem_of_mem_drop moved

/-! ## What the reads return -/

/-- Input taken from the buffer could still be read, and so can all that is left. -/
structure Taken (client after : ClientBase) (octets : List Octet) : Prop where
  octets_unread : ∀ octet ∈ octets, octet ∈ client.unread
  rest_unread : ∀ octet ∈ after.unread, octet ∈ client.unread
  ssl_eq : after.ssl = client.ssl
  sslState_eq : after.sslState = client.sslState

theorem lineOf_isPrefix {octets line : List Octet} (found : lineOf octets = some line) :
    line <+: octets.takeWhile (·.byte ≠ 0) := by
  induction octets generalizing line with
  | nil => simp [lineOf] at found
  | cons octet rest ih =>
    rw [lineOf] at found
    split at found
    · simp at found
    · next nonzero =>
      rw [takeWhile_cons_of_pos (by simpa using nonzero)]
      split at found
      · simp only [Option.some.injEq] at found
        subst found
        exact ⟨_, rfl⟩
      · obtain ⟨remainder, foundRest, rfl⟩ := Option.map_eq_some_iff.mp found
        exact cons_prefix_cons.mpr ⟨rfl, ih foundRest⟩

theorem advance_ssl (count : Nat) :
    (client.advance count).ssl = client.ssl ∧ (client.advance count).sslState = client.sslState := by
  unfold advance rbufScale
  split <;> simp

theorem taken_advance {octets : List Octet} (front : octets <+: client.unread) :
    Taken client (client.advance octets.length) octets where
  octets_unread := fun _ member => front.subset member
  rest_unread := fun _ member => unread_advance client front.length_le member
  ssl_eq := (advance_ssl client _).1
  sslState_eq := (advance_ssl client _).2

theorem taken_nothing {client after : ClientBase} (unread : after.unread = client.unread)
    (ssl : after.ssl = client.ssl) (sslState : after.sslState = client.sslState) :
    Taken client after [] where
  octets_unread := by simp
  rest_unread := by simp [unread]
  ssl_eq := ssl
  sslState_eq := sslState

theorem taken_ciReadln : Taken client (ciReadln client).1 (ciReadln client).2 := by
  unfold ciReadln
  split
  · exact taken_nothing rfl rfl rfl
  · next line found =>
    split
    · exact taken_nothing rfl rfl rfl
    · apply taken_advance
      exact (lineOf_isPrefix found).trans (takeWhile_str_isPrefix client)

theorem taken_ciRead (count : Nat) :
    Taken client (ciRead client count).1 (ciRead client count).2 := by
  unfold ciRead
  split
  · next enough =>
    have inside : client.offset ≤ client.text.length := by omega
    have length : client.unread.length = client.text.length - client.offset := by
      rw [unread, if_pos inside, length_drop]
    have front : (client.str.drop client.offset).take count = client.unread.take count := by
      rw [str_drop_of_le inside, take_append_of_le_length (by omega)]
    have size : ((client.str.drop client.offset).take count).length = count := by
      rw [front, length_take]
      omega
    have taken := taken_advance client (front ▸ take_prefix count client.unread)
    rwa [size] at taken
  · exact taken_nothing rfl rfl rfl

/-- After the reads of a callback, what can be read could be read before or came
in now, and then as the connection was. -/
theorem unread_ciReadCb (chunks : List Bytes) (ending : ReadEnd) :
    (ciReadCb client chunks ending).ssl = client.ssl ∧
      (ciReadCb client chunks ending).sslState = client.sslState ∧
      ∀ octet ∈ (ciReadCb client chunks ending).unread,
        octet ∈ client.unread ∨ octet.secure = client.ssl := by
  induction chunks generalizing client with
  | nil =>
    cases ending with
    | again | closed => exact ⟨rfl, rfl, fun _ member => .inl member⟩
    | broken =>
      refine ⟨rbufClear_ssl client, rbufClear_sslState client, ?_⟩
      exact fun _ member => .inl (unread_rbufClear client member)
  | cons chunk rest ih =>
    obtain ⟨ssl, sslState, unread⟩ :=
      ih { client.append chunk with failed := false, eof := false }
    refine ⟨ssl, sslState, ?_⟩
    intro octet member
    obtain old | new := unread octet member
    · exact unread_append client chunk old
    · exact .inr new

/-! ## What STARTTLS leaves -/

theorem unread_ciStarttls (handshake : Handshake)
    (unread : octet ∈ (ciStarttls client handshake).1.unread) : octet ∈ client.unread := by
  unfold ciStarttls at unread
  split_ifs at unread
  · exact unread
  · exact unread
  · exact unread_rbufClear client unread
  · exact unread

theorem ciStarttls_succeeds {client : ClientBase} (plain : client.ssl = false)
    (secured : (ciStarttls client handshake).1.ssl = true) : handshake.succeeds = true := by
  cases handshake with
  | accepted | waiting => rfl
  | noContext | refused => simp [ciStarttls, plain] at secured

theorem ciStarttls_zero {client : ClientBase} (consistent : client.sslState = client.ssl)
    (returned : (ciStarttls client handshake).2 = 0) : handshake.succeeds = true := by
  cases handshake with
  | accepted | waiting => rfl
  | noContext | refused =>
    cases ssl : client.ssl <;> simp [ciStarttls, consistent, ssl, dmEGeneral] at returned

theorem ciStarttls_consistent {client : ClientBase} (consistent : client.sslState = client.ssl) :
    (ciStarttls client handshake).1.sslState = (ciStarttls client handshake).1.ssl := by
  unfold ciStarttls
  split_ifs with active noContext
  · exact consistent
  · simp only [Bool.and_eq_true, Bool.not_eq_true'] at noContext
    exact noContext.1.symm
  · rfl
  · rfl

/-! ## How long input can be taken -/

def ClientBase.budget (client : ClientBase) : Nat :=
  if client.offset = 0 ∧ client.text = [] then 0 else client.str.length - client.offset + 1

theorem budget_rbufClear : client.rbufClear.budget ≤ client.budget := by
  unfold rbufClear
  split
  · exact le_rfl
  · next used =>
    simp only [budget, used, and_false, if_false]
    split
    · omega
    · simp only [str, length_append, length_cons, length_drop, length_nil]
      omega

theorem budget_ciStarttls (handshake : Handshake) :
    (ciStarttls client handshake).1.budget ≤ client.budget := by
  unfold ciStarttls
  split_ifs
  · exact le_rfl
  · exact le_rfl
  · exact budget_rbufClear client
  · exact le_rfl

theorem budget_advance (positive : 0 < count) (within : client.offset + count ≤ client.str.length)
    (used : ¬(client.offset = 0 ∧ client.text = [])) :
    (client.advance count).budget < client.budget := by
  have before : client.budget = client.str.length - client.offset + 1 := if_neg used
  unfold advance rbufScale
  split
  · rw [budget, if_pos ⟨rfl, rbufClear_text _⟩]
    omega
  · rw [budget, if_neg (by simp; omega)]
    show client.str.length - (client.offset + count) + 1 < _
    omega

theorem budget_ciReadln (taken : (ciReadln client).2 ≠ []) :
    (ciReadln client).1.budget < client.budget := by
  unfold ciReadln at taken ⊢
  split at taken
  · exact absurd rfl taken
  · next line found =>
    split at taken
    · exact absurd rfl taken
    · next short =>
      have length := ((lineOf_isPrefix found).trans ( takeWhile_prefix _)).length_le
      have positive : 0 < line.length := length_pos_iff.mpr taken
      rw [length_drop] at length
      simp only [if_neg short]
      apply budget_advance client positive (by omega)
      intro start
      rw [str, start.1, start.2] at found
      simp [lineOf, nul] at found

theorem budget_ciRead (taken : (ciRead client count).2 ≠ []) :
    (ciRead client count).1.budget < client.budget := by
  unfold ciRead at taken ⊢
  split at taken
  · next within =>
    have positive : 0 < count := by
      by_contra zero
      apply taken
      simp [show count = 0 by omega]
    rw [if_pos within]
    apply budget_advance client positive
    · rw [str, length_append]
      omega
    · intro start
      rw [start.2] at within
      simp at within
      omega
  · exact absurd rfl taken

end Dbmail.Client
