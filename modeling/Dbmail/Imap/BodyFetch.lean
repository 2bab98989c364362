import Dbmail.Lib.CRuntime

/-!
Contract: the literals with which FETCH sends the sections of a message.

Owns the BODY items of a request with their ranges, `send_data`, `get_dumpsize`,
`_imap_send_part`, `_send_headers` and the BODY[] branch of `_fetch_get_items`
(`dm_imapsession.c`), `p_string_erase` (`dm_string.c`), and which requests are framed as
they should be.

Does not own: how a section is found in a message.
-/

namespace Dbmail.Imap

open Dbmail.Lib List

/-! ## Sections and ranges -/

/-- A section: a C string, and as such an object in memory. -/
structure Section where
  bytes : Bytes
  nulFree : (0 : UInt8) ∉ bytes
  inMemory : bytes.length < 2 ^ 63

/-- A section that is sent by one `printf`, which counts in an `int`. -/
structure Printable extends Section where
  counted : bytes.length < 2 ^ 30

/-- `bodyfetch->octetstart` of a range `<start.count>`, read with `strtoull`. -/
def octetstart : Option (Nat × Nat) → Nat
  | none => 0
  | some (start, _) => min start (2 ^ 64 - 1)

/-- `bodyfetch->octetcnt`, read with `strtoll`. No range is a count of 0. -/
def octetcnt : Option (Nat × Nat) → Nat
  | none => 0
  | some (_, count) => min count (2 ^ 63 - 1)

/-- The number in the braces, and what is sent behind them. -/
structure Literal where
  announced : Nat
  sent : Bytes
deriving DecidableEq

/-! ## Sending -/

/-- The loop of `send_data`, with a buffer of `SEND_BUF_SIZE` bytes. -/
def sendLoop (head : Bytes) (len : Nat) : Bytes :=
  if len = 0 then []
  else
    let l := min len 8191
    (head.take l).takeWhile (· ≠ 0) ++ sendLoop (head.drop l) (len - l)
termination_by len

def sendData (stream : Bytes) (offset len : Nat) : Bytes :=
  if stream.length < (offset + len) % 2 ^ 64 then [] else sendLoop (stream.drop offset) len

/-- The branch for BODY[] in `_fetch_get_items`. -/
def bodyTotal (stream : Section) (start count : Nat) : Literal :=
  let size := stream.bytes.length
  if count = 0 then ⟨size, sendData stream.bytes 0 size⟩
  else
    let length :=
      if start ≤ size then if size < (start + count) % 2 ^ 64 then size - start else count else 0
    ⟨length, sendData stream.bytes start length⟩

def getDumpsize (start count dumpsize : Nat) : Nat :=
  if dumpsize < start then 0
  else if count < (start + dumpsize) % 2 ^ 64 then count
  else dumpsize - start

/-- `p_string_erase` at position 0. The length is an `int`. For a negative one it is set to that
of the string, again as an `int`, nothing is moved, and the end is written behind the string if
that is negative too. -/
def erase (text : Bytes) (len : Nat) : Except Fault Bytes :=
  let used := text.length
  if len % 2 ^ 32 < 2 ^ 31 then .ok (text.drop (len % 2 ^ 32))
  else if used % 2 ^ 32 < 2 ^ 31 then .ok (text.take (used - used % 2 ^ 32))
  else .error .outOfBounds

/-- `_imap_send_part`. A part that is empty or not there is answered with NIL. -/
def imapSendPart (part : Printable) (start count : Nat) : Except Fault (Option Literal) :=
  let len := part.bytes.length
  if len < 1 then .ok none
  else if 0 < count then
    let cnt := getDumpsize start count len
    (erase part.bytes (min start len)).map fun rest => some ⟨cnt, rest.take cnt⟩
  else .ok (some ⟨len, part.bytes⟩)

def crlf : Bytes := [13, 10]

/-- With the header lines that were found for the message. -/
def sendHeaders (headers : Option Printable) (start count : Nat) : Literal :=
  match headers with
  | none => ⟨2, crlf⟩
  | some headers =>
    let text := headers.bytes
    if 0 < count then
      let rest := if 0 < start ∧ start < text.length then text.drop start else text
      let cut := rest.take count
      ⟨cut.length + 2, cut ++ crlf⟩
    else ⟨text.length + 2, text ++ crlf⟩

/-! ## Framing -/

/-- `body_fetch`, one for each item of the request: BODY, BODY[], a part or its text, header or
MIME header, and header fields. -/
inductive BodyFetch where
  | bare
  | total (range : Option (Nat × Nat))
  | part (text : Printable) (range : Option (Nat × Nat))
  | headers (found : Option Printable) (range : Option (Nat × Nat))

namespace BodyFetch

def range : BodyFetch → Option (Nat × Nat)
  | .bare => none
  | .total range | .part _ range | .headers _ range => range

/-- The section of an item; header lines are followed by an empty line. BODY has a list. -/
def bytes (stream : Section) : BodyFetch → Bytes
  | .bare => []
  | .total _ => stream.bytes
  | .part text _ => text.bytes
  | .headers found _ => (found.map (·.bytes)).getD [] ++ crlf

/-- What is sent for an item. `self->fi->bodyfetch` points to the last item of the request, and
BODY[] takes its range. -/
def literal (stream : Section) (last : Option (Nat × Nat)) :
    BodyFetch → Except Fault (Option Literal)
  | .bare => .ok none
  | .total _ => .ok (some (bodyTotal stream (octetstart last) (octetcnt last)))
  | .part text range => imapSendPart text (octetstart range) (octetcnt range)
  | .headers found range => .ok (some (sendHeaders found (octetstart range) (octetcnt range)))

end BodyFetch

/-- The range of the last item. -/
def lastRange (items : List BodyFetch) : Option (Nat × Nat) := items.getLast?.bind BodyFetch.range

/-- Where a range of a section begins, and how many bytes it has. -/
def wanted (len : Nat) : Option (Nat × Nat) → Nat × Nat
  | none => (0, len)
  | some (start, count) => (start, min count (len - start))

def rangeOf (bytes : Bytes) (range : Nat × Nat) : Bytes := (bytes.drop range.1).take range.2

/-- A literal announces what is sent, and this is the range of the section. -/
def Literal.Frames (literal : Literal) (bytes : Bytes) (range : Nat × Nat) : Prop :=
  literal.announced = literal.sent.length ∧ literal.announced = range.2 ∧
    literal.sent = rangeOf bytes range

/-- Only an empty section has no literal. -/
def BodyFetch.Framed (stream : Section) (last : Option (Nat × Nat)) (item : BodyFetch) : Prop :=
  match item.literal stream last with
  | .error _ => False
  | .ok none => item.bytes stream = []
  | .ok (some literal) =>
    literal.Frames (item.bytes stream) (wanted (item.bytes stream).length item.range)

/-- Every item of a request is framed. -/
def Framed (stream : Section) (items : List BodyFetch) : Prop :=
  ∀ item ∈ items, item.Framed stream (lastRange items)

/-- A count of 0 is taken for no range. -/
def effective : Option (Nat × Nat) → Option (Nat × Nat)
  | some (_, 0) => none
  | range => range

/-- The items that are framed. BODY[] is sent with the range of the last item, a count of 0 is
taken for no range, `get_dumpsize` adds where it should subtract, and header lines are cut before
their empty line is added. -/
def BodyFetch.Framable (stream : Section) (last : Option (Nat × Nat)) : BodyFetch → Prop
  | .bare | .part _ none | .headers _ none => True
  | .total range =>
    let asked := wanted stream.bytes.length range
    let shown := wanted stream.bytes.length (effective last)
    asked.2 = shown.2 ∧
      (asked.1 = shown.1 ∨ rangeOf stream.bytes asked = rangeOf stream.bytes shown)
  | .part text (some (start, count)) =>
    let len := text.bytes.length
    text.bytes = [] ∨ count ≠ 0 ∧ ¬ (start ≤ len ∧ len - start < min count (2 ^ 63 - 1) ∧
      min count (2 ^ 63 - 1) < start + len)
  | .headers found (some (start, count)) =>
    let len := ((found.map (·.bytes)).getD []).length
    (start = 0 ∨ start < len) ∧ len + 2 ≤ start + count

theorem wanted_within (len : Nat) (range : Option (Nat × Nat)) :
    (wanted len range).2 ≤ len - (wanted len range).1 := by
  cases range with
  | none => exact le_rfl
  | some range => exact Nat.min_le_right _ _

theorem length_rangeOf_wanted (bytes : Bytes) (range : Option (Nat × Nat)) :
    (rangeOf bytes (wanted bytes.length range)).length = (wanted bytes.length range).2 := by
  rw [rangeOf, length_take, length_drop, Nat.min_eq_left (wanted_within _ _)]

theorem framed_of_literal {stream : Section} {last : Option (Nat × Nat)} {item : BodyFetch}
    {literal : Literal} (sends : item.literal stream last = .ok (some literal)) :
    item.Framed stream last ↔
      literal.announced = (wanted (item.bytes stream).length item.range).2 ∧
        literal.sent =
          rangeOf (item.bytes stream) (wanted (item.bytes stream).length item.range) := by
  rw [BodyFetch.Framed, sends]
  constructor
  · exact And.right
  · rintro ⟨announced, sent⟩
    refine ⟨?_, announced, sent⟩
    rw [announced, sent, length_rangeOf_wanted]

theorem sendLoop_eq {head : Bytes} {len : Nat} (nulFree : (0 : UInt8) ∉ head) :
    sendLoop head len = head.take len := by
  induction head, len using sendLoop.induct with
  | case1 head => rw [sendLoop, if_pos rfl, take_zero]
  | case2 head len some_ l ih =>
    have clean : (head.take l).takeWhile (· ≠ 0) = head.take l := by
      rw [takeWhile_eq_self_iff]
      intro byte member
      have other : byte ≠ 0 := fun same => nulFree (same ▸ mem_of_mem_take member)
      simpa using other
    rw [sendLoop, if_neg some_]
    show (head.take l).takeWhile _ ++ sendLoop (head.drop l) (len - l) = _
    rw [clean, ih fun member => nulFree (mem_of_mem_drop member), ← take_add]
    congr 1
    omega

theorem sendData_eq (stream : Section) {offset len : Nat}
    (within : offset + len ≤ stream.bytes.length) :
    sendData stream.bytes offset len = (stream.bytes.drop offset).take len := by
  rw [sendData, if_neg (by omega)]
  exact sendLoop_eq fun member => stream.nulFree (mem_of_mem_drop member)

/-- BODY[] is sent as the range that it takes asks for. -/
theorem bodyTotal_eq (stream : Section) (last : Option (Nat × Nat)) :
    bodyTotal stream (octetstart last) (octetcnt last) =
      ⟨(wanted stream.bytes.length (effective last)).2,
        rangeOf stream.bytes (wanted stream.bytes.length (effective last))⟩ := by
  have small := stream.inMemory
  have whole := @sendData_eq stream 0 stream.bytes.length (by omega)
  unfold bodyTotal
  match last with
  | none => simp [octetcnt, effective, wanted, rangeOf, whole]
  | some (start, 0) => simp [octetcnt, effective, wanted, rangeOf, whole]
  | some (start, count + 1) =>
    have starts : octetstart (some (start, count + 1)) = min start (2 ^ 64 - 1) := rfl
    have counts : octetcnt (some (start, count + 1)) = min (count + 1) (2 ^ 63 - 1) := rfl
    generalize octetstart _ = first at starts ⊢
    generalize octetcnt _ = most at counts ⊢
    have length : (if first ≤ stream.bytes.length then
        if stream.bytes.length < (first + most) % 2 ^ 64 then stream.bytes.length - first
        else most else 0) = min (count + 1) (stream.bytes.length - start) := by
      split_ifs <;> omega
    have range : wanted stream.bytes.length (effective (some (start, count + 1))) =
        (start, min (count + 1) (stream.bytes.length - start)) := rfl
    rw [if_neg (by omega), length, range, rangeOf]
    dsimp only
    by_cases inside : start ≤ stream.bytes.length
    · rw [show first = start by omega, sendData_eq stream (by omega)]
    · rw [sendData, if_pos (by omega), drop_of_length_le (by omega), take_nil]

theorem total_framed_iff (stream : Section) (last range : Option (Nat × Nat)) :
    (BodyFetch.total range).Framed stream last ↔ (BodyFetch.total range).Framable stream last := by
  have literal : (BodyFetch.total range).literal stream last = .ok (some _) :=
    congrArg (Except.ok ∘ some) (bodyTotal_eq stream last)
  rw [framed_of_literal literal]
  dsimp only [BodyFetch.bytes, BodyFetch.range, BodyFetch.Framable]
  refine ⟨fun ⟨length, sent⟩ => ⟨length.symm, .inr sent.symm⟩, fun ⟨length, either⟩ => ?_⟩
  refine ⟨length.symm, ?_⟩
  obtain start | same := either
  · rw [Prod.ext start length]
  · exact same.symm

theorem erase_eq {text : Bytes} {len : Nat} (small : len < 2 ^ 31) :
    erase text len = .ok (text.drop len) := by
  rw [erase, Nat.mod_eq_of_lt (by omega), if_pos small]

theorem part_framed_iff (stream : Section) (last : Option (Nat × Nat)) (text : Printable)
    (range : Option (Nat × Nat)) :
    (BodyFetch.part text range).Framed stream last ↔
      (BodyFetch.part text range).Framable stream last := by
  have small := text.counted
  by_cases empty : text.bytes = []
  · have nothing : (BodyFetch.part text range).literal stream last = .ok none := by
      simp [BodyFetch.literal, imapSendPart, empty]
    rw [BodyFetch.Framed, nothing]
    refine iff_of_true empty ?_
    cases range with
    | none => trivial
    | some range => exact .inl empty
  have nonempty := length_pos_iff.mpr empty
  cases range with
  | none =>
    have all : (BodyFetch.part text none).literal stream last =
        .ok (some ⟨text.bytes.length, text.bytes⟩) := by
      simp [BodyFetch.literal, imapSendPart, empty, octetcnt]
    rw [framed_of_literal all]
    exact iff_of_true ⟨rfl, take_length.symm⟩ trivial
  | some range =>
    obtain ⟨start, count⟩ := range
    by_cases none : count = 0
    · have all : (BodyFetch.part text (some (start, count))).literal stream last =
          .ok (some ⟨text.bytes.length, text.bytes⟩) := by
        simp [BodyFetch.literal, imapSendPart, empty, octetcnt, none]
      rw [framed_of_literal all]
      simp [BodyFetch.range, BodyFetch.bytes, wanted, BodyFetch.Framable, none, empty]
    · have announces : getDumpsize (min start (2 ^ 64 - 1)) (min count (2 ^ 63 - 1))
          text.bytes.length = min count (text.bytes.length - start) ↔
            ¬ (start ≤ text.bytes.length ∧ text.bytes.length - start < min count (2 ^ 63 - 1) ∧
              min count (2 ^ 63 - 1) < start + text.bytes.length) := by
        unfold getDumpsize
        split_ifs <;> omega
      generalize dumped : getDumpsize _ _ text.bytes.length = cnt at announces
      have cut : (BodyFetch.part text (some (start, count))).literal stream last =
          .ok (some ⟨cnt, (text.bytes.drop (min start text.bytes.length)).take cnt⟩) := by
        have same : min (min start (2 ^ 64 - 1)) text.bytes.length = min start text.bytes.length := by
          omega
        simp only [BodyFetch.literal, imapSendPart, octetstart, octetcnt, dumped, same]
        rw [if_neg (by omega), if_pos (by omega), erase_eq (by omega)]
        rfl
      have rest : text.bytes.drop (min start text.bytes.length) = text.bytes.drop start := by
        by_cases inside : start ≤ text.bytes.length
        · rw [Nat.min_eq_left inside]
        · rw [drop_of_length_le (by omega), drop_of_length_le (by omega)]
      rw [framed_of_literal cut, rest]
      dsimp [wanted, rangeOf, BodyFetch.bytes, BodyFetch.range, BodyFetch.Framable]
      constructor
      · rintro ⟨isCount, -⟩
        exact .inr ⟨none, announces.mp isCount⟩
      · rintro (nothing | ⟨-, exact_⟩)
        · exact absurd nothing empty
        · exact ⟨announces.mpr exact_, by rw [announces.mpr exact_]⟩

/-- Headers that are not found are sent like no headers. -/
theorem sendHeaders_eq (found : Option Printable) (start count : Nat) :
    sendHeaders found start count = let text := (found.map (·.bytes)).getD []
      let cut := if count = 0 then text
        else (if start < text.length then text.drop start else text).take count
      ⟨cut.length + 2, cut ++ crlf⟩ := by
  cases found with
  | none => simp [sendHeaders]
  | some headers =>
    simp only [sendHeaders, Nat.pos_iff_ne_zero]
    by_cases none : count = 0
    · simp [none]
    · by_cases first : start = 0 <;> simp [none, first]

theorem headers_framed_iff (stream : Section) (last : Option (Nat × Nat))
    (found : Option Printable) (range : Option (Nat × Nat)) :
    (BodyFetch.headers found range).Framed stream last ↔
      (BodyFetch.headers found range).Framable stream last := by
  have small : ((found.map (·.bytes)).getD []).length < 2 ^ 63 := by
    cases found with
    | none => decide
    | some headers => exact headers.inMemory
  have literal : (BodyFetch.headers found range).literal stream last = _ :=
    congrArg (Except.ok ∘ some) (sendHeaders_eq found _ _)
  rw [framed_of_literal literal]
  cases range with
  | none =>
    refine iff_of_true ⟨?_, ?_⟩ trivial
    · simp [BodyFetch.bytes, BodyFetch.range, wanted, octetcnt, crlf]
    · simp [BodyFetch.bytes, BodyFetch.range, wanted, rangeOf, octetcnt]
  | some range =>
    obtain ⟨start, count⟩ := range
    dsimp [BodyFetch.bytes, BodyFetch.range, wanted, rangeOf, BodyFetch.Framable]
    generalize (found.map fun headers => headers.bytes).getD [] = text at small ⊢
    have starts : octetstart (some (start, count)) = min start (2 ^ 64 - 1) := rfl
    have counts : octetcnt (some (start, count)) = min count (2 ^ 63 - 1) := rfl
    generalize octetstart _ = first at starts ⊢
    generalize octetcnt _ = most at counts ⊢
    have blank : (text ++ crlf).length = text.length + 2 := by simp [crlf]
    constructor
    · rintro ⟨announced, -⟩
      simp only [apply_ite List.length, length_take, length_drop] at announced
      split_ifs at announced <;> omega
    · rintro ⟨inside, reaches⟩
      have cut : (if most = 0 then text
          else (if first < text.length then text.drop first else text).take most) =
            text.drop start := by
        have short : (if first < text.length then text.drop first else text).length ≤ most := by
          split
          · rw [length_drop]
            omega
          · omega
        rw [if_neg (by omega), take_of_length_le short]
        obtain atStart | before := inside
        · simp [atStart, starts]
        · rw [if_pos (by omega), show first = start by omega]
      rw [cut, drop_append_of_le_length (by omega), take_of_length_le]
      · refine ⟨?_, rfl⟩
        rw [length_drop]
        omega
      · simp [crlf]
        omega

end Dbmail.Imap
