import Dbmail.Lib.TextLines
import Dbmail.Lib.NumberSet
import Dbmail.Pop3.Maildrop

/-!
Contract: the multi-line answers of RETR and TOP.

Owns `get_crlf_encoded_opt` (`dm_misc.c`), `find_end_of_header`,
`g_mime_object_get_body` (`dm_message.c`) and `db_get_message_lines` (`dm_db.c`),
each with its own scan of the text, and what a client reads back from the answers.

Does not own: how the text of a message is put together. Positions are natural
numbers, and the lines of a message are taken from what the encoder writes. That
is what the code does for a text of `i` bytes with `nl` line feeds if
`i + 3 * nl + 1 < 2^31`: the second encoding of RETR then fits its allocation, which
`getCrlfEncodedOpt` has, too.
-/

namespace Dbmail.Pop3

open Dbmail.Lib Dbmail.Mailbox Dbmail.Client List

/-! ## The scanners -/

/-- The second loop of `get_crlf_encoded_opt`. -/
def crlfLoop (dots : Bool) : (prev : UInt8) → Bytes → Bytes
  | _, [] => []
  | prev, curr :: rest =>
    (if curr = 10 ∧ prev ≠ 13 then [13] else []) ++
      (if dots ∧ curr = 46 ∧ prev = 10 then [46] else []) ++ curr :: crlfLoop dots curr rest

/-- What `get_crlf_encoded_opt` writes. The first loop leaves the last character in `prev`. -/
def crlfEncoded (text : Bytes) (dots : Bool) : Bytes :=
  crlfLoop dots (text.getLast?.getD 0) text

/-- The size in `g_new0(char, i+(2*nl)+1)`, a sum of `int`s. -/
def crlfAllocation (text : Bytes) : Int :=
  ((text.length + 2 * text.count 10 + 1 : Nat) : Int).bmod (2 ^ 32)

/-- `get_crlf_encoded_opt`. The `int` that counts the characters is the index of both loops; a
negative size is too large for the allocator, which aborts. -/
def getCrlfEncodedOpt (text : Bytes) (dots : Bool) : Except Fault Bytes :=
  if 2 ^ 31 ≤ text.length then .error .outOfBounds
  else if crlfAllocation text < 0 then .error .assertion
  else if crlfAllocation text < (crlfEncoded text dots).length + 1 then .error .outOfBounds
  else .ok (crlfEncoded text dots)

/-- The loop of `find_end_of_header` in a text of length `l`, from the character
behind position `i` on; the last one it reads is the terminating NUL. -/
def headerLoop (l : Nat) : (i : Nat) → (p1 p2 : UInt8) → Bytes → Nat
  | i, _, _, [] => i
  | i, p1, p2, c :: rest =>
    if c = 10 ∧ (p1 = 10 ∨ p1 = 13 ∧ p2 = 10) then (if i + 1 < l then i + 2 else i + 1)
    else headerLoop l (i + 1) c p1 rest

/-- `find_end_of_header`. The first character is skipped. -/
def findEndOfHeader : Bytes → Nat
  | [] => 0
  | first :: rest => headerLoop (first :: rest).length 0 0 0 (rest ++ [0])

/-- `g_mime_object_get_body` for an object of this text. -/
def gMimeObjectGetBody (text : Bytes) : Bytes :=
  if text.length ≤ findEndOfHeader text then [] else text.drop (findEndOfHeader text)

/-- The loop of `db_get_message_lines`: how far the next lines reach. -/
def linesLoop : (lines : Nat) → Bytes → Nat
  | 0, _ => 0
  | _, [] => 0
  | lines + 1, byte :: rest =>
    if byte = 10 then 1 + linesLoop lines rest else 1 + linesLoop (lines + 1) rest

/-- `db_get_message_lines` for the text of a message that the encoder can hold. -/
def getMessageLines (text : Bytes) (lines : Int) : Bytes :=
  let stream := crlfEncoded text false
  let pos :=
    if 0 ≤ lines then
      findEndOfHeader stream + linesLoop lines.toNat (stream.drop (findEndOfHeader stream))
    else 0
  if 0 < pos then crlfEncoded (stream.take pos) true else crlfEncoded stream true

/-! ## What a client reads -/

/-- The text is one that RETR and TOP can send: it has no NUL, it ends in a line end, and
its first line is not empty. -/
structure Sendable (text : Bytes) : Prop where
  nulFree : (0 : UInt8) ∉ text
  ends : text.getLast? = some 10
  header : (lineContents text).head? ≠ some []

def topLines (text : Bytes) (count : Nat) : List Bytes :=
  (lineContents text).takeWhile (· ≠ []) ++ ((lineContents text).dropWhile (· ≠ [])).take (count + 1)

/-- A client reads the lines back: behind the status line there are lines that end in CRLF,
none of them a single dot, then the terminator; without the leading dots they are the
lines of the message and one more line end. -/
def ReadsBack (reply : Bytes) (lines : List Bytes) : Prop :=
  ∃ status sent, reply = crlfText (status :: sent) ++ lit ".\r\n" ∧
    (∀ line ∈ status :: sent, line ≠ [46] ∧ (10 : UInt8) ∉ line) ∧
    crlfText (sent.map unstuff) = crlfText lines ++ lit "\r\n"

/-! ## Lines through the encoder -/

variable (dots : Bool) {text : Bytes} (count : Nat) {lines : List Bytes} (line rest : Bytes)

theorem crlfLoop_inside (prev : UInt8) (open_ : prev ≠ 10) (noLf : (10 : UInt8) ∉ line) :
    crlfLoop dots prev (line ++ 10 :: rest) =
      line ++ (if (prev :: line).getLast? = some 13 then [10] else [13, 10]) ++
        crlfLoop dots 10 rest := by
  induction line generalizing prev with
  | nil =>
    by_cases cr : prev = 13 <;> simp [crlfLoop, cr]
  | cons head tail ih =>
    have plain : head ≠ 10 := fun same => noLf (by simp [same])
    have further := ih head plain fun member => noLf (by simp [member])
    simp only [cons_append, crlfLoop, plain, open_]
    rw [further]
    simp

def encodedLine (dots : Bool) (line : Bytes) : Bytes :=
  if dots then stuff (stripCr line) else stripCr line

theorem crlfLoop_line (noLf : (10 : UInt8) ∉ line) : crlfLoop dots 10 (line ++ 10 :: rest) =
      encodedLine dots line ++ 13 :: 10 :: crlfLoop dots 10 rest := by
  cases line with
  | nil => cases dots <;> simp [crlfLoop, encodedLine, stripCr, stuff]
  | cons head tail =>
    have plain : head ≠ 10 := fun same => noLf (by simp [same])
    have copied := crlfLoop_inside dots tail rest head plain fun member => noLf (by simp [member])
    have ended : (head :: tail) ++ (if (head :: tail).getLast? = some 13 then [10] else [13, 10]) =
          stripCr (head :: tail) ++ [13, 10] := by
      have cr := congrArg (· ++ [10]) (stripCr_cr (head :: tail))
      simp only [append_assoc] at cr
      rw [show ([13] ++ [10] : Bytes) = [13, 10] from rfl] at cr
      rw [cr]
      split <;> simp
    have dotted : encodedLine dots (head :: tail) =
        (if dots = true ∧ head = 46 then [46] else []) ++ stripCr (head :: tail) := by
      unfold encodedLine
      cases dots with
      | true => simp [stuff_stripCr]
      | false => rfl
    calc crlfLoop dots 10 (head :: tail ++ 10 :: rest)
        = (if dots = true ∧ head = 46 then [46] else []) ++
            ((head :: tail) ++ (if (head :: tail).getLast? = some 13 then [10] else [13, 10])) ++
              crlfLoop dots 10 rest := by
          simp [crlfLoop, plain, copied]
      _ = encodedLine dots (head :: tail) ++ 13 :: 10 :: crlfLoop dots 10 rest := by
          rw [ended, dotted]
          simp

/-- A line feed pays for its CR and for the dot behind it. -/
theorem crlfLoop_length (prev : UInt8) (text : Bytes) :
    (crlfLoop dots prev text).length + (if text.getLast?.getD prev = 10 then 1 else 0) ≤
      text.length + 2 * text.count 10 + (if prev = 10 then 1 else 0) := by
  induction text generalizing prev with
  | nil => exact Nat.le_refl _
  | cons curr rest ih =>
    have later := ih curr
    rw [getLast?_cons, Option.getD_some, crlfLoop]
    by_cases isLf : curr = 10
    · subst isLf
      rw [if_pos rfl] at later
      grind
    · rw [if_neg isLf] at later
      grind

/-- The encoder writes no more than it has allocated: what the character left over from the first
pass is owed, the last line feed has paid. -/
theorem crlfEncoded_length (text : Bytes) :
    (crlfEncoded text dots).length ≤ text.length + 2 * text.count 10 := by
  cases text with
  | nil => exact Nat.le_refl _
  | cons first rest =>
    have bound := crlfLoop_length dots (rest.getLast?.getD first) (first :: rest)
    rw [getLast?_cons, Option.getD_some] at bound
    rw [crlfEncoded, getLast?_cons, Option.getD_some]
    omega

theorem crlfLoop_length_ge (prev : UInt8) (text : Bytes) :
    text.length ≤ (crlfLoop dots prev text).length := by
  induction text generalizing prev with
  | nil => exact Nat.le_refl _
  | cons curr rest ih =>
    have later := ih curr
    simp only [crlfLoop, length_append, length_cons]
    omega

/-- What the encoder writes is within its allocation, as far as an `int` holds the size. A larger
sum is negative, or so small that not even the text fits. -/
theorem getCrlfEncodedOpt_fits_iff (text : Bytes) :
    (crlfEncoded text dots).length ≤ text.length + 2 * text.count 10 ∧
      (getCrlfEncodedOpt text dots = .ok (crlfEncoded text dots) ↔
        text.length + 2 * text.count 10 + 1 < 2 ^ 31) := by
  have upper := crlfEncoded_length dots text
  have lower : text.length ≤ (crlfEncoded text dots).length := crlfLoop_length_ge dots _ text
  have feeds : text.count 10 ≤ text.length := count_le_length
  refine ⟨upper, ?_⟩
  unfold getCrlfEncodedOpt crlfAllocation
  generalize (crlfEncoded text dots).length = written at upper lower ⊢
  generalize text.count 10 = count at upper feeds ⊢
  generalize text.length = total at upper lower feeds ⊢
  constructor
  · intro fits
    by_contra wide
    split at fits
    · cases fits
    rename_i counted
    split at fits
    · cases fits
    rename_i positive
    split at fits
    · cases fits
    rename_i holds
    simp only [Int.bmod] at positive holds
    omega
  · intro small
    have value : ((total + 2 * count + 1 : Nat) : Int).bmod (2 ^ 32) = total + 2 * count + 1 := by
      rw [Int.bmod]
      omega
    rw [value, if_neg (by omega), if_neg (by omega), if_neg (by omega)]

theorem crlfAllocation_feeds (feeds : Nat) :
    crlfAllocation (replicate feeds 10) = ((feeds + 2 * feeds + 1 : Nat) : Int).bmod (2 ^ 32) := by
  unfold crlfAllocation
  rw [length_replicate, count_replicate_self]

/-- Nothing but line feeds, so many that the size wraps round and does not hold them. -/
theorem getCrlfEncodedOpt_feeds {feeds : Nat} (counted : feeds < 2 ^ 31)
    (wraps : 2 ^ 32 ≤ 3 * feeds + 1) :
    getCrlfEncodedOpt (replicate feeds 10) dots = .error .outOfBounds := by
  have lower := crlfLoop_length_ge dots ((replicate feeds 10).getLast?.getD 0) (replicate feeds 10)
  rw [length_replicate] at lower
  have size : crlfAllocation (replicate feeds 10) = 3 * feeds + 1 - 2 ^ 32 := by
    rw [crlfAllocation_feeds, Int.bmod]
    omega
  unfold getCrlfEncodedOpt
  rw [size, length_replicate, if_neg (by omega), if_neg (by omega), if_pos]
  unfold crlfEncoded
  omega

theorem getCrlfEncodedOpt_overrun :
    getCrlfEncodedOpt (replicate 1431655766 10) false = .error .outOfBounds ∧
      getCrlfEncodedOpt (replicate 1431655766 10) true = .error .outOfBounds :=
  ⟨getCrlfEncodedOpt_feeds false (by decide) (by decide),
    getCrlfEncodedOpt_feeds true (by decide) (by decide)⟩

theorem crlfLoop_lines (noLf : ∀ line ∈ lines, (10 : UInt8) ∉ line) :
    crlfLoop dots 10 (lfText lines) = crlfText (lines.map (encodedLine dots)) := by
  induction lines with
  | nil => rfl
  | cons head tail ih =>
    rw [lfText_cons, crlfLoop_line dots head _ (noLf head mem_cons_self),
      ih fun line member => noLf line (mem_cons_of_mem head member),
      map_cons, crlfText_cons]

/-- The stream of a text that ends in a line end has the contents of its lines. -/
theorem getCrlfEncoded_text (ends : text.getLast? = some 10) :
    crlfEncoded text false = crlfText (lineContents text) := by
  unfold crlfEncoded
  rw [ends]
  have lines := crlfLoop_lines false fun line member => @textLines_lf text line member
  rw [lfText_textLines ends] at lines
  exact lines

theorem crlfText_getLast (some_ : lines ≠ []) : (crlfText lines).getLast? = some 10 := by
  obtain ⟨front, last, rfl⟩ := eq_nil_or_concat lines |>.resolve_left some_
  simp [crlfText_append]

/-- With dots the encoder stuffs the lines of a CRLF text. -/
theorem getCrlfEncoded_dots (some_ : lines ≠ []) (noLf : ∀ line ∈ lines, (10 : UInt8) ∉ line) :
    crlfEncoded (crlfText lines) true = crlfText (lines.map stuff) := by
  unfold crlfEncoded
  rw [crlfText_getLast some_, crlfText_eq_lfText]
  show crlfLoop true 10 _ = _
  rw [crlfLoop_lines true, map_map]
  · congr 1
    apply map_congr_left
    intro line _
    simp [encodedLine]
  · intro line member
    obtain ⟨content, inside, rfl⟩ := mem_map.mp member
    simpa using noLf content inside

/-! ## The end of the header -/

/-- A line that holds something besides its line end. -/
structure HeaderLine (line : Bytes) : Prop where
  noLf : (10 : UInt8) ∉ line
  filled : line ≠ []
  notCr : line ≠ [13]

/-- An empty line without its line feed. -/
def Blank (line : Bytes) : Prop := line = [] ∨ line = [13]

section HeaderScan

variable {l i : Nat} {p1 p2 : UInt8} {line rest blank body : Bytes} {header : List Bytes}

theorem headerLoop_noLf (noLf : (10 : UInt8) ∉ rest) :
    headerLoop l i p1 p2 rest = i + rest.length := by
  induction rest generalizing i p1 p2 with
  | nil => rfl
  | cons head tail ih =>
    simp only [mem_cons, not_or] at noLf
    rw [headerLoop, if_neg (fun stops => noLf.1 stops.1.symm), ih noLf.2, length_cons]
    omega

theorem headerLoop_gt : i < headerLoop l i p1 p2 (rest ++ [0]) := by
  induction rest generalizing i p1 p2 with
  | nil => simp [headerLoop]
  | cons head tail ih =>
    rw [cons_append, headerLoop]
    split
    · split <;> omega
    · exact Nat.lt_of_succ_lt ih

/-- Behind a line feed it does not matter what stood before it. -/
theorem headerLoop_lf : headerLoop l i 10 p2 rest = headerLoop l i 10 0 rest := by
  cases rest <;> simp [headerLoop]

/-- The scan runs through a line that is not empty together with what was read before. -/
theorem headerLoop_line (noLf : (10 : UInt8) ∉ line)
    (filled : line = [] → ¬ (p1 = 10 ∨ p1 = 13 ∧ p2 = 10)) (notCr : line = [13] → p1 ≠ 10) :
    headerLoop l i p1 p2 (line ++ 10 :: rest) = headerLoop l (i + (line.length + 1)) 10 0 rest := by
  induction line generalizing i p1 p2 with
  | nil =>
    rw [nil_append, headerLoop, if_neg (fun stops => filled rfl stops.2)]
    exact headerLoop_lf
  | cons head tail ih =>
    simp only [mem_cons, not_or] at noLf
    rw [cons_append, headerLoop, if_neg (fun stops => noLf.1 stops.1.symm), ih noLf.2]
    · rw [length_cons, Nat.add_assoc i, Nat.add_comm 1]
    · rintro rfl (isLf | ⟨rfl, isLf⟩)
      · exact noLf.1 isLf.symm
      · exact notCr rfl isLf
    · exact fun _ isLf => noLf.1 isLf.symm

section Headed

variable (headed : ∀ line ∈ header, HeaderLine line)

include headed

theorem headerLoop_header :
    headerLoop l i 10 0 (lfText header ++ rest) =
      headerLoop l (i + (lfText header).length) 10 0 rest := by
  induction header generalizing i with
  | nil => rfl
  | cons line others ih =>
    have first := headed line mem_cons_self
    rw [lfText_cons, append_assoc, cons_append, headerLoop_line first.noLf
      (fun empty => absurd empty first.filled) (fun cr => absurd cr first.notCr),
      ih fun other member => headed other (mem_cons_of_mem line member), Nat.add_assoc,
      length_append, length_cons, Nat.add_assoc, Nat.add_comm 1]

/-- Behind a header the scan stands on its last line feed. -/
theorem findEndOfHeader_header (some_ : header ≠ []) :
    ∃ i, i + 1 = (lfText header).length ∧ findEndOfHeader (lfText header ++ rest) =
      headerLoop (lfText header ++ rest).length i 10 0 (rest ++ [0]) := by
  cases header with
  | nil => exact absurd rfl some_
  | cons line others =>
    have first := headed line mem_cons_self
    cases line with
    | nil => exact absurd rfl first.filled
    | cons head tail =>
      refine ⟨0 + (tail.length + 1) + (lfText others).length, by simp; omega, ?_⟩
      -- the first character is skipped: it can be no line feed
      rw [← headerLoop_header fun other member => headed other (mem_cons_of_mem _ member),
        ← @headerLoop_line _ _ 0 0 _ _ (fun member => first.noLf (by simp [member]))
          (fun _ => by decide) (fun _ => by decide)]
      simp [findEndOfHeader]

/-- The header of a text reaches behind its first empty line. -/
theorem findEndOfHeader_blank (some_ : header ≠ []) (isBlank : Blank blank) :
    findEndOfHeader (lfText header ++ (blank ++ 10 :: body)) =
      (lfText header ++ (blank ++ [10])).length := by
  obtain ⟨i, position, scan⟩ := @findEndOfHeader_header (blank ++ 10 :: body) _ headed some_
  rw [scan]
  rcases isBlank with rfl | rfl <;> simp [headerLoop, ← position]

/-- A text without an empty line is all header. -/
theorem findEndOfHeader_open (noLf : (10 : UInt8) ∉ rest) :
    findEndOfHeader (lfText header ++ rest) = (lfText header ++ rest).length := by
  by_cases some_ : header = []
  · subst some_
    cases rest with
    | nil => rfl
    | cons head tail =>
      show headerLoop _ 0 0 0 (tail ++ [0]) = _
      rw [headerLoop_noLf (by simpa using fun member => noLf (by simp [member]))]
      simp [lfText]
  · obtain ⟨i, position, scan⟩ := @findEndOfHeader_header rest _ headed some_
    rw [scan, headerLoop_noLf (by simpa using noLf), length_append, length_append, length_singleton]
    omega

end Headed

/-- Behind an empty line at the very start the scan goes on. -/
theorem findEndOfHeader_start (isBlank : Blank blank) (filled : body ≠ []) :
    (blank ++ [10]).length < findEndOfHeader (blank ++ 10 :: body) := by
  cases body with
  | nil => exact absurd rfl filled
  | cons first others =>
    rcases isBlank with rfl | rfl
    · simpa [findEndOfHeader, headerLoop] using headerLoop_gt
    · by_cases isLf : first = 10
      · simp [findEndOfHeader, headerLoop, isLf]
      · simpa [findEndOfHeader, headerLoop, isLf] using headerLoop_gt

/-- The text is split behind its header: where a header block, an empty line and a body make it
up, and where it has no empty line. -/
def SplitBehindHeader (text : Bytes) : Prop :=
  ∀ header : List Bytes, (∀ line ∈ header, HeaderLine line) →
    (∀ blank body, Blank blank → text = lfText header ++ (blank ++ 10 :: body) →
      findEndOfHeader text = (lfText header ++ (blank ++ [10])).length ∧
        gMimeObjectGetBody text = body) ∧
    ∀ last, (10 : UInt8) ∉ last → text = lfText header ++ last →
      findEndOfHeader text = text.length ∧ gMimeObjectGetBody text = []

/-- A text is split behind its header just if nothing follows an empty line at its start. -/
theorem splitBehindHeader_iff (text : Bytes) :
    SplitBehindHeader text ↔
      ∀ blank body, Blank blank → text = blank ++ 10 :: body → body = [] := by
  have getBody : gMimeObjectGetBody text = text.drop (findEndOfHeader text) := by
    unfold gMimeObjectGetBody
    split
    · rename_i whole
      exact (drop_eq_nil_of_le whole).symm
    · rfl
  constructor
  · intro split blank body isBlank isText
    by_contra filled
    have found := ((split [] (by simp)).1 blank body isBlank isText).1
    have beyond := findEndOfHeader_start isBlank filled
    rw [isText] at found
    exact beyond.ne' found
  · intro starts header headed
    rw [getBody]
    constructor
    · intro blank body isBlank isText
      have behind : findEndOfHeader text = (lfText header ++ (blank ++ [10])).length := by
        by_cases some_ : header = []
        · subst some_
          obtain rfl := starts blank body isBlank isText
          rw [isText]
          rcases isBlank with rfl | rfl <;> rfl
        · rw [isText, findEndOfHeader_blank headed some_ isBlank]
      have whole : text = (lfText header ++ (blank ++ [10])) ++ body := by simp [isText]
      exact ⟨behind, by rw [behind, whole, drop_left]⟩
    · intro last noLf isText
      have behind : findEndOfHeader text = text.length := by
        rw [isText, findEndOfHeader_open headed noLf]
      exact ⟨behind, by rw [behind, drop_length]⟩

/-- The body behind an empty header block is taken for a header. -/
theorem empty_header_loses_body : ¬ SplitBehindHeader (lit "\nX") := by
  intro split
  have found := ((split [] (by simp)).1 [] (lit "X") (.inl rfl) rfl).1
  revert found
  decide

end HeaderScan

/-- The header of a CRLF text reaches behind the first empty line. -/
theorem findEndOfHeader_lines (noLf : ∀ line ∈ lines, (10 : UInt8) ∉ line)
    (header : lines.head? ≠ some []) :
    findEndOfHeader (crlfText lines) =
      (crlfText (lines.takeWhile (· ≠ []) ++ (lines.dropWhile (· ≠ [])).take 1)).length := by
  have headed : ∀ line ∈ (lines.takeWhile (· ≠ [])).map (· ++ [13]), HeaderLine line := by
    intro line member
    obtain ⟨content, inside, rfl⟩ := mem_map.mp member
    have filled : content ≠ [] := by simpa using mem_takeWhile_imp inside
    have plain := noLf content ((takeWhile_sublist _).subset inside)
    exact ⟨by simpa using plain, by simp, by simpa using filled⟩
  have whole := @List.takeWhile_append_dropWhile _ (· ≠ []) lines
  have stops := List.head?_dropWhile_not (· ≠ []) lines
  generalize lines.takeWhile (· ≠ []) = filled, lines.dropWhile (· ≠ []) = rest at *
  subst whole
  cases rest with
  | nil =>
    have all := @findEndOfHeader_open [] _ headed (by simp)
    rw [← crlfText_eq_lfText] at all
    simpa using all
  | cons blank body =>
    obtain rfl : blank = [] := by simpa using stops
    have behind := @findEndOfHeader_blank [13] (crlfText body) _ headed
      (by
        rintro empty
        simp [map_eq_nil_iff.mp empty] at header)
      (.inr rfl)
    rw [← crlfText_eq_lfText] at behind
    simpa [crlfText_append] using behind

/-! ## Counted lines -/

theorem linesLoop_line (noLf : (10 : UInt8) ∉ line) :
    linesLoop (count + 1) (line ++ 10 :: rest) = line.length + 1 + linesLoop count rest := by
  induction line with
  | nil => simp [linesLoop]
  | cons head tail ih =>
    have plain : head ≠ 10 := fun same => noLf (by simp [same])
    rw [cons_append, linesLoop, if_neg plain, ih fun member => noLf (by simp [member]), length_cons]
    omega

theorem linesLoop_lines (noLf : ∀ line ∈ lines, (10 : UInt8) ∉ line) :
    linesLoop count (crlfText lines) = (crlfText (lines.take count)).length := by
  induction lines generalizing count with
  | nil => cases count <;> simp [linesLoop]
  | cons head tail ih =>
    cases count with
    | zero => simp [linesLoop]
    | succ count =>
      have counted := linesLoop_line count (head ++ [13]) (crlfText tail)
        (by simpa using noLf head mem_cons_self)
      rw [ih count fun line member =>
        noLf line (mem_cons_of_mem _ member), append_assoc] at counted
      rw [crlfText_cons]
      rw [singleton_append] at counted
      rw [counted]
      simp
      omega

/-! ## The lines of a message -/

theorem Sendable.lines_ne_nil (sendable : Sendable text) : lineContents text ≠ [] := by
  apply lineContents_ne_nil
  intro empty
  have ends := sendable.ends
  rw [empty] at ends
  cases ends

/-- The whole message is sent for a negative number of lines. -/
theorem getMessageLines_whole (sendable : Sendable text) {lines : Int} (negative : lines < 0) :
    getMessageLines text lines = crlfText ((lineContents text).map stuff) := by
  unfold getMessageLines
  dsimp only
  rw [if_neg (Int.not_le.mpr negative), if_neg (Nat.lt_irrefl 0), getCrlfEncoded_text sendable.ends,
    getCrlfEncoded_dots sendable.lines_ne_nil fun line member => lineContents_lf member]

theorem topLines_append (text : Bytes) (count : Nat) :
    topLines text count ++ ((lineContents text).dropWhile (· ≠ [])).drop (count + 1) =
      lineContents text := by
  unfold topLines
  rw [append_assoc, take_append_drop, takeWhile_append_dropWhile]

theorem mem_topLines_lf {text line : Bytes} {count : Nat} (member : line ∈ topLines text count) :
    (10 : UInt8) ∉ line := by
  apply @lineContents_lf text line
  rw [← topLines_append text count]
  exact mem_append_left _ member

theorem Sendable.topLines_ne_nil (sendable : Sendable text) (count : Nat) :
    topLines text count ≠ [] := by
  have header := sendable.header
  unfold topLines
  cases lines : lineContents text with
  | nil => exact absurd lines sendable.lines_ne_nil
  | cons head tail =>
    rw [lines] at header
    have filled : head ≠ [] := fun empty => header (by simp [empty])
    simp [filled]

/-- For a number of lines the header, the separator and so many lines are sent. -/
theorem getMessageLines_top (sendable : Sendable text) (count : Nat) :
    getMessageLines text count = crlfText ((topLines text count).map stuff) := by
  have noLf : ∀ line ∈ lineContents text, (10 : UInt8) ∉ line := fun line => lineContents_lf
  generalize headed : (lineContents text).takeWhile (· ≠ []) ++
    ((lineContents text).dropWhile (· ≠ [])).take 1 = head
  generalize bodied : ((lineContents text).dropWhile (· ≠ [])).drop 1 = body
  have split : lineContents text = head ++ body := by
    rw [← headed, ← bodied, append_assoc, take_append_drop, takeWhile_append_dropWhile]
  have tops : topLines text count = head ++ body.take count := by
    rw [topLines, Nat.add_comm, take_add, ← append_assoc, headed, bodied]
  have stream : crlfEncoded text false = crlfText head ++ crlfText body := by
    rw [getCrlfEncoded_text sendable.ends, split, crlfText_append]
  have endOfHeader : findEndOfHeader (crlfText head ++ crlfText body) = (crlfText head).length := by
    rw [← crlfText_append, ← split, findEndOfHeader_lines noLf sendable.header, headed]
  have counted : linesLoop count (crlfText body) = (crlfText (body.take count)).length :=
    linesLoop_lines count fun line member => noLf line (by rw [split]; simp [member])
  have taken : (crlfText head ++ crlfText body).take
      ((crlfText head).length + (crlfText (body.take count)).length) =
        crlfText (topLines text count) := by
    rw [tops, crlfText_append, take_length_add_append]
    congr 1
    calc (crlfText body).take (crlfText (body.take count)).length
        = (crlfText (body.take count ++ body.drop count)).take
            (crlfText (body.take count)).length := by rw [take_append_drop]
      _ = crlfText (body.take count) := by rw [crlfText_append, take_left]
  have positive : 0 < (crlfText head).length + (crlfText (body.take count)).length := by
    rw [← length_append, ← crlfText_append, ← tops]
    exact length_pos_iff.mpr fun empty => sendable.topLines_ne_nil count
      (by
        cases lines : topLines text count with
        | nil => rfl
        | cons first rest => rw [lines] at empty; simp at empty)
  unfold getMessageLines
  dsimp only
  rw [stream, if_pos (Int.natCast_nonneg count), endOfHeader, Int.toNat_natCast, drop_left,
    counted, if_pos positive, taken, getCrlfEncoded_dots (sendable.topLines_ne_nil count)
      fun line => mem_topLines_lf]

/-! ## Numbers of a TOP command -/

/-- A count that does not fit a `long` asks for the whole message, which has fewer lines. -/
theorem getMessageLines_count {text count : Bytes} (sendable : Sendable text)
    (inMemory : text.length < 2 ^ 63) (onlyDigits : count.all isDigit = true) :
    getMessageLines text (toLong (strtoul count).1) =
      crlfText ((topLines text (decimal count)).map stuff) := by
  rw [strtoul_digits onlyDigits]
  by_cases fits : decimal count < 2 ^ 63
  · have small : ¬ 2 ^ 64 ≤ decimal count := by omega
    rw [if_neg small, toLong, if_pos fits, getMessageLines_top sendable]
  · have all : topLines text (decimal count) = lineContents text := by
      have short : (lineContents text).length ≤ text.length := by
        simpa [lineContents] using textLines_length_le text
      have rest : ((lineContents text).dropWhile (· ≠ [])).drop (decimal count + 1) = [] := by
        apply drop_eq_nil_of_le
        exact Nat.le_trans (dropWhile_sublist _).length_le (by omega)
      have parts := topLines_append text (decimal count)
      rwa [rest, append_nil] at parts
    have negative : toLong (if 2 ^ 64 ≤ decimal count then 2 ^ 64 - 1 else decimal count) < 0 := by
      unfold toLong
      split <;> omega
    rw [getMessageLines_whole sendable negative, all]

/-! ## Answers -/

/-- Stuffed lines between a status line and the terminator are read back. -/
theorem readsBack_lines {status : Bytes} {lines : List Bytes} (positive : status.head? = some 43)
    (oneLine : (10 : UInt8) ∉ status) (noLf : ∀ line ∈ lines, (10 : UInt8) ∉ line) :
    ReadsBack (status ++ lit "\r\n" ++ crlfText (lines.map stuff) ++ lit "\r\n.\r\n") lines := by
  refine ⟨status, lines.map stuff ++ [[]], ?_, ?_, ?_⟩
  · have crlf : lit "\r\n.\r\n" = 13 :: 10 :: lit ".\r\n" := by decide
    have crlf' : lit "\r\n" = [13, 10] := by decide
    rw [crlf, crlf', crlfText_cons, crlfText_append]
    simp
  · intro line member
    obtain rfl | sent := mem_cons.mp member
    · constructor
      · rintro rfl
        cases positive
      · exact oneLine
    · obtain stuffed | last := mem_append.mp sent
      · obtain ⟨content, inside, rfl⟩ := mem_map.mp stuffed
        exact ⟨stuff_ne_dot content nofun, not_mem_stuff (by decide) (noLf content inside)⟩
      · obtain rfl := mem_singleton.mp last
        simp
  · have back : (lines.map stuff).map unstuff = lines := by
      rw [map_map]
      exact (map_congr_left fun line _ => unstuff_stuff line).trans (map_id lines)
    have crlf' : lit "\r\n" = [13, 10] := by decide
    rw [map_append, back, crlfText_append]
    rfl

/-- The answers to RETR and TOP are the lines of the message, framed. -/
theorem multiline_framed (tables : Tables) (session : Session) (met : Met) (ssl : Bool)
    (input value text : Bytes) (sendable : Sendable text) (inMemory : text.length < 2 ^ 63)
    (argument : lineValue (commandLine input) = some value)
    (given : ∀ id asked, met.lines id asked = some (getMessageLines text asked)) :
    (pop3Command (commandLine input) = some .retr →
      (∃ message ∈ session.messagelst, message.selected (strtoul value).1 = true) →
        ∃ after, pop3Transaction tables session met ssl input = .ok after ∧
          ReadsBack after.reply (lineContents text)) ∧
    (∀ number count, value = number ++ 32 :: count → number.all isDigit = true →
      count.all isDigit = true → 1 ≤ (strtoul number).1 →
      pop3Command (commandLine input) = some .top →
      (∃ message ∈ session.messagelst, message.selected (strtoul number).1 = true) →
        ∃ after, pop3Transaction tables session met ssl input = .ok after ∧
          ReadsBack after.reply (topLines text (decimal count))) := by
  have line : commandLine input ≠ [] := by
    intro empty
    rw [empty] at argument
    cases argument
  constructor
  · intro command found
    obtain ⟨message, first⟩ := Option.isSome_iff_exists.mp (List.find?_isSome.mpr found)
    have whole := getMessageLines_whole sendable (show (-2 : Int) < 0 by decide)
    unfold pop3Transaction
    rw [if_neg line, command, argument]
    dsimp only [Option.elim]
    unfold retr
    dsimp only
    rw [first]
    dsimp only
    rw [given, whole]
    refine ⟨_, rfl, ?_⟩
    have status : lit " octets\r\n" = lit " octets" ++ lit "\r\n" := by decide
    have framed := @readsBack_lines
      (lit "+OK " ++ digits (crlfText ((lineContents text).map stuff)).length ++ lit " octets")
      (lineContents text) rfl (by simp [lf_not_mem_digits]; decide) fun line => lineContents_lf
    rw [status]
    simpa only [append_assoc] using framed
  · rintro number count rfl numberDigits countDigits positive command found
    obtain ⟨message, first⟩ := Option.isSome_iff_exists.mp (List.find?_isSome.mpr found)
    have read : (number ++ 32 :: count).takeWhile (· ≠ 32) = number := by
      rw [takeWhile_append_of_pos]
      · simp
      · intro byte member
        have digit := all_eq_true.mp numberDigits byte member
        simp only [decide_eq_true_eq]
        rintro rfl
        revert digit
        decide
    have rest : (number ++ 32 :: count).drop (number.length + 1) = count := by
      rw [← drop_drop, drop_left]
      rfl
    have counted := getMessageLines_count sendable inMemory countDigits
    have accepted : ¬ (!count.all isDigit || !number.all isDigit ||
        decide ((strtoul number).1 < 1)) = true := by
      simp [countDigits, numberDigits]
      omega
    unfold pop3Transaction
    rw [if_neg line, command, argument]
    dsimp only [Option.elim]
    unfold top
    dsimp only
    rw [if_neg (by simp), read, rest, if_neg accepted, first]
    dsimp only
    rw [given, counted]
    refine ⟨_, rfl, ?_⟩
    have framed := @readsBack_lines
      (lit "+OK " ++ digits (strtoul count).1 ++ lit " lines of message " ++
        digits message.messageid) (topLines text (decimal count)) rfl
      (by simp [lf_not_mem_digits]; decide) fun line => mem_topLines_lf
    simpa only [append_assoc] using framed

def dottedText : Bytes := lit "Subject: dots\n\n.\r\n..two\nlast\n"

def dottedSession : Session :=
  ⟨lit "jan", [⟨1, 7, 33, .new, .new, lit "u7"⟩], 33, 33, 1, 1, 0⟩

def dottedMet : Met := { lines := fun _ asked => some (getMessageLines dottedText asked) }

theorem dotted_framed :
    (∃ after, pop3Transaction ⟨.empty, .empty, false⟩ dottedSession dottedMet false (lit "RETR 1\r\n") =
        .ok after ∧ ReadsBack after.reply (lineContents dottedText)) ∧
    (∃ after, pop3Transaction ⟨.empty, .empty, false⟩ dottedSession dottedMet false (lit "TOP 1 1\r\n") =
        .ok after ∧ ReadsBack after.reply (topLines dottedText 1)) := by
  have sendable : Sendable dottedText :=
    ⟨by decide +kernel, by decide +kernel, by decide +kernel⟩
  have short : dottedText.length < 2 ^ 63 := by decide +kernel
  have first : ∃ message ∈ dottedSession.messagelst, message.selected 1 = true :=
    ⟨_, mem_singleton.mpr rfl, by decide +kernel⟩
  constructor
  · exact (multiline_framed ⟨.empty, .empty, false⟩ dottedSession dottedMet false
      (lit "RETR 1\r\n") (lit "1") dottedText sendable short (by decide +kernel)
      fun _ _ => rfl).1 (by decide +kernel) first
  · exact (multiline_framed ⟨.empty, .empty, false⟩ dottedSession dottedMet false
      (lit "TOP 1 1\r\n") (lit "1 1") dottedText sendable short (by decide +kernel)
      fun _ _ => rfl).2 (lit "1") (lit "1") (by decide +kernel) (by decide +kernel)
      (by decide +kernel) (by decide +kernel) (by decide +kernel) first

end Dbmail.Pop3
