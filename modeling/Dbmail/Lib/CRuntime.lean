import Mathlib.Algebra.Group.Int.Defs
import Mathlib.Algebra.GroupWithZero.Nat
import Mathlib.Data.List.DropRight
import Mathlib.Data.List.Infix
import Mathlib.Data.List.TakeWhile

/-!
Contract: the part of the C runtime the models rest on.

Owns byte strings, the NUL-terminated reading of a buffer, the comparison and
copy routines of `string.h` restricted to the results the callers look at, and
the ways in which a run of C code stops without returning.

Does not own: any routine of the modelled program, character sets, or the
values of the comparison routines beyond "equal" and "not equal".
-/

namespace Dbmail.Lib

open List

/-- A byte string. As a C string it is read up to its first NUL. -/
abbrev Bytes := List UInt8

instance Bytes.lawful : LawfulBEq (List UInt8) := List.instLawfulBEq

/-- The bytes of an ASCII literal of the source. -/
def lit (text : String) : Bytes := text.toList.map fun char => char.toNat.toUInt8

/-- The kernel reads a literal as its list of characters, but decodes it for `toList`. -/
theorem lit_ofList (chars : List Char) :
    lit (String.ofList chars) = chars.map fun char => char.toNat.toUInt8 := by
  rw [lit, String.toList_ofList]

/-- The ways in which a C function ends without returning a value. -/
inductive Fault where
  | assertion
  | nullPointer
  | freed
  | outOfBounds
deriving DecidableEq, Repr

/-! ## NUL-terminated strings -/

/-- The C string at the start of a buffer. -/
def cstr (buffer : Bytes) : Bytes := buffer.takeWhile (· ≠ 0)

/-- `g_strndup(s, n)` as a C string. -/
def gStrndup (buffer : Bytes) (count : Nat) : Bytes := (cstr buffer).take count

/-- `strncmp(a, b, n) == 0` on NUL-free strings. -/
def strncmpEq (left right : Bytes) (count : Nat) : Bool :=
  left.take count == right.take count

/-- `isspace` in the C locale. -/
def isSpace (byte : UInt8) : Bool := byte = 32 || (9 ≤ byte && byte ≤ 13)

def isDigit (byte : UInt8) : Bool := 48 ≤ byte && byte ≤ 57

/-- Trailing white space as `g_ascii_isspace` has it, which
leaves the vertical tab out. -/
def gStrchomp (text : Bytes) : Bytes := text.rdropWhile fun byte => isSpace byte && byte ≠ 11

def gStrstrip (text : Bytes) : Bytes :=
  (gStrchomp text).dropWhile fun byte => isSpace byte && byte ≠ 11

def digits (number : Nat) : Bytes := lit (toString number)

def decimal (digits : Bytes) : Nat :=
  digits.foldl (fun value digit => 10 * value + (digit.toNat - 48)) 0

/-- `strtoul(s, &end, 10)` for a 64-bit `unsigned long`: the value and the
unread text. A negative number is negated modulo 2^64. -/
def strtoul (text : Bytes) : Nat × Bytes :=
  let body := text.dropWhile isSpace
  let negative := body.head? = some 45
  let unsigned := if body.head? = some 45 ∨ body.head? = some 43 then body.tail else body
  let digits := unsigned.takeWhile isDigit
  if digits = [] then (0, text)
  else
    let value := decimal digits
    let result :=
      if 2 ^ 64 ≤ value then 2 ^ 64 - 1
      else if negative then (2 ^ 64 - value) % 2 ^ 64
      else value
    (result, unsigned.dropWhile isDigit)

/-- ASCII lower case, as `tolower` in the C locale and SQL `lower`. -/
def toLower (byte : UInt8) : UInt8 :=
  if 65 ≤ byte ∧ byte ≤ 90 then byte + 32 else byte

/-- `strcasecmp(a, b) == 0` on NUL-free strings. -/
def strcasecmpEq (left right : Bytes) : Bool :=
  left.map toLower == right.map toLower

/-- `MATCH`. -/
def smatch (text : Bytes) (word : String) : Bool := strcasecmpEq text (lit word)

theorem cstr_eq_self {buffer : Bytes} (nulFree : (0 : UInt8) ∉ buffer) : cstr buffer = buffer := by
  unfold cstr
  rw [takeWhile_eq_self_iff]
  intro byte member
  have notNul : byte ≠ 0 := fun isNul => nulFree (isNul ▸ member)
  simpa using notNul

/-- Comparing over the length of the left string alone is a prefix test. -/
theorem strncmpEq_length_iff (left right : Bytes) :
    strncmpEq left right left.length = true ↔ left <+: right := by
  unfold strncmpEq
  rw [beq_iff_eq, take_length, prefix_iff_eq_take]

theorem strcasecmpEq_refl (text : Bytes) : strcasecmpEq text text = true := by
  simp [strcasecmpEq]

/-! ## Formats -/

/-- `vprintf` with string arguments. What a conversion without an argument prints is
not defined. -/
def formatted : Bytes → List Bytes → Except Fault Bytes
  | [], _ => .ok []
  | [byte], _ => if byte = 37 then .error .outOfBounds else .ok [byte]
  | first :: second :: rest, args =>
    if first ≠ 37 then (first :: ·) <$> formatted (second :: rest) args
    else if second = 37 then (37 :: ·) <$> formatted rest args
    else match args with
      | arg :: args =>
        if second = 115 then (arg ++ ·) <$> formatted rest args else .error .outOfBounds
      | [] => .error .outOfBounds

/-- A text without a percent sign is its own expansion. -/
theorem formatted_plain {format : Bytes} {args : List Bytes} (plain : 37 ∉ format) :
    formatted format args = .ok format := by
  fun_induction formatted format args with
  | case4 first second rest args other ih =>
    rw [ih (not_mem_of_not_mem_cons plain)]
    rfl
  | _ => grind

/-- The percent signs of a text come in pairs. -/
def paired : Bytes → Bool
  | [] => true
  | [byte] => byte ≠ 37
  | first :: second :: rest =>
    if first ≠ 37 then paired (second :: rest) else second = 37 && paired rest

/-- A format without arguments can be printed if it has no conversion. -/
theorem formatted_paired {format : Bytes} (pairs : paired format = true) :
    ∃ printed, formatted format [] = .ok printed := by
  fun_induction paired format with
  | case1 => exact ⟨[], rfl⟩
  | case2 byte => exact ⟨[byte], by simpa [formatted] using pairs⟩
  | case3 first second rest other ih =>
    obtain ⟨behind, printed⟩ := ih pairs
    exact ⟨first :: behind, by rw [formatted, if_pos other, printed]; rfl⟩
  | case4 first second rest isPercent ih =>
    obtain ⟨again, further⟩ := Bool.and_eq_true_iff.mp pairs
    obtain ⟨behind, printed⟩ := ih further
    exact ⟨37 :: behind, by
      rw [formatted, if_neg isPercent, if_pos (of_decide_eq_true again), printed]; rfl⟩

theorem paired_append {front back : Bytes} (pairs : paired front = true) :
    paired (front ++ back) = paired back := by
  fun_induction paired front with
  | case1 => rfl
  | case2 byte =>
    cases back <;> simp_all [paired]
  | case3 first second rest other ih =>
    rw [← ih pairs]
    simp [paired, other]
  | case4 first second rest isPercent ih =>
    obtain ⟨again, further⟩ := Bool.and_eq_true_iff.mp pairs
    rw [← ih further]
    simp_all [paired]

end Dbmail.Lib
