import Dbmail.Lib.CRuntime

/-!
Contract: texts as lines, and the dot stuffing of line-oriented protocols.

Owns the lines of a text that ends in a line feed, the contents of a line without
its carriage return, texts whose lines end in CRLF, and the stuffing of lines
that start with a dot with its inverse.

Does not own: any scanner. The last line of a text without a line end counts as
a line.
-/

namespace Dbmail.Lib

open List

/-! ## Lines -/

def textLines : Bytes → List Bytes
  | [] => []
  | byte :: rest =>
    if byte = 10 then [] :: textLines rest
    else match textLines rest with
      | [] => [[byte]]
      | line :: others => (byte :: line) :: others

def lfText (lines : List Bytes) : Bytes := lines.flatMap fun line => line ++ [10]

def crlfText (lines : List Bytes) : Bytes := lines.flatMap fun line => line ++ [13, 10]

def stripCr (line : Bytes) : Bytes := if line.getLast? = some 13 then line.dropLast else line

@[simp] theorem lfText_cons (line : Bytes) (lines : List Bytes) :
    lfText (line :: lines) = line ++ 10 :: lfText lines := by
  simp [lfText]

@[simp] theorem crlfText_cons (line : Bytes) (lines : List Bytes) :
    crlfText (line :: lines) = line ++ 13 :: 10 :: crlfText lines := by
  simp [crlfText]

@[simp] theorem crlfText_nil : crlfText [] = [] := rfl

theorem crlfText_append (first second : List Bytes) :
    crlfText (first ++ second) = crlfText first ++ crlfText second := flatMap_append

theorem crlfText_eq_lfText (lines : List Bytes) :
    crlfText lines = lfText (lines.map fun line => line ++ [13]) := by
  simp [crlfText, lfText, flatMap_map]

variable {text line : Bytes}

theorem textLines_ne_nil (some_ : text ≠ []) : textLines text ≠ [] := by
  cases text with
  | nil => exact absurd rfl some_
  | cons byte rest =>
    unfold textLines
    split
    · simp
    · split <;> simp

theorem textLines_lf (member : line ∈ textLines text) : (10 : UInt8) ∉ line := by
  induction text generalizing line with
  | nil => cases member
  | cons byte rest ih =>
    unfold textLines at member
    split at member
    · obtain rfl | further := mem_cons.mp member
      · simp
      · exact ih further
    · rename_i notLf
      split at member
      · obtain rfl := mem_singleton.mp member
        simpa using Ne.symm notLf
      · rename_i line' others split
        obtain rfl | further := mem_cons.mp member
        · have rest := @ih line' (by rw [split]; simp)
          simpa [Ne.symm notLf] using rest
        · exact ih (by rw [split]; simp [further])

theorem textLines_length_le (text : Bytes) : (textLines text).length ≤ text.length := by
  induction text with
  | nil => exact Nat.le_refl 0
  | cons byte rest ih =>
    unfold textLines
    split
    · simpa using ih
    · split
      · simp
      · rename_i split
        rw [split] at ih
        simp only [length_cons] at ih ⊢
        omega

/-- A text that ends in a line feed is its lines. -/
theorem lfText_textLines (ends : text.getLast? = some 10) : lfText (textLines text) = text := by
  induction text with
  | nil => cases ends
  | cons byte rest ih =>
    by_cases only : rest = []
    · subst only
      obtain rfl : byte = 10 := by simpa using ends
      rfl
    · have endsRest : rest.getLast? = some 10 := by
        rwa [List.getLast?_cons_of_ne_nil only] at ends
      have lines := ih endsRest
      unfold textLines
      split
      · rename_i isLf
        rw [lfText_cons, lines, isLf]
        rfl
      · cases split : textLines rest with
        | nil => exact absurd split (textLines_ne_nil only)
        | cons line others =>
          rw [split] at lines
          simp only [lfText_cons, cons_append] at lines ⊢
          rw [lines]

/-! ## Carriage returns -/

@[simp] theorem stripCr_append (line : Bytes) : stripCr (line ++ [13]) = line := by
  simp [stripCr]

theorem stripCr_cr (line : Bytes) :
    stripCr line ++ [13] = if line.getLast? = some 13 then line else line ++ [13] := by
  unfold stripCr
  split
  · rename_i ends
    exact dropLast_append_getLast? _ ends
  · rfl

def lineContents (text : Bytes) : List Bytes := (textLines text).map stripCr

theorem lineContents_lf (member : line ∈ lineContents text) : (10 : UInt8) ∉ line := by
  obtain ⟨raw, inside, rfl⟩ := mem_map.mp member
  have noLf := textLines_lf inside
  unfold stripCr
  split
  · exact fun member => noLf (mem_of_mem_dropLast member)
  · exact noLf

theorem lineContents_ne_nil (some_ : text ≠ []) : lineContents text ≠ [] := by
  simpa [lineContents] using textLines_ne_nil some_

/-! ## Dots -/

def stuff (line : Bytes) : Bytes := if line.head? = some 46 then 46 :: line else line

def unstuff (line : Bytes) : Bytes := if line.head? = some 46 then line.tail else line

theorem unstuff_stuff (line : Bytes) : unstuff (stuff line) = line := by
  unfold stuff unstuff
  by_cases dot : line.head? = some 46
  · rw [if_pos dot]
    rfl
  · rw [if_neg dot, if_neg dot]

/-- A carriage return at the end is no matter of the first dot. -/
theorem stuff_stripCr (line : Bytes) :
    stuff (stripCr line) = (if line.head? = some 46 then [46] else []) ++ stripCr line := by
  have same : (stripCr line).head? = some 46 ↔ line.head? = some 46 := by
    unfold stripCr
    split
    · rename_i ends
      cases line with
      | nil => cases ends
      | cons head tail =>
        cases tail with
        | nil =>
          obtain rfl : head = 13 := by simpa using ends
          simp
        | cons next others => simp
    · rfl
  unfold stuff
  by_cases dot : line.head? = some 46
  · rw [if_pos (same.mpr dot), if_pos dot]
    rfl
  · rw [if_neg fun other => dot (same.mp other), if_neg dot]
    rfl

theorem stuff_ne_dot (line : Bytes) {rest : Bytes} (single : rest.head? ≠ some 46) :
    stuff line ≠ 46 :: rest := by
  unfold stuff
  split
  · rename_i dot
    intro same
    simp only [List.cons.injEq, true_and] at same
    exact single (same ▸ dot)
  · rename_i plain
    intro same
    rw [same] at plain
    exact plain rfl

theorem not_mem_stuff {byte : UInt8} (noDot : byte ≠ 46) (absent : byte ∉ line) :
    byte ∉ stuff line := by
  unfold stuff
  split
  · simpa [noDot] using absent
  · exact absent

end Dbmail.Lib
