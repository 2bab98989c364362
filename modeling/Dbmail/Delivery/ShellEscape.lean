import Dbmail.Lib.CRuntime

/-!
Contract: what a shell makes of an escaped text.

Owns `dm_shellesc` (`dm_misc.c`) and the reading of a command line by a POSIX shell, as far
as it needs neither quotes nor expansions.

Does not own: the commands that the texts are put into.
-/

namespace Dbmail.Delivery

open Dbmail.Lib List

def unsafeChars : Bytes := lit "&;`'\\\"|*?~<>^()[]\x7b\x7d$\n\r\t #!"

/-- `dm_shellesc` of a text below 2^30 bytes, so that the `int` `(len + 1) * 2 + 1` holds
the size of the copy. -/
def dmShellesc (command : Bytes) : Bytes :=
  command.flatMap fun char => if char ∈ unsafeChars then [92, char] else [char]

/-- Operators, and what begins a quote, an expansion or a pattern. -/
def shellActive : Bytes := lit "|&;<>()$`\"'*?[~"

/-- The words of a command as a POSIX shell reads them, with the word it is in; `none` when
they depend on a quote, an operator, an expansion or what follows the text. -/
def shellWords : Option Bytes → Bytes → Option (List Bytes)
  | current, [] => some current.toList
  | current, char :: rest =>
    if char = 92 then
      match rest with
      | [] => none
      | next :: rest =>
        -- a quoted line feed continues the line
        if next = 10 then shellWords current rest
        else shellWords (some (current.getD [] ++ [next])) rest
    else if char = 32 ∨ char = 9 then (shellWords none rest).map (current.toList ++ ·)
    else if char = 10 then some current.toList
    else if char = 35 ∧ current = none then some []
    else if char ∈ shellActive then none
    else shellWords (some (current.getD [] ++ [char])) rest

/-- Behind a blank and in front of one the text is read as one word, which is the original. -/
def ReadAsOneWord (text : Bytes) : Prop :=
  ∀ more, shellWords none (dmShellesc text ++ 32 :: more) = (shellWords none more).map (text :: ·)

/-- The word after a text without its line feeds; an empty text begins no word. -/
def wordAfter (current : Option Bytes) (text : Bytes) : Option Bytes :=
  text.foldl (fun word char => if char = 10 then word else some (word.getD [] ++ [char])) current

theorem shellWords_safe {char : UInt8} (safe : char ∉ unsafeChars) (current : Option Bytes)
    (rest : Bytes) :
    shellWords current (char :: rest) = shellWords (some (current.getD [] ++ [char])) rest := by
  have active : ∀ char ∈ [92, 32, 9, 10, 35] ++ shellActive, char ∈ unsafeChars := by decide +kernel
  have inactive := mt (active char) safe
  simp only [cons_append, nil_append, mem_cons, not_or] at inactive
  rw [shellWords.eq_def]
  simp [inactive]

theorem shellWords_dmShellesc (current : Option Bytes) (text more : Bytes) :
    shellWords current (dmShellesc text ++ 32 :: more) =
      (shellWords none more).map ((wordAfter current text).toList ++ ·) := by
  induction text generalizing current with
  | nil => simp [dmShellesc, wordAfter, shellWords.eq_def current]
  | cons char rest ih =>
    have split : dmShellesc (char :: rest) =
        (if char ∈ unsafeChars then [92, char] else [char]) ++ dmShellesc rest := rfl
    rw [split, wordAfter, foldl_cons, ← wordAfter, ← ih]
    split_ifs with listed feed feed
    · subst feed
      simp [shellWords]
    · simp [shellWords, feed]
    · subst feed
      exact absurd (by decide +kernel) listed
    · exact shellWords_safe listed current _

theorem wordAfter_eq (current : Option Bytes) (text : Bytes) :
    wordAfter current text = if text.filter (· ≠ 10) = [] then current
      else some (current.getD [] ++ text.filter (· ≠ 10)) := by
  induction text generalizing current with
  | nil => simp [wordAfter]
  | cons char rest ih =>
    rw [wordAfter, foldl_cons, ← wordAfter, ih]
    by_cases feed : char = 10
    · simp [feed]
    · by_cases empty : rest.filter (· ≠ 10) = [] <;> simp_all

theorem dmShellesc_length_le (text : Bytes) : (dmShellesc text).length ≤ 2 * text.length := by
  induction text with
  | nil => exact Nat.zero_le 0
  | cons char rest ih =>
    rw [dmShellesc, flatMap_cons, ← dmShellesc, length_append, length_cons]
    split <;> grind

theorem dmShellesc_readAsOneWord_iff (text : Bytes) :
    (ReadAsOneWord text ↔ text ≠ [] ∧ 10 ∉ text) ∧
      (dmShellesc text).length < (text.length + 1) * 2 + 1 := by
  refine ⟨?_, by have := dmShellesc_length_le text; omega⟩
  have word : ReadAsOneWord text ↔ wordAfter none text = some text := by
    constructor
    · intro read
      have alone := read []
      rw [shellWords_dmShellesc] at alone
      simpa [shellWords, Option.toList_eq_singleton_iff] using alone
    · intro whole more
      rw [shellWords_dmShellesc, whole]
      rfl
  rw [word, wordAfter_eq]
  have kept : text.filter (· ≠ 10) = text ↔ 10 ∉ text := by
    rw [filter_eq_self]
    grind
  split_ifs with empty
  · -- all of the text is line feeds
    grind
  · have filled : text ≠ [] := by
      rintro rfl
      exact empty rfl
    simpa [filled] using kept

theorem dmShellesc_joins : ¬ ReadAsOneWord (lit "a\nb") ∧ ¬ ReadAsOneWord [] := by
  constructor
  all_goals
    intro read
    exact absurd (read []) (by decide +kernel)

end Dbmail.Delivery
