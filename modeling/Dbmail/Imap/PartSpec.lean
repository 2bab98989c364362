import Mathlib.Algebra.Group.Nat.Defs
import Mathlib.Data.List.OfFn

/-!
Contract: the part of a message that a dotted part specifier finds.

Owns `imap_get_partspec` (`dm_misc.c`) for the numbers of a specifier, the part that RFC 3501
gives them, and when the two are the same.

Does not own: the split at the dots, a specifier that ends in a word such as HEADER, or what is
sent of the part.
-/

namespace Dbmail.Imap

/-! ## MIME trees -/

/-- A part below a message. A multipart counts its parts with an `int`; a part of type
message/rfc822 holds the body of its message, if GMime could read one. -/
inductive MimePart where
  | leaf (id : Nat)
  | multipart (count : Nat) (fits : count < 2 ^ 31) (parts : Fin count → MimePart)
  | rfc822 (body : Option MimePart)

/-- A `GMimeObject`: a message, given by its body, or a part. -/
inductive MimeObject where
  | message (body : MimePart)
  | part (part : MimePart)

/-- `g_mime_message_get_mime_part` of a message. A part stays as it is. -/
def MimeObject.mimePart : MimeObject → MimePart
  | .message body => body
  | .part self => self

namespace MimePart

/-- `index`: the `strtol` of a number, in a `guint`. -/
def partIndex (number : Nat) : Nat := min number (2 ^ 63 - 1) % 2 ^ 32

/-- What a round of the loop goes on with. Only a multipart looks at the index, and
`(int)index-1` is negative from `2 ^ 31` on. -/
def roundPart : MimePart → Nat → Option MimePart
  | .multipart _ _ parts, index => if index < 2 ^ 31 then (List.ofFn parts)[index - 1]? else none
  | part, _ => some part

/-- A message/rfc822 part gives way to its message when more numbers follow. -/
def opened : MimePart → List Nat → Option MimeObject
  | .rfc822 body, _ :: _ => body.map .message
  | part, _ => some (.part part)

/-- The loop of `imap_get_partspec`. An object that is NULL stays so to the end. -/
def partspecLoop : MimeObject → List Nat → Option MimeObject
  | object, [] => some object
  | object, number :: rest =>
    if partIndex number = 0 then some object
    else
      (object.mimePart.roundPart (partIndex number)).bind fun part =>
        (part.opened rest).bind (partspecLoop · rest)

def imapGetPartspec (body : MimePart) (numbers : List Nat) : Option MimeObject :=
  partspecLoop (.message body) numbers

/-! ## Named parts -/

/-- The part with a number: a child of a multipart, or part 1 of anything else. -/
def numbered : MimePart → Nat → Option MimePart
  | .multipart _ _ _, 0 => none
  | .multipart _ _ parts, position + 1 => (List.ofFn parts)[position]?
  | part, number => if number = 1 then some part else none

/-- In what the numbers behind those of a part count. -/
def inner : MimePart → Option MimePart
  | .leaf _ => none
  | .multipart count fits parts => some (.multipart count fits parts)
  | .rfc822 body => body

/-- The part that RFC 3501 gives to the numbers in a body. -/
def named : MimePart → List Nat → Option MimePart
  | _, [] => none
  | body, [number] => body.numbered number
  | body, number :: next :: rest =>
    ((body.numbered number).bind inner).bind (named · (next :: rest))

/-- The numbers find the part they name, and nothing if they name none. -/
def FindsNamed (body : MimePart) (numbers : List Nat) : Prop :=
  body.imapGetPartspec numbers = (body.named numbers).map .part

/-- Counting modulo `2 ^ 32` in a multipart, and for 1 any number on another part, the numbers
lead beyond the parts of a multipart or into a message/rfc822 part without a message. -/
def LeadsOut : MimePart → List Nat → Prop
  | _, [] => False
  | body, number :: rest =>
    partIndex number ≠ 0 ∧ ∀ part, body.roundPart (partIndex number) = some part →
      rest ≠ [] ∧ (∀ id, part ≠ .leaf id) ∧ ∀ within, part.inner = some within → within.LeadsOut rest

/-! ## The walk -/

theorem not_leadsOut_leaf (id : Nat) (numbers : List Nat) : ¬ (leaf id).LeadsOut numbers := by
  cases numbers with
  | nil => exact False.elim
  | cons number rest =>
    rintro ⟨_, leads⟩
    exact (leads (.leaf id) rfl).2.1 id rfl

/-- The loop finds nothing exactly if the numbers lead out. -/
theorem partspecLoop_eq_none (object : MimeObject) (numbers : List Nat) :
    partspecLoop object numbers = none ↔ object.mimePart.LeadsOut numbers := by
  induction numbers generalizing object with
  | nil => simp [partspecLoop, LeadsOut]
  | cons number rest ih =>
    rw [partspecLoop, LeadsOut]
    split
    next stops => simp [stops]
    next counts =>
      simp only [Option.bind_eq_none_iff, ne_eq, counts, not_false_eq_true, true_and]
      refine forall₂_congr fun part _ => ?_
      cases part with
      | leaf id => simp [opened, ih, MimeObject.mimePart, not_leadsOut_leaf]
      | multipart count fits parts =>
        cases rest <;> simp [opened, inner, ih, MimeObject.mimePart, LeadsOut]
      | rfc822 body =>
        cases rest <;> cases body <;> simp [opened, inner, ih, MimeObject.mimePart, LeadsOut]

/-- A number that names a part is read as it stands. -/
theorem roundPart_of_numbered {body part : MimePart} {number : Nat}
    (names : body.numbered number = some part) :
    partIndex number ≠ 0 ∧ body.roundPart (partIndex number) = some part := by
  cases body with
  | multipart count fits parts =>
    cases number with
    | zero => cases names
    | succ position =>
      have inside : position < count := by
        simpa [numbered] using (List.getElem?_eq_some_iff.mp names).1
      have index : partIndex (position + 1) = position + 1 := by rw [partIndex]; omega
      rw [index, roundPart, if_pos (by omega)]
      exact ⟨by omega, names⟩
  | leaf id | rfc822 body =>
    obtain ⟨rfl, found⟩ : number = 1 ∧ _ := by simpa [numbered] using names
    exact ⟨by decide, congrArg some found⟩

/-- Numbers that name a part lead to it. -/
theorem partspecLoop_of_named {object : MimeObject} {numbers : List Nat} {part : MimePart}
    (names : object.mimePart.named numbers = some part) :
    partspecLoop object numbers = some (.part part) := by
  induction numbers generalizing object with
  | nil => cases names
  | cons number rest ih =>
    cases rest with
    | nil =>
      obtain ⟨counts, found⟩ := roundPart_of_numbered names
      simp [partspecLoop, counts, found, opened]
    | cons next rest =>
      simp only [named, Option.bind_eq_some_iff] at names
      obtain ⟨within, ⟨step, number_names, enters⟩, names⟩ := names
      obtain ⟨counts, found⟩ := roundPart_of_numbered number_names
      obtain ⟨object, opens, rfl⟩ :
          ∃ object, step.opened (next :: rest) = some object ∧ object.mimePart = within := by
        cases step with
        | leaf id => cases enters
        | multipart count fits parts => exact ⟨_, rfl, Option.some.inj enters⟩
        | rfc822 body =>
          obtain rfl : body = some within := enters
          exact ⟨_, rfl, rfl⟩
      rw [partspecLoop, if_neg counts, found, Option.bind_some, opens]
      exact ih names

/-- A specifier finds the part it names. One that names none finds none only if it leads out of
the tree: on a part that is no multipart every number counts as 1, also behind the last one. -/
theorem findsNamed_iff (body : MimePart) (numbers : List Nat) :
    body.FindsNamed numbers ↔ (body.named numbers).isSome ∨ body.LeadsOut numbers := by
  rw [FindsNamed, imapGetPartspec]
  cases names : body.named numbers with
  | none => simpa [MimeObject.mimePart] using partspecLoop_eq_none (.message body) numbers
  | some part => simpa using @partspecLoop_of_named (.message body) numbers part names

/-- Part 2 of a message that is one text. -/
theorem second_part_of_text : ¬ FindsNamed (.leaf 0) [2] := by
  simp [FindsNamed, imapGetPartspec, partspecLoop, roundPart, opened, partIndex, named, numbered,
    MimeObject.mimePart]

end MimePart

end Dbmail.Imap
