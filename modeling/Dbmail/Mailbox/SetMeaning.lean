import Dbmail.Mailbox.Sets
import Dbmail.Mailbox.TreeMerge
import Mathlib.Data.List.MinMax
import Mathlib.Data.List.Pairwise
import Mathlib.Order.Nat

/-!
Contract: what a sequence set means, and that `MailboxState_get_set` computes it.

Owns the two trees that the loop of `MailboxState_get_set` hands entries between,
that the scratch tree never matters, the grammar of sequence sets with the range of
each element, and the resolution of every set over a mailbox with messages.

Does not own: sets outside the grammar, and the empty mailbox.
-/

namespace Dbmail.Mailbox

open Dbmail.Lib MailboxState List KeyTree

variable (numeral : Numeral) (number : SeqNumber) (state : MailboxState)

namespace MailboxState

/-! ## Two trees -/

/-- `find_range` into the scratch tree. -/
def insertRange (uid : Bool) (first last : Nat) (scratch : KeyTree Nat) : KeyTree Nat :=
  (state.findRange uid first last).foldl (fun tree entry => tree.insert entry.1 entry.2) scratch

/-- The loop over the parts with both of its trees: `a` takes a range and hands the new
entries on to `b`. -/
def getTreeParts (state : MailboxState) (uid : Bool) :
    KeyTree Nat → KeyTree Nat → List Bytes → Option (KeyTree Nat)
  | _, b, [] => some b
  | a, b, part :: rest =>
    if state.ids = [] then
      match emptyPart part with
      | .stop => some b
      | .error => none
      | .range _ _ => getTreeParts state uid a (b.insert 1 state.uidnext) rest
    else
      let lo := if uid then state.ids.head?.getD 0 else 1
      let hi := if uid then state.ids.getLast?.getD 0 else state.getExists
      match setPart lo hi uid part with
      | .stop => some b
      | .error => none
      | .range first last =>
        let merged := gTreeMerge .or b (state.insertRange uid first last a)
        getTreeParts state uid merged.2 merged.1 rest

/-- `MailboxState_get_set` with its scratch tree. -/
def getSetTrees (set : Bytes) (uid : Bool) : Option (KeyTree Nat) :=
  state.getTreeParts uid .empty .empty (if set = [] then [] else set.splitOn 44)

variable {state : MailboxState}

/-- The messages in a range, as `find_range` sees them. -/
theorem mem_findRange_keys {uid : Bool} {first last key : Nat} :
    key ∈ (state.findRange uid first last).map Prod.fst ↔
      key ∈ state.ids ∧ first ≤ (if uid then key else state.msn key) ∧
        (if uid then key else state.msn key) ≤ last := by
  unfold findRange
  simp only [mem_map, mem_filter, Bool.and_eq_true, decide_eq_true_eq]
  constructor
  · intro ⟨entry, ⟨⟨id, member, made⟩, within⟩, isKey⟩
    subst made
    subst isKey
    exact ⟨member, within⟩
  · intro ⟨member, within⟩
    exact ⟨(key, state.msn key), ⟨⟨key, member, rfl⟩, within⟩, rfl⟩

theorem findRange_value {uid : Bool} {first last : Nat} :
    ∀ entry ∈ state.findRange uid first last, entry.2 = state.msn entry.1 := by
  intro entry inRange
  obtain ⟨id, _, rfl⟩ := mem_map.mp (mem_of_mem_filter inRange)
  rfl

theorem lookup_insertAll {value : Nat → Nat} {entries : List (Nat × Nat)}
    (valued : ∀ entry ∈ entries, entry.2 = value entry.1) (tree : KeyTree Nat) (key : Nat) :
    (entries.foldl (fun tree entry => tree.insert entry.1 entry.2) tree).lookup key =
      if key ∈ entries.map Prod.fst then some (value key) else tree.lookup key := by
  have seen := @foldl_seen _ _ _ (fun (tree : KeyTree Nat) entry => tree.insert entry.1 entry.2)
    entries (·.lookup key) (fun _ => some (value key)) (·.1 = key) _ ?_ (fun _ => rfl) tree
  · simpa only [mem_map] using seen
  · intro entry member tree
    rw [lookup_insert, valued entry member]
    by_cases here : key = entry.1
    · simp [here]
    · simp [here, Ne.symm here]

theorem lookup_mergeOr {value : Nat → Nat} {entries : List (Nat × Nat)}
    (valued : ∀ entry ∈ entries, entry.2 = value entry.1) (found : KeyTree Nat) (key : Nat) :
    (mergeOr found entries).lookup key =
      (found.lookup key).or (if key ∈ entries.map Prod.fst then some (value key) else none) := by
  have seen := @foldl_seen _ _ _ (fun (found : KeyTree Nat) (entry : Nat × Nat) =>
      if (found.lookup entry.1).isSome then found else found.insert entry.1 entry.2)
    entries (·.lookup key) (·.or (some (value key))) (key = ·.1) _ ?_ (by simp) found
  · refine seen.trans ?_
    split_ifs <;> simp_all
  · intro entry member found
    by_cases held : (found.lookup entry.1).isSome
    · rw [if_pos held]
      split_ifs with here
      · obtain ⟨known, isKnown⟩ := Option.isSome_iff_exists.mp held
        rw [here, isKnown, Option.some_or]
      · rfl
    · have missing : found.lookup entry.1 = none := by simpa using held
      rw [if_neg held, lookup_insert, valued entry member]
      split_ifs with here
      · rw [here, missing, Option.none_or]
      · rfl

/-- What the scratch tree still holds is in the other tree already, so that every part
adds exactly its own range. -/
theorem merged_eq_mergeOr {uid : Bool} {first last : Nat} {a b : KeyTree Nat}
    (within : ∀ key, (a.lookup key).isSome → (b.lookup key).isSome) :
    (gTreeMerge .or b (state.insertRange uid first last a)).1 =
      mergeOr b (state.findRange uid first last) := by
  apply ext_lookup
  intro key
  rw [(lookup_merge_or _ _ key).1, lookup_mergeOr findRange_value, insertRange,
    lookup_insertAll findRange_value]
  cases held : b.lookup key with
  | some value => rfl
  | none =>
    have missing : a.lookup key = none := by
      have := within key
      rw [held] at this
      simpa using this
    rw [missing]

theorem getTreeParts_eq {uid : Bool} {parts : List Bytes} {a b : KeyTree Nat}
    (within : ∀ key, (a.lookup key).isSome → (b.lookup key).isSome) :
    state.getTreeParts uid a b parts = state.getParts uid b parts := by
  induction parts generalizing a b with
  | nil => rfl
  | cons part rest ih =>
    rw [getTreeParts, getParts]
    by_cases none : state.ids = []
    · rw [if_pos none, if_pos none]
      cases emptyPart part with
      | stop | error => rfl
      | range first last =>
        apply ih
        intro key held
        rw [lookup_insert]
        split
        · rfl
        · exact within key held
    · rw [if_neg none, if_neg none]
      dsimp only
      generalize setPart _ _ uid part = parsed
      cases parsed with
      | stop | error => rfl
      | range first last =>
        dsimp only
        rw [← merged_eq_mergeOr within]
        apply ih
        intro key held
        obtain ⟨merged, left⟩ := lookup_merge_or b (state.insertRange uid first last a) key
        rw [left] at held
        rw [merged]
        cases inFirst : b.lookup key with
        | none => simp [inFirst] at held
        | some value => rfl

/-- The scratch tree makes no difference to what is returned. -/
theorem getSetTrees_eq (set : Bytes) (uid : Bool) :
    state.getSetTrees set uid = state.getSet set uid := by
  apply getTreeParts_eq
  intro key held
  cases held

end MailboxState

/-! ## The grammar -/

structure Numeral where
  digits : Bytes
  only_digits : ∀ byte ∈ digits, isDigit byte = true
  positive : 1 ≤ decimal digits
  in_range : decimal digits < 2 ^ 63
  /-- The number that some clients send for `*`. -/
  not_star : decimal digits ≠ 0xffffffff

inductive SeqNumber where
  | number (numeral : Numeral)
  | star

namespace SeqNumber

def text : SeqNumber → Bytes
  | .number numeral => numeral.digits
  | .star => [42]

/-- The number that is meant when the largest in use is `top`. -/
def value (top : Nat) : SeqNumber → Nat
  | .number numeral => decimal numeral.digits
  | .star => top

end SeqNumber

inductive SeqElement where
  | single (number : SeqNumber)
  | range (first last : SeqNumber)

namespace SeqElement

def text : SeqElement → Bytes
  | .single number => number.text
  | .range first last => first.text ++ 58 :: last.text

/-- The range of an element, which may be written in either order. -/
def Covers (top : Nat) (element : SeqElement) (number : Nat) : Prop :=
  match element with
  | .single only => number = only.value top
  | .range first last =>
    min (first.value top) (last.value top) ≤ number ∧
      number ≤ max (first.value top) (last.value top)

instance (top : Nat) (element : SeqElement) (number : Nat) :
    Decidable (element.Covers top number) :=
  match element with
  | .single only => inferInstanceAs (Decidable (number = only.value top))
  | .range first last =>
    inferInstanceAs (Decidable (min (first.value top) (last.value top) ≤ number ∧
      number ≤ max (first.value top) (last.value top)))

end SeqElement

def sequenceSet (elements : List SeqElement) : Bytes :=
  [44].intercalate (elements.map SeqElement.text)

/-! ## Reading the elements back -/

section Reading

theorem Numeral.digits_ne_nil : numeral.digits ≠ [] := by
  intro none
  have := numeral.positive
  rw [none] at this
  exact absurd this (by decide)

theorem isDigit_bounds {byte : UInt8} (digit : isDigit byte = true) :
    byte ≠ 42 ∧ byte ≠ 44 ∧ byte ≠ 58 := by
  refine ⟨?_, ?_, ?_⟩
  all_goals
    intro same
    rw [same] at digit
    exact absurd digit (by decide)

theorem Numeral.head_ne_star (rest : Bytes) : (numeral.digits ++ rest).head? ≠ some 42 := by
  cases shape : numeral.digits with
  | nil => exact absurd shape numeral.digits_ne_nil
  | cons byte more =>
    have digit := numeral.only_digits byte (by simp [shape])
    intro isStar
    exact (isDigit_bounds digit).1 (by simpa using isStar)

/-- `dm_strtoull` reads a numeral and stops at what follows it. -/
theorem setNumber_numeral {rest : Bytes} (stops : ∀ byte ∈ rest.head?, isDigit byte = false) :
    setNumber (numeral.digits ++ rest) = (decimal numeral.digits, rest) := by
  have taken : rest.takeWhile isDigit = [] ∧ rest.dropWhile isDigit = rest := by
    cases rest with
    | nil => exact ⟨rfl, rfl⟩
    | cons byte more =>
      have stop := stops byte rfl
      simp [stop]
  unfold setNumber
  rw [takeWhile_append_of_pos numeral.only_digits, taken.1,
    dropWhile_append_of_pos numeral.only_digits, taken.2, append_nil]
  dsimp only
  rw [if_neg (Nat.not_le.mpr numeral.in_range)]

theorem SeqNumber.text_ne_nil : number.text ≠ [] := by
  cases number with
  | number numeral => exact numeral.digits_ne_nil
  | star => simp [SeqNumber.text]

theorem SeqNumber.value_pos {top : Nat} (positive : 0 < top) (number : SeqNumber) :
    0 < number.value top := by
  cases number with
  | number numeral => exact numeral.positive
  | star => exact positive

/-- The end of a range is read from the text behind the colon. -/
theorem rangeEnd_colon (hi first : Nat) (last : SeqNumber) :
    rangeEnd hi first (58 :: last.text) =
      if first = 0 ∨ last.value hi = 0 then .stop
      else .range (min first (last.value hi)) (max first (last.value hi)) := by
  have long : 1 < (58 :: last.text : Bytes).length := by
    have := length_pos_iff.mpr last.text_ne_nil
    simpa using this
  unfold rangeEnd
  rw [List.head?_cons, if_pos rfl, if_pos long, drop_one, tail_cons]
  cases last with
  | star =>
    rfl
  | number numeral =>
    have notStar : (SeqNumber.number numeral).text.head? ≠ some 42 := by
      have := numeral.head_ne_star []
      rwa [append_nil] at this
    have read : setNumber (SeqNumber.number numeral).text = (decimal numeral.digits, []) := by
      have := @setNumber_numeral numeral [] (by simp)
      rwa [append_nil] at this
    have positive := numeral.positive
    rw [if_neg notStar, read]
    rw [if_neg (by omega), if_neg numeral.not_star]
    rfl

def SeqElement.bounds (top : Nat) : SeqElement → Nat × Nat
  | .single only => (only.value top, only.value top)
  | .range first last =>
    (min (first.value top) (last.value top), max (first.value top) (last.value top))

theorem SeqElement.covers_iff {top number : Nat} {element : SeqElement} :
    element.Covers top number ↔
      (element.bounds top).1 ≤ number ∧ number ≤ (element.bounds top).2 := by
  cases element with
  | single only =>
    show number = only.value top ↔ only.value top ≤ number ∧ number ≤ only.value top
    omega
  | range first last => exact Iff.rfl

/-- A number at the start of a part, with whatever may follow it. -/
theorem setPart_number (lo hi : Nat) (uid : Bool) (number : SeqNumber) {rest : Bytes}
    (stops : ∀ byte ∈ rest.head?, isDigit byte = false) :
    ∃ lead, ((uid = false → lo = 1) → lead = number.value hi) ∧
      setPart lo hi uid (number.text ++ rest) = rangeEnd hi lead rest := by
  cases number with
  | star =>
    refine ⟨hi, fun _ => rfl, ?_⟩
    cases rest with
    | nil => rfl
    | cons byte more => simp [setPart, SeqNumber.text]
  | number numeral =>
    have positive := numeral.positive
    have some_ : numeral.digits ++ rest ≠ [] := by
      intro none
      exact numeral.digits_ne_nil (append_eq_nil_iff.mp none).1
    refine ⟨if uid then decimal numeral.digits else max (decimal numeral.digits) lo, ?_, ?_⟩
    · intro lowest
      cases uid with
      | true => rfl
      | false => exact (congrArg _ (lowest rfl)).trans (Nat.max_eq_left positive)
    · show setPart lo hi uid (numeral.digits ++ rest) = _
      unfold setPart
      rw [if_neg some_, if_neg (numeral.head_ne_star rest), setNumber_numeral numeral stops]
      rw [if_neg (by omega), if_neg numeral.not_star]

theorem SeqElement.text_read (lo hi : Nat) (uid : Bool) (element : SeqElement) :
    ∃ lead, match element with
      | .single only => ((uid = false → lo = 1) → lead = only.value hi) ∧
          setPart lo hi uid element.text = if lead = 0 then .stop else .range lead lead
      | .range first last => ((uid = false → lo = 1) → lead = first.value hi) ∧
          setPart lo hi uid element.text = if lead = 0 ∨ last.value hi = 0 then .stop
            else .range (min lead (last.value hi)) (max lead (last.value hi)) := by
  cases element with
  | single only =>
    obtain ⟨lead, isLead, read⟩ := @setPart_number lo hi uid only [] (by simp)
    rw [append_nil] at read
    exact ⟨lead, isLead, read⟩
  | range first last =>
    obtain ⟨lead, isLead, read⟩ :=
      @setPart_number lo hi uid first (58 :: last.text) (by simp; decide)
    rw [rangeEnd_colon] at read
    exact ⟨lead, isLead, read⟩

/-- Every element is read as its range. -/
theorem setPart_text {lo hi : Nat} {uid : Bool} (hiPositive : 0 < hi)
    (lowest : uid = false → lo = 1) (element : SeqElement) :
    setPart lo hi uid element.text = .range (element.bounds hi).1 (element.bounds hi).2 := by
  obtain ⟨lead, isRead⟩ := element.text_read lo hi uid
  cases element with
  | single only =>
    have positive := only.value_pos hiPositive
    rw [isRead.2, isRead.1 lowest, if_neg (by omega)]
    rfl
  | range first last =>
    have positive := And.intro (first.value_pos hiPositive) (last.value_pos hiPositive)
    rw [isRead.2, isRead.1 lowest, if_neg (by omega)]
    rfl

theorem SeqNumber.comma_not_mem : 44 ∉ number.text := by
  cases number with
  | number numeral =>
    intro member
    exact (isDigit_bounds (numeral.only_digits 44 member)).2.1 rfl
  | star => decide

theorem SeqElement.comma_not_mem (element : SeqElement) : 44 ∉ element.text := by
  cases element with
  | single only => exact only.comma_not_mem
  | range first last =>
    intro member
    rcases mem_append.mp member with inFirst | behind
    · exact first.comma_not_mem inFirst
    · rcases mem_cons.mp behind with isColon | inLast
      · exact absurd isColon (by decide)
      · exact last.comma_not_mem inLast

theorem SeqElement.text_ne_nil (element : SeqElement) : element.text ≠ [] := by
  cases element with
  | single only => exact only.text_ne_nil
  | range first last => simp [SeqElement.text]

/-- The parts of a set are the texts of its elements. -/
theorem sequenceSet_parts (elements : List SeqElement) :
    (if sequenceSet elements = [] then [] else (sequenceSet elements).splitOn 44) =
      elements.map SeqElement.text := by
  cases elements with
  | nil => simp [sequenceSet]
  | cons element rest =>
    have some_ : sequenceSet (element :: rest) ≠ [] := by
      intro none
      cases rest with
      | nil => exact element.text_ne_nil (by simpa [sequenceSet] using none)
      | cons next more => simp [sequenceSet] at none
    rw [if_neg some_, sequenceSet, splitOn_intercalate 44 _ (by simp)]
    intro part member
    obtain ⟨origin, _, rfl⟩ := mem_map.mp member
    exact origin.comma_not_mem

end Reading

/-! ## Resolution -/

/-- A mailbox with messages whose counter is right, as a load leaves it. UIDs are keys of
the database and start at one. -/
structure CountedState extends MailboxState where
  sorted : ids.Pairwise (· < ·)
  positive : ∀ uid ∈ ids, 0 < uid
  inhabited : ids ≠ []
  counted : existsCount = ids.length

namespace MailboxState

def numberOf (uid : Bool) (key : Nat) : Nat :=
  if uid then key else state.msn key

def largest (uid : Bool) : Nat :=
  (state.ids.map (state.numberOf uid)).foldr max 0

variable {state : MailboxState}

/-- Over a mailbox with messages the parts add their ranges one after another. -/
theorem getParts_resolves {uid : Bool} {elements : List SeqElement} {top : Nat}
    (some_ : state.ids ≠ [])
    (isTop : (if uid then state.ids.getLast?.getD 0 else state.getExists) = top)
    (topPositive : 0 < top) (start : KeyTree Nat) :
    ∃ found, state.getParts uid start (elements.map SeqElement.text) = some found ∧
      ∀ key, found.lookup key = (start.lookup key).or
        (if key ∈ state.ids ∧ ∃ element ∈ elements, element.Covers top (state.numberOf uid key)
          then some (state.msn key) else none) := by
  induction elements generalizing start with
  | nil => exact ⟨start, rfl, fun key => by simp⟩
  | cons element rest ih =>
    have lowest : uid = false → (if uid = true then state.ids.head?.getD 0 else 1) = 1 := by
      intro isMsn
      rw [isMsn]
      rfl
    obtain ⟨found, ran, lookups⟩ := ih (mergeOr start
      (state.findRange uid (element.bounds top).1 (element.bounds top).2))
    refine ⟨found, ?_, ?_⟩
    · rw [map_cons, getParts, if_neg some_]
      dsimp only
      rw [isTop, setPart_text topPositive lowest]
      exact ran
    · intro key
      have inRange : key ∈ (state.findRange uid (element.bounds top).1
          (element.bounds top).2).map Prod.fst ↔
          key ∈ state.ids ∧ element.Covers top (state.numberOf uid key) := by
        rw [mem_findRange_keys, SeqElement.covers_iff]
        rfl
      rw [lookups key, lookup_mergeOr findRange_value, Option.or_assoc]
      simp only [inRange]
      congr 1
      by_cases member : key ∈ state.ids
      · by_cases covered : element.Covers top (state.numberOf uid key)
        · simp [member, covered]
        · simp [covered]
      · simp [member]

theorem SeqNumber.checkset_text : checkset number.text = true := by
  cases number with
  | star => decide
  | number numeral =>
    apply all_eq_true.mpr
    intro byte member
    have listed : ∀ value : Fin 256, isDigit (UInt8.ofNat value) = true →
        (lit "0123456789:,*").contains (UInt8.ofNat value) = true := by decide +kernel
    have digit := numeral.only_digits byte member
    rw [← @UInt8.ofNat_toNat byte] at digit ⊢
    exact listed ⟨byte.toNat, byte.toNat_lt⟩ digit

theorem checkset_sequenceSet (elements : List SeqElement) :
    checkset (sequenceSet elements) = true := by
  have ofElement : ∀ element : SeqElement, checkset element.text = true := by
    intro element
    cases element with
    | single only => exact SeqNumber.checkset_text only
    | range first last =>
      show (first.text ++ 58 :: last.text).all _ = true
      rw [all_append, all_cons]
      have left := SeqNumber.checkset_text first
      have right := SeqNumber.checkset_text last
      unfold checkset at left right
      rw [left, right]
      decide
  unfold sequenceSet
  induction elements with
  | nil => rfl
  | cons element rest ih =>
    cases rest with
    | nil =>
      rw [map_singleton, intercalate_singleton]
      exact ofElement element
    | cons next more =>
      rw [map_cons, map_cons, intercalate_cons_cons]
      have first := ofElement element
      unfold checkset at first ih ⊢
      rw [all_append, all_append, first]
      exact ih

theorem foldr_max_eq_of_mem {numbers : List Nat} {top : Nat} (member : top ∈ numbers)
    (bound : ∀ number ∈ numbers, number ≤ top) : numbers.foldr max 0 = top :=
  Nat.le_antisymm (max_le_of_forall_le numbers top bound)
    (le_max_of_le member le_rfl)

theorem le_getLast_of_sorted {ids : List Nat} (sorted : ids.Pairwise (· < ·)) (some_ : ids ≠ [])
    {id : Nat} (member : id ∈ ids) : id ≤ ids.getLast some_ := by
  have ordered : ids.Pairwise (· ≤ ·) := sorted.imp Nat.le_of_lt
  exact ordered.rel_getLast member

end MailboxState

namespace CountedState

open MailboxState

theorem getExists_eq (state : CountedState) : state.getExists = state.ids.length := by
  unfold getExists
  rw [state.counted, if_neg (Nat.lt_irrefl _)]

/-- `*` stands for the largest number in use. -/
theorem top_eq_largest (state : CountedState) (uid : Bool) :
    (if uid then state.ids.getLast?.getD 0 else state.getExists) = state.largest uid := by
  have lastMember := getLast_mem state.inhabited
  cases uid with
  | true =>
    rw [List.getLast?_eq_some_getLast state.inhabited]
    symm
    apply foldr_max_eq_of_mem
    · exact mem_map.mpr ⟨_, lastMember, rfl⟩
    · intro number member
      obtain ⟨id, inIds, rfl⟩ := mem_map.mp member
      exact le_getLast_of_sorted state.sorted state.inhabited inIds
  | false =>
    show state.getExists = _
    rw [state.getExists_eq]
    symm
    apply foldr_max_eq_of_mem
    · -- The last UID is the one behind all others.
      apply mem_map.mpr
      refine ⟨_, lastMember, ?_⟩
      have distinct : state.ids.Nodup := state.sorted.imp Nat.ne_of_lt
      have someLength := length_pos_iff.mpr state.inhabited
      show state.ids.idxOf _ + 1 = _
      rw [getLast_eq_getElem, distinct.idxOf_getElem]
      omega
    · intro number member
      obtain ⟨id, inIds, rfl⟩ := mem_map.mp member
      have := idxOf_lt_length_iff.mpr inIds
      show state.ids.idxOf id + 1 ≤ _
      omega

theorem largest_pos (state : CountedState) (uid : Bool) : 0 < state.largest uid := by
  rw [← state.top_eq_largest uid]
  cases uid with
  | true =>
    rw [List.getLast?_eq_some_getLast state.inhabited]
    exact state.positive _ (getLast_mem state.inhabited)
  | false =>
    rw [state.getExists_eq]
    exact length_pos_iff.mpr state.inhabited

end CountedState

/-- A sequence set is resolved to the messages whose number lies in the range of one of
its elements, each with its MSN. -/
theorem getSet_resolves (state : CountedState) (uid : Bool) (elements : List SeqElement) :
    ∃ found, state.getSetTrees (sequenceSet elements) uid = some found ∧
      ∀ key, found.lookup key =
        if key ∈ state.ids ∧
            ∃ element ∈ elements, element.Covers (state.largest uid) (state.numberOf uid key)
          then some (state.msn key) else none := by
  rw [getSetTrees_eq, getSet, sequenceSet_parts]
  obtain ⟨found, ran, lookups⟩ := getParts_resolves state.inhabited
    (state.top_eq_largest uid) (state.largest_pos uid) .empty
  refine ⟨found, ran, ?_⟩
  intro key
  rw [lookups key, lookup_empty, Option.none_or]

/-- A range in the other order, and one that overlaps it. -/
example : ({ MailboxState.blank 3 with ids := [4, 7, 9], existsCount := 3 }.getSetTrees
    (lit "3:2,*:2") false).map KeyTree.entries = some [(7, 2), (9, 3)] := by decide

/-! ## All messages -/

def firstNumeral : Numeral := ⟨lit "1", by decide +kernel, by decide, by decide +kernel, by decide⟩

/-- `1:*` as a sequence set. -/
def everyMessage : SeqElement := .range (.number firstNumeral) .star

/-- Over a mailbox with messages `1:*` stands for all UIDs. -/
theorem getSet_everyUid {state : MailboxState} (inhabited : state.ids ≠ [])
    (positive : ∀ uid ∈ state.ids, 0 < uid) (sorted : state.ids.Pairwise (· < ·)) :
    ∃ found, state.getSet (lit "1:*") true = some found ∧
      ∀ uid, (found.lookup uid).isSome = true ↔ uid ∈ state.ids := by
  have isLast : state.ids.getLast?.getD 0 = state.ids.getLast inhabited := by
    rw [List.getLast?_eq_some_getLast inhabited]
    rfl
  have topPositive := positive _ (getLast_mem inhabited)
  obtain ⟨found, ran, lookups⟩ := @getParts_resolves state true [everyMessage]
    (state.ids.getLast inhabited) inhabited isLast topPositive .empty
  refine ⟨found, ?_, ?_⟩
  · rw [getSet]
    exact ran
  · intro uid
    rw [lookups uid, lookup_empty]
    constructor
    · intro there
      by_contra missing
      simp [missing] at there
    · intro member
      have atLeast := positive uid member
      have atMost := le_getLast_of_sorted sorted inhabited member
      have covered : everyMessage.Covers (state.ids.getLast inhabited)
          (state.numberOf true uid) := by
        show min 1 (state.ids.getLast inhabited) ≤ uid ∧ uid ≤ max 1 (state.ids.getLast inhabited)
        omega
      rw [if_pos ⟨member, everyMessage, mem_cons_self, covered⟩]
      rfl

/-! ## MODSEQ -/

section Modseq

variable {state : MailboxState}

theorem mem_staleKeys {modseq : Nat} {keys : List Nat}
    (known : ∀ key ∈ keys, key ∈ state.msginfo.keys) {key : Nat} :
    key ∈ state.staleKeys modseq keys ↔
      key ∈ keys ∧ ∃ info, state.msginfo.lookup key = some info ∧ info.seq ≤ modseq := by
  induction keys with
  | nil => simp [staleKeys]
  | cons head tail ih =>
    have inTail := ih fun other member => known other (mem_cons_of_mem _ member)
    have isKnown := known head mem_cons_self
    rw [← lookup_isSome_iff] at isKnown
    obtain ⟨info, isInfo⟩ := Option.isSome_iff_exists.mp isKnown
    rw [staleKeys, isInfo]
    dsimp only
    by_cases stale : info.seq ≤ modseq
    · rw [if_pos stale, mem_cons, mem_cons, inTail]
      constructor
      · intro either
        rcases either with rfl | later
        · exact ⟨.inl rfl, info, isInfo, stale⟩
        · exact ⟨.inr later.1, later.2⟩
      · intro ⟨member, isStale⟩
        exact member.imp id fun later => ⟨later, isStale⟩
    · rw [if_neg stale, mem_cons, inTail]
      constructor
      · intro later
        exact ⟨.inr later.1, later.2⟩
      · intro ⟨member, other, isOther, otherStale⟩
        rcases member with rfl | later
        · rw [isInfo] at isOther
          cases isOther
          exact absurd otherStale stale
        · exact ⟨later, other, isOther, otherStale⟩

def MailboxState.Stale (state : MailboxState) (modseq uid : Nat) : Prop :=
  modseq ≠ 0 ∧ ∃ info, state.msginfo.lookup uid = some info ∧ info.seq ≤ modseq

/-- Of a set of known messages the bound leaves those that are not too old. -/
theorem findModseq_isSome {modseq : Nat} {found : KeyTree Nat}
    (known : ∀ key ∈ found.keys, key ∈ state.msginfo.keys) (uid : Nat) :
    ((state.findModseq modseq found).lookup uid).isSome = true ↔
      (found.lookup uid).isSome = true ∧ ¬ state.Stale modseq uid := by
  unfold findModseq MailboxState.Stale
  by_cases unbounded : modseq = 0
  · rw [if_pos unbounded]
    simp [unbounded]
  · rw [if_neg unbounded, TreeMerge.lookup_removeAll]
    have stale := @mem_staleKeys state modseq found.keys known uid
    rw [← found.lookup_isSome_iff] at stale
    by_cases removed : uid ∈ state.staleKeys modseq found.keys
    · rw [if_pos removed]
      have old := (stale.mp removed).2
      simp [unbounded, old]
    · rw [if_neg removed]
      rw [stale] at removed
      exact ⟨fun there => ⟨there, fun ⟨_, old⟩ => removed ⟨there, old⟩⟩, And.left⟩

end Modseq

end Dbmail.Mailbox
