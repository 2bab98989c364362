import Dbmail.Mailbox.StoreRights

/-!
Contract: the keywords that a change of flags asks for.

Owns the spellings of keywords in cached and stored lists, what `db_set_msgflag` leaves of
the stored keywords, and the exact condition under which these are the ones asked for.

Does not own: the list that the session caches.
-/

namespace Dbmail.Mailbox

open Dbmail.Lib Dbmail.Imap List
open FlagChange (listed)

/-! ## Spellings -/

/-- The word that a load puts among the keywords of a seen message. -/
def seenWord : Bytes := lit "\\Seen"

/-- No two of the words differ in case only. -/
def Apart (words : List Bytes) : Prop :=
  ∀ first ∈ words, ∀ second ∈ words, strcasecmpEq first second = true → first = second

/-- No two entries of a cached list are the same word in any case. -/
def Distinct (known : List Bytes) : Prop :=
  known.Pairwise fun first second => strcasecmpEq first second = false

instance (known : List Bytes) : Decidable (Distinct known) :=
  inferInstanceAs (Decidable (known.Pairwise _))

/-- The keywords that a cached list has in no spelling. -/
def unlisted (known keywords : List Bytes) : List Bytes :=
  keywords.filter fun word => !listed known word

/-- The first spelling of a word. -/
def spelling (words : List Bytes) (word : Bytes) : Option Bytes :=
  words.find? fun other => strcasecmpEq other word

/-! ## Keywords -/

section Keywords

variable {known stored keywords : List Bytes} {word : Bytes}

theorem strcasecmpEq_symm {first second : Bytes} (same : strcasecmpEq first second = true) :
    strcasecmpEq second first = true := by
  simp only [strcasecmpEq, beq_iff_eq] at same ⊢
  exact same.symm

theorem strcasecmpEq_congr {first second : Bytes} (same : strcasecmpEq first second = true)
    (other : Bytes) : strcasecmpEq other first = strcasecmpEq other second := by
  simp only [strcasecmpEq, beq_iff_eq] at same ⊢
  rw [same]

theorem listed_iff : listed known word = true ↔
    ∃ other ∈ known, strcasecmpEq other word = true := by
  simp [listed]

theorem listed_of_mem (member : word ∈ known) : listed known word = true :=
  listed_iff.mpr ⟨word, member, strcasecmpEq_refl word⟩

/-- Words that differ in case only are listed together. -/
theorem listed_congr {other : Bytes} (same : strcasecmpEq other word = true) :
    listed known other = listed known word := by
  simp only [listed, strcasecmpEq, beq_iff_eq] at same ⊢
  rw [same]

@[simp] theorem listed_nil : listed [] word = false := rfl

theorem listed_cons {head : Bytes} {tail : List Bytes} :
    listed (head :: tail) word = (strcasecmpEq head word || listed tail word) := rfl

theorem listed_append {more : List Bytes} :
    listed (known ++ more) word = (listed known word || listed more word) := by
  simp [listed]

theorem mem_unlisted : word ∈ unlisted known keywords ↔
    word ∈ keywords ∧ listed known word = false := by
  simp [unlisted]

/-- Known keywords are known in any case. -/
theorem listed_unlisted :
    listed (unlisted known keywords) word = (listed keywords word && !listed known word) := by
  induction keywords with
  | nil => rfl
  | cons head tail ih =>
    unfold unlisted at ih ⊢
    by_cases same : strcasecmpEq head word = true
    · have alike := @listed_congr known _ _ same
      cases isListed : listed known head <;> rw [isListed] at alike <;>
        simp [isListed, ih, listed_cons, same, ← alike]
    · cases isListed : listed known head <;> simp [isListed, ih, listed_cons, same]

theorem spelling_isSome : (spelling keywords word).isSome = listed keywords word := by
  rw [Bool.eq_iff_iff, spelling, find?_isSome, listed_iff]

theorem mem_of_spelling {found : Bytes} (isFound : spelling keywords word = some found) :
    found ∈ keywords ∧ strcasecmpEq found word = true :=
  ⟨mem_of_find?_eq_some isFound,
    @find?_some _ (fun other => strcasecmpEq other word) _ _ isFound⟩

theorem spelling_cons {head : Bytes} {tail : List Bytes} :
    spelling (head :: tail) word =
      if strcasecmpEq head word then some head else spelling tail word := by
  unfold spelling
  rw [find?_cons]
  split <;> simp_all

/-- Words that are spelled in one way have that spelling. -/
theorem spelling_of_apart (apart : Apart keywords) (member : word ∈ keywords) :
    spelling keywords word = some word := by
  have found : (spelling keywords word).isSome = true := by
    rw [spelling_isSome, listed_of_mem member]
  obtain ⟨other, isOther⟩ := Option.isSome_iff_exists.mp found
  obtain ⟨inside, alike⟩ := mem_of_spelling isOther
  rw [isOther, apart other inside word member alike]

theorem apart_of_spelling (spelled : ∀ word ∈ keywords, spelling keywords word = some word) :
    Apart keywords := by
  intro first inFirst second inSecond alike
  have same : spelling keywords first = spelling keywords second := by
    unfold spelling
    simp only [strcasecmpEq_congr alike]
  rw [spelled first inFirst, spelled second inSecond] at same
  exact Option.some.inj same

theorem seenWord_not_listed (command : StoreCommand) : listed command.keywords seenWord = false := by
  rw [Bool.eq_false_iff]
  intro isListed
  obtain ⟨word, member, alike⟩ := listed_iff.mp isListed
  have isNone := (mem_filter.mp member).2
  have isFlag : (systemFlag word).isSome = true := by
    simp only [systemFlag, Option.isSome_map, find?_isSome, imapFlagDescEscaped]
    exact ⟨_, mem_cons_self, alike⟩
  rw [Option.isNone_iff_eq_none.mp isNone] at isFlag
  cases isFlag

namespace FlagChange

variable {change : FlagChange} {foldsCase : Bool}

theorem alike_of_sameKeyword {first second : Bytes}
    (same : sameKeyword foldsCase first second = true) : strcasecmpEq first second = true := by
  unfold sameKeyword at same
  split at same
  · exact same
  · rw [beq_iff_eq.mp same]
    exact strcasecmpEq_refl second

/-! ## The stored keywords -/

/-- Some keyword of the command that the cache lists takes the word out of the tables. -/
def Taken (change : FlagChange) (foldsCase : Bool) (known : List Bytes) (word : Bytes) : Prop :=
  ∃ keyword ∈ change.keywords, listed known keyword = true ∧
    sameKeyword foldsCase word keyword = true

theorem mem_onKeywords_remove (isRemove : change.action = .remove) :
    word ∈ change.onKeywords foldsCase known stored ↔
      word ∈ stored ∧ ¬ change.Taken foldsCase known word := by
  unfold Taken
  have loop : ∀ (keywords stored : List Bytes),
      word ∈ keywords.foldl (change.keywordTurn foldsCase known) stored ↔
        word ∈ stored ∧ ¬ ∃ keyword ∈ keywords, listed known keyword = true ∧
          sameKeyword foldsCase word keyword = true := by
    intro keywords
    induction keywords with
    | nil => simp
    | cons head tail ih =>
      intro stored
      rw [foldl_cons, ih]
      unfold keywordTurn
      rw [isRemove]
      cases isListed : listed known head
      · simp [isListed]
      · simp only [if_true, mem_filter, mem_cons, exists_eq_or_imp, isListed, true_and, not_or]
        simp [and_assoc]
  unfold onKeywords
  by_cases none : change.keywords = []
  · simp [none]
  · rw [if_neg none, loop, isRemove]
    simp

section Fill

variable (fills : change.action ≠ .remove)

include fills

theorem listed_fillTurn (head : Bytes) :
    listed (change.keywordTurn foldsCase known stored head) word =
      (listed stored word || !listed known head && strcasecmpEq head word) := by
  have gone : listed (stored.filter (!sameKeyword foldsCase · head)) word = true →
      listed stored word = true := by
    intro isListed
    obtain ⟨other, member, alike⟩ := listed_iff.mp isListed
    exact listed_iff.mpr ⟨other, (mem_filter.mp member).1, alike⟩
  have kept : listed stored word = true →
      (listed (stored.filter (!sameKeyword foldsCase · head)) word ||
        strcasecmpEq head word) = true := by
    intro isListed
    obtain ⟨other, member, alike⟩ := listed_iff.mp isListed
    cases same : sameKeyword foldsCase other head with
    | true =>
      rw [← strcasecmpEq_congr alike, strcasecmpEq_symm (alike_of_sameKeyword same), Bool.or_true]
    | false =>
      rw [listed_iff.mpr ⟨other, mem_filter.mpr ⟨member, by simp [same]⟩, alike⟩, Bool.true_or]
  unfold keywordTurn
  cases isAction : change.action with
  | remove => exact absurd isAction fills
  | add =>
    cases listed known head with
    | true => simp
    | false =>
      simp only [Bool.false_eq_true, if_false, listed_append, listed_cons, listed_nil,
        Bool.or_false, Bool.not_false, Bool.true_and]
      rw [Bool.eq_iff_iff, Bool.or_eq_true, Bool.or_eq_true]
      exact ⟨Or.imp_left gone, fun either => either.elim
        (fun isListed => (Bool.or_eq_true _ _).mp (kept isListed)) .inr⟩
  | replace =>
    cases listed known head with
    | true => simp
    | false =>
      cases present : stored.any (sameKeyword foldsCase · head) with
      | false => simp [listed_append, listed_cons]
      | true =>
        obtain ⟨other, member, same⟩ := any_eq_true.mp present
        simp only [Bool.or_true, if_true, Bool.not_false, Bool.true_and]
        rw [eq_comm, Bool.or_eq_left_iff_imp]
        intro alike
        exact listed_iff.mpr ⟨other, member,
          (strcasecmpEq_congr alike other).symm.trans (alike_of_sameKeyword same)⟩

/-- However the tables compare, the new keywords are there in some spelling. -/
theorem listed_fillTurns (keywords stored : List Bytes) :
    listed (keywords.foldl (change.keywordTurn foldsCase known) stored) word =
      (listed stored word || listed (unlisted known keywords) word) := by
  induction keywords generalizing stored with
  | nil => simp [unlisted]
  | cons head tail ih =>
    rw [foldl_cons, ih, listed_fillTurn fills]
    unfold unlisted
    cases isListed : listed known head <;> simp [isListed, listed_cons, Bool.or_assoc]

theorem listed_onKeywords (some : change.action = .replace → change.keywords ≠ []) :
    listed (change.onKeywords foldsCase known stored) word =
      (listed (if change.action = .replace then [] else stored) word ||
        listed (unlisted known change.keywords) word) := by
  unfold onKeywords
  by_cases none : change.keywords = []
  · have adds : change.action ≠ .replace := fun isReplace => some isReplace none
    simp [none, adds, unlisted]
  · rw [if_neg none, listed_fillTurns fills]

/-- Tables that compare byte by byte keep every spelling. -/
theorem mem_fillTurns (keywords stored : List Bytes) :
    word ∈ keywords.foldl (change.keywordTurn false known) stored ↔
      word ∈ stored ∨ word ∈ unlisted known keywords := by
  have turn : ∀ (stored : List Bytes) (head : Bytes),
      word ∈ change.keywordTurn false known stored head ↔
        word ∈ stored ∨ (word = head ∧ listed known head = false) := by
    intro stored head
    unfold keywordTurn sameKeyword
    cases isAction : change.action with
    | remove => exact absurd isAction fills
    | add =>
      cases listed : listed known head with
      | true => simp
      | false => by_cases here : word = head <;> simp [here]
    | replace =>
      cases listed : listed known head with
      | true => simp
      | false =>
        by_cases present : head ∈ stored
        · simpa [present] using fun here => here ▸ present
        · simp [present]
  induction keywords generalizing stored with
  | nil => simp [unlisted]
  | cons head tail ih =>
    rw [foldl_cons]
    refine (ih _).trans ?_
    rw [turn, mem_unlisted, mem_unlisted]
    by_cases here : word = head
    · subst here
      simp only [true_and, mem_cons, true_or]
      tauto
    · simp [here]

theorem mem_onKeywords_bytewise (some : change.action = .replace → change.keywords ≠ []) :
    word ∈ change.onKeywords false known stored ↔
      word ∈ (if change.action = .replace then [] else stored) ∨
        word ∈ unlisted known change.keywords := by
  unfold onKeywords
  by_cases none : change.keywords = []
  · have adds : change.action ≠ .replace := fun isReplace => some isReplace none
    simp [none, adds, unlisted]
  · rw [if_neg none, mem_fillTurns fills]

/-- Tables that fold the case keep one spelling. -/
theorem apart_fillTurn (apart : Apart stored) (head : Bytes) :
    Apart (change.keywordTurn true known stored head) := by
  have added : ∀ rows : List Bytes, rows ⊆ stored →
      (∀ word ∈ rows, strcasecmpEq word head = false) → Apart (rows ++ [head]) := by
    intro rows inside others first inFirst second inSecond alike
    obtain old | rfl := mem_append.mp inFirst |>.imp_right mem_singleton.mp
    · obtain older | rfl := mem_append.mp inSecond |>.imp_right mem_singleton.mp
      · exact apart first (inside old) second (inside older) alike
      · rw [others first old] at alike
        cases alike
    · obtain older | rfl := mem_append.mp inSecond |>.imp_right mem_singleton.mp
      · exact absurd (strcasecmpEq_symm alike) (by simp [others second older])
      · rfl
  unfold keywordTurn
  simp only [sameKeyword, if_true]
  cases isAction : change.action with
  | remove => exact absurd isAction fills
  | add =>
    dsimp only
    split_ifs
    · exact apart
    · exact added _ (fun _ member => (mem_filter.mp member).1) fun word member => by simpa using (mem_filter.mp member).2
  | replace =>
    dsimp only
    split_ifs with present
    · exact apart
    · rw [Bool.or_eq_true, any_eq_true, not_or] at present
      exact added _ (Subset.refl _) fun word member => by
        simpa using fun alike => present.2 ⟨word, member, alike⟩

theorem apart_onKeywords (apart : Apart stored) : Apart (change.onKeywords true known stored) := by
  unfold onKeywords
  split
  · exact apart
  · refine foldlRecOn change.keywords _ ?_ fun _ kept head _ => apart_fillTurn fills kept head
    split
    · exact fun _ none => absurd none not_mem_nil
    · exact apart

end Fill

/-! ## The keywords that a change asks for -/

section Calm

variable (change : FlagChange) (foldsCase : Bool) (known : List Bytes) (message : StoredMessage)

def unmodified : Bool := change.unchangedsince = 0 || message.seq ≤ change.unchangedsince

/-- The keywords that a change asks for, without regard to case. -/
def wants (stored : List Bytes) (word : Bytes) : Bool :=
  match change.action with
  | .add => listed stored word || listed change.keywords word
  | .remove => listed stored word && !listed change.keywords word
  | .replace => listed change.keywords word

/-- A message that passes the UNCHANGEDSINCE test gets the wanted keywords, any other keeps those
it has; without regard to case and without duplicates. -/
def KeywordsExact : Prop :=
  let after := (change.onMessage foldsCase known message).keywords
  (∀ word, listed after word =
      if change.unmodified message then change.wants message.keywords word
      else listed message.keywords word) ∧
    Apart after

/-- What the cache lists is stored when it is added and not named in a replacement, a removal
finds every word that it names, a message that fails the test has nothing to lose and nothing to
gain, and where the case is not folded no spellings meet. -/
def KeywordsCalm : Prop :=
  let stored := message.keywords
  let new := unlisted known change.keywords
  match change.unmodified message, change.action with
  | true, .add =>
    (∀ word ∈ change.keywords, listed known word = true → listed stored word = true) ∧
      (foldsCase = false → Apart (stored ++ new))
  | false, .add =>
    (∀ word ∈ new, listed stored word = true) ∧ (foldsCase = false → Apart (stored ++ new))
  | true, .remove =>
    ∀ word ∈ stored, listed change.keywords word = true → change.Taken foldsCase known word
  | false, .remove => ∀ word ∈ stored, ¬ change.Taken foldsCase known word
  | true, .replace =>
    if change.keywords = [] then stored = []
    else (∀ word ∈ change.keywords, listed known word = false) ∧
      (foldsCase = false → Apart change.keywords)
  | false, .replace => change.keywords ≠ [] →
    (∀ word ∈ new, listed stored word = true) ∧ (∀ word ∈ stored, listed new word = true) ∧
      (foldsCase = false → Apart new)

end Calm

/-- Lists that name the same words in some spelling. -/
theorem listed_eq_iff {first second : List Bytes} :
    (∀ word, listed first word = listed second word) ↔
      (∀ word ∈ first, listed second word = true) ∧ ∀ word ∈ second, listed first word = true := by
  have subset : ∀ {first second : List Bytes}, (∀ word ∈ first, listed second word = true) →
      ∀ word, listed first word = true → listed second word = true := by
    intro first second inside word isListed
    obtain ⟨other, member, alike⟩ := listed_iff.mp isListed
    rw [← listed_congr alike]
    exact inside other member
  constructor
  · intro same
    exact ⟨fun word member => (same word).symm.trans (listed_of_mem member),
      fun word member => (same word).trans (listed_of_mem member)⟩
  · rintro ⟨left, right⟩ word
    rw [Bool.eq_iff_iff]
    exact ⟨subset left word, subset right word⟩

theorem apart_congr {first second : List Bytes} (same : ∀ word, word ∈ first ↔ word ∈ second) :
    Apart first ↔ Apart second := by
  simp [Apart, same]

theorem apart_onKeywords_iff {change : FlagChange} {foldsCase : Bool} {known stored : List Bytes}
    (fills : change.action ≠ .remove) (some : change.action = .replace → change.keywords ≠ [])
    (apart : Apart stored) :
    Apart (change.onKeywords foldsCase known stored) ↔
      (foldsCase = false → Apart ((if change.action = .replace then [] else stored) ++
        unlisted known change.keywords)) := by
  cases foldsCase with
  | true => exact iff_of_true (apart_onKeywords fills apart) nofun
  | false =>
    rw [forall_prop_of_true rfl]
    apply apart_congr
    intro word
    rw [mem_onKeywords_bytewise fills some, mem_append]

theorem removal_exact_iff {change : FlagChange} {foldsCase : Bool} {known stored : List Bytes}
    (isRemove : change.action = .remove) (apart : Apart stored) (left : Bytes → Bool)
    (spread : ∀ first second, strcasecmpEq first second = true → left first = left second) :
    ((∀ word, listed (change.onKeywords foldsCase known stored) word =
        (listed stored word && left word)) ∧ Apart (change.onKeywords foldsCase known stored)) ↔
      ∀ word ∈ stored, (left word = true ↔ ¬ change.Taken foldsCase known word) := by
  have stays := fun word => @mem_onKeywords_remove known stored word change foldsCase isRemove
  constructor
  · rintro ⟨wanted, -⟩ word inStored
    have after := wanted word
    rw [listed_of_mem inStored, Bool.true_and] at after
    rw [← after, listed_iff]
    constructor
    · rintro ⟨other, member, alike⟩
      obtain ⟨isStored, free⟩ := (stays other).mp member
      exact apart other isStored word inStored alike ▸ free
    · intro free
      exact ⟨word, (stays word).mpr ⟨inStored, free⟩, strcasecmpEq_refl word⟩
  · intro taken
    refine ⟨fun word => ?_, fun first inFirst second inSecond =>
      apart first ((stays first).mp inFirst).1 second ((stays second).mp inSecond).1⟩
    rw [Bool.eq_iff_iff, Bool.and_eq_true, listed_iff, listed_iff]
    constructor
    · rintro ⟨other, member, alike⟩
      obtain ⟨isStored, free⟩ := (stays other).mp member
      exact ⟨⟨other, isStored, alike⟩, spread other word alike ▸ (taken other isStored).mpr free⟩
    · rintro ⟨⟨other, isStored, alike⟩, isLeft⟩
      refine ⟨other, (stays other).mpr ⟨isStored, ?_⟩, alike⟩
      exact (taken other isStored).mp ((spread other word alike).trans isLeft)

/-- The keywords of a message without duplicates are what a change asks for exactly when its
statements meet nothing that they treat otherwise. -/
theorem keywordsExact_iff (change : FlagChange) (foldsCase : Bool) (known : List Bytes)
    (message : StoredMessage) (apart : Apart message.keywords) :
    change.KeywordsExact foldsCase known message ↔ change.KeywordsCalm foldsCase known message := by
  unfold KeywordsExact KeywordsCalm
  show (∀ word, listed (change.onKeywords foldsCase known message.keywords) word = _) ∧
    Apart (change.onKeywords foldsCase known message.keywords) ↔ _
  generalize message.keywords = stored at apart ⊢
  cases isAction : change.action with
  | remove =>
    have named : ∀ word, change.Taken foldsCase known word → listed change.keywords word = true := by
      rintro word ⟨keyword, member, -, same⟩
      exact listed_iff.mpr ⟨keyword, member, strcasecmpEq_symm (alike_of_sameKeyword same)⟩
    cases change.unmodified message with
    | true =>
      simp only [wants, isAction, if_true]
      refine (removal_exact_iff isAction apart (fun word => !listed change.keywords word)
        fun first second alike => by rw [listed_congr alike]).trans ?_
      refine forall₂_congr fun word _ => ?_
      rw [Bool.not_eq_true', Bool.eq_false_iff, not_iff_not]
      exact ⟨Iff.mp, fun taken => ⟨taken, named word⟩⟩
    | false =>
      simp only [Bool.false_eq_true, if_false]
      have all := @removal_exact_iff change foldsCase known stored isAction apart (fun _ => true)
        fun _ _ _ => rfl
      simpa only [Bool.and_true, true_iff] using all
  | add =>
    have fills : change.action ≠ .remove := by simp [isAction]
    have some : change.action = .replace → change.keywords ≠ [] := by simp [isAction]
    rw [apart_onKeywords_iff fills some apart]
    simp only [listed_onKeywords fills some, isAction, reduceCtorEq, if_false]
    cases change.unmodified message with
    | true =>
      simp only [wants, isAction, if_true]
      refine and_congr_left fun _ => ⟨fun wanted word member isListed => ?_, fun wanted word => ?_⟩
      · have both := wanted word
        rw [listed_unlisted, isListed, listed_of_mem member] at both
        simpa using both
      · rw [listed_unlisted]
        cases isNamed : listed change.keywords word with
        | false => simp
        | true =>
          obtain ⟨keyword, member, alike⟩ := listed_iff.mp isNamed
          have kept := wanted keyword member
          rw [listed_congr alike, listed_congr alike] at kept
          cases isKnown : listed known word with
          | false => simp
          | true => simp [kept isKnown]
    | false =>
      simp only [Bool.false_eq_true, if_false]
      refine and_congr_left fun _ => ⟨fun kept word member => ?_, fun kept word => ?_⟩
      · have both := kept word
        rw [listed_of_mem member] at both
        simpa using both.symm
      · rw [Bool.or_eq_left_iff_imp]
        intro isNew
        obtain ⟨keyword, member, alike⟩ := listed_iff.mp isNew
        rw [← listed_congr alike]
        exact kept keyword member
  | replace =>
    have fills : change.action ≠ .remove := by simp [isAction]
    by_cases none : change.keywords = []
    · have stays : change.onKeywords foldsCase known stored = stored := if_pos none
      rw [stays]
      cases change.unmodified message with
      | true =>
        simp only [wants, isAction, none, if_true, listed_nil]
        constructor
        · rintro ⟨nothing, -⟩
          refine eq_nil_iff_forall_not_mem.mpr fun word member => ?_
          exact absurd (listed_of_mem member) (by simp [nothing])
        · rintro rfl
          exact ⟨fun _ => rfl, apart⟩
      | false => simp [none, apart]
    · have some : change.action = .replace → change.keywords ≠ [] := fun _ => none
      rw [apart_onKeywords_iff fills some apart]
      simp only [listed_onKeywords fills some, isAction, if_true, listed_nil, Bool.false_or,
        nil_append]
      cases change.unmodified message with
      | true =>
        simp only [wants, isAction, if_true, none, if_false]
        have unknown : (∀ word, listed (unlisted known change.keywords) word =
            listed change.keywords word) ↔ ∀ word ∈ change.keywords, listed known word = false := by
          rw [listed_eq_iff]
          constructor
          · rintro ⟨-, all⟩ word member
            have isNew := all word member
            rw [listed_unlisted, Bool.and_eq_true] at isNew
            simpa using isNew.2
          · intro unlisted
            refine ⟨fun word member => listed_of_mem (mem_unlisted.mp member).1,
              fun word member => ?_⟩
            rw [listed_unlisted, listed_of_mem member, unlisted word member]
            rfl
        rw [unknown]
        refine and_congr_right fun isNew => ?_
        have all : unlisted known change.keywords = change.keywords :=
          filter_eq_self.mpr fun word member => by simp [isNew word member]
        rw [all]
      | false =>
        simp only [Bool.false_eq_true, if_false, listed_eq_iff]
        rw [forall_prop_of_true none, and_assoc]

end FlagChange

/-- `STORE 1 +FLAGS ($Junk)` on a message that has another keyword. -/
theorem junk_added : FlagChange.KeywordsExact ⟨.add, {}, [lit "$Junk"], 0⟩ true [lit "work"]
    ⟨1, .new, {}, 1, [lit "work"], 0⟩ := by
  refine (FlagChange.keywordsExact_iff _ _ _ _ ?_).mpr ⟨?_, nofun⟩
  · simp [Apart]
  · decide +kernel

/-- `STORE 1 FLAGS ()` leaves the keywords of the message. -/
theorem empty_replacement_keeps_keywords : ¬ FlagChange.KeywordsExact ⟨.replace, {}, [], 0⟩ false
    [lit "$Junk"] ⟨1, .new, {}, 1, [lit "$Junk"], 0⟩ := by
  intro wanted
  exact absurd (wanted.1 (lit "$Junk")) (by decide)

end Keywords

end Dbmail.Mailbox
