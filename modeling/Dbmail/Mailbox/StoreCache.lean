import Dbmail.Mailbox.Keywords

/-!
Contract: STORE keeps the cached messages and the stored ones equal.

Owns when a cached message agrees with the stored one, when a STORE leaves every
message it works on in agreement, reports that state and lists as MODIFIED only
what is unchanged, and the exact condition for it.

Does not own: messages that other sessions change during the command.
-/

namespace Dbmail.Mailbox

open Dbmail.Lib Dbmail.Imap List
open FlagChange (listed)

/-! ## Agreement -/

def SameWords (first second : List Bytes) : Prop :=
  ∀ word, word ≠ seenWord → (word ∈ first ↔ word ∈ second)

structure Agrees (info : MessageInfo) (message : StoredMessage) : Prop where
  flags : info.flags = message.flags
  keywords : SameWords info.keywords message.keywords
  seq : info.seq = message.seq

def Coherent (state : MailboxState) (tables : Tables) (uids : List Nat) : Prop :=
  ∀ uid ∈ uids, ∃ info message, state.msginfo.lookup uid = some info ∧
    tables.messages.lookup uid = some message ∧ Agrees info message

theorem Coherent.agrees {state : MailboxState} {tables : Tables} {uids : List Nat} {uid : Nat}
    {info : MessageInfo} {message : StoredMessage} (coherent : Coherent state tables uids)
    (member : uid ∈ uids) (cached : state.msginfo.lookup uid = some info)
    (stored : tables.messages.lookup uid = some message) : Agrees info message := by
  obtain ⟨other, otherMessage, isOther, isOtherMessage, agrees⟩ := coherent uid member
  cases cached.symm.trans isOther
  cases stored.symm.trans isOtherMessage
  exact agrees

structure StoreResponse.Reports (response : StoreResponse) (state : MailboxState)
    (message : StoredMessage) : Prop where
  flags : ∀ shown, response.shown = some shown → shown.1 = message.flags
  keywords : ∀ shown, response.shown = some shown → ∀ word, word ≠ seenWord →
    (word ∈ shown.2.2 ↔ word ∈ message.keywords ∧ word ∈ state.keywords)
  modseq : ∀ modseq, response.modseq = some modseq → modseq = message.seq

structure Unchanged (info after : MessageInfo) (message stored : StoredMessage) : Prop where
  cachedFlags : after.flags = info.flags
  cachedKeywords : SameWords after.keywords info.keywords
  cachedSeq : after.seq = info.seq
  flags : stored.flags = message.flags
  keywords : stored.keywords = message.keywords
  seq : stored.seq = message.seq

section Exact

variable (conf : StoreConf) (held : AclRight → Bool) (tables : Tables) (selected : Selected)
  (command : StoreCommand)

/-- A STORE of messages that agree runs to its end, leaves them in agreement, reports
what they then are, and lists as MODIFIED only what has not changed. -/
def StoreExact : Prop :=
  Coherent selected.state tables (storeTargets held tables selected command) →
    let after := (storeEnter conf held tables selected command).1
    after.fault = none ∧
      Coherent after.state after.tables (storeTargets held tables selected command) ∧
      (∀ response ∈ after.sent, ∃ message, after.tables.messages.lookup response.uid = some message ∧
        response.Reports after.state message) ∧
      ∀ uid ∈ after.modified, ∀ info message cached stored,
        selected.state.msginfo.lookup uid = some info → tables.messages.lookup uid = some message →
        after.state.msginfo.lookup uid = some cached → after.tables.messages.lookup uid = some stored →
          Unchanged info cached message stored

end Exact

/-! ## The condition -/

section Condition

variable (command : StoreCommand) (writable : Bool)

/-- The flags of the cache and the tables stay equal: the UPDATE reaches the message, or
the command has nothing to change in it. -/
def FlagsKept (info : MessageInfo) (message : StoredMessage) : Prop :=
  (writable && command.change.setsFlags && command.change.reaches message) = true ∨
    command.change.onFlags info.flags = info.flags

/-- The keywords of the cache and the tables stay equal. A word that is added in several
spellings is cached in the first of them and, where the tables fold the case, stored in the
last; where they do not, every spelling is stored and only the one that is named is removed. A
replacement stores no keyword that the message has already. -/
def KeywordsKept (foldsCase : Bool) (known : List Bytes) : Prop :=
  let new := unlisted known command.keywords
  match writable, command.action with
  | true, .add =>
    if foldsCase then ∀ word ∈ new, spelling new word = some word ↔
      spelling new.reverse word = some word
    else Apart new
  | true, .remove => foldsCase = true ∨ ∀ word ∈ known, word ≠ seenWord →
      listed command.keywords word = true → word ∈ command.keywords
  | true, .replace =>
    (command.keywords = [] → SameWords [] known) ∧
      (∀ word ∈ command.keywords, listed known word = false) ∧
        (foldsCase = true → Apart command.keywords)
  | false, .add => ∀ word ∈ command.keywords, listed known word = true
  | false, .remove => ∀ word ∈ known, word ≠ seenWord → listed command.keywords word = false
  | false, .replace => SameWords command.keywords known

variable (conf : StoreConf) (seq : Nat) (ids : List Nat)

structure StoreKeeps (foldsCase : Bool) (uid : Nat) (info : MessageInfo) (message : StoredMessage) : Prop where
  /-- A message that is reported has an MSN. -/
  numbered : (command.silent && !storeCounts conf command writable info (some message)) = false →
    uid ∈ ids
  flags : FlagsKept command writable info message
  keywords : KeywordsKept command writable foldsCase info.keywords
  /-- The new sequence is not below that of a message that has changed. -/
  seq : storeCounts conf command writable info (some message) = true → message.seq ≤ seq

end Condition

/-! ## The cached list -/

section Keywords

variable {known stored keywords : List Bytes} {word : Bytes}

def addKeyword (known : List Bytes) (keyword : Bytes) : List Bytes :=
  if listed known keyword then known else known ++ [keyword]

theorem mergeKeywords_add : mergeKeywords .add known keywords = keywords.foldl addKeyword known := rfl

/-- The cache gets new words in their first spelling. -/
theorem mem_addKeywords : word ∈ keywords.foldl addKeyword known ↔
    word ∈ known ∨ spelling (unlisted known keywords) word = some word := by
  induction keywords generalizing known with
  | nil => simp [unlisted, spelling]
  | cons head tail ih =>
    rw [foldl_cons, ih]
    cases isListed : listed known head with
    | true => simp [addKeyword, isListed, unlisted]
    | false =>
      have heads : unlisted known (head :: tail) = head :: unlisted known tail := by
        simp [unlisted, isListed]
      rw [addKeyword, isListed, if_neg Bool.false_ne_true, heads, spelling_cons, mem_append,
        mem_singleton]
      by_cases alike : strcasecmpEq head word = true
      · -- the words of this class are listed from now on
        have none : spelling (unlisted (known ++ [head]) tail) word = none := by
          rw [← Option.not_isSome_iff_eq_none, spelling_isSome, listed_unlisted, listed_append,
            listed_cons, alike]
          simp
        rw [none, if_pos alike]
        simp [eq_comm]
      · have same : spelling (unlisted (known ++ [head]) tail) word =
            spelling (unlisted known tail) word := by
          unfold spelling unlisted
          rw [find?_filter, find?_filter]
          congr 1
          funext other
          by_cases isWord : strcasecmpEq other word = true
          · have unlike : strcasecmpEq head other = false := by
              rw [strcasecmpEq_congr isWord]
              simpa using alike
            simp [listed_append, listed_cons, unlike]
          · simp [isWord]
        have other : word ≠ head := fun isHead => alike (isHead ▸ strcasecmpEq_refl word)
        rw [same, if_neg alike]
        simp [other]

theorem mem_mergeKeywords_remove (distinct : Distinct known) :
    word ∈ mergeKeywords .remove known keywords ↔
      word ∈ known ∧ listed keywords word = false := by
  show word ∈ keywords.foldl
    (fun known keyword => known.eraseP fun other => strcasecmpEq other keyword) known ↔ _
  induction keywords generalizing known with
  | nil => simp
  | cons head tail ih =>
    have erased : ∀ {words : List Bytes}, Distinct words →
        (words.eraseP fun other => strcasecmpEq other head) =
          words.filter fun other => !strcasecmpEq other head := by
      intro words apart
      induction words with
      | nil => rfl
      | cons first rest rest_ih =>
        obtain ⟨others, restApart⟩ := pairwise_cons.mp apart
        by_cases isHead : strcasecmpEq first head = true
        · have unlike : ∀ other ∈ rest, (!strcasecmpEq other head) = true := by
            intro other member
            rw [← strcasecmpEq_congr isHead]
            have apartFrom := others other member
            cases back : strcasecmpEq other first with
            | false => rfl
            | true => exact absurd (strcasecmpEq_symm back) (by simp [apartFrom])
          simp [isHead, filter_eq_self.mpr unlike]
        · simp [isHead, rest_ih restApart]
    have stays : Distinct (known.filter fun other => !strcasecmpEq other head) :=
      Pairwise.sublist filter_sublist distinct
    rw [foldl_cons, erased distinct, ih stays, mem_filter, listed_cons, Bool.or_eq_false_iff]
    constructor
    · rintro ⟨⟨inside, unlike⟩, rest⟩
      refine ⟨inside, ?_, rest⟩
      cases back : strcasecmpEq head word with
      | false => rfl
      | true => exact absurd (strcasecmpEq_symm back) (by simpa using unlike)
    · rintro ⟨inside, unlike, rest⟩
      refine ⟨⟨inside, ?_⟩, rest⟩
      cases back : strcasecmpEq word head with
      | false => rfl
      | true => exact absurd (strcasecmpEq_symm back) (by simp [unlike])

theorem addKeywords_listed (listed : ∀ word ∈ keywords, listed known word = true) :
    keywords.foldl addKeyword known = known :=
  foldl_skipped fun word member => if_pos (listed word member)

namespace FlagChange

variable {change : FlagChange}

/-- Tables that fold the case store what is added in its last spelling. -/
theorem mem_onKeywords_add (isAdd : change.action = .add) :
    word ∈ change.onKeywords true known stored ↔
      if listed (unlisted known change.keywords) word then
        spelling (unlisted known change.keywords).reverse word = some word
      else word ∈ stored := by
  have loop : ∀ (keywords stored : List Bytes),
      word ∈ keywords.foldl (change.keywordTurn true known) stored ↔
        if listed (unlisted known keywords) word then
          spelling (unlisted known keywords).reverse word = some word
        else word ∈ stored := by
    intro keywords
    induction keywords with
    | nil => simp [unlisted]
    | cons head tail ih =>
      intro stored
      rw [foldl_cons, ih]
      unfold keywordTurn
      rw [isAdd]
      cases isListed : listed known head with
      | true => simp [unlisted, isListed]
      | false =>
        have heads : unlisted known (head :: tail) = head :: unlisted known tail := by
          simp [unlisted, isListed]
        rw [heads, reverse_cons, listed_cons]
        cases later : listed (unlisted known tail) word with
        | true =>
          have found : (spelling (unlisted known tail).reverse word).isSome = true := by
            rw [spelling_isSome]
            simpa [listed] using later
          obtain ⟨last, isLast⟩ := Option.isSome_iff_exists.mp found
          unfold spelling at isLast ⊢
          simp [isLast]
        | false =>
          have none : spelling (unlisted known tail).reverse word = none := by
            rw [← Option.not_isSome_iff_eq_none, spelling_isSome]
            simpa [listed] using later
          unfold spelling at none ⊢
          rw [find?_append, none]
          cases alike : strcasecmpEq head word with
          | true => simp [sameKeyword, alike, strcasecmpEq_symm alike, eq_comm]
          | false =>
            have other : word ≠ head := by
              rintro rfl
              rw [strcasecmpEq_refl] at alike
              cases alike
            have unlike : strcasecmpEq word head = false := by
              cases back : strcasecmpEq word head with
              | false => rfl
              | true => exact absurd (strcasecmpEq_symm back) (by simp [alike])
            simp [sameKeyword, unlike, other]
  unfold onKeywords
  by_cases none : change.keywords = []
  · simp [none, unlisted]
  · rw [if_neg none, loop, isAdd]
    simp

/-- Tables that fold the case store a replacement in its first spelling. -/
theorem mem_onKeywords_replace (isReplace : change.action = .replace)
    (some : change.keywords ≠ []) : word ∈ change.onKeywords true known stored ↔
      spelling (unlisted known change.keywords) word = Option.some word := by
  have loop : ∀ (keywords stored : List Bytes),
      word ∈ keywords.foldl (change.keywordTurn true known) stored ↔
        word ∈ stored ∨ (listed stored word = false ∧
          spelling (unlisted known keywords) word = Option.some word) := by
    intro keywords
    induction keywords with
    | nil => simp [unlisted, spelling]
    | cons head tail ih =>
      intro stored
      rw [foldl_cons, ih]
      unfold keywordTurn
      rw [isReplace]
      cases isListed : listed known head with
      | true => simp [unlisted, isListed]
      | false =>
        have heads : unlisted known (head :: tail) = head :: unlisted known tail := by
          simp [unlisted, isListed]
        have present : stored.any (sameKeyword true · head) = listed stored head := rfl
        rw [heads, spelling_cons, present]
        by_cases alike : strcasecmpEq head word = true
        · have same := @listed_congr stored _ _ alike
          rw [if_pos alike]
          cases isStored : listed stored head with
          | true => simp [← same, isStored]
          | false => simp [← same, isStored, listed_append, listed_cons, alike, eq_comm]
        · have other : word ≠ head := fun isHead => alike (isHead ▸ strcasecmpEq_refl word)
          rw [if_neg alike]
          cases isStored : listed stored head <;> simp [listed_append, listed_cons, alike, other]
  unfold onKeywords
  rw [if_neg some, loop, isReplace]
  simp

end FlagChange

end Keywords

/-! ## One message -/

section Message

variable {conf : StoreConf} {command : StoreCommand} {seq : Nat} {foldsCase writable : Bool}
  {info : MessageInfo} {message : StoredMessage}

theorem ne_seenWord_of_listed {word : Bytes} (named : listed command.keywords word = true) :
    word ≠ seenWord := by
  rintro rfl
  rw [seenWord_not_listed] at named
  cases named

section Kept

variable {known stored : List Bytes} (same : SameWords known stored)

include same

/-- A keyword that a command adds to the cache is stored for a message. -/
theorem keptAdd_iff (isAdd : command.change.action = .add) :
    SameWords (command.keywords.foldl addKeyword known)
        (command.change.onKeywords foldsCase known stored) ↔
      KeywordsKept command true foldsCase known := by
  simp only [KeywordsKept, show command.action = .add from isAdd]
  have new (word : Bytes) (other : word ≠ seenWord) (isNew : listed known word = false) :
      word ∉ known ∧ word ∉ stored := by
    have unknown : word ∉ known := fun member => by simp [listed_of_mem member] at isNew
    exact ⟨unknown, fun member => unknown ((same word other).mpr member)⟩
  have named (word : Bytes) (member : word ∈ unlisted known command.keywords) :
      word ≠ seenWord ∧ listed known word = false := by
    obtain ⟨inCommand, isNew⟩ := mem_unlisted.mp member
    exact ⟨ne_seenWord_of_listed (listed_of_mem inCommand), isNew⟩
  cases foldsCase with
  | true =>
    rw [if_pos rfl]
    constructor
    · intro kept word member
      obtain ⟨other, isNew⟩ := named word member
      obtain ⟨unknown, unstored⟩ := new word other isNew
      have both := kept word other
      rw [mem_addKeywords, FlagChange.mem_onKeywords_add isAdd,
        show command.change.keywords = command.keywords from rfl,
        if_pos (listed_of_mem member)] at both
      simpa [unknown] using both
    · intro kept word other
      rw [mem_addKeywords, FlagChange.mem_onKeywords_add isAdd]
      cases isNew : listed (unlisted known command.keywords) word with
      | false =>
        have none : spelling (unlisted known command.keywords) word ≠ some word := by
          intro found
          rw [listed_of_mem (mem_of_spelling found).1] at isNew
          cases isNew
        have isSame := same word other
        simpa [none, show command.change.keywords = command.keywords from rfl, isNew] using isSame
      | true =>
        rw [listed_unlisted, Bool.and_eq_true, Bool.not_eq_true'] at isNew
        obtain ⟨unknown, -⟩ := new word other isNew.2
        have isListed : listed (unlisted known command.change.keywords) word = true := by
          rw [listed_unlisted, isNew.2, show command.change.keywords = command.keywords from rfl,
            isNew.1]
          rfl
        rw [if_pos isListed, or_iff_right unknown]
        constructor
        · intro first
          exact (kept word (mem_of_spelling first).1).mp first
        · intro last
          exact (kept word (mem_reverse.mp (mem_of_spelling last).1)).mpr last
  | false =>
    rw [if_neg Bool.false_ne_true]
    have table (word : Bytes) : word ∈ command.change.onKeywords false known stored ↔
        word ∈ stored ∨ word ∈ unlisted known command.keywords := by
      rw [FlagChange.mem_onKeywords_bytewise (by simp [isAdd]) (by simp [isAdd]), isAdd]
      rfl
    constructor
    · intro kept
      apply apart_of_spelling
      intro word member
      obtain ⟨other, isNew⟩ := named word member
      have cached := (kept word other).mpr ((table word).mpr (.inr member))
      exact (mem_addKeywords.mp cached).resolve_left (new word other isNew).1
    · intro apart word other
      rw [mem_addKeywords, table, same word other]
      refine or_congr_right ⟨fun first => (mem_of_spelling first).1, spelling_of_apart apart⟩

theorem keptRemove_iff (isRemove : command.change.action = .remove) (distinct : Distinct known) :
    SameWords (mergeKeywords .remove known command.keywords)
        (command.change.onKeywords foldsCase known stored) ↔
      KeywordsKept command true foldsCase known := by
  simp only [KeywordsKept, show command.action = .remove from isRemove]
  have taken (word : Bytes) (inKnown : word ∈ known) :
      command.change.Taken foldsCase known word ↔
        if foldsCase then listed command.keywords word = true else word ∈ command.keywords := by
    unfold FlagChange.Taken FlagChange.sameKeyword
    constructor
    · rintro ⟨keyword, member, -, isWord⟩
      cases foldsCase with
      | true => exact listed_iff.mpr ⟨keyword, member, strcasecmpEq_symm isWord⟩
      | false =>
        obtain rfl := beq_iff_eq.mp isWord
        exact member
    · intro named
      cases foldsCase with
      | true =>
        obtain ⟨keyword, member, alike⟩ := listed_iff.mp named
        refine ⟨keyword, member, ?_, strcasecmpEq_symm alike⟩
        rw [listed_congr alike]
        exact listed_of_mem inKnown
      | false => exact ⟨word, named, listed_of_mem inKnown, beq_self_eq_true word⟩
  have step (word : Bytes) (other : word ≠ seenWord) :
      (word ∈ mergeKeywords .remove known command.keywords ↔
          word ∈ command.change.onKeywords foldsCase known stored) ↔
        (word ∈ known → foldsCase = true ∨
          (listed command.keywords word = true → word ∈ command.keywords)) := by
    rw [mem_mergeKeywords_remove distinct, FlagChange.mem_onKeywords_remove isRemove,
      ← same word other]
    by_cases inKnown : word ∈ known
    · rw [taken word inKnown]
      cases foldsCase with
      | true => simp [inKnown]
      | false =>
        have named : word ∈ command.keywords → listed command.keywords word = true := listed_of_mem
        cases isNamed : listed command.keywords word with
        | true => simp [inKnown]
        | false =>
          have unnamed : word ∉ command.keywords := by
            intro member
            rw [named member] at isNamed
            cases isNamed
          simp [inKnown, unnamed]
    · simp [inKnown]
  constructor
  · intro kept
    by_cases folds : foldsCase = true
    · exact .inl folds
    · refine .inr fun word inKnown other => ?_
      exact ((step word other).mp (kept word other) inKnown).resolve_left folds
  · intro kept word other
    exact (step word other).mpr fun inKnown => kept.imp_right fun named => named word inKnown other

theorem SameWords.congr_right {first : List Bytes} :
    SameWords first stored ↔ SameWords first known := by
  constructor
  · intro kept word other
    exact (kept word other).trans (same word other).symm
  · intro kept word other
    exact (kept word other).trans (same word other)

theorem keptReplace_iff (isReplace : command.change.action = .replace) :
    SameWords command.keywords (command.change.onKeywords foldsCase known stored) ↔
      KeywordsKept command true foldsCase known := by
  simp only [KeywordsKept, show command.action = .replace from isReplace]
  by_cases none : command.keywords = []
  · have stays : command.change.onKeywords foldsCase known stored = stored := if_pos none
    rw [stays, none]
    simp [same.congr_right, Apart]
  have some : command.change.keywords ≠ [] := none
  have notSeen (word : Bytes) (member : word ∈ command.keywords) : word ≠ seenWord :=
    ne_seenWord_of_listed (listed_of_mem member)
  have all (isNew : ∀ word ∈ command.keywords, listed known word = false) :
      unlisted known command.keywords = command.keywords :=
    filter_eq_self.mpr fun word member => by simp [isNew word member]
  cases foldsCase with
  | true =>
    have table (word : Bytes) := @FlagChange.mem_onKeywords_replace known stored word _ isReplace some
    constructor
    · intro kept
      have spelled (word : Bytes) (member : word ∈ command.keywords) :
          spelling (unlisted known command.keywords) word = .some word :=
        (table word).mp ((kept word (notSeen word member)).mp member)
      have isNew (word : Bytes) (member : word ∈ command.keywords) : listed known word = false :=
        (mem_unlisted.mp (mem_of_spelling (spelled word member)).1).2
      refine ⟨fun empty => absurd empty none, isNew, fun _ => apart_of_spelling fun word member => ?_⟩
      rw [← all isNew]
      exact spelled word (all isNew ▸ member)
    · rintro ⟨-, isNew, apart⟩ word -
      rw [table, show command.change.keywords = command.keywords from rfl, all isNew]
      exact ⟨spelling_of_apart (apart rfl), fun found => (mem_of_spelling found).1⟩
  | false =>
    have table (word : Bytes) : word ∈ command.change.onKeywords false known stored ↔
        word ∈ unlisted known command.keywords := by
      rw [FlagChange.mem_onKeywords_bytewise (by simp [isReplace]) fun _ => some, isReplace]
      simp [show command.change.keywords = command.keywords from rfl]
    constructor
    · intro kept
      refine ⟨fun empty => absurd empty none, fun word member => ?_,
        fun folds => absurd folds Bool.false_ne_true⟩
      exact (mem_unlisted.mp ((table word).mp ((kept word (notSeen word member)).mp member))).2
    · rintro ⟨-, isNew, -⟩ word -
      rw [table, all isNew]

/-- Where nothing is stored, an addition has nothing to add. -/
theorem keptAdd_readOnly_iff :
    SameWords (command.keywords.foldl addKeyword known) stored ↔
      ∀ word ∈ command.keywords, listed known word = true := by
  constructor
  · intro kept word member
    by_contra isNew
    have named : listed (unlisted known command.keywords) word = true := by
      rw [listed_unlisted, listed_of_mem member]
      simpa using isNew
    obtain ⟨first, isFirst⟩ := Option.isSome_iff_exists.mp (spelling_isSome.trans named)
    obtain ⟨inside, alike⟩ := mem_of_spelling isFirst
    obtain ⟨inCommand, unknown⟩ := mem_unlisted.mp inside
    have own : spelling (unlisted known command.keywords) first = some first := by
      rw [← isFirst]
      unfold spelling
      simp only [strcasecmpEq_congr alike]
    have notSeen := ne_seenWord_of_listed (listed_of_mem inCommand)
    have isKnown := (same first notSeen).mpr ((kept first notSeen).mp (mem_addKeywords.mpr (.inr own)))
    rw [listed_of_mem isKnown] at unknown
    cases unknown
  · intro listed
    rw [addKeywords_listed listed]
    exact same

theorem keptRemove_readOnly_iff (distinct : Distinct known) :
    SameWords (mergeKeywords .remove known command.keywords) stored ↔
      ∀ word ∈ known, word ≠ seenWord → listed command.keywords word = false := by
  rw [same.congr_right]
  constructor
  · intro kept word inKnown other
    exact ((mem_mergeKeywords_remove distinct).mp ((kept word other).mpr inKnown)).2
  · intro unnamed word other
    rw [mem_mergeKeywords_remove distinct]
    exact ⟨And.left, fun inKnown => ⟨inKnown, unnamed word inKnown other⟩⟩

theorem keywordsKept_iff (distinct : Distinct known) :
    SameWords (mergeKeywords command.action known command.keywords)
        (if writable then command.change.onKeywords foldsCase known stored else stored) ↔
      KeywordsKept command writable foldsCase known := by
  cases writable with
  | true =>
    cases isAction : command.action with
    | add => exact keptAdd_iff same isAction
    | remove => exact keptRemove_iff same isAction distinct
    | replace => exact keptReplace_iff same isAction
  | false =>
    cases isAction : command.action with
    | add =>
      simp only [KeywordsKept, isAction]
      exact keptAdd_readOnly_iff same
    | remove =>
      simp only [KeywordsKept, isAction]
      exact keptRemove_readOnly_iff same distinct
    | replace =>
      simp only [KeywordsKept, isAction]
      exact same.congr_right

end Kept

theorem storeMessage_seq :
    (storeMessage conf command seq foldsCase writable info message).seq =
      if storeCounts conf command writable info (some message) then max message.seq seq
      else message.seq := by
  unfold storeMessage
  cases writable with
  | false => simp [storeCounts]
  | true =>
    simp only [Bool.not_true, Bool.false_eq_true, if_false]
    split <;> rfl

/-- A message that agrees does so afterwards exactly when its flags, keywords and
sequence are kept. -/
theorem agrees_storeInfo_iff (agrees : Agrees info message) (distinct : Distinct info.keywords) :
    Agrees (storeInfo command seq (storeCounts conf command writable info (some message)) info)
        (storeMessage conf command seq foldsCase writable info message) ↔
      FlagsKept command writable info message ∧ KeywordsKept command writable foldsCase info.keywords ∧
        (storeCounts conf command writable info (some message) = true → message.seq ≤ seq) := by
  have flags : command.change.onFlags info.flags =
      (storeMessage conf command seq foldsCase writable info message).flags ↔
        FlagsKept command writable info message := by
    rw [storeMessage_flags, FlagsKept, agrees.flags]
    split
    · rename_i written
      exact iff_of_true rfl (.inl written)
    · rename_i unwritten
      exact ⟨.inr, fun kept => kept.resolve_left unwritten⟩
  have keywords : SameWords (mergeKeywords command.action info.keywords command.keywords)
      (storeMessage conf command seq foldsCase writable info message).keywords ↔
        KeywordsKept command writable foldsCase info.keywords := by
    rw [storeMessage_keywords]
    exact keywordsKept_iff agrees.keywords distinct
  have sequence : (if storeCounts conf command writable info (some message) then seq else info.seq) =
      (storeMessage conf command seq foldsCase writable info message).seq ↔
        (storeCounts conf command writable info (some message) = true → message.seq ≤ seq) := by
    rw [storeMessage_seq, agrees.seq]
    cases storeCounts conf command writable info (some message) with
    | false | true => simp
  constructor
  · intro after
    exact ⟨flags.mp after.flags, keywords.mp after.keywords, sequence.mp after.seq⟩
  · intro ⟨flagsKept, keywordsKept, seqKept⟩
    exact ⟨flags.mpr flagsKept, keywords.mpr keywordsKept, sequence.mpr seqKept⟩

/-- Keywords for which no statement was made are left as they were. -/
theorem keywords_uncounted {known stored : List Bytes} (distinct : Distinct known)
    (noStatement : command.change.keywordCount known = 0)
    (kept : KeywordsKept command true foldsCase known) :
    SameWords (mergeKeywords command.action known command.keywords) known ∧
      command.change.onKeywords foldsCase known stored = stored := by
  have same : SameWords known known := fun word _ => Iff.rfl
  have skipped : ∀ word ∈ command.keywords,
      ¬ (listed known word == decide (command.action = .remove)) = true :=
    countP_eq_zero.mp noStatement
  have unturned (turns : ∀ word ∈ command.keywords,
      command.change.keywordTurn foldsCase known stored word = stored)
      (isNot : command.keywords ≠ [] → command.action ≠ .replace) :
      command.change.onKeywords foldsCase known stored = stored := by
    unfold FlagChange.onKeywords
    split
    · rfl
    · rename_i some
      rw [if_neg (show command.change.action ≠ .replace from isNot some)]
      exact foldl_skipped turns
  cases isAction : command.action with
  | add =>
    simp only [isAction, reduceCtorEq, decide_false, beq_false, Bool.not_eq_true',
      Bool.not_eq_false] at skipped
    refine ⟨?_, unturned (fun word member => ?_) (by simp [isAction])⟩
    · rw [mergeKeywords_add, addKeywords_listed skipped]
      exact same
    · unfold FlagChange.keywordTurn
      simp [show command.change.action = .add from isAction, skipped word member]
  | remove =>
    simp only [isAction, decide_true, beq_true, Bool.not_eq_true] at skipped
    refine ⟨?_, unturned (fun word member => ?_) (by simp [isAction])⟩
    · apply (keptRemove_readOnly_iff same distinct).mpr
      intro word inKnown _
      rw [Bool.eq_false_iff]
      intro named
      obtain ⟨keyword, member, alike⟩ := listed_iff.mp named
      have isKnown := skipped keyword member
      rw [listed_congr alike, listed_of_mem inKnown] at isKnown
      cases isKnown
    · unfold FlagChange.keywordTurn
      simp [show command.change.action = .remove from isAction, skipped word member]
  | replace =>
    simp only [KeywordsKept, isAction] at kept
    have none : command.keywords = [] := by
      by_contra some
      obtain ⟨word, member⟩ := exists_mem_of_ne_nil _ some
      have isListed := skipped word member
      simp [isAction, kept.2.1 word member] at isListed
    exact ⟨by rw [none]; exact kept.1 none, if_pos none⟩

/-- A message for which no change is reported is left as it was, if it agrees
afterwards. -/
theorem unchanged_of_uncounted (agrees : Agrees info message) (distinct : Distinct info.keywords)
    (isWritable : writable = true)
    (uncounted : storeCounts conf command writable info (some message) = false)
    (flagsKept : FlagsKept command writable info message)
    (keywordsKept : KeywordsKept command writable foldsCase info.keywords) :
    Unchanged info (storeInfo command seq false info) message
      (storeMessage conf command seq foldsCase writable info message) := by
  subst isWritable
  simp only [storeCounts, Bool.true_and, FlagChange.counts, Option.any_some,
    Bool.or_eq_false_iff, decide_eq_false_iff_not, Nat.not_lt, Nat.le_zero_eq] at uncounted
  obtain ⟨rowUnchanged, noStatement⟩ := uncounted
  have flagsSame : command.change.onFlags info.flags = info.flags := by
    rcases flagsKept with written | same
    · simp only [Bool.true_and] at written
      rw [FlagChange.updatesRow, written, Bool.true_and, Bool.or_eq_false_iff] at rowUnchanged
      rw [agrees.flags]
      simpa using rowUnchanged.2
    · exact same
  obtain ⟨cachedSame, storedSame⟩ := keywords_uncounted distinct noStatement keywordsKept
  refine ⟨flagsSame, ?_, rfl, ?_, ?_, ?_⟩
  · exact cachedSame
  · rw [storeMessage_flags]
    split
    · rw [← agrees.flags]
      exact flagsSame
    · rfl
  · rw [storeMessage_keywords]
    exact storedSame
  · have uncounted : storeCounts conf command true info (some message) = false := by
      simp [storeCounts, FlagChange.counts, rowUnchanged, noStatement]
    rw [storeMessage_seq, uncounted]
    rfl

/-- What is reported of a message that agrees is what is stored. -/
theorem storeResponse_reports {condstore counted : Bool} {state : MailboxState} {uid : Nat}
    {stored : StoredMessage} (agrees : Agrees info stored) :
    (storeResponse conf condstore command state counted uid info).Reports state stored := by
  unfold storeResponse
  refine ⟨?_, ?_, ?_⟩
  · intro shown isShown
    split at isShown
    · cases isShown
      exact agrees.flags
    · cases isShown
  · intro shown isShown word other
    split at isShown
    · cases isShown
      simp [agrees.keywords word other]
    · cases isShown
  · intro modseq isShown
    dsimp only at isShown
    split at isShown
    · cases isShown
      exact agrees.seq
    · cases isShown

end Message

/-! ## The whole command -/

/-- No message that the command works on has a word in two spellings among its cached keywords. -/
def DistinctWords (held : AclRight → Bool) (tables : Tables) (selected : Selected)
    (command : StoreCommand) : Prop :=
  ∀ uid ∈ storeTargets held tables selected command, ∀ info,
    selected.state.msginfo.lookup uid = some info → Distinct info.keywords

def StoreSound (conf : StoreConf) (held : AclRight → Bool) (tables : Tables) (selected : Selected)
    (command : StoreCommand) : Prop :=
  Coherent selected.state tables (storeTargets held tables selected command) →
    ∀ uid ∈ storeTargets held tables selected command, ∀ info message,
      selected.state.msginfo.lookup uid = some info → tables.messages.lookup uid = some message →
        StoreKeeps command (storeState tables selected command).writable conf
          (storeBump conf tables selected command).2 selected.state.ids tables.foldsCase uid info
          message

section Command

variable {conf : StoreConf} {held : AclRight → Bool} {tables : Tables} {selected : Selected}
  {command : StoreCommand} {targets : List Nat} {after : Storing} {uid : Nat} {info : MessageInfo}
  {message : StoredMessage}

/-- A target in the cache and in the tables after the walk. -/
theorem Walked.target
    (walked : Walked conf selected.condstore command (storeBump conf tables selected command).2
      targets (storeStart conf tables selected command) after)
    (target : uid ∈ targets) (cached : selected.state.msginfo.lookup uid = some info)
    (stored : tables.messages.lookup uid = some message) :
    storeCounted conf command (storeStart conf tables selected command) uid info =
        storeCounts conf command (storeState tables selected command).writable info (some message) ∧
      after.state.msginfo.lookup uid = some (storeInfo command
        (storeBump conf tables selected command).2
        (storeCounts conf command (storeState tables selected command).writable info (some message))
        info) ∧
      after.tables.messages.lookup uid = some (storeMessage conf command
        (storeBump conf tables selected command).2 tables.foldsCase
        (storeState tables selected command).writable info message) := by
  have atStart : (storeStart conf tables selected command).state.msginfo.lookup uid = some info := by
    rw [storeStart, storeState_held.1, cached]
  have storedAtStart : (storeStart conf tables selected command).tables.messages.lookup uid =
      some message := by
    rw [storeStart, storeBump_messages, stored]
  have counted : storeCounted conf command (storeStart conf tables selected command) uid info =
      storeCounts conf command (storeState tables selected command).writable info (some message) := by
    rw [storeCounted, storedAtStart]
    rfl
  refine ⟨counted, ?_, ?_⟩
  · rw [walked.msginfo, if_pos target, atStart, Option.map_some, counted]
  · rw [walked.tables, if_pos target, atStart, storedAtStart]
    rw [storeStart, storeBump_foldsCase]
    rfl

end Command

/-- `STORE 1 +FLAGS (\\Flagged $Junk)`. -/
def storeJunk : StoreCommand := ⟨.add, false, [lit "\\Flagged", lit "$Junk"], 0, lit "1", false⟩

/-- `STORE 1 +FLAGS (\\Flagged) (UNCHANGEDSINCE 1)`. -/
def storeStale : StoreCommand := ⟨.add, false, [lit "\\Flagged"], 1, lit "1", false⟩

end Dbmail.Mailbox
