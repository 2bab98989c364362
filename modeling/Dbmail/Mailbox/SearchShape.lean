import Dbmail.Mailbox.SearchSql
import Dbmail.Lib.Run

/-!
Contract: what of a client's search can be in the text of an SQL statement.

Owns the family of statements that depend on the types of the search keys, on
days and on numbers only, what the parser puts into a search key, and which
searches stay in the family.

Does not own: the quoting that a database would need for other text.
-/

namespace Dbmail.Mailbox

open Dbmail.Lib List

variable {db : Db} {rest : List Bytes} {parser after : Parser} {result : Int} {key : SearchKey}
  {world : World} {fuel : Nat} {order : SearchOrder} {env : Env} {history : List SearchCommand}
  {command : SearchCommand}

/-! ## Statements that depend on key types only -/

def knownFields : List String := ["bcc", "cc", "from", "to", "subject"]

def flagConditions : List String := stateConditions ++ ["(seen_flag=1 AND recent_flag=0)"]

/-- What a statement may depend on: the type of the key, days and numbers. -/
inductive Shape where
  | hdr (field : String) (known : field ∈ knownFields)
  | hdrdate (kind : DateKind) (day : Option SqlDay)
  | dataText
  | dataBody
  | keyword (negated : Bool)
  | idate (kind : DateKind) (day : Option SqlDay)
  | within (older : Bool) (seconds : Int)
  | size (larger : Bool)
  | flag (condition : String) (known : condition ∈ flagConditions)
  | sort (items : List SortItem)

def Shape.type : Shape → KeyType
  | .hdr _ _ => .hdr
  | .hdrdate .before _ => .hdrdateBefore
  | .hdrdate .on _ => .hdrdateOn
  | .hdrdate .since _ => .hdrdateSince
  | .dataText => .dataText
  | .dataBody => .dataBody
  | .keyword negated => if negated then .unkeyword else .keyword
  | .idate _ _ | .within _ _ => .idate
  | .size larger => if larger then .sizeLarger else .sizeSmaller
  | .flag _ _ => .flag
  | .sort _ => .sort

def DateKind.op : DateKind → Bytes
  | .before => lit "<"
  | .on => lit "="
  | .since => lit ">="

def sortKeyOf (db : Db) (items : List SortItem) : SearchKey :=
  items.foldl (SearchKey.sortBy db) (.new .sort)

def dateSelect (env : Env) (condition : Bytes) : Bytes :=
  if env.strategy = 1 then idateSelect env condition else conditionText env condition

def Shape.text (env : Env) : Shape → Bytes
  | .hdr field _ => hdrText env (lit field)
  | .hdrdate kind day => hdrdateText env (lit "datefield") kind.op day
  | .dataText => dataTextText env
  | .dataBody => dataBodyText env
  | .keyword _ => keywordText env
  | .idate kind day => dateSelect env (idateText env.db kind day)
  | .within older seconds => dateSelect env (withinText env.db older seconds)
  | .size larger => sizeText env larger
  | .flag condition _ => conditionText env (lit condition)
  | .sort items => sortText env (sortKeyOf env.db items).table (sortKeyOf env.db items).order

def Shape.prepared (env : Env) (shape : Shape) : Except Fault Bytes :=
  if shape.type = .sort then (vprintf (shape.text env)).map gStrstrip else vprintf (shape.text env)

/-- The keys that a command searches for, on a mailbox that was opened before
the commands of the history. -/
def searchKeys (world : World) (history : List SearchCommand) (command : SearchCommand) :
    List SearchKey :=
  match keptSearch world {} history >>= fun search => sortedSearchKeys world search command with
  | .ok (_, keys) => keys
  | .error _ => []

/-- The text of a statement is that of a shape of its key's type. -/
def InFamily (env : Env) (type : KeyType) (result : Except Fault Statement) : Prop :=
  ∃ shape : Shape, shape.type = type ∧ result.map Statement.text = shape.prepared env

/-- Whatever the mailbox and the messages found, each statement of the search is
in the family of its key's type. -/
def ShapeFixed (world : World) (history : List SearchCommand) (command : SearchCommand) : Prop :=
  ∀ (env : Env), env.db = world.db → ∀ key ∈ searchKeys world history command, ∀ result,
    statementOf env key = some result → InFamily env key.type result

/-! ## What the parser builds -/

/-- The fields that go into the text of a statement hold no input of the client,
but for the field name of a header search. -/
def WellFormed (db : Db) (key : SearchKey) : Prop :=
  match key.type with
  | .flag => ∃ condition ∈ flagConditions, key.search = lit condition
  | .idate => (∃ kind day, key.search = idateText db kind day) ∨
      ∃ older seconds, key.search = withinText db older seconds
  | .hdrdateBefore | .hdrdateOn | .hdrdateSince => key.hdrfld = lit "datefield"
  | .sort => ∃ items, key = sortKeyOf db items
  | _ => True

/-- A parser after some steps: it has added well-formed keys and read on. -/
structure Grown (db : Db) (before after : Parser) : Prop where
  nodes : ∃ added, after.nodes = before.nodes ++ added ∧ ∀ node ∈ added, WellFormed db node.key
  rest : after.rest.length ≤ before.rest.length

theorem Grown.refl (db : Db) (parser : Parser) : Grown db parser parser :=
  ⟨⟨[], by simp⟩, le_rfl⟩

theorem Grown.trans {first second third : Parser} (left : Grown db first second)
    (right : Grown db second third) : Grown db first third := by
  obtain ⟨added, nodes, formed⟩ := left.nodes
  obtain ⟨more, moreNodes, moreFormed⟩ := right.nodes
  refine ⟨⟨added ++ more, ?_, ?_⟩, right.rest.trans left.rest⟩
  · rw [moreNodes, nodes, append_assoc]
  · intro node member
    obtain early | late := mem_append.mp member
    · exact formed node early
    · exact moreFormed node late

theorem Grown.skip {parser : Parser} (shorter : rest.length ≤ parser.rest.length) :
    Grown db parser { parser with rest := rest } :=
  ⟨⟨[], by simp⟩, shorter⟩

theorem Grown.pop {before : Parser} (grown : Grown db before after) : Grown db before after.pop :=
  ⟨grown.nodes, grown.rest⟩

theorem Grown.append {parser : Parser} {value : SearchKey}
    (formed : WellFormed db value) (descend : Bool) :
    Grown db parser (parser.append value descend) := by
  unfold Parser.append
  split
  · exact ⟨⟨[⟨0, value, false⟩], rfl, by simpa using formed⟩, le_rfl⟩
  · next depth _ => exact ⟨⟨[⟨depth + 1, value, false⟩], rfl, by simpa using formed⟩, le_rfl⟩

theorem append_rest (parser : Parser) (value : SearchKey) (descend : Bool) :
    (parser.append value descend).rest = parser.rest := by
  unfold Parser.append
  split <;> rfl

/-- A step that returns has grown the parser, and has read on if it returns 0. -/
structure Step (db : Db) (before : Parser) (after : Parser) (result : Int) : Prop
    extends Grown db before after where
  progress : result = 0 → after.rest.length < before.rest.length

theorem Step.reject (returned : parser.reject = .ok (after, result)) :
    Step db parser after result := by
  cases returned
  exact ⟨Grown.refl db parser, by omega⟩

/-- The parser has only read on. -/
theorem Step.skip (nodes : after.nodes = parser.nodes)
    (shorter : after.rest.length < parser.rest.length) : Step db parser after result :=
  ⟨⟨⟨[], by simp [nodes]⟩, shorter.le⟩, fun _ => shorter⟩

theorem Step.add {value : SearchKey} (returned : parser.add value rest = .ok (after, result))
    (formed : WellFormed db value) (shorter : rest.length < parser.rest.length) :
    Step db parser after result := by
  cases returned
  refine ⟨Grown.trans (.skip shorter.le) (.append formed false), ?_⟩
  intro _
  rwa [append_rest]

/-! ## One key -/

def SearchWord.formed : SearchWord → Bool
  | .flag condition => condition ∈ flagConditions
  | .text .hdrdateBefore hdrfld | .text .hdrdateOn hdrfld | .text .hdrdateSince hdrfld =>
    hdrfld = "datefield"
  | .text type _ => type ∈ [.keyword, .unkeyword, .hdr, .dataBody, .dataText]
  | .size type => type ∈ [.sizeLarger, .sizeSmaller]
  | _ => true

theorem searchWords_formed {key : Bytes} {word : SearchWord}
    (found : lookupWord searchWords key = some word) : word.formed = true := by
  have all : ∀ entry ∈ searchWords, entry.2.formed = true := by decide
  obtain ⟨entry, located, rfl⟩ := Option.map_eq_some_iff.mp found
  exact all entry (mem_of_find?_eq_some located)

theorem notFlags_formed {key : Bytes} {condition : String}
    (found : lookupWord notFlags key = some condition) : condition ∈ flagConditions := by
  have all : ∀ entry ∈ notFlags, entry.2 ∈ flagConditions := by decide
  obtain ⟨entry, located, rfl⟩ := Option.map_eq_some_iff.mp found
  exact all entry (mem_of_find?_eq_some located)

/-- The conditions of flags are shorter than the field they are copied to. -/
theorem wellFormed_flag (db : Db) {condition : String} (known : condition ∈ flagConditions) :
    WellFormed db (.ofText .flag (lit condition)) := by
  have short : ∀ condition ∈ flagConditions,
      (lit condition).take (maxSearchLen - 1) = lit condition := by decide +kernel
  exact ⟨condition, known, short condition known⟩

theorem wellFormed_text (db : Db) {type : KeyType} {hdrfld : String} (search : Bytes)
    (formed : (SearchWord.text type hdrfld).formed = true) :
    WellFormed db { SearchKey.ofText type search with
      hdrfld := (lit hdrfld).take (mimeFieldMax - 1) } := by
  cases type
  case keyword | unkeyword | hdr | dataBody | dataText => trivial
  case hdrdateBefore | hdrdateOn | hdrdateSince =>
    have is : hdrfld = "datefield" := by simpa [SearchWord.formed] using formed
    subst is
    show (lit "datefield").take (mimeFieldMax - 1) = lit "datefield"
    decide +kernel
  all_goals simp [SearchWord.formed] at formed

theorem modseqArgs_step {key : Bytes} (read : parser.rest = key :: rest)
    (returned : modseqArgs parser rest = .ok (after, result)) : Step db parser after result := by
  unfold modseqArgs at returned
  split at returned
  · exact Step.reject returned
  · next first rest =>
    split at returned
    · cases returned
      exact .skip rfl (by simp only [read, length_cons]; omega)
    · split at returned
      · split at returned
        all_goals
          cases returned
          exact .skip rfl (by simp [read]; omega)
      · cases returned

theorem leafArgs_step {key : Bytes} {word : SearchWord} (read : parser.rest = key :: rest)
    (formed : word.formed = true)
    (returned : leafArgs world parser rest word = .ok (after, result)) :
    Step world.db parser after result := by
  have behind : ∀ {shorter : List Bytes}, shorter.length ≤ rest.length →
      shorter.length < parser.rest.length := by
    intro shorter bound
    rw [read, length_cons]
    omega
  cases word with
  | all => exact Step.add returned trivial (behind le_rfl)
  | uid =>
    cases rest with
    | nil => exact Step.reject returned
    | cons set rest =>
      simp only [leafArgs] at returned
      split at returned
      · exact Step.add returned trivial (behind (by simp))
      · exact Step.reject returned
  | flag condition =>
    exact Step.add returned (wellFormed_flag _ (by simpa [SearchWord.formed] using formed))
      (behind le_rfl)
  | text type hdrfld =>
    cases rest with
    | nil => exact Step.reject returned
    | cons value rest => exact Step.add returned (wellFormed_text _ _ formed) (behind (by simp))
  | header =>
    rcases rest with _ | ⟨field, _ | ⟨value, rest⟩⟩
    · exact Step.reject returned
    · exact Step.reject returned
    · exact Step.add returned trivial (behind (by simp; omega))
  | idate kind =>
    cases rest with
    | nil => exact Step.reject returned
    | cons date rest =>
      simp only [leafArgs] at returned
      split at returned
      · exact Step.add returned (.inl ⟨kind, _, rfl⟩) (behind (by simp))
      · exact Step.reject returned
  | within older =>
    cases rest with
    | nil => exact Step.reject returned
    | cons seconds rest =>
      simp only [leafArgs] at returned
      split at returned
      · exact Step.reject returned
      · exact Step.add returned (.inr ⟨older, _, rfl⟩) (behind (by simp))
  | modseq => exact modseqArgs_step read returned
  | size type =>
    cases rest with
    | nil => exact Step.reject returned
    | cons size rest =>
      refine Step.add returned ?_ (behind (by simp))
      cases type <;> trivial
  | closes =>
    cases returned
    exact .skip rfl (behind le_rfl)
  | charset =>
    cases rest with
    | nil => cases returned
    | cons charset rest =>
      cases returned
      exact .skip rfl (behind (by simp))
  | not | or | opens => exact Step.reject returned

theorem setArgs_step {key : Bytes} (read : parser.rest = key :: rest)
    (returned : setArgs parser key rest = .ok (after, result)) : Step db parser after result := by
  unfold setArgs at returned
  split at returned
  · exact Step.add returned trivial (by simp [read])
  · exact Step.reject returned

/-! ## All keys -/

theorem wellFormed_set (db : Db) (set : Bytes) : WellFormed db (.ofText .set set) := trivial

theorem initial_grown (db : Db) (parser : Parser) : Grown db parser parser.initial := by
  unfold Parser.initial
  split
  · next key rest read =>
    split
    · exact .trans (.skip (by simp [read])) (.append (wellFormed_set db key) false)
    · exact .append (wellFormed_set db _) false
  · exact Grown.refl db parser

/-- What the functions of the parser return, with a given number of turns. -/
structure ParserSpec (world : World) (fuel : Nat) : Prop where
  handled : ∀ {parser after result}, handleSearchArgs world fuel parser = .ok (after, result) →
    Step world.db parser after result
  negated : ∀ {parser after result key rest}, parser.rest = key :: rest →
    notArgs world fuel parser rest = .ok (after, result) → Step world.db parser after result
  closed : ∀ {parser after}, andLoop world fuel parser = .ok after → Grown world.db parser after
  built : ∀ {parser after result}, buildUnordered world fuel parser = .ok (after, result) →
    Grown world.db parser after ∧ (result = 0 → after.rest = [])
  looped : ∀ {parser after result}, searchLoop world fuel parser = .ok (after, result) →
    Grown world.db parser after ∧ (result = 0 → after.rest = [])

/-- A key that opens a level of the tree. -/
theorem Grown.open {key : Bytes} (read : parser.rest = key :: rest) {type : KeyType}
    (formed : WellFormed db (.new type)) :
    Grown db parser ({ parser with rest := rest }.append (.new type) true) ∧
      ({ parser with rest := rest }.append (.new type) true).rest.length < parser.rest.length := by
  constructor
  · exact .trans (.skip (by simp [read])) (.append formed true)
  · rw [append_rest, read]
    exact Nat.lt_succ_self _

theorem Step.of_pop {inner : Parser} (opened : Grown db parser inner)
    (shorter : inner.rest.length < parser.rest.length) (grown : Grown db inner after) :
    Step db parser after.pop result :=
  ⟨(opened.trans grown).pop, fun _ => lt_of_le_of_lt grown.rest shorter⟩

theorem Step.of_negative {inner : Parser} (opened : Grown db parser inner)
    (grown : Grown db inner after) (negative : result < 0) : Step db parser after result :=
  ⟨opened.trans grown, fun zero => by omega⟩

theorem notArgs_step (spec : ParserSpec world fuel) {word : Bytes}
    (read : parser.rest = word :: rest)
    (returned : notArgs world (fuel + 1) parser rest = .ok (after, result)) :
    Step world.db parser after result := by
  cases rest with
  | nil => exact Step.reject returned
  | cons key rest =>
    rw [notArgs] at returned
    split at returned
    · next condition found =>
      apply Step.add returned (wellFormed_flag _ (notFlags_formed found))
      simp only [read, length_cons]
      omega
    · obtain ⟨opened, shorter⟩ := @Grown.open world.db _ _ _ read .subsearchNot trivial
      obtain ⟨inner, handled, returned⟩ := bind_eq_ok_iff.mp returned
      have grown := (spec.handled handled).toGrown
      split at returned
      · next negative =>
        cases returned
        exact Step.of_negative opened grown negative
      · cases returned
        exact Step.of_pop opened shorter grown

theorem handleSearchArgs_step (spec : ParserSpec world fuel)
    (returned : handleSearchArgs world (fuel + 1) parser = .ok (after, result)) :
    Step world.db parser after result := by
  rw [handleSearchArgs] at returned
  split at returned
  · cases returned
    exact ⟨Grown.refl _ parser, by omega⟩
  · next key rest read =>
    split at returned
    · exact setArgs_step read returned
    · exact spec.negated read returned
    · obtain ⟨opened, shorter⟩ := @Grown.open world.db _ _ _ read .subsearchOr trivial
      obtain ⟨first, handled, returned⟩ := bind_eq_ok_iff.mp returned
      have grown := (spec.handled handled).toGrown
      split at returned
      · next negative =>
        cases returned
        exact Step.of_negative opened grown negative
      · obtain ⟨second, handled, returned⟩ := bind_eq_ok_iff.mp returned
        have grown := grown.trans (spec.handled handled).toGrown
        split at returned
        · next negative =>
          cases returned
          exact Step.of_negative opened grown negative
        · cases returned
          exact Step.of_pop opened shorter grown
    · obtain ⟨opened, shorter⟩ := @Grown.open world.db _ _ _ read .subsearchAnd trivial
      obtain ⟨last, closed, returned⟩ := bind_eq_ok_iff.mp returned
      cases returned
      exact Step.of_pop opened shorter (spec.closed closed)
    · next word _ _ _ found => exact leafArgs_step read (searchWords_formed found) returned

theorem parserSpec (world : World) (fuel : Nat) : ParserSpec world fuel := by
  induction fuel with
  | zero =>
    constructor
    case negated =>
      intro parser after result key rest read returned
      cases rest with
      | nil => exact Step.reject returned
      | cons next rest => cases returned
    all_goals nofun
  | succ fuel spec =>
    refine ⟨handleSearchArgs_step spec, notArgs_step spec, ?_, ?_, ?_⟩
    · intro parser after returned
      obtain ⟨built, called, returned⟩ := bind_eq_ok_iff.mp returned
      have grown := (spec.built called).1
      split at returned
      · exact grown.trans (spec.closed returned)
      · cases returned
        exact grown
    · intro parser after result returned
      rw [buildUnordered] at returned
      split at returned
      · cases returned
        exact ⟨Grown.refl _ parser, by omega⟩
      · obtain ⟨grown, ended⟩ := spec.looped returned
        exact ⟨(initial_grown _ parser).trans grown, ended⟩
    · intro parser after result returned
      rw [searchLoop] at returned
      split at returned
      · next empty =>
        cases returned
        exact ⟨Grown.refl _ parser, fun _ => empty⟩
      · obtain ⟨handled, called, returned⟩ := bind_eq_ok_iff.mp returned
        have grown := (spec.handled called).toGrown
        split at returned
        · obtain ⟨more, ended⟩ := spec.looped returned
          exact ⟨grown.trans more, ended⟩
        · next nonzero =>
          cases returned
          exact ⟨grown, fun zero => absurd zero nonzero⟩

/-! ## Turns -/

/-- With this many turns the functions of the parser do not run out of them. -/
structure Ends (world : World) (fuel : Nat) : Prop where
  handled : ∀ parser : Parser, 5 * parser.rest.length + 1 ≤ fuel →
    handleSearchArgs world fuel parser ≠ .error .turns
  negated : ∀ (parser : Parser) (rest : List Bytes), 5 * rest.length + 2 ≤ fuel →
    notArgs world fuel parser rest ≠ .error .turns
  closed : ∀ parser : Parser, 5 * parser.rest.length + 4 ≤ fuel →
    andLoop world fuel parser ≠ .error .turns
  built : ∀ parser : Parser, 5 * parser.rest.length + 3 ≤ fuel →
    buildUnordered world fuel parser ≠ .error .turns
  looped : ∀ parser : Parser, 5 * parser.rest.length + 2 ≤ fuel →
    searchLoop world fuel parser ≠ .error .turns

/-- A sequence ends when its head does, and its tail on what the head returns. -/
theorem bind_ends {α β : Type} {first : Except Stop α} {next : α → Except Stop β}
    (head : first ≠ .error .turns) (tail : ∀ value, first = .ok value → next value ≠ .error .turns) :
    first >>= next ≠ .error .turns := by
  cases first with
  | error stop =>
    intro same
    cases same
    exact head rfl
  | ok value => exact tail value rfl

theorem leafArgs_ends (world : World) (parser : Parser) (rest : List Bytes) (word : SearchWord) :
    leafArgs world parser rest word ≠ .error .turns := by
  intro same
  unfold leafArgs modseqArgs at same
  repeat' split at same
  all_goals cases same

theorem setArgs_ends (parser : Parser) (key : Bytes) (rest : List Bytes) :
    setArgs parser key rest ≠ .error .turns := by
  intro same
  unfold setArgs at same
  split at same <;> cases same

theorem handleSearchArgs_ends (ends : Ends world fuel) (parser : Parser)
    (bound : 5 * parser.rest.length + 1 ≤ fuel + 1) :
    handleSearchArgs world (fuel + 1) parser ≠ .error .turns := by
  rw [handleSearchArgs]
  split
  · nofun
  · next key rest read =>
    rw [read, length_cons] at bound
    split
    · exact setArgs_ends parser key rest
    · exact ends.negated parser rest (by omega)
    · apply bind_ends
      · apply ends.handled
        rw [append_rest]
        simp only
        omega
      · intro first called
        have grown := ((parserSpec world _).handled called).rest
        rw [append_rest] at grown
        simp only at grown
        split
        · nofun
        · apply bind_ends
          · apply ends.handled
            omega
          · intro second _
            split <;> nofun
    · apply bind_ends
      · apply ends.closed
        rw [append_rest]
        simp only
        omega
      · nofun
    · exact leafArgs_ends world parser rest _

theorem notArgs_ends (ends : Ends world fuel) (parser : Parser) (rest : List Bytes)
    (bound : 5 * rest.length + 2 ≤ fuel + 1) :
    notArgs world (fuel + 1) parser rest ≠ .error .turns := by
  cases rest with
  | nil => nofun
  | cons key rest =>
    rw [length_cons] at bound
    rw [notArgs]
    split
    · nofun
    · apply bind_ends
      · apply ends.handled
        rw [append_rest]
        simp only [length_cons]
        omega
      · intro inner _
        split <;> nofun

theorem andLoop_ends (ends : Ends world fuel) (parser : Parser)
    (bound : 5 * parser.rest.length + 4 ≤ fuel + 1) :
    andLoop world (fuel + 1) parser ≠ .error .turns := by
  apply bind_ends
  · exact ends.built parser (by omega)
  · intro built called
    split
    · next zero =>
      -- the call returned 0, so all keys were read and the next one returns 1
      have ended := ((parserSpec world _).built called).2 zero
      have started : parser.rest ≠ [] := by
        intro empty
        cases fuel with
        | zero => omega
        | succ fuel =>
          rw [buildUnordered, if_pos empty] at called
          cases called
          cases zero
      have positive := length_pos_iff.mpr started
      apply ends.closed
      rw [ended, length_nil]
      omega
    · nofun

theorem ends (world : World) (fuel : Nat) : Ends world fuel := by
  induction fuel with
  | zero => exact ⟨by omega, by omega, by omega, by omega, by omega⟩
  | succ fuel ends =>
    refine ⟨handleSearchArgs_ends ends, notArgs_ends ends, andLoop_ends ends, ?_, ?_⟩
    · intro parser bound
      rw [buildUnordered]
      split
      · nofun
      · apply ends.looped
        have grown := (initial_grown world.db parser).rest
        omega
    · intro parser bound
      rw [searchLoop]
      split
      · nofun
      · apply bind_ends
        · exact ends.handled parser (by omega)
        · intro handled called
          have step := (parserSpec world _).handled called
          split
          · next zero =>
            have progress := step.progress zero
            exact ends.looped handled.1 (by omega)
          · nofun

/-! ## The whole search -/

theorem sortKeyOf_snoc (db : Db) (items : List SortItem) (item : SortItem) :
    (sortKeyOf db items).sortBy db item = sortKeyOf db (items ++ [item]) := by
  simp [sortKeyOf]

theorem wellFormed_sortKeyOf (db : Db) (items : List SortItem) :
    WellFormed db (sortKeyOf db items) := by
  have type : (sortKeyOf db items).type = .sort := by
    induction items using List.reverseRecOn with
    | nil => rfl
    | append_singleton items item ih =>
      rw [← sortKeyOf_snoc]
      exact ih
  rw [WellFormed, type]
  exact ⟨items, rfl⟩

/-- One sort criterion goes on with a key of sort criteria, or ends them. -/
theorem sortKey_spec (db : Db) (parser : Parser) (items : List SortItem) (reverse : Bool)
    (key : Bytes) (rest : List Bytes) (bound : rest.length < parser.rest.length) :
    Grown db parser (sortKey db parser (sortKeyOf db items) reverse key rest).1.1 ∧
      ∃ items', (sortKey db parser (sortKeyOf db items) reverse key rest).1.2 =
        sortKeyOf db items' := by
  unfold sortKey
  split
  · next column _ =>
    refine ⟨.skip bound.le, items ++ [⟨column, reverse⟩], ?_⟩
    exact sortKeyOf_snoc db items _
  · split
    · exact ⟨.skip bound.le, items, rfl⟩
    · split
      · refine ⟨?_, items, rfl⟩
        exact .trans (.skip bound.le) (.append (wellFormed_sortKeyOf db items) false)
      · exact ⟨.skip bound, items, rfl⟩

theorem handleSortArgs_spec {items : List SortItem} {handled : (Parser × SearchKey) × Int}
    (returned : handleSortArgs db parser (sortKeyOf db items) = .ok handled) :
    Grown db parser handled.1.1 ∧ ∃ items', handled.1.2 = sortKeyOf db items' := by
  unfold handleSortArgs at returned
  split at returned
  · cases returned
    exact ⟨Grown.refl db parser, items, rfl⟩
  · next key rest read =>
    split at returned
    · split at returned
      · cases returned
      · cases returned
        apply sortKey_spec
        simp only [read, length_cons]
        omega
    · cases returned
      apply sortKey_spec
      simp [read]

theorem handleSortArgs_progress {value : SearchKey} {handled : (Parser × SearchKey) × Int}
    (returned : handleSortArgs db parser value = .ok handled) (zero : handled.2 = 0) :
    handled.1.1.rest.length < parser.rest.length := by
  have one : ∀ (reverse : Bool) (key : Bytes) (rest : List Bytes),
      (sortKey db parser value reverse key rest).2 = 0 →
        (sortKey db parser value reverse key rest).1.1.rest = rest := by
    intro reverse key rest
    unfold sortKey
    split
    · exact fun _ => rfl
    · split
      · exact fun _ => rfl
      · split <;> nofun
  unfold handleSortArgs at returned
  split at returned
  · cases returned
    cases zero
  · next key rest read =>
    split at returned
    · split at returned
      · cases returned
      · cases returned
        rw [one _ _ _ zero, read]
        simp only [length_cons]
        omega
    · cases returned
      rw [one _ _ _ zero, read]
      exact Nat.lt_succ_self _

theorem sortLoop_grown (items : List SortItem)
    (returned : sortLoop db fuel parser (sortKeyOf db items) = .ok (after, result)) :
    Grown db parser after := by
  induction fuel generalizing parser items with
  | zero => cases returned
  | succ fuel ih =>
    obtain ⟨handled, called, returned⟩ := bind_eq_ok_iff.mp returned
    obtain ⟨grown, items', value⟩ := handleSortArgs_spec called
    split at returned
    · rw [value] at returned
      exact grown.trans (ih items' returned)
    · cases returned
      exact grown

theorem orderArgs_grown (returned : orderArgs db order parser = .ok (after, result)) :
    Grown db parser after := by
  cases order with
  | unordered =>
    cases returned
    exact Grown.refl db _
  | sorted => exact sortLoop_grown [] returned
  | thread =>
    unfold orderArgs at returned
    simp only at returned
    split at returned
    · cases returned
    · next charset rest read =>
      have length := congrArg List.length read
      simp only [length_drop, length_cons] at length
      split at returned
      · cases returned
        exact .skip (by omega)
      · cases returned
        exact .skip (by simp; omega)

theorem buildImapSearch_grown {search : Search} {keys : List Bytes}
    (returned : buildImapSearch world search order keys = .ok (after, result)) :
    Grown world.db { search with rest := keys } after := by
  unfold buildImapSearch at returned
  split at returned
  · cases returned
    exact Grown.refl _ _
  · obtain ⟨ordered, called, returned⟩ := bind_eq_ok_iff.mp returned
    have grown := (initial_grown world.db _).trans (orderArgs_grown called)
    split at returned
    · cases returned
      exact grown
    · obtain ⟨searched, called, returned⟩ := bind_eq_ok_iff.mp returned
      have grown := grown.trans ((parserSpec world _).looped called).1
      split at returned
      all_goals
        cases returned
        exact grown

theorem sortLoop_ends (db : Db) (value : SearchKey) (bound : parser.rest.length < fuel) :
    sortLoop db fuel parser value ≠ .error .turns := by
  induction fuel generalizing parser value with
  | zero => omega
  | succ fuel ih =>
    rw [sortLoop]
    apply bind_ends
    · intro same
      unfold handleSortArgs at same
      repeat' split at same
      all_goals cases same
    · intro handled called
      split
      · next more =>
        have shorter := handleSortArgs_progress called more.1
        exact ih _ (by omega)
      · nofun

/-- The parser returns, whatever the client sends and whatever the mailbox has
kept: no loop of it runs out of the turns it is given. -/
theorem buildImapSearch_ends (world : World) (search : Search) (order : SearchOrder)
    (keys : List Bytes) : buildImapSearch world search order keys ≠ .error .turns := by
  unfold buildImapSearch
  split
  · nofun
  · apply bind_ends
    · cases order with
      | unordered => nofun
      | sorted => exact sortLoop_ends world.db _ (Nat.lt_succ_self _)
      | thread =>
        intro same
        unfold orderArgs at same
        simp only at same
        repeat' split at same
        all_goals cases same
    · intro ordered _
      split
      · nofun
      · apply bind_ends
        · exact (ends world _).looped ordered.1 (by unfold searchFuel; omega)
        · intro searched _
          split <;> nofun

/-! ## Command after command -/

def Search.Formed (db : Db) (search : Search) : Prop :=
  ∀ node ∈ search.nodes, WellFormed db node.key

theorem Grown.formed {before : Parser} (grown : Grown db before after)
    (formed : before.toSearch.Formed db) : after.toSearch.Formed db := by
  obtain ⟨added, nodes, addedFormed⟩ := grown.nodes
  intro node member
  rw [nodes] at member
  obtain early | late := mem_append.mp member
  · exact formed node early
  · exact addedFormed node late

/-- A traversal leaves the keys of the tree, and is done for keys of the tree. -/
structure Visits (nodes : List SearchNode) (visited : List SearchNode × List SearchKey) : Prop where
  keys : visited.1.map SearchNode.key = nodes.map SearchNode.key
  done : visited.2 ⊆ nodes.map SearchNode.key

theorem prescanSearch_keys (resolves : SearchKey → Bool) (nodes : List SearchNode) :
    (prescanSearch resolves nodes).map SearchNode.key = nodes.map SearchNode.key := by
  fun_induction prescanSearch resolves nodes <;> simp_all

theorem doSearch_visits (resolves : SearchKey → Bool) (ended : Bool) (opened : List Bool)
    (nodes : List SearchNode) : Visits nodes (doSearch resolves ended opened nodes) := by
  induction nodes generalizing ended opened with
  | nil => exact ⟨rfl, nil_subset _⟩
  | cons node rest ih =>
    obtain ⟨keys, done⟩ := ih _ _
    refine ⟨congrArg (node.key :: ·) keys, ?_⟩
    simp only [doSearch]
    split
    · exact cons_subset_cons _ done
    · exact subset_cons_of_subset _ done

theorem doSorts_visits (sorts : SearchKey → Bool) (nodes : List SearchNode) :
    Visits nodes (doSorts sorts nodes) := by
  induction nodes with
  | nil => exact ⟨rfl, nil_subset _⟩
  | cons node rest ih =>
    obtain ⟨keys, done⟩ := ih
    unfold doSorts
    split
    · split
      · exact ⟨congrArg (node.key :: ·) keys, cons_subset_cons _ done⟩
      · exact ⟨rfl, cons_subset_cons _ (nil_subset _)⟩
    · exact ⟨congrArg (node.key :: ·) keys, subset_cons_of_subset _ done⟩

theorem mailboxSearches_visits (command : SearchCommand) (nodes : List SearchNode) :
    Visits nodes (mailboxSearches command nodes) := by
  have scanned := prescanSearch_keys command.resolves nodes
  obtain ⟨keys, done⟩ := doSearch_visits command.resolves false []
    (prescanSearch command.resolves nodes)
  rw [scanned] at keys done
  unfold mailboxSearches
  split
  · obtain ⟨sortedKeys, sortedDone⟩ := doSorts_visits command.sorts _
    rw [keys] at sortedKeys sortedDone
    exact ⟨sortedKeys, append_subset.mpr ⟨done, sortedDone⟩⟩
  · exact ⟨keys, done⟩

/-- One command keeps the search well formed, and searches for well-formed keys. -/
theorem sortedSearchKeys_formed {search kept : Search} {command : SearchCommand}
    {keys : List SearchKey} (formed : search.Formed world.db)
    (returned : sortedSearchKeys world search command = .ok (kept, keys)) :
    kept.Formed world.db ∧ ∀ key ∈ keys, WellFormed world.db key := by
  obtain ⟨built, called, returned⟩ := bind_eq_ok_iff.mp returned
  have formed := (buildImapSearch_grown called).formed formed
  split at returned
  · cases returned
    exact ⟨formed, by simp⟩
  · cases returned
    have visits := mailboxSearches_visits command built.1.nodes
    have inTree : ∀ key ∈ built.1.nodes.map SearchNode.key, WellFormed world.db key :=
      forall_mem_map.mpr formed
    constructor
    · intro node member
      apply inTree
      rw [← visits.keys]
      exact mem_map_of_mem member
    · exact fun key member => inTree key (visits.done member)

theorem keptSearch_formed {search kept : Search} {history : List SearchCommand}
    (formed : search.Formed world.db) (returned : keptSearch world search history = .ok kept) :
    kept.Formed world.db := by
  induction history generalizing search with
  | nil =>
    cases returned
    exact formed
  | cons command rest ih =>
    obtain ⟨middle, called, returned⟩ := bind_eq_ok_iff.mp returned
    exact ih (sortedSearchKeys_formed formed called).1 returned

theorem searchKeys_wellFormed (world : World) (history : List SearchCommand)
    (command : SearchCommand) :
    ∀ key ∈ searchKeys world history command, WellFormed world.db key := by
  intro key member
  unfold searchKeys at member
  split at member
  · next kept keys returned =>
    obtain ⟨search, ran, returned⟩ := bind_eq_ok_iff.mp returned
    exact (sortedSearchKeys_formed (keptSearch_formed (by nofun) ran) returned).2 key member
  · cases member

/-! ## Formats -/

theorem vprintf_cons {byte : UInt8} (plain : byte ≠ 37) (rest : Bytes) :
    vprintf (byte :: rest) = (vprintf rest).map (byte :: ·) := by
  conv_lhs => unfold vprintf
  split
  · next same =>
    cases same
  · next same =>
    cases same
    exact absurd rfl plain
  · next same =>
    cases same
    rw [if_neg plain]

theorem vprintf_of_plain {format : Bytes} (plain : (37 : UInt8) ∉ format) :
    vprintf format = .ok format := by
  induction format with
  | nil => rfl
  | cons byte rest ih =>
    simp only [mem_cons, not_or] at plain
    rw [vprintf_cons (Ne.symm plain.1), ih plain.2]
    rfl

/-- A percent sign in a format is printed, or fails. -/
theorem percent_of_vprintf {rest text : Bytes} (printed : vprintf (37 :: rest) = .ok text) :
    (37 : UInt8) ∈ text := by
  unfold vprintf at printed
  split at printed
  · next same => cases same
  · next behind same =>
    cases inner : vprintf behind with
    | error fault =>
      rw [inner] at printed
      cases printed
    | ok printedBehind =>
      rw [inner] at printed
      cases printed
      exact mem_cons_self
  · next same =>
    cases same
    cases printed

/-- A format that prints no percent sign is printed as it is. -/
theorem eq_of_vprintf {format text : Bytes} (printed : vprintf format = .ok text)
    (plain : (37 : UInt8) ∉ text) : format = text := by
  suffices noPercent : (37 : UInt8) ∉ format by
    rw [vprintf_of_plain noPercent] at printed
    exact Except.ok.inj printed
  induction format generalizing text with
  | nil => simp
  | cons byte rest ih =>
    by_cases percent : byte = 37
    · subst percent
      exact absurd (percent_of_vprintf printed) plain
    · rw [vprintf_cons percent] at printed
      cases inner : vprintf rest with
      | error fault =>
        rw [inner] at printed
        cases printed
      | ok behind =>
        rw [inner] at printed
        cases printed
        simp only [mem_cons, not_or] at plain ⊢
        exact ⟨Ne.symm percent, ih inner plain.2⟩

/-! ## Which searches are fixed -/

/-- The text of a header search for a known field is its own format. -/
theorem plain_hdrText (env : Env) (nothing : env.found = none) {field : String}
    (known : field ∈ knownFields) : (37 : UInt8) ∉ hdrText env (lit field) := by
  have fields : ∀ field ∈ knownFields, (37 : UInt8) ∉ lit field := by decide +kernel
  have like : (37 : UInt8) ∉ sqlInsensitiveLike env.db.driver := by
    cases env.db.driver <;> decide +kernel
  have inset : env.inset = [] := by simp [Env.inset, nothing]
  simp only [hdrText, inset, mem_append, fields field known, like, env.db.pfx_plain]
  repeat rw [lit_ofList]
  decide +kernel

/-- The field name can be read off the text of a header search. -/
theorem hdrText_inj {left right : Bytes} (same : hdrText env left = hdrText env right) :
    left = right := by
  unfold hdrText at same
  rw [append_cancel_right_eq, append_cancel_left_eq] at same
  exact same

def KnownHeaders (world : World) (history : List SearchCommand) (command : SearchCommand) : Prop :=
  ∀ key ∈ searchKeys world history command, key.type = .hdr →
    ∃ field ∈ knownFields, key.hdrfld = lit field

instance (world : World) (history : List SearchCommand) (command : SearchCommand) :
    Decidable (KnownHeaders world history command) :=
  inferInstanceAs (Decidable (∀ key ∈ searchKeys world history command, key.type = .hdr →
    ∃ field ∈ knownFields, key.hdrfld = lit field))

theorem prepare_text (env : Env) (text : Bytes) (params : List Param) :
    (prepare env text params).map Statement.text = vprintf text := by
  unfold prepare
  cases vprintf text <;> rfl

theorem Shape.eq_hdr {shape : Shape} (type : shape.type = .hdr) :
    ∃ field known, shape = .hdr field known := by
  cases shape with
  | hdr field known => exact ⟨field, known, rfl⟩
  | hdrdate kind day => cases kind <;> cases type
  | keyword negated => cases negated <;> cases type
  | size larger => cases larger <;> cases type
  | _ => cases type

theorem knownHeaders_of_shapeFixed (fixed : ShapeFixed world history command) :
    KnownHeaders world history command := by
  intro key member type
  -- the statement does not depend on the messages found so far
  let env : Env := ⟨world.db, 0, none, 1⟩
  have prepared : statementOf env key =
      some (prepare env (hdrText env key.hdrfld) [.str (likePattern key.search)]) := by
    simp [statementOf, type, KeyType.searched, mailboxSearch, preparedAlways]
  obtain ⟨shape, sameType, same⟩ := fixed env rfl key member _ prepared
  obtain ⟨field, known, rfl⟩ := Shape.eq_hdr (sameType.trans type)
  have plain := plain_hdrText env rfl known
  have printed : vprintf (hdrText env key.hdrfld) = .ok (hdrText env (lit field)) := by
    rw [← prepare_text env, same, ← vprintf_of_plain plain]
    rfl
  exact ⟨field, known, hdrText_inj (eq_of_vprintf printed plain)⟩

theorem InFamily.of_shape {text : Bytes} {params : List Param} (shape : Shape)
    (notSort : shape.type ≠ .sort) (same : text = shape.text env) :
    InFamily env shape.type (prepare env text params) := by
  refine ⟨shape, rfl, ?_⟩
  rw [prepare_text, Shape.prepared, if_neg notSort, same]

theorem preparedAlways_inFamily {result : Except Fault Statement} (formed : WellFormed env.db key)
    (header : key.type = .hdr → ∃ field ∈ knownFields, key.hdrfld = lit field)
    (returned : preparedAlways env key = some result) : InFamily env key.type result := by
  unfold preparedAlways at returned
  cases type : key.type
  case hdrdateBefore | hdrdateOn | hdrdateSince =>
    simp only [WellFormed, type] at formed
    simp only [type, formed, Option.some.injEq] at returned
    subst returned
    first
      | exact .of_shape (.hdrdate .before _) nofun rfl
      | exact .of_shape (.hdrdate .on _) nofun rfl
      | exact .of_shape (.hdrdate .since _) nofun rfl
  case hdr =>
    obtain ⟨field, known, is⟩ := header type
    simp only [type, Option.some.injEq] at returned
    subst returned
    rw [is]
    exact .of_shape (.hdr field known) nofun rfl
  case dataText | dataBody | keyword | unkeyword =>
    simp only [type, Option.some.injEq] at returned
    subst returned
    first
      | exact .of_shape .dataText nofun rfl
      | exact .of_shape .dataBody nofun rfl
      | exact .of_shape (.keyword false) nofun rfl
      | exact .of_shape (.keyword true) nofun rfl
  all_goals simp [type] at returned

/-- A condition on the date of a message is that of a shape. -/
theorem idate_inFamily (formed : WellFormed env.db key) (type : key.type = .idate)
    (params : List Param) :
    InFamily env .idate (prepare env (dateSelect env key.search) params) := by
  simp only [WellFormed, type] at formed
  obtain ⟨kind, day, is⟩ | ⟨older, seconds, is⟩ := formed
  · rw [is]
    exact .of_shape (.idate kind day) nofun rfl
  · rw [is]
    exact .of_shape (.within older seconds) nofun rfl

theorem flag_inFamily {params : List Param} (formed : WellFormed env.db key)
    (type : key.type = .flag) :
    InFamily env .flag (prepare env (conditionText env key.search) params) := by
  simp only [WellFormed, type] at formed
  obtain ⟨condition, known, is⟩ := formed
  rw [is]
  exact .of_shape (.flag condition known) nofun rfl

/-- The keys that are left when no statement is prepared always. -/
theorem searched_cases (searched : key.type.searched = true)
    (left : preparedAlways env key = none) :
    key.type = .idate ∨ key.type = .flag ∨ key.type = .sizeLarger ∨ key.type = .sizeSmaller := by
  unfold preparedAlways at left
  cases type : key.type <;> simp [type, KeyType.searched] at searched left ⊢

theorem preparedBySql_inFamily (formed : WellFormed env.db key)
    (searched : key.type.searched = true) (left : preparedAlways env key = none)
    (strategy : env.strategy = 1) : InFamily env key.type (preparedBySql env key) := by
  unfold preparedBySql
  obtain type | type | type | type := searched_cases searched left
  · simp only [type]
    have dated := idate_inFamily formed type []
    rwa [dateSelect, if_pos strategy] at dated
  · simp only [type]
    exact flag_inFamily formed type
  · simp only [type]
    exact .of_shape (.size true) nofun rfl
  · simp only [type]
    exact .of_shape (.size false) nofun rfl

theorem fallback_inFamily (formed : WellFormed env.db key) (searched : key.type.searched = true)
    (left : preparedAlways env key = none) (strategy : env.strategy = 2)
    (unanswered : ¬ answeredByState key) :
    InFamily env key.type (prepare env (conditionText env key.search) []) := by
  obtain type | type | type | type := searched_cases searched left
  · have dated := idate_inFamily formed type []
    rw [dateSelect, if_neg (by omega)] at dated
    rwa [type]
  · rw [type]
    exact flag_inFamily formed type
  all_goals simp [answeredByState, type] at unanswered

theorem doSort_inFamily (formed : WellFormed env.db key) (type : key.type = .sort) :
    InFamily env .sort (doSort env key) := by
  simp only [WellFormed, type] at formed
  obtain ⟨items, rfl⟩ := formed
  have stripped : ∀ printed : Except Fault Bytes,
      (printed.map fun text => (⟨gStrstrip text, []⟩ : Statement)).map Statement.text =
        printed.map gStrstrip := by
    intro printed
    cases printed <;> rfl
  refine ⟨.sort items, rfl, ?_⟩
  exact stripped _

theorem shapeFixed_of_knownHeaders (known : KnownHeaders world history command) :
    ShapeFixed world history command := by
  intro env sameDb key member result returned
  have formed := searchKeys_wellFormed world history command key member
  rw [← sameDb] at formed
  unfold statementOf at returned
  split at returned
  · next sort =>
    obtain rfl := Option.some.inj returned
    rw [sort]
    exact doSort_inFamily formed sort
  · split at returned
    · next searched =>
      unfold mailboxSearch at returned
      cases always : preparedAlways env key with
      | some statement =>
        obtain rfl : statement = result := by simpa [always] using returned
        exact preparedAlways_inFamily formed (known key member) always
      | none =>
        simp only [always] at returned
        split at returned
        · next strategy =>
          obtain rfl := Option.some.inj returned
          exact preparedBySql_inFamily formed searched always strategy
        · split at returned
          · next strategy =>
            obtain rfl := Option.some.inj returned
            exact fallback_inFamily formed searched always strategy.1 strategy.2
          · cases returned
    · cases returned

/-- A search changes no statement exactly if the HEADER keys it searches for,
those that rejected commands have left included, name in any case the fields
that have keys of their own. -/
theorem shapeFixed_iff (world : World) (history : List SearchCommand) (command : SearchCommand) :
    ShapeFixed world history command ↔ KnownHeaders world history command :=
  ⟨knownHeaders_of_shapeFixed, shapeFixed_of_knownHeaders⟩

/-! ## A field name that closes the quotes -/

def plainWorld : World := ⟨⟨.sqlite, lit "dbmail_", by decide +kernel⟩, fun _ text => some text⟩

/-- `SEARCH HEADER "x' OR 'a'='a" spam`. -/
def quotingKeys : List Bytes := [lit "HEADER", lit "x' OR 'a'='a", lit "spam"]

/-- A SEARCH of a mailbox that resolves every set. -/
def plainSearch (keys : List Bytes) : SearchCommand := { order := .unordered, keys := keys }

/-- The statement for `quotingKeys`: the name has closed the quotes. -/
def quotingText : Bytes :=
  lit "SELECT message_idnr FROM dbmail_messages m " ++
    lit "LEFT JOIN dbmail_header h USING (physmessage_id) " ++
    lit "LEFT JOIN dbmail_headername n " ++ lit "ON h.headername_id = n.id " ++
    lit "LEFT JOIN dbmail_headervalue v " ++ lit "ON h.headervalue_id = v.id " ++
    lit "WHERE mailbox_idnr=? AND status < ?  " ++
    lit "AND n.headername = 'x' or 'a'='a' " ++ lit "AND v.headervalue LIKE ? " ++
    lit "ORDER BY message_idnr"

theorem header_name_changes_statement :
    (searchKeys plainWorld [] (plainSearch quotingKeys)).filterMap
        (statementOf ⟨plainWorld.db, 7, none, 1⟩) =
      [.ok ⟨quotingText, [.u64 7, .int 2, .str (lit "%spam%")]⟩] ∧
    ¬ ShapeFixed plainWorld [] (plainSearch quotingKeys) := by
  constructor
  · decide +kernel
  · intro fixed
    exact absurd (knownHeaders_of_shapeFixed fixed) (by decide +kernel)

/-- The name is kept when a later key is rejected, and `SEARCH ALL` searches for it, once. -/
example :
    let rejected := plainSearch (quotingKeys ++ [lit "FOO"])
    let all := plainSearch [lit "ALL"]
    searchKeys plainWorld [] rejected = [] ∧ ¬ KnownHeaders plainWorld [rejected] all ∧
      KnownHeaders plainWorld [rejected, all] all := by
  decide +kernel

end Dbmail.Mailbox
