import Dbmail.Lib.NumberSet
import Dbmail.Mailbox.Box
import Dbmail.Mailbox.SetMeaning

/-!
Contract: what SELECT and EXAMINE with QRESYNC arguments tell a client that knew the
mailbox.

Owns `_get_expunged` and `MailboxState_getExpunged` with the text they build,
`_do_fetch_updates`, `_fetch_update` and the QRESYNC part of `_ic_select_enter`,
what a client makes of the responses, and when that is the current mailbox.

Does not own: the announcement of the counters, and the arguments of SELECT as
text.
-/

namespace Dbmail.Mailbox

open Dbmail.Lib Dbmail.Imap MailboxState List KeyTree Option

/-! ## Expunged messages -/

/-- `qresync_args`. The parser of the arguments accepts no zeros. -/
structure QresyncArgs where
  uidvalidity : Nat
  modseq : Nat
  knownUids : Option Bytes := none
  knownSeqset : Option Bytes := none
  knownUidset : Option Bytes := none
  uidvalidity_pos : 0 < uidvalidity
  modseq_pos : 0 < modseq

/-- `struct expunged_helper`, as far as the traversal writes it. -/
structure ExpungedHelper where
  response : Bytes
  expunged : List Nat
  startExpunged : Nat
  lastExpunged : Nat
  prevExpunged : Bool

namespace MailboxState

variable (state : MailboxState)

def vanishing (modseq uid : Nat) : Bool :=
  (state.msginfo.lookup uid).any fun info => modseq < info.seq && info.status = .delete

/-- The UID is not where the client has it: the MSN of the second set is looked up in the
first one. -/
def mismatched (known : Option (KeyTree Nat × KeyTree Nat)) (uid : Nat) : Bool :=
  match known with
  | none => false
  | some (seqset, uidset) =>
    match (uidset.lookup uid).bind seqset.lookup with
    | none => true
    | some knownUid => uid ≠ knownUid

/-- `_get_expunged`. -/
def getExpungedVisit (known : Option (KeyTree Nat × KeyTree Nat)) (modseq : Nat)
    (helper : ExpungedHelper) (uid : Nat) : ExpungedHelper × Bool :=
  if mismatched known uid then (helper, true)
  else if state.vanishing modseq uid then
    let opened :=
      if helper.prevExpunged then helper
      else if helper.lastExpunged ≠ 0 then
        { helper with response := helper.response ++ 44 :: digits uid }
      else { helper with startExpunged := uid, response := helper.response ++ digits uid }
    ({ opened with
      expunged := helper.expunged ++ [uid]
      lastExpunged := uid
      prevExpunged := true }, false)
  else
    ({ helper with
      response :=
        if helper.prevExpunged ∧ helper.startExpunged < helper.lastExpunged then
          helper.response ++ 58 :: digits helper.lastExpunged
        else helper.response
      prevExpunged := false }, false)

/-- `MailboxState_getExpunged`: the messages and the text of the response. -/
def getExpunged (args : QresyncArgs) : List Nat × Bytes :=
  let known :=
    match args.knownSeqset.bind (state.getSet · false), args.knownUidset.bind (state.getSet · true) with
    | some seqset, some uidset => some (seqset, uidset)
    | _, _ => none
  let helper := walk (state.getExpungedVisit known args.modseq) ⟨[], [], 0, 0, false⟩ state.msginfo.keys
  (helper.expunged, if helper.prevExpunged ∧ helper.startExpunged < helper.lastExpunged then
      helper.response ++ 58 :: digits helper.lastExpunged
    else helper.response)

end MailboxState

/-! ## The responses -/

inductive ResyncResponse where
  | vanished (uids : Bytes)
  | fetch (msn uid : Nat) (flags : List Bytes) (modseq : Nat)
deriving DecidableEq

def ResyncResponse.text : ResyncResponse → Bytes
  | .vanished uids => lit "* VANISHED (EARLIER) " ++ uids ++ lit "\r\n"
  | .fetch msn uid flags modseq =>
    lit "* " ++ digits msn ++ lit " FETCH (UID " ++ digits uid ++ lit " FLAGS " ++
      plistAsString flags ++ lit " MODSEQ (" ++ digits modseq ++ lit "))\r\n"

namespace MailboxState

variable (state : MailboxState)

/-- The traversal with `_do_fetch_updates`. `_fetch_update` reads the MSN of the message
without looking whether there is one. -/
def fetchUpdates : List Nat → Except Fault (List ResyncResponse)
  | [] => .ok []
  | uid :: rest =>
    match state.msginfo.lookup uid with
    | none => .ok []
    | some info =>
      if uid ∈ state.ids then
        (fetchUpdates rest).map
          (.fetch (state.msn uid) uid (state.messageFlags uid info) info.seq :: ·)
      else .error .nullPointer

/-- The QRESYNC part of `_ic_select_enter`. -/
def qresync (args : QresyncArgs) : Except Fault (List ResyncResponse) :=
  if args.uidvalidity = state.id then
    let (expunged, text) := state.getExpunged args
    let changed := state.mailboxGetSet args.modseq (args.knownUids.getD (lit "1:*")) true
    (state.fetchUpdates ((changed.map KeyTree.keys).getD [])).map
      ((if expunged = [] then [] else [.vanished text]) ++ ·)
  else .ok []

end MailboxState

/-! ## What a client makes of them -/

def Tables.liveIn (tables : Tables) (mailbox uid : Nat) : Bool :=
  (tables.messages.lookup uid).any fun message => message.mailbox = mailbox && message.status.live

/-- The flags and keywords of a message of the mailbox; \Recent is not one of them. -/
def Tables.visible (tables : Tables) (mailbox uid : Nat) : Option (Flags × List Bytes) :=
  if tables.liveIn mailbox uid then
    (tables.messages.lookup uid).map fun message =>
      ({ message.flags with recent := false }, message.keywords)
  else none

def flagNames (flags : Flags) (keywords : List Bytes) : List Bytes :=
  (flags.described.filter Prod.fst).map Prod.snd ++ keywords.filter (· ≠ [])

def Vanished (responses : List ResyncResponse) (uid : Nat) : Prop :=
  ∃ text, .vanished text ∈ responses ∧ InRanges (readRanges text) uid

def Fetched (responses : List ResyncResponse) (uid : Nat) (flags : List Bytes) : Prop :=
  ∃ msn modseq, .fetch msn uid flags modseq ∈ responses

/-- A client that knew the mailbox as it was before knows it as it is now: its UIDs less the
vanished ones and with the fetched ones are those of the mailbox, every message that has
changed is fetched, and every fetch tells the current flags. -/
structure Resynchronised (mailbox : Nat) (before now : Tables) (responses : List ResyncResponse) :
    Prop where
  uids : ∀ uid, (before.liveIn mailbox uid = true ∧ ¬ Vanished responses uid ∨
    ∃ flags, Fetched responses uid flags) ↔ now.liveIn mailbox uid = true
  changed : ∀ uid, now.liveIn mailbox uid = true →
    before.visible mailbox uid ≠ now.visible mailbox uid → ∃ flags, Fetched responses uid flags
  flags : ∀ uid sent, Fetched responses uid sent → ∀ seen, now.visible mailbox uid = some seen →
    ∀ flag, flag ≠ lit "\\Recent" → (flag ∈ sent ↔ flag ∈ flagNames seen.1 seen.2)

/-- Every change since then has given its message a sequence above the given one. -/
def Sequenced (mailbox : Nat) (before now : Tables) (modseq : Nat) : Prop :=
  ∀ uid, before.visible mailbox uid ≠ now.visible mailbox uid →
    ∃ message, now.messages.lookup uid = some message ∧ message.mailbox = mailbox ∧
      modseq < message.seq

/-! ## The text of the expunged messages -/

section Text

variable {state : MailboxState} {modseq : Nat}

/-- A run as it is written once the first run began at `start`. -/
def writeRun (start : Nat) (run : Nat × Nat) : Bytes :=
  digits run.1 ++ if start < run.2 then 58 :: digits run.2 else []

def ExpungedHelper.finished (helper : ExpungedHelper) : Bytes :=
  if helper.prevExpunged ∧ helper.startExpunged < helper.lastExpunged then
    helper.response ++ 58 :: digits helper.lastExpunged
  else helper.response

def traverse (state : MailboxState) (modseq : Nat) (helper : ExpungedHelper) (keys : List Nat) :
    ExpungedHelper :=
  walk (state.getExpungedVisit none modseq) helper keys

theorem traverse_cons (helper : ExpungedHelper) (key : Nat) (rest : List Nat) :
    traverse state modseq helper (key :: rest) =
      traverse state modseq (state.getExpungedVisit none modseq helper key).1 rest := by
  unfold traverse
  rw [walk]
  have goes : (state.getExpungedVisit none modseq helper key).2 = false := by
    unfold getExpungedVisit
    simp only [mismatched, Bool.false_eq_true, if_false]
    split <;> rfl
  rw [goes]
  rfl

theorem traverse_expunged (helper : ExpungedHelper) (keys : List Nat) :
    (traverse state modseq helper keys).expunged =
      helper.expunged ++ keys.filter (state.vanishing modseq) := by
  induction keys generalizing helper with
  | nil => simp [traverse, walk]
  | cons key rest ih =>
    rw [traverse_cons, ih]
    unfold getExpungedVisit
    simp only [mismatched]
    cases gone : state.vanishing modseq key with
    | true | false => simp [gone]

/-- A vanishing message opens a run or goes on with it; the first run has been opened before. -/
theorem getExpungedVisit_gone {helper : ExpungedHelper} {key : Nat}
    (gone : state.vanishing modseq key = true) (known : helper.lastExpunged ≠ 0) :
    (state.getExpungedVisit none modseq helper key).1 =
      { helper with
        response := if helper.prevExpunged then helper.response
          else helper.response ++ 44 :: digits key
        expunged := helper.expunged ++ [key]
        lastExpunged := key
        prevExpunged := true } := by
  cases opened : helper.prevExpunged <;>
    simp [getExpungedVisit, mismatched, gone, opened, known]

/-- The text once a run has been closed or is open: what follows are runs that end behind the
beginning of the first one. -/
theorem traverse_text {keys : List Nat} (sorted : keys.Pairwise (· < ·)) {helper : ExpungedHelper}
    (began : 0 < helper.startExpunged) (ordered : helper.startExpunged ≤ helper.lastExpunged)
    (behind : ∀ key ∈ keys, helper.lastExpunged < key) :
    (helper.prevExpunged = false → (traverse state modseq helper keys).finished =
      helper.response ++ (runs (state.vanishing modseq) none keys).flatMap
        fun run => 44 :: writeRun helper.startExpunged run) ∧
      (helper.prevExpunged = true → ∀ first, ∃ last rest,
        runs (state.vanishing modseq) (some (first, helper.lastExpunged)) keys = (first, last) :: rest ∧
        (traverse state modseq helper keys).finished =
          helper.response ++ (if helper.startExpunged < last then 58 :: digits last else []) ++
            rest.flatMap fun run => 44 :: writeRun helper.startExpunged run) := by
  induction keys generalizing helper with
  | nil =>
    constructor
    · intro closed
      simp [traverse, walk, ExpungedHelper.finished, closed, runs]
    · intro opened first
      refine ⟨helper.lastExpunged, [], rfl, ?_⟩
      simp only [traverse, walk, ExpungedHelper.finished, opened, true_and]
      split <;> simp
  | cons key rest ih =>
    obtain ⟨below, sortedRest⟩ := pairwise_cons.mp sorted
    have next := behind key mem_cons_self
    have known : helper.lastExpunged ≠ 0 := by omega
    rw [traverse_cons]
    cases gone : state.vanishing modseq key with
    | true =>
      -- The run goes on or begins here; either way it is open at `key`.
      rw [getExpungedVisit_gone gone known, runs, if_pos gone]
      have opened (response : Bytes) := (@ih sortedRest
        ⟨response, helper.expunged ++ [key], helper.startExpunged, key, true⟩ began
        (Nat.le_trans ordered (Nat.le_of_lt next)) below).2 rfl
      constructor
      · intro closed
        obtain ⟨last, later, areRuns, isText⟩ := opened (helper.response ++ 44 :: digits key) key
        rw [closed, if_neg (by decide), isText]
        rw [show ((none : Option (Nat × Nat)).map Prod.fst).getD key = key from rfl, areRuns]
        simp [writeRun]
      · intro open_ first
        obtain ⟨last, later, areRuns, isText⟩ := opened helper.response first
        refine ⟨last, later, ?_, ?_⟩
        · rw [runs, if_pos gone]
          exact areRuns
        · rw [open_, if_pos rfl, isText]
    | false =>
      have notGone : ¬ state.vanishing modseq key = true := by simp [gone]
      have keeps : (state.getExpungedVisit none modseq helper key).1 =
          { helper with response := helper.finished, prevExpunged := false } := by
        simp [getExpungedVisit, mismatched, gone, ExpungedHelper.finished]
      have isText := (@ih sortedRest
        (state.getExpungedVisit none modseq helper key).1 (by rw [keeps]; exact began)
        (by rw [keeps]; exact ordered)
        (by rw [keeps]; exact fun other member => Nat.lt_trans next (below other member))).1
        (by rw [keeps])
      rw [keeps] at isText
      constructor
      · intro closed
        rw [keeps, isText, runs, if_neg notGone]
        simp [ExpungedHelper.finished, closed]
      · intro opened first
        refine ⟨helper.lastExpunged, runs (state.vanishing modseq) none rest, ?_, ?_⟩
        · rw [runs, if_neg notGone]
          rfl
        · rw [keeps, isText]
          simp only [ExpungedHelper.finished, opened, true_and]
          split <;> simp

/-- The whole text: the runs, separated by commas. -/
theorem finished_eq {keys : List Nat} (sorted : keys.Pairwise (· < ·)) (positive : ∀ key ∈ keys, 0 < key)
    (expunged : List Nat) :
    (traverse state modseq ⟨[], expunged, 0, 0, false⟩ keys).finished =
      [44].intercalate ((runs (state.vanishing modseq) none keys).map
        (writeRun (((runs (state.vanishing modseq) none keys).head?.map Prod.fst).getD 0))) := by
  induction keys generalizing expunged with
  | nil => rfl
  | cons key rest ih =>
    obtain ⟨below, sortedRest⟩ := pairwise_cons.mp sorted
    rw [traverse_cons]
    cases gone : state.vanishing modseq key with
    | true =>
      have visited : (state.getExpungedVisit none modseq ⟨[], expunged, 0, 0, false⟩ key).1 =
          ⟨digits key, expunged ++ [key], key, key, true⟩ := by
        simp [getExpungedVisit, mismatched, gone]
      obtain ⟨last, later, areRuns, isText⟩ := (@traverse_text state modseq rest sortedRest
        ⟨digits key, expunged ++ [key], key, key, true⟩ (positive key mem_cons_self)
        (Nat.le_refl _) below).2 rfl key
      have begins : runs (state.vanishing modseq) none (key :: rest) = (key, last) :: later := by
        rw [runs, if_pos gone]
        exact areRuns
      rw [visited, isText, begins]
      simp only [map_cons]
      rw [intercalate_cons_map]
      rfl
    | false =>
      have notGone : ¬ state.vanishing modseq key = true := by simp [gone]
      have keeps : (state.getExpungedVisit none modseq ⟨[], expunged, 0, 0, false⟩ key).1 =
          ⟨[], expunged, 0, 0, false⟩ := by
        simp [getExpungedVisit, mismatched, gone]
      have skips : runs (state.vanishing modseq) none (key :: rest) =
          runs (state.vanishing modseq) none rest := by
        rw [runs, if_neg notGone]
        rfl
      rw [keeps, skips]
      exact ih sortedRest
        (fun other member => positive other (mem_cons_of_mem _ member)) expunged

theorem readRange_writeRun {start : Nat} {run : Nat × Nat} (begins : start ≤ run.1)
    (ordered : run.1 ≤ run.2) : readRange (writeRun start run) = run := by
  unfold writeRun
  split
  · exact readRange_pair run.1 run.2
  · have single : run.1 = run.2 := by omega
    rw [append_nil, readRange_number]
    exact Prod.ext rfl single

/-- The text covers the UIDs between vanishing messages. -/
theorem inRanges_finished_iff {keys : List Nat} (sorted : keys.Pairwise (· < ·))
    (positive : ∀ key ∈ keys, 0 < key) (some_ : keys.filter (state.vanishing modseq) ≠ []) (uid : Nat) :
    InRanges (readRanges (traverse state modseq ⟨[], [], 0, 0, false⟩ keys).finished) uid ↔
      Between (state.vanishing modseq) keys uid := by
  rw [finished_eq sorted positive, readRanges_intercalate (mt runs_eq_nil_iff.mp some_)]
  · exact (inRanges_runs sorted).1
  · intro run member
    exact readRange_writeRun (runs_head_le sorted run member)
      (runs_bounds sorted (fun other isOther => by cases isOther) run member).1
  · intro run _
    unfold writeRun
    split <;> simp [comma_not_mem_digits]

theorem getExpunged_eq {args : QresyncArgs}
    (without : args.knownSeqset = none ∨ args.knownUidset = none) :
    state.getExpunged args = (state.msginfo.keys.filter (state.vanishing args.modseq),
      (traverse state args.modseq ⟨[], [], 0, 0, false⟩ state.msginfo.keys).finished) := by
  have expunged := @traverse_expunged state args.modseq ⟨[], [], 0, 0, false⟩ state.msginfo.keys
  rw [nil_append] at expunged
  rw [← expunged]
  unfold getExpunged
  rcases without with noSeqset | noUidset
  · rw [noSeqset]
    rfl
  · rw [noUidset]
    cases args.knownSeqset.bind (state.getSet · false) <;> rfl

/-- UIDs and ranges of them, separated by commas. -/
def UidSet (text : Bytes) : Prop :=
  ∃ parts ≠ [], text = [44].intercalate parts ∧ ∀ part ∈ parts, ∃ first last, 0 < first ∧ 0 < last ∧
    (part = digits first ∨ part = digits first ++ 58 :: digits last)

/-- The text is a set as soon as a message vanishes, and then it covers the cached messages that
vanish; the caller sends no empty one. -/
theorem getExpunged_vanished {args : QresyncArgs}
    (without : args.knownSeqset = none ∨ args.knownUidset = none)
    (positive : ∀ uid ∈ state.msginfo.keys, 0 < uid) :
    (state.getExpunged args).1 = state.msginfo.keys.filter (state.vanishing args.modseq) ∧
      if (state.getExpunged args).1 = [] then (state.getExpunged args).2 = [] else
        UidSet (state.getExpunged args).2 ∧ ∀ uid ∈ state.msginfo.keys,
          (InRanges (readRanges (state.getExpunged args).2) uid ↔
            state.vanishing args.modseq uid = true) := by
  have sorted : state.msginfo.keys.Pairwise (· < ·) := state.msginfo.sorted
  rw [getExpunged_eq without]
  refine ⟨rfl, ?_⟩
  by_cases none : state.msginfo.keys.filter (state.vanishing args.modseq) = []
  · rw [if_pos none]
    rw [finished_eq sorted positive, runs_eq_nil_iff.mpr none]
    rfl
  rw [if_neg none]
  constructor
  · refine ⟨_, mt map_eq_nil_iff.mp (mt runs_eq_nil_iff.mp none), finished_eq sorted positive _, ?_⟩
    intro part isPart
    obtain ⟨run, isRun, rfl⟩ := mem_map.mp isPart
    obtain ⟨ordered, origin⟩ := runs_bounds sorted (fun other isOther => by cases isOther) run isRun
    have begins : 0 < run.1 := by
      rcases origin with member | ⟨_, isOther, _⟩
      · exact positive run.1 member
      · cases isOther
    refine ⟨run.1, run.2, begins, Nat.lt_of_lt_of_le begins ordered, ?_⟩
    unfold writeRun
    split <;> simp
  · intro uid cached
    refine (inRanges_finished_iff sorted positive none uid).trans ⟨?_, between_self cached⟩
    intro ⟨_, _, _, _, lower, upper, all⟩
    exact all uid cached lower upper

/-- Five messages that vanish behind the sequence 5, among live ones (1, 4) and one that vanished
before (7). -/
def vanishedMessages : MailboxState :=
  { blank 1 with
    msginfo := [(1, true, 9), (2, false, 9), (3, false, 6), (4, true, 9), (6, false, 7),
      (7, false, 5), (9, false, 8), (11, false, 6)].foldl (fun tree (uid, live, seq) =>
        tree.insert uid ⟨if live then .seen else .delete, {}, seq, [], 0, !live⟩) KeyTree.empty }

theorem getExpunged_vanished_runs :
    (vanishedMessages.getExpunged ⟨1, 5, none, none, none, by decide, by decide⟩).1 =
        [2, 3, 6, 9, 11] ∧
      UidSet (lit "2:3,6:6,9:11") ∧ ∀ uid ∈ vanishedMessages.msginfo.keys,
        (InRanges (readRanges (lit "2:3,6:6,9:11")) uid ↔
          vanishedMessages.vanishing 5 uid = true) := by
  have isText : (vanishedMessages.getExpunged ⟨1, 5, none, none, none, by decide, by decide⟩).2 =
      lit "2:3,6:6,9:11" := by decide +kernel
  have holds := @getExpunged_vanished vanishedMessages
    ⟨1, 5, none, none, none, by decide, by decide⟩ (.inl rfl) (by decide)
  rw [isText] at holds
  exact ⟨by decide +kernel, holds.2⟩

/-- Without a vanishing message the text is empty, which is no set. -/
theorem getExpunged_nothing :
    ¬ UidSet ((blank 1).getExpunged ⟨1, 1, none, none, none, by decide, by decide⟩).2 := by
  intro ⟨parts, some_, isText, isPart⟩
  cases parts with
  | nil => exact some_ rfl
  | cons part rest =>
    obtain ⟨first, last, begins, _, shape⟩ := isPart part mem_cons_self
    have isEmpty : [44].intercalate (part :: rest) = [] := isText.symm
    have empty : part = [] := by
      cases rest with
      | nil => simpa using isEmpty
      | cons other later => simp at isEmpty
    rw [empty] at shape
    have value := decimal_digits first
    rcases shape with number | range
    · rw [← number] at value
      exact Nat.ne_of_lt begins value
    · simp at range

end Text

/-! ## The changed messages -/

section Changed

variable {state : MailboxState} {modseq : Nat}

def MailboxState.newer (state : MailboxState) (modseq uid : Nat) : Bool :=
  (state.msginfo.lookup uid).any fun info => modseq < info.seq

theorem mem_changed_iff (held : state.Held) (inhabited : state.ids ≠ [])
    (positive : ∀ uid ∈ state.ids, 0 < uid) (bounded : 0 < modseq) :
    ∃ found, state.mailboxGetSet modseq (lit "1:*") true = some found ∧
      ∀ uid, uid ∈ found.keys ↔ uid ∈ state.ids ∧ state.newer modseq uid = true := by
  obtain ⟨whole, ran, lookups⟩ := getSet_everyUid inhabited positive held.ids_sorted
  refine ⟨state.findModseq modseq whole, ?_, ?_⟩
  · rw [mailboxGetSet, ran]
    rfl
  · intro uid
    rw [← lookup_isSome_iff, findModseq_isSome (by
      intro key member
      rw [← lookup_isSome_iff, lookups] at member
      exact held.mem_keys member), lookups]
    apply and_congr_right
    intro member
    obtain ⟨info, isInfo⟩ := exists_lookup (held.mem_keys member)
    unfold MailboxState.Stale newer
    rw [isInfo]
    simp only [Option.some.injEq, exists_eq_left', any_some, decide_eq_true_eq]
    omega

/-- A traversal over messages of the mailbox tells each of them. -/
theorem fetchUpdates_of_mem {uids : List Nat} (known : ∀ uid ∈ uids, uid ∈ state.ids)
    (held : state.Held) :
    ∃ responses, state.fetchUpdates uids = .ok responses ∧ ∀ response,
      response ∈ responses ↔ ∃ uid ∈ uids, ∃ info, state.msginfo.lookup uid = some info ∧
        response = .fetch (state.msn uid) uid (state.messageFlags uid info) info.seq := by
  induction uids with
  | nil => exact ⟨[], rfl, fun response => by simp⟩
  | cons uid rest ih =>
    obtain ⟨responses, later, members⟩ :=
      ih fun other member => known other (mem_cons_of_mem _ member)
    have member := known uid mem_cons_self
    obtain ⟨info, isInfo⟩ := exists_lookup (held.mem_keys member)
    refine ⟨.fetch (state.msn uid) uid (state.messageFlags uid info) info.seq :: responses, ?_, ?_⟩
    · rw [fetchUpdates, isInfo]
      dsimp only
      rw [if_pos member, later]
      rfl
    · intro response
      simp [members, isInfo]

/-- Over an empty mailbox the made-up message 1 is told about, if the tree has it. -/
theorem fetchUpdates_empty (empty : state.ids = []) (bounded : 0 < modseq) :
    state.fetchUpdates (((state.mailboxGetSet modseq (lit "1:*") true).map KeyTree.keys).getD []) =
      if state.newer modseq 1 then .error .nullPointer else .ok [] := by
  have whole : state.getSet (lit "1:*") true = some (KeyTree.empty.insert 1 state.uidnext) := by
    have parts : (lit "1:*").splitOn 44 = [lit "1:*"] := by decide +kernel
    have form : emptyPart (lit "1:*") = .range 1 1 := by decide +kernel
    rw [getSet, if_neg (by decide), parts, getParts, if_pos empty, form]
    rfl
  have keys : (KeyTree.empty.insert 1 state.uidnext).keys = [1] := rfl
  rw [mailboxGetSet, whole]
  show state.fetchUpdates (state.findModseq modseq (KeyTree.empty.insert 1 state.uidnext)).keys = _
  rw [findModseq, if_neg (by omega), keys, staleKeys, MailboxState.newer]
  have notListed : 1 ∉ state.ids := by simp [empty]
  cases found : state.msginfo.lookup 1 with
  | none =>
    show state.fetchUpdates [1] = _
    rw [fetchUpdates, found]
    rfl
  | some info =>
    by_cases newer : modseq < info.seq
    · simp [staleKeys, Nat.not_le.mpr newer, keys, fetchUpdates, found, notListed]
    · simp only [Nat.not_lt.mp newer, any_some, newer]
      rfl

end Changed

/-! ## The whole answer -/

section Answer

variable {mailbox modseq : Nat} {before tables : Tables} {state : MailboxState}

/-- `SELECT box (QRESYNC (uidvalidity modseq))`. -/
def QresyncArgs.bare (uidvalidity modseq : Nat) (uidvalidity_pos : 0 < uidvalidity)
    (modseq_pos : 0 < modseq) : QresyncArgs :=
  ⟨uidvalidity, modseq, none, none, none, uidvalidity_pos, modseq_pos⟩

structure UpToDate (mailbox : Nat) (tables : Tables) (state : MailboxState) : Prop where
  id_eq : state.id = mailbox
  held : state.Held
  positive : ∀ uid ∈ state.msginfo.keys, 0 < uid
  listed : ∀ uid, uid ∈ state.ids ↔ tables.liveIn mailbox uid = true
  current : ∀ uid info message, uid ∈ state.ids → state.msginfo.lookup uid = some info →
    tables.messages.lookup uid = some message → info.seq = message.seq ∧
      ∀ flag, flag ≠ lit "\\Recent" → (flag ∈ state.messageFlags uid info ↔
        flag ∈ flagNames { message.flags with recent := false } message.keywords)

theorem visible_eq_some {uid : Nat} {seen : Flags × List Bytes}
    (isSeen : tables.visible mailbox uid = some seen) :
    ∃ message, tables.messages.lookup uid = some message ∧
      seen = ({ message.flags with recent := false }, message.keywords) := by
  unfold Tables.visible at isSeen
  split at isSeen
  · obtain ⟨message, isMessage, same⟩ := map_eq_some_iff.mp isSeen
    exact ⟨message, isMessage, same.symm⟩
  · cases isSeen

theorem visible_isSome (uid : Nat) :
    (tables.visible mailbox uid).isSome = tables.liveIn mailbox uid := by
  unfold Tables.visible Tables.liveIn
  cases tables.messages.lookup uid with
  | none => rfl
  | some message =>
    split <;> simp_all

variable (mailbox_pos : 0 < mailbox) (modseq_pos : 0 < modseq)

theorem qresync_bare (same : state.id = mailbox) :
    state.qresync (.bare mailbox modseq mailbox_pos modseq_pos) =
      (state.fetchUpdates
        (((state.mailboxGetSet modseq (lit "1:*") true).map KeyTree.keys).getD [])).map
        ((if state.msginfo.keys.filter (state.vanishing modseq) = [] then []
          else [.vanished
            (traverse state modseq ⟨[], [], 0, 0, false⟩ state.msginfo.keys).finished]) ++ ·) := by
  have here : (QresyncArgs.bare mailbox modseq mailbox_pos modseq_pos).uidvalidity = state.id :=
    same.symm
  rw [qresync, if_pos here, getExpunged_eq (.inl rfl)]
  rfl

variable (upToDate : UpToDate mailbox tables state)

include upToDate

include modseq_pos in
/-- The FETCH responses, unless the traversal faults. -/
theorem fetches_told (found : ¬ (state.ids = [] ∧ state.newer modseq 1 = true)) :
    ∃ fetches, state.fetchUpdates
        (((state.mailboxGetSet modseq (lit "1:*") true).map KeyTree.keys).getD []) = .ok fetches ∧
      ∀ response, response ∈ fetches ↔ ∃ uid, uid ∈ state.ids ∧ state.newer modseq uid = true ∧
        ∃ info, state.msginfo.lookup uid = some info ∧
          response = .fetch (state.msn uid) uid (state.messageFlags uid info) info.seq := by
  by_cases empty : state.ids = []
  · refine ⟨[], ?_, fun response => by simp [empty]⟩
    rw [fetchUpdates_empty empty modseq_pos, if_neg fun newer => found ⟨empty, newer⟩]
  · have positive : ∀ uid ∈ state.ids, 0 < uid := fun uid member =>
      upToDate.positive uid (upToDate.held.mem_keys member)
    obtain ⟨changed, isChanged, members⟩ := mem_changed_iff upToDate.held empty positive modseq_pos
    obtain ⟨fetches, isOk, told⟩ := @fetchUpdates_of_mem state changed.keys
      (fun uid member => ((members uid).mp member).1) upToDate.held
    refine ⟨fetches, ?_, ?_⟩
    · rw [isChanged]
      exact isOk
    · intro response
      rw [told]
      simp [members, and_assoc]

/-- The answer, unless it faults: a VANISHED response if a message has vanished, and a FETCH
response for each message of the mailbox that is newer. -/
theorem qresync_answer (found : ¬ (state.ids = [] ∧ state.newer modseq 1 = true)) :
    ∃ responses, state.qresync (.bare mailbox modseq mailbox_pos modseq_pos) = .ok responses ∧
      (∀ uid, Vanished responses uid ↔ Between (state.vanishing modseq) state.msginfo.keys uid) ∧
      ∀ uid flags, Fetched responses uid flags ↔ uid ∈ state.ids ∧ state.newer modseq uid = true ∧
        ∃ info, state.msginfo.lookup uid = some info ∧ flags = state.messageFlags uid info := by
  obtain ⟨fetches, isOk, told⟩ := fetches_told modseq_pos upToDate found
  have noVanished : ∀ text, ResyncResponse.vanished text ∉ fetches := by
    intro text member
    obtain ⟨_, _, _, _, _, isFetch⟩ := (told _).mp member
    cases isFetch
  refine ⟨(if state.msginfo.keys.filter (state.vanishing modseq) = [] then []
    else [.vanished (traverse state modseq ⟨[], [], 0, 0, false⟩ state.msginfo.keys).finished]) ++
      fetches, ?_, ?_, ?_⟩
  · rw [qresync_bare mailbox_pos modseq_pos upToDate.id_eq, isOk]
    rfl
  · intro uid
    by_cases none : state.msginfo.keys.filter (state.vanishing modseq) = []
    · -- Without a vanishing message there is no response, and nothing lies between two.
      rw [if_pos none]
      constructor
      · intro ⟨text, member, _⟩
        exact absurd member (noVanished text)
      · intro ⟨first, isFirst, last, _, lower, upper, all⟩
        have gone := all first isFirst (Nat.le_refl _) (Nat.le_trans lower upper)
        have listed := mem_filter.mpr ⟨isFirst, gone⟩
        rw [none] at listed
        cases listed
    · have text := @inRanges_finished_iff state modseq state.msginfo.keys state.msginfo.sorted
        upToDate.positive none uid
      rw [if_neg none, ← text]
      constructor
      · intro ⟨text, member, covered⟩
        rcases mem_cons.mp member with isText | isFetch
        · cases isText
          exact covered
        · exact absurd isFetch (noVanished text)
      · intro covered
        exact ⟨_, mem_cons_self, covered⟩
  · intro uid flags
    constructor
    · intro ⟨msn, seq, member⟩
      rcases mem_append.mp member with isVanished | isFetch
      · split at isVanished
        · cases isVanished
        · cases mem_singleton.mp isVanished
      · obtain ⟨other, listed, newer, info, isInfo, same⟩ := (told _).mp isFetch
        cases same
        exact ⟨listed, newer, info, isInfo, rfl⟩
    · intro ⟨listed, newer, info, isInfo, isFlags⟩
      refine ⟨state.msn uid, info.seq, mem_append_right _ ((told _).mpr ?_)⟩
      exact ⟨uid, listed, newer, info, isInfo, by rw [isFlags]⟩

theorem qresync_faults (empty : state.ids = []) (newer : state.newer modseq 1 = true) :
    state.qresync (.bare mailbox modseq mailbox_pos modseq_pos) = .error .nullPointer := by
  rw [qresync_bare mailbox_pos modseq_pos upToDate.id_eq, fetchUpdates_empty empty modseq_pos, if_pos newer]
  rfl

/-- A client is resynchronised exactly if each message it knew that is gone lies among
vanishing messages, and the traversal does not fault. -/
theorem qresync_iff
    (sequenced : ∀ uid, tables.liveIn mailbox uid = true →
      before.visible mailbox uid ≠ tables.visible mailbox uid →
        ∃ message, tables.messages.lookup uid = some message ∧ modseq < message.seq) :
    (∃ responses, state.qresync (.bare mailbox modseq mailbox_pos modseq_pos) = .ok responses ∧
      Resynchronised mailbox before tables responses) ↔
      (∀ uid, before.liveIn mailbox uid = true → tables.liveIn mailbox uid = false →
        Between (state.vanishing modseq) state.msginfo.keys uid) ∧
      ¬ (state.ids = [] ∧ state.newer modseq 1 = true) := by
  by_cases faults : state.ids = [] ∧ state.newer modseq 1 = true
  · rw [qresync_faults mailbox_pos modseq_pos upToDate faults.1 faults.2]
    simp [faults]
  obtain ⟨responses, isOk, vanished, fetched⟩ :=
    qresync_answer mailbox_pos modseq_pos upToDate faults
  have infoOf : ∀ uid ∈ state.ids, ∃ info, state.msginfo.lookup uid = some info ∧
      info.live = true := by
    intro uid listed
    rw [upToDate.held.ids_eq] at listed
    exact mem_keysWhere_iff.mp listed
  -- A message of the mailbox does not lie among vanishing ones.
  have apart : ∀ uid ∈ state.ids, ¬ Between (state.vanishing modseq) state.msginfo.keys uid := by
    rintro uid listed ⟨first, _, last, _, lower, upper, all⟩
    obtain ⟨info, isInfo, live⟩ := infoOf uid listed
    have gone := all uid (mem_keys_of_lookup isInfo) lower upper
    rw [MailboxState.vanishing, isInfo] at gone
    simp only [any_some, Bool.and_eq_true, decide_eq_true_eq] at gone
    rw [MessageInfo.live, gone.2] at live
    cases live
  -- What has changed is newer.
  have changedNewer : ∀ uid, tables.liveIn mailbox uid = true →
      before.visible mailbox uid ≠ tables.visible mailbox uid → state.newer modseq uid = true := by
    intro uid isLive changed
    obtain ⟨message, isMessage, newer⟩ := sequenced uid isLive changed
    have listed := (upToDate.listed uid).mpr isLive
    obtain ⟨info, isInfo, _⟩ := infoOf uid listed
    have same := (upToDate.current uid info message listed isInfo isMessage).1
    rw [MailboxState.newer, isInfo]
    simp only [any_some, decide_eq_true_eq]
    omega
  have tells : ∀ uid, tables.liveIn mailbox uid = true → state.newer modseq uid = true →
      ∃ flags, Fetched responses uid flags := by
    intro uid isLive newer
    have listed := (upToDate.listed uid).mpr isLive
    obtain ⟨info, isInfo, _⟩ := infoOf uid listed
    exact ⟨_, (fetched uid _).mpr ⟨listed, newer, info, isInfo, rfl⟩⟩
  constructor
  · rintro ⟨other, isOther, resynchronised⟩
    rw [isOk] at isOther
    cases isOther
    refine ⟨?_, faults⟩
    intro uid known gone
    rw [← vanished]
    by_contra kept
    have stays := (resynchronised.uids uid).mp (.inl ⟨known, kept⟩)
    rw [gone] at stays
    cases stays
  · rintro ⟨covered, _⟩
    refine ⟨responses, isOk, ?_, ?_, ?_⟩
    · intro uid
      constructor
      · intro either
        rcases either with ⟨known, kept⟩ | ⟨flags, isFetched⟩
        · by_contra gone
          rw [vanished] at kept
          exact kept (covered uid known (by simpa using gone))
        · exact (upToDate.listed uid).mp ((fetched uid flags).mp isFetched).1
      · intro isLive
        by_cases newer : state.newer modseq uid = true
        · exact .inr (tells uid isLive newer)
        · have same : before.visible mailbox uid = tables.visible mailbox uid := by
            by_contra changed
            exact newer (changedNewer uid isLive changed)
          refine .inl ⟨?_, ?_⟩
          · rwa [← visible_isSome, same, visible_isSome]
          · rw [vanished]
            exact apart uid ((upToDate.listed uid).mpr isLive)
    · intro uid isLive changed
      exact tells uid isLive (changedNewer uid isLive changed)
    · intro uid sent isFetched seen isSeen flag notRecent
      obtain ⟨listed, _, info, isInfo, isSent⟩ := (fetched uid sent).mp isFetched
      obtain ⟨message, isMessage, isFlags⟩ := visible_eq_some isSeen
      rw [isSent, isFlags]
      exact (upToDate.current uid info message listed isInfo isMessage).2 flag notRecent

end Answer

end Dbmail.Mailbox
