import Dbmail.Imap.Confinement

/-!
Contract: which arguments the handlers read.

Owns the run of one dispatched command from its handler through its worker,
the arguments each command needs, and the exact cases in which a handler reads
behind the terminating NULL.

Does not own: the item parsers of SEARCH and FETCH.
-/

namespace Dbmail.Imap

open Dbmail.Lib Dbmail.Auth Session List

variable {session : Session} {index k minargs maxargs : Nat} {world : World} {rest : List Bytes}
  {args : List Bytes} {command job : Command} {state : Option ClientState} {duty : List Reply → Prop} {word : Bytes}

/-! ## The run of a command -/

/-- A session as `imap4` dispatches it: the tokenizer has terminated the list
and put the index back to its start. -/
structure Delivered where
  session : Session
  atStart : session.argsIdx = 0
  terminated : session.Terminated
  alive : session.state ≠ .error

/-- The replies after the worker of a handler, if it pushed one. What
authentication does behind its two arguments reads no further one. -/
def Session.runWorker (world : World) (session : Session) : Except Fault (List Reply) :=
  match session.job with
  | none => .ok session.sent
  | some .authenticate => do
    let _ ← session.credentials
    return session.sent
  | some job => do
    let result ← enter world session job
    return session.sent ++ result.2.replies

def runCommand (conf : ServerConf) (world : World) (accepted : Bool) (session : Session)
    (command : Command) : Except Fault (List Reply) := do
  let handled ← handler conf world accepted
    { session with job := none, sent := [], commandType := some command } command
  handled.1.runWorker world

/-! ## Required arguments -/

def required : Command → Nat
  | .capability | .noop | .logout | .check | .close | .expunge | .nameSpace | .unselect
  | .idle | .starttls => 0
  | .authenticate | .select | .examine | .enable | .create | .delete | .subscribe
  | .unsubscribe | .search | .uid | .sort | .getquotaroot | .getquota | .getacl | .myrights
  | .thread | .id => 1
  | .login | .rename | .list | .lsub | .append | .fetch | .store | .copy | .deleteacl
  | .listrights => 2
  | .status | .setacl => 3

def uidRequired (word : Bytes) : Option Nat :=
  if smatch word "fetch" || smatch word "copy" || smatch word "store" then some 2
  else if smatch word "search" || smatch word "sort" || smatch word "thread" ||
      smatch word "expunge" then some 1
  else none

def opensList (word : Bytes) : Bool := word.head? = some 40
def closesList (word : Bytes) : Bool := word.head? = some 41

/-- The flag words of STORE name no action, or nothing follows the action. -/
def StoreIncomplete (words : List Bytes) : Prop :=
  (∀ word ∈ words, storeAction word = none) ∨
    ∃ before action, words = before ++ [action] ∧ (storeAction action).isSome ∧
      ∀ word ∈ before, storeAction word = none

inductive MissingArgument (args : List Bytes) : Command → Prop where
  | tooFew {command : Command} (few : args.length < required command) :
      MissingArgument args command
  | behindUid {word : Bytes} {rest : List Bytes} {needed : Nat} (split : args = word :: rest)
      (known : uidRequired word = some needed) (few : rest.length < needed) :
      MissingArgument args .uid
  | store {set : Bytes} {rest : List Bytes} (split : args = set :: rest)
      (incomplete : StoreIncomplete rest) : MissingArgument args .store
  | uidStore {word set : Bytes} {rest : List Bytes} (split : args = word :: set :: rest)
      (isStore : smatch word "store") (incomplete : StoreIncomplete rest) :
      MissingArgument args .uid
  /-- A flag list with nothing behind it. -/
  | append {mailbox opening : Bytes} {rest : List Bytes} (split : args = mailbox :: opening :: rest)
      (opens : opensList opening)
      (nothing : (rest.dropWhile fun word => !closesList word).tail = []) :
      MissingArgument args .append

def Answered (replies : List Reply) : Prop :=
  ∃ text, .bad text ∈ replies ∨ .no text ∈ replies

/-- No lookup of a right fails. Such a failure closes the connection. -/
def World.AclAnswers (world : World) : Prop :=
  ∀ mailbox userid right, 0 ≤ world.aclHasRight mailbox userid right

/-- The item parser of FETCH returns. -/
def World.ParsesItems (world : World) : Prop := ∃ parsed, world.fetchParse = .ok parsed

/-- The command reads only arguments before the terminating NULL, and is
answered with BAD or NO when a required one is missing. -/
def ArgumentsHandled (session : Session) (command : Command) : Prop :=
  ∀ conf world accepted, world.ParsesItems →
    ∃ replies, runCommand conf world accepted session command = .ok replies ∧
      (MissingArgument session.args command → command ≠ .append ∨ world.AclAnswers →
        Answered replies)

/-- The cases that are not covered: THREAD without an argument in any state, UID
THREAD without one, a full argument list whose APPEND flag list is not closed, and
the commands that go by the sets of an earlier SELECT, which are freed arguments:
a SELECT or EXAMINE without sets of its own, and FETCH, which may ask for
VANISHED. -/
inductive ArgumentGap (state : ClientState) (args : List Bytes) (capa : Capa)
    (resync : QresyncArgs) : Command → Prop where
  | thread (empty : args = []) : ArgumentGap state args capa resync .thread
  | uidThread {word : Bytes} (selected : state = .selected) (split : args = [word])
      (isThread : smatch word "thread") : ArgumentGap state args capa resync .uid
  | select {command : Command} (isSelect : command = .select ∨ command = .examine)
      (loggedIn : state = .authenticated ∨ state = .selected)
      (plain : args.length = 1 ∨ asksCondstore capa (args.drop 1) = true)
      (kept : resync.keepsSets = true ∨ resync.knownUids.isSome = true) :
      ArgumentGap state args capa resync command
  | fetch (selected : state = .selected) (given : 2 ≤ args.length)
      (kept : resync.keepsSets = true) : ArgumentGap state args capa resync .fetch
  | uidFetch {word : Bytes} {rest : List Bytes} (selected : state = .selected)
      (split : args = word :: rest) (isFetch : smatch word "fetch") (given : 2 ≤ rest.length)
      (kept : resync.keepsSets = true) : ArgumentGap state args capa resync .uid
  | append {mailbox opening : Bytes} {rest : List Bytes}
      (loggedIn : state = .authenticated ∨ state = .selected)
      (split : args = mailbox :: opening :: rest) (full : rest.length = maxArgs - 3)
      (opens : opensList opening) (unclosed : ∀ word ∈ rest, closesList word = false) :
      ArgumentGap state args capa resync .append

/-- The gap for the session that a command finds. -/
abbrev Session.Gap (session : Session) (command : Command) : Prop :=
  ArgumentGap session.state session.args session.capa session.resync command

theorem answered_bad (text : Bytes) : Answered [.bad text] := ⟨text, .inl (by simp)⟩

/-! ## Lists of arguments -/

/-- STATUS: the closing parenthesis is one of the arguments. -/
theorem statusList_closed {i : Nat} {words : List Bytes}
    (closed : statusList i words = .closed index) : index < i + words.length := by
  induction words generalizing i with
  | nil => cases closed
  | cons word rest ih =>
    simp only [statusList] at closed
    split at closed
    · cases closed
      simp
    · split at closed
      · cases closed
      · have bound := ih closed
        simp only [length_cons]
        omega

theorem appendTail_overrun (world : World) (session : Session) (mailbox : Nat)
    (words : List Bytes) : appendTail world session mailbox maxArgs words = .error .outOfBounds := by
  simp [appendTail, slot, bind, Except.bind]

/-- A failed check of a right has been answered. -/
theorem checkAcl_answered (answers : world.AclAnswers) (session : Session) (mailbox : Nat)
    (right : AclRight) (effects : Effects)
    (denied : ((imapSessionMailboxCheckAcl world session mailbox right).run effects).1 ≠ 0) :
    Answered ((imapSessionMailboxCheckAcl world session mailbox right).run effects).2.replies := by
  have noFailure := Int.not_lt.mpr (answers mailbox session.userid right)
  rw [imapSessionMailboxCheckAcl_run, if_neg noFailure] at denied ⊢
  by_cases none_ : world.aclHasRight mailbox session.userid right = 0
  · rw [if_pos none_]
    exact ⟨_, .inr (mem_append_right _ (mem_singleton.mpr rfl))⟩
  · rw [if_neg none_] at denied
    exact absurd rfl denied

theorem StoreIncomplete.drop {words : List Bytes} (incomplete : StoreIncomplete words)
    (count : Nat) : StoreIncomplete (words.drop count) := by
  rcases incomplete with noAction | ⟨before, action, rfl, isAction, noAction⟩
  · exact .inl fun word member => noAction word (mem_of_mem_drop member)
  · by_cases kept : count ≤ before.length
    · refine .inr ⟨before.drop count, action, drop_append_of_le_length kept, isAction, ?_⟩
      exact fun word member => noAction word (mem_of_mem_drop member)
    · refine .inl ?_
      rw [drop_eq_nil_of_le (by simp; omega)]
      exact nofun

theorem StoreIncomplete.ends {token : Bytes} (incomplete : StoreIncomplete (token :: rest))
    (isAction : (storeAction token).isSome) : rest = [] := by
  rcases incomplete with noAction | ⟨before, action, split, -, noAction⟩
  · rw [noAction token (by simp)] at isAction
    cases isAction
  · cases before with
    | nil => exact (List.cons.inj split).2
    | cons head tail =>
      have same := (List.cons.inj split).1
      subst same
      rw [noAction token (by simp)] at isAction
      cases isAction

theorem storeToken_before {found final : StoreScan} {token : Bytes} {next : Option Nat}
    (fresh : found.action = none ∧ found.needflags = false)
    (noAction : (storeAction token).isSome = false)
    (taken : storeToken session k found token = .ok (next, final)) :
    final.action = none ∧ final.needflags = false ∧ final.startflags = found.startflags ∧
      ∀ position, next = some position → k < position := by
  have unmarked : found.mark k token = found := by simp [StoreScan.mark, fresh.2]
  have modified : storeModifier session k found token = .ok (next, final) := by
    simpa [storeToken, noAction, fresh.2, unmarked] using taken
  have goesOn : ∀ step, 0 < step → ∀ position, some (k + step) = some position → k < position := by
    rintro step positive _ ⟨⟩
    omega
  unfold storeModifier at modified
  split at modified
  · obtain ⟨wordSlot, -, modified⟩ := bind_eq_ok_iff.mp modified
    cases wordSlot with
    | none =>
      cases modified
      exact ⟨fresh.1, fresh.2, rfl, goesOn 1 (by omega)⟩
    | some word =>
      obtain ⟨numberSlot, -, modified⟩ := bind_eq_ok_iff.mp modified
      cases numberSlot with
      | none =>
        cases modified
        exact ⟨fresh.1, fresh.2, rfl, goesOn 1 (by omega)⟩
      | some number =>
        simp only at modified
        split at modified
        · cases modified
          exact ⟨rfl, fresh.2, rfl, nofun⟩
        · cases modified
          exact ⟨fresh.1, fresh.2, rfl, goesOn 3 (by omega)⟩
  · cases modified
    exact ⟨fresh.1, fresh.2, rfl, goesOn 1 (by omega)⟩

theorem Session.slot_eq_ok {slot : Option Bytes} (read : session.slot index = .ok slot) :
    session.args[index]? = slot := by
  unfold Session.slot at read
  split at read
  · exact Except.ok.inj read
  · cases read

/-- An incomplete flag list leaves STORE without an action or without flags. -/
theorem storeScan_incomplete {fuel last : Nat} (found : StoreScan) {final : StoreScan}
    (fresh : found.action = none ∧ found.needflags = false ∧ found.startflags = 0)
    (incomplete : StoreIncomplete (session.args.drop k))
    (scanned : storeScan session fuel k found = .ok (last, final)) :
    final.action = none ∨ (final.needflags = true ∧ final.startflags = 0) := by
  induction fuel generalizing k found with
  | zero =>
    cases scanned
    exact .inl fresh.1
  | succ fuel ih =>
    obtain ⟨slot, read, scanned⟩ := bind_eq_ok_iff.mp scanned
    have atSlot := slot_eq_ok read
    cases slot with
    | none =>
      cases scanned
      exact .inl fresh.1
    | some token =>
      obtain ⟨inside, isToken⟩ := List.getElem?_eq_some_iff.mp atSlot
      obtain ⟨⟨next, middle⟩, taken, scanned⟩ := bind_eq_ok_iff.mp scanned
      cases isAction : (storeAction token).isSome with
      | true =>
        rw [drop_eq_getElem_cons inside, isToken] at incomplete
        have atEnd := drop_eq_nil_iff.mp (incomplete.ends isAction)
        simp only [storeToken, fresh.1, isAction] at taken
        cases taken
        -- the list is at its end, so that the next round changes nothing
        have stays : final = { found with action := storeAction token, needflags := true } := by
          cases fuel with
          | zero =>
            cases scanned
            rfl
          | succ fuel =>
            obtain ⟨slot, read, scanned⟩ := bind_eq_ok_iff.mp scanned
            have missing := slot_eq_ok read
            rw [List.getElem?_eq_none atEnd] at missing
            subst missing
            cases scanned
            rfl
        rw [stays]
        exact .inr ⟨rfl, fresh.2.2⟩
      | false =>
        obtain ⟨stillNone, noFlags, start, forward⟩ :=
          storeToken_before ⟨fresh.1, fresh.2.1⟩ isAction taken
        cases next with
        | none =>
          cases scanned
          exact .inl stillNone
        | some position =>
          have behind : k < position := forward position rfl
          refine ih middle ⟨stillNone, noFlags, start.trans fresh.2.2⟩ ?_ scanned
          have rest := incomplete.drop (position - k)
          rw [drop_drop, show k + (position - k) = position by omega] at rest
          exact rest

/-! ## Reading in bounds -/

section Terminated

variable (terminated : session.Terminated)

include terminated

theorem bind_arg_ok {α : Type} {next : Bytes → Except Fault α} (given : index < session.args.length)
    (safe : ∀ text, ∃ result, next text = .ok result) :
    ∃ result, (session.arg index >>= next) = .ok result := by
  rw [arg_of_lt terminated given]
  exact safe _

theorem statusEnter_ok (world : World) (given : 2 ≤ session.args.length) :
    ∃ result, statusEnter world session = .ok result := by
  refine bind_arg_ok terminated (by omega) fun opening => ?_
  simp only
  split
  · exact ⟨_, rfl⟩
  split
  · exact ⟨_, rfl⟩
  split
  · exact ⟨_, rfl⟩
  -- the slot behind the closing parenthesis is at most that of the NULL
  have inArray : (statusList 2 (session.args.drop 2)).endfound + 1 < maxArgs := by
    have bound : session.args.length < maxArgs := terminated
    cases scanned : statusList 2 (session.args.drop 2) with
    | closed index =>
      have closed := statusList_closed scanned
      simp only [length_drop] at closed
      simp only [StatusList.endfound]
      omega
    | nested | unclosed => simp [StatusList.endfound, maxArgs]
  rw [slot_of_lt inArray]
  simp only [bind, Except.bind]
  split
  · exact ⟨_, rfl⟩
  · exact bind_arg_ok terminated (by omega) fun name => ⟨_, rfl⟩

/-! ## APPEND -/

/-- The flag loop stops at the closing parenthesis or at the NULL. -/
theorem appendFlags_spec (fuel i : Nat) (words : List Bytes)
    (inList : i ≤ session.args.length) (enough : session.args.length < fuel + i) :
    ∃ found, appendFlags session fuel i words =
      .ok (i + ((session.args.drop i).takeWhile fun word => !closesList word).length, found) := by
  induction fuel generalizing i words with
  | zero => omega
  | succ fuel ih =>
    have inArray : i < maxArgs := Nat.lt_of_le_of_lt inList terminated
    simp only [appendFlags, slot_of_lt inArray, bind, Except.bind]
    by_cases atEnd : i = session.args.length
    · subst atEnd
      simp [pure, Except.pure]
    · have inside : i < session.args.length := by omega
      rw [List.getElem?_eq_getElem inside, drop_eq_getElem_cons inside]
      simp only
      split
      · rename_i closes
        simp [closesList, closes, pure, Except.pure]
      · rename_i open_
        obtain ⟨found, scanned⟩ := ih (i + 1)
          (words ++ [session.args[i]]) inside (by omega)
        rw [scanned]
        refine ⟨found, ?_⟩
        have kept : closesList session.args[i] = false := by simpa [closesList] using open_
        simp only [takeWhile_cons, kept, Bool.not_false, if_true, length_cons]
        congr 2
        omega

theorem appendTail_ok (world : World) (mailbox : Nat) {i : Nat}
    (words : List Bytes) (inArray : i < maxArgs) :
    ∃ result, appendTail world session mailbox i words = .ok result ∧
      (session.args.length ≤ i → Answered result.2.replies) := by
  unfold appendTail
  rw [slot_of_lt inArray]
  simp only [bind, Except.bind]
  cases slot : session.args[i]? with
  | none => exact ⟨_, rfl, fun _ => answered_bad _⟩
  | some first =>
    have inside : i < session.args.length := (List.getElem?_eq_some_iff.mp slot).1
    have nextInArray : i + 1 < maxArgs := Nat.lt_of_le_of_lt inside terminated
    rw [slot_of_lt nextInArray]
    simp only
    split <;> exact ⟨_, rfl, fun missing => absurd missing (by omega)⟩

theorem appendArgs {mailbox opening : Bytes} (split : session.args = mailbox :: opening :: rest) :
    session.arg 0 = .ok mailbox ∧ session.arg 1 = .ok opening := by
  constructor
  all_goals
    rw [arg_of_lt terminated (by simp [split])]
    simp [split]

theorem appendEnter_ok (world : World) {mailbox opening : Bytes}
    (split : session.args = mailbox :: opening :: rest)
    (fits : opensList opening → (∀ word ∈ rest, closesList word = false) →
        rest.length ≠ maxArgs - 3) :
    ∃ result, appendEnter world session = .ok result ∧
      (world.AclAnswers → opensList opening →
        (rest.dropWhile fun word => !closesList word).tail = [] → Answered result.2.replies) := by
  have bound : rest.length + 2 < maxArgs := by
    simpa [Session.Terminated, split] using terminated
  obtain ⟨first, second⟩ := appendArgs terminated split
  unfold appendEnter
  rw [first, second]
  simp only [bind, Except.bind, Worker.perform]
  cases findOrCreateInbox world session mailbox with
  | none => exact ⟨_, rfl, fun _ _ _ => ⟨_, .inr (mem_singleton.mpr rfl)⟩⟩
  | some id =>
    simp only
    split
    · rename_i denied
      exact ⟨_, rfl, fun answers _ _ => checkAcl_answered answers session id .insert _ denied⟩
    split
    · rename_i opens
      have isList : opensList opening := by simpa [opensList] using opens
      obtain ⟨found, scanned⟩ := appendFlags_spec terminated maxArgs 2 []
        (by simp [split]) (by have := terminated; simp only [Session.Terminated] at this; omega)
      have parted := congrArg List.length
        (takeWhile_append_dropWhile (p := fun word => !closesList word) (l := rest))
      rw [length_append] at parted
      simp only [split] at scanned
      rw [scanned]
      have inArray : 2 + (rest.takeWhile fun word => !closesList word).length + 1 < maxArgs := by
        by_cases unclosed : ∀ word ∈ rest, closesList word = false
        · have := fits isList unclosed
          omega
        · -- a closing parenthesis ends the walk before the list does
          have ends : rest.dropWhile (fun word => !closesList word) ≠ [] := by
            intro none_
            refine unclosed fun word member => ?_
            simpa using dropWhile_eq_nil_iff.mp none_ word member
          have := length_pos_iff.mpr ends
          omega
      obtain ⟨result, ran, answered⟩ := appendTail_ok terminated world id found inArray
      refine ⟨result, ran, fun _ _ nothing => answered ?_⟩
      have := congrArg List.length nothing
      rw [length_tail, length_nil] at this
      rw [split]
      simp only [length_cons]
      omega
    · rename_i plain
      obtain ⟨result, ran, -⟩ := appendTail_ok terminated world id [] (i := 1) (by simp [maxArgs])
      exact ⟨result, ran, fun _ isList => absurd (by simpa [opensList] using isList) plain⟩

/-! ## STORE -/

/-- One round goes on behind its token and before the end of the list. -/
theorem storeToken_ok {found : StoreScan} (token : Bytes)
    (inside : k < session.args.length) (ends : found.endflags < session.args.length) :
    ∃ next final, storeToken session k found token = .ok (next, final) ∧
      (∀ position, next = some position → position ≤ session.args.length) ∧
      final.endflags < session.args.length := by
  have goesOn : ∀ position, some (k + 1) = some position → position ≤ session.args.length := by
    rintro _ ⟨⟩
    exact inside
  unfold storeToken
  split
  · exact ⟨_, _, rfl, goesOn, ends⟩
  split
  · exact ⟨_, _, rfl, goesOn, ends⟩
  have marked : (found.mark k token).endflags < session.args.length := by
    unfold StoreScan.mark
    split
    · exact Nat.lt_of_le_of_lt (Nat.sub_le k 1) inside
    · exact ends
  unfold storeModifier
  split
  · rw [slot_of_lt (Nat.lt_of_le_of_lt inside terminated)]
    simp only [bind, Except.bind]
    cases wordSlot : session.args[k + 1]? with
    | none => exact ⟨_, _, rfl, goesOn, marked⟩
    | some word =>
      have wordInside := (List.getElem?_eq_some_iff.mp wordSlot).1
      rw [slot_of_lt (Nat.lt_of_le_of_lt wordInside terminated)]
      cases numberSlot : session.args[k + 2]? with
      | none => exact ⟨_, _, rfl, goesOn, marked⟩
      | some number =>
        have numberInside := (List.getElem?_eq_some_iff.mp numberSlot).1
        simp only
        split
        · exact ⟨_, _, rfl, nofun, marked⟩
        · refine ⟨_, _, rfl, ?_, marked⟩
          rintro _ ⟨⟩
          exact numberInside
  · exact ⟨_, _, rfl, goesOn, marked⟩

theorem storeScan_ok (fuel : Nat) (found : StoreScan)
    (inList : k ≤ session.args.length) (ends : found.endflags < session.args.length) :
    ∃ last final, storeScan session fuel k found = .ok (last, final) ∧
      last ≤ session.args.length ∧ final.endflags < session.args.length := by
  induction fuel generalizing k found with
  | zero => exact ⟨k, found, rfl, inList, ends⟩
  | succ fuel ih =>
    simp only [storeScan]
    rw [slot_of_lt (Nat.lt_of_le_of_lt inList terminated)]
    simp only [bind, Except.bind]
    cases slot : session.args[k]? with
    | none => exact ⟨k, found, rfl, inList, ends⟩
    | some token =>
      obtain ⟨next, final, taken, goesOn, finalEnds⟩ :=
        storeToken_ok terminated token (List.getElem?_eq_some_iff.mp slot).1 ends
      simp only [taken]
      cases next with
      | none => exact ⟨k, final, rfl, inList, finalEnds⟩
      | some position => exact ih final (goesOn position rfl) finalEnds

theorem storeWords_ok (count k : Nat) (inList : count = 0 ∨ k + count ≤ session.args.length) :
    ∃ words, storeWords session count k = .ok words := by
  induction count generalizing k with
  | zero => exact ⟨[], rfl⟩
  | succ count ih =>
    obtain ⟨rest, read⟩ := ih (k + 1) (by omega)
    refine bind_arg_ok terminated (by omega) fun word => ?_
    rw [read]
    exact ⟨word :: rest, rfl⟩

theorem storeEnter_ok (world : World) (given : session.argsIdx + 1 ≤ session.args.length) :
    ∃ result, storeEnter world session = .ok result ∧
      (StoreIncomplete (session.args.drop (session.argsIdx + 1)) → Answered result.2.replies) := by
  obtain ⟨last, final, scanned, inList, ends⟩ :=
    storeScan_ok terminated maxArgs {} given (by simp; omega)
  have incomplete := fun missing =>
    storeScan_incomplete {} ⟨rfl, rfl, rfl⟩ missing scanned
  unfold storeEnter
  rw [scanned]
  simp only [bind, Except.bind]
  split
  · exact ⟨_, rfl, fun _ => answered_bad _⟩
  split
  · exact ⟨_, rfl, fun _ => answered_bad _⟩
  rename_i hasAction hasFlags
  have complete : ¬ StoreIncomplete (session.args.drop (session.argsIdx + 1)) := by
    intro missing
    rcases incomplete missing with noAction | noFlags
    · simp [noAction] at hasAction
    · exact hasFlags noFlags
  have lastFlag : (if final.endflags = 0 then last - 1 else final.endflags) <
      session.args.length := by
    split <;> omega
  obtain ⟨words, read⟩ := storeWords_ok terminated
    ((if final.endflags = 0 then last - 1 else final.endflags) + 1 - final.startflags)
    final.startflags (by omega)
  rw [read, arg_of_lt terminated (by omega)]
  exact ⟨_, rfl, fun missing => absurd missing complete⟩

/-! ## Workers -/

/-- The worker does not go by the sets of an earlier SELECT. -/
structure Unstale (world : World) (session : Session) (job : Command) : Prop where
  select : job = .select → ∀ name, selectReadsFreed world session name = false
  fetch : job = .fetch → session.resync.keepsSets = false

/-- With the required arguments given, a worker other than APPEND's reads no
further than these or scans up to the NULL. -/
theorem enter_ok (world : World) (parses : world.ParsesItems) (job : Command)
    (unstale : Unstale world session job)
    (given : session.argsIdx + required job ≤ session.args.length)
    (set : job = .expunge → session.useUid = true → session.argsIdx < session.args.length)
    (other : job ≠ .append) : ∃ result, enter world session job = .ok result := by
  cases job with
  | append => exact absurd rfl other
  | status => exact statusEnter_ok terminated world (by simp only [required] at given; omega)
  | store =>
    obtain ⟨result, ran, -⟩ :=
      storeEnter_ok terminated world (by simp only [required] at given; omega)
    exact ⟨result, ran⟩
  | expunge =>
    simp only [enter]
    split
    · rename_i isUid
      rw [arg_of_lt terminated (set rfl isUid)]
      exact ⟨_, rfl⟩
    · exact ⟨_, rfl⟩
  | select =>
    simp only [required] at given
    refine bind_arg_ok terminated (by omega) fun name => ?_
    simp only [unstale.select rfl name]
    exact ⟨_, rfl⟩
  | fetch =>
    obtain ⟨parsed, parse⟩ := parses
    simp only [required] at given
    refine bind_arg_ok terminated (by omega) fun set => ?_
    simp only [parse, fetchReadsFreed, unstale.fetch rfl, Bool.and_false]
    exact ⟨_, rfl⟩
  | create | delete | subscribe | getquotaroot | getquota | getacl | myrights =>
    simp only [required] at given
    exact bind_arg_ok terminated (by omega) fun _ => ⟨_, rfl⟩
  | rename | list | copy | deleteacl | listrights =>
    simp only [required] at given
    exact bind_arg_ok terminated (by omega) fun _ =>
      bind_arg_ok terminated (by omega) fun _ => ⟨_, rfl⟩
  | setacl =>
    simp only [required] at given
    exact bind_arg_ok terminated (by omega) fun _ =>
      bind_arg_ok terminated (by omega) fun _ =>
        bind_arg_ok terminated (by omega) fun _ => ⟨_, rfl⟩
  | _ => exact ⟨_, rfl⟩

/-- The check answers with BAD, or there are enough arguments and the state is
the right one. -/
theorem checkStateAndArgs_cases (alive : session.state ≠ .error)
    (inList : session.argsIdx ≤ session.args.length) (minargs maxargs : Nat)
    (state : Option ClientState) :
    (∃ text, checkStateAndArgs session minargs maxargs state = .ok (.refused (some (.bad text)))) ∨
      (checkStateAndArgs session minargs maxargs state = .ok .passed ∧
        session.argsIdx + minargs ≤ session.args.length ∧
        ∀ needed, state = some needed → needed.admits session.state = true) := by
  unfold checkStateAndArgs
  rw [if_neg alive]
  split
  · exact .inl ⟨_, rfl⟩
  · rename_i admitted
    split
    · exact .inl ⟨_, rfl⟩
    · rw [if_neg (Nat.not_le.mpr terminated)]
      split
      · exact .inl ⟨_, rfl⟩
      · refine .inr ⟨rfl, by omega, ?_⟩
        rintro needed rfl
        simpa using admitted

theorem icThread_fault (empty : session.args.length = session.argsIdx) :
    icThread session = .error .nullPointer := by
  unfold icThread
  rw [arg_of_missing (empty ▸ terminated) (Nat.le_of_eq empty)]
  rfl

theorem credentials_ok (inList : session.argsIdx ≤ session.args.length) :
    ∃ credentials, session.credentials = .ok credentials := by
  unfold Session.credentials
  rw [slot_of_lt (Nat.lt_of_le_of_lt inList terminated)]
  simp only [bind, Except.bind]
  cases slot : session.args[session.argsIdx]? with
  | none => exact ⟨_, rfl⟩
  | some username =>
    have inside := (List.getElem?_eq_some_iff.mp slot).1
    rw [slot_of_lt (Nat.lt_of_le_of_lt inside terminated)]
    simp only
    split <;> exact ⟨_, rfl⟩

end Terminated

/-- The worlds in which a command of the gap faults. -/
def gapWorld (uidvalidity : Nat) : World :=
  { openWorld with findMailbox := fun _ _ => some uidvalidity, fetchVanished := some 1 }

theorem appendEnter_overrun (session : Session) {mailbox opening : Bytes}
    (split : session.args = mailbox :: opening :: rest) (full : rest.length = maxArgs - 3)
    (opens : opensList opening) (unclosed : ∀ word ∈ rest, closesList word = false) :
    appendEnter (gapWorld session.resync.uidvalidity) session = .error .outOfBounds := by
  have terminated : session.Terminated := by
    simp only [Session.Terminated, split, length_cons, full]
    decide
  obtain ⟨first, second⟩ := appendArgs terminated split
  obtain ⟨found, scanned⟩ := appendFlags_spec terminated maxArgs 2 []
    (by simp [split]) (by have := terminated; simp only [Session.Terminated] at this; omega)
  have whole : rest.takeWhile (fun word => !closesList word) = rest :=
    takeWhile_eq_self_iff.mpr fun word member => by simp [unclosed word member]
  have isList : opening.head? = some 40 := by simpa [opensList] using opens
  simp only [split, drop_succ_cons, drop_zero, whole, full] at scanned
  have tail := appendTail_overrun (gapWorld session.resync.uidvalidity) session
    session.resync.uidvalidity found
  unfold appendEnter
  rw [first, second, scanned]
  simp only [bind, Except.bind, isList]
  exact tail

/-! ## Handlers -/

structure Ready (session : Session) : Prop where
  noJob : session.job = none
  silent : session.sent = []
  terminated : session.Terminated
  alive : session.state ≠ .error
  inList : session.argsIdx ≤ session.args.length

def Survives (world : World) (result : Except Fault (Session × Int))
    (duty : List Reply → Prop) : Prop :=
  ∃ replies, (result >>= fun handled => handled.1.runWorker world) = .ok replies ∧ duty replies

def Duty (world : World) (args : List Bytes) (command : Command) (replies : List Reply) : Prop :=
  MissingArgument args command → command ≠ .append ∨ world.AclAnswers → Answered replies

theorem Duty.of_answered {replies : List Reply} (answered : Answered replies) :
    Duty world args command replies :=
  fun _ _ => answered

theorem Duty.of_complete (world : World) (complete : ¬ MissingArgument args command) (replies : List Reply) :
    Duty world args command replies :=
  fun missing => absurd missing complete

section Handlers

variable (ready : Ready session)

include ready

theorem Survives.of_replies {replies : List Reply} {status : Int} (met : duty replies) :
    Survives world (.ok (session.send replies, status)) duty := by
  refine ⟨replies, ?_, met⟩
  simp [bind, Except.bind, runWorker, send, ready.noJob, ready.silent]

theorem Survives.of_silent {status : Int} (met : duty []) :
    Survives world (.ok (session, status)) duty := by
  refine ⟨[], ?_, met⟩
  simp [bind, Except.bind, runWorker, ready.noJob, ready.silent]

theorem guarded_survives {body : Except Fault (Session × Int)}
    (passes : session.argsIdx + minargs ≤ session.args.length →
        (∀ needed, state = some needed → needed.admits session.state = true) →
        Survives world body (Duty world args command)) :
    Survives world (guarded session minargs maxargs state body) (Duty world args command) := by
  unfold guarded
  rcases checkStateAndArgs_cases ready.terminated ready.alive ready.inList minargs maxargs state with
    ⟨text, refused⟩ | ⟨passed, enough, admitted⟩
  · rw [refused]
    exact .of_replies ready (.of_answered (answered_bad text))
  · rw [passed]
    exact passes enough admitted

theorem Survives.of_push (worker : job ≠ .authenticate) {status : Int}
    (quits : session.state = .quitQueued → duty []) (runs : ∃ result,
        enter world { session with job := some job, commandState := .inProgress } job = .ok result ∧
        duty result.2.replies) : Survives world (.ok (session.push job, status)) duty := by
  unfold push
  split
  · rename_i quitting
    exact .of_silent ready (quits quitting)
  · obtain ⟨result, ran, met⟩ := runs
    refine ⟨result.2.replies, ?_, met⟩
    simp only [bind, Except.bind, runWorker, ran]
    simp [pure, Except.pure, ready.silent]

/-- Check and push, for a worker whose arguments the check has counted. -/
theorem guardedPush_survives (parses : world.ParsesItems)
    (complete : session.argsIdx + minargs ≤ session.args.length → ¬ MissingArgument args command)
    (counted : required job ≤ minargs)
    (other : job ≠ .authenticate ∧ job ≠ .append ∧ job ≠ .expunge)
    (unstale : session.argsIdx + minargs ≤ session.args.length →
      (∀ needed, state = some needed → needed.admits session.state = true) →
      Unstale world session job) :
    Survives world (guardedPush session minargs maxargs state job) (Duty world args command) := by
  refine guarded_survives ready fun enough admitted => ?_
  have fresh := unstale enough admitted
  refine .of_push ready other.1 (fun _ => .of_complete _ (complete enough) []) ?_
  obtain ⟨result, ran⟩ := @enter_ok
    { session with job := some job, commandState := .inProgress } ready.terminated
    world parses job ⟨fresh.select, fresh.fetch⟩ (Nat.le_trans (Nat.add_le_add_left counted _) enough)
    (fun isExpunge => absurd isExpunge other.2.2) other.2.1
  exact ⟨result, ran, .of_complete _ (complete enough) _⟩

theorem icStore_survives
    (met : session.argsIdx + 2 ≤ session.args.length → MissingArgument args command →
      StoreIncomplete (session.args.drop (session.argsIdx + 1))) :
    Survives world (icStore session) (Duty world args command) := by
  refine guarded_survives ready fun enough admitted => ?_
  refine .of_push ready (by simp) (fun quitting => ?_) ?_
  · have := admitted .selected rfl
    rw [quitting] at this
    cases this
  · obtain ⟨result, ran, incomplete⟩ := @storeEnter_ok
      { session with job := some .store, commandState := .inProgress } ready.terminated
      world (by simp only; omega)
    exact ⟨result, ran, fun missing _ => incomplete (met enough missing)⟩

theorem icExpunge_survives (parses : world.ParsesItems)
    (complete : (session.useUid = true → session.argsIdx + 1 ≤ session.args.length) →
      ¬ MissingArgument args command) :
    Survives world (icExpunge session world) (Duty world args command) := by
  refine guarded_survives ready fun enough _ => ?_
  have counted : session.useUid = true → session.argsIdx + 1 ≤ session.args.length := by
    intro isUid
    rwa [if_pos isUid] at enough
  have met := Duty.of_complete world (complete counted)
  split
  · refine .of_push ready (by simp) (fun _ => met []) ?_
    obtain ⟨result, ran⟩ := @enter_ok
      { session with job := some .expunge, commandState := .inProgress } ready.terminated
      world parses .expunge ⟨nofun, nofun⟩ ready.inList (fun _ => counted) (by simp)
    exact ⟨result, ran, met _⟩
  · exact .of_replies ready (met _)

/-- THREAD, given the argument it reads unchecked. -/
theorem icThread_survives (parses : world.ParsesItems) (given : session.argsIdx < session.args.length)
    (complete : ¬ MissingArgument args command) :
    Survives world (icThread session) (Duty world args command) := by
  have met := Duty.of_complete world complete
  unfold icThread
  rw [arg_of_lt ready.terminated given]
  simp only [bind, Except.bind]
  split
  · exact guardedPush_survives ready parses (fun _ => complete) (by simp [required]) (by simp)
      fun _ _ => ⟨nofun, nofun⟩
  split
  · exact .of_replies ready (met _)
  · exact .of_silent ready (met [])

theorem icAppend_survives (atStart : session.argsIdx = 0)
    (noGap : ¬ session.Gap .append) :
    Survives world (icAppend session) (Duty world session.args .append) := by
  refine guarded_survives ready fun enough admitted => ?_
  have loggedIn : session.state = .authenticated ∨ session.state = .selected := by
    simpa [ClientState.admits] using admitted .authenticated rfl
  refine .of_push ready (by simp) (fun quitting => ?_) ?_
  · simp [quitting] at loggedIn
  obtain ⟨mailbox, opening, rest, split⟩ :
      ∃ mailbox opening rest, session.args = mailbox :: opening :: rest := by
    match split : session.args with
    | [] | [_] => simp [split] at enough
    | mailbox :: opening :: rest => exact ⟨mailbox, opening, rest, rfl⟩
  obtain ⟨result, ran, nothing⟩ := @appendEnter_ok
    { session with job := some .append, commandState := .inProgress } rest ready.terminated world
    mailbox opening split
    (fun opens unclosed full => noGap (.append loggedIn split full opens unclosed))
  refine ⟨result, ran, fun missing healthy => ?_⟩
  have answers : world.AclAnswers := healthy.resolve_left (by simp)
  cases missing with
  | tooFew few =>
    simp only [required] at few
    omega
  | append parted opens nothingLeft =>
    cases split.symm.trans parted
    exact nothing answers opens nothingLeft

theorem authenticatePush_survives (met : ∀ replies, duty replies) :
    Survives world (authenticatePush session) duty := by
  unfold authenticatePush
  split
  · exact .of_replies ready (met _)
  unfold push
  split
  · exact .of_silent ready (met [])
  · obtain ⟨credentials, read⟩ := @credentials_ok
      { session with job := some .authenticate, commandState := .inProgress }
      ready.terminated ready.inList
    refine ⟨[], ?_, met []⟩
    simp only [bind, Except.bind, runWorker, read]
    simp [pure, Except.pure, ready.silent]

theorem icAuthenticate_survives
    (complete : session.argsIdx + (if session.commandType = some .authenticate then 1 else 2) ≤
      session.args.length → ¬ MissingArgument args command) :
    Survives world (icAuthenticate session) (Duty world args command) := by
  have met := fun enough => Duty.of_complete world (complete enough)
  unfold icAuthenticate
  split
  · rename_i isAuthenticate
    rw [if_pos isAuthenticate] at met
    refine guarded_survives ready fun enough _ => ?_
    rw [arg_of_lt ready.terminated enough]
    simp only [bind, Except.bind]
    split
    · exact .of_replies ready (met enough _)
    · exact authenticatePush_survives
        ⟨ready.noJob, ready.silent, ready.terminated, ready.alive, enough⟩ (met enough)
  · rename_i isLogin
    rw [if_neg isLogin] at met
    exact guarded_survives ready fun enough _ =>
      authenticatePush_survives ready (met enough)

end Handlers

/-! ## UID -/

theorem not_missing_uid {needed : Nat} (known : uidRequired word = some needed)
    (enough : needed ≤ rest.length) (other : smatch word "store" = false) :
    ¬ MissingArgument (word :: rest) .uid := by
  intro missing
  cases missing with
  | tooFew few => simp [required] at few
  | behindUid split knownToo few =>
    cases split
    rw [known] at knownToo
    cases knownToo
    omega
  | uidStore split isStore =>
    cases split
    rw [isStore] at other
    cases other

theorem smatch_eq {name other : String} (is : smatch word name = true) :
    smatch word other = strcasecmpEq (lit name) (lit other) := by
  have same : word.map toLower = (lit name).map toLower := by
    simpa [smatch, strcasecmpEq] using is
  simp [smatch, strcasecmpEq, same]

/-- Every command behind UID survives, THREAD apart when nothing follows it. -/
theorem uidHandler_survives (session : Session) (ready : Ready session)
    (parses : world.ParsesItems) (split : session.args = word :: rest) (behind : session.argsIdx = 1)
    (isUid : session.useUid = true) (given : smatch word "thread" = true → rest ≠ [])
    (unkept : smatch word "fetch" = true → session.state = .selected → 2 ≤ rest.length →
      session.resync.keepsSets = false)
    {handle : Session → Except Fault (Session × Int)}
    (found : uidHandler world word = some handle) :
    Survives world (handle session) (Duty world session.args .uid) := by
  have length : session.args.length = rest.length + 1 := by simp [split]
  -- the handlers that check for `needed` arguments and push
  have pushes {needed maxargs : Nat} {job : Command} (known : uidRequired word = some needed)
      (notStore : smatch word "store" = false) (counted : required job ≤ needed)
      (other : job ≠ .authenticate ∧ job ≠ .append ∧ job ≠ .expunge ∧ job ≠ .select)
      (fetch : session.state = .selected → needed ≤ rest.length → job = .fetch →
        session.resync.keepsSets = false) :
      Survives world (guardedPush session needed maxargs (some .selected) job)
        (Duty world session.args .uid) := by
    refine guardedPush_survives ready parses (fun enough => ?_) counted
      ⟨other.1, other.2.1, other.2.2.1⟩ fun enough admitted =>
        ⟨fun isSelect => absurd isSelect other.2.2.2, fetch ?_ (by omega)⟩
    case refine_2 => simpa [ClientState.admits] using admitted .selected rfl
    rw [split]
    exact not_missing_uid known (by omega) notStore
  have knownAs {name : String} (is : smatch word name = true) :
      uidRequired word = uidRequired (lit name) := by
    simp only [uidRequired, smatch_eq is]
    rfl
  have other {name : String} (is : smatch word name = true)
      (differs : strcasecmpEq (lit name) (lit "store") = false) : smatch word "store" = false :=
    (smatch_eq is).trans differs
  unfold uidHandler at found
  split_ifs at found with fetch copy store search sort thread expunge <;> cases found
  · exact pushes (knownAs fetch) (other fetch (by decide)) (by decide) (by decide)
      fun selected enough _ => unkept fetch selected enough
  · exact pushes (knownAs copy) (other copy (by decide)) (by decide) (by decide) nofun
  · refine icStore_survives ready fun enough missing => ?_
    rw [behind] at enough ⊢
    rw [split] at missing ⊢
    cases missing with
    | tooFew few => simp [required] at few
    | behindUid parted known few =>
      cases parted
      rw [knownAs store] at known
      cases known.symm.trans (by decide : uidRequired (lit "store") = some 2)
      omega
    | uidStore parted isStore missing =>
      cases parted
      exact missing
  · exact pushes (knownAs search) (other search (by decide)) (by decide) (by decide) nofun
  · exact pushes (knownAs sort) (other sort (by decide)) (by decide) (by decide) nofun
  · have nonempty := length_pos_iff.mpr (given thread)
    refine icThread_survives ready parses (by omega) ?_
    rw [split]
    exact not_missing_uid (knownAs thread) nonempty (other thread (by decide))
  · refine icExpunge_survives ready parses fun counted => ?_
    have enough : 1 ≤ rest.length := by
      have := counted isUid
      omega
    rw [split]
    exact not_missing_uid (knownAs expunge) enough (other expunge (by decide))

/-- UID passes a word it knows on, one argument further. -/
theorem icUid_eq (session : Session) (selected : session.state = .selected)
    (atStart : session.argsIdx = 0) (split : session.args = word :: rest) :
    icUid session world =
      match uidHandler world word with
      | some handle => handle { session with
          useUid := true, command := word.take 15, argsIdx := session.argsIdx + 1 }
      | none =>
        .ok ({ session with useUid := false }.send [.bad (lit "invalid UID command")], 1) := by
  have first : session.slot 0 = .ok (some word) := by
    rw [slot_of_lt (by decide), split]
    rfl
  have next : session.slot session.argsIdx = .ok (some word) := atStart ▸ first
  simp only [icUid, selected, first, next, bind, Except.bind]
  cases uidHandler world word <;> rfl

theorem icUid_survives (ready : Ready session) (parses : world.ParsesItems)
    (atStart : session.argsIdx = 0) (noGap : ¬ session.Gap .uid) :
    Survives world (icUid session world) (Duty world session.args .uid) := by
  by_cases selected : session.state = .selected
  · by_cases empty : session.args = []
    · have missing : session.slot 0 = .ok none := by
        rw [slot_of_lt (by decide), empty]
        rfl
      have next : session.slot session.argsIdx = .ok none := atStart ▸ missing
      simp only [icUid, selected, missing, next]
      exact .of_replies ready (.of_answered (answered_bad _))
    · obtain ⟨word, rest, split⟩ := exists_cons_of_ne_nil empty
      rw [icUid_eq session selected atStart split]
      cases found : uidHandler world word with
      | none =>
        exact .of_replies ({ ready with } : Ready { session with useUid := false })
          (.of_answered (answered_bad _))
      | some handle =>
        exact uidHandler_survives { session with
            useUid := true, command := word.take 15, argsIdx := session.argsIdx + 1 }
          ⟨ready.noJob, ready.silent, ready.terminated, ready.alive, by simp [split, atStart]⟩
          parses split (by simp [atStart]) rfl
          (fun isThread empty => noGap (.uidThread selected (empty ▸ split) isThread))
          (fun isFetch _ given => eq_false_of_ne_true fun kept =>
            noGap (.uidFetch selected split isFetch given kept)) found
  · simp only [icUid, if_pos selected]
    exact .of_replies ready (.of_answered (answered_bad _))

/-! ## The exact gap -/

theorem not_missing (args : List Bytes) (enough : required command ≤ args.length)
    (simple : command ≠ .uid ∧ command ≠ .store ∧ command ≠ .append) :
    ¬ MissingArgument args command := by
  intro missing
  cases missing with
  | tooFew few => omega
  | behindUid | uidStore => exact simple.1 rfl
  | store => exact simple.2.1 rfl
  | append => exact simple.2.2 rfl

/-- SELECT goes by the parameters of an earlier one only without its own. -/
theorem selectReadsFreed_plain {name : Bytes} (reads : selectReadsFreed world session name = true) :
    (session.args.length = 1 ∨ asksCondstore session.capa (session.args.drop 1) = true) ∧
      (session.resync.keepsSets = true ∨ session.resync.knownUids.isSome = true) := by
  simp only [selectReadsFreed, Option.any_eq_true, Bool.and_eq_true, Bool.or_eq_true] at reads
  obtain ⟨parsed, isParsed, unparametrised, mailbox, -, -, kept⟩ := reads
  refine ⟨?_, kept⟩
  by_contra neither
  rw [not_or] at neither
  simp only [selectParseArgs, if_neg neither.1, if_neg neither.2] at isParsed
  repeat' split at isParsed
  all_goals first
    | cases isParsed
      cases unparametrised
    | cases isParsed

theorem handler_survives (conf : ServerConf) (accepted : Bool) (parses : world.ParsesItems)
    (ready : Ready session) (atStart : session.argsIdx = 0)
    (dispatched : session.commandType = some command) (noGap : ¬ session.Gap command) :
    Survives world (handler conf world accepted session command)
      (Duty world session.args command) := by
  have complete (few : required command = 0)
      (simple : command ≠ .uid ∧ command ≠ .store ∧ command ≠ .append) :=
    Duty.of_complete world (not_missing session.args (by omega) simple)
  cases command with
  | select | examine =>
    refine guardedPush_survives ready parses (fun enough => not_missing _ ?_ (by decide))
      (by decide) (by decide) fun _ admitted =>
        ⟨fun _ name => eq_false_of_ne_true fun reads => ?_, nofun⟩
    · rw [atStart, Nat.zero_add] at enough
      exact enough
    · obtain ⟨plain, kept⟩ := selectReadsFreed_plain reads
      have loggedIn : session.state = .authenticated ∨ session.state = .selected := by
        simpa [ClientState.admits] using admitted .authenticated rfl
      exact noGap (.select (by decide) loggedIn plain kept)
  | fetch =>
    refine guardedPush_survives ready parses (fun enough => not_missing _ ?_ (by decide))
      (by decide) (by decide) fun enough admitted =>
        ⟨nofun, fun _ => eq_false_of_ne_true fun kept => ?_⟩
    all_goals rw [atStart, Nat.zero_add] at enough
    · exact enough
    · have selected : session.state = .selected := by
        simpa [ClientState.admits] using admitted .selected rfl
      exact noGap (.fetch selected enough kept)
  | capability | noop | enable | create | delete | rename | subscribe
  | unsubscribe | list | lsub | status | check | close | search | copy | sort
  | getquotaroot | getquota | setacl | deleteacl | getacl | listrights | myrights | nameSpace
  | unselect | id =>
    refine guardedPush_survives ready parses (fun enough => not_missing _ ?_ (by decide))
      (by decide) (by decide) fun _ _ => ⟨nofun, nofun⟩
    rw [atStart, Nat.zero_add] at enough
    exact enough
  | logout =>
    refine guarded_survives ready fun _ _ => ?_
    unfold setState
    split
    · exact .of_silent ready (complete rfl (by decide) [])
    · exact .of_silent (⟨ready.noJob, ready.silent, ready.terminated, by simp, ready.inList⟩ :
        Ready { session with state := .logout }) (complete rfl (by decide) [])
  | idle =>
    refine guarded_survives ready fun _ _ => ?_
    obtain ⟨sent, loaded, isRefresh, -⟩ := refresh_eq
      ({ session with commandState := .idle }.send [.continuation (lit "idling")]) world
    refine ⟨sent, ?_, complete rfl (by decide) _⟩
    show Session.runWorker world (Session.refresh _ world) = _
    rw [isRefresh]
    simp [runWorker, send, ready.noJob]
  | starttls =>
    refine guarded_survives ready fun _ _ => ?_
    split
    · exact .of_replies ready (complete rfl (by decide) _)
    split
    · exact .of_replies ready (complete rfl (by decide) _)
    split
    · refine ⟨session.sent ++ [.ok (lit "Begin TLS now")], ?_, complete rfl (by decide) _⟩
      simp [bind, Except.bind, runWorker, sessionEncrypted, send, ready.noJob]
    · exact .of_replies ready (complete rfl (by decide) _)
  | authenticate =>
    refine icAuthenticate_survives ready fun enough => ?_
    rw [if_pos dispatched] at enough
    exact not_missing _ (by simp only [required]; omega) (by decide)
  | login =>
    refine icAuthenticate_survives ready fun enough => ?_
    rw [if_neg (by simp [dispatched])] at enough
    exact not_missing _ (by simp only [required]; omega) (by decide)
  | append => exact icAppend_survives ready atStart noGap
  | expunge =>
    exact icExpunge_survives ready parses fun _ => not_missing _ (Nat.zero_le _) (by decide)
  | store =>
    refine icStore_survives ready fun enough missing => ?_
    rw [atStart] at enough ⊢
    cases missing with
    | tooFew few =>
      simp only [required] at few
      omega
    | store split rest =>
      rw [split]
      exact rest
  | thread =>
    have given : 0 < session.args.length :=
      length_pos_iff.mpr fun empty => noGap (.thread empty)
    refine icThread_survives ready parses (atStart ▸ given) ?_
    exact not_missing _ (by simp only [required]; omega) (by decide)
  | uid => exact icUid_survives ready parses atStart noGap

/-- A worker that faults is reached through a check that passes. -/
theorem guardedPush_fault {fault : Fault} {needed : ClientState} (terminated : session.Terminated)
    (given : session.argsIdx + minargs ≤ session.args.length)
    (admitted : needed.admits session.state = true) (going : session.state ≠ .error)
    (open_ : session.state ≠ .quitQueued) (worker : job ≠ .authenticate)
    (faulted : enter world { session with job := some job, commandState := .inProgress } job =
      .error fault) :
    (guardedPush session minargs 0 (some needed) job >>= fun handled =>
      handled.1.runWorker world) = .error fault := by
  have passed : checkStateAndArgs session minargs 0 (some needed) = .ok .passed := by
    simp [checkStateAndArgs, going, admitted, Option.filter, Nat.not_lt.mpr given,
      Nat.not_le.mpr terminated]
  simp only [guardedPush, guarded, passed, push, if_neg open_, bind, Except.bind, runWorker,
    faulted]

theorem selectReadsFreed_gapWorld (name : Bytes)
    (plain : session.args.length = 1 ∨ asksCondstore session.capa (session.args.drop 1) = true)
    (kept : session.resync.keepsSets = true ∨ session.resync.knownUids.isSome = true) :
    selectReadsFreed (gapWorld session.resync.uidvalidity) session name = true := by
  have parsed : ∃ condstore, selectParseArgs session = some (condstore, none) := by
    unfold selectParseArgs
    by_cases alone : session.args.length = 1
    · exact ⟨false, if_pos alone⟩
    · exact ⟨true, (if_neg alone).trans (if_pos (plain.resolve_left alone))⟩
  obtain ⟨condstore, isParsed⟩ := parsed
  simpa [selectReadsFreed, isParsed, gapWorld, findOrCreateInbox, openWorld] using kept

theorem select_fault (terminated : session.Terminated)
    (given : session.argsIdx < session.args.length)
    (plain : session.args.length = 1 ∨ asksCondstore session.capa (session.args.drop 1) = true)
    (kept : session.resync.keepsSets = true ∨ session.resync.knownUids.isSome = true) :
    enter (gapWorld session.resync.uidvalidity) session .select = .error .freed := by
  simp only [enter, arg_of_lt terminated given, bind, Except.bind]
  rw [if_pos (selectReadsFreed_gapWorld _ plain kept)]
  rfl

/-- FETCH faults when VANISHED is asked for and both sets are kept. -/
theorem fetch_fault (terminated : session.Terminated)
    (given : session.argsIdx < session.args.length) (kept : session.resync.keepsSets = true) :
    enter (gapWorld session.resync.uidvalidity) session .fetch = .error .freed := by
  simp only [enter, arg_of_lt terminated given, bind, Except.bind]
  simp only [gapWorld, openWorld, fetchReadsFreed, kept]
  rfl

theorem ArgumentGap.fault (gap : session.Gap command) (terminated : session.Terminated)
    (atStart : session.argsIdx = 0) (conf : ServerConf) (accepted : Bool) :
    ∃ fault, runCommand conf (gapWorld session.resync.uidvalidity) accepted session command =
      .error fault := by
  have inArray : 0 < maxArgs := by decide
  unfold runCommand
  cases gap with
  | thread empty =>
    have faulted : handler conf (gapWorld session.resync.uidvalidity) accepted
        { session with job := none, sent := [], commandType := some .thread } .thread =
          .error .nullPointer :=
      icThread_fault (by simp [Session.Terminated, empty, inArray]) (by simp [empty, atStart])
    exact ⟨.nullPointer, by rw [faulted]; rfl⟩
  | @uidThread word selected split isThread =>
    have found : uidHandler (gapWorld session.resync.uidvalidity) word = some icThread := by
      simp only [uidHandler, smatch_eq isThread]
      rfl
    have faulted : icUid { session with job := none, sent := [], commandType := some .uid }
        (gapWorld session.resync.uidvalidity) = .error .nullPointer := by
      rw [icUid_eq { session with
        job := none, sent := [], commandType := some .uid } selected atStart split, found]
      exact icThread_fault (by simp [Session.Terminated, split, maxArgs]) (by simp [split, atStart])
    exact ⟨.nullPointer, by simp only [handler, faulted]; rfl⟩
  | @uidFetch word rest selected split isFetch given kept =>
    have found : uidHandler (gapWorld session.resync.uidvalidity) word = some icFetch := by
      simp only [uidHandler, smatch_eq isFetch]
      rfl
    have length : session.args.length = rest.length + 1 := by simp [split]
    refine ⟨.freed, ?_⟩
    simp only [handler]
    rw [icUid_eq { session with
      job := none, sent := [], commandType := some .uid } selected atStart split, found]
    refine guardedPush_fault terminated (by simp only; omega) (by simp [selected, ClientState.admits])
      (by simp [selected]) (by simp [selected]) (by decide) ?_
    exact fetch_fault terminated (by simp only; omega) kept
  | fetch selected given kept =>
    refine ⟨.freed, guardedPush_fault terminated (by simp only; omega)
      (by simp [selected, ClientState.admits]) (by simp [selected]) (by simp [selected])
      (by decide) ?_⟩
    exact fetch_fault terminated (by simp only; omega) kept
  | select isSelect loggedIn plain kept =>
    have given : session.argsIdx < session.args.length := by
      rcases plain with alone | asked
      · omega
      · simp only [asksCondstore, Bool.and_eq_true, decide_eq_true_eq, length_drop] at asked
        omega
    have faulted := @select_fault { session with
        job := some .select, sent := [], commandType := some command
        commandState := .inProgress } terminated given plain kept
    have push := @guardedPush_fault { session with
        job := none, sent := [], commandType := some command } 1 _ .select .freed .authenticated
      terminated given (by rcases loggedIn with state | state <;> simp [state, ClientState.admits])
      (by rcases loggedIn with state | state <;> simp [state])
      (by rcases loggedIn with state | state <;> simp [state]) (by decide) faulted
    rcases isSelect with rfl | rfl
    · exact ⟨.freed, push⟩
    · exact ⟨.freed, push⟩
  | @append mailbox opening rest loggedIn split full opens unclosed =>
    have overrun := appendEnter_overrun { session with
      job := some .append, sent := [], commandType := some .append, commandState := .inProgress }
      split full opens unclosed
    have length : session.args.length = maxArgs - 1 := by
      rw [split]
      simp only [length_cons, full]
      decide
    refine ⟨.outOfBounds, guardedPush_fault terminated (by simp only [atStart, length]; decide)
      ?_ ?_ ?_ (by decide) overrun⟩
    all_goals rcases loggedIn with state | state <;> simp [state, ClientState.admits]

theorem terminated_dispatched (terminated : session.Terminated) (command : Command) :
    (session.dispatched command).Terminated := by
  unfold Session.Terminated dispatched
  split
  · simpa [Session.Terminated] using terminated
  · exact terminated

theorem tokenizer_delivers {conf : ServerConf} {env : TokenEnv} {before after : Session}
    {input : Bytes} (alive : before.state ≠ .error)
    (read : tokenizer conf env before input = .ok (after, .complete)) (command : Command) :
    ∃ delivered : Delivered, delivered.session = after.dispatched command := by
  obtain ⟨calm, complete⟩ := tokenizer_calm after _ read
  obtain ⟨atStart, terminated⟩ := complete rfl
  exact ⟨⟨after.dispatched command, atStart, terminated_dispatched terminated command,
    calm.state_ne alive rfl⟩, rfl⟩

end Dbmail.Imap
