import Dbmail.Mailbox.Box

/-!
Contract: how the commands raise the sequences of mailboxes.

Owns that no command on a mailbox lowers the sequence of any, and that
`db_mailbox_seq_update` raises it.

Does not own: the sequences of messages.
-/

namespace Dbmail.Mailbox

open Dbmail.Lib Dbmail.Imap Tables

def SeqGrows (before after : Tables) : Prop :=
  ∀ mailbox, before.seqOf mailbox ≤ after.seqOf mailbox

theorem view_seq (tables : Tables) (mailbox : Nat) :
    (tables.view mailbox).seq = tables.seqOf mailbox := by
  unfold MailboxDb.seq seqOf view
  cases tables.mailboxes.lookup mailbox <;> rfl

section Grows

variable {before middle after tables : Tables}

theorem SeqGrows.refl (tables : Tables) : SeqGrows tables tables := fun _ => Nat.le_refl _

theorem SeqGrows.of_eq (same : after.mailboxes = before.mailboxes) : SeqGrows before after := by
  intro mailbox
  unfold seqOf
  rw [same]

theorem SeqGrows.trans (first : SeqGrows before middle) (second : SeqGrows middle after) :
    SeqGrows before after :=
  fun mailbox => Nat.le_trans (first mailbox) (second mailbox)

theorem seqOf_bump (tables : Tables) (mailbox count other : Nat) :
    (tables.bump mailbox count).seqOf other =
      if other = mailbox ∧ (tables.mailboxes.lookup other).isSome then tables.seqOf other + count
      else tables.seqOf other := by
  unfold seqOf bump
  rw [KeyTree.lookup_map]
  cases tables.mailboxes.lookup other with
  | none => simp
  | some entry => by_cases here : other = mailbox <;> simp [here]

theorem isSome_of_seqOf_pos {mailbox : Nat} (positive : 0 < tables.seqOf mailbox) :
    (tables.mailboxes.lookup mailbox).isSome = true := by
  unfold seqOf at positive
  cases found : tables.mailboxes.lookup mailbox with
  | none => simp [found] at positive
  | some entry => rfl

/-- Of the mailboxes, every strategy changes one sequence. -/
theorem mailboxes_mailboxSeqUpdate (tables : Tables) (strategy : Int) (mailbox uid : Nat) :
    (tables.mailboxSeqUpdate strategy mailbox uid).1.mailboxes =
      (tables.bump mailbox (if strategy = 1 then 1 else if strategy = 2 then 2 else 0)).mailboxes := by
  unfold mailboxSeqUpdate
  by_cases first : strategy = 1
  · simp only [if_pos first]
    split <;> rfl
  simp only [if_neg first]
  by_cases second : strategy = 2
  · simp only [if_pos second]
    split <;> rfl
  · simp only [if_neg second]
    apply KeyTree.ext_lookup
    intro id
    rw [bump, KeyTree.lookup_map]
    simp

theorem seqOf_mailboxSeqUpdate (tables : Tables) (strategy : Int) (mailbox uid other : Nat) :
    (tables.mailboxSeqUpdate strategy mailbox uid).1.seqOf other = (tables.bump mailbox
      (if strategy = 1 then 1 else if strategy = 2 then 2 else 0)).seqOf other := by
  rw [seqOf, mailboxes_mailboxSeqUpdate]
  rfl

theorem mailboxSeqUpdate_grows (tables : Tables) (strategy : Int) (mailbox uid : Nat) :
    SeqGrows tables (tables.mailboxSeqUpdate strategy mailbox uid).1 := by
  intro other
  rw [seqOf_mailboxSeqUpdate, seqOf_bump]
  split <;> omega

theorem SeqGrows.updated (same : middle.mailboxes = before.mailboxes) (strategy : Int)
    (mailbox uid : Nat) : SeqGrows before (middle.mailboxSeqUpdate strategy mailbox uid).1 :=
  SeqGrows.trans (.of_eq same) (mailboxSeqUpdate_grows middle strategy mailbox uid)

/-- The strategies of `mailbox_update_seq_strategy` that do something. -/
def Counting (strategy : Int) : Prop := strategy = 1 ∨ strategy = 2

theorem mailboxSeqUpdate_raises {strategy : Int} (counting : Counting strategy) {mailbox : Nat}
    (positive : 0 < tables.seqOf mailbox) :
    tables.seqOf mailbox < (tables.mailboxSeqUpdate strategy mailbox 0).1.seqOf mailbox := by
  have exists_ := isSome_of_seqOf_pos positive
  rw [seqOf_mailboxSeqUpdate, seqOf_bump, if_pos ⟨rfl, exists_⟩]
  rcases counting with rfl | rfl <;> simp

/-! ## Loads and refreshes -/

theorem markDeleted_mailboxes (tables : Tables) (uids : List Nat) :
    (tables.markDeleted uids).mailboxes = tables.mailboxes := by
  unfold markDeleted
  induction uids generalizing tables with
  | nil => rfl
  | cons uid rest ih =>
    rw [List.foldl_cons, ih]
    rfl

theorem flushTables_grows {state : MailboxState} {strategy : Int} {tables : Tables} :
    SeqGrows tables (state.flushTables strategy tables) := by
  unfold MailboxState.flushTables
  split
  · exact .refl tables
  · dsimp only
    split
    · apply SeqGrows.updated
      rfl
    · exact .of_eq rfl

theorem refresh_grows (conf : ServerConf) (viewer : Viewer) (tables : Tables) (state : MailboxState) :
    SeqGrows tables (tables.refresh conf viewer state).1 := by
  unfold refresh
  dsimp only
  split
  · exact SeqGrows.trans (.of_eq (markDeleted_mailboxes tables _)) flushTables_grows
  · exact .refl tables

theorem mbxinfoLookup_grows (conf : LoadConf) (tables : Tables) (cached : Option MailboxState)
    (mailbox : Nat) : SeqGrows tables (tables.mbxinfoLookup conf cached mailbox).1 := by
  unfold mbxinfoLookup
  dsimp only
  split
  · exact .of_eq (markDeleted_mailboxes tables _)
  · split
    · exact .of_eq (markDeleted_mailboxes tables _)
    · exact .refl tables

/-! ## Commands -/

theorem foldl_fetchWrite_grows (strategy : Int) (calls : List DbCall)
    (fetching : Tables × MailboxState) :
    SeqGrows fetching.1 (calls.foldl (fetchWrite strategy) fetching).1 := by
  induction calls generalizing fetching with
  | nil => exact .refl _
  | cons call rest ih =>
    refine SeqGrows.trans ?_ (ih (fetchWrite strategy fetching call))
    cases call with
    | setMsgflag uid => exact .of_eq rfl
    | setSeq uid => exact mailboxSeqUpdate_grows _ strategy fetching.2.id uid
    | _ => exact .refl _

theorem fetchEnter_grows (conf : ServerConf) (held : AclRight → Bool) (tables : Tables)
    (state : MailboxState) (command : FetchCommand) :
    SeqGrows tables (fetchEnter conf held tables state command).1 := by
  exact SeqGrows.trans
    (foldl_fetchWrite_grows conf.store.seqStrategy _
      (tables, state.loadPermission (tables.view state.id)))
    flushTables_grows

theorem expungeVisit_mailboxes (updated : Nat → Bool) (expunging : Tables × MailboxState) (uid : Nat) :
    (expungeVisit updated expunging uid).1.mailboxes = expunging.1.mailboxes := by
  unfold expungeVisit
  split
  · rfl
  · split
    · rfl
    · dsimp only
      split <;> rfl

theorem foldl_expungeVisit_mailboxes (updated : Nat → Bool) (uids : List Nat)
    (expunging : Tables × MailboxState) :
    (uids.foldl (expungeVisit updated) expunging).1.mailboxes = expunging.1.mailboxes := by
  induction uids generalizing expunging with
  | nil => rfl
  | cons uid rest ih =>
    rw [List.foldl_cons, ih, expungeVisit_mailboxes]

theorem mailboxExpunge_grows (conf : ServerConf) (tables : Tables) (state : MailboxState)
    (command : ExpungeCommand) : SeqGrows tables (mailboxExpunge conf tables state command).1 := by
  unfold mailboxExpunge
  split
  · exact .refl tables
  · have walked : SeqGrows tables ((expungeTargets state command).foldl
        (expungeVisit command.updated) (tables, state)).1 :=
      .of_eq (foldl_expungeVisit_mailboxes command.updated _ (tables, state))
    dsimp only
    split
    · exact walked.trans (mailboxSeqUpdate_grows _ _ _ _)
    · exact walked

theorem insertCopy_grows (tables : Tables) (strategy : Int) (uid mailbox copy : Nat) :
    SeqGrows tables (tables.insertCopy strategy uid mailbox copy) := by
  unfold insertCopy
  split
  · exact .refl tables
  · split
    · exact .refl tables
    · apply SeqGrows.updated
      rfl

theorem copyWrites_grows (conf : ServerConf) (tables : Tables) (state : MailboxState) (modseq : Nat)
    (results : Nat → CopyResult) (command : CopyCommand) :
    SeqGrows tables (copyWrites conf tables state modseq results command) := by
  unfold copyWrites
  cases command.destination with
  | none => exact .refl tables
  | some mailbox =>
  dsimp only
  split
  · exact .refl tables
  split
  · exact .refl tables
  · refine SeqGrows.trans (mailboxSeqUpdate_grows tables conf.store.seqStrategy mailbox 0) ?_
    refine walk_keeps ?_ (.refl _)
    intro walked uid _ grows
    refine grows.trans ?_
    unfold copyTables
    split
    · exact .refl walked
    · refine SeqGrows.trans ?_ (.of_eq rfl)
      split
      · exact insertCopy_grows _ _ _ _ _
      · exact .refl walked

theorem append_grows (tables : Tables) (strategy : Int) (mailbox : Nat) (command : AppendCommand) :
    SeqGrows tables (tables.append strategy mailbox command) := by
  unfold append
  split
  · exact .refl tables
  · have stored : SeqGrows tables ({ tables with
        messages := tables.messages.insert command.uid
          ⟨mailbox, .seen, { recent := true }, 0, [], command.size⟩ }.mailboxSeqUpdate strategy
            mailbox command.uid).1 := by
      apply SeqGrows.updated
      rfl
    split
    · exact stored
    · apply stored.trans
      apply SeqGrows.updated
      rfl

theorem storeVisit_mailboxes (conf : StoreConf) (condstore : Bool) (command : StoreCommand) (seq : Nat)
    (storing : Storing) (uid : Nat) :
    (storeVisit conf condstore command seq storing uid).1.tables.mailboxes =
      storing.tables.mailboxes := by
  have written (writable counted : Bool) (info : MessageInfo) :
      (storeTables command seq writable counted info storing.tables uid).mailboxes =
        storing.tables.mailboxes := by
    unfold storeTables
    split
    · rfl
    · split <;> rfl
  unfold storeVisit
  split
  · rfl
  · dsimp only
    split
    · exact written _ _ _
    · split <;> exact written _ _ _

end Grows

end Dbmail.Mailbox
