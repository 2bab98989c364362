import Dbmail.Imap.Confinement

/-!
Contract: the selected state of an IMAP session over a whole connection.

Owns the ways in which a session may leave the selected state, the refusals
after which `imap_session_mailbox_check_acl` leaves it as well, and the
equivalence of the two along every run.

Does not own: what the client is told; whether a right is there.
-/

namespace Dbmail.Imap

open Dbmail.Lib Dbmail.Auth Session Option Bool

variable {mailbox : Nat} {job : Command} {body : Worker Int} {name : Bytes} {after : Session}

/-! ## Code that keeps the selection -/

/-- The loads of mailbox states succeed. -/
structure World.LoadsStates (world : World) : Prop where
  loads : ∀ mailbox, world.loads mailbox = true
  reloads : world.reloads = true

def Effects.opened (effects : Effects) : Option Nat × Bool := (effects.mailbox, effects.loaded)

def Effects.selection (effects : Effects) : List Move × Option Nat × Bool :=
  (effects.moves, effects.opened)

/-- Code that neither moves the session nor opens or closes a mailbox. -/
abbrev Steady {α : Type} (body : Worker α) : Prop := Keeps Effects.selection body

instance : Unspoken Effects.selection := ⟨fun _ _ _ _ _ _ => rfl⟩

@[grind ←] theorem note_steady (deed : Deed) : Steady (note deed) := fun _ => rfl

section Steady

variable (world : World) (session : Session)

@[grind ←] theorem checkRights_steady (mailbox : Nat) (denied : Option Reply)
    (rights : List AclRight) : Steady (checkRights world session mailbox denied rights) := by
  induction rights with
  | nil => exact .pure _
  | cons right rest ih =>
    refine .bind (mailboxCheckAcl_keeps world session mailbox right) fun access => ?_
    refine .ite (.bind ?_ fun _ => .pure _) (.bind (note_steady _) fun _ => ih)
    cases denied with
    | none => exact .pure _
    | some reply => exact say_keeps reply

variable {world} (loads : world.LoadsStates)

include loads

theorem sessionMailboxStatus_steady : Steady (sessionMailboxStatus world) := by
  refine sessionMailboxStatus_keeps world fun effects => ?_
  show (effects.moves, effects.mailbox, effects.loaded && world.reloads) = _
  rw [loads.reloads, Bool.and_true]
  rfl

theorem appendGranted_steady (mailbox : Nat) (words : List Bytes) (date : Option Bytes)
    (message : Bytes) : Steady (appendGranted world session mailbox words date message) := by
  refine .bind (sessionMbxinfoLookup_keeps world mailbox) fun _ => .bind (note_steady _) fun _ => ?_
  refine .bind (checkRights_steady world session _ _ _) fun _ => .ite (.pure _) ?_
  exact appendMessage_keeps world session (note_steady _) (sessionMailboxStatus_steady loads) date message

end Steady

def reselects : Command → Bool
  | .select | .close | .unselect | .append | .delete | .rename | .subscribe => true
  | _ => false

variable {world : World} {session : Session}

theorem Entered.steady (loads : world.LoadsStates)
    (entered : Entered world session job body) (other : reselects job = false) : Steady body := by
  cases entered with
  | select | close | unselect | delete | rename | subscribe => cases other
  | appendUnknown | appendDenied | appendIncomplete | append => cases other
  | fetch =>
    have rest {set : Bytes} : Steady (do
        let result ← getIds world session set
        if result ≠ 0 then return result
        protocolErrors world.fetchProtocolErrors
        if world.fetchItems ≠ 0 then return world.fetchItems
        finish session : Worker Int) := by
      refine .bind (getIds_keeps world session _) fun _ => ?_
      refine .ite (.pure _) (.bind (.forM (fun _ => ?_) _) fun _ => ?_)
      · exact .bind (say_keeps _) fun _ => say_keeps _
      · exact .ite (.pure _) (finish_keeps session)
    refine .ite (answer_keeps _ _) ?_
    cases world.fetchVanished with
    | none => exact rest
    | some since => exact .bind (fun _ => rfl) fun _ => .bind (sayAll_keeps _) fun _ => rest
  | _ =>
    -- the code of the others is made of parts that all keep it
    first
      | unfold statusAnswer
      | unfold copyEnter
      | unfold getquotarootEnter quotaEnter
      | unfold getquotaEnter quotaEnter
      | unfold getaclEnter
      | unfold myrightsEnter
      | skip
    repeat' first
      | with_reducible refine Keeps.ite ?_ ?_
      | with_reducible refine Keeps.bind ?_ fun _ => ?_
      | with_reducible first
        | exact .pure _
        | exact say_keeps _
        | exact answer_keeps _ _
        | exact finish_keeps session
        | exact note_steady _
        | exact sessionMailboxStatus_steady loads
        | exact sessionMbxinfoLookup_keeps world _
      | refine Keeps.ite ?_ ?_
      | refine Keeps.bind ?_ fun _ => ?_
      | split
      | grind

/-! ## Refusals -/

section Refusals

variable (world : World) (session : Session)

/-- `imap_session_mailbox_check_acl` refuses the command a right. -/
def refuses : Command → Bool
  | .append =>
    (session.args[0]?.bind (findOrCreateInbox world session)).any fun mailbox =>
      world.aclHasRight mailbox session.userid .insert = 0
  | .delete =>
    ((session.args[0]?.filter fun name => !smatch name "INBOX").bind fun name =>
      world.findMailbox name session.userid).any fun mailbox =>
        world.aclHasRight mailbox session.userid .delete = 0
  | .subscribe =>
    (session.args[0]?.bind fun name => world.findMailbox name session.userid).any fun mailbox =>
      world.aclHasRight mailbox session.userid .lookup = 0
  | .rename =>
    (session.args[0]?.bind fun oldname => session.args[1]?.bind fun newname =>
      (renameRequest world session oldname newname).toOption).any fun targets =>
        world.aclHasRight targets.1 session.userid .delete = 0 ||
          (0 < world.aclHasRight targets.1 session.userid .delete &&
            targets.2.any fun parent => world.aclHasRight parent session.userid .create = 0)
  | _ => false

end Refusals

theorem Session.getElem_of_arg {index : Nat} {text : Bytes}
    (read : session.arg index = .ok text) : session.args[index]? = some text := by
  unfold arg Session.slot at read
  split at read
  · cases slot : session.args[index]? with
    | none => simp [slot, bind, Except.bind] at read
    | some found =>
      simp only [slot] at read
      cases read
      rfl
  · cases read

def DeletedSelected (session : Session) (status : Int) (effects : Effects) : Prop :=
  status = 0 ∧ ∃ mailbox, session.mailbox = some mailbox ∧
    (.wrote mailbox .deleted ∈ effects.deeds ∨ .wrote mailbox .purged ∈ effects.deeds)

section Reselecting

variable {world : World} {session : Session} {before effects : Effects} {status : Int}

def Refused (before : Effects) (status : Int) (effects : Effects) : Prop :=
  status = 1 ∧ effects.selection = (before.moves ++ [.authenticated], before.opened)

/-- A refusal leaves the selected state; whatever else happens keeps the selection. -/
def Guarded (refuses : Bool) (before : Effects) (status : Int) (effects : Effects) : Prop :=
  (refuses = true ∧ Refused before status effects) ∨
    (refuses = false ∧ effects.selection = before.selection)

theorem Steady.selection (steady : Steady body) (ran : body.run before = (status, effects)) :
    effects.selection = before.selection := by
  rw [← show _ = effects from congrArg Prod.snd ran]
  exact steady before

/-- A check by the session is refused, fails, or lets the rest run. -/
theorem sessionCheck_cases {mailbox : Nat} {right : AclRight} {stop : Int → Worker Int} {rest : Worker Int}
    (ran : (do
        let access ← imapSessionMailboxCheckAcl world session mailbox right
        if access ≠ 0 then stop access else rest).run before = (status, effects))
    (stops : ∀ access, Steady (stop access)) (denied : ∀ before, ((stop 1).run before).1 = 1) :
    (world.aclHasRight mailbox session.userid right = 0 ∧ Refused before status effects) ∨
      (world.aclHasRight mailbox session.userid right < 0 ∧
        effects.selection = before.selection) ∨
      (0 < world.aclHasRight mailbox session.userid right ∧
        rest.run (before.lookedUp world mailbox) = (status, effects)) := by
  rw [StateT.run_bind, imapSessionMailboxCheckAcl_run] at ran
  split at ran
  · have same := (stops (-1)).selection ran
    exact .inr (.inl ⟨by assumption, same⟩)
  split at ran
  · have moved := (stops 1).selection ran
    refine .inl ⟨by assumption, ?_, moved⟩
    rw [← show _ = status from congrArg Prod.fst ran]
    exact denied _
  · exact .inr (.inr ⟨by omega, ran⟩)

theorem subscribeEnter_selection (given : session.arg 0 = .ok name)
    (ran : (subscribeEnter world session name).run before = (status, effects)) :
    Guarded (refuses world session .subscribe) before status effects := by
  simp only [Guarded, refuses, getElem_of_arg given, bind_some]
  unfold subscribeEnter at ran
  cases found : world.findMailbox name session.userid with
  | none =>
    rw [found] at ran
    exact .inr ⟨rfl, Steady.selection (answer_keeps _ _) ran⟩
  | some mailbox =>
    rw [found] at ran
    simp only [any_some, decide_eq_true_eq, decide_eq_false_iff_not]
    rcases sessionCheck_cases ran (fun _ => .pure 1) (fun _ => rfl) with
      refused | ⟨failed, same⟩ | ⟨granted, rest⟩
    · exact .inl refused
    · exact .inr ⟨by omega, same⟩
    · have steady : Steady (do
          note (.passed mailbox .lookup)
          note (.wrote mailbox .subscription)
          if world.subscribe mailbox session.userid (session.commandType = some .subscribe) =
              dmEQuery then
            answer byeDatabase dmEQuery
          else finish session : Worker Int) := by
        refine .bind (note_steady _) fun _ => .bind (note_steady _) fun _ => ?_
        exact .ite (answer_keeps _ _) (finish_keeps session)
      exact .inr ⟨by omega, (steady.selection rest :)⟩

theorem append_selection (loads : world.LoadsStates) (entered : Entered world session .append body)
    (ran : body.run before = (status, effects)) :
    Guarded (refuses world session .append) before status effects := by
  simp only [Guarded, refuses]
  cases entered with
  | appendUnknown given unknown =>
    simp only [getElem_of_arg given, bind_some, unknown]
    exact .inr ⟨rfl, Steady.selection (answer_keeps _ _) ran⟩
  | appendDenied given found denied =>
    simp only [getElem_of_arg given, bind_some, found, any_some,
      decide_eq_true_eq, decide_eq_false_iff_not]
    rw [imapSessionMailboxCheckAcl_run] at ran
    split at ran
    · cases ran
      exact .inr ⟨by omega, rfl⟩
    · rw [if_pos (by omega)] at ran
      cases ran
      exact .inl ⟨by omega, rfl, rfl⟩
  | appendIncomplete given found granted request =>
    simp only [getElem_of_arg given, bind_some, found, any_some, decide_eq_false_iff_not]
    refine .inr ⟨by omega, Steady.selection ?_ ran⟩
    refine .bind (sessionMbxinfoLookup_keeps world _) fun _ => ?_
    exact .bind (note_steady _) fun _ => answer_keeps _ _
  | append given found granted request =>
    simp only [getElem_of_arg given, bind_some, found, any_some, decide_eq_false_iff_not]
    exact .inr ⟨by omega, Steady.selection (appendGranted_steady session loads _ _ _ _) ran⟩
  | unpushed other => cases other

theorem renameMove_steady (mailbox : Nat) (oldname newname : Bytes) :
    Steady (renameMove world session mailbox oldname newname) := by
  refine .ite ?_ ?_
  · have ending {condition : Prop} [Decidable condition] :
        Steady (if condition then answer byeDatabase (-1) else finish session) :=
      .ite (answer_keeps _ _) (finish_keeps session)
    exact .ite (.bind (note_steady _) fun _ => .bind (note_steady _) fun _ => ending) ending
  · split
    · exact answer_keeps _ _
    · have noted (child : Nat) : Steady (do
          sessionMbxinfoLookup world child
          note (.wrote child .renamed)) :=
        .bind (sessionMbxinfoLookup_keeps world child) fun _ => note_steady _
      exact .bind (.forM noted _) fun _ => .ite (finish_keeps session) (answer_keeps _ _)

theorem renameEnter_selection {oldname newname : Bytes} (old : session.arg 0 = .ok oldname)
    (new : session.arg 1 = .ok newname)
    (ran : (renameEnter world session oldname newname).run before = (status, effects)) :
    Guarded (refuses world session .rename) before status effects := by
  simp only [Guarded, refuses, getElem_of_arg old, getElem_of_arg new, bind_some]
  rw [renameEnter_eq] at ran
  cases request : renameRequest world session oldname newname with
  | error text =>
    rw [request] at ran
    exact .inr ⟨rfl, Steady.selection (answer_keeps _ _) ran⟩
  | ok targets =>
    obtain ⟨mailbox, parent⟩ := targets
    rw [request] at ran
    simp only [Except.toOption, any_some, or_eq_true, and_eq_true,
      decide_eq_true_eq, or_eq_false_iff, and_eq_false_imp, decide_eq_false_iff_not]
    rcases sessionCheck_cases ran (fun _ => .pure _) (fun _ => rfl) with
      ⟨denied, refused⟩ | ⟨failed, same⟩ | ⟨granted, rest⟩
    · exact .inl ⟨.inl denied, refused⟩
    · exact .inr ⟨⟨by omega, fun granted => by omega⟩, same⟩
    cases parent with
    | none =>
      have kept := Steady.selection (renameMove_steady mailbox oldname newname) rest
      exact .inr ⟨⟨by omega, fun _ => rfl⟩, kept⟩
    | some parent =>
      simp only [any_some, decide_eq_true_eq, decide_eq_false_iff_not]
      rcases sessionCheck_cases rest (fun _ => .pure _) (fun _ => rfl) with
        ⟨denied, refused⟩ | ⟨failed, same⟩ | ⟨below, rest⟩
      · exact .inl ⟨.inr ⟨granted, denied⟩, refused⟩
      · exact .inr ⟨⟨by omega, fun _ => by omega⟩, same⟩
      · rw [note_bind_run] at rest
        have kept := Steady.selection (renameMove_steady mailbox oldname newname) rest
        exact .inr ⟨⟨by omega, fun _ => by omega⟩, kept⟩

theorem deleted_selection (ran : (deleted session mailbox).run before = (status, effects))
    (done : .wrote mailbox .deleted ∈ before.deeds ∨ .wrote mailbox .purged ∈ before.deeds) :
    effects.selection = before.selection ∨
      (effects.selection = (before.moves ++ [.authenticated], before.opened) ∧
        DeletedSelected session status effects) := by
  unfold deleted at ran
  split at ran
  · rename_i selected
    have moved : effects.selection = _ := Steady.selection (finish_keeps session) ran
    refine .inr ⟨moved, ?_, mailbox, selected, ?_⟩
    · rw [← show _ = status from congrArg Prod.fst ran]
      rfl
    · have kept : effects.deeds = before.deeds := by
        rw [← show _ = effects from congrArg Prod.snd ran]
        change ((sessionOkWith session []).run _).2.deeds = _
        unfold sessionOkWith
        split <;> rfl
      rwa [kept]
  · exact .inl (Steady.selection (finish_keeps session) ran)

theorem deleteEnter_selection (given : session.arg 0 = .ok name)
    (ran : (deleteEnter world session name).run before = (status, effects)) :
    (refuses world session .delete = true ∧ Refused before status effects) ∨
      (refuses world session .delete = false ∧
        (effects.selection = before.selection ∨
          (effects.selection = (before.moves ++ [.authenticated], before.opened) ∧
            DeletedSelected session status effects))) := by
  simp only [refuses, getElem_of_arg given]
  unfold deleteEnter at ran
  by_cases inbox : smatch name "INBOX" = true
  · rw [if_pos inbox] at ran
    exact .inr ⟨by simp [Option.filter, inbox], .inl (Steady.selection (answer_keeps _ _) ran)⟩
  rw [if_neg inbox] at ran
  cases found : world.findMailbox name session.userid with
  | none =>
    rw [found] at ran
    exact .inr ⟨by simp [Option.filter, inbox, found], .inl (Steady.selection (answer_keeps _ _) ran)⟩
  | some mailbox =>
    rw [found] at ran
    have check : (((some name).filter fun name => !smatch name "INBOX").bind fun name =>
        world.findMailbox name session.userid) = some mailbox := by
      simp [Option.filter, inbox, found]
    rw [check]
    simp only [any_some, decide_eq_true_eq, decide_eq_false_iff_not]
    rcases sessionCheck_cases ran (fun _ => .pure _) (fun _ => rfl) with
      refused | ⟨failed, same⟩ | ⟨granted, rest⟩
    · exact .inl refused
    · exact .inr ⟨by omega, .inl same⟩
    refine .inr ⟨by omega, ?_⟩
    rw [note_bind_run] at rest
    split at rest
    · exact .inl (Steady.selection (answer_keeps _ _) rest :)
    · rw [note_bind_run] at rest
      split at rest
      · exact (deleted_selection rest (.inl List.mem_concat_self) :)
      · exact .inl (Steady.selection (answer_keeps _ _) rest :)
    · simp only at rest
      split at rest
      · exact .inl (Steady.selection (answer_keeps _ _) rest :)
      split at rest
      · exact .inl (Steady.selection (answer_keeps _ _) rest :)
      split at rest
      · rw [note_bind_run] at rest
        split at rest
        · exact (deleted_selection rest (.inr List.mem_concat_self) :)
        · exact .inl (Steady.selection (.pure _) rest :)
      · exact .inl (Steady.selection (.pure _) rest :)

/-! ## Leaving on purpose -/

def Left (effects : Effects) : Prop := ∃ moves, effects.moves = moves ++ [.authenticated]

def Opened (effects : Effects) : Prop :=
  (∃ moves, effects.moves = moves ++ [.selected]) ∧ ∃ mailbox, effects.opened = (some mailbox, true)

theorem Left.of_selection {first second : Effects} (left : Left first)
    (same : second.selection = first.selection) : Left second := by
  obtain ⟨moves, last⟩ := left
  exact ⟨moves, (congrArg Prod.fst same).trans last⟩

theorem Opened.of_selection {first second : Effects} (opened : Opened first)
    (same : second.selection = first.selection) : Opened second := by
  obtain ⟨⟨moves, last⟩, mailbox, isOpen⟩ := opened
  exact ⟨⟨moves, (congrArg Prod.fst same).trans last⟩, mailbox,
    (congrArg Prod.snd same).trans isOpen⟩

theorem imapSessionMailboxOpen_cases {opened : Except Int Nat} (loads : world.LoadsStates)
    (left : Left before)
    (ran : (imapSessionMailboxOpen world session name).run before = (opened, effects)) :
    ((∃ code, opened = .error code) ∧ Left effects) ∨
      ((∃ mailbox, opened = .ok mailbox) ∧ ∃ mailbox, effects.opened = (some mailbox, true)) := by
  rw [imapSessionMailboxOpen_run] at ran
  split at ran
  · cases ran
    exact .inl ⟨⟨_, rfl⟩, left⟩
  split at ran
  · cases ran
    exact .inl ⟨⟨_, rfl⟩, before.moves, rfl⟩
  · cases ran
    rename_i mailbox found access
    cases world.noSelect mailbox with
    | true => exact .inl ⟨⟨_, rfl⟩, left⟩
    | false => exact .inr ⟨⟨_, rfl⟩, mailbox, congrArg (Prod.mk _) (loads.loads mailbox)⟩

theorem selectAnswer_opened (openMailbox : ∃ mailbox, before.opened = (some mailbox, true))
    (ran : (selectAnswer world session mailbox).run before = (status, effects)) :
    Opened effects := by
  unfold selectAnswer at ran
  rw [StateT.run_bind] at ran
  have opened : Opened { before with moves := before.moves ++ [.selected] } :=
    ⟨⟨_, rfl⟩, openMailbox⟩
  refine opened.of_selection (Steady.selection ?_ ran)
  refine .bind (sayAll_keeps _) fun _ => .ite (.bind (note_steady _) fun _ => ?_) ?_
  all_goals
    refine .bind .get fun _ => .ite (.bind (sayAll_keeps _) fun _ => ?_) ?_
    all_goals exact .bind .get fun _ => answer_keeps _ _

theorem selectEnter_leaves (loads : world.LoadsStates)
    (ran : (selectEnter world session name).run before = (status, effects)) :
    effects.selection = before.selection ∨ Left effects ∨ Opened effects := by
  rw [selectEnter_run] at ran
  split at ran
  · exact .inl (Steady.selection (answer_keeps _ _) ran)
  · rename_i condstore given parsed
    refine .inr ?_
    simp only at ran
    have left : Left ((imapSessionMailboxClose session).run { before with
        condstore := condstore || before.condstore, resync := given.getD before.resync }).2 := by
      rw [imapSessionMailboxClose_run]
      exact ⟨before.moves, rfl⟩
    split at ran
    · rename_i opening
      cases ran
      rcases imapSessionMailboxOpen_cases loads left opening with ⟨-, left⟩ | ⟨⟨_, impossible⟩, -⟩
      · exact .inl left
      · cases impossible
    · rename_i opening
      rcases imapSessionMailboxOpen_cases loads left opening with ⟨⟨_, impossible⟩, -⟩ | ⟨-, opened⟩
      · cases impossible
      · exact .inr (selectAnswer_opened opened ran)

theorem closeEnter_leaves (ran : (closeEnter world session).run before = (status, effects)) :
    effects.selection = before.selection ∨ Left effects ∨ Opened effects := by
  have ending {modseq : Nat} {start : Effects} (rest : ((do
      moveTo .authenticated
      expunged session modseq : Worker Int).run start) = (status, effects)) : Left effects := by
    have same := Steady.selection (expunged_keeps session modseq) rest
    exact Left.of_selection ⟨start.moves, rfl⟩ same
  unfold closeEnter at ran
  by_cases failed : world.aclHasRight session.current session.userid .expunge < 0
  · rw [if_pos failed] at ran
    exact .inl (Steady.selection (answer_keeps _ _) ran)
  rw [if_neg failed] at ran
  refine .inr (.inl ?_)
  split_ifs at ran <;> exact ending ran

theorem unselectEnter_leaves
    (ran : (unselectEnter session).run before = (status, effects)) : Left effects := by
  unfold unselectEnter at ran
  rw [StateT.run_bind, imapSessionMailboxClose_run] at ran
  have same := Steady.selection (finish_keeps session) ran
  exact Left.of_selection ⟨before.moves, rfl⟩ same

def leaves : Command → Bool
  | .select | .close | .unselect => true
  | _ => false

inductive Reselected (world : World) (session : Session) (job : Command) (status : Int)
    (effects : Effects) : Prop where
  | refused (refuses : refuses world session job = true) (status : status = 1)
      (selection : effects.selection = ([.authenticated], session.selection))
  | kept (granted : refuses world session job = false)
      (selection : effects.selection = ([], session.selection))
  | left (granted : refuses world session job = false) (purpose : leaves job = true)
      (moved : Left effects ∨ Opened effects)
  | deleted (granted : refuses world session job = false) (job : job = .delete)
      (selection : effects.selection = ([.authenticated], session.selection))
      (deleted : DeletedSelected session status effects)

theorem Guarded.reselected {start : Effects}
    (guarded : Guarded (refuses world session job) start status effects)
    (started : start.selection = ([], session.selection)) :
    Reselected world session job status effects := by
  rcases guarded with ⟨refuses, status, moved⟩ | ⟨granted, same⟩
  · obtain ⟨moves, opened⟩ := Prod.mk.inj started
    rw [moves, opened] at moved
    exact .refused refuses status moved
  · exact .kept granted (same.trans started)

theorem enter_reselected (loads : world.LoadsStates)
    (returned : enter world session job = .ok (status, effects)) :
    Reselected world session job status effects := by
  obtain ⟨body, entered, performed⟩ := enter_entered returned
  have ran := Except.ok.inj performed
  have steady := entered.steady loads
  have appended (isAppend : job = .append) : Reselected world session job status effects := by
    subst isAppend
    exact (append_selection loads entered ran).reselected rfl
  cases entered with
  | appendUnknown | appendDenied | appendIncomplete | append => exact appended rfl
  | delete given =>
    rcases deleteEnter_selection given ran with ⟨refuses, status, moved⟩ | ⟨granted, rest⟩
    · exact .refused refuses status moved
    rcases rest with same | ⟨moved, deleted⟩
    · exact .kept granted same
    · exact .deleted granted rfl moved deleted
  | rename old new => exact (renameEnter_selection old new ran).reselected rfl
  | subscribe given => exact (subscribeEnter_selection given ran).reselected rfl
  | select given =>
    rcases selectEnter_leaves loads ran with same | moved
    · exact .kept rfl same
    · exact .left rfl rfl moved
  | close =>
    rcases closeEnter_leaves ran with same | moved
    · exact .kept rfl same
    · exact .left rfl rfl moved
  | unselect => exact .left rfl rfl (.inl (unselectEnter_leaves ran))
  | unpushed other =>
    cases job <;> first | exact .kept rfl ((steady rfl).selection ran) | cases other
  | _ => exact .kept rfl ((steady rfl).selection ran)

end Reselecting

/-! ## Steps -/

/-- The event runs a command that is there to leave the selected mailbox, or
deletes that mailbox. -/
def LeavesOnPurpose (session : Session) : Event → Prop
  | .complete _ world _ =>
    ∃ job, session.job = some job ∧ (leaves job = true ∨ (job = .delete ∧
      ∃ status effects, enter world session .delete = .ok (status, effects) ∧
        DeletedSelected session status effects))
  | _ => False

/-- A selected session has a mailbox object with a loaded state. -/
def Session.Opened (session : Session) : Prop :=
  session.state = .selected → ∃ mailbox, session.selection = (some mailbox, true)

structure SelectionKept (before : Session) (event : Event) (after : Session) : Prop where
  opened : after.Opened
  stays : before.state = .selected → LeavesOnPurpose before event ∨ after.state.closing = true ∨
      (after.state = .selected ∧ after.mailbox = before.mailbox)

/-- No check of `imap_session_mailbox_check_acl` is refused in the selected state,
unless the connection ends with this command. -/
def Unrefused (session : Session) : Event → Prop
  | .complete _ world clientError =>
    ∀ job ∈ session.job, session.state = .selected → clientError = false →
      session.eof = false → refuses world session job = false
  | _ => True

instance (session : Session) (event : Event) : Decidable (Unrefused session event) := by
  cases event <;> unfold Unrefused <;> infer_instance

/-- The loads that the event makes succeed. -/
def Event.LoadsStates : Event → Prop
  | .input env _ => env.world.LoadsStates
  | .complete _ world _ | .timeout world => world.LoadsStates
  | _ => True

structure Tied (connection : Connection) : Prop where
  observed : Observed connection
  opened : connection.session.Opened

structure Stays (before after : Session) : Prop where
  selection : after.selection = before.selection
  state : after.state = before.state ∨ after.state.closing = true

theorem Stays.trans {first second third : Session} (left : Stays first second)
    (right : Stays second third) : Stays first third where
  selection := right.selection.trans left.selection
  state := by
    rcases right.state with same | closing
    · rw [same]
      exact left.state
    · exact .inr closing

theorem Calm.stays {before : Session} (calm : Calm before after) : Stays before after :=
  ⟨calm.selection, calm.state⟩

theorem Handled.stays {world : World} {before : Session} (loads : world.LoadsStates)
    (handled : Handled world before after) : Stays before after := by
  cases handled with
  | calm calm => exact calm.stays
  | pushed calm allowed attempt =>
    refine calm.stays.trans ?_
    unfold push
    split <;> exact ⟨rfl, .inl rfl⟩
  | encrypted _ _ selection state => exact ⟨selection, .inl state⟩
  | idle _ _ _ selection state => exact ⟨selection loads.reloads, .inl state⟩

theorem InputResult.stays {world : World} {before : Session} {trace : List TraceEvent}
    (loads : world.LoadsStates) (result : InputResult world before after trace) :
    Stays before after := by
  rcases result with ⟨calm, -⟩ | ⟨called, left, calm, rest, -, body⟩
  · exact calm.stays
  rcases body with calmBody | ⟨middle, calmBody, handled⟩
  · exact calm.stays.trans (calmBody.stays.trans rest.stays)
  · exact calm.stays.trans (calmBody.stays.trans ((handled.stays loads).trans rest.stays))

theorem Session.leave_stays (session : Session) (status : Int) (clientError : Bool) :
    Stays session (session.leave status clientError) := by
  unfold leave
  split
  · exact ⟨Calm.abort.selection, Calm.abort.state⟩
  · exact ⟨Calm.exit.selection, Calm.exit.state⟩

theorem Stays.opened {before : Session} (stays : Stays before after)
    (opened : before.Opened) : after.Opened := by
  intro selected
  rw [stays.selection]
  rcases stays.state with same | closing
  · exact opened (same ▸ selected)
  · rw [selected] at closing
    cases closing

theorem Stays.selectionKept {before : Session} (stays : Stays before after) (event : Event)
    (opened : before.Opened) : SelectionKept before event after where
  opened := stays.opened opened
  stays := by
    intro selected
    rcases stays.state with same | closing
    · exact .inr (.inr ⟨same.trans selected, congrArg Prod.fst stays.selection⟩)
    · exact .inr (.inl closing)

/-- A pending attempt to log in is not made in the selected state. -/
theorem Observed.job_ne_authenticate {connection : Connection} (observed : Observed connection)
    (selected : connection.session.state = .selected) :
    connection.session.job ≠ some .authenticate := by
  obtain ⟨account, -, agrees⟩ := observed
  cases account with
  | none =>
    have loggedOut := (agrees.anonymous rfl).1
    rw [selected] at loggedOut
    cases loggedOut
  | some userid => exact (agrees.known userid rfl).2.2

/-- What a worker leaves behind, from what it does to the selection. -/
theorem Reselected.opened {world : World} {session : Session} {status : Int} {effects : Effects}
    (reselected : Reselected world session job status effects)
    (opened : session.Opened) : (session.applyEffects effects).Opened := by
  -- a session that ends authenticated, or is already closed, is not selected
  have unselected (moves : List Move) (last : effects.moves = moves ++ [.authenticated]) :
      (session.applyEffects effects).state ≠ .selected := by
    intro selected
    change (session.applyMoves effects.moves).state = .selected at selected
    rw [last, applyMoves, List.foldl_append] at selected
    rcases setState_state _ _ with state | state <;> cases state.symm.trans selected
  intro selected
  cases reselected with
  | refused _ _ selection | deleted _ _ selection =>
    exact absurd selected (unselected [] (congrArg Prod.fst selection))
  | kept _ selection =>
    have moves : effects.moves = [] := congrArg Prod.fst selection
    have kept : effects.opened = session.selection := congrArg Prod.snd selection
    change (session.applyMoves effects.moves).state = .selected at selected
    rw [moves] at selected
    change ∃ mailbox, effects.opened = (some mailbox, true)
    rw [kept]
    exact opened selected
  | left _ _ moved =>
    rcases moved with ⟨moves, last⟩ | ⟨-, mailbox⟩
    · exact absurd selected (unselected moves last)
    · exact mailbox

theorem refuses_of_leaves (leaving : leaves job = true) : refuses world session job = false := by
  cases job <;> first | rfl | cases leaving

/-- A worker keeps the selection exactly when it is not refused. -/
theorem Reselected.selectionKept_iff {env : AuthEnv} {world : World} {clientError : Bool}
    {session : Session} {status : Int} {effects : Effects}
    (reselected : Reselected world session job status effects)
    (returned : enter world session job = .ok (status, effects))
    (opened : session.Opened) (pushed : session.job = some job) :
    SelectionKept session (.complete env world clientError)
        ((session.applyEffects effects).leave status clientError) ↔
      Unrefused session (.complete env world clientError) := by
  have kept := (session.applyEffects effects).leave_stays status clientError
  constructor
  · -- a refusal in a connection that goes on ends in the authenticated state
    intro selectionKept other sameJob selected noError noEof
    obtain rfl := Option.some.inj (sameJob.symm.trans pushed)
    cases reselected with
    | kept granted | left granted | deleted granted => exact granted
    | refused isRefused isOne selection =>
      exfalso
      have moves : effects.moves = [.authenticated] := congrArg Prod.fst selection
      have after : ((session.applyEffects effects).leave status clientError).state =
          .authenticated := by
        simp [isOne, noError, leave, exit, retry, reset,
          applyEffects, send, applyMoves, moves, setState,
          selected, noEof, Move.target]
      rcases selectionKept.stays selected with purpose | closing | ⟨same, -⟩
      · obtain ⟨other, sameJob, purpose⟩ := purpose
        obtain rfl := Option.some.inj (sameJob.symm.trans pushed)
        rcases purpose with leaving | ⟨rfl, code, made, again, deleted, -⟩
        · rw [refuses_of_leaves leaving] at isRefused
          cases isRefused
        · have sameStatus := congrArg Prod.fst (Except.ok.inj (again.symm.trans returned))
          omega
      · rw [after] at closing
        cases closing
      · rw [after] at same
        cases same
  · intro unrefused
    refine ⟨kept.opened (reselected.opened opened), fun selected => ?_⟩
    cases reselected with
    | left _ purpose _ => exact .inl ⟨job, pushed, .inl purpose⟩
    | deleted _ isDelete _ deleted =>
      subst isDelete
      exact .inl ⟨.delete, pushed, .inr ⟨rfl, status, effects, returned, deleted⟩⟩
    | kept _ selection =>
      have moves : effects.moves = [] := congrArg Prod.fst selection
      have unmoved : Stays session (session.applyEffects effects) :=
        ⟨congrArg Prod.snd selection, .inl (by
          change (session.applyMoves effects.moves).state = _
          rw [moves]
          rfl)⟩
      exact ((unmoved.trans kept).selectionKept (.complete env world clientError) opened).stays
        selected
    | refused isRefused isOne selection =>
      -- then the connection ends with this command
      have moves : effects.moves = [.authenticated] := congrArg Prod.fst selection
      refine .inr (.inl ?_)
      cases clientError with
      | true =>
        simp [leave, abort, bailout, reset, applyEffects, send, applyMoves, moves, setState,
          selected, Move.target, ClientState.closing]
      | false =>
        cases eof : session.eof with
        | false =>
          rw [unrefused job pushed selected rfl eof] at isRefused
          cases isRefused
        | true =>
          simp [isOne, leave, exit, retry, bailout, applyEffects, send, applyMoves, moves, setState,
            selected, eof, Move.target, ClientState.closing]

theorem enter_of_refuses (refused : refuses world session job = true) :
    ∃ result, enter world session job = .ok result := by
  have read {index : Nat} {text : Bytes} (inArray : index < maxArgs)
      (slot : session.args[index]? = some text) : session.arg index = .ok text := by
    simp [arg, inArray, slot, bind, Except.bind, pure, Except.pure]
  cases job with
  | append =>
    simp only [refuses, any_eq_true, bind_eq_some_iff, decide_eq_true_eq] at refused
    obtain ⟨mailbox, ⟨name, given, found⟩, denied⟩ := refused
    refine ⟨(imapSessionMailboxCheckAcl world session mailbox .insert).run session.effects,
      bind_eq_ok_iff.mpr ⟨name, read (by decide) given, ?_⟩⟩
    simp only [found]
    refine bind_eq_ok_iff.mpr ⟨_, rfl, ?_⟩
    simp only [imapSessionMailboxCheckAcl_run, denied]
    rfl
  | delete =>
    simp only [refuses, any_eq_true, bind_eq_some_iff, filter_eq_some_iff]
      at refused
    obtain ⟨mailbox, ⟨name, ⟨given, -⟩, -⟩, -⟩ := refused
    exact ⟨_, bind_eq_ok_iff.mpr ⟨name, read (by decide) given, rfl⟩⟩
  | subscribe =>
    simp only [refuses, any_eq_true, bind_eq_some_iff] at refused
    obtain ⟨mailbox, ⟨name, given, -⟩, -⟩ := refused
    exact ⟨_, bind_eq_ok_iff.mpr ⟨name, read (by decide) given, rfl⟩⟩
  | rename =>
    simp only [refuses, any_eq_true, bind_eq_some_iff] at refused
    obtain ⟨targets, ⟨oldname, old, newname, new, -⟩, -⟩ := refused
    exact ⟨_, bind_eq_ok_iff.mpr ⟨oldname, read (by decide) old,
      bind_eq_ok_iff.mpr ⟨newname, read (by decide) new, rfl⟩⟩⟩
  | _ => cases refused

/-! ## Runs -/

theorem tied_start (conf : ServerConf) (sslState : Bool) : Tied (start conf sslState) where
  observed := observed_start conf sslState
  opened := by
    unfold start handleConnection
    split <;> nofun

/-- Every event keeps a session tied, and keeps the selection exactly when no
check is refused. -/
theorem tied_step {conf : ServerConf} (connection : Connection) (event : Event)
    (after : Connection) (tied : Tied connection) (loads : event.LoadsStates)
    (stepped : step conf connection event = .ok after) :
    Tied after ∧ (SelectionKept connection.session event after.session ↔
      Unrefused connection.session event) := by
  have observed := observed_step connection event after tied.observed stepped
  -- everything but the return of a worker keeps mailbox and state, or closes
  have quiet (stays : Stays connection.session after.session)
      (unrefused : Unrefused connection.session event) :
      Tied after ∧ (SelectionKept connection.session event after.session ↔
        Unrefused connection.session event) :=
    ⟨⟨observed, stays.opened tied.opened⟩,
      fun _ => unrefused, fun _ => stays.selectionKept event tied.opened⟩
  cases event with
  | input env inputs =>
    obtain ⟨⟨session, trace⟩, handled, returned⟩ := bind_eq_ok_iff.mp stepped
    cases returned
    exact quiet ((handleInput_result handled).stays loads) trivial
  | timeout world =>
    cases stepped
    obtain ⟨loaded, calm, kept⟩ := Calm.timeout connection.session world
    have stays : Stays connection.session { connection.session with loaded := loaded } :=
      ⟨congrArg (Prod.mk _) (kept loads.reloads), .inl rfl⟩
    exact quiet (stays.trans calm.stays) trivial
  | clientError =>
    cases stepped
    exact quiet Calm.bailout.stays trivial
  | clientEof =>
    cases stepped
    exact quiet ⟨rfl, .inl rfl⟩ trivial
  | writeError =>
    cases stepped
    exact quiet Calm.abort.stays trivial
  | complete env world clientError =>
    simp only [step, stepWith] at stepped
    cases pushed : connection.session.job with
    | none =>
      rw [pushed] at stepped
      cases stepped
      refine quiet ⟨rfl, .inl rfl⟩ ?_
      intro job impossible
      rw [pushed] at impossible
      cases impossible
    | some job =>
      rw [pushed] at stepped
      simp only [completeJob] at stepped
      split at stepped
      · rename_i attempt
        subst attempt
        obtain ⟨⟨session, status, attempt⟩, made, returned⟩ := bind_eq_ok_iff.mp stepped
        cases returned
        have unselected : connection.session.state ≠ .selected :=
          fun selected => tied.observed.job_ne_authenticate selected pushed
        have stays := session.leave_stays status clientError
        have opened : (session.leave status clientError).Opened := by
          refine stays.opened fun selected => absurd selected ?_
          rcases (authenticateEnter_cases made).2 with ⟨-, -, state⟩ | ⟨-, state⟩
          · rcases state with state | state <;> simp [state]
          · rw [state]
            exact unselected
        refine ⟨⟨observed, opened⟩, fun _ => ?_, fun _ => ⟨opened, fun selected => ?_⟩⟩
        · exact fun job _ selected => absurd selected unselected
        · exact absurd selected unselected
      · obtain ⟨⟨status, effects⟩, entered, returned⟩ := bind_eq_ok_iff.mp stepped
        cases returned
        have reselected := enter_reselected loads entered
        refine ⟨⟨observed, ?_⟩, reselected.selectionKept_iff entered tied.opened pushed⟩
        exact (leave_stays _ _ _).opened (reselected.opened tied.opened)

/-- A run of a connection keeps to the rules of the selected state, in every step
of it, exactly when no step of it is refused a right by the session's check. -/
theorem selection_kept_iff (conf : ServerConf) (sslState : Bool) (events : List Event)
    (loads : ∀ event ∈ events, event.LoadsStates) :
    StepsMeet (step conf)
        (fun connection event => ∀ after, step conf connection event = .ok after →
          SelectionKept connection.session event after.session)
        (start conf sslState) events ↔
      StepsMeet (step conf) (fun connection event => Unrefused connection.session event)
        (start conf sslState) events := by
  refine stepsMeet_congr Tied (fun connection event after tied loads stepped =>
    (tied_step connection event after tied loads stepped).1) ?_ (tied_start conf sslState)
    (stepsMeet_of_forall loads _)
  intro connection event tied loads
  cases stepped : step conf connection event with
  | ok after =>
    have same := (tied_step connection event after tied loads stepped).2
    exact ⟨fun kept => same.mp (kept after rfl), fun unrefused _ returned =>
      Except.ok.inj returned ▸ same.mpr unrefused⟩
  | error fault =>
    refine ⟨fun _ => ?_, fun _ after returned => absurd returned (by simp)⟩
    cases event with
    | complete env world clientError =>
      intro job pushed selected _ _
      by_contra refused
      obtain ⟨result, returned⟩ := enter_of_refuses (eq_true_of_not_eq_false refused)
      have notAttempt : job ≠ .authenticate := by
        rintro rfl
        exact refused rfl
      simp [step, stepWith, Option.mem_def.mp pushed, completeJob, notAttempt, returned, bind,
        Except.bind, pure, Except.pure] at stepped
    | _ => trivial

theorem login_keeps_selection :
    StepsMeet (step plainConf)
      (fun connection event => ∀ after, step plainConf connection event = .ok after →
        SelectionKept connection.session event after.session)
      (start plainConf false) loginRun := by
  refine (selection_kept_iff plainConf false loginRun ?_).mpr (by decide +kernel)
  simp only [loginRun, List.forall_mem_cons, Event.LoadsStates, plainInput]
  exact ⟨⟨fun _ => rfl, rfl⟩, ⟨fun _ => rfl, rfl⟩, ⟨fun _ => rfl, rfl⟩, ⟨fun _ => rfl, rfl⟩,
    fun _ member => absurd member List.not_mem_nil⟩

-- a load that fails leaves a freed state selected
example : (run (step plainConf) (start plainConf false) (loginRun.dropLast ++
    [.complete activeEnv { openWorld with loads := fun _ => false } false])).map
      (fun connection => (connection.session.state, connection.session.selection)) =
    .ok (.selected, some 1, false) := by
  decide +kernel

def insertDenied : World :=
  { openWorld with
    findMailbox := fun name _ => if smatch name "INBOX" then some 1 else some 2
    aclHasRight := fun _ _ right => if right = .insert then 0 else 1 }

/-- A login, a mailbox selected after it, and an APPEND to another mailbox that
is refused. -/
def refusedAppendRun : List Event :=
  loginRun ++ [.input plainInput [lit "c APPEND other text\r\n"],
    .complete activeEnv insertDenied false]

theorem refused_append_unselects :
    (run (step plainConf) (start plainConf false) loginRun).map
        (fun connection => (connection.session.state, connection.session.mailbox)) =
      .ok (.selected, some 1) ∧
    (run (step plainConf) (start plainConf false) refusedAppendRun).map
        (fun connection => (connection.session.state, connection.session.mailbox)) =
      .ok (.authenticated, some 1) := by
  decide +kernel

end Dbmail.Imap
