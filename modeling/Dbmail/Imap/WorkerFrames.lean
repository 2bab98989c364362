import Dbmail.Imap.WorkerCases
import Dbmail.Lib.StateCode

/-!
Contract: what the common parts of the workers leave alone.

Owns the views of a worker's effects that show neither what is said to the client,
what is switched on nor what a load marks, and the code that keeps every such view.

Does not own: any particular view.
-/

namespace Dbmail.Imap

open Dbmail.Lib Dbmail.Auth

/-- A view that shows neither the replies, the switches nor the marks of loads. -/
class Unspoken {γ : Type} (view : Effects → γ) : Prop where
  same : ∀ effects replies condstore qresync resync synced, view { effects with
    replies := replies, condstore := condstore, qresync := qresync, resync := resync
    synced := synced } = view effects

section Unspoken

variable {γ : Type} {view : Effects → γ} [Unspoken view] (world : World) (session : Session)

@[grind ←] theorem say_keeps (reply : Reply) : Keeps view (say reply) :=
  fun _ => Unspoken.same _ _ _ _ _ _

@[grind ←] theorem sayAll_keeps (lines : List Bytes) : Keeps view (sayAll lines) :=
  fun _ => Unspoken.same _ _ _ _ _ _

@[grind ←] theorem sessionMbxinfoLookup_keeps (mailbox : Nat) : Keeps view (sessionMbxinfoLookup world mailbox) :=
  fun _ => Unspoken.same _ _ _ _ _ _

theorem sessionMailboxStatus_keeps (kept : ∀ effects : Effects,
    view { effects with loaded := effects.loaded && world.reloads } = view effects) :
    Keeps view (sessionMailboxStatus world) :=
  .bind (sayAll_keeps _) fun _ => kept

@[grind ←] theorem answer_keeps (reply : Reply) (status : Int) : Keeps view (answer reply status) :=
  fun _ => Unspoken.same _ _ _ _ _ _

@[grind ←] theorem sessionOkWith_keeps (code : Bytes) : Keeps view (sessionOkWith session code) := by
  grind [sessionOkWith]

@[grind ←] theorem finish_keeps : Keeps view (finish session) := by
  grind [finish, sessionOk]

theorem completed_keeps (code : Bytes) (status : Int) : Keeps view (do
    sessionOkWith session code
    return status : Worker Int) :=
  .bind (sessionOkWith_keeps session code) fun _ => .pure _

@[grind ←] theorem mailboxCheckAcl_keeps (mailbox : Nat) (right : AclRight) :
    Keeps view (mailboxCheckAcl world session mailbox right) := by
  grind [mailboxCheckAcl]

@[grind ←] theorem getIds_keeps (set : Bytes) : Keeps view (getIds world session set) := by
  grind [getIds]

@[grind ←] theorem expunged_keeps (modseq : Nat) : Keeps view (expunged session modseq) :=
  .bind .get fun _ => .ite (completed_keeps session _ _) (completed_keeps session _ _)

@[grind ←] theorem enableWord_keeps (word : Bytes) : Keeps view (enableWord session word) := by
  have same := @Unspoken.same γ view _
  intro effects
  simp only [enableWord, StateT.run_bind, StateT.run_get, pure_bind]
  split_ifs
  all_goals first
    | rfl
    | exact same effects _ _ _ _ _

@[grind ←] theorem statusItems_keeps (mailbox : Nat) (items words : List Bytes) :
    Keeps view (statusItems world session mailbox items words) := by
  have enabled : Keeps view (modify fun effects : Effects => { effects with condstore := true }) :=
    fun _ => Unspoken.same _ _ _ _ _ _
  induction words generalizing items with
  | nil => exact .pure _
  | cons word rest ih =>
    exact .ite (ih _) (.ite (.bind enabled fun _ => ih _) (.ite (.pure _) (.pure _)))

/-- The end of an APPEND that passed its checks. -/
theorem appendMessage_keeps {mailbox : Nat} (noted : Keeps view (note (.wrote mailbox .appended)))
    (refreshed : Keeps view (sessionMailboxStatus world)) (date : Option Bytes) (message : Bytes) :
    Keeps view (appendMessage world session mailbox date message) := by
  refine .bind noted fun _ => ?_
  repeat' first
    | exact completed_keeps session _ _
    | exact refreshed
    | refine Keeps.ite ?_ ?_
    | refine Keeps.bind ?_ fun _ => ?_
    | grind

end Unspoken

end Dbmail.Imap
