import Dbmail.Delivery.Insert

/-!
Contract: one copy of a message is all or nothing.

Owns what a caller of `db_copymsg` may rely on for every pattern of failing statements,
and the exact patterns in which it is so.

Does not own: the statements themselves.
-/

namespace Dbmail.Delivery

open Dbmail.Lib Dbmail.Auth

section Copy

variable (tables : CopyTables) (post : Post) (ran : Statements) (msgIdnr mailbox user : Nat)

/-- With status 1 there is one new row at a fresh id that is returned, a copy of the source, and
the quota is raised by its size. With any other status nothing has changed. -/
structure CopyRun.Atomic (run : CopyRun) : Prop where
  done : run.status = 1 → ∃ row, post.messages msgIdnr = some row ∧
    post.messages run.newmsgIdnr = none ∧
    run.post.messages =
      Function.update post.messages run.newmsgIdnr (some { row with mailbox := mailbox }) ∧
    run.post.curmail =
      Function.update post.curmail user (post.curmail user + tables.messagesize row.physmessage)
  undone : run.status ≠ 1 →
    run.post.messages = post.messages ∧ run.post.curmail = post.curmail

/-- A message that has a size and fits the quota: the delivery user is found and is another
one, and either the row with its keywords and the quota are written, with a physmessage id that
fits an `int`, or neither is. -/
def CopyCalm : Prop :=
  ∀ row, post.messages msgIdnr = some row → messageGetSize post tables ran msgIdnr ≠ 0 →
    dmQuotaUserValidate post tables ran user (messageGetSize post tables ran msgIdnr) = .fits →
      ∃ delivery, ran.deliveryUser = some delivery ∧ delivery ≠ user ∧ if ran.update then
          ran.inserts ∧ intTrip row.physmessage = row.physmessage ∧
            (ran.keywords = false → ∅ = row.keywords)
        else ¬ ran.inserts

variable {tables post ran msgIdnr mailbox user}

theorem CopyRun.Atomic.early {status : Int} {id : Nat} (other : status ≠ 1) :
    Atomic tables post msgIdnr mailbox user ⟨post, status, id⟩ where
  done one := absurd one other
  undone _ := ⟨rfl, rfl⟩

/-- A copy that succeeds without a new row, or without a raised quota, is not atomic. -/
theorem CopyRun.Atomic.changes {run : CopyRun} (atomic : run.Atomic tables post msgIdnr mailbox user)
    {row : Stored} (found : post.messages msgIdnr = some row)
    (sized : tables.messagesize row.physmessage ≠ 0) (one : run.status = 1) :
    run.post.messages ≠ post.messages ∧ run.post.curmail ≠ post.curmail := by
  obtain ⟨_, same, fresh, added, raised⟩ := atomic.done one
  obtain rfl := Option.some.inj (found.symm.trans same)
  rw [added, raised, ne_eq, ne_eq, Function.update_eq_self_iff, Function.update_eq_self_iff, fresh]
  exact ⟨nofun, by omega⟩

/-- A copy that is inserted and counted is atomic if it is the source but for its mailbox. -/
theorem CopyRun.Atomic.written_iff {new row : Stored}
    (found : post.messages msgIdnr = some row) :
    Atomic tables post msgIdnr mailbox user ⟨(post.add new).counted (Function.update post.curmail
        user (post.curmail user + tables.messagesize row.physmessage)), 1, post.nextId⟩ ↔
      new = { row with mailbox := mailbox } := by
  constructor
  · intro atomic
    obtain ⟨_, same, _, added, _⟩ := atomic.done rfl
    obtain rfl := Option.some.inj (found.symm.trans same)
    simpa [Post.add, Post.counted] using congrFun added post.nextId
  · rintro rfl
    exact ⟨fun _ => ⟨row, found, post.fresh _ le_rfl, rfl, rfl⟩, fun other => absurd rfl other⟩

theorem messageGetSize_eq {row : Stored} (found : post.messages msgIdnr = some row)
    (sized : messageGetSize post tables ran msgIdnr ≠ 0) :
    messageGetSize post tables ran msgIdnr = tables.messagesize row.physmessage := by
  unfold messageGetSize at sized ⊢
  split_ifs at sized ⊢ with answered
  · rw [found, Option.elim_some]
  · exact absurd rfl sized

/-- A copy is all or nothing exactly if every statement behind the checks runs, or the row and
the quota both fail: a lost row or keyword goes unnoticed, and a failed update of the quota
leaves the row behind. -/
theorem copyAtomic_iff (tables : CopyTables) (post : Post) (ran : Statements)
    (msgIdnr mailbox user : Nat) :
    (dbCopymsg post tables ran msgIdnr mailbox user).Atomic tables post msgIdnr mailbox user ↔
      CopyCalm tables post ran msgIdnr user := by
  unfold dbCopymsg CopyCalm
  cases found : post.messages msgIdnr with
  | none => simp [CopyRun.Atomic.early]
  | some row =>
    by_cases sized : messageGetSize post tables ran msgIdnr = 0
    · simp [sized, CopyRun.Atomic.early]
    cases valid : dmQuotaUserValidate post tables ran user
        (messageGetSize post tables ran msgIdnr) with
    | failed | exceeded => simp [sized, valid, CopyRun.Atomic.early]
    | fits =>
      simp only [messageGetSize_eq found sized, dmQuotaUserInc] at sized valid ⊢
      simp only [sized, valid, if_false, ne_eq]
      cases lookup : ran.deliveryUser with
      | none => exact iff_of_false (fun atomic => (atomic.changes found sized rfl).2 rfl) (by simp)
      | some delivery =>
        by_cases own : delivery = user
        · simp only [own, if_true]
          exact iff_of_false (fun atomic => (atomic.changes found sized rfl).2 rfl) (by simp)
        simp only [own, if_false, Option.some.injEq, exists_eq_left']
        cases stored : ran.inserts <;> cases update : ran.update
        · simpa [Post.counted] using CopyRun.Atomic.early (by decide)
        · exact iff_of_false (fun atomic => (atomic.changes found sized rfl).1 rfl) (by simp)
        · refine iff_of_false (fun atomic => ?_) (by simp)
          have kept := congrFun (atomic.undone (by simp)).1 post.nextId
          simp [Post.add, Post.counted, post.fresh] at kept
        · have inserted : ran.insert = true := (Bool.and_eq_true_iff.mp stored).1
          simp only [inserted, if_true]
          refine (CopyRun.Atomic.written_iff found).trans ?_
          simp [Stored.copied]

end Copy

/-- The update of the quota fails behind a row that stays. -/
theorem failed_update_keeps_row :
    ¬ (dbCopymsg storedPost plainWorld.toCopyTables { deliveryUser := some 4, update := false } 1 2
      5).Atomic plainWorld.toCopyTables storedPost 1 2 5 :=
  fun atomic => absurd (congrFun (atomic.undone (by decide)).1 2) (by decide)

end Dbmail.Delivery
