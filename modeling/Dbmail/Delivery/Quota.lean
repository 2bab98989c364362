import Dbmail.Lib.CRuntime
import Dbmail.Lib.SortedTree

/-!
Contract: the rebuild of the users' quota.

Owns `dm_quota_rebuild` and `dm_quota_user_set` (`dm_db.c`) where no statement fails, and when
they restore the counters.

Does not own: how the delivery user is found by name, and sums that no column holds.
-/

namespace Dbmail.Delivery

open Dbmail.Lib List

structure QuotaMessage where
  physmessageId : Nat
  status : Nat

/-- The tables of the query, by the columns that it joins on. -/
structure QuotaBase where
  users : List Nat
  curmailSize : Nat → Nat
  mailboxes : Nat → List Nat
  messages : Nat → List QuotaMessage
  messagesize : Nat → Option Nat

/-- A left join has a row of NULLs where none matches. -/
def leftJoin {α : Type} (rows : List α) : List (Option α) :=
  if rows.isEmpty then [none] else rows.map some

/-- `SUM` passes over NULLs, and is one where there is nothing else. -/
def sqlSum (values : List (Option Nat)) : Option Nat :=
  match values.filterMap id with
  | [] => none
  | sizes => some sizes.sum

section Rebuild

variable (base : QuotaBase) (lookedUp delivery : Option Nat) (user : Nat)

/-- The join with the physmessages, below `MESSAGE_STATUS_DELETE`. -/
def QuotaBase.size (message : QuotaMessage) : Option Nat :=
  if message.status < 2 then base.messagesize message.physmessageId else none

/-- `SUM(pm.messagesize)` in the group of a user. -/
def QuotaBase.sum : Option Nat :=
  sqlSum ((leftJoin (base.mailboxes user)).flatMap fun mailbox =>
    (leftJoin (mailbox.elim [] base.messages)).flatMap fun message => [message.bind base.size])

/-- The `HAVING` of the query, where a comparison with NULL does not hold. -/
def QuotaBase.having : Bool :=
  (base.sum user).any (· ≠ base.curmailSize user) ||
    (base.sum user).isNone && base.curmailSize user ≠ 0

/-- The `UPDATE` that is made and the value returned. The id of the delivery user is kept from
the first lookup that finds it. -/
def dmQuotaUserSet (size : Nat) : Option (Nat × Nat) × Int :=
  match lookedUp.or delivery with
  | none => (none, -1)
  | some known => if known = user then (none, 1) else (some (user, size), 1)

/-- The `UPDATE`s in their order and the value returned. A sum that is NULL is read as 0. -/
def dmQuotaRebuild : List (Nat × Nat) × Int :=
  let quota := (base.users.filter base.having).map fun user => (user, (base.sum user).getD 0)
  let sets := quota.reverse.map fun q => dmQuotaUserSet lookedUp delivery q.1 q.2
  (sets.filterMap Prod.fst, if sets.any (·.2 = 0) then -1 else quota.length)

/-- The counters after the `UPDATE`s. -/
def QuotaBase.rebuilt : Nat → Nat :=
  (dmQuotaRebuild base lookedUp delivery).1.foldl
    (fun sizes update => Function.update sizes update.1 update.2) base.curmailSize

/-- The sizes of a user's messages that are not deleted. -/
def QuotaBase.used : Nat :=
  (((base.mailboxes user).flatMap base.messages).filterMap base.size).sum

def QuotaBase.wrong : Bool := base.curmailSize user ≠ base.used user

/-- Every user but the delivery user has the right counter, only a user with a wrong one and
never the delivery user is rewritten, and the wrong ones are counted. -/
structure QuotaRestored : Prop where
  right : ∀ user ∈ base.users, delivery ≠ some user →
    base.rebuilt lookedUp delivery user = base.used user
  spared : ∀ update ∈ (dmQuotaRebuild base lookedUp delivery).1,
    delivery ≠ some update.1 ∧ base.wrong update.1
  counted : (dmQuotaRebuild base lookedUp delivery).2 = base.users.countP base.wrong

variable {base lookedUp delivery user}

theorem sqlSum_getD (values : List (Option Nat)) :
    (sqlSum values).getD 0 = (values.filterMap id).sum := by
  unfold sqlSum
  split
  · next empty =>
    rw [empty]
    rfl
  · rfl

/-- Under `SUM` a left join is an inner one. -/
theorem leftJoin_flatMap {α : Type} {rows : List α} {select : Option α → List (Option Nat)}
    (null : (select none).filterMap id = []) : ((leftJoin rows).flatMap select).filterMap id =
      rows.flatMap fun row => (select (some row)).filterMap id := by
  cases rows with
  | nil => simpa [leftJoin] using null
  | cons row rows => exact filterMap_flatMap.trans (flatMap_map ..)

theorem sum_getD : (base.sum user).getD 0 = base.used user := by
  rw [QuotaBase.sum, QuotaBase.used, sqlSum_getD, leftJoin_flatMap rfl, filterMap_flatMap]
  congr 2
  funext mailbox
  rw [leftJoin_flatMap rfl]
  simp [filterMap_eq_flatMap_toList]

theorem having_eq : base.having = base.wrong := by
  funext user
  rw [QuotaBase.wrong, ← sum_getD, QuotaBase.having]
  cases base.sum user with
  | none => rfl
  | some size => simp [ne_comm]

theorem mem_updates {size : Nat} : (user, size) ∈ (dmQuotaRebuild base lookedUp delivery).1 ↔
    (user ∈ base.users ∧ base.wrong user ∧ ∃ known, lookedUp.or delivery = some known ∧
      known ≠ user) ∧ size = base.used user := by
  simp only [dmQuotaRebuild, dmQuotaUserSet, having_eq, sum_getD]
  cases lookedUp.or delivery with
  | none => simp
  | some known => grind

theorem rebuilt_eq_used_iff (isUser : user ∈ base.users) :
    base.rebuilt lookedUp delivery user = base.used user ↔
      (base.wrong user → ∃ known, lookedUp.or delivery = some known ∧ known ≠ user) := by
  have rebuilt : base.rebuilt lookedUp delivery user = _ :=
    @foldl_seen _ _ _ _ (dmQuotaRebuild base lookedUp delivery).1
      (fun sizes : Nat → Nat => sizes user) (fun _ => base.used user) (user = ·.1) _ (by
        rintro ⟨other, size⟩ member sizes
        rw [Function.update_apply, (mem_updates.mp member).2]
        grind) (fun _ => rfl) _
  rw [rebuilt]
  split
  · next updated =>
    obtain ⟨update, member, rfl⟩ := updated
    exact iff_of_true rfl fun _ => (mem_updates.mp member).1.2.2
  · next spared =>
    refine ⟨fun same wrong => absurd same (of_decide_eq_true wrong), fun looked => ?_⟩
    by_contra apart
    have wrong : base.wrong user := decide_eq_true apart
    exact spared ⟨_, mem_updates.mpr ⟨⟨isUser, wrong, looked wrong⟩, rfl⟩, rfl⟩

/-- A rebuild restores the counters exactly when, where one is wrong, a delivery user is known
and is rightly taken for that user or not. -/
theorem dmQuotaRebuild_restores_iff : QuotaRestored base lookedUp delivery ↔
    ∀ user ∈ base.users, base.wrong user → ∃ known, lookedUp.or delivery = some known ∧
      (known = user ↔ delivery = some user) := by
  constructor
  · intro restored user isUser wrong
    have right := (rebuilt_eq_used_iff isUser).mp ∘ restored.right user isUser
    have spared := fun looked => restored.spared _ (mem_updates.mpr ⟨⟨isUser, wrong, looked⟩, rfl⟩)
    cases found : lookedUp.or delivery <;> grind
  · intro lookups
    refine ⟨fun user isUser other => ?_, fun update member => ?_, ?_⟩
    · refine (rebuilt_eq_used_iff isUser).mpr fun wrong => ?_
      obtain ⟨known, found, same⟩ := lookups user isUser wrong
      exact ⟨known, found, mt same.mp other⟩
    · obtain ⟨⟨isUser, wrong, known, found, apart⟩, -⟩ := mem_updates.mp member
      obtain ⟨_, known', same⟩ := lookups _ isUser wrong
      cases found.symm.trans known'
      exact ⟨mt same.mpr apart, wrong⟩
    · simp only [dmQuotaRebuild, dmQuotaUserSet, having_eq, countP_eq_length_filter]
      cases lookedUp.or delivery <;> grind

/-- Where no delivery user is found, a wrong counter stays. -/
theorem dmQuotaRebuild_noDelivery :
    ¬ QuotaRestored ⟨[1], fun _ => 5, fun _ => [], fun _ => [], fun _ => none⟩ none none := by
  intro restored
  have right := restored.right 1 (by decide) (by decide)
  revert right
  decide

end Rebuild

end Dbmail.Delivery
