import Dbmail.Delivery.Local
import Dbmail.Lib.Latch

/-!
Contract: when a Sieve script leaves a message to the implicit keep.

Owns the outcome of each callback of a run, which of them count as an action that
took effect, the delivery of the implicit keep as `sort_and_deliver` makes it, and
the exact runs in which it is made if and only if no action took effect.

Does not own: what a delivery to a mailbox does, which may be any function of a
store and a request.
-/

namespace Dbmail.Delivery

open Dbmail.Lib Dbmail.Mailbox List

section Outcomes

variable {σ κ : Type} (deliver : σ → Request → σ × DsnClass × List κ) (user : Nat)

/-- What a callback does to the store, and whether it succeeds. -/
def carriedOut (store : σ) : SieveAction → σ × Bool
  | .fileinto mailbox flaglist ran =>
    let delivered := deliver store (fileintoRequest user mailbox flaglist ran)
    (delivered.1, decide (delivered.2.1 = .ok))
  | .redirect sent => (store, sent)
  | _ => (store, true)

def outcomes (store : σ) : List SieveAction → List (SieveAction × Bool)
  | [] => []
  | action :: rest =>
    (action, (carriedOut deliver user store action).2) ::
      outcomes (carriedOut deliver user store action).1 rest

/-- A fileinto, keep, redirect, discard or reject that succeeded. -/
def tookEffect : SieveAction × Bool → Bool
  | (.vacation, _) | (.notify, _) => false
  | (_, succeeded) => succeeded

/-- The callbacks that take `cancelkeep` back. -/
def restoresKeep : SieveAction × Bool → Bool
  | (.fileinto _ _ _, succeeded) => !succeeded
  | (.vacation, _) => true
  | _ => false

variable {deliver user}

theorem sortAction_store (sorting : Sorting σ κ) (action : SieveAction) :
    (sortAction deliver user sorting action).store =
      (carriedOut deliver user sorting.store action).1 := by
  cases action with
  | redirect sent => cases sent <;> rfl
  | _ => rfl

theorem sortAction_cancelkeep (sorting : Sorting σ κ) (action : SieveAction) :
    (sortAction deliver user sorting action).result.cancelkeep =
      latchStep tookEffect restoresKeep sorting.result.cancelkeep
        (action, (carriedOut deliver user sorting.store action).2) := by
  cases action with
  | fileinto mailbox flaglist ran =>
    generalize stored : (carriedOut deliver user sorting.store
      (.fileinto mailbox flaglist ran)).2 = succeeded
    have cancels : (sortAction deliver user sorting
        (.fileinto mailbox flaglist ran)).result.cancelkeep = succeeded := stored
    rw [cancels]
    cases succeeded <;> rfl
  | redirect sent => cases sent <;> rfl
  | _ => rfl

/-- The flag after a run is the latch of its outcomes. -/
theorem sortActions_cancelkeep (actions : List SieveAction) (sorting : Sorting σ κ) :
    (actions.foldl (sortAction deliver user) sorting).result.cancelkeep =
      latch tookEffect restoresKeep sorting.result.cancelkeep
        (outcomes deliver user sorting.store actions) := by
  induction actions generalizing sorting with
  | nil => rfl
  | cons action rest ih =>
    rw [foldl_cons, ih, sortAction_store, sortAction_cancelkeep]
    rfl

def SieveAction.replies : SieveAction → Bool
  | .vacation | .notify => true
  | _ => false

theorem carriedOut_replies {action : SieveAction} (replies : action.replies = true) (store : σ) :
    (carriedOut deliver user store action).1 = store := by
  cases action with
  | vacation | notify => rfl
  | fileinto | redirect | discard | reject => cases replies

/-- Without its vacations and notifies a run has the other outcomes all the same. -/
theorem outcomes_withoutReplies (actions : List SieveAction) (store : σ) :
    outcomes deliver user store (actions.filter fun action => !action.replies) =
      (outcomes deliver user store actions).filter fun outcome => !outcome.1.replies := by
  induction actions generalizing store with
  | nil => rfl
  | cons action rest ih =>
    by_cases replies : action.replies = true
    · simp only [outcomes, filter_cons, replies, carriedOut_replies replies]
      exact ih store
    · simp [outcomes, replies, ih]

theorem tookEffect_replies {outcome : SieveAction × Bool} (effective : tookEffect outcome = true) :
    outcome.1.replies = false := by
  obtain ⟨action, succeeded⟩ := outcome
  cases action with
  | vacation | notify => cases effective
  | fileinto | redirect | discard | reject => rfl

end Outcomes

/-! ## The implicit keep -/

section Keep

variable {σ κ : Type} (deliver : σ → Request → σ × DsnClass × List κ) (world : DeliveryWorld)
  (store : σ) (destination : Destination) (turn : UserTurn)

def recorded (state : σ × List Request) (request : Request) :
    (σ × List Request) × DsnClass × List κ :=
  (((deliver state.1 request).1, state.2 ++ [request]), (deliver state.1 request).2)

/-- `sort_and_deliver` ends with the delivery of the implicit keep. -/
def KeptImplicitly : Prop :=
  (sortAndDeliver (recorded deliver) world (store, []) destination turn).1.2 =
    (sorted (recorded deliver) world (store, []) turn).store.2 ++
      [keepRequest world destination turn]

def SieveRun.withoutReplies (script : SieveRun) : SieveRun :=
  { script with actions := script.actions.filter fun action => !action.replies }

def NoneEffective (script : SieveRun) : Prop :=
  ∀ outcome ∈ outcomes deliver turn.user store script.actions, tookEffect outcome = false

/-- What a script decides about the implicit keep: it is made if and only if no action
took effect, vacations and notifies have no part in that, and after an error the
message is delivered by it, with the class of this delivery. -/
structure KeepDecided (script : SieveRun) : Prop where
  decided : KeptImplicitly deliver world store destination turn ↔
    NoneEffective deliver store turn script
  replies : KeptImplicitly deliver world store destination turn ↔
    KeptImplicitly deliver world store destination
      { turn with script := some script.withoutReplies }
  failed : script.executed = false → KeptImplicitly deliver world store destination turn ∧
    (sortAndDeliver deliver world store destination turn).2.1 =
      (deliver (sorted deliver world store turn).store (keepRequest world destination turn)).2.1

variable {deliver world store destination turn}

theorem outcomes_recorded (user : Nat) (actions : List SieveAction) (store : σ)
    (requests : List Request) :
    outcomes (recorded deliver) user (store, requests) actions =
      outcomes deliver user store actions := by
  induction actions generalizing store requests with
  | nil => rfl
  | cons action rest ih =>
    have carried : (carriedOut (recorded deliver) user (store, requests) action).2 =
        (carriedOut deliver user store action).2 ∧
        ∃ noted, (carriedOut (recorded deliver) user (store, requests) action).1 =
          ((carriedOut deliver user store action).1, noted) := by
      cases action <;> exact ⟨rfl, _, rfl⟩
    obtain ⟨succeeded, noted, moved⟩ := carried
    simp [outcomes, succeeded, moved, ih]

theorem keptImplicitly_iff_cancelkeep (sorts : destination.source ≠ .bruteforce) :
    KeptImplicitly deliver world store destination turn ↔
      (sorted (recorded deliver) world (store, []) turn).result.cancelkeep = false := by
  unfold KeptImplicitly sortAndDeliver
  rw [if_neg sorts]
  dsimp only
  cases (sorted (recorded deliver) world (store, []) turn).result.cancelkeep with
  | true => simp
  | false => simp [recorded]

variable {script : SieveRun} (sorts : destination.source ≠ .bruteforce)
  (enabled : world.sieve = true)

include sorts enabled

theorem keptImplicitly_iff (active : turn.script = some script) :
    KeptImplicitly deliver world store destination turn ↔
      (script.executed = true →
        latch tookEffect restoresKeep false (outcomes deliver turn.user store script.actions) =
          false) := by
  have cancels : (sorted (recorded deliver) world (store, []) turn).result.cancelkeep =
      (script.executed && latch tookEffect restoresKeep false
        (outcomes deliver turn.user store script.actions)) := by
    unfold sorted sortProcess
    rw [active]
    dsimp only
    rw [if_pos enabled]
    cases script.executed with
    | false => rfl
    | true =>
      rw [if_pos rfl, sortActions_cancelkeep, outcomes_recorded]
      rfl
  rw [keptImplicitly_iff_cancelkeep sorts, cancels]
  cases script.executed <;> simp

theorem keptImplicitly_failed (active : turn.script = some script)
    (failed : script.executed = false) :
    KeptImplicitly deliver world store destination turn ∧
      (sortAndDeliver deliver world store destination turn).2.1 =
        (deliver (sorted deliver world store turn).store (keepRequest world destination turn)).2.1 := by
  refine ⟨(keptImplicitly_iff sorts enabled active).mpr fun executed => ?_, ?_⟩
  · rw [failed] at executed
    cases executed
  · have reset : (sorted deliver world store turn).result = {} := by
      unfold sorted sortProcess
      rw [active]
      dsimp only
      rw [if_pos enabled, failed]
      rfl
    unfold sortAndDeliver
    rw [if_neg sorts]
    dsimp only
    rw [reset]
    rfl

/-- The keep tells whether an action took effect. -/
theorem keptImplicitly_tells_iff (active : turn.script = some script) :
    (KeptImplicitly deliver world store destination turn ↔
        NoneEffective deliver store turn script) ↔
      ((∃ outcome ∈ outcomes deliver turn.user store script.actions, tookEffect outcome = true) →
          script.executed = true) ∧
        ClearsRepaired tookEffect restoresKeep
          (outcomes deliver turn.user store script.actions) := by
  have noneIff : NoneEffective deliver store turn script ↔
      ¬ ∃ outcome ∈ outcomes deliver turn.user store script.actions, tookEffect outcome = true := by
    simp [NoneEffective]
  rw [keptImplicitly_iff sorts enabled active, ← latch_tells_iff]
  by_cases effective : ∃ outcome ∈ outcomes deliver turn.user store script.actions,
      tookEffect outcome = true
  · simp [noneIff, effective]
  · have down : latch tookEffect restoresKeep false
        (outcomes deliver turn.user store script.actions) = false :=
      latch_unset (noneIff.mpr effective)
    simp [noneIff, effective, down]

/-- A script decides about the implicit keep as it should exactly when its run does not
fail after an action that took effect, and every vacation and failing fileinto behind
such an action is followed by another one. -/
theorem keepDecided_iff (active : turn.script = some script) :
    KeepDecided deliver world store destination turn script ↔
      ((∃ outcome ∈ outcomes deliver turn.user store script.actions, tookEffect outcome = true) →
          script.executed = true) ∧
        ClearsRepaired tookEffect restoresKeep
          (outcomes deliver turn.user store script.actions) := by
  have tells := @keptImplicitly_tells_iff σ κ deliver world store destination turn script sorts
    enabled active
  constructor
  · intro decided
    exact tells.mp decided.decided
  · rintro ⟨executed, repaired⟩
    have decided := tells.mpr ⟨executed, repaired⟩
    refine ⟨decided, ?_, keptImplicitly_failed sorts enabled active⟩
    -- the run without replies has the same effects and meets the condition as well
    have stay : ∀ outcome : SieveAction × Bool, tookEffect outcome = true →
        (!outcome.1.replies) = true := by
      intro outcome effective
      rw [tookEffect_replies effective]
      rfl
    have plainOutcomes := @outcomes_withoutReplies σ κ deliver turn.user script.actions store
    have plain := (@keptImplicitly_tells_iff σ κ deliver world store destination
      { turn with script := some script.withoutReplies } script.withoutReplies sorts enabled
      rfl).mpr (by
        show ((∃ outcome ∈ outcomes deliver turn.user store
          (script.actions.filter fun action => !action.replies), _) → _) ∧
          ClearsRepaired _ _ (outcomes deliver turn.user store
            (script.actions.filter fun action => !action.replies))
        rw [plainOutcomes]
        refine ⟨?_, repaired.filter stay⟩
        rintro ⟨outcome, member, effective⟩
        exact executed ⟨outcome, (mem_filter.mp member).1, effective⟩)
    rw [decided, plain]
    show _ ↔ ∀ outcome ∈ outcomes deliver turn.user store
      (script.actions.filter fun action => !action.replies), tookEffect outcome = false
    rw [plainOutcomes]
    constructor
    · intro none outcome member
      exact none outcome (mem_filter.mp member).1
    · intro none outcome member
      by_contra effective
      have isEffective : tookEffect outcome = true := by simpa using effective
      exact effective (none outcome (mem_filter.mpr ⟨member, stay outcome isEffective⟩))

end Keep

/-- User 5 with the mailboxes INBOX (1) and `work` (2), and the message in row 9. -/
def keepWorld : DeliveryWorld where
  findMailbox := fun name _ =>
    if name = lit "INBOX" then some 1 else if name = lit "work" then some 2 else none
  createWithParents := fun _ _ _ => none
  postRight := fun _ _ => 1
  hasMessageId := fun _ => false
  messagesize := fun _ => 1
  maxmail := fun _ => 0
  subaddress := false
  sieve := true
  suppressDuplicates := false

def keepTurn (actions : List SieveAction) : UserTurn :=
  ⟨5, some ⟨actions, true⟩, none, {}⟩

def toInbox : Destination := ⟨lit "u@host", none, .default, default_named⟩

/-- A script that files the message, then notifies, leaves nothing to the keep. -/
theorem filed_not_kept :
    KeepDecided (fun (filed : Nat) _ => (filed + 1, DsnClass.ok, [filed])) keepWorld 0 toInbox
      (keepTurn [.fileinto (some (lit "work")) none {}, .notify])
      ⟨[.fileinto (some (lit "work")) none {}, .notify], true⟩ := by
  refine (keepDecided_iff (by decide) rfl rfl).mpr ⟨fun _ => rfl, ?_⟩
  apply ClearsRepaired.of_uncleared
  simp [outcomes, carriedOut, restoresKeep]

/-- A vacation behind a discard brings the message back. -/
theorem vacation_restores_keep :
    ¬ KeepDecided (fun (filed : Nat) _ => (filed + 1, DsnClass.ok, [filed])) keepWorld 0 toInbox
      (keepTurn [.discard, .vacation]) ⟨[.discard, .vacation], true⟩ := by
  intro decided
  have none := decided.decided.mp
    ((keptImplicitly_iff (by decide) rfl rfl).mpr fun _ => by decide)
  have effective := none (.discard, true) (by simp [outcomes, carriedOut])
  cases effective

end Dbmail.Delivery
