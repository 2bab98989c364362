import Dbmail.Imap.Confinement

/-!
Contract: what a permission check looks up, and when it lets a command pass.

Owns `MailboxState_hasPermission` (`dm_mailboxstate.c`) and `acl_has_right`
(`dm_acl.c`) over the tables they read, with every pattern of failing queries,
and the exact patterns under which a command goes past a check that nothing in
the tables grants.

Does not own: which commands make which check.
-/

namespace Dbmail.Imap

open Dbmail.Lib Dbmail.Auth List

/-! ## The lookups -/

/-- The rows the lookups read. No user has the id 0. -/
structure AclTables where
  /-- `owner_idnr` of a mailbox, 0 when there is no such mailbox. -/
  owner : Nat → Nat
  /-- The ACL row of a user for a mailbox. -/
  row : Nat → Nat → Option (AclRight → Bool)
  /-- The id of the user `anyone`, 0 when there is none. -/
  anyone : Nat

/-- The queries of `MailboxState_hasPermission` that fail. -/
structure PermissionFaults where
  owner : SelectFault
  ownerAcl : Bool
  right : Bool

/-- The queries of `acl_has_right` that fail. -/
structure CheckFaults where
  own : PermissionFaults
  exists_ : Bool
  anyone : PermissionFaults

/-- What the state of a mailbox knows: whether it is open for writing, and the
owner once it was looked up. -/
structure MailboxAccess (tables : AclTables) (mailbox : Nat) where
  readWrite : Bool
  owner : Nat
  known : owner = 0 ∨ owner = tables.owner mailbox

section Lookups

variable (tables : AclTables) (mailbox : Nat)

def AclTables.carries (user : Nat) (right : AclRight) : Bool :=
  (tables.row user mailbox).any fun rights => rights right

/-- `MailboxState_hasPermission`: the result, and the owner the state then knows. -/
def hasPermission (faults : PermissionFaults) (owner user : Nat) (right : AclRight) : Int × Nat :=
  -- a query that fails in `db_query` is one without a row
  if owner = 0 ∧ faults.owner = .query then (0, 0)
  else if owner = 0 ∧ faults.owner = .fetch then (dmEQuery, 0)
  else
    let owner := if owner = 0 then tables.owner mailbox else owner
    if owner = 0 then (0, 0)
    -- a failed query for the row of the owner leaves `owner_acl` at false
    else if owner = user ∧ (faults.ownerAcl ∨ (tables.row user mailbox).isNone) then (1, owner)
    else if faults.right then (dmEQuery, owner)
    else if tables.carries mailbox user right then (1, owner)
    else (0, owner)

def AclRight.writes : AclRight → Bool
  | .lookup | .read => false
  | _ => true

/-- `acl_has_right`; `auth_user_exists` answers no when its query fails. -/
def aclHasRight (faults : CheckFaults) (access : MailboxAccess tables mailbox) (user : Nat)
    (right : AclRight) : Int :=
  if right.writes ∧ !access.readWrite then 0
  else
    let (test, owner) := hasPermission tables mailbox faults.own access.owner user right
    if test ≠ 0 then 1
    else if faults.exists_ ∨ tables.anyone = 0 then 0
    else (hasPermission tables mailbox faults.anyone owner tables.anyone right).1

/-! ## What grants a right -/

/-- The user owns the mailbox, and no row restricts that. -/
def AclTables.OwnsFreely (user : Nat) : Prop :=
  tables.owner mailbox = user ∧ tables.row user mailbox = none

/-- The query for the owner fails in `db_query`: the mailbox seems to have none. -/
def OwnerLost (faults : PermissionFaults) (owner : Nat) : Prop := owner = 0 ∧ faults.owner = .query

/-- The owner is let pass without a look at the right: there is no row for the
owner, or the query for one failed. -/
structure OwnerPasses (faults : PermissionFaults) (owner user : Nat) : Prop where
  answered : owner = 0 → faults.owner = .none
  found : tables.owner mailbox ≠ 0
  isOwner : tables.owner mailbox = user
  unrestricted : faults.ownerAcl = true ∨ tables.row user mailbox = none

/-- Every query that the lookup for a user makes is answered. -/
structure LookupDone (faults : PermissionFaults) (owner user : Nat) : Prop where
  owner : owner = 0 → faults.owner = .none
  ownerAcl : tables.owner mailbox ≠ 0 → tables.owner mailbox = user → faults.ownerAcl = false
  right : tables.owner mailbox ≠ 0 → ¬ tables.OwnsFreely mailbox user → faults.right = false

/-- A query throws, and the lookup does not stop at that. -/
structure LookupBroken (faults : PermissionFaults) (owner user : Nat) : Prop where
  undone : ¬ LookupDone tables mailbox faults owner user
  kept : ¬ OwnerLost faults owner

variable {tables mailbox}

section Permission

variable {faults : PermissionFaults} {owner user : Nat} (right : AclRight)

theorem hasPermission_lost (lost : OwnerLost faults owner) :
    hasPermission tables mailbox faults owner user right = (0, 0) := by
  unfold hasPermission
  exact if_pos lost

variable (known : owner = 0 ∨ owner = tables.owner mailbox)

include known in
/-- The owner a lookup goes by is that of the table. -/
theorem hasPermission_eq (kept : ¬ OwnerLost faults owner) :
    hasPermission tables mailbox faults owner user right =
      if owner = 0 ∧ faults.owner = .fetch then (dmEQuery, 0)
      else if tables.owner mailbox = 0 then (0, tables.owner mailbox)
      else if tables.owner mailbox = user ∧
          (faults.ownerAcl ∨ (tables.row user mailbox).isNone) then (1, tables.owner mailbox)
      else if faults.right then (dmEQuery, tables.owner mailbox)
      else if tables.carries mailbox user right then (1, tables.owner mailbox)
      else (0, tables.owner mailbox) := by
  have found : (if owner = 0 then tables.owner mailbox else owner) = tables.owner mailbox := by
    split
    · rfl
    · exact known.resolve_left ‹_›
  unfold hasPermission
  rw [if_neg (show ¬ (owner = 0 ∧ faults.owner = .query) from kept)]
  simp only [found]
  by_cases none : tables.owner mailbox = 0
  · simp [none]
  · simp [none]

include known in
theorem hasPermission_failed (broken : LookupBroken tables mailbox faults owner user) :
    ((hasPermission tables mailbox faults owner user right).1 = 1 ∧
        OwnerPasses tables mailbox faults owner user) ∨
      ((hasPermission tables mailbox faults owner user right).1 = dmEQuery ∧
        ¬ OwnerPasses tables mailbox faults owner user) := by
  rw [hasPermission_eq right known broken.kept]
  by_cases thrown : owner = 0 ∧ faults.owner = .fetch
  · rw [if_pos thrown]
    refine .inr ⟨rfl, fun passes => ?_⟩
    have answered := passes.answered thrown.1
    rw [thrown.2] at answered
    cases answered
  rw [if_neg thrown]
  have answered : owner = 0 → faults.owner = .none := by
    intro unknown
    cases fault : faults.owner with
    | none => rfl
    | query => exact absurd ⟨unknown, fault⟩ broken.kept
    | fetch => exact absurd ⟨unknown, fault⟩ thrown
  have found : tables.owner mailbox ≠ 0 := by
    intro none
    exact broken.undone ⟨answered, fun found => absurd none found, fun found => absurd none found⟩
  rw [if_neg found]
  by_cases owns : tables.owner mailbox = user ∧ (faults.ownerAcl ∨ (tables.row user mailbox).isNone)
  · rw [if_pos owns]
    exact .inl ⟨rfl, answered, found, owns.1, owns.2.imp_right Option.isNone_iff_eq_none.mp⟩
  rw [if_neg owns]
  have failed : faults.right = true := by
    by_contra rightAnswered
    refine broken.undone ⟨answered, fun _ isOwner => ?_, fun _ _ => by simpa using rightAnswered⟩
    by_contra fails
    exact owns ⟨isOwner, .inl (by simpa using fails)⟩
  rw [if_pos failed]
  refine .inr ⟨rfl, fun passes => owns ⟨passes.isOwner, ?_⟩⟩
  exact passes.unrestricted.imp_right Option.isNone_iff_eq_none.mpr

include known in
/-- A lookup whose queries are answered gives what the tables say. -/
theorem hasPermission_done (done : LookupDone tables mailbox faults owner user) :
    (hasPermission tables mailbox faults owner user right).2 = tables.owner mailbox ∧
      (((hasPermission tables mailbox faults owner user right).1 = 1 ∧ tables.owner mailbox ≠ 0 ∧
          (tables.OwnsFreely mailbox user ∨ tables.carries mailbox user right = true)) ∨
        ((hasPermission tables mailbox faults owner user right).1 = 0 ∧
          ¬ (tables.owner mailbox ≠ 0 ∧
            (tables.OwnsFreely mailbox user ∨ tables.carries mailbox user right = true)))) := by
  have kept : ¬ OwnerLost faults owner := by
    rintro ⟨unknown, lost⟩
    rw [done.owner unknown] at lost
    cases lost
  have answered : ¬ (owner = 0 ∧ faults.owner = .fetch) := by
    rintro ⟨unknown, thrown⟩
    rw [done.owner unknown] at thrown
    cases thrown
  rw [hasPermission_eq right known kept, if_neg answered]
  by_cases none : tables.owner mailbox = 0
  · rw [if_pos none]
    exact ⟨rfl, .inr ⟨rfl, fun some_ => some_.1 none⟩⟩
  rw [if_neg none]
  by_cases owns : tables.OwnsFreely mailbox user
  · rw [if_pos ⟨owns.1, .inr (by simp [owns.2])⟩]
    exact ⟨rfl, .inl ⟨rfl, none, .inl owns⟩⟩
  have restricted : ¬ (tables.owner mailbox = user ∧
      (faults.ownerAcl = true ∨ (tables.row user mailbox).isNone = true)) := by
    rintro ⟨isOwner, lost | free⟩
    · rw [done.ownerAcl none isOwner] at lost
      cases lost
    · exact owns ⟨isOwner, Option.isNone_iff_eq_none.mp free⟩
  rw [if_neg restricted, if_neg (by simp [done.right none owns])]
  by_cases carries : tables.carries mailbox user right = true
  · rw [if_pos carries]
    exact ⟨rfl, .inl ⟨rfl, none, .inr carries⟩⟩
  · rw [if_neg carries]
    refine ⟨rfl, .inr ⟨rfl, ?_⟩⟩
    rintro ⟨-, isOwner | isCarried⟩
    · exact owns isOwner
    · exact carries isCarried

end Permission

end Lookups

/-! ## Checks -/

section Checks

variable (tables : AclTables) (mailbox : Nat) (faults : CheckFaults)
  (access : MailboxAccess tables mailbox) (user : Nat) (right : AclRight)

/-- What the user's own lookup can find in favour of the user. -/
def OwnGrant : Prop :=
  tables.owner mailbox ≠ 0 ∧
    (tables.OwnsFreely mailbox user ∨ tables.carries mailbox user right = true)

/-- The user's own lookup ends without a grant: its queries are answered and none is found, or
the owner is lost. The second lookup starts with the owner that the first one has found. -/
inductive OwnDenied : (known : Nat) → Prop
  | done (done : LookupDone tables mailbox faults.own access.owner user)
      (denied : ¬ OwnGrant tables mailbox user right) : OwnDenied (tables.owner mailbox)
  | lost (lost : OwnerLost faults.own access.owner) : OwnDenied 0

/-- The row of `anyone` is looked up and carries the right. -/
structure AnyoneCarries (known : Nat) : Prop where
  found : tables.owner mailbox ≠ 0
  done : LookupDone tables mailbox faults.anyone known tables.anyone
  carries : tables.carries mailbox tables.anyone right = true

/-- The lookup was done and found that the user owns the mailbox with no row that restricts
this, or that the user's own row carries the right; or it denied this, and the lookup for
`anyone` was done and found that the row of `anyone` carries it. -/
def Granted : Prop :=
  (LookupDone tables mailbox faults.own access.owner user ∧ OwnGrant tables mailbox user right) ∨
    ∃ known, OwnDenied tables mailbox faults access user right known ∧ faults.exists_ = false ∧
      AnyoneCarries tables mailbox faults right known

/-- The answer with which a check passes: SELECT and EXAMINE stop only at a
refusal. -/
def Passing (answer : Int) : Prop := 0 < answer ∨ (right = .read ∧ answer ≠ 0)

/-- The lookup for `anyone`, made after the user's own one, lets pass what its row
does not carry: `anyone` owns the mailbox and has no row or a query for one that
fails, or a failed query is taken for an answer by SELECT. -/
def AnyoneLeaks (known : Nat) : Prop :=
  faults.exists_ = false ∧ tables.anyone ≠ 0 ∧
    (OwnerPasses tables mailbox faults.anyone known tables.anyone ∨
      (right = .read ∧ LookupBroken tables mailbox faults.anyone known tables.anyone))

def Leaks : Prop :=
  (right.writes = true → access.readWrite = true) ∧
    (LookupBroken tables mailbox faults.own access.owner user ∨
      ∃ known, OwnDenied tables mailbox faults access user right known ∧
        AnyoneLeaks tables mailbox faults right known)

variable {tables mailbox faults access user right} {known : Nat}

theorem not_passing_zero : ¬ Passing right 0 := by simp [Passing]

/-- The second lookup lets pass what the row of `anyone` does not carry. -/
theorem anyone_passing_iff (isKnown : known = 0 ∨ known = tables.owner mailbox) :
    (Passing right (hasPermission tables mailbox faults.anyone known tables.anyone right).1 ∧
        ¬ AnyoneCarries tables mailbox faults right known) ↔
      (OwnerPasses tables mailbox faults.anyone known tables.anyone ∨
        (right = .read ∧ LookupBroken tables mailbox faults.anyone known tables.anyone)) := by
  by_cases lost : OwnerLost faults.anyone known
  · rw [hasPermission_lost right lost]
    refine iff_of_false (fun passing => not_passing_zero passing.1) ?_
    rintro (passes | ⟨-, broken⟩)
    · have answered := passes.answered lost.1
      rw [lost.2] at answered
      cases answered
    · exact broken.kept lost
  by_cases done : LookupDone tables mailbox faults.anyone known tables.anyone
  · have passes_iff : OwnerPasses tables mailbox faults.anyone known tables.anyone ↔
        tables.owner mailbox ≠ 0 ∧ tables.OwnsFreely mailbox tables.anyone := by
      constructor
      · rintro ⟨-, found, isOwner, failed | free⟩
        · rw [done.ownerAcl found isOwner] at failed
          cases failed
        · exact ⟨found, isOwner, free⟩
      · rintro ⟨found, isOwner, free⟩
        exact ⟨done.owner, found, isOwner, .inr free⟩
    rw [passes_iff]
    obtain ⟨granted, found, why⟩ | ⟨denied, why⟩ := (hasPermission_done right isKnown done).2
    · rw [granted]
      constructor
      · rintro ⟨-, uncarried⟩
        exact .inl ⟨found, why.resolve_right fun carried => uncarried ⟨found, done, carried⟩⟩
      · rintro (⟨-, owns⟩ | ⟨-, broken⟩)
        · refine ⟨.inl (by decide), fun carried => ?_⟩
          have isCarried := carried.carries
          rw [AclTables.carries, owns.2] at isCarried
          cases isCarried
        · exact absurd done broken.undone
    · rw [denied]
      refine iff_of_false (fun passing => not_passing_zero passing.1) ?_
      rintro (⟨found, owns⟩ | ⟨-, broken⟩)
      · exact why ⟨found, .inl owns⟩
      · exact broken.undone done
  · have ungranted : ¬ AnyoneCarries tables mailbox faults right known :=
      fun granted => done granted.done
    have broken : LookupBroken tables mailbox faults.anyone known tables.anyone := ⟨done, lost⟩
    obtain ⟨granted, passes⟩ | ⟨answer, unpassed⟩ := hasPermission_failed right isKnown broken
    · rw [granted]
      exact ⟨fun _ => .inl passes, fun _ => ⟨.inl (by decide), ungranted⟩⟩
    · rw [answer]
      constructor
      · rintro ⟨positive | ⟨isRead, -⟩, -⟩
        · cases positive
        · exact .inr ⟨isRead, broken⟩
      · rintro (passes | ⟨isRead, -⟩)
        · exact absurd passes unpassed
        · exact ⟨.inr ⟨isRead, by decide⟩, ungranted⟩

/-- The rest of a check whose first lookup ends without a grant. -/
theorem second_passing_iff (denied : OwnDenied tables mailbox faults access user right known)
    (only : ∀ other, OwnDenied tables mailbox faults access user right other → other = known)
    (ungranted : ¬ (LookupDone tables mailbox faults.own access.owner user ∧
      OwnGrant tables mailbox user right))
    (unbroken : ¬ LookupBroken tables mailbox faults.own access.owner user)
    (writable : right.writes = true → access.readWrite = true) :
    (Passing right (if faults.exists_ ∨ tables.anyone = 0 then 0
        else (hasPermission tables mailbox faults.anyone known tables.anyone right).1) ∧
      ¬ Granted tables mailbox faults access user right) ↔
        Leaks tables mailbox faults access user right := by
  have isKnown : known = 0 ∨ known = tables.owner mailbox := by
    cases denied with
    | done => exact .inr rfl
    | lost => exact .inl rfl
  have leaks_iff : Leaks tables mailbox faults access user right ↔
      AnyoneLeaks tables mailbox faults right known := by
    constructor
    · rintro ⟨-, broken | ⟨other, isDenied, leaks⟩⟩
      · exact absurd broken unbroken
      · rwa [only other isDenied] at leaks
    · intro leaks
      exact ⟨writable, .inr ⟨known, denied, leaks⟩⟩
  have granted_iff : Granted tables mailbox faults access user right ↔
      faults.exists_ = false ∧ AnyoneCarries tables mailbox faults right known := by
    constructor
    · rintro (own | ⟨other, isDenied, grant⟩)
      · exact absurd own ungranted
      · rwa [only other isDenied] at grant
    · intro grant
      exact .inr ⟨known, denied, grant⟩
  rw [leaks_iff, granted_iff]
  by_cases unasked : faults.exists_ = true ∨ tables.anyone = 0
  · rw [if_pos unasked]
    refine iff_of_false (fun passing => not_passing_zero passing.1) ?_
    rintro ⟨exists_, asked, -⟩
    rw [exists_] at unasked
    simp [asked] at unasked
  · rw [if_neg unasked]
    have exists_ : faults.exists_ = false := by simpa using fun fails => unasked (.inl fails)
    have asked : tables.anyone ≠ 0 := fun none => unasked (.inr none)
    rw [AnyoneLeaks, ← anyone_passing_iff isKnown]
    simp [exists_, asked]

theorem passing_ungranted_iff :
    (Passing right (aclHasRight tables mailbox faults access user right) ∧
      ¬ Granted tables mailbox faults access user right) ↔
        Leaks tables mailbox faults access user right := by
  unfold aclHasRight
  by_cases readOnly : right.writes = true ∧ (!access.readWrite) = true
  · rw [if_pos readOnly]
    refine iff_of_false (fun passing => not_passing_zero passing.1) fun leaks => ?_
    have writable := leaks.1 readOnly.1
    simp [writable] at readOnly
  rw [if_neg readOnly]
  have writable : right.writes = true → access.readWrite = true := by
    intro writes
    simpa [writes] using readOnly
  by_cases lost : OwnerLost faults.own access.owner
  · have undone : ¬ LookupDone tables mailbox faults.own access.owner user := by
      intro done
      have answered := done.owner lost.1
      rw [lost.2] at answered
      cases answered
    simp only [hasPermission_lost right lost, ne_eq, not_true_eq_false, if_false]
    refine second_passing_iff (.lost lost) (fun other isDenied => ?_) (fun own => undone own.1)
      (fun broken => broken.kept lost) writable
    cases isDenied with
    | done done => exact absurd done undone
    | lost => rfl
  by_cases done : LookupDone tables mailbox faults.own access.owner user
  · obtain ⟨owner, ⟨granted, found, why⟩ | ⟨denied, why⟩⟩ :=
      hasPermission_done right access.known done
    · refine iff_of_false (fun passing => passing.2 (.inl ⟨done, found, why⟩)) ?_
      rintro ⟨-, broken | ⟨known, own, -⟩⟩
      · exact broken.undone done
      · cases own with
        | done _ isDenied => exact isDenied ⟨found, why⟩
        | lost isLost => exact lost isLost
    · simp only [denied, owner, ne_eq, not_true_eq_false, if_false]
      refine second_passing_iff (.done done why) (fun other isDenied => ?_) (fun own => why own.2)
        (fun broken => broken.undone done) writable
      cases isDenied with
      | done => rfl
      | lost isLost => exact absurd isLost lost
  · have broken : LookupBroken tables mailbox faults.own access.owner user := ⟨done, lost⟩
    have passed : (hasPermission tables mailbox faults.own access.owner user right).1 ≠ 0 := by
      obtain ⟨granted, -⟩ | ⟨answer, -⟩ := hasPermission_failed right access.known broken
      · rw [granted]
        decide
      · rw [answer]
        decide
    simp only [ne_eq, passed, not_false_eq_true, if_true]
    constructor
    · intro _
      exact ⟨writable, .inl broken⟩
    · intro _
      refine ⟨.inl (by decide), ?_⟩
      rintro (own | ⟨known, own, -⟩)
      · exact done own.1
      · cases own with
        | done isDone => exact done isDone
        | lost isLost => exact lost isLost

end Checks

/-! ## Commands behind their checks -/

/-- The commands that are about access to the messages of a mailbox; EXAMINE runs
the worker of SELECT. -/
def accesses : Command → Bool
  | .select | .append | .copy | .store | .search | .expunge | .status => true
  | _ => false

def accessRights : List AclRight := [.read, .insert, .seen, .deleted, .write, .expunge]

def Deed.check? : Deed → Option (Nat × AclRight)
  | .passed mailbox right => some (mailbox, right)
  | .wrote _ _ => none

def Effects.checks (effects : Effects) : List (Nat × AclRight) :=
  effects.deeds.filterMap Deed.check?

theorem Effects.mem_checks {effects : Effects} {mailbox : Nat} {right : AclRight} :
    (mailbox, right) ∈ effects.checks ↔ .passed mailbox right ∈ effects.deeds := by
  simp only [Effects.checks, mem_filterMap]
  constructor
  · rintro ⟨deed, done, check⟩
    cases deed with
    | passed mailbox right =>
      cases check
      exact done
    | wrote mailbox change => cases check
  · intro done
    exact ⟨_, done, rfl⟩

abbrev Unchecking {α : Type} (body : Worker α) : Prop := Keeps Effects.checks body

instance : Unspoken Effects.checks := ⟨fun _ _ _ _ _ _ => rfl⟩

theorem wrote_unchecking (mailbox : Nat) (change : Change) :
    Unchecking (note (.wrote mailbox change)) := by
  intro effects
  show (effects.deeds ++ [Deed.wrote mailbox change]).filterMap Deed.check? = _
  rw [filterMap_append]
  exact append_nil _

section Vouched

variable (world : World) (session : Session)

/-- Every check that was gone past is one of these rights, with an answer that
lets pass. -/
def Vouched (effects : Effects) : Prop :=
  ∀ mailbox right, (mailbox, right) ∈ effects.checks →
    right ∈ accessRights ∧ Passing right (world.aclHasRight mailbox session.userid right)

abbrev Vouches {α : Type} (body : Worker α) : Prop :=
  Ensures (Vouched world session) body fun _ => True

variable {world session}

theorem Unchecking.vouches {α : Type} {body : Worker α} (silent : Unchecking body) :
    Vouches world session body :=
  fun effects vouched => ⟨fun mailbox right => by
    rw [silent effects]
    exact vouched mailbox right, trivial⟩

theorem vouches_bind {α β : Type} {first : Worker α} {next : α → Worker β}
    (begins : Vouches world session first) (rest : ∀ value, Vouches world session (next value)) :
    Vouches world session (first >>= next) :=
  Ensures.bind begins fun value _ => rest value

theorem passed_vouches {mailbox : Nat} {right : AclRight} (listed : right ∈ accessRights)
    (passing : Passing right (world.aclHasRight mailbox session.userid right)) :
    Vouches world session (note (.passed mailbox right)) := by
  intro effects vouched
  refine ⟨fun other otherRight done => ?_, trivial⟩
  have split : (other, otherRight) ∈ effects.checks ++ [(mailbox, right)] := by
    have same : (effects.deeds ++ [Deed.passed mailbox right]).filterMap Deed.check? =
      effects.checks ++ [(mailbox, right)] := filterMap_append
    rw [← same]
    exact done
  rcases mem_append.mp split with earlier | last
  · exact vouched other otherRight earlier
  · cases mem_singleton.mp last
    exact ⟨listed, passing⟩

theorem mailboxCheckAcl_positive (mailbox : Nat) (right : AclRight) :
    Ensures (Vouched world session) (mailboxCheckAcl world session mailbox right) fun access =>
      access = 0 → 0 < world.aclHasRight mailbox session.userid right := by
  intro effects vouched
  rw [mailboxCheckAcl_run]
  split
  · exact ⟨vouched, fun passed => absurd passed (by decide : (-1 : Int) ≠ 0)⟩
  split
  · exact ⟨vouched, fun passed => absurd passed (by decide : (1 : Int) ≠ 0)⟩
  · exact ⟨vouched, fun _ => by omega⟩

theorem checked_vouches {mailbox : Nat} {right : AclRight} {rest : Worker Int}
    (listed : right ∈ accessRights) (kept : Vouches world session rest) :
    Vouches world session (do
      let access ← mailboxCheckAcl world session mailbox right
      if access ≠ 0 then return access
      note (.passed mailbox right)
      rest) := by
  refine .bind (mailboxCheckAcl_positive mailbox right) fun access asked => ?_
  refine .branch (fun _ => .pure trivial) fun passed => ?_
  exact .bind (passed_vouches listed (.inl (asked (not_not.mp passed)))) fun _ _ => kept

theorem checkRights_vouches {mailbox : Nat} {denied : Option Reply} {rights : List AclRight}
    (listed : ∀ right ∈ rights, right ∈ accessRights) :
    Vouches world session (checkRights world session mailbox denied rights) := by
  induction rights with
  | nil => exact .pure trivial
  | cons right rest ih =>
    refine .bind (mailboxCheckAcl_positive mailbox right) fun access asked => ?_
    refine .branch (fun _ => ?_) fun passed => ?_
    · refine .bind (Unchecking.vouches ?_) fun _ _ => .pure trivial
      cases denied with
      | none => exact .pure _
      | some reply => exact say_keeps reply
    · refine .bind (passed_vouches (listed right mem_cons_self)
        (.inl (asked (not_not.mp passed)))) fun _ _ => ?_
      exact ih fun other member => listed other (mem_cons_of_mem _ member)

theorem flagRights_listed (words : List Bytes) (recentNeedsWrite : Bool) :
    ∀ right ∈ flagRights words recentNeedsWrite, right ∈ accessRights := by
  intro right member
  simp only [flagRights, mem_append, mem_ite_nil_right, mem_singleton] at member
  rcases member with (⟨-, rfl⟩ | ⟨-, rfl⟩) | ⟨-, rfl⟩ <;> decide

theorem selectAnswer_unchecking (mailbox : Nat) :
    Unchecking (selectAnswer world session mailbox) := by
  refine .bind (fun _ => rfl) fun _ => .bind (sayAll_keeps _) fun _ => ?_
  refine .ite (.bind (wrote_unchecking _ _) fun _ => ?_) ?_
  all_goals
    refine .bind .get fun _ => .ite (.bind (sayAll_keeps _) fun _ => ?_) ?_
    all_goals exact .bind .get fun _ => answer_keeps _ _

theorem imapSessionMailboxOpen_vouches (name : Bytes) :
    Vouches world session (imapSessionMailboxOpen world session name) := by
  intro effects vouched
  rw [imapSessionMailboxOpen_run]
  cases findOrCreateInbox world session name with
  | none => exact ⟨vouched, trivial⟩
  | some mailbox =>
    dsimp only
    by_cases denied : world.aclHasRight mailbox session.userid .read = 0
    · rw [if_pos denied]
      exact ⟨vouched, trivial⟩
    · rw [if_neg denied]
      exact passed_vouches (by decide) (.inr ⟨rfl, denied⟩) effects vouched

theorem imapSessionMailboxClose_unchecking : Unchecking (imapSessionMailboxClose session) := by
  intro effects
  rw [imapSessionMailboxClose_run]
  rfl

theorem selectEnter_vouches (name : Bytes) :
    Vouches world session (selectEnter world session name) := by
  unfold selectEnter
  split
  · exact Unchecking.vouches (answer_keeps _ _)
  have opening : Vouches world session (selectOpen world session name) := by
    refine .bind imapSessionMailboxClose_unchecking.vouches fun _ _ => ?_
    refine .bind (imapSessionMailboxOpen_vouches name) fun opened _ => ?_
    cases opened with
    | error status => exact .pure trivial
    | ok mailbox => exact (selectAnswer_unchecking mailbox).vouches
  exact .bind (Unchecking.vouches fun _ => rfl) fun _ _ => opening

theorem appendGranted_vouches {mailbox : Nat}
    (granted : 0 < world.aclHasRight mailbox session.userid .insert) (words : List Bytes)
    (date : Option Bytes) (message : Bytes) :
    Vouches world session (appendGranted world session mailbox words date message) := by
  refine .bind (Unchecking.vouches (sessionMbxinfoLookup_keeps world mailbox)) fun _ _ => ?_
  refine .bind (passed_vouches (by decide) (.inl granted)) fun _ _ => ?_
  refine .bind (checkRights_vouches (flagRights_listed words true)) fun _ _ => ?_
  refine .branch (fun _ => .pure trivial) fun _ => Unchecking.vouches ?_
  exact appendMessage_keeps world session (wrote_unchecking _ _)
    (sessionMailboxStatus_keeps world fun _ => rfl) date message

theorem imapSessionMailboxCheckAcl_unchecking (mailbox : Nat) (right : AclRight) :
    Unchecking (imapSessionMailboxCheckAcl world session mailbox right) := by
  intro effects
  rw [imapSessionMailboxCheckAcl_run]
  split_ifs <;> rfl

theorem Entered.vouches {job : Command} {body : Worker Int} (entered : Entered world session job body)
    (listed : accesses job = true) : Vouches world session body := by
  cases entered with
  | select => exact selectEnter_vouches _
  | status | expunge | search | store | copy =>
    -- whatever stands between their checks goes past none
    first
      | unfold statusAnswer
      | unfold copyEnter sessionOkWithRespCode
      | unfold storeMessages sessionOk sessionOkWithRespCode
      | unfold expungeEnter
      | unfold sortedSearchEnter
    repeat' first
      | with_reducible refine checked_vouches (by decide) ?_
      | with_reducible refine Ensures.branch (fun _ => ?_) fun _ => ?_
      | with_reducible exact checkRights_vouches (flagRights_listed _ _)
      | with_reducible refine vouches_bind ?_ fun _ => ?_
      | split
      | refine Unchecking.vouches ?_
        with_reducible first
          | exact .pure _
          | exact say_keeps _
          | exact sayAll_keeps _
          | exact answer_keeps _ _
          | exact finish_keeps session
          | exact sessionOkWith_keeps session _
          | exact getIds_keeps world session _
          | exact statusItems_keeps world session _ _ _
          | exact expunged_keeps session _
          | exact wrote_unchecking _ _
          | exact sessionMbxinfoLookup_keeps world _
          | exact sessionMailboxStatus_keeps world fun _ => rfl
  | append _ _ granted _ => exact appendGranted_vouches granted _ _ _
  | appendIncomplete _ _ granted _ =>
    refine .bind (Unchecking.vouches (sessionMbxinfoLookup_keeps world _)) fun _ _ => ?_
    refine .bind (passed_vouches (by decide) (.inl granted)) fun _ _ => ?_
    exact Unchecking.vouches (answer_keeps _ _)
  | appendDenied => exact (imapSessionMailboxCheckAcl_unchecking _ _).vouches
  | statusRefused | storeRefused | appendUnknown => exact Unchecking.vouches (answer_keeps _ _)
  | unpushed other => cases job <;> cases listed <;> cases other
  | _ => cases listed

/-- Whatever check such a command goes past let it. -/
theorem enter_vouched {job : Command} {result : Int × Effects} {mailbox : Nat} {right : AclRight}
    (returned : enter world session job = .ok result) (listed : accesses job = true)
    (passed : .passed mailbox right ∈ result.2.deeds) :
    right ∈ accessRights ∧ Passing right (world.aclHasRight mailbox session.userid right) := by
  obtain ⟨body, entered, performed⟩ := enter_entered returned
  have start : Vouched world session session.effects :=
    fun _ _ none => absurd none not_mem_nil
  have vouched := (entered.vouches listed _ start).1
  rw [show body.run _ = result from Except.ok.inj performed] at vouched
  exact vouched mailbox right (Effects.mem_checks.mpr passed)

end Vouched

/-! ## A command for each right -/

section Probes

variable (mailbox user : Nat) (right : AclRight) (verdict : Int)

/-- A world in which one right gets a given answer, every other one is granted
and no message set is valid, so that a command ends behind its checks. -/
def probeWorld : World where
  __ := openWorld
  findMailbox := fun _ _ => some mailbox
  aclHasRight := fun _ _ asked => if asked = right then verdict else 1
  messageSet := fun _ => false

def probeSession (args : List Bytes) : Session where
  __ := handleConnection ⟨[], false, false, false, false, 0⟩ false
  state := .selected
  userid := user
  mailbox := some mailbox
  args := args

def probeCommand : AclRight → Command × List Bytes
  | .read => (.select, [lit "INBOX"])
  | .insert => (.copy, [lit "1", lit "INBOX"])
  | .seen => (.store, [lit "1", lit "FLAGS", lit "\\Seen"])
  | .deleted => (.store, [lit "1", lit "FLAGS", lit "\\Deleted"])
  | .write => (.store, [lit "1", lit "FLAGS", lit "\\Flagged"])
  | _ => (.expunge, [])

section Granted

variable {world : World} {session : Session} {mailbox : Nat} {right : AclRight}
  (granted : 0 < world.aclHasRight mailbox session.userid right)

include granted

theorem mailboxCheckAcl_granted (effects : Effects) :
    (mailboxCheckAcl world session mailbox right).run effects = (0, effects) := by
  rw [mailboxCheckAcl_run, if_neg granted.not_gt, if_neg granted.ne']

theorem checked_granted (rest : Worker Int) (effects : Effects) :
    (do
      let access ← mailboxCheckAcl world session mailbox right
      if access ≠ 0 then return access
      note (.passed mailbox right)
      rest : Worker Int).run effects =
    rest.run { effects with deeds := effects.deeds ++ [.passed mailbox right] } := by
  rw [StateT.run_bind, mailboxCheckAcl_granted granted]
  rfl

end Granted

def Probed : Prop :=
  ∃ result, enter (probeWorld mailbox right verdict)
    (probeSession mailbox user (probeCommand right).2) (probeCommand right).1 = .ok result ∧
      .passed mailbox right ∈ result.2.deeds

theorem read_probed (passing : verdict ≠ 0) : Probed mailbox user .read verdict := by
  refine ⟨_, if_neg (ne_true_of_eq_false (selectReadsFreed_eq_false _ _ rfl rfl _)), ?_⟩
  show _ ∈ ((selectEnter _ (probeSession mailbox user [lit "INBOX"]) _).run _).2.deeds
  rw [selectEnter_run, show selectParseArgs (probeSession mailbox user [lit "INBOX"]) =
    some (false, none) from rfl]
  simp only [imapSessionMailboxOpen_run]
  rw [show findOrCreateInbox (probeWorld mailbox .read verdict) _ _ = some mailbox from rfl]
  dsimp only
  have answered : (probeWorld mailbox .read verdict).aclHasRight mailbox
      (probeSession mailbox user [lit "INBOX"]).userid .read ≠ 0 := passing
  rw [if_neg answered]
  refine Effects.mem_checks.mp ?_
  show _ ∈ (StateT.run (selectAnswer (probeWorld mailbox .read verdict)
    (probeSession mailbox user [lit "INBOX"]) mailbox) _).2.checks
  rw [selectAnswer_unchecking mailbox]
  exact Effects.mem_checks.mpr (mem_append_right _ mem_cons_self)

theorem insert_probed (passing : 0 < verdict) : Probed mailbox user .insert verdict := by
  refine ⟨_, rfl, ?_⟩
  show _ ∈ (StateT.run (do
    let access ← mailboxCheckAcl _ _ mailbox .read
    if access ≠ 0 then return access
    note (.passed mailbox .read)
    sessionMbxinfoLookup (probeWorld mailbox .insert verdict) mailbox
    let access ← mailboxCheckAcl (probeWorld mailbox .insert verdict)
      (probeSession mailbox user (probeCommand .insert).2) mailbox .insert
    if access ≠ 0 then return access
    note (.passed mailbox .insert)
    _) _).2.deeds
  rw [checked_granted (show (0 : Int) < 1 by decide), sessionMbxinfoLookup_bind_run,
    checked_granted passing]
  exact mem_cons_of_mem _ mem_cons_self

theorem expunge_probed (passing : 0 < verdict) : Probed mailbox user .expunge verdict := by
  refine ⟨_, rfl, ?_⟩
  rw [expungeEnter, checked_granted passing]
  exact mem_cons_self

theorem flag_probed (flag : right = .seen ∨ right = .deleted ∨ right = .write)
    (passing : 0 < verdict) : Probed mailbox user right verdict := by
  rcases flag with rfl | rfl | rfl
  all_goals
    refine ⟨_, rfl, ?_⟩
    show _ ∈ (((mailboxCheckAcl _ _ mailbox _ >>= fun _ => _) >>= fun _ => _).run _).2.deeds
    rw [bind_assoc, StateT.run_bind, mailboxCheckAcl_granted passing]
    exact mem_cons_self

variable {right}

theorem probed (listed : right ∈ accessRights) (passing : Passing right verdict) :
    Probed mailbox user right verdict := by
  have positive (other : right ≠ .read) : 0 < verdict :=
    passing.resolve_right fun isRead => other isRead.1
  cases right with
  | read =>
    refine read_probed mailbox user verdict ?_
    rcases passing with positive | ⟨-, nonzero⟩
    · exact positive.ne'
    · exact nonzero
  | insert => exact insert_probed mailbox user verdict (positive (by decide))
  | expunge => exact expunge_probed mailbox user verdict (positive (by decide))
  | seen | deleted | write =>
    exact flag_probed mailbox user _ verdict (by decide) (positive (by decide))
  | lookup | create | delete | administer => exact absurd listed (by decide)

end Probes

/-! ## Access control fails closed -/

section FailsClosed

variable (tables : AclTables) (mailbox : Nat) (faults : CheckFaults)
  (access : MailboxAccess tables mailbox) (user : Nat) (right : AclRight)

/-- Whenever a command of the user goes past a check of the right to the mailbox,
in whatever session and whatever the other lookups answer, the right was granted. -/
def FailsClosed : Prop :=
  ∀ (world : World) (session : Session) (job : Command) (result : Int × Effects),
    accesses job = true → session.userid = user →
    world.aclHasRight mailbox user right = aclHasRight tables mailbox faults access user right →
    enter world session job = .ok result → .passed mailbox right ∈ result.2.deeds →
    Granted tables mailbox faults access user right

theorem failsClosed_iff :
    FailsClosed tables mailbox faults access user right ↔
      ¬ (right ∈ accessRights ∧ Leaks tables mailbox faults access user right) := by
  rw [← passing_ungranted_iff]
  constructor
  · rintro closed ⟨listed, passing, ungranted⟩
    obtain ⟨result, entered, passed⟩ := probed mailbox user _ listed passing
    refine ungranted (closed _ _ _ result ?_ rfl ?_ entered passed)
    · cases right <;> rfl
    · exact if_pos rfl
  · intro sound world session job result listed isUser asked entered passed
    obtain ⟨isRight, passing⟩ := enter_vouched entered listed passed
    rw [isUser, asked] at passing
    by_contra ungranted
    exact sound ⟨isRight, passing, ungranted⟩

end FailsClosed

/-- A mailbox of user 1 with no ACL rows, and no user `anyone`. -/
def privateTables : AclTables := ⟨fun _ => 1, fun _ _ => none, 0⟩

def rightQueryFails : CheckFaults :=
  ⟨⟨.none, false, true⟩, false, ⟨.none, false, false⟩⟩

/-- User 2 is let into the mailbox of user 1 when the query for their right fails. -/
theorem failed_query_admits :
    ¬ FailsClosed privateTables 7 rightQueryFails ⟨true, 1, .inr rfl⟩ 2 .read := by
  intro closed
  have granted := closed (probeWorld 7 .read 1) (probeSession 7 2 [lit "INBOX"]) .select _ rfl rfl
    (by decide) rfl (by decide +kernel)
  have undone : ¬ LookupDone privateTables 7 rightQueryFails.own 1 2 := by
    intro done
    have failed : rightQueryFails.own.right = false := done.right (by decide) (by
      rintro ⟨isOwner, -⟩
      exact absurd isOwner (by decide))
    cases failed
  obtain ⟨done, -⟩ | ⟨known, denied, -⟩ := granted
  · exact undone done
  · cases denied with
    | done done => exact undone done
    | lost lost => exact absurd lost.1 (by decide)

end Dbmail.Imap
