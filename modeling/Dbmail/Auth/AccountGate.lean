import Dbmail.Auth.ChallengeResponse

/-!
Contract: the account policy over every authentication path of the SQL backend.

Owns the paths (plain password, CRAM-MD5, APOP), the policy they share (the
account is active, it is not the owner of the public folders, the usermap
permits the login), and the exact inputs on which a path lets in an account
that the policy keeps out.

Does not own: the decision functions themselves.
-/

namespace Dbmail.Auth

open Dbmail.Lib

/-! ## Paths -/

inductive Path where
  | plain (username password : Bytes)
  | cram (exchange : Cram)
  | apop (stamp value : Bytes)

def Path.login : Path → Bytes
  | .plain username _ => username
  | .cram exchange => exchange.username.getD []
  | .apop _ value => apopUsername value

/-- The account of a successful `auth_validate`. -/
def validated (result : Int × Nat) : Option Nat :=
  if result.1 = 1 then some result.2 else none

variable (env : AuthEnv)

def attempt : Path → Except Fault (Option Nat)
  | .plain username password =>
    validated <$> authValidate env none (some username) (some password)
  | .cram exchange => validated <$> authValidate env (some exchange) none none
  | .apop stamp value => do
    match ← pop3Apop env stamp value with
    | .authenticated userIdnr => return some userIdnr
    | _ => return none

/-- The name the account is looked up by: `auth_md5_validate` takes the login
as it is, `auth_validate` the one that the usermap gives. -/
def Path.accountName : Path → Option Bytes
  | .apop _ value => some (apopUsername value)
  | path => (realUsername env path.login).toOption

def Path.Credentials (row : UserRow) : Path → Prop
  | .plain username password =>
    username ≠ [] ∧ password ≠ [] ∧
      validatePasswords env none row.userIdnr (some password) = .ok 1
  | .cram exchange =>
    exchange.username ≠ none ∧
      validatePasswords env (some exchange) row.userIdnr none = .ok 1
  | .apop stamp value => ApopCredentials env stamp value row

def Path.Screened (row : UserRow) : Path → Prop
  | .apop _ _ => True
  | path => path.login ≠ publicFolderUser ∧ (env.faults.active = true ∨ row.active ≠ 0)

def Path.Reaches (path : Path) (row : UserRow) : Prop :=
  env.faults.userExists = false ∧
    (∃ name, path.accountName env = some name ∧ env.db.users.byName name = some row) ∧
    path.Credentials env row

private theorem toOption_eq_some_iff {ε α : Type} {result : Except ε α} {value : α} :
    result.toOption = some value ↔ result = .ok value := by
  cases result <;> simp [Except.toOption]

private theorem validated_map_eq_ok_iff {result : Except Fault (Int × Nat)} {userIdnr : Nat} :
    validated <$> result = .ok (some userIdnr) ↔ result = .ok (1, userIdnr) := by
  cases result with
  | error fault => simp
  | ok pair =>
    obtain ⟨code, account⟩ := pair
    by_cases success : code = 1 <;> simp [validated]

/-- `auth_validate` for the login it uses, in the shape of `Path.Reaches`. -/
private theorem authValidate_account_iff {env : AuthEnv} {auth : Option Cram}
    {username password : Option Bytes} {login : Bytes} (userIdnr : Nat)
    (named : loginName auth username password = .ok (some login)) :
    authValidate env auth username password = .ok (1, userIdnr) ↔
      ∃ row, (env.faults.userExists = false ∧
          (∃ name, (realUsername env login).toOption = some name ∧
            env.db.users.byName name = some row) ∧
          validatePasswords env auth row.userIdnr password = .ok 1) ∧
        (login ≠ publicFolderUser ∧ (env.faults.active = true ∨ row.active ≠ 0)) ∧
        row.userIdnr = userIdnr := by
  simp only [authValidate_success_iff, named, Except.ok.injEq, Option.some.injEq,
    exists_eq_left', admittedUser_ok_iff, toOption_eq_some_iff]
  constructor
  · rintro ⟨⟨notShared, real, row, mapped, healthy, found, active, rfl⟩, accepted⟩
    exact ⟨row, ⟨healthy, ⟨real, mapped, found⟩, accepted⟩, ⟨notShared, active⟩, rfl⟩
  · rintro ⟨row, ⟨healthy, ⟨real, mapped, found⟩, accepted⟩, ⟨notShared, active⟩, rfl⟩
    exact ⟨⟨notShared, real, row, mapped, healthy, found, active, rfl⟩, accepted⟩

/-- A path succeeds exactly for the account it reaches and screens. -/
theorem attempt_eq_some_iff (path : Path) (userIdnr : Nat) :
    attempt env path = .ok (some userIdnr) ↔
      ∃ row, path.Reaches env row ∧ path.Screened env row ∧ row.userIdnr = userIdnr := by
  cases path with
  | plain username password =>
    simp only [attempt, validated_map_eq_ok_iff, Path.Reaches, Path.Screened,
      Path.accountName, Path.login, Path.Credentials]
    by_cases given : username ≠ [] ∧ password ≠ []
    · have named : loginName none (some username) (some password) = .ok (some username) := by
        simp [loginName, constNull, List.isEmpty_eq_false_iff.mpr given.1,
          List.isEmpty_eq_false_iff.mpr given.2]
      rw [authValidate_account_iff userIdnr named]
      simp [ne_eq, given.1, given.2, true_and]
    · have unnamed : loginName none (some username) (some password) = .ok none := by
        rw [not_and_or, not_not, not_not] at given
        rcases given with rfl | rfl <;> simp [loginName, constNull]
      simp only [authValidate_success_iff, unnamed]
      simp only [Except.ok.injEq, reduceCtorEq, false_and, exists_false, false_iff]
      rintro ⟨row, ⟨-, -, nonempty, nonempty', -⟩, -⟩
      exact given ⟨nonempty, nonempty'⟩
  | cram exchange =>
    simp only [attempt, validated_map_eq_ok_iff, Path.Reaches, Path.Screened,
      Path.accountName, Path.login, Path.Credentials]
    cases name : exchange.username with
    | none => simp [authValidate_success_iff, loginName, constNull, cramGetUsername, name]
    | some login =>
      have named : loginName (some exchange) none none = .ok (some login) := by
        simp [loginName, constNull, cramGetUsername, name]
      rw [authValidate_account_iff userIdnr named]
      simp [ne_eq, reduceCtorEq, true_and]
  | apop stamp value =>
    have success : attempt env (.apop stamp value) = .ok (some userIdnr) ↔
        pop3Apop env stamp value = .ok (.authenticated userIdnr) := by
      simp only [attempt]
      cases pop3Apop env stamp value with
      | error fault => simp [bind, Except.bind]
      | ok reply => cases reply <;> simp [bind, Except.bind, pure, Except.pure]
    rw [success, pop3Apop_authenticated_iff]
    simp [Path.Reaches, Path.Screened, Path.accountName, Path.Credentials, exists_eq_left', true_and, and_assoc]

/-! ## Policy -/

def AuthEnv.healthy (env : AuthEnv) : AuthEnv := { env with faults := .healthy }

def Permits (login : Bytes) : Prop :=
  env.db.usermap ≠ none → (dbUsermapResolve env.sockScore env.db none env.peer login).1 = dmSuccess

structure Gate (env : AuthEnv) (login : Bytes) (userIdnr : Nat) : Prop where
  active : ∃ row, env.db.users.byIdnr userIdnr = some row ∧ row.active ≠ 0
  notOwner : ∀ owner, env.db.users.byName publicFolderUser = some owner → owner.userIdnr ≠ userIdnr
  permitted : Permits env login

/-- A path refuses the account on grounds of the policy: `auth_validate` on the
name, the usermap or the active flag, `auth_md5_validate` never. -/
def Path.Refuses (userIdnr : Nat) : Path → Prop
  | .apop _ _ => False
  | path => path.login = publicFolderUser ∨
      (∃ code, realUsername env.healthy path.login = .error code) ∨
      admittedUser env.healthy path.login = .error (0, userIdnr)

/-- Success of the path implies the policy, and no path for the same login
refuses the account. -/
def GateHolds (path : Path) : Prop :=
  ∀ userIdnr, attempt env path = .ok (some userIdnr) → Gate env path.login userIdnr ∧
      ∀ other : Path, other.login = path.login → ¬ other.Refuses env userIdnr

def UsermapUnread : Prop :=
  env.faults.usermapTable = true ∨ env.faults.usermap ≠ none

/-- What a path overlooks. APOP looks at nothing. The other two trust a failing
query for the active flag, compare the login and not the account with the
public owner, and treat an unread usermap as permission. -/
def Path.Overlooks (row : UserRow) : Path → Prop
  | .apop _ value =>
    row.active = 0 ∨ env.db.users.byName publicFolderUser = some row ∨
      ¬ Permits env (apopUsername value)
  | path =>
    path.Screened env row ∧
      ((env.faults.active = true ∧ row.active = 0) ∨
        env.db.users.byName publicFolderUser = some row ∨
        (UsermapUnread env ∧ ¬ Permits env path.login))

/-! ## Facts about the policy -/

variable {env : AuthEnv}

/-- A usermap that is read to its end and lets the login through permits it. -/
theorem permits_of_realUsername {login real : Bytes}
    (mapped : realUsername env login = .ok real) (read : ¬ UsermapUnread env) :
    Permits env login := by
  simp only [UsermapUnread, not_or, not_not] at read
  obtain ⟨tableRead, mapRead⟩ := read
  intro inUse
  rcases (realUsername_ok_iff env login real).mp mapped with ⟨unused, -⟩ | ⟨-, resolved⟩
  · simp [dbUseUsermap, tableRead, inUse] at unused
  · rw [mapRead] at resolved
    rw [resolved]

/-- A permitted login gets through the usermap when no statement fails. -/
theorem Permits.realUsername_ok {login : Bytes} (permitted : Permits env login) :
    ∃ real, realUsername env.healthy login = .ok real := by
  by_cases inUse : env.db.usermap = none
  · have unused : dbUseUsermap env.healthy.db env.healthy.faults.usermapTable = false := by
      simp [dbUseUsermap, AuthEnv.healthy, inUse]
    exact ⟨_, (realUsername_ok_iff _ _ _).mpr (.inl ⟨unused, rfl⟩)⟩
  · let resolved := dbUsermapResolve env.sockScore env.db none env.peer login
    refine ⟨resolved.2, (realUsername_ok_iff _ _ _).mpr (.inr ⟨?_, ?_⟩)⟩
    · simp [dbUseUsermap, AuthEnv.healthy, SqlFaults.healthy, Option.isSome_iff_ne_none, inUse]
    · exact Prod.ext (permitted inUse) rfl

/-- `auth_validate` hands back a refused account only when it is inactive. -/
theorem admittedUser_error_inactive {tuser : Bytes} {userIdnr : Nat}
    (nonzero : userIdnr ≠ 0) (refused : admittedUser env tuser = .error (0, userIdnr)) :
    dbUserActive env.db.users env.faults.active userIdnr = false := by
  simp only [admittedUser] at refused
  split at refused
  · simp [nonzero.symm] at refused
  · split at refused
    · simp [nonzero.symm] at refused
    · split at refused
      · simp [nonzero.symm] at refused
      · split at refused
        · simp at refused
        · rename_i inactive
          simp only [Except.error.injEq, Prod.mk.injEq, true_and] at refused
          rw [refused] at inactive
          simpa using inactive

theorem UserTable.byName_inj {users : UserTable} {left right : Bytes} {row other : UserRow}
    (found : users.byName left = some row) (foundOther : users.byName right = some other)
    (sameId : row.userIdnr = other.userIdnr) : row = other := by
  have byRow := UserTable.byIdnr_of_byName found
  rw [sameId, UserTable.byIdnr_of_byName foundOther] at byRow
  exact (Option.some.inj byRow).symm

/-- The policy on an account found by name, read off its row. -/
theorem gate_iff_of_byName {name : Bytes} {row : UserRow} (login : Bytes)
    (found : env.db.users.byName name = some row) :
    Gate env login row.userIdnr ↔
      row.active ≠ 0 ∧ env.db.users.byName publicFolderUser ≠ some row ∧ Permits env login := by
  have byId := UserTable.byIdnr_of_byName found
  constructor
  · rintro ⟨⟨active, lookup, flag⟩, notOwner, permitted⟩
    rw [byId, Option.some.injEq] at lookup
    exact ⟨lookup ▸ flag, fun owned => notOwner row owned rfl, permitted⟩
  · rintro ⟨flag, notOwner, permitted⟩
    refine ⟨⟨row, byId, flag⟩, fun owner owned sameId => notOwner ?_, permitted⟩
    rw [owned, UserTable.byName_inj owned found sameId]

/-- An account admitted by the policy is refused on no path of its login. -/
theorem Gate.not_refuses {path : Path} {row : UserRow}
    (reached : path.Reaches env row) (screened : path.Screened env row)
    (gate : Gate env path.login row.userIdnr) (other : Path)
    (sameLogin : other.login = path.login) : ¬ other.Refuses env row.userIdnr := by
  obtain ⟨-, ⟨name, looked, found⟩, -⟩ := reached
  have notShared : path.login ≠ publicFolderUser := by
    cases path with
    | plain | cram => exact screened.1
    | apop stamp value =>
      -- APOP looks the login up as it is, so the name would find the owner
      intro shared
      simp only [Path.accountName, Option.some.injEq] at looked
      simp only [Path.login] at shared
      rw [← looked, shared] at found
      exact gate.notOwner row found rfl
  have grounds : ¬ (other.login = publicFolderUser ∨
      (∃ code, realUsername env.healthy other.login = .error code) ∨
      admittedUser env.healthy other.login = .error (0, row.userIdnr)) := by
    rw [sameLogin]
    rintro (shared | ⟨code, denied⟩ | refused)
    · exact notShared shared
    · obtain ⟨real, mapped⟩ := gate.permitted.realUsername_ok
      rw [mapped] at denied
      cases denied
    · have positive := (env.db.users.keyRange row (UserTable.byName_mem found)).1
      have inactive := admittedUser_error_inactive (by omega) refused
      obtain ⟨active, lookup, flag⟩ := gate.active
      simp [dbUserActive, AuthEnv.healthy, lookup, flag] at inactive
  cases other with
  | plain | cram => exact grounds
  | apop => exact id

/-- On a reached and screened account the policy fails exactly where the path
overlooks something. -/
theorem not_gate_iff_overlooks {path : Path} {row : UserRow} (reached : path.Reaches env row) :
    (path.Screened env row ∧ ¬ Gate env path.login row.userIdnr) ↔ path.Overlooks env row := by
  obtain ⟨-, ⟨name, looked, found⟩, -⟩ := reached
  rw [gate_iff_of_byName path.login found]
  have unread : path.accountName env = (realUsername env path.login).toOption →
      ¬ Permits env path.login → UsermapUnread env := by
    intro viaUsermap denied
    rw [viaUsermap, toOption_eq_some_iff] at looked
    by_contra read
    exact denied (permits_of_realUsername looked read)
  cases path with
  | plain | cram =>
    simp only [Path.Screened, Path.Overlooks] at unread ⊢
    tauto
  | apop stamp value =>
    simp only [Path.Overlooks]
    tauto

/-! ## The gate -/

/-- The policy holds for an attempt exactly when the path does not reach an
account at which it overlooks something. -/
theorem gateHolds_iff (env : AuthEnv) (path : Path) :
    GateHolds env path ↔ ¬ ∃ row, path.Reaches env row ∧ path.Overlooks env row := by
  constructor
  · rintro holds ⟨row, reached, overlooked⟩
    obtain ⟨screened, outside⟩ := (not_gate_iff_overlooks reached).mpr overlooked
    have success := (attempt_eq_some_iff env path row.userIdnr).mpr
      ⟨row, reached, screened, rfl⟩
    exact outside (holds row.userIdnr success).1
  · intro covered userIdnr success
    obtain ⟨row, reached, screened, rfl⟩ := (attempt_eq_some_iff env path userIdnr).mp success
    have gate : Gate env path.login row.userIdnr := by
      by_contra outside
      exact covered ⟨row, reached, (not_gate_iff_overlooks reached).mp ⟨screened, outside⟩⟩
    exact ⟨gate, Gate.not_refuses reached screened gate⟩

def inactiveEnv : AuthEnv where
  digests := testDigests
  sockScore := fun _ _ => 0
  db := {
    users := {
      rows := [⟨7, lit "mrose", lit "tanstaaf", [], [], 0⟩]
      primaryKey := by decide
      keyRange := by decide }
    usermap := none }
  faults := .healthy
  peer := ⟨1, lit "192.0.2.1", lit "110"⟩

/-- APOP logs the inactive account in, which the plain password path refuses. -/
theorem apop_admits_inactive_account :
    ¬ GateHolds inactiveEnv (.apop (lit "<1896.697170952@dbc.mtview.ca.us>")
      (lit "mrose c4c9334bac560ecc979e58001b3e22fb")) := by
  intro holds
  obtain ⟨⟨row, found, active⟩, -, -⟩ := (holds 7 rfl).1
  cases found
  exact active rfl

end Dbmail.Auth
