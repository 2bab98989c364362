import Dbmail.Auth.Accounts

/-!
Contract: the decision functions of the SQL authentication backend.

Owns `db_user_validate` (`dm_db.c`), `auth_validate` and `auth_md5_validate`
(`modules/authsql.c`), and the APOP command of `pop3.c` up to the result it
acts on.

Does not own: the effects of a login on the database (`last_login`, the
security action of a login by `spasswd`), or the protocol sessions.
-/

namespace Dbmail.Auth

open Dbmail.Lib

/-- `COLUMN_WIDTH`, the number of bytes kept of a fetched column. -/
def columnWidth : Nat := 255

def fieldSize : Nat := 1024

/-! ## Passwords -/

/-- The chain of encryption types in `db_user_validate` for a password that is
not stored as plain text. -/
def checkEncoded (digests : Digests) (encode dbpass password : Bytes) : Bool :=
  if strcasecmpEq encode (lit "crypt") then
    digests.crypt password dbpass == dbpass
  else if strcasecmpEq encode (lit "md5") then
    if strncmpEq dbpass (lit "$1$") 3 then
      strncmpEq dbpass ((digests.crypt password dbpass).take 34) 34
    else strncmpEq (digests.md5 password) dbpass 32
  else if strcasecmpEq encode (lit "md5sum") then
    strncmpEq (digests.md5 password) dbpass 32
  else if strcasecmpEq encode (lit "md5base64") then
    strncmpEq (digests.md5Base64 password) dbpass 32
  else if strcasecmpEq encode (lit "whirlpool") then
    strncmpEq (digests.whirlpool password) dbpass 128
  else if strcasecmpEq encode (lit "sha512") then
    strncmpEq (digests.sha512 password) dbpass 128
  else if strcasecmpEq encode (lit "sha256") then
    strncmpEq (digests.sha256 password) dbpass 64
  else if strcasecmpEq encode (lit "sha1") then
    strncmpEq (digests.sha1 password) dbpass 32
  else if strcasecmpEq encode (lit "tiger") then
    strncmpEq (digests.tiger password) dbpass 48
  else false

def truth (passed : Bool) : Int := if passed then 1 else 0

/-- `db_user_validate` on the fetched password column and encryption type.
A plain-text password is checked against the exchange object `ci->auth` when
there is one, else against `password`. -/
def dbUserValidate (digests : Digests) (auth : Option Cram) (fetched : Fetch (Bytes × Bytes))
    (password : Option Bytes) : Except Fault Int :=
  match fetched with
  | .exception => .ok dmEQuery
  | .noRow => .ok 0
  | .row (column, encryption) =>
    let dbpass := column.take columnWidth
    let encode := encryption.take columnWidth
    if dbpass = [] then .ok 0
    else if strcasecmpEq encode [] then
      match auth, password with
      | some cram, _ => truth <$> cramVerify digests cram dbpass
      | none, some given => .ok (truth (dbpass == given))
      | none, none => .error .nullPointer
    else match password with
      | none => .ok 0
      | some given => .ok (truth (checkEncoded digests encode dbpass given))

/-! ## `auth_validate` -/

def constNull : Option Bytes → Bool
  | none => true
  | some text => text.isEmpty

structure AuthEnv where
  digests : Digests
  sockScore : Bytes → Bytes → Int
  db : AccountDb
  faults : SqlFaults
  peer : Peer

/-- The name the attempt is made for: the user name, or that of the exchange
object when user name or password is empty. `none` is the early return. -/
def loginName (auth : Option Cram) (username password : Option Bytes) :
    Except Fault (Option Bytes) :=
  match constNull username || constNull password, auth, username with
  | true, some cram, _ => some <$> cramGetUsername cram
  | true, none, _ => .ok none
  | false, _, username => .ok username

variable (env : AuthEnv)

/-- The account name after the usermap, or the code with which the usermap
refuses the login. -/
def realUsername (tuser : Bytes) : Except Int Bytes :=
  if dbUseUsermap env.db env.faults.usermapTable then
    match dbUsermapResolve env.sockScore env.db env.faults.usermap env.peer tuser with
    | (code, real) =>
      if code = dmEGeneral then .error 0
      else if code = dmEQuery then .error dmEQuery
      else .ok real
  else .ok (tuser.take (dmUsernameLen - 1))

def validatePasswords (auth : Option Cram) (userIdnr : Nat)
    (password : Option Bytes) : Except Fault Int := do
  let valid ← dbUserValidate env.digests auth
    (selectUser env.db.users env.faults.passwd userIdnr fun row =>
      (row.passwd, row.encryptionType)) password
  if valid ≠ 0 then return valid
  dbUserValidate env.digests auth
    (selectUser env.db.users env.faults.spasswd userIdnr fun row =>
      (row.spasswd, row.encryptionType)) password

/-- The checks of `auth_validate` before the password: the account admitted, or
the result and `*user_idnr` of the early return. -/
def admittedUser (tuser : Bytes) : Except (Int × Nat) Nat :=
  -- the shared mailbox user should not log in
  if tuser = publicFolderUser then .error (0, 0)
  else match realUsername env tuser with
    | .error code => .error (code, 0)
    | .ok real =>
      let userIdnr := dbUserExists env.db.users env.faults.userExists real
      if userIdnr = 0 then .error (0, 0)
      else if dbUserActive env.db.users env.faults.active userIdnr then .ok userIdnr
      else .error (0, userIdnr)

/-- The result and the value left in `*user_idnr`. -/
def authValidate (auth : Option Cram) (username password : Option Bytes) :
    Except Fault (Int × Nat) := do
  match ← loginName auth username password with
  | none => return (0, 0)
  | some tuser =>
    match admittedUser env tuser with
    | .error early => return early
    | .ok userIdnr =>
      let valid ← validatePasswords env auth userIdnr password
      return (valid, if valid = 0 then 0 else userIdnr)

/-- The usermap lets a login through when it is not in use, or when resolving
the name succeeds. -/
theorem realUsername_ok_iff (tuser real : Bytes) :
    realUsername env tuser = .ok real ↔
      (dbUseUsermap env.db env.faults.usermapTable = false ∧
          real = tuser.take (dmUsernameLen - 1)) ∨
        (dbUseUsermap env.db env.faults.usermapTable = true ∧
          dbUsermapResolve env.sockScore env.db env.faults.usermap env.peer tuser =
            (dmSuccess, real)) := by
  unfold realUsername
  cases used : dbUseUsermap env.db env.faults.usermapTable with
  | false => simp [eq_comm]
  | true =>
    have codes := dbUsermapResolve_code env.sockScore env.db env.faults.usermap env.peer tuser
    cases resolved :
      dbUsermapResolve env.sockScore env.db env.faults.usermap env.peer tuser with
    | mk code name =>
      rw [resolved] at codes
      rcases codes with rfl | rfl | rfl <;>
        simp [dmSuccess, dmEGeneral, dmEQuery]

theorem admittedUser_ok_iff (tuser : Bytes) (userIdnr : Nat) :
    admittedUser env tuser = .ok userIdnr ↔
      tuser ≠ publicFolderUser ∧ ∃ real row, realUsername env tuser = .ok real ∧
        env.faults.userExists = false ∧ env.db.users.byName real = some row ∧
        (env.faults.active = true ∨ row.active ≠ 0) ∧ row.userIdnr = userIdnr := by
  unfold admittedUser
  by_cases shared : tuser = publicFolderUser
  · simp [shared]
  rw [if_neg shared]
  cases mapped : realUsername env tuser with
  | error code => simp
  | ok real =>
    rcases dbUserExists_cases env.db.users env.faults.userExists real with
      ⟨zero, missing⟩ | ⟨row, healthy, found, sameId, nonzero⟩
    · rcases missing with failed | absent
      · simp only [zero]
        simp [failed]
      · simp [zero, absent]
    · have active := dbUserActive_of_byName env.faults.active found
      simp only [sameId, nonzero]
      by_cases passes : dbUserActive env.db.users env.faults.active row.userIdnr = true
      · simp [passes, active.mp passes, shared, healthy, found]
      · simp [passes, active.not.mp passes, found]

/-- The code with which the usermap refuses a login is not a success. -/
theorem realUsername_error_code {env : AuthEnv} {tuser : Bytes} {code : Int}
    (refused : realUsername env tuser = .error code) : code ≠ 1 := by
  simp only [realUsername] at refused
  repeat' split at refused
  all_goals cases refused
  all_goals decide

theorem admittedUser_error_code {env : AuthEnv} {tuser : Bytes} {early : Int × Nat}
    (refused : admittedUser env tuser = .error early) : early.1 ≠ 1 := by
  simp only [admittedUser] at refused
  split at refused
  · cases refused
    decide
  · cases mapped : realUsername env tuser with
    | error code =>
      simp only [mapped, Except.error.injEq] at refused
      rw [← refused]
      exact realUsername_error_code mapped
    | ok real =>
      simp only [mapped] at refused
      repeat' split at refused
      all_goals cases refused
      all_goals simp

/-- When `auth_validate` reports success, and for which account. -/
theorem authValidate_success_iff (auth : Option Cram)
    (username password : Option Bytes) (userIdnr : Nat) :
    authValidate env auth username password = .ok (1, userIdnr) ↔
      ∃ tuser, loginName auth username password = .ok (some tuser) ∧
        admittedUser env tuser = .ok userIdnr ∧
        validatePasswords env auth userIdnr password = .ok 1 := by
  unfold authValidate
  cases name : loginName auth username password with
  | error fault => simp [bind, Except.bind]
  | ok login =>
    cases login with
    | none => simp [bind, Except.bind, pure, Except.pure]
    | some tuser =>
      simp only [bind, Except.bind, pure, Except.pure, Except.ok.injEq, Option.some.injEq,
        exists_eq_left']
      cases admitted : admittedUser env tuser with
      | error early =>
        have failed := admittedUser_error_code admitted
        simp only [Except.ok.injEq, reduceCtorEq, false_and, iff_false]
        exact fun same => failed (congrArg Prod.fst same)
      | ok account =>
        simp only [Except.ok.injEq]
        cases checked : validatePasswords env auth account password with
        | error fault =>
          simp only [reduceCtorEq, false_iff, not_and]
          rintro rfl
          simp [checked]
        | ok valid =>
          constructor
          · rintro ⟨rfl, rfl⟩
            simp [checked]
          · rintro ⟨rfl, accepted⟩
            rw [checked, Except.ok.injEq] at accepted
            simp [accepted]

/-! ## `auth_md5_validate` and APOP -/

/-- `DM_EQUERY` returned as a `uint64_t`. -/
def dmEQueryUnsigned : Nat := 2 ^ 64 - 1

/-- The user id, 0 or `DM_EQUERY`. -/
def authMd5Validate (username digest stamp : Bytes) : Nat :=
  let userIdnr := dbUserExists env.db.users env.faults.userExists username
  if userIdnr = 0 then dmEQueryUnsigned
  else match selectUser env.db.users env.faults.passwd userIdnr UserRow.passwd with
    | .exception => dmEQueryUnsigned
    | .noRow => 0
    | .row dbpass =>
      let checkstring := (stamp ++ dbpass).take (fieldSize - 2)
      if digest = env.digests.md5 checkstring then userIdnr else 0

inductive ApopReply where
  | error (text : Bytes)
  | abort
  | authenticated (userIdnr : Nat)
deriving DecidableEq, Repr

def apopUsername (value : Bytes) : Bytes := value.takeWhile (· ≠ 32)

def apopDigest (value : Bytes) : Option Bytes :=
  match value.dropWhile (· ≠ 32) with
  | [] => none
  | _ :: digest => some digest

/-- `case POP3_APOP` of `pop3`, in the state before login, with `value` the
text after the command and `stamp` the greeting's `apop_stamp`. -/
def pop3Apop (stamp value : Bytes) : Except Fault ApopReply :=
  match apopDigest value with
  | none => .ok (.error (lit "-ERR your command does not compute\r\n"))
  | some digest =>
    if digest.length ≠ 32 then .ok (.error (lit "-ERR not a valid md5 hash\r\n"))
    else
      let userIdnr := dbUserExists env.db.users env.faults.userExists (apopUsername value)
      if userIdnr = 0 then .ok .abort
      else match selectUser env.db.users env.faults.encryption userIdnr
          UserRow.encryptionType with
        | .row enctype =>
          if enctype ≠ [] then
            .ok (.error (lit "-ERR APOP command is not supported for this user\r\n"))
          else
            let result := authMd5Validate env (apopUsername value) digest stamp
            if result = dmEQueryUnsigned then .ok .abort
            else if result = 0 then
              .ok (.error (lit "-ERR authentication attempt is invalid\r\n"))
            else .ok (.authenticated result)
        -- auth_getencryption returned NULL, which strcasecmp reads
        | _ => .error .nullPointer

theorem authMd5Validate_of_byName {env : AuthEnv} {username : Bytes} {row : UserRow}
    (digest stamp : Bytes) (healthy : env.faults.userExists = false)
    (found : env.db.users.byName username = some row) :
    authMd5Validate env username digest stamp =
      match env.faults.passwd with
      | .none =>
        if digest = env.digests.md5 ((stamp ++ row.passwd).take (fieldSize - 2)) then
          row.userIdnr
        else 0
      | .query => 0
      | .fetch => dmEQueryUnsigned := by
  have nonzero : row.userIdnr ≠ 0 := by
    have range := env.db.users.keyRange row (UserTable.byName_mem found)
    omega
  simp only [authMd5Validate, dbUserExists, healthy, found, Bool.false_eq_true, if_false, nonzero]
  cases env.faults.passwd <;> simp [selectUser, UserTable.byIdnr_of_byName found]

def ApopCredentials (stamp value : Bytes) (row : UserRow) : Prop :=
  env.faults.encryption = .none ∧ row.encryptionType = [] ∧ env.faults.passwd = .none ∧
    ∃ digest, apopDigest value = some digest ∧ digest.length = 32 ∧
      digest = env.digests.md5 ((stamp ++ row.passwd).take (fieldSize - 2))

theorem pop3Apop_authenticated_iff (stamp value : Bytes) (userIdnr : Nat) :
    pop3Apop env stamp value = .ok (.authenticated userIdnr) ↔
      ∃ row, env.faults.userExists = false ∧
        env.db.users.byName (apopUsername value) = some row ∧
        ApopCredentials env stamp value row ∧ row.userIdnr = userIdnr := by
  unfold pop3Apop ApopCredentials
  cases part : apopDigest value with
  | none => simp
  | some digest =>
    by_cases length : digest.length = 32
    swap
    · simp only [ne_eq, length, not_false_eq_true, if_true, Option.some.injEq,
        exists_eq_left', false_and, and_false, exists_false, Except.ok.injEq, reduceCtorEq]
    simp only [length, ne_eq, not_true_eq_false, if_false, Option.some.injEq, exists_eq_left']
    rcases dbUserExists_cases env.db.users env.faults.userExists (apopUsername value) with
      ⟨zero, missing⟩ | ⟨row, healthy, found, sameId, nonzero⟩
    · rw [if_pos zero]
      rcases missing with failed | absent
      · simp [failed]
      · simp [absent]
    · have range := env.db.users.keyRange row (UserTable.byName_mem found)
      have notQuery : row.userIdnr ≠ dmEQueryUnsigned := by
        unfold dmEQueryUnsigned
        omega
      rw [sameId, if_neg nonzero, authMd5Validate_of_byName digest stamp healthy found]
      cases env.faults.encryption <;>
        simp only [selectUser, UserTable.byIdnr_of_byName found, reduceCtorEq, false_and, true_and, found, healthy, Option.some.injEq,
          exists_eq_left']
      by_cases plain : row.encryptionType = []
      swap
      · simp [plain]
      simp only [plain, true_and]
      cases env.faults.passwd with
      | none =>
        by_cases matches_ :
          digest = env.digests.md5 ((stamp ++ row.passwd).take (fieldSize - 2))
        · simp [← matches_, notQuery, nonzero]
        · simp [matches_, dmEQueryUnsigned]
      | query => simp [dmEQueryUnsigned]
      | fetch => simp

end Dbmail.Auth
