import Dbmail.Auth.Cram
import Mathlib.Data.List.Sort

/-!
Contract: the account tables of the SQL backend and the lookups of `dm_db.c`
that authentication makes in them.

Owns the user and usermap tables, `db_user_exists`, `db_user_active`,
`db_use_usermap` and `db_usermap_resolve`, each with what it returns when its
SQL statement fails.

Does not own: password checking, or the scoring of a socket specification,
which enters as the parameter `sockScore` (`dm_sock_score`).
-/

namespace Dbmail.Auth

open Dbmail.Lib

/-- `DM_EQUERY`, `DM_SUCCESS` and `DM_EGENERAL` of `dbmailtypes.h`. -/
def dmEQuery : Int := -1
def dmSuccess : Int := 0
def dmEGeneral : Int := 1

/-- `PUBLIC_FOLDER_USER`, the name of the account that owns public folders. -/
def publicFolderUser : Bytes := lit "__public__"

def dmUsernameLen : Nat := 255

/-! ## Tables -/

/-- The columns of `dbmail_users` that authentication reads. -/
structure UserRow where
  userIdnr : Nat
  userid : Bytes
  passwd : Bytes
  spasswd : Bytes
  encryptionType : Bytes
  active : Int
deriving DecidableEq, Repr

/-- `dbmail_users`: `user_idnr` is an auto-increment primary key, so it is never
0 and does not reach the last `uint64_t`, which the code reads as `DM_EQUERY`. -/
structure UserTable where
  rows : List UserRow
  primaryKey : (rows.map UserRow.userIdnr).Nodup
  keyRange : ∀ row ∈ rows, 0 < row.userIdnr ∧ row.userIdnr < 2 ^ 64 - 1

/-- `dbmail_usermap`. -/
structure UsermapRow where
  login : Bytes
  sockAllow : Bytes
  sockDeny : Bytes
  userid : Bytes
deriving DecidableEq, Repr

/-- What authentication reads from the database. `usermap` is `none` when the
table does not exist. -/
structure AccountDb where
  users : UserTable
  usermap : Option (List UsermapRow)

/-- How one `db_query` SELECT goes wrong: `db_query` itself reports failure as
an empty result, an exception while fetching reaches the caller. -/
inductive SelectFault where
  | none
  | query
  | fetch
deriving DecidableEq, Repr

/-- The SQL failures met by one authentication attempt. `usermap` gives the
number of rows read before the exception. -/
structure SqlFaults where
  userExists : Bool
  usermapTable : Bool
  usermap : Option Nat
  active : Bool
  passwd : SelectFault
  spasswd : SelectFault
  encryption : SelectFault
deriving DecidableEq, Repr

def SqlFaults.healthy : SqlFaults := ⟨false, false, none, false, .none, .none, .none⟩

/-! ## Lookups in the user table -/

/-- The row `SELECT ... WHERE lower(userid) = lower(?)` returns first. -/
def UserTable.byName (users : UserTable) (username : Bytes) : Option UserRow :=
  users.rows.find? fun row => strcasecmpEq row.userid username

/-- The row `SELECT ... WHERE user_idnr = ?` returns. -/
def UserTable.byIdnr (users : UserTable) (userIdnr : Nat) : Option UserRow :=
  users.rows.find? fun row => row.userIdnr == userIdnr

/-- The id, 0 when there is no such user or the statement
fails. -/
def dbUserExists (users : UserTable) (failed : Bool) (username : Bytes) : Nat :=
  if failed then 0
  else match users.byName username with
    | some row => row.userIdnr
    | none => 0

/-- `db_user_active`. The flag starts as 1 and keeps that value when there is
no row or the statement fails. -/
def dbUserActive (users : UserTable) (failed : Bool) (userIdnr : Nat) : Bool :=
  if failed then true
  else match users.byIdnr userIdnr with
    | some row => row.active ≠ 0
    | none => true

/-- The column value a `db_query` SELECT by id yields. -/
inductive Fetch (α : Type) where
  | exception
  | noRow
  | row (value : α)
deriving DecidableEq, Repr

/-- `db_query("SELECT ... FROM users WHERE user_idnr = ...")` and the read of
its first row. -/
def selectUser {α : Type} (users : UserTable) (fault : SelectFault) (userIdnr : Nat)
    (columns : UserRow → α) : Fetch α :=
  match fault with
  | .query => .noRow
  | .fetch => .exception
  | .none =>
    match users.byIdnr userIdnr with
    | some row => .row (columns row)
    | none => .noRow

/-! ## The usermap -/

/-- The part of `ClientBase_T` that `db_usermap_resolve` reads. -/
structure Peer where
  tx : Nat
  dstIp : Bytes
  dstPort : Bytes
deriving DecidableEq, Repr

/-- The text `clientsock`, at most `DM_SOCKADDR_LEN - 2` characters. -/
def Peer.clientSock (peer : Peer) : Bytes :=
  if peer.tx = 0 then []
  else (lit "inet:" ++ peer.dstIp ++ lit ":" ++ peer.dstPort).take 106

/-- A failing query reads as a missing table. -/
def dbUseUsermap (db : AccountDb) (failed : Bool) : Bool :=
  !failed && db.usermap.isSome

/-- Byte order of `ORDER BY` on a text column. -/
def bytesLe (left right : Bytes) : Bool := !(decide (right < left))

/-- `ORDER BY sock_allow, sock_deny`. -/
def usermapOrder (left right : UsermapRow) : Prop :=
  left.sockAllow < right.sockAllow ∨
    (left.sockAllow = right.sockAllow ∧ bytesLe left.sockDeny right.sockDeny = true)

instance : DecidableRel usermapOrder := fun left right => by
  unfold usermapOrder
  infer_instance

/-- `SELECT ... FROM usermap WHERE login IN (?, 'ANY') ORDER BY ...`. -/
def usermapRows (db : AccountDb) (username : Bytes) : List UsermapRow :=
  ((db.usermap.getD []).filter fun row =>
    row.login == username || row.login == lit "ANY").insertionSort usermapOrder

/-- Exactly one `%`, followed by `s`. -/
def dmValidFormat (format : Bytes) : Bool :=
  match format.dropWhile (· ≠ 37) with
  | _ :: rest => !rest.contains 37 && rest.head? == some 115
  | [] => false

/-- `snprintf` of a format that `dmValidFormat` accepts. -/
def printfName (format username : Bytes) : Bytes :=
  format.takeWhile (· ≠ 37) ++ username ++ (format.dropWhile (· ≠ 37)).drop 2

section Usermap

variable (sockScore : Bytes → Bytes → Int)

def dmSockCompare (clientSock sockAllow sockDeny : Bytes) : Bool :=
  if sockAllow = [] ∧ sockDeny = [] then true
  else if sockDeny ≠ [] ∧ sockScore sockDeny clientSock ≠ 0 then false
  else if sockAllow ≠ [] then sockScore sockAllow clientSock ≠ 0
  else true

/-- The row loop of `db_usermap_resolve`: whether some row denies the client,
and the row with the best score so far. -/
def usermapScan (clientSock : Bytes) : List UsermapRow → Int → Option UsermapRow →
    Bool × Int × Option UsermapRow
  | [], bestScore, best => (false, bestScore, best)
  | row :: rest, bestScore, best =>
    if !dmSockCompare sockScore clientSock [] row.sockDeny then (true, bestScore, best)
    else
      let score := sockScore clientSock row.sockAllow
      if bestScore < score then usermapScan clientSock rest score (some row)
      else usermapScan clientSock rest bestScore best

/-- The result code and `real_username`. -/
def dbUsermapResolve (db : AccountDb) (fault : Option Nat) (peer : Peer) (username : Bytes) :
    Int × Bytes :=
  let unmapped := username.take (dmUsernameLen - 1)
  let all := usermapRows db username
  -- an exception ends the loop; what was read so far is still used
  let rows := match fault with
    | some count => all.take count
    | none => all
  match usermapScan sockScore peer.clientSock rows (-1) none with
  | (true, _, _) => (dmEGeneral, unmapped)
  | (false, bestScore, best) =>
    if rows = [] then (dmSuccess, unmapped)
    else if bestScore ≤ 0 then (dmEGeneral, unmapped)
    else match best with
      | none => (dmEGeneral, unmapped)
      | some row =>
        if strncmpEq row.login (lit "ANY") 3 then
          if dmValidFormat row.userid then
            (dmSuccess, (printfName row.userid username).take (dmUsernameLen - 2))
          else (dmEQuery, unmapped)
        else (dmSuccess, row.userid.take (dmUsernameLen - 1))

end Usermap

/-! ## Facts about the lookups -/

variable {users : UserTable} {username : Bytes} {row : UserRow}

theorem UserTable.byName_mem (found : users.byName username = some row) : row ∈ users.rows :=
  List.mem_of_find?_eq_some found

/-- `db_user_exists` finds exactly the rows the statement returns. -/
theorem dbUserExists_cases (users : UserTable) (failed : Bool) (username : Bytes) :
    (dbUserExists users failed username = 0 ∧
        (failed = true ∨ users.byName username = none)) ∨
      ∃ row, failed = false ∧ users.byName username = some row ∧
        dbUserExists users failed username = row.userIdnr ∧ row.userIdnr ≠ 0 := by
  unfold dbUserExists
  cases failed with
  | true => exact .inl ⟨rfl, .inl rfl⟩
  | false =>
    cases lookup : users.byName username with
    | none => exact .inl ⟨by simp, .inr rfl⟩
    | some row =>
      have positive := (users.keyRange row (UserTable.byName_mem lookup)).1
      exact .inr ⟨row, rfl, rfl, by simp, by omega⟩

/-- The primary key makes the lookup by id return the row found by name. -/
theorem UserTable.byIdnr_of_byName
    (found : users.byName username = some row) : users.byIdnr row.userIdnr = some row := by
  have member := UserTable.byName_mem found
  unfold UserTable.byIdnr
  cases lookup : users.rows.find? fun other => other.userIdnr == row.userIdnr with
  | none =>
    have missing := List.find?_eq_none.mp lookup row member
    simp at missing
  | some other =>
    have sameKey : other.userIdnr = row.userIdnr := by
      simpa using List.find?_some lookup
    have otherMember : other ∈ users.rows := List.mem_of_find?_eq_some lookup
    rw [List.inj_on_of_nodup_map users.primaryKey otherMember member sameKey]

/-- An account found by name passes `db_user_active` when it is marked active
or the statement fails. -/
theorem dbUserActive_of_byName (failed : Bool) (found : users.byName username = some row) :
    dbUserActive users failed row.userIdnr = true ↔ failed = true ∨ row.active ≠ 0 := by
  cases failed <;> simp [dbUserActive, UserTable.byIdnr_of_byName found]

theorem dbUsermapResolve_code (sockScore : Bytes → Bytes → Int) (db : AccountDb)
    (fault : Option Nat) (peer : Peer) (username : Bytes) :
    let code := (dbUsermapResolve sockScore db fault peer username).1
    code = dmSuccess ∨ code = dmEGeneral ∨ code = dmEQuery := by
  simp only [dbUsermapResolve]
  repeat' split
  all_goals simp

end Dbmail.Auth
