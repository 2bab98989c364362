import Dbmail.Imap.Access

/-!
Contract: how a mailbox name is resolved and how rights are written as text.

Owns `mailbox_remove_namespace` (`dm_misc.c`), `db_findmailbox` (`dm_db.c`),
`imap_acl_pre_administer` and the texts of GETACL, LISTRIGHTS and MYRIGHTS
(`dm_acl.c`), over a database whose queries all succeed, and the world such a
database gives to the workers.

Does not own: what any other lookup of the workers answers, which may be any
function of the database.
-/

namespace Dbmail.Imap

open Dbmail.Lib Dbmail.Auth

/-! ## The database -/

/-- The flags of a row of `dbmail_acl`. -/
structure AclRow where
  rights : AclRight → Bool
  post : Bool

structure StoredMessage where
  uid : Nat
  flags : List ImapFlag
  body : Bytes
deriving DecidableEq, Repr

structure Directory where
  users : UserTable
  /-- `owner_idnr` of a mailbox, 0 when there is no such mailbox. -/
  owner : Nat → Nat
  /-- `db_findmailbox_owner`: the mailbox of an owner that a name matches. -/
  owned : Nat → Bytes → Option Nat
  /-- The mailbox is open for writing. -/
  writable : Nat → Bool

structure Database where
  directory : Directory
  /-- The ACL rows of a mailbox, with their users. -/
  acl : Nat → List (Nat × AclRow)
  messages : Nat → List StoredMessage

/-! ## Names -/

/-- The two trims of `db_findmailbox`. The move behind leading slashes does not
take the terminating NUL along, so that as many bytes of the end stay. -/
def trimSlashes (name : Bytes) : Bytes :=
  let mbox := match name with
    | [] => []
    | first :: rest => first :: rest.rdropWhile (· = 47)
  let leading := (mbox.takeWhile (· = 47)).length
  mbox.drop leading ++ mbox.drop (mbox.length - leading)

/-- The local variables of `mailbox_remove_namespace`, as positions. -/
structure NamespaceScan where
  user : Option Nat := none
  mbox : Option Nat := none
  slash : Nat := 0

/-- The scan behind `#Users`, from position `i`. -/
def scanUsers (i : Nat) (scan : NamespaceScan) : Bytes → NamespaceScan
  | [] => scan
  | byte :: rest =>
    if byte = 47 then
      if scan.user.isNone then scanUsers (i + 1) { scan with user := some (i + 1) } rest
      else if scan.mbox.isNone then
        scanUsers (i + 1) { scan with
          slash := 1
          mbox := if rest = [] ∨ rest.head? = some 47 then none else some (i + 1) } rest
      else scan
    else if byte = 42 ∨ byte = 37 then scanUsers (i + 1) { scan with mbox := some i } rest
    else scanUsers (i + 1) scan rest

/-- The simple name and the user of the namespace. With
a wildcard before the user name the length of the user name is negative, and
`g_strndup` aborts. -/
def mailboxRemoveNamespace (name : Bytes) : Except Fault (Option (Bytes × Option Bytes)) :=
  let fqName := name.rdropWhile (· = 47)
  if 6 ≤ fqName.length ∧ strcasecmpEq (fqName.take 6) (lit "#Users") then
    let rest := fqName.drop 6
    let scan := scanUsers 0 {} rest
    match scan.mbox with
    | none => .ok none
    | some mbox =>
      match scan.user with
      | none => .ok (some (rest.drop mbox, none))
      | some user =>
        if user + scan.slash = mbox then .ok (some (rest.drop mbox, none))
        else if mbox < user + scan.slash then .error .assertion
        else .ok (some (rest.drop mbox, some ((rest.drop user).take (mbox - user - scan.slash))))
  else if 7 ≤ fqName.length ∧ strcasecmpEq (fqName.take 7) (lit "#Public") then
    let rest := fqName.drop 7
    .ok (some (if rest.head? = some 47 then rest.drop 1 else rest, some publicFolderUser))
  else .ok (some (fqName, none))

section Lookups

variable (directory : Directory)

/-- `auth_user_exists` of `authsql`, without a failing query. -/
def Directory.userExists (username : Bytes) : Nat := dbUserExists directory.users false username

/-- `db_findmailbox`. -/
def Directory.findmailbox (name : Bytes) (user : Nat) : Except Fault (Option Nat) := do
  match ← mailboxRemoveNamespace (trimSlashes name) with
  | none => return none
  | some (simpleName, none) => return directory.owned user simpleName
  | some (simpleName, some username) =>
    let owner := directory.userExists username
    if owner = 0 then return none
    else return directory.owned owner simpleName

/-- The mailbox a name stands for. A name that ends the process stands for none. -/
def Directory.resolve (name : Bytes) (user : Nat) : Option Nat :=
  match directory.findmailbox name user with
  | .ok found => found
  | .error _ => none

/-- `imap_acl_pre_administer`. -/
def Directory.preAdminister (name username : Bytes) (user : Nat) : Int × Nat :=
  match directory.resolve name user with
  | none => (0, 0)
  | some mailbox => (if directory.userExists username = 0 then 0 else 1, mailbox)

/-- `acl_listrights`. -/
def Directory.listRights (username : Bytes) (mailbox : Nat) : Bytes :=
  if directory.owner mailbox = directory.userExists username then lit "lrswipkxteacd"
  else lit "\"\" l r s w i p k x t e a c d"

end Lookups

/-! ## Rights as text -/

def AclRow.chars (row : AclRow) : Bytes :=
  let flag (granted : Bool) (char : String) : Bytes := if granted then lit char else []
  flag (row.rights .lookup) "l" ++ flag (row.rights .read) "r" ++ flag (row.rights .seen) "s" ++
    flag (row.rights .write) "w" ++ flag (row.rights .insert) "i" ++ flag row.post "p" ++
    flag (row.rights .create) "k" ++ flag (row.rights .delete) "x" ++
    flag (row.rights .deleted) "t" ++ flag (row.rights .expunge) "e" ++
    flag (row.rights .administer) "a" ++ flag (row.rights .create) "c" ++
    flag (row.rights .delete || row.rights .deleted || row.rights .expunge) "d"

/-- The byte makes `dbmail_imap_astring_as_string` write a literal. -/
def needsLiteral (byte : UInt8) : Bool :=
  128 ≤ byte || byte = 13 || byte = 10 || byte = 34 || byte = 92

/-- `dbmail_imap_astring_as_string`. -/
def astringAsString (text : Bytes) : Bytes :=
  if text = [] then lit "\"\""
  else
    let penult := if 2 < text.length then text.getD (text.length - 2) 92 else 92
    let inner :=
      if text.head? = some 34 ∧ text.getLast? = some 34 ∧ penult ≠ 92 then text.dropLast.drop 1
      else text
    match inner.findIdx? needsLiteral with
    | none => lit "\"" ++ inner ++ lit "\""
    | some i =>
      let whole := if inner[i]? = some 34 ∧ 0 < i ∧ inner[i - 1]? ≠ some 92 then text else inner
      lit "\x7b" ++ digits whole.length ++ lit "\x7d\r\n" ++ whole

/-- A quoted string or a literal of RFC 3501, with the value it stands for. -/
inductive ImapString : Bytes → Bytes → Prop
  | quoted {value : Bytes} (plain : ∀ byte ∈ value,
      byte < 128 ∧ byte ≠ 13 ∧ byte ≠ 10 ∧ byte ≠ 34 ∧ byte ≠ 92) :
    ImapString (lit "\"" ++ value ++ lit "\"") value
  | literal (value : Bytes) :
    ImapString (lit "\x7b" ++ digits value.length ++ lit "\x7d\r\n" ++ value) value

/-- What is written stands for the text, or for what its quotes enclose. -/
theorem astringAsString_decodes (text : Bytes) :
    ∃ value, ImapString (astringAsString text) value ∧
      (value = text ∨ text = lit "\"" ++ value ++ lit "\"") := by
  have quote : lit "\"" = [34] := by decide +kernel
  have twice : lit "\"\"" = lit "\"" ++ [] ++ lit "\"" := by decide +kernel
  unfold astringAsString
  by_cases empty : text = []
  · rw [if_pos empty, twice]
    exact ⟨[], .quoted nofun, .inl empty.symm⟩
  rw [if_neg empty]
  dsimp only
  generalize isPenult : (if 2 < text.length then text.getD (text.length - 2) 92 else 92) = penult
  generalize isInner : (if text.head? = some 34 ∧ text.getLast? = some 34 ∧ penult ≠ 92 then
    text.dropLast.drop 1 else text) = inner
  have stands : inner = text ∨ text = lit "\"" ++ inner ++ lit "\"" := by
    rw [← isInner]
    split
    · rename_i quoted
      have long : 2 < text.length := by
        by_contra short
        rw [if_neg short] at isPenult
        exact quoted.2.2 isPenult.symm
      obtain ⟨first, rest, rfl⟩ := List.exists_cons_of_ne_nil empty
      have nonempty : rest ≠ [] := by
        rintro rfl
        simp at long
      have closes : rest.dropLast ++ [34] = rest :=
        List.dropLast_append_getLast? _
          ((List.getLast?_append_of_ne_nil [first] nonempty).symm.trans quoted.2.1)
      right
      rw [List.dropLast_cons_of_ne_nil nonempty, List.drop_succ_cons, List.drop_zero, quote,
        List.append_assoc, closes]
      simpa using quoted.1
    · exact .inl rfl
  cases special : inner.findIdx? needsLiteral with
  | none =>
    refine ⟨inner, .quoted fun byte member => ?_, stands⟩
    simpa [needsLiteral, and_assoc] using List.findIdx?_eq_none_iff.mp special byte member
  | some i =>
    dsimp only
    split
    · exact ⟨text, .literal text, .inl rfl⟩
    · exact ⟨inner, .literal inner, stands⟩

section Database

variable (db : Database)

/-- The id of the user `anyone`. -/
def Database.anyone : Nat := db.directory.userExists (lit "anyone")

def Database.row (user mailbox : Nat) : Option AclRow := (db.acl mailbox).lookup user

def Database.tables : AclTables where
  owner := db.directory.owner
  row := fun user mailbox => (db.row user mailbox).map AclRow.rights
  anyone := db.anyone

def CheckFaults.healthy : CheckFaults :=
  ⟨⟨.none, false, false⟩, false, ⟨.none, false, false⟩⟩

/-- `acl_has_right` when no query fails. -/
def Database.hasRight (mailbox user : Nat) (right : AclRight) : Int :=
  aclHasRight db.tables mailbox .healthy ⟨db.directory.writable mailbox, 0, .inl rfl⟩ user right

/-- `acl_get_rightsstring`, with `none` for a negative result. The row of `anyone`
stands in for a missing one, and without a user `anyone` the lookup fails. -/
def Database.rightsString (user mailbox : Nat) : Option Bytes :=
  if db.directory.owner mailbox = 0 then some []
  else if db.directory.owner mailbox = user then some (lit "lrswipkxteacd")
  else if db.anyone = 0 then none
  else some (((db.row user mailbox).or (db.row db.anyone mailbox)).elim [] AclRow.chars)

/-- The identifiers `acl_get_acl` lists: the users with a row, last row first, and
the owner. -/
def Database.identifiers (mailbox : Nat) : Option (List Bytes) :=
  (db.directory.users.byIdnr (db.directory.owner mailbox)).map fun owner =>
    (((db.acl mailbox).filterMap fun entry => db.directory.users.byIdnr entry.1).map
      UserRow.userid).reverse ++ [owner.userid]

def Database.aclEntry (mailbox : Nat) (identifier : Bytes) : Option Bytes :=
  if db.directory.userExists identifier = 0 then none
  else (db.rightsString (db.directory.userExists identifier) mailbox).map fun rights =>
    if rights = [] then [] else astringAsString identifier ++ lit " " ++ rights ++ lit " "

/-- `acl_get_acl`. -/
def Database.getAcl (mailbox : Nat) : Option Bytes := do
  let entries ← (← db.identifiers mailbox).mapM (db.aclEntry mailbox)
  return gStrstrip entries.flatten

/-- The world of a database without failing queries, with or without
`mailbox_sync_deleted` 2. What the workers ask beyond names and rights is a
function of the directory and the messages. -/
def Database.world (syncDeleted : Bool) (base : Directory → (Nat → List StoredMessage) → World) : World where
  __ := base db.directory db.messages
  findMailbox := db.directory.resolve
  aclHasRight := db.hasRight
  syncs := fun mailbox => syncDeleted && (base db.directory db.messages).syncs mailbox &&
    (db.messages mailbox).any fun message => message.flags.contains .deleted
  loads := fun _ => true
  mailboxInfo := fun _ => true
  preAdminister := db.directory.preAdminister
  aclString := db.getAcl
  listRights := fun username mailbox => some (db.directory.listRights username mailbox)
  myRights := db.rightsString

end Database

end Dbmail.Imap
