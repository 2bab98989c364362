import Dbmail.Imap.Rights
import Mathlib.Data.Fin.VecNotation
import Mathlib.Data.Fintype.Basic

/-!
Contract: what SETACL does to the rights of a user.

Owns `acl_set_rights`, `acl_change_rights`, `acl_replace_rights`,
`acl_get_right_from_char` and the tables of `dm_acl.c`, and `db_acl_set_right`
(`dm_db.c`), over a database whose queries all succeed; what the letters of a
rights string denote; and when the call changes exactly what the string names.

Does not own: who may call SETACL, or the names the command resolves.
-/

namespace Dbmail.Imap

open Dbmail.Lib Database List

/-! ## Columns and letters -/

/-- The flag columns of `dbmail_acl`. -/
inductive AclColumn where
  | right (right : AclRight)
  | post
deriving DecidableEq, Repr

/-- With the two legacy entries at its end. -/
def aclRightStrings : Fin 13 → AclColumn :=
  ![.right .lookup, .right .read, .right .seen, .right .write, .right .insert, .post,
    .right .create, .right .delete, .right .deleted, .right .expunge, .right .administer,
    .right .create, .right .delete]

def aclRightChars : Bytes := lit "lrswipkxteacd"

/-- `ACL_RIGHT_NONE`, which is also an index of `acl_right_strings`. -/
def aclRightNone : Fin 13 := 11

def aclGetRightFromChar (rightChar : UInt8) : Fin 13 :=
  if rightChar = 108 then 0
  else if rightChar = 114 then 1
  else if rightChar = 115 then 2
  else if rightChar = 119 then 3
  else if rightChar = 105 then 4
  else if rightChar = 112 then 5
  else if rightChar = 107 then 6
  else if rightChar = 120 then 7
  else if rightChar = 116 then 8
  else if rightChar = 101 then 9
  else if rightChar = 97 then 10
  else aclRightNone

def AclRow.get (row : AclRow) : AclColumn → Bool
  | .right right => row.rights right
  | .post => row.post

def AclRow.set (row : AclRow) (set : Bool) : AclColumn → AclRow
  | .right right => { row with rights := Function.update row.rights right set }
  | .post => { row with post := set }

/-- The row `db_acl_create_acl` inserts: every flag has its default. -/
def AclRow.created : AclRow := ⟨fun _ => false, false⟩

theorem AclRow.get_set (row : AclRow) (set : Bool) (written column : AclColumn) :
    (row.set set written).get column = if column = written then set else row.get column := by
  cases written with
  | right right =>
    cases column with
    | right other =>
      by_cases same : other = right
      · subst same
        simp [AclRow.set, AclRow.get]
      · simp [AclRow.set, AclRow.get, same]
    | post => rfl
  | post => cases column <;> simp [AclRow.set, AclRow.get]

/-! ## The writes -/

section Writes

variable (db : Database) (user mailbox : Nat)

/-- The rows of a mailbox after `UPDATE ... WHERE user_id = ?`, with the row of the
user created first when there is none. -/
def updateRow (rows : List (Nat × AclRow)) (column : AclColumn) (set : Bool) :
    List (Nat × AclRow) :=
  let present :=
    if (rows.lookup user).isSome then rows else rows ++ [(user, AclRow.created)]
  present.map fun entry => if entry.1 = user then (entry.1, entry.2.set set column) else entry

/-- `db_acl_set_right`. For the owner of the mailbox it succeeds without a write. -/
def Database.setRight (column : AclColumn) (set : Bool) : Database :=
  if db.directory.owner mailbox = user then db
  else { db with acl := Function.update db.acl mailbox (updateRow user (db.acl mailbox) column set) }

/-- `acl_set_one_right`. -/
def Database.setOneRight (right : Fin 13) (set : Bool) : Database :=
  db.setRight user mailbox (aclRightStrings right) set

/-- The rights one letter makes `acl_change_rights` write. -/
def changedRights (rightchar : UInt8) : List (Fin 13) :=
  if rightchar = 99 then [aclGetRightFromChar 107]
  else if rightchar = 100 then
    [aclGetRightFromChar 120, aclGetRightFromChar 116, aclGetRightFromChar 101]
  else [aclGetRightFromChar rightchar]

/-- `acl_change_rights`. -/
def Database.changeRights (rightsstring : Bytes) (set : Bool) : Database :=
  (rightsstring.drop 1).foldl
    (fun db rightchar =>
      (changedRights rightchar).foldl (fun db right => db.setOneRight user mailbox right set) db)
    db

/-- The string `acl_replace_rights` searches for letters. -/
def mappedRights (rights : Bytes) : Bytes :=
  let rightsstring := rights.take 256
  let rightsstring := if 99 ∈ rightsstring then rightsstring ++ lit "k" else rightsstring
  if 100 ∈ rightsstring then rightsstring ++ lit "xte" else rightsstring

/-- The rights before `ACL_RIGHT_NONE`. -/
def replacedRights : List (Fin 13) := [0, 1, 2, 3, 4, 5, 6, 7, 8, 9, 10]

/-- `acl_replace_rights`. -/
def Database.replaceRights (rights : Bytes) : Database :=
  replacedRights.foldl
    (fun db right =>
      db.setOneRight user mailbox right
        ((mappedRights rights).contains (aclRightChars.getD right.val 0)))
    db

/-- `acl_set_rights`. -/
def Database.setRights (rightsstring : Bytes) : Database :=
  if rightsstring.head? = some 45 then db.changeRights user mailbox rightsstring false
  else if rightsstring.head? = some 43 then db.changeRights user mailbox rightsstring true
  else db.replaceRights user mailbox rightsstring

end Writes

/-! ## What one write leaves -/

/-- The flag of a user's row; a missing row has no flag set. -/
def Database.flag (db : Database) (user mailbox : Nat) (column : AclColumn) : Bool :=
  (db.row user mailbox).any fun row => row.get column

section OneWrite

variable {user : Nat} (other : Nat) (column : AclColumn) (set : Bool)

theorem lookup_map_row (rows : List (Nat × AclRow)) (change : AclRow → AclRow) :
    (rows.map fun entry => if entry.1 = user then (entry.1, change entry.2) else entry).lookup
        other =
      if other = user then (rows.lookup other).map change else rows.lookup other := by
  induction rows with
  | nil => simp
  | cons head tail ih =>
    obtain ⟨key, row⟩ := head
    by_cases found : other = key
    · subst found
      by_cases same : other = user
      · simp [same]
      · simp [same]
    · have apart : (other == key) = false := by simpa using found
      have mapped : (if key = user then (key, change row) else (key, row)) =
          (key, if key = user then change row else row) := by
        split <;> rfl
      simp only [map_cons, mapped, lookup_cons, apart]
      exact ih

theorem lookup_updateRow (rows : List (Nat × AclRow)) :
    (updateRow user rows column set).lookup other =
      if other = user then some (((rows.lookup user).getD AclRow.created).set set column)
      else rows.lookup other := by
  refine (lookup_map_row other _ fun row => row.set set column).trans ?_
  by_cases same : other = user
  · subst same
    cases present : rows.lookup other with
    | some row => simp [present]
    | none => simp [present, lookup_append]
  · rw [if_neg same]
    split
    · rfl
    · have apart : (other == user) = false := by simpa using same
      simp [lookup_append, lookup_cons, apart]

end OneWrite

/-- What writes to the row of one user and mailbox leave alone. -/
structure OnlyRow (user mailbox : Nat) (before after : Database) : Prop where
  directory : after.directory = before.directory
  messages : after.messages = before.messages
  rows : ∀ otherUser otherMailbox, (otherUser, otherMailbox) ≠ (user, mailbox) →
    after.row otherUser otherMailbox = before.row otherUser otherMailbox

theorem OnlyRow.refl (user mailbox : Nat) (db : Database) : OnlyRow user mailbox db db :=
  ⟨rfl, rfl, fun _ _ _ => rfl⟩

theorem OnlyRow.trans {user mailbox : Nat} {first second third : Database}
    (left : OnlyRow user mailbox first second) (right : OnlyRow user mailbox second third) :
    OnlyRow user mailbox first third :=
  ⟨right.directory.trans left.directory, right.messages.trans left.messages,
    fun otherUser otherMailbox apart =>
      (right.rows otherUser otherMailbox apart).trans (left.rows otherUser otherMailbox apart)⟩

section Set

variable {db : Database} {user mailbox : Nat}

theorem setRight_owner (owner : db.directory.owner mailbox = user) (column : AclColumn)
    (set : Bool) : db.setRight user mailbox column set = db := if_pos owner

theorem row_setRight (others : db.directory.owner mailbox ≠ user) (column : AclColumn) (set : Bool)
    (otherUser otherMailbox : Nat) :
    (db.setRight user mailbox column set).row otherUser otherMailbox =
      if otherUser = user ∧ otherMailbox = mailbox then
        some (((db.row user mailbox).getD AclRow.created).set set column)
      else db.row otherUser otherMailbox := by
  unfold setRight
  rw [if_neg others]
  unfold row
  by_cases same : otherMailbox = mailbox
  · subst same
    simp [lookup_updateRow]
  · simp [same]

theorem setRight_onlyRow (column : AclColumn) (set : Bool) :
    OnlyRow user mailbox db (db.setRight user mailbox column set) := by
  by_cases owner : db.directory.owner mailbox = user
  · rw [setRight_owner owner]
    exact OnlyRow.refl user mailbox db
  · have rows := row_setRight owner column set
    unfold setRight at rows ⊢
    rw [if_neg owner] at rows ⊢
    refine ⟨rfl, rfl, fun otherUser otherMailbox apart => ?_⟩
    rw [rows, if_neg]
    rintro ⟨rfl, rfl⟩
    exact apart rfl

theorem flag_setRight (others : db.directory.owner mailbox ≠ user) (written column : AclColumn)
    (set : Bool) :
    (db.setRight user mailbox written set).flag user mailbox column =
      if column = written then set else db.flag user mailbox column := by
  unfold flag
  rw [row_setRight others, if_pos ⟨rfl, rfl⟩, Option.any_some, AclRow.get_set]
  cases db.row user mailbox with
  | none => cases column <;> rfl
  | some row => rfl

end Set

/-! ## What a sequence of writes leaves -/

def Database.setAll (db : Database) (user mailbox : Nat) (writes : List (AclColumn × Bool)) :
    Database :=
  writes.foldl (fun db write => db.setRight user mailbox write.1 write.2) db

section Sequence

variable {user mailbox : Nat}

variable (writes : List (AclColumn × Bool)) (db : Database)

theorem setAll_onlyRow : OnlyRow user mailbox db (db.setAll user mailbox writes) := by
  induction writes generalizing db with
  | nil => exact OnlyRow.refl user mailbox db
  | cons head tail ih =>
    exact (setRight_onlyRow head.1 head.2).trans (ih _)

theorem setAll_owner {db : Database} (owner : db.directory.owner mailbox = user)
    (writes : List (AclColumn × Bool)) : db.setAll user mailbox writes = db := by
  induction writes with
  | nil => rfl
  | cons head tail ih =>
    show setAll (db.setRight user mailbox head.1 head.2) user mailbox tail = db
    rw [setRight_owner owner]
    exact ih

/-- Writes that agree on what they write to a column leave that in it. -/
theorem flag_setAll {value : AclColumn → Bool} (writes : List (AclColumn × Bool))
    (agree : ∀ write ∈ writes, write.2 = value write.1) (db : Database)
    (others : db.directory.owner mailbox ≠ user) (column : AclColumn) :
    (db.setAll user mailbox writes).flag user mailbox column =
      if column ∈ writes.map Prod.fst then value column else db.flag user mailbox column := by
  induction writes generalizing db with
  | nil => rfl
  | cons head tail ih =>
    have onward := ih
      (fun write member => agree write (mem_cons_of_mem head member))
      (db.setRight user mailbox head.1 head.2)
      (by rw [(setRight_onlyRow head.1 head.2).directory]; exact others)
    show ((db.setRight user mailbox head.1 head.2).setAll user mailbox tail).flag user mailbox
      column = _
    rw [onward, flag_setRight others, agree head mem_cons_self]
    by_cases same : column = head.1
    · subst same
      simp
    · simp [same]

theorem row_setAll_isSome (others : db.directory.owner mailbox ≠ user) :
    ((db.setAll user mailbox writes).row user mailbox).isSome =
      ((db.row user mailbox).isSome || !writes.isEmpty) := by
  induction writes generalizing db with
  | nil => simp [setAll]
  | cons head tail ih =>
    have onward := ih (db.setRight user mailbox head.1 head.2)
      (by rw [(setRight_onlyRow head.1 head.2).directory]; exact others)
    show ((setAll (db.setRight user mailbox head.1 head.2) user mailbox tail).row user
      mailbox).isSome = _
    rw [onward, row_setRight others]
    simp

/-- The writes of `acl_change_rights`. -/
def changeWrites (letters : Bytes) (set : Bool) : List (AclColumn × Bool) :=
  letters.flatMap fun letter =>
    (changedRights letter).map fun right => (aclRightStrings right, set)

theorem changeRights_eq (rightsstring : Bytes) (set : Bool) :
    db.changeRights user mailbox rightsstring set =
      db.setAll user mailbox (changeWrites (rightsstring.drop 1) set) := by
  unfold changeRights setAll changeWrites
  rw [foldl_flatMap]
  simp only [foldl_map]
  rfl

/-- The writes of `acl_replace_rights`. -/
def replaceWrites (rights : Bytes) : List (AclColumn × Bool) :=
  replacedRights.map fun right =>
    (aclRightStrings right, (mappedRights rights).contains (aclRightChars.getD right.val 0))

end Sequence

/-! ## What a rights string denotes -/

def AclColumn.letter : AclColumn → UInt8
  | .right .lookup => 108
  | .right .read => 114
  | .right .seen => 115
  | .right .write => 119
  | .right .insert => 105
  | .post => 112
  | .right .create => 107
  | .right .delete => 120
  | .right .deleted => 116
  | .right .expunge => 101
  | .right .administer => 97

/-- The rights the legacy letter `d` stands for. -/
def AclColumn.removes (column : AclColumn) : Bool :=
  column = .right .delete || column = .right .deleted || column = .right .expunge

/-- A letter denotes a right: by its own letter, `c` for `k`, `d` for `x`, `t` and
`e`. -/
def denotes (letter : UInt8) (column : AclColumn) : Bool :=
  letter = column.letter || letter = 99 && column = .right .create || letter = 100 && column.removes

def denoted (letters : Bytes) (column : AclColumn) : Bool :=
  letters.any fun letter => denotes letter column

def Known (letter : UInt8) : Prop := ∃ column, denotes letter column = true

def Signed (rights : Bytes) : Prop := rights.head? = some 45 ∨ rights.head? = some 43

instance : DecidablePred Signed := fun rights =>
  inferInstanceAs (Decidable (rights.head? = some 45 ∨ rights.head? = some 43))

def requested (prior : AclColumn → Bool) (rights : Bytes) (column : AclColumn) : Bool :=
  if rights.head? = some 45 then prior column && !denoted (rights.drop 1) column
  else if rights.head? = some 43 then prior column || denoted (rights.drop 1) column
  else denoted rights column

section Letters

variable (letters : Bytes) (column : AclColumn)

def columns : List AclColumn := replacedRights.map aclRightStrings

theorem mem_columns : column ∈ columns := by
  cases column with
  | right right => cases right <;> decide
  | post => decide

theorem denoted_append (more : Bytes) :
    denoted (letters ++ more) column = (denoted letters column || denoted more column) :=
  any_append

theorem denoted_eq_true_iff :
    denoted letters column = true ↔
      column.letter ∈ letters ∨ 99 ∈ letters ∧ column = .right .create ∨
        100 ∈ letters ∧ column.removes = true := by
  unfold denoted denotes
  simp [any_eq_true, and_or_left, exists_or, or_assoc, ← and_assoc]

/-- What the letters of the table make `acl_change_rights` write. -/
theorem changedRights_table : ∀ letter ∈ aclRightChars, ∀ column ∈ columns,
    (column ∈ (changedRights letter).map aclRightStrings ↔ denotes letter column = true) := by
  decide +kernel

theorem table_denotes : ∀ letter ∈ aclRightChars, ∃ column ∈ columns,
    denotes letter column = true := by
  decide +kernel

variable {column} {letter : UInt8}

theorem mem_table_of_denotes (found : denotes letter column = true) : letter ∈ aclRightChars := by
  have inTable : ∀ column ∈ columns, column.letter ∈ aclRightChars := by decide +kernel
  unfold denotes at found
  simp only [Bool.or_eq_true, decide_eq_true_eq, Bool.and_eq_true] at found
  obtain (rfl | ⟨rfl, -⟩) | ⟨rfl, -⟩ := found
  · exact inTable column (mem_columns column)
  · decide +kernel
  · decide +kernel

theorem known_iff_mem : Known letter ↔ letter ∈ aclRightChars := by
  constructor
  · rintro ⟨column, found⟩
    exact mem_table_of_denotes found
  · intro member
    obtain ⟨column, -, found⟩ := table_denotes letter member
    exact ⟨column, found⟩

instance : DecidablePred Known := fun _ => decidable_of_iff _ known_iff_mem.symm

/-- A letter outside the table has the index `ACL_RIGHT_NONE`, whose entry is
`create_flag`. -/
theorem changedRights_unknown (unknown : ¬ Known letter) :
    (changedRights letter).map aclRightStrings = [.right .create] := by
  have apart : letter ≠ 108 ∧ letter ≠ 114 ∧ letter ≠ 115 ∧ letter ≠ 119 ∧ letter ≠ 105 ∧
      letter ≠ 112 ∧ letter ≠ 107 ∧ letter ≠ 120 ∧ letter ≠ 116 ∧ letter ≠ 101 ∧ letter ≠ 97 ∧
      letter ≠ 99 ∧ letter ≠ 100 := by
    refine ⟨?_, ?_, ?_, ?_, ?_, ?_, ?_, ?_, ?_, ?_, ?_, ?_, ?_⟩ <;>
      (rintro rfl; exact unknown (by decide +kernel))
  obtain ⟨l, r, s, w, i, p, k, x, t, e, a, c, d⟩ := apart
  simp only [changedRights, aclGetRightFromChar, if_neg l, if_neg r, if_neg s, if_neg w, if_neg i,
    if_neg p, if_neg k, if_neg x, if_neg t, if_neg e, if_neg a, if_neg c, if_neg d]
  rfl

theorem mem_changeWrites (set : Bool) (column : AclColumn) :
    column ∈ (changeWrites letters set).map Prod.fst ↔
      denoted letters column = true ∨
        column = .right .create ∧ ∃ letter ∈ letters, ¬ Known letter := by
  have one : ∀ letter, column ∈ (changedRights letter).map aclRightStrings ↔
      denotes letter column = true ∨ column = .right .create ∧ ¬ Known letter := by
    intro letter
    by_cases known : Known letter
    · rw [changedRights_table letter (known_iff_mem.mp known) column (mem_columns column)]
      simp [known]
    · have silent : denotes letter column ≠ true := fun found => known ⟨column, found⟩
      rw [changedRights_unknown known]
      simp [known, silent]
  have columnsOf : (changeWrites letters set).map Prod.fst =
      letters.flatMap fun letter => (changedRights letter).map aclRightStrings := by
    unfold changeWrites
    rw [map_flatMap]
    simp only [map_map]
    rfl
  rw [columnsOf]
  simp [one, denoted, and_or_left, exists_or, and_left_comm (b := column = _)]

theorem mappedRights_contains (rights : Bytes) (column : AclColumn) :
    (mappedRights rights).contains column.letter = denoted (rights.take 256) column := by
  have ofCreate : ∀ column ∈ columns, (column.letter ∈ lit "k" ↔ column = .right .create) := by
    decide +kernel
  have ofRemoves : ∀ column ∈ columns, (column.letter ∈ lit "xte" ↔ column.removes = true) := by
    decide +kernel
  have keep : (100 : UInt8) ∉ lit "k" := by decide
  rw [Bool.eq_iff_iff, denoted_eq_true_iff, ← ofCreate column (mem_columns _),
    ← ofRemoves column (mem_columns _)]
  unfold mappedRights
  by_cases c : (99 : UInt8) ∈ rights.take 256
  · by_cases d : (100 : UInt8) ∈ rights.take 256
    · simp [c, d]
    · simp [c, d, keep]
  · by_cases d : (100 : UInt8) ∈ rights.take 256
    · simp [c, d]
    · simp [c, d]

/-- `acl_replace_rights` writes every column. -/
theorem replaceWrites_agree (rights : Bytes) :
    ∀ write ∈ replaceWrites rights, write.2 = denoted (rights.take 256) write.1 := by
  have letterAt : ∀ right ∈ replacedRights,
      aclRightChars.getD right.val 0 = (aclRightStrings right).letter := by decide +kernel
  intro write member
  obtain ⟨right, inside, rfl⟩ := mem_map.mp member
  rw [letterAt right inside]
  exact mappedRights_contains rights (aclRightStrings right)

def AclRow.removes (row : AclRow) : Bool :=
  row.rights .delete || row.rights .deleted || row.rights .expunge

/-- What the text of a row denotes: `d` stands there when any of its rights does. -/
theorem denoted_chars (row : AclRow) (column : AclColumn) :
    denoted row.chars column = (row.get column || column.removes && row.removes) := by
  have flag : ∀ (granted : Bool) (char : String),
      denoted (if granted = true then lit char else []) column =
        (granted && denoted (lit char) column) := by
    intro granted char
    cases granted <;> rfl
  unfold AclRow.chars
  simp only [denoted_append, flag, AclRow.removes]
  cases column with
  | right right =>
    cases right <;>
      simp [denoted, denotes, lit, AclColumn.letter, AclColumn.removes, AclRow.get]
  | post => simp [denoted, denotes, lit, AclColumn.letter, AclColumn.removes, AclRow.get]

end Letters

/-! ## The rights after a call -/

section Called

variable {db : Database} {user mailbox : Nat} (rights : Bytes)

/-- The rights of a user: all for the owner, otherwise those of the user's row. -/
def Database.held (db : Database) (user mailbox : Nat) (column : AclColumn) : Bool :=
  db.directory.owner mailbox = user || db.flag user mailbox column

/-- What `acl_set_rights` should do: the user holds exactly the requested rights,
the rest of the database stays, and the text reported later denotes them. -/
structure SetsNamed (db : Database) (user mailbox : Nat) (rights : Bytes) : Prop where
  onlyRow : OnlyRow user mailbox db (db.setRights user mailbox rights)
  held : ∀ column, (db.setRights user mailbox rights).held user mailbox column =
    requested (db.held user mailbox) rights column
  reported : ∃ text, (db.setRights user mailbox rights).rightsString user mailbox = some text ∧
    ∀ column, denoted text column = requested (db.held user mailbox) rights column

def callWrites (rights : Bytes) : List (AclColumn × Bool) :=
  if rights.head? = some 45 then changeWrites (rights.drop 1) false
  else if rights.head? = some 43 then changeWrites (rights.drop 1) true
  else replaceWrites rights

theorem setRights_eq : db.setRights user mailbox rights =
    db.setAll user mailbox (callWrites rights) := by
  unfold setRights callWrites
  by_cases minus : rights.head? = some 45
  · rw [if_pos minus, if_pos minus, changeRights_eq]
  rw [if_neg minus, if_neg minus]
  by_cases plus : rights.head? = some 43
  · rw [if_pos plus, if_pos plus, changeRights_eq]
  · rw [if_neg plus, if_neg plus]
    rfl

theorem setRights_onlyRow : OnlyRow user mailbox db (db.setRights user mailbox rights) := by
  rw [setRights_eq]
  exact setAll_onlyRow (callWrites rights) db

theorem changeWrites_agree (letters : Bytes) (set : Bool) :
    ∀ write ∈ changeWrites letters set, write.2 = set := by
  intro write member
  obtain ⟨letter, -, inside⟩ := mem_flatMap.mp member
  obtain ⟨right, -, rfl⟩ := mem_map.mp inside
  rfl

/-- The letters name what `acl_set_rights` writes: a letter without a right is only
there when `create_flag` is written anyway or has the value already, and nothing
new is named behind the 256 bytes that `acl_replace_rights` reads. -/
def WritesNamed (db : Database) (user mailbox : Nat) (rights : Bytes) : Prop :=
  if Signed rights then
    (∀ letter ∈ rights.drop 1, Known letter) ∨ denoted (rights.drop 1) (.right .create) = true ∨
      db.flag user mailbox (.right .create) = decide (rights.head? = some 43)
  else ∀ column, denoted rights column = true → denoted (rights.take 256) column = true

/-- A signed string asks for the value of its sign where it has letters. -/
theorem requested_signed {rights : Bytes} (signed : Signed rights) (prior : AclColumn → Bool)
    (column : AclColumn) :
    requested prior rights column =
      if denoted (rights.drop 1) column = true then decide (rights.head? = some 43)
      else prior column := by
  unfold requested
  obtain minus | plus := signed
  · rw [minus]
    cases denoted (rights.drop 1) column <;> simp
  · rw [plus]
    cases denoted (rights.drop 1) column <;> simp

theorem requested_unsigned {rights : Bytes} (unsigned : ¬ Signed rights)
    (prior : AclColumn → Bool) (column : AclColumn) :
    requested prior rights column = denoted rights column := by
  unfold requested
  rw [if_neg fun minus => unsigned (.inl minus), if_neg fun plus => unsigned (.inr plus)]

theorem callWrites_signed {rights : Bytes} (signed : Signed rights) :
    callWrites rights = changeWrites (rights.drop 1) (decide (rights.head? = some 43)) := by
  unfold callWrites
  obtain minus | plus := signed
  · rw [minus]
    rfl
  · rw [plus]
    rfl

theorem callWrites_unsigned {rights : Bytes} (unsigned : ¬ Signed rights) :
    callWrites rights = replaceWrites rights := by
  unfold callWrites
  rw [if_neg fun minus => unsigned (.inl minus), if_neg fun plus => unsigned (.inr plus)]

/-! ## When a call does what it says -/

/-- The rights that the reported letter `d` stands for are held together. -/
def Together (set : AclColumn → Bool) : Prop :=
  set (.right .delete) = set (.right .deleted) ∧ set (.right .deleted) = set (.right .expunge)

/-- Another user's rights are set as named and reported: the user `anyone` is there,
the letters name what is written, `d` is not reported for a part of its rights, and
a sign without letters meets a row or an `anyone` without rights. -/
structure OtherAsks (db : Database) (user mailbox : Nat) (rights : Bytes) : Prop where
  anyone : db.anyone ≠ 0
  named : WritesNamed db user mailbox rights
  together : Together (requested (db.flag user mailbox) rights)
  present : db.row user mailbox = none → Signed rights → rights.drop 1 = [] →
    ∀ column, db.flag db.anyone mailbox column = false

def OwnerAsks (rights : Bytes) : Prop :=
  rights.head? = some 43 ∨
    rights.head? = some 45 ∧ (∀ column, denoted (rights.drop 1) column = false) ∨
    ¬ Signed rights ∧ ∀ column, denoted rights column = true

/-- The text of a row denotes the flags of the row exactly when `d` stands for
rights held together. -/
theorem denoted_chars_iff (row : AclRow) :
    (∀ column, denoted row.chars column = row.get column) ↔ Together row.get := by
  simp only [denoted_chars]
  constructor
  · intro same
    have delete := same (.right .delete)
    have deleted := same (.right .deleted)
    have expunge := same (.right .expunge)
    simp only [AclRow.get, AclColumn.removes, AclRow.removes] at delete deleted expunge
    unfold Together
    simp only [AclRow.get]
    revert delete deleted expunge
    cases row.rights .delete <;> cases row.rights .deleted <;> cases row.rights .expunge <;> simp
  · rintro ⟨first, second⟩ column
    by_cases removes : column.removes = true
    · have cases_ : column = .right .delete ∨ column = .right .deleted ∨
          column = .right .expunge := by
        simpa [AclColumn.removes, or_assoc] using removes
      simp only [AclRow.get] at first second
      unfold AclRow.removes
      obtain rfl | rfl | rfl := cases_ <;> simp [AclRow.get, first, second]
    · simp [removes]

theorem denoted_chars_nothing_iff (row : AclRow) :
    (∀ column, denoted row.chars column = false) ↔ ∀ column, row.get column = false := by
  simp only [denoted_chars, Bool.or_eq_false_iff, forall_and]
  constructor
  · exact fun nothing => nothing.1
  · intro nothing
    have removes : row.removes = false := by
      have delete := nothing (.right .delete)
      have deleted := nothing (.right .deleted)
      have expunge := nothing (.right .expunge)
      simp only [AclRow.get] at delete deleted expunge
      simp [AclRow.removes, delete, deleted, expunge]
    exact ⟨nothing, fun column => by simp [removes]⟩

theorem requested_all_iff :
    (∀ column, requested (fun _ => true) rights column = true) ↔ OwnerAsks rights := by
  unfold OwnerAsks
  by_cases plus : rights.head? = some 43
  · have signed : Signed rights := .inr plus
    simp [requested_signed signed, plus]
  by_cases minus : rights.head? = some 45
  · have signed : Signed rights := .inl minus
    simp [requested_signed signed, minus, signed]
  · have unsigned : ¬ Signed rights := fun signed => signed.elim minus plus
    simp [requested_unsigned unsigned, plus, minus, unsigned]

section Others

variable (others : db.directory.owner mailbox ≠ user)

include others

theorem flag_changeRights (letters : Bytes) (set : Bool) (column : AclColumn) :
    (db.setAll user mailbox (changeWrites letters set)).flag user mailbox column =
      if denoted letters column = true ∨
          column = .right .create ∧ ∃ letter ∈ letters, ¬ Known letter then set
      else db.flag user mailbox column := by
  rw [@flag_setAll user mailbox (fun _ => set) _ (changeWrites_agree letters set) db others]
  exact if_congr (mem_changeWrites letters set column) rfl rfl

theorem flag_replaceRights (column : AclColumn) :
    (db.setAll user mailbox (replaceWrites rights)).flag user mailbox column =
      denoted (rights.take 256) column := by
  rw [flag_setAll _ (replaceWrites_agree rights) db others, 
    show (replaceWrites rights).map Prod.fst = columns from rfl, if_pos (mem_columns column)]

/-- The flags are the requested ones exactly when the letters name what is written. -/
theorem flag_setRights_iff :
    (∀ column, (db.setRights user mailbox rights).flag user mailbox column =
        requested (db.flag user mailbox) rights column) ↔
      WritesNamed db user mailbox rights := by
  rw [setRights_eq]
  unfold WritesNamed
  by_cases signed : Signed rights
  · simp only [if_pos signed, callWrites_signed signed, flag_changeRights others,
      requested_signed signed]
    constructor
    · intro same
      by_cases known : ∀ letter ∈ rights.drop 1, Known letter
      · exact .inl known
      · by_cases create : denoted (rights.drop 1) (.right .create) = true
        · exact .inr (.inl create)
        · have atCreate := same (.right .create)
          rw [if_pos (.inr ⟨rfl, by simpa using known⟩), if_neg create] at atCreate
          exact .inr (.inr atCreate.symm)
    · intro named column
      by_cases found : denoted (rights.drop 1) column = true
      · rw [if_pos (.inl found), if_pos found]
      rw [if_neg found]
      by_cases stray : column = .right .create ∧ ∃ letter ∈ rights.drop 1, ¬ Known letter
      · rw [if_pos (.inr stray)]
        obtain ⟨rfl, letter, member, unknown⟩ := stray
        obtain known | create | already := named
        · exact absurd (known letter member) unknown
        · exact absurd create found
        · exact already.symm
      · rw [if_neg (by rintro (found' | stray'); exacts [found found', stray stray'])]
  · simp only [if_neg signed, callWrites_unsigned signed, flag_replaceRights rights others,
      requested_unsigned signed]
    refine forall_congr' fun column => ?_
    have part : denoted (rights.take 256) column = true → denoted rights column = true := by
      simp only [denoted, any_eq_true]
      rintro ⟨letter, member, found⟩
      exact ⟨letter, mem_of_mem_take member, found⟩
    rw [Bool.eq_iff_iff]
    exact ⟨fun same => same.mpr, fun named => ⟨part, named⟩⟩

theorem row_setRights_isSome :
    ((db.setRights user mailbox rights).row user mailbox).isSome = true ↔
      ¬ (db.row user mailbox = none ∧ Signed rights ∧ rights.drop 1 = []) := by
  have writes : (callWrites rights).isEmpty = true ↔ Signed rights ∧ rights.drop 1 = [] := by
    by_cases signed : Signed rights
    · rw [callWrites_signed signed]
      cases rights.drop 1 with
      | nil => simp [signed, changeWrites]
      | cons letter rest =>
        have some_ : changedRights letter ≠ [] := by
          unfold changedRights
          split
          · simp
          · split <;> simp
        simp [changeWrites, some_]
    · simp [callWrites_unsigned signed, signed, replaceWrites, replacedRights]
  rw [setRights_eq, row_setAll_isSome _ _ others, Bool.or_eq_true, Bool.not_eq_true',
    ← Bool.not_eq_true, writes, Option.isSome_iff_ne_none]
  exact (not_and_or).symm

variable (found : db.directory.owner mailbox ≠ 0)

include found

theorem rightsString_others :
    (db.setRights user mailbox rights).rightsString user mailbox =
      if db.anyone = 0 then none
      else some ((((db.setRights user mailbox rights).row user mailbox).or
        ((db.setRights user mailbox rights).row db.anyone mailbox)).elim [] AclRow.chars) := by
  have directory := (@setRights_onlyRow db user mailbox rights).directory
  have anyone : (db.setRights user mailbox rights).anyone = db.anyone := by
    unfold Database.anyone
    rw [directory]
  unfold rightsString
  rw [anyone, directory, if_neg found, if_neg others]

/-- What is reported for another user denotes the requested rights. -/
theorem reported_iff
    (flags : ∀ column, (db.setRights user mailbox rights).flag user mailbox column =
      requested (db.flag user mailbox) rights column) :
    (∃ text, (db.setRights user mailbox rights).rightsString user mailbox = some text ∧
        ∀ column, denoted text column = requested (db.flag user mailbox) rights column) ↔
      db.anyone ≠ 0 ∧ Together (requested (db.flag user mailbox) rights) ∧
        (db.row user mailbox = none → Signed rights → rights.drop 1 = [] →
          ∀ column, db.flag db.anyone mailbox column = false) := by
  have flagsEq : requested (db.flag user mailbox) rights =
      (db.setRights user mailbox rights).flag user mailbox := by
    funext column
    exact (flags column).symm
  have present := @row_setRights_isSome db user mailbox rights others
  rw [rightsString_others rights others found, flagsEq]
  by_cases anyone : db.anyone = 0
  · simp [anyone]
  rw [if_neg anyone]
  cases row : (db.setRights user mailbox rights).row user mailbox with
  | some value =>
    have flagOf : (db.setRights user mailbox rights).flag user mailbox = value.get := by
      funext column
      simp [flag, row]
    have stays : ¬ (db.row user mailbox = none ∧ Signed rights ∧ rights.drop 1 = []) := by
      rw [← present, row]
      rfl
    rw [flagOf, ← denoted_chars_iff]
    constructor
    · rintro ⟨text, said, denotesAll⟩
      cases said
      exact ⟨anyone, denotesAll, fun absent signed bare => absurd ⟨absent, signed, bare⟩ stays⟩
    · rintro ⟨-, together, -⟩
      exact ⟨_, rfl, together⟩
  | none =>
    have flagOf : (db.setRights user mailbox rights).flag user mailbox = fun _ => false := by
      funext column
      simp [flag, row]
    have gone : db.row user mailbox = none ∧ Signed rights ∧ rights.drop 1 = [] := by
      by_contra stays
      have isSome := present.mpr stays
      rw [row] at isSome
      cases isSome
    have rowOf : (db.setRights user mailbox rights).row db.anyone mailbox =
        db.row db.anyone mailbox := by
      by_cases same : db.anyone = user
      · rw [same, row, gone.1]
      · exact (setRights_onlyRow rights).rows db.anyone mailbox fun pair => same (by injection pair)
    rw [flagOf, rowOf]
    have nothing : (∀ column, denoted ((db.row db.anyone mailbox).elim [] AclRow.chars) column =
        false) ↔ ∀ column, db.flag db.anyone mailbox column = false := by
      unfold flag
      cases db.row db.anyone mailbox with
      | none => simp [denoted]
      | some value => exact denoted_chars_nothing_iff value
    constructor
    · rintro ⟨text, said, denotesAll⟩
      cases said
      exact ⟨anyone, ⟨rfl, rfl⟩, fun _ _ _ => nothing.mp denotesAll⟩
    · rintro ⟨-, -, quiet⟩
      exact ⟨_, rfl, nothing.mpr (quiet gone.1 gone.2.1 gone.2.2)⟩

theorem setsNamed_others_iff :
    SetsNamed db user mailbox rights ↔ OtherAsks db user mailbox rights := by
  have heldOf : ∀ after : Database, after.directory = db.directory →
      after.held user mailbox = after.flag user mailbox := by
    intro after directory
    funext column
    simp [Database.held, directory, others]
  have heldAfter := heldOf _ (@setRights_onlyRow db user mailbox rights).directory
  have heldBefore := heldOf db rfl
  constructor
  · rintro ⟨-, held, reported⟩
    rw [heldAfter, heldBefore] at held
    rw [heldBefore] at reported
    obtain ⟨anyone, together, present⟩ := (reported_iff rights others found held).mp reported
    exact ⟨anyone, (flag_setRights_iff rights others).mp held, together, present⟩
  · rintro ⟨anyone, named, together, present⟩
    have flags := (flag_setRights_iff rights others).mpr named
    refine ⟨setRights_onlyRow rights, ?_, ?_⟩
    · rw [heldAfter, heldBefore]
      exact flags
    · rw [heldBefore]
      exact (reported_iff rights others found flags).mpr ⟨anyone, together, present⟩

end Others

variable (found : db.directory.owner mailbox ≠ 0)

include found

theorem setsNamed_owner_iff (owner : db.directory.owner mailbox = user) :
    SetsNamed db user mailbox rights ↔ OwnerAsks rights := by
  have heldAll : db.held user mailbox = fun _ => true := by
    funext column
    simp [held, owner]
  have same : db.setRights user mailbox rights = db := by
    rw [setRights_eq, setAll_owner owner]
  have allRights : ∀ column ∈ columns, denoted (lit "lrswipkxteacd") column = true := by
    decide +kernel
  rw [← requested_all_iff]
  constructor
  · intro named column
    have heldAfter := named.held column
    rw [same, heldAll] at heldAfter
    exact heldAfter.symm
  · intro all
    refine ⟨setRights_onlyRow rights, fun column => ?_, lit "lrswipkxteacd", ?_, fun column => ?_⟩
    · rw [same, heldAll, all column]
    · rw [same]
      unfold rightsString
      rw [if_neg found, if_pos owner]
    · rw [heldAll, all column, allRights column (mem_columns column)]

/-- A call for a mailbox that exists sets exactly the rights that the string names,
and reports them, under exactly these conditions. -/
theorem setRights_names_iff :
    SetsNamed db user mailbox rights ↔
      if db.directory.owner mailbox = user then OwnerAsks rights
      else OtherAsks db user mailbox rights := by
  by_cases owner : db.directory.owner mailbox = user
  · rw [if_pos owner]
    exact setsNamed_owner_iff rights found owner
  · rw [if_neg owner]
    exact setsNamed_others_iff rights owner found

end Called

/-- Mailbox 7 of user 1, with the users `anyone` and `guest` beside. -/
def sharedBox : Database where
  directory :=
    { users :=
        { rows := [⟨1, lit "owner", [], [], [], 1⟩, ⟨4, lit "anyone", [], [], [], 1⟩,
            ⟨5, lit "guest", [], [], [], 1⟩]
          primaryKey := by decide
          keyRange := by decide }
      owner := fun mailbox => if mailbox = 7 then 1 else 0
      owned := fun _ _ => none
      writable := fun _ => true }
  acl := fun _ => []
  messages := fun _ => []

/-- `lrd` gives the guest these rights. -/
theorem guest_rights_set : SetsNamed sharedBox 5 7 (lit "lrd") := by
  refine (setRights_names_iff (lit "lrd") (by decide)).mpr ?_
  refine ⟨by decide +kernel, ?_, ⟨by decide +kernel, by decide +kernel⟩, ?_⟩
  · exact fun _ named => named
  · exact fun _ signed => absurd signed (by decide +kernel)

/-- `+z` gives the guest the right to create mailboxes. -/
theorem unknown_letter_grants_create : ¬ SetsNamed sharedBox 5 7 (lit "+z") := by
  intro named
  have create := named.held (.right .create)
  revert create
  decide +kernel

end Dbmail.Imap
