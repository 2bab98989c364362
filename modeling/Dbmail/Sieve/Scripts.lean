import Dbmail.Lib.CRuntime
import Dbmail.Lib.Observed

/-!
Contract: the Sieve scripts of the users and their activation.

Owns the statements of `dm_sievescript.c` on the table of scripts, the
validation of `sortsieve.c`, the script commands of `sieve.c` with the states that
others can see between their statements, the scripts that a delivery runs, and
when all of this keeps to one valid active script per user.

Does not own: libSieve, which says of a text whether it validates and whether it
reports an error, or the session that reads the commands. Statements within a
transaction become visible together; a failing one is rolled back.
-/

namespace Dbmail.Sieve

open Dbmail.Lib List Bool

/-! ## The table -/

/-- A row of `sievescripts`. -/
structure ScriptRow where
  owner : Nat
  name : Bytes
  script : Bytes
  active : Bool
deriving DecidableEq

abbrev Scripts := List ScriptRow

def ScriptRow.named (user : Nat) (name : Bytes) (row : ScriptRow) : Bool :=
  row.owner = user && row.name = name

def ScriptRow.activeOf (user : Nat) (row : ScriptRow) : Bool := row.owner = user && row.active

variable (sieve : Libsieve) (scripts : Scripts)

/-- `dm_sievescript_getbyname`. -/
def sievescriptGetbyname (user : Nat) (name : Bytes) : Option Bytes :=
  (scripts.find? (·.named user name)).map ScriptRow.script

/-- `dm_sievescript_get`. -/
def sievescriptGet (user : Nat) : Option Bytes :=
  (scripts.find? (·.activeOf user)).map ScriptRow.name

/-- `dm_sievescript_delete`. -/
def sievescriptDelete (user : Nat) (name : Bytes) : Scripts :=
  scripts.filter fun row => !row.named user name

/-- `dm_sievescript_add`. The COUNT always has a row, so the DELETE is always run; the new
row is active. -/
def sievescriptAdd (user : Nat) (name script : Bytes) : Scripts :=
  sievescriptDelete scripts user name ++ [⟨user, name, script, true⟩]

/-- The UPDATE of `dm_sievescript_rename`. -/
def ScriptRow.renamed (user : Nat) (name newname : Bytes) (active : Bool) (row : ScriptRow) :
    ScriptRow :=
  if row.named user name then { row with name := newname, active := active } else row

/-- `dm_sievescript_rename`. -/
def sievescriptRename (user : Nat) (name newname : Bytes) : Scripts :=
  match scripts.find? (·.named user newname) with
  | some row =>
    (sievescriptDelete scripts user newname).map (·.renamed user name newname row.active)
  | none => scripts.map (·.renamed user name newname false)

/-- `dm_sievescript_deactivate`. -/
def sievescriptDeactivate (user : Nat) (name : Bytes) : Scripts :=
  scripts.map fun row => if row.named user name then { row with active := false } else row

/-- `dm_sievescript_activate`. -/
def sievescriptActivate (user : Nat) (name : Bytes) : Scripts :=
  (scripts.map fun row => if row.owner = user then { row with active := false } else row).map
    fun row => if row.named user name then { row with active := true } else row

/-! ## Validation -/

/-- What libSieve makes of a script: whether `sieve2_validate` returns `SIEVE2_OK`, and
whether it calls the callback for parse errors. -/
structure Libsieve where
  validates : Bytes → Bool
  reports : Bytes → Bool

def Libsieve.passes (script : Bytes) : Bool :=
  sieve.validates script && !sieve.reports script

/-- The part of `struct sort_result` that the callbacks for errors write. -/
structure SortResult where
  errormsg : Bytes
  errorParse : Bool

/-- `sort_errparse`. The text of the error is not appended. -/
def SortResult.errparse (result : SortResult) : SortResult := { result with errorParse := true }

/-- `sort_validate`, which fails as well when libSieve does not start. -/
def sortValidate (fails : Bool) (script : Option Bytes) : Option SortResult :=
  match script with
  | none => none
  | some script =>
    if fails || !sieve.validates script then none
    else some (if sieve.reports script then SortResult.errparse ⟨[], false⟩ else ⟨[], false⟩)

def sortGetError (result : SortResult) : Nat := result.errormsg.length

/-! ## The commands -/

def tempScript : Bytes := lit "@!temp-script!@"

/-- Which statements of a PUTSCRIPT fail, and whether the validation cannot start. -/
structure PutMet where
  addFails : Bool := false
  deleteFails : Bool := false
  validationFails : Bool := false
  renameFails : Bool := false

/-- A script command: the states that others can see before it is done, the table after it,
and the answer; one that goes through `sieve_error` is an error. -/
structure Outcome where
  between : List Scripts
  scripts : Scripts
  reply : Except Bytes Bytes

def dropTemp (user : Nat) (met : PutMet) : Scripts :=
  if met.deleteFails then scripts else sievescriptDelete scripts user tempScript

/-- `SIEVE_PUTS` for the name and the script of a user. -/
def putscript (user : Nat) (name script : Bytes) (met : PutMet) : Outcome :=
  let inserting : Except Bytes Bytes := .error (lit "NO \"Error inserting script.\"\r\n")
  if 2 ^ 32 - 1 ≤ script.length then
    ⟨[], scripts, .error (lit "NO \"Invalid script length.\"\r\n")⟩
  else if met.addFails then ⟨[], dropTemp scripts user met, inserting⟩
  else
    let added := sievescriptAdd scripts user tempScript script
    match sortValidate sieve met.validationFails (sievescriptGetbyname added user tempScript) with
    | none => ⟨[added], dropTemp added user met, inserting⟩
    | some result =>
      if 0 < sortGetError result then
        ⟨[added], dropTemp added user met,
          .error (lit "NO \"Script error: " ++ result.errormsg ++ lit ".\"\r\n")⟩
      else if met.renameFails then ⟨[added], added, inserting⟩
      else ⟨[added], sievescriptRename added user tempScript name,
        .ok (lit "OK \"Script successfully received.\"\r\n")⟩

/-- `SIEVE_SETS` for a name, which is empty when none is given. When the active script
cannot be read, none is. -/
def setactive (user : Nat) (name : Bytes) (readFails fails : Bool) : Outcome :=
  if name = [] then
    match if readFails then none else sievescriptGet scripts user with
    | none => ⟨[], scripts, .ok (lit "OK \"No scripts are active at this time.\"\r\n")⟩
    | some active =>
      if fails then ⟨[], scripts, .ok (lit "NO \"Error deactivating script.\"\r\n")⟩
      else ⟨[], sievescriptDeactivate scripts user active,
        .ok (lit "OK \"All scripts deactivated.\"\r\n")⟩
  else if fails then ⟨[], scripts, .ok (lit "NO \"Error activating script.\"\r\n")⟩
  else ⟨[], sievescriptActivate scripts user name, .ok (lit "OK \"Script activated.\"\r\n")⟩

/-- `SIEVE_DELS` for a name. -/
def deletescript (user : Nat) (name : Bytes) (fails : Bool) : Outcome :=
  if name = [] then ⟨[], scripts, .error (lit "NO \"Script name required.\"\r\n")⟩
  else if fails then ⟨[], scripts, .error (lit "NO \"Error deleting script.\"\r\n")⟩
  else ⟨[], sievescriptDelete scripts user name, .ok (lit "OK \"Script deleted.\"\r\n")⟩

inductive ScriptCommand where
  | putscript (user : Nat) (name script : Bytes) (met : PutMet)
  | setactive (user : Nat) (name : Bytes) (readFails fails : Bool)
  | deletescript (user : Nat) (name : Bytes) (fails : Bool)

def ScriptCommand.outcome : ScriptCommand → Outcome
  | .putscript user name script met => Sieve.putscript sieve scripts user name script met
  | .setactive user name readFails fails => Sieve.setactive scripts user name readFails fails
  | .deletescript user name fails => Sieve.deletescript scripts user name fails

def scriptStep (command : ScriptCommand) :
    Except Fault Scripts := .ok (command.outcome sieve scripts).scripts

/-! ## What others see -/

/-- The tables that a delivery can see during some commands, in their order. -/
def visible (start : Scripts) (commands : List ScriptCommand) : List Scripts :=
  observed (scriptStep sieve) (fun scripts command => (command.outcome sieve scripts).between)
    start commands

/-- A delivery runs a script: `sort_process` reads the name of an active script, and
`sort_getscript` reads the script of this name, at the same time or later. -/
def DeliveryRuns (tables : List Scripts) (user : Nat) (script : Bytes) : Prop :=
  ∃ past read later, tables = past ++ read :: later ∧ ∃ row ∈ read, row.activeOf user = true ∧
      ∃ table ∈ read :: later, ∃ found ∈ table, found.named user row.name = true ∧
        found.script = script

def IsActive (user : Nat) (name : Bytes) : Prop :=
  ∃ row ∈ scripts, row.named user name = true ∧ row.active = true

/-- The same scripts are active, and none is stored that fails validation. -/
def Untouched (before after : Scripts) : Prop :=
  (∀ owner name, IsActive after owner name ↔ IsActive before owner name) ∧
    ∀ row ∈ after, sieve.passes row.script = true ∨ row ∈ before

/-- PUTSCRIPT leaves the active scripts and stores no script that fails validation, in every
table that others see until it is done. -/
def PutKeeps (before : Scripts) : ScriptCommand → Prop
  | .putscript user name script met =>
    let outcome := putscript sieve before user name script met
    ∀ table ∈ outcome.between ++ [outcome.scripts], Untouched sieve before table
  | _ => True

/-- PUTSCRIPT does so in the table that it leaves. -/
def PutLeaves (before : Scripts) : ScriptCommand → Prop
  | .putscript user name script met =>
    Untouched sieve before (putscript sieve before user name script met).scripts
  | _ => True

def UnknownKept (before : Scripts) : ScriptCommand → Prop
  | .setactive user name readFails fails =>
    name ≠ [] → (∀ row ∈ before, row.named user name = false) →
      (setactive before user name readFails fails).scripts = before
  | _ => True

/-- The activation of scripts over some commands and the deliveries among them, with what
each PUTSCRIPT has to keep to. -/
structure ActivationSafe (sieve : Libsieve) (putKeeps : Scripts → ScriptCommand → Prop)
    (start : Scripts) (commands : List ScriptCommand) : Prop where
  single : ∀ scripts ∈ visible sieve start commands, ∀ user,
    scripts.countP (·.activeOf user) ≤ 1
  puts : StepsMeet (scriptStep sieve) putKeeps start commands
  unknown : StepsMeet (scriptStep sieve) UnknownKept start commands
  valid : ∀ user script, DeliveryRuns (visible sieve start commands) user script →
    sieve.passes script = true

/-- The scripts of a table at rest: unique names, at most one active script for each user,
all of them valid, and no temporary one. -/
structure Orderly (sieve : Libsieve) (scripts : Scripts) : Prop where
  unique : ∀ user name, scripts.countP (·.named user name) ≤ 1
  single : ∀ user, scripts.countP (·.activeOf user) ≤ 1
  passing : ∀ row ∈ scripts, sieve.passes row.script = true
  settled : ∀ row ∈ scripts, row.name ≠ tempScript

/-- What a command has to meet for what it leaves. The temporary script is active from its
insertion on, so the user may have no other one, it has to be valid, and it has to go. -/
def Careful (before : Scripts) : ScriptCommand → Prop
  | .putscript user _ script met =>
    2 ^ 32 - 1 ≤ script.length ∨ met.addFails = true ∨
      before.countP (·.activeOf user) = 0 ∧ sieve.passes script = true ∧
        (if met.validationFails then met.deleteFails else met.renameFails) = false
  | .setactive user name _ fails =>
    name = [] ∨ fails = true ∨ (∃ row ∈ before, row.named user name = true) ∨
      before.countP (·.activeOf user) = 0
  | .deletescript _ _ _ => True

/-- What a command has to meet in all: a PUTSCRIPT may not insert the temporary script. -/
def Inert (before : Scripts) : ScriptCommand → Prop
  | .putscript _ _ script met => 2 ^ 32 - 1 ≤ script.length ∨ met.addFails = true
  | command => Careful sieve before command

instance (before : Scripts) : DecidablePred (Careful sieve before)
  | .putscript _ _ _ _ => inferInstanceAs (Decidable (_ ∨ _ ∨ _ ∧ _ ∧ _ = false))
  | .setactive _ _ _ _ => inferInstanceAs (Decidable (_ ∨ _ ∨ _ ∨ _))
  | .deletescript _ _ _ => .isTrue trivial

open ScriptRow

/-! ## Statements on an orderly table -/

variable {row : ScriptRow} {user : Nat} {name script : Bytes} {command : ScriptCommand}

section Statements

variable {sieve : Libsieve} {scripts : Scripts}

theorem named_iff : row.named user name = true ↔ row.owner = user ∧ row.name = name := by
  simp [named]

theorem activeOf_iff : row.activeOf user = true ↔ row.owner = user ∧ row.active = true := by
  simp [activeOf]

def tempRow (user : Nat) (script : Bytes) : ScriptRow := ⟨user, tempScript, script, true⟩

@[simp] theorem tempRow_named (user : Nat) (script : Bytes) :
    (tempRow user script).named user tempScript = true := by
  simp [tempRow, named]

theorem inactive_of_idle (idle : scripts.countP (·.activeOf user) = 0) (member : row ∈ scripts)
    (named : row.named user name = true) : row.active = false := by
  rw [eq_false_iff]
  intro active
  exact countP_eq_zero.mp idle row member (activeOf_iff.mpr ⟨(named_iff.mp named).1, active⟩)

def stored (scripts : Scripts) (user : Nat) (name script : Bytes) : Scripts :=
  sievescriptDelete scripts user name ++ [⟨user, name, script, false⟩]

theorem sievescriptActivate_eq (user : Nat) (name : Bytes) :
    sievescriptActivate scripts user name = scripts.map fun row =>
      { row with active := if row.owner = user then decide (row.name = name) else row.active } := by
  rw [sievescriptActivate, map_map]
  apply map_congr_left
  rintro ⟨owner, other, script, active⟩ _
  by_cases same : owner = user <;> by_cases named : other = name <;>
    simp [same, named, ScriptRow.named]

theorem countP_sievescriptActivate (user : Nat) (name : Bytes) (owner : Nat) :
    (sievescriptActivate scripts user name).countP (·.activeOf owner) =
      if owner = user then scripts.countP (·.named user name)
      else scripts.countP (·.activeOf owner) := by
  rw [sievescriptActivate_eq, countP_map]
  split
  · rename_i same
    apply countP_congr
    intro row _
    simp only [Function.comp_apply, activeOf_iff, named_iff, same]
    exact and_congr_right fun mine => by rw [if_pos mine, decide_eq_true_iff]
  · rename_i different
    apply countP_congr
    intro row _
    simp only [Function.comp_apply, activeOf_iff]
    exact and_congr_right fun mine => by rw [if_neg (mine ▸ different)]

theorem isActive_stored (idle : scripts.countP (·.activeOf user) = 0) (owner : Nat)
    (other : Bytes) :
    IsActive (stored scripts user name script) owner other ↔ IsActive scripts owner other := by
  constructor
  · rintro ⟨row, member, named, active⟩
    obtain old | new := mem_append.mp member
    · exact ⟨row, mem_of_mem_filter old, named, active⟩
    · obtain rfl := mem_singleton.mp new
      cases active
  · rintro ⟨row, member, named, active⟩
    have kept : row.named user name = false :=
      eq_false_iff.mpr fun replaced =>
        absurd active (by simp [inactive_of_idle idle member replaced])
    exact ⟨row, mem_append_left _ (mem_filter.mpr ⟨member, by simp [kept]⟩), named, active⟩

theorem sievescriptActivate_unknown (unknown : ∀ row ∈ scripts, row.named user name = false)
    (idle : scripts.countP (·.activeOf user) = 0) : sievescriptActivate scripts user name = scripts := by
  rw [sievescriptActivate_eq]
  refine (map_congr_left fun row member => ?_).trans (map_id scripts)
  have off := countP_eq_zero.mp idle row member
  have other := unknown row member
  obtain ⟨owner, rowName, script, active⟩ := row
  by_cases mine : owner = user
  · simp [activeOf, named] at off other
    simp [mine, off, other]
  · simp [mine]

theorem unknownKept_of_careful (careful : Careful sieve scripts command) :
    UnknownKept scripts command := by
  cases command with
  | putscript user name script met => trivial
  | deletescript user name fails => trivial
  | setactive user name readFails fails =>
    intro given unknown
    unfold setactive
    rw [if_neg given]
    split
    · rfl
    · rename_i runs
      obtain empty | fails | ⟨row, member, named⟩ | idle := careful
      · exact absurd empty given
      · exact absurd fails runs
      · rw [unknown row member] at named
        cases named
      · exact sievescriptActivate_unknown unknown idle

/-- What a delivery may meet: at most one active script for each user, all of them valid. -/
def Presentable (sieve : Libsieve) (scripts : Scripts) : Prop :=
  (∀ user, scripts.countP (·.activeOf user) ≤ 1) ∧ ∀ row ∈ scripts, sieve.passes row.script = true

variable (orderly : Orderly sieve scripts)

include orderly

theorem Orderly.not_temp (member : row ∈ scripts) (user : Nat) :
    row.named user tempScript = false := by
  rw [eq_false_iff]
  intro named
  exact orderly.settled row member (named_iff.mp named).2

section Temp

variable (user : Nat) (script : Bytes)

theorem delete_no_temp : sievescriptDelete scripts user tempScript = scripts :=
  filter_eq_self.mpr fun row member => by simp [orderly.not_temp member user]

theorem sievescriptAdd_temp :
    sievescriptAdd scripts user tempScript script = scripts ++ [tempRow user script] := by
  rw [sievescriptAdd, delete_no_temp orderly]
  rfl

theorem sievescriptDelete_temp :
    sievescriptDelete (scripts ++ [tempRow user script]) user tempScript = scripts := by
  have kept : scripts.filter (fun row => !row.named user tempScript) = scripts :=
    delete_no_temp orderly user
  rw [sievescriptDelete, filter_append, kept]
  simp

theorem find_temp : (scripts ++ [tempRow user script]).find? (·.named user tempScript) =
    some (tempRow user script) := by
  have absent : scripts.find? (·.named user tempScript) = none :=
    List.find?_eq_none.mpr fun row member => by simp [orderly.not_temp member user]
  rw [List.find?_append, absent]
  simp

theorem sievescriptGetbyname_temp :
    sievescriptGetbyname (scripts ++ [tempRow user script]) user tempScript = some script := by
  rw [sievescriptGetbyname, find_temp orderly]
  rfl

end Temp

theorem sievescriptRename_temp (idle : scripts.countP (·.activeOf user) = 0) :
    sievescriptRename (scripts ++ [tempRow user script]) user tempScript name =
      if name = tempScript then scripts else stored scripts user name script := by
  have untouched : ∀ active, ∀ rows : Scripts, (∀ row ∈ rows, row ∈ scripts) →
      rows.map (·.renamed user tempScript name active) = rows := by
    intro active rows inside
    refine (map_congr_left fun row member => ?_).trans (map_id rows)
    rw [renamed, if_neg (by simp [orderly.not_temp (inside row member) user])]
    rfl
  have moved : ∀ active, (tempRow user script).renamed user tempScript name active =
      ⟨user, name, script, active⟩ := by
    intro active
    rw [renamed, if_pos (tempRow_named user script)]
    rfl
  have inside : ∀ row ∈ sievescriptDelete scripts user name, row ∈ scripts :=
    fun row member => mem_of_mem_filter member
  by_cases temp : name = tempScript
  · subst temp
    rw [sievescriptRename, find_temp orderly, if_pos rfl]
    dsimp only
    rw [sievescriptDelete_temp orderly, untouched _ _ fun row member => member]
  · have other : (tempRow user script).named user name = false := by
      simp [tempRow, named, Ne.symm temp]
    have found : (scripts ++ [tempRow user script]).find? (·.named user name) =
        scripts.find? (·.named user name) := by
      simp [other]
    rw [sievescriptRename, found, if_neg temp, stored]
    cases replaced : scripts.find? (·.named user name) with
    | none =>
      have absent : sievescriptDelete scripts user name = scripts :=
        filter_eq_self.mpr fun row member => by
          simpa using List.find?_eq_none.mp replaced row member
      rw [map_append, untouched _ _ fun row member => member, absent, map_singleton, moved]
    | some row =>
      have off := inactive_of_idle idle (mem_of_find?_eq_some replaced)
        (List.find?_some replaced)
      dsimp only
      rw [sievescriptDelete, filter_append, map_append,
        show scripts.filter (fun row => !row.named user name) =
          sievescriptDelete scripts user name from rfl, untouched _ _ inside, off]
      simp [other, moved]

/-! ## An orderly table stays so -/

theorem Orderly.of_sublist {rows : Scripts} (part : rows.Sublist scripts) : Orderly sieve rows where
  unique user name := Nat.le_trans part.countP_le (orderly.unique user name)
  single user := Nat.le_trans part.countP_le (orderly.single user)
  passing row member := orderly.passing row (part.subset member)
  settled row member := orderly.settled row (part.subset member)

theorem Orderly.stored (passes : sieve.passes script = true) (notTemp : name ≠ tempScript) :
    Orderly sieve (stored scripts user name script) := by
  have rest := orderly.of_sublist (filter_sublist (l := scripts)
    (p := fun row => !row.named user name))
  constructor
  · intro owner other
    rw [Sieve.stored, countP_append, sievescriptDelete]
    by_cases same : owner = user ∧ other = name
    · obtain ⟨rfl, rfl⟩ := same
      have gone : (scripts.filter fun row => !row.named owner other).countP
          (·.named owner other) = 0 :=
        countP_eq_zero.mpr fun row member => by simpa using of_mem_filter member
      simp
      split <;> omega
    · have fresh : ScriptRow.named owner other ⟨user, name, script, false⟩ = false := by
        rw [eq_false_iff]
        intro named
        obtain ⟨sameUser, sameName⟩ := named_iff.mp named
        exact same ⟨sameUser.symm, sameName.symm⟩
      rw [countP_singleton, fresh]
      exact rest.unique owner other
  · intro owner
    have idle : activeOf owner ⟨user, name, script, false⟩ = false := by
      simp [activeOf]
    rw [Sieve.stored, countP_append, countP_singleton, idle]
    exact rest.single owner
  · exact forall_mem_append.mpr ⟨rest.passing, forall_mem_singleton.mpr passes⟩
  · exact forall_mem_append.mpr ⟨rest.settled, forall_mem_singleton.mpr notTemp⟩

theorem Orderly.reflagged {change : ScriptRow → Bool}
    (single : ∀ user, (scripts.map fun row => { row with active := change row }).countP
      (·.activeOf user) ≤ 1) :
    Orderly sieve (scripts.map fun row => { row with active := change row }) where
  unique user name := by
    rw [countP_map]
    exact orderly.unique user name
  single := single
  passing row member := by
    obtain ⟨old, inside, rfl⟩ := mem_map.mp member
    exact orderly.passing old inside
  settled row member := by
    obtain ⟨old, inside, rfl⟩ := mem_map.mp member
    exact orderly.settled old inside

theorem Orderly.activate (user : Nat) (name : Bytes) :
    Orderly sieve (sievescriptActivate scripts user name) := by
  have counted := @countP_sievescriptActivate scripts user name
  rw [sievescriptActivate_eq] at counted ⊢
  apply orderly.reflagged
  intro owner
  rw [counted owner]
  split
  · exact orderly.unique user name
  · exact orderly.single owner

theorem Orderly.deactivate (user : Nat) (name : Bytes) :
    Orderly sieve (sievescriptDeactivate scripts user name) := by
  have flags : sievescriptDeactivate scripts user name = scripts.map fun row =>
      { row with active := row.active && !row.named user name } := by
    apply map_congr_left
    rintro ⟨owner, other, script, active⟩ _
    by_cases named : (owner = user && other = name) = true <;> simp [ScriptRow.named, named]
  rw [flags]
  apply orderly.reflagged
  intro owner
  rw [countP_map]
  refine Nat.le_trans (countP_mono_left fun row _ active => ?_) (orderly.single owner)
  obtain ⟨mine, on⟩ := activeOf_iff.mp active
  exact activeOf_iff.mpr ⟨mine, (and_eq_true_iff.mp on).1⟩

/-! ## Commands on an orderly table -/

theorem putscript_between (user : Nat) (name script : Bytes) (met : PutMet) :
    (putscript sieve scripts user name script met).between =
      if 2 ^ 32 - 1 ≤ script.length ∨ met.addFails = true then []
      else [scripts ++ [tempRow user script]] := by
  unfold putscript
  dsimp only
  rw [sievescriptAdd_temp orderly, ite_or]
  by_cases long : 2 ^ 32 - 1 ≤ script.length
  · rw [if_pos long, if_pos long]
  rw [if_neg long]
  split
  · rfl
  split
  · rfl
  split
  · rfl
  · split <;> rfl

/-- What a PUTSCRIPT leaves. No validated script has an error message, so only a failing
statement keeps it from its name. -/
theorem putscript_scripts (user : Nat) (name script : Bytes) (met : PutMet) :
    (putscript sieve scripts user name script met).scripts =
      if 2 ^ 32 - 1 ≤ script.length ∨ met.addFails = true then scripts
      else if met.validationFails || !sieve.validates script then
        if met.deleteFails then scripts ++ [tempRow user script] else scripts
      else if met.renameFails then scripts ++ [tempRow user script]
      else sievescriptRename (scripts ++ [tempRow user script]) user tempScript name := by
  have dropped : dropTemp scripts user met = scripts := by
    rw [dropTemp, delete_no_temp orderly, ite_self]
  have cleaned : dropTemp (scripts ++ [tempRow user script]) user met =
      if met.deleteFails then scripts ++ [tempRow user script] else scripts := by
    unfold dropTemp
    rw [sievescriptDelete_temp orderly]
  unfold putscript
  dsimp only
  rw [sievescriptAdd_temp orderly, sievescriptGetbyname_temp orderly, dropped, ite_or, sortValidate]
  by_cases long : 2 ^ 32 - 1 ≤ script.length
  · rw [if_pos long, if_pos long]
  rw [if_neg long]
  split
  · rfl
  by_cases refused : (met.validationFails || !sieve.validates script) = true
  · rw [if_pos refused, if_pos refused]
    exact cleaned
  rw [if_neg refused, if_neg refused]
  have quiet : ∀ result : SortResult, result.errormsg = [] → ¬ 0 < sortGetError result := by
    intro result silent
    simp [sortGetError, silent]
  dsimp only
  rw [if_neg (quiet _ (by split <;> rfl))]
  cases met.renameFails <;> rfl

/-- A careful PUTSCRIPT leaves the table or stores a valid script that is not active. -/
theorem putscript_careful {met : PutMet}
    (careful : Careful sieve scripts (.putscript user name script met)) :
    (putscript sieve scripts user name script met).scripts = scripts ∨
      scripts.countP (·.activeOf user) = 0 ∧ sieve.passes script = true ∧ name ≠ tempScript ∧
        (putscript sieve scripts user name script met).scripts =
          stored scripts user name script := by
  rw [putscript_scripts orderly]
  obtain long | fails | ⟨idle, passes, goes⟩ := careful
  · exact .inl (if_pos (.inl long))
  · exact .inl (if_pos (.inr fails))
  · split
    · exact .inl rfl
    · have validates : sieve.validates script = true := (and_eq_true_iff.mp passes).1
      cases stopped : met.validationFails with
      | true =>
        rw [stopped, if_pos rfl] at goes
        left
        simp [goes]
      | false =>
        rw [stopped, if_neg Bool.false_ne_true] at goes
        rw [validates, goes, sievescriptRename_temp orderly idle]
        by_cases temp : name = tempScript
        · left
          simp [temp]
        · right
          simp [idle, passes, temp]

theorem presentable_temp (idle : scripts.countP (·.activeOf user) = 0)
    (passes : sieve.passes script = true) :
    Presentable sieve (scripts ++ [tempRow user script]) := by
  constructor
  · intro owner
    rw [countP_append, countP_singleton]
    by_cases same : owner = user
    · rw [same]
      split <;> omega
    · have other : (tempRow user script).activeOf owner = false := by
        simp [tempRow, activeOf, Ne.symm same]
      rw [other]
      exact orderly.single owner
  · exact forall_mem_append.mpr ⟨orderly.passing, forall_mem_singleton.mpr passes⟩

/-- What a careful command does to an orderly table, and what others see of it. -/
theorem Orderly.step (careful : Careful sieve scripts command) :
    Orderly sieve (command.outcome sieve scripts).scripts ∧
      ∀ passed ∈ (command.outcome sieve scripts).between, Presentable sieve passed := by
  cases command with
  | putscript user name script met =>
    change Orderly sieve (putscript sieve scripts user name script met).scripts ∧
      ∀ passed ∈ (putscript sieve scripts user name script met).between, _
    constructor
    · obtain same | ⟨idle, passes, notTemp, after⟩ := putscript_careful orderly careful
      · rw [same]
        exact orderly
      · rw [after]
        exact orderly.stored passes notTemp
    · rw [putscript_between orderly]
      intro passed member
      split at member
      · cases member
      · rename_i inserts
        obtain rfl := mem_singleton.mp member
        obtain long | fails | ⟨idle, passes, _⟩ := careful
        · exact absurd (.inl long) inserts
        · exact absurd (.inr fails) inserts
        · exact presentable_temp orderly idle passes
  | setactive user name readFails fails =>
    show Orderly sieve (setactive scripts user name readFails fails).scripts ∧
      ∀ passed ∈ (setactive scripts user name readFails fails).between, _
    unfold setactive
    split
    · split
      · exact ⟨orderly, nofun⟩
      · split
        · exact ⟨orderly, nofun⟩
        · exact ⟨orderly.deactivate user _, nofun⟩
    · split
      · exact ⟨orderly, nofun⟩
      · exact ⟨orderly.activate user name, nofun⟩
  | deletescript user name fails =>
    show Orderly sieve (deletescript scripts user name fails).scripts ∧
      ∀ passed ∈ (deletescript scripts user name fails).between, _
    unfold deletescript
    split
    · exact ⟨orderly, nofun⟩
    · split
      · exact ⟨orderly, nofun⟩
      · exact ⟨orderly.of_sublist filter_sublist, nofun⟩

theorem putLeaves_of_careful (careful : Careful sieve scripts command) :
    PutLeaves sieve scripts command := by
  cases command with
  | putscript user name script met =>
    obtain same | ⟨idle, passes, _, after⟩ := putscript_careful orderly careful
    · exact ⟨fun owner other => by rw [same], fun row member => .inr (by rwa [same] at member)⟩
    · refine ⟨fun owner other => by rw [after]; exact isActive_stored idle owner other, ?_⟩
      intro row member
      rw [after] at member
      obtain old | new := mem_append.mp member
      · exact .inr (mem_of_mem_filter old)
      · obtain rfl := mem_singleton.mp new
        exact .inl passes
  | setactive | deletescript => trivial

theorem temp_not_active (user : Nat) : ¬ IsActive scripts user tempScript := by
  rintro ⟨row, member, named, -⟩
  rw [orderly.not_temp member user] at named
  cases named

/-- A PUTSCRIPT that inserts the temporary script makes it active. -/
theorem putKeeps_iff : Careful sieve scripts command ∧ PutKeeps sieve scripts command ↔
    Inert sieve scripts command := by
  cases command with
  | setactive | deletescript => exact and_iff_left trivial
  | putscript user name script met =>
    have between := putscript_between orderly user name script met
    unfold Inert
    constructor
    · rintro ⟨-, keeps⟩
      by_contra inserts
      rw [if_neg inserts] at between
      have untouched := keeps (scripts ++ [tempRow user script]) (by simp [between])
      exact temp_not_active orderly user ((untouched.1 user tempScript).mp
        ⟨tempRow user script, by simp, by simp, rfl⟩)
    · intro refused
      refine ⟨refused.imp_right .inl, fun table member => ?_⟩
      rw [between, if_pos refused, nil_append, mem_singleton, putscript_scripts orderly,
        if_pos refused] at member
      subst member
      exact ⟨fun _ _ => Iff.rfl, fun _ inside => .inr inside⟩

end Statements

/-! ## Runs -/

section Runs

variable {sieve : Libsieve} {start : Scripts}

theorem scriptStep_orderly (scripts : Scripts) (command : ScriptCommand) (next : Scripts)
    (atRest : Orderly sieve scripts) (meets : Careful sieve scripts command)
    (stepped : scriptStep sieve scripts command = .ok next) : Orderly sieve next := by
  cases stepped
  exact (atRest.step meets).1

theorem ActivationSafe.of_careful {commands : List ScriptCommand} (orderly : Orderly sieve start)
    (careful : StepsMeet (scriptStep sieve) (Careful sieve) start commands) :
    ActivationSafe sieve (PutLeaves sieve) start commands := by
  have seen : ∀ scripts ∈ visible sieve start commands, Presentable sieve scripts :=
    forall_observed (Orderly sieve) (Presentable sieve) scriptStep_orderly
      (fun scripts atRest => ⟨atRest.single, atRest.passing⟩)
      (fun scripts command atRest meets => (atRest.step meets).2) orderly careful
  constructor
  · exact fun scripts member => (seen scripts member).1
  · exact stepsMeet_of_invariant (Orderly sieve)
      (fun scripts command atRest meets => ⟨putLeaves_of_careful atRest meets,
        fun next stepped => scriptStep_orderly scripts command next atRest meets stepped⟩)
      orderly careful
  · exact stepsMeet_of_invariant (Orderly sieve)
      (fun scripts command atRest meets => ⟨unknownKept_of_careful meets,
        fun next stepped => scriptStep_orderly scripts command next atRest meets stepped⟩)
      orderly careful
  · rintro user script ⟨past, read, later, split, row, _, _, table, member, found, inside, _, rfl⟩
    refine (seen table ?_).2 found inside
    rw [split]
    exact mem_append_right past member

theorem ActivationSafe.tail {rest : List ScriptCommand}
    (safe : ActivationSafe sieve (PutLeaves sieve) start (command :: rest)) :
    ActivationSafe sieve (PutLeaves sieve) (command.outcome sieve start).scripts rest := by
  constructor
  · intro scripts member
    apply safe.single scripts
    exact mem_cons_of_mem _ (mem_append_right _ member)
  · exact safe.puts.2 _ rfl
  · exact safe.unknown.2 _ rfl
  · rintro user script ⟨past, read, later, split, runs⟩
    refine safe.valid user script
      ⟨start :: ((command.outcome sieve start).between ++ past), read, later, ?_, runs⟩
    show start :: (_ ++ visible sieve (command.outcome sieve start).scripts rest) = _
    rw [split, cons_append, append_assoc]

/-- A delivery may run the temporary script while it is there. -/
theorem deliveryRuns_temp {tables : List Scripts}
    (member : start ++ [tempRow user script] ∈ tables) : DeliveryRuns tables user script := by
  obtain ⟨past, later, split⟩ := append_of_mem member
  have inside : tempRow user script ∈ start ++ [tempRow user script] := by simp
  exact ⟨past, _, later, split, tempRow user script, inside, activeOf_iff.mpr ⟨rfl, rfl⟩, _,
    mem_cons_self, tempRow user script, inside, named_iff.mpr ⟨rfl, rfl⟩, rfl⟩

/-- The first command of a safe run is careful. -/
theorem ActivationSafe.careful {rest : List ScriptCommand} (orderly : Orderly sieve start)
    (safe : ActivationSafe sieve (PutLeaves sieve) start (command :: rest)) :
    Careful sieve start command := by
  cases command with
  | deletescript user name fails => trivial
  | setactive user name readFails fails =>
    by_cases given : name = []
    · exact .inl given
    cases failed : fails with
    | true => exact .inr (.inl rfl)
    | false =>
      subst failed
      by_cases known : ∃ row ∈ start, row.named user name = true
      · exact .inr (.inr (.inl known))
      · have unknown : ∀ row ∈ start, row.named user name = false := fun row member =>
          eq_false_iff.mpr fun named => known ⟨row, member, named⟩
        have kept : (setactive start user name readFails false).scripts = start :=
          safe.unknown.1 given unknown
        have activated : sievescriptActivate start user name = start := by
          rw [setactive, if_neg given] at kept
          exact kept
        have counted := @countP_sievescriptActivate start user name user
        rw [activated, if_pos rfl] at counted
        refine .inr (.inr (.inr ?_))
        rw [counted]
        exact countP_eq_zero.mpr fun row member => by simp [unknown row member]
  | putscript user name script met =>
    by_cases refused : 2 ^ 32 - 1 ≤ script.length ∨ met.addFails = true
    · exact refused.elim .inl fun fails => .inr (.inl fails)
    · have passed : start ++ [tempRow user script] ∈
          visible sieve start (.putscript user name script met :: rest) := by
        have between := putscript_between orderly user name script met
        rw [if_neg refused] at between
        apply mem_cons_of_mem
        apply mem_append_left
        show _ ∈ (putscript sieve start user name script met).between
        rw [between]
        exact mem_singleton_self _
      have idle : start.countP (·.activeOf user) = 0 := by
        have single := safe.single _ passed user
        have active : (tempRow user script).activeOf user = true := activeOf_iff.mpr ⟨rfl, rfl⟩
        rw [countP_append, countP_singleton, active, if_pos rfl] at single
        omega
      have passes : sieve.passes script = true :=
        safe.valid user script (deliveryRuns_temp passed)
      have left_ : (putscript sieve start user name script met).scripts ≠
          start ++ [tempRow user script] := by
        intro stays
        refine temp_not_active orderly user ((safe.puts.1.1 user tempScript).mp ?_)
        rw [stays]
        exact ⟨tempRow user script, by simp, by simp, rfl⟩
      refine .inr (.inr ⟨idle, passes, ?_⟩)
      have validates : sieve.validates script = true := (and_eq_true_iff.mp passes).1
      rw [putscript_scripts orderly, if_neg refused, validates] at left_
      split <;> rename_i stopped
      all_goals exact eq_false_iff.mpr fun stuck => left_ (by simp [stopped, stuck])

theorem leaves_safe_iff {commands : List ScriptCommand} (orderly : Orderly sieve start) :
    ActivationSafe sieve (PutLeaves sieve) start commands ↔
      StepsMeet (scriptStep sieve) (Careful sieve) start commands := by
  constructor
  · intro safe
    induction commands generalizing start with
    | nil => trivial
    | cons command rest ih =>
      have careful := safe.careful orderly
      refine ⟨careful, fun next stepped => ?_⟩
      cases stepped
      exact ih (orderly.step careful).1 safe.tail
  · exact ActivationSafe.of_careful orderly

theorem activationSafe_keeps_iff {commands : List ScriptCommand} :
    ActivationSafe sieve (PutKeeps sieve) start commands ↔
      ActivationSafe sieve (PutLeaves sieve) start commands ∧
        StepsMeet (scriptStep sieve) (PutKeeps sieve) start commands := by
  have weaker : ∀ scripts command, PutKeeps sieve scripts command →
      PutLeaves sieve scripts command := by
    intro scripts command keeps
    cases command with
    | putscript => exact keeps _ (mem_append_right _ mem_cons_self)
    | setactive | deletescript => trivial
  constructor
  · intro safe
    exact ⟨⟨safe.single, safe.puts.imp weaker, safe.unknown, safe.valid⟩, safe.puts⟩
  · rintro ⟨safe, keeps⟩
    exact ⟨safe.single, keeps, safe.unknown, safe.valid⟩

/-- The activation of scripts is safe if and only if no PUTSCRIPT gets as far as its insertion;
but for what others see during a PUTSCRIPT it is safe over exactly the careful commands. -/
theorem activationSafe_iff (sieve : Libsieve) (start : Scripts) (commands : List ScriptCommand)
    (orderly : Orderly sieve start) :
    (ActivationSafe sieve (PutKeeps sieve) start commands ↔
      StepsMeet (scriptStep sieve) (Inert sieve) start commands) ∧
    (ActivationSafe sieve (PutLeaves sieve) start commands ↔
      StepsMeet (scriptStep sieve) (Careful sieve) start commands) := by
  refine ⟨?_, leaves_safe_iff orderly⟩
  rw [activationSafe_keeps_iff, leaves_safe_iff orderly]
  constructor
  · rintro ⟨careful, keeps⟩
    refine stepsMeet_of_invariant (Orderly sieve) (fun scripts command atRest meets =>
      ⟨(putKeeps_iff atRest).mp meets,
        fun next stepped => scriptStep_orderly scripts command next atRest meets.1 stepped⟩)
      orderly (careful.and keeps)
  · intro inert
    have both : StepsMeet (scriptStep sieve) (fun scripts command =>
        Careful sieve scripts command ∧ PutKeeps sieve scripts command) start commands := by
      refine stepsMeet_of_invariant (Orderly sieve) (fun scripts command atRest meets => ?_)
        orderly inert
      have kept := (putKeeps_iff atRest).mpr meets
      exact ⟨kept, fun next stepped => scriptStep_orderly scripts command next atRest kept.1 stepped⟩
    exact ⟨both.imp fun _ _ => And.left, both.imp fun _ _ => And.right⟩

def lenient : Libsieve := ⟨fun _ => true, fun _ => false⟩

def firstScripts : List ScriptCommand :=
  [.putscript 1 (lit "main") (lit "keep;") {}, .setactive 1 (lit "main") false false,
    .setactive 1 [] false false, .putscript 1 (lit "main") (lit "discard;") {},
    .setactive 1 (lit "main") false false]

theorem firstScripts_safe : ActivationSafe lenient (PutLeaves lenient) [] firstScripts ∧
    ¬ ActivationSafe lenient (PutKeeps lenient) [] firstScripts := by
  have exact_ := activationSafe_iff lenient [] firstScripts
    ⟨fun _ _ => Nat.zero_le 1, fun _ => Nat.zero_le 1, nofun, nofun⟩
  refine ⟨exact_.2.mpr (by decide +kernel), fun safe => ?_⟩
  have refused := (exact_.1.mp safe).1
  revert refused
  unfold Inert
  decide +kernel

/-- With an active script, the next one that is put is active beside it for a while. -/
theorem two_scripts_active : ¬ ActivationSafe lenient (PutKeeps lenient)
    [⟨1, lit "main", lit "keep;", true⟩] [.putscript 1 (lit "new") (lit "discard;") {}] := by
  intro safe
  have single := safe.single
    [⟨1, lit "main", lit "keep;", true⟩, tempRow 1 (lit "discard;")] (by decide +kernel) 1
  revert single
  decide +kernel

end Runs

end Dbmail.Sieve
