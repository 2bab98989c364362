import Dbmail.Mailbox.Search

/-!
Contract: the SQL statements of a search.

Owns `mailbox_search` and `_do_sort` up to the statement they prepare: its text
as it is formatted, and the parameters bound to it. Owns which keys of a mailbox
they are called for, command after command.

Does not own: the rows that a statement returns, and the comparison in memory by
which the other search strategy answers most keys.
-/

namespace Dbmail.Mailbox

open Dbmail.Lib

/-! ## Statements -/

inductive Param where
  | u64 (value : Nat)
  | int (value : Int)
  | str (value : Bytes)
deriving DecidableEq

structure Statement where
  text : Bytes
  params : List Param
deriving DecidableEq

/-- `g_strdup_vprintf` with no arguments: a conversion has nothing to convert. -/
def vprintf : Bytes → Except Fault Bytes
  | [] => .ok []
  | 37 :: 37 :: rest => (vprintf rest).map (37 :: ·)
  | byte :: rest => if byte = 37 then .error .outOfBounds else (vprintf rest).map (byte :: ·)

structure Env where
  db : Db
  mailbox : Nat
  /-- The messages that `self->found` holds, if there is one. -/
  found : Option (List Nat)
  /-- `mailbox_search_strategy`. -/
  strategy : Nat

variable (env : Env)

def Env.inset : Bytes :=
  match env.found with
  | none => []
  | some ids =>
    if ids.length ≤ 200 ∧ ids ≠ [] then
      lit "AND m.message_idnr IN (" ++ [44].intercalate (ids.map digits) ++ lit ")"
    else []

def messageStatusDelete : Nat := 2

section Texts

variable (env : Env)

/-- `IST_HDR`. -/
def hdrText (hdrfld : Bytes) : Bytes :=
  (lit "SELECT message_idnr FROM " ++ env.db.pfx ++ lit "messages m LEFT JOIN " ++ env.db.pfx ++
    lit "header h USING (physmessage_id) LEFT JOIN " ++ env.db.pfx ++
    lit "headername n ON h.headername_id = n.id LEFT JOIN " ++ env.db.pfx ++
    lit "headervalue v ON h.headervalue_id = v.id WHERE mailbox_idnr=? AND status < ? " ++
    env.inset ++ lit " AND n.headername = '") ++ hdrfld ++ (lit "' AND v.headervalue " ++
    sqlInsensitiveLike env.db.driver ++ lit " ? ORDER BY message_idnr")

/-- `IST_HDRDATE_BEFORE`, `IST_HDRDATE_ON` and `IST_HDRDATE_SINCE`. -/
def hdrdateText (hdrfld op : Bytes) (day : Option SqlDay) : Bytes :=
  lit "SELECT message_idnr FROM " ++ env.db.pfx ++ lit "messages m LEFT JOIN " ++ env.db.pfx ++
    lit "header h USING (physmessage_id) LEFT JOIN " ++ env.db.pfx ++
    lit "headername n ON h.headername_id = n.id LEFT JOIN " ++ env.db.pfx ++
    lit "headervalue v ON h.headervalue_id = v.id WHERE m.mailbox_idnr=? AND m.status < ? " ++
    env.inset ++ lit " AND n.headername = 'date' AND " ++
    gSnprintf (defFragsize - 1) (sqlToDate env.db.driver hdrfld) ++ lit " " ++ op ++ lit " " ++
    gSnprintf (defFragsize - 1) (sqlToDate env.db.driver
      (gSnprintf (defFragsize - 1) (lit "'" ++ dayText day ++ lit "'"))) ++
    lit " ORDER BY message_idnr"

/-- `IST_DATA_TEXT`. -/
def dataTextText : Bytes :=
  lit "SELECT DISTINCT m.message_idnr FROM " ++ env.db.pfx ++ lit "mimeparts k LEFT JOIN " ++
    env.db.pfx ++ lit "partlists l ON k.id=l.part_id LEFT JOIN " ++ env.db.pfx ++
    lit "physmessage p ON l.physmessage_id=p.id LEFT JOIN " ++ env.db.pfx ++
    lit "header h ON h.physmessage_id=p.id LEFT JOIN " ++ env.db.pfx ++
    lit "headervalue v ON h.headervalue_id=v.id LEFT JOIN " ++ env.db.pfx ++
    lit "messages m ON m.physmessage_id=p.id WHERE m.mailbox_idnr = ? AND m.status < ? " ++
    env.inset ++ lit " AND (v.headervalue " ++ sqlInsensitiveLike env.db.driver ++
    lit " ? OR k.data " ++ sqlSensitiveLike env.db.driver ++ lit " ?) ORDER BY m.message_idnr"

/-- `IST_DATA_BODY`. -/
def dataBodyText : Bytes :=
  lit "SELECT DISTINCT m.message_idnr FROM " ++ env.db.pfx ++ lit "mimeparts p LEFT JOIN " ++
    env.db.pfx ++ lit "partlists l ON p.id=l.part_id LEFT JOIN " ++ env.db.pfx ++
    lit "physmessage s ON l.physmessage_id=s.id LEFT JOIN " ++ env.db.pfx ++
    lit "messages m ON m.physmessage_id=s.id LEFT JOIN " ++ env.db.pfx ++
    lit "mailboxes b ON m.mailbox_idnr = b.mailbox_idnr WHERE b.mailbox_idnr=? AND m.status < ? " ++
    env.inset ++ lit " AND (l.part_key > 1 OR l.is_header=0) AND " ++
    sqlEncodeEscape env.db.driver (lit "p.data") ++ lit " " ++ sqlSensitiveLike env.db.driver ++
    lit " ? ORDER BY m.message_idnr"

/-- `IST_KEYWORD` and `IST_UNKEYWORD`. -/
def keywordText : Bytes :=
  lit "SELECT m.message_idnr FROM " ++ env.db.pfx ++ lit "messages m JOIN " ++ env.db.pfx ++
    lit "keywords k ON m.message_idnr=k.message_idnr WHERE mailbox_idnr=? AND status < ? " ++
    env.inset ++ lit " AND k.keyword = ? ORDER BY message_idnr"

/-- `IST_IDATE` with the strategy that asks the database. -/
def idateSelect (condition : Bytes) : Bytes :=
  lit "SELECT message_idnr FROM " ++ env.db.pfx ++ lit "messages m LEFT JOIN " ++ env.db.pfx ++
    lit "physmessage p ON m.physmessage_id=p.id WHERE mailbox_idnr = ? AND status < ? " ++
    env.inset ++ lit " AND " ++ condition ++ lit " ORDER BY message_idnr"

/-- `IST_SIZE_LARGER` and `IST_SIZE_SMALLER`. -/
def sizeText (larger : Bool) : Bytes :=
  lit "SELECT m.message_idnr FROM " ++ env.db.pfx ++ lit "messages m LEFT JOIN " ++ env.db.pfx ++
    lit "physmessage p ON m.physmessage_id = p.id WHERE m.mailbox_idnr = ? AND m.status < ? " ++
    env.inset ++ lit " AND p.rfcsize " ++ (if larger then lit ">" else lit "<") ++
    lit " ? ORDER BY message_idnr"

/-- The other searches, and the fallback of the strategy that reads the state. -/
def conditionText (condition : Bytes) : Bytes :=
  lit "SELECT message_idnr FROM " ++ env.db.pfx ++
    lit "messages WHERE mailbox_idnr = ? AND status < ? AND " ++ condition ++
    lit " ORDER BY message_idnr"

/-- The query of `_do_sort`. -/
def sortText (table order : Bytes) : Bytes :=
  lit "SELECT m.message_idnr FROM " ++ env.db.pfx ++ lit "messages m LEFT JOIN " ++ env.db.pfx ++
    lit "physmessage p ON m.physmessage_id=p.id " ++ table ++ lit "WHERE m.mailbox_idnr = " ++
    digits env.mailbox ++ lit " AND m.status < " ++ digits messageStatusDelete ++
    lit " ORDER BY " ++ order ++ lit "message_idnr"

end Texts

/-! ## `mailbox_search` and `_do_sort` -/

/-- `db_stmt_prepare` and the parameters set on the statement; the mailbox and
the status come first. -/
def prepare (text : Bytes) (params : List Param) : Except Fault Statement :=
  (vprintf text).map fun text => ⟨text, .u64 env.mailbox :: .int messageStatusDelete :: params⟩

def likePattern (search : Bytes) : Bytes :=
  gSnprintf (defFragsize - 1) (lit "%" ++ search ++ lit "%")

/-- The conditions that the strategy reading the state knows by their text. -/
def stateConditions : List String :=
  ["answered_flag=1", "deleted_flag=1", "flagged_flag=1", "recent_flag=1", "seen_flag=1",
    "draft_flag=1", "(seen_flag=0 AND recent_flag=1)", "recent_flag=0", "answered_flag=0",
    "deleted_flag=0", "flagged_flag=0", "seen_flag=0", "draft_flag=0"]

def answeredByState (key : SearchKey) : Bool :=
  stateConditions.any (fun condition => key.search = lit condition) ||
    (decide (lit "p.internal_date" <:+: key.search) &&
      (decide (62 ∈ key.search) || decide (61 ∈ key.search) || decide (60 ∈ key.search))) ||
    key.type = .sizeLarger || key.type = .sizeSmaller

def preparedAlways (key : SearchKey) : Option (Except Fault Statement) :=
  match key.type with
  | .hdrdateOn => some (prepare env (hdrdateText env key.hdrfld (lit "=") (dateImap2sql key.search)) [])
  | .hdrdateSince =>
    some (prepare env (hdrdateText env key.hdrfld (lit ">=") (dateImap2sql key.search)) [])
  | .hdrdateBefore =>
    some (prepare env (hdrdateText env key.hdrfld (lit "<") (dateImap2sql key.search)) [])
  | .hdr => some (prepare env (hdrText env key.hdrfld) [.str (likePattern key.search)])
  | .dataText =>
    some (prepare env (dataTextText env)
      [.str (likePattern key.search), .str (likePattern key.search)])
  | .dataBody => some (prepare env (dataBodyText env) [.str (likePattern key.search)])
  | .keyword | .unkeyword => some (prepare env (keywordText env) [.str key.search])
  | _ => none

def preparedBySql (key : SearchKey) : Except Fault Statement :=
  match key.type with
  | .idate => prepare env (idateSelect env key.search) []
  | .sizeLarger => prepare env (sizeText env true) [.u64 key.size]
  | .sizeSmaller => prepare env (sizeText env false) [.u64 key.size]
  | _ => prepare env (conditionText env key.search) []

/-- The statement of `mailbox_search`, if it prepares one. -/
def mailboxSearch (key : SearchKey) : Option (Except Fault Statement) :=
  (preparedAlways env key).orElse fun _ =>
    if env.strategy = 1 then some (preparedBySql env key)
    else if env.strategy = 2 ∧ ¬ answeredByState key then
      some (prepare env (conditionText env key.search) [])
    else none

/-- The query of `_do_sort`, which `db_query` formats and strips. -/
def doSort (key : SearchKey) : Except Fault Statement :=
  (vprintf (sortText env key.table key.order)).map fun text => ⟨gStrstrip text, []⟩

/-- The keys that `_do_search` passes to `mailbox_search`. -/
def KeyType.searched : KeyType → Bool
  | .keyword | .unkeyword | .sizeLarger | .sizeSmaller | .hdrdateBefore | .hdrdateSince
  | .hdrdateOn | .idate | .flag | .hdr | .dataText | .dataBody => true
  | .set | .uidset | .sort | .subsearchAnd | .subsearchOr | .subsearchNot => false

def statementOf (key : SearchKey) : Option (Except Fault Statement) :=
  if key.type = .sort then some (doSort env key)
  else if key.type.searched then mailboxSearch env key
  else none

/-! ## The keys that a command searches -/

/-- A SEARCH, SORT or THREAD command on a mailbox with messages, and what it
meets: the sets that `dbmail_mailbox_get_set` resolves, the sort queries that do
not fail, and the memory of a charset that an earlier command named. -/
structure SearchCommand where
  order : SearchOrder
  keys : List Bytes
  resolves : SearchKey → Bool := fun _ => true
  sorts : SearchKey → Bool := fun _ => true
  freed : Bytes := []

def KeyType.isSet : KeyType → Bool
  | .set | .uidset => true
  | _ => false

def KeyType.isSubsearch : KeyType → Bool
  | .subsearchAnd | .subsearchOr | .subsearchNot => true
  | _ => false

/-- `_prescan_search`, for the root and its children. -/
def prescanSearch (resolves : SearchKey → Bool) : List SearchNode → List SearchNode
  | [] => []
  | node :: rest =>
    if node.depth ≤ 1 ∧ node.key.type.isSet ∧ ¬ node.searched then
      if resolves node.key then { node with searched := true } :: prescanSearch resolves rest
      else node :: rest
    else node :: prescanSearch resolves rest

/-- `_do_search` over the tree, with the keys it is done for. A set that does not
resolve ends the traversal, but not the calls for the children of a subsearch:
`opened` says for each level whether its node is a subsearch that is done now. -/
def doSearch (resolves : SearchKey → Bool) :
    Bool → List Bool → List SearchNode → List SearchNode × List SearchKey
  | _, _, [] => ([], [])
  | ended, opened, node :: rest =>
    let called := !node.searched && (!ended || opened.getD (node.depth - 1) false)
    let lost := node.key.type.isSet && !resolves node.key
    let done := called && node.key.type ≠ .sort && !lost
    let behind := doSearch resolves (ended || (!node.searched && lost))
      (opened.take node.depth ++ [done && node.key.type.isSubsearch]) rest
    ({ node with searched := node.searched || done } :: behind.1,
      if done then node.key :: behind.2 else behind.2)

/-- `_do_sort` over the tree, with the keys it asks the database for. -/
def doSorts (sorts : SearchKey → Bool) : List SearchNode → List SearchNode × List SearchKey
  | [] => ([], [])
  | node :: rest =>
    let behind := doSorts sorts rest
    if node.key.type = .sort ∧ ¬ node.searched then
      if sorts node.key then ({ node with searched := true } :: behind.1, node.key :: behind.2)
      else (node :: rest, [node.key])
    else (node :: behind.1, behind.2)

/-- `dbmail_mailbox_search`, and `dbmail_mailbox_sort` behind it for SORT. -/
def mailboxSearches (command : SearchCommand) (nodes : List SearchNode) :
    List SearchNode × List SearchKey :=
  let found := doSearch command.resolves false [] (prescanSearch command.resolves nodes)
  if command.order = .sorted then
    let sorted := doSorts command.sorts found.1
    (sorted.1, found.2 ++ sorted.2)
  else found

/-- `sorted_search_enter` from the search keys on. A list that is rejected leaves
the keys it has added, and the charset points to arguments that are freed. -/
def sortedSearchKeys (world : World) (search : Search) (command : SearchCommand) :
    Except Stop (Search × List SearchKey) := do
  let start := { search with charset := search.charset.map fun _ => command.freed }
  let built ← buildImapSearch world start command.order command.keys
  if built.2 < 0 then return (built.1.toSearch, [])
  let searched := mailboxSearches command built.1.nodes
  return ({ built.1.toSearch with nodes := searched.1 }, searched.2)

/-- What the mailbox has kept after a list of commands. -/
def keptSearch (world : World) : Search → List SearchCommand → Except Stop Search
  | search, [] => .ok search
  | search, command :: rest => do
    let after ← sortedSearchKeys world search command
    keptSearch world after.1 rest

end Dbmail.Mailbox
