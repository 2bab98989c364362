import Dbmail.Lib.CRuntime
import Mathlib.Data.List.FinRange

/-!
Contract: the search keys that a SEARCH, SORT or THREAD command builds.

Owns the checks of message sets and dates, the conversion of a date to SQL, the
SQL fragments of the four databases, `_handle_sort_args`, `_handle_search_args`
and `dbmail_mailbox_build_imap_search`.

Does not own: the statements that the keys lead to, and the merging of their
results.
-/

namespace Dbmail.Mailbox

open Dbmail.Lib

/-! ## C strings and numbers -/

/-- `g_snprintf` into a buffer of `size` bytes. -/
def gSnprintf (size : Nat) (text : Bytes) : Bytes := text.take (size - 1)

def maxSearchLen : Nat := 2048

def mimeFieldMax : Nat := 128

def defFragsize : Nat := 256

/-- The low 32 bits of a number as an `int`. -/
def toInt32 (number : Nat) : Int :=
  if number % 2 ^ 32 < 2 ^ 31 then (number % 2 ^ 32 : Nat) else (number % 2 ^ 32 : Nat) - 2 ^ 32

/-- Decimal text of an `int`. -/
def intDigits (number : Int) : Bytes :=
  if number < 0 then 45 :: digits number.natAbs else digits number.natAbs

/-- The number that `strtoll` finds, before it is cut to 64 bits. -/
def scanInteger (text : Bytes) : Option Int :=
  let body := text.dropWhile isSpace
  let unsigned := if body.head? = some 45 ∨ body.head? = some 43 then body.tail else body
  let found := unsigned.takeWhile isDigit
  if found = [] then none
  else some (if body.head? = some 45 then -(decimal found : Int) else decimal found)

/-- The value, and whether `errno` is set. -/
def dmStrtoull (text : Bytes) : Nat × Bool :=
  match scanInteger text with
  | none => (0, false)
  | some number => if number < 0 ∨ 2 ^ 63 ≤ number then (0, true) else (number.toNat, false)

/-! ## Message sets and dates -/

/-- The loop of `check_msg_set`. -/
def msgSetScan : Bool → Bytes → Bool
  | _, [] => true
  | indigit, byte :: rest =>
    if isDigit byte || byte = 42 then msgSetScan true rest
    else if byte = 44 || byte = 58 then indigit && msgSetScan false rest
    else false

def checkMsgSet (text : Bytes) : Bool :=
  (match text.head? with
    | some first => isDigit first || first = 42
    | none => false) && msgSetScan false text

/-- The months, with their length as `month_len` has it. -/
def months : List (String × Nat) :=
  [("January", 31), ("February", 29), ("March", 31), ("April", 30), ("May", 31), ("June", 30),
    ("July", 31), ("August", 31), ("September", 30), ("October", 31), ("November", 30),
    ("December", 31)]

/-- `month_desc`. -/
def abbreviated (month : String) : Bytes := (lit month).take 3

/-- `check_date`, for a date of 10 or 11 bytes; `shift` is 1 for the short form. -/
def checkDateAt (date : Bytes) (shift : Nat) : Bool :=
  date[2 - shift]? = some 45 && date[6 - shift]? = some 45 &&
    (match months.find? fun month =>
        strcasecmpEq (abbreviated month.1) ((date.drop (3 - shift)).take 3) with
      | none => false
      | some month => toInt32 (strtoul date).1 ≤ month.2) &&
    ((date.drop (7 - shift)).take 4).all isDigit

def checkDate (date : Bytes) : Bool :=
  if date.length = 11 then checkDateAt date 0
  else if date.length = 10 then checkDateAt date 1
  else false

/-- A day as `strptime` stores it: the month counts from 0. -/
structure SqlDay where
  year : Fin 10000
  month : Fin 12
  day : Fin 32
deriving DecidableEq

/-- Further digits of a number in `strptime`, which stops before the number
exceeds its limit. -/
def moreDigits (limit : Nat) : Nat → Nat → Bytes → Nat × Bytes
  | 0, value, text => (value, text)
  | _ + 1, value, [] => (value, [])
  | count + 1, value, byte :: rest =>
    if value * 10 ≤ limit ∧ isDigit byte then
      moreDigits limit count (value * 10 + (byte.toNat - 48)) rest
    else (value, byte :: rest)

/-- A number of at most `count` digits in `strptime`. -/
def getNumber (least limit count : Nat) (text : Bytes) : Option (Fin (limit + 1) × Bytes) :=
  match text.dropWhile (· = 32) with
  | [] => none
  | first :: rest =>
    let scanned := moreDigits limit (count - 1) (first.toNat - 48) rest
    if inRange : isDigit first ∧ least ≤ scanned.1 ∧ scanned.1 ≤ limit then
      some (⟨scanned.1, Nat.lt_succ_of_le inRange.2.2⟩, scanned.2)
    else none

def stripName (name text : Bytes) : Option Bytes :=
  if strcasecmpEq (text.take name.length) name then some (text.drop name.length) else none

/-- A month in `strptime`, by its full name or the short one. -/
def getMonth (text : Bytes) : Option (Fin 12 × Bytes) :=
  (List.finRange 12).findSome? fun month =>
    ((stripName (lit (months.get month).1) text).or
      (stripName (abbreviated (months.get month).1) text)).map fun rest => (month, rest)

/-- `strptime(imapdate, "%d-%b-%Y", &tm)` up to the end of the text. -/
def strptimeDay (text : Bytes) : Option SqlDay := do
  let (day, text) ← getNumber 1 31 2 text
  let text ← stripName (lit "-") text
  let (month, text) ← getMonth text
  let text ← stripName (lit "-") text
  let (year, text) ← getNumber 0 9999 4 text
  if text = [] then some ⟨year, month, day⟩ else none

/-- No day when the text is none. -/
def dateImap2sql (imapdate : Bytes) : Option SqlDay :=
  if imapdate.length < 10 ∨ 11 < imapdate.length then none else strptimeDay imapdate

def twoDigits (number : Nat) : Bytes := digits (number / 10) ++ digits (number % 10)

/-- The SQL text of a day; a buffer that `date_imap2sql` did not fill is empty. -/
def dayText : Option SqlDay → Bytes
  | none => []
  | some day =>
    digits day.year ++ lit "-" ++ twoDigits (day.month + 1) ++ lit "-" ++ twoDigits day.day ++
      lit " 00:00:00"

/-! ## The database -/

inductive Driver where
  | sqlite | mysql | postgresql | oracle
deriving DecidableEq

/-- The driver and `DBPFX`, which goes into formats and holds no percent sign. -/
structure Db where
  driver : Driver
  pfx : Bytes
  pfx_plain : (37 : UInt8) ∉ pfx

def sqlToDate : Driver → Bytes → Bytes
  | .sqlite, value | .mysql, value => lit "DATE(" ++ value ++ lit ")"
  | .postgresql, value => lit "TO_DATE(" ++ value ++ lit "::text,'YYYY-MM-DD')"
  | .oracle, value => lit "TRUNC(TO_TIMESTAMP(" ++ value ++ lit "))"

def sqlWithin : Driver → Int → Bytes
  | .sqlite, seconds => lit "DATETIME('now','-" ++ intDigits seconds ++ lit " SECONDS')"
  | .mysql, seconds => lit "NOW() - INTERVAL " ++ intDigits seconds ++ lit " SECOND"
  | .postgresql, seconds => lit "NOW() - INTERVAL '" ++ intDigits seconds ++ lit " SECOND'"
  | .oracle, seconds =>
    lit "SYSTIMESTAMP - NUMTODSINTERVAL(" ++ intDigits seconds ++ lit ",'second')"

def sqlInsensitiveLike : Driver → Bytes
  | .postgresql => lit "ILIKE"
  | _ => lit "LIKE"

def sqlSensitiveLike : Driver → Bytes
  | .mysql => lit "LIKE BINARY"
  | _ => lit "LIKE"

def sqlEncodeEscape : Driver → Bytes → Bytes
  | .postgresql, value => lit "ENCODE(" ++ value ++ lit "::bytea,'escape')"
  | _, value => value

/-! ## Search keys -/

inductive KeyType where
  | set | uidset | flag | keyword | unkeyword | sort | hdr | hdrdateBefore | hdrdateOn
  | hdrdateSince | idate | dataBody | dataText | sizeLarger | sizeSmaller
  | subsearchAnd | subsearchOr | subsearchNot
deriving DecidableEq

structure SearchKey where
  type : KeyType
  size : Nat
  table : Bytes
  order : Bytes
  search : Bytes
  hdrfld : Bytes
deriving DecidableEq

/-- A key as `mempool_pop` returns it, with its type. -/
def SearchKey.new (type : KeyType) : SearchKey := ⟨type, 0, [], [], [], []⟩

/-- A key with a search text, as `strncpy` copies it. -/
def SearchKey.ofText (type : KeyType) (search : Bytes) : SearchKey :=
  { SearchKey.new type with search := search.take (maxSearchLen - 1) }

inductive DateKind where
  | before | on | since
deriving DecidableEq

variable (db : Db) (parser : Parser)

def idateText (kind : DateKind) (day : Option SqlDay) : Bytes :=
  gSnprintf (maxSearchLen - 1) (match kind with
    | .before => lit "p.internal_date < '" ++ dayText day ++ lit "'"
    | .on =>
      gSnprintf (mimeFieldMax - 1) (sqlToDate db.driver (lit "p.internal_date")) ++ lit " = '" ++
        dayText day ++ lit "'"
    | .since => lit "p.internal_date > '" ++ dayText day ++ lit "'")

/-- The condition of OLDER and YOUNGER. The number of seconds is printed as an
`int`. -/
def withinText (older : Bool) (seconds : Int) : Bytes :=
  gSnprintf (maxSearchLen - 1) ((if older then lit "p.internal_date < " else lit "p.internal_date > ")
    ++ gSnprintf (defFragsize - 1) (sqlWithin db.driver seconds))

/-- The words of `_handle_search_args`. -/
inductive SearchWord where
  | all
  | uid
  | flag (condition : String)
  | text (type : KeyType) (hdrfld : String)
  | header
  | idate (kind : DateKind)
  | within (older : Bool)
  | modseq
  | size (type : KeyType)
  | not
  | or
  | opens
  | closes
  | charset
deriving DecidableEq

def searchWords : List (String × SearchWord) :=
  [("all", .all), ("uid", .uid), ("answered", .flag "answered_flag=1"),
    ("deleted", .flag "deleted_flag=1"), ("flagged", .flag "flagged_flag=1"),
    ("recent", .flag "recent_flag=1"), ("seen", .flag "seen_flag=1"),
    ("draft", .flag "draft_flag=1"), ("new", .flag "(seen_flag=0 AND recent_flag=1)"),
    ("old", .flag "recent_flag=0"), ("unanswered", .flag "answered_flag=0"),
    ("undeleted", .flag "deleted_flag=0"), ("unflagged", .flag "flagged_flag=0"),
    ("unseen", .flag "seen_flag=0"), ("undraft", .flag "draft_flag=0"),
    ("keyword", .text .keyword ""), ("unkeyword", .text .unkeyword ""),
    ("bcc", .text .hdr "bcc"), ("cc", .text .hdr "cc"), ("from", .text .hdr "from"),
    ("to", .text .hdr "to"), ("subject", .text .hdr "subject"), ("header", .header),
    ("sentbefore", .text .hdrdateBefore "datefield"), ("senton", .text .hdrdateOn "datefield"),
    ("sentsince", .text .hdrdateSince "datefield"), ("before", .idate .before), ("on", .idate .on),
    ("since", .idate .since), ("older", .within true), ("younger", .within false),
    ("modseq", .modseq), ("body", .text .dataBody ""), ("text", .text .dataText ""),
    ("larger", .size .sizeLarger), ("smaller", .size .sizeSmaller), ("not", .not), ("or", .or),
    ("(", .opens), (")", .closes), ("charset", .charset)]

/-- The flags that NOT turns around by itself. -/
def notFlags : List (String × String) :=
  [("answered", "answered_flag=0"), ("deleted", "deleted_flag=0"), ("flagged", "flagged_flag=0"),
    ("recent", "recent_flag=0"), ("seen", "seen_flag=0"), ("draft", "draft_flag=0"),
    ("new", "(seen_flag=1 AND recent_flag=0)"), ("old", "recent_flag=1")]

def lookupWord {α : Type} (table : List (String × α)) (key : Bytes) : Option α :=
  (table.find? fun entry => smatch key entry.1).map Prod.snd

/-! ## The parser -/

structure SearchNode where
  depth : Nat
  key : SearchKey
  searched : Bool

/-- What a mailbox keeps of its searches: the tree of search keys in pre-order,
the depth of the node that `self->search` points to, and the fields that search
keys set. -/
structure Search where
  nodes : List SearchNode := []
  depth : Option Nat := none
  charset : Option Bytes := none
  modseq : Nat := 0
  condstore : Bool := false

/-- The parser has the keys from `*idx` on before it. -/
structure Parser extends Search where
  rest : List Bytes

/-- The database, and `dbmail_iconv_str_to_db` for a charset. -/
structure World where
  db : Db
  iconv : Option Bytes → Bytes → Option Bytes

/-- `append_search`: the first key becomes the root. -/
def Parser.append (value : SearchKey) (descend : Bool) : Parser :=
  match parser.depth with
  | none => { parser with nodes := parser.nodes ++ [⟨0, value, false⟩], depth := some 0 }
  | some depth =>
    { parser with
      nodes := parser.nodes ++ [⟨depth + 1, value, false⟩]
      depth := some (if descend then depth + 1 else depth) }

/-- `pop_search`. -/
def Parser.pop : Parser :=
  { parser with depth := parser.depth.map fun depth => depth - 1 }

/-- Why a call does not return: a fault, or the turns that the model gives its
loops were not enough. -/
inductive Stop where
  | fault (fault : Fault)
  | turns
deriving DecidableEq

abbrev Parsed := Except Stop (Parser × Int)

/-- Go on behind `rest` with one more key. -/
def Parser.add (value : SearchKey) (rest : List Bytes) : Parsed :=
  .ok ({ parser with rest := rest }.append value false, 0)

def Parser.reject : Parsed := .ok (parser, -1)

/-- MODSEQ: a number, or a third argument that is one. -/
def modseqArgs : List Bytes → Parsed
  | [] => parser.reject
  | first :: rest =>
    if (scanInteger first).isSome then
      .ok ({ parser with rest := rest, modseq := (dmStrtoull first).1, condstore := true }, 0)
    else match rest with
      | _ :: third :: rest =>
        if (scanInteger third).isSome then
          .ok ({ parser with rest := rest, modseq := (dmStrtoull third).1, condstore := true }, 0)
        else { parser with rest := rest.drop 1 }.reject
      | _ => .error (.fault .nullPointer)

/-- The branches of `_handle_search_args` that do not call it again; `rest` are
the keys behind the word. -/
def leafArgs (world : World) (parser : Parser) (rest : List Bytes) : SearchWord → Parsed
  | .all => parser.add (.ofText .uidset (lit "1:*")) rest
  | .uid => match rest with
      | set :: rest =>
        if checkMsgSet set then parser.add (.ofText .uidset set) rest else parser.reject
      | [] => parser.reject
  | .flag condition => parser.add (.ofText .flag (lit condition)) rest
  | .text type hdrfld => match rest with
      | value :: rest =>
        parser.add { SearchKey.ofText type ((world.iconv parser.charset value).getD []) with
          hdrfld := (lit hdrfld).take (mimeFieldMax - 1) } rest
      | [] => parser.reject
  | .header => match rest with
      | field :: value :: rest =>
        parser.add { SearchKey.ofText .hdr value with
          hdrfld := (field.map toLower).take (mimeFieldMax - 1) } rest
      | _ => parser.reject
  | .idate kind => match rest with
      | date :: rest =>
        if checkDate date then
          parser.add { SearchKey.new .idate with
            search := idateText world.db kind (dateImap2sql date) } rest
        else parser.reject
      | [] => parser.reject
  | .within older => match rest with
      | seconds :: rest =>
        if (dmStrtoull seconds).2 then parser.reject
        else parser.add { SearchKey.new .idate with
          search := withinText world.db older (toInt32 (dmStrtoull seconds).1) } rest
      | [] => parser.reject
  | .modseq => modseqArgs parser rest
  | .size type => match rest with
      | size :: rest => parser.add { SearchKey.new type with size := (strtoul size).1 } rest
      | [] => parser.reject
  | .closes => .ok ({ parser with rest := rest }, 1)
  | .charset => match rest with
      | charset :: rest => .ok ({ parser with rest := rest, charset := some charset }, 0)
      | [] => .error (.fault .nullPointer)
  | .not | .or | .opens => parser.reject

def setArgs (key : Bytes) (rest : List Bytes) : Parsed :=
  if checkMsgSet key then parser.add (.ofText .set key) rest else parser.reject

/-- The initial set of `dbmail_mailbox_build_imap_search`. -/
def Parser.initial : Parser :=
  match parser.rest with
  | key :: rest =>
    if checkMsgSet key then { parser with rest := rest }.append (.ofText .set key) false
    else parser.append (.ofText .set (lit "1:*")) false
  | [] => parser

mutual

def handleSearchArgs (world : World) : Nat → Parser → Parsed
  | 0, _ => .error .turns
  | fuel + 1, parser =>
    match parser.rest with
    | [] => .ok (parser, 1)
    | key :: rest =>
      match lookupWord searchWords key with
      | none => setArgs parser key rest
      | some .not => notArgs world fuel parser rest
      | some .or => do
        let first ← handleSearchArgs world fuel
          ({ parser with rest := rest }.append (.new .subsearchOr) true)
        if first.2 < 0 then return first
        let second ← handleSearchArgs world fuel first.1
        if second.2 < 0 then return second
        return (second.1.pop, 0)
      | some .opens => do
        let last ← andLoop world fuel
          ({ parser with rest := rest }.append (.new .subsearchAnd) true)
        return (last.pop, 0)
      | some word => leafArgs world parser rest word

/-- NOT, with the flags it turns around by itself. -/
def notArgs (world : World) : Nat → Parser → List Bytes → Parsed
  | _, parser, [] => parser.reject
  | 0, _, _ :: _ => .error .turns
  | fuel + 1, parser, key :: rest =>
    match lookupWord notFlags key with
    | some condition => parser.add (.ofText .flag (lit condition)) rest
    | none => do
      let inner ← handleSearchArgs world fuel
        ({ parser with rest := key :: rest }.append (.new .subsearchNot) true)
      if inner.2 < 0 then return inner
      return (inner.1.pop, 0)

def andLoop (world : World) : Nat → Parser → Except Stop Parser
  | 0, _ => .error .turns
  | fuel + 1, parser => do
    let built ← buildUnordered world fuel parser
    if built.2 = 0 then andLoop world fuel built.1 else return built.1

/-- `dbmail_mailbox_build_imap_search` for `SEARCH_UNORDERED`. -/
def buildUnordered (world : World) : Nat → Parser → Parsed
  | 0, _ => .error .turns
  | fuel + 1, parser =>
    if parser.rest = [] then .ok (parser, 1) else searchLoop world fuel parser.initial

def searchLoop (world : World) : Nat → Parser → Parsed
  | 0, _ => .error .turns
  | fuel + 1, parser =>
    if parser.rest = [] then .ok (parser, 0)
    else do
      let handled ← handleSearchArgs world fuel parser
      if handled.2 = 0 then searchLoop world fuel handled.1 else return handled

end

/-! ## SORT and THREAD -/

inductive SortColumn where
  | arrival | size | «from» | subject | cc | to | date
deriving DecidableEq

structure SortItem where
  column : SortColumn
  reverse : Bool
deriving DecidableEq

/-- The column, and the table it is in if that has to be joined. -/
def SortColumn.names : SortColumn → String × Option String
  | .arrival => ("internal_date", none)
  | .size => ("messagesize", none)
  | .from => ("fromfield", some "fromfield")
  | .subject => ("sortfield", some "subjectfield")
  | .cc => ("ccfield", some "ccfield")
  | .to => ("tofield", some "tofield")
  | .date => ("sortfield", some "datefield")

/-- `g_strlcat` into a field of a search key. -/
def strlcat (buffer text : Bytes) : Bytes := (buffer ++ text).take (maxSearchLen - 1)

/-- `_append_join` and `_append_sort` for one column. -/
def SearchKey.sortBy (value : SearchKey) (item : SortItem) : SearchKey :=
  { value with
    table := match item.column.names.2 with
      | none => value.table
      | some table => strlcat value.table (gSnprintf 255 (lit "LEFT JOIN " ++ db.pfx ++ lit table ++
          lit " ON m.physmessage_id=" ++ db.pfx ++ lit table ++ lit ".physmessage_id "))
    order := strlcat value.order (gSnprintf 255 (lit item.column.names.1 ++
      (if item.reverse then lit " DESC" else []) ++ lit ",")) }

def sortColumns : List (String × SortColumn) :=
  [("arrival", .arrival), ("size", .size), ("from", .from), ("subject", .subject), ("cc", .cc),
    ("to", .to), ("date", .date)]

def isCharset (key : Bytes) : Bool :=
  smatch key "utf-8" || smatch key "us-ascii" || smatch key "iso-8859-1"

/-- The rest of `_handle_sort_args`, behind REVERSE. -/
def sortKey (value : SearchKey) (reverse : Bool) (key : Bytes)
    (rest : List Bytes) : (Parser × SearchKey) × Int :=
  match lookupWord sortColumns key with
  | some column => (({ parser with rest := rest }, value.sortBy db ⟨column, reverse⟩), 0)
  | none =>
    if smatch key "(" || smatch key ")" then (({ parser with rest := rest }, value), 0)
    else if isCharset key then (({ parser with rest := rest }.append value false, value), 1)
    else (({ parser with rest := key :: rest }, value), -1)

def handleSortArgs (value : SearchKey) : Except Stop ((Parser × SearchKey) × Int) :=
  match parser.rest with
  | [] => .ok ((parser, value), -1)
  | key :: rest =>
    if smatch key "reverse" then
      match rest with
      | [] => .error (.fault .nullPointer)
      | key :: rest => .ok (sortKey db parser value true key rest)
    else .ok (sortKey db parser value false key rest)

/-- The loop over `_handle_sort_args`, which goes on while there are keys. -/
def sortLoop (db : Db) : Nat → Parser → SearchKey → Parsed
  | 0, _, _ => .error .turns
  | fuel + 1, parser, value => do
    let handled ← handleSortArgs db parser value
    if handled.2 = 0 ∧ handled.1.1.rest ≠ [] then sortLoop db fuel handled.1.1 handled.1.2
    else return (handled.1.1, handled.2)

inductive SearchOrder where
  | unordered | sorted | thread
deriving DecidableEq

/-- Enough turns for every loop over the keys. -/
def searchFuel : Nat := 5 * parser.rest.length + 5

def orderArgs (order : SearchOrder) (parser : Parser) : Parsed :=
  match order with
  | .unordered => .ok (parser, 0)
  | .sorted => sortLoop db (parser.rest.length + 1) parser (.new .sort)
  | .thread =>
    match parser.rest.drop 1 with
    | [] => .error (.fault .nullPointer)
    | charset :: rest =>
      if isCharset charset then .ok ({ parser with rest := rest }, 0)
      else { parser with rest := charset :: rest }.reject

/-- `dbmail_mailbox_build_imap_search`, which adds to what the mailbox has kept. -/
def buildImapSearch (world : World) (search : Search) (order : SearchOrder) (keys : List Bytes) :
    Parsed :=
  let parser : Parser := { search with rest := keys }
  if keys = [] then .ok (parser, 1)
  else do
    let ordered ← orderArgs world.db order parser.initial
    -- the result of the sort criteria is not looked at, an unknown charset is
    if order = .thread ∧ ordered.2 < 0 then return ordered
    let result ← searchLoop world (searchFuel ordered.1) ordered.1
    -- without search keys the result of the sort criteria is what is returned
    if ordered.1.rest = [] then return (result.1, ordered.2) else return result

end Dbmail.Mailbox
