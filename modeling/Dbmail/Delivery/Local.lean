import Mathlib.Data.Finset.Basic
import Mathlib.Data.Finset.Union
import Mathlib.Logic.Function.Basic
import Dbmail.Auth.Accounts
import Dbmail.Mailbox.State

/-!
Contract: the delivery of a stored message to one local user.

Owns the tables of messages and of the quota as a delivery sees them,
`db_copymsg` with `message_get_size`, `dm_quota_user_validate` and
`dm_quota_user_inc` (`dm_db.c`), `db_set_msgflag` as far as a delivery calls it,
`db_mailbox_has_message_id`, `db_find_create_mailbox`, `sort_deliver_to_mailbox`, the
actions of a Sieve script (`sortsieve.c`) and `sort_and_deliver`.

Does not own: the evaluation of a Sieve script, which decides the actions, the
namespace behind a mailbox name and the ACL, whose answers are inputs, and
`db_mailbox_seq_update`, which changes neither rows nor quota. A user's script
and mailboxes are taken to be found the same whoever else receives the message.
-/

namespace Dbmail.Delivery

open Dbmail.Lib Dbmail.Auth Dbmail.Mailbox

/-- `dsn_class_t`. -/
inductive DsnClass where
  | none
  | ok
  | temp
  | fail
  | quota
deriving DecidableEq, Repr

inductive MailboxSource where
  | none
  | unknown
  | addresspart
  | bruteforce
  | commandline
  | sorting
  | default
  | imap
deriving DecidableEq, Repr

/-! ## The table of messages -/

structure Stored where
  mailbox : Nat
  physmessage : Nat
  flags : Flags
  status : MessageStatus
  keywords : Finset Bytes
deriving DecidableEq

/-- The table of messages, the sizes of the users' mail, and the id in `message->msg_idnr`. -/
structure Post where
  messages : Nat → Option Stored
  curmail : Nat → Nat
  nextId : Nat
  msgIdnr : Nat
  zero : messages 0 = none
  fresh : ∀ id, nextId ≤ id → messages id = none
  positive : 0 < nextId

variable (world : DeliveryWorld) (post : Post)

namespace Post

def source : Option Stored := post.messages post.msgIdnr

def add (row : Stored) : Post where
  messages := Function.update post.messages post.nextId (some row)
  curmail := post.curmail
  nextId := post.nextId + 1
  msgIdnr := post.msgIdnr
  zero := by rw [Function.update_of_ne post.positive.ne, post.zero]
  fresh := by
    intro id beyond
    rw [Function.update_of_ne (by omega), post.fresh id (by omega)]
  positive := Nat.succ_pos _

def modify (id : Nat) (change : Stored → Stored) : Post :=
  { post with
    messages := Function.update post.messages id ((post.messages id).map change)
    zero := by
      by_cases same : 0 = id
      · rw [← same, Function.update_self, post.zero, Option.map_none]
      · rw [Function.update_of_ne same, post.zero]
    fresh := by
      intro other beyond
      by_cases same : other = id
      · rw [same, Function.update_self, post.fresh id (same ▸ beyond), Option.map_none]
      · rw [Function.update_of_ne same, post.fresh other beyond] }

def counted (curmail : Nat → Nat) : Post := { post with curmail := curmail }

/-- `db_delete_message`. -/
def delete (id : Nat) : Post :=
  { post with
    messages := Function.update post.messages id none
    zero := by
      by_cases same : 0 = id
      · rw [← same, Function.update_self]
      · rw [Function.update_of_ne same, post.zero]
    fresh := by
      intro other beyond
      by_cases same : other = id
      · rw [same, Function.update_self]
      · rw [Function.update_of_ne same, post.fresh other beyond] }

end Post

/-! ## Copies -/

/-- `dm_quota_user_validate`. -/
inductive QuotaAnswer where
  | fits
  | exceeded
  | failed
deriving DecidableEq, Repr

/-- Which statements of one delivery to a mailbox do not fail, how the queries for the limit
and the room go, and the id of the delivery user, if it is found. -/
structure Statements where
  duplicates : Bool := true
  size : Bool := true
  maxmail : SelectFault := .none
  room : SelectFault := .none
  insert : Bool := true
  commit : Bool := true
  keywords : Bool := true
  deliveryUser : Option Nat := none
  update : Bool := true
  flags : Bool := true

def Statements.inserts (ran : Statements) : Bool := ran.insert && ran.commit

/-- The sizes of physmessages, 0 for a missing one, and the limits of the users. -/
structure CopyTables where
  messagesize : Nat → Nat
  maxmail : Nat → Nat

/-- The tables after a copy, its status, and `*newmsg_idnr`. -/
structure CopyRun where
  post : Post
  status : Int
  newmsgIdnr : Nat

/-- A physmessage id after an `int` and back in 64 bits. -/
def intTrip (id : Nat) : Nat :=
  if id % 2 ^ 32 < 2 ^ 31 then id % 2 ^ 32 else 2 ^ 64 - 2 ^ 32 + id % 2 ^ 32

section Copy

variable (tables : CopyTables) (ran : Statements) (msgIdnr mailbox user : Nat)

def messageGetSize : Nat :=
  if ran.size then (post.messages msgIdnr).elim 0 (tables.messagesize ·.physmessage) else 0

/-- `auth_getmaxmailsize`: without a result there is no limit, and -1 is for an exception. -/
def authGetmaxmailsize : Option Nat :=
  match ran.maxmail with
  | .none => some (tables.maxmail user)
  | .query => some 0
  | .fetch => none

/-- A query for the room without a result is an error, an exception behind it no objection. -/
def dmQuotaUserValidate (size : Nat) : QuotaAnswer :=
  match authGetmaxmailsize tables ran user with
  | none => .failed
  | some limit =>
    if limit = 0 then .fits
    else match ran.room with
      | .none => if limit < post.curmail user + size then .exceeded else .fits
      | .query => .failed
      | .fetch => .fits

/-- The delivery user has no quota, and -1 stands for a failed lookup of that user. -/
def dmQuotaUserInc (size : Nat) : Int × (Nat → Nat) :=
  match ran.deliveryUser with
  | none => (-1, post.curmail)
  | some delivery =>
    if delivery = user then (1, post.curmail)
    else if ran.update then
      (1, Function.update post.curmail user (post.curmail user + size))
    else (0, post.curmail)

/-- The copy as `db_copymsg` inserts it. -/
def Stored.copied (row : Stored) : Stored :=
  { row with
    mailbox := mailbox
    physmessage := intTrip row.physmessage
    keywords := if ran.keywords then row.keywords else ∅ }

/-- `db_copymsg`, called with 0 in `*newmsg_idnr`. A failed insert is rolled back and goes
unnoticed; without a new row the keywords have no message to belong to. -/
def dbCopymsg : CopyRun :=
  let size := messageGetSize post tables ran msgIdnr
  match if size = 0 then none else post.messages msgIdnr with
  | none => ⟨post, -1, 0⟩
  | some row =>
    match dmQuotaUserValidate post tables ran user size with
    | .failed => ⟨post, -1, 0⟩
    | .exceeded => ⟨post, -2, 0⟩
    | .fits =>
      let copied := if ran.inserts then post.add (row.copied ran mailbox) else post
      let inc := dmQuotaUserInc post ran user size
      ⟨copied.counted inc.2, if inc.1 = 0 then -1 else 1,
        if ran.insert then post.nextId else 0⟩

end Copy

/-- `msgflags` and `keywords` of a delivery. -/
structure Marks where
  flags : Option Flags := none
  keywords : List Bytes := []

def Flags.union (left right : Flags) : Flags :=
  ⟨left.seen || right.seen, left.answered || right.answered, left.deleted || right.deleted,
    left.flagged || right.flagged, left.draft || right.draft, left.recent || right.recent⟩

/-- The row after `db_set_msgflag` with `IMAPFA_ADD`: flags only change on a row that is
not deleted. -/
def Stored.marked (row : Stored) (marks : Marks) (ran : Statements) : Stored :=
  if ran.flags then
    { row with
      flags := if row.status.live then Flags.union row.flags (marks.flags.getD {}) else row.flags
      keywords := row.keywords ∪ marks.keywords.toFinset }
  else row

/-! ## Delivery to a mailbox -/

/-- The settings of a delivery and what the database knows of the mailboxes.
`hasMessageId` says that a physmessage of the last days has this message's id. -/
structure DeliveryWorld extends CopyTables where
  findMailbox : Bytes → Nat → Option Nat
  createWithParents : Bytes → MailboxSource → Nat → Option Nat
  postRight : Nat → Nat → Int
  hasMessageId : Nat → Bool
  subaddress : Bool
  sieve : Bool
  suppressDuplicates : Bool

def MailboxSource.autocreates : MailboxSource → Bool
  | .commandline | .bruteforce | .sorting | .default => true
  | _ => false

/-- `db_find_create_mailbox`. A mailbox that an untrusted source names is not created:
INBOX takes its place. -/
def dbFindCreateMailbox (name : Bytes) (source : MailboxSource) (user : Nat) : Option Nat :=
  match world.findMailbox name user with
  | some mailbox => some mailbox
  | none =>
    if source.autocreates then world.createWithParents name source user
    else match world.findMailbox (lit "INBOX") user with
      | some mailbox => some mailbox
      | none => world.createWithParents (lit "INBOX") .default user

/-- `db_mailbox_has_message_id`: the mailbox holds a message with this message's id. A failing
query finds none. -/
def dbMailboxHasMessageId (ran : Statements) (mailbox : Nat) : Bool :=
  ran.duplicates && (List.range post.nextId).any fun id =>
    (post.messages id).any fun row =>
      row.mailbox = mailbox && row.status.live && world.hasMessageId row.physmessage

/-- One call of `sort_deliver_to_mailbox`, with what becomes of its statements. -/
structure Request where
  user : Nat
  mailbox : Bytes
  source : MailboxSource
  marks : Marks
  ran : Statements

/-- Find the mailbox and check the right to post to it; no class is no right. -/
def postableMailbox (user : Nat) (name : Bytes) (source : MailboxSource) :
    Except (Option DsnClass) Nat :=
  match dbFindCreateMailbox world name source user with
  | none => .error (some .fail)
  | some mailbox =>
    if source = .bruteforce then .ok mailbox
    else
      let permission := world.postRight mailbox user
      if permission = -1 then .error (some .temp)
      else if permission = 0 then .error none
      else if permission = 1 then .ok mailbox
      else .error (some .fail)

/-- The mailbox a request ends up in. Without the right to post, INBOX is tried. -/
def deliveryMailbox (request : Request) : Except DsnClass Nat :=
  match postableMailbox world request.user request.mailbox request.source with
  | .ok mailbox => .ok mailbox
  | .error (some cls) => .error cls
  | .error none =>
    if request.mailbox = lit "INBOX" then .error .fail
    else match postableMailbox world request.user (lit "INBOX") .default with
      | .ok mailbox => .ok mailbox
      | .error (some cls) => .error cls
      | .error none => .error .fail

/-- The ids of the rows that a copy has inserted. -/
def CopyRun.stored (run : CopyRun) : List Nat :=
  if (run.post.messages run.newmsgIdnr).isSome then [run.newmsgIdnr] else []

/-- Set the marks on the new row and make it the message to copy from. -/
def CopyRun.adopt (run : CopyRun) (request : Request) : Post :=
  { run.post.modify run.newmsgIdnr fun row => row.marked request.marks request.ran with
    msgIdnr := run.newmsgIdnr }

/-- The copy at the end of `sort_deliver_to_mailbox`. -/
def copyToMailbox (mailbox : Nat) (request : Request) : Post × DsnClass × List Nat :=
  let run := dbCopymsg post world.toCopyTables request.ran post.msgIdnr mailbox request.user
  if run.status = -2 then (run.post, .quota, run.stored)
  else if run.status = -1 then (run.post, .temp, run.stored)
  else (run.adopt request, .ok, run.stored)

/-- With the ids of the rows it inserts. -/
def sortDeliverToMailbox (request : Request) : Post × DsnClass × List Nat :=
  match deliveryMailbox world request with
  | .error cls => (post, cls, [])
  | .ok mailbox =>
    if world.suppressDuplicates && dbMailboxHasMessageId world post request.ran mailbox then
      (post, .ok, [])
    else copyToMailbox world post mailbox request

/-! ## Sieve -/

/-- With the column of each flag. -/
def imapFlagDesc : List (Bytes × Flags) :=
  [(lit "Seen", { seen := true }), (lit "Answered", { answered := true }),
    (lit "Deleted", { deleted := true }), (lit "Flagged", { flagged := true }),
    (lit "Draft", { draft := true }), (lit "Recent", { recent := true })]

/-- An empty needle is found in every text but the empty one. -/
def gStrcasestr (haystack needle : Bytes) : Bool :=
  haystack.tails.any fun rest => rest ≠ [] && strcasecmpEq (rest.take needle.length) needle

def afterBackslash (word : Bytes) : Bytes := word.rtakeWhile (· ≠ 92)

/-- The flag loop of `sort_fileinto`: a word sets every flag whose name contains it and
is a keyword otherwise. -/
def fileintoWord (marks : Marks) (word : Bytes) : Marks :=
  let flag := afterBackslash word
  match imapFlagDesc.filter fun entry => gStrcasestr entry.1 flag with
  | [] => { marks with keywords := marks.keywords ++ [flag] }
  | found =>
    { marks with
      flags := some ((found.map Prod.snd).foldl Flags.union (marks.flags.getD {})) }

/-- The words of the flag list, joined and split again at blanks. -/
def fileintoWords (flaglist : Option (List Bytes)) : List Bytes :=
  match flaglist with
  | none => []
  | some words =>
    let joined := [32].intercalate words
    if joined = [] then [] else joined.splitOn 32

def fileintoMarks (flaglist : Option (List Bytes)) : Marks :=
  (fileintoWords flaglist).foldl fileintoWord {}

/-- The actions a script takes, in the order of the callbacks. -/
inductive SieveAction where
  | fileinto (mailbox : Option Bytes) (flaglist : Option (List Bytes)) (ran : Statements)
  | redirect (sent : Bool)
  | discard
  | reject
  | vacation
  | notify

/-- A run of the active script: its actions, and whether `sieve2_execute` succeeds. -/
structure SieveRun where
  actions : List SieveAction
  executed : Bool

/-- `struct sort_result`. -/
structure SortResult where
  cancelkeep : Bool := false
  reject : Bool := false
deriving DecidableEq

section Sorting

-- The sort is stated for any way of delivering to a mailbox, with a store `σ` that it
-- changes and copies of type `κ`.
variable {σ κ : Type} (deliver : σ → Request → σ × DsnClass × List κ)

structure Sorting (σ κ : Type) where
  store : σ
  copies : List κ
  result : SortResult

def fileintoRequest (user : Nat) (mailbox : Option Bytes) (flaglist : Option (List Bytes))
    (ran : Statements) : Request :=
  ⟨user, mailbox.getD (lit "INBOX"), .sorting, fileintoMarks flaglist, ran⟩

def sortAction (user : Nat) (sorting : Sorting σ κ) : SieveAction → Sorting σ κ
  | .fileinto mailbox flaglist ran =>
    let delivered := deliver sorting.store (fileintoRequest user mailbox flaglist ran)
    ⟨delivered.1, sorting.copies ++ delivered.2.2,
      { sorting.result with cancelkeep := decide (delivered.2.1 = .ok) }⟩
  | .redirect sent =>
    if sent then { sorting with result := { sorting.result with cancelkeep := true } }
    else sorting
  | .discard => { sorting with result := { sorting.result with cancelkeep := true } }
  | .reject => { sorting with result := ⟨true, true⟩ }
  -- whatever became of the reply
  | .vacation => { sorting with result := { sorting.result with cancelkeep := false } }
  | .notify => sorting

/-- Without a successful run there is no result. -/
def sortProcess (user : Nat) (store : σ) (script : SieveRun) : Sorting σ κ :=
  let sorted := script.actions.foldl (sortAction deliver user) ⟨store, [], {}⟩
  if script.executed then sorted else { sorted with result := {} }

/-- A local user of a recipient: the script that is run, if there is one, the mailbox the
filters choose, and the statements of the implicit keep. -/
structure UserTurn where
  user : Nat
  script : Option SieveRun
  filtered : Option Bytes
  keep : Statements

/-- Where a recipient's mail is to go. A brute force delivery names its mailbox. -/
structure Destination where
  address : Bytes
  mailbox : Option Bytes
  source : MailboxSource
  named : source = .bruteforce → mailbox.isSome = true

theorem default_named : MailboxSource.default = .bruteforce → (none : Option Bytes).isSome = true := by
  decide

/-- `find_bounded(destination, '+', '@', ..)`, for a part that is not empty. -/
def subaddressOf (address : Bytes) : Option Bytes :=
  let rest := address.dropWhile (· ≠ 43)
  if rest.contains 64 then
    let part := ((rest.drop 1).rdropWhile (· ≠ 64)).dropLast
    if part = [] then none else some part
  else none

def keepMailbox (destination : Destination) (turn : UserTurn) : Bytes × MailboxSource :=
  match (if world.subaddress then subaddressOf destination.address else none) with
  | some part => (part, .addresspart)
  | none =>
    match destination.mailbox with
    | some mailbox => (mailbox, destination.source)
    | none =>
      match turn.filtered with
      | some mailbox => (mailbox, destination.source)
      | none => (lit "INBOX", .default)

def keepRequest (destination : Destination) (turn : UserTurn) : Request :=
  let target := keepMailbox world destination turn
  ⟨turn.user, target.1, target.2, {}, turn.keep⟩

def bruteRequest (destination : Destination) (turn : UserTurn) : Request :=
  ⟨turn.user, destination.mailbox.getD [], .bruteforce, {}, turn.keep⟩

def sorted (world : DeliveryWorld) (store : σ) (turn : UserTurn) : Sorting σ κ :=
  match turn.script with
  | some script =>
    if world.sieve then sortProcess deliver turn.user store script else ⟨store, [], {}⟩
  | none => ⟨store, [], {}⟩

/-- With the copies that it makes. -/
def sortAndDeliver (world : DeliveryWorld) (store : σ) (destination : Destination)
    (turn : UserTurn) : σ × DsnClass × List κ :=
  if destination.source = .bruteforce then
    deliver store (bruteRequest destination turn)
  else
    let sorting : Sorting σ κ := sorted deliver world store turn
    let kept : σ × DsnClass × List κ :=
      if sorting.result.cancelkeep then (sorting.store, .ok, [])
      else deliver sorting.store (keepRequest world destination turn)
    (kept.1, if sorting.result.reject then .fail else kept.2.1, sorting.copies ++ kept.2.2)

end Sorting

end Dbmail.Delivery
