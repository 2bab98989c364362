import Dbmail.Auth.Accounts

/-!
Contract: the requests of the HTTP interface and whom they are served for.

Owns `Request_new`, the Basic authentication, the routing (`dm_request.c`) and
the three controllers (`dm_http.c`) with their replies and the changes that they make,
what of a database is a user's own, and requests whose answer depends on nothing else.

Does not own: the decoding of URIs and of base64, the validation of
a password, and the statements on mailboxes that the controllers call, which are
given by what they find. A message that a row is there for can be retrieved.
-/

namespace Dbmail.Http

open Dbmail.Lib Dbmail.Auth List

/-! ## Requests -/

structure Request where
  uri : Bytes
  authorization : Option Bytes := none
  body : Bytes := []
  host : Option Bytes := none

variable (request : Request)

namespace Request

/-- A part of the path that `EXISTS`. -/
def part (index : Nat) : Option Bytes :=
  ((request.uri.splitOnP fun byte => byte = 47 || byte = 63)[index]?).filter (· ≠ [])

/-- The URI is `/controller/id/method/arg`; what follows a missing part is not looked at. -/
def controller : Option Bytes := request.part 1

def id : Option Bytes := request.controller.bind fun _ => request.part 2

def method : Option Bytes := request.id.bind fun _ => request.part 3

def arg : Option Bytes := request.method.bind fun _ => request.part 4

/-- The loop of `Request_parse_postvars`, which ends at the first piece without a value. -/
def postPairs : List Bytes → List (Bytes × Bytes)
  | [] => []
  | piece :: rest =>
    if (61 : UInt8) ∈ piece then
      (piece.takeWhile (· ≠ 61), (piece.dropWhile (· ≠ 61)).tail) :: postPairs rest
    else []

/-- `evhttp_find_header` in the variables of a POST. -/
def post (name : String) : Option Bytes :=
  ((postPairs (request.body.splitOn 38)).find? fun pair => smatch pair.1 name).map Prod.snd

end Request

/-! ## The store -/

structure MailboxRow where
  idnr : Nat
  owner : Nat
  name : Bytes

structure MessageRow where
  idnr : Nat
  mailbox : Nat
  live : Bool
  rfcsize : Nat
  size : Nat
  text : Bytes
  headers : Bytes
  header : Bytes → List Bytes

structure Store where
  users : UserTable
  mailboxes : List MailboxRow
  messages : List MessageRow

/-- What `db_mailbox_create_with_parents` does: the mailboxes it creates, and the message when it
fails. -/
structure Creation where
  created : List Bytes
  error : Option Bytes

/-- What the statements behind the controllers find: the mailboxes that a user can see
(`db_findmailbox_by_regex`), the mailbox of a name for a user (`db_findmailbox`), the
right to delete it (`acl_has_right`), how creating, deleting and appending go, and the user that
owns public mailboxes. -/
structure Db where
  usersFail : Bool := false
  publicUser : Nat
  visible : Nat → List Nat
  find : Bytes → Nat → Option Nat
  hasDeleteRight : Nat → Nat → Bool
  create : Bytes → Nat → Creation
  deleteFails : Nat → Bool
  appendFails : Bytes → Nat → Bool

section Lookups

variable (db : Db) (store : Store)

/-- `auth_user_exists`. -/
def userExists (name : Bytes) : Option Nat :=
  let idnr := dbUserExists store.users db.usersFail name
  if idnr = 0 then none else some idnr

/-- `auth_get_userid`. -/
def getUserid (idnr : Nat) : Option Bytes :=
  if db.usersFail then none else (store.users.byIdnr idnr).map UserRow.userid

/-- `auth_get_known_users`, without the collation that orders them. -/
def knownUsers : List Bytes := if db.usersFail then [] else store.users.rows.map UserRow.userid

def Store.mailbox (idnr : Nat) : Option MailboxRow := store.mailboxes.find? fun row => row.idnr = idnr

def Store.message (idnr : Nat) : Option MessageRow := store.messages.find? fun row => row.idnr = idnr

/-- The messages that `MailboxState_new` loads. -/
def Store.messagesOf (mailbox : Nat) : List MessageRow :=
  store.messages.filter fun row => row.mailbox = mailbox && row.live

end Lookups

/-! ## Replies -/

inductive Reply where
  | unauthorized (realm : Bytes)
  | moved (location : Bytes)
  | error (code : Nat) (message : Bytes)
  | users (entries : List (Option (Nat × Bytes)))
  | mailboxes (entries : List (Nat × Bytes × Nat))
  | messages (indent : Bytes) (entries : List (Nat × Nat))
  | message (contentType : Bytes) (idnr : Nat) (text : Bytes)
deriving DecidableEq

def json (name : String) (entries : List Bytes) : Bytes :=
  lit "\x7b\"" ++ lit name ++ lit "\": \x7b\n" ++ (entries.intersperse (lit ",\n")).flatten ++
    lit "\n\x7d\x7d\n"

/-- The body of `Request_error`. -/
def errorBody (code : Nat) (message : Bytes) : Bytes :=
  let title := digits code ++ lit " " ++ message
  lit "<HTML><HEAD>\n<TITLE>" ++ title ++ lit "</TITLE>\n</HEAD><BODY>\n<H1>" ++ title ++
    lit "</H1>\n</BODY></HTML>\n"

def userEntry : Option (Nat × Bytes) → Bytes
  | none => []
  | some (idnr, name) =>
    lit "    \"" ++ digits idnr ++ lit "\":\x7b\"name\":\"" ++ name ++ lit "\"\x7d"

def mailboxEntry (entry : Nat × Bytes × Nat) : Bytes :=
  lit "    \"" ++ digits entry.1 ++ lit "\":\x7b\"name\":\"" ++ entry.2.1 ++ lit "\",\"exists\":" ++
    digits entry.2.2 ++ lit "\x7d"

def messageEntry (indent : Bytes) (entry : Nat × Nat) : Bytes :=
  indent ++ lit "\"" ++ digits entry.1 ++ lit "\":\x7b\"size\":" ++ digits entry.2 ++ lit "\x7d"

/-- The body of `basic_unauth`. -/
def unauthorizedBody : Bytes :=
  lit "<!DOCTYPE HTML PUBLIC \"-//W3C//DTD HTML 4.01 Transitional//EN\"\n" ++
    lit " \"http://www.w3.org/TR/1999/REC-html401-19991224/loose.dtd\">\n<HTML>\n  <HEAD>\n" ++
    lit "    <TITLE>Error</TITLE>\n    <META HTTP-EQUIV=\"Content-Type\" " ++
    lit "CONTENT=\"text/html; charset=ISO-8859-1\">\n  </HEAD>\n" ++
    lit "  <BODY><H1>401 Unauthorised.</H1></BODY>\n</HTML>\n"

def Reply.body : Reply → Bytes
  | .unauthorized _ => unauthorizedBody
  | .moved _ => errorBody 301 (lit "Not found")
  | .error code reason => errorBody code reason
  | .users entries => json "users" (entries.map userEntry)
  | .mailboxes entries => json "mailboxes" (entries.map mailboxEntry)
  | .messages indent entries => json "messages" (entries.map (messageEntry indent))
  | .message _ _ text => text

inductive Change where
  | create (owner : Nat) (name : Bytes)
  | delete (mailbox : Nat)
  | append (mailbox : Nat) (message : Bytes)

structure Answer where
  replies : List Reply
  changes : List Change := []
  fault : Option Fault := none

/-! ## The controllers -/

section Controllers

variable (db : Db) (store : Store) (request : Request)

def namedUser : Option (Nat × Bytes) :=
  request.id.bind fun text =>
    let number := (strtoul text).1
    if number ≠ 0 then (getUserid db store number).map fun name => (number, name)
    else (userExists db store text).map fun idnr => (idnr, text)

def userNotFound : Reply := .error 404 (lit "User not found")

def serverError : Reply := .error 503 (lit "Server error")

/-- A name under `#Public`, as `mailbox_remove_namespace` finds it. -/
def inPublic (mailbox : Bytes) : Bool :=
  let fqName := mailbox.rdropWhile (· = 47)
  7 ≤ fqName.length && strcasecmpEq (fqName.take 7) (lit "#Public")

def deletion (user : Nat) (mailbox : Bytes) : Except Reply Nat :=
  if smatch mailbox "INBOX" then
    .error (.error 400 (lit "NO cannot delete special mailbox INBOX"))
  else match db.find mailbox user with
    | none => .error (.error 404 (lit "NO mailbox doesn't exists"))
    | some idnr =>
      if !db.hasDeleteRight idnr user then .error (.error 400 (lit "NO permission denied"))
      else if db.deleteFails idnr then .error (.error 503 (lit "NO delete failed"))
      else .ok idnr

/-- Mailboxes are created for the user, and public ones for the user that owns these. -/
def creations (user : Nat) (mailbox : Bytes) : List Change :=
  (db.create mailbox user).created.map (.create (if inPublic mailbox then db.publicUser else user))

/-- The changes of a POST to a user, with the reply when it fails. -/
def posted (user : Nat) : List Change × Option Reply :=
  let created := (request.post "create").elim [] (creations db user)
  match (request.post "create").bind fun mailbox => (db.create mailbox user).error with
  | some message => (created, some (.error 400 message))
  | none =>
    match (request.post "delete").map (deletion db user) with
    | none => (created, none)
    | some (.error refusal) => (created, some refusal)
    | some (.ok idnr) => (created ++ [.delete idnr], none)

/-- The rows of the mailboxes of a list; there is no name without a row. -/
def mailboxEntries : List Nat → Option (List (Nat × Bytes × Nat))
  | [] => some []
  | idnr :: rest =>
    match store.mailbox idnr, mailboxEntries rest with
    | some row, some entries => some ((idnr, row.name, (store.messagesOf idnr).length) :: entries)
    | _, _ => none

/-- `Http_getUsers`. An unknown user is reported, and the request goes on. -/
def getUsers : Answer :=
  let notFound := if request.id.isSome ∧ namedUser db store request = none then [userNotFound] else []
  let entry := fun name => (userExists db store name).map fun idnr => (idnr, name)
  match request.method, namedUser db store request with
  | none, some (user, name) =>
    match posted db request user with
    | (changes, some refusal) => ⟨[refusal], changes, none⟩
    | (changes, none) => ⟨[.users [entry name]], changes, none⟩
  | none, none =>
    if knownUsers db store = [] then ⟨notFound, [], some .nullPointer⟩
    else ⟨notFound ++ [.users ((knownUsers db store).map entry)], [], none⟩
  | some method, user =>
    if smatch method "mailboxes" then
      match user with
      | none => ⟨notFound ++ [userNotFound], [], none⟩
      | some (user, _) =>
        match db.visible user, mailboxEntries store (db.visible user) with
        | _ :: _, some entries => ⟨[.mailboxes entries], [], none⟩
        | _, _ => ⟨[], [], some .nullPointer⟩
    else ⟨notFound ++ [serverError], [], none⟩

/-- `Http_getMailboxes`. -/
def getMailboxes : Answer :=
  match request.id with
  | none => ⟨[serverError], [], none⟩
  | some text =>
    let idnr := (strtoul text).1
    if idnr = 0 then ⟨[.error 404 (lit "Not found")], [], none⟩
    else match request.method with
      | none =>
        let appended := (request.post "message").filter fun message =>
          !db.appendFails message idnr
        let changes := appended.toList.map (Change.append idnr)
        match store.mailbox idnr with
        | none => ⟨[], changes, some .nullPointer⟩
        | some row =>
          ⟨[.mailboxes [(idnr, row.name, (store.messagesOf idnr).length + changes.length)]],
            changes, none⟩
      | some method =>
        if smatch method "messages" then
          ⟨[.messages (lit "    ") ((store.messagesOf idnr).map fun row =>
            (row.idnr, row.rfcsize))], [], none⟩
        else ⟨[serverError], [], none⟩

def selectedHeaders (row : MessageRow) (arg : Bytes) : Bytes :=
  (arg.splitOn 44).flatMap fun name =>
    let hname := (name.take 1).map (fun byte => if 97 ≤ byte ∧ byte ≤ 122 then byte - 32 else byte) ++
      name.drop 1
    (row.header hname).flatMap fun value => hname ++ lit ": " ++ value ++ lit "\n"

def shownText (row : MessageRow) (method : Bytes) : Bytes × Bytes :=
  if smatch method "view" then (lit "message/rfc822; charset=utf-8", row.text)
  else if smatch method "headers" then
    (lit "text/plain; charset=utf-8",
      match request.arg with
      | some arg => selectedHeaders row arg
      | none => row.headers)
  else ([], [])

/-- `Http_getMessages`. -/
def getMessages : Answer :=
  match request.id with
  | none => ⟨[], [], none⟩
  | some text =>
    let idnr := (strtoul text).1
    match if idnr = 0 then none else store.message idnr with
    | none => ⟨[.error 404 (lit "Not found")], [], none⟩
    | some row =>
      match request.method with
      | none => ⟨[.messages (lit "   ") [(idnr, row.size)]], [], none⟩
      | some method =>
        let shown := shownText request row method
        if shown.2 = [] then ⟨[serverError], [], none⟩
        else ⟨[.message shown.1 idnr shown.2], [], none⟩

end Controllers

/-! ## Authentication and routing -/

structure HttpConf where
  admin : Bytes
  realm : Bytes

/-- Whom a request is served for. The administrator has no user id. -/
inductive Identity where
  | admin
  | user (idnr : Nat)

section Handle

variable (conf : HttpConf) (base64 : Bytes → Bytes) (validate : Bytes → Bytes → Option Nat)

def token (request : Request) : Option Bytes :=
  request.authorization.bind fun header =>
    if strncmpEq header (lit "Basic ") 6 then some (cstr (base64 (header.drop 6))) else none

/-- `Request_user_auth`. -/
def userAuth (token : Bytes) : Option Nat :=
  if (58 : UInt8) ∈ token then
    validate (token.takeWhile (· ≠ 58)) (token.dropWhile (· ≠ 58)).tail
  else none

/-- `Request_basic_auth`: the identity, or the reply. A header of another scheme gets none. -/
def basicAuth (request : Request) : Except (List Reply) Identity :=
  let denied : Except (List Reply) Identity := .error
    [.unauthorized (if conf.realm = [] then lit "DBMail HTTP Access" else conf.realm)]
  match request.authorization, token base64 request with
  | none, _ => denied
  | some _, none => .error []
  | some _, some safe =>
    if conf.admin.length ≠ safe.length ∨ !strncmpEq safe conf.admin conf.admin.length then
      match userAuth validate safe with
      | none => denied
      | some idnr => .ok (.user idnr)
    else .ok .admin

inductive Controller where
  | users | mailboxes | messages

/-- The routing of `Request_handle`. -/
def route : Option Controller :=
  request.controller.bind fun name =>
    if smatch name "users" then some .users
    else if smatch name "mailboxes" then some .mailboxes
    else if smatch name "messages" then some .messages
    else none

def Controller.run (db : Db) (store : Store) (request : Request) : Controller → Answer
  | .users => getUsers db store request
  | .mailboxes => getMailboxes db store request
  | .messages => getMessages store request

/-- `Request_handle`: the identity when a controller is run, and the answer. -/
def handle (db : Db) (store : Store) (request : Request) : Option Identity × Answer :=
  match route request with
  | none =>
    (none, ⟨[.moved (lit "http://" ++ request.host.getD [] ++ lit "/users/")], [], none⟩)
  | some controller =>
    match basicAuth conf base64 validate request with
    | .error replies => (none, ⟨replies, [], none⟩)
    | .ok identity => (some identity, controller.run db store request)

end Handle

/-! ## Authorization -/

/-- A mailbox of a user. -/
def Store.Owns (store : Store) (user idnr : Nat) : Prop :=
  ∃ row ∈ store.mailbox idnr, row.owner = user

/-- A message in a mailbox of a user. -/
def Store.OwnsMessage (store : Store) (user idnr : Nat) : Prop :=
  ∃ row ∈ store.message idnr, store.Owns user row.mailbox

def OwnChange (store : Store) (user : Nat) : Change → Prop
  | .create owner _ => owner = user
  | .delete mailbox | .append mailbox _ => store.Owns user mailbox

section Own

variable (user : Nat) (db : Db) (store : Store) (other : Db) (elsewhere : Store)

structure SameMailbox (idnr : Nat) : Prop where
  row : elsewhere.mailbox idnr = store.mailbox idnr
  messages : elsewhere.messagesOf idnr = store.messagesOf idnr
  rights : other.hasDeleteRight idnr user = db.hasDeleteRight idnr user
  deleted : other.deleteFails idnr = db.deleteFails idnr
  appended : ∀ message, other.appendFails message idnr = db.appendFails message idnr

/-- Another database with the same account, mailboxes and messages of a user. -/
structure SameOwn : Prop where
  name : getUserid other elsewhere user = getUserid db store user
  account : ∀ name, userExists db store name = some user → userExists other elsewhere name = some user
  visible : other.visible user = db.visible user
  found : ∀ name, other.find name user = db.find name user
  create : ∀ name, other.create name user = db.create name user
  mailbox : ∀ idnr, store.Owns user idnr → SameMailbox user db store other elsewhere idnr
  message : ∀ idnr, store.OwnsMessage user idnr → elsewhere.message idnr = store.message idnr

end Own

/-- The changes are to what is the user's, and the answer is that of every other database in which
this is the same. -/
structure Confined (user : Nat) (run : Db → Store → Answer) (db : Db) (store : Store) : Prop where
  changes : ∀ change ∈ (run db store).changes, OwnChange store user change
  alike : ∀ other elsewhere, SameOwn user db store other elsewhere →
    run other elsewhere = run db store

/-- A served request has the configured token, which is not empty, or the credentials of a
user, and for a user it keeps to what is theirs. -/
structure Authorised (conf : HttpConf) (base64 : Bytes → Bytes)
    (validate : Bytes → Bytes → Option Nat) (db : Db) (store : Store) (request : Request) :
    Prop where
  admitted : ∀ identity, (handle conf base64 validate db store request).1 = some identity →
    (conf.admin ≠ [] ∧ token base64 request = some conf.admin) ∨
      ∃ username password idnr, token base64 request = some (username ++ 58 :: password) ∧
        validate username password = some idnr
  confined : ∀ user, (handle conf base64 validate db store request).1 = some (.user user) →
    Confined user (fun db store => (handle conf base64 validate db store request).2) db store

/-! ## Requests for what is the user's -/

/-- The URL and the variables name the user, their mailboxes and messages: the controllers do not
look at whom they run for. -/
def OwnRequest (db : Db) (store : Store) (user : Nat) (request : Request) : Controller → Prop
  | .users =>
    (∃ name, namedUser db store request = some (user, name) ∧
      userExists db store name = some user) ∧
    (∀ mailbox ∈ request.post "create", inPublic mailbox = false) ∧
    (∀ mailbox ∈ request.post "delete", ∀ idnr ∈ db.find mailbox user, store.Owns user idnr) ∧
    ∀ idnr ∈ db.visible user, store.Owns user idnr
  | .mailboxes => ∀ text ∈ request.id, store.Owns user (strtoul text).1
  | .messages => ∀ text ∈ request.id, store.OwnsMessage user (strtoul text).1

def Permitted (conf : HttpConf) (base64 : Bytes → Bytes) (validate : Bytes → Bytes → Option Nat)
    (db : Db) (store : Store) (request : Request) : Prop :=
  ∀ controller ∈ route request, ∀ safe ∈ token base64 request,
    (safe = conf.admin → conf.admin ≠ []) ∧ (safe ≠ conf.admin → ∀ user ∈ userAuth validate safe,
        OwnRequest db store user request controller)

section Controllers

variable {db other : Db} {store elsewhere : Store} {user : Nat} {request : Request}

section Same

variable (same : SameOwn user db store other elsewhere)

include same

theorem SameOwn.namedUser_eq {name : Bytes}
    (named : namedUser db store request = some (user, name)) :
    namedUser other elsewhere request = some (user, name) := by
  unfold namedUser at named ⊢
  cases given : request.id with
  | none =>
    rw [given] at named
    cases named
  | some text =>
    rw [given, Option.bind_some] at named
    rw [Option.bind_some]
    by_cases number : (strtoul text).1 ≠ 0
    · rw [if_pos number] at named ⊢
      obtain ⟨found, isName, pair⟩ := Option.map_eq_some_iff.mp named
      obtain ⟨isUser, rfl⟩ := Prod.mk.inj pair
      rw [isUser] at isName ⊢
      rw [same.name, isName]
      rfl
    · rw [if_neg number] at named ⊢
      obtain ⟨idnr, isUser, pair⟩ := Option.map_eq_some_iff.mp named
      obtain ⟨rfl, rfl⟩ := Prod.mk.inj pair
      rw [same.account text isUser]
      rfl

theorem SameOwn.deletion_eq {mailbox : Bytes}
    (own : ∀ idnr ∈ db.find mailbox user, store.Owns user idnr) :
    deletion other user mailbox = deletion db user mailbox := by
  unfold deletion
  rw [same.found]
  split
  · rfl
  · split
    · rfl
    · rename_i idnr isFound
      have agrees := same.mailbox idnr (own idnr isFound)
      rw [agrees.rights, agrees.deleted]

theorem SameOwn.posted_eq (plain : ∀ mailbox ∈ request.post "create", inPublic mailbox = false)
    (own : ∀ mailbox ∈ request.post "delete", ∀ idnr ∈ db.find mailbox user,
      store.Owns user idnr) : posted other request user = posted db request user := by
  have created : (request.post "create").elim [] (creations other user) =
      (request.post "create").elim [] (creations db user) := by
    cases given : request.post "create" with
    | none => rfl
    | some mailbox =>
      show creations other user mailbox = creations db user mailbox
      rw [creations, creations, same.create, plain mailbox given]
      rfl
  have deleted : (request.post "delete").map (deletion other user) =
      (request.post "delete").map (deletion db user) := by
    cases given : request.post "delete" with
    | none => rfl
    | some mailbox => exact congrArg some (same.deletion_eq (own mailbox given))
  unfold posted
  simp only [created, deleted, same.create]

theorem SameOwn.mailboxEntries_eq {idnrs : List Nat} (own : ∀ idnr ∈ idnrs, store.Owns user idnr) :
    mailboxEntries elsewhere idnrs = mailboxEntries store idnrs := by
  induction idnrs with
  | nil => rfl
  | cons idnr rest ih =>
    have agrees := same.mailbox idnr (own idnr mem_cons_self)
    rw [mailboxEntries, mailboxEntries, ih fun idnr member => own idnr (mem_cons_of_mem _ member),
      agrees.row, agrees.messages]

end Same

theorem deletion_found {mailbox : Bytes} {idnr : Nat} (deleted : deletion db user mailbox = .ok idnr) :
    db.find mailbox user = some idnr := by
  unfold deletion at deleted
  split at deleted
  · cases deleted
  · split at deleted
    · cases deleted
    · rename_i found isFound
      split at deleted
      · cases deleted
      · split at deleted
        · cases deleted
        · cases deleted
          exact isFound

theorem ownChange_posted (plain : ∀ mailbox ∈ request.post "create", inPublic mailbox = false)
    (own : ∀ mailbox ∈ request.post "delete", ∀ idnr ∈ db.find mailbox user,
      store.Owns user idnr) : ∀ change ∈ (posted db request user).1, OwnChange store user change := by
  have created : ∀ change ∈ (request.post "create").elim [] (creations db user),
      OwnChange store user change := by
    intro change member
    cases given : request.post "create" with
    | none =>
      rw [given] at member
      cases member
    | some mailbox =>
      rw [given] at member
      obtain ⟨name, -, rfl⟩ := mem_map.mp member
      simp [OwnChange, plain mailbox given]
  unfold posted
  dsimp only
  split
  · exact created
  · split
    · exact created
    · exact created
    · rename_i idnr result
      obtain ⟨mailbox, given, deleted⟩ := Option.map_eq_some_iff.mp result
      rw [forall_mem_append]
      refine ⟨created, ?_⟩
      rintro change member
      obtain rfl := mem_singleton.mp member
      exact own mailbox given idnr (deletion_found deleted)

theorem confined_getUsers (own : OwnRequest db store user request .users) :
    Confined user (fun db store => getUsers db store request) db store := by
  obtain ⟨⟨name, named, isUser⟩, plain, deleted, visible⟩ := own
  constructor
  · unfold getUsers
    rw [named]
    cases request.method with
    | none =>
      have changes := ownChange_posted plain deleted
      dsimp only
      cases result : posted db request user with
      | mk made refused =>
        rw [result] at changes
        cases refused <;> exact changes
    | some method =>
      dsimp only
      split
      · split <;> exact nofun
      · exact nofun
  · intro other elsewhere same
    unfold getUsers
    rw [named, same.namedUser_eq named]
    cases request.method with
    | none =>
      dsimp only
      rw [same.posted_eq plain deleted, isUser, same.account name isUser]
    | some method =>
      dsimp only
      rw [same.visible, same.mailboxEntries_eq visible]

theorem confined_getMailboxes (own : OwnRequest db store user request .mailboxes) :
    Confined user (fun db store => getMailboxes db store request) db store := by
  constructor
  · unfold getMailboxes
    cases given : request.id with
    | none => exact nofun
    | some text =>
      dsimp only
      split
      · exact nofun
      split
      · split
        all_goals
          intro change member
          obtain ⟨message, -, rfl⟩ := mem_map.mp member
          exact own text given
      · split <;> exact nofun
  · intro other elsewhere same
    unfold getMailboxes
    cases given : request.id with
    | none => rfl
    | some text =>
      have agrees := same.mailbox _ (own text given)
      simp only [agrees.row, agrees.messages, agrees.appended]

theorem confined_getMessages (own : OwnRequest db store user request .messages) :
    Confined user (fun _ store => getMessages store request) db store := by
  constructor
  · unfold getMessages
    split
    · exact nofun
    · dsimp only
      split
      · exact nofun
      · split
        · exact nofun
        · split <;> exact nofun
  · intro other elsewhere same
    unfold getMessages
    cases given : request.id with
    | none => rfl
    | some text => simp only [same.message _ (own text given)]

theorem confined_run {controller : Controller} (own : OwnRequest db store user request controller) :
    Confined user (fun db store => controller.run db store request) db store := by
  cases controller with
  | users => exact confined_getUsers own
  | mailboxes => exact confined_getMailboxes own
  | messages => exact confined_getMessages own

end Controllers

/-! ## The requests that are authorised -/

section Authorisation

variable {conf : HttpConf} {base64 : Bytes → Bytes} {validate : Bytes → Bytes → Option Nat}

theorem admin_differs_iff {safe admin : Bytes} :
    (admin.length ≠ safe.length ∨ (!strncmpEq safe admin admin.length) = true) ↔ safe ≠ admin := by
  by_cases same : safe = admin
  · subst same
    simp [strncmpEq]
  · refine iff_of_true ?_ same
    by_cases lengths : admin.length = safe.length
    · right
      have whole : safe.take admin.length = safe := by rw [lengths, take_length]
      simp [strncmpEq, whole, same]
    · exact .inl lengths

theorem userAuth_some {token : Bytes} {idnr : Nat} (accepted : userAuth validate token = some idnr) :
    ∃ username password, token = username ++ 58 :: password ∧
      validate username password = some idnr := by
  unfold userAuth at accepted
  split at accepted
  · rename_i member
    obtain ⟨username, password, rfl, before⟩ := eq_append_cons_of_mem member
    have others : ∀ byte ∈ username, decide (byte ≠ 58) = true := by
      rintro byte inside
      simpa using ne_of_mem_of_not_mem inside before
    refine ⟨username, password, rfl, ?_⟩
    rwa [takeWhile_append_of_pos others, dropWhile_append_of_pos others,
      takeWhile_cons_of_neg (by simp), dropWhile_cons_of_neg (by simp),
      append_nil] at accepted
  · cases accepted

theorem basicAuth_eq {request : Request} {safe : Bytes} (given : token base64 request = some safe) :
    basicAuth conf base64 validate request =
      if safe = conf.admin then .ok .admin
      else match userAuth validate safe with
        | none => .error
            [.unauthorized (if conf.realm = [] then lit "DBMail HTTP Access" else conf.realm)]
        | some idnr => .ok (.user idnr) := by
  unfold basicAuth
  cases header : request.authorization with
  | none => simp [token, header] at given
  | some text =>
    rw [given]
    dsimp only
    by_cases admin : safe = conf.admin
    · rw [if_neg fun differs => admin_differs_iff.mp differs admin, if_pos admin]
    · rw [if_pos (admin_differs_iff.mpr admin), if_neg admin]

theorem basicAuth_error {request : Request} (given : token base64 request = none) :
    ∃ replies, basicAuth conf base64 validate request = .error replies := by
  unfold basicAuth
  rw [given]
  cases request.authorization with
  | none | some => exact ⟨_, rfl⟩

/-- A request is served when it is routed to a controller and has a token that is the
configured one or that of a user. -/
theorem handle_served_iff {db : Db} {store : Store} {request : Request} {identity : Identity} :
    (handle conf base64 validate db store request).1 = some identity ↔
      ∃ controller safe, route request = some controller ∧ token base64 request = some safe ∧
        ((safe = conf.admin ∧ identity = .admin) ∨
          safe ≠ conf.admin ∧ ∃ idnr, userAuth validate safe = some idnr ∧
            identity = .user idnr) := by
  unfold handle
  cases routed : route request with
  | none => simp
  | some controller =>
    cases given : token base64 request with
    | none =>
      obtain ⟨replies, denied⟩ := @basicAuth_error conf base64 validate request given
      simp [denied]
    | some safe =>
      rw [basicAuth_eq given]
      by_cases admin : safe = conf.admin
      · simp [admin, eq_comm]
      · cases valid : userAuth validate safe with
        | none => simp [admin, valid]
        | some idnr => simp [admin, valid, eq_comm]

theorem handle_of_user {request : Request} {controller : Controller} {safe : Bytes} {user : Nat}
    (routed : route request = some controller) (given : token base64 request = some safe)
    (notAdmin : safe ≠ conf.admin) (valid : userAuth validate safe = some user) (db : Db)
    (store : Store) :
    (handle conf base64 validate db store request).2 = controller.run db store request := by
  simp only [handle, routed, basicAuth_eq given, if_neg notAdmin, valid]

end Authorisation

def bobOnly (username password : Bytes) : Option Nat :=
  if username = lit "bob" ∧ password = lit "secret" then some 2 else none

def adminConf : HttpConf := ⟨lit "admin:secret", []⟩

/-- Alice and Bob, with a mailbox and a message each. -/
def twoUsers (text : Bytes) : Store :=
  ⟨⟨[⟨1, lit "alice", [], [], [], 1⟩, ⟨2, lit "bob", [], [], [], 1⟩], by decide, by decide⟩,
    [⟨5, 1, lit "INBOX"⟩, ⟨6, 2, lit "INBOX"⟩],
    [⟨7, 5, true, 4, 4, text, [], fun _ => []⟩, ⟨8, 6, true, 4, 4, lit "mine", [], fun _ => []⟩]⟩

def quietDb : Db :=
  ⟨false, 3, fun _ => [], fun _ _ => none, fun _ _ => false, fun _ _ => ⟨[], none⟩, fun _ => false,
    fun _ _ => false⟩

/-- Bob reads a message. -/
def viewRequest (uri : String) : Request := ⟨lit uri, some (lit "Basic bob:secret"), [], none⟩

theorem owns_bob {text : Bytes} {idnr : Nat} (own : (twoUsers text).Owns 2 idnr) : idnr = 6 := by
  obtain ⟨row, isRow, isOwner⟩ := own
  by_cases first : 5 = idnr
  · subst first
    cases isRow
    cases isOwner
  · by_cases second : 6 = idnr
    · exact second.symm
    · simp [Store.mailbox, twoUsers, first, second] at isRow

end Dbmail.Http
