import Dbmail.Imap.Tokenizer

/-!
Contract: the worker functions (`_ic_*_enter`) of `imapcommands.c`.

Owns what each command does once its state check has passed: which arguments
it reads, which lookups decide its answer, the replies with their texts, the
status it returns and the changes it makes to the session.

Does not own: the lookups themselves, which `World` answers, the item parsers
of SEARCH and FETCH, or authentication.
-/

namespace Dbmail.Imap

open Dbmail.Lib Dbmail.Auth

/-! ## What a worker sees and does -/

/-- The rights of `acl.h` the handlers check. -/
inductive AclRight where
  | lookup | read | seen | write | insert | create | delete | deleted | expunge | administer
deriving DecidableEq, Repr

/-- The system flags, in the order of `imap_flag_desc_escaped`. -/
inductive ImapFlag where
  | seen | answered | deleted | flagged | draft | recent
deriving DecidableEq, Repr

def imapFlagDescEscaped : List (Bytes × ImapFlag) :=
  [(lit "\\Seen", .seen), (lit "\\Answered", .answered), (lit "\\Deleted", .deleted),
    (lit "\\Flagged", .flagged), (lit "\\Draft", .draft), (lit "\\Recent", .recent)]

def systemFlag (word : Bytes) : Option ImapFlag :=
  (imapFlagDescEscaped.find? fun entry => strcasecmpEq word entry.1).map Prod.snd

/-- The answers of the database and the mailbox layer during one command. The
`Nat` after a name or mailbox is the user the call is made for. -/
structure World where
  uname : Bytes
  findMailbox : Bytes → Nat → Option Nat
  createMailbox : Bytes → Nat → Int × Option Nat
  createWithParents : Bytes → Nat → Int × Bytes
  aclHasRight : Nat → Nat → AclRight → Int
  noSelect : Nat → Bool
  /-- The state that SELECT looks up is a loaded one. -/
  loads : Nat → Bool
  /-- The lookup of a state (`dbmail_imap_session_mbxinfo_lookup`) loads it and marks
  its deleted messages, as every load does under `mailbox_sync_deleted` 2. -/
  syncs : Nat → Bool
  /-- The untagged lines of a refresh (`dbmail_imap_session_mailbox_status`). -/
  mailboxStatus : List Bytes
  /-- The load that a refresh makes, if any, succeeds. -/
  reloads : Bool
  /-- The untagged lines with which SELECT describes a mailbox. -/
  selectLines : Nat → List Bytes
  /-- The lines of a QRESYNC resynchronisation. -/
  resyncLines : Nat → List Bytes
  listChildren : Nat → Nat → Option (List Nat)
  isSelectable : Nat → Int
  isWritable : Nat → Bool
  mailboxSize : Nat → Bool
  purge : Nat → Bool
  quotaDec : Nat → Bool
  deleteMailbox : Nat → Bool
  moveMessages : Nat → Nat → Int
  renameMailbox : Nat → Bytes → Bool
  subscribe : Nat → Nat → Bool → Int
  findByRegex : Nat → Bytes → Bool → Int
  listLines : List Bytes
  listStatus : Int
  mailboxInfo : Nat → Bool
  statusItem : Nat → Bytes → Bytes
  appendMsg : Nat → Nat → Option Bytes → Bytes → Int × Nat
  permissionReadWrite : Bool
  expunge : Nat → Option Bytes → Option Nat
  mailboxExists : Nat
  buildSearch : Int
  searchResult : Option Bytes
  /-- The item parser of FETCH. -/
  fetchParse : Except Fault Bool
  /-- The mod-sequence of CHANGEDSINCE, when VANISHED is asked for. -/
  fetchVanished : Option Nat
  vanishedLines : List Bytes
  /-- The id set is valid, and the result of working through it. -/
  messageSet : Bytes → Bool
  fetchItems : Int
  /-- The body sections of a part 0 that are asked for, over all messages. -/
  fetchProtocolErrors : Nat
  hasKeyword : Bytes → Bool
  storeMessages : Int × List Nat
  copyMessages : Nat → Bytes
  /-- A copy would exceed the quota, which ends the walk over the messages. -/
  copyOverQuota : Bool
  quota : Nat → Bytes → Except Bytes (Bytes × List Bytes)
  preAdminister : Bytes → Bytes → Nat → Int × Nat
  setRights : Nat → Bytes → Int
  deleteRights : Nat → Int
  aclString : Nat → Option Bytes
  listRights : Bytes → Nat → Option Bytes
  myRights : Nat → Nat → Option Bytes

def openWorld : World where
  uname := []
  findMailbox := fun _ _ => some 1
  createMailbox := fun _ _ => (0, none)
  createWithParents := fun _ _ => (0, [])
  aclHasRight := fun _ _ _ => 1
  noSelect := fun _ => false
  loads := fun _ => true
  syncs := fun _ => false
  mailboxStatus := []
  reloads := true
  selectLines := fun _ => []
  resyncLines := fun _ => []
  listChildren := fun _ _ => some []
  isSelectable := fun _ => 1
  isWritable := fun _ => true
  mailboxSize := fun _ => true
  purge := fun _ => true
  quotaDec := fun _ => true
  deleteMailbox := fun _ => true
  moveMessages := fun _ _ => 0
  renameMailbox := fun _ _ => true
  subscribe := fun _ _ _ => 0
  findByRegex := fun _ _ _ => 0
  listLines := []
  listStatus := 0
  mailboxInfo := fun _ => true
  statusItem := fun _ word => word
  appendMsg := fun _ _ _ _ => (0, 1)
  permissionReadWrite := true
  expunge := fun _ _ => some 0
  mailboxExists := 0
  buildSearch := 0
  searchResult := none
  fetchParse := .ok true
  fetchVanished := none
  vanishedLines := []
  messageSet := fun _ => true
  fetchItems := 0
  fetchProtocolErrors := 0
  hasKeyword := fun _ => true
  storeMessages := (0, [])
  copyMessages := fun _ => []
  copyOverQuota := false
  quota := fun _ _ => .ok ([], [])
  preAdminister := fun _ _ _ => (1, 1)
  setRights := fun _ _ => 0
  deleteRights := fun _ => 0
  aclString := fun _ => some []
  listRights := fun _ _ => some []
  myRights := fun _ _ => some []

inductive Change where
  | recentCleared
  | deleted
  | purged
  | renamed
  | emptied
  | filled
  | subscription
  | appended
  | expunged
  | flagged
  | rights
deriving DecidableEq, Repr

/-- A worker goes past the check of a right, or changes a mailbox. -/
inductive Deed where
  | passed (mailbox : Nat) (right : AclRight)
  | wrote (mailbox : Nat) (change : Change)
deriving DecidableEq, Repr

inductive Move where
  | authenticated
  | selected
deriving DecidableEq, Repr

/-- What a worker changes in the session besides its status. -/
structure Effects where
  replies : List Reply
  moves : List Move
  mailbox : Option Nat
  loaded : Bool
  resync : QresyncArgs
  condstore : Bool
  qresync : Bool
  deeds : List Deed
  /-- The mailboxes in which a load has marked messages as deleted. -/
  synced : List Nat

/-- The effects before a worker has done anything. -/
def Session.effects (session : Session) : Effects where
  replies := []
  moves := []
  mailbox := session.mailbox
  loaded := session.loaded
  resync := session.resync
  condstore := session.condstore
  qresync := session.qresync
  deeds := []
  synced := []

/-- Code of a worker that reads no further argument, and so cannot fault. -/
abbrev Worker := StateM Effects

def Worker.perform (session : Session) (body : Worker Int) : Except Fault (Int × Effects) :=
  .ok (body.run session.effects)

def say (reply : Reply) : Worker Unit :=
  modify fun effects => { effects with replies := effects.replies ++ [reply] }

def sayAll (lines : List Bytes) : Worker Unit :=
  modify fun effects => { effects with replies := effects.replies ++ lines.map Reply.untagged }

def moveTo (move : Move) : Worker Unit :=
  modify fun effects => { effects with moves := effects.moves ++ [move] }

def note (deed : Deed) : Worker Unit :=
  modify fun effects => { effects with deeds := effects.deeds ++ [deed] }

def answer (reply : Reply) (status : Int) : Worker Int := do
  say reply
  return status

def byeDatabase : Reply := .untagged (lit "BYE internal dbase error")

section Workers

variable (world : World) (session : Session)

/-- `SESSION_OK_COMMON`. -/
def sessionOkWith (code : Bytes) : Worker Unit :=
  if session.state = .error then pure ()
  else say (.ok (code ++ (if session.useUid then lit "UID " else []) ++ session.command ++
    lit " completed"))

def sessionOk : Worker Unit := sessionOkWith session []

def sessionOkWithRespCode (value : Bytes) : Worker Unit :=
  sessionOkWith session (lit "[" ++ value ++ lit "] ")

/-- `SESSION_OK; SESSION_RETURN`. -/
def finish : Worker Int := do
  sessionOk session
  return 0

def mailboxCheckAcl (mailbox : Nat) (right : AclRight) : Worker Int := do
  let access := world.aclHasRight mailbox session.userid right
  if access < 0 then
    answer (.untagged (lit "BYE internal database error")) (-1)
  else if access = 0 then
    answer (.no (lit "permission denied")) 1
  else return 0

def Effects.lookedUp (mailbox : Nat) (effects : Effects) : Effects :=
  { effects with synced := effects.synced ++ if world.syncs mailbox then [mailbox] else [] }

/-- `dbmail_imap_session_mbxinfo_lookup`. -/
def sessionMbxinfoLookup (mailbox : Nat) : Worker Unit := modify (Effects.lookedUp world mailbox)

/-- `dbmail_imap_session_mailbox_status` in the selected state. It reads the state
it then replaces. -/
def sessionMailboxStatus : Worker Unit := do
  sayAll world.mailboxStatus
  modify fun effects => { effects with loaded := effects.loaded && world.reloads }

def imapSessionMailboxCheckAcl (mailbox : Nat) (right : AclRight) : Worker Int := do
  sessionMbxinfoLookup world mailbox
  let result ← mailboxCheckAcl world session mailbox right
  if result = 1 then moveTo .authenticated
  return result

/-- The id of the mailbox opened last. In the selected state there is one. -/
def Session.current (session : Session) : Nat := session.mailbox.getD 0

/-! ## Any state -/

def capabilityEnter : Worker Int := do
  let capa := if session.state = .nonAuthenticated then session.preauthCapa else session.capa
  say (.untagged (session.command ++ lit " " ++ capa.asString))
  finish session

def noopEnter : Worker Int := do
  if session.state = .selected then sessionMailboxStatus world
  finish session

def idEnter : Worker Int := do
  say (.untagged (lit "ID (" ++ world.uname ++ lit ")"))
  finish session

/-! ## Mailboxes -/

def validateArg (text : Bytes) : Bool := text.all fun byte => (lit "0123456789,:").contains byte

/-- What `_ic_select_parse_args` has seen. -/
structure SelectArgs extends QresyncArgs where
  paren : Int := 0

/-- A number that fills the word; zero is not looked at further. -/
def fullNumber (text : Bytes) : Option Nat :=
  let (value, rest) := strtoul text
  if value ≠ 0 ∧ rest ≠ [] then none else some value

/-- One argument of SELECT after the mailbox name, at position `i`. -/
def selectArg (parsed : SelectArgs) (i : Nat) (word : Bytes) : Option SelectArgs :=
  if smatch word "(" then some { parsed with paren := parsed.paren + 1 }
  else if smatch word ")" then some { parsed with paren := parsed.paren - 1 }
  else match i with
    | 2 => if smatch word "qresync" then some parsed else none
    | 4 => (fullNumber word).map fun value => { parsed with uidvalidity := value }
    | 5 => (fullNumber word).map fun value => { parsed with modseq := value }
    | 6 => if validateArg word then some { parsed with knownUids := some word } else none
    | 8 => if validateArg word then some { parsed with knownSeqset := some word } else none
    | 9 => if validateArg word then some { parsed with knownUidset := some word } else none
    | _ => some parsed

/-- The loop of `_ic_select_parse_args` from position `i`. -/
def selectArgs (parsed : SelectArgs) : Nat → List Bytes → Option SelectArgs
  | _, [] => some parsed
  | i, word :: rest =>
    match selectArg parsed i word with
    | none => none
    | some parsed => selectArgs parsed (i + 1) rest

/-- The parameters of SELECT are `(CONDSTORE)`. -/
def asksCondstore (capa : Capa) (words : List Bytes) : Bool :=
  capa.matches (lit "CONDSTORE") && words.length = 3 && smatch (words.getD 0 []) "(" &&
    smatch (words.getD 1 []) "condstore" && smatch (words.getD 2 []) ")"

/-- `_ic_select_parse_args`: `none` for invalid parameters, else whether
CONDSTORE is asked for and the QRESYNC parameters. -/
def selectParseArgs : Option (Bool × Option QresyncArgs) :=
  let words := session.args.drop 1
  if session.args.length = 1 then some (false, none)
  else if asksCondstore session.capa words then some (true, none)
  else match selectArgs {} 1 words with
    | none => none
    | some parsed =>
      if parsed.paren ≠ 0 then none
      else if parsed.knownSeqset.isSome ∧ parsed.knownUidset.isNone then none
      else if parsed.uidvalidity = 0 ∨ parsed.modseq = 0 then none
      else some (false, some parsed.toQresyncArgs)

def imapSessionMailboxClose : Worker Unit := do
  moveTo .authenticated
  let effects ← get
  if effects.mailbox.isSome then
    set { effects with mailbox := none }
    if effects.qresync ∧
        (session.commandType = some .select ∨ session.commandType = some .examine) then
      say (.untagged (lit "OK [CLOSED]"))

def findOrCreateInbox (name : Bytes) : Option Nat :=
  match world.findMailbox name session.userid with
  | some mailbox => some mailbox
  | none =>
    if smatch name "INBOX" then (world.createMailbox (lit "INBOX") session.userid).2 else none

/-- The error status, or the mailbox. -/
def imapSessionMailboxOpen (name : Bytes) : Worker (Except Int Nat) := do
  match findOrCreateInbox world session name with
  | none =>
    say (.no (lit "specified mailbox does not exist"))
    return .error 1
  | some mailbox =>
    sessionMbxinfoLookup world mailbox
    modify fun effects =>
      { effects with mailbox := some mailbox, loaded := world.loads mailbox }
    let access ← mailboxCheckAcl world session mailbox .read
    if access = 1 then
      moveTo .authenticated
      return .error 1
    else
      note (.passed mailbox .read)
      if world.noSelect mailbox then return .error 1
      else return .ok mailbox

/-- Both known sets are kept, which `MailboxState_getExpunged` then reads. -/
def QresyncArgs.keepsSets (resync : QresyncArgs) : Bool :=
  resync.knownSeqset.isSome && resync.knownUidset.isSome

/-- A SELECT without parameters of its own goes by those of an earlier one, whose
arguments are freed by then. -/
def selectReadsFreed (name : Bytes) : Bool :=
  (selectParseArgs session).any fun parsed => parsed.2.isNone &&
    (findOrCreateInbox world session name).any fun mailbox =>
      world.aclHasRight mailbox session.userid .read ≠ 0 && !world.noSelect mailbox &&
        session.resync.uidvalidity = mailbox &&
        (session.resync.keepsSets || session.resync.knownUids.isSome)

def selectEnter (name : Bytes) : Worker Int := do
  match selectParseArgs session with
  | none => answer (.bad (lit "invalid parameter")) 1
  | some (condstore, given) =>
    modify fun effects =>
      { effects with
        condstore := condstore || effects.condstore, resync := given.getD effects.resync }
    imapSessionMailboxClose session
    match ← imapSessionMailboxOpen world session name with
    | .error status => return status
    | .ok mailbox =>
      moveTo .selected
      sayAll (world.selectLines mailbox)
      if session.commandType = some .select then note (.wrote mailbox .recentCleared)
      if (← get).resync.uidvalidity = mailbox then sayAll (world.resyncLines mailbox)
      let okarg :=
        if session.commandType = some .select then lit "READ-WRITE" else lit "READ-ONLY"
      let effects ← get
      answer (.ok (lit "[" ++ okarg ++ lit "] " ++ session.command ++ lit " completed" ++
        (if effects.condstore then lit ", CONDSTORE is now enabled" else []))) 0

def enableWord (word : Bytes) : Worker Unit := do
  let effects ← get
  if session.capa.matches word then
    if smatch word "CONDSTORE" then
      set { effects with condstore := true }
      if !effects.condstore then say (.untagged (lit "ENABLED " ++ word))
    else if smatch word "QRESYNC" then
      set { effects with qresync := true }
      if !effects.qresync then say (.untagged (lit "ENABLED " ++ word))

def enableEnter : Worker Int := do
  session.args.forM (enableWord session)
  finish session

def createEnter (name : Bytes) : Worker Int := do
  let (result, message) := world.createWithParents name session.userid
  if 0 < result then answer (.no message) 0
  else if result < 0 then answer byeDatabase 0
  else finish session

def deleted (mailbox : Nat) : Worker Int := do
  if session.mailbox = some mailbox then moveTo .authenticated
  finish session

def deleteEnter (name : Bytes) : Worker Int := do
  if smatch name "INBOX" then answer (.no (lit "cannot delete special mailbox INBOX")) 1
  else match world.findMailbox name session.userid with
    | none => answer (.no (lit "mailbox doesn't exists")) 1
    | some mailbox =>
      let access ← imapSessionMailboxCheckAcl world session mailbox .delete
      if access ≠ 0 then return access
      note (.passed mailbox .delete)
      match world.listChildren mailbox session.userid with
      | none => answer (.untagged (lit "BYE dbase/memory error")) (-1)
      | some [] =>
        note (.wrote mailbox .deleted)
        if world.deleteMailbox mailbox then deleted session mailbox
        else answer (.no (lit "DELETE failed")) 1
      | some _ =>
        let selectable := world.isSelectable mailbox
        if selectable = 0 then answer (.no (lit "mailbox is non-selectable")) 0
        else if selectable = dmEQuery then answer byeDatabase (-1)
        else if world.isWritable mailbox ∧ world.mailboxSize mailbox then
          note (.wrote mailbox .purged)
          if world.purge mailbox ∧ world.quotaDec session.userid then deleted session mailbox
          else return dmEQuery
        else return dmEQuery

def acceptedMailboxnameChars : Bytes :=
  lit ("abcdefghijklmnopqrstuvwxyzABCDEFGHIJKLMNOPQRSTUVWXYZ" ++ "0123456789-=/ _.&,+@()[]'#")

def checkmailboxname (name : Bytes) : Bool :=
  name ≠ [] && name.length < 255 && name.all (fun byte => acceptedMailboxnameChars.contains byte) &&
    !(name.zip name.tail).contains (47, 47) && name ≠ lit "/"

def invadesStructure (oldname newname : Bytes) : Bool :=
  strcasecmpEq oldname (newname.take oldname.length) && oldname.length < newname.length &&
    newname[oldname.length]? == some 47

/-- The part of a name before its last `/`, if there is one. -/
def parentName (name : Bytes) : Option Bytes :=
  if name.contains 47 then some (name.rdropWhile (· ≠ 47)).dropLast else none

def renameTree (mailbox : Nat) (newname : Bytes) (children : List Nat) : Worker Int := do
  (children ++ [mailbox]).forM fun child => do
    sessionMbxinfoLookup world child
    note (.wrote child .renamed)
  if children.all (fun child => world.renameMailbox child newname) &&
      world.renameMailbox mailbox newname then
    finish session
  else answer (.untagged (lit "BYE error renaming mailbox")) 1

def renameEnter (oldname newname : Bytes) : Worker Int := do
  match world.findMailbox oldname session.userid with
  | none => answer (.no (lit "mailbox does not exist")) 1
  | some mailbox =>
    if !checkmailboxname newname then
      answer (.no (lit "new mailbox name contains invalid characters")) 1
    else if (world.findMailbox newname session.userid).isSome then
      answer (.no (lit "new mailbox already exists")) 1
    else if invadesStructure oldname newname then
      answer (.no (lit "new mailbox would invade mailbox structure")) 1
    else
      let parent := (parentName newname).map fun name => world.findMailbox name session.userid
      if parent = some none then
        answer (.no (lit "new mailbox would invade mailbox structure")) 1
      else
        let access ← imapSessionMailboxCheckAcl world session mailbox .delete
        if access ≠ 0 then return access
        note (.passed mailbox .delete)
        let access ← match parent with
          | some (some parentMailbox) =>
            imapSessionMailboxCheckAcl world session parentMailbox .create
          | _ => pure 0
        if access ≠ 0 then return access
        if let some (some parentMailbox) := parent then note (.passed parentMailbox .create)
        if smatch oldname "INBOX" then
          let (created, target) := world.createMailbox newname session.userid
          if created ≠ -1 then
            note (.wrote (target.getD 0) .filled)
            note (.wrote mailbox .emptied)
          if created = -1 ∨ world.moveMessages (target.getD 0) mailbox = -1 then
            answer byeDatabase (-1)
          else finish session
        else match world.listChildren mailbox session.userid with
          | none => answer byeDatabase (-1)
          | some children => renameTree world session mailbox newname children

def subscribeEnter (name : Bytes) : Worker Int := do
  match world.findMailbox name session.userid with
  | none => answer (.ok (session.command ++ lit " on mailbox that does not exist")) 0
  | some mailbox =>
    let access ← imapSessionMailboxCheckAcl world session mailbox .lookup
    if access ≠ 0 then return 1
    note (.passed mailbox .lookup)
    note (.wrote mailbox .subscription)
    if world.subscribe mailbox session.userid (session.commandType = some .subscribe) =
        dmEQuery then
      answer byeDatabase dmEQuery
    else finish session

def listEnter (refname pattern : Bytes) : Worker Int := do
  if refname = [] ∧ pattern = [] then
    say (.untagged (session.command ++ lit " (\\NoSelect) \"/\" \"\""))
    finish session
  else if !refname.all (fun byte => acceptedMailboxnameChars.contains byte) then
    answer (.bad (lit "reference name contains invalid characters")) 1
  else
    let status := world.findByRegex session.userid ((refname ++ pattern).take 254)
      (session.commandType = some .lsub)
    if status = -1 then answer byeDatabase (-1)
    else if status = 1 then answer (.bad (lit "invalid pattern specified")) 1
    else
      sayAll world.listLines
      if world.listStatus = 0 then answer (.ok (session.command ++ lit " completed")) 0
      else return world.listStatus

def statusAttributes : List String :=
  ["messages", "recent", "unseen", "uidnext", "uidvalidity"]

/-- The attribute loop of STATUS: the items, or the first unknown word. Asking for
HIGHESTMODSEQ enables CONDSTORE. -/
def statusItems (mailbox : Nat) : List Bytes → List Bytes → Worker (Except Bytes (List Bytes))
  | items, [] => return .ok items
  | items, word :: rest => do
    if statusAttributes.any (smatch word) then
      statusItems mailbox (items ++ [world.statusItem mailbox word]) rest
    else if session.capa.matches (lit "CONDSTORE") ∧ smatch word "highestmodseq" then
      modify fun effects => { effects with condstore := true }
      statusItems mailbox (items ++ [world.statusItem mailbox word]) rest
    else if smatch word ")" then return .ok items
    else return .error word

def statusAnswer (name : Bytes) (words : List Bytes) : Worker Int := do
  match findOrCreateInbox world session name with
  | none => answer (.no (lit "specified mailbox does not exist")) 1
  | some mailbox =>
    if !world.mailboxInfo mailbox then answer (.no (lit "specified mailbox does not exist")) 1
    else
      let access ← mailboxCheckAcl world session mailbox .read
      if access ≠ 0 then return access
      note (.passed mailbox .read)
      match ← statusItems world session mailbox [] words with
      | .error word =>
        say (.raw (lit "\r\n"))
        answer (.bad (lit "option '" ++ word ++ lit "' specified")) 1
      | .ok items =>
        say (.untagged (lit "STATUS " ++ name ++ lit " (" ++ [32].intercalate items ++ lit ")"))
        finish session

inductive StatusList where
  | closed (index : Nat)
  | nested
  | unclosed
deriving DecidableEq, Repr

/-- `endfound`; an unclosed list leaves it at 0. -/
def StatusList.endfound : StatusList → Nat
  | .closed index => index
  | _ => 0

/-- The loop over `self->args[i]` from position `i`. -/
def statusList : Nat → List Bytes → StatusList
  | _, [] => .unclosed
  | i, word :: rest =>
    if word.head? = some 41 then .closed i
    else if word.head? = some 40 then .nested
    else statusList (i + 1) rest

def statusEnter : Except Fault (Int × Effects) := do
  let opening ← session.arg 1
  if opening.head? ≠ some 40 then
    Worker.perform session (answer (.bad (lit "argument list should be parenthesed")) 1)
  else
    let scanned := statusList 2 (session.args.drop 2)
    if scanned = .nested then
      Worker.perform session (answer (.bad (lit "too many parentheses specified")) 1)
    else if scanned = .closed 2 then
      Worker.perform session (answer (.bad (lit "argument list empty")) 1)
    else
      match ← session.slot (scanned.endfound + 1) with
      | some _ => Worker.perform session (answer (.bad (lit "argument list too long")) 1)
      | none =>
        let name ← session.arg 0
        Worker.perform session (statusAnswer world session name (session.args.drop 2))

/-! ## APPEND -/

/-- The flag loop of APPEND from position `i`: the words and the position of
the closing parenthesis or of the terminating NULL. -/
def appendFlags : Nat → Nat → List Bytes → Except Fault (Nat × List Bytes)
  | 0, i, words => .ok (i, words)
  | fuel + 1, i, words => do
    match ← session.slot i with
    | none => return (i, words)
    | some word =>
      if word.head? = some 41 then return (i, words)
      else appendFlags fuel (i + 1) (words ++ [word])

/-- The rights APPEND and STORE need for a set of flags. -/
def flagRights (words : List Bytes) (recentNeedsWrite : Bool) : List AclRight :=
  let flags := words.filterMap systemFlag
  (if flags.contains .seen then [.seen] else []) ++
    (if flags.contains .deleted then [.deleted] else []) ++
    (if flags.contains .answered || flags.contains .flagged || flags.contains .draft ||
        (recentNeedsWrite && flags.contains .recent) ||
        words.any fun word => (systemFlag word).isNone then
      [.write] else [])

/-- Check rights in turn; `denied` is said after a refusal. -/
def checkRights (mailbox : Nat) (denied : Option Reply) : List AclRight → Worker Int
  | [] => return 0
  | right :: rest => do
    let access ← mailboxCheckAcl world session mailbox right
    if access ≠ 0 then
      denied.forM say
      return access
    note (.passed mailbox right)
    checkRights mailbox denied rest

/-- `db_append_msg` and its answers. -/
def appendMessage (mailbox : Nat) (date : Option Bytes) (message : Bytes) : Worker Int := do
  let (status, messageId) := world.appendMsg mailbox session.userid date message
  note (.wrote mailbox .appended)
  if status = -1 then answer (.untagged (lit "BYE internal dbase error storing message")) 1
  else if status = -2 then answer (.no (lit "not enough quotum left")) 1
  else if status = 1 then answer (.no (lit "invalid message specified")) 1
  else
    if messageId ≠ 0 ∧ session.state = .selected ∧ session.mailbox = some mailbox then
      sessionMailboxStatus world
    sessionOkWithRespCode session (lit "APPENDUID " ++ digits mailbox ++ lit " " ++ digits messageId)
    return status

def appendTail (mailbox i : Nat) (words : List Bytes) : Except Fault (Int × Effects) := do
  match ← session.slot i with
  | none =>
    Worker.perform session do
      sessionMbxinfoLookup world mailbox
      note (.passed mailbox .insert)
      answer (.bad (lit "invalid arguments specified to APPEND")) 1
  | some first =>
    match ← session.slot (i + 1) with
    | none =>
      Worker.perform session do
        sessionMbxinfoLookup world mailbox
        note (.passed mailbox .insert)
        let access ← checkRights world session mailbox none (flagRights words true)
        if access ≠ 0 then return access
        appendMessage world session mailbox none first
    | some message =>
      Worker.perform session do
        sessionMbxinfoLookup world mailbox
        note (.passed mailbox .insert)
        let access ← checkRights world session mailbox none (flagRights words true)
        if access ≠ 0 then return access
        appendMessage world session mailbox (some first) message

/-- `_ic_append_enter`. After an unclosed flag list `i` steps past the
terminating NULL. -/
def appendEnter : Except Fault (Int × Effects) := do
  let name ← session.arg 0
  match findOrCreateInbox world session name with
  | none => Worker.perform session (answer (.no (lit "[TRYCREATE]")) 1)
  | some mailbox =>
    let checked ←
      Worker.perform session (imapSessionMailboxCheckAcl world session mailbox .insert)
    if checked.1 ≠ 0 then return checked
    let opening ← session.arg 1
    if opening.head? = some 40 then
      let flags ← appendFlags session maxArgs 2 []
      appendTail world session mailbox (flags.1 + 1) flags.2
    else appendTail world session mailbox 1 []

/-! ## The selected mailbox -/

def checkEnter : Worker Int := do
  sessionMailboxStatus world
  finish session

def expunged (modseq : Nat) : Worker Int := do
  let effects ← get
  if effects.qresync ∧ modseq ≠ 0 then
    sessionOkWithRespCode session (lit "HIGHESTMODSEQ " ++ digits modseq)
  else sessionOk session
  return 0

def closeEnter : Worker Int := do
  let access := world.aclHasRight session.current session.userid .expunge
  if access < 0 then answer (.untagged (lit "BYE Internal database error")) access
  else
    let modseq :=
      if access = 1 ∧ world.permissionReadWrite then (world.expunge session.userid none).getD 0
      else 0
    if access = 1 then
      note (.passed session.current .expunge)
      if world.permissionReadWrite then note (.wrote session.current .expunged)
      imapSessionMailboxClose session
    moveTo .authenticated
    expunged session modseq

def unselectEnter : Worker Int := do
  imapSessionMailboxClose session
  finish session

def expungeEnter (set : Option Bytes) : Worker Int := do
  let access ← mailboxCheckAcl world session session.current .expunge
  if access ≠ 0 then return access
  note (.passed session.current .expunge)
  note (.wrote session.current .expunged)
  match world.expunge session.userid set with
  | none => answer (.untagged (lit "BYE expunge failed")) dmEQuery
  | some modseq => expunged session modseq

/-- `search_order`, as far as it is used. -/
inductive SearchOrder where
  | unordered
  | sorted
  | orderedSubject
deriving DecidableEq, Repr

def SearchOrder.word : SearchOrder → Bytes
  | .unordered => lit "SEARCH"
  | .sorted => lit "SORT"
  | .orderedSubject => lit "THREAD"

def sortedSearchEnter (order : SearchOrder) : Worker Int := do
  let access ← mailboxCheckAcl world session session.current .read
  if access ≠ 0 then return access
  note (.passed session.current .read)
  if session.state = .selected then sessionMailboxStatus world
  if 0 < world.mailboxExists ∧ world.buildSearch < 0 then
    answer (.bad (lit "invalid arguments to " ++ order.word)) 1
  else
    let result := if 0 < world.mailboxExists then world.searchResult else none
    say (.untagged (match result with
      | some text => order.word ++ lit " " ++ text
      | none => order.word))
    finish session

/-- `_dm_imapsession_get_ids`. -/
def getIds (set : Bytes) : Worker Int := do
  if world.messageSet set then return 0
  else
    let kind := if session.useUid then lit "uid" else lit "msn"
    answer (.bad (lit "invalid sequence in " ++ kind ++ lit " set [" ++ set ++ lit "]")) 1

/-- The answers of `_imap_show_body_section` to a part 0; its result is not looked at. -/
def protocolErrors (count : Nat) : Worker Unit :=
  (List.replicate count (lit "protocol error")).forM fun text => do
    say (.raw (lit "\r\n"))
    say (.bad text)

/-- The arguments behind the kept sets of an earlier SELECT are freed. -/
def fetchReadsFreed (parsed : Bool) : Bool :=
  parsed && world.fetchVanished.isSome && session.resync.keepsSets

/-- `_ic_fetch_enter`, with what the item parser returned. -/
def fetchEnter (parsed : Bool) (set : Bytes) : Worker Int := do
  if !parsed then answer (.bad (lit "invalid argument list to fetch")) 1
  else
    if let some since := world.fetchVanished then
      modify fun effects => { effects with resync.modseq := since }
      sayAll world.vanishedLines
    let result ← getIds world session set
    if result ≠ 0 then return result
    protocolErrors world.fetchProtocolErrors
    if world.fetchItems ≠ 0 then return world.fetchItems
    finish session

/-- `IMAPFA_REPLACE`, `IMAPFA_ADD`, `IMAPFA_REMOVE`. -/
inductive FlagAction where
  | replace
  | add
  | remove
deriving DecidableEq, Repr

/-- The action words of STORE with their action and whether it is silent. -/
def storeActions : List (Bytes × FlagAction × Bool) :=
  [(lit "flags", .replace, false), (lit "flags.silent", .replace, true),
    (lit "+flags", .add, false), (lit "+flags.silent", .add, true),
    (lit "-flags", .remove, false), (lit "-flags.silent", .remove, true)]

def storeAction (word : Bytes) : Option (FlagAction × Bool) :=
  (storeActions.find? fun entry => strcasecmpEq word entry.1).map Prod.snd

/-- The local variables of `_ic_store_enter`. -/
structure StoreScan where
  action : Option (FlagAction × Bool) := none
  needflags : Bool := false
  startflags : Nat := 0
  endflags : Nat := 0

/-- The end of the flag list, if `token` at position `k` is it. -/
def StoreScan.mark (found : StoreScan) (k : Nat) (token : Bytes) : StoreScan :=
  if found.needflags ∧ (smatch token ")" ∨ smatch token "(") then
    { found with needflags := false, endflags := k - 1 }
  else found

/-- The UNCHANGEDSINCE modifier at position `k`: the position to go on at, or none
when the loop is broken off without an action. -/
def storeModifier (k : Nat) (found : StoreScan) (token : Bytes) :
    Except Fault (Option Nat × StoreScan) := do
  if !found.needflags ∧ smatch token "(" then
    match ← session.slot (k + 1) with
    | none => return (some (k + 1), found)
    | some word =>
      match ← session.slot (k + 2) with
      | none => return (some (k + 1), found)
      | some number =>
        if !session.capa.matches (lit "CONDSTORE") ∨ !smatch word "UNCHANGEDSINCE" ∨
            (strtoul number).2 = number then
          return (none, { found with action := none })
        else return (some (k + 3), found)
  else return (some (k + 1), found)

def storeToken (k : Nat) (found : StoreScan) (token : Bytes) :
    Except Fault (Option Nat × StoreScan) :=
  if found.action.isNone ∧ (storeAction token).isSome then
    .ok (some (k + 1), { found with action := storeAction token, needflags := true })
  else if found.needflags ∧ found.startflags = 0 then
    .ok (some (k + 1), { found with startflags := if smatch token "(" then k + 1 else k })
  else storeModifier session k (found.mark k token) token

/-- The token loop of `_ic_store_enter` from position `k`, with the position at
which it ends. -/
def storeScan : Nat → Nat → StoreScan → Except Fault (Nat × StoreScan)
  | 0, k, found => .ok (k, found)
  | fuel + 1, k, found => do
    match ← session.slot k with
    | none => return (k, found)
    | some token =>
      match ← storeToken session k found token with
      | (none, found) => return (k, found)
      | (some next, found) => storeScan fuel next found

/-- Read the flag words from position `k` to `endflags`. -/
def storeWords : Nat → Nat → Except Fault (List Bytes)
  | 0, _ => .ok []
  | count + 1, k => do
    let word ← session.arg k
    let rest ← storeWords count (k + 1)
    return word :: rest

def storeMessages (set : Bytes) (words : List Bytes) : Worker Int := do
  if words.any fun word => smatch word "\\Recent" then
    answer (.bad (lit "invalid flag list to STORE command")) 1
  else
    let access ← checkRights world session session.current
      (some (.no (lit "access denied"))) (flagRights words false)
    if access ≠ 0 then return access
    if words.any fun word => (systemFlag word).isNone && !world.hasKeyword word then
      say (.untagged (lit "FLAGS"))
      say (.untagged (lit "OK [PERMANENTFLAGS] Flags allowed."))
    let result ← getIds world session set
    if result ≠ 0 then return result
    note (.wrote session.current .flagged)
    let (status, unchanged) := world.storeMessages
    if status ≠ 0 then
      answer (.raw (lit "\r\n* BYE internal dbase error\r\n")) 1
    else
      if unchanged = [] then sessionOk session
      else
        sessionOkWithRespCode session
          (lit "MODIFIED " ++ [44].intercalate (unchanged.map digits))
      return 0

def storeEnter : Except Fault (Int × Effects) := do
  let scanned ← storeScan session maxArgs (session.argsIdx + 1) {}
  let found := scanned.2
  let endflags := if found.endflags = 0 then scanned.1 - 1 else found.endflags
  if found.action.isNone then
    Worker.perform session (answer (.bad (lit "invalid STORE action specified")) 1)
  else if found.needflags ∧ found.startflags = 0 then
    Worker.perform session (answer (.bad (lit "invalid argument(s) to STORE")) 1)
  else
    let words ← storeWords session (endflags + 1 - found.startflags) found.startflags
    let set ← session.arg session.argsIdx
    Worker.perform session (storeMessages world session set words)

def copyEnter (src dst : Bytes) : Worker Int := do
  match world.findMailbox dst session.userid with
  | none => answer (.no (lit "[TRYCREATE] specified mailbox does not exist")) 1
  | some mailbox =>
    let access ← mailboxCheckAcl world session session.current .read
    if access ≠ 0 then return access
    note (.passed session.current .read)
    sessionMbxinfoLookup world mailbox
    let access ← mailboxCheckAcl world session mailbox .insert
    if access ≠ 0 then return access
    note (.passed mailbox .insert)
    let result ← getIds world session src
    if result ≠ 0 then return result
    note (.wrote mailbox .appended)
    -- the command is completed after this refusal as well
    if world.copyOverQuota then say (.no (lit "quota would be exceeded"))
    if session.mailbox = some mailbox then sessionMailboxStatus world
    sessionOkWithRespCode session (lit "COPYUID " ++ digits mailbox ++ lit " " ++
      world.copyMessages mailbox)
    return 0

/-! ## Quota and ACL -/

def quotaEnter (root : Bytes) (header : Bytes → List Bytes) : Worker Int := do
  match world.quota session.userid root with
  | .error message => answer (.no message) 1
  | .ok (quotaRoot, lines) =>
    sayAll (header quotaRoot ++ lines)
    finish session

def getquotarootEnter (name : Bytes) : Worker Int :=
  quotaEnter world session [] fun root =>
    [lit "QUOTAROOT \"" ++ name ++ lit "\" \"" ++ root ++ lit "\""]

def getquotaEnter (name : Bytes) : Worker Int := quotaEnter world session name fun _ => []

def byeInternal : Reply := .untagged (lit "BYE internal database error")

def setaclEnter (mailbox username rights : Bytes) : Worker Int := do
  let (found, mboxid) := world.preAdminister mailbox username session.userid
  if found = -1 then answer byeInternal (-1)
  else if found = 0 then answer (.no (lit "SETACL failure: can't set acl")) 1
  else
    sessionMbxinfoLookup world mboxid
    let access ← mailboxCheckAcl world session mboxid .administer
    if access ≠ 0 then return access
    note (.passed mboxid .administer)
    note (.wrote mboxid .rights)
    if world.setRights mboxid rights < 0 then answer byeInternal (-1)
    else finish session

/-- DELETEACL goes on when user or mailbox is not found. -/
def deleteaclEnter (mailbox username : Bytes) : Worker Int := do
  let (found, mboxid) := world.preAdminister mailbox username session.userid
  if found = -1 then answer byeDatabase (-1)
  else
    sessionMbxinfoLookup world mboxid
    let access ← mailboxCheckAcl world session mboxid .administer
    if access ≠ 0 then return access
    note (.passed mboxid .administer)
    note (.wrote mboxid .rights)
    if world.deleteRights mboxid < 0 then answer byeInternal (-1)
    else finish session

def getaclEnter (mailbox : Bytes) : Worker Int := do
  match world.findMailbox mailbox session.userid with
  | none => answer (.no (lit "GETACL failure: can't get acl")) 1
  | some mboxid =>
    match world.aclString mboxid with
    | none => answer byeInternal (-1)
    | some text =>
      say (.untagged (lit "ACL \"" ++ mailbox ++ lit "\" " ++ text))
      finish session

/-- The refusal of LISTRIGHTS has a comma behind the tag. -/
def listrightsEnter (mailbox username : Bytes) : Worker Int := do
  let (found, mboxid) := world.preAdminister mailbox username session.userid
  if found = -1 then answer byeInternal (-1)
  else if found = 0 then answer (.raw (lit ", NO LISTRIGHTS failure: can't set acl\r\n")) 1
  else
    sessionMbxinfoLookup world mboxid
    let access ← mailboxCheckAcl world session mboxid .administer
    if access ≠ 0 then return 1
    note (.passed mboxid .administer)
    match world.listRights username mboxid with
    | none => answer byeInternal (-1)
    | some text =>
      say (.untagged (lit "LISTRIGHTS \"" ++ mailbox ++ lit "\" " ++ username ++ lit " " ++ text))
      finish session

def myrightsEnter (mailbox : Bytes) : Worker Int := do
  match world.findMailbox mailbox session.userid with
  | none => answer (.no (lit "MYRIGHTS failure: unknown mailbox")) 1
  | some mboxid =>
    match world.myRights session.userid mboxid with
    | none => answer byeInternal (-1)
    | some text =>
      say (.untagged (lit "MYRIGHTS \"" ++ mailbox ++ lit "\" " ++ text))
      finish session

def namespaceEnter : Worker Int := do
  say (.untagged (lit "NAMESPACE ((\"\" \"/\")) ((\"#Users\" \"/\")) ((\"#Public\" \"/\"))"))
  finish session

end Workers

end Dbmail.Imap
