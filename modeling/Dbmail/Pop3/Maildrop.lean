import Dbmail.Client.Services
import Dbmail.Lib.NumberSet
import Dbmail.Lib.Run
import Dbmail.Mailbox.Tables

/-!
Contract: the maildrop of an authenticated POP3 session.

Owns `db_createsession`, the commands of `pop3` in the transaction state,
`pop3_close` (`pop3.c`) and `db_update_pop` (`dm_db.c`); the marks that a history
of commands leaves on the messages; and what the session and the tables show of
these marks.

Does not own: authentication, the text of a message, which the environment
gives, or the recalculation of the quota.
-/

namespace Dbmail.Pop3

open Dbmail.Lib Dbmail.Mailbox Dbmail.Client List Bool

/-! ## The session -/

/-- `struct message`. -/
structure Message where
  messageid : Nat
  realmessageid : Nat
  msize : Nat
  messagestatus : MessageStatus
  virtualMessagestatus : MessageStatus
  uidl : Bytes
deriving DecidableEq

/-- The part of `ClientSession_T` that the commands use. -/
structure Session where
  username : Bytes
  messagelst : List Message
  totalsize : Nat
  virtualTotalsize : Nat
  totalmessages : Nat
  virtualTotalmessages : Nat
  errorCount : Nat

/-- The rows that `db_createsession` selects, in the order of their ids. -/
def maildrop (tables : Tables) (mailbox : Nat) : List (Nat × StoredMessage) :=
  (tables.messagesOf mailbox).filter fun entry => entry.2.status.live

/-- The loop of `db_createsession`, from `message_counter` on. -/
def fillList (uniqueId : Nat → Bytes) : Nat → List (Nat × StoredMessage) → List Message
  | _, [] => []
  | messageCounter, entry :: rest =>
    ⟨messageCounter, entry.1, entry.2.size, entry.2.status, entry.2.status, uniqueId entry.1⟩ ::
      fillList uniqueId (messageCounter + 1) rest

/-- `db_createsession`. -/
def createSession (tables : Tables) (mailbox : Nat) (uniqueId : Nat → Bytes) (username : Bytes) :
    Session :=
  let drop := maildrop tables mailbox
  let totalsize := (drop.map fun entry => entry.2.size).sum
  ⟨username, fillList uniqueId 1 drop, totalsize, totalsize, drop.length, drop.length, 0⟩

/-! ## The commands -/

/-- What a command meets: whether a write fails, what `ci_write` returns, what
`db_get_message_lines` gives for a message and a number of lines, for which messages the
UPDATE of `db_update_pop` fails, and whether the quota is rebuilt afterwards. -/
structure Met where
  clientError : Bool := false
  written : Int := 1
  lines : Nat → Int → Option Bytes := fun _ _ => some []
  updateFails : Nat → Bool := fun _ => false
  quotaRebuilt : Bool := true

/-- The result of `pop3`: at most 0 ends the session. -/
structure Outcome where
  tables : Tables
  session : Session
  reply : Bytes
  result : Int

section Commands

variable (tables : Tables) (session : Session) (met : Met)

/-- `pop3_error` for a text that is already printed: it is the format of `ci_write`. -/
def popError (text : Bytes) : Except Fault Outcome :=
  if 3 ≤ session.errorCount then .ok ⟨tables, session, lit "-ERR too many errors\r\n", -3⟩
  else do
    let written ← formatted text []
    if met.clientError then return ⟨tables, session, written, -3⟩
    else return ⟨tables, { session with errorCount := session.errorCount + 1 }, written, 1⟩

def noSuchMessage (value : Bytes) : Except Fault Outcome :=
  popError tables session met (lit "-ERR [" ++ value ++ lit "] no such message\r\n")

def Message.selected (number : Nat) (message : Message) : Bool :=
  message.messageid = number && message.virtualMessagestatus.live

def changeFirst {α : Type} (test : α → Bool) (change : α → α) : List α → List α
  | [] => []
  | head :: tail => if test head then change head :: tail else head :: changeFirst test change tail

def octets (session : Session) : Bytes :=
  lit "+OK " ++ digits session.virtualTotalmessages ++ lit " messages (" ++
    digits session.virtualTotalsize ++ lit " octets)\r\n"

def listing (heading : Bytes) (shown : Message → Bytes) (value : Option Bytes) :
    Except Fault Outcome :=
  match value with
  | some value =>
    let found := session.messagelst.filter (Message.selected (strtoul value).1)
    if found = [] then noSuchMessage tables session met value
    else .ok ⟨tables, session, found.flatMap fun message => lit "+OK " ++ shown message, 1⟩
  | none =>
    let listed := if 0 < session.virtualTotalmessages then
      session.messagelst.filter fun message => message.virtualMessagestatus.live else []
    .ok ⟨tables, session, heading ++ listed.flatMap shown ++ lit ".\r\n", 1⟩

def numberAnd (text : Message → Bytes) (message : Message) : Bytes :=
  digits message.messageid ++ lit " " ++ text message ++ lit "\r\n"

def retr (value : Bytes) : Except Fault Outcome :=
  let selected := Message.selected (strtoul value).1
  match session.messagelst.find? selected with
  | none => noSuchMessage tables session met value
  | some message =>
    let seen := { session with
      messagelst := changeFirst selected
        (fun message => { message with virtualMessagestatus := .seen }) session.messagelst }
    match met.lines message.realmessageid (-2) with
    | none => .ok ⟨tables, seen, [], -1⟩
    | some lines =>
      .ok ⟨tables, seen, lit "+OK " ++ digits lines.length ++ lit " octets\r\n" ++ lines ++
        lit "\r\n.\r\n", 1⟩

def dele (value : Bytes) : Except Fault Outcome :=
  let selected := Message.selected (strtoul value).1
  match session.messagelst.find? selected with
  | none => noSuchMessage tables session met value
  | some message =>
    .ok ⟨tables,
      { session with
        messagelst := changeFirst selected
          (fun message => { message with virtualMessagestatus := .delete }) session.messagelst
        virtualTotalsize := session.virtualTotalsize - message.msize
        virtualTotalmessages := session.virtualTotalmessages - 1 },
      lit "+OK message " ++ digits message.messageid ++ lit " deleted\r\n", 1⟩

def rset : Outcome :=
  let reset := { session with
    virtualTotalsize := session.totalsize
    virtualTotalmessages := session.totalmessages
    messagelst := session.messagelst.map fun message =>
      { message with virtualMessagestatus := message.messagestatus } }
  ⟨tables, reset, octets reset, 1⟩

def last : Outcome :=
  let number := match session.messagelst.find? fun message =>
      message.virtualMessagestatus = .new with
    | some message => message.messageid - 1
    | none => session.virtualTotalmessages
  ⟨tables, session, lit "+OK " ++ digits number ++ lit "\r\n", 1⟩

/-- A `uint64_t` passed as a `long`. -/
def toLong (number : Nat) : Int := if number < 2 ^ 63 then number else (number : Int) - 2 ^ 64

/-- TOP. The result is that of `ci_write`. -/
def top (value : Bytes) : Except Fault Outcome :=
  if 32 ∉ value then popError tables session met (lit "-ERR your command does not compute\r\n")
  else
    let number := value.takeWhile (· ≠ 32)
    let lines := value.drop (number.length + 1)
    if !lines.all isDigit || !number.all isDigit || (strtoul number).1 < 1 then
      popError tables session met (lit "-ERR wrong parameter\r\n")
    else match session.messagelst.find? (Message.selected (strtoul number).1) with
      | none => popError tables session met (lit "-ERR no such message\r\n")
      | some message =>
        match met.lines message.realmessageid (toLong (strtoul lines).1) with
        | none => .ok ⟨tables, session, [], -1⟩
        | some text =>
          .ok ⟨tables, session, lit "+OK " ++ digits (strtoul lines).1 ++ lit " lines of message " ++
            digits message.messageid ++ lit "\r\n" ++ text ++ lit "\r\n.\r\n", met.written⟩

/-- The UPDATE of `db_update_pop` for one message. -/
def updateStatus (tables : Tables) (message : Message) : Tables :=
  tables.update (fun id row => id = message.realmessageid && row.status.live)
    fun row => { row with status := message.virtualMessagestatus }

def changedMessages (session : Session) : List Message :=
  session.messagelst.filter fun message => message.virtualMessagestatus ≠ message.messagestatus

/-- `db_update_pop`, and whether it succeeds. `db_exec` catches the exception of a failing
statement, and nobody looks at its result: the loop goes on with the next message. -/
def updatePop : Tables × Bool :=
  let changed := changedMessages session
  ((changed.filter fun message => !met.updateFails message.realmessageid).foldl updateStatus tables,
    changed = [] || met.quotaRebuilt)

/-- QUIT, with `pop3_close`. -/
def quit : Outcome :=
  let updated := updatePop tables session met
  ⟨updated.1, session, if updated.2 then lit "+OK see ya later\r\n"
    else lit "-ERR some deleted messages not removed\r\n", 0⟩

/-- `pop3` in the state `CLIENTSTATE_AUTHENTICATED`. -/
def pop3Transaction (ssl : Bool) (input : Bytes) : Except Fault Outcome :=
  let line := commandLine input
  let value := lineValue line
  let wrongMode := popError tables session met (lit "-ERR wrong command mode\r\n")
  let bare := popError tables session met (lit "-ERR your command does not compute\r\n")
  if line = [] then .ok ⟨tables, session, [], 1⟩
  else match pop3Command line with
    | none =>
      if value = none then bare
      else popError tables session met (lit "-ERR command not understood\r\n")
    | some .quit => .ok (quit tables session met)
    | some .list =>
      listing tables session met (octets session) (numberAnd fun message => digits message.msize)
        value
    | some .stat =>
      .ok ⟨tables, session, lit "+OK " ++ digits session.virtualTotalmessages ++ lit " " ++
        digits session.virtualTotalsize ++ lit "\r\n", 1⟩
    | some .retr => value.elim bare (retr tables session met)
    | some .dele => value.elim bare (dele tables session met)
    | some .rset => .ok (rset tables session)
    | some .last => .ok (last tables session)
    | some .noop => .ok ⟨tables, session, lit "+OK\r\n", 1⟩
    | some .uidl =>
      listing tables session met (lit "+OK Some very unique numbers for you\r\n")
        (numberAnd Message.uidl) value
    | some .top => value.elim bare (top tables session met)
    | some .capa =>
      .ok ⟨tables, session, lit "+OK Capability list follows\r\nTOP\r\nUSER\r\nUIDL" ++
        (if ssl then lit "\r\nSTLS" else []) ++ lit "\r\n.\r\n", 1⟩
    | some .user | some .pass | some .apop => value.elim bare fun _ => wrongMode
    | some .auth | some .stls => wrongMode

end Commands

/-! ## Runs -/

/-- What happens to the server of one session: a line of the client, the end of the
connection, or a change of the tables by others. -/
inductive Event where
  | line (input : Bytes) (met : Met)
  | hangup
  | change (tables : Tables)

/-- The tables, the session as long as it lasts, and what the last event has it answer. -/
structure Server where
  tables : Tables
  session : Option Session
  reply : Bytes := []

def serverStep (ssl : Bool) (server : Server) : Event → Except Fault Server
  | .line input met =>
    match server.session with
    | none => .ok { server with reply := [] }
    | some session => do
      let outcome ← pop3Transaction server.tables session met ssl input
      return ⟨outcome.tables, if outcome.result ≤ 0 then none else some outcome.session,
        outcome.reply⟩
  | .hangup => .ok ⟨server.tables, none, []⟩
  | .change tables => .ok ⟨tables, server.session, []⟩

/-! ## Marks -/

structure Marks where
  deleted : Nat → Bool
  retrieved : Nat → Bool

def Marks.none : Marks := ⟨fun _ => false, fun _ => false⟩

def Marks.status (marks : Marks) (number : Nat) (status : MessageStatus) : MessageStatus :=
  if marks.deleted number then .delete else if marks.retrieved number then .seen else status

def Marks.names (marks : Marks) (count number : Nat) : Bool :=
  1 ≤ number && number ≤ count && !marks.deleted number

/-- What a line does to the marks of a maildrop of so many messages. -/
def Marks.line (marks : Marks) (count : Nat) (input : Bytes) : Marks :=
  let number := (strtoul ((lineValue (commandLine input)).getD [])).1
  match pop3Command (commandLine input) with
  | some .dele =>
    if marks.names count number && (lineValue (commandLine input)).isSome then
      { marks with deleted := Function.update marks.deleted number true }
    else marks
  | some .retr =>
    if marks.names count number && (lineValue (commandLine input)).isSome then
      { marks with retrieved := Function.update marks.retrieved number true }
    else marks
  | some .rset => .none
  | _ => marks

def Marks.event (count : Nat) (marks : Marks) : Event → Marks
  | .line input _ => marks.line count input
  | .hangup | .change _ => marks

def marksAfter (count : Nat) (events : List Event) : Marks := events.foldl (Marks.event count) .none

/-- A line that the server can answer: if LIST, UIDL, RETR or DELE name no message that stands,
the percent signs of their argument come in pairs. -/
def Answerable (count : Nat) (marks : Marks) : Event → Bool
  | .line input _ =>
    match pop3Command (commandLine input), lineValue (commandLine input) with
    | some .list, some value | some .uidl, some value
    | some .retr, some value | some .dele, some value =>
      marks.names count (strtoul value).1 || paired value
    | _, _ => true
  | .hangup | .change _ => true

def AllAnswerable (count : Nat) (marks : Marks) : List Event → Bool
  | [] => true
  | event :: rest => Answerable count marks event && AllAnswerable count (marks.event count event) rest

def numbered : Nat → List (Nat × StoredMessage) → List (Nat × Nat × StoredMessage)
  | _, [] => []
  | number, entry :: rest => (number, entry) :: numbered (number + 1) rest

def standing (marks : Marks) (drop : List (Nat × StoredMessage)) :
    List (Nat × Nat × StoredMessage) :=
  (numbered 1 drop).filter fun entry => !marks.deleted entry.1

def statReply (marks : Marks) (drop : List (Nat × StoredMessage)) : Bytes :=
  lit "+OK " ++ digits (standing marks drop).length ++ lit " " ++
    digits ((standing marks drop).map fun entry => entry.2.2.size).sum ++ lit "\r\n"

/-- The tables after QUIT: the messages of the maildrop have the status of their marks,
all others stay. -/
structure Committed (marks : Marks) (drop : List (Nat × StoredMessage)) (before after : Tables) :
    Prop where
  mailboxes : after.mailboxes = before.mailboxes
  marked : ∀ entry ∈ numbered 1 drop, after.messages.lookup entry.2.1 =
    (before.messages.lookup entry.2.1).map fun row =>
      { row with status := marks.status entry.1 row.status }
  others : ∀ id, (∀ entry ∈ drop, entry.1 ≠ id) →
    after.messages.lookup id = before.messages.lookup id

def Untouched (drop : List (Nat × StoredMessage)) (tables : Tables) : Prop :=
  ∀ entry ∈ drop, ∀ row, tables.messages.lookup entry.1 = some row → row.status = entry.2.status

/-- What an event may do to the server: STAT tells the messages not marked deleted and their
size, QUIT writes the marks down if no statement fails and nobody else changed the messages, and
nothing else changes the tables. -/
def EventRight (drop : List (Nat × StoredMessage)) (marks : Marks) (server : Server)
    (event : Event) (after : Server) : Prop :=
  match event with
  | .change _ => True
  | .hangup => after.tables = server.tables
  | .line input met =>
    (pop3Command (commandLine input) ≠ some .quit → after.tables = server.tables) ∧
    (server.session = .none → after.tables = server.tables) ∧
    (server.session.isSome →
      (pop3Command (commandLine input) = some .stat → after.reply = statReply marks drop) ∧
      (pop3Command (commandLine input) = some .quit → (∀ id, met.updateFails id = false) →
        Untouched drop server.tables →
          after.session = .none ∧ Committed marks drop server.tables after.tables))

/-! ## A session follows the marks -/

theorem mem_numbered_range {first : Nat} {drop : List (Nat × StoredMessage)} {number : Nat} :
    number ∈ (numbered first drop).map Prod.fst ↔
      first ≤ number ∧ number < first + drop.length := by
  induction drop generalizing first with
  | nil => simp [numbered]
  | cons head tail ih =>
    simp only [numbered, map_cons, mem_cons, ih, length_cons]
    omega

theorem numbered_nodup (first : Nat) (drop : List (Nat × StoredMessage)) :
    ((numbered first drop).map Prod.fst).Nodup := by
  induction drop generalizing first with
  | nil => exact nodup_nil
  | cons head tail ih =>
    refine nodup_cons.mpr ⟨fun again => ?_, ih (first + 1)⟩
    have := (mem_numbered_range.mp again).1
    omega

theorem numbered_entries (first : Nat) (drop : List (Nat × StoredMessage)) :
    (numbered first drop).map Prod.snd = drop := by
  induction drop generalizing first with
  | nil => rfl
  | cons head tail ih =>
    rw [numbered, map_cons, ih]

theorem mem_of_numbered {first : Nat} {drop : List (Nat × StoredMessage)}
    {entry : Nat × Nat × StoredMessage} (inside : entry ∈ numbered first drop) : entry.2 ∈ drop := by
  rw [← numbered_entries first drop]
  exact mem_map_of_mem inside

def messageOf (uniqueId : Nat → Bytes) (marks : Marks) (entry : Nat × Nat × StoredMessage) :
    Message :=
  ⟨entry.1, entry.2.1, entry.2.2.size, entry.2.2.status, marks.status entry.1 entry.2.2.status,
    uniqueId entry.2.1⟩

theorem fillList_eq (uniqueId : Nat → Bytes) (first : Nat) (drop : List (Nat × StoredMessage)) :
    fillList uniqueId first drop = (numbered first drop).map (messageOf uniqueId .none) := by
  induction drop generalizing first with
  | nil => rfl
  | cons head tail ih =>
    rw [fillList, ih]
    rfl

theorem Marks.status_live {marks : Marks} {number : Nat} {status : MessageStatus}
    (live : status.live = true) : (marks.status number status).live = !marks.deleted number := by
  unfold Marks.status
  cases marks.deleted number with
  | true => rfl
  | false =>
    cases marks.retrieved number with
    | true => rfl
    | false => simpa using live

section List

variable {entries : List (Nat × Nat × StoredMessage)} {uniqueId : Nat → Bytes}
  {marks changed : Marks} {number : Nat}

theorem selected_messageOf {entry : Nat × Nat × StoredMessage}
    (live : entry.2.2.status.live = true) :
    (messageOf uniqueId marks entry).selected number =
      (decide (entry.1 = number) && !marks.deleted entry.1) := by
  unfold Message.selected messageOf
  rw [Marks.status_live live]

/-- A change of the message with a number is a change of its mark. -/
theorem changeFirst_messageOf (status : MessageStatus) (keys : (entries.map Prod.fst).Nodup)
    (live : ∀ entry ∈ entries, entry.2.2.status.live = true)
    (present : number ∈ entries.map Prod.fst) (standing : marks.deleted number = false)
    (others : ∀ other, other ≠ number → ∀ old, changed.status other old = marks.status other old)
    (marked : ∀ old, changed.status number old = status) :
    changeFirst (Message.selected number)
        (fun message => { message with virtualMessagestatus := status })
        (entries.map (messageOf uniqueId marks)) =
      entries.map (messageOf uniqueId changed) := by
  induction entries with
  | nil => cases present
  | cons head tail ih =>
    obtain ⟨apart, keysTail⟩ := nodup_cons.mp keys
    simp only [map_cons, changeFirst]
    rw [selected_messageOf (live head mem_cons_self)]
    by_cases here : head.1 = number
    · subst here
      have rest : tail.map (messageOf uniqueId marks) = tail.map (messageOf uniqueId changed) := by
        apply map_congr_left
        intro entry member
        have other : entry.1 ≠ head.1 := fun same => apart (same ▸ mem_map_of_mem member)
        simp [messageOf, others entry.1 other]
      rw [if_pos (by simp [standing]), rest]
      simp [messageOf, marked]
    · have further : number ∈ tail.map Prod.fst :=
        (mem_cons.mp present).resolve_left (Ne.symm here)
      have same : messageOf uniqueId changed head = messageOf uniqueId marks head := by
        simp [messageOf, others head.1 here]
      rw [if_neg (by simp [here]), same, ih keysTail
        (fun entry member => live entry (mem_cons_of_mem head member)) further]

/-- Deleting a message takes it and its size off the totals. -/
theorem filter_deleted (keys : (entries.map Prod.fst).Nodup) {entry : Nat × Nat × StoredMessage}
    (present : entry ∈ entries) (standing : marks.deleted entry.1 = false) :
    (entries.filter fun other => !Function.update marks.deleted entry.1 true other.1).length + 1 =
        (entries.filter fun other => !marks.deleted other.1).length ∧
      ((entries.filter fun other => !Function.update marks.deleted entry.1 true other.1).map
          fun other => other.2.2.size).sum + entry.2.2.size =
        ((entries.filter fun other => !marks.deleted other.1).map fun other => other.2.2.size).sum := by
  obtain ⟨front, back, rfl⟩ := append_of_mem present
  rw [map_append, map_cons, nodup_middle, nodup_cons, ← map_append] at keys
  have rest (part : List (Nat × Nat × StoredMessage)) (inside : part ⊆ front ++ back) :
      (part.filter fun other => !Function.update marks.deleted entry.1 true other.1) =
        part.filter fun other => !marks.deleted other.1 := by
    apply filter_congr
    intro other member
    have different : other.1 ≠ entry.1 :=
      fun same => keys.1 (same ▸ mem_map_of_mem (inside member))
    rw [Function.update_of_ne different]
  simp only [filter_append, filter_cons, standing,
    rest front (subset_append_left _ _), rest back (subset_append_right _ _)]
  simp
  omega

end List

structure Follows (drop : List (Nat × StoredMessage)) (uniqueId : Nat → Bytes) (marks : Marks)
    (session : Session) : Prop where
  messagelst : session.messagelst = (numbered 1 drop).map (messageOf uniqueId marks)
  totalmessages : session.totalmessages = drop.length
  totalsize : session.totalsize = (drop.map fun entry => entry.2.size).sum
  virtualTotalmessages : session.virtualTotalmessages = (standing marks drop).length
  virtualTotalsize : session.virtualTotalsize =
    ((standing marks drop).map fun entry => entry.2.2.size).sum

section Follow

variable {drop : List (Nat × StoredMessage)} {uniqueId : Nat → Bytes} {marks : Marks}
  {session : Session} {tables : Tables} {met : Met}

theorem standing_none : standing .none drop = numbered 1 drop := by
  simp [standing, Marks.none]

theorem numbered_length (first : Nat) : (numbered first drop).length = drop.length := by
  rw [← length_map Prod.snd, numbered_entries]

theorem numbered_sum (first : Nat) :
    ((numbered first drop).map fun entry => entry.2.2.size).sum =
      (drop.map fun entry => entry.2.size).sum := by
  have sizes : (numbered first drop).map (fun entry => entry.2.2.size) =
      ((numbered first drop).map Prod.snd).map fun entry => entry.2.size := by
    rw [map_map]
    rfl
  rw [sizes, numbered_entries]

theorem createSession_follows (mailbox : Nat) (username : Bytes) :
    Follows (maildrop tables mailbox) uniqueId .none
      (createSession tables mailbox uniqueId username) where
  messagelst := fillList_eq uniqueId 1 _
  totalmessages := rfl
  totalsize := rfl
  virtualTotalmessages := by rw [standing_none, numbered_length]; rfl
  virtualTotalsize := by rw [standing_none, numbered_sum]; rfl

/-- A command that is answered and leaves the tables alone. -/
def Keeps (drop : List (Nat × StoredMessage)) (uniqueId : Nat → Bytes) (marks : Marks)
    (tables : Tables) (outcome : Except Fault Outcome) : Prop :=
  ∃ after, outcome = .ok after ∧ Follows drop uniqueId marks after.session ∧ after.tables = tables

section Numbered

variable (follows : Follows drop uniqueId marks session)

include follows

/-- The count of errors is no part of the maildrop. -/
theorem Follows.popError {text : Bytes} (printable : paired text = true) :
    Keeps drop uniqueId marks tables (popError tables session met text) := by
  obtain ⟨written, printed⟩ := formatted_paired printable
  unfold Pop3.popError
  split
  · exact ⟨_, rfl, follows, rfl⟩
  · rw [printed]
    by_cases failed : met.clientError = true
    · exact ⟨⟨tables, session, written, -3⟩, by simp [failed, bind, Except.bind, pure, Except.pure],
        follows, rfl⟩
    · exact ⟨⟨tables, { session with errorCount := session.errorCount + 1 }, written, 1⟩,
        by simp [failed, bind, Except.bind, pure, Except.pure], { follows with }, rfl⟩

theorem Follows.noSuchMessage {value : Bytes} (printable : paired value = true) :
    Keeps drop uniqueId marks tables (noSuchMessage tables session met value) := by
  apply follows.popError
  rw [paired_append (by rw [paired_append (by decide +kernel)]; exact printable)]
  decide +kernel

theorem Follows.top (value : Bytes) :
    Keeps drop uniqueId marks tables (top tables session met value) := by
  unfold Pop3.top
  dsimp only
  split
  · exact follows.popError (by decide +kernel)
  split
  · exact follows.popError (by decide +kernel)
  split
  · exact follows.popError (by decide +kernel)
  · split <;> exact ⟨_, rfl, follows, rfl⟩

theorem Follows.rset : Keeps drop uniqueId .none tables (.ok (rset tables session)) := by
  refine ⟨_, rfl, ⟨?_, follows.totalmessages, follows.totalsize, ?_, ?_⟩, rfl⟩
  · show session.messagelst.map _ = _
    rw [follows.messagelst, map_map]
    rfl
  · rw [standing_none, numbered_length]
    exact follows.totalmessages
  · rw [standing_none, numbered_sum]
    exact follows.totalsize

end Numbered

theorem names_iff (number : Nat) :
    marks.names drop.length number = true ↔
      number ∈ (numbered 1 drop).map Prod.fst ∧ marks.deleted number = false := by
  unfold Marks.names
  rw [mem_numbered_range]
  simp only [and_eq_true, decide_eq_true_eq, not_eq_true']
  constructor
  all_goals
    rintro ⟨⟨low, high⟩, standing⟩
    exact ⟨⟨low, by omega⟩, standing⟩

variable (live : ∀ entry ∈ drop, entry.2.status.live = true)

include live

theorem numbered_live (first : Nat) :
    ∀ entry ∈ numbered first drop, entry.2.2.status.live = true := by
  intro entry member
  exact live entry.2 (mem_of_numbered member)

variable (follows : Follows drop uniqueId marks session)

include follows

/-- The message that a command names. -/
theorem Follows.find (number : Nat) :
    match session.messagelst.find? (Message.selected number) with
    | none => marks.names drop.length number = false
    | some message => marks.names drop.length number = true ∧ marks.deleted number = false ∧
        ∃ entry ∈ numbered 1 drop, entry.1 = number ∧ message = messageOf uniqueId marks entry := by
  rw [follows.messagelst]
  cases found : ((numbered 1 drop).map (messageOf uniqueId marks)).find? (Message.selected number) with
  | none =>
    refine eq_false_iff.mpr fun named => ?_
    obtain ⟨member, standing⟩ := (names_iff number).mp named
    obtain ⟨entry, inside, rfl⟩ := mem_map.mp member
    have notSelected := List.find?_eq_none.mp found _ (mem_map_of_mem inside)
    rw [selected_messageOf (numbered_live live 1 entry inside), standing] at notSelected
    simp at notSelected
  | some message =>
    obtain ⟨entry, inside, rfl⟩ := mem_map.mp (mem_of_find?_eq_some found)
    have selected := List.find?_some found
    rw [selected_messageOf (numbered_live live 1 entry inside), and_eq_true, decide_eq_true_eq,
      not_eq_true'] at selected
    obtain ⟨rfl, standing⟩ := selected
    exact ⟨(names_iff _).mpr ⟨mem_map_of_mem inside, standing⟩, standing, entry, inside, rfl, rfl⟩

/-- A listing finds the message that it names. -/
theorem Follows.listing (heading : Bytes) (shown : Message → Bytes) (value : Option Bytes)
    (answerable : ∀ text, value = some text →
      (marks.names drop.length (strtoul text).1 || paired text) = true) :
    Keeps drop uniqueId marks tables (listing tables session met heading shown value) := by
  unfold Pop3.listing
  cases value with
  | none => exact ⟨_, rfl, follows, rfl⟩
  | some text =>
    have found := follows.find live (strtoul text).1
    dsimp only
    by_cases missing : session.messagelst.filter (Message.selected (strtoul text).1) = []
    · have unnamed : session.messagelst.find? (Message.selected (strtoul text).1) = none :=
        List.find?_eq_none.mpr (filter_eq_nil_iff.mp missing)
      rw [unnamed] at found
      dsimp only at found
      rw [if_pos missing]
      exact follows.noSuchMessage (by simpa [found] using answerable text rfl)
    · rw [if_neg missing]
      exact ⟨_, rfl, follows, rfl⟩

/-- A command that sets the mark of the message with a number. -/
theorem Follows.marked {number : Nat}
    {status : MessageStatus} {changed : Marks} (named : marks.names drop.length number = true)
    (others : ∀ other, other ≠ number → ∀ old, changed.status other old = marks.status other old)
    (marked : ∀ old, changed.status number old = status) :
    changeFirst (Message.selected number)
        (fun message => { message with virtualMessagestatus := status }) session.messagelst =
      (numbered 1 drop).map (messageOf uniqueId changed) := by
  obtain ⟨present, standing⟩ := (names_iff number).mp named
  rw [follows.messagelst]
  exact changeFirst_messageOf status (numbered_nodup 1 drop) (numbered_live live 1) present standing
    others marked

theorem Follows.dele (value : Bytes)
    (answerable : (marks.names drop.length (strtoul value).1 || paired value) = true) :
    Keeps drop uniqueId
      (if marks.names drop.length (strtoul value).1 then
        { marks with deleted := Function.update marks.deleted (strtoul value).1 true } else marks)
      tables (dele tables session met value) := by
  have found := follows.find live (strtoul value).1
  unfold Pop3.dele
  dsimp only
  split at found
  · rw [found] at answerable ⊢
    exact follows.noSuchMessage answerable
  · obtain ⟨named, standing, entry, inside, same, rfl⟩ := found
    rw [if_pos named]
    generalize (strtoul value).1 = number at same standing named ⊢
    subst same
    obtain ⟨lengths, sums⟩ := filter_deleted (numbered_nodup 1 drop) inside standing
    refine ⟨_, rfl, ⟨?_, follows.totalmessages, follows.totalsize, ?_, ?_⟩, rfl⟩
    · apply follows.marked live named
      · intro other different old
        simp [Marks.status, Function.update_of_ne different]
      · intro old
        simp [Marks.status]
    · rw [follows.virtualTotalmessages]
      exact Nat.sub_eq_of_eq_add lengths.symm
    · rw [follows.virtualTotalsize]
      exact Nat.sub_eq_of_eq_add sums.symm

theorem Follows.retr (value : Bytes)
    (answerable : (marks.names drop.length (strtoul value).1 || paired value) = true) :
    Keeps drop uniqueId
      (if marks.names drop.length (strtoul value).1 then
        { marks with retrieved := Function.update marks.retrieved (strtoul value).1 true } else marks)
      tables (retr tables session met value) := by
  have found := follows.find live (strtoul value).1
  unfold Pop3.retr
  dsimp only
  split at found
  · rw [found] at answerable ⊢
    exact follows.noSuchMessage answerable
  · obtain ⟨named, standing, -⟩ := found
    rw [if_pos named]
    generalize (strtoul value).1 = number at standing named ⊢
    have seen : _ = (numbered 1 drop).map (messageOf uniqueId
        { marks with retrieved := Function.update marks.retrieved number true }) :=
      follows.marked live named
        (fun other different old => by simp [Marks.status, Function.update_of_ne different])
        (fun old => show _ = MessageStatus.seen by simp [Marks.status, standing])
    split <;>
      exact ⟨_, rfl, ⟨seen, follows.totalmessages, follows.totalsize,
        follows.virtualTotalmessages, follows.virtualTotalsize⟩, rfl⟩

end Follow

/-! ## Lines -/

section Lines

variable {drop : List (Nat × StoredMessage)} {uniqueId : Nat → Bytes} {marks : Marks}
  {session : Session}

theorem pop3Command_nonempty {input : Bytes} {name : Pop3Command}
    (command : pop3Command (commandLine input) = some name) : commandLine input ≠ [] := by
  intro empty
  rw [empty] at command
  cases command

theorem pop3Transaction_quit (tables : Tables) (session : Session) (met : Met) (ssl : Bool)
    {input : Bytes} (quits : pop3Command (commandLine input) = some .quit) :
    pop3Transaction tables session met ssl input = .ok (quit tables session met) := by
  unfold pop3Transaction
  rw [if_neg (pop3Command_nonempty quits), quits]

/-- The session follows the marks of a line, and no line but QUIT changes the tables. -/
theorem Follows.line (live : ∀ entry ∈ drop, entry.2.status.live = true)
    (follows : Follows drop uniqueId marks session) (tables : Tables) (met : Met) (ssl : Bool)
    {input : Bytes} (answerable : Answerable drop.length marks (.line input met) = true)
    (stays : pop3Command (commandLine input) ≠ some .quit) :
    Keeps drop uniqueId (marks.line drop.length input) tables
      (pop3Transaction tables session met ssl input) := by
  unfold pop3Transaction Marks.line
  dsimp only [Answerable] at answerable
  by_cases empty : commandLine input = []
  · have unknown : pop3Command [] = none := by decide +kernel
    rw [empty]
    exact ⟨_, rfl, follows, rfl⟩
  rw [if_neg empty]
  have bare : paired (lit "-ERR your command does not compute\r\n") = true := by decide +kernel
  have wrongMode : paired (lit "-ERR wrong command mode\r\n") = true := by decide +kernel
  cases command : pop3Command (commandLine input) with
  | none =>
    dsimp only
    split
    · exact follows.popError bare
    · exact follows.popError (by decide +kernel)
  | some name =>
    rw [command] at answerable
    cases name with
    | quit => exact absurd command stays
    | stat | last | noop | capa => exact ⟨_, rfl, follows, rfl⟩
    | auth | stls => exact follows.popError wrongMode
    | list | uidl =>
      refine follows.listing live _ _ _ fun text given => ?_
      rw [given] at answerable
      exact answerable
    | rset => exact follows.rset
    | user | pass | apop =>
      cases lineValue (commandLine input) with
      | none => exact follows.popError bare
      | some value => exact follows.popError wrongMode
    | top =>
      cases lineValue (commandLine input) with
      | none => exact follows.popError bare
      | some value => exact follows.top value
    | dele =>
      cases given : lineValue (commandLine input) with
      | none => simpa using follows.popError bare
      | some value =>
        rw [given] at answerable
        simpa using follows.dele live value answerable
    | retr =>
      cases given : lineValue (commandLine input) with
      | none => simpa using follows.popError bare
      | some value =>
        rw [given] at answerable
        simpa using follows.retr live value answerable

end Lines

/-! ## Commands with a plain number -/

section Plain

variable {word : Bytes} (number : Nat)

theorem digits_ne_nil : digits number ≠ [] := by
  rw [digits_eq]
  exact fun none => Nat.toDigits_ne_nil (map_eq_nil_iff.mp none)

theorem commandLine_numbered (named : ∀ byte ∈ word, isSpace byte = false ∧ byte ≠ 0)
    (filled : word ≠ []) :
    commandLine (word ++ 32 :: digits number ++ lit "\r\n") = word ++ 32 :: digits number := by
  obtain ⟨first, rest, rfl⟩ := exists_cons_of_ne_nil filled
  obtain ⟨front, last, ends⟩ : ∃ front last, digits number = front ++ [last] :=
    ⟨_, _, (dropLast_concat_getLast (digits_ne_nil number)).symm⟩
  have isLast : isDigit last = true := isDigit_of_mem_digits (by rw [ends]; simp)
  have notSpace : isSpace last = false := by
    unfold isDigit at isLast
    unfold isSpace
    grind
  have notCrlf : (decide (last = 13) || decide (last = 10)) = false := by
    unfold isDigit at isLast
    grind
  have nulFree : (0 : UInt8) ∉ first :: rest ++ 32 :: digits number ++ lit "\r\n" := by
    intro nul
    simp only [mem_append, mem_cons] at nul
    obtain ((nul | nul) | nul | nul) | nul := nul
    · exact (named first mem_cons_self).2 nul.symm
    · exact (named 0 (mem_cons_of_mem first nul)).2 rfl
    · cases nul
    · exact absurd (isDigit_of_mem_digits nul) (by decide)
    · revert nul
      decide
  have stripped : stripCrlf (first :: rest ++ 32 :: digits number ++ lit "\r\n") =
      first :: (rest ++ 32 :: front ++ [last]) := by
    have crlf : lit "\r\n" = [13, 10] := by decide
    rw [ends, crlf]
    show first :: rdropWhile _ (rest ++ 32 :: (front ++ [last]) ++ [13, 10]) = _
    rw [show rest ++ 32 :: (front ++ [last]) ++ [13, 10] =
      rest ++ 32 :: front ++ [last] ++ [13] ++ [10] by simp]
    rw [rdropWhile_concat_pos _ _ _ (by rfl), rdropWhile_concat_pos _ _ _ (by rfl),
      rdropWhile_concat_neg _ _ _ (by simpa using notCrlf)]
  rw [commandLine, cstr_eq_self nulFree, stripped, gStrstrip, gStrchomp,
    show first :: (rest ++ 32 :: front ++ [last]) = (first :: (rest ++ 32 :: front)) ++ [last] by simp,
    rdropWhile_concat_neg _ _ _ (by simp [notSpace]), cons_append,
    dropWhile_cons_of_neg (by simp [(named first mem_cons_self).1]), ends]
  simp

theorem lineCommand_numbered (named : ∀ byte ∈ word, isSpace byte = false ∧ byte ≠ 0) :
    lineCommand (word ++ 32 :: digits number) = word := by
  unfold lineCommand
  rw [takeWhile_append_of_pos]
  · simp
  · intro byte member
    have other := (named byte member).1
    simp only [decide_eq_true_eq]
    rintro rfl
    cases other

theorem lineValue_numbered (named : ∀ byte ∈ word, isSpace byte = false ∧ byte ≠ 0) :
    lineValue (word ++ 32 :: digits number) = some (digits number) := by
  have behind : (word ++ 32 :: digits number).drop (word.length + 1) = digits number := by
    rw [← drop_drop, drop_left]
    rfl
  rw [lineValue, lineCommand_numbered number named, behind, if_neg (digits_ne_nil number)]

/-- The lines that a client writes for the message with a number mark that message. -/
theorem marks_numbered (marks : Marks) (count : Nat) (fits : number < 2 ^ 64) :
    marks.line count (lit "DELE" ++ 32 :: digits number ++ lit "\r\n") =
        (if marks.names count number then
          { marks with deleted := Function.update marks.deleted number true } else marks) ∧
      marks.line count (lit "RETR" ++ 32 :: digits number ++ lit "\r\n") =
        (if marks.names count number then
          { marks with retrieved := Function.update marks.retrieved number true } else marks) := by
  have read : (strtoul (digits number)).1 = number := by
    have onlyDigits : (digits number).all isDigit = true :=
      all_eq_true.mpr fun byte member => isDigit_of_mem_digits member
    rw [strtoul_digits onlyDigits, decimal_digits, if_neg (by omega)]
  have dele : ∀ byte ∈ lit "DELE", isSpace byte = false ∧ byte ≠ 0 := by decide +kernel
  have retr : ∀ byte ∈ lit "RETR", isSpace byte = false ∧ byte ≠ 0 := by decide +kernel
  constructor
  · rw [Marks.line, commandLine_numbered number dele (by decide), lineValue_numbered number dele,
      pop3Command, lineCommand_numbered number dele, Option.getD_some, read]
    have known : (pop3Commands.find? fun entry => strcasecmpEq (lit "DELE") entry.1).map Prod.snd =
        some .dele := by decide +kernel
    rw [known]
    simp
  · rw [Marks.line, commandLine_numbered number retr (by decide), lineValue_numbered number retr,
      pop3Command, lineCommand_numbered number retr, Option.getD_some, read]
    have known : (pop3Commands.find? fun entry => strcasecmpEq (lit "RETR") entry.1).map Prod.snd =
        some .retr := by decide +kernel
    rw [known]
    simp

end Plain

/-! ## The tables -/

section Commit

theorem lookup_updateStatus (tables : Tables) (message : Message) (id : Nat) :
    (updateStatus tables message).messages.lookup id =
      if id = message.realmessageid then
        (tables.messages.lookup id).map fun row =>
          if row.status.live then { row with status := message.virtualMessagestatus } else row
      else tables.messages.lookup id := by
  unfold updateStatus
  rw [Tables.lookup_update]
  by_cases here : id = message.realmessageid <;> simp [here]

/-- The messages of the list that have an id all say the same status. -/
theorem lookup_updates {messages : List Message} (tables : Tables) {id : Nat} {status : MessageStatus}
    (said : ∀ message ∈ messages, message.realmessageid = id →
      message.virtualMessagestatus = status) :
    (messages.foldl updateStatus tables).messages.lookup id =
      if ∃ message ∈ messages, message.realmessageid = id then
        (tables.messages.lookup id).map fun row =>
          if row.status.live then { row with status := status } else row
      else tables.messages.lookup id := by
  refine @foldl_seen _ _ _ updateStatus messages (·.messages.lookup id) _ (·.realmessageid = id) _
    ?_ ?_ tables
  · intro message member state
    rw [lookup_updateStatus]
    by_cases here : message.realmessageid = id
    · rw [if_pos here.symm, if_pos here, said message member here]
    · rw [if_neg (Ne.symm here), if_neg here]
  · intro seen
    cases seen with
    | none => rfl
    | some row => cases live : row.status.live <;> simp [live]

theorem mailboxes_updates (messages : List Message) (tables : Tables) :
    (messages.foldl updateStatus tables).mailboxes = tables.mailboxes := by
  induction messages generalizing tables with
  | nil => rfl
  | cons head tail ih =>
    rw [foldl_cons, ih]
    rfl

variable {drop : List (Nat × StoredMessage)} {uniqueId : Nat → Bytes} {marks : Marks}
  {session : Session}

theorem updates_committed (keys : (drop.map Prod.fst).Nodup)
    (live : ∀ entry ∈ drop, entry.2.status.live = true)
    (follows : Follows drop uniqueId marks session) {tables : Tables}
    (untouched : Untouched drop tables) :
    Committed marks drop tables ((changedMessages session).foldl updateStatus tables) := by
  have listed : changedMessages session = ((numbered 1 drop).map (messageOf uniqueId marks)).filter
      fun message => message.virtualMessagestatus ≠ message.messagestatus := by
    rw [← follows.messagelst]
    rfl
  have distinct : ((numbered 1 drop).map fun entry => entry.2.1).Nodup := by
    rw [← numbered_entries 1 drop, map_map] at keys
    exact keys
  have ofMember : ∀ message ∈ changedMessages session, ∃ entry ∈ numbered 1 drop,
      messageOf uniqueId marks entry = message := by
    intro message member
    rw [listed] at member
    exact mem_map.mp (mem_of_mem_filter member)
  refine ⟨mailboxes_updates _ _, ?_, ?_⟩
  · intro entry inside
    have inDrop := mem_of_numbered inside
    have said : ∀ message ∈ changedMessages session, message.realmessageid = entry.2.1 →
        message.virtualMessagestatus = marks.status entry.1 entry.2.2.status := by
      intro message member same
      obtain ⟨other, otherInside, rfl⟩ := ofMember message member
      rw [inj_on_of_nodup_map distinct otherInside inside same]
      rfl
    rw [lookup_updates tables said]
    cases found : tables.messages.lookup entry.2.1 with
    | none => simp
    | some row =>
      have same := untouched entry.2 inDrop row found
      split
      · simp [same, live entry.2 inDrop]
      · -- the mark is the status it has
        rename_i unlisted
        have changes : marks.status entry.1 entry.2.2.status = entry.2.2.status := by
          by_contra differs
          refine unlisted ⟨messageOf uniqueId marks entry, ?_, rfl⟩
          rw [listed, mem_filter]
          exact ⟨mem_map_of_mem inside, decide_eq_true differs⟩
        simp only [Option.map_some, same, changes]
        rw [← same]
  · intro id outside
    have unlisted : ∀ message ∈ changedMessages session, message.realmessageid ≠ id := by
      intro message member
      obtain ⟨entry, inside, rfl⟩ := ofMember message member
      exact outside entry.2 (mem_of_numbered inside)
    rw [@lookup_updates _ tables id .new fun message member same =>
      absurd same (unlisted message member), if_neg (by simpa using unlisted)]

end Commit

/-! ## Every history -/

section History

variable (tables : Tables) (mailbox : Nat) (uniqueId : Nat → Bytes) (username : Bytes)
  (ssl : Bool)

def loggedIn : Server := ⟨tables, some (createSession tables mailbox uniqueId username), []⟩

theorem maildrop_live : ∀ entry ∈ maildrop tables mailbox, entry.2.status.live = true :=
  fun _ member => (mem_filter.mp member).2

theorem maildrop_nodup : ((maildrop tables mailbox).map Prod.fst).Nodup := by
  have sorted : ((maildrop tables mailbox).map Prod.fst).Pairwise (· < ·) :=
    tables.messages.sorted.sublist ((filter_sublist.trans filter_sublist).map Prod.fst)
  exact sorted.imp Nat.ne_of_lt

variable {tables mailbox uniqueId} in
/-- An event that the server can answer leaves a session that follows the marks, as long as
it lasts. -/
theorem serverStep_follows {server : Server} {marks : Marks}
    (followed : ∀ session, server.session = some session →
      Follows (maildrop tables mailbox) uniqueId marks session) {event : Event}
    (answerable : Answerable (maildrop tables mailbox).length marks event = true) :
    ∃ after, serverStep ssl server event = .ok after ∧
      EventRight (maildrop tables mailbox) marks server event after ∧
      ∀ session, after.session = some session → Follows (maildrop tables mailbox) uniqueId
        (marks.event (maildrop tables mailbox).length event) session := by
  cases event with
  | hangup => exact ⟨_, rfl, rfl, nofun⟩
  | change other => exact ⟨_, rfl, trivial, followed⟩
  | line input met =>
    cases lasts : server.session with
    | none =>
      refine ⟨{ server with reply := [] }, by simp [serverStep, lasts], ⟨fun _ => rfl, fun _ => rfl, ?_⟩, ?_⟩
      · rw [lasts]
        nofun
      · simp [lasts]
    | some session =>
      have follows := followed session lasts
      by_cases quits : pop3Command (commandLine input) = some .quit
      · refine ⟨⟨(updatePop server.tables session met).1, none, (quit server.tables session met).reply⟩,
          ?_, ⟨fun stays => absurd quits stays, fun ended => ?_, fun _ => ⟨?_, ?_⟩⟩, nofun⟩
        · simp only [serverStep, lasts, pop3Transaction_quit _ _ _ _ quits]
          rfl
        · rw [lasts] at ended
          cases ended
        · intro stat
          rw [quits] at stat
          cases stat
        · intro _ succeeds untouched
          refine ⟨rfl, ?_⟩
          have written : changedMessages session = (changedMessages session).filter
              fun message => !met.updateFails message.realmessageid := by
            simp [succeeds]
          have committed := updates_committed (maildrop_nodup tables mailbox)
            (maildrop_live tables mailbox) follows untouched
          rwa [written] at committed
      · obtain ⟨after, answered, kept, same⟩ := follows.line (maildrop_live tables mailbox)
          server.tables met ssl answerable quits
        refine ⟨⟨after.tables, if after.result ≤ 0 then none else some after.session, after.reply⟩,
          ?_, ⟨fun _ => same, fun _ => same, fun _ => ⟨fun stat => ?_, fun quit => absurd quit quits⟩⟩,
          ?_⟩
        · simp only [serverStep, lasts, answered]
          rfl
        · unfold pop3Transaction at answered
          rw [if_neg (pop3Command_nonempty stat), stat] at answered
          cases answered
          show _ = statReply marks _
          rw [statReply, follows.virtualTotalmessages, follows.virtualTotalsize]
        · intro next ends
          dsimp only at ends
          split at ends
          · cases ends
          · cases ends
            exact kept

/-- A history that the server can answer. -/
theorem run_follows {server : Server} {marks : Marks}
    (followed : ∀ session, server.session = some session →
      Follows (maildrop tables mailbox) uniqueId marks session) {events : List Event}
    (answerable : AllAnswerable (maildrop tables mailbox).length marks events = true) :
    ∃ after, run (serverStep ssl) server events = .ok after ∧
      ∀ session, after.session = some session → Follows (maildrop tables mailbox) uniqueId
        (events.foldl (Marks.event (maildrop tables mailbox).length) marks) session := by
  induction events generalizing server marks with
  | nil => exact ⟨server, rfl, followed⟩
  | cons event rest ih =>
    obtain ⟨first, others⟩ := and_eq_true_iff.mp answerable
    obtain ⟨next, stepped, -, follows⟩ := serverStep_follows ssl followed first
    obtain ⟨after, ran, follow⟩ := ih follows others
    exact ⟨after, by simp only [run, stepped, ran], follow⟩

/-- After every history whose lines can be answered, every such event is answered and does what
it should: STAT tells the messages that are not marked deleted, QUIT writes the marks down, and
nothing else changes the tables. -/
theorem maildrop_kept (events : List Event) (event : Event)
    (history : AllAnswerable (maildrop tables mailbox).length .none events = true)
    (answerable : Answerable (maildrop tables mailbox).length
      (marksAfter (maildrop tables mailbox).length events) event = true) :
    ∃ server after, run (serverStep ssl) (loggedIn tables mailbox uniqueId username) events =
        .ok server ∧ serverStep ssl server event = .ok after ∧
      EventRight (maildrop tables mailbox) (marksAfter (maildrop tables mailbox).length events)
        server event after := by
  have login : ∀ session, (loggedIn tables mailbox uniqueId username).session = some session →
      Follows (maildrop tables mailbox) uniqueId .none session := by
    rintro session ⟨⟩
    exact createSession_follows mailbox username
  obtain ⟨server, ran, followed⟩ := run_follows tables mailbox uniqueId ssl login history
  obtain ⟨after, stepped, right, -⟩ := serverStep_follows ssl followed answerable
  exact ⟨server, after, ran, stepped, right⟩

/-- A conversion in an argument that names no message is printed, without an argument. -/
theorem dele_converts (met : Met) :
    serverStep ssl (loggedIn tables mailbox uniqueId username)
      (.line (lit "DELE %n\r\n") met) = .error .outOfBounds := by
  have follows := @createSession_follows uniqueId tables mailbox username
  have found := follows.find (maildrop_live tables mailbox) 0
  have line : commandLine (lit "DELE %n\r\n") = lit "DELE %n" := by decide +kernel
  have value : lineValue (lit "DELE %n") = some (lit "%n") := by decide +kernel
  have command : pop3Command (lit "DELE %n") = some .dele := by decide +kernel
  have number : (strtoul (lit "%n")).1 = 0 := by decide +kernel
  have text : formatted (lit "-ERR [" ++ lit "%n" ++ lit "] no such message\r\n") [] =
      .error .outOfBounds := by decide +kernel
  have missing : (createSession tables mailbox uniqueId username).messagelst.find?
      (Message.selected 0) = none := by
    split at found
    · assumption
    · cases found.1
  simp only [serverStep, loggedIn, pop3Transaction, line, command, value, Option.elim, dele, number,
    missing, noSuchMessage, popError, text]
  rfl

end History

def twoMessages : Tables :=
  { mailboxes := .empty
    messages := (KeyTree.empty.insert 7 ⟨5, .new, {}, 1, [], 33⟩).insert 9 ⟨5, .new, {}, 2, [], 44⟩ }

theorem dele_conversion :
    serverStep false (loggedIn twoMessages 5 (fun _ => []) (lit "jan"))
      (.line (lit "DELE %n\r\n") {}) = .error .outOfBounds :=
  dele_converts twoMessages 5 (fun _ => []) (lit "jan") false {}

/-- One message is deleted twice and the other retrieved, then the client quits. -/
theorem maildrop_kept_twoMessages :
    (maildrop twoMessages 5).map Prod.fst = [7, 9] ∧
    ∃ server after, run (serverStep false) (loggedIn twoMessages 5 (fun _ => []) (lit "jan"))
        [.line (lit "DELE 1\r\n") {}, .line (lit "DELE 1\r\n") {}, .line (lit "RETR 2\r\n") {}] =
        .ok server ∧ serverStep false server (.line (lit "QUIT\r\n") {}) = .ok after ∧
      EventRight (maildrop twoMessages 5) (marksAfter (maildrop twoMessages 5).length
        [.line (lit "DELE 1\r\n") {}, .line (lit "DELE 1\r\n") {}, .line (lit "RETR 2\r\n") {}])
        server (.line (lit "QUIT\r\n") {}) after :=
  ⟨by decide +kernel, maildrop_kept twoMessages 5 (fun _ => []) (lit "jan") false _ _
    (by decide +kernel) (by decide +kernel)⟩

end Dbmail.Pop3
