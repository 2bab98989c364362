import Dbmail.Delivery.Local

/-!
Contract: the delivery of one message to a list of recipients.

Owns `insert_messages`: the loop over the recipients and their local users, the
class of each recipient (`dsnuser_worstcase_int`), `send_forward_list`, what a
delivery to a mailbox does to the tables, and what the class of a recipient says
about the deliveries behind it.

Does not own: the resolution of an address to users and forwards, and the
programs that mail is piped to.
-/

namespace Dbmail.Delivery

open Dbmail.Lib Dbmail.Mailbox List

/-! ## Recipients -/

/-- `delivery_status_t`. -/
structure Dsn where
  cls : DsnClass
  subject : Nat
  detail : Nat
deriving DecidableEq, Repr

/-- `Delivery_T`, with the status that the resolution of its address has set. An
unset forward target is an empty one. -/
structure Dsnuser where
  destination : Destination
  users : List UserTurn
  forwards : List Bytes
  dsn : Dsn

def dsnuserWorstcaseInt (ok temp fail failQuota : Bool) : DsnClass :=
  if temp then .temp
  else if fail then .fail
  else if failQuota then .quota
  else if ok then .ok
  else .none

/-! ## Forwards -/

/-- What is handed to `send_mail`: a command, with a `From` line in front of the
message or not, or an address. -/
inductive Outgoing where
  | pipe (command : Bytes) (fromLine : Option Bytes)
  | mail (target sender : Bytes)
deriving DecidableEq

/-- A delivery's settings, the `Return-Path` of the message and the results of
`send_mail`. -/
structure InsertWorld extends DeliveryWorld where
  quotaSoftfail : Bool
  postmaster : Bytes
  returnPath : Option Bytes
  sendMail : Outgoing → Int

def defaultPostmaster : Bytes := lit "DBMAIL-MAILER@dbmail"

variable (world : InsertWorld)

def InsertWorld.sender : Bytes :=
  match world.returnPath with
  | some path => path
  | none => if world.postmaster = [] then defaultPostmaster else world.postmaster

/-- The branches of `send_forward_list` for a target that is not empty. -/
def InsertWorld.outgoing : Bytes → Outgoing
  | 33 :: command => .pipe command (some (lit "From " ++ world.sender ++ lit "  "))
  | 124 :: command => .pipe command none
  | target => .mail target world.sender

/-- `send_forward_list` returns something other than zero. An empty target is passed over. -/
def sendForwardList (targets : List Bytes) : Bool :=
  targets.any fun target => target ≠ [] && world.sendMail (world.outgoing target) ≠ 0

/-! ## `insert_messages` -/

structure TurnReport (κ : Type) where
  turn : UserTurn
  cls : DsnClass
  copies : List κ

def deliverUsers {σ κ : Type} (deliver : σ → Request → σ × DsnClass × List κ)
    (world : DeliveryWorld) (destination : Destination) :
    σ → List UserTurn → σ × List (TurnReport κ)
  | store, [] => (store, [])
  | store, turn :: rest =>
    let delivered := sortAndDeliver deliver world store destination turn
    let later := deliverUsers deliver world destination delivered.1 rest
    (later.1, ⟨turn, delivered.2.1, delivered.2.2⟩ :: later.2)

theorem deliverUsers_turns {σ κ : Type} (deliver : σ → Request → σ × DsnClass × List κ)
    (world : DeliveryWorld) (destination : Destination) (store : σ) (users : List UserTurn) :
    (deliverUsers deliver world destination store users).2.map TurnReport.turn = users := by
  induction users generalizing store with
  | nil => rfl
  | cons turn rest ih =>
    rw [deliverUsers, map_cons, ih]

/-- The worst class of a list of results. What is not one of the known results counts
as temporary. -/
def worstClass (results : List DsnClass) : DsnClass :=
  dsnuserWorstcaseInt (results.any (· = .ok))
    (results.any fun cls => cls = .temp || cls = .none)
    (results.any (· = .fail)) (results.any (· = .quota))

def localDsn (delivery : Dsnuser) (results : List DsnClass) : Dsn :=
  match worstClass results with
  | .ok => ⟨.ok, 1, 5⟩
  | .temp => if delivery.forwards ≠ [] then ⟨.ok, 1, 5⟩ else ⟨.fail, 1, 1⟩
  | .fail => ⟨.fail, 1, 1⟩
  | .quota => if world.quotaSoftfail then ⟨.temp, 2, 2⟩ else ⟨.fail, 2, 2⟩
  | .none => delivery.dsn

def finalDsn (delivery : Dsnuser) (results : List DsnClass) : Dsn :=
  if delivery.forwards ≠ [] ∧ sendForwardList world delivery.forwards then ⟨.temp, 1, 1⟩
  else localDsn world delivery results

structure Report where
  delivery : Dsnuser
  turns : List (TurnReport Nat)
  dsn : Dsn

def deliverAll (world : InsertWorld) : Post → List Dsnuser → Post × List Report
  | post, [] => (post, [])
  | post, delivery :: rest =>
    let delivered := deliverUsers (sortDeliverToMailbox world.toDeliveryWorld)
      world.toDeliveryWorld delivery.destination post delivery.users
    let later := deliverAll world delivered.1 rest
    (later.1, ⟨delivery, delivered.2,
      finalDsn world delivery (delivered.2.map TurnReport.cls)⟩ :: later.2)

/-- What `insert_messages` returns and leaves behind. -/
structure Inserted where
  status : Int
  post : Post
  reports : List Report

/-- With the result of `dbmail_message_store` and the table after it.
The temporary message is deleted in the end. -/
def insertMessages (store : Int) (post : Post) (deliveries : List Dsnuser) : Inserted :=
  if store = -1 then ⟨store, post, []⟩
  else
    let delivered := deliverAll world post deliveries
    ⟨0, delivered.1.delete post.msgIdnr, delivered.2⟩

/-! ## The requests of a turn -/

/-- The delivery that an action of a script asks for. -/
def SieveAction.request (user : Nat) : SieveAction → Option Request
  | .fileinto mailbox flaglist ran => some (fileintoRequest user mailbox flaglist ran)
  | _ => none

/-- The deliveries to mailboxes that a turn can come to. -/
def requestsOf (world : DeliveryWorld) (destination : Destination) (turn : UserTurn) :
    List Request :=
  if destination.source = .bruteforce then [bruteRequest destination turn]
  else
    (if world.sieve then
      (turn.script.elim [] SieveRun.actions).filterMap (SieveAction.request turn.user)
    else []) ++ [keepRequest world destination turn]

section Simulation

variable {σ τ κ μ : Type} {deliver : σ → Request → σ × DsnClass × List κ}
  {other : τ → Request → τ × DsnClass × List μ}

/-- Two ways to deliver that agree on the classes of some requests and keep a relation
between the stores and the copies made so far. -/
def Simulates (deliver : σ → Request → σ × DsnClass × List κ)
    (other : τ → Request → τ × DsnClass × List μ)
    (related : σ → List κ → τ → List μ → Prop) (requests : List Request) : Prop :=
  ∀ store copies twin prints, ∀ request ∈ requests, related store copies twin prints →
    (deliver store request).2.1 = (other twin request).2.1 ∧
      related (deliver store request).1 (copies ++ (deliver store request).2.2)
        (other twin request).1 (prints ++ (other twin request).2.2)

variable {related : σ → List κ → τ → List μ → Prop} {requests : List Request}

def SortsAlike (related : σ → List κ → τ → List μ → Prop) (left : Sorting σ κ)
    (right : Sorting τ μ) : Prop :=
  related left.store left.copies right.store right.copies ∧ left.result = right.result

theorem sortActions_alike (simulates : Simulates deliver other related requests) (user : Nat)
    (actions : List SieveAction) {left : Sorting σ κ} {right : Sorting τ μ}
    (asked : ∀ request ∈ actions.filterMap (SieveAction.request user), request ∈ requests)
    (alike : SortsAlike related left right) :
    SortsAlike related (actions.foldl (sortAction deliver user) left)
      (actions.foldl (sortAction other user) right) := by
  induction actions generalizing left right with
  | nil => exact alike
  | cons action rest ih =>
    have later : ∀ request ∈ rest.filterMap (SieveAction.request user), request ∈ requests :=
      fun request member => asked request ((sublist_cons_self action rest).filterMap _ |>.subset
        member)
    refine ih later ?_
    obtain ⟨stores, results⟩ := alike
    cases action with
    | fileinto mailbox flaglist ran =>
      obtain ⟨classes, after⟩ := simulates _ _ _ _ (fileintoRequest user mailbox flaglist ran)
        (asked _ (by simp [SieveAction.request])) stores
      refine ⟨after, ?_⟩
      simp [sortAction, classes, results]
    | redirect sent =>
      cases sent with
      | true => exact ⟨stores, by simp [sortAction, results]⟩
      | false => exact ⟨stores, results⟩
    | discard | vacation => exact ⟨stores, by simp [sortAction, results]⟩
    | reject => exact ⟨stores, rfl⟩
    | notify => exact ⟨stores, results⟩

variable {world : DeliveryWorld} {destination : Destination} {turn : UserTurn} {store : σ}
  {twin : τ} (simulates : Simulates deliver other related (requestsOf world destination turn))
  (start : related store [] twin [])

include simulates start

theorem sorted_alike (sorts : destination.source ≠ .bruteforce) :
    SortsAlike related (sorted deliver world store turn) (sorted other world twin turn) := by
  have idle : SortsAlike related (⟨store, [], {}⟩ : Sorting σ κ) ⟨twin, [], {}⟩ := ⟨start, rfl⟩
  cases script : turn.script with
  | none => simpa only [sorted, script] using idle
  | some run =>
    cases enabled : world.sieve with
    | false => simpa only [sorted, script, enabled, Bool.false_eq_true, if_false] using idle
    | true =>
      have ran := sortActions_alike simulates turn.user run.actions
        (by
          intro request member
          rw [requestsOf, if_neg sorts, if_pos enabled, script]
          exact mem_append_left _ member) idle
      cases executed : run.executed with
      | true => simpa only [sorted, script, enabled, sortProcess, executed, if_true] using ran
      | false =>
        simp only [sorted, script, enabled, sortProcess, executed]
        exact ⟨ran.1, rfl⟩

theorem sortAndDeliver_alike :
    (sortAndDeliver deliver world store destination turn).2.1 =
        (sortAndDeliver other world twin destination turn).2.1 ∧
      related (sortAndDeliver deliver world store destination turn).1
        (sortAndDeliver deliver world store destination turn).2.2
        (sortAndDeliver other world twin destination turn).1
        (sortAndDeliver other world twin destination turn).2.2 := by
  by_cases forced : destination.source = .bruteforce
  · have asked : bruteRequest destination turn ∈ requestsOf world destination turn := by
      simp [requestsOf, forced]
    simpa [sortAndDeliver, forced] using simulates _ _ _ _ _ asked start
  · have asked : keepRequest world destination turn ∈ requestsOf world destination turn := by
      simp [requestsOf, forced]
    obtain ⟨stores, results⟩ := sorted_alike simulates start forced
    obtain ⟨classes, later⟩ := simulates _ _ _ _ _ asked stores
    unfold sortAndDeliver
    rw [if_neg forced, if_neg forced]
    dsimp only
    rw [results]
    cases (sorted other world twin turn).result.cancelkeep with
    | true => exact ⟨rfl, by simpa using stores⟩
    | false => exact ⟨by simp only [Bool.false_eq_true, if_false, classes], by simpa using later⟩

end Simulation

/-- What every request of a turn keeps, the turn keeps. -/
theorem sortAndDeliver_keeps {σ κ : Type} {deliver : σ → Request → σ × DsnClass × List κ}
    {world : DeliveryWorld} {destination : Destination} {turn : UserTurn} {store : σ}
    (holds : σ → List κ → Prop)
    (kept : ∀ store copies, ∀ request ∈ requestsOf world destination turn, holds store copies →
      holds (deliver store request).1 (copies ++ (deliver store request).2.2))
    (start : holds store []) :
    holds (sortAndDeliver deliver world store destination turn).1
      (sortAndDeliver deliver world store destination turn).2.2 := by
  have simulates : Simulates deliver deliver
      (fun store copies twin prints => (twin = store ∧ prints = copies) ∧ holds store copies)
      (requestsOf world destination turn) := by
    rintro store copies _ _ request member ⟨⟨rfl, rfl⟩, held⟩
    exact ⟨rfl, ⟨rfl, rfl⟩, kept _ _ request member held⟩
  exact (sortAndDeliver_alike simulates ⟨⟨rfl, rfl⟩, start⟩).2.2

/-! ## What a delivery does to the tables -/

/-- The later table has the rows of the earlier one and others with new ids. -/
def Extends (post later : Post) : Prop :=
  post.nextId ≤ later.nextId ∧ ∀ id < post.nextId, later.messages id = post.messages id

theorem Extends.refl (post : Post) : Extends post post := ⟨Nat.le_refl _, fun _ _ => rfl⟩

theorem Extends.trans {post later last : Post} (first : Extends post later)
    (second : Extends later last) : Extends post last :=
  ⟨Nat.le_trans first.1 second.1, fun id below =>
    (second.2 id (Nat.lt_of_lt_of_le below first.1)).trans (first.2 id below)⟩

theorem Post.below {post : Post} {id : Nat} {row : Stored} (found : post.messages id = some row) :
    id < post.nextId := by
  by_contra beyond
  rw [post.fresh id (by omega)] at found
  cases found

theorem Extends.row {post later : Post} (extended : Extends post later) {id : Nat} {row : Stored}
    (found : post.messages id = some row) : later.messages id = some row :=
  (extended.2 id (Post.below found)).trans found

/-- What the copy at the end of a delivery can do: it inserts a row or not, and the message to
copy from stays, is the new row, or is lost behind an insert that failed unnoticed. -/
inductive CopyEffect (post : Post) (mailbox : Nat) (request : Request) :
    Post × DsnClass × List Nat → Prop
  | idle {after : Post} {cls : DsnClass} (messages : after.messages = post.messages)
      (next : after.nextId = post.nextId)
      (others : ∀ other, other ≠ request.user → after.curmail other = post.curmail other)
      (source : after.source = post.source ∧ cls ≠ .ok ∨
        after.source = none ∧ cls = .ok ∧ request.ran.inserts = false) :
      CopyEffect post mailbox request (after, cls, [])
  | added {after : Post} {cls : DsnClass} {row new : Stored} (found : post.source = some row)
      (messages : after.messages = Function.update post.messages post.nextId (some new))
      (next : after.nextId = post.nextId + 1)
      (others : ∀ other, other ≠ request.user → after.curmail other = post.curmail other)
      (source : after.source = some row ∧ cls ≠ .ok ∧ new = row.copied request.ran mailbox ∨
        after.source = some new ∧ cls = .ok ∧
          new = (row.copied request.ran mailbox).marked request.marks request.ran) :
      CopyEffect post mailbox request (after, cls, [post.nextId])

theorem dmQuotaUserInc_others (post : Post) (ran : Statements) {user other : Nat}
    (different : other ≠ user) (size : Nat) :
    (dmQuotaUserInc post ran user size).2 other = post.curmail other := by
  unfold dmQuotaUserInc
  split
  · rfl
  · split_ifs
    · rfl
    · exact Function.update_of_ne different _ _
    · rfl

theorem copyToMailbox_effect (world : DeliveryWorld) (post : Post) (mailbox : Nat)
    (request : Request) :
    CopyEffect post mailbox request (copyToMailbox world post mailbox request) := by
  have refused : ∀ cls, cls ≠ DsnClass.ok → CopyEffect post mailbox request (post, cls, []) :=
    fun cls failed => .idle rfl rfl (fun _ _ => rfl) (.inl ⟨rfl, failed⟩)
  have others := fun other (different : other ≠ request.user) => dmQuotaUserInc_others post
    request.ran different (messageGetSize post world.toCopyTables request.ran post.msgIdnr)
  have unset : ∀ id, (if request.ran.insert then post.nextId else 0) = id →
      post.messages id = none := by
    rintro id rfl
    split
    · exact post.fresh _ le_rfl
    · exact post.zero
  unfold copyToMailbox dbCopymsg
  dsimp only
  cases found : if messageGetSize post world.toCopyTables request.ran post.msgIdnr = 0 then none
      else post.messages post.msgIdnr with
  | none => simpa [CopyRun.stored, post.zero] using refused .temp (by decide)
  | some row =>
    have isSource : post.source = some row := by
      split at found
      · cases found
      · exact found
    have old := Post.below isSource
    cases dmQuotaUserValidate post world.toCopyTables request.ran request.user
        (messageGetSize post world.toCopyTables request.ran post.msgIdnr) with
    | failed => simpa [CopyRun.stored, post.zero] using refused .temp (by decide)
    | exceeded => simpa [CopyRun.stored, post.zero] using refused .quota (by decide)
    | fits =>
      dsimp only
      generalize dmQuotaUserInc post request.ran request.user
        (messageGetSize post world.toCopyTables request.ran post.msgIdnr) = inc at others ⊢
      cases inserts : request.ran.inserts with
      | true =>
        have inserted : request.ran.insert = true := (Bool.and_eq_true_iff.mp inserts).1
        have new : ((post.add (row.copied request.ran mailbox)).counted inc.2).messages
            post.nextId = some (row.copied request.ran mailbox) := Function.update_self _ _ _
        simp only [inserted, if_true, CopyRun.stored, new, Option.isSome_some]
        by_cases failed : inc.1 = 0
        · simp only [failed, if_true]
          refine .added isSource rfl rfl others (.inl ⟨?_, by decide, rfl⟩)
          exact (Function.update_of_ne old.ne _ _).trans isSource
        · simp only [failed, if_false, CopyRun.adopt]
          refine .added isSource ?_ rfl others (.inr ⟨?_, rfl, rfl⟩)
          · simp only [Post.modify, new, Option.map_some]
            exact Function.update_idem _ _ _
          · simp [Post.source, Post.modify, new]
      | false =>
        have none := unset _ rfl
        simp only [Bool.false_eq_true, if_false, CopyRun.stored, Post.counted, none,
          Option.isSome_none]
        by_cases failed : inc.1 = 0
        · simp only [failed, if_true]
          exact .idle rfl rfl others (.inl ⟨rfl, by decide⟩)
        · simp only [failed, if_false, CopyRun.adopt]
          refine .idle ?_ rfl others (.inr ⟨?_, rfl, inserts⟩)
          · simp only [Post.modify]
            exact Function.update_eq_self_iff.mpr (by rw [none]; rfl)
          · simp [Post.source, Post.modify, none]

/-- The mailbox holds a message with the id of the one that is delivered. -/
def Holds (world : DeliveryWorld) (table : Post) (mailbox : Nat) : Prop :=
  ∃ id row, table.messages id = some row ∧ row.mailbox = mailbox ∧ row.status.live = true ∧
    world.hasMessageId row.physmessage = true

theorem dbMailboxHasMessageId_iff (world : DeliveryWorld) (table : Post) (ran : Statements)
    (mailbox : Nat) : dbMailboxHasMessageId world table ran mailbox = true ↔
      ran.duplicates = true ∧ Holds world table mailbox := by
  simp only [dbMailboxHasMessageId, Bool.and_eq_true, any_eq_true, mem_range, Option.any_eq_true,
    decide_eq_true_iff, and_assoc]
  refine and_congr_right fun _ => ⟨?_, ?_⟩
  · rintro ⟨id, -, row, found⟩
    exact ⟨id, row, found⟩
  · rintro ⟨id, row, found⟩
    exact ⟨id, Post.below found.1, row, found⟩

/-! ## Who has received the message -/

section Receipt

variable (world : DeliveryWorld) (start table : Post) (destination : Destination)

/-- A row other than the temporary one holds the message, in a mailbox that one of the requests
leads to. -/
def Landed (requests : List Request) (id : Nat) : Prop :=
  start.nextId ≤ id ∧ ∃ row original, table.messages id = some row ∧
    start.source = some original ∧ row.physmessage = original.physmessage ∧
      ∃ request ∈ requests, deliveryMailbox world request = .ok row.mailbox

/-- A mailbox that one of the requests leads to holds the message, and duplicates are not
wanted. -/
def Suppressed (requests : List Request) : Prop :=
  world.suppressDuplicates = true ∧ ∃ request ∈ requests, ∃ mailbox,
    deliveryMailbox world request = .ok mailbox ∧ Holds world table mailbox

/-- The user's script has discarded the message or sent it on. -/
def Disposed (turn : UserTurn) : Prop :=
  destination.source ≠ .bruteforce ∧ world.sieve = true ∧ ∃ script, turn.script = some script ∧
    script.executed = true ∧ (.discard ∈ script.actions ∨ .redirect true ∈ script.actions)

def Received (report : TurnReport Nat) : Prop :=
  (∃ id ∈ report.copies, Landed world start table (requestsOf world destination report.turn) id) ∨
    Disposed world destination report.turn ∨
      Suppressed world table (requestsOf world destination report.turn)

/-- No statement that inserts a copy fails. -/
def UserTurn.Inserts (turn : UserTurn) : Prop :=
  ∀ request ∈ requestsOf world destination turn, request.ran.inserts = true

/-- The tables in the course of the deliveries of a message: rows only come, and what is copied
has the physmessage that was stored. -/
structure Course : Prop where
  extended : Extends start table
  carries : ∀ row, table.source = some row →
    ∃ original, start.source = some original ∧ row.physmessage = original.physmessage

variable {world start table destination}

theorem Landed.mono {later : Post} (extended : Extends table later) {requests more : List Request}
    (subset : requests ⊆ more) {id : Nat} (landed : Landed world start table requests id) :
    Landed world start later more id := by
  obtain ⟨new, row, original, found, isOriginal, same, request, member, leads⟩ := landed
  exact ⟨new, row, original, extended.row found, isOriginal, same, request, subset member, leads⟩

theorem Suppressed.mono {later : Post} (extended : Extends table later)
    {requests more : List Request} (subset : requests ⊆ more)
    (suppressed : Suppressed world table requests) : Suppressed world later more := by
  obtain ⟨unwanted, request, member, mailbox, leads, id, row, found, held⟩ := suppressed
  exact ⟨unwanted, request, subset member, mailbox, leads, id, row, extended.row found, held⟩

theorem Received.mono {later : Post} (extended : Extends table later) {report : TurnReport Nat}
    (received : Received world start table destination report) :
    Received world start later destination report := by
  obtain ⟨id, member, landed⟩ | disposed | suppressed := received
  · exact .inl ⟨id, member, landed.mono extended (Subset.refl _)⟩
  · exact .inr (.inl disposed)
  · exact .inr (.inr (suppressed.mono extended (Subset.refl _)))

theorem CopyEffect.extends {mailbox : Nat} {request : Request}
    {result : Post × DsnClass × List Nat} (effect : CopyEffect table mailbox request result) :
    Extends table result.1 := by
  cases effect with
  | idle messages next => exact ⟨next.ge, fun id _ => by rw [messages]⟩
  | added found messages next =>
    refine ⟨by dsimp only; omega, fun id below => ?_⟩
    dsimp only
    rw [messages, Function.update_of_ne below.ne]

theorem Stored.marked_physmessage (row : Stored) (marks : Marks) (ran : Statements) :
    (row.marked marks ran).physmessage = row.physmessage ∧
      (row.marked marks ran).mailbox = row.mailbox ∧
        (row.marked marks ran).status = row.status := by
  unfold Stored.marked
  split <;> exact ⟨rfl, rfl, rfl⟩

variable (world) in
theorem sortDeliverToMailbox_extends (post : Post) (request : Request) :
    Extends post (sortDeliverToMailbox world post request).1 := by
  unfold sortDeliverToMailbox
  split
  · exact Extends.refl post
  · split
    · exact Extends.refl post
    · exact (copyToMailbox_effect world post _ request).extends

variable (trips : ∀ original, start.source = some original →
  intTrip original.physmessage = original.physmessage)

include trips in
/-- What a delivery to a mailbox inserts has landed. -/
theorem Course.deliver (course : Course start table) (request : Request) :
    Course start (sortDeliverToMailbox world table request).1 ∧
      ∀ id ∈ (sortDeliverToMailbox world table request).2.2,
        Landed world start (sortDeliverToMailbox world table request).1 [request] id := by
  have extended := course.extended.trans (sortDeliverToMailbox_extends world table request)
  unfold sortDeliverToMailbox at extended ⊢
  cases leads : deliveryMailbox world request with
  | error cls => exact ⟨course, nofun⟩
  | ok mailbox =>
    rw [leads] at extended
    dsimp only at extended ⊢
    split_ifs at extended ⊢ with suppressed
    · exact ⟨course, nofun⟩
    have effect := copyToMailbox_effect world table mailbox request
    generalize copyToMailbox world table mailbox request = result at effect extended ⊢
    cases effect with
    | idle messages next others source =>
      refine ⟨⟨extended, fun row found => ?_⟩, nofun⟩
      obtain ⟨same, -⟩ | ⟨lost, -⟩ := source
      · exact course.carries row (same ▸ found)
      · exact absurd (lost ▸ found) nofun
    | @added after cls row new found messages next others source =>
      obtain ⟨original, isOriginal, same⟩ := course.carries row found
      have copied : new.physmessage = original.physmessage ∧ new.mailbox = mailbox := by
        have trip : intTrip row.physmessage = original.physmessage := by
          rw [same, trips original isOriginal]
        obtain ⟨-, -, rfl⟩ | ⟨-, -, rfl⟩ := source
        · exact ⟨trip, rfl⟩
        · obtain ⟨physmessage, isMailbox, -⟩ := Stored.marked_physmessage
            (row.copied request.ran mailbox) request.marks request.ran
          exact ⟨physmessage.trans trip, isMailbox⟩
      refine ⟨⟨extended, fun last found => ?_⟩, fun id member => ?_⟩
      · obtain ⟨isRow, -⟩ | ⟨isNew, -⟩ := source
        · obtain rfl := Option.some.inj (isRow.symm.trans found)
          exact ⟨original, isOriginal, same⟩
        · obtain rfl := Option.some.inj (isNew.symm.trans found)
          exact ⟨original, isOriginal, copied.1⟩
      · obtain rfl := mem_singleton.mp member
        refine ⟨course.extended.1, new, original, ?_, isOriginal, copied.1, request,
          mem_singleton_self _, copied.2 ▸ leads⟩
        rw [messages, Function.update_self]

theorem deliveryMailbox_ne_ok {request : Request} {cls : DsnClass}
    (fails : deliveryMailbox world request = .error cls) : cls ≠ .ok := by
  rintro rfl
  have never : ∀ name source,
      postableMailbox world request.user name source ≠ .error (some .ok) := by
    intro name source
    unfold postableMailbox
    split
    · nofun
    · dsimp only
      split_ifs <;> nofun
  unfold deliveryMailbox at fails
  split at fails
  · cases fails
  · rename_i same
    cases fails
    exact never _ _ same
  · split at fails
    · cases fails
    split at fails
    · cases fails
    · rename_i same
      cases fails
      exact never _ _ same
    · cases fails

/-- A delivery that reports success has inserted a row, or there was one. -/
theorem sortDeliverToMailbox_ok {post : Post} {request : Request}
    (inserts : request.ran.inserts = true)
    (success : (sortDeliverToMailbox world post request).2.1 = .ok) :
    (sortDeliverToMailbox world post request).2.2 ≠ [] ∨
      Suppressed world (sortDeliverToMailbox world post request).1 [request] := by
  unfold sortDeliverToMailbox at success ⊢
  cases leads : deliveryMailbox world request with
  | error cls =>
    rw [leads] at success
    have never := deliveryMailbox_ne_ok leads
    exact absurd success never
  | ok mailbox =>
    rw [leads] at success
    dsimp only at success ⊢
    split_ifs at success ⊢ with suppressed
    · obtain ⟨unwanted, found⟩ := Bool.and_eq_true_iff.mp suppressed
      exact .inr ⟨unwanted, request, mem_singleton_self _, mailbox, leads,
        ((dbMailboxHasMessageId_iff world post request.ran mailbox).mp found).2⟩
    · have effect := copyToMailbox_effect world post mailbox request
      generalize copyToMailbox world post mailbox request = result at effect success ⊢
      cases effect with
      | idle messages next others source =>
        obtain ⟨-, failed⟩ | ⟨-, -, lost⟩ := source
        · exact absurd success failed
        · rw [inserts] at lost
          cases lost
      | added => exact .inl (cons_ne_nil _ _)

/-- A keep is cancelled for a reason. -/
def Settled (world : DeliveryWorld) (requests : List Request) (actions : List SieveAction)
    (sorting : Sorting Post Nat) : Prop :=
  sorting.result.cancelkeep = true → sorting.result.reject = true ∨ sorting.copies ≠ [] ∨
    (.discard ∈ actions ∨ .redirect true ∈ actions) ∨ Suppressed world sorting.store requests

theorem sortActions_settled {user : Nat} {requests : List Request} {actions : List SieveAction}
    (rest : List SieveAction) {sorting : Sorting Post Nat} (part : rest ⊆ actions)
    (asked : ∀ request ∈ rest.filterMap (SieveAction.request user),
      request ∈ requests ∧ request.ran.inserts = true)
    (settled : Settled world requests actions sorting) :
    Settled world requests actions
      (rest.foldl (sortAction (sortDeliverToMailbox world) user) sorting) := by
  induction rest generalizing sorting with
  | nil => exact settled
  | cons action rest ih =>
    obtain ⟨member, later⟩ := cons_subset.mp part
    refine ih later (fun request wanted => asked request
      ((sublist_cons_self action rest).filterMap _ |>.subset wanted)) ?_
    cases action with
    | fileinto mailbox flaglist ran =>
      intro cancels
      obtain ⟨inside, inserts⟩ := asked (fileintoRequest user mailbox flaglist ran)
        (by simp [SieveAction.request])
      obtain copies | suppressed := sortDeliverToMailbox_ok inserts (of_decide_eq_true cancels)
      · exact .inr (.inl fun none => copies (append_eq_nil_iff.mp none).2)
      · exact .inr (.inr (.inr (suppressed.mono (Extends.refl _) (by simpa using inside))))
    | redirect sent =>
      cases sent with
      | true => exact fun _ => .inr (.inr (.inl (.inr member)))
      | false => exact settled
    | discard => exact fun _ => .inr (.inr (.inl (.inl member)))
    | reject => exact fun _ => .inl rfl
    | vacation => exact nofun
    | notify => exact settled

/-- A user whose turn reports success has received the message. -/
theorem sortAndDeliver_ok {post : Post} {turn : UserTurn}
    (inserts : turn.Inserts world destination)
    (success : (sortAndDeliver (sortDeliverToMailbox world) world post destination turn).2.1 = .ok) :
    (sortAndDeliver (sortDeliverToMailbox world) world post destination turn).2.2 ≠ [] ∨
      Disposed world destination turn ∨
        Suppressed world
          (sortAndDeliver (sortDeliverToMailbox world) world post destination turn).1
          (requestsOf world destination turn) := by
  by_cases forced : destination.source = .bruteforce
  · have asked : bruteRequest destination turn ∈ requestsOf world destination turn := by
      simp [requestsOf, forced]
    unfold sortAndDeliver at success ⊢
    rw [if_pos forced] at success ⊢
    exact (sortDeliverToMailbox_ok (inserts _ asked) success).imp_right fun suppressed =>
      .inr (suppressed.mono (Extends.refl _) (by simpa using asked))
  have asked : keepRequest world destination turn ∈ requestsOf world destination turn := by
    simp [requestsOf, forced]
  unfold sortAndDeliver at success ⊢
  rw [if_neg forced] at success ⊢
  dsimp only at success ⊢
  cases cancels : (sorted (sortDeliverToMailbox world) world post turn).result.cancelkeep with
  | true =>
    rw [cancels] at success
    have accepted : (sorted (sortDeliverToMailbox world) world post turn).result.reject = false := by
      by_contra rejects
      simp [rejects] at success
    simp only [if_true, append_nil]
    unfold sorted at cancels accepted ⊢
    cases active : turn.script with
    | none => simp [active] at cancels
    | some script =>
      simp only [active] at cancels accepted ⊢
      split_ifs at cancels accepted ⊢ with enabled
      unfold sortProcess at cancels accepted ⊢
      dsimp only at cancels accepted ⊢
      split_ifs at cancels accepted ⊢ with executed
      have part : ∀ request ∈ script.actions.filterMap (SieveAction.request turn.user),
          request ∈ requestsOf world destination turn := by
        intro request member
        rw [requestsOf, if_neg forced, if_pos enabled, active]
        exact mem_append_left _ member
      have idle : Settled world (requestsOf world destination turn) script.actions
        ⟨post, [], {}⟩ := nofun
      obtain rejects | copies | disposed | suppressed := sortActions_settled script.actions
        (Subset.refl _) (fun request member => ⟨part request member, inserts _ (part _ member)⟩)
        idle cancels
      · rw [accepted] at rejects
        cases rejects
      · exact .inl copies
      · exact .inr (.inl ⟨forced, enabled, script, active, executed, disposed⟩)
      · exact .inr (.inr suppressed)
  | false =>
    rw [cancels] at success
    simp only [Bool.false_eq_true, if_false] at success ⊢
    have delivered : (sortDeliverToMailbox world
        (sorted (sortDeliverToMailbox world) world post turn).store
          (keepRequest world destination turn)).2.1 = .ok := by
      split at success
      · cases success
      · exact success
    obtain copies | suppressed := sortDeliverToMailbox_ok (inserts _ asked) delivered
    · exact .inl fun none => copies (append_eq_nil_iff.mp none).2
    · exact .inr (.inr (suppressed.mono (Extends.refl _) (by simpa using asked)))

include trips in
/-- A turn goes on with the course, and its copies have landed. -/
theorem Course.turn {turn : UserTurn} {delivered : Post × DsnClass × List Nat}
    (course : Course start table)
    (taken : sortAndDeliver (sortDeliverToMailbox world) world table destination turn = delivered) :
    Course start delivered.1 ∧ Extends table delivered.1 ∧ ∀ id ∈ delivered.2.2,
      Landed world start delivered.1 (requestsOf world destination turn) id := by
  subst taken
  refine sortAndDeliver_keeps (fun post copies => Course start post ∧ Extends table post ∧
    ∀ id ∈ copies, Landed world start post (requestsOf world destination turn) id) ?_
    ⟨course, Extends.refl table, nofun⟩
  rintro post copies request asked ⟨running, extended, landed⟩
  have more := sortDeliverToMailbox_extends world post request
  obtain ⟨next, new⟩ := @Course.deliver world start post trips running request
  refine ⟨next, extended.trans more, fun id member => ?_⟩
  obtain old | fresh := mem_append.mp member
  · exact (landed id old).mono more (Subset.refl _)
  · exact (new id fresh).mono (Extends.refl _) (by simpa using asked)

include trips in
theorem Course.users {users : List UserTurn} {delivered : Post × List (TurnReport Nat)}
    (course : Course start table)
    (taken : deliverUsers (sortDeliverToMailbox world) world destination table users = delivered) :
    Course start delivered.1 ∧ Extends table delivered.1 ∧ ∀ report ∈ delivered.2,
      report.turn.Inserts world destination → report.cls = .ok →
        Received world start delivered.1 destination report := by
  subst taken
  induction users generalizing table with
  | nil => exact ⟨course, Extends.refl table, fun _ member => absurd member not_mem_nil⟩
  | cons turn rest ih =>
    rw [deliverUsers]
    generalize taken : sortAndDeliver (sortDeliverToMailbox world) world table destination turn =
      delivered
    obtain ⟨next, extended, landed⟩ := course.turn trips taken
    obtain ⟨final, more, received⟩ := ih next
    refine ⟨final, extended.trans more, fun report member inserts success => ?_⟩
    obtain rfl | later := mem_cons.mp member
    · refine Received.mono more ?_
      subst taken
      obtain copies | disposed | suppressed := sortAndDeliver_ok inserts success
      · obtain ⟨id, inside⟩ := exists_mem_of_ne_nil _ copies
        exact .inl ⟨id, inside, landed id inside⟩
      · exact .inr (.inl disposed)
      · exact .inr (.inr suppressed)
    · exact received report later inserts success

include trips in
theorem Course.all {world : InsertWorld} (course : Course start table)
    (deliveries : List Dsnuser) :
    Extends table (deliverAll world table deliveries).1 ∧
      ∀ report ∈ (deliverAll world table deliveries).2, ∀ turn ∈ report.turns,
        turn.turn.Inserts world.toDeliveryWorld report.delivery.destination → turn.cls = .ok →
          Received world.toDeliveryWorld start (deliverAll world table deliveries).1
            report.delivery.destination turn := by
  induction deliveries generalizing table with
  | nil => exact ⟨Extends.refl table, fun _ member => absurd member not_mem_nil⟩
  | cons delivery rest ih =>
    rw [deliverAll]
    generalize taken : deliverUsers (sortDeliverToMailbox world.toDeliveryWorld)
      world.toDeliveryWorld delivery.destination table delivery.users = delivered
    obtain ⟨next, extended, received⟩ := course.users trips taken
    obtain ⟨more, others⟩ := ih next
    refine ⟨extended.trans more, fun report member turn inside inserts success => ?_⟩
    obtain rfl | later := mem_cons.mp member
    · exact (received turn inside inserts success).mono more
    · exact others report later turn inside inserts success

end Receipt

/-! ## What the class says -/

section Status

variable {κ : Type}

/-- Every local delivery reported success. -/
def AllOk (turns : List (TurnReport κ)) : Prop := ∀ turn ∈ turns, turn.cls = .ok

def SomeTemporary (turns : List (TurnReport κ)) : Prop :=
  ∃ turn ∈ turns, turn.cls = .temp ∨ turn.cls = .none

def SomePermanent (turns : List (TurnReport κ)) : Prop := ∃ turn ∈ turns, turn.cls = .fail

def SomeOverQuota (turns : List (TurnReport κ)) : Prop := ∃ turn ∈ turns, turn.cls = .quota

def Forwarded (targets : List Bytes) : Prop :=
  ∀ target ∈ targets, target ≠ [] → world.sendMail (world.outgoing target) = 0

theorem sendForwardList_eq_false_iff (targets : List Bytes) :
    sendForwardList world targets = false ↔ Forwarded world targets := by
  simp [sendForwardList, Forwarded]

variable {turns : List (TurnReport κ)}

theorem worstClass_eq_temp_iff :
    worstClass (turns.map TurnReport.cls) = .temp ↔ SomeTemporary turns := by
  unfold worstClass dsnuserWorstcaseInt
  split_ifs with temporary <;> simp_all [SomeTemporary]

theorem allOk_of_not (lasting : ¬ SomeTemporary turns) (notFailed : ¬ SomePermanent turns)
    (fits : ¬ SomeOverQuota turns) : AllOk turns := by
  intro turn member
  cases outcome : turn.cls with
  | ok => rfl
  | none => exact absurd ⟨turn, member, .inr outcome⟩ lasting
  | temp => exact absurd ⟨turn, member, .inl outcome⟩ lasting
  | fail => exact absurd ⟨turn, member, outcome⟩ notFailed
  | quota => exact absurd ⟨turn, member, outcome⟩ fits

theorem any_cls_iff (cls : DsnClass) :
    (turns.map TurnReport.cls).any (· = cls) = true ↔ ∃ turn ∈ turns, turn.cls = cls := by
  simp

/-- Without a temporary failure the class is that of the worst remaining result. -/
theorem worstClass_of_not_temporary (lasting : ¬ SomeTemporary turns) :
    (SomePermanent turns ∧ worstClass (turns.map TurnReport.cls) = .fail) ∨
      (SomeOverQuota turns ∧ worstClass (turns.map TurnReport.cls) = .quota) ∨
      (AllOk turns ∧ worstClass (turns.map TurnReport.cls) = .ok) ∨
      (turns = [] ∧ worstClass (turns.map TurnReport.cls) = .none) := by
  have notTemp : worstClass (turns.map TurnReport.cls) ≠ .temp :=
    fun temp => lasting (worstClass_eq_temp_iff.mp temp)
  unfold worstClass dsnuserWorstcaseInt at notTemp ⊢
  split_ifs at notTemp ⊢ with temporary failed exceeded received
  · exact absurd rfl notTemp
  · exact .inl ⟨(any_cls_iff .fail).mp failed, rfl⟩
  · exact .inr (.inl ⟨(any_cls_iff .quota).mp exceeded, rfl⟩)
  · have all := allOk_of_not lasting (fun some => failed ((any_cls_iff .fail).mpr some))
      fun some => exceeded ((any_cls_iff .quota).mpr some)
    exact .inr (.inr (.inl ⟨all, rfl⟩))
  · have all := allOk_of_not lasting (fun some => failed ((any_cls_iff .fail).mpr some))
      fun some => exceeded ((any_cls_iff .quota).mpr some)
    cases turns with
    | nil => exact .inr (.inr (.inr ⟨rfl, rfl⟩))
    | cons turn rest =>
      have first := all turn mem_cons_self
      exact absurd ((any_cls_iff .ok).mpr ⟨turn, mem_cons_self, first⟩) received

variable (world : InsertWorld) (delivery : Dsnuser)

theorem allOk_of_localDsn_ok (lasting : ¬ SomeTemporary turns)
    (reported : (localDsn world delivery (turns.map TurnReport.cls)).cls = .ok) :
    AllOk turns := by
  unfold localDsn at reported
  obtain ⟨-, ranked⟩ | ⟨-, ranked⟩ | ⟨all, -⟩ | ⟨nobody, -⟩ := worstClass_of_not_temporary lasting
  · simp [ranked] at reported
  · rw [ranked] at reported
    cases soft : world.quotaSoftfail <;> simp [soft] at reported
  · exact all
  · rw [nobody]
    exact fun _ member => absurd member not_mem_nil

theorem failed_of_localDsn_fail (lasting : ¬ SomeTemporary turns) (users : turns ≠ [])
    (reported : (localDsn world delivery (turns.map TurnReport.cls)).cls = .fail) :
    SomePermanent turns ∨ (SomeOverQuota turns ∧ world.quotaSoftfail = false) := by
  unfold localDsn at reported
  obtain ⟨permanent, -⟩ | ⟨exceeded, ranked⟩ | ⟨-, ranked⟩ | ⟨nobody, -⟩ :=
    worstClass_of_not_temporary lasting
  · exact .inl permanent
  · rw [ranked] at reported
    cases soft : world.quotaSoftfail with
    | true => simp [soft] at reported
    | false => exact .inr ⟨exceeded, rfl⟩
  · simp [ranked] at reported
  · exact absurd nobody users

theorem finalDsn_of_forwarded (results : List DsnClass)
    (forwarded : Forwarded world delivery.forwards) :
    finalDsn world delivery results = localDsn world delivery results := by
  rw [finalDsn, (sendForwardList_eq_false_iff world delivery.forwards).mpr forwarded]
  simp

theorem finalDsn_of_not_forwarded (results : List DsnClass)
    (refused : ¬ Forwarded world delivery.forwards) :
    finalDsn world delivery results = ⟨.temp, 1, 1⟩ := by
  have failed : sendForwardList world delivery.forwards = true := by
    rw [← Bool.not_eq_false, sendForwardList_eq_false_iff]
    exact refused
  have given : delivery.forwards ≠ [] := by
    intro empty
    apply refused
    rw [empty]
    nofun
  rw [finalDsn, if_pos ⟨given, failed⟩]

end Status

/-- The reports of the loop are those of the recipients, one by one. -/
theorem deliverAll_reported {world : InsertWorld} {post : Post} {deliveries : List Dsnuser}
    {report : Report} (reported : report ∈ (deliverAll world post deliveries).2) :
    report.dsn = finalDsn world report.delivery (report.turns.map TurnReport.cls) ∧
      report.turns.map TurnReport.turn = report.delivery.users := by
  induction deliveries generalizing post with
  | nil => cases reported
  | cons delivery rest ih =>
    obtain rfl | later := mem_cons.mp reported
    · exact ⟨rfl, deliverUsers_turns _ _ _ _ _⟩
    · exact ih later

theorem insertMessages_reported {world : InsertWorld} {store : Int} {post : Post}
    {deliveries : List Dsnuser} {report : Report}
    (reported : report ∈ (insertMessages world store post deliveries).reports) :
    report.dsn = finalDsn world report.delivery (report.turns.map TurnReport.cls) ∧
      report.turns.map TurnReport.turn = report.delivery.users := by
  unfold insertMessages at reported
  split_ifs at reported
  · cases reported
  · exact deliverAll_reported reported

/-- Every local user has received the message, in the tables behind all deliveries, or a script
has disposed of it. -/
def AllReceived (world : InsertWorld) (post : Post) (deliveries : List Dsnuser) (report : Report) :
    Prop :=
  ∀ turn ∈ report.turns, Received world.toDeliveryWorld post (deliverAll world post deliveries).1
    report.delivery.destination turn

/-- No statement that inserts a copy for this recipient fails, and the id of the physmessage fits
the `int` that it passes through. -/
def Landing (world : DeliveryWorld) (post : Post) (delivery : Dsnuser) : Prop :=
  (∀ original, post.source = some original →
      intTrip original.physmessage = original.physmessage) ∧
    ∀ turn ∈ delivery.users, turn.Inserts world delivery.destination

theorem insertMessages_received {world : InsertWorld} {store : Int} {post : Post}
    {deliveries : List Dsnuser} {report : Report}
    (reported : report ∈ (insertMessages world store post deliveries).reports)
    (lands : Landing world.toDeliveryWorld post report.delivery) (success : AllOk report.turns) :
    AllReceived world post deliveries report := by
  have turns := (insertMessages_reported reported).2
  unfold insertMessages at reported
  split_ifs at reported
  · cases reported
  intro turn member
  have course : Course post post := ⟨Extends.refl post, fun row found => ⟨row, found, rfl⟩⟩
  refine (course.all lands.1 deliveries).2 report reported turn member ?_ (success turn member)
  exact lands.2 turn.turn (turns ▸ mem_map_of_mem member)

/-- Success is reported when all forwards were accepted and every local delivery has reported
success, by which the user has received the message, or when one failed temporarily and there
are forwards. A permanent failure is reported of one, or of a temporary failure without
forwards. -/
theorem insertMessages_dsn (world : InsertWorld) (store : Int) (post : Post)
    (deliveries : List Dsnuser) (report : Report)
    (reported : report ∈ (insertMessages world store post deliveries).reports) :
    report.turns.map TurnReport.turn = report.delivery.users ∧
    (report.dsn.cls = .ok →
      Forwarded world report.delivery.forwards ∧
        ((AllOk report.turns ∧ (Landing world.toDeliveryWorld post report.delivery →
            AllReceived world post deliveries report)) ∨
          (SomeTemporary report.turns ∧ report.delivery.forwards ≠ []))) ∧
    (report.dsn.cls = .fail → report.delivery.users ≠ [] →
      (¬ SomeTemporary report.turns ∧
        (SomePermanent report.turns ∨
          (SomeOverQuota report.turns ∧ world.quotaSoftfail = false))) ∨
      (SomeTemporary report.turns ∧ report.delivery.forwards = [])) ∧
    (SomeTemporary report.turns → report.delivery.forwards = [] → report.dsn.cls = .fail) ∧
    (SomeTemporary report.turns → report.delivery.forwards ≠ [] →
      Forwarded world report.delivery.forwards → report.dsn.cls = .ok) := by
  obtain ⟨status, turns⟩ := insertMessages_reported reported
  by_cases forwarded : Forwarded world report.delivery.forwards
  · rw [status, finalDsn_of_forwarded world report.delivery _ forwarded]
    by_cases temporary : SomeTemporary report.turns
    · rw [localDsn, worstClass_eq_temp_iff.mpr temporary]
      by_cases given : report.delivery.forwards = [] <;>
        simp [turns, given, temporary, forwarded]
    · have users : report.delivery.users ≠ [] → report.turns ≠ [] := by
        intro some none
        rw [← turns, none] at some
        exact some rfl
      refine ⟨turns, fun success => ⟨forwarded, .inl ?_⟩, fun failed some => .inl ⟨temporary, ?_⟩,
        fun late => absurd late temporary, fun late => absurd late temporary⟩
      · have all := allOk_of_localDsn_ok world report.delivery temporary success
        exact ⟨all, fun lands => insertMessages_received reported lands all⟩
      · exact failed_of_localDsn_fail world report.delivery temporary (users some) failed
  · -- a refused forward is reported as temporary, whatever happened before
    rw [status, finalDsn_of_not_forwarded world report.delivery _ forwarded]
    have given : report.delivery.forwards ≠ [] := by
      intro empty
      apply forwarded
      rw [empty]
      nofun
    simp [turns, given, forwarded]

/-! ## A recipient whose database failed for a moment -/

/-- A message of ten bytes, and a user 9 with a limit of five. -/
def plainWorld : InsertWorld where
  findMailbox := fun _ user => some user
  createWithParents := fun _ _ _ => none
  postRight := fun _ _ => 1
  hasMessageId := fun _ => false
  messagesize := fun _ => 10
  maxmail := fun user => if user = 9 then 5 else 0
  subaddress := false
  sieve := true
  suppressDuplicates := false
  quotaSoftfail := false
  postmaster := []
  returnPath := none
  sendMail := fun _ => 0

def storedPost : Post where
  messages := fun id => if id = 1 then some ⟨1, 1, { recent := true }, .new, ∅⟩ else none
  curmail := fun _ => 0
  nextId := 2
  msgIdnr := 1
  zero := rfl
  fresh := by
    intro id beyond
    exact if_neg (by omega)
  positive := by decide

def plainDestination : Destination := ⟨lit "user@host", none, .default, default_named⟩

def plainUser (user : Nat) : UserTurn := ⟨user, none, none, {}⟩

def lateUser (user : Nat) : UserTurn := ⟨user, none, none, { size := false }⟩

theorem temporary_failure_misreported :
    ((insertMessages plainWorld 0 storedPost
        [⟨plainDestination, [lateUser 7, plainUser 8], [lit "other@host"], ⟨.none, 0, 0⟩⟩]).reports.map
      fun report => (report.turns.map TurnReport.cls, report.dsn.cls)) = [([.temp, .ok], .ok)] ∧
    ((insertMessages plainWorld 0 storedPost
        [⟨plainDestination, [lateUser 7], [], ⟨.none, 0, 0⟩⟩]).reports.map
      fun report => (report.turns.map TurnReport.cls, report.dsn.cls)) = [([.temp], .fail)] := by
  decide +kernel

/-- A user whose script throws the message away. -/
def discardingUser (user : Nat) : UserTurn := ⟨user, some ⟨[.discard], true⟩, none, {}⟩

/-- Two recipients: users 7 and 8 with a forward, and users 8 and 9, who is over quota. -/
def mixedDeliveries : List Dsnuser :=
  [⟨plainDestination, [discardingUser 7, plainUser 8], [lit "other@host"], ⟨.none, 0, 0⟩⟩,
    ⟨plainDestination, [plainUser 8, plainUser 9], [], ⟨.none, 0, 0⟩⟩]

def receivedReport : Report :=
  ⟨⟨plainDestination, [discardingUser 7, plainUser 8], [lit "other@host"], ⟨.none, 0, 0⟩⟩,
    [⟨discardingUser 7, .ok, []⟩, ⟨plainUser 8, .ok, [2]⟩], ⟨.ok, 1, 5⟩⟩

def quotaReport : Report :=
  ⟨⟨plainDestination, [plainUser 8, plainUser 9], [], ⟨.none, 0, 0⟩⟩,
    [⟨plainUser 8, .ok, [3]⟩, ⟨plainUser 9, .quota, []⟩], ⟨.fail, 2, 2⟩⟩

theorem insertMessages_dsn_mixed :
    AllReceived plainWorld storedPost mixedDeliveries receivedReport ∧
      SomeOverQuota quotaReport.turns ∧ ¬ SomeTemporary quotaReport.turns := by
  have reports : (insertMessages plainWorld 0 storedPost mixedDeliveries).reports =
    [receivedReport, quotaReport] := rfl
  have received := (insertMessages_dsn plainWorld 0 storedPost mixedDeliveries receivedReport
    (by simp [reports])).2.1 rfl
  have failed := (insertMessages_dsn plainWorld 0 storedPost mixedDeliveries quotaReport
    (by simp [reports])).2.2.1 rfl (by simp [quotaReport])
  have calm : ¬ SomeTemporary receivedReport.turns := by simp [SomeTemporary, receivedReport]
  obtain ⟨-, ⟨-, lands⟩ | ⟨late, -⟩⟩ := received
  · obtain ⟨lasting, permanent | ⟨exceeded, -⟩⟩ | ⟨late, -⟩ := failed
    · simp [SomePermanent, quotaReport] at permanent
    · refine ⟨lands ⟨?_, ?_⟩, exceeded, lasting⟩
      · rintro original found
        cases found
        rfl
      · simp [receivedReport, UserTurn.Inserts, requestsOf, plainDestination, discardingUser,
          plainUser, keepRequest, plainWorld, Statements.inserts, SieveAction.request]
    · simp [SomeTemporary, quotaReport] at late
  · exact absurd late calm

end Dbmail.Delivery
