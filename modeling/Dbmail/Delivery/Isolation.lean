import Dbmail.Delivery.Insert

/-!
Contract: what one recipient's copy owes to the recipients before.

Owns what the requests of one user can tell of the tables, the requests of others
that leave no trace of it, and that the copies of a recipient behind such requests are
those of a delivery to that recipient alone.

Does not own: the loops themselves.
-/

namespace Dbmail.Delivery

open Dbmail.Lib Dbmail.Mailbox List

/-! ## What a copy depends on -/

/-- What a copy takes over from the row that it is made of. -/
def Stored.content (row : Stored) : Stored := { row with mailbox := 0 }

section Answer

variable (world : DeliveryWorld) (post : Post) (mailbox : Nat) (request : Request)

def Post.size : Nat := messageGetSize post world.toCopyTables request.ran post.msgIdnr

def Post.room : QuotaAnswer :=
  dmQuotaUserValidate post world.toCopyTables request.ran request.user (post.size world request)

/-- The class of a copy, whether it inserts a row, and the sizes of the mail behind it. -/
theorem copyToMailbox_answer :
    (copyToMailbox world post mailbox request).2.1 =
        (if post.size world request = 0 then .temp
        else match post.room world request with
          | .failed => .temp
          | .exceeded => .quota
          | .fits =>
            if (dmQuotaUserInc post request.ran request.user (post.size world request)).1 = 0 then
              .temp
            else .ok) ∧
      ((copyToMailbox world post mailbox request).2.2 = [] ↔ post.size world request = 0 ∨
        post.room world request ≠ .fits ∨ request.ran.inserts = false) ∧
      (copyToMailbox world post mailbox request).1.curmail =
        if post.size world request = 0 ∨ post.room world request ≠ .fits then post.curmail
        else (dmQuotaUserInc post request.ran request.user (post.size world request)).2 := by
  have nothing : ∀ status, CopyRun.stored ⟨post, status, 0⟩ = [] := by
    simp [CopyRun.stored, post.zero]
  have nothing : ∀ status, CopyRun.stored ⟨post, status, 0⟩ = [] := by
    simp [CopyRun.stored, post.zero]
  unfold copyToMailbox dbCopymsg
  simp only [show messageGetSize post world.toCopyTables request.ran post.msgIdnr =
    post.size world request from rfl]
  by_cases empty : post.size world request = 0
  · simp [empty, nothing]
  cases found : post.messages post.msgIdnr with
  | none => simp [Post.size, messageGetSize, found] at empty
  | some row =>
    simp only [empty, if_false, false_or, show dmQuotaUserValidate post world.toCopyTables
      request.ran request.user (post.size world request) = post.room world request from rfl]
    cases post.room world request with
    | failed | exceeded => simp [nothing]
    | fits =>
      generalize dmQuotaUserInc post request.ran request.user (post.size world request) = inc
      have absent : post.messages (if request.ran.insert then post.nextId else 0) = none := by
        split
        · exact post.fresh _ le_rfl
        · exact post.zero
      have stored : ∀ status, CopyRun.stored
          ⟨(if request.ran.inserts then post.add (row.copied request.ran mailbox)
            else post).counted inc.2, status, if request.ran.insert then post.nextId else 0⟩ =
          if request.ran.inserts then [post.nextId] else [] := by
        intro status
        cases inserts : request.ran.inserts with
        | true => simp [CopyRun.stored, Post.counted, Post.add, (Bool.and_eq_true_iff.mp inserts).1]
        | false => simp [CopyRun.stored, Post.counted, absent]
      simp only [stored]
      by_cases failed : inc.1 = 0 <;> simp [failed, CopyRun.adopt, Post.modify, Post.counted]

end Answer

/-! ## Tables that some requests cannot tell apart -/

section Sides

variable (world : DeliveryWorld) (user : Nat) (requests : List Request)

/-- The message to copy from has the same content, a user with a limit has the same room, and
the same mailboxes hold the message already, if duplicates matter. -/
structure Indistinct (post twin : Post) : Prop where
  source : post.source.map Stored.content = twin.source.map Stored.content
  room : world.maxmail user ≠ 0 → post.curmail user = twin.curmail user
  held : world.suppressDuplicates = true → ∀ request ∈ requests, ∀ mailbox,
    deliveryMailbox world request = .ok mailbox →
      (Holds world post mailbox ↔ Holds world twin mailbox)

variable {world user requests}

theorem Indistinct.refl (post : Post) : Indistinct world user requests post post :=
  ⟨rfl, fun _ => rfl, fun _ _ _ _ _ => Iff.rfl⟩

theorem Indistinct.trans {first second third : Post}
    (left : Indistinct world user requests first second)
    (right : Indistinct world user requests second third) :
    Indistinct world user requests first third :=
  ⟨left.source.trans right.source, fun limited => (left.room limited).trans (right.room limited),
    fun unwanted request member mailbox leads =>
      (left.held unwanted request member mailbox leads).trans
        (right.held unwanted request member mailbox leads)⟩

theorem Indistinct.symm {post twin : Post} (same : Indistinct world user requests post twin) :
    Indistinct world user requests twin post :=
  ⟨same.source.symm, fun limited => (same.room limited).symm,
    fun unwanted request member mailbox leads =>
      (same.held unwanted request member mailbox leads).symm⟩

theorem holds_added {post after : Post} {new : Stored}
    (messages : after.messages = Function.update post.messages post.nextId (some new))
    (mailbox : Nat) : Holds world after mailbox ↔ Holds world post mailbox ∨
      new.mailbox = mailbox ∧ new.status.live = true ∧
        world.hasMessageId new.physmessage = true := by
  unfold Holds
  rw [messages]
  constructor
  · rintro ⟨id, row, found, held⟩
    by_cases same : id = post.nextId
    · rw [same, Function.update_self] at found
      cases found
      exact .inr held
    · rw [Function.update_of_ne same] at found
      exact .inl ⟨id, row, found, held⟩
  · rintro (⟨id, row, found, held⟩ | held)
    · exact ⟨id, row, by rwa [Function.update_of_ne (Post.below found).ne], held⟩
    · exact ⟨post.nextId, new, Function.update_self _ _ _, held⟩

/-! ## One request on both sides -/

def rowsOf (post : Post) (ids : List Nat) : List Stored := ids.filterMap post.messages

section Pair

variable {post twin : Post} (same : Indistinct world user requests post twin) {request : Request}
  (own : request.user = user)

include same

theorem Indistinct.size : post.size world request = twin.size world request := by
  have source := same.source
  unfold Post.size messageGetSize
  unfold Post.source at source
  generalize post.messages post.msgIdnr = row at source ⊢
  generalize twin.messages twin.msgIdnr = row' at source ⊢
  cases row <;> cases row' <;> simp_all [Stored.content]

include own

theorem Indistinct.roomAnswer : post.room world request = twin.room world request := by
  unfold Post.room dmQuotaUserValidate authGetmaxmailsize
  rw [same.size]
  cases request.ran.maxmail with
  | query | fetch => rfl
  | none =>
    dsimp only
    by_cases unlimited : world.maxmail request.user = 0
    · rw [if_pos unlimited, if_pos unlimited]
    · rw [if_neg unlimited, if_neg unlimited, own, same.room (own ▸ unlimited)]

/-- The two copies are alike. -/
theorem Indistinct.copy (mailbox : Nat) :
    let left := copyToMailbox world post mailbox request
    let right := copyToMailbox world twin mailbox request
    left.2.1 = right.2.1 ∧ Indistinct world user requests left.1 right.1 ∧
      rowsOf left.1 left.2.2 = rowsOf right.1 right.2.2 := by
  obtain ⟨cls, inserted, curmail⟩ := copyToMailbox_answer world post mailbox request
  obtain ⟨cls', inserted', curmail'⟩ := copyToMailbox_answer world twin mailbox request
  have status : ∀ size, (dmQuotaUserInc post request.ran request.user size).1 =
      (dmQuotaUserInc twin request.ran request.user size).1 := by
    intro size
    unfold dmQuotaUserInc
    split
    · rfl
    · split_ifs <;> rfl
  have mail : world.maxmail user ≠ 0 → ∀ size,
      (dmQuotaUserInc post request.ran request.user size).2 user =
        (dmQuotaUserInc twin request.ran request.user size).2 user := by
    intro limited size
    have before := same.room limited
    unfold dmQuotaUserInc
    split
    · exact before
    · split_ifs
      · exact before
      · simp [own, before]
      · exact before
  rw [same.size, same.roomAnswer own] at cls inserted curmail
  rw [status] at cls
  have classes := cls.trans cls'.symm
  have rows := inserted.trans inserted'.symm
  have room : world.maxmail user ≠ 0 → (copyToMailbox world post mailbox request).1.curmail user =
      (copyToMailbox world twin mailbox request).1.curmail user := by
    intro limited
    rw [curmail, curmail']
    split_ifs
    · exact same.room limited
    · exact mail limited _
  clear cls cls' inserted inserted' curmail curmail' status mail
  have left := copyToMailbox_effect world post mailbox request
  have right := copyToMailbox_effect world twin mailbox request
  dsimp only
  generalize copyToMailbox world post mailbox request = result at *
  generalize copyToMailbox world twin mailbox request = result' at *
  cases left with
  | @idle after cls messages next others source =>
    cases right with
    | added => simp at rows
    | @idle after' cls' messages' next' others' source' =>
      refine ⟨classes, ⟨?_, room, ?_⟩, rfl⟩
      · obtain rfl : cls = cls' := classes
        obtain ⟨kept, failed⟩ | ⟨lost, isOk, -⟩ := source
        · obtain ⟨kept', -⟩ | ⟨-, isOk, -⟩ := source'
          · rw [kept, kept', same.source]
          · exact absurd isOk failed
        · obtain ⟨-, failed⟩ | ⟨lost', -, -⟩ := source'
          · exact absurd isOk failed
          · rw [lost, lost']
      · unfold Holds
        rw [messages, messages']
        exact same.held
  | @added after cls row new found messages next others source =>
    cases right with
    | idle => simp at rows
    | @added after' cls' row' new' found' messages' next' others' source' =>
      obtain rfl : cls = cls' := classes
      have content : row.content = row'.content := by
        simpa [found, found'] using same.source
      have copied : row.copied request.ran mailbox = row'.copied request.ran mailbox := by
        simp only [Stored.content, Stored.mk.injEq, true_and] at content
        simp [Stored.copied, content]
      have alike : new = new' ∧ after.source.map Stored.content =
          after'.source.map Stored.content := by
        obtain ⟨kept, failed, rfl⟩ | ⟨moved, isOk, rfl⟩ := source
        · obtain ⟨kept', -, rfl⟩ | ⟨-, isOk, -⟩ := source'
          · exact ⟨copied, by simp [kept, kept', content]⟩
          · exact absurd isOk failed
        · obtain ⟨-, failed, -⟩ | ⟨moved', -, rfl⟩ := source'
          · exact absurd isOk failed
          · exact ⟨by rw [copied], by rw [moved, moved', copied]⟩
      obtain ⟨rfl, source⟩ := alike
      refine ⟨rfl, ⟨source, room, fun unwanted asked member box leads => ?_⟩, ?_⟩
      · rw [holds_added messages, holds_added messages',
          same.held unwanted asked member box leads]
      · simp [rowsOf, messages, messages']

end Pair

/-- Both sides of one user's turn, with the rows that they have inserted. -/
structure Abreast (world : DeliveryWorld) (user : Nat) (requests : List Request) (post : Post)
    (ids : List Nat) (twin : Post) (twinIds : List Nat) : Prop where
  same : Indistinct world user requests post twin
  rows : rowsOf post ids = rowsOf twin twinIds
  old : ∀ id ∈ ids, id < post.nextId
  twinOld : ∀ id ∈ twinIds, id < twin.nextId

theorem rowsOf_extends {post later : Post} (kept : Extends post later) {ids : List Nat}
    (below : ∀ id ∈ ids, id < post.nextId) : rowsOf later ids = rowsOf post ids :=
  filterMap_congr fun id member => kept.2 id (below id member)

theorem sortDeliverToMailbox_new (world : DeliveryWorld) (post : Post) (request : Request) :
    ∀ id ∈ (sortDeliverToMailbox world post request).2.2,
      post.nextId ≤ id ∧ id < (sortDeliverToMailbox world post request).1.nextId := by
  unfold sortDeliverToMailbox
  split
  · exact fun _ member => absurd member not_mem_nil
  · split
    · exact fun _ member => absurd member not_mem_nil
    · have effect := copyToMailbox_effect world post ‹_› request
      generalize copyToMailbox world post _ request = result at effect ⊢
      cases effect with
      | idle => exact fun _ member => absurd member not_mem_nil
      | added found messages next =>
        intro id member
        obtain rfl := mem_singleton.mp member
        exact ⟨le_rfl, by dsimp only; omega⟩

theorem abreast_simulates (owned : ∀ request ∈ requests, request.user = user) :
    Simulates (sortDeliverToMailbox world) (sortDeliverToMailbox world)
      (Abreast world user requests) requests := by
  intro post ids twin twinIds request member abreast
  have grown := sortDeliverToMailbox_extends world post request
  have grown' := sortDeliverToMailbox_extends world twin request
  have new := sortDeliverToMailbox_new world post request
  have new' := sortDeliverToMailbox_new world twin request
  have alike : (sortDeliverToMailbox world post request).2.1 =
      (sortDeliverToMailbox world twin request).2.1 ∧
      Indistinct world user requests (sortDeliverToMailbox world post request).1
        (sortDeliverToMailbox world twin request).1 ∧
      rowsOf (sortDeliverToMailbox world post request).1
          (sortDeliverToMailbox world post request).2.2 =
        rowsOf (sortDeliverToMailbox world twin request).1
          (sortDeliverToMailbox world twin request).2.2 := by
    unfold sortDeliverToMailbox
    cases leads : deliveryMailbox world request with
    | error cls => exact ⟨rfl, abreast.same, rfl⟩
    | ok mailbox =>
      have found : (world.suppressDuplicates &&
          dbMailboxHasMessageId world post request.ran mailbox) =
          (world.suppressDuplicates && dbMailboxHasMessageId world twin request.ran mailbox) := by
        cases unwanted : world.suppressDuplicates with
        | false => rfl
        | true =>
          rw [Bool.true_and, Bool.true_and, Bool.eq_iff_iff, dbMailboxHasMessageId_iff,
            dbMailboxHasMessageId_iff, abreast.same.held unwanted request member mailbox leads]
      dsimp only
      rw [found]
      split_ifs
      · exact ⟨rfl, abreast.same, rfl⟩
      · exact abreast.same.copy (owned request member) mailbox
  obtain ⟨classes, same, rows⟩ := alike
  refine ⟨classes, same, ?_, ?_, ?_⟩
  · rw [rowsOf, filterMap_append, rowsOf, filterMap_append]
    exact congrArg₂ _ ((rowsOf_extends grown abreast.old).trans (abreast.rows.trans
      (rowsOf_extends grown' abreast.twinOld).symm)) rows
  · intro id inside
    obtain earlier | now := mem_append.mp inside
    · exact Nat.lt_of_lt_of_le (abreast.old id earlier) grown.1
    · exact (new id now).2
  · intro id inside
    obtain earlier | now := mem_append.mp inside
    · exact Nat.lt_of_lt_of_le (abreast.twinOld id earlier) grown'.1
    · exact (new' id now).2

end Sides

/-! ## Requests that leave no trace -/

/-- A request of another turn that ends up in the mailbox leaves nothing for the user to find. Its
row is inserted and keeps the keywords, and its marks are on the message already; it is not
counted against the user's limit, and not in a mailbox of the user's requests where a duplicate
would not be wanted. -/
structure Traceless (world : DeliveryWorld) (row : Stored) (user : Nat) (requests : List Request)
    (request : Request) (mailbox : Nat) : Prop where
  inserts : request.ran.inserts = true
  keywords : request.ran.keywords = true ∨ row.keywords = ∅
  flags : Flags.union row.flags (request.marks.flags.getD {}) = row.flags
  marks : ∀ keyword ∈ request.marks.keywords, keyword ∈ row.keywords
  room : request.user ≠ user ∨ world.maxmail user = 0
  apart : world.suppressDuplicates = true → ∀ own ∈ requests,
    deliveryMailbox world own ≠ .ok mailbox

section Trace

variable {world : DeliveryWorld} {user : Nat} {requests : List Request} {start : Post}

theorem Traceless.copied {row original : Stored} {request : Request} {mailbox : Nat}
    (traceless : Traceless world original user requests request mailbox)
    (trips : intTrip original.physmessage = original.physmessage)
    (content : row.content = original.content) :
    (row.copied request.ran mailbox).content = original.content ∧
      ((row.copied request.ran mailbox).marked request.marks request.ran).content =
        original.content := by
  obtain ⟨box, physmessage, flags, status, keywords⟩ := row
  obtain ⟨otherBox, otherPhysmessage, otherFlags, otherStatus, otherKeywords⟩ := original
  simp only [Stored.content, Stored.mk.injEq, true_and] at content
  obtain ⟨rfl, rfl, rfl, rfl⟩ := content
  have kept : (if request.ran.keywords then keywords else ∅) = keywords := by
    obtain copied | none := traceless.keywords
    · exact if_pos copied
    · simp only at none
      rw [none, ite_self]
  have union : keywords ∪ request.marks.keywords.toFinset = keywords := by
    rw [Finset.union_eq_left]
    intro keyword member
    exact traceless.marks keyword (mem_toFinset.mp member)
  have marked := traceless.flags
  simp only at trips marked
  unfold Stored.marked
  constructor
  · simp [Stored.copied, Stored.content, trips, kept]
  · split <;> simp [Stored.copied, Stored.content, trips, kept, union, marked]

/-- Behind such a request the tables are the same to the user. -/
theorem Indistinct.behind {post : Post} {request : Request}
    (same : Indistinct world user requests start post)
    (trips : ∀ row, start.source = some row → intTrip row.physmessage = row.physmessage)
    (traceless : ∀ row, start.source = some row → ∀ mailbox,
      deliveryMailbox world request = .ok mailbox →
        Traceless world row user requests request mailbox) :
    Indistinct world user requests start (sortDeliverToMailbox world post request).1 := by
  unfold sortDeliverToMailbox
  cases leads : deliveryMailbox world request with
  | error cls => exact same
  | ok mailbox =>
    dsimp only
    split_ifs
    · exact same
    have curmail := (copyToMailbox_answer world post mailbox request).2.2
    have effect := copyToMailbox_effect world post mailbox request
    generalize copyToMailbox world post mailbox request = result at curmail effect ⊢
    cases isStored : start.source with
    | none =>
      have noSource : post.source = none := by simpa [isStored] using same.source.symm
      have noSize : post.size world request = 0 := by
        have absent : post.messages post.msgIdnr = none := noSource
        simp [Post.size, messageGetSize, absent]
      rw [if_pos (.inl noSize)] at curmail
      cases effect with
      | idle messages next others source =>
        refine same.trans ⟨?_, fun _ => by rw [curmail], ?_⟩
        · obtain ⟨kept, -⟩ | ⟨lost, -⟩ := source
          · rw [kept]
          · rw [lost, noSource]
        · unfold Holds
          rw [messages]
          exact fun _ _ _ _ _ => Iff.rfl
      | added found => exact absurd (noSource.symm.trans found) nofun
    | some original =>
      have harmless := traceless original isStored mailbox leads
      have room : world.maxmail user ≠ 0 → ∀ after : Post,
          (∀ other, other ≠ request.user → after.curmail other = post.curmail other) →
            post.curmail user = after.curmail user := by
        intro limited after others
        exact (others user (harmless.room.resolve_right limited).symm).symm
      cases effect with
      | idle messages next others source =>
        obtain ⟨kept, -⟩ | ⟨-, -, lost⟩ := source
        · refine same.trans ⟨by rw [kept], fun limited => room limited _ others, ?_⟩
          unfold Holds
          rw [messages]
          exact fun _ _ _ _ _ => Iff.rfl
        · rw [harmless.inserts] at lost
          cases lost
      | @added after cls row new found messages next others source =>
        have content : row.content = original.content := by
          simpa [isStored, found] using same.source.symm
        obtain ⟨plain, marked⟩ := harmless.copied (trips original isStored) content
        have newMailbox : new.mailbox = mailbox := by
          obtain ⟨-, -, rfl⟩ | ⟨-, -, rfl⟩ := source
          · rfl
          · exact (Stored.marked_physmessage _ _ _).2.1
        refine same.trans ⟨?_, fun limited => room limited _ others,
          fun unwanted own member box leadsOwn => ?_⟩
        · obtain ⟨kept, -, -⟩ | ⟨moved, -, rfl⟩ := source
          · rw [kept, found]
          · rw [moved, found, Option.map_some, Option.map_some, content, marked]
        · rw [holds_added messages, newMailbox]
          refine (or_iff_left fun held => ?_).symm
          exact harmless.apart unwanted own member (held.1 ▸ leadsOwn)

end Trace

/-! ## Turn after turn -/

def turnsOf (deliveries : List Dsnuser) : List (Destination × UserTurn) :=
  deliveries.flatMap fun delivery => delivery.users.map (Prod.mk delivery.destination)

def deliverTurns (world : DeliveryWorld) :
    Post → List (Destination × UserTurn) → Post × List (TurnReport Nat)
  | post, [] => (post, [])
  | post, turn :: rest =>
    let delivered := sortAndDeliver (sortDeliverToMailbox world) world post turn.1 turn.2
    let later := deliverTurns world delivered.1 rest
    (later.1, ⟨turn.2, delivered.2.1, delivered.2.2⟩ :: later.2)

section Turns

variable (world : DeliveryWorld)

theorem deliverTurns_append (post : Post) (first second : List (Destination × UserTurn)) :
    deliverTurns world post (first ++ second) =
      ((deliverTurns world (deliverTurns world post first).1 second).1,
        (deliverTurns world post first).2 ++
          (deliverTurns world (deliverTurns world post first).1 second).2) := by
  induction first generalizing post with
  | nil => rfl
  | cons turn rest ih =>
    simp [deliverTurns, ih]

theorem deliverTurns_length (post : Post) (turns : List (Destination × UserTurn)) :
    (deliverTurns world post turns).2.length = turns.length := by
  induction turns generalizing post with
  | nil => rfl
  | cons turn rest ih =>
    simp [deliverTurns, ih]

theorem deliverUsers_eq (destination : Destination) (post : Post) (users : List UserTurn) :
    deliverUsers (sortDeliverToMailbox world) world destination post users =
      deliverTurns world post (users.map (Prod.mk destination)) := by
  induction users generalizing post with
  | nil => rfl
  | cons turn rest ih =>
    simp [deliverUsers, deliverTurns, ih]

theorem deliverAll_turns (world : InsertWorld) (post : Post) (deliveries : List Dsnuser) :
    (deliverAll world post deliveries).1 =
        (deliverTurns world.toDeliveryWorld post (turnsOf deliveries)).1 ∧
      (deliverAll world post deliveries).2.flatMap Report.turns =
        (deliverTurns world.toDeliveryWorld post (turnsOf deliveries)).2 := by
  induction deliveries generalizing post with
  | nil => exact ⟨rfl, rfl⟩
  | cons delivery rest ih =>
    have split : turnsOf (delivery :: rest) =
        delivery.users.map (Prod.mk delivery.destination) ++ turnsOf rest := rfl
    rw [split, deliverTurns_append, ← deliverUsers_eq]
    obtain ⟨posts, reports⟩ := ih
      (deliverUsers (sortDeliverToMailbox world.toDeliveryWorld) world.toDeliveryWorld
        delivery.destination post delivery.users).1
    exact ⟨posts, by rw [deliverAll, flatMap_cons, reports]⟩

/-- A turn keeps the rows of the table, and its own are new. -/
theorem turn_extends (post : Post) (destination : Destination) (turn : UserTurn) :
    let delivered := sortAndDeliver (sortDeliverToMailbox world) world post destination turn
    Extends post delivered.1 ∧
      ∀ id ∈ delivered.2.2, post.nextId ≤ id ∧ id < delivered.1.nextId := by
  refine sortAndDeliver_keeps (fun after copies => Extends post after ∧
    ∀ id ∈ copies, post.nextId ≤ id ∧ id < after.nextId) ?_
    ⟨Extends.refl post, fun _ member => absurd member not_mem_nil⟩
  rintro table copies request - ⟨extended, new⟩
  have grown := sortDeliverToMailbox_extends world table request
  refine ⟨extended.trans grown, fun id member => ?_⟩
  obtain old | now := mem_append.mp member
  · exact ⟨(new id old).1, Nat.lt_of_lt_of_le (new id old).2 grown.1⟩
  · obtain ⟨beyond, below⟩ := sortDeliverToMailbox_new world table request id now
    exact ⟨Nat.le_trans extended.1 beyond, below⟩

theorem deliverTurns_extends (post : Post) (turns : List (Destination × UserTurn)) :
    Extends post (deliverTurns world post turns).1 := by
  induction turns generalizing post with
  | nil => exact Extends.refl post
  | cons turn rest ih => exact (turn_extends world post turn.1 turn.2).1.trans (ih _)

/-- Turns whose requests leave no trace leave the tables the same to the user. -/
theorem deliverTurns_indistinct {start post : Post} {user : Nat} {requests : List Request}
    (trips : ∀ row, start.source = some row → intTrip row.physmessage = row.physmessage)
    (turns : List (Destination × UserTurn))
    (traceless : ∀ row, start.source = some row → ∀ turn ∈ turns,
      ∀ request ∈ requestsOf world turn.1 turn.2, ∀ mailbox,
        deliveryMailbox world request = .ok mailbox →
          Traceless world row user requests request mailbox)
    (same : Indistinct world user requests start post) :
    Indistinct world user requests start (deliverTurns world post turns).1 := by
  induction turns generalizing post with
  | nil => exact same
  | cons turn rest ih =>
    refine ih (fun row isStored other member => traceless row isStored other
      (mem_cons_of_mem turn member)) ?_
    refine sortAndDeliver_keeps (fun after _ => Indistinct world user requests start after) ?_ same
    intro table _ request member indistinct
    exact indistinct.behind trips fun row isStored =>
      traceless row isStored turn mem_cons_self request member

end Turns

theorem requestsOf_user (world : DeliveryWorld) (destination : Destination) (turn : UserTurn) :
    ∀ request ∈ requestsOf world destination turn, request.user = turn.user := by
  intro request member
  unfold requestsOf at member
  split_ifs at member
  · rw [mem_singleton.mp member]
    rfl
  · obtain filed | keep := mem_append.mp member
    · obtain ⟨action, -, asks⟩ := mem_filterMap.mp filed
      cases action with
      | fileinto =>
        cases asks
        rfl
      | _ => cases asks
    · rw [mem_singleton.mp keep]
      rfl
  · obtain filed | keep := mem_append.mp member
    · cases filed
    · rw [mem_singleton.mp keep]
      rfl

/-! ## The copies of a recipient -/

def Inserted.copies (inserted : Inserted) (index : Nat) : List Stored :=
  match (inserted.reports.flatMap Report.turns)[index]? with
  | some report => rowsOf inserted.post report.copies
  | none => []

/-- Without a message to copy from a turn makes no copies. -/
theorem turn_sourceless {world : DeliveryWorld} {post : Post} (none : post.source = none)
    (destination : Destination) (turn : UserTurn) :
    (sortAndDeliver (sortDeliverToMailbox world) world post destination turn).2.2 = [] := by
  refine (sortAndDeliver_keeps (fun after copies => after.source = Option.none ∧ copies = []) ?_
    ⟨none, rfl⟩).2
  rintro table _ request - ⟨lost, rfl⟩
  unfold sortDeliverToMailbox
  split
  · exact ⟨lost, rfl⟩
  · split_ifs
    · exact ⟨lost, rfl⟩
    · have effect := copyToMailbox_effect world table ‹_› request
      generalize copyToMailbox world table _ request = result at effect ⊢
      cases effect with
      | idle messages next others source =>
        obtain ⟨kept, -⟩ | ⟨gone, -⟩ := source
        · exact ⟨kept.trans lost, rfl⟩
        · exact ⟨gone, rfl⟩
      | added found => exact absurd (lost.symm.trans found) nofun

/-- The copies of a turn stay as the turn has left them: neither the later turns nor the deletion
of the temporary message touch them. -/
theorem insertMessages_copies (world : InsertWorld) {store : Int} (saved : store ≠ -1)
    (post : Post) {deliveries : List Dsnuser} {before after : List (Destination × UserTurn)}
    {turn : Destination × UserTurn} (turns : turnsOf deliveries = before ++ turn :: after)
    (source : (deliverTurns world.toDeliveryWorld post before).1.source.map Stored.content =
      post.source.map Stored.content) :
    (insertMessages world store post deliveries).copies before.length =
      rowsOf
        (sortAndDeliver (sortDeliverToMailbox world.toDeliveryWorld) world.toDeliveryWorld
          (deliverTurns world.toDeliveryWorld post before).1 turn.1 turn.2).1
        (sortAndDeliver (sortDeliverToMailbox world.toDeliveryWorld) world.toDeliveryWorld
          (deliverTurns world.toDeliveryWorld post before).1 turn.1 turn.2).2.2 := by
  obtain ⟨posts, reports⟩ := deliverAll_turns world post deliveries
  have reached := deliverTurns_length world.toDeliveryWorld post before
  have begun := (deliverTurns_extends world.toDeliveryWorld post before).1
  obtain ⟨-, new⟩ := turn_extends world.toDeliveryWorld
    (deliverTurns world.toDeliveryWorld post before).1 turn.1 turn.2
  unfold Inserted.copies insertMessages
  rw [if_neg saved]
  simp only [reports, posts, turns, deliverTurns_append, ← reached,
    List.getElem?_append_right (Nat.le_refl _), Nat.sub_self]
  have kept := deliverTurns_extends world.toDeliveryWorld
    (sortAndDeliver (sortDeliverToMailbox world.toDeliveryWorld) world.toDeliveryWorld
      (deliverTurns world.toDeliveryWorld post before).1 turn.1 turn.2).1 after
  rw [← rowsOf_extends kept fun id member => (new id member).2]
  apply filterMap_congr
  intro id member
  refine Function.update_of_ne (fun temporary => ?_) _ _
  cases isStored : post.source with
  | none =>
    have gone : (deliverTurns world.toDeliveryWorld post before).1.source = none := by
      simpa [isStored] using source
    rw [turn_sourceless gone] at member
    cases member
  | some row =>
    have old := Post.below isStored
    have bound := (new id member).1
    omega

/-- A user whose script files the message into INBOX with these flags and keywords. -/
def filingUser (user : Nat) (words : List Bytes) : UserTurn :=
  ⟨user, some ⟨[.fileinto none (some words) {}], true⟩, none, {}⟩

end Dbmail.Delivery
