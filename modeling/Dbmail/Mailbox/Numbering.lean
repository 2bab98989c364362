import Dbmail.Mailbox.Loading

/-!
Contract: the numbering of the messages in a cached mailbox.

Owns the trees `ids` and `msn` with the field `msn` of the messages, the loop of
`MailboxState_remap` that builds them, `MailboxState_addMsginfo` and
`MailboxState_removeUid` on them, and the counter behind
`MailboxState_getExists` as the unsigned number it is.

Does not own: the recent marks and the sequence that an added message changes.
-/

namespace Dbmail.Mailbox

open Dbmail.Lib KeyTree List

/-! ## The trees -/

/-- The part of `MailboxState_T` that numbers the messages. The field `msn` of the
messages is a function of their UIDs. -/
structure Numbered where
  msginfo : KeyTree MessageInfo
  field : Nat → Nat
  ids : KeyTree Nat
  msn : KeyTree Nat
  existsCount : UInt32

variable (msginfo : KeyTree MessageInfo) (numbered : Numbered)

namespace Numbered

/-- One turn of the loop of `MailboxState_remap`, with `rows`. -/
def remapTurn (turn : Nat × Numbered) (uid : Nat) : Nat × Numbered :=
  match turn.2.msginfo.lookup uid with
  | none => turn
  | some info =>
    if info.live then
      (turn.1 + 1, { turn.2 with
        field := Function.update turn.2.field uid turn.1
        ids := turn.2.ids.insert uid turn.1
        msn := turn.2.msn.insert turn.1 uid })
    else turn

/-- `MailboxState_remap`. -/
def remap : Numbered :=
  (numbered.msginfo.keys.foldl remapTurn
    (1, { numbered with ids := KeyTree.empty, msn := KeyTree.empty })).2

/-- `MailboxState_addMsginfo`. -/
def addMsginfo (uid : Nat) (info : MessageInfo) : Numbered :=
  { numbered with msginfo := numbered.msginfo.insert uid info }.remap

/-- `MailboxState_removeUid`. A UID that is not in the tree is an error. -/
def removeUid (uid : Nat) : Numbered :=
  match numbered.msginfo.lookup uid with
  | none => numbered
  | some info =>
    { numbered with
      msginfo := numbered.msginfo.insert uid { info with status := .delete }
      existsCount := numbered.existsCount - 1 }.remap

/-- `MailboxState_getExists`: the counter is read as an `int` and raised to the number
of UIDs. -/
def getExists : UInt32 :=
  if numbered.existsCount.toInt32.toInt < numbered.ids.keys.length then
    numbered.ids.keys.length.toUInt32
  else numbered.existsCount

/-- The numbering of a state as `MailboxState_new` leaves it. -/
def ofState (state : MailboxState) : Numbered :=
  remap ⟨state.msginfo, fun _ => 0, .empty, .empty, state.existsCount.toUInt32⟩

end Numbered

inductive Renumber where
  | add (uid : Nat) (info : MessageInfo)
  | remove (uid : Nat)
  | remap

def Renumber.apply : Renumber → Numbered
  | .add uid info => numbered.addMsginfo uid info
  | .remove uid => numbered.removeUid uid
  | .remap => numbered.remap

def Renumber.onMessages : Renumber → KeyTree MessageInfo
  | .add uid info => msginfo.insert uid info
  | .remove uid =>
    match msginfo.lookup uid with
    | none => msginfo
    | some info => msginfo.insert uid { info with status := .delete }
  | .remap => msginfo

def removals (msginfo : KeyTree MessageInfo) : List Renumber → Nat
  | [] => 0
  | operation :: rest =>
    (match operation with
      | .remove uid => if uid ∈ msginfo.keys then 1 else 0
      | _ => 0) + removals (operation.onMessages msginfo) rest

def liveKeys : List Nat := msginfo.keysWhere MessageInfo.live

structure Numbered.Exact (numbered : Numbered) : Prop where
  ids_keys : numbered.ids.keys = liveKeys numbered.msginfo
  msn_keys : numbered.msn.keys = List.range' 1 (liveKeys numbered.msginfo).length
  inverse : ∀ uid number, numbered.ids.lookup uid = some number ↔ numbered.msn.lookup number = some uid
  increasing : ∀ first second low high, numbered.ids.lookup first = some low →
    numbered.ids.lookup second = some high → (first < second ↔ low < high)
  field : ∀ uid number, numbered.ids.lookup uid = some number → numbered.field uid = number

/-! ## The loop of `MailboxState_remap` -/

theorem insert_last {α : Type} {tree : KeyTree α} {key : Nat} (last : ∀ other ∈ tree.keys, other < key)
    (value : α) : (tree.insert key value).entries = tree.entries ++ [(key, value)] := by
  obtain ⟨entries, sorted⟩ := tree
  show insertEntry key value entries = _
  induction entries with
  | nil => rfl
  | cons head tail ih =>
    have below : head.1 < key := last head.1 (mem_cons_self ..)
    rw [insertEntry, if_neg (by omega), if_neg (by omega), cons_append,
      ih sorted.of_cons fun other member => last other (mem_cons_of_mem _ member)]

/-- What the loop leaves after a number of UIDs. -/
structure Remapped (msginfo : KeyTree MessageInfo) (existsCount : UInt32) (numbers : List (Nat × Nat))
    (numbered : Numbered) : Prop where
  msginfo : numbered.msginfo = msginfo
  existsCount : numbered.existsCount = existsCount
  ids : numbered.ids.entries = numbers
  msn : numbered.msn.entries = numbers.map Prod.swap
  field : ∀ entry ∈ numbers, numbered.field entry.1 = entry.2

/-- From `rows` on the UIDs that are left are numbered in their order. -/
theorem remapped_loop {msginfo : KeyTree MessageInfo} {existsCount : UInt32} {uids : List Nat}
    {done : List Nat} {turn : Nat × Numbered} (sorted : (done ++ uids).Pairwise (· < ·))
    (rows : turn.1 = done.length + 1)
    (remapped : Remapped msginfo existsCount (done.zipIdx 1) turn.2) :
    Remapped msginfo existsCount ((done ++ uids.filter fun uid =>
      (msginfo.lookup uid).any MessageInfo.live).zipIdx 1) (uids.foldl Numbered.remapTurn turn).2 := by
  induction uids generalizing done turn with
  | nil => simpa using remapped
  | cons uid rest ih =>
    have shorter : (done ++ rest).Pairwise (· < ·) :=
      sorted.sublist ((sublist_cons_self uid rest).append_left done)
    have moved : (done ++ [uid] ++ rest).Pairwise (· < ·) := by simpa using sorted
    rw [foldl_cons, Numbered.remapTurn, remapped.msginfo]
    cases found : msginfo.lookup uid with
    | none => simpa [found] using ih shorter rows remapped
    | some info =>
      dsimp only
      by_cases live : info.live = true
      · rw [if_pos live]
        have longer : (done ++ [uid]).zipIdx 1 = done.zipIdx 1 ++ [(uid, turn.1)] := by
          simp [zipIdx_append, rows, Nat.add_comm]
        have below (key : Nat) (member : key ∈ done) : key < uid :=
          (pairwise_append.mp sorted).2.2 key member uid (mem_cons_self ..)
        have next : Remapped msginfo existsCount ((done ++ [uid]).zipIdx 1) { turn.2 with
            field := Function.update turn.2.field uid turn.1
            ids := turn.2.ids.insert uid turn.1
            msn := turn.2.msn.insert turn.1 uid } := by
          refine ⟨remapped.msginfo, remapped.existsCount, ?_, ?_, ?_⟩
          · rw [insert_last, remapped.ids, longer]
            intro other member
            rw [KeyTree.keys, remapped.ids, zipIdx_map_fst] at member
            exact below other member
          · rw [insert_last, remapped.msn, longer, map_append]
            · rfl
            · intro other member
              rw [KeyTree.keys, remapped.msn, map_map] at member
              obtain ⟨entry, inside, rfl⟩ := mem_map.mp member
              have bound := snd_lt_add_of_mem_zipIdx inside
              show entry.2 < turn.1
              omega
          · rw [longer]
            intro entry member
            show Function.update turn.2.field uid turn.1 entry.1 = entry.2
            rcases mem_append.mp member with old | new
            · have inside : entry.1 ∈ done := fst_mem_of_mem_zipIdx old
              rw [Function.update_of_ne (Nat.ne_of_lt (below _ inside))]
              exact remapped.field entry old
            · rw [mem_singleton.mp new]
              exact Function.update_self ..
        have numbered := @ih (done ++ [uid]) (turn.1 + 1, _) moved (by simp [rows]) next
        simpa [found, live] using numbered
      · rw [if_neg live]
        simpa [found, live] using ih shorter rows remapped

theorem keys_filter_eq :
    (msginfo.keys.filter fun uid => (msginfo.lookup uid).any MessageInfo.live) = liveKeys msginfo := by
  unfold KeyTree.keys liveKeys keysWhere
  rw [filter_map]
  congr 1
  apply filter_congr
  intro entry member
  simp [lookup_of_mem member]

namespace Numbered

variable (numbered : Numbered)

theorem remap_remapped : Remapped numbered.msginfo numbered.existsCount
    ((liveKeys numbered.msginfo).zipIdx 1) numbered.remap := by
  have begun : Remapped numbered.msginfo numbered.existsCount (List.zipIdx [] 1)
      { numbered with ids := empty, msn := empty } :=
    ⟨rfl, rfl, rfl, rfl, by simp⟩
  have looped := @remapped_loop _ _ numbered.msginfo.keys [] (1, _) numbered.msginfo.sorted rfl begun
  rwa [nil_append, keys_filter_eq] at looped

theorem remap_exact : numbered.remap.Exact := by
  have remapped := numbered.remap_remapped
  rw [← remapped.msginfo] at remapped
  generalize numbered.remap = after at remapped
  have sorted := after.msginfo.keysWhere_sorted MessageInfo.live
  -- a pair stands in the tree of the UIDs when the UID has this place
  have placed (uid number : Nat) : after.ids.lookup uid = some number ↔
      (uid, number) ∈ (liveKeys after.msginfo).zipIdx 1 := by
    rw [← remapped.ids]
    exact ⟨mem_of_lookup, fun member => lookup_of_mem member⟩
  have place {uid number : Nat} (found : after.ids.lookup uid = some number) :
      1 ≤ number ∧ (liveKeys after.msginfo)[number - 1]? = some uid := by
    rwa [placed, mk_mem_zipIdx_iff_le_and_getElem?_sub] at found
  refine ⟨?_, ?_, fun uid number => ?_, fun first second low high atLow atHigh => ?_, ?_⟩
  · rw [KeyTree.keys, remapped.ids, zipIdx_map_fst]
  · rw [KeyTree.keys, remapped.msn, map_map]
    exact zipIdx_map_snd 1 _
  · rw [placed]
    constructor
    · intro member
      have swapped := mem_map_of_mem (f := Prod.swap) member
      rw [← remapped.msn] at swapped
      exact lookup_of_mem swapped
    · intro found
      have member := mem_of_lookup found
      rw [remapped.msn] at member
      simpa using member
  · obtain ⟨lowPos, lowAt⟩ := place atLow
    obtain ⟨highPos, highAt⟩ := place atHigh
    obtain ⟨lowInside, rfl⟩ := List.getElem?_eq_some_iff.mp lowAt
    obtain ⟨highInside, rfl⟩ := List.getElem?_eq_some_iff.mp highAt
    exact sorted.sortedLT.getElem_lt_getElem_iff.trans (by omega)
  · intro uid number found
    exact remapped.field (uid, number) ((placed uid number).mp found)

end Numbered

/-! ## Runs -/

section Runs

variable {operations : List Renumber} {numbered : Numbered}

/-- An operation renumbers, and counts a removal of a message that the tree knows. -/
theorem apply_exact (exact_ : numbered.Exact) (operation : Renumber) :
    (operation.apply numbered).Exact ∧
      (operation.apply numbered).msginfo = operation.onMessages numbered.msginfo ∧
      (operation.apply numbered).existsCount =
        numbered.existsCount - (removals numbered.msginfo [operation]).toUInt32 := by
  cases operation with
  | add uid info =>
    have remapped := Numbered.remap_remapped
      { numbered with msginfo := numbered.msginfo.insert uid info }
    refine ⟨Numbered.remap_exact _, remapped.msginfo, remapped.existsCount.trans ?_⟩
    simp [removals]
  | remap =>
    have remapped := numbered.remap_remapped
    refine ⟨numbered.remap_exact, remapped.msginfo, remapped.existsCount.trans ?_⟩
    simp [removals]
  | remove uid =>
    have known := numbered.msginfo.lookup_isSome_iff uid
    simp only [Renumber.apply, Renumber.onMessages, Numbered.removeUid, removals]
    cases found : numbered.msginfo.lookup uid with
    | none =>
      have absent : uid ∉ numbered.msginfo.keys := by simpa [found] using known
      exact ⟨exact_, rfl, by simp [absent]⟩
    | some info =>
      have present : uid ∈ numbered.msginfo.keys := by simpa [found] using known
      have remapped := Numbered.remap_remapped { numbered with
        msginfo := numbered.msginfo.insert uid { info with status := .delete }
        existsCount := numbered.existsCount - 1 }
      refine ⟨Numbered.remap_exact _, remapped.msginfo, remapped.existsCount.trans ?_⟩
      simp [present]

theorem run_exact (exact_ : numbered.Exact) :
    (operations.foldl Renumber.apply numbered).Exact ∧
      (operations.foldl Renumber.apply numbered).msginfo =
        operations.foldl Renumber.onMessages numbered.msginfo ∧
      (operations.foldl Renumber.apply numbered).existsCount =
        numbered.existsCount - (removals numbered.msginfo operations).toUInt32 := by
  induction operations generalizing numbered with
  | nil => exact ⟨exact_, rfl, by simp [removals]⟩
  | cons operation rest ih =>
    obtain ⟨stepExact, messages, counted⟩ := apply_exact exact_ operation
    obtain ⟨restExact, restMessages, restCounted⟩ := ih stepExact
    rw [messages] at restMessages restCounted
    refine ⟨restExact, restMessages, restCounted.trans ?_⟩
    rw [counted]
    simp only [removals, UInt32.ofNat_add]
    grind

end Runs

/-- After any operations on a loaded state the trees number the messages that are not
deleted, and the counter is their number unless it is, as an `int`, larger. -/
theorem numbering_exact_iff (conf : LoadConf) (db : MailboxDb) (id : Nat)
    (operations : List Renumber) :
    let loaded := (MailboxState.new conf db id).msginfo
    let after := operations.foldl Renumber.apply (Numbered.ofState (MailboxState.new conf db id))
    let survivors := (liveKeys (operations.foldl Renumber.onMessages loaded)).length
    survivors < 2 ^ 31 →
      ((after.Exact ∧ after.msginfo = operations.foldl Renumber.onMessages loaded ∧
          after.getExists.toNat = survivors) ↔
        (db.liveRows.length.toUInt32 - (removals loaded operations).toUInt32).toInt32.toInt ≤
          survivors) := by
  intro loaded after survivors small
  obtain ⟨isExact, messages, counted⟩ := @run_exact operations
    (Numbered.ofState (MailboxState.new conf db id)) (Numbered.remap_exact _)
  have start : (Numbered.ofState (MailboxState.new conf db id)).msginfo = loaded ∧
      (Numbered.ofState (MailboxState.new conf db id)).existsCount =
        db.liveRows.length.toUInt32 := by
    have remapped := Numbered.remap_remapped ⟨loaded, fun _ => 0, .empty, .empty,
      (MailboxState.new conf db id).existsCount.toUInt32⟩
    refine ⟨remapped.msginfo, remapped.existsCount.trans ?_⟩
    exact congrArg Nat.toUInt32 (loadMetadata_blank db id).1
  rw [start.1, start.2] at counted
  rw [start.1] at messages
  have length : after.ids.keys.length = survivors := by
    rw [isExact.ids_keys, messages]
  rw [← counted]
  have signed : after.existsCount.toInt32.toInt = if 2 * after.existsCount.toNat < 2 ^ 32 then
      (after.existsCount.toNat : Int) else after.existsCount.toNat - 2 ^ 32 :=
    BitVec.toInt_eq_toNat_cond _
  have word := after.existsCount.toNat_lt
  have fits : survivors.toUInt32.toNat = survivors := Nat.mod_eq_of_lt (by omega)
  rw [and_iff_right isExact, and_iff_right messages, Numbered.getExists, length]
  split_ifs with raised
  · exact iff_of_true fits (Int.le_of_lt raised)
  · rw [signed] at raised ⊢
    split_ifs at raised ⊢ <;> omega

def oneMessage : MailboxDb where
  mailbox := some ⟨1, imappermReadwrite⟩
  rows := [⟨1, .seen, {}, 1, []⟩]
  ordered := by decide
  unique := by decide

/-- The middle one of three messages is removed, again and with one that never was there,
and another message is added. -/
theorem numbering_exact_removed :
    let after := [.remove 2, .remove 2, .remove 9, .add 5 ⟨.new, {}, 4, [], 0, false⟩].foldl
      Renumber.apply (Numbered.ofState (MailboxState.new {} threeMessages 7))
    after.Exact ∧ after.ids.keys = [1, 3, 5] ∧ after.getExists.toNat = 3 := by
  intro after
  have numbered := (numbering_exact_iff {} threeMessages 7
    [.remove 2, .remove 2, .remove 9, .add 5 ⟨.new, {}, 4, [], 0, false⟩]
    (by decide +kernel)).mpr (by decide +kernel)
  exact ⟨numbered.1, by decide +kernel, numbered.2.2.trans (by decide +kernel)⟩

/-- A deleted message that is added in the place of a message leaves the counter at 1,
with no message left. -/
theorem deleted_addition_counted :
    let after := [.add 1 ⟨.delete, {}, 1, [], 0, false⟩].foldl Renumber.apply
      (Numbered.ofState (MailboxState.new {} oneMessage 7))
    liveKeys after.msginfo = [] ∧ after.ids.keys = [] ∧ after.getExists.toNat = 1 := by
  decide +kernel

end Dbmail.Mailbox
