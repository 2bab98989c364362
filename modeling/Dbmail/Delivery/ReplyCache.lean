import Dbmail.Lib.CRuntime
import Mathlib.Data.Set.Basic
import Mathlib.Order.SuccPred.IntervalSucc

/-!
Contract: the cache of replies already sent.

Owns the three queries on its table, what the databases make of their strings and times, and
for which triples and clocks every history of calls keeps the queries in agreement.

Does not own: failing queries, and who asks for a reply.
-/

namespace Dbmail.Delivery

open Dbmail.Lib List

/-! ## Databases -/

/-- What the queries leave to the database: when its collation takes two strings for one, the
time that `SQL_CURRENT_TIMESTAMP` writes, and the time from which `SQL_EXPIRE` counts the days
back, in seconds and as they compare with each other. -/
structure ReplyDatabase where
  same : Bytes → Bytes → Bool
  current : Int → Int
  expire : Int → Int
  refl : ∀ text, same text text = true
  symm : ∀ first second, same first second = true → same second first = true
  trans : ∀ first second third, same first second = true → same second third = true →
    same first third = true

section Drivers

variable (zone : Int → Int)

/-- Bytes are compared; `lastseen` is local time, and the limit is `DATETIME('now', ...)`, which
is UTC. -/
def sqlite : ReplyDatabase where
  same first second := first = second
  current time := time + zone time
  expire time := time
  refl _ := decide_eq_true rfl
  symm _ _ equal := decide_eq_true (of_decide_eq_true equal).symm
  trans _ _ _ left right := decide_eq_true ((of_decide_eq_true left).trans (of_decide_eq_true right))

/-- The columns have the default collation of their character set, which does not look at the
case of letters. Both times are `NOW()`. -/
def mysql : ReplyDatabase where
  same first second := first.map toLower = second.map toLower
  current time := time + zone time
  expire time := time + zone time
  refl _ := decide_eq_true rfl
  symm _ _ equal := decide_eq_true (of_decide_eq_true equal).symm
  trans _ _ _ left right := decide_eq_true ((of_decide_eq_true left).trans (of_decide_eq_true right))

def postgresql : ReplyDatabase where
  __ := sqlite zone
  expire time := time + zone time

end Drivers

/-! ## The queries -/

/-- The recipient, the sender and the handle of a reply, as C strings. -/
structure ReplyKey where
  toAddr : Bytes
  fromAddr : Bytes
  handle : Bytes
deriving DecidableEq

def replycacheWidth : Nat := 100

/-- What `g_strndup` keeps of the three. -/
def ReplyKey.cut (key : ReplyKey) : ReplyKey :=
  ⟨key.toAddr.take replycacheWidth, key.fromAddr.take replycacheWidth,
    key.handle.take replycacheWidth⟩

/-- A row of the table, with its time in seconds. -/
structure ReplyRow where
  key : ReplyKey
  lastseen : Int

inductive ReplyCall where
  | register (key : ReplyKey) (now : Int)
  | unregister (key : ReplyKey)

def ReplyCall.key : ReplyCall → ReplyKey
  | .register key _ => key
  | .unregister key => key

variable (database : ReplyDatabase) (rows : List ReplyRow) (key : ReplyKey) (now : Int)

/-- `to_addr = ? AND from_addr = ? AND handle = ?`. -/
def ReplyDatabase.matches (stored asked : ReplyKey) : Bool :=
  database.same stored.toAddr asked.toAddr && database.same stored.fromAddr asked.fromAddr &&
    database.same stored.handle asked.handle

def dbReplycacheRegister : List ReplyRow :=
  if ∃ row ∈ rows, database.matches row.key key.cut = true then
    rows.map fun row =>
      if database.matches row.key key.cut then { row with lastseen := database.current now } else row
  else rows ++ [⟨key.cut, database.current now⟩]

def dbReplycacheUnregister : List ReplyRow := rows.filter fun row => !database.matches row.key key

/-- Whether a reply is refused. -/
def dbReplycacheValidate (days : Int) : Bool :=
  rows.any fun row =>
    database.matches row.key key ∧ database.expire now - days * 86400 < row.lastseen

def ReplyCall.apply (rows : List ReplyRow) : ReplyCall → List ReplyRow
  | .register key now => dbReplycacheRegister database rows key now
  | .unregister key => dbReplycacheUnregister database rows key

/-- When a reply was last registered, unless it was unregistered since. -/
def lastReply (key : ReplyKey) : Option Int → ReplyCall → Option Int
  | seen, .register other now => if other = key then some now else seen
  | seen, .unregister other => if other = key then none else seen

/-- After every history of calls for some triples, a reply to one of them is refused exactly
within the days from its own last registration. -/
def RefusesRecent (keys : Set ReplyKey) : Prop :=
  ∀ calls : List ReplyCall, (∀ call ∈ calls, call.key ∈ keys) → ∀ key ∈ keys, ∀ now days,
    dbReplycacheValidate database (calls.foldl (ReplyCall.apply database) []) key now days =
      (calls.foldl (lastReply key) none).any fun seen => now - days * 86400 < seen

/-- What is stored of a triple is found again for it, and for no other. -/
def KeysApart (keys : Set ReplyKey) : Prop :=
  ∀ key ∈ keys, ∀ other ∈ keys, database.matches key.cut other = true ↔ key = other

/-- Both clocks are off by the same time, always. -/
def ClocksAgree : Prop := ∀ seen now, database.expire now - database.current seen = now - seen

variable {database rows key now} {calls : List ReplyCall} {keys : Set ReplyKey}

theorem ReplyDatabase.matches_symm {first second : ReplyKey}
    (equal : database.matches first second = true) : database.matches second first = true := by
  simp only [ReplyDatabase.matches, Bool.and_eq_true] at equal ⊢
  exact ⟨⟨database.symm _ _ equal.1.1, database.symm _ _ equal.1.2⟩, database.symm _ _ equal.2⟩

theorem ReplyDatabase.matches_trans {first second third : ReplyKey}
    (left : database.matches first second = true) (right : database.matches second third = true) :
    database.matches first third = true := by
  simp only [ReplyDatabase.matches, Bool.and_eq_true] at left right ⊢
  exact ⟨⟨database.trans _ _ _ left.1.1 right.1.1, database.trans _ _ _ left.1.2 right.1.2⟩,
    database.trans _ _ _ left.2 right.2⟩

/-- The rows of a history are those of its triples. -/
def RowsOf (keys : Set ReplyKey) (rows : List ReplyRow) : Prop :=
  ∀ row ∈ rows, ∃ key ∈ keys, row.key = key.cut

theorem RowsOf.register (of : RowsOf keys rows) (known : key ∈ keys) :
    RowsOf keys (dbReplycacheRegister database rows key now) := by
  unfold dbReplycacheRegister
  split
  · intro row member
    obtain ⟨old, inside, rfl⟩ := mem_map.mp member
    split
    · exact of old inside
    · exact of old inside
  · intro row member
    obtain old | new := mem_append.mp member
    · exact of row old
    · cases mem_singleton.mp new
      exact ⟨key, known, rfl⟩

section Apart

variable (apart : KeysApart database keys) (of : RowsOf keys rows)

include apart of

/-- A row matches a triple of the history if it is the triple's own. -/
theorem matches_iff (row : ReplyRow) (member : row ∈ rows) {asked : ReplyKey}
    (known : asked ∈ keys) : database.matches row.key asked = true ↔ row.key = asked.cut := by
  obtain ⟨owner, owned, isCut⟩ := of row member
  rw [isCut, apart owner owned asked known]
  constructor
  · rintro rfl
    rfl
  · intro equal
    have back := (apart asked known asked known).mpr rfl
    rw [← equal] at back
    exact (apart owner owned asked known).mp back

theorem matches_cut_iff (row : ReplyRow) (member : row ∈ rows) {asked : ReplyKey}
    (known : asked ∈ keys) : database.matches row.key asked.cut = true ↔ row.key = asked.cut := by
  rw [← matches_iff apart of row member known]
  have back := (apart asked known asked known).mpr rfl
  exact ⟨fun equal => database.matches_trans equal back,
    fun equal => database.matches_trans equal (database.matches_symm back)⟩

/-- Registering a triple changes what is found for this triple only. -/
theorem validate_register {other : ReplyKey} (known : other ∈ keys) (asked : key ∈ keys)
    (time days : Int) :
    dbReplycacheValidate database (dbReplycacheRegister database rows other time) key now days =
      if other = key then decide (database.expire now - days * 86400 < database.current time)
      else dbReplycacheValidate database rows key now days := by
  have own := matches_cut_iff apart of
  have any := matches_iff apart of
  have cuts := apart other known key asked
  rw [Bool.eq_iff_iff]
  unfold dbReplycacheRegister dbReplycacheValidate
  by_cases equal : other = key
  · subst equal
    have found := cuts.mpr rfl
    rw [if_pos rfl]
    split
    · next stored =>
      obtain ⟨old, inside, isOwn⟩ := stored
      simp only [any_eq_true, mem_map, decide_eq_true_eq]
      constructor
      · rintro ⟨row, ⟨before, member, rfl⟩, matched, recent⟩
        by_cases changed : database.matches before.key other.cut = true
        · simpa [changed] using recent
        · simp only [changed] at matched
          exact absurd ((own _ member known).mpr ((any _ member known).mp matched)) changed
      · intro recent
        refine ⟨_, ⟨old, inside, rfl⟩, ?_⟩
        rw [if_pos isOwn]
        exact ⟨(any _ inside known).mpr ((own _ inside known).mp isOwn), recent⟩
    · next unknown =>
      simp only [any_append, any_cons, any_nil, Bool.or_false, Bool.or_eq_true, any_eq_true,
        decide_eq_true_eq]
      constructor
      · rintro (⟨row, member, matched, -⟩ | ⟨-, recent⟩)
        · exact absurd ⟨row, member, (own _ member known).mpr ((any _ member known).mp matched)⟩ unknown
        · exact recent
      · intro recent
        exact .inr ⟨found, recent⟩
  · have missed : ¬ database.matches other.cut key = true := fun found => equal (cuts.mp found)
    rw [if_neg equal]
    split
    · simp only [any_eq_true, mem_map, decide_eq_true_eq]
      constructor
      · rintro ⟨row, ⟨before, member, rfl⟩, matched, recent⟩
        by_cases changed : database.matches before.key other.cut = true
        · rw [if_pos changed] at matched
          rw [(own _ member known).mp changed] at matched
          exact absurd matched missed
        · rw [if_neg changed] at matched recent
          exact ⟨before, member, matched, recent⟩
      · rintro ⟨row, member, matched, recent⟩
        refine ⟨row, ⟨row, member, if_neg fun changed => ?_⟩, matched, recent⟩
        rw [(own _ member known).mp changed] at matched
        exact missed matched
    · simp [missed]

theorem validate_unregister {other : ReplyKey} (known : other ∈ keys) (asked : key ∈ keys)
    (days : Int) :
    dbReplycacheValidate database (dbReplycacheUnregister database rows other) key now days =
      if other = key then false else dbReplycacheValidate database rows key now days := by
  have any := matches_iff apart of
  by_cases equal : other = key
  · subst equal
    rw [if_pos rfl, dbReplycacheValidate, any_eq_false]
    intro row member matched
    have kept := of_mem_filter member
    rw [(of_decide_eq_true matched).1] at kept
    cases kept
  · rw [if_neg equal, Bool.eq_iff_iff]
    simp only [dbReplycacheValidate, dbReplycacheUnregister, any_eq_true, mem_filter,
      Bool.not_eq_true', decide_eq_true_eq]
    constructor
    · rintro ⟨row, ⟨member, -⟩, found⟩
      exact ⟨row, member, found⟩
    · rintro ⟨row, member, matched, recent⟩
      refine ⟨row, ⟨member, Bool.eq_false_iff.mpr fun also => equal ?_⟩, matched, recent⟩
      have cuts := (apart other known other known).mpr rfl
      rw [← (any _ member known).mp also, (any _ member asked).mp matched] at cuts
      exact ((apart key asked other known).mp cuts).symm

end Apart

theorem rowsOf_calls (inside : ∀ call ∈ calls, call.key ∈ keys) :
    RowsOf keys (calls.foldl (ReplyCall.apply database) []) := by
  induction calls using reverseRecOn with
  | nil => nofun
  | append_singleton calls call ih =>
    have before := ih fun call member => inside call (mem_append_left _ member)
    rw [foldl_append]
    cases call with
    | register key now => exact before.register (inside (.register key now) (by simp))
    | unregister key => exact fun row member => before row (mem_of_mem_filter member)

theorem refusesRecent (apart : KeysApart database keys) (agree : ClocksAgree database) :
    RefusesRecent database keys := by
  intro calls inside key asked now days
  induction calls using reverseRecOn with
  | nil => rfl
  | append_singleton calls call ih =>
    have earlier : ∀ call ∈ calls, call.key ∈ keys :=
      fun call member => inside call (mem_append_left _ member)
    have before := ih earlier
    have rows := @rowsOf_calls database _ _ earlier
    rw [foldl_append, foldl_append]
    cases call with
    | register other time =>
      have known : other ∈ keys := inside (.register other time) (by simp)
      refine (validate_register apart rows known asked time days).trans ?_
      have clocks := agree time now
      simp only [foldl_cons, foldl_nil, lastReply]
      by_cases equal : other = key
      · rw [if_pos equal, if_pos equal]
        exact decide_eq_decide.mpr (by omega)
      · rw [if_neg equal, if_neg equal, before]
    | unregister other =>
      have known : other ∈ keys := inside (.unregister other) (by simp)
      refine (validate_unregister apart rows known asked days).trans ?_
      simp only [foldl_cons, foldl_nil, lastReply]
      by_cases equal : other = key
      · rw [if_pos equal, if_pos equal]
        rfl
      · rw [if_neg equal, if_neg equal, before]

/-- Two clocks that tell the same days apart at all times agree to the second: the difference
of the one grows into that of the other round a whole day. -/
theorem clocksAgree (told : ∀ seen now days : Int,
    database.expire now - days * 86400 < database.current seen ↔ now - days * 86400 < seen) :
    ClocksAgree database := by
  have below (seen now : Int) (days : Int) (apart : now - seen = 86400 * days) :
      database.current seen - seen ≤ database.expire now - now := by
    have := told seen now days
    omega
  have above (seen now : Int) (days : Int) (apart : now - seen = 86400 * days - 1) :
      database.expire now - now ≤ database.current seen - seen := by
    have := told seen now days
    omega
  have grows : Monotone fun seen => database.current seen - seen := by
    apply monotone_int_of_le_succ
    intro seen
    exact (below seen seen 0 (by omega)).trans (above (seen + 1) seen 0 (by omega))
  have constant (first second : Int) :
      database.current first - first ≤ database.current second - second := by
    -- from days before both of them
    obtain ⟨days, early⟩ : ∃ days : Nat, first - 86400 * days + 1 ≤ second :=
      ⟨(first - second + 1).toNat, by omega⟩
    calc database.current first - first
        ≤ database.expire (first - 86400 * days) - (first - 86400 * days) :=
          below first _ (-days) (by omega)
      _ ≤ database.current (first - 86400 * days + 1) - (first - 86400 * days + 1) :=
          above _ _ 0 (by omega)
      _ ≤ database.current second - second := grows early
  intro seen now
  have low := below now now 0 (by omega)
  have high := above (now + 1) now 0 (by omega)
  have left := constant seen now
  have right := constant (now + 1) seen
  omega

/-- One registration is enough to tell a triple from the others and to compare the clocks. -/
theorem refusesRecent_iff : RefusesRecent database keys ↔
    KeysApart database keys ∧ (keys.Nonempty → ClocksAgree database) := by
  constructor
  · intro refuses
    have once (key : ReplyKey) (known : key ∈ keys) (seen : Int) (other : ReplyKey)
        (asked : other ∈ keys) (now days : Int) :
        (database.matches key.cut other = true ∧
            database.expire now - days * 86400 < database.current seen) ↔
          key = other ∧ now - days * 86400 < seen := by
      have refused := refuses [.register key seen] (by simpa [ReplyCall.key] using known) other asked
        now days
      rw [Bool.eq_iff_iff] at refused
      simp only [foldl_cons, foldl_nil, ReplyCall.apply, dbReplycacheRegister, dbReplycacheValidate,
        lastReply] at refused
      by_cases equal : key = other
      · simpa [equal] using refused
      · simpa [equal] using refused
    constructor
    · intro key known other asked
      constructor
      · intro found
        exact ((once key known 0 other asked 0
          (max (database.expire 0 - database.current 0) 0 + 1)).mp ⟨found, by omega⟩).1
      · intro equal
        exact ((once key known 0 other asked 0 1).mpr ⟨equal, by decide⟩).1
    · rintro ⟨key, known⟩
      have found : database.matches key.cut key = true :=
        ((once key known 0 key known 0 1).mpr ⟨rfl, by decide⟩).1
      exact clocksAgree fun seen now days => by simpa [found] using once key known seen key known now days
  · rintro ⟨apart, agree⟩
    by_cases some_ : keys.Nonempty
    · exact refusesRecent apart (agree some_)
    · intro calls inside key asked
      exact absurd ⟨key, asked⟩ some_

/-! ## The databases of the program -/

def ReplyKey.Short (key : ReplyKey) : Prop :=
  key.toAddr.length ≤ replycacheWidth ∧ key.fromAddr.length ≤ replycacheWidth ∧
    key.handle.length ≤ replycacheWidth

def ReplyKey.lower (key : ReplyKey) : ReplyKey :=
  ⟨key.toAddr.map toLower, key.fromAddr.map toLower, key.handle.map toLower⟩

theorem ReplyKey.cut_eq_iff : key.cut = key ↔ key.Short := by
  cases key
  simp [cut, Short, take_eq_self_iff]

theorem sqlite_keysApart_iff (zone : Int → Int) :
    KeysApart (sqlite zone) keys ↔ ∀ key ∈ keys, key.Short := by
  have exact_ (first second : ReplyKey) :
      (sqlite zone).matches first second = true ↔ first = second := by
    cases first
    cases second
    simp [ReplyDatabase.matches, sqlite, and_assoc]
  simp only [KeysApart, exact_, ← ReplyKey.cut_eq_iff]
  constructor
  · intro apart key known
    exact (apart key known key known).mpr rfl
  · intro short key known other asked
    rw [short key known]

theorem mysql_keysApart_iff (zone : Int → Int) :
    KeysApart (mysql zone) keys ↔ (∀ key ∈ keys, key.Short) ∧
      ∀ key ∈ keys, ∀ other ∈ keys, key.lower = other.lower → key = other := by
  have caseless (first second : ReplyKey) :
      (mysql zone).matches first second = true ↔ first.lower = second.lower := by
    simp [ReplyDatabase.matches, mysql, ReplyKey.lower, and_assoc]
  simp only [KeysApart, caseless]
  constructor
  · intro apart
    have short : ∀ key ∈ keys, key.Short := by
      intro key known
      have found := (apart key known key known).mpr rfl
      simp only [ReplyKey.lower, ReplyKey.cut, ReplyKey.mk.injEq] at found
      have lengths := And.intro (congrArg length found.1)
        (And.intro (congrArg length found.2.1) (congrArg length found.2.2))
      simp only [length_map, length_take] at lengths
      unfold ReplyKey.Short
      omega
    refine ⟨short, fun key known other asked equal => (apart key known other asked).mp ?_⟩
    rw [ReplyKey.cut_eq_iff.mpr (short key known), equal]
  · rintro ⟨short, apart⟩ key known other asked
    rw [ReplyKey.cut_eq_iff.mpr (short key known)]
    exact ⟨apart key known other asked, congrArg _⟩

def jan : ReplyKey := ⟨lit "jan@x", lit "piet@x", lit "away"⟩

end Dbmail.Delivery
