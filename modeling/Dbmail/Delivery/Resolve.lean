import Dbmail.Auth.Accounts
import Dbmail.Delivery.Insert
import Dbmail.Lib.NumberSet
import Dbmail.Lib.Split
import Mathlib.Data.List.MinMax
import Mathlib.Logic.Relation
import Mathlib.Order.Nat

/-!
Contract: how the address of a recipient is resolved to users and forwards.

Owns the table of aliases, `auth_check_user_ext` (`authsql.c`), the steps of
`dsnuser_resolve` (`dm_dsn.c`) with `zap_between` and the domain loop, over
tables whose queries all succeed; what the tables make reachable from an address;
and the exact addresses for which the lists of a delivery hold that.

Does not own: the delivery to the users and forwards found. The count of
`auth_check_user_ext` is taken to fit an `int`.
-/

namespace Dbmail.Delivery

open Dbmail.Lib Dbmail.Auth List

/-! ## The tables -/

/-- A row of `dbmail_aliases`. -/
structure AliasRow where
  alias_ : Bytes
  deliverTo : Bytes
deriving DecidableEq, Repr

structure AddressBook where
  aliases : List AliasRow
  users : UserTable

/-- `user_get_deliver_to`. -/
def AddressBook.deliverTo (book : AddressBook) (address : Bytes) : List Bytes :=
  ((book.aliases.filter fun row =>
    strcasecmpEq row.alias_ address && !strcasecmpEq row.alias_ row.deliverTo).map
      AliasRow.deliverTo).reverse

/-! ## The expansion of aliases -/

/-- The lists `userids` and `forwards` of a delivery. -/
structure Targets where
  userids : List Nat := []
  forwards : List Bytes := []
deriving DecidableEq, Repr

/-- `strtoull(username, &endptr, 10)` when it reads the whole text. -/
def numericUserid (username : Bytes) : Option Nat :=
  if (strtoul username).2 = [] then some (strtoul username).1 else none

variable (book : AddressBook)

/-- The end of a chain of aliases in `auth_check_user_ext`. -/
def AddressBook.found (username : Bytes) (targets : Targets) : Targets × Nat :=
  match numericUserid username with
  | some id =>
    if dbUserActive book.users false id then
      ({ targets with userids := id :: targets.userids }, 1)
    else (targets, 0)
  -- a forward is not counted
  | none => ({ targets with forwards := username :: targets.forwards }, 0)

/-- `auth_check_user_ext` with `checks` levels left before it gives up. -/
def AddressBook.checkUserExt (book : AddressBook) :
    (left : Nat) → (first : Bool) → (username : Bytes) → Targets → Targets × Nat
  | 0, _, _, targets => (targets, 0)
  | left + 1, first, username, targets =>
    match book.deliverTo username with
    | [] => if first then (targets, 0) else book.found username targets
    | deliverTo =>
      deliverTo.foldl
        (fun (sofar : Targets × Nat) next =>
          let deeper := book.checkUserExt left false next sofar.1
          (deeper.1, sofar.2 + deeper.2))
        (targets, 0)

/-- A call with `checks = 0`, which goes on while `checks` is at most 20. -/
def AddressBook.checkUser (username : Bytes) (targets : Targets) : Targets × Nat :=
  book.checkUserExt 21 true username targets

/-! ## The steps -/

/-- `zap_between(address, -'+', '@', ..)`. With the last `@` before the first `+` the
move goes beyond the end of the copy. -/
def zapBetween (address : Bytes) : Except Fault (Option Bytes) :=
  match address.findIdx? (· = 43), address.reverse.findIdx? (· = 64) with
  | some start, some fromEnd =>
    let finish := address.length - 1 - fromEnd
    if finish < start then .error .outOfBounds
    else .ok (some (address.take start ++ address.drop finish))
  | _, _ => .ok none

/-- `address_is_username`, and `address_is_username_mailbox` behind `zap_between`. -/
def AddressBook.username (address : Bytes) (targets : Targets) : Targets × Nat :=
  let userid := dbUserExists book.users false address
  if userid = 0 then (targets, 0)
  else ({ targets with userids := userid :: targets.userids }, 1)

/-- The next shorter domain of `address_is_domain_catchall`. -/
def nextDomain (myDomain : Bytes) : Option Bytes :=
  match myDomain.findIdx? (· = 46) with
  | none => none
  | some 0 => none
  | some 1 =>
    match (myDomain.drop 2).findIdx? (· = 46) with
    | none => none
    | some further => some (myDomain.take 1 ++ myDomain.drop (2 + further))
  | some dot => some (myDomain.take 1 ++ myDomain.drop dot)

/-- The loop of `address_is_domain_catchall` over a lookup that adds to what is found and returns a
count; `none` when the rounds run out. Every round shortens the domain. -/
def domainLoop {α : Type} (check : Bytes → α → α × Int) : Nat → Bytes → α → Option (α × Int)
  | 0, _, _ => none
  | rounds + 1, myDomain, found =>
    let checked := check myDomain found
    if 0 < checked.2 then some checked
    else match nextDomain myDomain with
      | none => some checked
      | some shorter => domainLoop check rounds shorter checked.1

/-- `address_is_domain_catchall`. -/
def AddressBook.domainCatchall (address : Bytes) (targets : Targets) : Option (Targets × Nat) :=
  match address.dropWhile (· ≠ 64) with
  | [] => some (targets, 0)
  | domain =>
    (domainLoop (fun name found => (book.checkUser name found).map id Nat.cast) domain.length domain
      targets).map fun looped => looped.map id Int.toNat

/-- `address_is_userpart_catchall`. -/
def AddressBook.userpartCatchall (address : Bytes) (targets : Targets) : Targets × Nat :=
  if address.contains 64 then
    book.checkUser (address.takeWhile (· ≠ 64) ++ [64]) targets
  else (targets, 0)

/-- A delivery after `dsnuser_resolve`. -/
structure Resolution where
  status : Int
  targets : Targets
  dsn : Dsn
deriving DecidableEq, Repr

/-- The statuses that `dsnuser_resolve` sets. -/
def Dsn.valid : Dsn := ⟨.ok, 1, 5⟩
def Dsn.unknown : Dsn := ⟨.fail, 1, 1⟩
def Dsn.unset : Dsn := ⟨.none, 0, 0⟩

/-- An `else if` of `dsnuser_resolve`: a lookup that counts settles the delivery. -/
def orElse (checked : Targets × Nat) (next : Targets → Except Fault Resolution) :
    Except Fault Resolution :=
  if 0 < checked.2 then .ok ⟨0, checked.1, .valid⟩ else next checked.1

/-- `dsnuser_resolve` for a delivery as `dsnuser_init` leaves it, with its `useridnr` and
address set. -/
def AddressBook.resolve (useridnr : Nat) (address : Bytes) : Except Fault Resolution :=
  if useridnr ≠ 0 then
    -- `auth_check_userid`
    if (book.users.byIdnr useridnr).isSome ∧ dbUserActive book.users false useridnr then
      .ok ⟨0, { userids := [useridnr] }, .valid⟩
    else .ok ⟨0, {}, .unknown⟩
  else if address = [] then .ok ⟨-1, {}, .unset⟩
  else
    orElse (book.checkUser address {}) fun targets => do
    let zapped ← zapBetween address
    orElse (zapped.elim (targets, 0) fun newaddress => book.checkUser newaddress targets)
      fun targets =>
    orElse (book.username address targets) fun targets => do
    let zapped ← zapBetween address
    orElse (zapped.elim (targets, 0) fun newaddress => book.username newaddress targets)
      fun targets =>
    orElse ((book.domainCatchall address targets).getD (targets, 0)) fun targets =>
    orElse (book.userpartCatchall address targets) fun targets =>
    .ok ⟨0, targets, .unknown⟩

/-! ## What the tables make reachable -/

inductive Target where
  | user (id : Nat)
  | forward (address : Bytes)
deriving DecidableEq, Repr

/-- A user's number as it is written. -/
def plainNumber (text : Bytes) : Option Nat :=
  if text ≠ [] ∧ text.all isDigit ∧ decimal text < 2 ^ 64 then some (decimal text) else none

/-- The target at the end of a chain: an active user for a number, a forward for
anything else. -/
def AddressBook.target (username : Bytes) : Option Target :=
  match plainNumber username with
  | some id => if dbUserActive book.users false id then some (.user id) else none
  | none => some (.forward username)

def AddressBook.Edge (alias_ address : Bytes) : Prop :=
  address ∈ book.deliverTo alias_

/-- The target is at the end of a chain of aliases that starts at the name. -/
def AddressBook.Reaches (name : Bytes) (target : Target) : Prop :=
  ∃ last, Relation.TransGen book.Edge name last ∧ book.deliverTo last = [] ∧
    book.target last = some target

def AddressBook.Chain (book : AddressBook) : Nat → Bytes → Bytes → Prop
  | 0, name, last => name = last
  | levels + 1, name, last => ∃ next, book.Edge name next ∧ book.Chain levels next last

/-- The target is reached over at most 20 aliases. -/
def AddressBook.ReachesSoon (name : Bytes) (target : Target) : Prop :=
  ∃ levels last, 0 < levels ∧ levels ≤ 20 ∧ book.Chain levels name last ∧
    book.deliverTo last = [] ∧ book.target last = some target

/-- A step of the documented order: a name is looked up as an alias or as a user. -/
inductive Step where
  | alias_ (name : Bytes)
  | username (name : Bytes)
deriving DecidableEq, Repr

def AddressBook.Yields : Step → Target → Prop
  | .alias_ name, target => book.Reaches name target
  | .username name, target =>
    ∃ row, book.users.byName name = some row ∧ target = .user row.userIdnr

/-- What stands at the ends of the chains of at most 20 aliases is read by `strtoull` to its end only
if it is a number of a user. -/
def AddressBook.PlainEnds : Step → Prop
  | .alias_ name => ∀ levels last, 0 < levels → levels ≤ 20 → book.Chain levels name last →
      book.deliverTo last = [] → numericUserid last = plainNumber last
  | .username _ => True

/-- The targets of a step over at most 20 aliases. -/
def AddressBook.YieldsSoon : Step → Target → Prop
  | .alias_ name, target => book.ReachesSoon name target
  | .username name, target => book.Yields (.username name) target

/-- The address without its extension, which is between the first `+` and the last `@`. -/
def withoutExtension (address : Bytes) : Option Bytes :=
  let rest := address.dropWhile (· ≠ 43)
  if 64 ∈ rest then some (address.takeWhile (· ≠ 43) ++ 64 :: rest.rtakeWhile (· ≠ 64)) else none

/-- There is an `@`, and a `+` behind the last one but none before it. -/
def PlusBehindAt (address : Bytes) : Prop :=
  43 ∈ address ∧ 64 ∈ address ∧ 64 ∉ address.dropWhile (· ≠ 43)

instance : DecidablePred PlusBehindAt := fun address =>
  inferInstanceAs (Decidable (43 ∈ address ∧ 64 ∈ address ∧ 64 ∉ address.dropWhile (· ≠ 43)))

def dotSuffixes : Bytes → List Bytes
  | [] => []
  | byte :: rest => if byte = 46 then (byte :: rest) :: dotSuffixes rest else dotSuffixes rest

/-- The domain with its `@`, then without its first label, and so on. -/
def catchallDomains (address : Bytes) : List Bytes :=
  match address.dropWhile (· ≠ 64) with
  | [] => []
  | domain => domain :: (dotSuffixes (domain.drop 2)).map fun suffix => 64 :: suffix

/-- The local part with its `@`. -/
def catchallUserpart (address : Bytes) : List Bytes :=
  if address.contains 64 then [address.takeWhile (· ≠ 64) ++ [64]] else []

def documentedSteps (address : Bytes) : List Step :=
  .alias_ address :: (withoutExtension address).toList.map .alias_ ++
    .username address :: (withoutExtension address).toList.map .username ++
    (catchallDomains address).map .alias_ ++ (catchallUserpart address).map .alias_

open AddressBook

/-! ## What one lookup adds -/

def Targets.Has (targets : Targets) : Target → Prop
  | .user id => id ∈ targets.userids
  | .forward address => address ∈ targets.forwards

/-- A lookup adds what it yields to the lists, and counts if there is a user in it. -/
structure Adds (before : Targets) (result : Targets × Nat) (yields : Target → Prop) : Prop where
  has : ∀ target, result.1.Has target ↔ before.Has target ∨ yields target
  counted : 0 < result.2 ↔ ∃ id, yields (.user id)

theorem Adds.congr {before : Targets} {result : Targets × Nat} {yields others : Target → Prop}
    (adds : Adds before result yields) (same : ∀ target, yields target ↔ others target) :
    Adds before result others :=
  ⟨fun target => by rw [adds.has, same], by simp [adds.counted, same]⟩

theorem adds_nothing (targets : Targets) : Adds targets (targets, 0) fun _ => False :=
  ⟨fun _ => by simp, by simp⟩

theorem adds_user (targets : Targets) (id : Nat) :
    Adds targets ({ targets with userids := id :: targets.userids }, 1)
      fun target => target = .user id := by
  refine ⟨fun target => ?_, by simp⟩
  cases target with
  | user other => simp [Targets.Has, or_comm]
  | forward address => simp [Targets.Has]

section Expansion

variable (book : AddressBook)

/-- The rows at these places lead from one name to the other. -/
def AddressBook.Leads (book : AddressBook) : Bytes → List Nat → Bytes → Prop
  | name, [], last => name = last
  | name, place :: rest, last =>
    ∃ next, (book.deliverTo name)[place]? = some next ∧ book.Leads next rest last

/-- The ways with fewer rows than that to a name without alias. -/
def AddressBook.paths (book : AddressBook) : Nat → Bytes → List (List Nat × Bytes)
  | 0, _ => []
  | left + 1, name =>
    if book.deliverTo name = [] then [([], name)]
    else (book.deliverTo name).zipIdx.flatMap fun row =>
      (book.paths left row.1).map fun path => (row.2 :: path.1, path.2)

theorem mem_paths_iff (left : Nat) (name : Bytes) (places : List Nat) (last : Bytes) :
    (places, last) ∈ book.paths left name ↔
      places.length < left ∧ book.Leads name places last ∧ book.deliverTo last = [] := by
  induction left generalizing name places with
  | zero => simp [paths]
  | succ left ih =>
    rw [paths]
    split_ifs with ends
    · cases places with
      | nil => grind [Leads]
      | cons place rest => simp [Leads, ends]
    · cases places with
      | nil => grind [Leads]
      | cons place rest =>
        simp only [mem_flatMap, mem_map, Prod.exists, Prod.mk.injEq, cons.injEq, Leads,
          mem_zipIdx_iff_getElem?]
        grind

theorem paths_nodup (left : Nat) (name : Bytes) : (book.paths left name).Nodup := by
  induction left generalizing name with
  | zero => exact nodup_nil
  | succ left ih =>
    rw [paths]
    split_ifs
    · exact nodup_singleton _
    · refine nodup_flatMap.2 ⟨fun row _ => (ih row.1).map ?_, ?_⟩
      · intro path other same
        simpa [Prod.ext_iff] using same
      · refine (pairwise_map.1 (zipIdx_map_snd 0 (book.deliverTo name) ▸ nodup_range')).imp ?_
        intro row other differ path member otherMember
        grind

/-- What the ends of ways give, by the texts that are taken for the number of a user. -/
def AddressBook.collect (number : Bytes → Option Nat) (ends : List Bytes) (targets : Targets) :
    Targets × Nat :=
  let ids := ends.filterMap fun last => (number last).filter (dbUserActive book.users false)
  ({ userids := ids.reverse ++ targets.userids
     forwards := (ends.filter fun last => number last = none).reverse ++ targets.forwards },
    ids.length)

theorem foldl_collect {number : Bytes → Option Nat} {lookup : Bytes → Targets → Targets × Nat}
    {ends : Bytes → List Bytes}
    (each : ∀ name targets, lookup name targets = book.collect number (ends name) targets)
    (names : List Bytes) (targets : Targets) (count : Nat) :
    names.foldl (fun (sofar : Targets × Nat) name =>
        ((lookup name sofar.1).1, sofar.2 + (lookup name sofar.1).2)) (targets, count) =
      ((book.collect number (names.flatMap ends) targets).1,
        count + (book.collect number (names.flatMap ends) targets).2) := by
  induction names generalizing targets count with
  | nil => simp [collect]
  | cons head tail ih =>
    rw [foldl_cons, each, ih]
    simp [collect, Nat.add_assoc]

theorem checkUserExt_eq (left : Nat) (name : Bytes) (targets : Targets) :
    book.checkUserExt left false name targets =
      book.collect numericUserid ((book.paths left name).map Prod.snd) targets := by
  induction left generalizing name targets with
  | zero => rfl
  | succ left ih =>
    cases names : book.deliverTo name with
    | nil =>
      simp only [checkUserExt, paths, names, found]
      cases number : numericUserid name with
      | none => simp [collect, number]
      | some id =>
        by_cases active : dbUserActive book.users false id
        · simp [collect, Option.filter, number, active]
        · simp [collect, number, active]
    | cons head tail =>
      have folded := foldl_collect book ih (head :: tail) targets 0
      have ends : ((head :: tail).zipIdx.flatMap fun row => (book.paths left row.1).map
          fun path => (row.2 :: path.1, path.2)).map Prod.snd =
            (head :: tail).flatMap fun next => (book.paths left next).map Prod.snd := by
        conv_rhs => rw [← zipIdx_map_fst 0 (head :: tail), flatMap_map]
        simp only [map_flatMap, map_map, Function.comp_def]
      rw [paths, names, if_neg (cons_ne_nil head tail), ends]
      simpa [checkUserExt, names] using folded

def AddressBook.AliasPath (name : Bytes) (places : List Nat) (last : Bytes) : Prop :=
  0 < places.length ∧ places.length ≤ 20 ∧ book.Leads name places last ∧ book.deliverTo last = []

def AddressBook.ways (name : Bytes) : List (List Nat × Bytes) :=
  (book.paths 21 name).filter (·.1 ≠ [])

theorem mem_ways_iff (name : Bytes) (places : List Nat) (last : Bytes) :
    (places, last) ∈ book.ways name ↔ book.AliasPath name places last := by
  rw [ways, mem_filter, mem_paths_iff, AliasPath]
  grind

theorem checkUser_eq (name : Bytes) (targets : Targets) :
    book.checkUser name targets =
      book.collect numericUserid ((book.ways name).map Prod.snd) targets := by
  by_cases ends : book.deliverTo name = []
  · simp [checkUser, checkUserExt, ways, paths, ends, collect]
  · have all : book.ways name = book.paths 21 name := by
      refine filter_eq_self.2 fun path member => ?_
      have follows := (mem_paths_iff book 21 name path.1 path.2).1 member
      grind [Leads]
    rw [all, ← checkUserExt_eq, checkUser]
    simp [checkUserExt]

theorem chain_iff (levels : Nat) (name last : Bytes) :
    book.Chain levels name last ↔ ∃ places, places.length = levels ∧ book.Leads name places last := by
  induction levels generalizing name with
  | zero => simp [AddressBook.Chain, Leads]
  | succ levels ih =>
    simp only [AddressBook.Chain, Edge, ih, mem_iff_getElem?]
    constructor
    · rintro ⟨next, ⟨place, row⟩, places, rfl, leads⟩
      exact ⟨place :: places, rfl, next, row, leads⟩
    · rintro ⟨_ | ⟨place, places⟩, counted, leads⟩
      · cases counted
      · obtain ⟨next, row, leads⟩ := leads
        exact ⟨next, ⟨place, row⟩, places, Nat.succ.inj counted, leads⟩

theorem collect_adds (ends : List Bytes) (targets : Targets) :
    Adds targets (book.collect plainNumber ends targets)
      fun target => ∃ last ∈ ends, book.target last = some target := by
  have user : ∀ last id, book.target last = some (.user id) ↔
      (plainNumber last).filter (dbUserActive book.users false) = some id := by
    grind [AddressBook.target, Option.filter]
  have forward : ∀ last address, book.target last = some (.forward address) ↔
      plainNumber last = none ∧ last = address := by
    grind [AddressBook.target]
  refine ⟨fun target => ?_, ?_⟩
  · cases target with
    | user id => simp [Targets.Has, collect, user, or_comm]
    | forward address => simp [Targets.Has, collect, forward, or_comm, and_comm]
  · simp only [collect, length_pos_iff_exists_mem, mem_filterMap, user]

theorem collect_congr {ends : List Bytes}
    (same : ∀ last ∈ ends, numericUserid last = plainNumber last) (targets : Targets) :
    book.collect numericUserid ends targets = book.collect plainNumber ends targets := by
  have forwards := filter_congr fun last member =>
    congrArg (fun number => decide (number = none)) (same last member)
  have users := filterMap_congr fun last member =>
    congrArg (fun number => number.filter (dbUserActive book.users false)) (same last member)
  unfold collect
  rw [users, forwards]

theorem deliverTo_row {name address : Bytes} (edge : book.Edge name address) :
    ∃ row ∈ book.aliases, row.deliverTo = address := by
  obtain ⟨row, kept, rfl⟩ := mem_map.mp (mem_reverse.mp edge)
  exact ⟨row, (mem_filter.mp kept).1, rfl⟩

theorem chain_row {levels : Nat} {name last : Bytes} (positive : 0 < levels)
    (chain : book.Chain levels name last) : ∃ row ∈ book.aliases, row.deliverTo = last := by
  induction levels generalizing name with
  | zero => cases positive
  | succ levels ih =>
    obtain ⟨next, edge, rest⟩ := chain
    cases levels with
    | zero => exact rest ▸ deliverTo_row book edge
    | succ levels => exact ih (Nat.succ_pos levels) rest

theorem plainEnds_of_rows
    (plain : ∀ row ∈ book.aliases, numericUserid row.deliverTo = plainNumber row.deliverTo)
    (step : Step) : book.PlainEnds step := by
  cases step with
  | alias_ name =>
    intro levels last positive _ chain _
    obtain ⟨row, member, rfl⟩ := chain_row book positive chain
    exact plain row member
  | username name => exact trivial

theorem checkUser_adds {username : Bytes} (plain : book.PlainEnds (.alias_ username))
    (targets : Targets) :
    Adds targets (book.checkUser username targets) (book.ReachesSoon username) := by
  have same : ∀ last ∈ (book.ways username).map Prod.snd, numericUserid last = plainNumber last := by
    intro last member
    obtain ⟨way, found, rfl⟩ := mem_map.mp member
    obtain ⟨positive, short, leads, ends⟩ := (mem_ways_iff book username way.1 way.2).mp found
    exact plain _ _ positive short ((chain_iff book _ _ _).mpr ⟨way.1, rfl, leads⟩) ends
  rw [checkUser_eq, collect_congr book same]
  refine (collect_adds book _ targets).congr fun target => ?_
  simp only [mem_map, Prod.exists, mem_ways_iff, exists_eq_right, AliasPath, ReachesSoon, chain_iff]
  grind

theorem numericUserid_of_plain {text : Bytes} {id : Nat} (plain : plainNumber text = some id) :
    numericUserid text = some id := by
  unfold plainNumber at plain
  split_ifs at plain with number
  rw [numericUserid, strtoul_digits number.2.1, if_pos rfl, if_neg (Nat.not_le.2 number.2.2)]
  exact plain

/-- One entry for each way: a user's number unless the account is inactive, or a forward. -/
def AddressBook.ExpandsExactly (name : Bytes) (targets : Targets) : Prop :=
  ∃ ways : List (List Nat × Bytes), ways.Nodup ∧
    (∀ places last, (places, last) ∈ ways ↔ book.AliasPath name places last) ∧
    book.checkUser name targets = book.collect plainNumber (ways.map Prod.snd) targets

theorem numericUserid_of_exact {name last : Bytes} {targets : Targets} {places : List Nat}
    (exact : book.ExpandsExactly name targets) (path : book.AliasPath name places last) :
    numericUserid last = plainNumber last := by
  obtain ⟨ways, -, members, result⟩ := exact
  cases plain : plainNumber last with
  | some id => exact numericUserid_of_plain plain
  | none =>
    rw [checkUser_eq] at result
    have forwards : ((book.ways name).map Prod.snd).filter (fun last => numericUserid last = none) =
        (ways.map Prod.snd).filter fun last => plainNumber last = none := by
      simpa [collect] using congrArg (·.1.forwards) result
    have member : last ∈ (ways.map Prod.snd).filter fun last => plainNumber last = none :=
      mem_filter.2 ⟨mem_map_of_mem ((members places last).2 path), by simpa using plain⟩
    rw [← forwards] at member
    simpa using (mem_filter.1 member).2

/-- How deep the calls nest below one with so many levels left. -/
def AddressBook.nesting (book : AddressBook) : Nat → Bytes → Nat
  | 0, _ => 0
  | left + 1, name =>
    ((book.deliverTo name).map fun next => book.nesting left next + 1).foldr max 0

theorem nesting_le (left : Nat) (name : Bytes) : book.nesting left name ≤ left := by
  induction left generalizing name with
  | zero => exact le_rfl
  | succ left ih =>
    refine max_le_of_forall_le (α := Nat) _ _ fun depth member => ?_
    obtain ⟨next, -, rfl⟩ := mem_map.1 member
    exact Nat.succ_le_succ (ih next)

theorem checkUser_exact_iff (name : Bytes) (targets : Targets) :
    (book.ExpandsExactly name targets ↔
      ∀ places last, book.AliasPath name places last → numericUserid last = plainNumber last) ∧
    book.nesting 21 name ≤ 21 := by
  refine ⟨⟨fun exact places last => numericUserid_of_exact book exact, fun agree => ?_⟩,
    nesting_le book 21 name⟩
  refine ⟨_, (paths_nodup book 21 name).filter _, mem_ways_iff book name, ?_⟩
  have same : ∀ last ∈ (book.ways name).map Prod.snd, numericUserid last = plainNumber last := by
    intro last member
    obtain ⟨way, found, rfl⟩ := mem_map.1 member
    exact agree way.1 way.2 ((mem_ways_iff book name way.1 way.2).1 found)
  rw [checkUser_eq, collect_congr book same]
  rfl

def emptyAlias : AddressBook := ⟨[⟨lit "a", []⟩], ⟨[], nodup_nil, by simp⟩⟩

/-- An alias for nothing is delivered to user 0. -/
theorem checkUser_emptyAlias : ¬ emptyAlias.ExpandsExactly (lit "a") {} := by
  intro exact
  have path : emptyAlias.AliasPath (lit "a") [0] [] :=
    ⟨by decide, by decide, ⟨[], by decide +kernel, rfl⟩, by decide +kernel⟩
  exact absurd (numericUserid_of_exact _ exact path) (by decide +kernel)

theorem transGen_of_chain {levels : Nat} {name last : Bytes} (positive : 0 < levels)
    (chain : book.Chain levels name last) : Relation.TransGen book.Edge name last := by
  induction levels generalizing name with
  | zero => exact absurd positive (lt_irrefl 0)
  | succ levels ih =>
    obtain ⟨next, edge, rest⟩ := chain
    cases levels with
    | zero =>
      cases rest
      exact .single edge
    | succ levels => exact .head edge (ih (Nat.succ_pos levels) rest)

theorem reaches_of_soon {name : Bytes} {target : Target} (soon : book.ReachesSoon name target) :
    book.Reaches name target := by
  obtain ⟨levels, last, positive, -, chain, rest⟩ := soon
  exact ⟨last, transGen_of_chain book positive chain, rest⟩

theorem yields_of_soon {step : Step} {target : Target} (soon : book.YieldsSoon step target) :
    book.Yields step target := by
  cases step with
  | alias_ name => exact reaches_of_soon book soon
  | username name => exact soon

end Expansion

/-! ## The steps in order -/

section Steps

variable (book : AddressBook)

def AddressBook.attempt : Step → Targets → Targets × Nat
  | .alias_ name => book.checkUser name
  | .username name => book.username name

theorem attempt_adds {step : Step} (plain : book.PlainEnds step) (targets : Targets) :
    Adds targets (book.attempt step targets) (book.YieldsSoon step) := by
  cases step with
  | alias_ name => exact checkUser_adds book plain targets
  | username name =>
    show Adds targets (book.username name targets) fun target =>
      ∃ row, book.users.byName name = some row ∧ target = .user row.userIdnr
    unfold username dbUserExists
    cases found : book.users.byName name with
    | none => exact (adds_nothing targets).congr fun target => by simp
    | some row =>
      have positive : row.userIdnr ≠ 0 := by
        have range := book.users.keyRange row (UserTable.byName_mem found)
        omega
      simp only [Bool.false_eq_true, if_false, if_neg positive]
      exact (adds_user targets row.userIdnr).congr fun target => by simp

/-- Step after step, until one counts. -/
def AddressBook.tryAll : List Step → Targets → Targets × Nat
  | [], targets => (targets, 0)
  | step :: rest, targets =>
    if 0 < (book.attempt step targets).2 then book.attempt step targets
    else AddressBook.tryAll rest (book.attempt step targets).1

theorem tryAll_append (first second : List Step) (targets : Targets) :
    book.tryAll (first ++ second) targets =
      if 0 < (book.tryAll first targets).2 then book.tryAll first targets
      else book.tryAll second (book.tryAll first targets).1 := by
  induction first generalizing targets with
  | nil => simp [tryAll]
  | cons step rest ih =>
    simp only [cons_append, tryAll]
    by_cases counts : 0 < (book.attempt step targets).2
    · simp [counts]
    · simp only [if_neg counts]
      exact ih _

/-- The step yields a user over at most 20 aliases. -/
def AddressBook.UserSoon (step : Step) : Prop := ∃ id, book.YieldsSoon step (.user id)

/-- The steps that are tried: up to the first that yields a user soon. -/
def AddressBook.Tried (steps tried : List Step) (counts : Bool) : Prop :=
  if counts then
    ∃ before last after, FirstSplit book.UserSoon steps before last after ∧ tried = before ++ [last]
  else tried = steps ∧ ∀ step ∈ steps, ¬ book.UserSoon step

/-- What the steps leave in the lists is what those that are tried yield. -/
theorem tryAll_tried {steps : List Step} (plain : ∀ step ∈ steps, book.PlainEnds step)
    (targets : Targets) :
    ∃ tried, book.Tried steps tried (decide (0 < (book.tryAll steps targets).2)) ∧
      ∀ target, (book.tryAll steps targets).1.Has target ↔
        targets.Has target ∨ ∃ step ∈ tried, book.YieldsSoon step target := by
  induction steps generalizing targets with
  | nil => exact ⟨[], by simp [Tried, tryAll], by simp [tryAll]⟩
  | cons step rest ih =>
    have adds := attempt_adds book (plain step mem_cons_self) targets
    by_cases counts : 0 < (book.attempt step targets).2
    · simp only [tryAll, if_pos counts]
      refine ⟨[step], ?_, fun target => by rw [adds.has]; simp⟩
      unfold Tried
      rw [if_pos (by simpa using counts)]
      exact ⟨[], step, rest, ⟨rfl, by simp, adds.counted.mp counts⟩, rfl⟩
    · simp only [tryAll, if_neg counts]
      have noUser : ¬ book.UserSoon step := fun user => counts (adds.counted.mpr user)
      obtain ⟨tried, isTried, has⟩ := ih
        (fun other member => plain other (mem_cons_of_mem step member)) (book.attempt step targets).1
      refine ⟨step :: tried, ?_, fun target => by rw [has, adds.has]; simp [or_assoc]⟩
      unfold Tried at isTried ⊢
      split at isTried
      · obtain ⟨before, last, after, ⟨rfl, noneBefore, user⟩, rfl⟩ := isTried
        rw [if_pos ‹_›]
        exact ⟨step :: before, last, after, ⟨rfl, by simpa using ⟨noUser, noneBefore⟩, user⟩, rfl⟩
      · obtain ⟨rfl, noneAtAll⟩ := isTried
        rw [if_neg ‹_›]
        exact ⟨rfl, by simpa using ⟨noUser, noneAtAll⟩⟩

end Steps

/-! ## The steps of the source -/

section Source

variable (address : Bytes) (byte : UInt8)

theorem first_split {front : Bytes} (absent : byte ∉ front) (rest : Bytes) :
    (front ++ byte :: rest).takeWhile (· ≠ byte) = front ∧
      (front ++ byte :: rest).dropWhile (· ≠ byte) = byte :: rest ∧
        (front ++ byte :: rest).findIdx? (· = byte) = some front.length := by
  induction front with
  | nil => simp [findIdx?_cons]
  | cons head tail ih =>
    simp only [mem_cons, not_or] at absent
    obtain ⟨taken, dropped, index⟩ := ih absent.2
    simpa [findIdx?_cons, Ne.symm absent.1, index] using And.intro taken dropped

theorem not_split (absent : byte ∉ address) :
    address.dropWhile (· ≠ byte) = [] ∧ address.findIdx? (· = byte) = none := by
  have apart : ∀ other ∈ address, other ≠ byte := fun other member same => absent (same ▸ member)
  exact ⟨dropWhile_eq_nil_iff.mpr (by simpa using apart),
    findIdx?_eq_none_iff.mpr (by simpa using apart)⟩

theorem exists_last_split {text : Bytes} (member : byte ∈ text) :
    ∃ front back, text = front ++ byte :: back ∧ byte ∉ back := by
  obtain ⟨back, front, split, absent⟩ := eq_append_cons_of_mem (mem_reverse.mpr member)
  exact ⟨front.reverse, back.reverse, by simpa using congrArg reverse split, by simpa using absent⟩

theorem last_split {back : Bytes} (absent : byte ∉ back) (front : Bytes) :
    (front ++ byte :: back).rtakeWhile (· ≠ byte) = back ∧
      (front ++ byte :: back).reverse.findIdx? (· = byte) = some back.length := by
  have reversed : (front ++ byte :: back).reverse = back.reverse ++ byte :: front.reverse := by simp
  obtain ⟨taken, -, index⟩ := first_split byte (mem_reverse.not.mpr absent) front.reverse
  rw [rtakeWhile, reversed, taken, index]
  simp

/-- `zap_between` cuts the extension, or writes behind the copy. -/
theorem zapBetween_eq : zapBetween address =
      if PlusBehindAt address then .error .outOfBounds else .ok (withoutExtension address) := by
  by_cases plus : (43 : UInt8) ∈ address
  · obtain ⟨local_, rest, rfl, noPlus⟩ := eq_append_cons_of_mem plus
    obtain ⟨fronts, dropped, isPlus⟩ := first_split 43 noPlus rest
    have behindAt : PlusBehindAt (local_ ++ 43 :: rest) ↔ 64 ∈ local_ ∧ 64 ∉ rest := by
      unfold PlusBehindAt
      rw [dropped]
      grind
    unfold zapBetween withoutExtension
    rw [isPlus, dropped, fronts]
    by_cases behind : (64 : UInt8) ∈ rest
    · obtain ⟨mid, back, rfl, noAt⟩ := exists_last_split 64 behind
      have last := (last_split 64 noAt (local_ ++ 43 :: mid)).2
      rw [append_assoc, cons_append] at last
      rw [last, if_neg fun wrong => (behindAt.1 wrong).2 behind, if_pos (mem_cons_of_mem 43 behind),
        ← cons_append, (last_split 64 noAt (43 :: mid)).1]
      have finish : (local_ ++ (43 :: mid ++ 64 :: back)).length - 1 - back.length =
          (local_ ++ 43 :: mid).length := by
        simp
        omega
      dsimp only
      rw [finish, if_neg (by simp), take_left, ← append_assoc, drop_left]
    · by_cases at_ : (64 : UInt8) ∈ local_
      · obtain ⟨front, back, rfl, noAt⟩ := exists_last_split 64 at_
        have noneBehind : 64 ∉ back ++ 43 :: rest := by simp [noAt, behind]
        have last := (last_split 64 noneBehind front).2
        rw [← cons_append, ← append_assoc] at last
        rw [last, if_pos (behindAt.2 ⟨at_, behind⟩)]
        exact if_pos (by simp)
      · have none := (not_split (local_ ++ 43 :: rest).reverse 64 (by simp [at_, behind])).2
        rw [none, if_neg fun wrong => at_ (behindAt.1 wrong).1]
        simp [behind]
  · obtain ⟨dropped, noIndex⟩ := not_split address 43 plus
    rw [if_neg fun behind => plus behind.1, zapBetween, withoutExtension, dropped, noIndex]
    rfl

theorem findIdx_dot (text : Bytes) :
    match text.findIdx? (· = 46) with
    | none => dotSuffixes text = []
    | some dot => ∃ rest, text.drop dot = 46 :: rest ∧ dotSuffixes text = (46 :: rest) :: dotSuffixes rest
    := by
  induction text with
  | nil => rfl
  | cons head tail ih =>
    by_cases same : head = 46
    · subst same
      simp [findIdx?_cons, dotSuffixes]
    · have skipped : dotSuffixes (head :: tail) = dotSuffixes tail := by
        simp [dotSuffixes, same]
      rw [skipped]
      cases found : tail.findIdx? (· = 46) with
      | none | some =>
        simpa [findIdx?_cons, same, found] using ih

/-- The next shorter domain starts at the first dot behind the first label. -/
theorem nextDomain_at (rest : Bytes) :
    nextDomain (64 :: rest) = (dotSuffixes (rest.drop 1)).head?.map fun suffix => 64 :: suffix := by
  cases rest with
  | nil => rfl
  | cons head more =>
    have byDot := findIdx_dot more
    unfold nextDomain
    cases found : more.findIdx? (· = 46) with
    | none =>
      rw [found] at byDot
      by_cases same : head = 46 <;> simp [findIdx?_cons, found, same, byDot]
    | some dot =>
      rw [found] at byDot
      obtain ⟨tail, dropped, suffixes⟩ := byDot
      by_cases same : head = 46 <;>
        simp [findIdx?_cons, found, same, suffixes, Nat.add_comm 2 dot, dropped]

theorem dotSuffixes_cons {text suffix : Bytes} {others : List Bytes}
    (split : dotSuffixes text = suffix :: others) :
    others = dotSuffixes (suffix.drop 1) ∧ suffix.length ≤ text.length := by
  induction text with
  | nil => cases split
  | cons head tail ih =>
    by_cases same : head = 46
    · simp only [dotSuffixes, if_pos same] at split
      obtain ⟨rfl, rfl⟩ := split
      exact ⟨rfl, le_refl _⟩
    · simp only [dotSuffixes, if_neg same] at split
      obtain ⟨shorter, bound⟩ := ih split
      exact ⟨shorter, bound.trans (Nat.le_succ _)⟩

variable (book : AddressBook)

theorem domainLoop_eq (rounds : Nat) (rest : Bytes) (targets : Targets)
    (enough : rest.length < rounds) :
    domainLoop (fun name found => (book.checkUser name found).map id Nat.cast) rounds (64 :: rest)
        targets =
      some ((book.tryAll (((64 :: rest) :: (dotSuffixes (rest.drop 1)).map fun suffix =>
        64 :: suffix).map .alias_) targets).map id Nat.cast) := by
  induction rounds generalizing rest targets with
  | zero => omega
  | succ rounds ih =>
    simp only [domainLoop, map_cons, tryAll, Prod.map_snd, Int.natCast_pos]
    by_cases counts : 0 < (book.checkUser (64 :: rest) targets).2
    · rw [if_pos counts]
      exact congrArg (fun tried => some (Prod.map id Nat.cast tried)) (if_pos counts).symm
    rw [if_neg counts]
    refine .trans ?_ (congrArg (fun tried => some (Prod.map id Nat.cast tried)) (if_neg counts).symm)
    rw [nextDomain_at]
    have noCount : (book.checkUser (64 :: rest) targets).2 = 0 := by omega
    cases suffixes : dotSuffixes (rest.drop 1) with
    | nil => exact congrArg some (Prod.ext rfl (congrArg Nat.cast noCount))
    | cons suffix others =>
      obtain ⟨rfl, bound⟩ := dotSuffixes_cons suffixes
      have shorter : suffix.length < rounds := by
        cases rest with
        | nil => cases suffixes
        | cons head tail =>
          have : (drop 1 (head :: tail)).length < (head :: tail).length := by simp
          omega
      exact ih suffix _ shorter

theorem tryAll_single (step : Step) (targets : Targets) :
    book.tryAll [step] targets = book.attempt step targets := by
  simp only [tryAll]
  split
  · rfl
  · exact Prod.ext rfl (by simp only; omega)

theorem domainCatchall_eq (address : Bytes) (targets : Targets) :
    book.domainCatchall address targets =
      some (book.tryAll ((catchallDomains address).map .alias_) targets) := by
  unfold domainCatchall catchallDomains
  by_cases at_ : (64 : UInt8) ∈ address
  · obtain ⟨front, rest, split, noAt⟩ := eq_append_cons_of_mem at_
    rw [split, (first_split 64 noAt rest).2.1]
    exact congrArg (Option.map fun looped => looped.map id Int.toNat)
      (domainLoop_eq book _ rest targets (Nat.lt_succ_self _))
  · rw [(not_split address 64 at_).1]
    rfl

theorem userpartCatchall_eq (address : Bytes) (targets : Targets) :
    book.userpartCatchall address targets =
      book.tryAll ((catchallUserpart address).map .alias_) targets := by
  unfold userpartCatchall catchallUserpart
  by_cases at_ : address.contains 64 = true
  · rw [if_pos at_, if_pos at_]
    exact (tryAll_single book (.alias_ _) targets).symm
  · rw [if_neg at_, if_neg at_]
    rfl

theorem tryAll_option (name : Option Bytes) (kind : Bytes → Step) (targets : Targets) :
    name.elim (targets, 0) (fun found => book.attempt (kind found) targets) =
      book.tryAll (name.toList.map kind) targets := by
  cases name with
  | none => rfl
  | some found => exact (tryAll_single book (kind found) targets).symm

def Resolution.ofSteps (tried : Targets × Nat) : Resolution :=
  ⟨0, tried.1, if 0 < tried.2 then .valid else .unknown⟩

theorem orElse_tryAll (first second : List Step) (targets : Targets) :
    orElse (book.tryAll first targets) (fun later => .ok (.ofSteps (book.tryAll second later))) =
      .ok (.ofSteps (book.tryAll (first ++ second) targets)) := by
  unfold orElse
  rw [tryAll_append]
  split
  · simp [Resolution.ofSteps, if_pos ‹_›]
  · rfl

/-- `dsnuser_resolve` goes through the documented steps, unless `zap_between` fails. -/
theorem resolve_eq {address : Bytes} (given : address ≠ []) :
    book.resolve 0 address =
      if PlusBehindAt address ∧ ¬ 0 < (book.checkUser address {}).2 then .error .outOfBounds
      else .ok (.ofSteps (book.tryAll (documentedSteps address) {})) := by
  have steps : documentedSteps address = [.alias_ address] ++
      ((withoutExtension address).toList.map .alias_ ++
        ([.username address] ++ ((withoutExtension address).toList.map .username ++
          ((catchallDomains address).map .alias_ ++
            ((catchallUserpart address).map .alias_ ++ []))))) := by
    simp [documentedSteps]
  have asAlias : ∀ targets, ((withoutExtension address).elim (targets, 0) fun newaddress =>
      book.checkUser newaddress targets) =
        book.tryAll ((withoutExtension address).toList.map .alias_) targets :=
    fun targets => tryAll_option book _ .alias_ targets
  have asUser : ∀ targets, ((withoutExtension address).elim (targets, 0) fun newaddress =>
      book.username newaddress targets) =
        book.tryAll ((withoutExtension address).toList.map .username) targets :=
    fun targets => tryAll_option book _ .username targets
  have user : ∀ targets, book.username address targets = book.tryAll [.username address] targets :=
    fun targets => (tryAll_single book (.username address) targets).symm
  have whole : book.checkUser address {} = book.tryAll [.alias_ address] {} :=
    (tryAll_single book (.alias_ address) {}).symm
  unfold resolve
  rw [if_neg given, steps]
  by_cases behind : PlusBehindAt address
  · simp only [zapBetween_eq, behind, true_and]
    by_cases counts : 0 < (book.checkUser address {}).2
    · rw [if_neg (not_not.mpr counts), tryAll_append, ← whole]
      simp [orElse, Resolution.ofSteps, if_pos counts]
    · rw [if_pos counts]
      simp only [orElse, if_neg counts]
      rfl
  · have okBind : ∀ (name : Option Bytes) (next : Option Bytes → Except Fault Resolution),
        (Except.ok name >>= next) = next name := fun _ _ => rfl
    simp only [zapBetween_eq, behind, if_false, okBind, asAlias, asUser, user, whole,
      domainCatchall_eq, Option.getD_some, userpartCatchall_eq]
    simp only [← orElse_tryAll]
    rfl

end Source

/-! ## The probes for a domain -/

section Probes

-- what `auth_check_user_ext` returns for a name; no name is probed twice
variable (count : Bytes → Int)

/-- `address_is_domain_catchall` with the names that it probes. -/
def addressIsDomainCatchall (address : Bytes) : Option (List Bytes × Nat) :=
  match address.dropWhile (· ≠ 64) with
  | [] => some ([], 0)
  | domain =>
    (domainLoop (fun name probed => (probed ++ [name], count name)) domain.length domain []).map
      fun probed => (probed.1, if 0 < probed.2 then 1 else 0)

/-- The names up to the first that counts. -/
def upToFirst (names : List Bytes) : List Bytes :=
  names.takeWhile (count · ≤ 0) ++ (names.dropWhile (count · ≤ 0)).take 1

theorem probes_upToFirst {rounds : Nat} (rest : Bytes) (enough : rest.length < rounds)
    (probed : List Bytes) :
    let names := (64 :: rest) :: (dotSuffixes (rest.drop 1)).map fun suffix => 64 :: suffix
    ∃ last, domainLoop (fun name probed => (probed ++ [name], count name)) rounds (64 :: rest)
        probed = some (probed ++ upToFirst count names, last) ∧
      (0 < last ↔ ∃ name ∈ names, 0 < count name) := by
  induction rounds generalizing rest probed with
  | zero => omega
  | succ rounds ih =>
    unfold domainLoop
    dsimp only
    by_cases counts : 0 < count (64 :: rest)
    · exact ⟨count (64 :: rest), by simp [upToFirst, counts], by simp [counts]⟩
    rw [if_neg counts, nextDomain_at]
    cases suffixes : dotSuffixes (rest.drop 1) with
    | nil => exact ⟨count (64 :: rest), by simp [upToFirst, not_lt.mp counts], by simp⟩
    | cons suffix others =>
      obtain ⟨rfl, bound⟩ := dotSuffixes_cons suffixes
      have shorter : suffix.length < rounds := by
        cases rest with
        | nil => cases suffixes
        | cons head tail => exact Nat.lt_of_le_of_lt bound (Nat.lt_of_succ_lt_succ enough)
      obtain ⟨last, looped, positive⟩ := ih suffix shorter (probed ++ [64 :: rest])
      refine ⟨last, ?_, positive.trans ?_⟩
      · simp [looped, upToFirst, not_lt.mp counts]
      · simp [counts]

theorem dotSuffixes_shorter (text : Bytes) :
    (dotSuffixes text).Pairwise (fun longer shorter => shorter.length < longer.length) ∧
      ∀ suffix ∈ dotSuffixes text, suffix.length ≤ text.length := by
  induction text with
  | nil => exact ⟨.nil, nofun⟩
  | cons byte rest ih =>
    have within : ∀ suffix ∈ dotSuffixes rest, suffix.length < (byte :: rest).length :=
      fun suffix member => Nat.lt_succ_of_le (ih.2 suffix member)
    unfold dotSuffixes
    split
    · exact ⟨.cons within ih.1,
        forall_mem_cons.mpr ⟨le_refl _, fun suffix member => (within suffix member).le⟩⟩
    · exact ⟨ih.1, fun suffix member => (within suffix member).le⟩

/-- Each name is shorter than the one before it, so that it fits into the copy of the domain. -/
theorem domainCatchall_probes (address : Bytes) :
    addressIsDomainCatchall count address = some (upToFirst count (catchallDomains address),
        if ∃ name ∈ catchallDomains address, 0 < count name then 1 else 0) ∧
      (catchallDomains address).Pairwise fun longer shorter => shorter.length < longer.length := by
  unfold addressIsDomainCatchall catchallDomains
  by_cases at_ : (64 : UInt8) ∈ address
  · obtain ⟨front, rest, split, noAt⟩ := eq_append_cons_of_mem at_
    rw [split, (first_split 64 noAt rest).2.1]
    obtain ⟨last, looped, positive⟩ := probes_upToFirst count rest (Nat.lt_succ_self _) []
    obtain ⟨pairwise, within⟩ := dotSuffixes_shorter (rest.drop 1)
    refine ⟨(congrArg (Option.map _) looped).trans ?_, .cons ?_ ?_⟩
    · simp only [Option.map_some, positive, nil_append]
      rfl
    · intro name member
      obtain ⟨suffix, isSuffix, rfl⟩ := mem_map.mp member
      cases rest with
      | nil => cases isSuffix
      | cons head tail => exact Nat.succ_lt_succ (Nat.lt_succ_of_le (within suffix isSuffix))
    · exact pairwise.map _ fun longer shorter less => Nat.succ_lt_succ less
  · rw [(not_split address 64 at_).1]
    exact ⟨rfl, .nil⟩

end Probes

/-! ## What the lists of a delivery hold -/

section Result

variable (book : AddressBook) (address : Bytes)

def AddressBook.Matches (step : Step) : Prop := ∃ target, book.Yields step target

def AddressBook.FirstYields (steps : List Step) (target : Target) : Prop :=
  ∃ before step after, FirstSplit book.Matches steps before step after ∧ book.Yields step target

/-- The resolution of an address leaves exactly the targets of the first step that
yields any, and the class tells whether there is one. -/
def AddressBook.ResolvesFirst : Prop :=
  ∃ resolution, book.resolve 0 address = .ok resolution ∧ (∀ target, resolution.targets.Has target ↔
      book.FirstYields (documentedSteps address) target) ∧
    (resolution.dsn.cls = .ok ↔ ∃ target, book.FirstYields (documentedSteps address) target)

/-- The step yields a user over at most 20 aliases, and whatever it yields. -/
def AddressBook.Direct (step : Step) : Prop :=
  book.UserSoon step ∧ ∀ target, book.Yields step target → book.YieldsSoon step target

/-- The step yields no user over at most 20 aliases, but the steps from it to the first
one behind that does yield over at most 20 aliases exactly what it yields. -/
def AddressBook.MadeUp (step : Step) (after : List Step) : Prop :=
  ¬ book.UserSoon step ∧ ∃ between last rest, FirstSplit book.UserSoon after between last rest ∧
      ∀ target, (∃ tried ∈ step :: (between ++ [last]), book.YieldsSoon tried target) ↔
        book.Yields step target

def AddressBook.Resolvable : Prop :=
  (∀ step ∈ documentedSteps address, ¬ book.Matches step) ∧ ¬ PlusBehindAt address ∨
    address ≠ [] ∧ (PlusBehindAt address → book.UserSoon (.alias_ address)) ∧
      ∃ before step after, FirstSplit book.Matches (documentedSteps address) before step after ∧
        (book.Direct step ∨ book.MadeUp step after)

variable {book} {steps : List Step}

theorem matches_of_userSoon {step : Step} (user : book.UserSoon step) : book.Matches step :=
  let ⟨id, soon⟩ := user
  ⟨.user id, yields_of_soon book soon⟩

theorem firstYields_iff {before after : List Step} {step : Step}
    (first : FirstSplit book.Matches steps before step after) (target : Target) :
    book.FirstYields steps target ↔ book.Yields step target := by
  constructor
  · rintro ⟨front, other, back, split, yields⟩
    obtain ⟨-, rfl, -⟩ := first.unique split
    exact yields
  · intro yields
    exact ⟨before, step, after, first, yields⟩

theorem not_firstYields (none : ∀ step ∈ steps, ¬ book.Matches step) (target : Target) :
    ¬ book.FirstYields steps target := by
  rintro ⟨before, step, after, split, yields⟩
  exact none step (by rw [split.split]; simp) ⟨target, yields⟩

/-- The steps that match nothing yield nothing to the lists. -/
theorem yieldsSoon_matching {step : Step} {target : Target} (soon : book.YieldsSoon step target) :
    book.Matches step :=
  ⟨target, yields_of_soon book soon⟩

/-- After a step that matches, the tried steps are right exactly when it is direct, or the
later ones make up for it. -/
theorem tried_iff {before after tried : List Step} {step : Step}
    (first : FirstSplit book.Matches steps before step after) (counts : Bool)
    (isTried : book.Tried steps tried counts) :
    (counts = true ∧ ∀ target, (∃ other ∈ tried, book.YieldsSoon other target) ↔
        book.Yields step target) ↔
      book.Direct step ∨ book.MadeUp step after := by
  -- the steps before it yield nothing
  have skips (later : List Step) (target : Target) :
      (∃ other ∈ before ++ later, book.YieldsSoon other target) ↔
        ∃ other ∈ later, book.YieldsSoon other target := by
    simp only [mem_append, or_and_right, exists_or]
    exact or_iff_right fun ⟨other, member, soon⟩ =>
      first.none other member (yieldsSoon_matching soon)
  cases counts with
  | false =>
    obtain ⟨rfl, noUser⟩ := isTried
    refine ⟨fun wrong => absurd wrong.1 Bool.false_ne_true, ?_⟩
    rintro (⟨user, -⟩ | ⟨-, between, last, rest, split, -⟩)
    · exact absurd user (noUser step (by rw [first.split]; simp))
    · exact absurd split.first (noUser last (by rw [first.split, split.split]; simp))
  | true =>
    obtain ⟨front, last, back, user, rfl⟩ := isTried
    obtain ⟨rfl, rfl, rfl⟩ | ⟨between, rfl, rfl⟩ | ⟨between, rfl, -⟩ :=
      split_cases (first.split.symm.trans user.split)
    · -- the step itself yields a user
      simp only [skips, mem_singleton, exists_eq_left, true_and]
      constructor
      · exact fun same => .inl ⟨user.first, fun target => (same target).mpr⟩
      · rintro (⟨-, direct⟩ | ⟨noUser, -⟩)
        · exact fun target => ⟨yields_of_soon book, direct target⟩
        · exact absurd user.first noUser
    · -- a later step is the first that yields a user
      have noUser : ¬ book.UserSoon step := user.none step (by simp)
      have split : FirstSplit book.UserSoon (between ++ last :: back) between last back :=
        ⟨rfl, fun other member => user.none other (by simp [member]), user.first⟩
      simp only [append_assoc, skips, true_and]
      constructor
      · exact fun same => .inr ⟨noUser, between, last, back, split, same⟩
      · rintro (⟨isUser, -⟩ | ⟨-, other, later, rest, split', same⟩)
        · exact absurd isUser noUser
        · obtain ⟨rfl, rfl, rfl⟩ := split.unique split'
          exact same
    · exact absurd (matches_of_userSoon user.first) (first.none last (by simp))

variable (book)

theorem not_resolvesFirst_behind {address : Bytes} (given : address ≠ [])
    (plain : book.PlainEnds (.alias_ address)) (behind : PlusBehindAt address) (noUser : ¬ book.UserSoon (.alias_ address)) :
    ¬ book.ResolvesFirst address := by
  have uncounted : ¬ 0 < (book.checkUser address {}).2 :=
    fun counts => noUser ((attempt_adds book plain {}).counted.mp counts)
  rintro ⟨resolution, resolved, -⟩
  rw [resolve_eq book given, if_pos ⟨behind, uncounted⟩] at resolved
  cases resolved

/-- What an address is resolved to, in terms of the steps that are tried. -/
theorem resolvesFirst_iff_tried {address : Bytes} (given : address ≠ [])
    (plain : ∀ step ∈ documentedSteps address, book.PlainEnds step)
    (safe : PlusBehindAt address → book.UserSoon (.alias_ address)) :
    ∃ tried counts, book.Tried (documentedSteps address) tried counts ∧
      (book.ResolvesFirst address ↔
        (∀ target, (∃ step ∈ tried, book.YieldsSoon step target) ↔
          book.FirstYields (documentedSteps address) target) ∧
        (counts = true ↔ ∃ target, book.FirstYields (documentedSteps address) target)) := by
  have returns : ¬ (PlusBehindAt address ∧ ¬ 0 < (book.checkUser address {}).2) :=
    fun failed => failed.2 ((attempt_adds book (plain (.alias_ address)
      (by simp [documentedSteps])) {}).counted.mpr (safe failed.1))
  have resolved := resolve_eq book given
  rw [if_neg returns] at resolved
  obtain ⟨tried, isTried, has⟩ := tryAll_tried book plain {}
  have hasTried : ∀ target, (book.tryAll (documentedSteps address) {}).1.Has target ↔
      ∃ step ∈ tried, book.YieldsSoon step target := by
    intro target
    rw [has]
    cases target <;> simp [Targets.Has]
  have classOk : (Resolution.ofSteps (book.tryAll (documentedSteps address) {})).dsn.cls = .ok ↔
      decide (0 < (book.tryAll (documentedSteps address) {}).2) = true := by
    unfold Resolution.ofSteps
    by_cases counts : 0 < (book.tryAll (documentedSteps address) {}).2
    · simp [counts, Dsn.valid]
    · simp [counts, Dsn.unknown]
  refine ⟨tried, _, isTried, ?_⟩
  constructor
  · rintro ⟨resolution, returned, lists, cls⟩
    rw [resolved] at returned
    cases returned
    exact ⟨fun target => (hasTried target).symm.trans (lists target), classOk.symm.trans cls⟩
  · rintro ⟨lists, cls⟩
    exact ⟨_, resolved, fun target => (hasTried target).trans (lists target), classOk.trans cls⟩

end Result

def forwardBook : AddressBook where
  aliases := [⟨lit "info@host", lit "other@elsewhere"⟩, ⟨lit "@host", lit "1"⟩]
  users :=
    { rows := [⟨1, lit "owner", [], [], [], 1⟩]
      primaryKey := by decide
      keyRange := by decide }

theorem reaches_single {book : AddressBook} {name next : Bytes} {target : Target}
    (names : book.deliverTo name = [next]) (ends : book.deliverTo next = []) :
    book.Reaches name target ↔ book.target next = some target := by
  have edge : book.Edge name next := by simp [Edge, names]
  constructor
  · rintro ⟨last, chain, -, isTarget⟩
    obtain ⟨other, first, rest⟩ := Relation.TransGen.head'_iff.mp chain
    unfold Edge at first
    obtain rfl := mem_singleton.mp (names ▸ first)
    obtain rfl | ⟨further, second, -⟩ := rest.cases_head
    · exact isTarget
    · unfold Edge at second
      exact absurd (ends ▸ second) not_mem_nil
  · exact fun isTarget => ⟨next, .single edge, ends, isTarget⟩

end Dbmail.Delivery
