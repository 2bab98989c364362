import Dbmail.Imap.Rights

/-!
Contract: mailbox names with and without their namespace.

Owns `mailbox_add_namespace` (`dm_misc.c`), what `mailbox_remove_namespace` makes of its
result, and the name that `db_findmailbox` looks up.

Does not own: the mailbox of an owner that a name matches.
-/

namespace Dbmail.Imap

open Dbmail.Lib Dbmail.Auth List

theorem rdropWhile_of_last {name : Bytes} (nonempty : name ≠ []) (last : name.getLast? ≠ some 47)
    (front : Bytes) : (front ++ name).rdropWhile (· = 47) = front ++ name := by
  rw [rdropWhile_eq_self_iff]
  intro some_
  rw [getLast_append_of_ne_nil _ nonempty]
  rw [List.getLast?_eq_some_getLast nonempty] at last
  simpa using last

/-! ## Round trip -/

/-- `userid` is `auth_get_userid`. -/
def mailboxAddNamespace (userid : Nat → Option Bytes) (name : Bytes) (owner user : Nat) :
    Option Bytes :=
  if user = owner then some name
  else (userid owner).map fun username =>
    if username = publicFolderUser then lit "#Public" ++ 47 :: name
    else lit "#Users" ++ (47 :: username ++ 47 :: name)

/-- What `mailbox_remove_namespace` writes to `*namespace`. -/
def removedNamespace (name : Bytes) : Option Bytes :=
  let fqName := name.rdropWhile (· = 47)
  if 6 ≤ fqName.length ∧ strcasecmpEq (fqName.take 6) (lit "#Users") then some (lit "#Users")
  else if 7 ≤ fqName.length ∧ strcasecmpEq (fqName.take 7) (lit "#Public") then some (lit "#Public")
  else none

structure PlainName (name : Bytes) : Prop where
  nonempty : name ≠ []
  noWildcard : ∀ byte ∈ name, byte ≠ 42 ∧ byte ≠ 37
  first : name.head? ≠ some 47
  last : name.getLast? ≠ some 47

theorem scanUsers_username {username : Bytes}
    (plain : ∀ byte ∈ username, byte ≠ 47 ∧ byte ≠ 42 ∧ byte ≠ 37) (i : Nat) (scan : NamespaceScan)
    (rest : Bytes) :
    scanUsers i scan (username ++ rest) = scanUsers (i + username.length) scan rest := by
  induction username generalizing i with
  | nil => rfl
  | cons byte others ih =>
    obtain ⟨noSlash, noWildcard⟩ := plain byte mem_cons_self
    rw [cons_append, scanUsers, if_neg noSlash, if_neg (by simp [noWildcard]),
      ih fun other member => plain other (mem_cons_of_mem _ member)]
    simp [Nat.add_comm, Nat.add_left_comm]

/-- Once there is a mailbox only a wildcard changes it. -/
theorem scanUsers_mailbox {name : Bytes} (noWildcard : ∀ byte ∈ name, byte ≠ 42 ∧ byte ≠ 37)
    (i user mbox slash : Nat) :
    scanUsers i ⟨some user, some mbox, slash⟩ name = ⟨some user, some mbox, slash⟩ := by
  induction name generalizing i with
  | nil => rfl
  | cons byte rest ih =>
    rw [scanUsers]
    split
    · rfl
    · rw [if_neg (by simpa using noWildcard byte mem_cons_self)]
      exact ih (fun other member => noWildcard other (mem_cons_of_mem _ member)) (i + 1)

theorem scanUsers_full {username name : Bytes} (plain : PlainName name)
    (isUser : ∀ byte ∈ username, byte ≠ 47 ∧ byte ≠ 42 ∧ byte ≠ 37) :
    scanUsers 0 {} (47 :: username ++ 47 :: name) = ⟨some 1, some (username.length + 2), 1⟩ := by
  have begins : ¬ (name = [] ∨ name.head? = some 47) := by
    simp [plain.nonempty, plain.first]
  rw [cons_append]
  show scanUsers 1 ⟨some 1, none, 0⟩ _ = _
  rw [scanUsers_username isUser, scanUsers]
  show scanUsers _ ⟨some 1, if _ then none else _, 1⟩ name = _
  rw [if_neg begins, scanUsers_mailbox plain.noWildcard, Nat.add_comm 1]

theorem namespace_roundTrip {userid : Nat → Option Bytes} {name : Bytes} (plain : PlainName name)
    (owner user : Nat) :
    (user = owner → removedNamespace name = none →
      (mailboxAddNamespace userid name owner user).map mailboxRemoveNamespace =
        some (.ok (some (name, none)))) ∧
    ∀ username, user ≠ owner → userid owner = some username → username ≠ [] →
      (∀ byte ∈ username, byte ≠ 47 ∧ byte ≠ 42 ∧ byte ≠ 37) →
      ∃ full, mailboxAddNamespace userid name owner user = some full ∧
        mailboxRemoveNamespace full = .ok (some (name, some username)) ∧
        removedNamespace full =
          some (if username = publicFolderUser then lit "#Public" else lit "#Users") := by
  constructor
  · intro own unprefixed
    have whole := rdropWhile_of_last plain.nonempty plain.last []
    rw [nil_append] at whole
    rw [mailboxAddNamespace, if_pos own]
    unfold removedNamespace at unprefixed
    rw [Option.map_some, mailboxRemoveNamespace]
    rw [whole] at unprefixed ⊢
    dsimp only at unprefixed ⊢
    split at unprefixed
    · cases unprefixed
    next notUsers =>
      split at unprefixed
      · cases unprefixed
      next notPublic => rw [if_neg notUsers, if_neg notPublic]
  · intro username foreign isOwner nonempty isUser
    rw [mailboxAddNamespace, if_neg foreign, isOwner, Option.map_some]
    refine ⟨_, rfl, ?_⟩
    unfold mailboxRemoveNamespace removedNamespace
    by_cases isPublic : username = publicFolderUser
    · have length : (lit "#Public").length = 7 := by decide +kernel
      have whole := rdropWhile_of_last plain.nonempty plain.last (lit "#Public" ++ [47])
      rw [append_assoc, singleton_append] at whole
      have notUsers : ¬ strcasecmpEq ((lit "#Public" ++ 47 :: name).take 6) (lit "#Users") = true := by
        rw [take_append_of_le_length (by rw [length]; decide)]
        decide +kernel
      rw [if_pos isPublic, whole]
      simp [notUsers, strcasecmpEq_refl, length, isPublic]
    · have length : (lit "#Users").length = 6 := by decide +kernel
      have whole := rdropWhile_of_last plain.nonempty plain.last (lit "#Users" ++ (47 :: username ++ [47]))
      rw [append_assoc, append_assoc, singleton_append] at whole
      rw [if_neg isPublic, whole]
      simp only [take_left' length, drop_left' length, strcasecmpEq_refl,
        scanUsers_full plain isUser]
      simp [length, isPublic, nonempty]

theorem namespace_roundTrip_foreign : ∃ full,
    mailboxAddNamespace (fun _ => some (lit "u")) (lit "a/b") 1 2 = some full ∧
      mailboxRemoveNamespace full = .ok (some (lit "a/b", some (lit "u"))) := by
  obtain ⟨full, isFull, removed, _⟩ := (@namespace_roundTrip (fun _ => some (lit "u")) (lit "a/b")
    ⟨by decide +kernel, by decide +kernel, by decide +kernel, by decide +kernel⟩ 1 2).2 (lit "u")
    (by decide) rfl (by decide +kernel) (by decide +kernel)
  exact ⟨full, isFull, removed⟩

/-- An empty user name is not found again. -/
theorem namespace_noUser : (mailboxAddNamespace (fun _ => some []) (lit "a") 1 2).map
    (fun full => (mailboxRemoveNamespace full).toOption) = some (some (some (lit "a", none))) := by
  decide +kernel

/-! ## Slashes -/

/-- The first index that the loop over trailing slashes reads; `l` is a `size_t`. -/
def trailingIndex (name : Bytes) : Nat := (name.length + 2 ^ 64 - 1) % 2 ^ 64

def strippedName (name : Bytes) : Bytes :=
  (name.rdropWhile (· = 47)).dropWhile (· = 47)

/-- `db_findmailbox` stays inside its copy of the name, and looks up the name without its outer
slashes. -/
def LooksUpStripped (name : Bytes) : Prop :=
  trailingIndex name ≤ name.length ∧
    mailboxRemoveNamespace (trimSlashes name) = mailboxRemoveNamespace (strippedName name)

/-- As many bytes of the end as there were leading slashes. -/
def leftBehind (name : Bytes) : Bytes :=
  let trimmed := name.rdropWhile (· = 47)
  trimmed.drop (trimmed.length - (trimmed.takeWhile (· = 47)).length)

variable {name : Bytes}

theorem trimSlashes_eq (some_ : name.rdropWhile (· = 47) ≠ []) :
    trimSlashes name = strippedName name ++ leftBehind name := by
  cases name with
  | nil => exact absurd rfl some_
  | cons first rest =>
    have trimmed : (first :: rest).rdropWhile (· = 47) = first :: rest.rdropWhile (· = 47) := by
      unfold List.rdropWhile at some_ ⊢
      rw [reverse_cons, dropWhile_append] at some_ ⊢
      by_cases none : (rest.reverse.dropWhile (· = 47)).isEmpty = true
      · rw [if_pos none] at some_ ⊢
        rw [isEmpty_iff.mp none]
        by_cases slash : first = 47 <;> simp_all
      · simp [none]
    have stripped (text : Bytes) :
        text.dropWhile (· = 47) = text.drop (text.takeWhile (· = 47)).length := by
      have moved := @List.drop_left _ (text.takeWhile (· = 47)) (text.dropWhile (· = 47))
      rw [takeWhile_append_dropWhile] at moved
      exact moved.symm
    unfold strippedName leftBehind
    rw [stripped, trimmed]
    rfl

theorem getLast_of_suffix {part : Bytes} (suffix : part <:+ name.rdropWhile (· = 47))
    (nonempty : part ≠ []) : part.getLast? ≠ some 47 := by
  obtain ⟨front, whole⟩ := suffix
  have some_ : name.rdropWhile (· = 47) ≠ [] := by simp [← whole, nonempty]
  have last := rdropWhile_last_not (fun byte => decide (byte = 47)) name some_
  simp only [← whole, getLast_append_of_ne_nil _ nonempty] at last
  rw [List.getLast?_eq_some_getLast nonempty]
  simpa using last

/-- The text lies in the namespace of the users. -/
def InUsers (text : Bytes) : Prop :=
  6 ≤ text.length ∧ strcasecmpEq (text.take 6) (lit "#Users") = true

/-- Outside the namespace of the users a longer name is another name. -/
theorem mailboxRemoveNamespace_longer {tail : Bytes} (notUsers : ¬ InUsers (name ++ tail))
    (nonempty : name ≠ []) (last : name.getLast? ≠ some 47) (more : tail ≠ [])
    (tailLast : tail.getLast? ≠ some 47) :
    mailboxRemoveNamespace (name ++ tail) ≠ mailboxRemoveNamespace name := by
  have whole := rdropWhile_of_last nonempty last []
  have longer := rdropWhile_of_last more tailLast name
  rw [nil_append] at whole
  have shorter : ¬ InUsers name := by
    rintro ⟨long, same⟩
    refine notUsers ⟨by rw [length_append]; omega, ?_⟩
    rwa [take_append_of_le_length long]
  unfold InUsers at notUsers shorter
  unfold mailboxRemoveNamespace
  rw [longer, whole]
  dsimp only
  rw [if_neg notUsers, if_neg shorter]
  by_cases isPublic : 7 ≤ name.length ∧ strcasecmpEq (name.take 7) (lit "#Public") = true
  · have still : 7 ≤ (name ++ tail).length ∧
        strcasecmpEq ((name ++ tail).take 7) (lit "#Public") = true := by
      refine ⟨by rw [length_append]; omega, ?_⟩
      rw [take_append_of_le_length isPublic.1]
      exact isPublic.2
    rw [if_pos still, if_pos isPublic, drop_append_of_le_length isPublic.1]
    intro same
    simp only [Except.ok.injEq, Option.some.injEq, Prod.mk.injEq, and_true] at same
    cases rest : name.drop 7 with
    | nil =>
      rw [rest, nil_append] at same
      cases tail with
      | nil => exact more rfl
      | cons first others =>
        by_cases slash : first = 47
        · subst slash
          have none : others = [] := by simpa using same
          exact tailLast (by simp [none])
        · simp [slash] at same
    | cons first others =>
      rw [rest] at same
      by_cases slash : first = 47 <;> simp [slash, more] at same
  · rw [if_neg isPublic]
    split
    · simp
    · simp [more]

theorem findmailbox_stripped (name : Bytes) :
    (name ≠ [] ∧ (name.head? ≠ some 47 ∨ strippedName name = []) → LooksUpStripped name) ∧
      (LooksUpStripped name → InUsers (trimSlashes name) ∨
        (name ≠ [] ∧ (name.head? ≠ some 47 ∨ strippedName name = []))) := by
  have inside : trailingIndex name ≤ name.length ↔ name ≠ [] := by
    rw [trailingIndex, ← length_pos_iff]
    omega
  rw [LooksUpStripped, inside]
  by_cases onlySlashes : name.rdropWhile (· = 47) = []
  · have all := rdropWhile_eq_nil_iff.mp onlySlashes
    have empty : strippedName name = [] := by rw [strippedName, onlySlashes, dropWhile_nil]
    refine ⟨fun holds => ⟨holds.1, ?_⟩, fun holds => .inr ⟨holds.1, .inr empty⟩⟩
    have moved : trimSlashes name = [47] := by
      cases name with
      | nil => exact absurd rfl holds.1
      | cons first rest =>
        have none : rest.rdropWhile (· = 47) = [] :=
          rdropWhile_eq_nil_iff.mpr fun byte member => all byte (mem_cons_of_mem _ member)
        have slash : first = 47 := by simp_all
        rw [trimSlashes, none, slash]
        rfl
    rw [empty, moved]
    rfl
  rw [trimSlashes_eq onlySlashes]
  have nonSlash : strippedName name ≠ [] := by
    intro none
    have all := dropWhile_eq_nil_iff.mp none
    have last := getLast_of_suffix (suffix_refl _) onlySlashes
    rw [List.getLast?_eq_some_getLast onlySlashes] at last
    simpa using last (by simpa using all _ (getLast_mem onlySlashes))
  obtain ⟨byte, more, trimmed⟩ := exists_cons_of_ne_nil onlySlashes
  obtain ⟨slashes, whole⟩ := rdropWhile_prefix (fun byte => decide (byte = 47)) name
  have head : name.head? = some byte := by
    rw [← whole, trimmed]
    rfl
  by_cases leading : byte = 47
  · have nonempty : leftBehind name ≠ [] := by
      intro none
      have length := congrArg List.length none
      simp [leftBehind, trimmed, leading] at length
      omega
    constructor
    · rintro ⟨-, other | none⟩
      · exact absurd (leading ▸ head) other
      · exact absurd none nonSlash
    · rintro ⟨-, same⟩
      by_contra fails
      rw [not_or] at fails
      exact mailboxRemoveNamespace_longer fails.1 nonSlash
        (getLast_of_suffix (dropWhile_suffix _) nonSlash) nonempty
        (getLast_of_suffix (drop_suffix _ _) nonempty) same
  · have nothing : leftBehind name = [] := by
      rw [leftBehind, trimmed]
      simp [leading]
    rw [nothing, append_nil]
    refine ⟨fun holds => ⟨holds.1, rfl⟩, fun holds => .inr ⟨holds.1, .inl ?_⟩⟩
    rw [head]
    simpa using leading

/-- The name is looked up with its last byte doubled, and an empty name is read before its
beginning. -/
theorem findmailbox_moved : ¬ LooksUpStripped (lit "/a") ∧ ¬ LooksUpStripped [] := by
  have moved : trimSlashes (lit "/a") = lit "aa" := by decide +kernel
  have stripped : strippedName (lit "/a") = lit "a" := by decide +kernel
  constructor
  · intro ⟨_, same⟩
    rw [moved] at same
    revert same
    decide +kernel
  · intro ⟨inside, _⟩
    revert inside
    decide +kernel

end Dbmail.Imap
