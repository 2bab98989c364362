import Mathlib.Order.Nat
import Mathlib.Tactic.Tauto

/-!
Contract: which client addresses a socket specification matches, and with what score.

Owns `cidr_match` and what `cidr_new` makes of an address, a prefix length and a port
(`dm_cidr.c`), on a little-endian host.

Does not own: the text of a specification.
-/

namespace Dbmail.Auth

/-- `Cidr_T`. The address is `s_addr` as the host reads it, with the first octet lowest. -/
structure Cidr where
  address : BitVec 32
  port : UInt16
  mask : Nat

/-- `cidr_new`, behind the parsing. -/
def cidrNew (address : BitVec 32) (mask : Nat) (port : UInt16) : Cidr :=
  ⟨address, port, if address = 0 then 0 else mask⟩

/-- The bits that `cidr_match` sets in an address before it compares. -/
def Cidr.wild (cidr : Cidr) : BitVec 32 :=
  if cidr.mask ≠ 0 then ~~~(BitVec.allOnes 32 >>> (32 - cidr.mask)) else BitVec.allOnes 32

def cidrMatch (base test : Cidr) : Nat :=
  let baseAddr := base.address ||| base.wild
  let testAddr := test.address ||| test.wild
  if 0 < test.port ∧ base.port ≠ test.port then 0
  else if base.mask = 0 ∨ test.mask = 0 then 32
  else if testAddr = baseAddr &&& testAddr then base.mask else 0

/-- The address with its first octet highest. -/
def networkOrder (address : BitVec 32) : BitVec 32 :=
  address.extractLsb' 0 8 ++ address.extractLsb' 8 8 ++ address.extractLsb' 16 8 ++
    address.extractLsb' 24 8

/-- An IPv4 specification: an address, a prefix length and a port, 0 for none. -/
structure Network where
  address : BitVec 32
  length : Nat
  port : UInt16
  length_le : length ≤ 32

namespace Network

variable (network : Network) (client : BitVec 32) (port : UInt16)

def Contains : Prop :=
  networkOrder network.address >>> (32 - network.length) =
    networkOrder client >>> (32 - network.length)

def score : Nat :=
  cidrMatch (cidrNew network.address network.length network.port) (cidrNew client 32 port)

def PortsAgree : Prop := port ≠ 0 → network.port = port

/-- The network matches whatever the client's address is. -/
def Anywhere : Prop := network.address = 0 ∨ network.length = 0 ∨ client = 0

/-- Every bit of the client's address, among as many of the lowest as the prefix is long, is one
of the network's address. -/
def Covers : Prop :=
  ∀ i < network.length, client.getLsbD i = true → network.address.getLsbD i = true

/-- An octet of an address, the first one being number 0. -/
def octet (address : BitVec 32) (number : Nat) : BitVec 8 := address.extractLsb' (8 * number) 8

/-- Every bit of an octet, below a position, is one of another octet. -/
def BitsOf (outer inner : BitVec 8) (below : Nat) : Prop :=
  ∀ bit < below, inner.getLsbD bit = true → outer.getLsbD bit = true

/-- The whole octets of the prefix: those of the client have no bits but the network's. -/
def WholeWithin : Prop :=
  ∀ number < network.length / 8, BitsOf (octet network.address number) (octet client number) 8

def WholeEqual : Prop :=
  ∀ number < network.length / 8, octet network.address number = octet client number

/-- The octet in which the prefix ends: its highest bits, as many as the prefix has there. -/
def RestEqual : Prop :=
  octet network.address (network.length / 8) >>> (8 - network.length % 8) =
    octet client (network.length / 8) >>> (8 - network.length % 8)

/-- The octet in which the prefix ends: its lowest bits, which the shifted mask takes. -/
def RestWithin : Prop :=
  BitsOf (octet network.address (network.length / 8)) (octet client (network.length / 8))
    (network.length % 8)

/-- When the bit test tells membership. A client with a bit of its own in a whole octet is
outside for both. If the whole octets are equal, the octet in which the prefix ends has to
be judged alike by its highest and its lowest bits; if the client lacks bits of the network
there, only a bit of its own among the lowest keeps it out. -/
def ToldApart : Prop :=
  ¬ network.WholeWithin client ∨
    (network.WholeEqual client ∧ (network.RestEqual client ↔ network.RestWithin client)) ∨
    (network.WholeWithin client ∧ ¬ network.WholeEqual client ∧ ¬ network.RestWithin client)

variable {network client port}

theorem octet_getLsbD (address : BitVec 32) (number bit : Nat) :
    (octet address number).getLsbD bit = (decide (bit < 8) && address.getLsbD (8 * number + bit)) :=
  BitVec.getLsbD_extractLsb' ..

theorem networkOrder_getLsbD (address : BitVec 32) {i : Nat} (inside : i < 32) :
    (networkOrder address).getLsbD i = (octet address (3 - i / 8)).getLsbD (i % 8) := by
  have positions : i / 8 = 0 ∨ i / 8 = 1 ∨ i / 8 = 2 ∨ i / 8 = 3 := by omega
  rw [octet_getLsbD]
  unfold networkOrder
  rcases positions with part | part | part | part <;>
    simp only [BitVec.getLsbD_append, BitVec.getLsbD_extractLsb', part] <;> grind

theorem contains_iff : network.Contains client ↔
    network.WholeEqual client ∧ network.RestEqual client := by
  have short := network.length_le
  have bits : network.Contains client ↔ ∀ i, 32 - network.length ≤ i → i < 32 →
      (octet network.address (3 - i / 8)).getLsbD (i % 8) =
        (octet client (3 - i / 8)).getLsbD (i % 8) := by
    constructor
    · intro inside i low high
      have bit := congrArg (·.getLsbD (i - (32 - network.length))) inside
      simp only [BitVec.getLsbD_ushiftRight] at bit
      rw [Nat.add_sub_cancel' low] at bit
      rwa [networkOrder_getLsbD _ high, networkOrder_getLsbD _ high] at bit
    · intro equal
      apply BitVec.eq_of_getLsbD_eq
      intro i _
      rw [BitVec.getLsbD_ushiftRight, BitVec.getLsbD_ushiftRight]
      by_cases high : 32 - network.length + i < 32
      · rw [networkOrder_getLsbD _ high, networkOrder_getLsbD _ high]
        exact equal _ (Nat.le_add_right _ _) high
      · rw [BitVec.getLsbD_of_ge _ _ (by omega), BitVec.getLsbD_of_ge _ _ (by omega)]
  rw [bits]
  constructor
  · intro equal
    constructor
    · intro number whole
      apply BitVec.eq_of_getLsbD_eq
      intro bit inside
      have same := equal (8 * (3 - number) + bit) (by omega) (by omega)
      rwa [show 3 - (8 * (3 - number) + bit) / 8 = number by omega,
        show (8 * (3 - number) + bit) % 8 = bit by omega] at same
    · apply BitVec.eq_of_getLsbD_eq
      intro bit _
      rw [BitVec.getLsbD_ushiftRight, BitVec.getLsbD_ushiftRight]
      by_cases high : 8 - network.length % 8 + bit < 8
      · have same := equal (8 * (3 - network.length / 8) + (8 - network.length % 8 + bit)) (by omega)
          (by omega)
        rwa [show 3 - (8 * (3 - network.length / 8) + (8 - network.length % 8 + bit)) / 8 =
            network.length / 8 by omega,
          show (8 * (3 - network.length / 8) + (8 - network.length % 8 + bit)) % 8 =
            8 - network.length % 8 + bit by omega] at same
      · rw [BitVec.getLsbD_of_ge _ _ (by omega), BitVec.getLsbD_of_ge _ _ (by omega)]
  · rintro ⟨whole, rest⟩ i low high
    by_cases inWhole : 3 - i / 8 < network.length / 8
    · rw [whole _ inWhole]
    · have last : 3 - i / 8 = network.length / 8 := by omega
      have bit := congrArg (·.getLsbD (i % 8 - (8 - network.length % 8))) rest
      simp only [BitVec.getLsbD_ushiftRight] at bit
      rwa [Nat.add_sub_cancel' (by omega), ← last] at bit

theorem covers_iff_octets : network.Covers client ↔
    network.WholeWithin client ∧ network.RestWithin client := by
  constructor
  · intro covers
    constructor
    · intro number whole bit inside set
      rw [octet_getLsbD, decide_eq_true inside, Bool.true_and] at set ⊢
      exact covers _ (by omega) set
    · intro bit inside set
      have below : bit < 8 := by omega
      rw [octet_getLsbD, decide_eq_true below, Bool.true_and] at set ⊢
      exact covers _ (by omega) set
  · rintro ⟨whole, rest⟩ i below set
    have position : 8 * (i / 8) + i % 8 = i := by omega
    have read (address : BitVec 32) :
        address.getLsbD i = (octet address (i / 8)).getLsbD (i % 8) := by
      rw [octet_getLsbD, position, decide_eq_true (by omega), Bool.true_and]
    rw [read] at set ⊢
    by_cases inWhole : i / 8 < network.length / 8
    · exact whole _ inWhole _ (by omega) set
    · have last : i / 8 = network.length / 8 := by omega
      rw [last] at set ⊢
      exact rest _ (by omega) set

theorem toldApart_iff :
    network.ToldApart client ↔ (network.Contains client ↔ network.Covers client) := by
  have within : network.WholeEqual client → network.WholeWithin client := by
    intro equal number whole bit _ set
    rwa [equal number whole]
  rw [contains_iff, covers_iff_octets, ToldApart]
  tauto

/-- For a prefix of whole octets a client is wrongly matched exactly if it lacks a bit of the
network's prefix and has none of its own there. -/
theorem toldApart_octets (whole : 8 ∣ network.length) :
    network.ToldApart client ↔ (network.WholeWithin client → network.WholeEqual client) := by
  have none : network.length % 8 = 0 := Nat.mod_eq_zero_of_dvd whole
  have restEqual : network.RestEqual client := by
    unfold RestEqual
    rw [none]
    apply BitVec.eq_of_getLsbD_eq
    intro bit _
    rw [BitVec.getLsbD_ushiftRight, BitVec.getLsbD_ushiftRight, BitVec.getLsbD_of_ge _ _ (by omega),
      BitVec.getLsbD_of_ge _ _ (by omega)]
  have restWithin : network.RestWithin client := by
    intro bit below
    omega
  simp only [ToldApart, restEqual, restWithin]
  tauto

theorem covers_iff :
    client = (network.address ||| ~~~(BitVec.allOnes 32 >>> (32 - network.length))) &&& client ↔
      network.Covers client := by
  have short := network.length_le
  have wild (i : Nat) (inside : i < 32) :
      (~~~(BitVec.allOnes 32 >>> (32 - network.length))).getLsbD i = decide (network.length ≤ i) := by
    simp only [BitVec.getLsbD_not, BitVec.getLsbD_ushiftRight, BitVec.getLsbD_allOnes, inside]
    grind
  constructor
  · intro same i below set
    rw [same, BitVec.getLsbD_and, BitVec.getLsbD_or, wild i (by omega)] at set
    grind
  · intro covers
    apply BitVec.eq_of_getLsbD_eq
    intro i inside
    rw [BitVec.getLsbD_and, BitVec.getLsbD_or, wild i inside]
    have := covers i
    grind

open Classical in
theorem score_eq (network : Network) (client : BitVec 32) (port : UInt16) :
    network.score client port = if network.PortsAgree port then
      if network.Anywhere client then 32 else if network.Covers client then network.length else 0
      else 0 := by
  have ports : (0 < port ∧ network.port ≠ port) ↔ ¬ network.PortsAgree port := by
    simp [PortsAgree, UInt16.pos_iff_ne_zero]
  have masks : ((if network.address = 0 then 0 else network.length) = 0 ∨
      (if client = 0 then 0 else 32) = 0) ↔ network.Anywhere client := by
    unfold Anywhere
    grind
  simp only [score, cidrMatch, cidrNew, Cidr.wild, ports, masks, ite_not]
  apply if_congr Iff.rfl _ rfl
  by_cases anywhere : network.Anywhere client
  · rw [if_pos anywhere, if_pos anywhere]
  · obtain ⟨address, length, other⟩ : network.address ≠ 0 ∧ network.length ≠ 0 ∧ client ≠ 0 := by
      simpa [Anywhere] using anywhere
    simp only [anywhere, address, other, if_false, ← covers_iff]
    simp [length]

theorem score_sound_iff (first second : Network) (client : BitVec 32) (port : UInt16) :
    ((first.score client port ≠ 0 ↔ first.Contains client ∧ first.PortsAgree port) ↔
      (first.PortsAgree port →
        (first.Anywhere client → first.WholeEqual client ∧ first.RestEqual client) ∧
          (¬ first.Anywhere client → first.ToldApart client))) ∧
    (8 ∣ first.length → (first.ToldApart client ↔
      (first.WholeWithin client → first.WholeEqual client))) ∧
    ((second.length ≤ first.length → first.score client port ≠ 0 → second.score client port ≠ 0 →
      second.score client port ≤ first.score client port) ↔
      (second.length ≤ first.length → first.PortsAgree port → second.PortsAgree port →
        second.Anywhere client → first.Anywhere client ∨ first.Covers client →
          first.Anywhere client ∨ first.length = 32)) := by
  have long (network : Network) : ¬ network.Anywhere client → network.length ≠ 0 :=
    fun somewhere none => somewhere (.inr (.inl none))
  have secondLong := long second
  have short := first.length_le
  rw [score_eq, score_eq, toldApart_iff, ← contains_iff]
  refine ⟨?_, fun whole => ?_, ?_⟩
  · grind
  · rw [← toldApart_iff]
    exact toldApart_octets whole
  · grind

/-- 10.0.0.3 matches the client 10.0.0.1, and 0.0.0.0/0 scores higher than 10.0.0.0/8. -/
theorem score_unsound :
    ((⟨0x0300000a, 32, 0, by decide⟩ : Network).score 0x0100000a 0 ≠ 0 ∧
      ¬ (⟨0x0300000a, 32, 0, by decide⟩ : Network).Contains 0x0100000a) ∧
    (⟨0x0000000a, 8, 0, by decide⟩ : Network).score 0x0100000a 0 = 8 ∧
    (⟨0, 0, 0, by decide⟩ : Network).score 0x0100000a 0 = 32 := by
  unfold Contains
  decide

end Network

end Dbmail.Auth
