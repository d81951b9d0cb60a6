import NetworkManager.Platform.PrefixCompare

/-!
# Comparing and hashing IPv6 addresses

Objects that compare equal share an entry of a hash table, so the hash function has to feed the same
text for them.  `nm_platform_ip6_address_cmp` knows two ways to say that an address has no peer,
the unspecified address and the address itself.  `nm_platform_ip6_address_hash_update` feeds the
peer as it is.
-/

namespace NetworkManager

/-- `nm_platform_ip6_address_hash_update`. -/
def ip6AddressHashUpdate (obj : NMPlatformIP6Address) : List UInt8 :=
  intBytes obj.ifindex ++ numberBytes 4 obj.addrSource ++ numberBytes 4 obj.timestamp.toNat ++
    numberBytes 4 obj.lifetime.toNat ++ numberBytes 4 obj.preferred.toNat ++
    numberBytes 4 obj.nIfaFlags.toNat ++ numberBytes 1 obj.plen.toNat ++ obj.address.bytes 16 ++
    obj.peerAddress.bytes 16 ++ hashCombineBools [obj.isExternal]

open LawfulCmpOn in
theorem ip6AddressCmp_lawful {values : Set NMPlatformIP6Address} :
    LawfulCmpOn values ip6AddressCmp :=
  byPart values (·.ifindex) <|
  byPart values (·.address) <|
  byPart values (·.plen) <|
  byPart values (·.getPeer) <|
  byPart values (·.addrSource) <|
  byPart values (·.timestamp) <|
  byPart values (·.lifetime) <|
  byPart values (·.preferred) <|
  byPart values (·.nIfaFlags) <|
  (on fun a : NMPlatformIP6Address => a.isExternal)

namespace NMPlatformIP6Address

/-- The two ways to say that an address has no peer. -/
def HasNoPeer (addr : NMPlatformIP6Address) : Prop :=
  addr.peerAddress = 0 ∨ addr.peerAddress = addr.address

/-- Two objects that differ only in how they say that there is no peer. -/
structure DifferInNoPeer (a b : NMPlatformIP6Address) : Prop where
  others : { a with peerAddress := b.peerAddress } = b
  left : a.HasNoPeer
  right : b.HasNoPeer
  different : a.peerAddress ≠ b.peerAddress

variable {addr : NMPlatformIP6Address}

theorem getPeer_of_hasNoPeer (none : addr.HasNoPeer) : addr.getPeer = addr.address := if_pos none

theorem getPeer_of_peer (peer : ¬ addr.HasNoPeer) : addr.getPeer = addr.peerAddress := if_neg peer

theorem peerAddress_ne_of_peer (peer : ¬ addr.HasNoPeer) :
    addr.peerAddress ≠ addr.address := fun own => peer (.inr own)

/-- Two objects with the same address and the same peer agree in the peer field, unless both say
that there is none. -/
theorem peerAddress_eq_or {a b : NMPlatformIP6Address} (address : a.address = b.address)
    (peer : a.getPeer = b.getPeer) :
    a.peerAddress = b.peerAddress ∨ (a.HasNoPeer ∧ b.HasNoPeer) := by
  by_cases a_none : a.HasNoPeer
  · by_cases b_none : b.HasNoPeer
    · exact .inr ⟨a_none, b_none⟩
    · rw [getPeer_of_hasNoPeer a_none, getPeer_of_peer b_none, address] at peer
      exact absurd peer.symm (peerAddress_ne_of_peer b_none)
  · by_cases b_none : b.HasNoPeer
    · rw [getPeer_of_peer a_none, getPeer_of_hasNoPeer b_none, ← address] at peer
      exact absurd peer (peerAddress_ne_of_peer a_none)
    · rw [getPeer_of_peer a_none, getPeer_of_peer b_none] at peer
      exact .inl peer

end NMPlatformIP6Address

open NMPlatformIP6Address

theorem ip6AddressCmp_fields {a b : NMPlatformIP6Address} (same : ip6AddressCmp a b = .eq) :
    { a with peerAddress := b.peerAddress } = b ∧ a.address = b.address ∧
      a.getPeer = b.getPeer := by
  simp only [ip6AddressCmp, Ordering.then_eq_eq, Std.compare_eq_iff_eq] at same
  obtain ⟨ifindex, address, plen, peer, source, timestamp, lifetime, preferred, flags, isExternal⟩ :=
    same
  refine ⟨?_, address, peer⟩
  obtain ⟨common, own, own_peer⟩ := b
  simp only [NMPlatformIP6Address.mk.injEq, NMPlatformIPAddress.ext_iff]
  exact ⟨⟨ifindex, source, timestamp, lifetime, preferred, flags, plen, isExternal⟩, address, trivial⟩

/-- Objects that differ in how they say that there is no peer compare equal. -/
theorem ip6AddressCmp_of_differInNoPeer {a b : NMPlatformIP6Address} (differ : a.DifferInNoPeer b) :
    ip6AddressCmp a b = .eq := by
  obtain ⟨others, left, right, -⟩ := differ
  have peer : a.getPeer = b.getPeer := by
    rw [getPeer_of_hasNoPeer left, getPeer_of_hasNoPeer right]
    rw [← others]
  have common : a.toNMPlatformIPAddress = b.toNMPlatformIPAddress := by rw [← others]
  have address : a.address = b.address := by rw [← others]
  simp only [ip6AddressCmp, Ordering.then_eq_eq, Std.compare_eq_iff_eq]
  rw [common]
  exact ⟨rfl, address, rfl, peer, rfl, rfl, rfl, rfl, rfl, rfl⟩

theorem In6Addr.bytes_inj {a b : In6Addr} (same : a.bytes 16 = b.bytes 16) : a = b := by
  have whole : ∀ addr : In6Addr, addr.firstBytes 16 = addr := BitVec.ushiftRight_zero
  have order : compare a b = .eq := by
    rw [← whole a, ← whole b, ← In6Addr.compare_bytes a b (Nat.le_refl 16), same]
    exact Std.ReflOrd.compare_self
  exact Std.compare_eq_iff_eq.mp order

/-- The peer can be read off the text if the other fields are known. -/
theorem ip6AddressHashUpdate_peer {a b : NMPlatformIP6Address}
    (others : { a with peerAddress := b.peerAddress } = b)
    (same : ip6AddressHashUpdate a = ip6AddressHashUpdate b) : a.peerAddress = b.peerAddress := by
  rw [← others] at same
  unfold ip6AddressHashUpdate at same
  dsimp only at same
  exact In6Addr.bytes_inj (List.append_cancel_left (List.append_cancel_right same))

/-- The comparison is a total preorder.  Hashing respects it for two objects exactly if these do not
differ in how they say that there is no peer. -/
theorem ip6Address_hash_iff (a b : NMPlatformIP6Address) :
    LawfulCmpOn Set.univ ip6AddressCmp ∧
      ((ip6AddressCmp a b = .eq → ip6AddressHashUpdate a = ip6AddressHashUpdate b) ↔
        ¬ a.DifferInNoPeer b) := by
  refine ⟨ip6AddressCmp_lawful, ?_⟩
  constructor
  · intro respected differ
    have same := respected (ip6AddressCmp_of_differInNoPeer differ)
    exact differ.different (ip6AddressHashUpdate_peer differ.others same)
  · intro not_differ same
    obtain ⟨others, address, peer⟩ := ip6AddressCmp_fields same
    rcases peerAddress_eq_or address peer with equal | ⟨left, right⟩
    · have all_equal : a = b := by rw [← others, ← equal]
      rw [all_equal]
    · by_cases equal : a.peerAddress = b.peerAddress
      · have all_equal : a = b := by rw [← others, ← equal]
        rw [all_equal]
      · exact absurd ⟨others, left, right, equal⟩ not_differ

def addressWithPeer (peerAddress : In6Addr) : NMPlatformIP6Address where
  ifindex := 1
  addrSource := 2
  timestamp := 0
  lifetime := 0xffffffff
  preferred := 0xffffffff
  nIfaFlags := 0x80
  plen := 64
  isExternal := false
  address := 0xfe800000000000000000000000000001
  peerAddress := peerAddress

/-- The kernel may report the address itself as the peer, or no peer at all. -/
theorem ip6Address_hash_fails :
    ¬ (LawfulCmpOn Set.univ ip6AddressCmp ∧
      ∀ a b : NMPlatformIP6Address, ip6AddressCmp a b = .eq →
        ip6AddressHashUpdate a = ip6AddressHashUpdate b) := by
  rintro ⟨-, always⟩
  have same := always (addressWithPeer 0) (addressWithPeer 0xfe800000000000000000000000000001)
    (by decide)
  have peer := ip6AddressHashUpdate_peer rfl same
  revert peer
  decide

end NetworkManager
