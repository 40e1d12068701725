import Mathlib.Data.Fin.Basic

/-! # The blacklist of addresses

Blocks of addresses are masked when they are configured, and the address of a server is looked for
among them.  For IPv6 it is the block that is masked once more, and not the address, so that only
the first address of a block is found.
-/

namespace Nchan.Redis

inductive Address where
  | ipv4 (addr : BitVec 32)
  | ipv6 (addr : Fin 16 → BitVec 8)

/-- `nchan_redis_ip_range_t`: a masked block, and its mask.  The numbers are in the order of their
    bits; in memory, all of them are in network byte order. -/
inductive IpRange where
  | ipv4 (addrBlock mask : BitVec 32)
  | ipv6 (addrBlock mask : Fin 16 → BitVec 8)

/-- An address with the size that may be written behind it. -/
structure CidrBlock where
  addr : Address
  prefixSize : Option Nat

/-- `ipv4_prefix_size_to_mask`. -/
def ipv4PrefixSizeToMask (prefixSize : Nat) : BitVec 32 :=
  if prefixSize > 0 then ~~~((1 <<< (32 - prefixSize)) - 1) else 0

/-- `ipv6_prefix_size_to_mask`. -/
def ipv6PrefixSizeToMask (prefixSize : Nat) (i : Fin 16) : BitVec 8 :=
  if prefixSize - 8 * i ≥ 8 then 0xFF else 0xFF <<< (8 - (prefixSize - 8 * i))

/-- What `ngx_conf_set_redis_ip_blacklist` makes of an address, with the size that may have been
    given behind it. -/
def setRedisIpBlacklist (addr : Address) (prefixSize : Option Nat) : Except String IpRange :=
  if prefixSize = some 0 then .error "netmask size of 0 would block everything"
  else
    match addr with
    | .ipv4 addr =>
      let prefixSize := prefixSize.getD 32
      if prefixSize > 32 then .error "netmask size cannot exceed 32 for IPv4"
      else .ok (.ipv4 (addr &&& ipv4PrefixSizeToMask prefixSize) (ipv4PrefixSizeToMask prefixSize))
    | .ipv6 addr =>
      let prefixSize := prefixSize.getD 128
      if prefixSize > 128 then .error "netmask size cannot exceed 128 for IPv4"
      else .ok (.ipv6 (fun j => addr j &&& ipv6PrefixSizeToMask prefixSize j)
        (ipv6PrefixSizeToMask prefixSize))

def confSetBlacklist : List CidrBlock → Except String (List IpRange)
  | [] => .ok []
  | block :: blocks => do
    let entry ← setRedisIpBlacklist block.addr block.prefixSize
    let entries ← confSetBlacklist blocks
    return entry :: entries

/-- One entry of the blacklist is compared with an address, and may be written to. -/
def IpRange.compare (addr : Address) : IpRange → Bool × IpRange
  | .ipv4 block mask =>
    match addr with
    | .ipv4 addr => (block = addr &&& mask, .ipv4 block mask)
    | .ipv6 _ => (false, .ipv4 block mask)
  | .ipv6 block mask =>
    match addr with
    | .ipv4 _ => (false, .ipv6 block mask)
    | .ipv6 addr =>
      let masked := fun j => block j &&& mask j
      (∀ j, masked j = addr j, .ipv6 masked mask)

/-- `node_ip_blacklisted`: the entry that is returned, and the blacklist afterwards. -/
def nodeIpBlacklisted (addr : Address) : List IpRange → Option IpRange × List IpRange
  | [] => (none, [])
  | entry :: rest =>
    let (same, entry) := entry.compare addr
    if same then (some entry, entry :: rest)
    else
      let (found, rest) := nodeIpBlacklisted addr rest
      (found, entry :: rest)

/-! ## Prefixes -/

/-- An address is in a block: it has the same first bits. -/
def CidrBlock.Has (block : CidrBlock) : Address → Prop
  | .ipv4 addr =>
    match block.addr with
    | .ipv4 first => ∀ i < block.prefixSize.getD 32, addr.getMsbD i = first.getMsbD i
    | .ipv6 _ => False
  | .ipv6 addr =>
    match block.addr with
    | .ipv4 _ => False
    | .ipv6 first => ∀ (j : Fin 16) (i : Fin 8), 8 * j.val + i < block.prefixSize.getD 128 →
        (addr j).getMsbD i = (first j).getMsbD i

/-- All bits of an IPv6 address behind the prefix are 0. -/
def CidrBlock.StartsAt (block : CidrBlock) : Address → Prop
  | .ipv4 _ => True
  | .ipv6 addr => ∀ (j : Fin 16) (i : Fin 8), block.prefixSize.getD 128 ≤ 8 * j.val + i →
      (addr j).getMsbD i = false

variable {addr : Address} {block : CidrBlock} {blocks : List CidrBlock} {entry : IpRange}
  {entries : List IpRange}

theorem ipv4_mask_bit {n i : Nat} (size : n ≤ 32) (within : i < 32) :
    (ipv4PrefixSizeToMask n).getMsbD i = decide (i < n) := by
  have all : ∀ (n : Fin 33) (i : Fin 32),
      (ipv4PrefixSizeToMask n).getMsbD i = decide (i.val < n.val) := by decide +kernel
  exact all ⟨n, by omega⟩ ⟨i, within⟩

theorem ipv4_masked_eq_iff {a b : BitVec 32} {n : Nat} (size : n ≤ 32) :
    a &&& ipv4PrefixSizeToMask n = b &&& ipv4PrefixSizeToMask n ↔
      ∀ i < n, b.getMsbD i = a.getMsbD i := by
  constructor
  · intro same i within
    have bits := congrArg (·.getMsbD i) same
    simpa [ipv4_mask_bit size (by omega : i < 32), within] using bits.symm
  · intro bits
    refine BitVec.eq_of_getMsbD_eq fun i within => ?_
    rw [BitVec.getMsbD_and, BitVec.getMsbD_and, ipv4_mask_bit size within]
    by_cases inside : i < n
    · rw [bits i inside]
    · simp [inside]

theorem ipv6_mask_bit (n : Nat) (j : Fin 16) (i : Fin 8) :
    (ipv6PrefixSizeToMask n j).getMsbD i = decide (8 * j.val + i < n) := by
  have part : ∀ k i : Fin 8, ((0xFF <<< (8 - k.val) : Nat) : BitVec 8).getMsbD i = decide (i < k) := by
    decide
  have whole : ∀ i : Fin 8, (0xFF : BitVec 8).getMsbD i = true := by decide
  rw [ipv6PrefixSizeToMask]
  split
  · rw [whole, eq_comm, decide_eq_true_eq]
    omega
  · rw [part ⟨n - 8 * j, by omega⟩, decide_eq_decide, Fin.lt_def]
    dsimp only
    omega

theorem ipv6_masked_eq_iff {a b : Fin 16 → BitVec 8} {n : Nat} :
    (∀ j, a j &&& ipv6PrefixSizeToMask n j = b j) ↔
      (∀ (j : Fin 16) (i : Fin 8), 8 * j.val + i < n → (b j).getMsbD i = (a j).getMsbD i) ∧
      ∀ (j : Fin 16) (i : Fin 8), n ≤ 8 * j.val + i → (b j).getMsbD i = false := by
  constructor
  · intro same
    refine ⟨fun j i inside => ?_, fun j i behind => ?_⟩ <;>
      rw [← same j, BitVec.getMsbD_and, ipv6_mask_bit]
    · simp [inside]
    · simp [Nat.not_lt.mpr behind]
  · rintro ⟨inside, behind⟩ j
    refine BitVec.eq_of_getMsbD_eq fun i within => ?_
    rw [BitVec.getMsbD_and, ipv6_mask_bit n j ⟨i, within⟩]
    by_cases at_ : 8 * j.val + i < n
    · simp [at_, inside j ⟨i, within⟩ at_]
    · simp [at_, behind j ⟨i, within⟩ (Nat.not_lt.mp at_)]

theorem compare_configured (configured : setRedisIpBlacklist block.addr block.prefixSize = .ok entry)
    (addr : Address) :
    (entry.compare addr).2 = entry ∧
      ((entry.compare addr).1 ↔ block.Has addr ∧ block.StartsAt addr) := by
  obtain ⟨first, size⟩ := block
  unfold setRedisIpBlacklist at configured
  split at configured
  · cases configured
  cases first with
  | ipv4 first =>
    simp only at configured
    split at configured
    · cases configured
    · cases configured
      cases addr with
      | ipv4 addr =>
        exact ⟨rfl, by
          simpa [IpRange.compare, CidrBlock.Has, CidrBlock.StartsAt] using
            ipv4_masked_eq_iff (by omega)⟩
      | ipv6 addr => exact ⟨rfl, by simp [IpRange.compare, CidrBlock.Has]⟩
  | ipv6 first =>
    simp only at configured
    split at configured
    · cases configured
    · cases configured
      cases addr with
      | ipv4 addr => exact ⟨rfl, by simp [IpRange.compare, CidrBlock.Has]⟩
      | ipv6 addr =>
        -- the entry is masked once more, and the address not at all
        refine ⟨by simp [IpRange.compare, BitVec.and_assoc], ?_⟩
        simpa [IpRange.compare, CidrBlock.Has, CidrBlock.StartsAt, BitVec.and_assoc] using
          ipv6_masked_eq_iff

theorem nodeIpBlacklisted_configured (configured : confSetBlacklist blocks = .ok entries)
    (addr : Address) :
    (nodeIpBlacklisted addr entries).2 = entries ∧
      ((nodeIpBlacklisted addr entries).1.isSome ↔
        ∃ block ∈ blocks, block.Has addr ∧ block.StartsAt addr) := by
  induction blocks generalizing entries with
  | nil =>
    cases configured
    simp [nodeIpBlacklisted]
  | cons block blocks ih =>
    rw [confSetBlacklist] at configured
    cases first : setRedisIpBlacklist block.addr block.prefixSize with
    | error => simp [first, bind, Except.bind] at configured
    | ok entry =>
      cases others : confSetBlacklist blocks with
      | error => simp [first, others, bind, Except.bind] at configured
      | ok rest =>
        obtain rfl : entry :: rest = entries := by
          simpa [first, others, bind, Except.bind, pure, Except.pure] using configured
        obtain ⟨kept, found⟩ := compare_configured first addr
        obtain ⟨keptRest, foundRest⟩ := ih others
        simp only [nodeIpBlacklisted, List.mem_cons, exists_eq_or_imp, ← found, ← foundRest]
        cases same : (entry.compare addr).1 <;> simp [kept, keptRest]

/-- Asking does not change the blocks, and finds an address just if it is in one of them, if and only
    if an IPv6 address that is in a block is the first one of such a block. -/
theorem blacklist_right_iff (configured : confSetBlacklist blocks = .ok entries) (addr : Address) :
    (((nodeIpBlacklisted addr entries).1.isSome ↔ ∃ block ∈ blocks, block.Has addr) ∧
      (nodeIpBlacklisted addr entries).2 = entries) ↔
    ∀ block ∈ blocks, block.Has addr → ∃ block ∈ blocks, block.Has addr ∧ block.StartsAt addr := by
  obtain ⟨kept, found⟩ := nodeIpBlacklisted_configured configured addr
  rw [found, and_iff_left kept]
  constructor
  · exact fun right block on has => right.mpr ⟨block, on, has⟩
  · intro starts
    exact ⟨fun ⟨block, on, has, _⟩ => ⟨block, on, has⟩, fun ⟨block, on, has⟩ => starts block on has⟩

/-- An IPv4 address, with blocks of both kinds. -/
theorem blacklist_right_class_a :
    let blocks : List CidrBlock := [⟨.ipv6 fun _ => 0, some 1⟩, ⟨.ipv4 0x0A000000, some 8⟩]
    ∃ entries, confSetBlacklist blocks = .ok entries ∧
      ((nodeIpBlacklisted (.ipv4 0x0A010203) entries).1.isSome ↔
        ∃ block ∈ blocks, block.Has (.ipv4 0x0A010203)) :=
  ⟨_, rfl, ((blacklist_right_iff rfl (.ipv4 _)).mpr fun block on has => ⟨block, on, has, trivial⟩).1⟩

/-- An address is not found in the block of half of all addresses. -/
theorem ipv6_block_misses :
    ∃ entries, confSetBlacklist [⟨.ipv6 fun _ => 0, some 1⟩] = .ok entries ∧
      CidrBlock.Has ⟨.ipv6 fun _ => 0, some 1⟩ (.ipv6 fun _ => 1) ∧
      (nodeIpBlacklisted (.ipv6 fun _ => 1) entries).1.isNone :=
  ⟨_, rfl, by unfold CidrBlock.Has; decide, by decide⟩

end Nchan.Redis
