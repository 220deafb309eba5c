import AgentSphere.Lib.AddressBlocks

/-!
# Targets of calls

A call may only go to a public address. An IPv6 address may carry an IPv4 address that routers or
translators send the packets to: as a mapped or compatible address, behind the prefix of NAT64, or
in the network of a 6to4 gateway. The first two are looked into, the other two are not.
-/

namespace AgentSphere.ToolProxy

open AddressBlocks

-- Addresses

abbrev Ipv4Addr := BitVec 32

abbrev Ipv6Addr := BitVec 128

inductive IpAddr where
  | v4 (ip : Ipv4Addr)
  | v6 (ip : Ipv6Addr)

namespace Ipv4Addr

def new (a b c d : Nat) : Ipv4Addr := .ofNat 32 (((a * 256 + b) * 256 + c) * 256 + d)

def octet (ip : Ipv4Addr) (i : Nat) : Nat := field ip (24 - 8 * i) 8

variable (ip : Ipv4Addr)

def isPrivate : Bool :=
  octet ip 0 == 10 || (octet ip 0 == 172 && 16 ≤ octet ip 1 && octet ip 1 ≤ 31) ||
    (octet ip 0 == 192 && octet ip 1 == 168)

def isLoopback : Bool := octet ip 0 == 127

def isLinkLocal : Bool := octet ip 0 == 169 && octet ip 1 == 254

def isBroadcast : Bool := ip == new 255 255 255 255

def isUnspecified : Bool := ip == new 0 0 0 0

def isDocumentation : Bool :=
  (octet ip 0 == 192 && octet ip 1 == 0 && octet ip 2 == 2) ||
    (octet ip 0 == 198 && octet ip 1 == 51 && octet ip 2 == 100) ||
    (octet ip 0 == 203 && octet ip 1 == 0 && octet ip 2 == 113)

def isMulticast : Bool := 224 ≤ octet ip 0 && octet ip 0 ≤ 239

end Ipv4Addr

namespace Ipv6Addr

def octet (ip : Ipv6Addr) (i : Nat) : Nat := field ip (120 - 8 * i) 8

def segment (ip : Ipv6Addr) (i : Nat) : Nat := field ip (112 - 16 * i) 16

variable (ip : Ipv6Addr)

def isLoopback : Bool := ip == 1

def isUnspecified : Bool := ip == 0

def isUniqueLocal : Bool := (segment ip 0 &&& 0xfe00) == 0xfc00

def isUnicastLinkLocal : Bool := (segment ip 0 &&& 0xffc0) == 0xfe80

def isMulticast : Bool := (segment ip 0 &&& 0xff00) == 0xff00

end Ipv6Addr

-- Public addresses

def publicIpv4 (ip : Ipv4Addr) : Bool :=
  let first := Ipv4Addr.octet ip 0
  let second := Ipv4Addr.octet ip 1
  !(Ipv4Addr.isPrivate ip || Ipv4Addr.isLoopback ip || Ipv4Addr.isLinkLocal ip ||
    Ipv4Addr.isBroadcast ip || Ipv4Addr.isUnspecified ip || Ipv4Addr.isDocumentation ip ||
    Ipv4Addr.isMulticast ip || first == 0 || 240 ≤ first ||
    (first == 100 && 64 ≤ second && second ≤ 127) || (first == 192 && second == 0) ||
    (first == 198 && 18 ≤ second && second ≤ 19))

def embeddedV4 (ip : Ipv6Addr) : Bool :=
  (List.range 10).all (fun i => Ipv6Addr.octet ip i == 0) &&
    ((Ipv6Addr.octet ip 10 == 0 && Ipv6Addr.octet ip 11 == 0) ||
      (Ipv6Addr.octet ip 10 == 0xff && Ipv6Addr.octet ip 11 == 0xff))

def publicIpv6 (ip : Ipv6Addr) : Bool :=
  !Ipv6Addr.isLoopback ip && !Ipv6Addr.isUnspecified ip && !Ipv6Addr.isUniqueLocal ip &&
    !Ipv6Addr.isUnicastLinkLocal ip && !Ipv6Addr.isMulticast ip &&
    (Ipv6Addr.segment ip 0 &&& 0xffc0) != 0xfec0 &&
    (Ipv6Addr.segment ip 0 != 0x2001 || Ipv6Addr.segment ip 1 != 0x0db8) &&
    (!embeddedV4 ip ||
      publicIpv4 (.new (Ipv6Addr.octet ip 12) (Ipv6Addr.octet ip 13) (Ipv6Addr.octet ip 14)
        (Ipv6Addr.octet ip 15)))

def isPublicTargetIp : IpAddr → Bool
  | .v4 ip => publicIpv4 ip
  | .v6 ip => publicIpv6 ip

-- Blocks

/-- `fc00::/7`. -/
def uniqueLocal : Block 128 := ⟨0x7e, 7⟩

/-- `fe80::/10`. -/
def linkLocal : Block 128 := ⟨0x3fa, 10⟩

/-- `fec0::/10`. -/
def siteLocal : Block 128 := ⟨0x3fb, 10⟩

/-- `ff00::/8`. -/
def multicast : Block 128 := ⟨0xff, 8⟩

/-- `2001:db8::/32`. -/
def documentation : Block 128 := ⟨0x20010db8, 32⟩

/-- `::ffff:0:0/96`. -/
def ipv4Mapped : Block 128 := ⟨0xffff, 96⟩

/-- `::/96`. -/
def ipv4Compatible : Block 128 := ⟨0, 96⟩

/-- `64:ff9b::/96`. -/
def nat64 : Block 128 := ⟨0x64ff9b0000000000000000, 96⟩

/-- `2002::/16`. -/
def sixToFour : Block 128 := ⟨0x2002, 16⟩

def carried (form : Block 128) (ip : Ipv6Addr) : Option Ipv4Addr :=
  if form.Contains ip then some (.ofNat 32 (ip.toNat / 2 ^ (96 - form.length))) else none

def CarriesPublic (forms : List (Block 128)) (ip : Ipv6Addr) : Prop :=
  ∀ form ∈ forms, ∀ v4, carried form ip = some v4 → isPublicTargetIp (.v4 v4) = true

structure Guarded (ip : Ipv6Addr) : Prop where
  loopback : ip ≠ 1
  unspecified : ip ≠ 0
  uniqueLocal : ¬uniqueLocal.Contains ip
  linkLocal : ¬linkLocal.Contains ip
  siteLocal : ¬siteLocal.Contains ip
  multicast : ¬multicast.Contains ip
  documentation : ¬documentation.Contains ip
  carried : CarriesPublic [ipv4Mapped, ipv4Compatible, nat64, sixToFour] ip

-- The tests

variable {ip : Ipv6Addr} {form : Block 128} {v4 : Ipv4Addr}

theorem isUniqueLocal_iff : Ipv6Addr.isUniqueLocal ip = true ↔ uniqueLocal.Contains ip := by
  rw [Ipv6Addr.isUniqueLocal, beq_iff_eq]
  exact (uniqueLocal.contains_iff_mask ip (by decide : 16 ≤ 128) (by decide)).symm

theorem isUnicastLinkLocal_iff :
    Ipv6Addr.isUnicastLinkLocal ip = true ↔ linkLocal.Contains ip := by
  rw [Ipv6Addr.isUnicastLinkLocal, beq_iff_eq]
  exact (linkLocal.contains_iff_mask ip (by decide : 16 ≤ 128) (by decide)).symm

theorem isMulticast_iff : Ipv6Addr.isMulticast ip = true ↔ multicast.Contains ip := by
  rw [Ipv6Addr.isMulticast, beq_iff_eq]
  exact (multicast.contains_iff_mask ip (by decide : 16 ≤ 128) (by decide)).symm

theorem siteLocal_iff : Ipv6Addr.segment ip 0 &&& 0xffc0 = 0xfec0 ↔ siteLocal.Contains ip :=
  (siteLocal.contains_iff_mask ip (by decide : 16 ≤ 128) (by decide)).symm

theorem documentation_iff :
    Ipv6Addr.segment ip 0 = 0x2001 ∧ Ipv6Addr.segment ip 1 = 0x0db8 ↔ documentation.Contains ip := by
  have hlt := ip.isLt
  simp only [Ipv6Addr.segment, field, documentation, Block.Contains]
  omega

theorem embeddedV4_iff :
    embeddedV4 ip = true ↔ ipv4Mapped.Contains ip ∨ ipv4Compatible.Contains ip := by
  have hlt := ip.isLt
  have hten : (List.range 10).all (fun i => Ipv6Addr.octet ip i == 0) = true ↔
      ip.toNat / 2 ^ 48 = 0 := by
    simp only [List.all_eq_true, List.mem_range, beq_iff_eq]
    exact fields_eq_zero_iff ip 8 10 (by decide)
  rw [embeddedV4, Bool.and_eq_true, hten]
  simp only [Bool.or_eq_true, Bool.and_eq_true, beq_iff_eq, Ipv6Addr.octet, field, ipv4Mapped,
    ipv4Compatible, Block.Contains]
  omega

theorem new_octets (form : Block 128) (h : form.length = 96) : Ipv4Addr.new (Ipv6Addr.octet ip 12)
    (Ipv6Addr.octet ip 13) (Ipv6Addr.octet ip 14) (Ipv6Addr.octet ip 15) =
      .ofNat 32 (ip.toNat / 2 ^ (96 - form.length)) := by
  rw [h]
  refine BitVec.eq_of_toNat_eq ?_
  simp only [Ipv4Addr.new, BitVec.toNat_ofNat, Ipv6Addr.octet, field]
  omega

theorem carried_eq_some : carried form ip = some v4 ↔
    form.Contains ip ∧ v4 = .ofNat 32 (ip.toNat / 2 ^ (96 - form.length)) := by
  unfold carried
  by_cases h : form.Contains ip
  · simp [h, eq_comm]
  · simp [h]

-- Accepted addresses

theorem embedded_public_iff :
    (!embeddedV4 ip || publicIpv4 (.new (Ipv6Addr.octet ip 12) (Ipv6Addr.octet ip 13)
      (Ipv6Addr.octet ip 14) (Ipv6Addr.octet ip 15))) = true ↔
        CarriesPublic [ipv4Mapped, ipv4Compatible] ip := by
  constructor
  · intro h form hform v4 hcarried
    obtain ⟨hcontains, rfl⟩ := carried_eq_some.mp hcarried
    simp only [List.mem_cons, List.not_mem_nil, or_false] at hform
    have hlength : form.length = 96 := by
      obtain rfl | rfl := hform
      · rfl
      · rfl
    have hembedded : embeddedV4 ip = true := by
      obtain rfl | rfl := hform
      · exact embeddedV4_iff.mpr (.inl hcontains)
      · exact embeddedV4_iff.mpr (.inr hcontains)
    rw [hembedded, new_octets form hlength] at h
    exact h
  · intro h
    by_cases hembedded : embeddedV4 ip = true
    · rw [hembedded]
      obtain hmapped | hcompatible := embeddedV4_iff.mp hembedded
      · rw [new_octets ipv4Mapped rfl]
        exact h ipv4Mapped (by simp) _ (carried_eq_some.mpr ⟨hmapped, rfl⟩)
      · rw [new_octets ipv4Compatible rfl]
        exact h ipv4Compatible (by simp) _ (carried_eq_some.mpr ⟨hcompatible, rfl⟩)
    · rw [Bool.eq_false_iff.mpr hembedded]
      rfl

/-- **The accepted IPv6 addresses.** -/
theorem publicIpv6_iff : isPublicTargetIp (.v6 ip) = true ↔
    ip ≠ 1 ∧ ip ≠ 0 ∧ ¬uniqueLocal.Contains ip ∧ ¬linkLocal.Contains ip ∧
      ¬multicast.Contains ip ∧ ¬siteLocal.Contains ip ∧ ¬documentation.Contains ip ∧
      CarriesPublic [ipv4Mapped, ipv4Compatible] ip := by
  rw [isPublicTargetIp, publicIpv6, Bool.and_eq_true, embedded_public_iff]
  simp only [Bool.and_eq_true, Bool.not_eq_true', ← Bool.not_eq_true, isUniqueLocal_iff,
    isUnicastLinkLocal_iff, isMulticast_iff, ← siteLocal_iff, ← documentation_iff,
    Ipv6Addr.isLoopback, Ipv6Addr.isUnspecified, Bool.or_eq_true, bne_iff_ne, beq_iff_eq, ne_eq,
    and_assoc, not_and_or]

theorem translated_accepted (hform : form ∈ [nat64, sixToFour]) (h : form.Contains ip) :
    isPublicTargetIp (.v6 ip) = true := by
  have hlt := ip.isLt
  have hone : ip = 1 ↔ ip.toNat = 1 := by
    rw [← BitVec.toNat_inj]
    rfl
  have hzero : ip = 0 ↔ ip.toNat = 0 := by
    rw [← BitVec.toNat_inj]
    rfl
  have hcarries : ¬ipv4Mapped.Contains ip → ¬ipv4Compatible.Contains ip →
      CarriesPublic [ipv4Mapped, ipv4Compatible] ip := by
    intro hmapped hcompatible other hother v4 hcarried
    simp only [List.mem_cons, List.not_mem_nil, or_false] at hother
    obtain rfl | rfl := hother
    · exact absurd (carried_eq_some.mp hcarried).1 hmapped
    · exact absurd (carried_eq_some.mp hcarried).1 hcompatible
  simp only [List.mem_cons, List.not_mem_nil, or_false] at hform
  rw [publicIpv6_iff, ne_eq, ne_eq, hone, hzero]
  obtain rfl | rfl := hform
  · simp only [Block.Contains, nat64, uniqueLocal, linkLocal, multicast, siteLocal, documentation,
      ipv4Mapped, ipv4Compatible] at h hcarries ⊢
    exact ⟨by omega, by omega, by omega, by omega, by omega, by omega, by omega,
      hcarries (by omega) (by omega)⟩
  · simp only [Block.Contains, sixToFour, uniqueLocal, linkLocal, multicast, siteLocal,
      documentation, ipv4Mapped, ipv4Compatible] at h hcarries ⊢
    exact ⟨by omega, by omega, by omega, by omega, by omega, by omega, by omega,
      hcarries (by omega) (by omega)⟩

/-- **When the guard holds**: the address is none of a translator or a 6to4 gateway, or the IPv4
address that it carries is accepted. -/
theorem guarded_iff (ip : Ipv6Addr) :
    (isPublicTargetIp (.v6 ip) = true → Guarded ip) ↔ CarriesPublic [nat64, sixToFour] ip := by
  constructor
  · intro h form hform v4 hcarried
    have haccepted := translated_accepted hform (carried_eq_some.mp hcarried).1
    exact (h haccepted).carried form (List.mem_append_right [ipv4Mapped, ipv4Compatible] hform) v4
      hcarried
  · intro hcarries haccepted
    obtain ⟨hloopback, hunspecified, huniqueLocal, hlinkLocal, hmulticast, hsiteLocal,
      hdocumentation, hembedded⟩ := publicIpv6_iff.mp haccepted
    refine ⟨hloopback, hunspecified, huniqueLocal, hlinkLocal, hsiteLocal, hmulticast,
      hdocumentation, fun form hform v4 hcarried => ?_⟩
    obtain hform | hform := List.mem_append.mp
      (show form ∈ [ipv4Mapped, ipv4Compatible] ++ [nat64, sixToFour] from hform)
    · exact hembedded form hform v4 hcarried
    · exact hcarries form hform v4 hcarried

/-- `64:ff9b::7f00:1` is accepted, and a translator sends it to `127.0.0.1`. -/
theorem loopback_behind_nat64 :
    isPublicTargetIp (.v6 0x0064ff9b00000000000000007f000001) = true ∧
      carried nat64 0x0064ff9b00000000000000007f000001 = some (.new 127 0 0 1) ∧
      isPublicTargetIp (.v4 (.new 127 0 0 1)) = false ∧
      ¬Guarded 0x0064ff9b00000000000000007f000001 := by
  have hcarried : carried nat64 0x0064ff9b00000000000000007f000001 = some (.new 127 0 0 1) := by
    decide
  have hrefused : isPublicTargetIp (.v4 (.new 127 0 0 1)) = false := by decide
  refine ⟨by decide, hcarried, hrefused, fun h => ?_⟩
  have haccepted := h.carried nat64 (by simp) _ hcarried
  rw [hrefused] at haccepted
  cases haccepted

end AgentSphere.ToolProxy
