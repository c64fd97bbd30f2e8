import BasisCell.Lib.Fallible
import BasisCell.Controller.Db

/-!
# `BasisCell.Controller.Config` — which network configurations the controller starts with

`NetworkConfig::validate`, check by check, and what a configuration that passes it guarantees: the supernet
has room for a VM in every slice, and the supernet and the pools are pairwise disjoint sets of addresses.

The source parses the networks inside `validate`; here a network is already parsed, and what parsing
guarantees of it is `Ipv4Net.wellFormed`.
-/

namespace BasisCell

open Fallible List

/-! ## Validation -/

/-- `Pool::validate`. -/
def Pool.validate (pool : Pool) : Except String Unit :=
  if pool.name = "" then .error "pool name must not be empty"
  else if ¬pool.cidr.wellFormed then .error s!"pool '{pool.name}' cidr '{pool.cidr.text}' invalid"
  else if pool.cidr.prefixLen ≥ 31 then
    .error s!"pool '{pool.name}' cidr /{pool.cidr.prefixLen} too narrow — /30 (4 addrs) is the minimum"
  else .ok ()

namespace NetworkConfig

/-- The checks on one pool, given the pools before it. -/
def validatePool (net : NetworkConfig) (earlier : List Pool) (pool : Pool) : Except String Unit :=
  if earlier.any fun p => p.name = pool.name then .error s!"network.pools[].name '{pool.name}' is duplicated"
  else
    match pool.validate with
    | .error e => .error e
    | .ok () =>
      if cidrsOverlap net.clusterSupernet pool.cidr then
        .error (s!"network.clusterSupernet {net.clusterSupernet.text} overlaps pool '{pool.name}' "
          ++ s!"cidr {pool.cidr.text}")
      else
        match earlier.find? fun other => cidrsOverlap pool.cidr other.cidr with
        | some other => .error
            s!"pool '{pool.name}' cidr {pool.cidr.text} overlaps pool '{other.name}' cidr {other.cidr.text}"
        | none =>
          let servicePrefix := 32 - Nat.log2 net.defaultExternalServiceIps
          if servicePrefix < 32 ∧ pool.cidr.prefixLen + 2 > servicePrefix then
            .error (s!"pool '{pool.name}' cidr {pool.cidr.text} can't fit a /{servicePrefix} service block "
              ++ s!"(defaultExternalServiceIps = {net.defaultExternalServiceIps}); pool prefix must be at most "
              ++ s!"/{servicePrefix - 2} to leave aligned space for the block")
          else .ok ()

/-- The loop over `network.pools`. -/
def validatePools (net : NetworkConfig) (earlier : List Pool) : List Pool → Except String Unit
  | [] => .ok ()
  | pool :: rest =>
    match net.validatePool earlier pool with
    | .error e => .error e
    | .ok () => validatePools net (earlier ++ [pool]) rest

/-- `1u32 << (32 - cluster_prefix)`: the shift amount is taken modulo 32. -/
def addrsPerCluster (net : NetworkConfig) : Nat := 2 ^ ((32 - net.clusterPrefix) % 32)

/-- `NetworkConfig::validate`. -/
def validate (net : NetworkConfig) : Except String Unit :=
  if ¬net.clusterSupernet.wellFormed then
    .error s!"network.clusterSupernet '{net.clusterSupernet.text}' invalid"
  else if net.clusterPrefix < net.clusterSupernet.prefixLen ∨ net.clusterPrefix > 30 then
    .error (s!"network.clusterPrefix /{net.clusterPrefix} must be between "
      ++ s!"/{net.clusterSupernet.prefixLen} (supernet) and /30 inclusive")
  else if net.addrsPerCluster ≤ min (net.bridgeReserve + 2) (2 ^ 32 - 1) then
    .error (s!"network.clusterPrefix /{net.clusterPrefix} holds {net.addrsPerCluster} addresses; "
      ++ s!"bridgeReserve={net.bridgeReserve} + network + broadcast leaves no VM capacity")
  else if net.vniStart = 0 ∨ net.vniEnd < net.vniStart then
    .error s!"network.vniRange invalid: start={net.vniStart}, end={net.vniEnd}"
  else if net.vniEnd ≥ 2 ^ 24 then
    .error s!"network.vniRange.end {net.vniEnd} exceeds VXLAN 24-bit limit (16_777_215)"
  else if ¬net.defaultExternalServiceIps.isPowerOfTwo then
    .error s!"network.defaultExternalServiceIps must be a power of two (got {net.defaultExternalServiceIps})"
  else if net.pools.isEmpty then .error "network.pools must contain at least one entry"
  else if ¬net.pools.any fun p => !p.isTree then
    .error ("network.pools must contain at least one Lan-scoped pool (every cell needs at least one "
      ++ "LAN-routable pool for public cluster apiserver VIPs)")
  else net.validatePools [] net.pools

/-- What validation guarantees. -/
structure Valid (net : NetworkConfig) : Prop where
  supernet : net.clusterSupernet.wellFormed = true
  supernet_le : net.clusterSupernet.prefixLen ≤ net.clusterPrefix
  prefix_le : net.clusterPrefix ≤ 30
  /-- Network address, bridges, one VM and broadcast fit into a slice. -/
  room : net.bridgeReserve + 2 < 2 ^ (32 - net.clusterPrefix)
  vni_le : net.vniStart ≤ net.vniEnd
  pools : ∀ p ∈ net.pools, p.cidr.wellFormed = true ∧ p.cidr.prefixLen ≤ 30
  /-- No pool shares an address with the supernet. -/
  apart : ∀ p ∈ net.pools, cidrsOverlap net.clusterSupernet p.cidr = false
  /-- Two pools share neither a name nor an address. -/
  distinct : net.pools.Pairwise fun p q => p.name ≠ q.name ∧ cidrsOverlap p.cidr q.cidr = false

end NetworkConfig

theorem Pool.validate_ok {pool : Pool} (h : pool.validate = .ok ()) :
    pool.name ≠ "" ∧ pool.cidr.wellFormed = true ∧ pool.cidr.prefixLen ≤ 30 := by
  simp only [validate, guard_ok] at h
  obtain ⟨hname, hwf, hnarrow, -⟩ := h
  exact ⟨hname, not_not.mp hwf, by omega⟩

namespace NetworkConfig

variable {net : NetworkConfig} {pool : Pool} {earlier : List Pool}

theorem validatePool_ok (h : net.validatePool earlier pool = .ok ()) :
    pool.validate = .ok () ∧ cidrsOverlap net.clusterSupernet pool.cidr = false ∧
      (∀ p ∈ earlier, p.name ≠ pool.name ∧ cidrsOverlap p.cidr pool.cidr = false) ∧
      pool.cidr.prefixLen + 2 + net.defaultExternalServiceIps.log2 ≤ 32 := by
  unfold validatePool at h
  obtain ⟨hnames, h⟩ := guard_ok.mp h
  split at h
  · cases h
  · rename_i hpool
    obtain ⟨hsupernet, h⟩ := guard_ok.mp h
    split at h
    · cases h
    · rename_i hothers
      have hfits := (guard_ok.mp h).1
      have hnarrow := (Pool.validate_ok hpool).2.2
      refine ⟨hpool, Bool.eq_false_of_not_eq_true hsupernet, fun p hp => ⟨fun heq => ?_, ?_⟩, by omega⟩
      · exact hnames (any_eq_true.mpr ⟨p, hp, decide_eq_true heq⟩)
      · rw [cidrsOverlap_comm]
        exact Bool.eq_false_of_not_eq_true (List.find?_eq_none.mp hothers p hp)

/-- The loop has compared every pool with all pools before it. -/
theorem validatePools_ok : ∀ {pools earlier : List Pool}, net.validatePools earlier pools = .ok () →
    (∀ p ∈ pools, ∃ before, earlier ⊆ before ∧ net.validatePool before p = .ok ()) ∧
    pools.Pairwise fun p q => p.name ≠ q.name ∧ cidrsOverlap p.cidr q.cidr = false
  | [], _, _ => ⟨nofun, List.Pairwise.nil⟩
  | pool :: rest, earlier, h => by
    unfold validatePools at h
    split at h
    · cases h
    · rename_i hpool
      obtain ⟨hrest, hdistinct⟩ := validatePools_ok h
      refine ⟨forall_mem_cons.mpr ⟨⟨earlier, Subset.refl _, hpool⟩, fun p hp => ?_⟩,
        pairwise_cons.mpr ⟨fun q hq => ?_, hdistinct⟩⟩
      · obtain ⟨before, hsub, hp⟩ := hrest p hp
        exact ⟨before, fun q hq => hsub (mem_append_left _ hq), hp⟩
      · obtain ⟨before, hsub, hq⟩ := hrest q hq
        exact (validatePool_ok hq).2.2.1 pool (hsub (mem_append_right _ (mem_singleton_self _)))

/-- **What a validated configuration guarantees.** -/
theorem valid_of_validate (h : net.validate = .ok ()) : net.Valid := by
  simp only [validate, guard_ok] at h
  obtain ⟨hsupernet, hprefix, hroom, hvni, -, -, -, -, h⟩ := h
  obtain ⟨hpools, hdistinct⟩ := validatePools_ok h
  have hpools : ∀ p ∈ net.pools, p.validate = .ok () ∧ cidrsOverlap net.clusterSupernet p.cidr = false := by
    intro p hp
    obtain ⟨before, -, hp⟩ := hpools p hp
    exact ⟨(validatePool_ok hp).1, (validatePool_ok hp).2.1⟩
  refine ⟨not_not.mp hsupernet, by omega, by omega, ?_, by omega, fun p hp => (Pool.validate_ok (hpools p hp).1).2,
    fun p hp => (hpools p hp).2, hdistinct⟩
  unfold addrsPerCluster at hroom
  -- a prefix of zero would make the shift wrap to one address, which is too few
  by_cases hzero : net.clusterPrefix = 0
  · have hone : 2 ^ ((32 - net.clusterPrefix) % 32) = 1 := by
      rw [hzero]
      rfl
    rw [hone] at hroom
    omega
  · have hshift : (32 - net.clusterPrefix) % 32 = 32 - net.clusterPrefix := Nat.mod_eq_of_lt (by omega)
    have hlt : 2 ^ (32 - net.clusterPrefix) ≤ 2 ^ 31 := Nat.pow_le_pow_right (by decide) (by omega)
    rw [hshift] at hroom
    omega

theorem mem_of_poolByName {name : String} (h : net.poolByName name = some pool) :
    pool ∈ net.pools ∧ pool.name = name := by
  unfold poolByName at h
  exact ⟨mem_of_find?_eq_some h, by simpa using List.find?_some h⟩

end NetworkConfig

end BasisCell
