import BasisCell.Controller.External

/-!
# `BasisCell.Controller.Allocators` — when the allocators succeed

The counterpart of what `Controller.External` and `Controller.Networks` say of successful allocations: what has
to be free so that a search finds it. Addresses have one primary key over all scopes, so a search that looks at
its own scope only succeeds where the addresses of its range are held in that scope only. The search for a block
is a search in the list of the blocks that it tries (`allocateServiceBlock_eq`). A pick of
`allocate_cluster_network` depends on the VNIs and CIDRs in the table and on nothing else.
-/

namespace BasisCell

open Conc Relational Table List

/-! ## Addresses and blocks -/

namespace Db

variable {db : Db} {scope : String} {range : ParsedRange} {owner : IpOwner} {a : Ipv4Addr}

/-- Nobody holds the address, in any scope. -/
def unheld (db : Db) (a : Ipv4Addr) : Bool := db.ipAllocations.rows.all fun r => r.ipAddress ≠ a

/-- The addresses of the range are held in this scope only. -/
def scopedTo (db : Db) (scope : String) (range : ParsedRange) : Bool :=
  db.ipAllocations.rows.all fun r => r.scope = scope ∨ r.ipAddress < range.start ∨ range.stop < r.ipAddress

/-- The range has an address left. -/
def hasAddress (db : Db) (scope : String) (range : ParsedRange) : Bool :=
  (candidates range).any fun n => !db.addressTaken scope n

/-- The range has an aligned block of `count` addresses left. -/
def hasBlock (db : Db) (scope : String) (range : ParsedRange) (count : Nat) : Bool :=
  (candidates range).any fun n => decide (count ∣ n ∧ n + (count - 1) ≤ range.stop) &&
    (List.range' n count).all fun m => !db.addressTaken scope m

theorem unheld_of_free (hscoped : db.scopedTo scope range = true) (hstart : range.start ≤ a) (hstop : a ≤ range.stop)
    (hfree : db.addressTaken scope a = false) : db.unheld a = true := by
  refine all_eq_true.mpr fun r hr => decide_eq_true fun heq => ?_
  rcases of_decide_eq_true (all_eq_true.mp hscoped r hr) with hscope | hlow | hhigh
  · have htaken : db.addressTaken scope a = true := by
      unfold addressTaken
      rw [Bool.or_eq_true]
      exact .inl (any_eq_true.mpr ⟨r, hr, decide_eq_true ⟨hscope, heq⟩⟩)
    rw [hfree] at htaken
    cases htaken
  · rw [heq] at hlow
    exact absurd hstart (Nat.not_le_of_lt hlow)
  · rw [heq] at hhigh
    exact absurd hstop (Nat.not_le_of_lt hhigh)

theorem insert_of_unheld (h : db.unheld a = true) : ∃ t, db.ipAllocations.insert ⟨a, scope, owner⟩ = some t := by
  apply Option.isSome_iff_exists.mp
  rw [insert_isSome_iff]
  intro r hr hclash
  exact of_decide_eq_true (all_eq_true.mp h r hr) hclash

theorem allocateFromRange_succeeds (hrange : range.start ≤ range.stop) (hscoped : db.scopedTo scope range = true)
    (hhas : db.hasAddress scope range = true) :
    ∃ db' ip, db.allocateFromRange scope range owner = .ok (db', ip) := by
  unfold allocateFromRange
  cases hfind : (candidates range).find? fun n => !db.addressTaken scope n with
  | none =>
    obtain ⟨n, hn, hfree⟩ := any_eq_true.mp hhas
    exact absurd hfree (List.find?_eq_none.mp hfind n hn)
  | some n =>
    have hfree : db.addressTaken scope n = false := by
      have hsel := List.find?_some hfind
      rw [Bool.not_eq_true'] at hsel
      exact hsel
    obtain ⟨hstart, hstop⟩ := (mem_candidates hrange).mp (mem_of_find?_eq_some hfind)
    obtain ⟨t, ht⟩ : ∃ t, db.ipAllocations.insert ⟨n, scope, owner⟩ = some t :=
      insert_of_unheld (unheld_of_free hscoped hstart hstop hfree)
    refine ⟨{ db with ipAllocations := t }, n, ?_⟩
    dsimp only
    rw [ht]

theorem reserveSpecificIp_succeeds (h : db.unheld a = true) : ∃ db', db.reserveSpecificIp scope a owner = .ok db' := by
  obtain ⟨t, ht⟩ : ∃ t, db.ipAllocations.insert ⟨a, scope, owner⟩ = some t := insert_of_unheld h
  unfold reserveSpecificIp
  rw [ht]
  exact ⟨_, rfl⟩

/-! ### Blocks -/

/-- Does someone use an address of block `j`? -/
def blockUsed (used : Ipv4Addr → Bool) (count j : Nat) : Bool := (List.range' (j * count) count).any used

/-- The index of the first block that is tried. -/
def firstIndex (range : ParsedRange) (count : Nat) : Nat := (range.start + (count - 1)) % 2 ^ 32 / count

/-- The indices of the blocks that are tried. -/
def blockIndices (range : ParsedRange) (count : Nat) : List Nat :=
  List.range' (firstIndex range count) ((range.stop + 1) / count - firstIndex range count)

section Blocks

variable {used : Ipv4Addr → Bool} {stop count j : Nat}

theorem blockUsed_eq_false : blockUsed used count j = false ↔ ∀ n ∈ List.range' (j * count) count, used n = false := by
  simp only [blockUsed, any_eq_false, Bool.not_eq_true]

/-- A block ends within the range iff it is one of the first `(stop + 1) / count`. -/
theorem fits_iff_lt (hcount : 0 < count) : j * count + (count - 1) ≤ stop ↔ j < (stop + 1) / count := by
  rw [Nat.lt_iff_add_one_le, Nat.le_div_iff_mul_le hcount, Nat.succ_mul]
  omega

theorem mem_blockIndices (hcount : 0 < count) : j ∈ blockIndices range count ↔
    firstIndex range count ≤ j ∧ j * count + (count - 1) ≤ range.stop := by
  rw [blockIndices, mem_range'_1, fits_iff_lt hcount]
  omega

/-- Without a wrap, the first block tried is the first one not below the range. -/
theorem firstIndex_le_iff (hcount : 0 < count) (hwrap : range.start + (count - 1) < 2 ^ 32) :
    firstIndex range count ≤ j ↔ range.start ≤ j * count := by
  rw [firstIndex, Nat.mod_eq_of_lt hwrap]
  constructor
  · intro h
    exact (Dyadic.align_up hcount).1.trans (Nat.mul_le_mul_right count h)
  · intro h
    rw [Nat.mul_comm] at h
    exact Dyadic.align_le hcount h

/-- **The search loop is a search in the list of blocks**, given a step of fuel for each. -/
theorem findBlock_eq_find (hcount : 0 < count) (hstop : stop < 2 ^ 32) {fuel k : Nat}
    (hfuel : (stop + 1) / count - k ≤ fuel) :
    (findBlock used stop count fuel (k * count)).toOption =
      ((List.range' k ((stop + 1) / count - k)).find? fun j => !blockUsed used count j).map (· * count) := by
  induction fuel generalizing k with
  | zero =>
    rw [Nat.le_zero.mp hfuel]
    rfl
  | succ fuel ih =>
    unfold findBlock
    by_cases hk : k < (stop + 1) / count
    · have hend := (fits_iff_lt hcount).mpr hk
      have hlist : List.range' k ((stop + 1) / count - k) =
          k :: List.range' (k + 1) ((stop + 1) / count - (k + 1)) := by
        rw [show (stop + 1) / count - k = (stop + 1) / count - (k + 1) + 1 by omega]
        rfl
      have hfree : ((List.range' (k * count) count).all fun n => !used n) = !blockUsed used count k := by
        rw [blockUsed, not_any_eq_all_not]
      rw [if_pos ⟨lt_of_le_of_lt hend hstop, hend⟩, hfree, hlist, List.find?_cons]
      cases hused : blockUsed used count k with
      | false => rfl
      | true =>
        simp only [Bool.not_true, Bool.false_eq_true, if_false]
        have hnext : k * count + count = (k + 1) * count := (Nat.succ_mul k count).symm
        rw [hnext]
        by_cases htop : (k + 1) * count < 2 ^ 32
        · rw [if_pos htop]
          exact ih (by omega)
        · -- the next block starts beyond the address space, so this was the last one
          have hlast : (stop + 1) / count ≤ k + 1 := by
            rw [← Nat.not_lt, ← fits_iff_lt hcount]
            omega
          rw [if_neg htop, Nat.sub_eq_zero_of_le hlast]
          rfl
    · have hend : ¬ k * count + (count - 1) ≤ stop := fun h => hk ((fits_iff_lt hcount).mp h)
      rw [if_neg fun h => hend h.2, Nat.sub_eq_zero_of_le (Nat.le_of_not_lt hk)]
      rfl

/-- The allocation in terms of the search: the first block that looks free is stored, if it can be. -/
theorem allocateServiceBlock_eq (db : Db) (scope : String) (range : ParsedRange) (clusterId : ClusterId)
    (hpower : count.isPowerOfTwo) (hstop : range.stop < 2 ^ 32) :
    (∃ msg, (blockIndices range count).find? (fun j => !blockUsed (db.addressTaken scope) count j) = none ∧
      db.allocateServiceBlock scope range clusterId count = .error (.exhausted msg)) ∨
    ∃ j, (blockIndices range count).find? (fun j => !blockUsed (db.addressTaken scope) count j) = some j ∧
      db.allocateServiceBlock scope range clusterId count =
        match reserveBlock db.ipAllocations scope (.cluster clusterId) (List.range' (j * count) count) with
        | none => .error (.sqlx (.uniqueViolation "ip_allocations.ip_address"))
        | some t => .ok ({ db with ipAllocations := t }, ⟨j * count, 32 - Nat.log2 count⟩) := by
  have hcount : 0 < count := Nat.pos_of_isPowerOfTwo hpower
  have hfuel : (range.stop + 1) / count - firstIndex range count ≤ range.stop + 1 :=
    (Nat.sub_le _ _).trans (Nat.div_le_self _ _)
  have hsearch := @findBlock_eq_find (db.addressTaken scope) _ _ hcount hstop _ _ hfuel
  unfold allocateServiceBlock
  rw [if_pos hpower]
  dsimp only
  rw [show (range.start + (count - 1)) % 2 ^ 32 / count * count = firstIndex range count * count from rfl]
  cases hfind : findBlock (db.addressTaken scope) range.stop count (range.stop + 1)
      (firstIndex range count * count) with
  | error wrapped =>
    rw [hfind] at hsearch
    exact .inl ⟨_, Option.map_eq_none_iff.mp hsearch.symm, rfl⟩
  | ok block =>
    rw [hfind] at hsearch
    obtain ⟨j, hj, rfl⟩ := Option.map_eq_some_iff.mp hsearch.symm
    exact .inr ⟨j, hj, rfl⟩

theorem reserveBlock_eq_foldlM (t : Table IpAllocation) (ips : List Ipv4Addr) : reserveBlock t scope owner ips =
    (ips.map fun n => (⟨n, scope, owner⟩ : IpAllocation)).foldlM (fun (t : Table IpAllocation) r => t.insert r) t := by
  induction ips generalizing t with
  | nil => rfl
  | cons n ns ih =>
    unfold reserveBlock
    rw [map_cons, foldlM_cons]
    exact congrArg _ (funext fun t' => ih t')

/-- A block can be stored iff no row has one of its addresses. -/
theorem reserveBlock_isSome_iff {t : Table IpAllocation} {ips : List Ipv4Addr} (hnodup : ips.Nodup) :
    (reserveBlock t scope owner ips).isSome = true ↔ ∀ n ∈ ips, ∀ r ∈ t.rows, r.ipAddress ≠ n := by
  have hpair : (ips.map fun n => (⟨n, scope, owner⟩ : IpAllocation)).Pairwise fun a b => ¬ Schema.Clash a b := by
    rw [pairwise_map]
    exact hnodup.imp fun hne hclash => hne hclash
  rw [reserveBlock_eq_foldlM, foldlM_insert_isSome_iff, and_iff_left hpair]
  constructor
  · intro hrows n hn r hr
    exact hrows r hr _ (mem_map_of_mem hn)
  · intro hfree r hr a ha
    obtain ⟨n, hn, rfl⟩ := mem_map.mp ha
    exact hfree n hn r hr

theorem allocateServiceBlock_succeeds {clusterId : ClusterId} (hpower : count.isPowerOfTwo)
    (hrange : range.start ≤ range.stop) (htop : range.stop < 2 ^ 32) (hscoped : db.scopedTo scope range = true)
    (hhas : db.hasBlock scope range count = true) :
    ∃ db' block, db.allocateServiceBlock scope range clusterId count = .ok (db', block) := by
  have hcount := Nat.pos_of_isPowerOfTwo hpower
  obtain ⟨b, hb, hsel⟩ := any_eq_true.mp hhas
  rw [Bool.and_eq_true] at hsel
  obtain ⟨⟨m, rfl⟩, hfits⟩ := of_decide_eq_true hsel.1
  obtain ⟨hlow, -⟩ := (mem_candidates hrange).mp hb
  have hwrap : range.start + (count - 1) < 2 ^ 32 :=
    Nat.lt_of_le_of_lt (Nat.le_trans (Nat.add_le_add_right hlow _) hfits) htop
  rw [Nat.mul_comm count m] at hlow hfits hsel
  rcases allocateServiceBlock_eq db scope range clusterId hpower htop with ⟨msg, hnone, -⟩ | ⟨j, hfind, halloc⟩
  · -- the search comes by block `m`
    have hmem := (mem_blockIndices hcount).mpr ⟨(firstIndex_le_iff hcount hwrap).mpr hlow, hfits⟩
    refine absurd ?_ (List.find?_eq_none.mp hnone m hmem)
    rw [blockUsed, not_any_eq_all_not]
    exact hsel.2
  · obtain ⟨hfirst, hstop⟩ := (mem_blockIndices hcount).mp (mem_of_find?_eq_some hfind)
    have hfree := List.find?_some hfind
    rw [Bool.not_eq_true', blockUsed_eq_false] at hfree
    have hreserve : (reserveBlock db.ipAllocations scope (.cluster clusterId)
        (List.range' (j * count) count)).isSome = true := by
      rw [reserveBlock_isSome_iff nodup_range']
      intro n hn r hr heq
      obtain ⟨hin, hout⟩ := mem_range'_1.mp hn
      have hlast : ∀ first size m : Nat, m < first + size → m ≤ first + (size - 1) := by
        intro first size m _
        omega
      have hunheld := unheld_of_free hscoped (Nat.le_trans ((firstIndex_le_iff hcount hwrap).mp hfirst) hin)
        (Nat.le_trans (hlast _ _ _ hout) hstop) (hfree n hn)
      exact of_decide_eq_true (all_eq_true.mp hunheld r hr) heq
    obtain ⟨t, ht⟩ := Option.isSome_iff_exists.mp hreserve
    rw [halloc, ht]
    exact ⟨_, _, rfl⟩

end Blocks

theorem held_of_block {clusterId : ClusterId} {count : Nat} {block : Ipv4Net} {db' : Db} (htop : range.stop < 2 ^ 32)
    (h : db.allocateServiceBlock scope range clusterId count = .ok (db', block)) :
    ∀ a, block.contains a = true → db'.HeldBy clusterId a := by
  obtain ⟨k, start, t, rfl, rfl, hdvd, -, hstop, -, hreserve, rfl⟩ := allocateServiceBlock_ok h
  intro a ha
  have hin := (Ipv4Net.contains_aligned (exponent_le hstop htop) hdvd).mp ha
  refine ⟨⟨a, scope, .cluster clusterId⟩, ?_, rfl, rfl⟩
  rw [reserveBlock_rows hreserve]
  exact mem_append_right _ (mem_map.mpr ⟨a, mem_range'_1.mpr hin, rfl⟩)

theorem held_of_insert {t : Table IpAllocation} {clusterId : ClusterId}
    (h : db.ipAllocations.insert ⟨a, scope, .cluster clusterId⟩ = some t) :
    ({ db with ipAllocations := t } : Db).HeldBy clusterId a :=
  ⟨_, (mem_insert h).mpr (.inr rfl), rfl, rfl⟩

theorem HeldBy.mono {db' : Db} {id : ClusterId} (h : db.HeldBy id a) (hkeeps : db.Keeps db' id) : db'.HeldBy id a := by
  obtain ⟨r, hr, hip, howner⟩ := h
  exact ⟨r, hkeeps r hr howner, hip, howner⟩

end Db

/-! ## The allocator of networks -/

namespace Db

/-- The tables have the same clusters, up to trust domains. -/
structure SameClusters (db db' : Db) : Prop where
  kept : ∀ k ∈ db.clusters.rows, ∃ k' ∈ db'.clusters.rows, k.SameCluster k'
  old : ∀ k' ∈ db'.clusters.rows, ∃ k ∈ db.clusters.rows, k.SameCluster k'

def FreeVni (net : NetworkConfig) (db : Db) (vni : Nat) : Prop :=
  (net.vniStart ≤ vni ∧ vni ≤ net.vniEnd) ∧ ∀ k ∈ db.clusters.rows, k.vni ≠ vni

def FreeSubnet (net : NetworkConfig) (db : Db) (cidr : Ipv4Net) : Prop :=
  cidr ∈ subnets net.clusterSupernet net.clusterPrefix ∧ ∀ k ∈ db.clusters.rows, cidrsOverlap k.cidr cidr = false

def RoomForOne (net : NetworkConfig) (db : Db) : Prop := (∃ vni, db.FreeVni net vni) ∧ ∃ cidr, db.FreeSubnet net cidr

def RoomForTwo (net : NetworkConfig) (db : Db) : Prop :=
  (∃ vni vni', vni ≠ vni' ∧ db.FreeVni net vni ∧ db.FreeVni net vni') ∧
    ∃ cidr cidr', cidr ≠ cidr' ∧ db.FreeSubnet net cidr ∧ db.FreeSubnet net cidr'

variable {db db' : Db} {net : NetworkConfig}

/-! ### The same clusters -/

theorem SameClusters.refl (db : Db) : db.SameClusters db :=
  ⟨fun k hk => ⟨k, hk, .refl k⟩, fun k hk => ⟨k, hk, .refl k⟩⟩

variable (h : db.SameClusters db')

include h

theorem SameClusters.any_eq {p : ClusterRow → Bool}
    (hp : ∀ k k' : ClusterRow, k.SameCluster k' → p k = p k') : db'.clusters.rows.any p = db.clusters.rows.any p := by
  rw [Bool.eq_iff_iff, any_eq_true, any_eq_true]
  constructor
  · rintro ⟨k', hk', hsel⟩
    obtain ⟨k, hk, hsame⟩ := h.old k' hk'
    exact ⟨k, hk, by rw [hp k k' hsame]; exact hsel⟩
  · rintro ⟨k, hk, hsel⟩
    obtain ⟨k', hk', hsame⟩ := h.kept k hk
    exact ⟨k', hk', by rw [← hp k k' hsame]; exact hsel⟩

/-- A pick depends on the VNIs and CIDRs in the table only. -/
theorem SameClusters.pick_eq :
    db'.allocateClusterNetwork net = db.allocateClusterNetwork net := by
  have hvnis : (fun v => !db'.clusters.rows.any fun k => k.vni = v) =
      fun v => !db.clusters.rows.any fun k => k.vni = v := by
    funext v
    rw [h.any_eq]
    intro k k' hsame
    rw [← hsame]
  have hcidrs : (fun c => !db'.clusters.rows.any fun k => cidrsOverlap k.cidr c) =
      fun c => !db.clusters.rows.any fun k => cidrsOverlap k.cidr c := by
    funext c
    rw [h.any_eq]
    intro k k' hsame
    rw [← hsame]
  unfold allocateClusterNetwork
  rw [hvnis, hcidrs]

theorem SameClusters.forall_of {P : ClusterRow → Prop}
    (hP : ∀ k k' : ClusterRow, k.SameCluster k' → P k → P k') (hall : ∀ k ∈ db.clusters.rows, P k) :
    ∀ k' ∈ db'.clusters.rows, P k' := by
  intro k' hk'
  obtain ⟨k, hk, hsame⟩ := h.old k' hk'
  exact hP k k' hsame (hall k hk)

theorem SameClusters.exists_of {P : ClusterRow → Prop}
    (hP : ∀ k k' : ClusterRow, k.SameCluster k' → P k → P k') (hex : ∃ k ∈ db.clusters.rows, P k) :
    ∃ k' ∈ db'.clusters.rows, P k' := by
  obtain ⟨k, hk, hPk⟩ := hex
  obtain ⟨k', hk', hsame⟩ := h.kept k hk
  exact ⟨k', hk', hP k k' hsame hPk⟩

theorem SameClusters.freeVni {vni : Nat} (hfree : db.FreeVni net vni) :
    db'.FreeVni net vni := by
  refine ⟨hfree.1, h.forall_of (fun k k' hsame hne => ?_) hfree.2⟩
  rw [← hsame]
  exact hne

theorem SameClusters.freeSubnet {cidr : Ipv4Net} (hfree : db.FreeSubnet net cidr) :
    db'.FreeSubnet net cidr := by
  refine ⟨hfree.1, h.forall_of (fun k k' hsame hne => ?_) hfree.2⟩
  rw [← hsame]
  exact hne

omit h

theorem sameClusters_write {w : Write} (hack : ∀ hostId vnis vmIds, w ≠ .ackTombstones hostId vnis vmIds)
    (hinsert : ∀ k u, w = .insertCluster k → (w.exec db).2 ≠ .ok u) : db.SameClusters (w.exec db).1 := by
  constructor
  · intro k hk
    rcases Write.clusters_kept (w := w) hk with hkept | ⟨hostId, vnis, vmIds, hw, -⟩
    · exact hkept
    · exact absurd hw (hack hostId vnis vmIds)
  · intro k' hk'
    rcases Write.clusters_exec hk' with hold | ⟨hw, u, hu⟩
    · exact hold
    · subst hw
      exact absurd hu (hinsert k' u rfl)

/-! ### Room for one more -/

/-- One free VNI and one free subnet are enough for a pick. -/
theorem allocateClusterNetwork_succeeds (hvalid : net.Valid) (h : db.RoomForOne net) :
    ∃ network, db.allocateClusterNetwork net = .ok network := by
  obtain ⟨⟨vni, ⟨hlow, hhigh⟩, hvni⟩, cidr, hcidr, hfree⟩ := h
  unfold allocateClusterNetwork
  cases hfind : (List.range' net.vniStart (net.vniEnd + 1 - net.vniStart)).find?
      fun v => !db.clusters.rows.any fun c => c.vni = v with
  | none =>
    have hmem : vni ∈ List.range' net.vniStart (net.vniEnd + 1 - net.vniStart) := by
      rw [mem_range'_1]
      omega
    refine absurd ?_ (List.find?_eq_none.mp hfind vni hmem)
    rw [Bool.not_eq_true', any_eq_false]
    exact fun k hk heq => hvni k hk (of_decide_eq_true heq)
  | some v =>
    dsimp only
    have hprefix : net.clusterSupernet.prefixLen ≤ net.clusterPrefix ∧ net.clusterPrefix ≤ 32 :=
      ⟨hvalid.supernet_le, Nat.le_trans hvalid.prefix_le (by decide)⟩
    rw [if_pos hprefix]
    cases hfind' : (subnets net.clusterSupernet net.clusterPrefix).find?
        fun c => !db.clusters.rows.any fun u => cidrsOverlap u.cidr c with
    | none =>
      refine absurd ?_ (List.find?_eq_none.mp hfind' cidr hcidr)
      rw [Bool.not_eq_true', any_eq_false]
      intro k hk
      rw [hfree k hk]
      exact Bool.false_ne_true
    | some c => exact ⟨_, rfl⟩

theorem free_of_pick {network : ClusterNetwork} (h : db.allocateClusterNetwork net = .ok network) :
    db.FreeVni net network.vni ∧ db.FreeSubnet net network.cidr := by
  unfold allocateClusterNetwork at h
  split at h
  · cases h
  rename_i vni hvni
  split at h
  swap
  · cases h
  split at h
  · cases h
  rename_i cidr hcidr
  cases h
  constructor
  · have hrange := mem_range'_1.mp (mem_of_find?_eq_some hvni)
    have hsel := List.find?_some hvni
    rw [Bool.not_eq_true', any_eq_false] at hsel
    refine ⟨?_, fun k hk heq => hsel k hk (decide_eq_true heq)⟩
    show net.vniStart ≤ vni ∧ vni ≤ net.vniEnd
    omega
  · have hsel := List.find?_some hcidr
    rw [Bool.not_eq_true', any_eq_false] at hsel
    exact ⟨mem_of_find?_eq_some hcidr, fun k hk => Bool.eq_false_of_not_eq_true (hsel k hk)⟩

/-- One row takes one VNI and one subnet. -/
theorem RoomForTwo.one_left (hvalid : net.Valid) (h : db.RoomForTwo net) {row : ClusterRow}
    (hsubnet : row.cidr ∈ subnets net.clusterSupernet net.clusterPrefix)
    (hrows : ∀ k ∈ db'.clusters.rows, k ∈ db.clusters.rows ∨ k = row) : db'.RoomForOne net := by
  obtain ⟨⟨v, w, hne, hv, hw⟩, c, d, hne', hc, hd⟩ := h
  have vniKept : ∀ {x : Nat}, db.FreeVni net x → row.vni ≠ x → db'.FreeVni net x := by
    intro x hx hrow
    refine ⟨hx.1, fun k hk => ?_⟩
    rcases hrows k hk with hold | rfl
    · exact hx.2 k hold
    · exact hrow
  have cidrKept : ∀ {x : Ipv4Net}, db.FreeSubnet net x → row.cidr ≠ x → db'.FreeSubnet net x := by
    intro x hx hrow
    refine ⟨hx.1, fun k hk => ?_⟩
    rcases hrows k hk with hold | rfl
    · exact hx.2 k hold
    · -- two subnets that overlap are one
      obtain ⟨i, -, rfl⟩ := mem_map.mp hx.1
      obtain ⟨j, -, hj⟩ := mem_map.mp hsubnet
      rw [← Bool.not_eq_true]
      intro hmeet
      rw [← hj] at hmeet hrow
      have hij : j = i := (NetworkConfig.overlap_slot hvalid).mp hmeet
      exact hrow (by rw [hij])
  refine ⟨?_, ?_⟩
  · by_cases hrow : row.vni = v
    · refine ⟨w, vniKept hw ?_⟩
      rw [hrow]
      exact hne
    · exact ⟨v, vniKept hv hrow⟩
  · by_cases hrow : row.cidr = c
    · refine ⟨d, cidrKept hd ?_⟩
      rw [hrow]
      exact hne'
    · exact ⟨c, cidrKept hc hrow⟩

end Db

end BasisCell
