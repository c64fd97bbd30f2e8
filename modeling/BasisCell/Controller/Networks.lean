import BasisCell.Controller.Config
import BasisCell.Controller.Effects
import BasisCell.Controller.Stages

/-!
# `BasisCell.Controller.Networks` — VNIs and CIDRs in step

`clusters` is unique in the VNI and says nothing about the CIDR, and both are picked by a read that the
insert does not repeat. What keeps the CIDRs apart is that the two searches of `allocate_cluster_network` run
in step: a row with the `i`-th VNI has the `i`-th subnet, so in every state the VNIs and the subnets that are
taken have the same indices, and the lowest free one is the same for both. A pick is such a pair whenever it
was made, so a stale one is still a pair of equal indices, and two rows with overlapping subnets would have
equal VNIs.

Cluster deletions leave holes, which are the same holes on both sides. The layer holds over any outline; it
needs nothing about identifiers.
-/

namespace BasisCell

open Conc Relational List

namespace NetworkConfig

variable {net : NetworkConfig} {i j : Nat} {a : Ipv4Addr}

/-! ## Slots -/

/-- The `i`-th subnet of the supernet. -/
def slot (net : NetworkConfig) (i : Nat) : Ipv4Net :=
  ⟨net.clusterSupernet.network + i * 2 ^ (32 - net.clusterPrefix), net.clusterPrefix⟩

/-- An address is in the `i`-th subnet iff its leading bits are those of the supernet followed by `i`. -/
theorem contains_slot (h : net.Valid) : (net.slot i).contains a = true ↔
    a / 2 ^ (32 - net.clusterPrefix) =
      net.clusterSupernet.addr / net.clusterSupernet.size *
        2 ^ (net.clusterPrefix - net.clusterSupernet.prefixLen) + i := by
  have hsize : net.clusterSupernet.size =
      2 ^ (net.clusterPrefix - net.clusterSupernet.prefixLen) * 2 ^ (32 - net.clusterPrefix) := by
    have hle := h.supernet_le
    have hprefix := h.prefix_le
    unfold Ipv4Net.size
    rw [← Nat.pow_add]
    congr 1
    omega
  have hbase : (net.slot i).addr / 2 ^ (32 - net.clusterPrefix) =
      net.clusterSupernet.addr / net.clusterSupernet.size *
        2 ^ (net.clusterPrefix - net.clusterSupernet.prefixLen) + i := by
    unfold slot Ipv4Net.network
    rw [hsize, ← Nat.mul_assoc, ← Nat.add_mul]
    exact Nat.mul_div_cancel _ (Nat.two_pow_pos _)
  rw [Ipv4Net.contains_iff, ← hbase]
  rfl

theorem slot_inj (h : net.Valid) (hi : (net.slot i).contains a = true) (hj : (net.slot j).contains a = true) :
    i = j := by
  rw [contains_slot h] at hi hj
  exact Nat.add_left_cancel (hi.symm.trans hj)

theorem overlap_slot (h : net.Valid) : cidrsOverlap (net.slot i) (net.slot j) = true ↔ i = j := by
  rw [cidrsOverlap_iff]
  constructor
  · rintro ⟨a, hi, hj⟩
    exact slot_inj h hi hj
  · rintro rfl
    exact ⟨_, Ipv4Net.contains_network _, Ipv4Net.contains_network _⟩

theorem supernet_of_slot (h : net.Valid) (hi : i < 2 ^ (net.clusterPrefix - net.clusterSupernet.prefixLen))
    (ha : (net.slot i).contains a = true) : net.clusterSupernet.contains a = true := by
  rw [contains_slot h] at ha
  rw [Ipv4Net.contains_iff]
  have hsize : net.clusterSupernet.size =
      2 ^ (32 - net.clusterPrefix) * 2 ^ (net.clusterPrefix - net.clusterSupernet.prefixLen) := by
    have hle := h.supernet_le
    have hprefix := h.prefix_le
    unfold Ipv4Net.size
    rw [← Nat.pow_add]
    congr 1
    omega
  have hdiv : a / net.clusterSupernet.size =
      a / 2 ^ (32 - net.clusterPrefix) / 2 ^ (net.clusterPrefix - net.clusterSupernet.prefixLen) := by
    rw [hsize, Nat.div_div_eq_div_mul]
  rw [hdiv, ha, Nat.add_comm, Nat.add_mul_div_right _ _ (Nat.two_pow_pos _), Nat.div_eq_of_lt hi, Nat.zero_add]

/-- The network of one slot: the VNI and the subnet have the same index. -/
def Carved (net : NetworkConfig) (network : ClusterNetwork) : Prop :=
  ∃ i < 2 ^ (net.clusterPrefix - net.clusterSupernet.prefixLen), net.vniStart + i ≤ net.vniEnd ∧
    network = .carve (net.vniStart + i) (net.slot i) net.clusterPrefix net.bridgeReserve

/-- A row with the network of one slot. -/
def RowCarved (net : NetworkConfig) (k : ClusterRow) : Prop :=
  ∃ network, net.Carved network ∧ k.vni = network.vni ∧ k.cidr = network.cidr ∧
    k.vmRange = ⟨network.vmStart, network.vmEnd⟩

theorem RowCarved.of_same {k k' : ClusterRow} (h : net.RowCarved k) (hsame : k.SameCluster k') : net.RowCarved k' := by
  rw [← hsame]
  exact h

end NetworkConfig

/-! ## The two searches -/

namespace Db

variable {db : Db} {net : NetworkConfig}

theorem subnets_getElem? {i : Nat} {cidr : Ipv4Net}
    (h : (subnets net.clusterSupernet net.clusterPrefix)[i]? = some cidr) :
    i < 2 ^ (net.clusterPrefix - net.clusterSupernet.prefixLen) ∧ cidr = net.slot i := by
  unfold subnets at h
  rw [List.getElem?_map, Option.map_eq_some_iff] at h
  obtain ⟨j, hj, rfl⟩ := h
  rw [List.getElem?_eq_some_iff] at hj
  obtain ⟨hlt, hget⟩ := hj
  rw [getElem_range] at hget
  subst hget
  rw [length_range] at hlt
  exact ⟨hlt, rfl⟩

/-- In step: the `i`-th VNI is taken iff the `i`-th subnet is. -/
theorem taken_in_step (hvalid : net.Valid) (hrows : ∀ k ∈ db.clusters.rows, net.RowCarved k) (i : Nat) :
    (db.clusters.rows.any fun k => k.vni = net.vniStart + i) =
      db.clusters.rows.any fun k => cidrsOverlap k.cidr (net.slot i) := by
  rw [Bool.eq_iff_iff, any_eq_true, any_eq_true]
  refine exists_congr fun k => and_congr_right fun hk => ?_
  obtain ⟨network, ⟨j, hj, hend, rfl⟩, hvni, hcidr, -⟩ := hrows k hk
  rw [hvni, hcidr, decide_eq_true_iff]
  show net.vniStart + j = net.vniStart + i ↔ cidrsOverlap (net.slot j) (net.slot i) = true
  rw [NetworkConfig.overlap_slot hvalid]
  omega

/-- **A pick is a slot**, whatever of the table is taken. -/
theorem allocateClusterNetwork_carved {network : ClusterNetwork} (hvalid : net.Valid)
    (hrows : ∀ k ∈ db.clusters.rows, net.RowCarved k) (h : db.allocateClusterNetwork net = .ok network) :
    net.Carved network := by
  unfold allocateClusterNetwork at h
  split at h
  · cases h
  rename_i vni hvni
  split at h
  swap
  · cases h
  split at h
  · cases h
  rename_i cidr hcidr
  cases h
  have hstep : ∀ (i : Nat) v c, (List.range' net.vniStart (net.vniEnd + 1 - net.vniStart))[i]? = some v →
      (subnets net.clusterSupernet net.clusterPrefix)[i]? = some c →
      (!db.clusters.rows.any fun k => k.vni = v) = !db.clusters.rows.any fun k => cidrsOverlap k.cidr c := by
    intro i v c hv hc
    obtain ⟨-, rfl⟩ := subnets_getElem? hc
    rw [List.getElem?_eq_some_iff] at hv
    obtain ⟨hlt, hget⟩ := hv
    rw [getElem_range', Nat.one_mul] at hget
    subst hget
    rw [taken_in_step hvalid hrows i]
  obtain ⟨i, hi, hi'⟩ := Dyadic.find_in_step hstep hvni hcidr
  obtain ⟨hlt, rfl⟩ := subnets_getElem? hi'
  rw [List.getElem?_eq_some_iff] at hi
  obtain ⟨hlen, hget⟩ := hi
  rw [getElem_range', Nat.one_mul] at hget
  rw [length_range'] at hlen
  subst hget
  exact ⟨i, hlt, by omega, rfl⟩

end Db

/-! ## The layer -/

/-- What `create_cluster` has picked is a slot. -/
def Stage.Carved (net : NetworkConfig) : Stage → Prop
  | .picked network => net.Carved network
  | .fronted _ network _ => net.Carved network
  | .equipped _ network _ _ => net.Carved network
  | _ => True

def networks (net : NetworkConfig) (Γ : Type) : Layer Activity Shared (Phase × Stage) Γ where
  inv := fun _ _ s => ∀ k ∈ s.db.clusters.rows, net.RowCarved k
  holds := fun _ g _ _ => g.2.Carved net

section Layer

variable {settings : Settings} {s : Shared} {t : Activity} {g : Phase} {a : Stage} {o : Op}

theorem carved_next (hvalid : settings.network.Valid) (hrows : ∀ k ∈ s.db.clusters.rows, settings.network.RowCarved k)
    (ha : a.Carved settings.network) (hgrant : Grants settings t a o) :
    (a.next o (o.exec s).2).Carved settings.network := by
  generalize hr : (o.exec s).2 = r
  unfold Stage.next
  -- the pick makes a network; every other transition passes it on or drops it
  split
  · cases hgrant with
    | unwatched h => cases h
    | pick => exact Db.allocateClusterNetwork_carved hvalid hrows hr
  all_goals first | exact ha | trivial

/-- Only `create_cluster` inserts a cluster, and the row has the network it picked. -/
theorem carved_of_insert {k : ClusterRow} (ha : a.Carved settings.network)
    (hallow : Allows t g (.write (.insertCluster k))) (hgrant : Grants settings t a (.write (.insertCluster k))) :
    settings.network.RowCarved k := by
  cases hallow with
  | insertCluster i hid =>
    cases hgrant with
    | free hfirst => cases hfirst
    | unwatched h => cases h
    | insertCluster => exact ⟨_, ha, rfl, rfl, rfl⟩

theorem rowsCarved_exec (hrows : ∀ k ∈ s.db.clusters.rows, settings.network.RowCarved k)
    (ha : a.Carved settings.network) (hallow : Allows t g o) (hgrant : Grants settings t a o) :
    ∀ k ∈ (o.exec s).1.db.clusters.rows, settings.network.RowCarved k := by
  intro k' hk'
  revert hk'
  refine o.db_elim s (fun hk' => hrows k' hk') ?_
  rintro w rfl hk'
  rcases Write.clusters_exec hk' with ⟨k, hk, hsame⟩ | ⟨rfl, -⟩
  · exact (hrows k hk).of_same hsame
  · exact carved_of_insert ha hallow hgrant

/-- **VNIs and CIDRs stay in step**, over any outline and in any run. -/
theorem networks_sound {Γ : Type} (hvalid : settings.network.Valid)
    (A : Outline Activity Op Op.Resp Shared (Phase × Stage) Γ) (C : Cell → Event Activity → Prop) :
    (networks settings.network Γ).SoundOver A (cellDiscipline settings) (cell settings) C where
  spawn := by
    intro started γ s t _ hinv
    refine ⟨hinv.2, ?_⟩
    show t.firstStage.Carved settings.network
    cases t <;> trivial
  exec := by
    intro c γ i t g o hfires
    exact ⟨rowsCarved_exec hfires.inv.2 hfires.holds.2 hfires.allowed.1 hfires.allowed.2,
      carved_next hvalid hfires.inv.2 hfires.holds.2 hfires.allowed.2⟩
  frame := fun _ _ _ _ hholds => hholds.2
  reboot := id
  reboot_holds := id

end Layer

theorem rowsCarved_run {settings : Settings} (hvalid : settings.network.Valid) {db : Db}
    (hempty : db.clusters.rows = []) {es : List (Event Activity)} {c : Cell}
    (hrun : (cell settings).run (Cell.start db) es = some c) :
    ∀ k ∈ c.shared.db.clusters.rows, settings.network.RowCarved k := by
  have hsound := (networks_sound hvalid Outline.blank fun _ _ => True).sound
    (Outline.blank_sound (cellDiscipline_governs settings))
  have hrows : ∀ k ∈ (Shared.boot db).db.clusters.rows, settings.network.RowCarved k := by
    intro k hk
    have hk : k ∈ db.clusters.rows := hk
    rw [hempty] at hk
    exact absurd hk not_mem_nil
  obtain ⟨_, hc⟩ := Outline.annotated_run hsound
    (show Outline.Annotated _ _ _ () from Outline.annotated_empty ⟨trivial, hrows⟩)
    (Transition.along_of_forall fun _ _ => trivial) hrun
  exact hc.inv.2

/-- Rows with overlapping CIDRs have one VNI, so they are one row. -/
theorem eq_of_cidrs_meet {net : NetworkConfig} (hvalid : net.Valid) {db : Db}
    (hrows : ∀ k ∈ db.clusters.rows, net.RowCarved k) {k k' : ClusterRow} (hk : k ∈ db.clusters.rows)
    (hk' : k' ∈ db.clusters.rows) {a : Ipv4Addr} (ha : k.cidr.contains a = true) (ha' : k'.cidr.contains a = true) :
    k = k' := by
  obtain ⟨network, ⟨i, -, -, rfl⟩, hvni, hcidr, -⟩ := hrows k hk
  obtain ⟨network', ⟨j, -, -, rfl⟩, hvni', hcidr', -⟩ := hrows k' hk'
  rw [hcidr] at ha
  rw [hcidr'] at ha'
  obtain rfl := NetworkConfig.slot_inj hvalid ha ha'
  exact Table.eq_of_clash hk hk' (.inr (.inr (hvni.trans hvni'.symm)))

/-- **CIDRs never overlap.** In every run from an empty `clusters` table under a validated configuration, two
    clusters share no address of their CIDRs; every CIDR is one of the supernet's subnets of length
    `cluster_prefix`; every VNI is in the configured range. -/
theorem cidrs_disjoint (settings : Settings) (hvalid : settings.network.validate = .ok ()) (db : Db)
    (hempty : db.clusters.rows = []) (es : List (Event Activity)) (c : Cell)
    (hrun : (cell settings).run (Cell.start db) es = some c) :
    (∀ k ∈ c.shared.db.clusters.rows, ∀ k' ∈ c.shared.db.clusters.rows, k ≠ k' →
      ∀ a, ¬(k.cidr.contains a = true ∧ k'.cidr.contains a = true)) ∧
    ∀ k ∈ c.shared.db.clusters.rows,
      k.cidr ∈ Db.subnets settings.network.clusterSupernet settings.network.clusterPrefix ∧
      (∀ a, k.cidr.contains a = true → settings.network.clusterSupernet.contains a = true) ∧
      settings.network.vniStart ≤ k.vni ∧ k.vni ≤ settings.network.vniEnd := by
  have hnet := NetworkConfig.valid_of_validate hvalid
  have hrows := rowsCarved_run hnet hempty hrun
  constructor
  · intro k hk k' hk' hne a ⟨ha, ha'⟩
    exact hne (eq_of_cidrs_meet hnet hrows hk hk' ha ha')
  · intro k hk
    obtain ⟨network, ⟨i, hi, hend, rfl⟩, hvni, hcidr, -⟩ := hrows k hk
    rw [hvni, hcidr]
    refine ⟨mem_map.mpr ⟨i, mem_range.mpr hi, rfl⟩, fun a ha => NetworkConfig.supernet_of_slot hnet hi ha,
      Nat.le_add_right _ _, hend⟩

theorem cidrs_disjoint_smallCell :
    smallCell.network.validate = .ok () ∧
      ∃ c, (cell smallCell).run emptyCell upToBoth = some c ∧ c.shared.db.clusters.rows.map (·.id) = ["c0", "d1"] ∧
        (∀ k ∈ c.shared.db.clusters.rows, ∀ k' ∈ c.shared.db.clusters.rows, k ≠ k' →
          ∀ a, ¬(k.cidr.contains a = true ∧ k'.cidr.contains a = true)) ∧
        ∀ k ∈ c.shared.db.clusters.rows, smallCell.network.vniStart ≤ k.vni ∧ k.vni ≤ smallCell.network.vniEnd := by
  have hvalid : smallCell.network.validate = .ok () := by decide +kernel
  have hrun := run_reached upToBoth (by decide +kernel)
  obtain ⟨hapart, hslots⟩ := cidrs_disjoint smallCell hvalid (Db.create id) rfl upToBoth _ hrun
  exact ⟨hvalid, _, hrun, by decide +kernel, hapart, fun k hk => (hslots k hk).2.2⟩

end BasisCell
