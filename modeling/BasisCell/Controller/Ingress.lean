import BasisCell.Gobgp
import BasisCell.Controller.Tenants

/-!
# `BasisCell.Controller.Ingress` — whose announcements the reflector accepts

`compute_ingress_policy` reads the hosts, the clusters and the VMs one after the other, and the database moves
on in between. A node of the spec is a VM of the last read, filed under a cluster of the second; the cluster
is still there at the last read, since the VM's row refers to it, and it has the same columns. So the spec is
what it would have been had all of it been read at the end, but for the hypervisors and for clusters without
VMs, and the prefixes of a node are addresses of its own cluster.

Announcements of hypervisors are not filtered at all: the result needs their addresses to be outside the
supernet.
-/

namespace BasisCell

open Conc Relational List

/-! ## The spec -/

/-- `is_apiserver_public`. -/
def ClusterRow.isApiserverPublic (k : ClusterRow) : Bool := k.apiserverVisibility = 0

/-- What the nodes of a cluster may announce. -/
def ClusterRow.ingressPrefixes (k : ClusterRow) : List String :=
  k.cidr.text :: ((k.serviceBlockCidr.map Ipv4Net.text).toList ++
    if k.isApiserverPublic then [s!"{k.controlPlaneEndpoint.text}/32"] else [])

/-- `compute_ingress_policy`; each of its three reads finds the database in a state of its own. The map from
    identifiers to clusters has one entry per row. -/
def computeIngressPolicy (atHosts atClusters atVms : Db) : Gobgp.IngressPolicySpec where
  hypervisors := atHosts.hosts.rows.filterMap fun h => Ipv4Addr.parse h.vtepAddress
  clusters := atClusters.listClusters.map fun k =>
    { clusterId := k.id, allowedPrefixes := k.ingressPrefixes
      nodes := (atVms.vms.rows.filter fun v => v.clusterId = k.id).map (·.ipAddress) }

/-! ## The addresses of a cluster -/

/-- The addresses that belong to a cluster: its CIDR, its service block and its public VIP. -/
def ClusterRow.Covers (k : ClusterRow) (a : Ipv4Addr) : Prop := k.cidr.contains a = true ∨ k.External a

theorem ClusterRow.isPublic_iff {k : ClusterRow} :
    ApiserverVisibility.isPublic k.apiserverVisibility = true ↔ k.isApiserverPublic = true := by
  unfold ApiserverVisibility.isPublic isApiserverPublic
  rw [decide_eq_true_iff, decide_eq_true_iff]
  constructor
  · intro h
    unfold ApiserverVisibility.tryFrom at h
    split at h
    · assumption
    · cases h
    · cases h
  · intro h
    rw [h]
    rfl

section Covers

variable {net : NetworkConfig} {db : Db} {k k' : ClusterRow} {a : Ipv4Addr}

theorem wellFormed_of_carved (hvalid : net.Valid) (h : net.RowCarved k) : k.cidr.wellFormed = true := by
  obtain ⟨network, ⟨i, hi, -, rfl⟩, -, hcidr, -⟩ := h
  rw [hcidr]
  have hinside := NetworkConfig.supernet_of_slot hvalid hi (net.slot i).contains_addr
  have hprefix := hvalid.prefix_le
  exact decide_eq_true ⟨Ipv4Net.lt_of_contains hvalid.supernet hinside, by show net.clusterPrefix ≤ 32; omega⟩

theorem supernet_of_carved (hvalid : net.Valid) (h : net.RowCarved k) (ha : k.cidr.contains a = true) :
    net.clusterSupernet.contains a = true := by
  obtain ⟨network, ⟨i, hi, -, rfl⟩, -, hcidr, -⟩ := h
  rw [hcidr] at ha
  exact NetworkConfig.supernet_of_slot hvalid hi ha

theorem external_apart (hvalid : net.Valid) (hcarved : net.RowCarved k) (hequipped : db.RowEquipped net k')
    (ha : k.cidr.contains a = true) (ha' : k'.External a) : False := by
  obtain ⟨pool, hpool, howns⟩ := hequipped.owns ha'
  have hmem := (NetworkConfig.mem_of_poolByName hpool).1
  have hinside := (Pool.range_of_valid hvalid hmem).2 a howns.start_le howns.le_stop
  have hoverlap := cidrsOverlap_iff.mpr ⟨a, supernet_of_carved hvalid hcarved ha, hinside⟩
  rw [hvalid.apart pool hmem] at hoverlap
  cases hoverlap

/-- **Clusters that share an address are one.** -/
theorem eq_of_covers (hvalid : net.Valid) (hcarved : ∀ k ∈ db.clusters.rows, net.RowCarved k)
    (hequipped : ∀ k ∈ db.clusters.rows, db.RowEquipped net k) (hk : k ∈ db.clusters.rows)
    (hk' : k' ∈ db.clusters.rows) (ha : k.Covers a) (ha' : k'.Covers a) : k = k' := by
  rcases ha with ha | ha
  · rcases ha' with ha' | ha'
    · exact eq_of_cidrs_meet hvalid hcarved hk hk' ha ha'
    · exact (external_apart hvalid (hcarved k hk) (hequipped k' hk') ha ha').elim
  · rcases ha' with ha' | ha'
    · exact (external_apart hvalid (hcarved k' hk') (hequipped k hk) ha' ha).elim
    · exact eq_of_external hequipped hk hk' ha ha'

theorem lt_of_external (hvalid : net.Valid) (hequipped : db.RowEquipped net k) (ha : k.External a) : a < 2 ^ 32 := by
  obtain ⟨pool, hpool, howns⟩ := hequipped.owns ha
  have hmem := (NetworkConfig.mem_of_poolByName hpool).1
  exact Ipv4Net.lt_of_contains (hvalid.pools pool hmem).1
    ((Pool.range_of_valid hvalid hmem).2 a howns.start_le howns.le_stop)

/-- The prefixes of a cluster parse, to networks of its own addresses. -/
theorem parse_ingressPrefixes (hvalid : net.Valid) (hcarved : net.RowCarved k) (hequipped : db.RowEquipped net k)
    {raw : String} (hraw : raw ∈ k.ingressPrefixes) :
    ∃ n, Ipv4Net.parse raw = some n ∧ ∀ a, n.contains a = true → k.Covers a := by
  unfold ClusterRow.ingressPrefixes at hraw
  rcases mem_cons.mp hraw with rfl | hraw
  · exact ⟨_, Ipv4Net.parse_text (wellFormed_of_carved hvalid hcarved), fun a ha => .inl ha⟩
  rcases mem_append.mp hraw with hraw | hraw
  · obtain ⟨block, hblock, rfl⟩ := Option.map_eq_some_iff.mp (Option.mem_toList.mp hraw)
    have hcovers : ∀ a, block.contains a = true → k.External a := fun a ha => .inr ⟨block, hblock, ha⟩
    have hwf : block.wellFormed = true := by
      obtain ⟨block', hblock', hfull⟩ := hequipped
      obtain rfl : block' = block := Option.some.inj (hblock'.symm.trans hblock)
      exact decide_eq_true ⟨lt_of_external hvalid ⟨_, hblock', hfull⟩ (hcovers _ block'.contains_addr), hfull.prefix_le⟩
    exact ⟨block, Ipv4Net.parse_text hwf, fun a ha => .inr (hcovers a ha)⟩
  · split at hraw
    · rename_i hpublic
      rw [mem_singleton.mp hraw, ← Ipv4Net.text_host]
      have hvip : k.External k.controlPlaneEndpoint := .inl ⟨ClusterRow.isPublic_iff.mpr hpublic, rfl⟩
      have hwf : (⟨k.controlPlaneEndpoint, 32⟩ : Ipv4Net).wellFormed = true :=
        decide_eq_true ⟨lt_of_external hvalid hequipped hvip, Nat.le_refl _⟩
      refine ⟨_, Ipv4Net.parse_text hwf, fun a ha => ?_⟩
      rw [Ipv4Net.contains_host.mp ha]
      exact .inr hvip
    · cases hraw

end Covers

/-! ## From the second read to the last -/

/-- A row that was read once. -/
def recollection (k : ClusterRow) : Layer Activity Shared (Phase × Stage) (List String) where
  inv := fun _ γ s => s.db.Recalls γ k
  holds := fun _ _ _ _ => True

theorem recollection_sound (settings : Settings) (k : ClusterRow) (C : Cell → Event Activity → Prop) :
    (recollection k).SoundOver (slotted settings) (cellDiscipline settings) (cell settings) C where
  spawn := fun _ hinv => ⟨hinv.2, trivial⟩
  exec := fun hfires => ⟨hfires.inv.2.exec hfires.holds.1.1 hfires.allowed.1, trivial⟩
  frame := fun _ _ _ _ _ => trivial
  reboot := id
  reboot_holds := id

section Runs

variable {settings : Settings} {effectiveCpu : Int → Int} {es es' : List (Event Activity)} {c c' : Cell}

/-- Whatever row there is later under the identifier of a row, it is that row. -/
theorem sameCluster_of_run (hvalid : settings.network.Valid)
    (hrun : (cell settings).run (Cell.start (Db.create effectiveCpu)) es = some c)
    (hrun' : (cell settings).run c es' = some c') {k k' : ClusterRow} (hk : k ∈ c.shared.db.clusters.rows)
    (hk' : k' ∈ c'.shared.db.clusters.rows) (hid : k'.id = k.id) : k.SameCluster k' := by
  obtain ⟨γ, hc⟩ := slotted_run hvalid hrun
  have hlayered : ((slotted settings).layered (recollection k)).Annotated (cellDiscipline settings) c γ :=
    ⟨⟨hc.inv, recalls_of_mem hc.inv.1 hk⟩, hc.known, hc.apart,
      fun task htask => (hc.phases task htask).imp fun _ h => ⟨h.1, h.2, trivial⟩⟩
  obtain ⟨γ', hc'⟩ := Outline.annotated_run
    ((recollection_sound settings k fun _ _ => True).sound (slotted_sound hvalid _)) hlayered
    (Transition.along_of_forall fun _ _ => trivial) hrun'
  exact hc'.inv.2.same k' hk' hid

theorem housed_run (hvalid : settings.network.Valid)
    (hrun : (cell settings).run (Cell.start (Db.create effectiveCpu)) es = some c) :
    ∀ v ∈ c.shared.db.vms.rows, ∃ k ∈ c.shared.db.clusters.rows, k.id = v.clusterId ∧
      k.cidr.contains v.ipAddress = true := by
  have hsound := (tenants_sound hvalid fun _ _ => True).sound (slotted_sound hvalid _)
  have hstart : ((slotted settings).layered (tenants settings)).inv [] [] (Shared.boot (Db.create effectiveCpu)) :=
    ⟨slotted_start settings effectiveCpu,
      ⟨forall_mem_nil _, forall_mem_nil _⟩,
      forall_mem_nil _⟩
  obtain ⟨γ, hc⟩ := Outline.annotated_run hsound (Outline.annotated_empty hstart)
    (Transition.along_of_forall fun _ _ => trivial) hrun
  obtain ⟨-, hfk, hhoused⟩ := hc.inv
  intro v hv
  obtain ⟨k, hk, hid⟩ := hfk.vms v hv
  exact ⟨k, hk, hid, hhoused v hv k hk hid⟩

end Runs

/-! ## Isolation -/

/-- The addresses of the hosts are neither the clusters' nor the pools'. -/
def NetworkConfig.UnderlayApart (net : NetworkConfig) (db : Db) : Prop :=
  ∀ host ∈ db.hosts.rows, ∀ a, Ipv4Addr.parse host.vtepAddress = some a →
    net.clusterSupernet.contains a = false ∧ ∀ pool ∈ net.pools, pool.cidr.contains a = false

section Isolated

variable {settings : Settings} {effectiveCpu : Int → Int} {es₁ es₂ es₃ : List (Event Activity)} {c₁ c₂ c₃ : Cell}

/-- A node of the spec is a VM whose cluster was there at the second read and is there at the last. -/
theorem node_of_spec (hvalid : settings.network.Valid)
    (hrun₂ : (cell settings).run (Cell.start (Db.create effectiveCpu)) es₂ = some c₂)
    (hrun₃ : (cell settings).run c₂ es₃ = some c₃) {k : ClusterRow} (hk : k ∈ c₂.shared.db.clusters.rows)
    {session : Ipv4Addr}
    (h : session ∈ (c₃.shared.db.vms.rows.filter fun v => v.clusterId = k.id).map (·.ipAddress)) :
    ∃ k' ∈ c₃.shared.db.clusters.rows, k.SameCluster k' ∧ k'.cidr.contains session = true := by
  obtain ⟨v, hv, rfl⟩ := mem_map.mp h
  obtain ⟨hv, hcluster⟩ := mem_filter.mp hv
  obtain ⟨k', hk', hid, hinside⟩ := housed_run hvalid (Transition.run_trans hrun₂ hrun₃) v hv
  exact ⟨k', hk', sameCluster_of_run hvalid hrun₂ hrun₃ hk hk' (hid.trans (of_decide_eq_true hcluster)), hinside⟩

/-- **An accepted announcement from a cluster's address space is for that cluster's addresses.** -/
theorem covers_of_accepted (hvalid : settings.network.Valid)
    (hrun₂ : (cell settings).run (Cell.start (Db.create effectiveCpu)) es₂ = some c₂)
    (hrun₃ : (cell settings).run c₂ es₃ = some c₃) (hfits : ∀ t ∈ c₃.started, t.fits settings = true)
    (hunderlay : settings.network.UnderlayApart c₁.shared.db) {sets : List Gobgp.DefinedSet} {policy : Gobgp.Policy}
    (hpolicy : Gobgp.ingressPolicy (computeIngressPolicy c₁.shared.db c₂.shared.db c₃.shared.db) = .ok (sets, policy))
    {session : Ipv4Addr} {route : Ipv4Net} (hsession : settings.network.clusterSupernet.contains session = true)
    (haccepted : Gobgp.accepts sets policy session route = true) :
    ∃ k ∈ c₂.shared.db.clusters.rows, ∃ k' ∈ c₃.shared.db.clusters.rows, k.SameCluster k' ∧
      k'.cidr.contains session = true ∧ ∀ a, route.contains a = true → k'.Covers a := by
  have hcarved := rowsCarved_run hvalid rfl hrun₂
  have hequipped := rowsEquipped_run hvalid hrun₂ fun t ht => hfits t (Machine.started_of_run hrun₃ t ht)
  have hnodes : ∀ cluster ∈ (computeIngressPolicy c₁.shared.db c₂.shared.db c₃.shared.db).clusters,
      ∀ v ∈ cluster.nodes, v < 2 ^ 32 := by
    intro cluster hcluster v hv
    obtain ⟨k, hk, rfl⟩ := mem_map.mp hcluster
    obtain ⟨k', hk', hsame, hinside⟩ := node_of_spec hvalid hrun₂ hrun₃ hk hv
    exact Ipv4Net.lt_of_contains (wellFormed_of_carved hvalid ((hcarved k hk).of_same hsame)) hinside
  have hids : ∀ a ∈ (computeIngressPolicy c₁.shared.db c₂.shared.db c₃.shared.db).clusters,
      ∀ b ∈ (computeIngressPolicy c₁.shared.db c₂.shared.db c₃.shared.db).clusters,
      a.clusterId = b.clusterId → a = b := by
    intro a ha b hb hid
    obtain ⟨k, hk, rfl⟩ := mem_map.mp ha
    obtain ⟨j, hj, rfl⟩ := mem_map.mp hb
    rw [Table.eq_of_clash hk hj (.inl hid)]
  have hhosts : ∀ v ∈ (computeIngressPolicy c₁.shared.db c₂.shared.db c₃.shared.db).hypervisors, v < 2 ^ 32 := by
    intro v hv
    obtain ⟨host, -, hparse⟩ := mem_filterMap.mp hv
    exact (Ipv4Addr.text_of_parse hparse).1
  rcases Gobgp.accepted_by hpolicy hids hnodes hhosts haccepted with hhost | ⟨cluster, hcluster, hnode, hroute⟩
  · -- a hypervisor's session is not from the supernet
    obtain ⟨host, hmem, hparse⟩ := mem_filterMap.mp hhost
    rw [(hunderlay host hmem session hparse).1] at hsession
    cases hsession
  · obtain ⟨k, hk, rfl⟩ := mem_map.mp hcluster
    obtain ⟨k', hk', hsame, hinside⟩ := node_of_spec hvalid hrun₂ hrun₃ hk hnode
    refine ⟨k, hk, k', hk', hsame, hinside, fun a ha => ?_⟩
    obtain ⟨raw, hraw, n, hparse, hlen, hnetwork⟩ := hroute
    obtain ⟨n', hparse', hcovers⟩ := parse_ingressPrefixes hvalid (hcarved k hk) (hequipped k hk) hraw
    obtain rfl : n = n' := Option.some.inj (hparse.symm.trans hparse')
    rw [← hsame]
    exact hcovers a (Ipv4Net.contains_of_subnet hlen hnetwork ha)

end Isolated

/-- **Ingress is isolated between clusters.** Whatever is written between the three reads, the policy that is
    pushed accepts, from the address of a VM, no network that meets the CIDR, the service block or the public VIP
    of another cluster existing at the last read; and the same from any address of a cluster that was there at
    the second or the last read. -/
theorem ingress_isolated (settings : Settings) (hvalid : settings.network.validate = .ok ())
    (effectiveCpu : Int → Int) (es₁ es₂ es₃ : List (Event Activity)) (c₁ c₂ c₃ : Cell)
    (hrun₁ : (cell settings).run (Cell.start (Db.create effectiveCpu)) es₁ = some c₁)
    (hrun₂ : (cell settings).run c₁ es₂ = some c₂) (hrun₃ : (cell settings).run c₂ es₃ = some c₃)
    (hfits : ∀ t ∈ c₃.started, t.fits settings = true)
    (hunderlay : settings.network.UnderlayApart c₁.shared.db) :
    ∃ sets policy, Gobgp.ingressPolicy (computeIngressPolicy c₁.shared.db c₂.shared.db c₃.shared.db) =
        .ok (sets, policy) ∧
      (∀ v ∈ c₃.shared.db.vms.rows, ∀ route, Gobgp.accepts sets policy v.ipAddress route = true →
        ∀ other ∈ c₃.shared.db.clusters.rows, other.id ≠ v.clusterId →
          ∀ a, route.contains a = true → ¬other.Covers a) ∧
      ∀ k, k ∈ c₂.shared.db.clusters.rows ∨ k ∈ c₃.shared.db.clusters.rows →
        ∀ session, k.cidr.contains session = true →
          ∀ route, Gobgp.accepts sets policy session route = true →
            ∀ other ∈ c₃.shared.db.clusters.rows, other.id ≠ k.id → ∀ a, route.contains a = true → ¬other.Covers a := by
  have hnet := NetworkConfig.valid_of_validate hvalid
  have hrun := Transition.run_trans hrun₁ hrun₂
  have hcarved₂ := rowsCarved_run hnet rfl hrun
  have hcarved₃ := rowsCarved_run hnet rfl (Transition.run_trans hrun hrun₃)
  have hequipped₂ := rowsEquipped_run hnet hrun fun t ht => hfits t (Machine.started_of_run hrun₃ t ht)
  have hequipped₃ := rowsEquipped_run hnet (Transition.run_trans hrun hrun₃) hfits
  have hrenders : ∃ sets policy, Gobgp.ingressPolicy (computeIngressPolicy c₁.shared.db c₂.shared.db c₃.shared.db) =
      .ok (sets, policy) := by
    refine Gobgp.ingressPolicy_ok fun cluster hcluster raw hraw => ?_
    obtain ⟨k, hk, rfl⟩ := mem_map.mp hcluster
    obtain ⟨n, hparse, -⟩ := parse_ingressPrefixes hnet (hcarved₂ k hk) (hequipped₂ k hk) hraw
    exact ⟨n, hparse⟩
  obtain ⟨sets, policy, hpolicy⟩ := hrenders
  have hgeneral : ∀ k, k ∈ c₂.shared.db.clusters.rows ∨ k ∈ c₃.shared.db.clusters.rows →
      ∀ session, k.cidr.contains session = true →
        ∀ route, Gobgp.accepts sets policy session route = true →
          ∀ other ∈ c₃.shared.db.clusters.rows, other.id ≠ k.id →
            ∀ a, route.contains a = true → ¬other.Covers a := by
    intro k hk session hsession route haccepted other hother hne a ha hcovers
    have hsuper : settings.network.clusterSupernet.contains session = true := by
      rcases hk with hk | hk
      · exact supernet_of_carved hnet (hcarved₂ k hk) hsession
      · exact supernet_of_carved hnet (hcarved₃ k hk) hsession
    obtain ⟨j, hj, j', hj', hsame, hinside, hroute⟩ :=
      covers_of_accepted hnet hrun hrun₃ hfits hunderlay hpolicy hsuper haccepted
    have hid : k.id = j'.id := by
      rcases hk with hk | hk
      · rw [← hsame] at hinside
        rw [eq_of_cidrs_meet hnet hcarved₂ hk hj hsession hinside]
        exact hsame.id
      · rw [eq_of_cidrs_meet hnet hcarved₃ hk hj' hsession hinside]
    have hone := eq_of_covers hnet hcarved₃ hequipped₃ hother hj' hcovers (hroute a ha)
    rw [hone, ← hid] at hne
    exact hne rfl
  refine ⟨sets, policy, hpolicy, fun v hv route haccepted other hother hne => ?_, hgeneral⟩
  obtain ⟨k, hk, hid, hinside⟩ := housed_run hnet (Transition.run_trans hrun hrun₃) v hv
  exact hgeneral k (.inr hk) _ hinside route haccepted other hother (hid ▸ hne)

/-- Each of two clusters gets its first machine between two of the reads. The policy takes the VIP of `c0` from its
    own machine. -/
theorem ingress_isolated_smallCell : smallCell.network.validate = .ok () ∧ ∃ c₁ c₂ c₃,
    (cell smallCell).run emptyCell upToBoth = some c₁ ∧ (cell smallCell).run c₁ (placed "c0" "v1" 3) = some c₂ ∧
    (cell smallCell).run c₂ (placed "d1" "v2" 4) = some c₃ ∧ (∀ t ∈ c₃.started, t.fits smallCell = true) ∧
    smallCell.network.UnderlayApart c₁.shared.db ∧
    (computeIngressPolicy c₁.shared.db c₂.shared.db c₃.shared.db).hypervisors = [2886729729] ∧
    c₃.shared.db.vms.rows.map (fun v => (v.clusterId, v.ipAddress)) = [("c0", 167772165), ("d1", 167772421)] ∧
    ∃ sets policy, Gobgp.ingressPolicy (computeIngressPolicy c₁.shared.db c₂.shared.db c₃.shared.db) =
        .ok (sets, policy) ∧ Gobgp.accepts sets policy 167772165 ⟨3232235777, 32⟩ = true ∧
      ∀ v ∈ c₃.shared.db.vms.rows, ∀ route, Gobgp.accepts sets policy v.ipAddress route = true →
        ∀ other ∈ c₃.shared.db.clusters.rows, other.id ≠ v.clusterId →
          ∀ a, route.contains a = true → ¬other.Covers a := by
  have hvalid : smallCell.network.validate = .ok () := by decide +kernel
  have hrun₁ := run_reached upToBoth (by decide +kernel)
  have hrun₂ := run_on upToBoth (placed "c0" "v1" 3) (by decide +kernel)
  have hrun₃ : (cell smallCell).run _ _ = some (reached upToHoused) :=
    run_on (upToBoth ++ placed "c0" "v1" 3) (placed "d1" "v2" 4) (by decide +kernel)
  have hvteps : ∀ host ∈ (reached upToBoth).shared.db.hosts.rows,
      Ipv4Addr.parse host.vtepAddress = some 2886729729 := by decide +kernel
  have hunderlay : smallCell.network.UnderlayApart (reached upToBoth).shared.db := by
    intro host hmem a hparse
    obtain rfl := Option.some.inj ((hvteps host hmem).symm.trans hparse)
    decide
  have hfits : ∀ t ∈ (reached upToHoused).started, t.fits smallCell = true := by decide +kernel
  obtain ⟨sets, policy, hpolicy, hvms, -⟩ :=
    ingress_isolated smallCell hvalid id _ _ _ _ _ _ hrun₁ hrun₂ hrun₃ hfits hunderlay
  have haccepts : (Gobgp.ingressPolicy (computeIngressPolicy (reached upToBoth).shared.db
      (reached (upToBoth ++ placed "c0" "v1" 3)).shared.db (reached upToHoused).shared.db)).toOption.any
        (fun p => Gobgp.accepts p.1 p.2 167772165 ⟨3232235777, 32⟩) = true := by decide +kernel
  rw [hpolicy] at haccepts
  exact ⟨hvalid, _, _, _, hrun₁, hrun₂, hrun₃, hfits, hunderlay, by decide +kernel, by decide +kernel, sets, policy,
    hpolicy, haccepts, hvms⟩

/-- **Tenants keep to their own addresses**, as long as no cluster asks for more than half of its pool. A VM has a
    cluster and an address of its CIDR, which lies in no CIDR, service block or public VIP of another cluster, and
    which no VM of another cluster has. -/
theorem tenants_apart (settings : Settings) (hvalid : settings.network.validate = .ok ()) (effectiveCpu : Int → Int)
    (es : List (Event Activity)) (c : Cell)
    (hrun : (cell settings).run (Cell.start (Db.create effectiveCpu)) es = some c)
    (hfits : ∀ t ∈ c.started, t.fits settings = true) (v : VmRow) (hv : v ∈ c.shared.db.vms.rows) :
    (∃ k ∈ c.shared.db.clusters.rows, k.id = v.clusterId ∧ k.cidr.contains v.ipAddress = true ∧
      ∀ other ∈ c.shared.db.clusters.rows, other.Covers v.ipAddress → other = k) ∧
    ∀ w ∈ c.shared.db.vms.rows, w.ipAddress = v.ipAddress → w.clusterId = v.clusterId := by
  have hnet := NetworkConfig.valid_of_validate hvalid
  have hcarved := rowsCarved_run hnet rfl hrun
  have hequipped := rowsEquipped_run hnet hrun hfits
  obtain ⟨k, hk, hid, hinside⟩ := housed_run hnet hrun v hv
  refine ⟨⟨k, hk, hid, hinside, fun other hother hcovers => ?_⟩, fun w hw haddr => ?_⟩
  · exact eq_of_covers hnet hcarved hequipped hother hk hcovers (.inl hinside)
  · obtain ⟨k', hk', hid', hinside'⟩ := housed_run hnet hrun w hw
    rw [haddr] at hinside'
    rw [← hid, ← hid', eq_of_cidrs_meet hnet hcarved hk hk' hinside hinside']

theorem tenants_apart_smallCell : ∃ c, (cell smallCell).run emptyCell upToHoused = some c ∧
    c.shared.db.vms.rows.map (fun v => (v.clusterId, v.ipAddress)) = [("c0", 167772165), ("d1", 167772421)] ∧
    ∀ v ∈ c.shared.db.vms.rows,
      (∃ k ∈ c.shared.db.clusters.rows, k.id = v.clusterId ∧ k.cidr.contains v.ipAddress = true ∧
        ∀ other ∈ c.shared.db.clusters.rows, other.Covers v.ipAddress → other = k) ∧
      ∀ w ∈ c.shared.db.vms.rows, w.ipAddress = v.ipAddress → w.clusterId = v.clusterId := by
  have hrun := run_reached upToHoused (by decide +kernel)
  exact ⟨_, hrun, by decide +kernel, fun v hv =>
    tenants_apart smallCell (by decide +kernel) id upToHoused _ hrun (by decide +kernel) v hv⟩

end BasisCell
