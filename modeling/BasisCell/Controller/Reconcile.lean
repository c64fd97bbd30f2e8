import BasisCell.Controller.Effects
import BasisCell.Controller.System

/-!
# `BasisCell.Controller.Reconcile` — what a reconcile command says

A reconcile command is assembled from four sources: the host's active memberships, the tree-scoped clusters
it does not carry, its pending rows, and what of its reported inventory the database does not know. The
first three are all selections from the `clusters` table, so which VNI can turn up twice is a question about
three predicates on one row. `build_reconcile_command` also records VIP owners while it runs; no other table
changes, and none of its own queries reads that one back for another cluster.
-/

namespace BasisCell

open Conc Conc.Prog Relational List

/-! ## Commands as selections from `clusters` -/

/-- Is the pool of a stored cluster tree-scoped? -/
def Settings.isTreeCluster (settings : Settings) (c : ClusterRow) : Bool :=
  (settings.network.poolByName c.externalPool).any Pool.isTree

namespace Db

variable {db : Db} {hostId : HostId} {c : ClusterRow}

/-- Has the host a membership of the cluster in this state? -/
def memberIn (db : Db) (hostId : HostId) (state : MembershipState) (c : ClusterRow) : Bool :=
  db.hostClusters.rows.any fun hc => hc.clusterId = c.id ∧ hc.hostId = hostId ∧ hc.state = state

/-- The pair is the primary key of `host_clusters`, so one membership has one state. -/
theorem memberIn_unique {state state' : MembershipState} (h : db.memberIn hostId state c = true)
    (h' : db.memberIn hostId state' c = true) : state = state' := by
  simp only [memberIn, any_eq_true, decide_eq_true_eq] at h h'
  obtain ⟨hc, hmem, hcluster, hhost, rfl⟩ := h
  obtain ⟨hc', hmem', hcluster', hhost', rfl⟩ := h'
  have hclash : Schema.Clash hc hc' := ⟨hcluster.trans hcluster'.symm, .inl (hhost.trans hhost'.symm)⟩
  rw [Table.eq_of_clash hmem hmem' hclash]

theorem not_leaving_of_active (h : db.memberIn hostId .active c = true) :
    db.memberIn hostId .pendingTeardown c = false := by
  by_contra hpending
  rw [Bool.not_eq_false] at hpending
  exact nomatch memberIn_unique h hpending

/-- The VNIs of the clusters of which the host has a membership in this state. -/
abbrev vnisIn (db : Db) (hostId : HostId) (state : MembershipState) : List Nat :=
  (db.clusters.rows.filter (db.memberIn hostId state)).map (·.vni)

theorem listPendingClusterTombstones_vnis (db : Db) (hostId : HostId) :
    (db.listPendingClusterTombstones hostId).map (·.vni) = db.vnisIn hostId .pendingTeardown := by
  rw [listPendingClusterTombstones, map_filterMap, vnisIn, ← filterMap_eq_map, filterMap_filter]
  refine filterMap_congr fun c _ => ?_
  unfold memberIn
  split <;> rfl

/-- At most one membership row stands for a pair. -/
theorem memberships_of (db : Db) (hostId : HostId) (state : MembershipState) (c : ClusterRow) :
    ((db.hostClusters.rows.filter fun hc => hc.clusterId = c.id ∧ hc.hostId = hostId ∧ hc.state = state).map
      fun _ => c) = if db.memberIn hostId state c then [c] else [] := by
  have hapart := db.hostClusters.distinct
  unfold memberIn
  generalize db.hostClusters.rows = rows at hapart ⊢
  induction hapart with
  | nil => rfl
  | @cons hc rows hfirst _ ih =>
    rw [filter_cons, any_cons]
    split
    · rename_i hsel
      obtain ⟨hcluster, hhost, _⟩ := of_decide_eq_true hsel
      rw [hsel, filter_eq_nil_iff.mpr]
      · rfl
      · -- two rows of the pair would clash
        intro hc' hmem hsel'
        obtain ⟨hcluster', hhost', _⟩ := of_decide_eq_true hsel'
        exact hfirst hc' hmem ⟨hcluster.trans hcluster'.symm, .inl (hhost.trans hhost'.symm)⟩
    · rename_i hsel
      rw [ih, Bool.eq_false_of_not_eq_true hsel, Bool.false_or]

theorem listActiveHostClusters_clusters (db : Db) (hostId : HostId) :
    (db.listActiveHostClusters hostId).map (·.cluster) =
      db.clusters.rows.filter (db.memberIn hostId .active) := by
  unfold listActiveHostClusters
  induction db.clusters.rows with
  | nil => rfl
  | cons c cs ih =>
    rw [flatMap_cons, map_append, ih, map_map, filter_cons]
    have hone := db.memberships_of hostId .active c
    rw [show ((·.cluster) ∘ fun hc : HostClusterRow => HostClusterMembership.mk c hc.ipAddress) = fun _ => c from rfl,
      hone]
    split <;> rfl

theorem mem_listActive_ids (hc : c ∈ db.clusters.rows) :
    c.id ∈ (db.listActiveHostClusters hostId).map (·.cluster.id) ↔ db.memberIn hostId .active c = true := by
  have hids : (db.listActiveHostClusters hostId).map (·.cluster.id) =
      (db.clusters.rows.filter (db.memberIn hostId .active)).map (·.id) := by
    rw [← listActiveHostClusters_clusters, map_map]
    rfl
  rw [hids, mem_map]
  constructor
  · rintro ⟨c', hc', hid⟩
    rw [memberIn, ← hid]
    exact (mem_filter.mp hc').2
  · intro hactive
    exact ⟨c, mem_filter.mpr ⟨hc, hactive⟩, rfl⟩

/-- The tree-scoped clusters that a command names although the host does not carry them. -/
def ghosts (db : Db) (settings : Settings) (hostId : HostId) : List ClusterRow :=
  db.clusters.rows.filter fun c => settings.isTreeCluster c && !db.memberIn hostId .active c

/-- As the builder selects them. -/
theorem ghosts_eq (db : Db) (settings : Settings) (hostId : HostId) :
    db.ghosts settings hostId =
      (db.clusters.rows.filter fun c => c.id ∉ (db.listActiveHostClusters hostId).map (·.cluster.id)).filter
        settings.isTreeCluster := by
  unfold ghosts
  rw [filter_filter]
  refine filter_congr fun c hc => ?_
  simp only [mem_listActive_ids hc, decide_not, Bool.decide_eq_true]

end Db

/-! ## Running the builder -/

/-- Nothing but the table of VIP owners differs. -/
def Shared.Elected (s s' : Shared) : Prop :=
  ∃ owners, s' = { s with db := { s.db with clusterLanVipOwners := owners } }

theorem Shared.Elected.refl (s : Shared) : s.Elected s := ⟨s.db.clusterLanVipOwners, rfl⟩

theorem Shared.Elected.trans {s s' s'' : Shared} (h : s.Elected s') (h' : s'.Elected s'') : s.Elected s'' := by
  obtain ⟨_, rfl⟩ := h
  obtain ⟨owners, rfl⟩ := h'
  exact ⟨owners, rfl⟩

/-- What a command lists, in terms of the database it was built from. -/
structure ReconcileHostCommand.Lists (settings : Settings) (hostId : HostId) (db : Db)
    (cmd : ReconcileHostCommand) : Prop where
  clusters : cmd.clusters.map (·.vni) = (db.clusters.rows.filter (db.memberIn hostId .active)).map (·.vni) ++
    (db.ghosts settings hostId).map (·.vni)
  clusterTombstones : cmd.clusterTombstones = db.listPendingClusterTombstones hostId
  vmTombstones : cmd.vmTombstones = db.listPendingVmTombstones hostId

section Eval

variable {settings : Settings} {hostId : HostId} {s : Shared}

theorem elected_electLanVipOwner (clusterId : ClusterId) (carriers : List HostId) (s : Shared) :
    s.Elected ((electLanVipOwner clusterId carriers).eval Op.exec s).1 := by
  have hset : ∀ owner, s.Elected ((Op.write (.setLanVipOwner clusterId owner)).exec s).1 := by
    intro owner
    show s.Elected { s with db := ((Write.setLanVipOwner clusterId owner).exec s.db).1 }
    refine Write.exec_elim (.setLanVipOwner clusterId owner) s.db (.refl s) fun heff => ?_
    cases heff with
    | setLanVipOwner => exact ⟨_, rfl⟩
  unfold electLanVipOwner
  rw [Handler.eval_query]
  split
  · exact .refl s
  · split
    · exact .refl s
    · rename_i newOwner _
      rw [Handler.eval_write]
      cases ((Write.setLanVipOwner clusterId newOwner).exec s.db).2 <;> exact hset newOwner

/-- A run of a fallible builder: it changes VIP owners at most, and a result it returns satisfies `P`. -/
def Elects {α : Type} (s : Shared) (P : α → Prop) (out : Shared × Except DbError α) : Prop :=
  s.Elected out.1 ∧ ∀ a, out.2 = .ok a → P a

theorem eval_carriedState (membership : HostClusterMembership) (s : Shared) :
    Elects s (fun state => state.vni = membership.cluster.vni)
      ((carriedState settings membership).eval Op.exec s) := by
  unfold carriedState
  dsimp only
  split
  · exact ⟨.refl s, nofun⟩
  · exact ⟨.refl s, nofun⟩
  · rw [Handler.eval_query]
    refine eval_seq (R := fun out => s.Elected out.1) (elected_electLanVipOwner _ _ s) fun s' owner hs' => ?_
    cases owner with
    | error e => exact ⟨hs', nofun⟩
    | ok owner =>
      refine ⟨hs', fun state h => ?_⟩
      cases h
      rfl

theorem eval_ghostState (cluster : ClusterRow) (s : Shared) :
    ((ghostState settings cluster).eval Op.exec s).1 = s ∧
      ∀ state, ((ghostState settings cluster).eval Op.exec s).2 = .ok state →
        state.map (·.vni) = if settings.isTreeCluster cluster then some cluster.vni else none := by
  unfold ghostState clusterPool Settings.isTreeCluster
  cases settings.network.poolByName cluster.externalPool with
  | none => exact ⟨rfl, nofun⟩
  | some pool =>
    dsimp only [Option.any]
    split
    · cases clusterVisibility cluster with
      | error e => exact ⟨rfl, nofun⟩
      | ok visibility =>
        refine ⟨rfl, fun state h => ?_⟩
        cases h
        rfl
    · refine ⟨rfl, fun state h => ?_⟩
      cases h
      rfl

theorem eval_carried (hostId : HostId) (s : Shared) :
    Elects s (fun carried => carried.map (·.vni) = (s.db.listActiveHostClusters hostId).map (·.cluster.vni))
      ((mapEach (s.db.listActiveHostClusters hostId) (carriedState settings)).eval Op.exec s) :=
  eval_mapEach (I := s.Elected) (f := carriedState settings) (u := fun state : ClusterState => state.vni)
    (v := fun m : HostClusterMembership => m.cluster.vni)
    (fun m s' hs' => ⟨hs'.trans (eval_carriedState m s').1, (eval_carriedState m s').2⟩) _ (.refl s)

/-- The clusters named for their transit only: those of the table that the host does not carry. -/
theorem eval_ghosts (hostId : HostId) {s s' : Shared} (h : s.Elected s') :
    Elects s (fun ghosts => ghosts.reduceOption.map (·.vni) = (s.db.ghosts settings hostId).map (·.vni))
      ((mapEach (s.db.clusters.rows.filter fun c => c.id ∉ (s.db.listActiveHostClusters hostId).map (·.cluster.id))
        (ghostState settings)).eval Op.exec s') := by
  obtain ⟨hstate, hmap⟩ := eval_mapEach (I := s.Elected) (u := fun state : Option ClusterState => state.map (·.vni))
    (v := fun c : ClusterRow => if settings.isTreeCluster c then some c.vni else none)
    (fun c t ht => (eval_ghostState c t).imp_left fun heq => heq.symm ▸ ht) _ h
  refine ⟨hstate, fun ghosts hghosts => ?_⟩
  dsimp only
  rw [← reduceOption_map, hmap ghosts hghosts, Db.ghosts_eq]
  induction s.db.clusters.rows.filter _ with
  | nil => rfl
  | cons c cs ih =>
    rw [map_cons, filter_cons]
    split
    · rw [reduceOption_cons_of_some, ih, map_cons]
    · rw [reduceOption_cons_of_none, ih]

/-- **What the builder returns.** It may record VIP owners; the command lists the selections of `Lists`. -/
theorem eval_buildReconcileCommand (settings : Settings) (hostId : HostId) (s : Shared) :
    Elects s (ReconcileHostCommand.Lists settings hostId s.db)
      ((buildReconcileCommand settings hostId).eval Op.exec s) := by
  unfold buildReconcileCommand
  rw [Handler.eval_query]
  refine eval_seq (eval_carried hostId s) fun s' carried hcarried => ?_
  cases carried with
  | error e => exact ⟨hcarried.1, nofun⟩
  | ok carried =>
    obtain ⟨⟨owners, rfl⟩, hcarried⟩ := hcarried
    dsimp only
    rw [Handler.eval_query]
    refine eval_seq (eval_ghosts hostId ⟨owners, rfl⟩) fun s' ghosts hghosts => ?_
    cases ghosts with
    | error e => exact ⟨hghosts.1, nofun⟩
    | ok ghosts =>
      obtain ⟨⟨owners, rfl⟩, hghosts⟩ := hghosts
      refine ⟨⟨owners, rfl⟩, fun cmd h => ?_⟩
      cases h
      refine ⟨?_, rfl, rfl⟩
      rw [map_append, hcarried carried rfl, hghosts ghosts rfl, ← Db.listActiveHostClusters_clusters,
        map_map]
      rfl

/-- What of the reported clusters the host has no membership of, by VNI. -/
def Db.orphans (db : Db) (hostId : HostId) (inventory : HostInventory) : List InventoryCluster :=
  inventory.clusters.filter fun o => ¬∃ c ∈ db.clusters.rows, c.vni = o.vni ∧
    ∃ hc ∈ db.hostClusters.rows, hc.clusterId = c.id ∧ hc.hostId = hostId

/-- The inventory pass only reads; with the switch off it returns the command it was given. -/
theorem eval_extendWithOrphanTombstones (settings : Settings) (hostId : HostId) (inventory : HostInventory)
    (cmd : ReconcileHostCommand) (s : Shared) :
    ∃ orphanVmIds, (extendWithOrphanTombstones settings hostId inventory cmd).eval Op.exec s =
      (s, if settings.autoReconcileOrphanInventory then
        { cmd with
          clusterTombstones := cmd.clusterTombstones ++ ((inventory.clusters.filter fun c =>
            c.vni ∉ (s.db.listActiveHostClusters hostId).map (·.cluster.vni) ++
              (s.db.listPendingClusterTombstones hostId).map (·.vni) ∧
            c.vni ∉ cmd.clusterTombstones.map (·.vni)).map fun c => ⟨c.vni, "", c.cidr⟩)
          vmTombstones := cmd.vmTombstones ++ orphanVmIds }
      else cmd) := by
  have hreads := eval_filterEach (I := (· = s)) (f := isOrphanVm hostId)
    (fun vmId s' hs' => by
      subst hs'
      unfold isOrphanVm
      rw [Handler.eval_query]
      cases (Query.getVm vmId).eval s'.db <;> rfl)
    (inventory.vmIds.filter fun v => v ∉ cmd.vmTombstones) rfl
  unfold extendWithOrphanTombstones
  rw [eval_bind]
  generalize (filterEach _ (isOrphanVm hostId)).eval Op.exec s = out at hreads ⊢
  obtain ⟨s', orphanVmIds⟩ := out
  obtain rfl : s' = s := hreads
  refine ⟨orphanVmIds, ?_⟩
  rw [Handler.eval_query, Handler.eval_query]
  dsimp only
  split <;> rfl

end Eval

/-! ## Consistency -/

/-- Each VNI at most once in either list, and in one of them only. -/
def ReconcileHostCommand.Consistent (cmd : ReconcileHostCommand) : Prop :=
  (cmd.clusters.map (·.vni)).Nodup ∧ (cmd.clusterTombstones.map (·.vni)).Nodup ∧
    ∀ v ∈ cmd.clusters.map (·.vni), v ∉ cmd.clusterTombstones.map (·.vni)

instance (cmd : ReconcileHostCommand) : Decidable cmd.Consistent := inferInstanceAs (Decidable (_ ∧ _ ∧ _))

/-- The command for a host: what a push or a tick builds, or with an inventory the last two passes of a
    registration. -/
def commandFor (settings : Settings) (hostId : HostId) (inventory : Option HostInventory) :
    Handler (Except DbError ReconcileHostCommand) := do
  match ← buildReconcileCommand settings hostId with
  | .error e => return .error e
  | .ok cmd =>
    match inventory with
    | none => return .ok cmd
    | some inventory =>
      let cmd ← extendWithOrphanTombstones settings hostId inventory cmd
      return .ok cmd

/-- The tombstones that an inventory adds, by VNI. -/
def Db.orphanVnis (settings : Settings) (hostId : HostId) (inventory : Option HostInventory) (db : Db) : List Nat :=
  if settings.autoReconcileOrphanInventory then (inventory.elim [] (db.orphans hostId)).map (·.vni) else []

/-- No tree-scoped cluster is one that the host is leaving or reports without being a member, and no VNI is
    reported twice without a membership. -/
structure Db.Unambiguous (settings : Settings) (hostId : HostId) (inventory : Option HostInventory) (db : Db) :
    Prop where
  /-- A tree-scoped cluster is named as transit also while its membership is torn down. -/
  leaving : ∀ c ∈ db.clusters.rows, settings.isTreeCluster c = true → db.memberIn hostId .pendingTeardown c = false
  reportedTwice : (db.orphanVnis settings hostId inventory).Nodup
  reportedTree : ∀ c ∈ db.clusters.rows, settings.isTreeCluster c = true →
    c.vni ∉ db.orphanVnis settings hostId inventory

/-! ### Disjoint parts -/

section Consistency

variable {db : Db} {settings : Settings} {hostId : HostId} {inventory : Option HostInventory}
variable {p q : ClusterRow → Bool}

/-- `vni` is unique in `clusters`, so a selection names each VNI once. -/
theorem selected_nodup : ((db.clusters.rows.filter p).map (·.vni)).Nodup := by
  have hrows : (db.clusters.rows.map (·.vni)).Nodup := by
    rw [List.Nodup, pairwise_map]
    exact db.clusters.distinct.imp fun hn heq => hn (.inr (.inr heq))
  exact hrows.sublist (filter_sublist.map _)

/-- Two selections share a VNI only through a row that both take. -/
theorem selected_disjoint : List.Disjoint ((db.clusters.rows.filter p).map (·.vni))
    ((db.clusters.rows.filter q).map (·.vni)) ↔ ∀ c ∈ db.clusters.rows, p c = true → q c = false := by
  constructor
  · intro h c hc hp
    by_contra hq
    rw [Bool.not_eq_false] at hq
    exact h (mem_map_of_mem (mem_filter.mpr ⟨hc, hp⟩)) (mem_map_of_mem (mem_filter.mpr ⟨hc, hq⟩))
  · intro h v hv hv'
    obtain ⟨c, hc, rfl⟩ := mem_map.mp hv
    obtain ⟨c', hc', heq⟩ := mem_map.mp hv'
    obtain ⟨hmem, hp⟩ := mem_filter.mp hc
    obtain ⟨hmem', hq⟩ := mem_filter.mp hc'
    obtain rfl : c' = c := Table.eq_of_clash hmem' hmem (.inr (.inr heq))
    rw [h c' hmem hp] at hq
    cases hq

/-- A reported orphan is none of the clusters that the host has a membership of. -/
theorem orphans_disjoint {state : MembershipState} :
    List.Disjoint (db.vnisIn hostId state) (db.orphanVnis settings hostId inventory) := by
  intro v hv horphan
  unfold Db.orphanVnis at horphan
  split at horphan
  · obtain ⟨o, ho, rfl⟩ := mem_map.mp horphan
    obtain ⟨c, hc, heq⟩ := mem_map.mp hv
    obtain ⟨hmem, hmember⟩ := mem_filter.mp hc
    simp only [Db.memberIn, any_eq_true, decide_eq_true_eq] at hmember
    obtain ⟨hc, hhc, hcluster, hhost, _⟩ := hmember
    cases inventory with
    | none => cases ho
    | some inv =>
      have huntracked := of_decide_eq_true (mem_filter.mp ho).2
      exact huntracked ⟨c, hmem, heq, hc, hhc, hcluster, hhost⟩
  · cases horphan

theorem mem_ghosts {c : ClusterRow} (hc : c ∈ db.clusters.rows) (htree : settings.isTreeCluster c = true)
    (hactive : ¬db.memberIn hostId .active c = true) : c ∈ db.ghosts settings hostId := by
  refine mem_filter.mpr ⟨hc, ?_⟩
  rw [htree, Bool.eq_false_of_not_eq_true hactive]
  rfl

theorem ghosts_disjoint_leaving :
    List.Disjoint ((db.ghosts settings hostId).map (·.vni)) (db.vnisIn hostId .pendingTeardown) ↔
      ∀ c ∈ db.clusters.rows, settings.isTreeCluster c = true → db.memberIn hostId .pendingTeardown c = false := by
  refine selected_disjoint.trans (forall₂_congr fun c hc => ?_)
  refine ⟨fun hghost htree => ?_, fun htree hghost => htree (Bool.and_elim_left hghost)⟩
  by_cases hactive : db.memberIn hostId .active c = true
  · exact Db.not_leaving_of_active hactive
  · exact hghost (mem_filter.mp (mem_ghosts hc htree hactive)).2

theorem ghosts_disjoint_orphans : List.Disjoint ((db.ghosts settings hostId).map (·.vni))
    (db.orphanVnis settings hostId inventory) ↔
      ∀ c ∈ db.clusters.rows, settings.isTreeCluster c = true → c.vni ∉ db.orphanVnis settings hostId inventory := by
  constructor
  · intro hghost c hc htree horphan
    by_cases hactive : db.memberIn hostId .active c = true
    · exact orphans_disjoint (mem_map_of_mem (mem_filter.mpr ⟨hc, hactive⟩)) horphan
    · exact hghost (mem_map_of_mem (mem_ghosts hc htree hactive)) horphan
  · intro htree v hv horphan
    obtain ⟨c, hc, rfl⟩ := mem_map.mp hv
    obtain ⟨hmem, hghost⟩ := mem_filter.mp hc
    exact htree c hmem (Bool.and_elim_left hghost) horphan

theorem orphans_eq (db : Db) (hostId : HostId) (inv : HostInventory) :
    (inv.clusters.filter fun o =>
      o.vni ∉ (db.listActiveHostClusters hostId).map (·.cluster.vni) ++
        (db.listPendingClusterTombstones hostId).map (·.vni) ∧
      o.vni ∉ (db.listPendingClusterTombstones hostId).map (·.vni)) = db.orphans hostId inv := by
  have hactive : (db.listActiveHostClusters hostId).map (·.cluster.vni) = db.vnisIn hostId .active := by
    rw [Db.vnisIn, ← Db.listActiveHostClusters_clusters, map_map]
    rfl
  refine filter_congr fun o _ => decide_eq_decide.mpr ?_
  rw [hactive, Db.listPendingClusterTombstones_vnis, mem_append]
  simp only [mem_map, mem_filter, Db.memberIn, any_eq_true, decide_eq_true_eq]
  constructor
  · rintro ⟨htracked, _⟩ ⟨c, hc, heq, hm, hhm, hcluster, hhost⟩
    refine htracked ?_
    cases hstate : hm.state with
    | active => exact .inl ⟨c, ⟨hc, hm, hhm, hcluster, hhost, hstate⟩, heq⟩
    | pendingTeardown => exact .inr ⟨c, ⟨hc, hm, hhm, hcluster, hhost, hstate⟩, heq⟩
  · intro huntracked
    have hnone : ∀ state, ¬∃ c, (c ∈ db.clusters.rows ∧ ∃ hm ∈ db.hostClusters.rows,
        hm.clusterId = c.id ∧ hm.hostId = hostId ∧ hm.state = state) ∧ c.vni = o.vni := by
      rintro state ⟨c, ⟨hc, hm, hhm, hcluster, hhost, _⟩, heq⟩
      exact huntracked ⟨c, hc, heq, hm, hhm, hcluster, hhost⟩
    exact ⟨not_or.mpr ⟨hnone _, hnone _⟩, hnone _⟩

/-- The VNIs of a command, as selections from `clusters` and the reported orphans. -/
theorem eval_commandFor {s : Shared} {cmd : ReconcileHostCommand}
    (h : ((commandFor settings hostId inventory).eval Op.exec s).2 = .ok cmd) :
    cmd.clusters.map (·.vni) = s.db.vnisIn hostId .active ++ (s.db.ghosts settings hostId).map (·.vni) ∧
      cmd.clusterTombstones.map (·.vni) =
        s.db.vnisIn hostId .pendingTeardown ++ s.db.orphanVnis settings hostId inventory := by
  obtain ⟨hstate, hbuilt⟩ := eval_buildReconcileCommand settings hostId s
  unfold commandFor at h
  rw [eval_bind] at h
  generalize (buildReconcileCommand settings hostId).eval Op.exec s = out at hstate hbuilt h
  obtain ⟨s', built⟩ := out
  obtain ⟨owners, rfl⟩ := hstate
  cases built with
  | error e => cases h
  | ok built =>
    have hlists := hbuilt built rfl
    have hpending := hlists.clusterTombstones ▸ s.db.listPendingClusterTombstones_vnis hostId
    cases inventory with
    | none =>
      cases h
      have hnone : s.db.orphanVnis settings hostId none = [] := by
        unfold Db.orphanVnis
        split <;> rfl
      exact ⟨hlists.clusters, by rw [hpending, hnone, append_nil]⟩
    | some inv =>
      dsimp only at h
      rw [eval_bind] at h
      obtain ⟨orphanVmIds, hextended⟩ := eval_extendWithOrphanTombstones settings hostId inv built
        { s with db := { s.db with clusterLanVipOwners := owners } }
      rw [hextended] at h
      cases h
      unfold Db.orphanVnis
      split
      · refine ⟨hlists.clusters, ?_⟩
        rw [map_append, map_map, hlists.clusterTombstones]
        exact congrArg₂ (· ++ ·) (s.db.listPendingClusterTombstones_vnis hostId)
          (congrArg (List.map (·.vni)) (orphans_eq s.db hostId inv))
      · exact ⟨hlists.clusters, by rw [hpending, append_nil]⟩

/-- **A command is consistent iff** no tree-scoped cluster is one the host is leaving, and what the inventory
    adds is neither repeated nor tree-scoped. -/
theorem command_consistent_iff (settings : Settings) (hostId : HostId) (inventory : Option HostInventory)
    (s : Shared) (cmd : ReconcileHostCommand)
    (h : ((commandFor settings hostId inventory).eval Op.exec s).2 = .ok cmd) :
    cmd.Consistent ↔ s.db.Unambiguous settings hostId inventory := by
  obtain ⟨hclusters, htombstones⟩ := eval_commandFor h
  unfold ReconcileHostCommand.Consistent
  rw [hclusters, htombstones]
  have hcarried : List.Disjoint (s.db.vnisIn hostId .active) ((s.db.ghosts settings hostId).map (·.vni)) := by
    refine selected_disjoint.mpr fun c _ hactive => ?_
    rw [hactive, Bool.not_true, Bool.and_false]
  have hnames : (∀ v ∈ s.db.vnisIn hostId .active ++ (s.db.ghosts settings hostId).map (·.vni),
        v ∉ s.db.vnisIn hostId .pendingTeardown ++ s.db.orphanVnis settings hostId inventory) ↔
      List.Disjoint ((s.db.ghosts settings hostId).map (·.vni))
        (s.db.vnisIn hostId .pendingTeardown ++ s.db.orphanVnis settings hostId inventory) := by
    refine disjoint_append_left.trans (and_iff_right (disjoint_append_right.mpr ⟨?_, orphans_disjoint⟩))
    exact selected_disjoint.mpr fun c _ hactive => Db.not_leaving_of_active hactive
  rw [hnames, disjoint_append_right, ghosts_disjoint_leaving, ghosts_disjoint_orphans, nodup_append', nodup_append']
  constructor
  · rintro ⟨_, ⟨_, hnodup, _⟩, hleave, hreport⟩
    exact ⟨hleave, hnodup, hreport⟩
  · rintro ⟨hleave, hnodup, hreport⟩
    exact ⟨⟨selected_nodup, selected_nodup, hcarried⟩, ⟨selected_nodup, hnodup, orphans_disjoint⟩, hleave, hreport⟩

/-! ### A tree cluster -/

/-- A cell with a tree-scoped pool beside the LAN pool. -/
def treeCell : Settings where
  network :=
    { smallCell.network with pools := [{ name := "lan", cidr := ⟨3232235776, 28⟩ },
                                       { name := "tree", cidr := ⟨3232236032, 28⟩, scope := .tree }] }
  autoReconcileOrphanInventory := true

/-- A cluster with its VIP in a pool, and hosts with addresses on its bridge and memberships in the given states. -/
def clusterOn (pool : String) (vip : Ipv4Addr) (members : List (HostId × Ipv4Addr × MembershipState)) : Shared :=
  Shared.boot { Db.create id with
    hosts := .ofList (members.map fun m =>
      { id := m.1, hostname := m.1, totalCpu := 8, totalMemoryMib := 16384, lastHeartbeat := 0 })
    clusters := .ofList [{ id := "c0", name := "alpha", vni := 10000, cidr := ⟨167772160, 24⟩
                           bridgeRange := ⟨167772161, 167772164⟩, vmRange := ⟨167772165, 167772414⟩
                           prefixLen := 24, controlPlaneEndpoint := vip, externalPool := pool }]
    hostClusters := .ofList (members.map fun m => ⟨"c0", m.1, m.2.1, m.2.2⟩) }

/-- One host in one cluster of the tree pool. -/
def treeMember (state : MembershipState) : Shared := clusterOn "tree" 3232236033 [("h1", 167772161, state)]

theorem command_consistent_member :
    ∃ cmd, ((commandFor treeCell "h1" (some ⟨[], [⟨10000, "10.0.0.0/24"⟩]⟩)).eval Op.exec (treeMember .active)).2
        = .ok cmd ∧
      (cmd.Consistent ↔
        (treeMember .active).db.Unambiguous treeCell "h1" (some ⟨[], [⟨10000, "10.0.0.0/24"⟩]⟩)) :=
  ⟨_, rfl, command_consistent_iff treeCell "h1" _ (treeMember .active) _ rfl⟩

/-- While the host leaves the cluster, one command lists its VNI to be kept and to be torn down. -/
theorem leaving_tree_cluster_named_twice :
    ∃ cmd, ((commandFor treeCell "h1" none).eval Op.exec (treeMember .pendingTeardown)).2 = .ok cmd ∧
      cmd.clusters.map (·.vni) = [10000] ∧ cmd.clusterTombstones.map (·.vni) = [10000] ∧ ¬cmd.Consistent :=
  ⟨_, rfl, by decide +kernel⟩

end Consistency

/-! ## Registration with the orphan switch off -/

/-- The tables that a registration is not to touch. -/
structure Db.Frozen (db db' : Db) : Prop where
  vms : db'.vms = db.vms
  hostClusters : db'.hostClusters = db.hostClusters
  clusters : db'.clusters = db.clusters
  ipAllocations : db'.ipAllocations = db.ipAllocations
  vmGpus : db'.vmGpus = db.vmGpus

theorem Db.Frozen.refl (db : Db) : db.Frozen db := ⟨rfl, rfl, rfl, rfl, rfl⟩

theorem Db.Frozen.trans {db db' db'' : Db} (h : db.Frozen db') (h' : db'.Frozen db'') : db.Frozen db'' :=
  ⟨h'.vms.trans h.vms, h'.hostClusters.trans h.hostClusters, h'.clusters.trans h.clusters,
    h'.ipAllocations.trans h.ipAllocations, h'.vmGpus.trans h.vmGpus⟩

theorem Shared.Elected.frozen {s s' : Shared} (h : s.Elected s') : s.db.Frozen s'.db := by
  obtain ⟨owners, rfl⟩ := h
  exact ⟨rfl, rfl, rfl, rfl, rfl⟩

/-- The tombstones of a command are the host's pending rows. -/
structure ReconcileHostCommand.BackedBy (cmd : ReconcileHostCommand) (db : Db) (hostId : HostId) : Prop where
  vms : ∀ v, v ∈ cmd.vmTombstones ↔
    ∃ row ∈ db.vms.rows, row.id = v ∧ row.hostId = hostId ∧ row.state = .pendingTeardown
  clusters : ∀ t, t ∈ cmd.clusterTombstones ↔ ∃ c ∈ db.clusters.rows, t = ⟨c.vni, c.id, c.cidr.text⟩ ∧
    ∃ hc ∈ db.hostClusters.rows, hc.clusterId = c.id ∧ hc.hostId = hostId ∧ hc.state = .pendingTeardown

/-- The channel carries this command first. -/
def Shared.SentFirst (s : Shared) (channel : Nat) (cmd : ControllerCommand) : Prop :=
  ∃ ch rest, s.channels[channel]? = some ch ∧ ch.sent = cmd :: rest

section Registration

variable {settings : Settings} {hostId : HostId}

theorem ReconcileHostCommand.Lists.backedBy {db : Db} {cmd : ReconcileHostCommand} (h : cmd.Lists settings hostId db) :
    cmd.BackedBy db hostId where
  vms v := by
    rw [h.vmTombstones, Db.listPendingVmTombstones]
    simp only [mem_map, mem_filter, decide_eq_true_eq]
    exact ⟨fun ⟨row, ⟨hrow, hhost, hstate⟩, hid⟩ => ⟨row, hrow, hid, hhost, hstate⟩,
      fun ⟨row, hrow, hid, hhost, hstate⟩ => ⟨row, ⟨hrow, hhost, hstate⟩, hid⟩⟩
  clusters t := by
    rw [h.clusterTombstones, Db.listPendingClusterTombstones, mem_filterMap]
    refine exists_congr fun c => and_congr_right fun _ => ?_
    rw [Option.ite_none_right_eq_some, any_eq_true, and_comm, Option.some.injEq]
    exact and_congr eq_comm (exists_congr fun hc => and_congr_right fun _ => decide_eq_true_iff)

theorem ReconcileHostCommand.BackedBy.of_frozen {db db' : Db} {cmd : ReconcileHostCommand}
    (h : cmd.BackedBy db' hostId) (hfrozen : db.Frozen db') : cmd.BackedBy db hostId where
  vms := by
    rw [← hfrozen.vms]
    exact h.vms
  clusters := by
    rw [← hfrozen.clusters, ← hfrozen.hostClusters]
    exact h.clusters

/-- With the switch off the reaping pass only reads. -/
theorem eval_reapDbOrphansFromInventory (hoff : settings.autoReconcileOrphanInventory = false)
    (inventory : HostInventory) (s : Shared) :
    (reapDbOrphansFromInventory settings hostId inventory).eval Op.exec s = (s, .ok ()) := by
  unfold reapDbOrphansFromInventory
  rw [Handler.eval_query, Handler.eval_query]
  dsimp only
  rw [hoff]
  rfl

/-- The first command of a registration with the switch off, whatever was reported. -/
theorem eval_initialState (hoff : settings.autoReconcileOrphanInventory = false) (register : RegisterHostRequest)
    (s : Shared) :
    Elects s (fun cmd => cmd.BackedBy s.db hostId) ((initialState settings register hostId).eval Op.exec s) := by
  have hextend : ∀ inv cmd s', (extendWithOrphanTombstones settings hostId inv cmd).eval Op.exec s' = (s', cmd) := by
    intro inv cmd s'
    obtain ⟨_, hextended⟩ := eval_extendWithOrphanTombstones settings hostId inv cmd s'
    rw [hextended, hoff]
    rfl
  unfold initialState
  refine eval_seq (eval_buildReconcileCommand settings hostId s) fun s' built hbuilt => ?_
  obtain ⟨⟨owners, rfl⟩, hbuilt⟩ := hbuilt
  cases built with
  | error e => exact ⟨⟨owners, rfl⟩, nofun⟩
  | ok cmd =>
    cases register.currentInventory with
    | none => exact ⟨⟨owners, rfl⟩, fun cmd' h => Except.ok.inj h ▸ (hbuilt cmd rfl).backedBy⟩
    | some inventory =>
      dsimp only
      rw [eval_bind, hextend, eval_bind, eval_reapDbOrphansFromInventory hoff]
      dsimp only
      refine eval_seq (eval_buildReconcileCommand settings hostId _) fun s' rebuilt hrebuilt => ?_
      obtain ⟨⟨owners', rfl⟩, hrebuilt⟩ := hrebuilt
      cases rebuilt with
      | error e => exact ⟨⟨owners', rfl⟩, nofun⟩
      | ok cmd' =>
        dsimp only
        rw [eval_bind, hextend]
        refine ⟨⟨owners', rfl⟩, fun cmd'' h => ?_⟩
        cases h
        exact (hrebuilt cmd' rfl).backedBy.of_frozen ⟨rfl, rfl, rfl, rfl, rfl⟩

theorem eval_registerOrLookupHost (register : RegisterHostRequest) (newId : HostId) (now : Nat) (s : Shared) :
    s.db.Frozen ((registerOrLookupHost register newId now).eval Op.exec s).1.db := by
  have hupsert : ∀ host, s.db.Frozen ((Write.upsertHost host).exec s.db).1 := by
    intro host
    refine Write.exec_elim (.upsertHost host) s.db (.refl _) fun heff => ?_
    cases heff with
    | upsertHost _ => exact ⟨rfl, rfl, rfl, rfl, rfl⟩
  unfold registerOrLookupHost
  rw [Handler.eval_query]
  dsimp only
  rw [Handler.eval_write]
  split <;> exact hupsert _

theorem SentFirst.send {s : Shared} {channel channel' : Nat} {cmd cmd' : ControllerCommand}
    (h : s.SentFirst channel cmd) : ((MemOp.send channel' cmd').exec s).1.SentFirst channel cmd := by
  obtain ⟨ch, rest, hch, hsent⟩ := h
  unfold MemOp.exec
  dsimp only
  split
  · by_cases heq : channel' = channel
    · subst heq
      refine ⟨{ ch with sent := ch.sent ++ [cmd'] }, rest ++ [cmd'], ?_, ?_⟩
      · rw [List.getElem?_modify_eq, hch]
        rfl
      · rw [hsent]
        rfl
    · refine ⟨ch, rest, ?_, hsent⟩
      show (s.channels.modify channel' _)[channel]? = some ch
      rw [List.getElem?_modify_ne _ _ heq, hch]
  · exact ⟨ch, rest, hch, hsent⟩

/-- A registration after its reply: the frozen tables are as they were, and the reply is the first command. -/
structure Replied (db : Db) (channel : Nat) (reply : ControllerCommand) (s : Shared) : Prop where
  frozen : db.Frozen s.db
  first : s.SentFirst channel reply

/-- The outbox replay touches the outbox only, and what a channel carries first stays first. -/
theorem eval_replayOutbox {channel : Nat} {reply : ControllerCommand} {db : Db} :
    ∀ (pending : List (Nat × ControllerCommand)) (s : Shared), Replied db channel reply s →
      Replied db channel reply ((replayOutbox channel pending).eval Op.exec s).1
  | [], s, h => h
  | (id, cmd) :: rest, s, h => by
    have hdb : ((MemOp.send channel cmd).exec s).1.db = s.db := MemOp.exec_db s _
    have hmarked : s.db.Frozen (s.db.markCommandSent id) := ⟨rfl, rfl, rfl, rfl, rfl⟩
    unfold replayOutbox
    rw [Handler.eval_mem]
    split
    · rw [Handler.eval_write]
      refine eval_replayOutbox rest _ ⟨h.frozen.trans ?_, SentFirst.send h.first⟩
      show s.db.Frozen (((MemOp.send channel cmd).exec s).1.db.markCommandSent id)
      rw [hdb]
      exact hmarked
    · refine ⟨?_, SentFirst.send h.first⟩
      show db.Frozen ((MemOp.send channel cmd).exec s).1.db
      rw [hdb]
      exact h.frozen

/-! ### The stream -/

/-- How a registration ends that changes none of the frozen tables and replies with their pending rows. -/
def FreezesReply (settings : Settings) (db : Db) (out : Shared × Except Status Reply) : Prop :=
  db.Frozen out.1.db ∧ ∀ hostId channel, out.2 = .ok (.stream hostId channel) →
    ∃ cmd : ReconcileHostCommand, cmd.BackedBy db hostId ∧
      out.1.SentFirst channel (.registerAck hostId cmd settings.bgp.asn settings.bgp.routerId)

/-- The channel a registration has opened is live, and the first command on it is the reply. -/
theorem sentFirst_of_opened {s s' : Shared} {cmd : ControllerCommand}
    (h : (MemOp.channelOpen.exec s).1.Elected s')
    (hsent : ((MemOp.send s.channels.length cmd).exec s').2 = true) :
    ((MemOp.send s.channels.length cmd).exec s').1.SentFirst s.channels.length cmd := by
  obtain ⟨owners, rfl⟩ := h
  unfold MemOp.exec at hsent ⊢
  dsimp only at hsent ⊢
  split at hsent
  · rename_i hlive
    rw [if_pos hlive]
    refine ⟨{ sent := [cmd] }, [], ?_, rfl⟩
    show ((s.channels ++ [_]).modify s.channels.length _)[s.channels.length]? = _
    rw [List.getElem?_modify_eq, List.getElem?_append_right (le_refl _), Nat.sub_self]
    rfl
  · cases hsent

/-- **A registration with the switch off is a freeze.** Whatever the database holds and whatever the agent
    reports, the reply's tombstones are exactly the host's pending rows, and no row of the five tables is
    created, changed or removed. -/
theorem registration_freeze (settings : Settings) (hoff : settings.autoReconcileOrphanInventory = false)
    (register : RegisterHostRequest) (newHostId : HostId) (now : Nat) (s : Shared) :
    s.db.Frozen ((streamMessages settings register newHostId now).eval Op.exec s).1.db ∧
      ∀ hostId channel,
        ((streamMessages settings register newHostId now).eval Op.exec s).2 = .ok (.stream hostId channel) →
        ∃ cmd : ReconcileHostCommand, cmd.BackedBy s.db hostId ∧
          ((streamMessages settings register newHostId now).eval Op.exec s).1.SentFirst channel
            (.registerAck hostId cmd settings.bgp.asn settings.bgp.routerId) := by
  show FreezesReply settings s.db ((streamMessages settings register newHostId now).eval Op.exec s)
  unfold streamMessages
  refine eval_seq (R := fun out => s.db.Frozen out.1.db) (eval_registerOrLookupHost register newHostId now s)
    fun s₁ registered hregistered => ?_
  cases registered with
  | error e => exact ⟨hregistered, nofun⟩
  | ok hostId =>
    dsimp only
    rw [Handler.eval_mem]
    refine eval_seq (eval_initialState hoff register _) fun s₂ initial hinitial => ?_
    obtain ⟨helected, hbacked⟩ := hinitial
    have hfrozen : s.db.Frozen s₂.db := hregistered.trans helected.frozen
    cases initial with
    | error e => exact ⟨hfrozen, nofun⟩
    | ok cmd =>
      dsimp only
      rw [Handler.eval_mem]
      have hopened := @sentFirst_of_opened _ _ (.registerAck hostId cmd settings.bgp.asn settings.bgp.routerId)
        helected
      have hsentDb := MemOp.exec_db s₂ (.send s₁.channels.length
        (.registerAck hostId cmd settings.bgp.asn settings.bgp.routerId))
      split
      · rename_i hsent
        rw [Handler.eval_mem, Handler.eval_mem, Handler.eval_query]
        refine eval_seq (R := fun out => Replied s.db s₁.channels.length
            (.registerAck hostId cmd settings.bgp.asn settings.bgp.routerId) out.1)
          (eval_replayOutbox _ _ ⟨hsentDb.symm ▸ hfrozen, hopened hsent⟩) fun s₃ _ hreplied => ?_
        refine ⟨hreplied.frozen, fun host channel h => ?_⟩
        cases h
        exact ⟨cmd, (hbacked cmd rfl).of_frozen hregistered, hreplied.first⟩
      · exact ⟨hsentDb.symm ▸ hfrozen, nofun⟩

theorem registration_freeze_treeCell :
    let settings := { treeCell with autoReconcileOrphanInventory := false }
    let register : RegisterHostRequest :=
      { hostname := "h1", totalCpu := 8, totalMemoryMib := 16384
        currentInventory := some ⟨["stray"], [⟨10009, "10.0.9.0/24"⟩]⟩ }
    let out := (streamMessages settings register "h2" 5).eval Op.exec (treeMember .pendingTeardown)
    settings.autoReconcileOrphanInventory = false ∧ out.2 = .ok (.stream "h1" 0) ∧
      ∃ cmd : ReconcileHostCommand, cmd.BackedBy (treeMember .pendingTeardown).db "h1" ∧
        out.1.SentFirst 0 (.registerAck "h1" cmd settings.bgp.asn settings.bgp.routerId) :=
  ⟨rfl, by decide +kernel, (registration_freeze _ rfl _ "h2" 5 (treeMember .pendingTeardown)).2 "h1" 0
    (by decide +kernel)⟩

end Registration

end BasisCell
