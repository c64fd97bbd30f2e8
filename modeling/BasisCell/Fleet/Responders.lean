import BasisCell.Lib.Fallible
import BasisCell.Lib.Steady
import BasisCell.Controller.Election
import BasisCell.Controller.Reconcile
import BasisCell.Agent.Node

/-!
# `BasisCell.Fleet.Responders` — who answers ARP for the LAN VIPs

Every host gets its own reconcile command, and every command elects the owners of the LAN VIPs anew, from the
`cluster_lan_vip_owner` row that an earlier election may have written. While nothing else changes, an election only
writes the owner that it and all others arrive at: `SameElections` is kept by every statement of a builder, so the
builders are `Steady`, and what they return is a function of the database (`Db.commandOf`) whatever the
interleaving. An agent answers for the addresses whose owner it is, so the addresses of a cluster have one responder.
-/

namespace BasisCell

open Conc Conc.Prog Relational Table List

/-! ## Elections and commands as functions of the database -/

namespace Db

/-- The outcome of an election: the recorded owner while it is a carrier, else the first carrier. -/
def lanResponder (db : Db) (clusterId : ClusterId) : HostId :=
  match (db.lanVipOwner clusterId).filter (· ∈ db.listActiveCarriers clusterId) with
  | some owner => owner
  | none => (db.listActiveCarriers clusterId).headD ""

/-- A carried cluster as every command for the host names it. -/
def carriedOf (settings : Settings) (db : Db) (m : HostClusterMembership) : Except DbError ClusterState :=
  match clusterVisibility m.cluster, clusterPool settings m.cluster with
  | .error e, _ => .error e
  | _, .error e => .error e
  | .ok visibility, .ok pool =>
    let vips := classifyClusterVips m.cluster visibility pool (db.lanResponder m.cluster.id)
    .ok
      { clusterId := m.cluster.id, vni := m.cluster.vni, cidr := m.cluster.cidr.text
        gatewayIp := m.bridgeIp.text, prefixLen := m.cluster.prefixLen
        vtepAddresses := db.listClusterVteps m.cluster.id, trustDomain := m.cluster.trustDomain
        clusterVips := vips.1, internalClusterVips := vips.2 }

/-- A cluster that the host does not carry. -/
def ghostOf (settings : Settings) (db : Db) (c : ClusterRow) : Except DbError (Option ClusterState) :=
  match clusterPool settings c with
  | .error e => .error e
  | .ok pool =>
    if pool.isTree then
      match clusterVisibility c with
      | .error e => .error e
      | .ok visibility => .ok (some
          { clusterId := c.id, vni := c.vni, cidr := c.cidr.text
            vtepAddresses := db.listClusterVteps c.id, trustDomain := c.trustDomain
            internalClusterVips := (classifyClusterVips c visibility pool "").2 })
    else .ok none

def commandOf (settings : Settings) (db : Db) (hostId : HostId) : Except DbError ReconcileHostCommand :=
  match (db.listActiveHostClusters hostId).mapM (carriedOf settings db) with
  | .error e => .error e
  | .ok carried =>
    match (db.clusters.rows.filter fun c => c.id ∉ (db.listActiveHostClusters hostId).map (·.cluster.id)).mapM
        (ghostOf settings db) with
    | .error e => .error e
    | .ok ghosts => .ok
      { clusters := carried ++ ghosts.reduceOption
        clusterTombstones := db.listPendingClusterTombstones hostId
        vmTombstones := db.listPendingVmTombstones hostId }

/-- Nothing but the table of VIP owners differs, and every election has the outcome that it had. -/
structure SameElections (db₀ db : Db) : Prop where
  tables : ∃ owners, db = { db₀ with clusterLanVipOwners := owners }
  outcomes : ∀ clusterId, db.lanResponder clusterId = db₀.lanResponder clusterId

section Elections

variable {db₀ db db' : Db} {clusterId : ClusterId} {hostId : HostId}

theorem SameElections.refl (db : Db) : db.SameElections db := ⟨⟨_, rfl⟩, fun _ => rfl⟩

theorem lanResponder_of_kept
    (h : (db.lanVipOwner clusterId).filter (· ∈ db.listActiveCarriers clusterId) = some hostId) :
    db.lanResponder clusterId = hostId := by
  unfold lanResponder
  rw [h]

/-- **An election elects a healthy carrier** if there is one. -/
theorem carries_lanResponder (h : db.Carries clusterId hostId) : db.Carries clusterId (db.lanResponder clusterId) := by
  have hcarrier : hostId ∈ db.listActiveCarriers clusterId := mem_listActiveCarriers.mpr h
  rw [← mem_listActiveCarriers]
  unfold lanResponder
  split
  · rename_i owner howner
    simpa using (Option.filter_eq_some_iff.mp howner).2
  · cases hlist : db.listActiveCarriers clusterId with
    | nil =>
      rw [hlist] at hcarrier
      cases hcarrier
    | cons first rest => exact mem_cons_self

/-- Without a carrier the owner is the empty id. -/
theorem lanResponder_of_none (h : ¬∃ hostId, db.Carries clusterId hostId) : db.lanResponder clusterId = "" := by
  have hlist : db.listActiveCarriers clusterId = [] :=
    eq_nil_iff_forall_not_mem.mpr fun hostId hmem => h ⟨hostId, mem_listActiveCarriers.mp hmem⟩
  unfold lanResponder
  rw [hlist]
  split
  · rename_i owner howner
    simpa using (Option.filter_eq_some_iff.mp howner).2
  · rfl

theorem setLanVipOwner_of_cluster (h : ∃ c ∈ db.clusters.rows, c.id = clusterId) :
    ∃ owners, db.setLanVipOwner clusterId hostId = .ok { db with clusterLanVipOwners := owners } ∧
      ∀ o : ClusterLanVipOwner, o ∈ owners.rows ↔
        (o ∈ db.clusterLanVipOwners.rows ∧ o.clusterId ≠ clusterId) ∨ o = ⟨clusterId, hostId⟩ := by
  have hthere : (db.clusters.rows.any fun c => c.id = clusterId) = true := by simpa using h
  have hfits : ((db.clusterLanVipOwners.delete fun o => o.clusterId = clusterId).insert
      ⟨clusterId, hostId⟩).isSome = true := by
    refine insert_isSome_iff.mpr fun o ho hclash => ?_
    have hother := (mem_delete.mp ho).2
    exact of_decide_eq_false hother hclash
  obtain ⟨owners, howners⟩ := Option.isSome_iff_exists.mp hfits
  refine ⟨owners, ?_, fun o => ?_⟩
  · unfold setLanVipOwner
    rw [if_pos hthere, howners]
  · rw [mem_insert howners, mem_delete, decide_eq_false_iff_not]

/-- An election that has to elect anew writes what every other election arrives at. -/
theorem SameElections.elect (h : db₀.SameElections db) (hthere : ∃ c ∈ db₀.clusters.rows, c.id = clusterId)
    (hcarrier : db₀.lanResponder clusterId ∈ db₀.listActiveCarriers clusterId) :
    ∃ db', db.setLanVipOwner clusterId (db₀.lanResponder clusterId) = .ok db' ∧ db₀.SameElections db' := by
  obtain ⟨⟨owners, rfl⟩, houtcomes⟩ := h
  have hthere : ∃ c ∈ Db.clusters { db₀ with clusterLanVipOwners := owners } |>.rows, c.id = clusterId := hthere
  obtain ⟨owners', hset, hrows⟩ := setLanVipOwner_of_cluster hthere
  refine ⟨_, hset, ⟨owners', rfl⟩, fun cid => ?_⟩
  by_cases hcid : cid = clusterId
  · subst hcid
    have howner : lanVipOwner { db₀ with clusterLanVipOwners := owners' } cid = some (db₀.lanResponder cid) :=
      lanVipOwner_eq_some.mpr ((hrows _).mpr (.inr rfl))
    refine lanResponder_of_kept ?_
    rw [howner]
    exact Option.filter_eq_some_iff.mpr ⟨rfl, decide_eq_true hcarrier⟩
  · -- the rows of other clusters are as they were
    have hsame : lanVipOwner { db₀ with clusterLanVipOwners := owners' } cid =
        lanVipOwner { db₀ with clusterLanVipOwners := owners } cid := by
      refine Option.ext fun o => ?_
      rw [lanVipOwner_eq_some, lanVipOwner_eq_some, hrows]
      simp [hcid]
    have hsplit : lanResponder { db₀ with clusterLanVipOwners := owners' } cid =
        lanResponder { db₀ with clusterLanVipOwners := owners } cid := by
      unfold lanResponder
      rw [hsame]
      rfl
    rw [hsplit]
    exact houtcomes cid

end Elections

end Db

/-! ## Builders in company -/

section Builders

variable {settings : Settings} {db₀ : Db}

/-- What builders keep of the database. -/
abbrev Undisturbed (db₀ : Db) (s : Shared) : Prop := db₀.SameElections s.db

theorem steady_query {α : Type} {q : Query} {f : q.Result → Handler α} {Q : α → Prop}
    (h : ∀ s, Undisturbed db₀ s → (f (q.eval s.db)).Steady Op.exec anyOp (Undisturbed db₀) Q) :
    (Handler.query q >>= f).Steady Op.exec anyOp (Undisturbed db₀) Q :=
  fun s hs _ => ⟨⟨trivial, hs⟩, h s hs⟩

/-- A query that does not read the owners. -/
theorem steady_read {α : Type} {q : Query} {f : q.Result → Handler α} {Q : α → Prop}
    (hq : ∀ owners, q.eval { db₀ with clusterLanVipOwners := owners } = q.eval db₀)
    (h : (f (q.eval db₀)).Steady Op.exec anyOp (Undisturbed db₀) Q) :
    (Handler.query q >>= f).Steady Op.exec anyOp (Undisturbed db₀) Q := by
  refine steady_query fun s hs => ?_
  obtain ⟨owners, hdb⟩ := hs.tables
  rwa [hdb, hq]

theorem steady_electLanVipOwner {clusterId : ClusterId} (hthere : ∃ c ∈ db₀.clusters.rows, c.id = clusterId) :
    (electLanVipOwner clusterId (db₀.listActiveCarriers clusterId)).Steady Op.exec anyOp (Undisturbed db₀)
      (· = .ok (db₀.lanResponder clusterId)) := by
  unfold electLanVipOwner
  refine steady_query fun s hs => ?_
  obtain ⟨owners, hdb⟩ := hs.tables
  have hcarriers : s.db.listActiveCarriers clusterId = db₀.listActiveCarriers clusterId := by
    rw [hdb]
    rfl
  have houtcome := hs.outcomes clusterId
  show Steady Op.exec anyOp (Undisturbed db₀) _ (match (s.db.lanVipOwner clusterId).filter _ with
    | some owner => _
    | none => _)
  rw [← hcarriers]
  cases hkept : (s.db.lanVipOwner clusterId).filter (· ∈ s.db.listActiveCarriers clusterId) with
  | some owner =>
    -- the recorded owner is a carrier, and no election of this state replaces it
    refine steady_pure ?_
    rw [← houtcome, Db.lanResponder_of_kept hkept]
  | none =>
    rw [Db.lanResponder, hkept] at houtcome
    cases hfirst : s.db.listActiveCarriers clusterId with
    | nil =>
      rw [hfirst] at houtcome
      refine steady_pure ?_
      rw [← houtcome]
      rfl
    | cons first rest =>
      rw [hfirst] at houtcome
      have hnew : first = db₀.lanResponder clusterId := houtcome
      intro s' hs' _
      obtain ⟨db', hset, hdb'⟩ := hs'.elect hthere (by rw [← hcarriers, hfirst, ← hnew]; exact mem_cons_self)
      have hop : Op.exec (.write (.setLanVipOwner clusterId first)) s' = ({ s' with db := db' }, .ok ()) := by
        simp only [Op.exec, Write.exec, Write.apply, hnew, hset]
        rfl
      rw [hop]
      refine ⟨⟨trivial, hdb'⟩, ?_⟩
      rw [hnew]
      exact steady_pure rfl

theorem steady_carriedState (m : HostClusterMembership) (hthere : m.cluster ∈ db₀.clusters.rows) :
    (carriedState settings m).Steady Op.exec anyOp (Undisturbed db₀) (· = db₀.carriedOf settings m) := by
  unfold carriedState Db.carriedOf
  dsimp only
  cases clusterVisibility m.cluster with
  | error e => exact steady_pure rfl
  | ok visibility =>
    cases clusterPool settings m.cluster with
    | error e => exact steady_pure rfl
    | ok pool =>
      refine steady_read (fun _ => rfl) ?_
      refine (steady_electLanVipOwner ⟨m.cluster, hthere, rfl⟩).bind fun elected helected => ?_
      subst helected
      exact steady_read (fun _ => rfl) (steady_pure rfl)

theorem steady_ghostState (c : ClusterRow) :
    (ghostState settings c).Steady Op.exec anyOp (Undisturbed db₀) (· = db₀.ghostOf settings c) := by
  unfold ghostState Db.ghostOf
  cases clusterPool settings c with
  | error e => exact steady_pure rfl
  | ok pool =>
    dsimp only
    by_cases htree : pool.isTree = true
    · rw [if_pos htree, if_pos htree]
      cases clusterVisibility c with
      | error e => exact steady_pure rfl
      | ok visibility =>
        exact steady_read (fun _ => rfl) (steady_pure rfl)
    · rw [if_neg htree, if_neg htree]
      exact steady_pure rfl

theorem Db.mem_listActive {db : Db} {hostId : HostId} {m : HostClusterMembership}
    (h : m ∈ db.listActiveHostClusters hostId) :
    m.cluster ∈ db.clusters.rows ∧ db.memberIn hostId .active m.cluster = true := by
  have hmem : m.cluster ∈ (db.listActiveHostClusters hostId).map (·.cluster) := mem_map_of_mem h
  rw [listActiveHostClusters_clusters] at hmem
  exact mem_filter.mp hmem

/-- **What a builder returns is a function of the database**, whatever other builders do meanwhile. -/
theorem steady_buildReconcileCommand (hostId : HostId) :
    (buildReconcileCommand settings hostId).Steady Op.exec anyOp (Undisturbed db₀)
      (· = db₀.commandOf settings hostId) := by
  unfold buildReconcileCommand Db.commandOf
  refine steady_read (fun _ => rfl) ?_
  dsimp only [Query.eval]
  refine (steady_mapEach fun m hm => steady_carriedState m (Db.mem_listActive hm).1).bind fun carried hcarried => ?_
  subst hcarried
  cases (db₀.listActiveHostClusters hostId).mapM (db₀.carriedOf settings) with
  | error e => exact steady_pure rfl
  | ok carried =>
    refine steady_read (fun _ => rfl) ?_
    refine (steady_mapEach fun c _ => steady_ghostState c).bind fun ghosts hghosts => ?_
    subst hghosts
    dsimp only [Query.eval, Db.listClusters]
    cases (db₀.clusters.rows.filter fun c => c.id ∉ (db₀.listActiveHostClusters hostId).map (·.cluster.id)).mapM
        (db₀.ghostOf settings) with
    | error e => exact steady_pure rfl
    | ok ghosts =>
      refine steady_read (fun _ => rfl) (steady_read (fun _ => rfl) ?_)
      exact steady_pure rfl

end Builders

/-- Builders of reconcile commands and nothing else; a task's tag is the host it builds for. -/
def builders (settings : Settings) : Machine HostId Op Op.Resp Shared (Except DbError ReconcileHostCommand) where
  exec := Op.exec
  body := buildReconcileCommand settings
  fresh := fun _ _ => true
  reboot := Shared.restart

abbrev Builders := Config HostId Op Op.Resp Shared (Except DbError ReconcileHostCommand)

/-- The build of a command for the host has ended with this result. -/
def Builders.Returned (c : Builders) (hostId : HostId) (r : Except DbError ReconcileHostCommand) : Prop :=
  ⟨hostId, .ret r⟩ ∈ c.tasks

/-- **All interleavings of builders return the same commands.** -/
theorem commands_of_run {settings : Settings} {s₀ : Shared} {es : List (Event HostId)} {c : Builders}
    (hrun : (builders settings).run ⟨s₀, [], []⟩ es = some c) {hostId : HostId}
    {r : Except DbError ReconcileHostCommand} (h : c.Returned hostId r) : r = s₀.db.commandOf settings hostId := by
  have hstart : (builders settings).SteadyPool (fun _ => anyOp) (Undisturbed s₀.db)
      (fun hostId r => r = s₀.db.commandOf settings hostId) ⟨s₀, [], []⟩ :=
    ⟨.refl s₀.db, fun task htask => nomatch htask⟩
  have hpool := Machine.steady_run (fun hostId => steady_buildReconcileCommand hostId) (fun _ hs => hs) hstart
    (Transition.along_of_forall fun _ _ _ _ _ => trivial) hrun
  exact hpool.tasks _ h

/-! ## What a command says about LAN VIPs -/

/-- The prefixes of a cluster that hosts answer for on the LAN: its VIP if the apiserver is public, and its service
    block, unless its pool is tree-scoped. -/
def Settings.lanVips (settings : Settings) (c : ClusterRow) : List Ipv4Net :=
  if settings.isTreeCluster c then [] else
    (if ApiserverVisibility.tryFrom c.apiserverVisibility = some .apiserverPublic then
      [⟨c.controlPlaneEndpoint, 32⟩] else []) ++ c.serviceBlockCidr.toList

namespace Db

section Commands

variable {settings : Settings} {db : Db} {hostId : HostId} {cmd : ReconcileHostCommand} {st : ClusterState}
variable {m : HostClusterMembership}

/-- A carried cluster: its LAN VIPs, all with the elected owner. -/
theorem carriedOf_ok (h : db.carriedOf settings m = .ok st) :
    st.clusterId = m.cluster.id ∧ st.vni = m.cluster.vni ∧
      st.clusterVips = (settings.lanVips m.cluster).map fun n => ⟨n.text, db.lanResponder m.cluster.id⟩ := by
  unfold carriedOf clusterVisibility clusterPool at h
  unfold Settings.lanVips Settings.isTreeCluster
  cases hvisible : ApiserverVisibility.tryFrom m.cluster.apiserverVisibility <;>
    cases hpool : settings.network.poolByName m.cluster.externalPool <;> rw [hvisible, hpool] at h <;> cases h
  rename_i visibility pool
  refine ⟨rfl, rfl, ?_⟩
  dsimp only [classifyClusterVips, Option.any]
  by_cases htree : pool.isTree = true
  · rw [if_pos htree, if_pos htree]
    rfl
  · rw [if_neg htree, if_neg htree, map_append]
    cases visibility <;> cases m.cluster.serviceBlockCidr <;> simp [Ipv4Net.text_host]

theorem ghostOf_ok {c : ClusterRow} (h : db.ghostOf settings c = .ok (some st)) : st.clusterVips = [] := by
  unfold ghostOf at h
  repeat' split at h
  all_goals cases h
  rfl

variable (h : db.commandOf settings hostId = .ok cmd)

include h

theorem commandOf_ok : ∃ carried ghosts,
    (db.listActiveHostClusters hostId).mapM (db.carriedOf settings) = .ok carried ∧
    (db.clusters.rows.filter fun c => c.id ∉ (db.listActiveHostClusters hostId).map (·.cluster.id)).mapM
      (db.ghostOf settings) = .ok ghosts ∧ cmd.clusters = carried ++ ghosts.reduceOption := by
  unfold commandOf at h
  repeat' split at h
  all_goals cases h
  rename_i carried hcarried _ ghosts hghosts
  exact ⟨carried, ghosts, hcarried, hghosts, rfl⟩

/-- An entry with a LAN VIP is that of a carried cluster. -/
theorem carried_of_vip (hst : st ∈ cmd.clusters)
    {vip : ClusterVip} (hvip : vip ∈ st.clusterVips) :
    ∃ m ∈ db.listActiveHostClusters hostId, db.carriedOf settings m = .ok st := by
  obtain ⟨carried, ghosts, hcarried, hghosts, hclusters⟩ := commandOf_ok h
  rw [hclusters, mem_append, reduceOption_mem_iff] at hst
  rcases hst with hst | hst
  · exact Fallible.mem_of_mapM hcarried st hst
  · obtain ⟨c, -, hghost⟩ := Fallible.mem_of_mapM hghosts _ hst
    rw [ghostOf_ok hghost] at hvip
    cases hvip

theorem carried_listed (hm : m ∈ db.listActiveHostClusters hostId) :
    ∃ st ∈ cmd.clusters, db.carriedOf settings m = .ok st := by
  obtain ⟨carried, ghosts, hcarried, hghosts, hclusters⟩ := commandOf_ok h
  obtain ⟨st, hst, hof⟩ := Fallible.mapM_of_mem hcarried m hm
  refine ⟨st, ?_, hof⟩
  rw [hclusters]
  exact mem_append_left _ hst

/-- The function and the builder agree, so what the builder lists is what the function lists. -/
theorem lists_of_commandOf : cmd.Lists settings hostId db := by
  have hsteady : (buildReconcileCommand settings hostId).Steady Op.exec anyOp (Undisturbed db)
      (· = db.commandOf settings hostId) := steady_buildReconcileCommand hostId
  have halone := hsteady.eval (s := Shared.boot db) (.refl db)
  exact (eval_buildReconcileCommand settings hostId (Shared.boot db)).2 cmd (halone.trans h)

theorem commandOf_nodup : (cmd.clusters.map (·.vni)).Nodup := by
  rw [(lists_of_commandOf h).clusters, nodup_append']
  refine ⟨selected_nodup, selected_nodup, selected_disjoint.mpr fun c _ hactive => ?_⟩
  rw [hactive, Bool.not_true, Bool.and_false]

omit h

theorem carried_not_buried (h : db.commandOf settings hostId = .ok cmd) {c : ClusterRow} (hc : c ∈ db.clusters.rows)
    (hactive : db.memberIn hostId .active c = true) : c.vni ∉ cmd.clusterTombstones.map (·.vni) := by
  rw [(lists_of_commandOf h).clusterTombstones, listPendingClusterTombstones_vnis]
  intro hmem
  have hapart : List.Disjoint (db.vnisIn hostId .active) (db.vnisIn hostId .pendingTeardown) :=
    selected_disjoint.mpr fun c _ h => not_leaving_of_active h
  exact hapart (mem_map_of_mem (mem_filter.mpr ⟨hc, hactive⟩)) hmem

/-- A command can be built if every cluster's pool is configured and its visibility known. -/
theorem commandOf_isOk (hpools : ∀ c ∈ db.clusters.rows, (settings.network.poolByName c.externalPool).isSome = true)
    (hvisible : ∀ c ∈ db.clusters.rows, (ApiserverVisibility.tryFrom c.apiserverVisibility).isSome = true)
    (hostId : HostId) : ∃ cmd, db.commandOf settings hostId = .ok cmd := by
  have hstate : ∀ m ∈ db.listActiveHostClusters hostId, ∃ st, db.carriedOf settings m = .ok st := by
    intro m hm
    obtain ⟨pool, hpool⟩ := Option.isSome_iff_exists.mp (hpools _ (mem_listActive hm).1)
    obtain ⟨visibility, hvisibility⟩ := Option.isSome_iff_exists.mp (hvisible _ (mem_listActive hm).1)
    unfold carriedOf clusterPool clusterVisibility
    rw [hpool, hvisibility]
    exact ⟨_, rfl⟩
  obtain ⟨carried, hcarried⟩ := Fallible.mapM_of_forall hstate
  have hghost : ∀ c ∈ db.clusters.rows.filter fun c => c.id ∉ (db.listActiveHostClusters hostId).map (·.cluster.id),
      ∃ st, db.ghostOf settings c = .ok st := by
    intro c hc
    obtain ⟨pool, hpool⟩ := Option.isSome_iff_exists.mp (hpools c (mem_filter.mp hc).1)
    obtain ⟨visibility, hvisibility⟩ := Option.isSome_iff_exists.mp (hvisible c (mem_filter.mp hc).1)
    unfold ghostOf clusterPool clusterVisibility
    rw [hpool, hvisibility]
    dsimp only
    split <;> exact ⟨_, rfl⟩
  obtain ⟨ghosts, hghosts⟩ := Fallible.mapM_of_forall hghost
  unfold commandOf
  rw [hcarried, hghosts]
  exact ⟨_, rfl⟩

end Commands

end Db

/-! ## What agents answer for -/

namespace Agent

open Network

/-- The addresses that `hosts` lists lie in the network. -/
theorem Network.contains_of_mem_hosts {n : Ipv4Net} {a : Ipv4Addr} (h : a ∈ hosts n) : n.contains a = true := by
  have hrange : ∀ base size start i : Nat, start + i < size → base ≤ base + start + i ∧
      base + start + i ≤ base + size - 1 := by omega
  unfold hosts at h
  unfold Ipv4Net.contains Ipv4Net.broadcast
  split at h
  · obtain ⟨i, hi, rfl⟩ := mem_map.mp h
    exact decide_eq_true (hrange n.network n.size 0 i ((Nat.zero_add i).symm ▸ mem_range.mp hi))
  · obtain ⟨i, hi, rfl⟩ := mem_map.mp h
    exact decide_eq_true (hrange n.network n.size 1 i (by have := mem_range.mp hi; omega))

/-- The addresses for which a host answers on the word of one cluster's VIPs, if they have one owner. -/
theorem Network.mem_lanAddrs {nets : List Ipv4Net} (hwf : ∀ n ∈ nets, n.wellFormed = true) {owner self : HostId}
    {text : String} : text ∈ lanAddrs (nets.map fun n => ⟨n.text, owner⟩) self ↔
      owner = self ∧ self ≠ "" ∧ ∃ n ∈ nets, ∃ a ∈ hosts n, Ipv4Addr.text a = text := by
  have hparsed : parsedVips (nets.map fun n => ⟨n.text, owner⟩) = nets.map fun n => (⟨n.text, owner⟩, n) := by
    unfold parsedVips
    induction nets with
    | nil => rfl
    | cons n nets ih =>
      have hn := Ipv4Net.parse_text (hwf n mem_cons_self)
      rw [map_cons, map_cons, filterMap_cons, hn, ih fun m hm => hwf m (mem_cons_of_mem n hm)]
      rfl
  unfold lanAddrs
  rw [hparsed, mem_dedup, mem_flatMap]
  constructor
  · rintro ⟨p, hp, htext⟩
    obtain ⟨hp, howner⟩ := mem_filter.mp hp
    obtain ⟨n, hn, rfl⟩ := mem_map.mp hp
    obtain ⟨howner, hself⟩ := of_decide_eq_true howner
    obtain ⟨a, ha, rfl⟩ := mem_map.mp htext
    exact ⟨howner, hself, n, hn, a, ha, rfl⟩
  · rintro ⟨rfl, hself, n, hn, a, ha, rfl⟩
    refine ⟨(⟨n.text, owner⟩, n), mem_filter.mpr ⟨mem_map_of_mem hn, ?_⟩, mem_map_of_mem ha⟩
    exact decide_eq_true ⟨rfl, hself⟩

/-- No proxy-ARP entry on the uplink, and none that the agent remembers. -/
structure Node.Silent (x : Node) : Prop where
  kernel : x.net.kernel.proxies = []
  memory : ∀ e ∈ x.net.live.rows, e.proxyArpAddrs = []

/-- **What a silent host answers for after a command**: the VIPs that the listed clusters give it. -/
theorem proxies_of_silent {spec : NodeSpec} {cmd : ReconcileHostCommand} {x : Node} (hx : x.Silent)
    (hnodup : (cmd.clusters.map (·.vni)).Nodup) {a : String} :
    a ∈ ((applyReconcile spec cmd).eval (NodeOp.exec spec) x).1.net.kernel.proxies ↔
      ∃ st ∈ cmd.clusters, st.vni ∉ cmd.clusterTombstones.map (·.vni) ∧ a ∈ lanAddrs st.clusterVips x.net.hostId := by
  rw [(applied_applyReconcile spec cmd x).proxies_iff]
  constructor
  · rintro ⟨v, e, hburied, hentry, ha⟩
    unfold Net.expected at hentry
    cases hst : stated cmd.clusters v with
    | some st =>
      rw [hst] at hentry
      cases hentry
      obtain ⟨hmem, rfl⟩ := (stated_iff hnodup).mp hst
      exact ⟨st, hmem, hburied, ha⟩
    | none =>
      -- what the agent only remembers has no entries
      rw [hst] at hentry
      change x.net.remembered v = some e at hentry
      unfold Net.remembered at hentry
      split at hentry
      · rename_i e' he'
        cases hentry
        rw [hx.memory _ (Net.entry_eq_some.mp he').1] at ha
        cases ha
      · split at hentry <;> cases hentry
        cases ha
  · rintro ⟨st, hmem, hburied, ha⟩
    refine ⟨st.vni, clusterLive st x.net.hostId, hburied, ?_, ha⟩
    unfold Net.expected
    rw [(stated_iff hnodup).mpr ⟨hmem, rfl⟩]

end Agent

/-! ## The responders of the cell -/

section Responders

variable {settings : Settings} {db : Db} {hostId : HostId} {cmd : ReconcileHostCommand}

theorem Db.memberIn_active_iff {c : ClusterRow} : db.memberIn hostId .active c = true ↔ db.ActiveIn c.id hostId := by
  simp only [memberIn, ActiveIn, any_eq_true, decide_eq_true_eq]

/-- A host answers, once it has applied its command, for the LAN VIPs of the clusters that elected it. -/
theorem answers_iff (hwf : ∀ c ∈ db.clusters.rows, ∀ n ∈ settings.lanVips c, n.wellFormed = true)
    (hcmd : db.commandOf settings hostId = .ok cmd) {spec : Agent.NodeSpec} {x : Agent.Node}
    (hid : x.net.hostId = hostId) (hx : x.Silent) {text : String} :
    text ∈ ((Agent.applyReconcile spec cmd).eval (Agent.NodeOp.exec spec) x).1.net.kernel.proxies ↔
      ∃ c ∈ db.clusters.rows, db.ActiveIn c.id hostId ∧ db.lanResponder c.id = hostId ∧ hostId ≠ "" ∧
        ∃ n ∈ settings.lanVips c, ∃ a ∈ Agent.Network.hosts n, Ipv4Addr.text a = text := by
  rw [Agent.proxies_of_silent hx (Db.commandOf_nodup hcmd), hid]
  constructor
  · rintro ⟨st, hst, -, htext⟩
    have hvips : st.clusterVips ≠ [] := by
      intro hnil
      rw [hnil] at htext
      cases htext
    obtain ⟨vip, hvip⟩ := exists_mem_of_ne_nil _ hvips
    obtain ⟨m, hm, hof⟩ := Db.carried_of_vip hcmd hst hvip
    obtain ⟨hc, hactive⟩ := Db.mem_listActive hm
    rw [(Db.carriedOf_ok hof).2.2, Agent.Network.mem_lanAddrs (hwf _ hc)] at htext
    exact ⟨m.cluster, hc, Db.memberIn_active_iff.mp hactive, htext⟩
  · rintro ⟨c, hc, hactive, hrest⟩
    have hactive := Db.memberIn_active_iff.mpr hactive
    have hlisted : c ∈ (db.listActiveHostClusters hostId).map (·.cluster) := by
      rw [Db.listActiveHostClusters_clusters]
      exact mem_filter.mpr ⟨hc, hactive⟩
    obtain ⟨m, hm, rfl⟩ := mem_map.mp hlisted
    obtain ⟨st, hst, hof⟩ := Db.carried_listed hcmd hm
    obtain ⟨-, hvni, hvips⟩ := Db.carriedOf_ok hof
    refine ⟨st, hst, ?_, ?_⟩
    · rw [hvni]
      exact Db.carried_not_buried hcmd hc hactive
    · rw [hvips, Agent.Network.mem_lanAddrs (hwf _ hc)]
      exact hrest

/-- The host has applied a command that was built for it. -/
def Builders.Applied (c : Builders) (spec : Agent.NodeSpec) (hostId : HostId) (x x' : Agent.Node) : Prop :=
  ∃ cmd, c.Returned hostId (.ok cmd) ∧ x' = ((Agent.applyReconcile spec cmd).eval (Agent.NodeOp.exec spec) x).1

/-- **Every LAN VIP has one responder.** Builders of commands run in any interleaving on a database that nothing
    else writes. Their commands name one owner for the LAN VIPs of a cluster, a healthy carrier if there is one. When
    the healthy carriers, and whichever other hosts, have applied their commands to uplinks without entries, one
    host answers for each address of a cluster with a healthy carrier, and none for the others. -/
theorem single_lan_responder (settings : Settings) (s₀ : Shared) (es : List (Event HostId)) (c : Builders)
    (hrun : (builders settings).run ⟨s₀, [], []⟩ es = some c)
    (hpools : ∀ cl ∈ s₀.db.clusters.rows, (settings.network.poolByName cl.externalPool).isSome = true)
    (hwf : ∀ cl ∈ s₀.db.clusters.rows, ∀ n ∈ settings.lanVips cl, n.wellFormed = true)
    (hdisjoint : ∀ cl ∈ s₀.db.clusters.rows, ∀ cl' ∈ s₀.db.clusters.rows, cl ≠ cl' →
      ∀ n ∈ settings.lanVips cl, ∀ n' ∈ settings.lanVips cl', cidrsOverlap n n' = false)
    (hids : ∀ host ∈ s₀.db.hosts.rows, host.id ≠ "") :
    ((∀ cl ∈ s₀.db.clusters.rows, (ApiserverVisibility.tryFrom cl.apiserverVisibility).isSome = true) →
      ∀ hostId r, c.Returned hostId r → ∃ cmd, r = .ok cmd) ∧
    ∃ owner : ClusterId → HostId,
      (∀ hostId cmd, c.Returned hostId (.ok cmd) → ∀ st ∈ cmd.clusters, ∀ vip ∈ st.clusterVips,
        vip.ownerHostId = owner st.clusterId) ∧
      (∀ clusterId, (∃ hostId, s₀.db.Carries clusterId hostId) → s₀.db.Carries clusterId (owner clusterId)) ∧
      ∀ (spec : HostId → Agent.NodeSpec) (x x' : HostId → Agent.Node),
        (∀ hostId, (x hostId).net.hostId = hostId ∧ (x hostId).Silent) →
        (∀ hostId, c.Applied (spec hostId) hostId (x hostId) (x' hostId) ∨
          x' hostId = x hostId ∧ ¬∃ clusterId, s₀.db.Carries clusterId hostId) →
        ∀ cl ∈ s₀.db.clusters.rows, ∀ n ∈ settings.lanVips cl, ∀ a ∈ Agent.Network.hosts n,
          ((∃ hostId, s₀.db.Carries cl.id hostId) → ∃! hostId, a.text ∈ (x' hostId).net.kernel.proxies) ∧
          ((¬∃ hostId, s₀.db.Carries cl.id hostId) → ∀ hostId, a.text ∉ (x' hostId).net.kernel.proxies) := by
  refine ⟨fun hvisible hostId r hr => ?_, s₀.db.lanResponder, ?_, ?_, ?_⟩
  · obtain ⟨cmd, hcmd⟩ := Db.commandOf_isOk hpools hvisible hostId
    exact ⟨cmd, (commands_of_run hrun hr).trans hcmd⟩
  · intro hostId cmd hr st hst vip hvip
    have hcmd := (commands_of_run hrun hr).symm
    obtain ⟨m, -, hof⟩ := Db.carried_of_vip hcmd hst hvip
    obtain ⟨hid, -, hvips⟩ := Db.carriedOf_ok hof
    rw [hvips] at hvip
    obtain ⟨n, -, rfl⟩ := mem_map.mp hvip
    rw [hid]
  · rintro clusterId ⟨hostId, hcarries⟩
    exact Db.carries_lanResponder hcarries
  · intro spec x x' hx happlied cl hcl n hn a ha
    -- whoever answers for the address is the elected owner of the cluster
    have honly : ∀ hostId, a.text ∈ (x' hostId).net.kernel.proxies →
        s₀.db.lanResponder cl.id = hostId ∧ hostId ≠ "" := by
      intro hostId hmem
      obtain ⟨hid, hsilent⟩ := hx hostId
      rcases happlied hostId with ⟨cmd, hr, heq⟩ | ⟨heq, -⟩
      · rw [heq, answers_iff hwf (commands_of_run hrun hr).symm hid hsilent] at hmem
        obtain ⟨cl', hcl', -, howner, hne, n', hn', a', ha', htext⟩ := hmem
        have hin := Agent.Network.contains_of_mem_hosts ha
        have hin' := Agent.Network.contains_of_mem_hosts ha'
        have hsame : a' = a := Ipv4Net.addr_eq_of_text (Ipv4Net.lt_of_contains (hwf cl' hcl' n' hn') hin')
          (Ipv4Net.lt_of_contains (hwf cl hcl n hn) hin) htext
        subst hsame
        by_cases hcluster : cl = cl'
        · subst hcluster
          exact ⟨howner, hne⟩
        · have hover : cidrsOverlap n n' = true := cidrsOverlap_iff.mpr ⟨a', hin, hin'⟩
          rw [hdisjoint cl hcl cl' hcl' hcluster n hn n' hn'] at hover
          cases hover
      · rw [heq, hsilent.kernel] at hmem
        cases hmem
    constructor
    · rintro ⟨hostId, hcarries⟩
      have howner := Db.carries_lanResponder hcarries
      refine ⟨s₀.db.lanResponder cl.id, ?_, fun hostId' hmem => (honly hostId' hmem).1.symm⟩
      obtain ⟨hid, hsilent⟩ := hx (s₀.db.lanResponder cl.id)
      rcases happlied (s₀.db.lanResponder cl.id) with ⟨cmd, hr, heq⟩ | ⟨-, hnone⟩
      · show a.text ∈ (x' (s₀.db.lanResponder cl.id)).net.kernel.proxies
        rw [heq, answers_iff hwf (commands_of_run hrun hr).symm hid hsilent]
        obtain ⟨hactive, host, hhost, hhostId, -⟩ := howner
        exact ⟨cl, hcl, hactive, rfl, hhostId ▸ hids host hhost, n, hn, a, ha, rfl⟩
      · exact absurd ⟨cl.id, howner⟩ hnone
    · intro hnone hostId hmem
      obtain ⟨howner, hne⟩ := honly hostId hmem
      rw [Db.lanResponder_of_none hnone] at howner
      exact hne howner.symm

/-- Two healthy hosts that carry a cluster of the LAN pool, before its first election. -/
def lanPair : Shared :=
  clusterOn "lan" 3232235777 [("h1", 167772161, .active), ("h2", 167772162, .active)]

/-- Both commands are built, one statement of each after the other: both elections read that there is no owner. -/
def inTurns : List (Event HostId) :=
  [.spawn "h2", .spawn "h1"] ++ (List.replicate 8 [.step 0, .step 1]).flatten

/-- The two commands name one healthy carrier, although both have elected. -/
theorem single_lan_responder_pair : ∃ c : Builders,
    (builders smallCell).run ⟨lanPair, [], []⟩ inTurns = some c ∧
    c.tasks.map (fun task => (task.tag, task.prog.finished)) = [("h2", true), ("h1", true)] ∧
    ∃ owner : ClusterId → HostId,
      (∀ hostId cmd, c.Returned hostId (.ok cmd) → ∀ st ∈ cmd.clusters, ∀ vip ∈ st.clusterVips,
        vip.ownerHostId = owner st.clusterId) ∧ lanPair.db.Carries "c0" (owner "c0") := by
  have htaken : ((builders smallCell).run ⟨lanPair, [], []⟩ inTurns).isSome = true := by decide +kernel
  have hrun := Transition.run_eq_after htaken
  obtain ⟨-, owner, hagree, hcarrier, -⟩ := single_lan_responder smallCell lanPair inTurns _ hrun
    (by decide +kernel) (by decide +kernel) (by decide +kernel) (by decide +kernel)
  exact ⟨_, hrun, by decide +kernel, owner, hagree, hcarrier "c0" ⟨"h1", by decide +kernel⟩⟩

end Responders

end BasisCell
