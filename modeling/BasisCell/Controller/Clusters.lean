import BasisCell.Controller.Identity

/-!
# `BasisCell.Controller.Clusters` — when a cluster goes away

Nothing in the database says that a cluster is to be deleted. `delete_cluster` marks rows, and the last ack
that finds no row left deletes the cluster; so does any other ack that finds none.

* A cluster and its addresses go only on request, provided that acks reach the last rows of requested
  clusters only (`clusters_deleted_on_request`). Deleting the last machine of a cluster is enough to break
  that (`cluster_deleted_with_machine`).
* A request is completed once no row keeps the cluster, provided that something did when it was made and that
  the ack of the last row names the cluster (`deleteCluster_completes`). A cluster that never had a machine
  stays (`empty_cluster_stays`).
-/

namespace BasisCell

open Conc Relational Table List

/-! ## On request -/

/-- The cluster that an activity is a `DeleteCluster` of. -/
def Activity.deletes : Activity → Option ClusterId
  | deleteCluster clusterId => some clusterId
  | _ => none

namespace Cell

/-- Has `DeleteCluster` been called for this cluster? -/
def requested (c : Cell) (clusterId : ClusterId) : Bool := c.started.any fun t => t.deletes = some clusterId

/-- Between two states, every cluster that nobody asked to delete keeps its row and its addresses. -/
def KeepsUnrequested (c c' : Cell) : Prop :=
  ∀ k ∈ c.shared.db.clusters.rows, c.requested k.id = true ∨
    (∃ k' ∈ c'.shared.db.clusters.rows, k'.id = k.id) ∧
      ∀ a ∈ c.shared.db.ipAllocations.rows, a.owner = .cluster k.id → a ∈ c'.shared.db.ipAllocations.rows

instance (c c' : Cell) : Decidable (KeepsUnrequested c c') :=
  inferInstanceAs (Decidable (∀ k ∈ c.shared.db.clusters.rows, _))

end Cell

/-- What an event does to clusters that nobody asked to delete: nothing. -/
def DeletesOnRequest (settings : Settings) (c : Cell) (e : Event Activity) : Prop :=
  ∀ c' ∈ (cell settings).step c e, Cell.KeepsUnrequested c c'

instance (settings : Settings) (c : Cell) (e : Event Activity) : Decidable (DeletesOnRequest settings c e) :=
  inferInstanceAs (Decidable (∀ c' ∈ (cell settings).step c e, _))

/-- An ack names the VNI of a cluster nobody asked to delete only while a membership or a VM row that it does
    not delete itself is there. -/
def Write.drainsRequested (requested : ClusterId → Bool) (db : Db) : Write → Bool
  | .ackTombstones hostId vnis vmIds => ∀ k ∈ db.clusters.rows, k.vni ∈ vnis → requested k.id = true ∨
    (∃ hc ∈ db.hostClusters.rows, hc.clusterId = k.id ∧ ¬(hc.hostId = hostId ∧ hc.state = .pendingTeardown)) ∨
    ∃ v ∈ db.vms.rows, v.clusterId = k.id ∧ ¬(v.id ∈ vmIds ∧ v.hostId = hostId ∧ v.state = .pendingTeardown)
  | _ => true

/-- The condition on a run: acks drain requested clusters only. -/
def DrainsRequested (c : Cell) (e : Event Activity) : Prop :=
  Cell.Checks (Write.drainsRequested c.requested) c e

instance (c : Cell) (e : Event Activity) : Decidable (DrainsRequested c e) :=
  inferInstanceAs (Decidable (Cell.Checks _ c e))

variable {k : ClusterRow}

/-- A cluster that such an ack drains was requested. -/
theorem requested_of_drained {requested : ClusterId → Bool} {db : Db} {hostId : HostId} {vnis : List Nat}
    {vmIds : List VmId} (hw : (Write.ackTombstones hostId vnis vmIds).drainsRequested requested db = true)
    (hk : k ∈ db.clusters.rows) (hvni : k.vni ∈ vnis) (hdrain : db.keptThrough hostId vmIds k.id = false) :
    requested k.id = true := by
  refine (of_decide_eq_true hw k hk hvni).resolve_right fun hrow => ?_
  have hkept : db.keptThrough hostId vmIds k.id = true := by
    rw [Db.keptThrough_eq_true_iff]
    refine hrow.imp_right fun ⟨v, hv, hcl, hnot⟩ => ⟨v, hv, hcl, ?_⟩
    exact decide_eq_false hnot
  exact Bool.false_ne_true (hdrain.symm.trans hkept)

/-- One call. A rollback of `create_cluster` releases addresses too, but of a cluster that has no row. -/
theorem keepsUnrequested_write {c : Cell} {γ : List String} {i : Nat} {t : Activity} {g : Phase} {w : Write}
    (hfires : identity.Fires discipline DrainsRequested c γ i t g (.write w))
    (hk : k ∈ c.shared.db.clusters.rows) (hreq : ¬c.requested k.id = true) :
    (∃ k' ∈ (w.exec c.shared.db).1.clusters.rows, k'.id = k.id) ∧
      ∀ a ∈ c.shared.db.ipAllocations.rows, a.owner = .cluster k.id →
        a ∈ (w.exec c.shared.db).1.ipAllocations.rows := by
  have hcond := hfires.cond w (Cell.nextWrite_of_nextOp hfires.op)
  refine ⟨?_, fun a ha howner => (Write.ipAllocations_exec ha).resolve_right fun hdrop => ?_⟩
  · rcases Write.clusters_kept (w := w) hk with ⟨k', hk', hsame⟩ | ⟨hostId, vnis, vmIds, rfl, hvni, hdrain⟩
    · exact ⟨k', hk', hsame.id.symm⟩
    · exact absurd (requested_of_drained hcond hk hvni hdrain) hreq
  · cases w with
    | releaseVmIps v => cases howner.symm.trans hdrop
    | releaseClusterIps clusterId =>
      have hid : k.id = clusterId := IpOwner.cluster.inj (howner.symm.trans hdrop)
      have hnoted : clusterId ∈ γ := hid ▸ hfires.inv.clusters k hk
      have hknown := hfires.holds
      cases hfires.allowed with
      | rollback j => exact hknown.unused rfl _ (mem_ofFn.mpr ⟨j, rfl⟩) hnoted
    | ackTombstones hostId vnis vmIds =>
      rcases hdrop with ⟨v, -, ho⟩ | ⟨k', hk', hvni, hdrain, ho⟩
      · cases howner.symm.trans ho
      · have hid : k.id = k'.id := IpOwner.cluster.inj (howner.symm.trans ho)
        exact hreq (hid ▸ requested_of_drained hcond hk' hvni hdrain)
    | _ => exact hdrop

theorem keepsUnrequested_step {settings : Settings} {c c' : Cell} {e : Event Activity}
    (hc : ∃ γ, identity.Annotated discipline c γ) (hC : DrainsRequested c e) (hstep : (cell settings).Step c e c') :
    c.KeepsUnrequested c' := by
  have same : ∀ {c c' : Cell}, c'.shared.db = c.shared.db → c.KeepsUnrequested c' := fun heq k hk =>
    .inr ⟨⟨k, heq ▸ hk, rfl⟩, fun a ha _ => heq ▸ ha⟩
  cases hstep with
  | spawn | drop | crash => exact same rfl
  | @exec s pre post started t o next =>
    cases o with
    | query q => exact same rfl
    | mem m => exact same (Op.exec_mem_db m s)
    | write w =>
      obtain ⟨γ, hc⟩ := hc
      obtain ⟨g, hfires, -⟩ := hc.fires hC
      exact fun k hk => or_iff_not_imp_left.mpr (keepsUnrequested_write hfires hk)

/-- **A cluster is deleted only on request**, along every run whose acks drain requested clusters only. -/
theorem clusters_deleted_on_request (settings : Settings) (effectiveCpu : Int → Int) (es : List (Event Activity))
    (hal : (cell settings).Along DrainsRequested (Cell.start (Db.create effectiveCpu)) es) :
    (cell settings).Along (DeletesOnRequest settings) (Cell.start (Db.create effectiveCpu)) es := by
  refine Machine.along_of_invariant (J := fun c => ∃ γ, identity.Annotated discipline c γ)
    (fun ⟨γ, hc⟩ hC hstep => ⟨_, Outline.annotated_step (identity_sound settings DrainsRequested) hc hC hstep⟩)
    (fun hc hC c' hc' => keepsUnrequested_step hc hC (Machine.step_cases hc')) ?_ hal
  exact ⟨[], Outline.annotated_empty (identity_start effectiveCpu)⟩

/-- Cluster `c0` is deleted while it has a machine; the ack of both tombstones takes it. -/
def clusterLife : List (Event Activity) :=
  upToWaiting ++ .spawn (.deleteCluster "c0") :: steps 3 10 ++
  .spawn (.agentMessage "h1" (.tombstoneAck [10000] ["v1"]) 130) :: steps 4 1

theorem clusters_deleted_on_request_smallCell :
    (reached clusterLife).shared.db.clusters.rows = [] ∧
    (cell smallCell).Along (DeletesOnRequest smallCell) emptyCell clusterLife :=
  ⟨by decide +kernel, clusters_deleted_on_request smallCell id clusterLife (by decide +kernel)⟩

/-- **Deleting the last machine deletes the cluster.** `DeleteMachine` marks the node's membership when its
    last VM is being torn down, and the ack of the two tombstones drains the cluster: its row and its VIP are
    gone, and no `DeleteCluster` was ever called. -/
theorem cluster_deleted_with_machine :
    (cell smallCell).run emptyCell machineLife = some (reached machineLife) ∧
    Cell.requested (reached machineLife) "c0" = false ∧
    (reached machineLife).shared.db.clusters.rows = [] ∧
    ¬(cell smallCell).Along (DeletesOnRequest smallCell) emptyCell machineLife := by
  refine ⟨run_reached _ ?_, ?_, ?_, ?_⟩ <;> decide +kernel

/-! ## To completion -/

namespace Db

/-- Something of the cluster is still on a host. -/
def Occupied (db : Db) (clusterId : ClusterId) : Prop :=
  (∃ hc ∈ db.hostClusters.rows, hc.clusterId = clusterId) ∨ ∃ v ∈ db.vms.rows, v.clusterId = clusterId

/-- Neither the row nor an address of the cluster is left. -/
def Gone (db : Db) (clusterId : ClusterId) : Prop :=
  (∀ k ∈ db.clusters.rows, k.id ≠ clusterId) ∧ ∀ a ∈ db.ipAllocations.rows, a.owner ≠ .cluster clusterId

/-- What a completed deletion is waiting for, or has reached. -/
def Settled (db : Db) (clusterId : ClusterId) : Prop := db.Occupied clusterId ∨ db.Gone clusterId

instance (db : Db) (clusterId : ClusterId) : Decidable (db.Occupied clusterId) :=
  inferInstanceAs (Decidable (_ ∨ _))

instance (db : Db) (clusterId : ClusterId) : Decidable (db.Gone clusterId) :=
  inferInstanceAs (Decidable (_ ∧ _))

instance (db : Db) (clusterId : ClusterId) : Decidable (db.Settled clusterId) :=
  inferInstanceAs (Decidable (_ ∨ _))

/-- The declared references into `clusters`. -/
structure ForeignKeys (db : Db) : Prop where
  vms : ∀ v ∈ db.vms.rows, ∃ k ∈ db.clusters.rows, k.id = v.clusterId
  hostClusters : ∀ hc ∈ db.hostClusters.rows, ∃ k ∈ db.clusters.rows, k.id = hc.clusterId

end Db

section Call

variable {db : Db} {w : Write} {clusterId : ClusterId}

/-- A cluster with a row that an ack does not delete keeps its own row. -/
theorem cluster_after (hk : k ∈ db.clusters.rows)
    (hkept : ∀ hostId vnis vmIds, w = .ackTombstones hostId vnis vmIds → db.keptThrough hostId vmIds k.id = true) :
    ∃ k' ∈ (w.exec db).1.clusters.rows, k'.id = k.id := by
  rcases Write.clusters_kept (w := w) hk with ⟨k', hk', hsame⟩ | ⟨hostId, vnis, vmIds, rfl, -, hdrain⟩
  · exact ⟨k', hk', hsame.id.symm⟩
  · exact absurd (hdrain.symm.trans (hkept _ _ _ rfl)) Bool.false_ne_true

/-- **No call leaves a dangling reference.** -/
theorem Db.ForeignKeys.exec (h : db.ForeignKeys) : (w.exec db).1.ForeignKeys where
  vms := by
    intro v' hv'
    obtain ⟨v, hv, hsame⟩ | ⟨⟨gpus, disks, rfl⟩, u, hu⟩ := Write.vms_exec hv'
    · obtain ⟨k, hk, hid⟩ := h.vms v hv
      obtain ⟨k', hk', hid'⟩ := cluster_after (w := w) hk (by
        rintro hostId vnis vmIds rfl
        have hv' : v' ∈ (db.ackTombstones hostId vnis vmIds).vms.rows := hv'
        rw [Db.vms_ackTombstones] at hv'
        obtain ⟨hmem, hack⟩ := mem_delete.mp hv'
        exact Db.keptThrough_eq_true_iff.mpr
          (.inr ⟨v', hmem, hsame.same.clusterId.symm.trans hid.symm, hack⟩))
      exact ⟨k', hk', hid'.trans (hid.trans hsame.same.clusterId)⟩
    · obtain ⟨k, hk, hid⟩ := Write.cluster_of_insertVm hu
      obtain ⟨k', hk', hid'⟩ := cluster_after (w := .insertVm v' gpus disks) hk nofun
      exact ⟨k', hk', hid'.trans hid⟩
  hostClusters := by
    intro hc' hmem'
    obtain ⟨hc, hmem, hcl⟩ | ⟨⟨k, hk, hid⟩, hclusters⟩ := Write.hostClusters_exec hmem'
    · obtain ⟨k, hk, hid⟩ := h.hostClusters hc hmem
      rcases Write.clusters_kept (w := w) hk with ⟨k', hk', hsame⟩ | ⟨hostId, vnis, vmIds, rfl, hvni, hdrain⟩
      · exact ⟨k', hk', hsame.id.symm.trans (hid.trans hcl)⟩
      · -- a membership row that the ack left behind would have kept the cluster
        obtain ⟨hmem', hleft⟩ := Db.mem_hostClusters_ackTombstones.mp hmem'
        have hkept : db.keptThrough hostId vmIds k.id = true := Db.keptThrough_eq_true_iff.mpr
          (.inl ⟨hc', hmem', hcl.symm.trans hid.symm, fun hp =>
            hleft ⟨hp.1, hp.2, k, hk, hvni, hid.trans hcl⟩⟩)
        exact absurd (hdrain.symm.trans hkept) Bool.false_ne_true
    · exact ⟨k, hclusters ▸ hk, hid⟩

/-- The call writes an address or the row of the cluster. -/
def Write.provisions (clusterId : ClusterId) : Write → Bool
  | .insertCluster cluster => cluster.id = clusterId
  | w => w.allocatesFor = some (.cluster clusterId)

/-- An ack that deletes a VM row of the cluster names its VNI, or leaves another row of it behind. -/
def Write.finishes (db : Db) (clusterId : ClusterId) : Write → Bool
  | .ackTombstones hostId vnis vmIds => ∀ k ∈ db.clusters.rows, k.id = clusterId →
    (∃ v ∈ db.vms.rows, v.clusterId = clusterId) →
    k.vni ∈ vnis ∨ (∃ hc ∈ db.hostClusters.rows, hc.clusterId = clusterId) ∨
      ∃ v ∈ db.vms.rows, v.clusterId = clusterId ∧ ¬(v.id ∈ vmIds ∧ v.hostId = hostId ∧ v.state = .pendingTeardown)
  | _ => true

theorem Db.Gone.exec (h : db.Gone clusterId) (hw : ¬w.provisions clusterId = true) : (w.exec db).1.Gone clusterId := by
  refine ⟨fun k' hk' hid => ?_, fun a ha howner => ?_⟩
  · rcases Write.clusters_exec hk' with ⟨k, hk, hsame⟩ | ⟨rfl, -⟩
    · exact h.1 k hk (hsame.id.trans hid)
    · exact hw (decide_eq_true hid)
  · rcases Write.ipAllocations_new ha with ha | hnew
    · exact h.2 a ha howner
    · refine hw ?_
      rw [howner] at hnew
      cases w <;> first | exact decide_eq_true hnew | cases hnew

variable {hostId : HostId} {vnis : List Nat} {vmIds : List VmId}

/-- An ack of the cluster's VNI completes the deletion, or a row keeps the cluster. -/
theorem settled_of_named
    (hk : k ∈ db.clusters.rows) (hvni : k.vni ∈ vnis) : (db.ackTombstones hostId vnis vmIds).Settled k.id := by
  cases hkept : db.keptThrough hostId vmIds k.id with
  | true =>
    refine .inl ((Db.keptThrough_eq_true_iff.mp hkept).imp ?_ ?_)
    · rintro ⟨hc, hmem, hcl, hp⟩
      exact ⟨hc, Db.mem_hostClusters_ackTombstones.mpr ⟨hmem, fun h => hp ⟨h.1, h.2.1⟩⟩, hcl⟩
    · rintro ⟨v, hmem, hcl, hack⟩
      rw [Db.vms_ackTombstones]
      exact ⟨v, mem_delete.mpr ⟨hmem, hack⟩, hcl⟩
  | false =>
    refine .inr ⟨fun k' hk' hid => ?_, fun a ha howner => ?_⟩
    · obtain ⟨hmem, hdrain⟩ := Db.mem_clusters_ackTombstones.mp hk'
      cases eq_of_clash hmem hk (.inl hid)
      exact hdrain ⟨hvni, hkept⟩
    · exact (Db.mem_ipAllocations_ackTombstones.mp ha).2.2 ⟨k, hk, hvni, hkept, howner⟩

/-- An ack that does not name the cluster takes none of its memberships. -/
theorem settled_of_unnamed (hk : k ∈ db.clusters.rows) (hvni : k.vni ∉ vnis) (h : db.Occupied k.id)
    (hw : (Write.ackTombstones hostId vnis vmIds).finishes db k.id = true) :
    (db.ackTombstones hostId vnis vmIds).Settled k.id := by
  have member : ∀ hc ∈ db.hostClusters.rows, hc.clusterId = k.id →
      (db.ackTombstones hostId vnis vmIds).Settled k.id := by
    intro hc hmem hcl
    refine .inl (.inl ⟨hc, Db.mem_hostClusters_ackTombstones.mpr ⟨hmem, ?_⟩, hcl⟩)
    rintro ⟨-, -, k', hk', hvni', hid⟩
    cases eq_of_clash hk' hk (.inl (hid.trans hcl))
    exact hvni hvni'
  rcases h with ⟨hc, hmem, hcl⟩ | hvm
  · exact member hc hmem hcl
  · rcases of_decide_eq_true hw k hk rfl hvm with hnamed | ⟨hc, hmem, hcl⟩ | ⟨v, hmem, hcl, hack⟩
    · exact absurd hnamed hvni
    · exact member hc hmem hcl
    · refine .inl (.inr ⟨v, ?_, hcl⟩)
      rw [Db.vms_ackTombstones]
      exact mem_delete.mpr ⟨hmem, decide_eq_false hack⟩

/-- **A settled cluster stays settled.** -/
theorem Db.Settled.exec (h : db.Settled clusterId) (hfk : db.ForeignKeys)
    (hprov : ¬w.provisions clusterId = true) (hw : w.finishes db clusterId = true) :
    (w.exec db).1.Settled clusterId := by
  rcases h with hocc | hgone
  · by_cases hack : ∃ hostId vnis vmIds, w = .ackTombstones hostId vnis vmIds
    · obtain ⟨hostId, vnis, vmIds, rfl⟩ := hack
      obtain ⟨k, hk, rfl⟩ : ∃ k ∈ db.clusters.rows, k.id = clusterId := by
        rcases hocc with ⟨hc, hmem, rfl⟩ | ⟨v, hmem, rfl⟩
        · exact hfk.hostClusters hc hmem
        · exact hfk.vms v hmem
      by_cases hvni : k.vni ∈ vnis
      · exact settled_of_named hk hvni
      · exact settled_of_unnamed hk hvni hocc hw
    · refine .inl (hocc.imp ?_ ?_)
      · rintro ⟨hc, hmem, rfl⟩
        exact (Write.hostClusters_kept hmem).resolve_right fun ⟨h, v, vs, hw, _⟩ => hack ⟨h, v, vs, hw⟩
      · rintro ⟨v, hmem, rfl⟩
        rcases Write.vms_kept (w := w) hmem with ⟨v', hmem', hsame⟩ | ⟨h, n, vs, hw, -⟩
        · exact ⟨v', hmem', hsame.same.clusterId.symm⟩
        · exact absurd ⟨h, n, vs, hw⟩ hack
  · exact .inr (hgone.exec hprov)

end Call

/-! ## All interleavings -/

/-- What an operation must find for the requested deletion of a cluster: `delete_cluster` itself concludes
    only while the cluster is occupied or gone, nobody provisions the cluster any more, and the ack that
    takes its last VM row names it. -/
def Op.completes (t : Activity) (db : Db) (clusterId : ClusterId) : Op → Bool
  | .query (.getCluster id) =>
    t.deletes = some clusterId → (∃ k ∈ db.clusters.rows, k.id = id) ∨ db.Settled clusterId
  | .write (.markClusterPendingTeardownAllHosts _) => t.deletes = some clusterId → db.Settled clusterId
  | .write w => ¬w.provisions clusterId = true ∧ w.finishes db clusterId = true
  | _ => true

/-- The condition on a run: every operation lets the requested deletions complete. -/
def Completes (c : Cell) (e : Event Activity) : Prop :=
  ∀ x ∈ c.nextOp e, ∀ t ∈ c.started, ∀ clusterId ∈ t.deletes, x.2.completes x.1 c.shared.db clusterId = true

instance (c : Cell) (e : Event Activity) : Decidable (Completes c e) :=
  inferInstanceAs (Decidable (∀ x ∈ c.nextOp e, _))

def deletions : Layer Activity Shared Phase (List String) where
  inv := fun _ _ s => s.db.ForeignKeys
  holds := fun t g _ s => ∀ clusterId ∈ t.deletes, g = .deleted → s.db.Settled clusterId

section Sound

variable {c : Cell} {γ : List String} {i : Nat} {t : Activity} {g : Phase} {o : Op} {clusterId : ClusterId}

/-- An operation under the condition keeps a requested cluster settled. -/
theorem settled_fires (hfires : (identity.layered deletions).Fires discipline Completes c γ i t g o)
    {t' : Activity} (ht' : t' ∈ c.started) (hdel : t'.deletes = some clusterId)
    (h : c.shared.db.Settled clusterId) : (o.exec c.shared).1.db.Settled clusterId := by
  have hcond := hfires.cond _ hfires.op t' ht' clusterId hdel
  refine o.db_elim c.shared ‹_› ?_
  rintro w rfl
  by_cases hmark : ∃ id, w = .markClusterPendingTeardownAllHosts id
  · obtain ⟨id, rfl⟩ := hmark
    exact h.exec hfires.inv.2 (by simp [Write.provisions, Write.allocatesFor]) rfl
  · have hboth : ¬w.provisions clusterId = true ∧ w.finishes c.shared.db clusterId = true := by
      cases w <;> first | exact of_decide_eq_true hcond | exact absurd ⟨_, rfl⟩ hmark
    exact h.exec hfires.inv.2 hboth.1 hboth.2

/-- `delete_cluster` gets past its last check only where the cluster is settled. -/
theorem settled_of_deleted (hfires : (identity.layered deletions).Fires discipline Completes c γ i t g o)
    (hdel : t.deletes = some clusterId) (hnext : t.next g o (o.exec c.shared).2 = .deleted) :
    c.shared.db.Settled clusterId := by
  have hcond := hfires.cond _ hfires.op t hfires.known clusterId hdel
  have hmoves := next_moves t g o (o.exec c.shared).2
  rw [hnext] at hmoves
  generalize hr : (o.exec c.shared).2 = r at hmoves
  cases hmoves with
  | stay => exact hfires.holds.2 clusterId hdel rfl
  | notFound =>
    exact (of_decide_eq_true hcond hdel).resolve_left fun ⟨k, hk, hid⟩ => Db.getCluster_error hr k hk hid
  | marked => exact of_decide_eq_true hcond hdel

theorem deletions_sound (settings : Settings) :
    deletions.SoundOver identity discipline (cell settings) Completes where
  spawn := fun _ hinv => ⟨hinv.2, nofun⟩
  exec := by
    intro c γ i t g o hfires
    refine ⟨?_, fun clusterId hdel hnext => ?_⟩
    · cases o with
      | query q => exact hfires.inv.2
      | mem m =>
        show ((Op.mem m).exec c.shared).1.db.ForeignKeys
        rw [Op.exec_mem_db]
        exact hfires.inv.2
      | write w => exact hfires.inv.2.exec
    · exact settled_fires hfires hfires.known hdel (settled_of_deleted hfires hdel hnext)
  frame := by
    intro c γ i t g o task g' hfires htask _ _ hholds clusterId hdel hg'
    exact settled_fires hfires (hfires.pool task (mem_of_mem_eraseIdx htask)) hdel
      (hholds.2 clusterId hdel hg')
  reboot := id
  reboot_holds := id

def Handler.returnedOk : Handler (Except Status Reply) → Bool
  | .ret (.ok _) => true
  | _ => false

/-- Has a `DeleteCluster` of this cluster returned `Ok`? -/
def Cell.deleteReturned (c : Cell) (clusterId : ClusterId) : Bool :=
  c.tasks.any fun task => task.tag.deletes = some clusterId ∧ Handler.returnedOk task.prog = true

theorem deleted_of_returned (h : Cell.deleteReturned c clusterId = true) :
    ∃ task ∈ c.tasks, task.tag.deletes = some clusterId ∧ ∀ g, discipline.At task g → g = .deleted := by
  obtain ⟨⟨tag, prog⟩, hmem, htask⟩ := any_eq_true.mp h
  obtain ⟨hdel, hret⟩ := decide_eq_true_iff.mp htask
  refine ⟨_, hmem, hdel, fun g hat => ?_⟩
  cases tag with
  | deleteCluster id =>
    cases prog with
    | ret result =>
      cases result with
      | ok reply => exact hat
      | error e => cases hret
    | call o k => cases hret
  | _ => cases hdel

/-- **`DeleteCluster` completes.** Along every run under the condition, once a `DeleteCluster` has returned `Ok`
    and no membership and no VM row of its cluster is left, its row and its addresses are gone. -/
theorem deleteCluster_completes (settings : Settings) (effectiveCpu : Int → Int) (es : List (Event Activity))
    (c : Cell) (clusterId : ClusterId)
    (hal : (cell settings).Along Completes (Cell.start (Db.create effectiveCpu)) es)
    (hrun : (cell settings).run (Cell.start (Db.create effectiveCpu)) es = some c)
    (hok : Cell.deleteReturned c clusterId = true) (hempty : ¬c.shared.db.Occupied clusterId) :
    c.shared.db.Gone clusterId := by
  have hstart : (identity.layered deletions).inv [] [] (Shared.boot (Db.create effectiveCpu)) :=
    ⟨identity_start effectiveCpu, forall_mem_nil _, forall_mem_nil _⟩
  obtain ⟨γ, hc⟩ := Outline.annotated_run ((deletions_sound settings).sound (identity_sound settings _))
    (Outline.annotated_empty hstart) hal hrun
  obtain ⟨task, hmem, hdel, hreturned⟩ := deleted_of_returned hok
  obtain ⟨g, hat, -, hdeleted⟩ := hc.phases task hmem
  exact (hdeleted clusterId hdel (hreturned g hat)).resolve_left hempty

end Sound

theorem deleteCluster_completes_smallCell :
    Cell.deleteReturned (reached clusterLife) "c0" = true ∧
    (reached clusterLife).shared.db.Gone "c0" :=
  ⟨by decide +kernel, deleteCluster_completes smallCell id clusterLife _ "c0" (by decide +kernel)
    (run_reached _ (by decide +kernel)) (by decide +kernel) (by decide +kernel)⟩

/-- **An empty cluster is never deleted.** No host carries it, so no ack will name it: `DeleteCluster` has
    returned `Ok`, and the row stays with its VIP. -/
theorem empty_cluster_stays :
    let es := upToCluster ++ .spawn (.deleteCluster "c0") :: steps 2 3
    let c := reached es
    (cell smallCell).run emptyCell es = some c ∧ Cell.deleteReturned c "c0" = true ∧
    ¬c.shared.db.Occupied "c0" ∧ ¬c.shared.db.Gone "c0" := by
  refine ⟨run_reached _ ?_, ?_, ?_, ?_⟩ <;> decide +kernel

end BasisCell
