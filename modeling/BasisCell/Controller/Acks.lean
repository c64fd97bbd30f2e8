import BasisCell.Controller.Calls

/-!
# `BasisCell.Controller.Acks` — what a tombstone ack does

`ack_tombstones` is two loops over agent-supplied lists, the second one reading what the first one deleted.
Here both are brought into closed form, one lemma per table, so that nothing downstream unfolds a loop:

* the VM loop deletes the named rows that are pending on the acking host (`ackedVm`), but releases the
  addresses of **every** named VM;
* the VNI loop deletes the acking host's pending membership rows of every named cluster, and drains each
  named cluster that then has no `host_clusters` and no `vms` row left (`retains`).

The second loop's test does not depend on how far the loop has come, because an iteration only removes rows
of its own cluster that the test already discounts (`retains_ackVni`); that is what makes the induction over
the VNI list go through with the predicates fixed at the start.
-/

namespace BasisCell

namespace Db

open Relational Table List

variable {db : Db} {hostId : HostId} {clusterId : ClusterId} {vni : Nat} {vnis : List Nat} {vmIds : List VmId}

/-- The rows that the VM loop of an ack from `hostId` deletes. -/
def ackedVm (hostId : HostId) (vmIds : List VmId) (v : VmRow) : Bool :=
  v.id ∈ vmIds ∧ v.hostId = hostId ∧ v.state = .pendingTeardown

/-- A VM row, or a membership row other than the acking host's own pending one, keeps the cluster. -/
def retains (db : Db) (hostId : HostId) (clusterId : ClusterId) : Bool :=
  (db.hostClusters.rows.any fun hc =>
    hc.clusterId = clusterId ∧ ¬(hc.hostId = hostId ∧ hc.state = .pendingTeardown)) ||
  db.vms.rows.any fun v => v.clusterId = clusterId

/-! ## The VM loop -/

/-- **The VM loop in closed form.** Only the GPU cascade is left as the loop computes it. -/
theorem foldl_ackVm (vmIds : List VmId) (db : Db) :
    vmIds.foldl (ackVm hostId) db =
      { db with
        vms := db.vms.delete (ackedVm hostId vmIds)
        vmGpus := (vmIds.foldl (ackVm hostId) db).vmGpus
        ipAllocations := db.ipAllocations.delete fun a => vmIds.any fun v => a.owner = .vm v } := by
  induction vmIds generalizing db with
  | nil =>
    have hv : db.vms.delete (ackedVm hostId []) = db.vms :=
      delete_eq_self fun v _ => by simp [ackedVm]
    have ha : (db.ipAllocations.delete fun a => ([] : List VmId).any fun v => a.owner = .vm v)
        = db.ipAllocations := delete_eq_self fun a _ => rfl
    rw [hv, ha, foldl_nil]
  | cons vmId rest ih =>
    rw [foldl_cons, ih]
    have hv : ((ackVm hostId db vmId).vms.delete (ackedVm hostId rest))
        = db.vms.delete (ackedVm hostId (vmId :: rest)) := by
      show (db.vms.delete _).delete _ = _
      rw [delete_delete]
      refine delete_congr fun v _ => ?_
      rw [Bool.eq_iff_iff]
      simp only [ackedVm, Bool.or_eq_true, decide_eq_true_eq, mem_cons]
      tauto
    have ha : ((ackVm hostId db vmId).ipAllocations.delete fun a => rest.any fun v => a.owner = .vm v)
        = db.ipAllocations.delete fun a => (vmId :: rest).any fun v => a.owner = .vm v := by
      show (db.ipAllocations.delete _).delete _ = _
      rw [delete_delete]
      exact delete_congr fun a _ => by rw [any_cons]
    rw [hv, ha]
    rfl

/-! ## The VNI loop -/

theorem retains_eq_true_iff : db.retains hostId clusterId = true ↔
    (∃ hc ∈ db.hostClusters.rows,
      hc.clusterId = clusterId ∧ ¬(hc.hostId = hostId ∧ hc.state = .pendingTeardown)) ∨
    ∃ v ∈ db.vms.rows, v.clusterId = clusterId := by
  simp only [retains, Bool.or_eq_true, any_eq_true, decide_eq_true_eq]

/-- The count the cascade tests is zero exactly when nothing retains the cluster. -/
theorem remaining_dropMembership : (db.dropMembership hostId clusterId).remaining clusterId = 0 ↔
    db.retains hostId clusterId = false := by
  rw [← Bool.not_eq_true, retains_eq_true_iff]
  unfold remaining dropMembership
  rw [Nat.add_eq_zero_iff, countP_eq_zero, countP_eq_zero, rows_delete]
  simp only [mem_filter, Bool.not_eq_true', decide_eq_false_iff_not, decide_eq_true_eq]
  constructor
  · rintro ⟨hm, hv⟩ (⟨hc, hmem, hcl, hne⟩ | ⟨v, hmem, hcl⟩)
    · exact hm hc ⟨hmem, fun h => hne ⟨h.1, h.2.1⟩⟩ hcl
    · exact hv v hmem hcl
  · intro h
    refine ⟨fun hc hmem hcl => h (.inl ⟨hc, hmem.1, hcl, ?_⟩), fun v hmem hcl => h (.inr ⟨v, hmem, hcl⟩)⟩
    exact fun hp => hmem.2 ⟨hp.1, hp.2, hcl⟩

/-- The three things an iteration can do, with the cluster it looked up. -/
theorem ackVni_cases (hostId : HostId) (db : Db) (vni : Nat) :
    ((∀ c ∈ db.clusters.rows, c.vni ≠ vni) ∧ ackVni hostId db vni = db) ∨
    ∃ c ∈ db.clusters.rows, c.vni = vni ∧
      ((db.retains hostId c.id = false ∧
          ackVni hostId db vni = (db.dropMembership hostId c.id).drainCluster c.id) ∨
        (db.retains hostId c.id = true ∧ ackVni hostId db vni = db.dropMembership hostId c.id)) := by
  unfold ackVni
  cases hfind : db.clusters.find fun c => decide (c.vni = vni) with
  | none =>
    refine .inl ⟨fun c hc he => ?_, rfl⟩
    have := List.find?_eq_none.mp hfind c hc
    simp [he] at this
  | some c =>
    have hvni : c.vni = vni := by simpa using List.find?_some hfind
    refine .inr ⟨c, mem_of_find?_eq_some hfind, hvni, ?_⟩
    cases hr : db.retains hostId c.id with
    | false => exact .inl ⟨rfl, if_pos (remaining_dropMembership.mpr hr)⟩
    | true =>
      refine .inr ⟨rfl, if_neg fun h0 => ?_⟩
      rw [remaining_dropMembership.mp h0] at hr
      cases hr

/-- Dropping the acking host's pending rows does not change what retains a cluster. -/
theorem retains_dropMembership {c : ClusterId} :
    (db.dropMembership hostId c).retains hostId clusterId = db.retains hostId clusterId := by
  rw [Bool.eq_iff_iff, retains_eq_true_iff, retains_eq_true_iff]
  refine or_congr_left ⟨?_, ?_⟩
  · rintro ⟨hc, hmem, h⟩
    exact ⟨hc, (mem_delete.mp hmem).1, h⟩
  · rintro ⟨hc, hmem, hcl, hne⟩
    refine ⟨hc, mem_delete.mpr ⟨hmem, ?_⟩, hcl, hne⟩
    exact decide_eq_false fun h => hne ⟨h.1, h.2.1⟩

/-- **An iteration of the VNI loop leaves the cascade test of every cluster as it was.** -/
theorem retains_ackVni : (ackVni hostId db vni).retains hostId clusterId = db.retains hostId clusterId := by
  obtain ⟨-, h⟩ | ⟨c, -, -, ⟨-, h⟩ | ⟨-, h⟩⟩ := ackVni_cases hostId db vni
  · rw [h]
  · rw [h]
    exact retains_dropMembership
  · rw [h]
    exact retains_dropMembership

variable {c : ClusterRow} {hc : HostClusterRow} {a : IpAllocation}

theorem mem_clusters_ackVni : c ∈ (ackVni hostId db vni).clusters.rows ↔
    c ∈ db.clusters.rows ∧ ¬(c.vni = vni ∧ db.retains hostId c.id = false) := by
  obtain ⟨hno, h⟩ | ⟨c₀, hmem, hvni, ⟨hr, h⟩ | ⟨hr, h⟩⟩ := ackVni_cases hostId db vni
  · rw [h]
    exact ⟨fun hc => ⟨hc, fun hv => hno c hc hv.1⟩, And.left⟩
  · rw [h]
    show c ∈ (db.clusters.delete _).rows ↔ _
    rw [mem_delete, decide_eq_false_iff_not]
    refine and_congr_right fun hc => not_congr ⟨fun he => ?_, fun hv => ?_⟩
    · have : c = c₀ := eq_of_clash hc hmem (.inl he)
      exact this ▸ ⟨hvni, hr⟩
    · rw [eq_of_clash hc hmem (.inr (.inr (hv.1.trans hvni.symm)))]
  · rw [h]
    refine ⟨fun hc => ⟨hc, fun hv => ?_⟩, And.left⟩
    rw [eq_of_clash hc hmem (.inr (.inr (hv.1.trans hvni.symm))), hr] at hv
    cases hv.2

/-- **Which clusters survive an ack**: all but those it names and nothing retains. -/
theorem mem_clusters_foldl_ackVni : c ∈ (vnis.foldl (ackVni hostId) db).clusters.rows ↔
    c ∈ db.clusters.rows ∧ ¬(c.vni ∈ vnis ∧ db.retains hostId c.id = false) := by
  induction vnis generalizing db with
  | nil => simp
  | cons vni rest ih =>
    rw [foldl_cons, ih, mem_clusters_ackVni, retains_ackVni, mem_cons]
    tauto

/-- A cluster that the loop finds, it finds at once or in the rest. -/
theorem exists_found_cons (hostId : HostId) {P : ClusterRow → Prop} :
    (∃ c ∈ db.clusters.rows, c.vni ∈ vni :: vnis ∧ P c) ↔ (∃ c ∈ db.clusters.rows, c.vni = vni ∧ P c) ∨
      ∃ c ∈ (ackVni hostId db vni).clusters.rows, c.vni ∈ vnis ∧ P c := by
  constructor
  · rintro ⟨c, hc, hv, hP⟩
    by_cases hv₁ : c.vni = vni
    · exact .inl ⟨c, hc, hv₁, hP⟩
    · exact .inr ⟨c, mem_clusters_ackVni.mpr ⟨hc, fun h => hv₁ h.1⟩, (mem_cons.mp hv).resolve_left hv₁, hP⟩
  · rintro (⟨c, hc, hv, hP⟩ | ⟨c, hc, hv, hP⟩)
    · exact ⟨c, hc, mem_cons.mpr (.inl hv), hP⟩
    · exact ⟨c, (mem_clusters_ackVni.mp hc).1, mem_cons.mpr (.inr hv), hP⟩

/-- Membership rows an iteration deletes: the acking host's pending ones of the cluster it looked up. -/
theorem mem_hostClusters_ackVni : hc ∈ (ackVni hostId db vni).hostClusters.rows ↔
    hc ∈ db.hostClusters.rows ∧ ¬(hc.hostId = hostId ∧ hc.state = .pendingTeardown ∧
      ∃ c ∈ db.clusters.rows, c.vni = vni ∧ c.id = hc.clusterId) := by
  have drop : ∀ c ∈ db.clusters.rows, c.vni = vni →
      (hc ∈ (db.dropMembership hostId c.id).hostClusters.rows ↔ hc ∈ db.hostClusters.rows ∧
        ¬(hc.hostId = hostId ∧ hc.state = .pendingTeardown ∧
          ∃ c ∈ db.clusters.rows, c.vni = vni ∧ c.id = hc.clusterId)) := by
    intro c hmem hvni
    show hc ∈ (db.hostClusters.delete _).rows ↔ _
    rw [mem_delete, decide_eq_false_iff_not]
    refine and_congr_right fun _ => not_congr (and_congr_right fun _ => and_congr_right fun _ => ?_)
    refine ⟨fun he => ⟨c, hmem, hvni, he.symm⟩, ?_⟩
    rintro ⟨c', hmem', hvni', he⟩
    rw [← he, eq_of_clash hmem' hmem (.inr (.inr (hvni'.trans hvni.symm)))]
  obtain ⟨hno, h⟩ | ⟨c₀, hmem, hvni, ⟨-, h⟩ | ⟨-, h⟩⟩ := ackVni_cases hostId db vni
  · rw [h]
    refine ⟨fun hc => ⟨hc, ?_⟩, And.left⟩
    rintro ⟨-, -, c, hc', hv, -⟩
    exact hno c hc' hv
  · rw [h]
    exact drop c₀ hmem hvni
  · rw [h]
    exact drop c₀ hmem hvni

/-- An ack takes nothing but the acking host's pending membership rows of the clusters it names. -/
theorem mem_hostClusters_foldl_ackVni : hc ∈ (vnis.foldl (ackVni hostId) db).hostClusters.rows ↔
    hc ∈ db.hostClusters.rows ∧ ¬(hc.hostId = hostId ∧ hc.state = .pendingTeardown ∧
      ∃ c ∈ db.clusters.rows, c.vni ∈ vnis ∧ c.id = hc.clusterId) := by
  induction vnis generalizing db with
  | nil => simp
  | cons vni rest ih =>
    simp only [foldl_cons, ih, mem_hostClusters_ackVni, exists_found_cons hostId, and_or_left, not_or, and_assoc]

/-- Addresses an iteration releases: those of a cluster it drains. -/
theorem mem_ipAllocations_ackVni : a ∈ (ackVni hostId db vni).ipAllocations.rows ↔
    a ∈ db.ipAllocations.rows ∧ ¬∃ c ∈ db.clusters.rows,
      c.vni = vni ∧ db.retains hostId c.id = false ∧ a.owner = .cluster c.id := by
  obtain ⟨hno, h⟩ | ⟨c₀, hmem, hvni, ⟨hr, h⟩ | ⟨hr, h⟩⟩ := ackVni_cases hostId db vni
  · rw [h]
    exact ⟨fun ha => ⟨ha, fun ⟨c, hc, hv, _⟩ => hno c hc hv⟩, And.left⟩
  · rw [h]
    show a ∈ (db.ipAllocations.delete _).rows ↔ _
    rw [mem_delete, decide_eq_false_iff_not]
    refine and_congr_right fun _ => not_congr ⟨fun he => ⟨c₀, hmem, hvni, hr, he⟩, ?_⟩
    rintro ⟨c, hc, hv, -, he⟩
    rw [he, eq_of_clash hc hmem (.inr (.inr (hv.trans hvni.symm)))]
  · rw [h]
    refine ⟨fun ha => ⟨ha, ?_⟩, And.left⟩
    rintro ⟨c, hc, hv, hr', -⟩
    rw [eq_of_clash hc hmem (.inr (.inr (hv.trans hvni.symm))), hr] at hr'
    cases hr'

theorem mem_ipAllocations_foldl_ackVni : a ∈ (vnis.foldl (ackVni hostId) db).ipAllocations.rows ↔
    a ∈ db.ipAllocations.rows ∧ ¬∃ c ∈ db.clusters.rows,
      c.vni ∈ vnis ∧ db.retains hostId c.id = false ∧ a.owner = .cluster c.id := by
  induction vnis generalizing db with
  | nil => simp
  | cons vni rest ih =>
    simp only [foldl_cons, ih, mem_ipAllocations_ackVni, retains_ackVni, exists_found_cons hostId, not_or, and_assoc]

theorem foldl_ackVni_frame (vnis : List Nat) (db : Db) :
    vnis.foldl (ackVni hostId) db =
      { db with
        clusters := (vnis.foldl (ackVni hostId) db).clusters
        hostClusters := (vnis.foldl (ackVni hostId) db).hostClusters
        clusterLanVipOwners := (vnis.foldl (ackVni hostId) db).clusterLanVipOwners
        ipAllocations := (vnis.foldl (ackVni hostId) db).ipAllocations } := by
  induction vnis generalizing db with
  | nil => rfl
  | cons vni rest ih =>
    rw [foldl_cons, ih]
    obtain ⟨-, h⟩ | ⟨c, -, -, ⟨-, h⟩ | ⟨-, h⟩⟩ := ackVni_cases hostId db vni
    · rw [h]
    · rw [h]
      rfl
    · rw [h]
      rfl

/-! ## The whole call -/

/-- Does a row outside what this ack deletes keep the cluster? -/
def keptThrough (db : Db) (hostId : HostId) (vmIds : List VmId) (clusterId : ClusterId) : Bool :=
  (vmIds.foldl (ackVm hostId) db).retains hostId clusterId

theorem keptThrough_eq_true_iff : db.keptThrough hostId vmIds clusterId = true ↔
    (∃ hc ∈ db.hostClusters.rows,
      hc.clusterId = clusterId ∧ ¬(hc.hostId = hostId ∧ hc.state = .pendingTeardown)) ∨
    ∃ v ∈ db.vms.rows, v.clusterId = clusterId ∧ ackedVm hostId vmIds v = false := by
  unfold keptThrough
  rw [retains_eq_true_iff, foldl_ackVm]
  simp only [mem_delete]
  refine or_congr_right ⟨?_, ?_⟩
  · rintro ⟨v, ⟨hmem, hack⟩, hcl⟩
    exact ⟨v, hmem, hcl, hack⟩
  · rintro ⟨v, hmem, hcl, hack⟩
    exact ⟨v, ⟨hmem, hack⟩, hcl⟩

theorem vms_ackTombstones :
    (db.ackTombstones hostId vnis vmIds).vms = db.vms.delete (ackedVm hostId vmIds) := by
  unfold ackTombstones
  rw [foldl_ackVni_frame, foldl_ackVm]

theorem mem_clusters_ackTombstones : c ∈ (db.ackTombstones hostId vnis vmIds).clusters.rows ↔
    c ∈ db.clusters.rows ∧ ¬(c.vni ∈ vnis ∧ db.keptThrough hostId vmIds c.id = false) := by
  unfold ackTombstones
  rw [mem_clusters_foldl_ackVni, show (vmIds.foldl (ackVm hostId) db).clusters = db.clusters by rw [foldl_ackVm]]
  rfl

theorem mem_hostClusters_ackTombstones : hc ∈ (db.ackTombstones hostId vnis vmIds).hostClusters.rows ↔
    hc ∈ db.hostClusters.rows ∧ ¬(hc.hostId = hostId ∧ hc.state = .pendingTeardown ∧
      ∃ c ∈ db.clusters.rows, c.vni ∈ vnis ∧ c.id = hc.clusterId) := by
  unfold ackTombstones
  rw [mem_hostClusters_foldl_ackVni, foldl_ackVm]

/-- `ip_allocations` after an ack: the addresses of the named VMs and of the drained clusters are gone. -/
theorem mem_ipAllocations_ackTombstones : a ∈ (db.ackTombstones hostId vnis vmIds).ipAllocations.rows ↔
    a ∈ db.ipAllocations.rows ∧ (∀ v ∈ vmIds, a.owner ≠ .vm v) ∧ ¬∃ c ∈ db.clusters.rows,
      c.vni ∈ vnis ∧ db.keptThrough hostId vmIds c.id = false ∧ a.owner = .cluster c.id := by
  unfold ackTombstones
  rw [mem_ipAllocations_foldl_ackVni]
  have hclusters : (vmIds.foldl (ackVm hostId) db).clusters = db.clusters := by rw [foldl_ackVm]
  have hips : a ∈ (vmIds.foldl (ackVm hostId) db).ipAllocations.rows ↔
      a ∈ db.ipAllocations.rows ∧ ∀ v ∈ vmIds, a.owner ≠ .vm v := by
    rw [foldl_ackVm, mem_delete]
    simp
  rw [hclusters, hips, and_assoc]
  rfl

theorem ackTombstones_frame :
    let db' := db.ackTombstones hostId vnis vmIds
    db'.hosts = db.hosts ∧ db'.poolDiskAssignments = db.poolDiskAssignments ∧
      db'.pendingCommands = db.pendingCommands ∧ db'.effectiveCpu = db.effectiveCpu ∧
      db'.hostPoolDevices = db.hostPoolDevices := by
  unfold ackTombstones
  rw [foldl_ackVni_frame, foldl_ackVm]
  exact ⟨rfl, rfl, rfl, rfl, rfl⟩

end Db

end BasisCell
