import BasisCell.Controller.Clusters
import BasisCell.Controller.External

/-!
# `BasisCell.Controller.Tenants` — the address of a VM is one of its cluster's

`create_machine` reads the row of the cluster once, allocates from the range it read, and commits much later.
In between the cluster may be deleted, but no other cluster gets its identifier, and the columns of a cluster
are never rewritten but for the trust domain. So when the insert finds a cluster under the identifier (its
foreign key), it is the one that was read, and the address is inside its CIDR.

`Db.Recalls` is what a reader of a cluster row may keep believing; it outlives the row.
-/

namespace BasisCell

open Conc Relational

/-- Whatever row there is under the identifier of a row that was read once, it is that row. -/
structure Db.Recalls (db : Db) (γ : List String) (k : ClusterRow) : Prop where
  known : k.id ∈ γ
  same : ∀ k' ∈ db.clusters.rows, k'.id = k.id → k.SameCluster k'

section Recalls

variable {s : Shared} {t : Activity} {g : Phase} {o : Op} {γ : List String} {started : List Activity} {k : ClusterRow}

theorem recalls_of_mem (hrows : RowsNoted started γ s.db) (hk : k ∈ s.db.clusters.rows) : s.db.Recalls γ k where
  known := hrows.clusters k hk
  same := by
    intro k' hk' hid
    rw [Table.eq_of_clash hk hk' (.inl hid.symm)]
    exact .refl k'

/-- A cluster goes in under an identifier that no row had. -/
theorem unused_of_insertCluster (hknown : IdsKnown t g γ) (hallow : Allows t g (.write (.insertCluster k))) :
    k.id ∉ γ := by
  cases hallow with
  | insertCluster i hid => exact hknown.unused rfl _ (hid ▸ mem_mints i)

/-- Anybody's step keeps what a reader recalls. -/
theorem Db.Recalls.exec (h : s.db.Recalls γ k) (hknown : IdsKnown t g γ) (hallow : Allows t g o) :
    (o.exec s).1.db.Recalls (noteInsert γ o (o.exec s).2) k where
  known := subset_noteInsert h.known
  same := by
    intro k' hk' hid
    revert hk'
    refine o.db_elim s (fun hk' => h.same k' hk' hid) ?_
    rintro w rfl hk'
    rcases Write.clusters_exec hk' with ⟨j, hj, hsame⟩ | ⟨rfl, -⟩
    · exact (h.same j hj (hsame.id.trans hid)).trans hsame
    · have hunused := unused_of_insertCluster hknown hallow
      rw [hid] at hunused
      exact absurd h.known hunused

end Recalls

/-! ## The layer -/

/-- What `create_machine` has read is recalled, and what it has allocated is inside the CIDR it read. -/
def housed (net : NetworkConfig) (γ : List String) (db : Db) : Activity → Phase → Stage → Prop
  | .createMachine req _ _, _, .found cluster =>
    cluster.id = req.clusterId ∧ db.Recalls γ cluster ∧ net.RowCarved cluster
  | .createMachine req _ _, _, .addressed cluster ip =>
    (cluster.id = req.clusterId ∧ db.Recalls γ cluster ∧ net.RowCarved cluster) ∧ cluster.cidr.contains ip = true
  | .createMachine _ _ _, g, .placed => g.early = false
  | _, _, _ => True

/-- Every VM has an address of its cluster's CIDR. -/
def Db.Housed (db : Db) : Prop :=
  ∀ v ∈ db.vms.rows, ∀ k ∈ db.clusters.rows, k.id = v.clusterId → k.cidr.contains v.ipAddress = true

def tenants (settings : Settings) : Layer Activity Shared (Phase × Stage) (List String) where
  inv := fun _ _ s => s.db.ForeignKeys ∧ s.db.Housed
  holds := fun t g γ s => housed settings.network γ s.db t g.1 g.2

/-! ### Steps -/

section Layer

variable {settings : Settings} {s : Shared} {t : Activity} {g : Phase} {a : Stage} {o : Op} {γ : List String}
variable {started : List Activity}

/-- The VM range of a slot is inside the slot. -/
theorem contains_of_allocate {net : NetworkConfig} (hvalid : net.Valid) {db db' : Db} {cluster : ClusterRow}
    {vmId : VmId} {ip : Ipv4Addr} (hcarved : net.RowCarved cluster)
    (h : db.allocateClusterVmIp cluster vmId = .ok (db', ip)) : cluster.cidr.contains ip = true := by
  obtain ⟨network, ⟨i, -, -, rfl⟩, -, hcidr, hrange⟩ := hcarved
  have hroom := hvalid.room
  have hends : ∀ first size reserve n : Nat, reserve + 2 < size →
      first + reserve + 1 ≤ first + size - 1 - 1 ∧
        (first + reserve + 1 ≤ n → n ≤ first + size - 1 - 1 → first ≤ n ∧ n ≤ first + size - 1) := by
    intro first size reserve n _
    omega
  obtain ⟨hle, hinside⟩ := hends (net.slot i).network (net.slot i).size net.bridgeReserve ip hroom
  have hpick := (Db.allocateFromRange_ok h).1.1
  rw [hrange, Db.mem_candidates hle] at hpick
  rw [hcidr]
  exact decide_eq_true (hinside hpick.1 hpick.2)

theorem housed_frame {t' : Activity} {g' : Phase} {a' : Stage} (hknown : IdsKnown t g γ) (hallow : Allows t g o)
    (h : housed settings.network γ s.db t' g' a') :
    housed settings.network (noteInsert γ o (o.exec s).2) (o.exec s).1.db t' g' a' := by
  unfold housed at h ⊢
  split at h
  · exact ⟨h.1, h.2.1.exec hknown hallow, h.2.2⟩
  · exact ⟨⟨h.1.1, h.1.2.1.exec hknown hallow, h.1.2.2⟩, h.2⟩
  · exact h
  · trivial

/-- The phase matters only once the row is in. -/
theorem housed_of_early {net : NetworkConfig} {db : Db} {g' : Phase} (h : housed net γ db t g a)
    (hlate : g.early = false → g'.early = false) : housed net γ db t g' a := by
  unfold housed at h ⊢
  split at h
  · exact h
  · exact h
  · exact hlate h
  · trivial

theorem late_of_late {r : o.Resp} (h : g.early = false) : (t.next g o r).early = false := by
  by_contra hearly
  rw [Bool.not_eq_false] at hearly
  rw [early_of_next hearly] at h
  cases h

theorem housed_next (hvalid : settings.network.Valid) (hrows : RowsNoted started γ s.db)
    (hcarved : ∀ k ∈ s.db.clusters.rows, settings.network.RowCarved k) (hknown : IdsKnown t g γ)
    (hallow : Allows t g o) (hgrant : Grants settings t a o) (h : housed settings.network γ s.db t g a) :
    housed settings.network (noteInsert γ o (o.exec s).2) (o.exec s).1.db t (t.next g o (o.exec s).2)
      (a.next o (o.exec s).2) := by
  cases t with
  | createMachine req vmId picks =>
    have hstay := housed_frame hknown hallow h
    generalize hr : (o.exec s).2 = r at hstay ⊢
    have hsame := housed_of_early hstay fun hlate => late_of_late (t := .createMachine req vmId picks) (r := r) hlate
    cases hgrant with
    | free hfree => cases hfree
    | unwatched ho =>
      rw [Stage.next_of_unwatched ho]
      exact hsame
    | find =>
      cases r with
      | error e => trivial
      | ok cluster =>
        obtain ⟨hmem, hid⟩ := Db.getCluster_ok hr
        exact ⟨hid, recalls_of_mem hrows hmem, hcarved _ hmem⟩
    | address =>
      cases r with
      | error e => exact hsame
      | ok ip => exact ⟨hstay, contains_of_allocate hvalid hstay.2.2 (Write.apply_of_ok hr)⟩
    | insertVm =>
      cases r with
      | error e => exact hsame
      | ok u =>
        cases hallow with
        | insert => rfl
    | giveBack => exact hstay.1
    | placed => exact hsame
  | _ => trivial

/-- A VM goes in with an address of the cluster that its foreign key finds. -/
theorem housed_of_insert {vm : VmRow} {gpus : List GpuAssignment} {disks : List DiskPlacement}
    (hallow : Allows t g (.write (.insertVm vm gpus disks)))
    (hgrant : Grants settings t a (.write (.insertVm vm gpus disks))) (h : housed settings.network γ s.db t g a) :
    ∀ k ∈ s.db.clusters.rows, k.id = vm.clusterId → k.cidr.contains vm.ipAddress = true := by
  cases hallow with
  | insert hid hstate =>
    cases hgrant with
    | free hfirst => cases hfirst
    | unwatched ho => cases ho
    | placed => cases h
    | insertVm hcluster =>
      obtain ⟨⟨hread, hrecalls, -⟩, hinside⟩ := h
      intro k hk hkid
      have hsame := hrecalls.same k hk (hkid.trans (hcluster.trans hread.symm))
      rw [← hsame]
      exact hinside

/-- Every VM stays housed. -/
theorem Db.Housed.exec (hrows : RowsNoted started γ s.db) (hfk : s.db.ForeignKeys) (hknown : IdsKnown t g γ)
    (hallow : Allows t g o) (hgrant : Grants settings t a o) (hhand : housed settings.network γ s.db t g a)
    (h : s.db.Housed) : (o.exec s).1.db.Housed := by
  refine o.db_elim s h ?_
  rintro w rfl
  intro v' hv' k' hk' hid
  rcases Write.vms_exec hv' with ⟨v, hv, hleaves⟩ | ⟨⟨gpus, disks, rfl⟩, -⟩
  · rcases Write.clusters_exec hk' with ⟨k, hk, hsame⟩ | ⟨rfl, -⟩
    · rw [← hleaves.same.ipAddress, ← hsame]
      exact h v hv k hk (hsame.id.trans (hid.trans hleaves.same.clusterId.symm))
    · -- a new cluster has no VMs yet
      obtain ⟨k, hk, hkid⟩ := hfk.vms v hv
      have hunused := unused_of_insertCluster hknown hallow
      rw [hid, ← hleaves.same.clusterId, ← hkid] at hunused
      exact absurd (hrows.clusters k hk) hunused
  · rcases Write.clusters_exec hk' with ⟨k, hk, hsame⟩ | ⟨hinsert, -⟩
    · rw [← hsame]
      exact housed_of_insert hallow hgrant hhand k hk (hsame.id.trans hid)
    · cases hinsert

/-- **The address of a VM is one of its cluster's.** -/
theorem tenants_sound (hvalid : settings.network.Valid) (C : Cell → Event Activity → Prop) :
    (tenants settings).SoundOver (slotted settings) (cellDiscipline settings) (cell settings) C where
  spawn := by
    intro started γ s t _ hinv
    refine ⟨hinv.2, ?_⟩
    show housed settings.network γ s.db t .start t.firstStage
    cases t <;> trivial
  exec := by
    intro c γ i t g o hfires
    obtain ⟨⟨hrows, hcarved⟩, hfk, hhoused⟩ := hfires.inv
    obtain ⟨⟨hknown, -⟩, hhand⟩ := hfires.holds
    obtain ⟨hallow, hgrant⟩ := hfires.allowed
    refine ⟨⟨?_, hhoused.exec hrows hfk hknown hallow hgrant hhand⟩,
      housed_next hvalid hrows hcarved hknown hallow hgrant hhand⟩
    cases o with
    | query q => exact hfk
    | mem m =>
      show ((Op.mem m).exec c.shared).1.db.ForeignKeys
      rw [Op.exec_mem_db]
      exact hfk
    | write w => exact hfk.exec
  frame := by
    intro c γ i t g o task g' hfires _ _ _ hholds
    exact housed_frame hfires.holds.1.1 hfires.allowed.1 hholds.2
  reboot := id
  reboot_holds := id

end Layer

end BasisCell
