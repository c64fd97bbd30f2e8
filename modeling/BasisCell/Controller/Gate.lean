import BasisCell.Controller.Capacity
import BasisCell.Controller.Placement

/-!
# `BasisCell.Controller.Gate` — the scheduler and the commit gate on one database

`schedule` and the `WHERE EXISTS` of `insert_vm` ask the same four questions twice: the scheduler in `u32` GiB, with
a negative remainder counted as zero, the gate in signed bytes. They agree on a resource that the request asks
something of. Of a resource that it asks nothing of, the scheduler asks for no more than zero, while the gate still
wants the total to cover what is used: a host whose total has dropped below that is picked and then refused
(`gate_agrees_iff`, `gate_refuses_pick`).

The second half is about the sizes of the data disks. They are cut to `u32` on the way to the host fit test, so
everything is exact for requests of less than `2 ^ 32` GiB in all, and not beyond (`sizes_exact_iff`).
-/

namespace BasisCell

open Relational Table List

/-! ## What a request asks for -/

/-- The sizes of all data disks, in GiB. -/
def CreateMachineRequest.sizeGib (req : CreateMachineRequest) : Nat := (req.storageDisks.map (·.minSizeGib)).sum

/-- What the request asks of a resource, in the units of the row's column. -/
def CreateMachineRequest.asks (req : CreateMachineRequest) : Resource → Nat
  | .cpu => req.cpu
  | .memory => req.memoryMib
  | .rootfs => req.diskGib
  | .data => req.sizeGib

/-- The sizes fit: nothing of the request is cut on the way to the scheduler or saturates in the gate. -/
structure CreateMachineRequest.Narrow (req : CreateMachineRequest) : Prop where
  rootfs : req.diskGib < 2 ^ 32
  data : req.sizeGib < 2 ^ 32

/-- What the VMs of a host use of a resource, as both queries sum it. -/
def Db.used (db : Db) (host : HostRow) : Resource → Int
  | .cpu => db.usedOn host.id (·.cpu)
  | .memory => db.usedOn host.id (·.memoryMib)
  | .rootfs => db.usedOn host.id (·.diskGib)
  | .data => db.usedOn host.id VmRow.dataGib

theorem le_sizeGib {req : CreateMachineRequest} {d : StorageDisk} (hd : d ∈ req.storageDisks) :
    d.minSizeGib ≤ req.sizeGib :=
  single_le_sum (fun _ _ => Nat.zero_le _) _ (mem_map_of_mem hd)

/-- The demand of the host fit test is the sum of the sizes iff the sum fits in a `u32`. -/
theorem dataGib_ofCreate_iff {req : CreateMachineRequest} :
    (ScheduleRequest.ofCreate req).dataGib = req.sizeGib ↔ req.sizeGib < 2 ^ 32 := by
  constructor
  · intro h
    rw [← h]
    exact Nat.mod_lt _ (by decide)
  · intro h
    have hcut : (req.storageDisks.map fun d => d.minSizeGib % 2 ^ 32) = req.storageDisks.map (·.minSizeGib) :=
      map_congr_left fun d hd => Nat.mod_eq_of_lt (lt_of_le_of_lt (le_sizeGib hd) h)
    show (req.storageDisks.map fun d => d.minSizeGib % 2 ^ 32).sum % 2 ^ 32 = req.sizeGib
    rw [hcut]
    exact Nat.mod_eq_of_lt h

/-! ## The row that is committed -/

section Row

variable {req : CreateMachineRequest} {vmId : VmId} {decision : ScheduleDecision} {ip : Ipv4Addr}

/-- The disks of a decision have the sizes of the request. -/
theorem sizes_of_pick {clusterId : ClusterId} {view : HostStorageView} {ps : List DiskPlacement}
    (h : pickDiskPlacements clusterId view req.storageDisks = some ps) :
    ps.map (·.minSizeGib) = req.storageDisks.map (·.minSizeGib) := by
  have hsame : List.Forall₂ (fun (d : StorageDisk) (p : DiskPlacement) => d.minSizeGib = p.minSizeGib)
      req.storageDisks ps := (placedOn_of_pick h).imp fun _ _ hdp => hdp.1.symm
  have heq := List.forall₂_map_left_iff.mpr (List.forall₂_map_right_iff.mpr hsame)
  rw [List.forall₂_eq_eq_eq] at heq
  exact heq.symm

theorem minSizeSum_placedRow (vmId : VmId) (ip : Ipv4Addr)
    (hsizes : decision.disks.map (·.minSizeGib) = req.storageDisks.map (·.minSizeGib)) :
    (placedRow req vmId decision ip).minSizeSum = req.sizeGib := by
  unfold VmRow.minSizeSum CreateMachineRequest.sizeGib
  rw [← hsizes, Nat.cast_list_sum, map_map]
  show ((decision.disks.map (DiskPlacement.entry vmId)).map _).sum = _
  rw [map_map]
  rfl

theorem storageDisksSumGib_placedRow (req : CreateMachineRequest) (vmId : VmId) (decision : ScheduleDecision)
    (ip : Ipv4Addr) : ∃ s, (placedRow req vmId decision ip).storageDisksSumGib = some s := by
  have hparse : ∀ ps : List DiskPlacement, ∃ ds,
      (ps.map (DiskPlacement.entry vmId)).mapM DiskEntry.parse = some ds := by
    intro ps
    induction ps with
    | nil => exact ⟨[], rfl⟩
    | cons p ps ih =>
      obtain ⟨ds, hds⟩ := ih
      rw [map_cons, mapM_cons, hds]
      exact ⟨_, rfl⟩
  obtain ⟨ds, hds⟩ := hparse decision.disks
  exact ⟨_, Option.map_eq_some_iff.mpr ⟨ds, hds, rfl⟩⟩

/-- Rust's sum of the row is the sum of the request. -/
theorem storageDisksSumGib_of_narrow (vmId : VmId) (ip : Ipv4Addr) (hdata : req.sizeGib < 2 ^ 32)
    (hsizes : decision.disks.map (·.minSizeGib) = req.storageDisks.map (·.minSizeGib)) :
    (placedRow req vmId decision ip).storageDisksSumGib = some (req.sizeGib : Int) := by
  obtain ⟨s, hs⟩ := storageDisksSumGib_placedRow req vmId decision ip
  have hsum := minSizeSum_placedRow vmId ip hsizes
  have hbytes : (placedRow req vmId decision ip).minSizeSum * gib ≤ i64Max := by
    rw [hsum]
    unfold gib i64Max
    omega
  rw [hs, storageDisksSumGib_eq hs hbytes, hsum]

end Row

/-! ## The two tests -/

/-- **One resource, asked twice.** What the scheduler lets through, the gate lets through too, unless nothing is asked
    for and more is used than there is. -/
theorem room_iff {limit used : Int} {asked : Nat} (unit : Int) (hunit : 0 < unit) (hused : 0 ≤ used ∨ unit = 1)
    (h : asked ≤ remaining (limit.tdiv unit) used) :
    (used + asked) * unit ≤ limit ↔ (asked = 0 → used * unit ≤ limit) := by
  rcases Nat.eq_zero_or_pos asked with rfl | hpos
  · simp
  · refine iff_of_true ?_ fun hzero => absurd hzero (Nat.pos_iff_ne_zero.mp hpos)
    have hfit : used + asked ≤ limit.tdiv unit := by
      unfold remaining saturatingSub i64Max at h
      omega
    rcases hused with hnonneg | rfl
    · -- something is left, so the total is positive and the division is by the floor
      have hlimit : 0 ≤ limit := by
        by_contra hneg
        have hdiv : 0 ≤ (-limit).tdiv unit := Int.tdiv_nonneg (by omega) (by omega)
        rw [Int.neg_tdiv] at hdiv
        omega
      rw [Int.tdiv_eq_ediv_of_nonneg hlimit] at hfit
      calc (used + asked) * unit ≤ limit / unit * unit := Int.mul_le_mul_of_nonneg_right hfit (by omega)
        _ ≤ limit := Int.ediv_mul_le limit (by omega)
    · rw [Int.tdiv_one] at hfit
      omega

/-- On the host, a resource that the request asks nothing of is not used beyond its total. -/
def Db.Spares (db : Db) (req : CreateMachineRequest) (host : HostRow) : Prop :=
  ∀ r, req.asks r = 0 → db.used host r * r.unit ≤ host.limit db.effectiveCpu r

section Gate

variable {db : Db} {req : CreateMachineRequest} {vmId : VmId} {decision : ScheduleDecision} {ip : Ipv4Addr}
  {host : HostRow} {iterate : List Nat → List Nat}

theorem gateExact_of_lt {size : Nat} (h : size < 2 ^ 32) : saturatingMul size gib = size * gib := by
  apply saturatingMul_of_mem
  · exact Int.mul_nonneg (Int.natCast_nonneg _) (by decide)
  · unfold gib i64Max
    omega

theorem hasRoom_iff (vmId : VmId) (ip : Ipv4Addr) (hreq : req.Narrow) (hid : host.id = decision.hostId)
    (hhealthy : host.healthy = true) :
    db.hasRoom (placedRow req vmId decision ip) (saturatingMul (placedRow req vmId decision ip).diskGib gib)
        (saturatingMul req.sizeGib gib) host = true ↔
      ∀ r, (db.used host r + req.asks r) * r.unit ≤ host.limit db.effectiveCpu r := by
  have hrootfs : saturatingMul (placedRow req vmId decision ip).diskGib gib = req.diskGib * gib :=
    gateExact_of_lt hreq.rootfs
  have hall : (∀ r, (db.used host r + req.asks r) * r.unit ≤ host.limit db.effectiveCpu r) ↔
      (db.usedOn host.id (·.cpu) + req.cpu) * 1 ≤ db.effectiveCpu host.totalCpu ∧
      (db.usedOn host.id (·.memoryMib) + req.memoryMib) * 1 ≤ host.totalMemoryMib ∧
      (db.usedOn host.id (·.diskGib) + req.diskGib) * gib ≤ host.rootfsTotalBytes ∧
      (db.usedOn host.id VmRow.dataGib + req.sizeGib) * gib ≤ host.dataTotalBytes := by
    refine ⟨fun h => ⟨h .cpu, h .memory, h .rootfs, h .data⟩, fun ⟨hcpu, hmemory, hroot, hdisks⟩ r => ?_⟩
    cases r <;> assumption
  rw [hall, hrootfs, gateExact_of_lt hreq.data, Int.add_mul _ _ gib, Int.add_mul _ _ gib]
  refine decide_eq_true_iff.trans ((and_iff_right hid).trans ((and_iff_right hhealthy).trans ?_))
  show _ ≥ (req.cpu : Int) ∧ _ ≥ (req.memoryMib : Int) ∧ _ ↔ _
  omega

theorem usedOn_nonneg {w : VmRow → Int} (hw : ∀ v ∈ db.vms.rows, 0 ≤ w v) (hostId : HostId) :
    0 ≤ db.usedOn hostId w := by
  refine sum_nonneg fun x hx => ?_
  obtain ⟨v, hv, rfl⟩ := mem_map.mp hx
  exact hw v (mem_filter.mp hv).1

theorem dataGib_nonneg (v : VmRow) : 0 ≤ v.dataGib := by
  refine sum_nonneg fun x hx => ?_
  obtain ⟨e, -, rfl⟩ := mem_map.mp hx
  exact le_min (Int.natCast_nonneg _) (by decide)

/-- **The two tests agree on a host that the scheduler finds fit**, but for what the request asks nothing of. -/
theorem room_iff_spares (hreq : req.Narrow) (hrows : ∀ v ∈ db.vms.rows, 0 ≤ v.diskGib)
    (hfits : (Available.ofHost db.effectiveCpu host (hostUsage (fun _ => db) host.id)).fits (.ofCreate req) = true) :
    (∀ r, (db.used host r + req.asks r) * r.unit ≤ host.limit db.effectiveCpu r) ↔ db.Spares req host := by
  unfold Available.fits Available.ofHost at hfits
  rw [decide_eq_true_iff] at hfits
  obtain ⟨hcpu, hmemory, hrootfs, hdata⟩ := hfits
  have hdemand : (ScheduleRequest.ofCreate req).dataGib = req.sizeGib := dataGib_ofCreate_iff.mpr hreq.data
  rw [hdemand] at hdata
  refine forall_congr' fun r => ?_
  cases r with
  | cpu =>
    refine room_iff 1 (by decide) (.inr rfl) ?_
    rw [Int.tdiv_one]
    exact hcpu
  | memory =>
    refine room_iff 1 (by decide) (.inr rfl) ?_
    rw [Int.tdiv_one]
    exact hmemory
  | rootfs => exact room_iff gib (by decide) (.inl (usedOn_nonneg hrows _)) hrootfs
  | data => exact room_iff gib (by decide) (.inl (usedOn_nonneg (fun v _ => dataGib_nonneg v) _)) hdata

end Gate

/-! ## The rows that go with it -/

/-- No row of the database belongs to the VM. -/
structure Db.FreshVm (db : Db) (vmId : VmId) : Prop where
  vms : ∀ v ∈ db.vms.rows, v.id ≠ vmId
  gpus : ∀ g ∈ db.vmGpus.rows, g.vmId ≠ vmId
  disks : ∀ a ∈ db.poolDiskAssignments.rows, a.vmId ≠ vmId ∧ ∀ i : Nat, a.assignmentId ≠ s!"{vmId}-{i}"

section Commit

variable {db : Db} {gpus : List GpuAssignment} {disks : List DiskPlacement}

theorem claimGpus_eq {vms : Table VmRow} {hostId : HostId} {t : Table GpuAssignment}
    (hvm : ∀ g ∈ gpus, vms.rows.any (fun v => v.id = g.vmId) = true) :
    gpus.foldlM (Db.claimGpu vms hostId) t =
      match gpus.foldlM (fun (t : Table GpuAssignment) g => t.insert g) t with
      | none => .error (.capacityRaced hostId)
      | some t' => .ok t' := by
  induction gpus generalizing t with
  | nil => rfl
  | cons g gpus ih =>
    rw [foldlM_cons, foldlM_cons]
    cases hinsert : t.insert g with
    | none =>
      unfold Db.claimGpu
      rw [hinsert]
      rfl
    | some t' =>
      have hclaim : Db.claimGpu vms hostId t g = .ok t' := by
        unfold Db.claimGpu
        rw [hinsert]
        exact if_pos (hvm g mem_cons_self)
      rw [hclaim]
      exact ih fun g' hg' => hvm g' (mem_cons_of_mem _ hg')

/-- Numbered disks of a fresh VM make assignments that clash with nothing. -/
theorem insert_assignments (vm : VmRow) (hfresh : db.FreshVm vm.id)
    (hindex : disks.map (·.diskIndex) = List.range disks.length) :
    (Db.insertAll db.poolDiskAssignments (disks.map (Db.assignmentOf vm))).isSome = true := by
  refine foldlM_insert_isSome_iff.mpr ⟨?_, ?_⟩
  · intro a ha r hr hclash
    obtain ⟨d, -, rfl⟩ := mem_map.mp hr
    obtain ⟨hvm, hid⟩ := hfresh.disks a ha
    rcases hclash with hsame | ⟨hsame, -⟩
    · exact hid d.diskIndex hsame
    · exact hvm hsame
  · rw [pairwise_map]
    have hnodup : (disks.map (·.diskIndex)).Nodup := hindex ▸ nodup_range
    rw [List.Nodup, pairwise_map] at hnodup
    refine hnodup.imp fun {d e} hne hclash => ?_
    rcases hclash with hsame | ⟨-, hsame⟩
    · exact hne (Nat.repr_inj.mp ((String.append_right_inj _).mp hsame))
    · exact hne hsame

/-- A new assignment of free GPUs clashes only with another one of its own. -/
theorem insert_gpus_iff {vmId : VmId} {hostId : HostId} (picked : List GpuInfo) (hfresh : db.FreshVm vmId)
    (hfree : ∀ g ∈ picked, g.pciAddress ∉ db.assignedPci hostId) :
    ((picked.map (GpuAssignment.fromSchedulerPick vmId hostId)).foldlM
        (fun (t : Table GpuAssignment) g => t.insert g) db.vmGpus).isSome = true ↔
      (picked.map (·.pciAddress)).Nodup := by
  rw [foldlM_insert_isSome_iff, List.Nodup, pairwise_map, pairwise_map]
  constructor
  · rintro ⟨-, hpair⟩
    exact hpair.imp fun {a b} hne hsame => hne ⟨hsame, .inl rfl⟩
  · intro hpair
    refine ⟨?_, hpair.imp fun {a b} hne hclash => hne hclash.1⟩
    intro a ha g hg hclash
    obtain ⟨info, hinfo, rfl⟩ := mem_map.mp hg
    obtain ⟨hpci, hvm | hhost⟩ := hclash
    · exact hfresh.gpus a ha hvm
    · refine hfree info hinfo ?_
      show info.pciAddress ∈ (db.vmGpus.rows.filter fun g => g.hostId = hostId).map (·.pciAddress)
      exact mem_map.mpr ⟨a, mem_filter.mpr ⟨ha, decide_eq_true hhost⟩, hpci⟩

end Commit

/-- The call was turned away for want of room or of a host. -/
def Refused (r : Except DbError Db) : Prop :=
  ∃ hostId, r = .error (.capacityRaced hostId) ∨ r = .error (.hostUnavailable hostId)

section Agreement

variable {db : Db} {req : CreateMachineRequest} {vmId : VmId} {decision : ScheduleDecision} {ip : Ipv4Addr}
  {iterate : List Nat → List Nat}

/-- The row can be stored: its name is free in the cluster, and the cluster is there. -/
def Db.Admits (db : Db) (vm : VmRow) : Prop :=
  (db.vms.insert vm).isSome = true ∧ ∃ c ∈ db.clusters.rows, c.id = vm.clusterId

/-- What a decision on this database says of its host. -/
theorem picked_host (hiterate : ∀ l, (iterate l).Perm l)
    (hpick : (fleetOf (fun _ => db) req.clusterId).schedule iterate (.ofCreate req) = .ok decision) :
    ∃ host ∈ db.hosts.rows, host.healthy = true ∧ host.id = decision.hostId ∧
      (Available.ofHost db.effectiveCpu host (hostUsage (fun _ => db) host.id)).fits (.ofCreate req) = true ∧
      (∀ g ∈ decision.gpus, g.pciAddress ∉ db.assignedPci host.id) ∧
      pickDiskPlacements req.clusterId (hostStorage (fun _ => db) host.id) req.storageDisks = some decision.disks := by
  obtain ⟨c, hc, -, rfl⟩ := schedule_eq_ok hpick
  obtain ⟨host, hhost, hhealthy, hcand⟩ := mem_candidates.mp hc
  obtain ⟨hsame, -, hfits, hgpus, hdisks, -⟩ := candidate_inv hcand
  obtain ⟨-, -, -, hsub⟩ := selectGpus_some hiterate hgpus
  refine ⟨host, (mem_filter.mp hhost).1, hhealthy, congrArg (·.id) hsame.symm, hfits, fun g hg => ?_,
    selectDisks_eq.symm.trans hdisks⟩
  exact of_decide_eq_true (mem_filter.mp (hsub.subset hg)).2

/-- Past the gate, only a PCI address that is picked twice is left to fail on. -/
theorem refused_commitVm_iff (req : CreateMachineRequest) (ip : Ipv4Addr) {host : HostRow}
    (hhost : host.id = decision.hostId) (hfresh : db.FreshVm vmId)
    (hfree : ∀ g ∈ decision.gpus, g.pciAddress ∉ db.assignedPci host.id)
    (hindex : decision.disks.map (·.diskIndex) = List.range decision.disks.length) :
    Refused (db.commitVm (placedRow req vmId decision ip)
        (decision.gpuAssignments vmId) decision.disks) ↔
      db.Admits (placedRow req vmId decision ip) ∧ ¬ (decision.gpus.map (·.pciAddress)).Nodup := by
  unfold Db.commitVm Db.Admits
  cases hvms : db.vms.insert (placedRow req vmId decision ip) with
  | none =>
    refine iff_of_false ?_ fun h => nomatch h.1.1
    rintro ⟨h, heq | heq⟩ <;> cases heq
  | some vms =>
    by_cases hcluster : ∃ c ∈ db.clusters.rows, c.id = (placedRow req vmId decision ip).clusterId
    · have hany : (db.clusters.rows.any fun c => c.id = (placedRow req vmId decision ip).clusterId) = true := by
        simpa using hcluster
      have hstored : ∀ g ∈ decision.gpuAssignments vmId,
          vms.rows.any (fun v => v.id = g.vmId) = true := by
        intro g hg
        obtain ⟨info, -, rfl⟩ := mem_map.mp hg
        exact any_eq_true.mpr ⟨_, (mem_insert hvms).mpr (.inr rfl), decide_eq_true rfl⟩
      have hclaims := insert_gpus_iff decision.gpus hfresh (hhost ▸ hfree)
      obtain ⟨disks, hdisks⟩ := Option.isSome_iff_exists.mp
        (insert_assignments (placedRow req vmId decision ip) hfresh hindex)
      dsimp only
      rw [if_pos hany, claimGpus_eq hstored, ← hclaims]
      cases (decision.gpuAssignments vmId).foldlM
          (fun (t : Table GpuAssignment) g => t.insert g) db.vmGpus with
      | none =>
        refine iff_of_true ⟨decision.hostId, .inl rfl⟩ ⟨⟨rfl, hcluster⟩, ?_⟩
        simp
      | some vmGpus =>
        dsimp only
        rw [hdisks]
        refine iff_of_false ?_ fun h => h.2 rfl
        rintro ⟨h, heq | heq⟩ <;> cases heq
    · have hany : ¬ (db.clusters.rows.any fun c => c.id = (placedRow req vmId decision ip).clusterId) = true := by
        simpa using hcluster
      dsimp only
      rw [if_neg hany]
      refine iff_of_false ?_ fun h => hcluster h.1.2
      rintro ⟨h, heq | heq⟩ <;> cases heq

/-- **The scheduler and the gate agree** on a picked host iff the host does not use more than it has of what the
    request asks nothing of; and no PCI address is picked twice, if the row can be stored at all. -/
theorem gate_agrees_iff (hiterate : ∀ l, (iterate l).Perm l) (hreq : req.Narrow)
    (hrows : ∀ v ∈ db.vms.rows, 0 ≤ v.diskGib) (hfresh : db.FreshVm vmId)
    (hpick : (fleetOf (fun _ => db) req.clusterId).schedule iterate (.ofCreate req) = .ok decision) :
    ¬ Refused (db.insertVm (placedRow req vmId decision ip)
        (decision.gpuAssignments vmId) decision.disks) ↔
      (∀ host ∈ db.hosts.rows, host.id = decision.hostId → db.Spares req host) ∧
        (db.Admits (placedRow req vmId decision ip) → (decision.gpus.map (·.pciAddress)).Nodup) := by
  obtain ⟨host, hhost, hhealthy, hid, hfits, hfree, hdisks⟩ := picked_host hiterate hpick
  have hsum := storageDisksSumGib_of_narrow vmId ip hreq.data (sizes_of_pick hdisks)
  have hcommit := refused_commitVm_iff req ip hid hfresh hfree (diskIndex_of_pick hdisks)
  -- the ids of hosts are distinct, so the gate looks at the picked host
  have honly : ∀ h ∈ db.hosts.rows, h.id = decision.hostId → h = host := fun h hh heq =>
    eq_of_clash hh hhost (.inl (heq.trans hid.symm))
  have hspares : (∀ h ∈ db.hosts.rows, h.id = decision.hostId → db.Spares req h) ↔ db.Spares req host :=
    ⟨fun h => h host hhost hid, fun h h' hh' heq => honly h' hh' heq ▸ h⟩
  have hgate : (db.hosts.rows.any (db.hasRoom (placedRow req vmId decision ip)
      (saturatingMul (placedRow req vmId decision ip).diskGib gib) (saturatingMul req.sizeGib gib))) = true ↔
        db.Spares req host := by
    rw [← room_iff_spares hreq hrows hfits, ← hasRoom_iff vmId ip hreq hid hhealthy, any_eq_true]
    constructor
    · rintro ⟨h, hh, hroom⟩
      rwa [honly h hh (of_decide_eq_true hroom).1] at hroom
    · exact fun hroom => ⟨host, hhost, hroom⟩
  rw [hspares]
  unfold Db.insertVm
  rw [hsum]
  dsimp only
  by_cases hroom : db.Spares req host
  · rw [if_pos (hgate.mpr hroom), hcommit]
    simp only [not_and, not_not, hroom, true_and]
  · have hup : (db.hosts.rows.any fun h => h.id = (placedRow req vmId decision ip).hostId ∧ h.healthy) = true :=
      any_eq_true.mpr ⟨host, hhost, decide_eq_true ⟨hid, hhealthy⟩⟩
    rw [if_neg (mt hgate.mp hroom), if_pos hup]
    refine iff_of_false (fun h => h ⟨_, .inl rfl⟩) fun h => hroom h.1

end Agreement

/-- A small machine, with the given data disks. -/
def smallMachine (name : String) (sizes : List Nat) : CreateMachineRequest where
  clusterId := "c1"
  name := name
  cpu := 1
  memoryMib := 1024
  diskGib := 10
  storageDisks := sizes.map fun size => { minSizeGib := size, purpose := DiskPurpose.genericData.toI32 }

theorem gate_agrees_iff_twoDeviceCell :
    (smallMachine "a" [60]).Narrow ∧ twoDeviceCell.FreshVm "v1" ∧
      ∃ decision, (fleetOf (fun _ => twoDeviceCell) "c1").schedule id (.ofCreate (smallMachine "a" [60])) =
        .ok decision ∧
        ¬ Refused (twoDeviceCell.insertVm (placedRow (smallMachine "a" [60]) "v1" decision 33)
          (decision.gpuAssignments "v1") decision.disks) := by
  have hreq : (smallMachine "a" [60]).Narrow := ⟨by decide, by decide⟩
  have hfresh : twoDeviceCell.FreshVm "v1" := ⟨by decide +kernel, by decide +kernel, fun a ha => by cases ha⟩
  have hpick : (fleetOf (fun _ => twoDeviceCell) "c1").schedule id (.ofCreate (smallMachine "a" [60])) =
      .ok ⟨"h1", [], [⟨0, "fast", "sda", 60, .genericData⟩]⟩ := by decide +kernel
  refine ⟨hreq, hfresh, _, hpick, ?_⟩
  rw [gate_agrees_iff (fun l => List.Perm.refl l) hreq (by decide +kernel) hfresh hpick]
  refine ⟨fun host hhost _ r => ?_, fun _ => nodup_nil⟩
  have hspare : ∀ host ∈ twoDeviceCell.hosts.rows, ∀ r ∈ [Resource.cpu, .memory, .rootfs, .data],
      (smallMachine "a" [60]).asks r = 0 → twoDeviceCell.used host r * r.unit ≤ host.limit id r := by decide +kernel
  exact hspare host hhost r (by cases r <;> decide)

/-- The cell after a VM with a disk of 60 GiB, and a heartbeat that no longer reports the data pool. -/
def shrunkenCell : Db :=
  ((Write.recordHeartbeat "h1" 2 { rootfsTotalBytes := 100 * gib } []).exec
    ((ScheduleDecision.insertVm ⟨"h1", [], [⟨0, "fast", "sda", 60, .genericData⟩]⟩ (smallMachine "a" [60]) "v1" 33).exec
      twoDeviceCell).1).1

/-- **A pick that the gate refuses.** The request has no data disk, so the scheduler asks for zero of the host's zero
    GiB; the gate finds 60 GiB in use of a total of none. -/
theorem gate_refuses_pick : ∃ decision,
    (fleetOf (fun _ => shrunkenCell) "c1").schedule id (.ofCreate (smallMachine "b" [])) = .ok decision ∧
      (smallMachine "b" []).Narrow ∧ Refused (shrunkenCell.insertVm (placedRow (smallMachine "b" []) "v2" decision 34)
        (decision.gpuAssignments "v2") decision.disks) := by
  refine ⟨⟨"h1", [], []⟩, by decide +kernel, ⟨by decide, by decide⟩, "h1", .inl ?_⟩
  have hraced : ((shrunkenCell.insertVm (placedRow (smallMachine "b" []) "v2" ⟨"h1", [], []⟩ 34) [] []).map
      fun _ => ()) = .error (.capacityRaced "h1") := by decide +kernel
  revert hraced
  cases shrunkenCell.insertVm (placedRow (smallMachine "b" []) "v2" ⟨"h1", [], []⟩ 34) [] [] with
  | ok db => exact nofun
  | error e =>
    intro h
    cases h
    rfl

/-! ## Sizes over the whole unsigned range -/

/-- Every operation of `pick_disk_placements` on a size gives the exact number: the casts, the product, what is taken
    off a device, and the leftover that breaks ties. -/
def PlacementExact (clusterId : ClusterId) (view : HostStorageView) (disks : List StorageDisk) : Prop :=
  ∀ pre d post s ps, disks = pre ++ d :: post →
    Loop.run (placeDisk clusterId view) view.diskLoop pre = some (s, ps) →
    asI64 d.minSizeGib = d.minSizeGib ∧ needBytes d.minSizeGib = d.minSizeGib * gib ∧
    ∀ pool dev, view.Eligible d pool dev → needBytes d.minSizeGib ≤ s.deviceFree (pool.name, dev.deviceId) →
      saturatingSub (s.deviceFree (pool.name, dev.deviceId)) (needBytes d.minSizeGib) =
        s.deviceFree (pool.name, dev.deviceId) - d.minSizeGib * gib ∧
      backendTieBreaker "lvm-linear" dev.freeBytes (needBytes d.minSizeGib) =
        -(dev.freeBytes - d.minSizeGib * gib)

/-- What a database can hold: the reported free bytes are `i64`s. -/
def Db.Typed (db : Db) : Prop := ∀ r ∈ db.hostPoolDevices.rows, r.freeBytes ≤ i64Max

/-- **The sizes of a request are handled exactly**, whatever the databases that are read and written hold. -/
structure SizesExact (req : CreateMachineRequest) : Prop where
  /-- The demand of the host fit test is the sum of the sizes. -/
  demand : (ScheduleRequest.ofCreate req).dataGib = req.sizeGib
  /-- Nothing wraps or saturates in the placement, -/
  placement : ∀ (snapshot : PickRead → Db) (hostId : HostId), (∀ read, (snapshot read).Typed) →
    PlacementExact req.clusterId (hostStorage snapshot hostId) req.storageDisks
  /-- nor in the gate. -/
  gate : ∀ (decision : ScheduleDecision) (vmId : VmId) (ip : Ipv4Addr),
    decision.disks.map (·.minSizeGib) = req.storageDisks.map (·.minSizeGib) →
    (placedRow req vmId decision ip).storageDisksSumGib = some (req.sizeGib : Int) ∧
      saturatingMul req.sizeGib gib = req.sizeGib * gib
  /-- What both accept is within the free bytes of every device and what is left of the host. -/
  within : ∀ (snapshot : PickRead → Db) (iterate : List Nat → List Nat) (decision : ScheduleDecision) (db db' : Db)
    (vmId : VmId) (ip : Ipv4Addr), (∀ read, (snapshot read).Typed) → pickHost snapshot iterate req = .ok decision →
    db.insertVm (placedRow req vmId decision ip)
      (decision.gpuAssignments vmId) decision.disks = .ok db' →
    (∀ pool ∈ (hostStorage snapshot decision.hostId).pools, ∀ dev ∈ pool.devices,
      (∃ p ∈ decision.disks, p.key = (pool.name, dev.deviceId)) →
        occupied decision.disks (pool.name, dev.deviceId) ≤ dev.freeBytes) ∧
    ∀ host ∈ db.hosts.rows, host.id = decision.hostId →
      (req.sizeGib : Int) * gib ≤ host.dataTotalBytes - db.usedOn host.id VmRow.dataGib * gib

section Views

variable {snapshot : PickRead → Db} {hostId : HostId}

/-- The keys of a host's devices are distinct in the view that `pick_host` builds of it. -/
theorem hostStorage_keys_nodup (snapshot : PickRead → Db) (hostId : HostId) :
    ((hostStorage snapshot hostId).slots.map HostStorageView.key).Nodup := by
  unfold hostStorage HostStorageView.fromRows HostStorageView.slots
  dsimp only
  rw [flatMap_map, map_flatMap, nodup_flatMap]
  constructor
  · intro p _
    -- within a pool: the primary key of `host_pool_devices`
    rw [map_map, map_map, List.Nodup, pairwise_map]
    have hdistinct := (snapshot (.devices hostId p.pool)).hostPoolDevices.distinct.filter
      fun d => d.hostId = hostId ∧ d.pool = p.pool
    have hsorted : ((snapshot (.devices hostId p.pool)).listPoolDevices hostId p.pool).Pairwise
        fun a b => ¬ Schema.Clash a b :=
      (perm_insertionSort _ _).symm.pairwise hdistinct fun hab hba => hab (Schema.clash_symm hba)
    refine hsorted.imp_of_mem fun {a b} ha hb hclash hkey => hclash ?_
    have ha := of_decide_eq_true (mem_filter.mp ((mem_insertionSort _).mp ha)).2
    have hb := of_decide_eq_true (mem_filter.mp ((mem_insertionSort _).mp hb)).2
    exact ⟨ha.1.trans hb.1.symm, ha.2.trans hb.2.symm, (Prod.mk.inj hkey).2⟩
  · -- between pools: that of `host_pools`
    have hdistinct := (snapshot (.pools hostId)).hostPools.distinct.filter fun p => p.hostId = hostId
    refine hdistinct.imp_of_mem fun {a b} ha hb hclash => ?_
    have ha := of_decide_eq_true (mem_filter.mp ha).2
    have hb := of_decide_eq_true (mem_filter.mp hb).2
    intro key hka hkb
    simp only [map_map, mem_map] at hka hkb
    obtain ⟨d, -, rfl⟩ := hka
    obtain ⟨e, -, heq⟩ := hkb
    exact hclash ⟨ha.trans hb.symm, (Prod.mk.inj heq).1.symm⟩

theorem hostStorage_free_le (hostId : HostId) (htyped : ∀ read, (snapshot read).Typed) :
    ∀ pool ∈ (hostStorage snapshot hostId).pools, ∀ dev ∈ pool.devices, dev.freeBytes ≤ i64Max := by
  intro pool hpool dev hdev
  obtain ⟨p, -, rfl⟩ := mem_map.mp hpool
  obtain ⟨row, hrow, rfl⟩ := mem_map.mp hdev
  exact htyped _ row (mem_filter.mp ((mem_insertionSort _).mp hrow)).1

end Views

section Exact

variable {req : CreateMachineRequest}

theorem placementExact_of_lt (hdata : req.sizeGib < 2 ^ 32) {snapshot : PickRead → Db} {hostId : HostId}
    (htyped : ∀ read, (snapshot read).Typed) :
    PlacementExact req.clusterId (hostStorage snapshot hostId) req.storageDisks := by
  intro pre d post s ps hsplit hrun
  have hfree := hostStorage_free_le hostId htyped
  have hmax := HostStorageView.deviceFree_le hfree
  have hsize : ∀ d ∈ req.storageDisks, d.minSizeGib < 2 ^ 32 := fun d hd => lt_of_le_of_lt (le_sizeGib hd) hdata
  have hpre : ∀ d' ∈ pre, d'.minSizeGib < 2 ^ 33 := by
    intro d' hd'
    have hlt := hsize d' (hsplit ▸ mem_append_left _ hd')
    omega
  have hd : d.minSizeGib < 2 ^ 32 := hsize d (hsplit ▸ mem_append_right _ mem_cons_self)
  have hneed := needBytes_of_lt (show d.minSizeGib < 2 ^ 33 by omega)
  have htrack := tracks_run hmax hpre hrun
  refine ⟨asI64_of_le (by unfold i64Max; omega), hneed, fun pool dev helig hroom => ?_⟩
  refine ⟨htrack.sub_exact hmax (by omega) hroom, ?_⟩
  -- the device has the room, so its leftover is between zero and its free bytes
  rw [htrack.room (hostStorage_keys_nodup snapshot hostId) helig, hneed] at hroom
  have hocc := occupied_nonneg ps (pool.name, dev.deviceId)
  have hle := hfree pool helig.listed dev helig.device
  have hpos : 0 ≤ (d.minSizeGib : Int) * gib := Int.mul_nonneg (Int.natCast_nonneg _) (by decide)
  unfold DeviceView.roomAfter at hroom
  have hleft : 0 ≤ dev.freeBytes - (d.minSizeGib : Int) * gib := by omega
  have hmost : dev.freeBytes - (d.minSizeGib : Int) * gib ≤ i64Max := by omega
  have hmin : -i64Max ≤ 0 := by decide
  unfold backendTieBreaker
  rw [if_pos rfl, hneed, wrapI64_of_mem hleft hmost]
  exact wrapI64_neg (hmin.trans hleft) hmost

/-- **Sizes are exact iff they come to less than `2 ^ 32` GiB in all.** -/
theorem sizes_exact_iff (req : CreateMachineRequest) : SizesExact req ↔ req.sizeGib < 2 ^ 32 := by
  constructor
  · exact fun h => dataGib_ofCreate_iff.mp h.demand
  · intro hdata
    refine ⟨dataGib_ofCreate_iff.mpr hdata, fun _ _ htyped => placementExact_of_lt hdata htyped,
      fun _ vmId ip hsizes => ⟨storageDisksSumGib_of_narrow vmId ip hdata hsizes, gateExact_of_lt hdata⟩, ?_⟩
    intro snapshot iterate decision db db' vmId ip htyped hpick hinsert
    have hdisks := pickHost_ok hpick
    constructor
    · rintro pool hpool dev hdev ⟨p, hp, hkey⟩
      refine occupied_le (hostStorage_keys_nodup _ _) (hostStorage_free_le _ htyped) ?_ hdisks hpool hdev hp hkey
      intro d hd
      have hlt := lt_of_le_of_lt (le_sizeGib hd) hdata
      omega
    · intro host hhost hid
      obtain ⟨s, h, _, _, _, hsum, hh, hroom, -⟩ := Db.insertVm_ok hinsert
      rw [storageDisksSumGib_of_narrow vmId ip hdata (sizes_of_pick hdisks)] at hsum
      rw [← Option.some.inj hsum, gateExact_of_lt hdata] at hroom
      obtain ⟨hhid, -, -, -, -, hbytes⟩ := of_decide_eq_true hroom
      obtain rfl : h = host := eq_of_clash hh hhost (.inl (hhid.trans hid.symm))
      exact hbytes

end Exact

/-- **A disk of `2 ^ 63` GiB fits everywhere.** Cut to `u32` it adds nothing to the demand, and as an `i64` it is the
    most negative number, which every device and every host has room for. -/
theorem huge_disk_accepted : ∃ decision db',
    (∀ read, ((fun _ => twoDeviceCell : PickRead → Db) read).Typed) ∧
    pickHost (fun _ => twoDeviceCell) id (smallMachine "a" [2 ^ 63]) = .ok decision ∧
    twoDeviceCell.insertVm (placedRow (smallMachine "a" [2 ^ 63]) "v1" decision 33)
      (decision.gpuAssignments "v1") decision.disks = .ok db' ∧
    (ScheduleRequest.ofCreate (smallMachine "a" [2 ^ 63])).dataGib = 0 ∧
    ¬ SizesExact (smallMachine "a" [2 ^ 63]) ∧
    ∃ pool ∈ (hostStorage (fun _ => twoDeviceCell) decision.hostId).pools, ∃ dev ∈ pool.devices,
      dev.freeBytes < occupied decision.disks (pool.name, dev.deviceId) := by
  have htyped : twoDeviceCell.Typed := by
    unfold Db.Typed
    decide +kernel
  have hok : (twoDeviceCell.insertVm
      (placedRow (smallMachine "a" [2 ^ 63]) "v1" ⟨"h1", [], [⟨0, "fast", "sda", 2 ^ 63, .genericData⟩]⟩ 33) []
      [⟨0, "fast", "sda", 2 ^ 63, .genericData⟩]).toBool = true := by decide +kernel
  obtain ⟨db', hinsert⟩ := Fallible.exists_of_toBool hok
  refine ⟨⟨"h1", [], [⟨0, "fast", "sda", 2 ^ 63, .genericData⟩]⟩, db', fun _ => htyped, by decide +kernel, hinsert,
    by decide +kernel, fun h => absurd h.demand (by decide +kernel), by decide +kernel⟩

end BasisCell
