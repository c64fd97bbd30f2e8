import BasisCell.Lib.Select
import BasisCell.Controller.Gate
import BasisCell.Controller.Ledger

/-!
# `BasisCell.Controller.Spread` — where replicas go

REPLICATED disks of one cluster are to be kept apart, between the devices of a host and between hosts. The devices of a
host are told apart by whether they hold any replica of the cluster at all, and by whether this VM uses them already;
how many they hold is not looked at (`fourth_replica_joins_two`). Hosts are compared by how many rows the ledger has for
the cluster, which are its replicas as long as no VM of it was ever deleted (`stale_rows_tilt`).
-/

namespace BasisCell

open Relational List Transition

/-! ## Devices -/

section Ranks

variable (db : Db) (view : HostStorageView) (snapshot : PickRead → Db) (hostId : HostId) (clusterId : ClusterId)
  (s : DiskLoop) (placed : List DiskPlacement) (disk : StorageDisk)

/-- The REPLICATED assignments of the cluster that are stored for a device. -/
def Db.storedReplicas (key : String × String) : Nat :=
  (db.listHostReplicatedAssignments hostId).countP fun r => r.clusterId = clusterId ∧ (r.pool, r.deviceId) = key

/-- Together with the REPLICATED disks of this VM that are placed already. -/
def heldReplicas (key : String × String) : Nat :=
  db.storedReplicas hostId clusterId key + placed.countP fun p => p.purpose = .replicated ∧ p.key = key

/-- The schedulable devices of matching pools with room for the disk. -/
def HostStorageView.roomy : List (PoolView × DeviceView) :=
  view.slots.filter fun slot => disk.wants.satisfies slot.1.labels ∧ slot.2.schedulable ∧
    needBytes disk.minSizeGib ≤ s.deviceFree (HostStorageView.key slot)

/-- Those of them whose pools are preferred most. -/
def HostStorageView.foremost : List (PoolView × DeviceView) :=
  Select.best (fun slot => disk.wants.score slot.1.labels) (view.roomy s disk)

/-- How a device ranks among them: without a stored replica of the cluster first, then not used by this VM, then with
    the smaller leftover. -/
def replicaRank (slot : PoolView × DeviceView) : Int ×ₗ Int ×ₗ Int :=
  toLex (if clusterId ≠ "" ∧ 0 < db.storedReplicas hostId clusterId (HostStorageView.key slot) then -1 else 0,
    toLex (if ∃ p ∈ placed, p.key = HostStorageView.key slot then -1 else 0,
      backendTieBreaker slot.1.backend slot.2.freeBytes (needBytes disk.minSizeGib)))

/-- The disk goes to a device that is preferred most and holds the fewest replicas. -/
def SpreadOut (p : DiskPlacement) : Prop :=
  let held := heldReplicas (snapshot (.replicatedAssignments hostId)) hostId clusterId placed
  ∃ slot ∈ (hostStorage snapshot hostId).foremost s disk, HostStorageView.key slot = p.key ∧
    ∀ other ∈ (hostStorage snapshot hostId).foremost s disk,
      held (HostStorageView.key slot) ≤ held (HostStorageView.key other)

instance (p : DiskPlacement) : Decidable (SpreadOut snapshot hostId clusterId s placed disk p) :=
  inferInstanceAs (Decidable (∃ slot ∈ (hostStorage snapshot hostId).foremost s disk, _ ∧ _))

/-- Among the devices that are preferred most, one with the fewest replicas ranks before all that hold more. -/
def RanksFewestFirst : Prop :=
  let db := snapshot (.replicatedAssignments hostId)
  let held := fun slot => heldReplicas db hostId clusterId placed (HostStorageView.key slot)
  let foremost := (hostStorage snapshot hostId).foremost s disk
  ∃ slot ∈ foremost, (∀ other ∈ foremost, held slot ≤ held other) ∧
    ∀ other ∈ foremost, held slot < held other →
      Select.Before (replicaRank db hostId clusterId placed disk) foremost slot other

end Ranks

/-! ### What is picked -/

section Devices

variable {snapshot : PickRead → Db} {hostId : HostId} {clusterId : ClusterId} {view : HostStorageView}
  {s s' : DiskLoop} {disk : StorageDisk} {p : DiskPlacement} {ps : List DiskPlacement}

/-- The candidates of the two loops are the roomy devices, in order. -/
theorem diskCandidates_eq_map (clusterId : ClusterId) (view : HostStorageView) (s : DiskLoop) (disk : StorageDisk) :
    diskCandidates clusterId view s.deviceFree s.used disk =
      (view.roomy s disk).map fun slot => diskCandidate clusterId s.used disk slot.1 slot.2 := by
  unfold diskCandidates HostStorageView.roomy HostStorageView.slots
  dsimp only
  induction view.pools with
  | nil => rfl
  | cons pool pools ih =>
    rw [flatMap_cons, filter_append, map_append, ← ih]
    by_cases hmeets : (disk.selector.getD {}).satisfies pool.labels = true
    · rw [filter_cons, if_pos hmeets, flatMap_cons]
      congr 1
      rw [filter_map, map_map]
      have hsame : disk.wants.satisfies pool.labels = true := hmeets
      simp only [Function.comp_def, hsame, true_and]
      rfl
    · rw [filter_cons, if_neg hmeets]
      rw [(filter_eq_nil_iff (l := pool.devices.map fun d => (pool, d))).mpr, map_nil, nil_append]
      intro slot hslot hsel
      obtain ⟨d, -, rfl⟩ := mem_map.mp hslot
      exact hmeets (of_decide_eq_true hsel).1

/-- The devices that the loop holds as used are those of the placements so far. -/
theorem used_of_run {disks : List StorageDisk}
    (hrun : Loop.run (placeDisk clusterId view) view.diskLoop disks = some (s, ps)) (key : String × String) :
    key ∈ s.used ↔ ∃ p ∈ ps, p.key = key := by
  refine Loop.run_invariant (J := fun s ps => key ∈ s.used ↔ ∃ p ∈ ps, DiskPlacement.key p = key) ?_ ?_ hrun
  · intro s s' ps d p _ hused hstep
    obtain ⟨_, _, -, -, -, -, -, -, hnext, -⟩ := placeDisk_some hstep
    rw [hnext, mem_cons, hused]
    simp only [mem_append, mem_singleton, or_and_right, exists_or, exists_eq_left]
    rw [or_comm, eq_comm]
  · simp [HostStorageView.diskLoop]

/-- What the view keeps of the stored replicas: whether there are any. -/
theorem mem_replicatedClusters (clusterId : ClusterId) {slot : PoolView × DeviceView}
    (h : slot ∈ (hostStorage snapshot hostId).slots) :
    clusterId ∈ slot.2.replicatedClusters ↔
      0 < (snapshot (.replicatedAssignments hostId)).storedReplicas hostId clusterId (HostStorageView.key slot) := by
  obtain ⟨pool, hpool, hslot⟩ := mem_flatMap.mp h
  obtain ⟨dev, hdev, rfl⟩ := mem_map.mp hslot
  obtain ⟨row, -, rfl⟩ := mem_map.mp hpool
  obtain ⟨d, -, rfl⟩ := mem_map.mp hdev
  unfold Db.storedReplicas
  rw [countP_pos_iff]
  refine mem_map.trans (exists_congr fun r => ?_)
  rw [mem_filter, and_assoc, and_comm (b := r.clusterId = clusterId), decide_eq_true_iff, decide_eq_true_iff]
  rfl

/-- The score of a candidate is the preference of its pool, and then its rank. -/
theorem key_diskCandidate (disk : StorageDisk) {disks : List StorageDisk} {slot : PoolView × DeviceView}
    (hrun : Loop.run (placeDisk clusterId (hostStorage snapshot hostId)) (hostStorage snapshot hostId).diskLoop disks =
      some (s, ps)) (h : slot ∈ (hostStorage snapshot hostId).slots) :
    (diskCandidate clusterId s.used disk slot.1 slot.2).score.key = toLex (disk.wants.score slot.1.labels,
      replicaRank (snapshot (.replicatedAssignments hostId)) hostId clusterId ps disk slot) := by
  have hstored := mem_replicatedClusters clusterId h
  have hused := used_of_run hrun (HostStorageView.key slot)
  have hflag : (if clusterId = "" then 0 else if clusterId ∈ slot.2.replicatedClusters then -1 else 0 : Int) =
      if clusterId ≠ "" ∧ 0 < (snapshot (.replicatedAssignments hostId)).storedReplicas hostId clusterId
        (HostStorageView.key slot) then -1 else 0 := by
    by_cases hcluster : clusterId = ""
    · rw [if_pos hcluster, if_neg fun h => h.1 hcluster]
    · rw [if_neg hcluster]
      exact if_congr (hstored.trans (and_iff_right hcluster).symm) rfl rfl
  unfold DiskScore.key diskCandidate replicaRank
  rw [← hflag, if_congr hused.symm rfl rfl]
  rfl

/-- The device that an iteration picks. -/
theorem foremost_of_placeDisk {disks : List StorageDisk}
    (hrun : Loop.run (placeDisk clusterId (hostStorage snapshot hostId)) (hostStorage snapshot hostId).diskLoop disks =
      some (s, ps))
    (hstep : placeDisk clusterId (hostStorage snapshot hostId) s disk = some (s', p)) :
    ∃ slot, HostStorageView.key slot = p.key ∧ slot ∈ ((hostStorage snapshot hostId).foremost s disk).argmax
      (replicaRank (snapshot (.replicatedAssignments hostId)) hostId clusterId ps disk) := by
  unfold placeDisk at hstep
  repeat' split at hstep
  all_goals cases hstep
  rename_i pick hpick
  rw [diskCandidates_eq_map, Select.argmax_map, Option.map_eq_some_iff] at hpick
  obtain ⟨slot, hslot, rfl⟩ := hpick
  refine ⟨slot, rfl, Select.mem_argmax_of_lex ?_⟩
  -- on the roomy devices the two scores are the same
  obtain ⟨hmem, hmax, hfirst⟩ := argmax_eq_some_iff.mp hslot
  have hkey : ∀ other ∈ (hostStorage snapshot hostId).roomy s disk, _ := fun other hother =>
    key_diskCandidate disk hrun (mem_of_mem_filter hother)
  refine mem_argmax_iff.mpr ⟨hmem, fun other hother => ?_, fun other hother hle => ?_⟩
  · rw [← hkey other hother, ← hkey slot hmem]
    exact hmax other hother
  · rw [← hkey other hother, ← hkey slot hmem] at hle
    exact hfirst other hother hle

/-- **A disk goes to a device with the fewest replicas iff such a device ranks before all that hold more**, for each
    disk of a request, REPLICATED ones in particular, whatever was placed before it. -/
theorem spread_over_devices_iff (snapshot : PickRead → Db) (hostId : HostId) (clusterId : ClusterId)
    (earlier : List StorageDisk) (disk : StorageDisk)
    (hrun : Loop.run (placeDisk clusterId (hostStorage snapshot hostId))
      (hostStorage snapshot hostId).diskLoop earlier =
      some (s, ps))
    (hstep : placeDisk clusterId (hostStorage snapshot hostId) s disk = some (s', p)) :
    SpreadOut snapshot hostId clusterId s ps disk p ↔ RanksFewestFirst snapshot hostId clusterId s ps disk := by
  obtain ⟨slot, hkey, hslot⟩ := foremost_of_placeDisk hrun hstep
  have hleast := Select.least_iff (fun slot =>
    heldReplicas (snapshot (.replicatedAssignments hostId)) hostId clusterId ps
    (HostStorageView.key slot)) hslot
  unfold SpreadOut RanksFewestFirst
  refine Iff.trans ⟨?_, fun h => ⟨slot, argmax_mem hslot, hkey, h⟩⟩ hleast
  rintro ⟨found, hfound, hsame, hfew⟩ other hother
  rw [hkey, ← hsame]
  exact hfew other hother

end Devices

/-! ### Two devices -/

/-- A VM of one small REPLICATED disk. -/
def replicaRequest (clusterId : ClusterId) (name : String) : CreateMachineRequest :=
  { clusterId, name, cpu := 1, memoryMib := 512, diskGib := 5,
    storageDisks := [{ minSizeGib := 10, purpose := DiskPurpose.replicated.toI32 }] }

/-- One placement of such a VM. -/
def placeReplica (clusterId : ClusterId) (vmId : VmId) (ip : Ipv4Addr) : List PlacingEvent :=
  [.lock (replicaRequest clusterId vmId), .pick (fun _ => 0) id, .commit vmId ip]

/-- `twoDeviceCell` after `n` of them. -/
def afterReplicas (n : Nat) : Db :=
  (after Placing.step ⟨twoDeviceCell, .idle⟩
    ((List.range n).flatMap fun i => placeReplica "c1" s!"v{i}" (33 + i))).db

/-- The loop of the next one's disk, before it is placed. -/
def nextPlacement (n : Nat) : Option (DiskLoop × DiskPlacement) :=
  placeDisk "c1" (hostStorage (fun _ => afterReplicas n) "h1") (hostStorage (fun _ => afterReplicas n) "h1").diskLoop
    ⟨10, 1, none⟩

theorem spread_over_devices_iff_second : ∃ s p, nextPlacement 1 = some (s, p) ∧ p.key = ("fast", "sdb") ∧
    (SpreadOut (fun _ => afterReplicas 1) "h1" "c1" (hostStorage (fun _ => afterReplicas 1) "h1").diskLoop []
        ⟨10, 1, none⟩ p ↔
      RanksFewestFirst (fun _ => afterReplicas 1) "h1" "c1" (hostStorage (fun _ => afterReplicas 1) "h1").diskLoop []
        ⟨10, 1, none⟩) := by
  have hnext : (nextPlacement 1).map (fun r => r.2.key) = some ("fast", "sdb") := by decide +kernel
  obtain ⟨⟨s, p⟩, hstep, hkey⟩ := Option.map_eq_some_iff.mp hnext
  exact ⟨s, p, hstep, hkey, spread_over_devices_iff (fun _ => afterReplicas 1) "h1" "c1" [] ⟨10, 1, none⟩ rfl hstep⟩

/-- **The fourth replica joins two others**, although the other device of the pool holds one. -/
theorem fourth_replica_joins_two : ∃ s p, nextPlacement 3 = some (s, p) ∧ p.purpose = .replicated ∧
    heldReplicas (afterReplicas 3) "h1" "c1" [] p.key = 2 ∧
    heldReplicas (afterReplicas 3) "h1" "c1" [] ("fast", "sdb") = 1 ∧
    ¬ SpreadOut (fun _ => afterReplicas 3) "h1" "c1" (hostStorage (fun _ => afterReplicas 3) "h1").diskLoop []
      ⟨10, 1, none⟩ p := by
  have hnext : (nextPlacement 3).map Prod.snd = some ⟨0, "fast", "sda", 10, .replicated⟩ := by decide +kernel
  obtain ⟨⟨s, p⟩, hstep, hp⟩ := Option.map_eq_some_iff.mp hnext
  subst hp
  exact ⟨s, _, hstep, rfl, by decide +kernel, by decide +kernel, by decide +kernel⟩

/-! ## Hosts -/

/-- The REPLICATED disks of a VM, each by its host, if the VM is of the cluster. -/
def VmRow.replicasIn (clusterId : ClusterId) (v : VmRow) : List HostId :=
  if v.clusterId = clusterId then
    (v.storageDisks.filter fun e => e.purpose = some DiskPurpose.replicated.asDbStr).map fun _ => v.hostId
  else []

namespace Db

/-- The replicas of a cluster on a host: the REPLICATED disks of its VMs there. -/
def replicasOf (db : Db) (clusterId : ClusterId) (hostId : HostId) : Nat :=
  (db.vms.rows.flatMap (VmRow.replicasIn clusterId)).count hostId

/-- What `pick_host` takes for their number. -/
def ledgerReplicas (db : Db) (clusterId : ClusterId) (hostId : HostId) : Nat :=
  (db.listHostReplicatedAssignments hostId).countP fun r => r.clusterId = clusterId

def healthyIds (db : Db) : List HostId := db.listHealthyHosts.map (·.id)

end Db

/-- The REPLICATED disks that a request asks for. -/
def CreateMachineRequest.replicatedDisks (req : CreateMachineRequest) : Nat :=
  req.storageDisks.countP fun d => d.purpose = DiskPurpose.replicated.toI32

/-- The call deletes no VM of the cluster. -/
def Write.SparesVmsOf (clusterId : ClusterId) (db : Db) : Write → Prop
  | .ackTombstones hostId _ vmIds => ∀ v ∈ db.vms.rows, Db.ackedVm hostId vmIds v = true → v.clusterId ≠ clusterId
  | _ => True

/-- The condition on a step: requests of the cluster ask for one REPLICATED disk, every healthy host can take a
    request of it, the healthy hosts stay the same ones, and no VM of the cluster is deleted. -/
def Placing.Undisturbed (clusterId : ClusterId) (hosts : List HostId) (s : Placing) : PlacingEvent → Prop
  | .lock req => req.clusterId = clusterId → req.replicatedDisks = 1
  | .pick moment iterate =>
    match s.stage with
    | .picking req seen => req.clusterId = clusterId →
      ∀ host ∈ (fleetOf (fun read => seen.getD (moment read) s.db) req.clusterId).hosts,
        ((fleetOf (fun read => seen.getD (moment read) s.db) req.clusterId).candidate iterate (.ofCreate req)
          host).isSome = true
    | _ => True
  | .write w => (w.exec s.db).1.healthyIds.Perm hosts ∧ w.SparesVmsOf clusterId s.db
  | _ => True

instance (clusterId : ClusterId) (db : Db) (w : Write) : Decidable (w.SparesVmsOf clusterId db) := by
  apply @Write.casesOn _ w <;> intros <;> dsimp only [Write.SparesVmsOf] <;> infer_instance

instance Placing.decUndisturbed (clusterId : ClusterId) (hosts : List HostId) :
    (s : Placing) → (e : PlacingEvent) → Decidable (s.Undisturbed clusterId hosts e)
  | ⟨_, .idle⟩, .pick _ _ | ⟨_, .picking _ _⟩, .pick _ _ | ⟨_, .chosen _ _⟩, .pick _ _ | _, .lock _ | _, .commit _ _
  | _, .giveUp | _, .write _ | _, .setSchedulingState _ _ _ _ _ => by dsimp only [Placing.Undisturbed]; infer_instance

/-! ### Counts after a call -/

section Calls

variable {db : Db} {w : Write} {clusterId : ClusterId} {hostId : HostId}

theorem ledgerReplicas_eq (db : Db) (clusterId : ClusterId) (hostId : HostId) :
    db.ledgerReplicas clusterId hostId = db.poolDiskAssignments.rows.countP fun a =>
      a.clusterId = clusterId ∧ a.hostId = hostId ∧ a.purpose = "replicated" := by
  unfold Db.ledgerReplicas Db.listHostReplicatedAssignments
  rw [countP_filter]
  refine countP_congr fun a _ => ?_
  simp only [Bool.and_eq_true, decide_eq_true_eq]

theorem ledgerReplicas_exec (hw : w.isInsertVm = false) :
    (w.exec db).1.ledgerReplicas clusterId hostId = db.ledgerReplicas clusterId hostId := by
  obtain ⟨q, size, hrows⟩ := assignments_exec db hw
  rw [ledgerReplicas_eq, ledgerReplicas_eq, hrows]
  refine (countP_map ..).trans (countP_congr fun a _ => ?_)
  simp only [Function.comp_apply]
  split <;> rfl

/-- A disk report leaves the purposes of a VM's disks alone. -/
theorem replicasIn_commitEntry (clusterId : ClusterId) (v : VmRow) (a : DiskAssignment) :
    VmRow.replicasIn clusterId { v with storageDisks := commitEntry a v.storageDisks } =
      v.replicasIn clusterId := by
  unfold VmRow.replicasIn
  by_cases hcluster : v.clusterId = clusterId
  · rw [if_pos hcluster, if_pos hcluster, map_const', map_const']
    congr 1
    unfold commitEntry
    split
    · rw [filter_append, length_append]
      rfl
    · rw [← countP_eq_length_filter, ← countP_eq_length_filter]
      generalize a.diskIndex = i
      induction v.storageDisks generalizing i with
      | nil => simp
      | cons e es ih =>
        cases i with
        | zero => simp only [modify_zero_cons, countP_cons, DiskEntry.commit]
        | succ i => simp only [modify_succ_cons, countP_cons, ih]
  · rw [if_neg hcluster, if_neg hcluster]

theorem replicasOf_exec (hw : w.isInsertVm = false) (hspares : w.SparesVmsOf clusterId db) :
    (w.exec db).1.replicasOf clusterId hostId = db.replicasOf clusterId hostId := by
  unfold Db.replicasOf
  rw [flatMap_vms_exec hw (fun _ _ _ => rfl)]
  · rintro hostId vnis vmIds rfl v hv hacked
    exact if_neg (hspares v hv hacked)
  · rintro hostId a rfl v hv hid
    exact replicasIn_commitEntry clusterId v a

/-- The rows that `insert_vm` adds for a decision, and what they add to both numbers. -/
theorem replicas_insertVm (decision : ScheduleDecision) (req : CreateMachineRequest) (vmId : VmId) (ip : Ipv4Addr)
    (db : Db) : ((decision.insertVm req vmId ip).exec db).1 = db ∨
      ((decision.insertVm req vmId ip).exec db).1.healthyIds = db.healthyIds ∧ ∀ clusterId hostId,
        ((decision.insertVm req vmId ip).exec db).1.ledgerReplicas clusterId hostId =
            db.ledgerReplicas clusterId hostId +
              (if req.clusterId = clusterId ∧ decision.hostId = hostId then
                decision.disks.countP fun p => p.purpose = .replicated else 0) ∧
        ((decision.insertVm req vmId ip).exec db).1.replicasOf clusterId hostId =
            db.replicasOf clusterId hostId +
              (if req.clusterId = clusterId ∧ decision.hostId = hostId then
                decision.disks.countP fun p => p.purpose = .replicated else 0) := by
  have hpurpose : ∀ p : DiskPlacement, p.purpose.asDbStr = "replicated" ↔ p.purpose = .replicated := by
    intro p
    cases p.purpose <;> decide
  unfold ScheduleDecision.insertVm Write.exec
  split
  · rename_i db' r happly
    obtain ⟨_, _, vms, _, ledger, -, -, -, hvms, -, hdisks, rfl⟩ := Db.insertVm_ok (Write.done_ok happly)
    refine .inr ⟨rfl, fun clusterId hostId => ⟨?_, ?_⟩⟩
    · rw [ledgerReplicas_eq, ledgerReplicas_eq]
      show ledger.rows.countP _ = _
      rw [rows_insertAll hdisks, countP_append, countP_map]
      congr 1
      show decision.disks.countP (fun p => req.clusterId = clusterId ∧ decision.hostId = hostId ∧
        p.purpose.asDbStr = "replicated") = _
      simp only [hpurpose, ← and_assoc]
      split <;> simp [*]
    · unfold Db.replicasOf
      show (vms.rows.flatMap _).count _ = _
      rw [Table.rows_insert hvms, flatMap_append, count_append, flatMap_singleton]
      congr 1
      have hrow : (placedRow req vmId decision ip).storageDisks.filter
          (fun e => e.purpose = some DiskPurpose.replicated.asDbStr) =
            (decision.disks.filter fun p => p.purpose = .replicated).map (DiskPlacement.entry vmId) := by
        show (decision.disks.map (DiskPlacement.entry vmId)).filter _ = _
        rw [filter_map]
        congr 1
        refine filter_congr fun p _ => ?_
        rw [Function.comp_apply, decide_eq_decide, ← hpurpose p]
        exact Option.some_inj
      unfold VmRow.replicasIn
      by_cases hcluster : req.clusterId = clusterId
      · rw [if_pos (show (placedRow req vmId decision ip).clusterId = clusterId from hcluster), hrow, map_const',
          length_map, count_replicate, ← countP_eq_length_filter]
        simp only [hcluster, true_and, beq_iff_eq]
        rfl
      · rw [if_neg (show (placedRow req vmId decision ip).clusterId ≠ clusterId from hcluster),
          if_neg fun h => hcluster h.1]
        rfl
  · exact .inl rfl

end Calls

/-! ### Decisions -/

section Picks

variable {snapshot : PickRead → Db} {iterate : List Nat → List Nat} {req : CreateMachineRequest}
  {decision : ScheduleDecision}

theorem purpose_of_tryFrom {n : Int} {purpose : DiskPurpose} (h : DiskPurpose.tryFrom n = some purpose) :
    purpose = .replicated ↔ n = DiskPurpose.replicated.toI32 := by
  unfold DiskPurpose.tryFrom at h
  split at h <;> cases h <;> simp_all [DiskPurpose.toI32]

theorem replicated_of_placedOn {view : HostStorageView} {disks : List StorageDisk} {ps : List DiskPlacement}
    (h : List.Forall₂ view.PlacedOn disks ps) :
    (ps.countP fun p => p.purpose = .replicated) =
      disks.countP fun d => d.purpose = DiskPurpose.replicated.toI32 := by
  induction h with
  | nil => rfl
  | cons hp _ ih =>
    rw [countP_cons, countP_cons, ih]
    simp only [decide_eq_true_eq, purpose_of_tryFrom hp.2.1]

/-- A decision has as many REPLICATED disks as the request. -/
theorem replicated_of_pickHost (h : pickHost snapshot iterate req = .ok decision) :
    (decision.disks.countP fun p => p.purpose = .replicated) = req.replicatedDisks :=
  replicated_of_placedOn (placedOn_of_pick (pickHost_ok h))

/-- **A pick for a replica takes a host with the fewest rows of the cluster**, if every healthy host is a candidate. -/
theorem fewest_of_pickHost (hcluster : req.clusterId ≠ "") (hone : req.replicatedDisks = 1)
    (hall : ∀ host ∈ (fleetOf snapshot req.clusterId).hosts,
      ((fleetOf snapshot req.clusterId).candidate iterate (.ofCreate req) host).isSome = true)
    (h : pickHost snapshot iterate req = .ok decision) :
    ∀ id ∈ (snapshot .healthyHosts).healthyIds,
      (snapshot (.replicatedAssignments decision.hostId)).ledgerReplicas req.clusterId decision.hostId ≤
        (snapshot (.replicatedAssignments id)).ledgerReplicas req.clusterId id := by
  intro id hid
  obtain ⟨other, hother, rfl⟩ := mem_map.mp hid
  have hup : other.healthy = true := (mem_filter.mp hother).2
  -- the request has a REPLICATED disk, so the rows of the cluster are the first thing compared
  have hreplicas : ∀ host, (fleetOf snapshot req.clusterId).replicas (.ofCreate req) host =
      (snapshot (.replicatedAssignments host.id)).ledgerReplicas req.clusterId host.id := by
    intro host
    refine if_pos ⟨?_, hcluster⟩
    have hpos : 0 < req.replicatedDisks := by omega
    obtain ⟨d, hd, hpurpose⟩ := countP_pos_iff.mp hpos
    exact any_eq_true.mpr ⟨d, hd, hpurpose⟩
  unfold pickHost at h
  split at h
  · rename_i d hd
    cases h
    obtain ⟨c, hc, hbest, rfl⟩ := schedule_eq_ok hd
    obtain ⟨host, hhost, -, hcand⟩ := mem_candidates.mp hc
    obtain ⟨rfl, -, -, -, -, hscore⟩ := candidate_inv hcand
    obtain ⟨c', hcand'⟩ := Option.isSome_iff_exists.mp (hall other hother)
    obtain ⟨-, -, -, -, -, hscore'⟩ := candidate_inv hcand'
    have hle := hbest c' (mem_candidates.mpr ⟨other, hother, hup, hcand'⟩)
    have hfirst : c'.score.negativeClusterReplicatedMates ≤ c.score.negativeClusterReplicatedMates :=
      Prod.Lex.monotone_fst _ _ hle
    rw [hscore, hscore'] at hfirst
    dsimp only at hfirst
    rw [hreplicas, hreplicas] at hfirst
    show (snapshot (.replicatedAssignments c.host.id)).ledgerReplicas req.clusterId c.host.id ≤ _
    omega
  · cases h
  · cases h

end Picks

/-! ## Runs -/

/-- What is known of the placement under way: the reads have the numbers of the database, and a decision for the
    cluster puts one replica where there are fewest. -/
def PlacingStage.Fewest (clusterId : ClusterId) (hosts : List HostId) (db : Db) : PlacingStage → Prop
  | .idle => True
  | .picking req seen => (req.clusterId = clusterId → req.replicatedDisks = 1) ∧
    ∀ d ∈ seen, d.healthyIds.Perm hosts ∧ d.ledgerReplicas clusterId = db.ledgerReplicas clusterId
  | .chosen req decision => req.clusterId = clusterId →
    (decision.disks.countP fun p => p.purpose = .replicated) = 1 ∧
      ∀ id ∈ hosts, db.ledgerReplicas clusterId decision.hostId ≤ db.ledgerReplicas clusterId id

/-- The invariant: the ledger counts the replicas, and they are level. -/
structure Placing.Leveled (clusterId : ClusterId) (hosts : List HostId) (s : Placing) : Prop where
  healthy : s.db.healthyIds.Perm hosts
  tallied : s.db.ledgerReplicas clusterId = s.db.replicasOf clusterId
  level : Select.Level (s.db.replicasOf clusterId) hosts
  stage : s.stage.Fewest clusterId hosts s.db

/-! ### Steps -/

section Runs

variable {clusterId : ClusterId} {hosts : List HostId} {s s' : Placing} {e : PlacingEvent}

theorem Placing.Leveled.observe (h : s.Leveled clusterId hosts) {db : Db} (hhealthy : db.healthyIds.Perm hosts)
    (hledger : db.ledgerReplicas clusterId = s.db.ledgerReplicas clusterId)
    (hvms : db.replicasOf clusterId = s.db.replicasOf clusterId) : (s.observe db).Leveled clusterId hosts where
  healthy := hhealthy
  tallied := by
    show db.ledgerReplicas clusterId = db.replicasOf clusterId
    rw [hledger, hvms]
    exact h.tallied
  level := by
    show Select.Level (db.replicasOf clusterId) hosts
    rw [hvms]
    exact h.level
  stage := by
    have hstage := h.stage
    obtain ⟨db₀, stage⟩ := s
    cases stage with
    | idle => trivial
    | picking req seen =>
      refine ⟨hstage.1, fun d hd => ?_⟩
      rcases mem_append.mp hd with hd | hd
      · exact ⟨(hstage.2 d hd).1, (hstage.2 d hd).2.trans hledger.symm⟩
      · rw [mem_singleton.mp hd]
        exact ⟨hhealthy, rfl⟩
    | chosen req decision =>
      intro hreq
      show _ ∧ ∀ id ∈ hosts, db.ledgerReplicas clusterId decision.hostId ≤ db.ledgerReplicas clusterId id
      rw [hledger]
      exact hstage hreq

/-- **A commit puts the next replica where there are fewest.** -/
theorem leveled_commit {db : Db} {req : CreateMachineRequest} {decision : ScheduleDecision} (vmId : VmId)
    (ip : Ipv4Addr) (h : Placing.Leveled clusterId hosts ⟨db, .chosen req decision⟩) :
    Placing.Leveled clusterId hosts ⟨((decision.insertVm req vmId ip).exec db).1, .idle⟩ := by
  rcases replicas_insertVm decision req vmId ip db with hsame | ⟨hhealthy, hadd⟩
  · rw [hsame]
    exact ⟨h.healthy, h.tallied, h.level, trivial⟩
  · generalize ((decision.insertVm req vmId ip).exec db).1 = db' at hhealthy hadd
    have htallied : db'.ledgerReplicas clusterId = db'.replicasOf clusterId := by
      funext id
      rw [(hadd clusterId id).1, (hadd clusterId id).2, show db.ledgerReplicas clusterId = _ from h.tallied]
    refine ⟨?_, htallied, ?_, trivial⟩
    · show db'.healthyIds.Perm hosts
      rw [hhealthy]
      exact h.healthy
    · by_cases hreq : req.clusterId = clusterId
      · obtain ⟨hone, hfewest⟩ := h.stage hreq
        rw [show (Placing.mk db (.chosen req decision)).db.ledgerReplicas clusterId = _ from h.tallied] at hfewest
        refine h.level.bump hfewest ?_ ?_ ?_
        · show db'.replicasOf clusterId _ ≤ db.replicasOf clusterId _ + 1
          rw [(hadd clusterId decision.hostId).2, if_pos ⟨hreq, rfl⟩, hone]
        · intro id
          show db.replicasOf clusterId id ≤ db'.replicasOf clusterId id
          rw [(hadd clusterId id).2]
          exact Nat.le_add_right _ _
        · intro id hid
          show db'.replicasOf clusterId id = db.replicasOf clusterId id
          rw [(hadd clusterId id).2, if_neg fun hhere => hid hhere.2.symm]
          rfl
      · -- a placement of another cluster
        have hsame : db'.replicasOf clusterId = db.replicasOf clusterId := by
          funext id
          rw [(hadd clusterId id).2, if_neg fun hhere => hreq hhere.1]
          rfl
        show Select.Level (db'.replicasOf clusterId) hosts
        rw [hsame]
        exact h.level

theorem leveled_step (hcluster : clusterId ≠ "") (h : s.Leveled clusterId hosts)
    (hmeets : s.Undisturbed clusterId hosts e) (hstep : s.step e = some s') : s'.Leveled clusterId hosts := by
  cases Placing.moves_of_step hstep with
  | lock =>
    refine ⟨h.healthy, h.tallied, h.level, hmeets, fun d hd => ?_⟩
    rw [mem_singleton.mp hd]
    exact ⟨h.healthy, rfl⟩
  | picked hpick =>
    rename_i db req seen moment iterate decision
    refine ⟨h.healthy, h.tallied, h.level, fun hreq => ?_⟩
    -- a read outside the list stands for the current database
    have hread : ∀ read, (seen.getD (moment read) db).healthyIds.Perm hosts ∧
        (seen.getD (moment read) db).ledgerReplicas clusterId = db.ledgerReplicas clusterId := by
      intro read
      rw [getD_eq_getElem?_getD]
      cases hseen : seen[moment read]? with
      | none => exact ⟨h.healthy, rfl⟩
      | some d => exact h.stage.2 d (mem_of_getElem? hseen)
    subst hreq
    have hone := h.stage.1 rfl
    refine ⟨(replicated_of_pickHost hpick).trans hone, fun id hid => ?_⟩
    have hfewest := fewest_of_pickHost hcluster hone (hmeets rfl) hpick id ((hread .healthyHosts).1.mem_iff.mpr hid)
    rw [(hread (.replicatedAssignments decision.hostId)).2, (hread (.replicatedAssignments id)).2] at hfewest
    exact hfewest
  | refused | giveUp => exact ⟨h.healthy, h.tallied, h.level, trivial⟩
  | commit => exact leveled_commit _ _ h
  | write hw =>
    exact h.observe hmeets.1 (funext fun _ => ledgerReplicas_exec hw) (funext fun _ => replicasOf_exec hw hmeets.2)
  | marked => exact h.observe h.healthy rfl rfl
  | unmarked => exact h

end Runs

/-! ### Every run -/

/-- **Replicas of a cluster stay level**: from a database without VMs of the cluster and without REPLICATED rows of it
    in the ledger, in every state of every run of placements in which each VM of the cluster asks for one REPLICATED
    disk, every healthy host can take each of them, the healthy hosts stay the same and no VM of the cluster is deleted,
    the numbers of its replicas on any two healthy hosts differ by at most one. -/
theorem replicas_stay_level (clusterId : ClusterId) (hcluster : clusterId ≠ "") (db : Db)
    (hvms : ∀ v ∈ db.vms.rows, v.clusterId ≠ clusterId)
    (hledger : ∀ a ∈ db.poolDiskAssignments.rows, a.purpose = "replicated" → a.clusterId ≠ clusterId)
    (es : List PlacingEvent) (s : Placing)
    (hal : Along Placing.step (Placing.Undisturbed clusterId db.healthyIds) ⟨db, .idle⟩ es)
    (hrun : run Placing.step ⟨db, .idle⟩ es = some s) :
    Select.Level (s.db.replicasOf clusterId) db.healthyIds := by
  have hnone : ∀ id, db.replicasOf clusterId id = 0 := by
    intro id
    rw [Db.replicasOf, flatMap_eq_nil_iff.mpr]
    · rfl
    · exact fun v hv => if_neg (hvms v hv)
  have hrows : ∀ id, db.ledgerReplicas clusterId id = 0 := by
    intro id
    rw [ledgerReplicas_eq, countP_eq_zero]
    intro a ha hsel
    have hsel := of_decide_eq_true hsel
    exact hledger a ha hsel.2.2 hsel.1
  have hstart : Placing.Leveled clusterId db.healthyIds ⟨db, .idle⟩ := by
    refine ⟨List.Perm.refl _, funext fun id => (hrows id).trans (hnone id).symm, fun a _ b _ => ?_, trivial⟩
    show db.replicasOf clusterId a ≤ db.replicasOf clusterId b + 1
    rw [hnone a]
    exact Nat.zero_le _
  exact (run_invariant (leveled_step hcluster) hstart hal hrun).level

/-- Two equal hosts, of which the first has reported. -/
def oneOfTwoUp : Db := ((reportOf "h1").exec (equalHosts [("h1", true), ("h2", false)])).1

/-- Both have reported. -/
def bothUp : Db := ((reportOf "h2").exec oneOfTwoUp).1

theorem replicas_stay_level_three : ∃ s,
    run Placing.step ⟨bothUp, .idle⟩
      (placeReplica "c1" "a" 33 ++ placeReplica "c1" "b" 34 ++ placeReplica "c1" "c" 35) = some s ∧
    bothUp.healthyIds = ["h1", "h2"] ∧ Select.Level (s.db.replicasOf "c1") bothUp.healthyIds ∧
    s.db.replicasOf "c1" "h1" + s.db.replicasOf "c1" "h2" = 3 := by
  refine ⟨_, run_eq_after (by decide +kernel), by decide +kernel, ?_, by decide +kernel⟩
  exact replicas_stay_level "c1" (by decide) bothUp (by decide +kernel) (by decide +kernel) _ _ (by decide +kernel)
    (run_eq_after (by decide +kernel))

/-- **Rows of deleted VMs tilt the placement.** Two VMs of the cluster are placed while one host is up, and deleted;
    once both hosts are up, the next two VMs of the cluster go to the other host. -/
theorem stale_rows_tilt : ∃ s₁ s,
    run Placing.step ⟨oneOfTwoUp, .idle⟩
      (placeReplica "c1" "a" 33 ++ placeReplica "c1" "b" 34 ++
        [.write (.markVmPendingTeardown "a"), .write (.markVmPendingTeardown "b"),
         .write (.ackTombstones "h1" [] ["a", "b"]), .write (reportOf "h2")]) = some s₁ ∧
    s₁.db.vms.rows = [] ∧ s₁.db.healthyIds = ["h1", "h2"] ∧
    Along Placing.step (Placing.Undisturbed "c1" s₁.db.healthyIds) s₁
      (placeReplica "c1" "c" 33 ++ placeReplica "c1" "d" 34) ∧
    run Placing.step s₁ (placeReplica "c1" "c" 33 ++ placeReplica "c1" "d" 34) = some s ∧
    s.db.replicasOf "c1" "h1" = 0 ∧ s.db.replicasOf "c1" "h2" = 2 ∧
    ¬ Select.Level (s.db.replicasOf "c1") s₁.db.healthyIds :=
  ⟨_, _, run_eq_after (by decide +kernel), by decide +kernel, by decide +kernel, by decide +kernel,
    run_eq_after (by decide +kernel), by decide +kernel, by decide +kernel, by decide +kernel⟩

end BasisCell
