import BasisCell.Lib.Loop
import BasisCell.Controller.Db

/-!
# `BasisCell.Controller.Scheduler` — `scheduler.rs`

Which host a new VM goes to, which of its GPUs it gets, and for every data disk a `(pool, device)` of that
host. The scheduler is a pure function of the rows read for it. Scores are lexicographic, so they are compared
through a key in a `Lex` product; the loops that keep a best candidate are `List.argmax`.

`scheduler::Placement` is the wire's selector copied field by field, and is the same type here. A `HashMap` that
is only looked up is a function. The one that is iterated, the NVLink groups, is visited in the order that the
parameter `iterate` puts its keys in.
-/

namespace BasisCell

open List

/-! ## Selectors -/

namespace LabelSelector

/-- `Placement::satisfies`. -/
def satisfies (s : LabelSelector) (labels : List (String × String)) : Bool :=
  s.requires.all fun r =>
    match labels.lookup r.key with
    | some v => r.values.any fun allowed => allowed = v
    | none => false

/-- `Placement::score`, a sum of `u32`s. -/
def score (s : LabelSelector) (labels : List (String × String)) : Nat :=
  ((s.prefers.filter fun p => labels.lookup p.key = some p.value).map (·.weight)).sum % 2 ^ 32

/-- `Placement::describe_requires`; the values are printed with `{:?}`. -/
def describeRequires (s : LabelSelector) : String :=
  ", ".intercalate (s.requires.map fun r =>
    r.key ++ "=[" ++ ", ".intercalate (r.values.map fun v => "\"" ++ v ++ "\"") ++ "]")

end LabelSelector

structure ScheduleRequest where
  clusterId : ClusterId
  cpu : Nat
  memoryMib : Nat
  rootfsGib : Nat
  dataGib : Nat
  gpus : Nat
  minGroupSize : Nat
  placement : LabelSelector
  storageDisks : List StorageDisk
  deriving DecidableEq

/-- `ScheduleRequest::from`. The sizes of the disks are cut to `u32` before they are summed. -/
def ScheduleRequest.ofCreate (req : CreateMachineRequest) : ScheduleRequest where
  clusterId := req.clusterId
  cpu := req.cpu
  memoryMib := req.memoryMib
  rootfsGib := req.diskGib
  dataGib := (req.storageDisks.map fun d => d.minSizeGib % 2 ^ 32).sum % 2 ^ 32
  gpus := req.gpus
  minGroupSize := (req.gpuConstraints.map (·.minGroupSize)).getD 0
  placement := req.placement.getD {}
  storageDisks := req.storageDisks

/-! ## Storage views -/

structure DeviceView where
  deviceId : String
  totalBytes : Int
  freeBytes : Int
  schedulable : Bool
  replicatedClusters : List ClusterId
  deriving DecidableEq, Repr

structure PoolView where
  name : String
  backend : String
  labels : List (String × String)
  schedulableTotalBytes : Int
  schedulableFreeBytes : Int
  devices : List DeviceView
  deriving DecidableEq, Repr

structure HostStorageView where
  pools : List PoolView := []
  deriving DecidableEq, Repr

/-- `HostPoolDeviceRow::is_ready`. -/
def HostPoolDeviceRow.isReady (d : HostPoolDeviceRow) : Bool := d.physical = "Ready"

instance decidableMemKeys (key : String × String) (keys : List (String × String)) : Decidable (key ∈ keys) :=
  inferInstance

/-- `HostStorageView::from_rows`. -/
def HostStorageView.fromRows (pools : List HostPoolRow) (devicesByPool : String → List HostPoolDeviceRow)
    (drainedDevices : List (String × String)) (replicatedClustersPerDevice : String × String → List ClusterId) :
    HostStorageView where
  pools := pools.map fun p =>
    { name := p.pool
      backend := p.backend
      labels := p.labels
      schedulableTotalBytes := p.schedulableTotalBytes
      schedulableFreeBytes := p.schedulableFreeBytes
      devices := (devicesByPool p.pool).map fun d =>
        { deviceId := d.deviceId
          totalBytes := d.totalBytes
          freeBytes := d.freeBytes
          schedulable := d.isReady ∧ (p.pool, d.deviceId) ∉ drainedDevices
          replicatedClusters := replicatedClustersPerDevice (p.pool, d.deviceId) } }

/-! ## Devices for the disks of one request -/

structure DiskScore where
  poolPrefersScore : Nat
  negativeSameClusterOnDevice : Int
  negativeSameVmPenalty : Int
  tieBreaker : Int
  deriving DecidableEq, Repr

-- The order that computes, where Mathlib has several.
local instance intOrder : Preorder Int := Int.instLinearOrder.toPreorder

/-- The derived `Ord`: lexicographic in the order of the fields. -/
def DiskScore.key (s : DiskScore) : Nat ×ₗ Int ×ₗ Int ×ₗ Int :=
  toLex (s.poolPrefersScore, toLex (s.negativeSameClusterOnDevice,
    toLex (s.negativeSameVmPenalty, s.tieBreaker)))

structure DiskCandidate where
  pool : String
  deviceId : String
  score : DiskScore
  deriving DecidableEq, Repr

/-- `backend_tie_breaker`. -/
def backendTieBreaker (backend : String) (freeBytes needBytes : Int) : Int :=
  if backend = "lvm-linear" then wrapI64 (-wrapI64 (freeBytes - needBytes)) else 0

/-- What a disk takes from its device. -/
def needBytes (minSizeGib : Nat) : Int := saturatingMul (asI64 minSizeGib) gib

/-- `device_free` before the first disk: for every device of the view, what it reported. -/
def HostStorageView.deviceFree (view : HostStorageView) : String × String → Int :=
  view.pools.foldl (fun free pool =>
    pool.devices.foldl (fun free d => Function.update free (pool.name, d.deviceId) d.freeBytes) free) fun _ => 0

/-- The candidates for one disk: the schedulable devices with enough room of the pools that its selector
    matches, in the order of the two loops. `used` holds the devices of this VM's earlier disks. -/
def diskCandidates (clusterId : ClusterId) (view : HostStorageView) (deviceFree : String × String → Int)
    (used : List (String × String)) (disk : StorageDisk) : List DiskCandidate :=
  let selector := disk.selector.getD {}
  (view.pools.filter fun pool => selector.satisfies pool.labels).flatMap fun pool =>
    (pool.devices.filter fun dev =>
        dev.schedulable ∧ needBytes disk.minSizeGib ≤ deviceFree (pool.name, dev.deviceId)).map fun dev =>
      { pool := pool.name
        deviceId := dev.deviceId
        score :=
          { poolPrefersScore := selector.score pool.labels
            negativeSameClusterOnDevice :=
              if clusterId = "" then 0 else if clusterId ∈ dev.replicatedClusters then -1 else 0
            negativeSameVmPenalty := if (pool.name, dev.deviceId) ∈ used then -1 else 0
            tieBreaker := backendTieBreaker pool.backend dev.freeBytes (needBytes disk.minSizeGib) } }

/-- The loop of `pick_disk_placements`, from disk `idx` on. Among equal candidates the first is kept. -/
def placeDisks (clusterId : ClusterId) (view : HostStorageView) :
    (idx : Nat) → (deviceFree : String × String → Int) → (used : List (String × String)) → List StorageDisk →
      Option (List DiskPlacement)
  | _, _, _, [] => some []
  | idx, deviceFree, used, disk :: disks =>
    match DiskPurpose.tryFrom disk.purpose with
    | none => none
    | some purpose =>
      match (diskCandidates clusterId view deviceFree used disk).argmax fun c => c.score.key with
      | none => none
      | some pick =>
        let key := (pick.pool, pick.deviceId)
        let rest := Function.update deviceFree key (saturatingSub (deviceFree key) (needBytes disk.minSizeGib))
        (placeDisks clusterId view (idx + 1) rest (key :: used) disks).map fun placements =>
          ⟨idx, pick.pool, pick.deviceId, disk.minSizeGib, purpose⟩ :: placements

/-- `pick_disk_placements`. -/
def pickDiskPlacements (clusterId : ClusterId) (view : HostStorageView) (disks : List StorageDisk) :
    Option (List DiskPlacement) :=
  placeDisks clusterId view 0 view.deviceFree [] disks

/-- What a list of placements takes from one device. -/
def bytesOn (placements : List DiskPlacement) (key : String × String) : Int :=
  ((placements.filter fun p => (p.pool, p.deviceId) = key).map fun p => needBytes p.minSizeGib).sum

theorem bytesOn_cons {p : DiskPlacement} {ps : List DiskPlacement} {key : String × String} :
    bytesOn (p :: ps) key = (if (p.pool, p.deviceId) = key then needBytes p.minSizeGib else 0) + bytesOn ps key := by
  unfold bytesOn
  rw [filter_cons]
  by_cases h : (p.pool, p.deviceId) = key
  · rw [if_pos (decide_eq_true h), if_pos h, map_cons, sum_cons]
  · rw [if_neg (by simpa using h), if_neg h, Int.zero_add]

/-- A size whose bytes fit in an `i64` is taken exactly. -/
theorem needBytes_of_le {n : Nat} (h : (n : Int) * gib ≤ i64Max) : needBytes n = n * gib := by
  have hn := Int.mul_le_mul_of_nonneg_left (by decide : (1 : Int) ≤ gib) (Int.natCast_nonneg n)
  rw [Int.mul_one] at hn
  unfold needBytes
  rw [asI64_of_le (hn.trans h)]
  exact saturatingMul_of_mem ((Int.natCast_nonneg n).trans hn) h

namespace HostStorageView

/-- The devices of a view, each with its pool, in the order of the two loops. -/
def slots (view : HostStorageView) : List (PoolView × DeviceView) :=
  view.pools.flatMap fun pool => pool.devices.map fun d => (pool, d)

/-- What a device of a view is known by. -/
def key (slot : PoolView × DeviceView) : String × String := (slot.1.name, slot.2.deviceId)

variable {view : HostStorageView} {pool : PoolView} {dev : DeviceView}

theorem mem_slots : (pool, dev) ∈ view.slots ↔ pool ∈ view.pools ∧ dev ∈ pool.devices := by
  simp only [slots, mem_flatMap, mem_map, Prod.mk.injEq]
  constructor
  · rintro ⟨pool', hpool, dev', hdev, rfl, rfl⟩
    exact ⟨hpool, hdev⟩
  · rintro ⟨hpool, hdev⟩
    exact ⟨pool, hpool, dev, hdev, rfl, rfl⟩

theorem deviceFree_eq_fill (view : HostStorageView) :
    view.deviceFree = Loop.fill key (fun slot => slot.2.freeBytes) (fun _ => 0) view.slots := by
  unfold deviceFree Loop.fill slots
  rw [foldl_flatMap]
  simp only [foldl_map, key]

/-- What the view says of a key: nothing, or the free bytes of a device it lists under that key. -/
theorem deviceFree_cases (view : HostStorageView) (key : String × String) :
    view.deviceFree key = 0 ∨
      ∃ pool ∈ view.pools, ∃ d ∈ pool.devices, (pool.name, d.deviceId) = key ∧ view.deviceFree key = d.freeBytes := by
  rw [deviceFree_eq_fill]
  refine Loop.fill_cases.imp_right ?_
  rintro ⟨⟨pool, d⟩, hslot, hkey, hfree⟩
  obtain ⟨hpool, hd⟩ := mem_slots.mp hslot
  exact ⟨pool, hpool, d, hd, hkey, hfree⟩

end HostStorageView

/-! ## GPUs -/

/-- `gpu_topology_score`; `groups` is the order in which the NVLink groups are visited. -/
def gpuTopologyScore (groups : List Nat) (available : List GpuInfo) (count minGroupSize : Nat) :
    Int × List GpuInfo :=
  let members := fun g => available.filter fun gpu => gpu.nvlinkGroup = g
  if 0 < minGroupSize then
    match groups.find? fun g => g ≠ 0 ∧ count ≤ (members g).length ∧ minGroupSize ≤ (members g).length with
    | some g => (3, (members g).take count)
    | none => (0, [])
  else
    match groups.find? fun g => g ≠ 0 ∧ count ≤ (members g).length with
    | some g => (3, (members g).take count)
    | none => if count ≤ available.length then (1, available.take count) else (0, [])

/-! ## Hosts -/

/-- One host's entry of `host_usage_snapshot`; the default stands for a host without one. -/
structure HostUsage where
  usedCpu : Int := 0
  usedMemoryMib : Int := 0
  usedRootfsGib : Int := 0
  usedDataGib : Int := 0
  assignedPci : List String := []
  vmsByCluster : ClusterId → Nat := fun _ => 0

structure Available where
  cpu : Nat
  memoryMib : Nat
  rootfsGib : Nat
  dataGib : Nat
  deriving DecidableEq, Repr

/-- `x.saturating_sub(used).max(0) as u32`. -/
def remaining (total used : Int) : Nat := (max 0 (saturatingSub total used)).toNat % 2 ^ 32

/-- `Available::from`. -/
def Available.ofHost (effectiveCpu : Int → Int) (host : HostRow) (usage : HostUsage) : Available where
  cpu := remaining (effectiveCpu host.totalCpu) usage.usedCpu
  memoryMib := remaining host.totalMemoryMib usage.usedMemoryMib
  rootfsGib := remaining (host.rootfsTotalBytes.tdiv gib) usage.usedRootfsGib
  dataGib := remaining (host.dataTotalBytes.tdiv gib) usage.usedDataGib

def Available.fits (a : Available) (req : ScheduleRequest) : Bool :=
  req.cpu ≤ a.cpu ∧ req.memoryMib ≤ a.memoryMib ∧ req.rootfsGib ≤ a.rootfsGib ∧ req.dataGib ≤ a.dataGib

def Available.remainingAfter (a : Available) (req : ScheduleRequest) : Nat :=
  (a.cpu - req.cpu) + (a.memoryMib - req.memoryMib)

structure CandidateScore where
  negativeClusterReplicatedMates : Int
  gpuScore : Int
  prefersScore : Nat
  negativeClusterMates : Int
  negativeRank : Int
  negativeRemainingAfter : Int
  deriving DecidableEq, Repr

/-- The derived `Ord`: lexicographic in the order of the fields. -/
def CandidateScore.key (s : CandidateScore) : Int ×ₗ Int ×ₗ Nat ×ₗ Int ×ₗ Int ×ₗ Int :=
  toLex (s.negativeClusterReplicatedMates, toLex (s.gpuScore, toLex (s.prefersScore,
    toLex (s.negativeClusterMates, toLex (s.negativeRank, s.negativeRemainingAfter)))))

structure Candidate where
  host : HostRow
  score : CandidateScore
  selectedGpus : List GpuInfo
  diskPlacements : List DiskPlacement
  deriving DecidableEq, Repr

/-- `ScheduleDecision`. -/
structure ScheduleDecision where
  hostId : HostId
  gpus : List GpuInfo := []
  disks : List DiskPlacement := []
  deriving DecidableEq, Repr

inductive SchedulerError where
  | noCapacity (msg : String)
  | unsatisfiedRequirements (msg : String)
  deriving DecidableEq, Repr

/-- What the scheduler is given: the maps of `schedule`, and the ratio of CPU overcommit as the function it
    scales by. -/
structure Fleet where
  hosts : List HostRow
  usageByHost : HostId → HostUsage
  storageByHost : HostId → HostStorageView
  replicatedCountByHost : HostId → Int
  effectiveCpu : Int → Int

/-- The GPUs of a request on one host; `none` is a host without enough of them. -/
def selectGpus (iterate : List Nat → List Nat) (freeGpus : List GpuInfo) (req : ScheduleRequest) :
    Option (Int × List GpuInfo) :=
  if 0 < req.gpus then
    let groups := iterate (freeGpus.map (·.nvlinkGroup)).dedup
    let scored := gpuTopologyScore groups freeGpus req.gpus req.minGroupSize
    if scored.2 = [] then none else some scored
  else some (0, [])

/-- The disks of a request on one host; `none` is a host on which one does not fit. -/
def selectDisks (storage : HostStorageView) (req : ScheduleRequest) : Option (List DiskPlacement) :=
  if req.storageDisks = [] then some [] else pickDiskPlacements req.clusterId storage req.storageDisks

/-- The body of the loop of `schedule`; `none` is `continue`. -/
def Fleet.candidate (fleet : Fleet) (iterate : List Nat → List Nat) (req : ScheduleRequest) (host : HostRow) :
    Option Candidate :=
  let usage := fleet.usageByHost host.id
  let avail := Available.ofHost fleet.effectiveCpu host usage
  let freeGpus := host.gpuInventory.filter fun g => g.pciAddress ∉ usage.assignedPci
  if req.placement.satisfies host.labels ∧ avail.fits req then
    match selectGpus iterate freeGpus req with
    | none => none
    | some (gpuScore, selectedGpus) =>
      (selectDisks (fleet.storageByHost host.id) req).map fun diskPlacements =>
        let clusterMates := if req.clusterId = "" then 0 else usage.vmsByCluster req.clusterId
        let requestHasReplicated := req.storageDisks.any fun d => d.purpose = DiskPurpose.replicated.toI32
        let replicatedMates :=
          if requestHasReplicated ∧ req.clusterId ≠ "" then fleet.replicatedCountByHost host.id else 0
        { host, selectedGpus, diskPlacements
          score :=
            { negativeClusterReplicatedMates := -replicatedMates
              gpuScore
              prefersScore := req.placement.score host.labels
              negativeClusterMates := -clusterMates
              negativeRank := wrapI64 (-host.rank)
              negativeRemainingAfter := -avail.remainingAfter req } }
  else none

/-- `schedule`. `max_by` keeps the last of equal candidates. -/
def Fleet.schedule (fleet : Fleet) (iterate : List Nat → List Nat) (req : ScheduleRequest) :
    Except SchedulerError ScheduleDecision :=
  let healthy := fleet.hosts.filter (·.healthy)
  match (healthy.filterMap (fleet.candidate iterate req)).reverse.argmax fun c => c.score.key with
  | some winner => .ok ⟨winner.host.id, winner.selectedGpus, winner.diskPlacements⟩
  | none =>
    if (∀ h ∈ healthy, ¬ req.placement.satisfies h.labels) ∧ req.placement.requires ≠ [] then
      .error (.unsatisfiedRequirements req.placement.describeRequires)
    else
      .error (.noCapacity (s!"cpu={req.cpu}, mem={req.memoryMib}MiB, rootfs={req.rootfsGib}GiB, "
        ++ s!"data={req.dataGib}GiB, gpus={req.gpus}, disks={req.storageDisks.length}"))

/-- No disk is a case of its own. -/
theorem selectDisks_eq {storage : HostStorageView} {req : ScheduleRequest} :
    selectDisks storage req = pickDiskPlacements req.clusterId storage req.storageDisks := by
  unfold selectDisks
  split
  · rename_i hnil
    rw [hnil]
    rfl
  · rfl

end BasisCell
