import BasisCell.Lib.Table
import BasisCell.Proto

/-!
# `BasisCell.Controller.Rows` — the controller's SQLite schema

One structure per table of `db.rs`'s `migrate`, with the table's `PRIMARY KEY` and `UNIQUE` constraints as
its `Schema` instance, and `Db` holding all of them. The `CHECK` of `ip_allocations` (exactly one owner) is
the type `IpOwner`; the vocabulary of `pending_command.state` and `host_clusters.state` are enumerations.

Columns that no statement of the model reads or compares (`created_at`, `updated_at`) are left out. The
`storage_disks` JSON array is the list of its objects, every field optional as `json_set` can leave it.
-/

namespace BasisCell

open Relational

/-! ## Configuration -/

/-- Inclusive range of addresses. -/
structure ParsedRange where
  start : Ipv4Addr
  stop : Ipv4Addr
  deriving DecidableEq, Repr

/-- Who can reach the addresses of a pool: the LAN, or the bridges of the cell only. -/
inductive PoolScope where
  | lan | tree
  deriving DecidableEq, Repr

structure Pool where
  name : String
  cidr : Ipv4Net
  scope : PoolScope := .lan
  deriving DecidableEq, Repr

def Pool.isTree (pool : Pool) : Bool := pool.scope = .tree

/-- `ParsedRange::parse_pool_range`. -/
def ParsedRange.parsePoolRange (pool : Pool) : ParsedRange :=
  ⟨pool.cidr.network + 1, pool.cidr.broadcast - 1⟩

structure NetworkConfig where
  clusterSupernet : Ipv4Net
  clusterPrefix : Nat := 24
  bridgeReserve : Nat := 32
  defaultExternalServiceIps : Nat := 16
  vniStart : Nat := 10000
  vniEnd : Nat := 16000000
  pools : List Pool
  deriving DecidableEq, Repr

def NetworkConfig.poolByName (net : NetworkConfig) (name : String) : Option Pool :=
  net.pools.find? fun p => p.name = name

/-! ## `hosts`, `clusters`, `host_clusters` -/

structure HostRow where
  id : HostId
  hostname : String
  totalCpu : Int
  totalMemoryMib : Int
  rootfsTotalBytes : Int := 0
  rootfsFreeBytes : Int := 0
  rootfsMetadataTotalBytes : Int := 0
  rootfsMetadataFreeBytes : Int := 0
  dataTotalBytes : Int := 0
  dataFreeBytes : Int := 0
  gpuInventory : List GpuInfo := []
  vtepAddress : String := ""
  lastHeartbeat : Nat
  healthy : Bool := true
  rank : Int := 0
  labels : List (String × String) := []
  deriving DecidableEq, Repr

instance : Schema HostRow where
  Clash a b := a.id = b.id ∨ a.hostname = b.hostname
  clash_symm h := h.imp Eq.symm Eq.symm
  decClash _ _ := inferInstance

structure ClusterRow where
  id : ClusterId
  name : String
  vni : Nat
  cidr : Ipv4Net
  bridgeRange : ParsedRange
  vmRange : ParsedRange
  prefixLen : Nat
  controlPlaneEndpoint : Ipv4Addr
  apiserverVisibility : Int := 0
  externalPool : String
  serviceBlockCidr : Option Ipv4Net := none
  trustDomain : String := ""
  deriving DecidableEq, Repr

instance : Schema ClusterRow where
  Clash a b := a.id = b.id ∨ a.name = b.name ∨ a.vni = b.vni
  clash_symm h := h.imp Eq.symm (Or.imp Eq.symm Eq.symm)
  decClash _ _ := inferInstance

/-- The same row up to the one column that a statement updates. -/
def ClusterRow.SameCluster (k k' : ClusterRow) : Prop := { k with trustDomain := k'.trustDomain } = k'

theorem ClusterRow.SameCluster.refl (k : ClusterRow) : k.SameCluster k := rfl

theorem ClusterRow.SameCluster.trans {k₁ k₂ k₃ : ClusterRow} (h : k₁.SameCluster k₂) (h' : k₂.SameCluster k₃) :
    k₁.SameCluster k₃ := by
  unfold SameCluster at h h' ⊢
  rw [← h', ← h]

theorem ClusterRow.SameCluster.id {k k' : ClusterRow} (h : k.SameCluster k') : k.id = k'.id := congrArg (·.id) h

/-- `host_clusters.state`: 0 or 1. -/
inductive MembershipState where
  | active | pendingTeardown
  deriving DecidableEq, Repr

structure HostClusterRow where
  clusterId : ClusterId
  hostId : HostId
  ipAddress : Ipv4Addr
  state : MembershipState
  deriving DecidableEq, Repr

instance : Schema HostClusterRow where
  Clash a b := a.clusterId = b.clusterId ∧ (a.hostId = b.hostId ∨ a.ipAddress = b.ipAddress)
  clash_symm h := h.imp Eq.symm (Or.imp Eq.symm Eq.symm)
  decClash _ _ := inferInstance

/-- `cluster_lan_vip_owner`: the host that answers ARP for a cluster's VIPs. -/
structure ClusterLanVipOwner where
  clusterId : ClusterId
  hostId : HostId
  deriving DecidableEq, Repr

instance : Schema ClusterLanVipOwner where
  Clash a b := a.clusterId = b.clusterId
  clash_symm h := h.symm
  decClash _ _ := inferInstance

/-- A cluster with the host's bridge address in it. -/
structure HostClusterMembership where
  cluster : ClusterRow
  bridgeIp : Ipv4Addr
  deriving DecidableEq, Repr

/-! ## `vms`, `vm_gpus` -/

/-- One object of the `storage_disks` JSON array. -/
structure DiskEntry where
  diskIndex : Option Nat := none
  minSizeGib : Option Nat := none
  purpose : Option String := none
  pool : Option String := none
  deviceId : Option String := none
  assignmentId : Option String := none
  actualSizeGib : Option Int := none
  devicePath : Option String := none
  deriving DecidableEq, Repr

/-- `StoredDisk`: an entry as `serde` reads it back. -/
structure StoredDisk where
  diskIndex : Nat
  minSizeGib : Nat
  purpose : String
  pool : Option String
  deviceId : Option String
  assignmentId : Option String
  actualSizeGib : Option Nat
  devicePath : Option String
  deriving DecidableEq, Repr

/-- `actual_size_gib` as `Option<u64>`: the outer `none` is a parse error on a negative number. -/
def parseActual : Option Int → Option (Option Nat)
  | none => some none
  | some z => if 0 ≤ z then some (some z.toNat) else none

/-- Deserialisation of one entry; `none` when a required field is missing or a size is negative. -/
def DiskEntry.parse (e : DiskEntry) : Option StoredDisk := do
  let diskIndex ← e.diskIndex
  let minSizeGib ← e.minSizeGib
  let purpose ← e.purpose
  let actualSizeGib ← parseActual e.actualSizeGib
  return { diskIndex, minSizeGib, purpose, pool := e.pool, deviceId := e.deviceId,
           assignmentId := e.assignmentId, actualSizeGib, devicePath := e.devicePath }

structure VmRow where
  id : VmId
  name : String
  clusterId : ClusterId
  hostId : HostId
  ipAddress : Ipv4Addr
  state : MachineState
  cpu : Int
  memoryMib : Int
  diskGib : Int
  storageDisks : List DiskEntry := []
  image : String := ""
  errorMessage : String := ""
  deriving DecidableEq, Repr

instance : Schema VmRow where
  Clash a b := a.id = b.id ∨ (a.clusterId = b.clusterId ∧ a.name = b.name)
  clash_symm h := h.imp Eq.symm (And.imp Eq.symm Eq.symm)
  decClash _ _ := inferInstance

namespace VmRow

/-- The columns of a row that no statement updates. -/
structure SameVm (v w : VmRow) : Prop where
  id : v.id = w.id
  name : v.name = w.name
  clusterId : v.clusterId = w.clusterId
  hostId : v.hostId = w.hostId
  ipAddress : v.ipAddress = w.ipAddress

theorem SameVm.refl (v : VmRow) : v.SameVm v := ⟨rfl, rfl, rfl, rfl, rfl⟩

theorem SameVm.trans {u v w : VmRow} (h : u.SameVm v) (h' : v.SameVm w) : u.SameVm w :=
  ⟨h.id.trans h'.id, h.name.trans h'.name, h.clusterId.trans h'.clusterId, h.hostId.trans h'.hostId,
    h.ipAddress.trans h'.ipAddress⟩

/-- `parsed_storage_disks`. -/
def parsedStorageDisks (vm : VmRow) : Option (List StoredDisk) := vm.storageDisks.mapM DiskEntry.parse

/-- `storage_disks_sum_gib`: every size narrowed to `i64`, then summed. -/
def storageDisksSumGib (vm : VmRow) : Option Int :=
  vm.parsedStorageDisks.map fun ds => wrapI64 (ds.map fun d => asI64 d.minSizeGib).sum

/-- The row's share of the gate's `SUM(CAST(json_extract(…, '$.min_size_gib') AS INTEGER))`: a missing
    size is `NULL` and not counted, one past `i64::MAX` is a real that the cast clamps. -/
def dataGib (vm : VmRow) : Int :=
  (vm.storageDisks.map fun e => min ((e.minSizeGib.getD 0 : Nat) : Int) i64Max).sum

end VmRow

structure GpuAssignment where
  vmId : VmId
  hostId : HostId
  pciAddress : String
  model : String := ""
  iommuGroup : String := ""
  nvlinkGroup : Int := 0
  deriving DecidableEq, Repr

instance : Schema GpuAssignment where
  Clash a b := a.pciAddress = b.pciAddress ∧ (a.vmId = b.vmId ∨ a.hostId = b.hostId)
  clash_symm h := h.imp Eq.symm (Or.imp Eq.symm Eq.symm)
  decClash _ _ := inferInstance

/-! ## `ip_allocations` -/

/-- `CHECK ((vm_id IS NULL) != (cluster_id IS NULL))`. -/
inductive IpOwner where
  | vm (id : VmId)
  | cluster (id : ClusterId)
  deriving DecidableEq, Repr

structure IpAllocation where
  ipAddress : Ipv4Addr
  scope : String
  owner : IpOwner
  deriving DecidableEq, Repr

instance : Schema IpAllocation where
  Clash a b := a.ipAddress = b.ipAddress
  clash_symm h := h.symm
  decClash _ _ := inferInstance

/-! ## Storage pools and disk assignments -/

structure HostPoolRow where
  hostId : HostId
  pool : String
  backend : String
  labels : List (String × String)
  configuredTotalBytes : Int
  readyTotalBytes : Int
  schedulableTotalBytes : Int
  schedulableFreeBytes : Int
  deriving DecidableEq, Repr

instance : Schema HostPoolRow where
  Clash a b := a.hostId = b.hostId ∧ a.pool = b.pool
  clash_symm h := h.imp Eq.symm Eq.symm
  decClash _ _ := inferInstance

structure HostPoolDeviceRow where
  hostId : HostId
  pool : String
  deviceId : String
  totalBytes : Int
  freeBytes : Int
  physical : String
  physicalReason : String
  deriving DecidableEq, Repr

instance : Schema HostPoolDeviceRow where
  Clash a b := a.hostId = b.hostId ∧ a.pool = b.pool ∧ a.deviceId = b.deviceId
  clash_symm h := h.imp Eq.symm (And.imp Eq.symm Eq.symm)
  decClash _ _ := inferInstance

/-- `pool_disk_assignment.state`. -/
inductive AssignmentState where
  | pending | committed
  deriving DecidableEq, Repr

structure PoolDiskAssignment where
  assignmentId : String
  hostId : HostId
  pool : String
  deviceId : String
  vmId : VmId
  diskIndex : Nat
  clusterId : ClusterId
  purpose : String
  minSizeGib : Int
  actualSizeGib : Option Int := none
  state : AssignmentState
  deriving DecidableEq, Repr

instance : Schema PoolDiskAssignment where
  Clash a b := a.assignmentId = b.assignmentId ∨ (a.vmId = b.vmId ∧ a.diskIndex = b.diskIndex)
  clash_symm h := h.imp Eq.symm (And.imp Eq.symm Eq.symm)
  decClash _ _ := inferInstance

/-- The operator's mark on a device; a device without a row is enabled. -/
structure DeviceSchedulingState where
  hostId : HostId
  pool : String
  deviceId : String
  state : String
  reason : Option String
  deriving DecidableEq, Repr

instance : Schema DeviceSchedulingState where
  Clash a b := a.hostId = b.hostId ∧ a.pool = b.pool ∧ a.deviceId = b.deviceId
  clash_symm h := h.imp Eq.symm (And.imp Eq.symm Eq.symm)
  decClash _ _ := inferInstance

/-! ## The outbox -/

/-- `pending_command.state`; an acknowledged row is deleted, never marked. -/
inductive OutboxState where
  | pending | sent
  deriving DecidableEq, Repr

structure PendingCommand where
  id : Nat
  hostId : HostId
  vmId : VmId
  payload : ControllerCommand
  state : OutboxState
  deriving DecidableEq

instance : Schema PendingCommand where
  Clash a b := a.id = b.id
  clash_symm h := h.symm
  decClash _ _ := inferInstance

/-! ## The database -/

/-- The controller's database. `effectiveCpu` is `CAST(total_cpu * cpu_overcommit_ratio AS INTEGER)` for the
    ratio this `Db` was opened with; `nextCommandId` is the outbox's `AUTOINCREMENT` counter. -/
structure Db where
  hosts : Table HostRow
  clusters : Table ClusterRow
  hostClusters : Table HostClusterRow
  clusterLanVipOwners : Table ClusterLanVipOwner
  vms : Table VmRow
  vmGpus : Table GpuAssignment
  ipAllocations : Table IpAllocation
  hostPools : Table HostPoolRow
  hostPoolDevices : Table HostPoolDeviceRow
  poolDiskAssignments : Table PoolDiskAssignment
  deviceSchedulingStates : Table DeviceSchedulingState
  pendingCommands : Table PendingCommand
  nextCommandId : Nat
  effectiveCpu : Int → Int

/-- A freshly migrated database. -/
def Db.create (effectiveCpu : Int → Int) : Db where
  hosts := .empty
  clusters := .empty
  hostClusters := .empty
  clusterLanVipOwners := .empty
  vms := .empty
  vmGpus := .empty
  ipAllocations := .empty
  hostPools := .empty
  hostPoolDevices := .empty
  poolDiskAssignments := .empty
  deviceSchedulingStates := .empty
  pendingCommands := .empty
  nextCommandId := 1
  effectiveCpu := effectiveCpu

/-- What SQLite rejects a statement for. -/
inductive SqlError where
  | uniqueViolation (constraint : String)
  | foreignKeyViolation
  deriving DecidableEq, Repr

/-- `DbError`, without the migration error that only `open` can return. -/
inductive DbError where
  | sqlx (e : SqlError)
  | notFound (what : String)
  | conflict (what : String)
  | exhausted (what : String)
  | hostUnavailable (hostId : HostId)
  | capacityRaced (hostId : HostId)
  | allocationRaced (constraint : String)
  | malformed (what : String)
  deriving DecidableEq, Repr

end BasisCell
