import Mathlib.Order.MinMax
import BasisCell.Ipv4

/-!
# `BasisCell.Proto` — what the controller and its agents say to each other

The messages of `basis.proto` that the modelled handlers read or build, under the proto's own field names.
Identifiers are the strings the source passes around. Unsigned wire integers are `Nat`; where the controller
narrows one (`as i64`), the model does too (`asI64`).
-/

namespace BasisCell

/-! ## Machine integers -/

/-- `i64::MAX`. -/
def i64Max : Int := 2 ^ 63 - 1

/-- Two's complement reading of an integer in 64 bits: what an `i64` addition leaves in release mode. -/
def wrapI64 (z : Int) : Int := (z + 2 ^ 63) % 2 ^ 64 - 2 ^ 63

/-- Rust's `as i64` on an unsigned value. -/
def asI64 (n : Nat) : Int := wrapI64 n

/-- `i64::saturating_mul`. -/
def saturatingMul (a b : Int) : Int := max (-2 ^ 63) (min (a * b) i64Max)

/-- `i64::saturating_sub`. -/
def saturatingSub (a b : Int) : Int := max (-2 ^ 63) (min (a - b) i64Max)

theorem wrapI64_of_mem {z : Int} (hl : 0 ≤ z) (hu : z ≤ i64Max) : wrapI64 z = z := by
  unfold wrapI64
  unfold i64Max at hu
  omega

theorem asI64_of_le {n : Nat} (h : (n : Int) ≤ i64Max) : asI64 n = n :=
  wrapI64_of_mem (Int.natCast_nonneg n) h

/-- A product that fits is not saturated. -/
theorem saturatingMul_of_mem {a b : Int} (hl : 0 ≤ a * b) (hu : a * b ≤ i64Max) :
    saturatingMul a b = a * b := by
  unfold saturatingMul
  rw [Int.min_eq_left hu, Int.max_eq_right]
  omega

theorem saturatingSub_le {a b : Int} (hb : b ≤ a) : 0 ≤ saturatingSub a b ∧ saturatingSub a b ≤ a - b := by
  unfold saturatingSub i64Max
  omega

/-! ## Identifiers and enumerations -/

abbrev HostId := String
abbrev VmId := String
abbrev ClusterId := String

/-- Lifecycle state of a VM row, in the order of the proto enum. -/
inductive MachineState where
  | pending | creating | running | stopping | stopped | failed | pendingTeardown
  deriving DecidableEq, Repr

/-- prost's enum getter: an unknown number reads as the default. -/
def MachineState.ofI32 : Int → MachineState
  | 1 => .creating
  | 2 => .running
  | 3 => .stopping
  | 4 => .stopped
  | 5 => .failed
  | 6 => .pendingTeardown
  | _ => .pending

/-- Workload role of a data disk. -/
inductive DiskPurpose where
  | unspecified | replicated | genericData
  deriving DecidableEq, Repr

/-- `DiskPurpose::try_from`. -/
def DiskPurpose.tryFrom : Int → Option DiskPurpose
  | 0 => some .unspecified
  | 1 => some .replicated
  | 2 => some .genericData
  | _ => none

def DiskPurpose.toI32 : DiskPurpose → Int
  | .unspecified => 0
  | .replicated => 1
  | .genericData => 2

/-- `DiskPurpose::as_db_str`. -/
def DiskPurpose.asDbStr : DiskPurpose → String
  | .unspecified => "unspecified"
  | .replicated => "replicated"
  | .genericData => "generic-data"

structure GpuInfo where
  pciAddress : String
  model : String := ""
  iommuGroup : String := ""
  nvlinkGroup : Nat := 0
  deriving DecidableEq, Repr

/-! ## Requests of the CAPI provider -/

/-- One hard condition of a selector: the label `key` has one of `values`. -/
structure PlacementRequirement where
  key : String
  values : List String
  deriving DecidableEq, Repr

/-- One soft preference of a selector. -/
structure PlacementPreference where
  key : String
  value : String
  weight : Nat
  deriving DecidableEq, Repr

/-- Selector over the labels of hosts or of storage pools. -/
structure LabelSelector where
  requires : List PlacementRequirement := []
  prefers : List PlacementPreference := []
  deriving DecidableEq, Repr

structure GpuConstraints where
  minGroupSize : Nat
  deriving DecidableEq, Repr

/-- One requested data disk; the selector is matched against storage pools. -/
structure StorageDisk where
  minSizeGib : Nat
  purpose : Int
  selector : Option LabelSelector := none
  deriving DecidableEq, Repr

structure CreateMachineRequest where
  clusterId : ClusterId
  name : String
  cpu : Nat
  memoryMib : Nat
  diskGib : Nat
  image : String := ""
  bootstrapData : List UInt8 := []
  gpus : Nat := 0
  gpuConstraints : Option GpuConstraints := none
  storageDisks : List StorageDisk := []
  placement : Option LabelSelector := none
  deriving DecidableEq

structure CreateClusterRequest where
  name : String
  externalIpPool : String
  externalServiceIps : Nat
  apiserverVisibility : Int
  trustDomain : String := ""
  deriving DecidableEq, Repr

/-! ## Commands to an agent -/

/-- A data disk with its placement resolved by the controller. -/
structure CommandedDisk where
  assignmentId : String
  minSizeGib : Nat
  pool : String
  deviceId : String
  diskIndex : Nat
  clusterId : ClusterId
  purpose : Int
  deriving DecidableEq, Repr

structure CreateVmCommand where
  vmId : VmId
  name : String
  cpu : Nat
  memoryMib : Nat
  diskGib : Nat
  image : String := ""
  bootstrapData : List UInt8 := []
  ipAddress : Ipv4Addr
  gateway : Ipv4Addr
  prefixLen : Nat
  gpus : Nat := 0
  dnsServers : List String := []
  gpuPciAddresses : List String := []
  storageDisks : List CommandedDisk := []
  vni : Nat
  clusterId : ClusterId
  deriving DecidableEq

structure ClusterTombstone where
  vni : Nat
  clusterId : ClusterId
  cidr : String
  deriving DecidableEq, Repr

/-- A LAN-routable VIP or service block, with the host that answers ARP for it. -/
structure ClusterVip where
  cidr : String
  ownerHostId : HostId
  deriving DecidableEq, Repr

/-- What a host is to have of one cluster; without a `gatewayIp` it only carries the cluster's transit. -/
structure ClusterState where
  clusterId : ClusterId
  vni : Nat
  cidr : String
  gatewayIp : String := ""
  prefixLen : Nat := 0
  vtepAddresses : List String := []
  trustDomain : String := ""
  clusterVips : List ClusterVip := []
  internalClusterVips : List String := []
  deriving DecidableEq, Repr

structure ReconcileHostCommand where
  clusters : List ClusterState
  clusterTombstones : List ClusterTombstone
  vmTombstones : List VmId
  deriving DecidableEq, Repr

inductive ControllerCommand where
  | createVm (cmd : CreateVmCommand)
  | registerAck (hostId : HostId) (initialState : ReconcileHostCommand) (bgpAsn : Nat)
      (bgpReflectorAddress : String)
  | reconcileHost (cmd : ReconcileHostCommand)
  deriving DecidableEq

/-! ## Messages of an agent -/

structure DeviceCapacity where
  deviceId : String
  totalBytes : Nat
  freeBytes : Nat
  physical : Int
  physicalReason : String := ""
  deriving DecidableEq, Repr

structure PoolCapacity where
  pool : String
  backend : String
  labels : List (String × String) := []
  configuredTotalBytes : Nat
  readyTotalBytes : Nat
  schedulableTotalBytes : Nat
  schedulableFreeBytes : Nat
  devices : List DeviceCapacity := []
  deriving DecidableEq, Repr

structure RootfsCapacity where
  totalBytes : Nat
  freeBytes : Nat
  metadataTotalBytes : Nat
  metadataFreeBytes : Nat
  deriving DecidableEq, Repr

structure StorageCapacity where
  rootfs : Option RootfsCapacity
  pools : List PoolCapacity
  deriving DecidableEq, Repr

structure InventoryCluster where
  vni : Nat
  cidr : String
  deriving DecidableEq, Repr

/-- What an agent found on its host at start. -/
structure HostInventory where
  vmIds : List VmId
  clusters : List InventoryCluster
  deriving DecidableEq, Repr

structure RegisterHostRequest where
  hostname : String
  totalCpu : Nat
  totalMemoryMib : Nat
  storageCapacity : Option StorageCapacity := none
  gpus : List GpuInfo := []
  vtepAddress : String := ""
  rank : Nat := 0
  labels : List (String × String) := []
  currentInventory : Option HostInventory := none
  deriving DecidableEq, Repr

structure ReportVmStateRequest where
  vmId : VmId
  state : Int
  errorMessage : String := ""
  transient : Bool := false
  deriving DecidableEq, Repr

structure DiskAssignment where
  assignmentId : String
  vmId : VmId
  diskIndex : Nat
  pool : String
  deviceId : String
  actualSizeGib : Nat
  devicePath : String
  deriving DecidableEq, Repr

/-- One message on an established agent stream; `empty` is the unset payload. -/
inductive AgentMessage where
  | register (r : RegisterHostRequest)
  | heartbeat (storageCapacity : Option StorageCapacity)
  | vmState (report : ReportVmStateRequest)
  | tombstoneAck (clusterVnis : List Nat) (vmIds : List VmId)
  | diskAssignment (assignment : Option DiskAssignment)
  | empty
  deriving DecidableEq, Repr

end BasisCell
