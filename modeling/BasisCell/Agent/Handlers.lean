import BasisCell.Agent.Storage
import BasisCell.Lib.Pool

/-!
# `BasisCell.Agent.Handlers` — creating and deleting VMs

`create_vm` and `delete_vm` of `handlers.rs` with the parts of `vm.rs`, `network` and `gpu.rs` they call, and
the tasks that `process_inbound` spawns for them. Metrics and logging are left out, and so is the text of the
guest configuration; a step whose error the source only logs goes on here too.
-/

namespace BasisCell.Agent

open Conc

/-! ## Errors -/

inductive NetworkError where
  | bridgeFailed (what : String)
  | tapInconsistent (tap reason : String)
  | commandFailed (what : String)
  deriving DecidableEq, Repr

def NetworkError.text : NetworkError → String
  | bridgeFailed what => s!"bridge setup failed: {what}"
  | tapInconsistent tap reason => s!"tap '{tap}' inconsistent: {reason}"
  | commandFailed what => s!"command failed: {what}"

/-- What the source puts into an `anyhow::Error`. -/
inductive AgentError where
  | io (what : String)
  | image (what : String)
  | diskTooSmall (diskGib : Nat) (image : String) (virtualSizeGib : Nat)
  | unknownPool (pool : String)
  | deviceNotMember (deviceId pool : String)
  | deviceUnhealthy (dev : Storage.PoolDevice) (pool : String)
  | deviceFull (dev : Storage.PoolDevice) (pool : String) (minSizeGib : Nat)
  | db (what : String)
  | sqlx (what : String)
  | lvm (e : LvmError)
  | invalidPurpose (purpose : Int) (assignmentId : String)
  | network (e : NetworkError)
  | gpu (pci reason : String)
  | spawnFailed (what : String)
  deriving DecidableEq, Repr

def Storage.DevicePhysicalHealth.debug : DevicePhysicalHealth → String
  | ready => "Ready"
  | degraded => "Degraded"
  | missing => "Missing"

def AgentError.text : AgentError → String
  | io what => what
  | image what => what
  | diskTooSmall diskGib ref virtualSizeGib =>
    s!"requested disk_gib ({diskGib}) is smaller than image '{ref}' virtual size ({virtualSizeGib} GiB)"
  | unknownPool pool => s!"unknown pool {pool.quote}"
  | deviceNotMember deviceId pool => s!"device {deviceId.quote} not a member of pool {pool.quote}"
  | deviceUnhealthy dev pool =>
    s!"device {dev.id.quote} in pool {pool.quote} is {dev.physical.debug} ({dev.physicalReason})"
  | deviceFull dev pool minSizeGib =>
    s!"device {dev.id.quote} in pool {pool.quote} has {dev.freeGib} GiB free, disk needs {minSizeGib} GiB"
  | db what => s!"database error: {what}"
  | sqlx what => what
  | lvm e => e.text
  | invalidPurpose purpose assignmentId =>
    s!"invalid DiskPurpose enum value {purpose} on commanded disk {assignmentId}"
  | network e => e.text
  | gpu pci reason => s!"vfio bind failed for {pci}: {reason}"
  | spawnFailed what => s!"cloud-hypervisor failed to start: {what}"

/-- Does the error chain hold `LvmError::Busy`? -/
def AgentError.transient : AgentError → Bool
  | lvm (.busy _) => true
  | _ => false

/-- `?` on a call into `lvm.rs`. -/
def orLvm {α : Type} (p : Fallible LvmError α) : Fallible AgentError α := ExceptT.mk do
  match ← p.run with
  | .ok a => return .ok a
  | .error e => return .error (.lvm e)

/-! ## Names -/

def unitNameForVm (vmId : VmId) : String := s!"basis-vm-{vmId}.service"

def HostSpec.primaryTapName (spec : HostSpec) (vmId : VmId) : String := "bas" ++ spec.vmIdHash vmId

def bridgeName (vni : Nat) : String := s!"brc{vni}"

/-! ## Links, GPUs, units -/

def linkExists (link : String) : Fallible AgentError Bool :=
  orFail (fun what => .network (.commandFailed what)) (command (.linkExists link))

/-- `run_cmd` of the network module. -/
def runNetwork (f : NetworkError → NetworkError) (c : Cmd) : Fallible AgentError c.Resp :=
  orFail (fun stderr => .network (f (.bridgeFailed s!"{c.line} failed: {stderr}"))) (command c)

/-- An existing tap is kept. -/
def ensureTapOnBridge (tap bridge : String) : Fallible AgentError Unit := do
  if !(← linkExists tap) then runNetwork id (.tuntapAdd tap)
  runNetwork (fun e => .tapInconsistent tap s!"attach to bridge {bridge}: {e.text}") (.linkSetMaster tap bridge)
  runNetwork (fun e => .tapInconsistent tap s!"link up: {e.text}") (.linkSetUp tap)

def attachVmPrimary (spec : HostSpec) (vmId : VmId) (vni : Nat) : Fallible AgentError String := do
  orFail (fun what => .network (.bridgeFailed what)) (command (.ensureBootstrap vni))
  ensureTapOnBridge (spec.primaryTapName vmId) (bridgeName vni)
  return spec.primaryTapName vmId

def bindAll : List String → Fallible AgentError (List String)
  | [] => return []
  | pci :: rest => do
    let path ← orFail (.gpu pci) (command (.bindVfio pci))
    let others ← bindAll rest
    return path :: others

namespace VmManager

def createVm (vmId : VmId) (launch : Launch) : Fallible AgentError Unit := do
  orFail .io (command (.createDirAll vmId))
  orFail (fun stderr => .spawnFailed s!"systemd-run failed: {stderr}")
    (command (.systemdRun (unitNameForVm vmId) launch))
  ExceptT.lift (mem (.track vmId))

def deleteVm (vmId : VmId) : Job Unit := do
  mem (.untrack vmId)
  let _ ← command (.systemctlStop (unitNameForVm vmId))
  let _ ← command .udevadmSettle
  let _ ← command (.removeDirAll vmId)
  let _ ← command (.resetFailed (unitNameForVm vmId))

end VmManager

/-! ## `delete_vm` -/

def deleteVm (spec : HostSpec) (vmId : VmId) : Fallible AgentError Unit := do
  let record ← ExceptT.lift (statement (.getVm vmId))
  ExceptT.lift (VmManager.deleteVm vmId)
  let _ ← ExceptT.lift (command (.linkDelete (spec.primaryTapName vmId)))
  match record with
  | .ok (some row) => ExceptT.lift (Prog.forEach row.gpuPciAddresses fun pci => do let _ ← command (.unbindVfio pci))
  | _ => pure ()
  orLvm (Storage.removeVmRootfs spec vmId)
  orLvm (Storage.releaseVmDisks vmId spec.pools)
  let _ ← ExceptT.lift (statement (.deleteVm vmId))

/-! ## `create_vm` -/

/-- One disk of the command is on a healthy device with room for it. -/
def validateDisk (spec : HostSpec) (disk : CommandedDisk) : Fallible AgentError Unit := do
  match spec.pool disk.pool with
  | none => throw (.unknownPool disk.pool)
  | some pool =>
    let found ← ExceptT.lift (Storage.devices pool.devices)
    match found.find? fun d => d.id = disk.deviceId with
    | none => throw (.deviceNotMember disk.deviceId disk.pool)
    | some dev =>
      if dev.physical ≠ .ready then throw (.deviceUnhealthy dev disk.pool)
      else if dev.freeGib < disk.minSizeGib then throw (.deviceFull dev disk.pool disk.minSizeGib)
      else return ()

def validateDisks (spec : HostSpec) : List CommandedDisk → Fallible AgentError Unit
  | [] => return ()
  | disk :: rest => do
    validateDisk spec disk
    validateDisks spec rest

/-- The record of the VM before its disks are allocated. -/
def localRow (cmd : CreateVmCommand) : LocalVmRow where
  vmId := cmd.vmId
  name := cmd.name
  unitName := unitNameForVm cmd.vmId
  ipAddress := cmd.ipAddress
  cpu := cmd.cpu
  memoryMib := cmd.memoryMib
  diskGib := cmd.diskGib
  gpuPciAddresses := cmd.gpuPciAddresses
  storageDisks := []
  image := cmd.image
  vni := cmd.vni
  clusterId := cmd.clusterId

def allocationRequest (vmId : VmId) (disk : CommandedDisk) : Storage.DiskAllocationRequest where
  assignmentId := disk.assignmentId
  deviceId := disk.deviceId
  vmId := vmId
  diskIndex := disk.diskIndex
  minSizeGib := disk.minSizeGib

def localDisk (disk : CommandedDisk) (purpose : DiskPurpose) (alloc : Storage.Allocation) : LocalStorageDisk where
  assignmentId := disk.assignmentId
  pool := disk.pool
  deviceId := disk.deviceId
  diskIndex := disk.diskIndex
  sizeGib := alloc.actualSizeGib
  purpose := purpose.asDbStr
  devicePath := alloc.path

/-- The report that the disk is ready. -/
def assignmentReport (vmId : VmId) (disk : CommandedDisk) (alloc : Storage.Allocation) : AgentMessage :=
  .diskAssignment (some
    { assignmentId := disk.assignmentId, vmId, diskIndex := disk.diskIndex, pool := disk.pool
      deviceId := disk.deviceId, actualSizeGib := alloc.actualSizeGib, devicePath := alloc.path })

/-- Allocate the disks in the command's order, each reported as soon as it is ready. -/
def allocateDisks (spec : HostSpec) (vmId : VmId) : List CommandedDisk → Fallible AgentError (List LocalStorageDisk)
  | [] => return []
  | disk :: rest => do
    match spec.pool disk.pool with
    | none => throw (.unknownPool disk.pool)
    | some pool =>
      match DiskPurpose.tryFrom disk.purpose with
      | none => throw (.invalidPurpose disk.purpose disk.assignmentId)
      | some purpose =>
        let alloc ← orLvm (Storage.allocate pool (allocationRequest vmId disk))
        ExceptT.lift (mem (.send (assignmentReport vmId disk alloc)))
        let others ← allocateDisks spec vmId rest
        return localDisk disk purpose alloc :: others

/-- `create_vm_inner` once the VM's record is in. -/
def buildVm (spec : HostSpec) (cmd : CreateVmCommand) (base : CachedImage) : Fallible AgentError Unit := do
  let rootfs ← orLvm (Storage.createVmRootfs spec cmd.vmId base.imageHash cmd.diskGib)
  let disks ← allocateDisks spec cmd.vmId cmd.storageDisks
  orFail .sqlx (statement (.setStorageDisks cmd.vmId disks))
  orFail .image (command (.createCloudInitIso cmd.vmId))
  let tap ← attachVmPrimary spec cmd.vmId cmd.vni
  let vfioDevices ← bindAll cmd.gpuPciAddresses
  VmManager.createVm cmd.vmId
    { cpu := cmd.cpu, memoryMib := cmd.memoryMib, kernel := base.kernel, initrd := base.initrd, tap
      disks := rootfs :: s!"{cmd.vmId}/cidata.iso" :: disks.map (·.devicePath), vfioDevices }

def createVmInner (spec : HostSpec) (cmd : CreateVmCommand) : Fallible AgentError Unit := do
  orFail .io (command (.createDirAll cmd.vmId))
  let base : CachedImage ← orFail .image (command (.ensureCached cmd.image))
  if cmd.diskGib < base.virtualSizeGib then throw (.diskTooSmall cmd.diskGib cmd.image base.virtualSizeGib)
  else
    validateDisks spec cmd.storageDisks
    orFail .db (statement (.insertVm (localRow cmd)))
    buildVm spec cmd base

def createVm (spec : HostSpec) (cmd : CreateVmCommand) : Job (Except AgentError Unit) := do
  mem (.markPending cmd.vmId)
  let result ← (createVmInner spec cmd).run
  mem (.clearPending cmd.vmId)
  match result with
  | .ok () => return .ok ()
  | .error e =>
    let _ ← (deleteVm spec cmd.vmId).run
    return .error e

/-! ## Tasks -/

/-- The tasks that run VM operations: one per `CreateVm` command, and one per VM tombstone of a reconcile. -/
inductive Duty where
  | create (cmd : CreateVmCommand)
  | tombstone (vmId : VmId)
  deriving DecidableEq

def Duty.vmId : Duty → VmId
  | create cmd => cmd.vmId
  | tombstone vmId => vmId

/-- The agent as a pool of such tasks. A restart of the agent loses its memory and nothing of the host. -/
def agent (spec : HostSpec) : Machine Duty Op Op.Resp Host (Except AgentError Unit) where
  exec := Op.exec
  body
    | .create cmd => createVm spec cmd
    | .tombstone vmId => (deleteVm spec vmId).run
  fresh := fun _ _ => true
  reboot := fun s => { s with tracked := [], pending := [], permits := [] }

/-! ## A host with one VM -/

/-- A host with one data pool of one device. -/
def smallSpec : HostSpec where
  rootfsVg := "rootvg"
  pools := [⟨"bulk", [⟨"d0", "vg0", 100⟩]⟩]
  vmIdHash := id
  distinct := by decide

def smallHost : Host := { vgs := [⟨"vg0", 100 * 2 ^ 30⟩], images := fun ref => .ok ⟨ref, "vmlinux", "initrd", 5⟩ }

/-- A VM with one data disk and one GPU. -/
def smallCommand : CreateVmCommand :=
  { vmId := "v1", name := "worker", cpu := 2, memoryMib := 1024, diskGib := 10, image := "base"
    ipAddress := 1, gateway := 0, prefixLen := 24, gpuPciAddresses := ["0000:01:00.0"]
    storageDisks := [⟨"a1", 20, "bulk", "d0", 0, "c0", 2⟩], vni := 100, clusterId := "c0" }

/-- The host after the first create. -/
def upHost : Host := ((createVm smallSpec smallCommand).eval Op.exec smallHost).1

end BasisCell.Agent
