import BasisCell.Agent.Host

/-!
# `BasisCell.Agent.Storage` — rootfs and data disks

The parts of `lvm.rs` that the VM lifecycle calls: the rootfs snapshot, allocation and release of data disks
on linear pools, and the per-device health check, as programs over the host. The reservation ledger is only
read and written by single statements; what a permit covers is what `withPermit` wraps.
-/

namespace BasisCell.Agent

open Conc

/-- A task of the agent, suspended at every statement, command and lock. -/
abbrev Job (α : Type) := Prog Op Op.Resp α

/-- A job with the source's `Result`; `?` is the monad's bind. -/
abbrev Fallible (ε α : Type) := ExceptT ε (Prog Op Op.Resp) α

def statement (q : Sql) : Job (Except String q.Resp) := Prog.perform (Op.sql q)

def command (c : Cmd) : Job (Except String c.Resp) := Prog.perform (Op.cmd c)

def mem (m : Mem) : Job m.Resp := Prog.perform (Op.mem m)

/-- `?` on a statement or a command, with the error it turns into. -/
def orFail {ε α : Type} (f : String → ε) (job : Job (Except String α)) : Fallible ε α := ExceptT.mk do
  match ← job with
  | .ok a => return .ok a
  | .error what => return .error (f what)

/-! ## Configuration and errors -/

structure DeviceSpec where
  id : String
  vg : String
  sizeGib : Nat
  deriving DecidableEq, Repr

structure PoolSpec where
  name : String
  devices : List DeviceSpec
  deriving DecidableEq, Repr

/-- A host's storage configuration, which `validate` has accepted. -/
structure HostSpec where
  rootfsVg : String
  pools : List PoolSpec
  /-- What `DefaultHasher` makes of a VM id, in hex. -/
  vmIdHash : VmId → String
  /-- Pool names are unique. -/
  distinct : (pools.map (·.name)).Nodup

/-- `Storage::pool`. -/
def HostSpec.pool (spec : HostSpec) (name : String) : Option PoolSpec := spec.pools.find? fun p => p.name = name

inductive LvmError where
  | vgMissing (vg : String)
  | deviceNotInPool (pool deviceId : String)
  | assignmentConflict (assignmentId : String) (vmId : VmId) (diskIndex : Nat)
  | command (cmd stderr : String)
  | db (what : String)
  | busy (role : String)
  deriving DecidableEq, Repr

def LvmError.text : LvmError → String
  | vgMissing vg =>
    s!"volume group '{vg}' not found — run the basis-prereqs ansible role on this host to " ++
    "provision the LVM layout"
  | deviceNotInPool pool deviceId => s!"device {deviceId.quote} is not a member of pool {pool.quote}"
  | assignmentConflict id vmId diskIndex =>
    s!"assignment {id.quote} for vm {vmId.quote} disk {diskIndex} conflicts with an " ++
    "existing reservation owned by a different assignment_id (controller bug or stale retry)"
  | command cmd stderr => s!"lvm command `{cmd}` failed: {stderr}"
  | db what => s!"agent db error: {what}"
  | busy role =>
    s!"lvm backend busy on {role}: could not acquire permit within 60s — " ++
    "arrival rate exceeds service rate, shed load or retry"

namespace Storage

def sql (q : Sql) : Fallible LvmError q.Resp := orFail .db (statement q)

/-- `run_cmd`. -/
def run (c : Cmd) : Fallible LvmError c.Resp := orFail (.command c.line) (command c)

/-- Is there such a volume? -/
def lvAttr (vg lv : String) : Fallible LvmError Bool := run (.lvAttr vg lv)

def lvremove (vg lv : String) : Fallible LvmError Unit := run (.lvremove vg lv)

def acquire (role : String) : Job Bool := mem (.acquire role)

/-- `let _permit = gate.acquire().await?`, held to the end of `body`. -/
def withPermit {α : Type} (role : String) (body : Fallible LvmError α) : Fallible LvmError α := ExceptT.mk do
  if ← acquire role then
    let result ← body.run
    mem (.release role)
    return result
  else return .error (.busy role)

/-! ## Rootfs -/

def vmLvName (vmId : VmId) : String := "vm-" ++ vmId

def imageLvName (imageHash : String) : String := "image-" ++ imageHash

def lvPath (vg lvName : String) : String := s!"/dev/{vg}/{lvName}"

/-- Remove the volume if it is there. -/
def sweepLv (vg lv : String) : Fallible LvmError Unit := do
  if ← lvAttr vg lv then lvremove vg lv

/-- Snapshot the golden image; a volume of that name is removed and recreated. -/
def createVmRootfs (spec : HostSpec) (vmId : VmId) (imageHash : String) (diskGib : Nat) :
    Fallible LvmError String :=
  withPermit "rootfs" do
    sweepLv spec.rootfsVg (vmLvName vmId)
    run (.lvcreateSnapshot spec.rootfsVg (vmLvName vmId) (imageLvName imageHash))
    run (.lvextend spec.rootfsVg (vmLvName vmId) diskGib)
    return lvPath spec.rootfsVg (vmLvName vmId)

def removeVmRootfs (spec : HostSpec) (vmId : VmId) : Fallible LvmError Unit := do
  if ← lvAttr spec.rootfsVg (vmLvName vmId) then
    withPermit "rootfs" (lvremove spec.rootfsVg (vmLvName vmId))

/-! ## Data disks -/

inductive DevicePhysicalHealth where
  | ready | degraded | missing
  deriving DecidableEq, Repr

structure PoolDevice where
  id : String
  totalGib : Nat
  freeGib : Nat
  physical : DevicePhysicalHealth
  physicalReason : String
  deriving DecidableEq, Repr

/-- One device of `devices`. -/
def device (dev : DeviceSpec) : Job PoolDevice := do
  match ← (run (.vgCapacity dev.vg)).run with
  | .ok cap => return ⟨dev.id, cap.total / 2 ^ 30, cap.free / 2 ^ 30, .ready, ""⟩
  | .error (.vgMissing _) => return ⟨dev.id, dev.sizeGib, 0, .missing, s!"vg {dev.vg} not present"⟩
  | .error e => return ⟨dev.id, dev.sizeGib, 0, .degraded, e.text⟩

def devices : List DeviceSpec → Job (List PoolDevice)
  | [] => return []
  | dev :: rest => do
    let first ← device dev
    let others ← devices rest
    return first :: others

structure DiskAllocationRequest where
  assignmentId : String
  deviceId : String
  vmId : VmId
  diskIndex : Nat
  minSizeGib : Nat
  deriving DecidableEq, Repr

structure Allocation where
  path : String
  actualSizeGib : Nat
  deriving DecidableEq, Repr

def lvName (vmId : VmId) (diskIndex : Nat) : String := s!"basis-data-{vmId}-{diskIndex}"

/-- The gate of a pool. -/
def gate (pool : PoolSpec) : String := s!"pool={pool.name}"

/-- `vg_for`. -/
def vgFor (pool : PoolSpec) (deviceId : String) : Option String :=
  (pool.devices.find? fun d => d.id = deviceId).map (·.vg)

/-- The row that `allocate` inserts. -/
def DiskAllocationRequest.row (req : DiskAllocationRequest) (pool : PoolSpec) (vg : String) : LvmReservationRow where
  assignmentId := req.assignmentId
  pool := pool.name
  deviceId := req.deviceId
  vg := vg
  lvName := lvName req.vmId req.diskIndex
  vmId := req.vmId
  diskIndex := req.diskIndex
  sizeGib := req.minSizeGib
  state := .creating

/-- `allocate` once no reservation has this assignment: reserve, create the volume, mark it ready. -/
def reserve (pool : PoolSpec) (req : DiskAllocationRequest) : Fallible LvmError Allocation := do
  if (← sql (.conflicting req.vmId req.diskIndex req.assignmentId)).isSome then
    throw (.assignmentConflict req.assignmentId req.vmId req.diskIndex)
  else
    match vgFor pool req.deviceId with
    | none => throw (.deviceNotInPool pool.name req.deviceId)
    | some vg =>
      sql (.insertReservation (req.row pool vg))
      withPermit (gate pool) do
        sweepLv vg (lvName req.vmId req.diskIndex)
        run (.lvcreate vg (lvName req.vmId req.diskIndex) req.minSizeGib)
        sql (.setReservation req.assignmentId .ready)
        return ⟨lvPath vg (lvName req.vmId req.diskIndex), req.minSizeGib⟩

/-- `allocate`: the same assignment again is a no-op once it is ready. -/
def allocate (pool : PoolSpec) (req : DiskAllocationRequest) : Fallible LvmError Allocation := do
  match ← sql (.lookupAssignment req.assignmentId) with
  | none => reserve pool req
  | some existing =>
    if existing.state = .ready then return ⟨lvPath existing.vg existing.lvName, existing.sizeGib⟩
    else
      sql (.deleteReservation req.assignmentId)
      reserve pool req

def markDeleting : List LvmReservationRow → Fallible LvmError Unit
  | [] => return ()
  | row :: rows => do
    sql (.setReservation row.assignmentId .deleting)
    markDeleting rows

def removeReserved : List LvmReservationRow → Fallible LvmError Unit
  | [] => return ()
  | row :: rows => do
    lvremove row.vg row.lvName
    sql (.deleteReservation row.assignmentId)
    removeReserved rows

/-- Release every disk of the VM in one pool. -/
def release (vmId : VmId) (pool : PoolSpec) : Fallible LvmError Unit := do
  let rows ← sql (.reservationsOf pool.name vmId)
  if rows.isEmpty then return ()
  else
    markDeleting rows
    withPermit (gate pool) (removeReserved rows)

def releaseVmDisks (vmId : VmId) : List PoolSpec → Fallible LvmError Unit
  | [] => return ()
  | pool :: pools => do
    release vmId pool
    releaseVmDisks vmId pools

end Storage

end BasisCell.Agent
