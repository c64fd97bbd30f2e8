import BasisCell.Lib.Prog
import BasisCell.Lib.Table
import BasisCell.Proto

/-!
# `BasisCell.Agent.Host` — the host an agent works on

Everything the VM lifecycle of an agent reads or writes: the tables of its local database, the maps of its
`VmManager`, the LVM permits, and the host itself (logical volumes, systemd units, taps, GPU bindings, VM
directories). An agent task touches it through three kinds of operations: SQL statements, external commands,
and operations on the agent's own memory.

Every statement and command may fail, and the programs of the following modules handle that as the source
does. `Op.exec` is a host on which they fail only where they cannot apply: a unique violation, a logical
volume or unit that exists already, a link that does not exist.
-/

namespace BasisCell.Agent

open Relational

/-! ## The local database -/

/-- One entry of `local_vms.storage_disks`. -/
structure LocalStorageDisk where
  assignmentId : String
  pool : String
  deviceId : String
  diskIndex : Nat
  sizeGib : Nat
  purpose : String
  devicePath : String
  deriving DecidableEq, Repr

structure LocalVmRow where
  vmId : VmId
  name : String
  unitName : String
  ipAddress : Ipv4Addr
  cpu : Nat
  memoryMib : Nat
  diskGib : Nat
  gpuPciAddresses : List String
  storageDisks : List LocalStorageDisk
  image : String
  vni : Nat
  clusterId : ClusterId
  deriving DecidableEq, Repr

instance : Schema LocalVmRow where
  Clash a b := a.vmId = b.vmId
  clash_symm h := h.symm
  decClash _ _ := inferInstance

inductive ReservationState where
  | creating | ready | deleting
  deriving DecidableEq, Repr

structure LvmReservationRow where
  assignmentId : String
  pool : String
  deviceId : String
  vg : String
  lvName : String
  vmId : VmId
  diskIndex : Nat
  sizeGib : Nat
  state : ReservationState
  deriving DecidableEq, Repr

instance : Schema LvmReservationRow where
  Clash a b := a.assignmentId = b.assignmentId ∨ (a.vmId = b.vmId ∧ a.diskIndex = b.diskIndex) ∨
    (a.vg = b.vg ∧ a.lvName = b.lvName)
  clash_symm h := h.imp Eq.symm (Or.imp (And.imp Eq.symm Eq.symm) (And.imp Eq.symm Eq.symm))
  decClash _ _ := inferInstance

/-! ## The host -/

/-- A logical volume; thin ones take no extents of their volume group. -/
structure Lv where
  vg : String
  name : String
  sizeGib : Nat
  thin : Bool
  deriving DecidableEq, Repr

structure Vg where
  name : String
  sizeBytes : Nat
  deriving DecidableEq, Repr

/-- What cloud-hypervisor is started with; the order of the disks is the guest's. -/
structure Launch where
  cpu : Nat
  memoryMib : Nat
  kernel : String
  initrd : String
  tap : String
  disks : List String
  vfioDevices : List String
  deriving DecidableEq, Repr

/-- A unit that systemd has loaded. -/
structure SystemdUnit where
  name : String
  launch : Launch
  running : Bool
  deriving DecidableEq, Repr

/-- What `ensure_cached` answers. -/
structure CachedImage where
  imageHash : String
  kernel : String
  initrd : String
  virtualSizeGib : Nat
  deriving DecidableEq, Repr

structure Host where
  localVms : Table LocalVmRow := .empty
  reservations : Table LvmReservationRow := .empty
  vgs : List Vg := []
  lvs : List Lv := []
  units : List SystemdUnit := []
  taps : List String := []
  /-- PCI addresses bound to `vfio-pci`. -/
  vfio : List String := []
  vmDirs : List VmId := []
  /-- VMs whose directory holds a cloud-init ISO. -/
  isos : List VmId := []
  tracked : List VmId := []
  pending : List VmId := []
  /-- The gates whose permit is taken. -/
  permits : List String := []
  /-- Messages for the controller. -/
  sent : List AgentMessage := []
  /-- The image manager's answer for a reference. -/
  images : String → Except String CachedImage

namespace Host

def hasLv (s : Host) (vg name : String) : Bool := s.lvs.any fun lv => lv.vg = vg ∧ lv.name = name

/-- Extents of a volume group that no linear volume takes, in bytes. -/
def vgFree (s : Host) (vg : Vg) : Nat :=
  vg.sizeBytes - ((s.lvs.filter fun lv => lv.vg = vg.name ∧ lv.thin = false).map fun lv => lv.sizeGib * 2 ^ 30).sum

end Host

/-! ## Statements -/

inductive Sql where
  | insertVm (row : LocalVmRow)
  | deleteVm (vmId : VmId)
  | getVm (vmId : VmId)
  | setStorageDisks (vmId : VmId) (disks : List LocalStorageDisk)
  | lookupAssignment (assignmentId : String)
  | conflicting (vmId : VmId) (diskIndex : Nat) (assignmentId : String)
  | insertReservation (row : LvmReservationRow)
  | setReservation (assignmentId : String) (state : ReservationState)
  | deleteReservation (assignmentId : String)
  | reservationsOf (pool : String) (vmId : VmId)

def Sql.Resp : Sql → Type
  | .getVm _ => Option LocalVmRow
  | .lookupAssignment _ => Option LvmReservationRow
  | .conflicting _ _ _ => Option String
  | .reservationsOf _ _ => List LvmReservationRow
  | _ => Unit

def Sql.exec : (q : Sql) → Host → Host × Except String q.Resp
  | .insertVm row, s =>
    match s.localVms.insert row with
    | some localVms => ({ s with localVms }, .ok ())
    | none => (s, .error "UNIQUE constraint failed: local_vms.vm_id")
  | .deleteVm vmId, s => ({ s with localVms := s.localVms.delete fun r => r.vmId = vmId }, .ok ())
  | .getVm vmId, s => (s, .ok (s.localVms.find fun r => r.vmId = vmId))
  | .setStorageDisks vmId disks, s =>
    ({ s with
       localVms := s.localVms.update (fun r => r.vmId = vmId) (fun r => { r with storageDisks := disks })
         fun _ _ => Iff.rfl }, .ok ())
  | .lookupAssignment id, s => (s, .ok (s.reservations.find fun r => r.assignmentId = id))
  | .conflicting vmId diskIndex id, s =>
    (s, .ok ((s.reservations.find fun r => r.vmId = vmId ∧ r.diskIndex = diskIndex ∧ r.assignmentId ≠ id).map
      (·.assignmentId)))
  | .insertReservation row, s =>
    match s.reservations.insert row with
    | some reservations => ({ s with reservations }, .ok ())
    | none => (s, .error "UNIQUE constraint failed: lvm_reservation")
  | .setReservation id state, s =>
    ({ s with
       reservations := s.reservations.update (fun r => r.assignmentId = id) (fun r => { r with state })
         fun _ _ => Iff.rfl }, .ok ())
  | .deleteReservation id, s =>
    ({ s with reservations := s.reservations.delete fun r => r.assignmentId = id }, .ok ())
  | .reservationsOf pool vmId, s =>
    (s, .ok (s.reservations.rows.filter fun r => r.pool = pool ∧ r.vmId = vmId))

/-! ## Commands -/

/-- What `vgs` prints of a volume group. -/
structure VgBytes where
  total : Nat
  free : Nat
  deriving DecidableEq, Repr

inductive Cmd where
  -- lvm2
  | vgCapacity (vg : String)
  | lvAttr (vg lv : String)
  | lvremove (vg lv : String)
  | lvcreateSnapshot (vg lv origin : String)
  | lvcreate (vg lv : String) (sizeGib : Nat)
  /-- `lvextend`, for which "no size change" is a success. -/
  | lvextend (vg lv : String) (sizeGib : Nat)
  -- systemd and udev
  | systemdRun (unit : String) (launch : Launch)
  | systemctlStop (unit : String)
  | udevadmSettle
  | resetFailed (unit : String)
  -- links
  /-- Bridge and VXLAN device of the cluster. -/
  | ensureBootstrap (vni : Nat)
  | linkExists (link : String)
  | tuntapAdd (tap : String)
  | linkSetMaster (link bridge : String)
  | linkSetUp (link : String)
  | linkDelete (link : String)
  -- sysfs and files
  | bindVfio (pci : String)
  | unbindVfio (pci : String)
  | createDirAll (vmId : VmId)
  | removeDirAll (vmId : VmId)
  | createCloudInitIso (vmId : VmId)
  | ensureCached (image : String)

def Cmd.Resp : Cmd → Type
  | .vgCapacity _ => VgBytes
  | .lvAttr _ _ => Bool
  | .linkExists _ => Bool
  | .bindVfio _ => String
  | .ensureCached _ => CachedImage
  | _ => Unit

/-- The command line, as far as an error message quotes it. -/
def Cmd.line : Cmd → String
  | .vgCapacity vg => s!"vgs --noheadings --separator=| --units b --nosuffix -o vg_size,vg_free {vg}"
  | .lvAttr vg lv => s!"lvs --noheadings -o lv_attr -S lv_name={lv} {vg}"
  | .lvremove vg lv => s!"lvremove -f {vg}/{lv}"
  | .lvcreateSnapshot vg lv origin =>
    s!"lvcreate --snapshot --name {lv} --setactivationskip n --permission rw {vg}/{origin}"
  | .lvcreate vg lv sizeGib => s!"lvcreate --wipesignatures y --yes --size {sizeGib}G --name {lv} {vg}"
  | .lvextend vg lv sizeGib => s!"lvextend -L {sizeGib}G {vg}/{lv}"
  | .tuntapAdd tap => s!"ip tuntap add {tap} mode tap multi_queue"
  | .linkSetMaster link bridge => s!"ip link set {link} master {bridge}"
  | .linkSetUp link => s!"ip link set {link} up"
  | .linkDelete link => s!"ip link delete {link}"
  | _ => ""

def Cmd.exec : (c : Cmd) → Host → Host × Except String c.Resp
  | .vgCapacity vg, s =>
    match s.vgs.find? fun v => v.name = vg with
    | some v => (s, .ok ⟨v.sizeBytes, s.vgFree v⟩)
    | none => (s, .error s!"Volume group \"{vg}\" not found")
  | .lvAttr vg lv, s => (s, .ok (s.hasLv vg lv))
  | .lvremove vg lv, s => ({ s with lvs := s.lvs.filter fun l => !decide (l.vg = vg ∧ l.name = lv) }, .ok ())
  | .lvcreateSnapshot vg lv _, s =>
    if s.hasLv vg lv then (s, .error s!"Logical Volume \"{lv}\" already exists in volume group \"{vg}\"")
    else ({ s with lvs := s.lvs ++ [⟨vg, lv, 0, true⟩] }, .ok ())
  | .lvcreate vg lv sizeGib, s =>
    if s.hasLv vg lv then (s, .error s!"Logical Volume \"{lv}\" already exists in volume group \"{vg}\"")
    else
      match s.vgs.find? fun v => v.name = vg with
      | none => (s, .error s!"Volume group \"{vg}\" not found")
      | some v =>
        if s.vgFree v < sizeGib * 2 ^ 30 then (s, .error s!"Volume group \"{vg}\" has insufficient free space")
        else ({ s with lvs := s.lvs ++ [⟨vg, lv, sizeGib, false⟩] }, .ok ())
  | .lvextend vg lv sizeGib, s =>
    if s.hasLv vg lv then
      ({ s with lvs := s.lvs.map fun l =>
          if l.vg = vg ∧ l.name = lv then { l with sizeGib := max l.sizeGib sizeGib } else l }, .ok ())
    else (s, .error s!"Failed to find logical volume \"{vg}/{lv}\"")
  | .systemdRun unit launch, s =>
    if s.units.any fun u => u.name = unit then (s, .error s!"Unit {unit} was already loaded")
    else ({ s with units := s.units ++ [⟨unit, launch, true⟩] }, .ok ())
  | .systemctlStop unit, s =>
    -- `--remain-after-exit`: the unit stays loaded until it is reset
    ({ s with units := s.units.map fun u => if u.name = unit then { u with running := false } else u }, .ok ())
  | .udevadmSettle, s => (s, .ok ())
  | .resetFailed unit, s =>
    ({ s with units := s.units.filter fun u => !decide (u.name = unit ∧ u.running = false) }, .ok ())
  | .ensureBootstrap _, s => (s, .ok ())
  | .linkExists link, s => (s, .ok (decide (link ∈ s.taps)))
  | .tuntapAdd tap, s =>
    if tap ∈ s.taps then (s, .error "ioctl(TUNSETIFF): Device or resource busy")
    else ({ s with taps := s.taps ++ [tap] }, .ok ())
  | .linkSetMaster link _, s =>
    (s, if link ∈ s.taps then .ok () else .error s!"Cannot find device \"{link}\"")
  | .linkSetUp link, s => (s, if link ∈ s.taps then .ok () else .error s!"Cannot find device \"{link}\"")
  | .linkDelete link, s => ({ s with taps := s.taps.filter (· ≠ link) }, .ok ())
  | .bindVfio pci, s => ({ s with vfio := pci :: s.vfio.filter (· ≠ pci) }, .ok s!"/dev/vfio/{pci}")
  | .unbindVfio pci, s => ({ s with vfio := s.vfio.filter (· ≠ pci) }, .ok ())
  | .createDirAll vmId, s => ({ s with vmDirs := vmId :: s.vmDirs.filter (· ≠ vmId) }, .ok ())
  | .removeDirAll vmId, s =>
    ({ s with vmDirs := s.vmDirs.filter (· ≠ vmId), isos := s.isos.filter (· ≠ vmId) }, .ok ())
  | .createCloudInitIso vmId, s =>
    ({ s with vmDirs := vmId :: s.vmDirs.filter (· ≠ vmId), isos := vmId :: s.isos.filter (· ≠ vmId) }, .ok ())
  | .ensureCached image, s => (s, s.images image)

/-! ## Operations -/

/-- Operations on the agent's own memory. -/
inductive Mem where
  | markPending (vmId : VmId)
  | clearPending (vmId : VmId)
  | track (vmId : VmId)
  | untrack (vmId : VmId)
  /-- `VgGate::acquire`; `false` is the timeout, which only strikes while the permit is taken. -/
  | acquire (role : String)
  | release (role : String)
  | send (msg : AgentMessage)

def Mem.Resp : Mem → Type
  | .acquire _ => Bool
  | _ => Unit

def Mem.exec : (m : Mem) → Host → Host × m.Resp
  | .markPending vmId, s => ({ s with pending := vmId :: s.pending.filter (· ≠ vmId) }, ())
  | .clearPending vmId, s => ({ s with pending := s.pending.filter (· ≠ vmId) }, ())
  | .track vmId, s => ({ s with tracked := vmId :: s.tracked.filter (· ≠ vmId) }, ())
  | .untrack vmId, s => ({ s with tracked := s.tracked.filter (· ≠ vmId) }, ())
  | .acquire role, s => if role ∈ s.permits then (s, false) else ({ s with permits := role :: s.permits }, true)
  | .release role, s => ({ s with permits := s.permits.filter (· ≠ role) }, ())
  | .send msg, s => ({ s with sent := s.sent ++ [msg] }, ())

inductive Op where
  | sql (q : Sql)
  | cmd (c : Cmd)
  | mem (m : Mem)

def Op.Resp : Op → Type
  | .sql q => Except String q.Resp
  | .cmd c => Except String c.Resp
  | .mem m => m.Resp

def Op.exec : (o : Op) → Host → Host × o.Resp
  | .sql q, s => q.exec s
  | .cmd c, s => c.exec s
  | .mem m, s => m.exec s

end BasisCell.Agent
