import BasisCell.Agent.Handlers

/-!
# `BasisCell.Agent.Discipline` — the protocol of creating and deleting a VM

How far `create_vm` and `delete_vm` have come, and what they may do next. A create builds the VM between
`mark_pending` and `clear_pending`, and only there; what follows, its rollback, is a delete. A delete takes
the VM's resources down in one order: unit, tap, rootfs, the reservations of one pool after the other, the
record.

`discipline_governs` follows the text of the two handlers once; the arguments of the next modules, about a
single run and about two tasks that interleave, only look at the phases.
-/

namespace BasisCell.Agent

open Conc Conc.Protocol Storage

inductive Phase where
  /-- `create_vm` has not begun. -/
  | start
  /-- The VM's record is not in. -/
  | preparing
  /-- The record is in, every reservation of the command made so far is ready. -/
  | building
  /-- The reservation is in, its volume not ready. -/
  | reserving (row : LvmReservationRow)
  /-- A reservation of the command was left over by an attempt that did not end. -/
  | stale
  /-- `delete_vm` has not begun; where a create ends that went well. -/
  | looking
  /-- `delete_vm` has read the record. -/
  | stopping
  | stopped
  | unitGone
  | tapGone
  /-- The rootfs is gone; the pools are left to release. -/
  | rootfsGone (pools : List PoolSpec)
  /-- One pool is being released, these rows of it are left. -/
  | releasing (todo : List LvmReservationRow) (pools : List PoolSpec)
  /-- The volume of a row is gone, the row is not. -/
  | removed (row : LvmReservationRow) (todo : List LvmReservationRow) (pools : List PoolSpec)
  | gone

namespace Phase

/-- Inside `create_vm_inner`. -/
def inner : Phase → Bool
  | preparing | building | reserving _ => true
  | _ => false

/-- Inside a delete, from its second half on. -/
def detached : Phase → Bool
  | tapGone | rootfsGone _ | releasing _ _ | removed _ _ _ | gone => true
  | _ => false

/-- Inside a delete, or about to begin one. -/
def deletes : Phase → Bool
  | looking | stopping | stopped | unitGone => true
  | g => g.detached

/-- What is left of a pool's release. -/
def afterRow (todo : List LvmReservationRow) (pools : List PoolSpec) : Phase :=
  if todo.isEmpty then rootfsGone pools else releasing todo pools

end Phase

/-- Operations that neither make nor remove anything of a VM but its directory, GPU bindings and memory entries. -/
def Op.routine : Op → Bool
  | .sql (.conflicting _ _ _) => true
  | .cmd (.vgCapacity _) | .cmd (.lvextend _ _ _) | .cmd .udevadmSettle | .cmd (.ensureBootstrap _)
  | .cmd (.linkExists _) | .cmd (.linkSetMaster _ _) | .cmd (.linkSetUp _) | .cmd (.bindVfio _)
  | .cmd (.unbindVfio _) | .cmd (.createDirAll _) | .cmd (.removeDirAll _) | .cmd (.createCloudInitIso _)
  | .cmd (.ensureCached _) => true
  | .mem (.untrack _) | .mem (.acquire _) | .mem (.release _) | .mem (.send _) => true
  | _ => false

/-- The steps of `delete_vm`. -/
inductive Deletes (spec : HostSpec) (vmId : VmId) : Phase → Op → Prop
  | look : Deletes spec vmId .looking (.sql (.getVm vmId))
  | stop : Deletes spec vmId .stopping (.cmd (.systemctlStop (unitNameForVm vmId)))
  | reset : Deletes spec vmId .stopped (.cmd (.resetFailed (unitNameForVm vmId)))
  | detach : Deletes spec vmId .unitGone (.cmd (.linkDelete (spec.primaryTapName vmId)))
  | rootfsAttr : Deletes spec vmId .tapGone (.cmd (.lvAttr spec.rootfsVg (vmLvName vmId)))
  | rootfsRemove : Deletes spec vmId .tapGone (.cmd (.lvremove spec.rootfsVg (vmLvName vmId)))
  | list {pool pools} : Deletes spec vmId (.rootfsGone (pool :: pools)) (.sql (.reservationsOf pool.name vmId))
  | markRow {id todo pools} : Deletes spec vmId (.releasing todo pools) (.sql (.setReservation id .deleting))
  | removeLv {row todo pools} :
      Deletes spec vmId (.releasing (row :: todo) pools) (.cmd (.lvremove row.vg row.lvName))
  | removeRow {row todo pools} :
      Deletes spec vmId (.removed row todo pools) (.sql (.deleteReservation row.assignmentId))
  | forget : Deletes spec vmId (.rootfsGone []) (.sql (.deleteVm vmId))

/-- Which operations a task may run in which phase. -/
inductive Allows (spec : HostSpec) : Duty → Phase → Op → Prop
  | routine {t g o} (hg : g ≠ .start) (ho : o.routine = true) : Allows spec t g o
  | anything {t o} : Allows spec t .stale o
  | mark {cmd} : Allows spec (.create cmd) .start (.mem (.markPending cmd.vmId))
  | insert {cmd} : Allows spec (.create cmd) .preparing (.sql (.insertVm (localRow cmd)))
  | attr {cmd g vg lv} (hg : g.inner = true) : Allows spec (.create cmd) g (.cmd (.lvAttr vg lv))
  | sweepRootfs {cmd} :
      Allows spec (.create cmd) .building (.cmd (.lvremove spec.rootfsVg (vmLvName cmd.vmId)))
  | snapshot {cmd origin} :
      Allows spec (.create cmd) .building (.cmd (.lvcreateSnapshot spec.rootfsVg (vmLvName cmd.vmId) origin))
  | lookup {cmd disk} (h : disk ∈ cmd.storageDisks) :
      Allows spec (.create cmd) .building (.sql (.lookupAssignment disk.assignmentId))
  | reserve {cmd disk pool vg} (h : disk ∈ cmd.storageDisks) (hpool : pool ∈ spec.pools) :
      Allows spec (.create cmd) .building
        (.sql (.insertReservation ((allocationRequest cmd.vmId disk).row pool vg)))
  | sweep {cmd row} : Allows spec (.create cmd) (.reserving row) (.cmd (.lvremove row.vg row.lvName))
  | fill {cmd row sizeGib} :
      Allows spec (.create cmd) (.reserving row) (.cmd (.lvcreate row.vg row.lvName sizeGib))
  | ready {cmd row} :
      Allows spec (.create cmd) (.reserving row) (.sql (.setReservation row.assignmentId .ready))
  | record {cmd disks} : Allows spec (.create cmd) .building (.sql (.setStorageDisks cmd.vmId disks))
  | addTap {cmd} : Allows spec (.create cmd) .building (.cmd (.tuntapAdd (spec.primaryTapName cmd.vmId)))
  | launch {cmd launch} :
      Allows spec (.create cmd) .building (.cmd (.systemdRun (unitNameForVm cmd.vmId) launch))
  | track {cmd} : Allows spec (.create cmd) .building (.mem (.track cmd.vmId))
  | clear {cmd g} (hg : g.inner = true) : Allows spec (.create cmd) g (.mem (.clearPending cmd.vmId))
  | delete {t g o} (h : Deletes spec t.vmId g o) : Allows spec t g o

/-- Where a response takes a task. -/
def next (spec : HostSpec) : Phase → (o : Op) → o.Resp → Phase
  | .stale, _, _ => .stale
  | .start, .mem (.markPending _), _ => .preparing
  | .preparing, .sql (.insertVm _), .ok _ => .building
  | .building, .sql (.lookupAssignment _), .ok (some row) => if row.state = .ready then .building else .stale
  | .building, .sql (.insertReservation row), .ok _ => .reserving row
  | .reserving _, .sql (.setReservation _ _), _ => .building
  | _, .mem (.clearPending _), _ => .looking
  | .looking, .sql (.getVm _), _ => .stopping
  | .stopping, .cmd (.systemctlStop _), _ => .stopped
  | .stopped, .cmd (.resetFailed _), _ => .unitGone
  | .unitGone, .cmd (.linkDelete _), _ => .tapGone
  | .tapGone, .cmd (.lvAttr _ _), .ok false => .rootfsGone spec.pools
  | .tapGone, .cmd (.lvremove _ _), _ => .rootfsGone spec.pools
  | .rootfsGone (_ :: pools), .sql (.reservationsOf _ _), .ok rows => .afterRow rows pools
  | .releasing (row :: todo) pools, .cmd (.lvremove _ _), _ => .removed row todo pools
  | .removed _ todo pools, .sql (.deleteReservation _), _ => .afterRow todo pools
  | .rootfsGone [], .sql (.deleteVm _), _ => .gone
  | g, _, _ => g

def protocol (spec : HostSpec) (t : Duty) : Protocol Op Op.Resp Phase := ⟨Allows spec t, next spec⟩

/-- Where a task may return, and with what. -/
def Duty.ends : Duty → Phase → Except AgentError Unit → Prop
  | .create _, g, .ok _ => g = .stale ∨ g = .looking
  | .tombstone _, g, .ok _ => g = .stale ∨ g = .gone
  | _, g, .error _ => g = .stale ∨ g.detached = true

def discipline (spec : HostSpec) : Discipline Duty Op Op.Resp (Except AgentError Unit) Phase where
  protocol := protocol spec
  start
    | .create _ => .start
    | .tombstone _ => .looking
  ends := Duty.ends

theorem Phase.deletes_of_inner {g : Phase} (h : g.inner = true) : g.deletes = false := by
  cases g <;> first | rfl | cases h

theorem Phase.deletes_of_detached {g : Phase} (h : g.detached = true) : g.deletes = true := by
  cases g <;> first | rfl | cases h

/-- Inside a delete, a task runs the steps of `delete_vm`, whichever task it is. -/
theorem Allows.of_deletes {spec : HostSpec} {t : Duty} {g : Phase} {o : Op} (h : Allows spec t g o)
    (hg : g.deletes = true) : o.routine = true ∨ Deletes spec t.vmId g o := by
  cases h with
  | routine _ ho => exact .inl ho
  | delete h => exact .inr h
  | attr hinner | clear hinner =>
    rw [Phase.deletes_of_inner hinner] at hg
    cases hg
  | _ => cases hg

/-! ## Segments -/

section Leads

variable {spec : HostSpec} {t : Duty} {g g₁ g₂ : Phase} {o : Op} {ε α β : Type} {E : Phase → Prop}

theorem next_of_routine (ho : o.routine = true) (r : o.Resp) : next spec g o r = g := by
  unfold next
  split <;> first | rfl | cases ho

/-- Once a task is in `stale`, nothing is said about it. -/
theorem follows_stale (p : Job α) : (protocol spec t).Follows (fun g' _ => g' = .stale) p .stale := by
  induction p with
  | ret a => rfl
  | call o k ih => exact ⟨.anything, fun r => ih r⟩

theorem follows_routine {Q : Phase → α → Prop} {k : o.Resp → Job α} (hg : g ≠ .start) (ho : o.routine = true)
    (h : ∀ r, (protocol spec t).Follows Q (k r) g) : (protocol spec t).Follows Q (.call o k) g := by
  refine ⟨.routine hg ho, fun r => ?_⟩
  show (protocol spec t).Follows Q (k r) (next spec g o r)
  rw [next_of_routine ho]
  exact h r

/-- In `g₁` after a success, in `E` after an error. -/
def Arrives (E : Phase → Prop) (g₁ g' : Phase) : Except ε α → Prop
  | .ok _ => g' = g₁
  | .error _ => E g'

/-- A fallible segment takes phase `g` to `g₁`; where it may fail is `E`. -/
def Leads (spec : HostSpec) (t : Duty) (E : Phase → Prop) (q : Fallible ε α) (g g₁ : Phase) : Prop :=
  (protocol spec t).Follows (fun g' r => g' = .stale ∨ Arrives E g₁ g' r) q.run g

theorem Leads.bind {q : Fallible ε α} {f : α → Fallible ε β} (hq : Leads spec t E q g g₁)
    (hf : ∀ a, Leads spec t E (f a) g₁ g₂) : Leads spec t E (q >>= f) g g₂ := by
  refine Follows.exceptBind hq (fun g' a hg' => ?_) fun g' e hg' => hg'
  rcases hg' with rfl | rfl
  · exact (follows_stale _).mono fun _ _ h => .inl h
  · exact hf a

theorem leads_pure (a : α) : Leads spec t E (pure a : Fallible ε α) g g := .inr rfl

theorem leads_throw {e : ε} (h : E g) : Leads spec t E (throw e : Fallible ε α) g g₁ := .inr h

variable {f : String → ε} {c : Cmd}

theorem leads_statement {q : Sql} (hallow : Allows spec t g (.sql q))
    (hok : ∀ a, next spec g (.sql q) (.ok a) = g₁) (herror : ∀ what, E (next spec g (.sql q) (.error what))) :
    Leads spec t E (orFail f (statement q)) g g₁ := by
  refine ⟨hallow, fun r => ?_⟩
  cases r with
  | ok a => exact .inr (hok a)
  | error what => exact .inr (herror what)

theorem leads_command (hallow : Allows spec t g (.cmd c))
    (hok : ∀ a, next spec g (.cmd c) (.ok a) = g₁) (herror : ∀ what, E (next spec g (.cmd c) (.error what))) :
    Leads spec t E (orFail f (command c)) g g₁ := by
  refine ⟨hallow, fun r => ?_⟩
  cases r with
  | ok a => exact .inr (hok a)
  | error what => exact .inr (herror what)

theorem leads_routine (hg : g ≠ .start) (hE : E g) (hc : (Op.cmd c).routine = true) :
    Leads spec t E (orFail f (command c)) g g :=
  leads_command (.routine hg hc) (fun _ => next_of_routine hc _) fun _ => (next_of_routine hc _).symm ▸ hE

theorem leads_lift {job : Job α} (h : (protocol spec t).Follows (fun g' _ => g' = g₁) job g) :
    Leads spec t E (ExceptT.lift job : Fallible ε α) g g₁ :=
  (h.mono fun _ _ hg' => .inr hg').exceptLift

theorem leads_perform (hallow : Allows spec t g o) (hnext : ∀ r, next spec g o r = g₁) :
    Leads spec t E (ExceptT.lift (Prog.perform o) : Fallible ε o.Resp) g g₁ :=
  leads_lift ⟨hallow, hnext⟩

theorem Leads.orLvm {q : Fallible LvmError α} (h : Leads spec t E q g g₁) : Leads spec t E (Agent.orLvm q) g g₁ := by
  refine Follows.bind h fun g' r hg' => ?_
  cases r with
  | ok a | error e => exact hg'

/-- A permit is given back wherever the body ends. -/
theorem leads_withPermit {role : String} {body : Fallible LvmError α} (hg : g ≠ .start) (hE : E g)
    (hbody : Leads spec t E body g g₁) (hg₁ : g₁ ≠ .start) (hstart : ∀ g', E g' → g' ≠ .start) :
    Leads spec t E (withPermit role body) g g₁ := by
  refine follows_routine hg rfl fun granted => ?_
  cases granted with
  | false => exact .inr hE
  | true =>
    show (protocol spec t).Follows _ (body.run >>= fun result => mem (.release role) >>= fun _ => pure result) g
    refine Follows.bind hbody fun g' r hg' => ?_
    have hne : g' ≠ .start := by
      rcases hg' with rfl | hg'
      · exact nofun
      · cases r with
        | ok a => exact hg' ▸ hg₁
        | error e => exact hstart g' hg'
    exact follows_routine hne rfl fun _ => hg'

end Leads

/-! ## `create_vm` -/

section Create

variable {spec : HostSpec} {cmd : CreateVmCommand} {disk : CommandedDisk} {pool : PoolSpec} {g g₁ : Phase}
variable {ε α : Type}

/-- A segment of `create_vm_inner`. -/
abbrev Builds (spec : HostSpec) (cmd : CreateVmCommand) (q : Fallible ε α) (g g₁ : Phase) : Prop :=
  Leads spec (.create cmd) (fun g' => g'.inner = true) q g g₁

theorem ne_start_of_inner (h : g.inner = true) : g ≠ .start := by
  rintro rfl
  cases h

theorem builds_routine {c : Cmd} {f : String → ε} (hg : g.inner = true) (hc : (Op.cmd c).routine = true) :
    Builds spec cmd (orFail f (command c)) g g :=
  leads_routine (ne_start_of_inner hg) hg hc

theorem builds_withPermit {role : String} {body : Fallible LvmError α} (hg : g.inner = true)
    (hg₁ : g₁.inner = true) (hbody : Builds spec cmd body g g₁) : Builds spec cmd (withPermit role body) g g₁ :=
  leads_withPermit (ne_start_of_inner hg) hg hbody (ne_start_of_inner hg₁) fun _ => ne_start_of_inner

theorem builds_sweepLv {vg lv : String} (hg : g.inner = true)
    (hallow : Allows spec (.create cmd) g (.cmd (.lvremove vg lv)))
    (hattr : ∀ r, next spec g (.cmd (.lvAttr vg lv)) r = g)
    (hremove : ∀ r, next spec g (.cmd (.lvremove vg lv)) r = g) : Builds spec cmd (sweepLv vg lv) g g := by
  refine Leads.bind (leads_command (.attr hg) (fun _ => hattr _) fun _ => (hattr _).symm ▸ hg) fun present => ?_
  cases present with
  | true => exact leads_command hallow (fun _ => hremove _) fun _ => (hremove _).symm ▸ hg
  | false => exact leads_pure ()

theorem builds_createVmRootfs {imageHash : String} {diskGib : Nat} :
    Builds spec cmd (createVmRootfs spec cmd.vmId imageHash diskGib) .building .building := by
  refine builds_withPermit rfl rfl ?_
  refine Leads.bind (builds_sweepLv rfl .sweepRootfs (fun _ => rfl) fun _ => rfl) fun _ => ?_
  refine Leads.bind (leads_command .snapshot (fun _ => rfl) fun _ => rfl) fun _ => ?_
  exact Leads.bind (builds_routine rfl rfl) fun _ => leads_pure _

theorem builds_reserve (h : disk ∈ cmd.storageDisks) (hpool : pool ∈ spec.pools) :
    Builds spec cmd (reserve pool (allocationRequest cmd.vmId disk)) .building .building := by
  refine Leads.bind (leads_statement (.routine nofun rfl) (fun _ => rfl) fun _ => rfl) fun conflicting => ?_
  split
  · exact leads_throw rfl
  · split
    · exact leads_throw rfl
    · rename_i vg _
      refine Leads.bind (leads_statement (.reserve h hpool) (fun _ => rfl) fun _ => rfl) fun _ => ?_
      refine builds_withPermit rfl rfl ?_
      refine Leads.bind (builds_sweepLv rfl .sweep (fun _ => rfl) fun _ => rfl) fun _ => ?_
      refine Leads.bind (leads_command .fill (fun _ => rfl) fun _ => rfl) fun _ => ?_
      exact Leads.bind (leads_statement .ready (fun _ => rfl) fun _ => rfl) fun _ => leads_pure _

theorem leads_stale {t : Duty} {E : Phase → Prop} {q : Fallible ε α} : Leads spec t E q .stale g :=
  (follows_stale _).mono fun _ _ h => .inl h

theorem builds_allocate (h : disk ∈ cmd.storageDisks) (hpool : pool ∈ spec.pools) :
    Builds spec cmd (allocate pool (allocationRequest cmd.vmId disk)) .building .building := by
  refine ⟨.lookup h, fun r => ?_⟩
  match r with
  | .error what => exact .inr rfl
  | .ok none => exact builds_reserve h hpool
  | .ok (some existing) =>
    show Leads spec _ _ (if existing.state = .ready then _ else _) (if existing.state = .ready then _ else _) _
    split
    · exact leads_pure _
    · exact leads_stale

variable {disks : List CommandedDisk}

theorem builds_allocateDisks (h : ∀ disk ∈ disks, disk ∈ cmd.storageDisks) :
    Builds spec cmd (allocateDisks spec cmd.vmId disks) .building .building := by
  induction disks with
  | nil => exact leads_pure _
  | cons disk rest ih =>
    unfold allocateDisks
    split
    · exact leads_throw rfl
    · rename_i pool hpool
      split
      · exact leads_throw rfl
      · have hdisk := h disk List.mem_cons_self
        refine Leads.bind (builds_allocate hdisk (List.mem_of_find?_eq_some hpool)).orLvm fun alloc => ?_
        refine Leads.bind (leads_lift (follows_routine nofun rfl fun _ => rfl)) fun _ => ?_
        exact Leads.bind (ih fun d hd => h d (List.mem_cons_of_mem disk hd)) fun _ => leads_pure _

theorem follows_devices {devs : List DeviceSpec} :
    (protocol spec (.create cmd)).Follows (fun g' _ => g' = .preparing) (devices devs) .preparing := by
  induction devs with
  | nil => rfl
  | cons dev rest ih =>
    refine Follows.bind (Q := fun g' _ => g' = .preparing) (follows_routine nofun rfl fun r => ?_) ?_
    · match r with
      | .ok _ | .error _ => rfl
    · rintro g' first rfl
      refine Follows.bind ih ?_
      rintro g' others rfl
      rfl

theorem builds_validateDisks : Builds spec cmd (validateDisks spec disks) .preparing .preparing := by
  induction disks with
  | nil => exact leads_pure ()
  | cons disk rest ih =>
    refine Leads.bind ?_ fun _ => ih
    unfold validateDisk
    split
    · exact leads_throw rfl
    · refine Leads.bind (leads_lift follows_devices) fun found => ?_
      split
      · exact leads_throw rfl
      · split
        · exact leads_throw rfl
        · split
          · exact leads_throw rfl
          · exact leads_pure ()

theorem builds_attachVmPrimary {vni : Nat} :
    Builds spec cmd (attachVmPrimary spec cmd.vmId vni) .building .building := by
  refine Leads.bind (builds_routine rfl rfl) fun _ => Leads.bind ?_ fun _ => leads_pure _
  refine Leads.bind (builds_routine rfl rfl) fun present => ?_
  cases present with
  | true => exact Leads.bind (builds_routine rfl rfl) fun _ => builds_routine rfl rfl
  | false =>
    refine Leads.bind (leads_command .addTap (fun _ => rfl) fun _ => rfl) fun _ => ?_
    exact Leads.bind (builds_routine rfl rfl) fun _ => builds_routine rfl rfl

theorem builds_bindAll {pcis : List String} : Builds spec cmd (bindAll pcis) .building .building := by
  induction pcis with
  | nil => exact leads_pure _
  | cons pci rest ih => exact Leads.bind (builds_routine rfl rfl) fun _ => Leads.bind ih fun _ => leads_pure _

theorem builds_launch {launch : Launch} :
    Builds spec cmd (VmManager.createVm cmd.vmId launch) .building .building := by
  refine Leads.bind (builds_routine rfl rfl) fun _ => ?_
  refine Leads.bind (leads_command .launch (fun _ => rfl) fun _ => rfl) fun _ => ?_
  exact leads_lift ⟨.track, fun _ => rfl⟩

theorem builds_createVmInner : Builds spec cmd (createVmInner spec cmd) .preparing .building := by
  refine Leads.bind (builds_routine rfl rfl) fun _ => Leads.bind (builds_routine rfl rfl) fun base => ?_
  split
  · exact leads_throw rfl
  · refine Leads.bind builds_validateDisks fun _ => ?_
    refine Leads.bind (leads_statement .insert (fun _ => rfl) fun _ => rfl) fun _ => ?_
    refine Leads.bind builds_createVmRootfs.orLvm fun rootfs => ?_
    refine Leads.bind (builds_allocateDisks fun _ h => h) fun disks => ?_
    refine Leads.bind (leads_statement .record (fun _ => rfl) fun _ => rfl) fun _ => ?_
    refine Leads.bind (builds_routine rfl rfl) fun _ => ?_
    refine Leads.bind builds_attachVmPrimary fun tap => Leads.bind builds_bindAll fun vfioDevices => ?_
    exact builds_launch

end Create

/-! ## `delete_vm` -/

section Delete

variable {spec : HostSpec} {t : Duty} {pool : PoolSpec} {pools : List PoolSpec} {g g₁ : Phase} {ε α : Type}

/-- A segment of `delete_vm` once the tap is gone. -/
abbrev Clears (spec : HostSpec) (t : Duty) (q : Fallible ε α) (g g₁ : Phase) : Prop :=
  Leads spec t (fun g' => g'.detached = true) q g g₁

theorem ne_start_of_detached (h : g.detached = true) : g ≠ .start := by
  rintro rfl
  cases h

theorem clears_withPermit {role : String} {body : Fallible LvmError α} (hg : g.detached = true)
    (hg₁ : g₁.detached = true) (hbody : Clears spec t body g g₁) : Clears spec t (withPermit role body) g g₁ :=
  leads_withPermit (ne_start_of_detached hg) hg hbody (ne_start_of_detached hg₁) fun _ => ne_start_of_detached

variable {todo rows : List LvmReservationRow}

theorem detached_afterRow : (Phase.afterRow todo pools).detached = true := by
  unfold Phase.afterRow
  split <;> rfl

theorem follows_stop :
    (protocol spec t).Follows (fun g' _ => g' = .unitGone) (VmManager.deleteVm t.vmId) .stopping := by
  refine follows_routine nofun rfl fun _ => ⟨.delete .stop, fun _ => ?_⟩
  refine follows_routine nofun rfl fun _ => follows_routine nofun rfl fun _ => ⟨.delete .reset, fun _ => rfl⟩

theorem clears_removeVmRootfs : Clears spec t (removeVmRootfs spec t.vmId) .tapGone (.rootfsGone spec.pools) := by
  refine ⟨.delete .rootfsAttr, fun r => ?_⟩
  match r with
  | .error what | .ok false => exact .inr rfl
  | .ok true => exact clears_withPermit rfl rfl (leads_command (.delete .rootfsRemove) (fun _ => rfl) fun _ => rfl)

theorem clears_markDeleting :
    Clears spec t (markDeleting rows) (.releasing todo pools) (.releasing todo pools) := by
  induction rows with
  | nil => exact leads_pure ()
  | cons row rows ih => exact Leads.bind (leads_statement (.delete .markRow) (fun _ => rfl) fun _ => rfl) fun _ => ih

theorem clears_removeReserved : Clears spec t (removeReserved rows) (.afterRow rows pools) (.rootfsGone pools) := by
  induction rows with
  | nil => exact leads_pure ()
  | cons row rows ih =>
    refine Leads.bind (leads_command (.delete .removeLv) (fun _ => rfl) fun _ => rfl) fun _ => ?_
    exact Leads.bind (leads_statement (.delete .removeRow) (fun _ => rfl) fun _ => detached_afterRow) fun _ => ih

theorem clears_release : Clears spec t (release t.vmId pool) (.rootfsGone (pool :: pools)) (.rootfsGone pools) := by
  refine ⟨.delete .list, fun r => ?_⟩
  match r with
  | .error what => exact .inr rfl
  | .ok [] => exact leads_pure ()
  | .ok (row :: rows) =>
    refine Leads.bind clears_markDeleting fun _ => ?_
    exact clears_withPermit rfl rfl clears_removeReserved

theorem clears_releaseVmDisks : Clears spec t (releaseVmDisks t.vmId pools) (.rootfsGone pools) (.rootfsGone []) := by
  induction pools with
  | nil => exact leads_pure ()
  | cons pool pools ih => exact Leads.bind clears_release fun _ => ih

theorem follows_unbind {pcis : List String} : (protocol spec t).Follows (fun g' _ => g' = .tapGone)
    (Prog.forEach pcis fun pci => do let _ ← command (.unbindVfio pci)) .tapGone :=
  stays_forEach fun _ _ => follows_routine nofun rfl fun _ => rfl

theorem clears_deleteVm : Clears spec t (deleteVm spec t.vmId) .looking .gone := by
  refine Leads.bind (leads_perform (.delete .look) fun _ => rfl) fun record => ?_
  refine Leads.bind (leads_lift follows_stop) fun _ => ?_
  refine Leads.bind (leads_perform (.delete .detach) fun _ => rfl) fun _ => ?_
  have hrest : Clears spec t (do
      orLvm (removeVmRootfs spec t.vmId)
      orLvm (releaseVmDisks t.vmId spec.pools)
      let _ ← ExceptT.lift (statement (.deleteVm t.vmId))) .tapGone .gone := by
    refine Leads.bind clears_removeVmRootfs.orLvm fun _ => ?_
    refine Leads.bind clears_releaseVmDisks.orLvm fun _ => ?_
    exact ⟨.delete .forget, fun _ => .inr rfl⟩
  split
  · exact Leads.bind (leads_lift follows_unbind) fun _ => hrest
  · exact hrest

end Delete

theorem next_clear {spec : HostSpec} {g : Phase} {vmId : VmId} (hg : g.inner = true)
    (r : (Op.mem (.clearPending vmId)).Resp) : next spec g (.mem (.clearPending vmId)) r = .looking := by
  cases g <;> first | rfl | cases hg

/-- **The handlers keep the protocol**, whatever the database, the commands and the gates answer. -/
theorem discipline_governs (spec : HostSpec) : (discipline spec).Governs (agent spec) := by
  intro t
  cases t with
  | tombstone vmId =>
    refine Follows.mono (clears_deleteVm (t := .tombstone vmId)) fun g r hr => ?_
    cases r with
    | ok _ | error e => exact hr
  | create cmd =>
    refine ⟨.mark, fun _ => ?_⟩
    show (protocol spec (.create cmd)).Follows _ ((createVmInner spec cmd).run >>= _) .preparing
    refine Follows.bind builds_createVmInner fun g result hg => ?_
    rcases hg with rfl | hg
    · exact (follows_stale _).mono fun _ r h => by cases r <;> exact .inl h
    · cases result with
      | ok _ => exact ⟨hg ▸ .clear rfl, fun _ => .inr (hg ▸ rfl)⟩
      | error e =>
        -- the rollback; what it returns is dropped
        refine ⟨.clear hg, fun _ => ?_⟩
        show (protocol spec (.create cmd)).Follows _ ((deleteVm spec cmd.vmId).run >>= _) (next spec g _ _)
        rw [next_clear hg]
        refine Follows.bind (clears_deleteVm (t := .create cmd)) fun g' r hg' => ?_
        rcases hg' with rfl | hg'
        · exact .inl rfl
        · cases r with
          | ok _ => exact .inr (hg' ▸ rfl)
          | error e => exact .inr hg'

end BasisCell.Agent
