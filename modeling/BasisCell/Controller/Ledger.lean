import BasisCell.Lib.Lists
import BasisCell.Controller.Placement

/-!
# `BasisCell.Controller.Ledger` — the disk ledger and the disks of VMs

`insert_vm` writes each disk of a placement twice: to the `storage_disks` of the VM row and as a row of
`pool_disk_assignment`, which the scheduler reads to keep replicas apart. From then on the two are kept by different
statements. A tombstone ack deletes the VM row and leaves the ledger as it is, so the disks of a VM that is gone stay in
the ledger (`ledger_outlives_vm`); a disk report writes pool and device of the VM row from what the agent says, and
never those of the ledger.
-/

namespace BasisCell

open Relational List Transition

/-- Where a disk of a VM is. -/
structure PlacedDisk where
  vmId : VmId
  diskIndex : Option Nat
  hostId : HostId
  pool : Option String
  deviceId : Option String
  deriving DecidableEq, Repr

/-- The disk that a row of the ledger is for. -/
def PoolDiskAssignment.disk (a : PoolDiskAssignment) : PlacedDisk :=
  ⟨a.vmId, some a.diskIndex, a.hostId, some a.pool, some a.deviceId⟩

/-- The disks of a VM row. -/
def VmRow.disks (v : VmRow) : List PlacedDisk :=
  v.storageDisks.map fun e => ⟨v.id, e.diskIndex, v.hostId, e.pool, e.deviceId⟩

namespace Db

def ledger (db : Db) : List PlacedDisk := db.poolDiskAssignments.rows.map PoolDiskAssignment.disk

def vmDisks (db : Db) : List PlacedDisk := db.vms.rows.flatMap VmRow.disks

/-- The ledger has one row for each disk of a VM row, and no others. -/
def Accounted (db : Db) : Prop := db.ledger.Perm db.vmDisks

instance (db : Db) : Decidable db.Accounted := inferInstanceAs (Decidable (db.ledger.Perm db.vmDisks))

end Db

/-! ## What calls do to either side -/

/-- The report names a disk that the VM row has, or one beyond the next, and says of it what the row says. -/
def DiskAssignment.keeps (a : DiskAssignment) (entries : List DiskEntry) : Prop :=
  a.diskIndex ≠ entries.length ∧ ∀ e ∈ entries[a.diskIndex]?, e.pool = some a.pool ∧ e.deviceId = some a.deviceId

instance (a : DiskAssignment) (entries : List DiskEntry) : Decidable (a.keeps entries) :=
  inferInstanceAs (Decidable (_ ∧ _))

/-- The condition on a call: an ack deletes VM rows without disks only, a disk report restates what the row says. -/
def Write.KeepsDisks (db : Db) : Write → Prop
  | .ackTombstones hostId _ vmIds => ∀ v ∈ db.vms.rows, Db.ackedVm hostId vmIds v = true → v.storageDisks = []
  | .commitDiskAssignment _ a => ∀ v ∈ db.vms.rows, v.id = a.vmId → a.keeps v.storageDisks
  | _ => True

instance (db : Db) (w : Write) : Decidable (w.KeepsDisks db) := by
  unfold Write.KeepsDisks
  split <;> infer_instance

section Calls

variable {db : Db} {w : Write}

theorem disks_commitEntry {v : VmRow} {a : DiskAssignment} (h : a.keeps v.storageDisks) :
    VmRow.disks { v with storageDisks := commitEntry a v.storageDisks } = v.disks := by
  obtain ⟨hlen, hsame⟩ := h
  unfold VmRow.disks
  simp only [commitEntry, if_neg hlen]
  refine ext_getElem? fun i => ?_
  rw [List.getElem?_map, List.getElem?_map, List.getElem?_modify]
  by_cases hi : a.diskIndex = i
  · subst hi
    cases hget : v.storageDisks[a.diskIndex]? with
    | none => simp
    | some e =>
      obtain ⟨hpool, hdevice⟩ := hsame e hget
      simp [DiskEntry.commit, hpool, hdevice]
  · simp [hi]

/-- A list read off the VM rows, after any call but `insert_vm`: it stays if it does not depend on the state of a VM,
    and if an ack takes nothing from it and a disk report says nothing new. -/
theorem flatMap_vms_exec {β : Type} {g : VmRow → List β} (hw : w.isInsertVm = false)
    (hstate : ∀ v state message, g { v with state := state, errorMessage := message } = g v)
    (hack : ∀ hostId vnis vmIds, w = .ackTombstones hostId vnis vmIds →
      ∀ v ∈ db.vms.rows, Db.ackedVm hostId vmIds v = true → g v = [])
    (hreport : ∀ hostId a, w = .commitDiskAssignment hostId a →
      ∀ v ∈ db.vms.rows, v.id = a.vmId → g { v with storageDisks := commitEntry a v.storageDisks } = g v) :
    (w.exec db).1.vms.rows.flatMap g = db.vms.rows.flatMap g := by
  have hset : ∀ (p : VmRow → Bool) state message, (db.setVms p state message).vms.rows.flatMap g =
      db.vms.rows.flatMap g := by
    intro p state message
    refine (flatMap_map _ _ _).trans (flatMap_congr fun v _ => ?_)
    split
    · exact hstate v state (message v)
    · rfl
  refine w.exec_elim db rfl fun heff => ?_
  cases heff with
  | insertVm => cases hw
  | markVmsFailedOnHost | updateVmState | markVmPendingTeardown => exact hset _ _ _
  | ackTombstones =>
    rw [Db.vms_ackTombstones, Table.rows_delete]
    exact flatMap_filter_not (hack _ _ _ rfl)
  | commitDiskAssignment =>
    refine (flatMap_map _ _ _).trans (flatMap_congr fun v hv => ?_)
    split
    · rename_i hid
      exact hreport _ _ rfl v hv (of_decide_eq_true hid)
    · rfl
  | _ => rfl

/-- The disks of VM rows after any call but `insert_vm`. -/
theorem vmDisks_exec (hw : w.isInsertVm = false) (hkeeps : w.KeepsDisks db) : (w.exec db).1.vmDisks = db.vmDisks := by
  refine flatMap_vms_exec hw (fun _ _ _ => rfl) ?_ ?_
  · rintro hostId vnis vmIds rfl v hv hacked
    unfold VmRow.disks
    rw [hkeeps v hv hacked]
    rfl
  · rintro hostId a rfl v hv hid
    exact disks_commitEntry (hkeeps v hv hid)

theorem ledger_exec_eq (hw : w.isInsertVm = false) : (w.exec db).1.ledger = db.ledger := by
  obtain ⟨q, size, hrows⟩ := assignments_exec db hw
  unfold Db.ledger
  rw [hrows, map_map]
  refine map_congr_left fun a _ => ?_
  show (if q a then _ else a).disk = a.disk
  split <;> rfl

/-- **A placement adds the same disks to both sides**, or nothing. -/
theorem accounted_insertVm (decision : ScheduleDecision) (req : CreateMachineRequest) (vmId : VmId) (ip : Ipv4Addr)
    (h : db.Accounted) : ((decision.insertVm req vmId ip).exec db).1.Accounted := by
  unfold ScheduleDecision.insertVm Write.exec
  split
  · rename_i db' r happly
    obtain ⟨_, _, vms, _, ledger, -, -, -, hvms, -, hdisks, rfl⟩ := Db.insertVm_ok (Write.done_ok happly)
    have hboth : decision.disks.map (fun d => (Db.assignmentOf (placedRow req vmId decision ip) d).disk) =
        (placedRow req vmId decision ip).disks := by
      unfold VmRow.disks
      rw [show (placedRow req vmId decision ip).storageDisks = decision.disks.map (DiskPlacement.entry vmId) from rfl,
        map_map]
      rfl
    unfold Db.Accounted Db.ledger Db.vmDisks
    rw [rows_insertAll hdisks, Table.rows_insert hvms, map_append, flatMap_append, map_map,
      flatMap_singleton]
    exact h.append (List.Perm.of_eq hboth)
  · exact h

theorem accounted_exec (hw : w.isInsertVm = false) (hkeeps : w.KeepsDisks db) (h : db.Accounted) :
    (w.exec db).1.Accounted := by
  unfold Db.Accounted
  rw [ledger_exec_eq hw, vmDisks_exec hw hkeeps]
  exact h

end Calls

/-! ## Runs -/

/-- The condition on a step. -/
def Placing.KeepsDisks (s : Placing) : PlacingEvent → Prop
  | .write w => w.KeepsDisks s.db
  | _ => True

instance (s : Placing) (e : PlacingEvent) : Decidable (s.KeepsDisks e) := by
  unfold Placing.KeepsDisks
  split <;> infer_instance

theorem accounted_step {s s' : Placing} {e : PlacingEvent} (h : s.db.Accounted) (hkeeps : s.KeepsDisks e)
    (hstep : s.step e = some s') : s'.db.Accounted := by
  cases Placing.moves_of_step hstep with
  | commit => exact accounted_insertVm _ _ _ _ h
  | write hw => exact accounted_exec hw hkeeps h
  | _ => exact h

/-- **The ledger accounts for the disks of VMs** in every state of every run in which acks delete VM rows without disks
    only and disk reports restate what the VM row says. -/
theorem ledger_accounts_for_disks (db₀ : Db) (h₀ : db₀.Accounted) (es : List PlacingEvent) (s : Placing)
    (hal : Along Placing.step Placing.KeepsDisks ⟨db₀, .idle⟩ es)
    (hrun : run Placing.step ⟨db₀, .idle⟩ es = some s) : s.db.Accounted :=
  run_invariant (J := fun s => s.db.Accounted) accounted_step h₀ hal hrun

/-- The agent reports the first disk of the first VM. -/
def reportFirst : PlacingEvent :=
  .write (.commitDiskAssignment "h1" ⟨"v1-0", "v1", 0, "fast", "sda", 60, "/dev/basis/v1-0"⟩)

/-- Two replicas are placed, and one is reported. -/
theorem ledger_accounts_for_replicas : ∃ s, Db.Accounted (Db.create id) ∧ twoDeviceCell.Accounted ∧
    run Placing.step ⟨twoDeviceCell, .idle⟩ (placeTwo .replicated ++ [reportFirst]) = some s ∧
    s.db.ledger.length = 2 ∧ s.db.Accounted := by
  have hrun : run Placing.step ⟨twoDeviceCell, .idle⟩ (placeTwo .replicated ++ [reportFirst]) = some _ :=
    run_eq_after (by decide +kernel)
  exact ⟨_, by decide, by decide +kernel, hrun, by decide +kernel,
    ledger_accounts_for_disks twoDeviceCell (by decide +kernel) _ _ (by decide +kernel) hrun⟩

/-- The first VM is placed, torn down and acked. Its row is gone, and its replica is still in the ledger. -/
theorem ledger_outlives_vm : ∃ s, run Placing.step ⟨twoDeviceCell, .idle⟩
      ((placeTwo .replicated).take 3 ++ [.write (.markVmPendingTeardown "v1"),
        .write (.ackTombstones "h1" [] ["v1"])]) =
        some s ∧
    s.db.vms.rows = [] ∧ s.db.listHostReplicatedAssignments "h1" ≠ [] ∧ ¬s.db.Accounted :=
  ⟨_, run_eq_after (by decide +kernel), by decide +kernel, by decide +kernel, by decide +kernel⟩

end BasisCell
