import BasisCell.Controller.Handlers
import BasisCell.Controller.Effects

/-!
# `BasisCell.Controller.Authority` — what an agent can do to other hosts

An agent is authenticated as one host, but names VMs, assignments and VNIs freely in its messages.
`Confined` says that handling a message left everything of other hosts alone. State reports and heartbeats are
confined whatever they say. Two statements do not look at the host: the address release of a tombstone ack and
the `storage_disks` patch of a disk report. `confined_iff` says exactly which messages get past that
(`withinHost`), and `authority_exceeded` shows one of each kind that does not.
-/

namespace BasisCell

open Conc Relational Table List

/-- Nothing of another host than `hostId` differs between the two databases. -/
structure Confined (hostId : HostId) (db db' : Db) : Prop where
  vms : ∀ v ∈ db.vms.rows, v.hostId ≠ hostId → v ∈ db'.vms.rows
  addresses : ∀ v ∈ db.vms.rows, v.hostId ≠ hostId → ∀ a ∈ db.ipAllocations.rows, a.owner = .vm v.id →
    a ∈ db'.ipAllocations.rows
  disks : ∀ p ∈ db.poolDiskAssignments.rows, p.hostId ≠ hostId → p ∈ db'.poolDiskAssignments.rows
  memberships : ∀ hc ∈ db.hostClusters.rows, hc.hostId ≠ hostId → hc ∈ db'.hostClusters.rows
  clusters : ∀ k ∈ db.clusters.rows,
    (∃ hc ∈ db.hostClusters.rows, hc.clusterId = k.id ∧ hc.hostId ≠ hostId) ∨
      (∃ v ∈ db.vms.rows, v.clusterId = k.id ∧ v.hostId ≠ hostId) → k ∈ db'.clusters.rows

/-- The five tables a message is confined in. -/
structure SameTables (db db' : Db) : Prop where
  vms : db'.vms = db.vms
  ipAllocations : db'.ipAllocations = db.ipAllocations
  poolDiskAssignments : db'.poolDiskAssignments = db.poolDiskAssignments
  hostClusters : db'.hostClusters = db.hostClusters
  clusters : db'.clusters = db.clusters

variable {hostId : HostId} {db db' db'' : Db} {s : Shared}

theorem SameTables.confined (h : SameTables db db') : Confined hostId db db' where
  vms := fun _ hv _ => h.vms ▸ hv
  addresses := fun _ _ _ _ ha _ => h.ipAllocations ▸ ha
  disks := fun _ hp _ => h.poolDiskAssignments ▸ hp
  memberships := fun _ hmem _ => h.hostClusters ▸ hmem
  clusters := fun _ hk _ => h.clusters ▸ hk

theorem Confined.refl : Confined hostId db db := SameTables.confined ⟨rfl, rfl, rfl, rfl, rfl⟩

theorem Confined.trans (h : Confined hostId db db') (h' : Confined hostId db' db'') : Confined hostId db db'' where
  vms := fun v hv hother => h'.vms v (h.vms v hv hother) hother
  addresses := fun v hv hother a ha howner =>
    h'.addresses v (h.vms v hv hother) hother a (h.addresses v hv hother a ha howner) howner
  disks := fun p hp hother => h'.disks p (h.disks p hp hother) hother
  memberships := fun hc hmem hother => h'.memberships hc (h.memberships hc hmem hother) hother
  clusters := fun k hk hrow => h'.clusters k (h.clusters k hk hrow) <| hrow.imp
    (fun ⟨hc, hmem, hcl, hother⟩ => ⟨hc, h.memberships hc hmem hother, hcl, hother⟩)
    (fun ⟨v, hv, hcl, hother⟩ => ⟨v, h.vms v hv hother, hcl, hother⟩)

/-! ## Single calls -/

theorem confined_recordHeartbeat {now : Nat} {capacity : StorageCapacityBytes} {pools : List PoolCapacity} :
    Confined hostId db ((Write.recordHeartbeat hostId now capacity pools).exec db).1 := by
  refine Write.exec_elim (.recordHeartbeat hostId now capacity pools) db .refl fun heff => ?_
  cases heff
  exact SameTables.confined ⟨rfl, rfl, rfl, rfl, rfl⟩

/-- A state report is written to the row that was checked, since ids are unique. -/
theorem confined_updateVmState {vm : VmRow} {vmId : VmId} (state : MachineState) (message : String)
    (hvm : vm ∈ db.vms.rows) (hid : vm.id = vmId) (hhost : vm.hostId = hostId) :
    Confined hostId db ((Write.updateVmState vmId state message).exec db).1 := by
  refine Write.exec_elim (.updateVmState vmId state message) db .refl fun heff => ?_
  cases heff
  refine ⟨fun v hv hother => ?_, fun _ _ _ _ ha _ => ha, fun _ hp _ => hp, fun _ hmem _ => hmem, fun _ hk _ => hk⟩
  refine mem_map.mpr ⟨v, hv, if_neg fun hsel => hother ?_⟩
  rw [eq_of_clash hv hvm (.inl ((of_decide_eq_true hsel).trans hid.symm)), hhost]

/-- An ack is confined iff it names no VM of another host that holds an address. -/
theorem confined_ackTombstones_iff {vnis : List Nat} {vmIds : List VmId} :
    Confined hostId db (db.ackTombstones hostId vnis vmIds) ↔
      ∀ v ∈ db.vms.rows, v.hostId ≠ hostId → v.id ∈ vmIds → ∀ a ∈ db.ipAllocations.rows, a.owner ≠ .vm v.id := by
  constructor
  · intro h v hv hother hnamed a ha howner
    exact (Db.mem_ipAllocations_ackTombstones.mp (h.addresses v hv hother a ha howner)).2.1 v.id hnamed howner
  · intro h
    refine ⟨fun v hv hother => ?_, fun v hv hother a ha howner => ?_, fun p hp _ => ?_, fun hc hmem hother => ?_,
      fun k hk hrow => ?_⟩
    · rw [Db.vms_ackTombstones]
      exact mem_delete.mpr ⟨hv, decide_eq_false fun hack => hother hack.2.1⟩
    · refine Db.mem_ipAllocations_ackTombstones.mpr ⟨ha, fun v' hv' ho => ?_, fun ⟨_, _, _, _, ho⟩ => ?_⟩
      · cases IpOwner.vm.inj (howner.symm.trans ho)
        exact h v hv hother hv' a ha howner
      · cases howner.symm.trans ho
    · rwa [(@Db.ackTombstones_frame db hostId vnis vmIds).2.1]
    · exact Db.mem_hostClusters_ackTombstones.mpr ⟨hmem, fun hdrop => hother hdrop.1⟩
    · refine Db.mem_clusters_ackTombstones.mpr ⟨hk, fun hdrain => Bool.false_ne_true (hdrain.2.symm.trans ?_)⟩
      refine Db.keptThrough_eq_true_iff.mpr (hrow.imp ?_ ?_)
      · rintro ⟨hc, hmem, hcl, hother⟩
        exact ⟨hc, hmem, hcl, fun hp => hother hp.1⟩
      · rintro ⟨v, hv, hcl, hother⟩
        exact ⟨v, hv, hcl, decide_eq_false fun hack => hother hack.2.1⟩

/-- The report repeats what the entry says, or names none that the patch could create or change. -/
def DiskAssignment.restates (a : DiskAssignment) (entries : List DiskEntry) : Prop :=
  match entries[a.diskIndex]? with
  | some e => e.actualSizeGib = some (asI64 a.actualSizeGib) ∧ e.devicePath = some a.devicePath ∧
    e.assignmentId = some a.assignmentId ∧ e.pool = some a.pool ∧ e.deviceId = some a.deviceId
  | none => entries.length < a.diskIndex

theorem commit_eq_self_iff {a : DiskAssignment} {e : DiskEntry} : e.commit a = e ↔
    e.actualSizeGib = some (asI64 a.actualSizeGib) ∧ e.devicePath = some a.devicePath ∧
    e.assignmentId = some a.assignmentId ∧ e.pool = some a.pool ∧ e.deviceId = some a.deviceId := by
  cases e
  simp only [DiskEntry.commit, DiskEntry.mk.injEq, true_and]
  constructor
  · rintro ⟨hpool, hdevice, hassignment, hactual, hpath⟩
    exact ⟨hactual.symm, hpath.symm, hassignment.symm, hpool.symm, hdevice.symm⟩
  · rintro ⟨hactual, hpath, hassignment, hpool, hdevice⟩
    exact ⟨hpool.symm, hdevice.symm, hassignment.symm, hactual.symm, hpath.symm⟩

theorem commitEntry_eq_self_iff {a : DiskAssignment} {entries : List DiskEntry} :
    commitEntry a entries = entries ↔ a.restates entries := by
  unfold commitEntry DiskAssignment.restates
  split
  · rename_i hlen
    rw [List.getElem?_eq_none (Nat.le_of_eq hlen.symm)]
    refine ⟨fun h => ?_, fun h => absurd h (by omega)⟩
    exact absurd (congrArg List.length h) (by simp)
  · rename_i hlen
    cases hget : entries[a.diskIndex]? with
    | none =>
      have hle := List.getElem?_eq_none_iff.mp hget
      exact ⟨fun _ => by omega, fun _ => modify_eq_self hle⟩
    | some e =>
      show _ ↔ _ ∧ _
      rw [← commit_eq_self_iff]
      constructor
      · intro h
        have := congrArg (·[a.diskIndex]?) h
        simpa [List.getElem?_modify, hget] using this
      · intro h
        refine ext_getElem? fun i => ?_
        rw [List.getElem?_modify]
        by_cases hi : a.diskIndex = i
        · subst hi
          simp [hget, h]
        · simp [hi]

/-- A disk report is confined iff it restates what the row of a VM on another host says. -/
theorem confined_commitDiskAssignment_iff {a : DiskAssignment} :
    Confined hostId db (db.commitDiskAssignment hostId a) ↔
      ∀ v ∈ db.vms.rows, v.hostId ≠ hostId → v.id = a.vmId → a.restates v.storageDisks := by
  constructor
  · intro h v hv hother hid
    -- the row is still there, and the only row it can come from is itself, patched
    obtain ⟨v', hv', heq⟩ := mem_map.mp (h.vms v hv hother)
    have hid' : v'.id = v.id := by
      rw [← heq]
      split <;> rfl
    cases eq_of_clash hv' hv (.inl hid')
    rw [if_pos (decide_eq_true hid)] at heq
    exact commitEntry_eq_self_iff.mp (congrArg VmRow.storageDisks heq)
  · intro h
    refine ⟨fun v hv hother => ?_, fun _ _ _ _ ha _ => ha, fun p hp hother => ?_, fun _ hmem _ => hmem,
      fun _ hk _ => hk⟩
    · refine mem_map.mpr ⟨v, hv, ?_⟩
      split
      · rename_i hid
        show { v with storageDisks := commitEntry a v.storageDisks } = v
        rw [commitEntry_eq_self_iff.mpr (h v hv hother (of_decide_eq_true hid))]
      · rfl
    · exact mem_map.mpr ⟨p, hp, if_neg fun hsel => hother (of_decide_eq_true hsel).2⟩

/-! ## State reports -/

theorem confined_resolveReport {report : ReportVmStateRequest} {state : MachineState} :
    Confined hostId s.db ((resolveReport hostId report state).eval Op.exec s).1.db := by
  show Confined hostId s.db (Prog.eval Op.exec (if _ then _ else _) s).1.db
  split
  · exact .refl
  · -- waking the waiter touches no table, and the outbox is none of the five
    refine SameTables.confined ?_
    show SameTables s.db ((Write.ackPendingCommandsForVm report.vmId).exec
      ((Op.mem (.pendingOpsResolve report.vmId _)).exec s).1.db).1
    rw [Op.exec_mem_db]
    exact ⟨rfl, rfl, rfl, rfl, rfl⟩

/-- The arm checks the host in one call and writes in the next; alone, it writes what it checked. -/
theorem confined_handleVmState {report : ReportVmStateRequest} :
    Confined hostId s.db ((handleVmState hostId report).eval Op.exec s).1.db := by
  have resolve : ∀ s : Shared, Confined hostId s.db ((settleReport hostId report).eval Op.exec s).1.db := by
    intro s
    unfold settleReport
    split
    · rw [Prog.eval_bind]
      exact confined_resolveReport
    · exact .refl
  unfold handleVmState
  rw [Prog.eval_bind]
  generalize hget : ((Handler.query (.getVm report.vmId)).eval Op.exec s).2 = found
  show Confined hostId s.db (Prog.eval Op.exec _ s).1.db
  cases found with
  | error e => cases e <;> exact .refl
  | ok prev =>
    obtain ⟨hmem, hid⟩ := Db.getVm_ok hget
    dsimp only
    split
    · exact .refl
    · rename_i hhost
      split
      · rw [Prog.eval_bind]
        refine (confined_updateVmState (.ofI32 report.state) report.errorMessage hmem hid
          (not_not.mp hhost)).trans ?_
        generalize (Prog.eval Op.exec (Handler.write _) s).2 = updated
        cases updated with
        | error e => exact .refl
        | ok _ => exact resolve (Prog.eval Op.exec (Handler.write _) s).1
      · exact resolve s

/-! ## Every message -/

/-- The message names nothing of another host that the controller would touch for it: no VM there that holds
    an address, no disk of a VM there to be patched. -/
def AgentMessage.withinHost (hostId : HostId) (db : Db) : AgentMessage → Prop
  | .tombstoneAck _ vmIds => ∀ v ∈ db.vms.rows, v.hostId ≠ hostId → v.id ∈ vmIds →
    ∀ a ∈ db.ipAllocations.rows, a.owner ≠ .vm v.id
  | .diskAssignment (some a) => ∀ v ∈ db.vms.rows, v.hostId ≠ hostId → v.id = a.vmId →
    a.restates v.storageDisks
  | _ => True

/-- **Agent authority.** Handling a message of an agent leaves other hosts alone exactly when the message
    stays within its host. -/
theorem confined_iff (hostId : HostId) (msg : AgentMessage) (now : Nat) (s : Shared) :
    Confined hostId s.db ((handleAgentMessage hostId msg now).eval Op.exec s).1.db ↔
      msg.withinHost hostId s.db := by
  cases msg with
  | heartbeat storageCapacity => exact iff_true_intro confined_recordHeartbeat
  | vmState report => exact iff_true_intro confined_handleVmState
  | tombstoneAck vnis vmIds => exact confined_ackTombstones_iff
  | diskAssignment assignment =>
    cases assignment with
    | none => exact iff_true_intro .refl
    | some a => exact confined_commitDiskAssignment_iff
  | register r => exact iff_true_intro .refl
  | empty => exact iff_true_intro .refl

/-- Two hosts; VM `v2` runs on the second one with an address and a data disk. -/
def twoHosts : Shared := Shared.boot
  { Db.create id with
    vms := .ofList [{ id := "v2", name := "worker", clusterId := "c0", hostId := "h2", ipAddress := 167772165
                      state := .running, cpu := 2, memoryMib := 1024, diskGib := 10
                      storageDisks := [{ diskIndex := some 0, minSizeGib := some 5 }] }]
    ipAllocations := .ofList [⟨167772165, "cluster:c0", .vm "v2"⟩] }

/-- **Another host's VM loses its address, and its disk record.** `h1` acks a tombstone it was never sent, and
    reports a disk of a VM it does not run. -/
theorem authority_exceeded :
    ¬Confined "h1" twoHosts.db
      ((handleAgentMessage "h1" (.tombstoneAck [] ["v2"]) 0).eval Op.exec twoHosts).1.db ∧
    ¬Confined "h1" twoHosts.db
      ((handleAgentMessage "h1" (.diskAssignment (some ⟨"x", "v2", 0, "p", "d", 1, "/dev/null"⟩)) 0).eval Op.exec
        twoHosts).1.db := by
  constructor
  · intro h
    have := h.addresses _ (mem_singleton_self _) (by decide) ⟨167772165, "cluster:c0", .vm "v2"⟩
      (mem_singleton_self _) rfl
    revert this
    decide +kernel
  · intro h
    have := h.vms _ (mem_singleton_self _) (by decide)
    revert this
    decide +kernel

end BasisCell
