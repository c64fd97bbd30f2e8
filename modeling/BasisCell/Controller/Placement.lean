import BasisCell.Lib.Fallible
import BasisCell.Lib.Run
import BasisCell.Controller.Effects
import BasisCell.Controller.Handlers
import BasisCell.Controller.Scheduling

/-!
# `BasisCell.Controller.Placement` — placements between two heartbeats

`pick_host` reads the database one query at a time and hands the rows to the scheduler; `try_place_vm` commits
the decision with `insert_vm`. The placement lock lets one placement at a time through both, while every other
call on the database may come in between: `Placing` is this system. A read of `pick_host` may have seen any
database since the lock was taken, so a pick says for each read which of them it saw.

Free bytes of a device change with its host's heartbeats only, and the gate of `insert_vm` looks at host totals.
Within one request the scheduler subtracts what it has placed; between two requests it does not.
`committed_within_report` is the bound that is left: in a span without a heartbeat of the host in which no commit
uses a device that already got a disk in the span, each device gets at most the free bytes it reported. Two VMs in
a row on one device can exceed them (`two_vms_exceed_device`).
-/

namespace BasisCell

open Relational Table List Transition

/-! ## `pick_host` -/

/-- The queries of `pick_host`, per host and pool where they are. -/
inductive PickRead where
  | healthyHosts
  | usage
  | assignedPci
  | clusterCounts
  | pools (hostId : HostId)
  | devices (hostId : HostId) (pool : String)
  | drainMarkers (hostId : HostId)
  | replicatedAssignments (hostId : HostId)
  deriving DecidableEq

/-- `host_usage_snapshot`, for one host. -/
def hostUsage (snapshot : PickRead → Db) (hostId : HostId) : HostUsage where
  usedCpu := (snapshot .usage).usedOn hostId (·.cpu)
  usedMemoryMib := (snapshot .usage).usedOn hostId (·.memoryMib)
  usedRootfsGib := (snapshot .usage).usedOn hostId (·.diskGib)
  usedDataGib := (snapshot .usage).usedOn hostId VmRow.dataGib
  assignedPci := (snapshot .assignedPci).assignedPci hostId
  vmsByCluster := (snapshot .clusterCounts).vmsOfCluster hostId

/-- The storage view that `pick_host` builds of one host. A mark counts as a drain if its state is `disabled`. -/
def hostStorage (snapshot : PickRead → Db) (hostId : HostId) : HostStorageView :=
  let drained := ((snapshot (.drainMarkers hostId)).hostDrainMarkers hostId).filter fun r => r.state = "disabled"
  let replicated := (snapshot (.replicatedAssignments hostId)).listHostReplicatedAssignments hostId
  HostStorageView.fromRows ((snapshot (.pools hostId)).listHostPools hostId)
    (fun pool => (snapshot (.devices hostId pool)).listPoolDevices hostId pool)
    (drained.map fun r => (r.pool, r.deviceId))
    fun key => (replicated.filter fun r => (r.pool, r.deviceId) = key).map (·.clusterId)

/-- The maps that `pick_host` hands to the scheduler. -/
def fleetOf (snapshot : PickRead → Db) (clusterId : ClusterId) : Fleet where
  hosts := (snapshot .healthyHosts).listHealthyHosts
  usageByHost := hostUsage snapshot
  storageByHost := hostStorage snapshot
  replicatedCountByHost := fun hostId =>
    (((snapshot (.replicatedAssignments hostId)).listHostReplicatedAssignments hostId).countP
      fun r => r.clusterId = clusterId : Nat)
  effectiveCpu := (snapshot .healthyHosts).effectiveCpu

/-- `pick_host`. -/
def pickHost (snapshot : PickRead → Db) (iterate : List Nat → List Nat) (req : CreateMachineRequest) :
    Except Status ScheduleDecision :=
  match (fleetOf snapshot req.clusterId).schedule iterate (.ofCreate req) with
  | .ok decision => .ok decision
  | .error (.noCapacity msg) => .error ⟨.resourceExhausted, msg⟩
  | .error (.unsatisfiedRequirements msg) =>
    .error ⟨.failedPrecondition, s!"no host satisfies placement requirements: {msg}"⟩

theorem pickHost_ok {snapshot : PickRead → Db} {iterate : List Nat → List Nat} {req : CreateMachineRequest}
    {decision : ScheduleDecision} (h : pickHost snapshot iterate req = .ok decision) :
    pickDiskPlacements req.clusterId (hostStorage snapshot decision.hostId) req.storageDisks =
      some decision.disks := by
  unfold pickHost at h
  split at h
  · rename_i d hd
    cases h
    obtain ⟨c, hc, -, rfl⟩ := schedule_eq_ok hd
    obtain ⟨host, -, -, hcand⟩ := mem_candidates.mp hc
    obtain ⟨rfl, -, -, -, hdisks, -⟩ := candidate_inv hcand
    exact selectDisks_eq.symm.trans hdisks
  · cases h
  · cases h

/-! ## Placements under the lock -/

/-- Where the holder of the placement lock is: `picking` keeps every database since the lock was taken. -/
inductive PlacingStage where
  | idle
  | picking (req : CreateMachineRequest) (seen : List Db)
  | chosen (req : CreateMachineRequest) (decision : ScheduleDecision)

structure Placing where
  db : Db
  stage : PlacingStage := .idle

inductive PlacingEvent where
  /-- A `CreateMachine` takes the placement lock. -/
  | lock (req : CreateMachineRequest)
  /-- `pick_host` returns; `moment` says which database each read saw. -/
  | pick (moment : PickRead → Nat) (iterate : List Nat → List Nat)
  /-- `insert_vm` of the decision. -/
  | commit (vmId : VmId) (ip : Ipv4Addr)
  /-- The address allocation failed, and the lock is released. -/
  | giveUp
  /-- Any other call on the database. -/
  | write (w : Write)
  /-- The operator marks a device. -/
  | setSchedulingState (hostId : HostId) (pool deviceId state : String) (reason : Option String)

/-- `insert_vm` is called by `try_place_vm` only. -/
def Write.isInsertVm : Write → Bool
  | .insertVm _ _ _ => true
  | _ => false

/-- The write that `try_place_vm` commits a decision with. -/
def ScheduleDecision.insertVm (decision : ScheduleDecision) (req : CreateMachineRequest) (vmId : VmId)
    (ip : Ipv4Addr) : Write :=
  .insertVm (placedRow req vmId decision ip)
    (decision.gpuAssignments vmId) decision.disks

namespace Placing

/-- The database changes under a placement. -/
def observe (s : Placing) (db : Db) : Placing where
  db := db
  stage :=
    match s.stage with
    | .picking req seen => .picking req (seen ++ [db])
    | stage => stage

def step (s : Placing) : PlacingEvent → Option Placing
  | .lock req =>
    match s.stage with
    | .idle => some { s with stage := .picking req [s.db] }
    | _ => none
  | .pick moment iterate =>
    match s.stage with
    | .picking req seen =>
      match pickHost (fun read => seen.getD (moment read) s.db) iterate req with
      | .ok decision => some { s with stage := .chosen req decision }
      | .error _ => some { s with stage := .idle }
    | _ => none
  | .commit vmId ip =>
    match s.stage with
    | .chosen req decision => some ⟨((decision.insertVm req vmId ip).exec s.db).1, .idle⟩
    | _ => none
  | .giveUp =>
    match s.stage with
    | .chosen _ _ => some { s with stage := .idle }
    | _ => none
  | .write w => if w.isInsertVm then none else some (s.observe (w.exec s.db).1)
  | .setSchedulingState hostId pool deviceId state reason =>
    match s.db.setDeviceSchedulingState hostId pool deviceId state reason with
    | .ok db => some (s.observe db)
    | .error _ => some s

/-- What a step can do, event by event. -/
inductive Moves : Placing → PlacingEvent → Placing → Prop
  | lock {db : Db} {req : CreateMachineRequest} : Moves ⟨db, .idle⟩ (.lock req) ⟨db, .picking req [db]⟩
  | picked {db : Db} {req : CreateMachineRequest} {seen : List Db} {moment : PickRead → Nat}
      {iterate : List Nat → List Nat} {decision : ScheduleDecision}
      (hpick : pickHost (fun read => seen.getD (moment read) db) iterate req = .ok decision) :
      Moves ⟨db, .picking req seen⟩ (.pick moment iterate) ⟨db, .chosen req decision⟩
  | refused {db : Db} {req : CreateMachineRequest} {seen : List Db} {moment : PickRead → Nat}
      {iterate : List Nat → List Nat} : Moves ⟨db, .picking req seen⟩ (.pick moment iterate) ⟨db, .idle⟩
  | commit {db : Db} {req : CreateMachineRequest} {decision : ScheduleDecision} {vmId : VmId} {ip : Ipv4Addr} :
      Moves ⟨db, .chosen req decision⟩ (.commit vmId ip) ⟨((decision.insertVm req vmId ip).exec db).1, .idle⟩
  | giveUp {db : Db} {req : CreateMachineRequest} {decision : ScheduleDecision} :
      Moves ⟨db, .chosen req decision⟩ .giveUp ⟨db, .idle⟩
  | write {s : Placing} {w : Write} (hw : w.isInsertVm = false) : Moves s (.write w) (s.observe (w.exec s.db).1)
  | marked {s : Placing} {hostId : HostId} {pool deviceId state : String} {reason : Option String}
      {t : Table DeviceSchedulingState} :
      Moves s (.setSchedulingState hostId pool deviceId state reason)
        (s.observe { s.db with deviceSchedulingStates := t })
  | unmarked {s : Placing} {hostId : HostId} {pool deviceId state : String} {reason : Option String} :
      Moves s (.setSchedulingState hostId pool deviceId state reason) s

end Placing

/-! ## What a host's devices got since a moment -/

/-- The assignment is not one of `before`. -/
def Db.isNew (before : Db) (a : PoolDiskAssignment) : Bool :=
  before.poolDiskAssignments.rows.all fun b => b.assignmentId ≠ a.assignmentId

/-- The minimum sizes, in bytes, of the assignments on a device that `before` does not have. -/
def Db.committedSince (before db : Db) (hostId : HostId) (pool deviceId : String) : Int :=
  db.poolDiskAssignments.sum
    (fun a => a.hostId = hostId ∧ (a.pool, a.deviceId) = (pool, deviceId) ∧ before.isNew a) (·.minSizeGib * gib)

/-- The event is not a heartbeat of the host. -/
def PlacingEvent.noBeatOf (hostId : HostId) : PlacingEvent → Bool
  | .write (.recordHeartbeat beating _ _ _) => beating ≠ hostId
  | _ => true

/-- The sizes of a request are small enough for the arithmetic in bytes. -/
def PlacingEvent.sized : PlacingEvent → Bool
  | .lock req => req.storageDisks.all fun d => (d.minSizeGib : Int) * gib ≤ i64Max
  | _ => true

/-- A commit on the host uses only devices that got no disk since `before`. -/
def Placing.onFreshDevices (before : Db) (hostId : HostId) (s : Placing) : PlacingEvent → Bool
  | .commit _ _ =>
    match s.stage with
    | .chosen _ decision =>
      decision.hostId ≠ hostId ∨ ∀ d ∈ decision.disks, ∀ a ∈ s.db.poolDiskAssignments.rows,
        a.hostId = hostId → before.isNew a → (a.pool, a.deviceId) ≠ (d.pool, d.deviceId)
    | _ => true
  | _ => true

/-! ## The ledger and the report, call by call -/

section Calls

variable {db db' before : Db} {w : Write} {hostId : HostId} {pool deviceId : String}

/-- Every call but `insert_vm` leaves the ledger's rows as they are, but for states and sizes. -/
theorem assignments_exec (db : Db) (hw : w.isInsertVm = false) : ∃ (q : PoolDiskAssignment → Bool) (size : Option Int),
    (w.exec db).1.poolDiskAssignments.rows = db.poolDiskAssignments.rows.map fun a =>
      if q a then { a with state := .committed, actualSizeGib := size } else a := by
  have hsame : ∃ (q : PoolDiskAssignment → Bool) (size : Option Int), db.poolDiskAssignments.rows =
      db.poolDiskAssignments.rows.map fun a =>
        if q a then { a with state := .committed, actualSizeGib := size } else a :=
    ⟨fun _ => false, none, by simp⟩
  refine w.exec_elim db hsame fun heff => ?_
  cases heff with
  | insertVm => cases hw
  | ackTombstones => rwa [Db.ackTombstones_frame.2.1]
  | commitDiskAssignment => exact ⟨_, _, rfl⟩
  | _ => exact hsame

theorem committedSince_exec (hw : w.isInsertVm = false) :
    before.committedSince (w.exec db).1 hostId pool deviceId = before.committedSince db hostId pool deviceId := by
  obtain ⟨q, size, hrows⟩ := assignments_exec db hw
  exact sum_of_update hrows (fun _ => rfl) fun _ => rfl

theorem rows_insertAll {α : Type} [Schema α] {t t' : Table α} {rows : List α}
    (h : Db.insertAll t rows = some t') : t'.rows = t.rows ++ rows := by
  induction rows generalizing t with
  | nil =>
    cases h
    exact (append_nil _).symm
  | cons r rows ih =>
    obtain ⟨t₁, h₁, h⟩ := Option.bind_eq_some_iff.mp h
    rw [ih h, rows_insert h₁, append_assoc, singleton_append]

theorem hostId_of_recordPools {pools : List PoolCapacity} {t t' : Table HostPoolRow × Table HostPoolDeviceRow}
    (h : pools.foldlM (Db.recordPool hostId) t = .ok t') :
    ∀ d ∈ t'.2.rows, d ∈ t.2.rows ∨ d.hostId = hostId := by
  induction pools generalizing t with
  | nil =>
    cases h
    exact fun _ hd => .inl hd
  | cons p pools ih =>
    obtain ⟨t₁, h₁, h⟩ := Fallible.bind_ok h
    intro d hd
    refine (ih h d hd).elim (fun hd => ?_) .inr
    unfold Db.recordPool at h₁
    repeat' split at h₁
    all_goals cases h₁
    rename_i hdevices
    rw [rows_insertAll hdevices] at hd
    refine (mem_append.mp hd).imp_right fun hnew => ?_
    obtain ⟨c, -, rfl⟩ := mem_map.mp hnew
    rfl

/-- The device rows of a host change with its own heartbeats only. -/
theorem mem_devices_exec (hbeat : (PlacingEvent.write w).noBeatOf hostId = true) {d : HostPoolDeviceRow}
    (hd : d ∈ (w.exec db).1.hostPoolDevices.rows) (hid : d.hostId = hostId) : d ∈ db.hostPoolDevices.rows := by
  unfold Write.exec at hd
  split at hd
  · rename_i db' r happly
    have heff := Write.effect_of_apply happly
    cases heff with
    | recordHeartbeat =>
      obtain ⟨hostPools, hostPoolDevices, hfold, hdb⟩ := Db.recordHeartbeat_ok (Write.done_ok happly)
      cases hdb
      rcases hostId_of_recordPools hfold d hd with hold | hnew
      · exact (mem_delete.mp hold).1
      · exact absurd (hnew.symm.trans hid) (of_decide_eq_true hbeat)
    | ackTombstones =>
      rwa [Db.ackTombstones_frame.2.2.2.2] at hd
    | _ => exact hd
  · exact hd

/-- The ledger after a committed `insert_vm`, or the database unchanged. -/
theorem assignments_insertVm (vm : VmRow) (gpus : List GpuAssignment) (disks : List DiskPlacement) (db : Db) :
    ((Write.insertVm vm gpus disks).exec db).1 = db ∨
      ((Write.insertVm vm gpus disks).exec db).1.poolDiskAssignments.rows =
        db.poolDiskAssignments.rows ++ disks.map (Db.assignmentOf vm) := by
  unfold Write.exec
  split
  · rename_i db' r happly
    obtain ⟨_, _, _, _, _, -, -, -, -, -, hdisks, rfl⟩ := Db.insertVm_ok (Write.done_ok happly)
    exact .inr (rows_insertAll hdisks)
  · exact .inl rfl

theorem Db.setDeviceSchedulingState_ok {state : String} {reason : Option String}
    (h : db.setDeviceSchedulingState hostId pool deviceId state reason = .ok db') :
    ∃ t, db' = { db with deviceSchedulingStates := t } := by
  unfold setDeviceSchedulingState at h
  dsimp only at h
  repeat' split at h
  all_goals cases h
  all_goals exact ⟨_, rfl⟩

theorem Placing.moves_of_step {s s' : Placing} {e : PlacingEvent} (h : s.step e = some s') : s.Moves e s' := by
  obtain ⟨db, stage⟩ := s
  cases e with
  | lock req =>
    cases stage <;> cases h
    exact .lock
  | pick moment iterate =>
    cases stage with
    | picking req seen =>
      simp only [Placing.step] at h
      split at h
      · rename_i decision hpick
        cases h
        exact .picked hpick
      · cases h
        exact .refused
    | _ => cases h
  | commit vmId ip =>
    cases stage <;> cases h
    exact .commit
  | giveUp =>
    cases stage <;> cases h
    exact .giveUp
  | write w =>
    simp only [Placing.step] at h
    split at h <;> cases h
    rename_i hw
    exact .write (Bool.eq_false_of_not_eq_true hw)
  | setSchedulingState hostId pool deviceId state reason =>
    simp only [Placing.step] at h
    split at h
    · rename_i db' hset
      cases h
      obtain ⟨t, rfl⟩ := Db.setDeviceSchedulingState_ok hset
      exact .marked
    · cases h
      exact .unmarked

end Calls

/-! ## One placement -/

/-- The rows of the host's devices are those of `before`. -/
def Db.Reports (before : Db) (hostId : HostId) (db : Db) : Prop :=
  ∀ d ∈ db.hostPoolDevices.rows, d.hostId = hostId → d ∈ before.hostPoolDevices.rows

/-- The sizes of the decision's disks are exact, and on each device of the host they keep to its free bytes. -/
structure ScheduleDecision.Fits (before : Db) (hostId : HostId) (decision : ScheduleDecision) : Prop where
  sized : ∀ d ∈ decision.disks, (d.minSizeGib : Int) * gib ≤ i64Max
  within : ∀ r ∈ before.hostPoolDevices.rows, r.hostId = hostId →
    bytesOn decision.disks (r.pool, r.deviceId) ≤ r.freeBytes

section Picks

variable {before : Db} {hostId : HostId} {snapshot : PickRead → Db} {r : HostPoolDeviceRow}

/-- The view of the host gives a device what the device reported, if it lists it. -/
theorem deviceFree_hostStorage (hsnap : ∀ read, before.Reports hostId (snapshot read))
    (hr : r ∈ before.hostPoolDevices.rows) (hid : r.hostId = hostId) :
    (hostStorage snapshot hostId).deviceFree (r.pool, r.deviceId) = 0 ∨
      (hostStorage snapshot hostId).deviceFree (r.pool, r.deviceId) = r.freeBytes := by
  refine ((hostStorage snapshot hostId).deviceFree_cases (r.pool, r.deviceId)).imp_right ?_
  rintro ⟨pool, hpool, d, hd, hkey, hfree⟩
  obtain ⟨p, -, rfl⟩ := mem_map.mp hpool
  obtain ⟨row, hrow, rfl⟩ := mem_map.mp hd
  obtain ⟨hmem, hsel⟩ := mem_filter.mp ((mem_insertionSort _).mp hrow)
  have hsel := of_decide_eq_true hsel
  -- the listed row is one of `before`, and there is only one under this key
  have hold := hsnap (.devices hostId p.pool) row hmem hsel.1
  obtain ⟨hp, hdev⟩ := Prod.mk.inj hkey
  have heq : row = r := eq_of_clash hold hr ⟨hsel.1.trans hid.symm, hsel.2.trans hp, hdev⟩
  rw [hfree, heq]

/-- **A decision for the host keeps to the free bytes of its devices.** -/
theorem fits_of_pickHost {iterate : List Nat → List Nat} {req : CreateMachineRequest} {decision : ScheduleDecision}
    (hsnap : ∀ read, before.Reports hostId (snapshot read))
    (hfree : ∀ r ∈ before.hostPoolDevices.rows, r.hostId = hostId → 0 ≤ r.freeBytes)
    (hsized : (PlacingEvent.lock req).sized = true) (h : pickHost snapshot iterate req = .ok decision)
    (hhost : decision.hostId = hostId) : decision.Fits before hostId where
  sized := by
    intro p hp
    obtain ⟨d, hd, hsize, -⟩ := placed_of_pick (pickHost_ok h) p hp
    rw [hsize]
    exact of_decide_eq_true (all_eq_true.mp hsized d hd)
  within := by
    intro r hr hid
    have hdisks := pickHost_ok h
    rw [hhost] at hdisks
    have hdevice := deviceFree_hostStorage hsnap hr hid
    have hr0 := hfree r hr hid
    have hle := bytesOn_pick_le hdisks (show 0 ≤ (hostStorage snapshot hostId).deviceFree (r.pool, r.deviceId) by omega)
    omega

end Picks

section Commits

variable {before db : Db} {hostId : HostId} {decision : ScheduleDecision} {req : CreateMachineRequest} {vmId : VmId}
  {ip : Ipv4Addr} {pool deviceId : String}

theorem committedSince_eq_zero (h : ∀ a ∈ db.poolDiskAssignments.rows, a.hostId = hostId → before.isNew a = true →
    (a.pool, a.deviceId) ≠ (pool, deviceId)) : before.committedSince db hostId pool deviceId = 0 := by
  unfold Db.committedSince Table.sum
  rw [filter_eq_nil_iff.mpr]
  · rfl
  · intro a ha hsel
    obtain ⟨hid, hkey, hnew⟩ := of_decide_eq_true hsel
    exact h a ha hid hnew hkey

/-- The row of a placement has the size that the scheduler took for it. -/
theorem minSizeGib_assignmentOf {vm : VmRow} {d : DiskPlacement} (h : (d.minSizeGib : Int) * gib ≤ i64Max) :
    (Db.assignmentOf vm d).minSizeGib * gib = needBytes d.minSizeGib := by
  have hn := Int.mul_le_mul_of_nonneg_left (by decide : (1 : Int) ≤ gib) (Int.natCast_nonneg d.minSizeGib)
  rw [Int.mul_one] at hn
  rw [needBytes_of_le h]
  show asI64 d.minSizeGib * gib = _
  rw [asI64_of_le (hn.trans h)]

/-- What the rows of some placements add on a device. -/
theorem sum_assignments_le {disks : List DiskPlacement} (hsized : ∀ d ∈ disks, (d.minSizeGib : Int) * gib ≤ i64Max)
    (vm : VmRow) {p : PoolDiskAssignment → Bool}
    (hp : ∀ a, p a = true → (a.pool, a.deviceId) = (pool, deviceId)) :
    (((disks.map (Db.assignmentOf vm)).filter p).map (·.minSizeGib * gib)).sum ≤ bytesOn disks (pool, deviceId) := by
  induction disks with
  | nil => exact Int.le_refl 0
  | cons d ds ih =>
    have hd := hsized d mem_cons_self
    have hrest := ih fun x hx => hsized x (mem_cons_of_mem d hx)
    have hpos : 0 ≤ needBytes d.minSizeGib := by
      rw [needBytes_of_le hd]
      exact Int.mul_nonneg (Int.natCast_nonneg _) (by decide)
    rw [map_cons, filter_cons, bytesOn_cons]
    by_cases hsel : p (Db.assignmentOf vm d) = true
    · have hkey : (d.pool, d.deviceId) = (pool, deviceId) := hp _ hsel
      rw [if_pos hsel, map_cons, sum_cons, if_pos hkey, minSizeGib_assignmentOf hd]
      exact Int.add_le_add_left hrest _
    · rw [if_neg hsel]
      split <;> omega

/-- **A commit on devices that are fresh keeps every device of the host within its report.** -/
theorem committedSince_commit {r : HostPoolDeviceRow}
    (hfits : decision.hostId = hostId → decision.Fits before hostId)
    (hfresh : decision.hostId ≠ hostId ∨ ∀ d ∈ decision.disks, ∀ a ∈ db.poolDiskAssignments.rows,
      a.hostId = hostId → before.isNew a = true → (a.pool, a.deviceId) ≠ (d.pool, d.deviceId))
    (hr : r ∈ before.hostPoolDevices.rows) (hid : r.hostId = hostId)
    (hdb : before.committedSince db hostId r.pool r.deviceId ≤ r.freeBytes) :
    before.committedSince ((decision.insertVm req vmId ip).exec db).1 hostId r.pool r.deviceId ≤ r.freeBytes := by
  rcases assignments_insertVm (placedRow req vmId decision ip)
    (decision.gpuAssignments vmId) decision.disks db with heq | hrows
  · unfold ScheduleDecision.insertVm
    rwa [heq]
  · -- the sum over the ledger splits into the rows that were there and the rows of this decision
    have hsplit : before.committedSince ((decision.insertVm req vmId ip).exec db).1 hostId r.pool r.deviceId =
        before.committedSince db hostId r.pool r.deviceId +
          (((decision.disks.map (Db.assignmentOf (placedRow req vmId decision ip))).filter fun a =>
            a.hostId = hostId ∧ (a.pool, a.deviceId) = (r.pool, r.deviceId) ∧ before.isNew a).map
              (·.minSizeGib * gib)).sum := by
      unfold Db.committedSince Table.sum ScheduleDecision.insertVm
      rw [hrows, filter_append, map_append, sum_append]
    rw [hsplit]
    by_cases hused : decision.hostId = hostId ∧ ∃ d ∈ decision.disks, (d.pool, d.deviceId) = (r.pool, r.deviceId)
    · obtain ⟨hhost, d, hd, hkey⟩ := hused
      have hzero : before.committedSince db hostId r.pool r.deviceId = 0 := by
        refine committedSince_eq_zero fun a ha hown hnew hsame => ?_
        exact hfresh.resolve_left (not_not_intro hhost) d hd a ha hown hnew (hsame.trans hkey.symm)
      have hadd := sum_assignments_le (hfits hhost).sized (placedRow req vmId decision ip)
        (p := fun a => a.hostId = hostId ∧ (a.pool, a.deviceId) = (r.pool, r.deviceId) ∧ before.isNew a)
        fun a ha => (of_decide_eq_true ha).2.1
      have hle := (hfits hhost).within r hr hid
      omega
    · rw [filter_eq_nil_iff.mpr]
      · simpa using hdb
      · intro a ha hsel
        obtain ⟨d, hd, rfl⟩ := mem_map.mp ha
        obtain ⟨hown, hkey, -⟩ := of_decide_eq_true hsel
        exact hused ⟨hown, d, hd, hkey⟩

end Commits

/-! ## Runs -/

/-- What a run without heartbeats of the host keeps about the placement under way. -/
def PlacingStage.Sound (before : Db) (hostId : HostId) : PlacingStage → Prop
  | .idle => True
  | .picking req seen => (PlacingEvent.lock req).sized = true ∧ ∀ db ∈ seen, before.Reports hostId db
  | .chosen _ decision => decision.hostId = hostId → decision.Fits before hostId

/-- The invariant of such a run. -/
structure Placing.Within (before : Db) (hostId : HostId) (s : Placing) : Prop where
  report : before.Reports hostId s.db
  stage : s.stage.Sound before hostId
  committed : ∀ r ∈ before.hostPoolDevices.rows, r.hostId = hostId →
    before.committedSince s.db hostId r.pool r.deviceId ≤ r.freeBytes

section Runs

variable {before : Db} {hostId : HostId} {s s' : Placing} {e : PlacingEvent}

/-- A change of the database that leaves ledger and report alone. -/
theorem Placing.Within.observe (h : s.Within before hostId) {db : Db} (hreport : before.Reports hostId db)
    (hledger : ∀ pool deviceId, before.committedSince db hostId pool deviceId =
      before.committedSince s.db hostId pool deviceId) : (s.observe db).Within before hostId where
  report := hreport
  stage := by
    obtain ⟨db₀, stage⟩ := s
    cases stage with
    | picking req seen =>
      refine ⟨h.stage.1, fun d hd => ?_⟩
      rcases mem_append.mp hd with hd | hd
      · exact h.stage.2 d hd
      · rw [mem_singleton.mp hd]
        exact hreport
    | _ => exact h.stage
  committed := by
    intro r hr hid
    show before.committedSince db hostId r.pool r.deviceId ≤ r.freeBytes
    rw [hledger]
    exact h.committed r hr hid

/-- The conditions on one event: no heartbeat of the host, sizes that fit, a commit on fresh devices. -/
def Placing.Meets (before : Db) (hostId : HostId) (s : Placing) (e : PlacingEvent) : Prop :=
  e.noBeatOf hostId = true ∧ e.sized = true ∧ s.onFreshDevices before hostId e = true

instance {s : Placing} {e : PlacingEvent} : Decidable (s.Meets before hostId e) := inferInstanceAs (Decidable (_ ∧ _))

theorem within_step (hfree : ∀ r ∈ before.hostPoolDevices.rows, r.hostId = hostId → 0 ≤ r.freeBytes)
    (h : s.Within before hostId) (hmeets : s.Meets before hostId e) (hstep : s.step e = some s') :
    s'.Within before hostId := by
  obtain ⟨hbeat, hsized, hfresh⟩ := hmeets
  cases Placing.moves_of_step hstep with
  | lock => exact ⟨h.report, ⟨hsized, fun d hd => by rw [mem_singleton.mp hd]; exact h.report⟩, h.committed⟩
  | picked hpick =>
    rename_i db req seen moment iterate decision
    refine ⟨h.report, fun hhost => fits_of_pickHost (fun read => ?_) hfree h.stage.1 hpick hhost, h.committed⟩
    -- a read outside the list stands for the current database
    rw [getD_eq_getElem?_getD]
    cases hseen : seen[moment read]? with
    | none => exact h.report
    | some d => exact h.stage.2 d (mem_of_getElem? hseen)
  | refused | giveUp => exact ⟨h.report, trivial, h.committed⟩
  | commit =>
    refine ⟨fun d hd hid => ?_, trivial, fun r hr hid => ?_⟩
    · exact h.report d (mem_devices_exec (by rfl) hd hid) hid
    · exact committedSince_commit h.stage (of_decide_eq_true hfresh) hr hid (h.committed r hr hid)
  | write hw =>
    refine h.observe (fun d hd hid => ?_) fun pool deviceId => committedSince_exec hw
    exact h.report d (mem_devices_exec hbeat hd hid) hid
  | marked => exact h.observe h.report fun _ _ => rfl
  | unmarked => exact h

end Runs

/-- **Devices stay within their report while no commit returns to one.** Take any sequence of placements, with any
    other calls in between, after a heartbeat of the host and before its next one. If no placement commits a disk
    to a device of the host that already got one in the span, what each device got is at most the free bytes it
    reported. -/
theorem committed_within_report {before : Db} {hostId : HostId}
    (hfree : ∀ r ∈ before.hostPoolDevices.rows, r.hostId = hostId → 0 ≤ r.freeBytes)
    {es : List PlacingEvent} {s : Placing} (hrun : run Placing.step ⟨before, .idle⟩ es = some s)
    (hmeets : Along Placing.step (Placing.Meets before hostId) ⟨before, .idle⟩ es) :
    ∀ r ∈ before.hostPoolDevices.rows, r.hostId = hostId →
      before.committedSince s.db hostId r.pool r.deviceId ≤ r.freeBytes := by
  refine (run_invariant (J := Placing.Within before hostId) (within_step hfree) ?_ hmeets hrun).committed
  refine ⟨fun _ hd _ => hd, trivial, fun r hr hid => ?_⟩
  rw [committedSince_eq_zero]
  · exact hfree r hr hid
  · intro a ha _ hnew
    exact absurd rfl (of_decide_eq_true (all_eq_true.mp hnew a ha))

/-- Equal hosts, and which of them are healthy, beside one cluster. -/
def equalHosts (hosts : List (HostId × Bool)) : Db :=
  { Db.create id with
    hosts := .ofList (hosts.map fun h =>
      { id := h.1, hostname := h.1, totalCpu := 8, totalMemoryMib := 8192, lastHeartbeat := 0, healthy := h.2 })
    clusters := .ofList [{ id := "c1", name := "c1", vni := 10000, cidr := ⟨0, 24⟩, bridgeRange := ⟨1, 32⟩,
                           vmRange := ⟨33, 254⟩, prefixLen := 24, controlPlaneEndpoint := 254,
                           externalPool := "lan" }] }

/-- A report of a pool of two devices with 100 GiB free on each, and the health of the first. -/
def reportAt (now : Nat) (hostId : HostId) (usable : Nat) (health : Int) (reason : String) : Write :=
  .recordHeartbeat hostId now { rootfsTotalBytes := 100 * gib, dataTotalBytes := 200 * gib }
    [{ pool := "fast", backend := "lvm-linear", configuredTotalBytes := 200 * 2 ^ 30,
       readyTotalBytes := usable, schedulableTotalBytes := usable, schedulableFreeBytes := usable,
       devices := [⟨"sda", 100 * 2 ^ 30, 100 * 2 ^ 30, health, reason⟩, ⟨"sdb", 100 * 2 ^ 30, 100 * 2 ^ 30, 1, ""⟩] }]

def reportOf (hostId : HostId) : Write := reportAt 1 hostId (200 * 2 ^ 30) 1 ""

/-- A host that has just reported, and one cluster. -/
def twoDeviceCell : Db := ((reportOf "h1").exec (equalHosts [("h1", true)])).1

/-- Two VMs with one disk of 60 GiB each, placed one after the other. -/
def placeTwo (purpose : DiskPurpose) : List PlacingEvent :=
  let request := fun name => { clusterId := "c1", name, cpu := 1, memoryMib := 1024, diskGib := 10,
                               storageDisks := [{ minSizeGib := 60, purpose := purpose.toI32 }] }
  [.lock (request "a"), .pick (fun _ => 0) id, .commit "v1" 33,
   .lock (request "b"), .pick (fun _ => 0) id, .commit "v2" 34]

/-- Two replicas of one cluster are spread over the devices, and both devices stay within their report. -/
theorem committed_within_report_replicas :
    ∃ s, run Placing.step ⟨twoDeviceCell, .idle⟩ (placeTwo .replicated) = some s ∧
      twoDeviceCell.committedSince s.db "h1" "fast" "sda" = 60 * gib ∧
      ∀ r ∈ twoDeviceCell.hostPoolDevices.rows, r.hostId = "h1" →
        twoDeviceCell.committedSince s.db "h1" r.pool r.deviceId ≤ r.freeBytes := by
  have hrun : run Placing.step ⟨twoDeviceCell, .idle⟩ (placeTwo .replicated) = some _ :=
    run_eq_after (by decide +kernel)
  refine ⟨_, hrun, by decide +kernel, ?_⟩
  exact committed_within_report (by decide +kernel) hrun (by decide +kernel)

/-- **Two VMs in a row on one device exceed what it has.** Two disks of 60 GiB of two VMs go to the first of two
    equal devices with 100 GiB free: until the next heartbeat the second placement reads the same free bytes, and
    the gate has 200 GiB for the host. -/
theorem two_vms_exceed_device :
    ∃ s, run Placing.step ⟨twoDeviceCell, .idle⟩ (placeTwo .genericData) = some s ∧
      ((placeTwo .genericData).all fun e => e.noBeatOf "h1" && e.sized) = true ∧
      ∃ r ∈ twoDeviceCell.hostPoolDevices.rows, r.hostId = "h1" ∧ 0 ≤ r.freeBytes ∧
        r.freeBytes < twoDeviceCell.committedSince s.db "h1" r.pool r.deviceId :=
  ⟨_, run_eq_after (by decide +kernel), by decide +kernel, by decide +kernel⟩

end BasisCell
