import BasisCell.Controller.Placement

/-!
# `BasisCell.Controller.Drains` — which devices get no disk

An operator disables a device so that nothing more is placed on it. `set_device_scheduling_state` stores the mark as
`draining`, and `pick_host` looks for marks that say `disabled`, so a mark changes no pick
(`disabled_device_gets_disk`). What keeps disks off a device is what `pick_host` reads beside the marks: a device that
is not ready is not schedulable, and a pool that no selector matches has no candidates. Either has to hold in every
database that a read of the pick may have seen, and a decision for the device must not be under way when the mark is
set.
-/

namespace BasisCell

open Relational List Transition

/-- A device of a host. -/
structure DeviceKey where
  hostId : HostId
  pool : String
  deviceId : String
  deriving DecidableEq, Repr

/-- The database has the device as ready. -/
def Db.offers (db : Db) (k : DeviceKey) : Bool :=
  db.hostPoolDevices.rows.any fun d => d.hostId = k.hostId ∧ d.pool = k.pool ∧ d.deviceId = k.deviceId ∧ d.isReady

/-- The disk may go to the pool of the device, by the labels that the database has for it. -/
def Db.admits (db : Db) (k : DeviceKey) (disk : StorageDisk) : Bool :=
  db.hostPools.rows.any fun p => p.hostId = k.hostId ∧ p.pool = k.pool ∧ (disk.selector.getD {}).satisfies p.labels

/-- The decision has a disk on the device. -/
def ScheduleDecision.uses (decision : ScheduleDecision) (k : DeviceKey) : Bool :=
  decision.hostId = k.hostId ∧ ∃ d ∈ decision.disks, d.pool = k.pool ∧ d.deviceId = k.deviceId

/-- The assignment is on the device. -/
def PoolDiskAssignment.isOn (a : PoolDiskAssignment) (k : DeviceKey) : Bool :=
  a.hostId = k.hostId ∧ a.pool = k.pool ∧ a.deviceId = k.deviceId

section Picks

variable {k : DeviceKey} {snapshot : PickRead → Db} {iterate : List Nat → List Nat} {req : CreateMachineRequest}
  {decision : ScheduleDecision}

/-- **A decision that uses a device was made on rows that offer it**, to a disk that its pool admits. -/
theorem pick_respects (h : pickHost snapshot iterate req = .ok decision) (huses : decision.uses k = true) :
    (∃ read, (snapshot read).offers k = true) ∧
      ∃ disk ∈ req.storageDisks, ∃ read, (snapshot read).admits k disk = true := by
  obtain ⟨hhost, d, hd, hpool, hdevice⟩ := of_decide_eq_true huses
  have hdisks := pickHost_ok h
  rw [hhost] at hdisks
  obtain ⟨disk, hdisk, -, -, view, dev, helig, hkey⟩ := placed_of_pick hdisks d hd
  -- the view's pool is a row of the pools read, and its device one of the devices read
  obtain ⟨hname, hid⟩ := Prod.mk.inj hkey
  obtain ⟨p, hp, rfl⟩ := mem_map.mp helig.listed
  obtain ⟨row, hrow, rfl⟩ := mem_map.mp helig.device
  obtain ⟨hp, hphost⟩ := mem_filter.mp hp
  obtain ⟨hrow, hsel⟩ := mem_filter.mp ((mem_insertionSort _).mp hrow)
  obtain ⟨hrhost, hrpool⟩ := of_decide_eq_true hsel
  have hpkey : p.pool = k.pool := hname.symm.trans hpool
  constructor
  · refine ⟨.devices k.hostId p.pool, any_eq_true.mpr ⟨row, hrow, decide_eq_true ?_⟩⟩
    exact ⟨hrhost, hrpool.trans hpkey, hid.symm.trans hdevice, (of_decide_eq_true helig.schedulable).1⟩
  · refine ⟨disk, hdisk, .pools k.hostId, any_eq_true.mpr ⟨p, hp, decide_eq_true ?_⟩⟩
    exact ⟨of_decide_eq_true hphost, hpkey, LabelSelector.satisfies_iff.mpr helig.meets⟩

end Picks

/-! ## Runs -/

/-- The condition on a step: when a pick is made, either no database that its reads may have seen has the device as
    ready, or none admits a disk of the request to its pool. -/
def Placing.Bars (k : DeviceKey) (s : Placing) : PlacingEvent → Prop
  | .pick _ _ =>
    match s.stage with
    | .picking req seen =>
      (∀ db ∈ s.db :: seen, db.offers k = false) ∨
        ∀ disk ∈ req.storageDisks, ∀ db ∈ s.db :: seen, db.admits k disk = false
    | _ => True
  | _ => True

instance (k : DeviceKey) (s : Placing) (e : PlacingEvent) : Decidable (s.Bars k e) := by
  unfold Placing.Bars
  split
  · split <;> infer_instance
  · infer_instance

/-- A decision for the device is waiting for its commit. -/
def Placing.bound (k : DeviceKey) (s : Placing) : Bool :=
  match s.stage with
  | .chosen _ decision => decision.uses k
  | _ => false

/-- The ledger has no assignment on the device that `before` does not have, and none is under way. -/
structure Placing.Barred (before : Db) (k : DeviceKey) (s : Placing) : Prop where
  ledger : ∀ a ∈ s.db.poolDiskAssignments.rows, a.isOn k = true → before.isNew a = false
  unbound : s.bound k = false

section Runs

variable {before db : Db} {k : DeviceKey} {s s' : Placing} {e : PlacingEvent}

/-- A change of the database that leaves the ledger's rows in their places. -/
theorem Placing.Barred.observe (h : s.Barred before k)
    (hledger : ∀ a ∈ db.poolDiskAssignments.rows, a.isOn k = true → before.isNew a = false) :
    (s.observe db).Barred before k := by
  refine ⟨hledger, ?_⟩
  have hunbound := h.unbound
  obtain ⟨db₀, stage⟩ := s
  cases stage with
  | idle | picking req seen => rfl
  | chosen req decision => exact hunbound

theorem ledger_exec {w : Write} (hw : w.isInsertVm = false)
    (h : ∀ a ∈ db.poolDiskAssignments.rows, a.isOn k = true → before.isNew a = false) :
    ∀ a ∈ (w.exec db).1.poolDiskAssignments.rows, a.isOn k = true → before.isNew a = false := by
  obtain ⟨q, size, hrows⟩ := assignments_exec db hw
  intro a ha hon
  rw [hrows] at ha
  obtain ⟨b, hb, rfl⟩ := mem_map.mp ha
  by_cases hq : q b = true
  · rw [if_pos hq] at hon ⊢
    exact h b hb hon
  · rw [if_neg hq] at hon ⊢
    exact h b hb hon

/-- The rows of a decision that does not use the device are elsewhere. -/
theorem ledger_commit {decision : ScheduleDecision} {req : CreateMachineRequest} {vmId : VmId} {ip : Ipv4Addr}
    (huses : decision.uses k = false)
    (h : ∀ a ∈ db.poolDiskAssignments.rows, a.isOn k = true → before.isNew a = false) :
    ∀ a ∈ ((decision.insertVm req vmId ip).exec db).1.poolDiskAssignments.rows, a.isOn k = true →
      before.isNew a = false := by
  rcases assignments_insertVm (placedRow req vmId decision ip)
    (decision.gpuAssignments vmId) decision.disks db with heq | hrows
  · unfold ScheduleDecision.insertVm
    rwa [heq]
  · intro a ha hon
    unfold ScheduleDecision.insertVm at ha
    rw [hrows] at ha
    rcases mem_append.mp ha with hold | hnew
    · exact h a hold hon
    · obtain ⟨d, hd, rfl⟩ := mem_map.mp hnew
      obtain ⟨hhost, hpool, hdevice⟩ := of_decide_eq_true hon
      exact absurd ⟨hhost, d, hd, hpool, hdevice⟩ (of_decide_eq_false huses)

theorem barred_step (h : s.Barred before k) (hbars : s.Bars k e) (hstep : s.step e = some s') :
    s'.Barred before k := by
  cases Placing.moves_of_step hstep with
  | lock | refused | giveUp => exact ⟨h.ledger, rfl⟩
  | picked hpick =>
    rename_i db req seen moment iterate decision
    refine ⟨h.ledger, Bool.eq_false_of_not_eq_true fun huses => ?_⟩
    -- every read saw the current database or one since the lock was taken
    have hseen : ∀ read, seen.getD (moment read) db ∈ db :: seen := by
      intro read
      rw [getD_eq_getElem?_getD]
      cases hget : seen[moment read]? with
      | none => exact mem_cons_self
      | some d => exact mem_cons_of_mem _ (mem_of_getElem? hget)
    obtain ⟨⟨read, hoffers⟩, disk, hdisk, read', hadmits⟩ := pick_respects hpick huses
    rcases hbars with hnone | hnone
    · rw [hnone _ (hseen read)] at hoffers
      cases hoffers
    · rw [hnone disk hdisk _ (hseen read')] at hadmits
      cases hadmits
  | commit => exact ⟨ledger_commit h.unbound h.ledger, rfl⟩
  | write hw => exact h.observe (ledger_exec hw h.ledger)
  | marked => exact h.observe h.ledger
  | unmarked => exact h

end Runs

/-- **A disabled device gets no disk** in every run after the call in which no pick finds it ready and admitted, if no
    decision for it was waiting at the call: in every state reached, each assignment on the device was there before. -/
theorem disabled_device_gets_no_disk (k : DeviceKey) (reason : Option String) (s₁ s₂ s : Placing)
    (hmark : s₁.step (.setSchedulingState k.hostId k.pool k.deviceId "disabled" reason) = some s₂)
    (hunbound : s₁.bound k = false) (es : List PlacingEvent) (hal : Along Placing.step (Placing.Bars k) s₂ es)
    (hrun : run Placing.step s₂ es = some s) :
    ∀ a ∈ s.db.poolDiskAssignments.rows, a.isOn k = true → s₁.db.isNew a = false := by
  have hstart : s₁.Barred s₁.db k := by
    refine ⟨fun a ha _ => Bool.eq_false_of_not_eq_true fun hnew => ?_, hunbound⟩
    exact absurd rfl (of_decide_eq_true (all_eq_true.mp hnew a ha))
  have hbars : s₁.Bars k (.setSchedulingState k.hostId k.pool k.deviceId "disabled" reason) := trivial
  have hafter := barred_step hstart hbars hmark
  exact (run_invariant barred_step hafter hal hrun).ledger

/-! ## A device fails -/

/-- The first device of the host. -/
def sda : DeviceKey := ⟨"h1", "fast", "sda"⟩

/-- The operator disables it. -/
def sdaDisabled : Placing :=
  after Placing.step ⟨twoDeviceCell, .idle⟩ [.setSchedulingState "h1" "fast" "sda" "disabled" none]

/-- A VM with one disk is placed. -/
def placeOne : List PlacingEvent := (placeTwo .genericData).take 3

/-- The device fails, which the next heartbeat reports; the disk goes to the other one. -/
def sdaFails : PlacingEvent := .write (reportAt 2 "h1" (100 * 2 ^ 30) 3 "io errors")

theorem disabled_device_gets_no_disk_failed : ∃ s₁ s₂ s : Placing,
    s₁.step (.setSchedulingState "h1" "fast" "sda" "disabled" none) = some s₂ ∧
    run Placing.step s₂ (sdaFails :: placeOne) = some s ∧ s.db.poolDiskAssignments.rows.length = 1 ∧
    ∀ a ∈ s.db.poolDiskAssignments.rows, a.isOn sda = true → s₁.db.isNew a = false := by
  have hmark : Placing.step ⟨twoDeviceCell, .idle⟩ (.setSchedulingState "h1" "fast" "sda" "disabled" none) =
      some sdaDisabled := step_eq_after (by decide +kernel)
  have hrun : run Placing.step sdaDisabled (sdaFails :: placeOne) = some _ :=
    run_eq_after (by decide +kernel)
  exact ⟨⟨twoDeviceCell, .idle⟩, sdaDisabled, _, hmark, hrun, by decide +kernel,
    disabled_device_gets_no_disk sda none _ _ _ hmark (by decide) _ (by decide +kernel) hrun⟩

/-- A device that was disabled gets a disk, although no call has enabled it: a pick after the call does not see the
    mark, and a decision made before it is committed after it. -/
theorem disabled_device_gets_disk :
    (∃ s, run Placing.step ⟨twoDeviceCell, .idle⟩
        (.setSchedulingState "h1" "fast" "sda" "disabled" none :: placeOne) = some s ∧
      ∃ a ∈ s.db.poolDiskAssignments.rows, a.isOn sda = true ∧ twoDeviceCell.isNew a = true) ∧
    ∃ s, run Placing.step ⟨twoDeviceCell, .idle⟩
        (placeOne.take 2 ++ [.setSchedulingState "h1" "fast" "sda" "disabled" none] ++ placeOne.drop 2) = some s ∧
      ∃ a ∈ s.db.poolDiskAssignments.rows, a.isOn sda = true ∧ twoDeviceCell.isNew a = true :=
  ⟨⟨_, run_eq_after (by decide +kernel), by decide +kernel⟩,
    ⟨_, run_eq_after (by decide +kernel), by decide +kernel⟩⟩

end BasisCell
