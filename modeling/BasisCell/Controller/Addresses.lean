import BasisCell.Controller.Identity

/-!
# `BasisCell.Controller.Addresses` — who holds a VM's address

A VM's address is in two tables: `vms.ip_address`, and the `ip_allocations` row that keeps the allocator from
handing it out again. `create_machine` writes the allocation first and the row second, so the invariant that
every row's address is held by its own VM needs what a handler knows in between: the address it has just
allocated is still its own (`holdsAddress`), since its VM is not known to anyone yet.

The invariant survives every interleaving in which a release finds no row and an ack names only VMs it
deletes or that hold nothing (`addresses_exclusive`). `cleanup_failed_vm` releases under a row that stays;
then the next machine of the cluster gets the address too (`address_shared`).
-/

namespace BasisCell

open Conc Relational Table List

variable {s : Shared} {o : Op} {γ : List String} {vmId : VmId}

/-! ## The invariant and its conditions -/

namespace Db

/-- Every row's address is held by its own VM. -/
def AddressesHeld (db : Db) : Prop :=
  ∀ r ∈ db.vms.rows, ∃ a ∈ db.ipAllocations.rows, a.ipAddress = r.ipAddress ∧ a.owner = .vm r.id

instance (db : Db) : Decidable db.AddressesHeld := inferInstanceAs (Decidable (∀ r ∈ db.vms.rows, _))

/-- An address has one holder, so rows with one address are one row. -/
theorem AddressesHeld.injective {db : Db} (h : db.AddressesHeld) {r r' : VmRow} (hr : r ∈ db.vms.rows)
    (hr' : r' ∈ db.vms.rows) (hip : r.ipAddress = r'.ipAddress) : r = r' := by
  obtain ⟨a, ha, haip, howner⟩ := h r hr
  obtain ⟨a', ha', haip', howner'⟩ := h r' hr'
  have : a = a' := eq_of_clash ha ha' (haip.trans (hip.trans haip'.symm))
  rw [this, howner'] at howner
  exact eq_of_clash hr hr' (.inl (IpOwner.vm.inj howner).symm)

end Db

/-- The condition on a run: a release finds no row of the VM, and an ack names only VMs that it deletes or
    that hold no address. -/
def Write.keepsAddresses (db : Db) : Write → Bool
  | .releaseVmIps vmId => ∀ r ∈ db.vms.rows, r.id ≠ vmId
  | .ackTombstones hostId _ vmIds => ∀ v ∈ vmIds,
    (∃ r ∈ db.vms.rows, r.id = v ∧ r.hostId = hostId ∧ r.state = .pendingTeardown) ∨
      ∀ a ∈ db.ipAllocations.rows, a.owner ≠ .vm v
  | _ => true

/-- An address between its allocation and the insert of its row. -/
def holdsAddress (db : Db) (t : Activity) : Phase → Prop
  | .holding ip => ∃ vmId ∈ t.mints, ∃ a ∈ db.ipAllocations.rows, a.ipAddress = ip ∧ a.owner = .vm vmId
  | _ => True

def addresses : Layer Activity Shared Phase (List String) where
  inv := fun _ _ s => s.db.AddressesHeld
  holds := fun t g _ s => holdsAddress s.db t g

/-! ## One call -/

section Call

variable {db : Db} {w : Write}

/-- A call that keeps addresses drops none of a VM whose row survives it. -/
theorem keeps_of_row {r r' : VmRow} {a : IpAllocation} (hw : w.keepsAddresses db = true)
    (hr : r ∈ db.vms.rows) (hr' : r' ∈ (w.exec db).1.vms.rows) (hid : r'.id = r.id)
    (ha : a ∈ db.ipAllocations.rows) (howner : a.owner = .vm r.id) : a ∈ (w.exec db).1.ipAllocations.rows := by
  refine (Write.ipAllocations_exec ha).resolve_right fun hdrop => ?_
  cases w with
  | releaseVmIps v =>
    exact of_decide_eq_true hw r hr (IpOwner.vm.inj (howner.symm.trans hdrop))
  | releaseClusterIps c => cases howner.symm.trans hdrop
  | ackTombstones hostId vnis vmIds =>
    rcases hdrop with ⟨v, hv, ho⟩ | ⟨c, -, -, -, ho⟩
    · have hv' : v = r.id := (IpOwner.vm.inj (howner.symm.trans ho)).symm
      rcases of_decide_eq_true hw v hv with ⟨r₀, hr₀, hid₀, hhost, hstate⟩ | hnone
      · -- the acked row is the one that should have survived
        have hr' : r' ∈ (db.ackTombstones hostId vnis vmIds).vms.rows := hr'
        rw [Db.vms_ackTombstones] at hr'
        obtain ⟨hmem, hkept⟩ := mem_delete.mp hr'
        have : r' = r₀ := eq_of_clash hmem hr₀ (.inl (hid.trans (hv'.symm.trans hid₀.symm)))
        subst this
        rw [Db.ackedVm, decide_eq_false_iff_not] at hkept
        exact hkept ⟨hid₀ ▸ hv, hhost, hstate⟩
      · exact hnone a ha ho
    · cases howner.symm.trans ho
  | _ => exact hdrop

/-- The invariant after a call, given that an inserted row's address is held. -/
theorem addressesHeld_exec (h : db.AddressesHeld) (hw : w.keepsAddresses db = true)
    (hins : ∀ vm gpus disks, w = .insertVm vm gpus disks →
      ∃ a ∈ db.ipAllocations.rows, a.ipAddress = vm.ipAddress ∧ a.owner = .vm vm.id) :
    (w.exec db).1.AddressesHeld := by
  intro r' hr'
  obtain ⟨r, hr, hsame⟩ | ⟨⟨gpus, disks, rfl⟩, -⟩ := Write.vms_exec hr'
  · obtain ⟨a, ha, hip, howner⟩ := h r hr
    exact ⟨a, keeps_of_row hw hr hr' hsame.same.id.symm ha howner,
      hip.trans hsame.same.ipAddress, hsame.same.id ▸ howner⟩
  · obtain ⟨a, ha, hip, howner⟩ := hins r' gpus disks rfl
    exact ⟨a, (Write.ipAllocations_exec ha).resolve_right id, hip, howner⟩

theorem held_of_allocate {cluster : ClusterRow} {ip : Ipv4Addr}
    (h : ((Write.allocateClusterVmIp cluster vmId).exec db).2 = .ok ip) :
    ∃ a ∈ ((Write.allocateClusterVmIp cluster vmId).exec db).1.ipAllocations.rows,
      a.ipAddress = ip ∧ a.owner = .vm vmId := by
  have heff := Write.effect_of_apply (Write.apply_of_ok h)
  generalize ((Write.allocateClusterVmIp cluster vmId).exec db).1 = db' at heff ⊢
  cases heff with
  | allocateClusterVmIp hins => exact ⟨_, (mem_insert hins).mpr (.inr rfl), rfl, rfl⟩

end Call

/-! ## All interleavings -/

section Sound

variable {t : Activity} {g : Phase}

/-- An activity that asserts an address after a step has it from before, or has just allocated it. -/
theorem holdsAddress_exec (hallow : Allows t g o) (h : holdsAddress s.db t g) :
    holdsAddress (o.exec s).1.db t (t.next g o (o.exec s).2) := by
  have hmoves := next_moves t g o (o.exec s).2
  generalize hr : (o.exec s).2 = r at hmoves
  generalize hnext : t.next g o r = g' at hmoves
  cases hmoves with
  | allocated =>
    cases hallow with
    | allocate => exact ⟨_, mem_singleton_self _, held_of_allocate hr⟩
  | stay =>
    cases g with
    | holding ip =>
      cases hallow with
      | query => exact h
      | mem => rwa [Op.exec_mem_db]
      | elect =>
        obtain ⟨v, hv, a, ha, hheld⟩ := h
        exact ⟨v, hv, a, (Write.ipAllocations_exec ha).resolve_right fun hdrop => hdrop, hheld⟩
      | @insert _ _ _ vm gpus disks hid hstate =>
        -- still here, so the insert was rolled back
        obtain ⟨heq, -⟩ | ⟨u, hu, -⟩ := Write.exec_cases (.insertVm vm gpus disks) s.db
        · rwa [Op.exec_write_db, heq]
        · cases hr.symm.trans hu
          cases hnext
      | giveBack => cases hnext
    | _ => trivial
  | _ => trivial

/-- No one but `create_machine` itself gives back the address it holds. -/
theorem held_frame {c : Cell} {i : Nat} {a : IpAllocation}
    (hfires : identity.Fires discipline (Cell.Checks Write.keepsAddresses) c γ i t g o)
    (hmint : vmId ∉ t.mints) (hnew : vmId ∉ γ) (ha : a ∈ c.shared.db.ipAllocations.rows)
    (howner : a.owner = .vm vmId) : a ∈ (o.exec c.shared).1.db.ipAllocations.rows := by
  refine o.db_elim c.shared ‹_› ?_
  rintro w rfl
  refine (Write.ipAllocations_exec ha).resolve_right fun hdrop => ?_
  have hcond := hfires.cond w (Cell.nextWrite_of_nextOp hfires.op)
  cases w with
  | releaseVmIps v =>
    cases IpOwner.vm.inj (howner.symm.trans hdrop)
    have hknown := hfires.holds
    cases hfires.allowed with
    | giveBack | releaseClosing => exact hmint (mem_singleton_self _)
    | reapRelease hvm => exact hnew (hknown.read _ _ rfl _ hvm)
  | releaseClusterIps clusterId => cases howner.symm.trans hdrop
  | ackTombstones hostId vnis vmIds =>
    rcases hdrop with ⟨v, hv, ho⟩ | ⟨_, -, -, -, ho⟩
    · cases IpOwner.vm.inj (howner.symm.trans ho)
      rcases of_decide_eq_true hcond vmId hv with ⟨r, hr, hid, -, -⟩ | hnone
      · exact hnew (hid ▸ hfires.inv.vms r hr)
      · exact hnone a ha ho
    · cases howner.symm.trans ho
  | _ => exact hdrop

theorem addresses_sound (settings : Settings) :
    addresses.SoundOver identity discipline (cell settings) (Cell.Checks Write.keepsAddresses) where
  spawn := by
    intro started γ s t hfresh hinv
    exact ⟨hinv.2, trivial⟩
  exec := by
    intro c γ i t g o hfires
    refine ⟨?_, holdsAddress_exec hfires.allowed hfires.holds.2⟩
    cases o with
    | query q => exact hfires.inv.2
    | mem m =>
      show ((Op.mem m).exec c.shared).1.db.AddressesHeld
      rw [Op.exec_mem_db]
      exact hfires.inv.2
    | write w =>
      refine addressesHeld_exec hfires.inv.2 (hfires.cond w (Cell.nextWrite_of_nextOp hfires.op)) ?_
      rintro vm gpus disks rfl
      have hheld := hfires.holds.2
      cases hfires.allowed with
      | insert hid hstate =>
        obtain ⟨vmId, hvm, hheld⟩ := hheld
        cases mem_singleton.mp hvm
        exact hid ▸ hheld
  frame := by
    intro c γ i t g o task g' hfires htask hapart hat hholds
    cases g' with
    | holding ip =>
      obtain ⟨hknown, vmId, hvm, a, ha, hip, howner⟩ := hholds
      exact ⟨vmId, hvm, a, held_frame (Layer.base_fires hfires) (fun h => hapart vmId h hvm)
        (hknown.unused rfl vmId hvm) ha howner, hip, howner⟩
    | _ => trivial
  reboot := id
  reboot_holds := id

/-- **VM addresses are exclusive.** From a fresh database, along every interleaving whose calls keep
    addresses: each row's address is held by its own VM, and no two rows carry one address. -/
theorem addresses_exclusive (settings : Settings) (effectiveCpu : Int → Int) (es : List (Event Activity))
    (c : Cell)
    (hal : (cell settings).Along (Cell.Checks Write.keepsAddresses) (Cell.start (Db.create effectiveCpu)) es)
    (hrun : (cell settings).run (Cell.start (Db.create effectiveCpu)) es = some c) :
    c.shared.db.AddressesHeld ∧ ∀ r ∈ c.shared.db.vms.rows, ∀ r' ∈ c.shared.db.vms.rows,
      r.ipAddress = r'.ipAddress → r = r' := by
  have hsound := (addresses_sound settings).sound (identity_sound settings _)
  have hstart : (identity.layered addresses).inv [] [] (Shared.boot (Db.create effectiveCpu)) :=
    ⟨identity_start effectiveCpu, forall_mem_nil _⟩
  obtain ⟨γ, hc⟩ := Outline.annotated_run hsound (Outline.annotated_empty hstart) hal hrun
  exact ⟨hc.inv.2, fun r hr r' hr' => hc.inv.2.injective hr hr'⟩

end Sound

/-- Two machines of one cluster wait for the agent. -/
def bothWaiting : List (Event Activity) := upToWaiting ++ .spawn (createWorkerAs "worker-2" "v2") :: steps 3 20

theorem addresses_exclusive_smallCell : ∃ c, (cell smallCell).run emptyCell bothWaiting = some c ∧
    c.shared.db.vms.rows.map (·.id) = ["v1", "v2"] ∧ c.shared.db.AddressesHeld ∧
    ∀ r ∈ c.shared.db.vms.rows, ∀ r' ∈ c.shared.db.vms.rows, r.ipAddress = r'.ipAddress → r = r' := by
  have hrun := run_reached bothWaiting (by decide +kernel)
  exact ⟨_, hrun, by decide +kernel, addresses_exclusive smallCell id _ _ (by decide +kernel) hrun⟩

/-- The node's stream has ended when machine `v1` is placed, so its creation is cleaned up: the row waits for
    an ack, the address is released. The node comes back, and machine `v2` is created and reported RUNNING. -/
def upToShared : List (Event Activity) :=
  upToCluster ++ .spawn (.streamEnded "h1" 1) :: steps 2 2 ++ .spawn createWorker :: steps 3 24 ++
  .spawn (registerAs "h2" 200) :: steps 4 11 ++ .spawn (createWorkerAs "worker-2" "v2") :: steps 5 20 ++
  .spawn (reportRunning "v2") :: steps 6 5 ++ steps 5 2

/-- **Cleanup hands a live row's address out again.** Every handler has returned, `v1` still waits for its
    teardown ack, `v2` runs in the same cluster, and both carry one address. -/
theorem address_shared :
    (cell smallCell).run emptyCell upToShared = some (reached upToShared) ∧
    (∀ task ∈ (reached upToShared).tasks, task.prog.finished = true) ∧
    (reached upToShared).shared.db.vms.rows.map
      (fun r => (r.id, r.clusterId, r.state, r.ipAddress)) =
        [("v1", "c0", .pendingTeardown, 167772165), ("v2", "c0", .running, 167772165)] ∧
    ¬(reached upToShared).shared.db.AddressesHeld := by
  refine ⟨run_reached _ ?_, ?_, ?_, ?_⟩ <;> decide +kernel

end BasisCell
