import BasisCell.Agent.Teardown

/-!
# `BasisCell.Agent.Idempotence` — creating a VM that exists

A second `create_vm` for a VM that is up cannot go through: the record of the first one is in, and `insert_vm`
is a plain `INSERT`. Every error of `create_vm_inner` is answered by `delete_vm`, which does not ask whose
resources it takes down. So the second command destroys what the first one built, whatever the host looks
like otherwise.
-/

namespace BasisCell.Agent

open Conc Conc.Protocol Relational Storage

variable {spec : HostSpec} {cmd : CreateVmCommand} {s s' : Host}

/-- The VM of the command exists. -/
structure Host.HasVm (spec : HostSpec) (cmd : CreateVmCommand) (s : Host) : Prop where
  record : s.recorded cmd.vmId = true
  unit : s.loaded (unitNameForVm cmd.vmId) = true
  rootfs : s.hasLv spec.rootfsVg (vmLvName cmd.vmId) = true
  disks : ∀ disk ∈ cmd.storageDisks, ∃ r ∈ s.reservations.rows, r.assignmentId = disk.assignmentId ∧
    r.vmId = cmd.vmId ∧ r.diskIndex = disk.diskIndex ∧ r.state = .ready ∧ s.hasLv r.vg r.lvName = true
  tap : spec.primaryTapName cmd.vmId ∈ s.taps

/-- It exists in `s'` too, it runs there, and it has the GPUs it had. -/
structure Host.KeepsVm (spec : HostSpec) (cmd : CreateVmCommand) (s s' : Host) : Prop where
  present : s'.HasVm spec cmd
  running : s'.running (unitNameForVm cmd.vmId) = true
  gpus : ∀ pci ∈ cmd.gpuPciAddresses, pci ∈ s.vfio → pci ∈ s'.vfio

/-! ## `create_vm_inner` fails -/

theorem insertVm_recorded (h : s.recorded cmd.vmId = true) :
    Op.exec (.sql (.insertVm (localRow cmd))) s = (s, .error "UNIQUE constraint failed: local_vms.vm_id") := by
  obtain ⟨r, hr, hvm⟩ := Host.recorded_iff.mp h
  have hclash : s.localVms.insert (localRow cmd) = none := by
    rw [← Option.not_isSome_iff_eq_none, Table.insert_isSome_iff]
    exact fun hfree => hfree r hr hvm
  simp only [Op.exec, Sql.exec, hclash]
  rfl

/-- With the record in, the phases after its insertion are never reached. -/
theorem prepares_only {g : Phase} {o : Op} (h : Allows spec (.create cmd) g o)
    (hg : (g = .preparing ∧ s.recorded cmd.vmId = true) ∨ g.deletes = true) :
    (next spec g o (Op.exec o s).2 = .preparing ∧ (Op.exec o s).1.recorded cmd.vmId = true) ∨
      (next spec g o (Op.exec o s).2).deletes = true := by
  rcases hg with ⟨rfl, hrec⟩ | hg
  · cases h with
    | routine _ ho =>
      have hsame : (Op.exec o s).1.localVms = s.localVms := same_of_untouched (touches_of_routine ho .records)
      refine .inl ⟨next_of_routine ho _, ?_⟩
      rw [Host.recorded, hsame]
      exact hrec
    | insert =>
      rw [insertVm_recorded hrec]
      exact .inl ⟨rfl, hrec⟩
    | attr => exact .inl ⟨rfl, hrec⟩
    | clear => exact .inr rfl
    | delete h => cases h
  · rcases h.of_deletes hg with ho | h
    · rw [next_of_routine ho]
      exact .inr hg
    · exact .inr (h.deletes _)

theorem createVmInner_fails (h : s.recorded cmd.vmId = true) :
    ∃ e, ((createVmInner spec cmd).run.eval Op.exec s).2 = .error e := by
  have hfollows := @builds_createVmInner spec cmd
  obtain ⟨g, hend, hg⟩ := hfollows.eval
    (I := fun g (s : Host) => (g = .preparing ∧ s.recorded cmd.vmId = true) ∨ g.deletes = true)
    (fun _ _ _ hallow hg => by exact prepares_only hallow hg) (.inl ⟨rfl, h⟩)
  cases hr : ((createVmInner spec cmd).run.eval Op.exec s).2 with
  | error e => exact ⟨e, rfl⟩
  | ok _ =>
    rcases hend with rfl | hend
    · rcases hg with ⟨hg, -⟩ | hg <;> cases hg
    · rw [hr] at hend
      cases hend
      rcases hg with ⟨hg, -⟩ | hg <;> cases hg

/-! ## The rollback -/

/-- A create that failed has run a delete. -/
theorem createVm_eval_error {e : AgentError} {s₁ : Host}
    (h : (createVmInner spec cmd).run.eval Op.exec (Op.exec (.mem (.markPending cmd.vmId)) s).1 = (s₁, .error e)) :
    (createVm spec cmd).eval Op.exec s =
      (((deleteVm spec cmd.vmId).run.eval Op.exec (Op.exec (.mem (.clearPending cmd.vmId)) s₁).1).1, .error e) := by
  show Prog.eval Op.exec ((createVmInner spec cmd).run >>= _) (Op.exec (.mem (.markPending cmd.vmId)) s).1 = _
  rw [Prog.eval_bind, h]
  show Prog.eval Op.exec ((deleteVm spec cmd.vmId).run >>= _) _ = _
  rw [Prog.eval_bind]
  rfl

theorem Host.Detached.not_keepsVm (h : s'.Detached spec cmd.vmId) : ¬ s.KeepsVm spec cmd s' :=
  fun hkeeps => Bool.false_ne_true (h.unit.symm.trans hkeeps.present.unit)

/-- **A second create destroys the VM.** On every host that has the VM, `create_vm` fails and the VM is not
    kept. -/
theorem create_again_destroys (h : s.HasVm spec cmd) :
    (∃ e, ((createVm spec cmd).eval Op.exec s).2 = .error e) ∧
      ¬ s.KeepsVm spec cmd ((createVm spec cmd).eval Op.exec s).1 := by
  have hrec : (Op.exec (.mem (.markPending cmd.vmId)) s).1.recorded cmd.vmId = true := h.record
  obtain ⟨e, he⟩ := @createVmInner_fails spec cmd _ hrec
  rw [createVm_eval_error (Prod.ext rfl he)]
  dsimp only
  exact ⟨⟨e, rfl⟩, deleteVm_detaches.not_keepsVm⟩

/-! ## One VM, created twice -/

theorem hasVm_upHost : upHost.HasVm smallSpec smallCommand where
  record := by decide +kernel
  unit := by decide +kernel
  rootfs := by decide +kernel
  disks := by decide +kernel
  tap := by decide +kernel

theorem create_again_destroys_upHost :
    upHost.HasVm smallSpec smallCommand ∧
      (∃ e, ((createVm smallSpec smallCommand).eval Op.exec upHost).2 = .error e) ∧
      ¬ upHost.KeepsVm smallSpec smallCommand ((createVm smallSpec smallCommand).eval Op.exec upHost).1 :=
  ⟨hasVm_upHost, create_again_destroys hasVm_upHost⟩

/-- The command that made the VM, sent once more, leaves no unit of it. -/
theorem second_create_loses_unit : ∃ spec cmd s, Host.HasVm spec cmd s ∧
    ¬ s.KeepsVm spec cmd ((createVm spec cmd).eval Op.exec s).1 := by
  refine ⟨smallSpec, smallCommand, upHost, hasVm_upHost, fun hkeeps => ?_⟩
  have hgone : ((createVm smallSpec smallCommand).eval Op.exec upHost).1.running
      (unitNameForVm smallCommand.vmId) = false := by decide +kernel
  exact Bool.false_ne_true (hgone.symm.trans hkeeps.running)

end BasisCell.Agent
