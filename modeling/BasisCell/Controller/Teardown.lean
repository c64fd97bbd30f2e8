import BasisCell.Controller.System
import BasisCell.Controller.Effects

/-!
# `BasisCell.Controller.Teardown` — a VM that is going away stays on its way

Once a row is in PENDING_TEARDOWN, the tombstone pipeline relies on it staying there until the agent's ack
deletes it: a row that leaves the state no longer appears among the host's tombstones. Only one of the
writers looks at the state before it writes, and it looks in an earlier call.

`Write.respects` is what the two unguarded writers would have to check. Under it, no interleaving takes a row
out of PENDING_TEARDOWN (`teardown_irreversible`); without it the health checker does (`teardown_undone`).
-/

namespace BasisCell

open Conc Relational

namespace Db

/-- The row of `vmId` is waiting for its tombstone ack. -/
def Tearing (db : Db) (vmId : VmId) : Prop := ∃ r ∈ db.vms.rows, r.id = vmId ∧ r.state = .pendingTeardown

instance (db : Db) (vmId : VmId) : Decidable (db.Tearing vmId) :=
  inferInstanceAs (Decidable (∃ r ∈ db.vms.rows, _))

end Db

/-- The condition on a run: the state writers leave rows that are being torn down alone. -/
def Write.respects (db : Db) : Write → Bool
  | .markVmsFailedOnHost hostId _ => ∀ r ∈ db.vms.rows, r.hostId = hostId → r.state ≠ .pendingTeardown
  | .updateVmState vmId state _ =>
    state = .pendingTeardown ∨ ∀ r ∈ db.vms.rows, r.id = vmId → r.state ≠ .pendingTeardown
  | _ => true

/-- Is the operation a tombstone ack that names the VM? -/
def Op.acks (vmId : VmId) : Op → Bool
  | .write (.ackTombstones _ _ vmIds) => vmId ∈ vmIds
  | _ => false

/-- Along the events, the row stays in PENDING_TEARDOWN until an ack that names it has deleted it. -/
def StaysPending (settings : Settings) (vmId : VmId) : Cell → List (Event Activity) → Prop
  | c, [] => c.shared.db.Tearing vmId
  | c, e :: es => c.shared.db.Tearing vmId ∧
    match (cell settings).step c e with
    | none => True
    | some c' => ((c.nextOp e).any (fun x => x.2.acks vmId) = true ∧ ∀ r ∈ c'.shared.db.vms.rows, r.id ≠ vmId) ∨
      StaysPending settings vmId c' es

/-! ## One call -/

variable {db : Db} {vmId : VmId}

/-- A respectful call writes no other state to a row in PENDING_TEARDOWN. -/
theorem sets_of_respects {w : Write} {r : VmRow} (hw : w.respects db = true) (hr : r ∈ db.vms.rows)
    (hstate : r.state = .pendingTeardown) : (w.sets r).getD r.state = .pendingTeardown := by
  cases w with
  | markVmsFailedOnHost hostId reason =>
    rw [Write.sets, if_neg fun hfails => ?_]
    · exact hstate
    · exact of_decide_eq_true hw r hr (of_decide_eq_true hfails).1 hstate
  | updateVmState v state message =>
    rw [Write.sets]
    split
    · rename_i hid
      exact (of_decide_eq_true hw).resolve_right fun hno => hno r hr hid hstate
    · exact hstate
  | markVmPendingTeardown v =>
    rw [Write.sets]
    split
    · rfl
    · exact hstate
  | _ => exact hstate

/-- **A respectful call leaves the row in PENDING_TEARDOWN, or is the ack that deletes it.** -/
theorem Db.Tearing.exec {w : Write} (h : db.Tearing vmId) (hw : w.respects db = true) :
    ((Op.write w).acks vmId = true ∧ ∀ r ∈ (w.exec db).1.vms.rows, r.id ≠ vmId) ∨ (w.exec db).1.Tearing vmId := by
  obtain ⟨r, hr, hid, hstate⟩ := h
  rcases Write.vms_kept (w := w) hr with ⟨r', hr', hleaves⟩ | ⟨hostId, vnis, vmIds, rfl, hack⟩
  · refine .inr ⟨r', hr', hleaves.same.id.symm.trans hid, ?_⟩
    rw [hleaves.state, sets_of_respects hw hr hstate]
  · refine .inl ⟨decide_eq_true (hid ▸ (of_decide_eq_true hack).1), fun r' hr' hid' => ?_⟩
    -- ids are unique, so a surviving row of this VM would be the deleted one
    have hr' : r' ∈ (db.ackTombstones hostId vnis vmIds).vms.rows := hr'
    rw [Db.vms_ackTombstones] at hr'
    obtain ⟨hmem, hkept⟩ := Table.mem_delete.mp hr'
    rw [Table.eq_of_clash hmem hr (.inl (hid'.trans hid.symm)), hack] at hkept
    cases hkept

/-! ## All interleavings -/

theorem tearing_step {settings : Settings} {c c' : Cell} {e : Event Activity} (h : c.shared.db.Tearing vmId)
    (hC : Cell.Checks Write.respects c e) (hstep : (cell settings).Step c e c') :
    ((c.nextOp e).any (fun x => x.2.acks vmId) = true ∧ ∀ r ∈ c'.shared.db.vms.rows, r.id ≠ vmId) ∨
      c'.shared.db.Tearing vmId := by
  cases hstep with
  | spawn => exact .inr h
  | drop => exact .inr h
  | crash => exact .inr h
  | @exec s pre post started t o k =>
    rw [Machine.nextOp_exec]
    cases o with
    | query q => exact .inr h
    | mem m => exact .inr ((Op.exec_mem_db m s).symm ▸ h)
    | write w => exact h.exec (hC w (Cell.nextWrite_of_nextOp Machine.nextOp_exec))

/-- **Teardown is irreversible** in every run that never calls a state writer on a row in
    PENDING_TEARDOWN. -/
theorem teardown_irreversible (settings : Settings) (c : Cell) (es : List (Event Activity)) (vmId : VmId)
    (h : c.shared.db.Tearing vmId) (hal : (cell settings).Along (Cell.Checks Write.respects) c es) :
    StaysPending settings vmId c es := by
  induction es generalizing c with
  | nil => exact h
  | cons e es ih =>
    refine ⟨h, ?_⟩
    obtain ⟨hC, hal⟩ := hal
    split at hal
    · rename_i c' hstep
      rw [hstep]
      exact (tearing_step h hC (Machine.step_cases hstep)).imp_right fun h' => ih c' h' hal
    · rename_i hstep
      rw [hstep]
      trivial

instance decidableStaysPending (settings : Settings) (vmId : VmId) :
    (c : Cell) → (es : List (Event Activity)) → Decidable (StaysPending settings vmId c es)
  | c, [] => inferInstanceAs (Decidable (c.shared.db.Tearing vmId))
  | c, e :: es =>
    have : Decidable (match (cell settings).step c e with
        | none => True
        | some c' => ((c.nextOp e).any (fun x => x.2.acks vmId) = true ∧
            ∀ r ∈ c'.shared.db.vms.rows, r.id ≠ vmId) ∨ StaysPending settings vmId c' es) :=
      match (cell settings).step c e with
      | none => .isTrue trivial
      | some c' => have := decidableStaysPending settings vmId c' es; inferInstanceAs (Decidable (_ ∨ _))
    inferInstanceAs (Decidable (_ ∧ _))

/-- Machine `v1` is deleted while its `CreateMachine` still waits for the agent. -/
def upToDeleted : List (Event Activity) := upToWaiting ++ .spawn (.deleteMachine "v1") :: steps 3 9

/-- The agent reports the VM RUNNING, the host sends a heartbeat, and the tombstone is acked. -/
def reportedAndAcked : List (Event Activity) :=
  .spawn (reportRunning "v1") :: steps 4 4 ++
  .spawn (.agentMessage "h1" (.heartbeat none) 120) :: steps 5 1 ++
  .spawn (.agentMessage "h1" (.tombstoneAck [10000] ["v1"]) 130) :: steps 6 1

theorem teardown_irreversible_smallCell :
    ((cell smallCell).run emptyCell (upToDeleted ++ reportedAndAcked)).isSome = true ∧
    StaysPending smallCell "v1" (reached upToDeleted) reportedAndAcked :=
  ⟨by decide +kernel, teardown_irreversible smallCell _ _ "v1" (by decide +kernel) (by decide +kernel)⟩

/-- **The health checker undoes a teardown.** The node stops sending heartbeats while the tombstone of its VM
    is outstanding; the next tick moves the row from PENDING_TEARDOWN to FAILED, and nothing deletes it. -/
theorem teardown_undone :
    (cell smallCell).run emptyCell upToDeleted = some (reached upToDeleted) ∧
    (reached upToDeleted).shared.db.Tearing "v1" ∧
    ¬StaysPending smallCell "v1" (reached upToDeleted)
      (.spawn (.hostHealthTick 400) :: steps 4 2) := by
  refine ⟨run_reached _ ?_, ?_, ?_⟩ <;> decide +kernel

end BasisCell
