import BasisCell.Controller.Outbox

/-!
# `BasisCell.Controller.Dispatch` — no command for a VM that is being torn down

A VM's row and its outbox entry live on their own: the row is torn down by whoever gives the VM up, the entry
goes when the agent reports. So a command can be sent, by its handler or by the replay of a registration, for
a VM that the agent has just been told to remove; the agent then builds a VM nobody owns.

* `no_zombie_dispatch`: no such command is ever put on a channel, if a VM is only torn down while no entry of
  it is pending, its `create_machine` has sent the command, and no registration is replaying.
* `zombie_dispatched`: `create_machine` itself tears down a VM whose entry it leaves pending when the agent's
  channel is closed, and the next registration sends it.
-/

namespace BasisCell

open Conc Relational List

/-- The VM has a row, which is not in PENDING_TEARDOWN. -/
def Db.Live (db : Db) (vmId : VmId) : Prop := ∃ r ∈ db.vms.rows, r.id = vmId ∧ r.state ≠ .pendingTeardown

instance (db : Db) (vmId : VmId) : Decidable (db.Live vmId) := inferInstanceAs (Decidable (∃ r ∈ db.vms.rows, _))

/-- The VM whose creation the event puts on a channel that is open. -/
def Cell.dispatches (c : Cell) (e : Event Activity) : Option VmId :=
  match c.nextOp e with
  | some (_, .mem (.send n cmd)) => if MemOp.live c.shared n then cmd.creates else none
  | _ => none

/-- The event dispatches no VM but a live one. -/
def Cell.DispatchesLive (c : Cell) (e : Event Activity) : Prop := ∀ vmId ∈ Cell.dispatches c e, c.shared.db.Live vmId

instance (c : Cell) (e : Event Activity) : Decidable (Cell.DispatchesLive c e) :=
  inferInstanceAs (Decidable (∀ vmId ∈ Cell.dispatches c e, _))

/-! ## The condition on a run -/

/-- The VM whose row an operation puts in PENDING_TEARDOWN. -/
def Op.tearsDown : Op → Option VmId
  | .write (.markVmPendingTeardown vmId) => some vmId
  | .write (.updateVmState vmId .pendingTeardown _) => some vmId
  | _ => none

/-- May an activity that is about to run this operation still send the VM's command? A `create_machine` that
    marks its entry or waits for the agent has sent it; a registration sends during its replay. -/
def Activity.mayDispatch (vmId : VmId) : Activity → Op → Bool
  | .createMachine _ _ _, .mem (.awaitOutcome _) => false
  | .createMachine _ _ _, .write (.markCommandSent _) => false
  | .createMachine _ _ _, .write (.updateVmState _ _ _) => false
  | .createMachine _ v _, _ => v = vmId
  | .streamMessages _ _ _, .mem (.send _ (.createVm _)) => true
  | .streamMessages _ _ _, .write (.markCommandSent _) => true
  | _, _ => false

def mayDispatch (vmId : VmId) (task : CellTask) : Bool :=
  match task.prog with
  | .call o _ => task.tag.mayDispatch vmId o
  | .ret _ => false

/-- A live VM is torn down only while no entry of it is pending and no other task may still send its command. -/
def TearsDownUnsent (c : Cell) : Event Activity → Prop
  | .step i => ∀ x ∈ c.nextOp (.step i), ∀ vmId ∈ x.2.tearsDown, c.shared.db.Live vmId →
    (∀ p ∈ c.shared.db.pendingCommands.rows, p.vmId = vmId → p.state ≠ .pending) ∧
    ∀ task ∈ c.tasks.eraseIdx i, mayDispatch vmId task = false
  | _ => True

instance (c : Cell) : (e : Event Activity) → Decidable (TearsDownUnsent c e)
  | .spawn _ | .step _ | .drop _ | .crash => by dsimp only [TearsDownUnsent]; infer_instance

/-! ## The outline -/

section Live

variable {s : Shared} {o : Op} {vmId : VmId} {t : Activity} {g : Phase}

theorem Db.Live.exec (h : s.db.Live vmId) (ho : o.tearsDown ≠ some vmId) : (o.exec s).1.db.Live vmId := by
  obtain ⟨r, hr, hid, hstate⟩ := h
  refine o.db_elim s ⟨r, hr, hid, hstate⟩ ?_
  rintro w rfl
  rcases Write.vms_kept (w := w) hr with ⟨r', hr', hleaves⟩ | ⟨hostId, vnis, vmIds, -, hacked⟩
  · refine ⟨r', hr', hleaves.same.id.symm.trans hid, fun hstate' => ?_⟩
    have hsets := hleaves.state.symm.trans hstate'
    cases w with
    | markVmsFailedOnHost hostId reason =>
      rw [Write.sets] at hsets
      split at hsets
      · cases hsets
      · exact hstate hsets
    | updateVmState v state message =>
      rw [Write.sets] at hsets
      split at hsets
      · cases hsets
        exact ho (congrArg some (‹r.id = v›.symm.trans hid))
      · exact hstate hsets
    | markVmPendingTeardown v =>
      rw [Write.sets] at hsets
      split at hsets
      · exact ho (congrArg some (‹r.id = v›.symm.trans hid))
      · exact hstate hsets
    | _ => exact hstate hsets
  · exact absurd (of_decide_eq_true hacked).2.2 hstate

end Live

def Activity.registers : Activity → Bool
  | streamMessages _ _ _ => true
  | _ => false

/-- Everything that will be dispatched is live: what its handler has placed, what a registration has left to
    replay. -/
def sendsLive (db : Db) (t : Activity) : Phase → Prop
  | .placed => ∀ vmId ∈ t.creates, db.Live vmId
  | .queued _ => ∀ vmId ∈ t.creates, db.Live vmId
  | .replaying _ _ todo => t.registers = true → ∀ x ∈ todo, ∃ vmId ∈ x.2.creates, db.Live vmId
  | _ => True

/-- Every entry creates its VM, and the VM of a pending entry is live. -/
structure Db.OutboxLive (db : Db) : Prop where
  creates : ∀ p ∈ db.pendingCommands.rows, p.payload.creates = some p.vmId
  live : ∀ p ∈ db.pendingCommands.rows, p.state = .pending → db.Live p.vmId

def dispatch : Layer Activity Shared Phase (List String) where
  inv := fun _ _ s => s.db.OutboxLive
  holds := fun t g _ s => sendsLive s.db t g

section Sound

variable {c : Cell} {γ : List String} {i : Nat} {t : Activity} {g : Phase} {o : Op} {vmId : VmId}
variable {task : CellTask}

/-- An activity that has something to dispatch and goes on tears nothing down. -/
theorem tearsDown_of_stay {r : o.Resp} (hallow : Allows t g o) (hnext : t.next g o r = g)
    (hg : g = .placed ∨ (∃ id, g = .queued id) ∨ ∃ n sent todo, g = .replaying n sent todo) : o.tearsDown = none := by
  rcases hg with rfl | ⟨id, rfl⟩ | ⟨n, sent, todo, rfl⟩
  · cases hallow with
    | giveUpPlaced => cases hnext
    | _ => rfl
  · cases hallow with
    | giveUpQueued => cases hnext
    | _ => rfl
  · cases hallow <;> rfl

theorem sendsLive_of_tearsDown {s : Shared} (h : sendsLive s.db t g) (ho : o.tearsDown = none) :
    sendsLive (o.exec s).1.db t g := by
  have live : ∀ {vmId}, s.db.Live vmId → (o.exec s).1.db.Live vmId := fun h => h.exec fun hv => nomatch ho.symm.trans hv
  cases g with
  | placed | queued id => exact fun vmId hv => live (h vmId hv)
  | replaying n sent todo =>
    intro ht x hx
    obtain ⟨vmId, hv, hlive⟩ := h ht x hx
    exact ⟨vmId, hv, live hlive⟩
  | _ => trivial

theorem live_of_listed {db : Db} {hostId : HostId} (h : db.OutboxLive) :
    ∀ x ∈ db.listPendingCommands hostId, ∃ vmId ∈ x.2.creates, db.Live vmId := by
  intro x hx
  obtain ⟨p, hp, rfl⟩ := mem_map.mp hx
  obtain ⟨hp, hsel⟩ := mem_filter.mp hp
  exact ⟨p.vmId, h.creates p hp, h.live p hp (of_decide_eq_true hsel).2⟩

/-- A `create_machine` that has not sent its command may still do so. -/
theorem mayDispatch_of_creates (hg : g = .placed ∨ ∃ id, g = .queued id) (hat : discipline.At task g)
    (hv : vmId ∈ task.tag.creates) : mayDispatch vmId task = true := by
  obtain ⟨tag, prog⟩ := task
  cases tag with
  | createMachine req v picks =>
    cases hv
    cases prog with
    | ret result =>
      rcases hg with rfl | ⟨id, rfl⟩ <;> rcases hat with h | ⟨_, h⟩ | h <;> cases h
    | call o k =>
      have hmem : ∀ {m : MemOp}, m.routine = true →
          (Activity.createMachine req vmId picks).mayDispatch vmId (.mem m) = true := by
        intro m hm
        cases m with
        | awaitOutcome _ => cases hm
        | _ => exact decide_eq_true rfl
      rcases hg with rfl | ⟨id, rfl⟩
      · cases hat.1 with
        | mem _ hm => exact hmem hm
        | _ => exact decide_eq_true rfl
      · cases hat.1 with
        | mem _ hm => exact hmem hm
        | _ => exact decide_eq_true rfl
  | _ => cases hv

/-- A registration with something left to replay may send anything. -/
theorem mayDispatch_of_replaying {db : Db} {n : Nat} {sent todo : List (Nat × ControllerCommand)}
    (ht : task.tag.registers = true) (hat : discipline.At task (.replaying n sent todo)) (htodo : todo ≠ [])
    (h : ∀ x ∈ todo, ∃ vmId ∈ x.2.creates, db.Live vmId) : mayDispatch vmId task = true := by
  obtain ⟨tag, prog⟩ := task
  cases tag with
  | streamMessages register newHostId now =>
    cases prog with
    | ret result =>
      -- a replay does not return before it is through
      cases result with
      | error e => cases hat
      | ok reply =>
        cases reply with
        | stream host m =>
          rcases hat with ⟨_, h⟩ | h
          · cases h
            exact absurd rfl htodo
          · cases h
        | _ => cases hat
    | call o k =>
      cases hat.1 with
      | query h | mem h | elect h => cases h
      | markReplayed => rfl
      | @replay _ _ _ _ _ id cmd todo =>
        obtain ⟨v, hv, -⟩ := h (id, cmd) mem_cons_self
        cases cmd with
        | createVm cmd => rfl
        | _ => cases hv
  | _ => cases ht

variable (hfires : (identity.layered dispatch).Fires discipline TearsDownUnsent c γ i t g o)

include hfires

/-- A pending entry keeps its VM alive. -/
theorem live_of_pending {p : PendingCommand}
    (hp : p ∈ c.shared.db.pendingCommands.rows) (hstate : p.state = .pending) : (o.exec c.shared).1.db.Live p.vmId := by
  have hlive := hfires.inv.2.live p hp hstate
  exact hlive.exec fun ho => (hfires.cond _ hfires.op _ ho hlive).1 p hp rfl hstate

theorem outboxLive_exec :
    (o.exec c.shared).1.db.OutboxLive := by
  have kept : ∀ p ∈ c.shared.db.pendingCommands.rows, p.payload.creates = some p.vmId ∧
      (p.state = .pending → (o.exec c.shared).1.db.Live p.vmId) :=
    fun p hp => ⟨hfires.inv.2.creates p hp, live_of_pending hfires hp⟩
  suffices h : ∀ p ∈ (o.exec c.shared).1.db.pendingCommands.rows, p.payload.creates = some p.vmId ∧
      (p.state = .pending → (o.exec c.shared).1.db.Live p.vmId) from
    ⟨fun p hp => (h p hp).1, fun p hp => (h p hp).2⟩
  intro p' hp'
  obtain hsame | ⟨w, rfl⟩ := o.db_cases c.shared
  · rw [hsame] at hp'
    exact kept p' hp'
  · rw [Op.exec_write_db] at hp'
    obtain ⟨sel, hrows⟩ | ⟨hostId, v, cmd, id, rfl, hrows⟩ | ⟨v, rfl, hdel⟩ := w.pendingCommands_cases c.shared.db
    · rw [hrows] at hp'
      obtain ⟨p, hp, rfl⟩ := mem_map.mp hp'
      split
      · exact ⟨(kept p hp).1, nofun⟩
      · exact kept p hp
    · rw [hrows] at hp'
      rcases mem_append.mp hp' with hp | hp
      · exact kept p' hp
      · -- only `create_machine` fills the outbox, for the VM it has placed
        cases mem_singleton.mp hp
        have hholds := hfires.holds.2
        cases hfires.allowed with
        | enqueue hcmd => exact ⟨congrArg some hcmd, fun _ => (hholds v rfl).exec nofun⟩
    · rw [hdel] at hp'
      exact kept p' (Table.mem_delete.mp hp').1

/-- What an activity asserts after its own step. -/
theorem sendsLive_exec :
    sendsLive (o.exec c.shared).1.db t (t.next g o (o.exec c.shared).2) := by
  have hmoves := next_moves t g o (o.exec c.shared).2
  have hholds : sendsLive c.shared.db t g := hfires.holds.2
  have hallow : Allows t g o := hfires.allowed
  generalize hr : (o.exec c.shared).2 = r at hmoves
  generalize hnext : t.next g o r = g' at hmoves
  cases hmoves with
  | stay =>
    cases g with
    | placed => exact sendsLive_of_tearsDown hholds (tearsDown_of_stay hallow hnext (.inl rfl))
    | queued id => exact sendsLive_of_tearsDown hholds (tearsDown_of_stay hallow hnext (.inr (.inl ⟨id, rfl⟩)))
    | replaying n sent todo =>
      exact sendsLive_of_tearsDown hholds (tearsDown_of_stay hallow hnext (.inr (.inr ⟨n, sent, todo, rfl⟩)))
    | _ => trivial
  | inserted =>
    intro vmId hv
    cases hallow with
    | insert hid hstate =>
      cases hv
      exact ⟨_, Write.mem_of_insertVm hr, hid, fun h => nomatch hstate.symm.trans h⟩
  | enqueued => exact sendsLive_of_tearsDown (g := .placed) hholds rfl
  | listed | listedReaped => exact fun _ => hr ▸ live_of_listed hfires.inv.2
  | replayed =>
    rw [Op.exec_mem_db]
    exact fun ht x hx => hholds ht x (mem_cons_of_mem _ hx)
  | _ => trivial

theorem sendsLive_frame
    (htask : task ∈ c.tasks.eraseIdx i) {g' : Phase} (hat : discipline.At task g')
    (h : sendsLive c.shared.db task.tag g') : sendsLive (o.exec c.shared).1.db task.tag g' := by
  have live : ∀ {vmId}, mayDispatch vmId task = true → c.shared.db.Live vmId → (o.exec c.shared).1.db.Live vmId :=
    fun hmay hlive => hlive.exec fun ho =>
      nomatch hmay.symm.trans ((hfires.cond _ hfires.op _ ho hlive).2 task htask)
  cases g' with
  | placed => exact fun vmId hv => live (mayDispatch_of_creates (.inl rfl) hat hv) (h vmId hv)
  | queued id => exact fun vmId hv => live (mayDispatch_of_creates (.inr ⟨id, rfl⟩) hat hv) (h vmId hv)
  | replaying n sent todo =>
    intro ht x hx
    obtain ⟨vmId, hv, hlive⟩ := h ht x hx
    exact ⟨vmId, hv, live (mayDispatch_of_replaying ht hat (ne_nil_of_mem hx) (h ht)) hlive⟩
  | _ => trivial

omit hfires

theorem dispatch_sound (settings : Settings) :
    dispatch.SoundOver identity discipline (cell settings) TearsDownUnsent where
  spawn := fun _ hinv => ⟨hinv.2, trivial⟩
  exec := fun hfires => ⟨outboxLive_exec hfires, sendsLive_exec hfires⟩
  frame := fun hfires htask _ hat hholds => sendsLive_frame hfires htask hat hholds.2
  reboot := id
  reboot_holds := id

/-- Whoever is about to dispatch a VM asserts that it is live. -/
theorem dispatchesLive_of_annotated {e : Event Activity} (hc : (identity.layered dispatch).Annotated discipline c γ) :
    Cell.DispatchesLive c e := by
  intro vmId hv
  unfold Cell.dispatches at hv
  split at hv
  · rename_i t n cmd hop
    replace hv : vmId ∈ cmd.creates := by
      split at hv
      · exact hv
      · cases hv
    obtain ⟨k, hmem⟩ := Machine.mem_of_nextOp hop
    obtain ⟨g, ⟨hallow, -⟩, -, hlive⟩ := hc.phases _ hmem
    cases hallow with
    | mem _ hm =>
      cases cmd with
      | createVm cmd => cases hm
      | _ => cases hv
    | dispatch hid => exact hlive vmId (hid ▸ hv)
    | replay =>
      obtain ⟨v, hv', hlive⟩ := hlive rfl _ mem_cons_self
      cases hv.symm.trans hv'
      exact hlive
  · cases hv

end Sound

/-- **No zombie dispatch.** -/
theorem no_zombie_dispatch (settings : Settings) (effectiveCpu : Int → Int) (es : List (Event Activity))
    (hal : (cell settings).Along TearsDownUnsent (Cell.start (Db.create effectiveCpu)) es) :
    (cell settings).Along Cell.DispatchesLive (Cell.start (Db.create effectiveCpu)) es := by
  have hsound := (dispatch_sound settings).sound (identity_sound settings TearsDownUnsent)
  refine Machine.along_of_invariant (J := fun c => ∃ γ, (identity.layered dispatch).Annotated discipline c γ)
    (fun ⟨_, hc⟩ hC hstep => ⟨_, Outline.annotated_step hsound hc hC hstep⟩)
    (fun ⟨_, hc⟩ _ => dispatchesLive_of_annotated hc) ⟨[], Outline.annotated_empty ?_⟩ hal
  exact ⟨identity_start effectiveCpu, forall_mem_nil _, forall_mem_nil _⟩

theorem no_zombie_dispatch_smallCell :
    (cell smallCell).Along TearsDownUnsent emptyCell machineLife ∧
    (cell smallCell).Along Cell.DispatchesLive emptyCell machineLife := by
  have hal : (cell smallCell).Along TearsDownUnsent emptyCell machineLife := by decide +kernel
  exact ⟨hal, no_zombie_dispatch smallCell id machineLife hal⟩

/-- The agent's channel closes between the outbox and the send; `create_machine` gives the machine up and
    returns, and the agent registers again, up to the first command of its replay. -/
def upToReplay : List (Event Activity) :=
  upToCluster ++ .spawn createWorker :: steps 2 19 ++ .spawn (.channelClosed 0) :: steps 3 1 ++ steps 2 11 ++
  .spawn (registerAs "h2" 200) :: steps 4 11

/-- The entry that the failed dispatch leaves behind goes out for a VM in PENDING_TEARDOWN. -/
theorem zombie_dispatched :
    Cell.dispatches (reached upToReplay) (.step 4) = some "v1" ∧
    ¬ (cell smallCell).Along Cell.DispatchesLive emptyCell (upToReplay ++ [.step 4]) := by
  decide +kernel

end BasisCell
