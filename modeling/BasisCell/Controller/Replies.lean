import BasisCell.Lib.Product
import BasisCell.Controller.Creates
import BasisCell.Controller.Outbox

/-!
# `BasisCell.Controller.Replies` — which VM a successful create names

`create_machine` answers Ok on three paths: with the row that has the name when it starts, with the row that
has the name when its own insert is rejected, and with its own row once the agent has reported it. The first
two read whatever is there. The third is told by the agent's report and reads the row one call later; a report
on a row in PENDING_TEARDOWN tells it, too.

The answer is usable in the runs in which these reads cannot see anything else: a name that
is looked up is that of a RUNNING VM, a waiter is told Ok while its row is RUNNING, and nobody takes the row
out of RUNNING between the two. `RUNNING` in the table always goes back to a report of the VM's own host.
-/

namespace BasisCell

open Conc Relational List

/-! ## Usable replies -/

/-- The report says that the VM of this row runs, in the name of the row's host. -/
def Activity.reportsRunning (r : VmRow) : Activity → Bool
  | .agentMessage hostId (.vmState report) _ =>
    hostId = r.hostId ∧ report.vmId = r.id ∧ MachineState.ofI32 report.state = .running
  | _ => false

/-- The successful reply that the event makes a `create_machine` return with. -/
def Cell.createReply (c : Cell) : Event Activity → Option Reply
  | .step i =>
    match c.tasks[i]? with
    | some ⟨.createMachine _ _ _, .call o k⟩ =>
      match k (o.exec c.shared).2 with
      | .ret (.ok reply) => some reply
      | _ => none
    | _ => none
  | _ => none

/-- The reply names a VM that its agent has reported RUNNING; its row, read by this very operation, is in no state
    in which the VM cannot be used. -/
def UsableReply (c : Cell) (e : Event Activity) : Prop :=
  ∀ reply ∈ c.createReply e, ∃ r ∈ c.shared.db.vms.rows, reply = .machine (vmToCreateResponse r) ∧
    (r.state ≠ .failed ∧ r.state ≠ .creating ∧ r.state ≠ .pendingTeardown) ∧
    ∃ t ∈ c.started, t.reportsRunning r = true

instance (c : Cell) (e : Event Activity) : Decidable (UsableReply c e) :=
  inferInstanceAs (Decidable (∀ reply ∈ c.createReply e, _))

/-! ## The condition -/

/-- The waiter of this VM has been told Ok. -/
def Shared.told (s : Shared) (vmId : VmId) : Bool :=
  match s.outcomes.lookup vmId with
  | some (.ok _) => true
  | _ => false

/-- The program is about to read a VM by its identifier. -/
def readsVm {α : Type} : Handler α → Bool
  | .call (.query (.getVm _)) _ => true
  | _ => false

/-- A create of this VM has been told Ok and has not read its row yet. -/
def Cell.unread (c : Cell) (vmId : VmId) : Bool :=
  c.tasks.any fun task => task.tag.creates = some vmId && !task.prog.finished &&
    (c.shared.told vmId || readsVm task.prog)

/-- The row of this VM is RUNNING. -/
def Db.runs (db : Db) (vmId : VmId) : Bool := db.vms.rows.any fun r => r.id = vmId ∧ r.state = .running

/-- The condition on the activity `t` and the operation it is about to run. -/
def Cell.steadyOp (c : Cell) (t : Activity) : Op → Bool
  -- a name that is looked up is that of a RUNNING VM, or of none
  | .query (.getVmByName clusterId name) =>
    (c.shared.db.getVmByName clusterId name).all fun r => r.state = .running
  -- a waiter is told Ok while its row is RUNNING
  | .mem (.pendingOpsResolve vmId (.ok _)) => (c.shared.pendingOps.lookup vmId).isNone || c.shared.db.runs vmId
  -- nobody but its own create takes a row out of RUNNING whose create is about to read it
  | .write w => c.shared.db.vms.rows.all fun r =>
    (w.sets r).all (fun state => state = .running) || t.creates = some r.id || !c.unread r.id
  | _ => true

def Cell.steady (c : Cell) (e : Event Activity) : Prop :=
  ∀ next ∈ c.nextOp e, c.steadyOp next.1 next.2 = true

instance (c : Cell) (e : Event Activity) : Decidable (c.steady e) :=
  inferInstanceAs (Decidable (∀ next ∈ c.nextOp e, _))

/-! ## The layer -/

/-- Whatever row the VM has is RUNNING. -/
def Db.OnlyRunning (db : Db) (vmId : VmId) : Prop := ∀ r ∈ db.vms.rows, r.id = vmId → r.state = .running

/-- Whatever row the VM has is on this host. -/
def Db.OnlyOn (db : Db) (vmId : VmId) (hostId : HostId) : Prop := ∀ r ∈ db.vms.rows, r.id = vmId → r.hostId = hostId

/-- A report has read the host of its VM. -/
def knowsHost (γ : List String) (db : Db) (t : Activity) : Phase → Prop
  | .looked vm => ∀ report ∈ t.report, report.vmId ∈ γ ∧ db.OnlyOn report.vmId vm.hostId
  | _ => True

/-- What a create with a row relies on. -/
def Course.Trusts (s : Shared) : Activity → Course → Prop
  | .createMachine _ vmId _, .placed _ _ => s.told vmId = true → s.db.OnlyRunning vmId
  | .createMachine _ vmId _, .joined _ => s.told vmId = true → s.db.OnlyRunning vmId
  | .createMachine _ vmId _, .awaited _ => s.db.OnlyRunning vmId
  | _, _ => True

/-- Every RUNNING row was reported, and only VMs that had a row were told. -/
structure Vouched (started : List Activity) (γ : List String) (s : Shared) : Prop where
  reported : ∀ r ∈ s.db.vms.rows, r.state = .running → ∃ t ∈ started, t.reportsRunning r = true
  told : ∀ vmId, s.told vmId = true → vmId ∈ γ

def usable : Layer Activity Shared (Phase × Course) (List String) where
  inv := Vouched
  holds := fun t g γ s => knowsHost γ s.db t g.1 ∧ g.2.Trusts s t

section Sound

variable {c : Cell} {γ : List String} {i : Nat} {t t' : Activity} {g g' : Phase × Course} {o : Op} {vmId : VmId}
variable {s : Shared} {db : Db}

/-! ### Rows -/

theorem onlyRunning_of_runs (h : db.runs vmId = true) : db.OnlyRunning vmId := by
  obtain ⟨r, hr, hsel⟩ := any_eq_true.mp h
  obtain ⟨hid, hstate⟩ := of_decide_eq_true hsel
  intro r' hr' hid'
  have hsame : r' = r := Table.eq_of_clash hr' hr (.inl (hid'.trans hid.symm))
  rw [hsame]
  exact hstate

variable {r : VmRow} {w : Write} {course : Course} {phase : Phase}
    {task : CellTask}

theorem reportsRunning_of_same {r' : VmRow} (h : r.SameVm r') (hrep : t.reportsRunning r = true) :
    t.reportsRunning r' = true := by
  unfold Activity.reportsRunning at hrep ⊢
  rw [← h.id, ← h.hostId]
  exact hrep

/-- The base of the layer, at a step. -/
abbrev UsableFires (c : Cell) (γ : List String) (i : Nat) (t : Activity) (g : Phase × Course) (o : Op) : Prop :=
  (identity.fst.layered usable).Fires (discipline.prod courses) Cell.steady c γ i t g o

theorem UsableFires.steady (hfires : UsableFires c γ i t g o) : c.steadyOp t o = true :=
  hfires.cond (t, o) hfires.op

/-- No row goes in under an identifier that was used before. -/
theorem UsableFires.insert_new (hfires : UsableFires c γ i t g o) {vm : VmRow} {gpus : List GpuAssignment}
    {disks : List DiskPlacement} (ho : o = .write (.insertVm vm gpus disks)) : vm.id ∉ γ := by
  subst ho
  have hallow : Allows t g.1 _ := hfires.allowed.1
  have hknown : IdsKnown t g.1 γ := hfires.holds.1
  generalize g.1 = phase at hallow hknown
  cases hallow with
  | insert hid =>
    apply hknown.unused rfl
    rw [hid]
    exact mem_singleton_self _

theorem onlyOn_fires {hostId : HostId} (hfires : UsableFires c γ i t g o) (hγ : vmId ∈ γ)
    (h : c.shared.db.OnlyOn vmId hostId) : (o.exec c.shared).1.db.OnlyOn vmId hostId := by
  refine o.db_elim c.shared h ?_
  rintro w rfl
  intro r' hr' hid
  obtain ⟨r, hr, hleaves⟩ | ⟨⟨gpus, disks, rfl⟩, -⟩ := Write.vms_exec hr'
  · rw [← hleaves.same.hostId]
    apply h r hr
    rw [hleaves.same.id]
    exact hid
  · have hnew := hfires.insert_new rfl
    rw [hid] at hnew
    exact absurd hγ hnew

/-- The rows of a VM stay RUNNING under a call that writes no other state to them and inserts none. -/
theorem onlyRunning_write (hsets : ∀ r ∈ db.vms.rows, r.id = vmId → ∀ state ∈ w.sets r, state = .running)
    (hinsert : ∀ vm gpus disks, w = .insertVm vm gpus disks → vm.id ≠ vmId) (h : db.OnlyRunning vmId) :
    (w.exec db).1.OnlyRunning vmId := by
  intro r' hr' hid
  obtain ⟨r, hr, hleaves⟩ | ⟨⟨gpus, disks, hw⟩, -⟩ := Write.vms_exec hr'
  · have hid' : r.id = vmId := hleaves.same.id.trans hid
    rw [hleaves.state]
    cases hset : w.sets r with
    | none => exact h r hr hid'
    | some state => exact hsets r hr hid' state hset
  · exact absurd hid (hinsert r' gpus disks hw)

/-! ### Waiters -/

/-- Only `pending_ops.remove` with a waiter there tells anyone. -/
theorem told_exec (h : (o.exec s).1.told vmId = true) : s.told vmId = true ∨
    (∃ u, o = .mem (.pendingOpsResolve vmId (.ok u))) ∧ (s.pendingOps.lookup vmId).isSome = true := by
  cases o with
  | query q | write w => exact .inl h
  | mem m =>
    cases m with
    | pendingOpsResolve id result =>
      change ((MemOp.pendingOpsResolve id result).exec s).1.told vmId = true at h
      simp only [MemOp.exec] at h
      split at h
      · rename_i hostId hwait
        by_cases hid : vmId = id
        · subst hid
          cases result with
          | ok u => exact .inr ⟨⟨u, rfl⟩, by rw [hwait]; rfl⟩
          | error e =>
            simp only [Shared.told, lookup_cons_self] at h
            cases h
        · left
          have hne : (vmId == id) = false := beq_false_of_ne hid
          simp only [Shared.told, lookup_cons, hne] at h
          exact h
      · exact .inl h
    | agentsRemoveIf hostId epoch =>
      left
      change ((MemOp.agentsRemoveIf hostId epoch).exec s).1.told vmId = true at h
      simp only [MemOp.exec] at h
      split at h <;> exact h
    | send channel cmd =>
      left
      change ((MemOp.send channel cmd).exec s).1.told vmId = true at h
      simp only [MemOp.exec] at h
      split at h <;> exact h
    | awaitOutcome id =>
      left
      change ((MemOp.awaitOutcome id).exec s).1.told vmId = true at h
      simp only [MemOp.exec] at h
      split at h <;> exact h
    | _ => exact .inl h

/-- Who is told Ok has a RUNNING row. -/
theorem runs_of_told (hsteady : c.steadyOp t o = true) (hbefore : c.shared.told vmId = false)
    (h : (o.exec c.shared).1.told vmId = true) :
    c.shared.db.runs vmId = true ∧ (o.exec c.shared).1.db = c.shared.db := by
  rcases told_exec h with htold | ⟨⟨u, rfl⟩, hwait⟩
  · rw [hbefore] at htold
    cases htold
  · simp only [Cell.steadyOp, Option.isNone_iff_eq_none, Bool.or_eq_true] at hsteady
    refine ⟨hsteady.resolve_left fun hnone => ?_, Op.exec_mem_db _ _⟩
    rw [hnone] at hwait
    cases hwait

/-- **What a waiting create relies on survives a step** that takes no row of its VM out of RUNNING. -/
theorem trusts_told (vmId : VmId) (hsteady : c.steadyOp t o = true)
    (hwrite : ∀ w, o = .write w → c.shared.told vmId = true → c.shared.db.OnlyRunning vmId →
      (w.exec c.shared.db).1.OnlyRunning vmId)
    (h : c.shared.told vmId = true → c.shared.db.OnlyRunning vmId) :
    (o.exec c.shared).1.told vmId = true → (o.exec c.shared).1.db.OnlyRunning vmId := by
  intro htold
  cases hbefore : c.shared.told vmId with
  | false =>
    obtain ⟨hruns, hdb⟩ := runs_of_told hsteady hbefore htold
    rw [hdb]
    exact onlyRunning_of_runs hruns
  | true =>
    refine o.db_elim c.shared (h hbefore) ?_
    rintro w rfl
    exact hwrite w rfl hbefore (h hbefore)

/-- A call that a course takes no notice of writes no state and inserts no VM. -/
theorem onlyRunning_unnoticed (hcourse : course ≠ .free)
    (hun : course.notices (.write w) = false) (h : db.OnlyRunning vmId) : (w.exec db).1.OnlyRunning vmId := by
  refine onlyRunning_write (fun r _ _ state hstate => ?_) (fun vm gpus disks hw => ?_) h
  · cases w with
    | updateVmState | markVmPendingTeardown | markVmsFailedOnHost =>
      cases course <;> first | exact absurd rfl hcourse | cases hun
    | _ => cases hstate
  · subst hw
    cases course <;> cases hun

/-- **A create's own step.** -/
theorem trusts_exec (hfires : UsableFires c γ i t g o) :
    (g.2.next o (o.exec c.shared).2).Trusts (o.exec c.shared).1 t := by
  have hallow : Proceeds t g.2 o := hfires.allowed.2
  have hholds : g.2.Trusts c.shared t := hfires.holds.2.2
  have hsteady := hfires.steady
  generalize g.2 = course at hallow hholds
  cases hallow with
  | aside hun =>
    rw [Course.next_of_unnoticed hun]
    cases t with
    | createMachine req vmId picks =>
      cases course with
      | placed k vm | joined vm =>
        refine trusts_told _ hsteady (fun w hw _ hrun => ?_) hholds
        subst hw
        exact onlyRunning_unnoticed (by rintro ⟨⟩) hun hrun
      | awaited vm => cases hun
      | _ => trivial
    | _ => trivial
  | @insert req vmId picks k vm gpus disks hid =>
    rw [Op.exec_write_resp]
    cases ((Write.insertVm vm gpus disks).exec c.shared.db).2 with
    | error e => trivial
    | ok u =>
      -- nobody can have been told about a VM whose row was not in
      intro htold
      have hused : vmId ∈ γ := hfires.inv.2.told vmId htold
      have hnew := hfires.insert_new rfl
      rw [hid] at hnew
      exact absurd hused hnew
  | @join req vmId picks cluster vm =>
    have hkept := trusts_told vmId hsteady (fun w hw _ hrun => by
      cases hw
      apply onlyRunning_write _ _ hrun
      · intro r _ _ state hstate
        cases hstate
      · rintro _ _ _ ⟨⟩) hholds
    rw [Op.exec_write_resp]
    cases ((Write.ensureHostClusterActive cluster vm.hostId).exec c.shared.db).2 with
    | error e | ok ip => exact hkept
  | @await req vmId picks vm =>
    have hkept := trusts_told vmId hsteady (fun w hw _ _ => by cases hw) hholds
    cases hresp : ((Op.mem (.awaitOutcome vmId)).exec c.shared).2 with
    | resolved result =>
      cases result with
      | error e => exact hkept
      | ok u =>
        show ((Op.mem (.awaitOutcome vmId)).exec c.shared).1.db.OnlyRunning vmId
        rw [Op.exec_mem_db]
        apply hholds
        change ((MemOp.awaitOutcome vmId).exec c.shared).2 = _ at hresp
        simp only [MemOp.exec] at hresp
        split at hresp
        · rename_i result hlookup
          cases hresp
          simp only [Shared.told, hlookup]
        · split at hresp <;> cases hresp
    | recvError | elapsed => exact hkept
  | @find req vmId picks =>
    generalize ((Op.query (.getCluster req.clusterId)).exec c.shared).2 = r
    cases r <;> trivial
  | @look req vmId picks k =>
    generalize ((Op.query (.getVmByName req.clusterId req.name)).exec c.shared).2 = r
    cases r <;> trivial
  | @address req vmId picks k cluster =>
    generalize ((Op.write (.allocateClusterVmIp cluster vmId)).exec c.shared).2 = r
    cases r <;> trivial
  | @read req vmId picks vm =>
    generalize ((Op.query (.getVm vmId)).exec c.shared).2 = r
    cases r <;> trivial
  | _ => trivial

/-- Its row is in, and it has not given up. -/
def Course.midway : Course → Bool
  | placed _ _ => true
  | joined _ => true
  | awaited _ => true
  | _ => false

/-- A create does not return midway. -/
theorem unfinished_of_midway {req : CreateMachineRequest} {picks : Picks}
    {prog : Handler (Except Status Reply)}
    (hat : (discipline.prod courses).At ⟨.createMachine req vmId picks, prog⟩ (phase, course))
    (hmid : course.midway = true) : prog.finished = false := by
  cases prog with
  | call o' k' => rfl
  | ret a =>
    have harrives : (Activity.createMachine req vmId picks).arrives course a := hat.2
    cases a with
    | ok reply =>
      obtain ⟨vm, rfl, -⟩ := harrives
      cases hmid
    | error status =>
      rcases harrives with rfl | ⟨k, rfl⟩ | rfl
      · cases hmid
      · cases hmid
      · cases hmid

/-- A create that was told, or is about to read its row, has not read it. -/
theorem unread_of_task (htask : task ∈ c.tasks)
    (hcreates : task.tag.creates = some vmId) (hrunning : task.prog.finished = false)
    (hwaits : c.shared.told vmId = true ∨ readsVm task.prog = true) : c.unread vmId = true := by
  refine any_eq_true.mpr ⟨task, htask, ?_⟩
  rw [Bool.and_eq_true, Bool.and_eq_true, Bool.or_eq_true]
  refine ⟨⟨decide_eq_true hcreates, ?_⟩, hwaits⟩
  rw [hrunning]
  rfl

/-- Another activity takes no row out of RUNNING whose create has been told. -/
theorem onlyRunning_beside (hfires : UsableFires c γ i t g o) (hapart : vmId ∉ t.mints)
    (hunread : c.unread vmId = true) (hw : o = .write w) (h : c.shared.db.OnlyRunning vmId) :
    (w.exec c.shared.db).1.OnlyRunning vmId := by
  subst hw
  apply onlyRunning_write _ _ h
  · intro r hr hid state hstate
    have hsteady := all_eq_true.mp hfires.steady r hr
    rw [Bool.or_eq_true, Bool.or_eq_true, hid, hunread] at hsteady
    rcases hsteady with (hall | hown) | hread
    · rw [hstate] at hall
      exact of_decide_eq_true hall
    · -- its own create minted it
      refine absurd ?_ hapart
      have hown' := of_decide_eq_true hown
      cases t with
      | createMachine req id picks =>
        cases hown'
        exact mem_singleton_self _
      | _ => cases hown'
    · cases hread
  · intro vm gpus disks hw hid
    subst hw
    have hallow : Allows t g.1 _ := hfires.allowed.1
    generalize g.1 = phase at hallow
    cases hallow with
    | insert hvm =>
      apply hapart
      rw [← hid, hvm]
      exact mem_singleton_self _

/-- **What a create relies on survives the steps of the others.** -/
theorem trusts_frame (hfires : UsableFires c γ i t g o)
    (htask : task ∈ c.tasks.eraseIdx i) (hapart : t.Apart task.tag) (hat : (discipline.prod courses).At task g')
    (h : g'.2.Trusts c.shared task.tag) : g'.2.Trusts (o.exec c.shared).1 task.tag := by
  have hmem : task ∈ c.tasks := mem_of_mem_eraseIdx htask
  obtain ⟨tag, prog⟩ := task
  obtain ⟨phase, course⟩ := g'
  cases tag with
  | createMachine req vmId picks =>
    have hnot : vmId ∉ t.mints := fun hmint => hapart vmId hmint (mem_singleton_self _)
    cases course with
    | placed _ _ | joined _ =>
      have hfinished := unfinished_of_midway hat rfl
      refine trusts_told _ hfires.steady (fun w hw htold hrun => ?_) h
      exact onlyRunning_beside hfires hnot (unread_of_task hmem rfl hfinished (.inl htold)) hw hrun
    | awaited vm =>
      have hfinished := unfinished_of_midway hat rfl
      have hreads : readsVm prog = true := by
        cases prog with
        | ret a => cases hfinished
        | call o' k' =>
          have hallow : Proceeds (.createMachine req vmId picks) (.awaited vm) o' := hat.1.2
          cases hallow with
          | aside hun => cases hun
          | read => rfl
      have hunread := unread_of_task hmem rfl hfinished (.inr hreads)
      cases o with
      | query q => exact h
      | mem m =>
        show ((Op.mem m).exec c.shared).1.db.OnlyRunning vmId
        rw [Op.exec_mem_db]
        exact h
      | write w => exact onlyRunning_beside hfires hnot hunread rfl h
    | _ => trivial
  | _ => trivial

/-! ### Reports -/

theorem knowsHost_fires (hfires : UsableFires c γ i t g o) (h : knowsHost γ c.shared.db t' phase) :
    knowsHost (noteInsert γ o (o.exec c.shared).2) (o.exec c.shared).1.db t' phase := by
  cases phase with
  | looked vm =>
    intro report hreport
    obtain ⟨hγ, hon⟩ := h report hreport
    exact ⟨subset_noteInsert hγ, onlyOn_fires hfires hγ hon⟩
  | _ => trivial

theorem knowsHost_exec (hfires : UsableFires c γ i t g o) :
    knowsHost (noteInsert γ o (o.exec c.shared).2) (o.exec c.shared).1.db t (t.next g.1 o (o.exec c.shared).2) := by
  have hallow : Allows t g.1 o := hfires.allowed.1
  have hholds : knowsHost γ c.shared.db t g.1 := hfires.holds.2.1
  have hmoves := next_moves t g.1 o (o.exec c.shared).2
  generalize hr : (o.exec c.shared).2 = r at hmoves
  generalize t.next g.1 o r = phase' at hmoves
  generalize g.1 = phase at hmoves hallow hholds
  cases hmoves with
  | stay =>
    rw [← hr]
    exact knowsHost_fires hfires hholds
  | looked =>
    -- a report reads the row of its own VM
    obtain ⟨hmem, hid⟩ := Db.getVm_ok hr
    intro report hreport
    cases hallow with
    | query _ hq =>
      have hid' := reads_of_report hreport hq
      refine ⟨?_, fun r' hr' hid'' => ?_⟩
      · rw [← hid', ← hid]
        exact hfires.inv.1.vms _ hmem
      · have hsame := Table.eq_of_clash hr' hmem (.inl (hid''.trans (hid'.symm.trans hid.symm)))
        rw [hsame]
  | _ => trivial

/-- The only call that writes RUNNING is `update_vm_state`. -/
theorem Write.sets_running (h : w.sets r = some .running) :
    ∃ message, w = .updateVmState r.id .running message := by
  cases w with
  | updateVmState id state message =>
    simp only [Write.sets] at h
    split at h <;> cases h
    rename_i hid
    exact ⟨message, by rw [hid]⟩
  | markVmsFailedOnHost hostId reason | markVmPendingTeardown id =>
    simp only [Write.sets] at h
    split at h <;> cases h
  | _ => cases h

/-- RUNNING is written by the report of the row's host only. -/
theorem reportsRunning_of_sets (hfires : UsableFires c γ i t g (.write w))
    (hr : r ∈ c.shared.db.vms.rows) (hset : w.sets r = some .running) : t.reportsRunning r = true := by
  obtain ⟨message, rfl⟩ := Write.sets_running hset
  have hallow : Allows t g.1 (.write (.updateVmState r.id .running message)) := hfires.allowed.1
  have hholds : knowsHost γ c.shared.db t g.1 := hfires.holds.2.1
  generalize hid : r.id = id at hallow
  generalize hstate : MachineState.running = state at hallow
  generalize g.1 = phase at hallow hholds
  cases hallow with
  | @writeState hostId report now vm hhost =>
    obtain ⟨-, hon⟩ := hholds report rfl
    refine decide_eq_true ⟨?_, hid.symm, hstate.symm⟩
    rw [hon r hr hid]
    exact hhost.symm
  | timeOut => cases hstate

theorem vouched_exec (hfires : UsableFires c γ i t g o) :
    Vouched c.started (noteInsert γ o (o.exec c.shared).2) (o.exec c.shared).1 where
  reported := by
    intro r' hr' hstate
    have hinv : Vouched c.started γ c.shared := hfires.inv.2
    revert hr'
    refine o.db_elim c.shared (fun hr' => hinv.reported r' hr' hstate) ?_
    rintro w rfl hr'
    obtain ⟨r, hr, hleaves⟩ | ⟨⟨gpus, disks, rfl⟩, -⟩ := Write.vms_exec hr'
    · have hafter := hleaves.state
      cases hset : w.sets r with
      | none =>
        rw [hset, hstate] at hafter
        obtain ⟨report, hmem, hrep⟩ := hinv.reported r hr hafter.symm
        exact ⟨report, hmem, reportsRunning_of_same hleaves.same hrep⟩
      | some state =>
        rw [hset, hstate] at hafter
        have hrun : w.sets r = some .running := hset.trans (congrArg some hafter.symm)
        exact ⟨t, hfires.known, reportsRunning_of_same hleaves.same (reportsRunning_of_sets hfires hr hrun)⟩
    · -- a new row is CREATING
      have hallow : Allows t g.1 _ := hfires.allowed.1
      generalize g.1 = phase at hallow
      cases hallow with
      | insert _ hcreating =>
        rw [hstate] at hcreating
        cases hcreating
  told := by
    intro vmId htold
    cases hbefore : c.shared.told vmId with
    | true => exact subset_noteInsert (hfires.inv.2.told vmId hbefore)
    | false =>
      obtain ⟨hruns, -⟩ := runs_of_told hfires.steady hbefore htold
      obtain ⟨r, hr, hsel⟩ := any_eq_true.mp hruns
      apply subset_noteInsert
      rw [← (of_decide_eq_true hsel).1]
      exact hfires.inv.1.vms r hr

end Sound

theorem usable_sound (settings : Settings) :
    usable.SoundOver identity.fst (discipline.prod courses) (cell settings) Cell.steady where
  spawn := by
    intro started γ s t _ hinv
    refine ⟨⟨fun r hr hstate => ?_, hinv.2.told⟩, trivial, ?_⟩
    · obtain ⟨report, hmem, hrep⟩ := hinv.2.reported r hr hstate
      exact ⟨report, mem_cons_of_mem _ hmem, hrep⟩
    · cases t <;> trivial
  exec := fun hfires => ⟨vouched_exec hfires, knowsHost_exec hfires, trusts_exec hfires⟩
  frame := fun hfires htask hapart hat hholds =>
    ⟨knowsHost_fires hfires hholds.2.1, trusts_frame hfires htask hapart hat hholds.2.2⟩
  reboot := by
    intro started γ s h
    refine ⟨h.reported, fun vmId htold => ?_⟩
    cases htold
  reboot_holds := by
    intro t g γ s h
    refine ⟨h.1, ?_⟩
    have htrusts := h.2
    generalize g.2 = course at htrusts
    cases t with
    | createMachine req vmId picks =>
      cases course with
      | placed k vm | joined vm =>
        intro htold
        cases htold
      | awaited vm => exact htrusts
      | _ => trivial
    | _ => trivial

/-! ## Every run -/

/-- The annotation makes the reply usable at the event that makes a create return. -/
theorem usableReply_of_annotated {c : Cell} {γ : List String} {e : Event Activity}
    (h : (identity.fst.layered usable).Annotated (discipline.prod courses) c γ) (hcond : c.steady e) :
    UsableReply c e := by
  intro reply hreply
  unfold Cell.createReply at hreply
  split at hreply
  swap
  · cases hreply
  rename_i i
  split at hreply
  swap
  · cases hreply
  rename_i req vmId picks o k htask
  split at hreply
  swap
  · cases hreply
  rename_i reply' hret
  cases hreply
  have hsteady : c.steadyOp (.createMachine req vmId picks) o = true :=
    hcond (_, o) (Machine.nextOp_of_getElem? htask)
  obtain ⟨⟨phase, course⟩, ⟨⟨-, hproceeds⟩, hcont⟩, -, -, htrusts⟩ := h.phases _ (mem_of_getElem? htask)
  -- a create that returns Ok is where its last read has taken it
  have harrives := hcont (o.exec c.shared).2
  rw [hret] at harrives
  obtain ⟨-, vm, hanswered, rfl⟩ := harrives
  change course.next o (o.exec c.shared).2 = .answered vm at hanswered
  -- both reads are of a row that is in the table, and RUNNING
  have hrow : vm ∈ c.shared.db.vms.rows ∧ vm.state = .running := by
    generalize hr : (o.exec c.shared).2 = r at hanswered
    unfold Course.next at hanswered
    split at hanswered <;> cases hanswered
    · rename_i clusterId name
      have hread : c.shared.db.getVmByName clusterId name = some vm := hr
      refine ⟨mem_of_find?_eq_some hread, ?_⟩
      simp only [Cell.steadyOp, hread] at hsteady
      exact of_decide_eq_true hsteady
    · obtain ⟨hmem, hid⟩ := Db.getVm_ok hr
      refine ⟨hmem, ?_⟩
      cases hproceeds with
      | aside hun => cases hun
      | read => exact htrusts vm hmem hid
    · cases hproceeds with
      | aside hun => cases hun
  obtain ⟨report, hmem, hrep⟩ := h.inv.2.reported vm hrow.1 hrow.2
  refine ⟨vm, hrow.1, rfl, ?_, report, hmem, hrep⟩
  rw [hrow.2]
  exact ⟨by rintro ⟨⟩, by rintro ⟨⟩, by rintro ⟨⟩⟩

/-- **A successful `CreateMachine` names a usable VM** in every run in which its reads find RUNNING rows. -/
theorem create_reply_usable (settings : Settings) (effectiveCpu : Int → Int) (es : List (Event Activity))
    (hal : (cell settings).Along Cell.steady (Cell.start (Db.create effectiveCpu)) es) :
    (cell settings).Along UsableReply (Cell.start (Db.create effectiveCpu)) es := by
  have hsound : (identity.fst.layered usable).Sound (discipline.prod courses) (cell settings) Cell.steady :=
    (usable_sound settings).sound ((identity_sound settings Cell.steady).fst (courses_govern settings))
  have hstart : (identity.fst.layered usable).Annotated (discipline.prod courses)
      (Cell.start (Db.create effectiveCpu)) [] := by
    apply Outline.annotated_empty
    refine ⟨identity_start effectiveCpu, fun r hr => ?_, fun vmId htold => ?_⟩
    · exact absurd hr not_mem_nil
    · cases htold
  refine Machine.along_of_invariant
    (J := fun c => ∃ γ, (identity.fst.layered usable).Annotated (discipline.prod courses) c γ) ?_ ?_ ⟨[], hstart⟩ hal
  · rintro c e c' ⟨γ, hc⟩ hcond hstep
    exact ⟨_, Outline.annotated_step hsound hc hcond hstep⟩
  · rintro c e ⟨γ, hc⟩ hcond
    exact usableReply_of_annotated hc hcond

/-- A machine is created, reported and answered, and asked for again. -/
def createdTwice : List (Event Activity) :=
  upToWaiting ++ .spawn (reportRunning "v1") :: steps 3 5 ++ steps 2 2 ++
  .spawn (createWorkerAs "worker" "v2") :: steps 4 2

theorem create_reply_usable_smallCell :
    ((cell smallCell).run emptyCell createdTwice).isSome = true ∧
      (cell smallCell).Along UsableReply emptyCell createdTwice :=
  ⟨by decide +kernel, create_reply_usable smallCell id createdTwice (by decide +kernel)⟩

/-- A second call for the name comes in while the first one still waits for the agent. -/
def askedTooEarly : List (Event Activity) := upToWaiting ++ .spawn (createWorkerAs "worker" "v2") :: steps 3 1

/-- It is answered Ok, with a row in CREATING that no agent has reported. -/
theorem create_reply_unusable : ∃ c : Cell, (cell smallCell).run emptyCell askedTooEarly = some c ∧
    (c.createReply (.step 3)).isSome = true ∧ ¬UsableReply c (.step 3) := by
  refine ⟨_, run_reached _ (by decide +kernel), ?_, ?_⟩
  · decide +kernel
  · decide +kernel

end BasisCell
