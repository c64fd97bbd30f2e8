import BasisCell.Controller.Identity

/-!
# `BasisCell.Controller.Outbox` — a VM being created is on its way to its agent

`create_machine` commits the VM's row, then the command to create it, then puts the command on the agent's
channel. Between these calls the process may crash or the RPC be cancelled. What must not happen is a row in
CREATING that nobody works on: either the outbox has the command, or the handler is still there.

* `durable_dispatch`: this holds in every reachable state, and every registration sends all that the outbox
  has for its host, provided that handlers are not lost before they have filled the outbox, that a registration
  finds no entry marked `sent`, and that no agent reports a finished VM as CREATING.
* `dispatch_lost`: a crash in between leaves such a row, and an entry that went out on a lost stream is marked
  `sent` and never listed again.
-/

namespace BasisCell

open Conc Relational Table List

/-- The VM that a command creates. -/
def ControllerCommand.creates : ControllerCommand → Option VmId
  | createVm cmd => some cmd.vmId
  | _ => none

/-- The VM that an activity creates. -/
def Activity.creates : Activity → Option VmId
  | createMachine _ vmId _ => some vmId
  | _ => none

/-- The outbox has a command to create this VM. -/
def Db.Queued (db : Db) (vmId : VmId) : Prop :=
  ∃ p ∈ db.pendingCommands.rows, p.vmId = vmId ∧ p.payload.creates = some vmId

instance (db : Db) (vmId : VmId) : Decidable (db.Queued vmId) :=
  inferInstanceAs (Decidable (∃ p ∈ db.pendingCommands.rows, _))

/-- Every VM in CREATING is in the outbox, or its `create_machine` is still running. -/
def Cell.Dispatched (c : Cell) : Prop :=
  ∀ r ∈ c.shared.db.vms.rows, r.state = .creating → c.shared.db.Queued r.id ∨
    ∃ task ∈ c.tasks, task.tag.creates = some r.id ∧ task.prog.finished = false

instance (c : Cell) : Decidable (Cell.Dispatched c) :=
  inferInstanceAs (Decidable (∀ r ∈ c.shared.db.vms.rows, _))

/-! ## The condition on a run -/

def Op.durable (db : Db) : Op → Bool
  | .query (.listPendingCommands hostId) => ∀ p ∈ db.pendingCommands.rows, p.hostId = hostId → p.state = .pending
  | .write (.updateVmState vmId .creating _) => ∀ r ∈ db.vms.rows, r.id = vmId → r.state = .creating
  | _ => true

/-- The activity is not between the commit of its VM's row and that of the command. -/
def Db.Expendable (db : Db) (t : Activity) : Prop :=
  ∀ r ∈ db.vms.rows, r.state = .creating → t.creates = some r.id → db.Queued r.id

instance (db : Db) (t : Activity) : Decidable (db.Expendable t) :=
  inferInstanceAs (Decidable (∀ r ∈ db.vms.rows, _))

/-- Handlers are lost only once the outbox has their command, a registration reads an outbox without entries
    marked `sent`, and CREATING is written only to rows that are in it. -/
def Durable (c : Cell) : Event Activity → Prop
  | .drop i => ∀ task ∈ c.tasks[i]?, c.shared.db.Expendable task.tag
  | .crash => ∀ task ∈ c.tasks, c.shared.db.Expendable task.tag
  | e => ∀ x ∈ c.nextOp e, x.2.durable c.shared.db = true

instance (c : Cell) : (e : Event Activity) → Decidable (Durable c e)
  | .spawn _ | .step _ | .drop _ | .crash => by dsimp only [Durable]; infer_instance

/-! ## One call -/

section Call

variable {db : Db} {w : Write} {vmId : VmId}

/-- A row in CREATING was in it before the call, or is the one just inserted. -/
theorem creating_exec {r' : VmRow} (hw : (Op.write w).durable db = true) (h : r' ∈ (w.exec db).1.vms.rows)
    (hstate : r'.state = .creating) :
    (∃ r ∈ db.vms.rows, w.Leaves r r' ∧ r.state = .creating) ∨
      (∃ gpus disks, w = .insertVm r' gpus disks) ∧ ∃ u, (w.exec db).2 = .ok u := by
  refine (Write.vms_exec h).imp_left fun ⟨r, hr, hleaves⟩ => ⟨r, hr, hleaves, ?_⟩
  have hsets := hleaves.state.symm.trans hstate
  cases w with
  | markVmsFailedOnHost hostId reason | markVmPendingTeardown v =>
    rw [Write.sets] at hsets
    split at hsets
    · cases hsets
    · exact hsets
  | updateVmState v state message =>
    rw [Write.sets] at hsets
    split at hsets
    · cases hsets
      exact of_decide_eq_true hw r hr ‹_›
    · exact hsets
  | _ => exact hsets

/-- A command stays in the outbox until its VM is acknowledged. -/
theorem Db.Queued.exec (h : db.Queued vmId) : (w.exec db).1.Queued vmId ∨ w = .ackPendingCommandsForVm vmId := by
  obtain ⟨p, hp, hvm, hpay⟩ := h
  obtain ⟨sel, hrows⟩ | ⟨hostId, v, cmd, id, -, hrows⟩ | ⟨v, rfl, hdel⟩ := w.pendingCommands_cases db
  · refine .inl ⟨_, hrows ▸ mem_map.mpr ⟨p, hp, rfl⟩, ?_⟩
    split <;> exact ⟨hvm, hpay⟩
  · exact .inl ⟨p, hrows ▸ mem_append_left _ hp, hvm, hpay⟩
  · by_cases hv : v = vmId
    · exact .inr (hv ▸ rfl)
    · refine .inl ⟨p, ?_, hvm, hpay⟩
      rw [hdel]
      exact mem_delete.mpr ⟨hp, decide_eq_false fun h => hv (h.symm.trans hvm)⟩

end Call

/-! ## Reports

The outbox entries of a VM are dropped by a report that has put its row in a terminal state, or has read it
in PENDING_TEARDOWN. By the time they are dropped other activities have run; but a VM that has left CREATING
does not come back to it. -/

/-- The VM's row is not in CREATING. -/
def Db.LeftCreating (db : Db) (vmId : VmId) : Prop := ∀ r ∈ db.vms.rows, r.id = vmId → r.state ≠ .creating

/-- The state report that an activity handles. -/
def Activity.report : Activity → Option ReportVmStateRequest
  | agentMessage _ (.vmState report) _ => some report
  | _ => none

/-- What a state report knows of its VM. -/
def knowsReported (γ : List String) (db : Db) (t : Activity) : Phase → Prop
  | .looked vm => ∀ report ∈ t.report,
    report.vmId ∈ γ ∧ (vm.state = .pendingTeardown → db.LeftCreating report.vmId)
  | .reported => ∀ report ∈ t.report, report.vmId ∈ γ ∧
    (MachineState.ofI32 report.state = .running ∨ MachineState.ofI32 report.state = .failed →
      db.LeftCreating report.vmId)
  | _ => True

/-- The channel of a registration. -/
def Phase.channel : Phase → Option Nat
  | opened channel => some channel
  | reaping channel _ => some channel
  | replaying channel _ _ => some channel
  | broken channel => some channel
  | _ => none

def outbox : Layer Activity Shared Phase (List String) where
  inv := fun _ _ _ => True
  holds := fun t g γ s => knowsReported γ s.db t g ∧ ∀ n ∈ g.channel, ∃ channel, s.channels[n]? = some channel

section Sound

variable {c : Cell} {γ : List String} {i : Nat} {t t' : Activity} {g g' : Phase} {o : Op} {vmId : VmId} {s : Shared}

/-- A VM that has left CREATING does not come back: its row is not inserted twice. -/
theorem leftCreating_fires (hfires : identity.Fires discipline Durable c γ i t g o) (hγ : vmId ∈ γ)
    (h : c.shared.db.LeftCreating vmId) : (o.exec c.shared).1.db.LeftCreating vmId := by
  refine o.db_elim c.shared ‹_› ?_
  rintro w rfl
  intro r' hr' hid hstate
  rcases creating_exec (hfires.cond _ hfires.op) hr' hstate with ⟨r, hr, hleaves, hcreating⟩ | ⟨⟨_, _, rfl⟩, -⟩
  · exact h r hr (hleaves.same.id.trans hid) hcreating
  · have hknown := hfires.holds
    cases hfires.allowed with
    | insert hvm => exact hknown.unused rfl _ (mem_singleton_self _) (hvm ▸ hid ▸ hγ)

theorem knowsReported_fires (hfires : identity.Fires discipline Durable c γ i t g o)
    (h : knowsReported γ c.shared.db t' g') :
    knowsReported (noteInsert γ o (o.exec c.shared).2) (o.exec c.shared).1.db t' g' := by
  cases g' with
  | looked vm | reported =>
    intro report hreport
    obtain ⟨hγ, hleft⟩ := h report hreport
    exact ⟨subset_noteInsert hγ, fun hstate => leftCreating_fires hfires hγ (hleft hstate)⟩
  | _ => trivial

theorem reads_of_report {report : ReportVmStateRequest} {id : VmId} (hreport : report ∈ t.report)
    (hq : t.reads g (.getVm id) = true) : id = report.vmId := by
  cases t with
  | agentMessage hostId msg now =>
    cases msg with
    | vmState r =>
      cases hreport
      exact of_decide_eq_true hq
    | _ => cases hreport
  | _ => cases hreport

/-- What an activity asserts after its own step. -/
theorem knowsReported_exec (hfires : (identity.layered outbox).Fires discipline Durable c γ i t g o) :
    knowsReported (noteInsert γ o (o.exec c.shared).2) (o.exec c.shared).1.db t
      (t.next g o (o.exec c.shared).2) := by
  have hmoves := next_moves t g o (o.exec c.shared).2
  generalize hr : (o.exec c.shared).2 = r at hmoves
  generalize hnext : t.next g o r = g' at hmoves
  cases hmoves with
  | stay => exact hr ▸ knowsReported_fires (Layer.base_fires hfires) hfires.holds.2.1
  | looked =>
    -- a report reads the row of its own VM
    obtain ⟨hmem, hid⟩ := Db.getVm_ok hr
    intro report hreport
    cases hfires.allowed with
    | query _ hq =>
      cases reads_of_report hreport hq
      refine ⟨hid ▸ hfires.inv.1.vms _ hmem, fun hstate r' hr' hid' hcreating => ?_⟩
      rw [eq_of_clash hr' hmem (.inl (hid'.trans hid.symm)), hstate] at hcreating
      cases hcreating
  | reported =>
    have hholds := hfires.holds.2.1
    cases hfires.allowed with
    | writeState =>
      intro report hreport
      cases hreport
      refine ⟨(hholds _ rfl).1, fun hterminal r' hr' hid' hcreating => ?_⟩
      rcases Write.vms_exec hr' with ⟨r, hmem, hleaves⟩ | ⟨⟨_, _, h⟩, -⟩
      · rw [hleaves.state, Write.sets, if_pos (hleaves.same.id.trans hid')] at hcreating
        rcases hterminal with h | h <;> cases h.symm.trans hcreating
      · cases h
  | _ => trivial

end Sound

/-! ## Channels -/

/-- What later states keep of the channels: their number, what was sent on them, and that they are closed. -/
def Shared.ExtendedBy (s s' : Shared) : Prop :=
  ∀ (n : Nat) (channel : Channel), s.channels[n]? = some channel → ∃ channel', s'.channels[n]? = some channel' ∧
    (∀ cmd ∈ channel.sent, cmd ∈ channel'.sent) ∧ (channel.closed = true → channel'.closed = true)

theorem Shared.ExtendedBy.of_eq {s s' : Shared} (h : s'.channels = s.channels) : s.ExtendedBy s' :=
  fun _ channel hch => ⟨channel, h ▸ hch, fun _ hcmd => hcmd, id⟩

theorem extendedBy_modify {s s' : Shared} {n : Nat} {f : Channel → Channel}
    (h : s'.channels = s.channels.modify n f)
    (hf : ∀ ch, (∀ cmd ∈ ch.sent, cmd ∈ (f ch).sent) ∧ (ch.closed = true → (f ch).closed = true)) :
    s.ExtendedBy s' := by
  intro m channel hch
  rw [h, List.getElem?_modify]
  by_cases hm : n = m
  · exact ⟨f channel, by simp [hm, hch], (hf channel).1, (hf channel).2⟩
  · exact ⟨channel, by simp [hm, hch], fun _ hcmd => hcmd, id⟩

/-- **No operation takes anything back from a channel.** -/
theorem extendedBy_exec (o : Op) (s : Shared) : s.ExtendedBy (o.exec s).1 := by
  cases o with
  | query q | write w => exact .of_eq rfl
  | mem m =>
    show s.ExtendedBy (m.exec s).1
    cases m with
    | channelOpen =>
      intro n channel hch
      refine ⟨channel, ?_, fun _ hcmd => hcmd, id⟩
      obtain ⟨hlt, -⟩ := List.getElem?_eq_some_iff.mp hch
      exact (List.getElem?_append_left hlt).trans hch
    | channelClose n => exact extendedBy_modify rfl fun ch => ⟨fun _ hcmd => hcmd, fun _ => rfl⟩
    | send n cmd =>
      simp only [MemOp.exec]
      split
      · exact extendedBy_modify rfl fun ch => ⟨fun _ hcmd => mem_append_left _ hcmd, id⟩
      · exact .of_eq rfl
    | agentsRemoveIf hostId epoch | pendingOpsResolve vmId result | awaitOutcome vmId =>
      simp only [MemOp.exec]
      split <;> exact .of_eq rfl
    | _ => exact .of_eq rfl

theorem extendedBy_restart (s : Shared) : s.ExtendedBy s.restart := by
  intro n channel hch
  refine ⟨{ channel with closed := true }, ?_, fun _ hcmd => hcmd, fun _ => rfl⟩
  show (s.channels.map _)[n]? = _
  rw [List.getElem?_map, hch]
  rfl

section Sound

variable {c c' : Cell} {γ : List String} {i : Nat} {t t' : Activity} {g : Phase} {o : Op} {s s' : Shared}
variable {settings : Settings}

variable {n : Nat} {r : VmRow}

theorem Shared.ExtendedBy.exists (h : s.ExtendedBy s') (hn : ∃ channel, s.channels[n]? = some channel) :
    ∃ channel, s'.channels[n]? = some channel := by
  obtain ⟨channel, hch⟩ := hn
  obtain ⟨channel', hch', -⟩ := h n channel hch
  exact ⟨channel', hch'⟩

/-- The channel of a registration is one it has opened. -/
theorem channel_exec (h : ∀ n ∈ g.channel, ∃ channel, s.channels[n]? = some channel)
    (hn : n ∈ (t.next g o (o.exec s).2).channel) : ∃ channel, (o.exec s).1.channels[n]? = some channel := by
  have hmoves := next_moves t g o (o.exec s).2
  generalize hr : (o.exec s).2 = r at hmoves hn
  generalize t.next g o r = g' at hmoves hn
  cases hmoves with
  | opened =>
    cases hn
    refine ⟨{}, ?_⟩
    rw [← hr]
    exact List.getElem?_concat_length
  | stay => exact (extendedBy_exec o s).exists (h n hn)
  | readRows | listed | listedReaped => exact h n hn
  | replayed | broke => exact (extendedBy_exec _ s).exists (h n hn)
  | _ => cases hn

theorem outbox_sound (settings : Settings) : outbox.SoundOver identity discipline (cell settings) Durable where
  spawn := fun _ _ => ⟨trivial, trivial, nofun⟩
  exec := fun hfires => ⟨trivial, knowsReported_exec hfires, fun _ hn => channel_exec hfires.holds.2.2 hn⟩
  frame := by
    intro c γ i t g o task g' hfires _ _ _ hholds
    exact ⟨knowsReported_fires (Layer.base_fires hfires) hholds.2.1,
      fun n hn => (extendedBy_exec o c.shared).exists (hholds.2.2 n hn)⟩
  reboot := id
  reboot_holds := by
    intro t g γ s h
    exact ⟨h.1, fun n hn => (extendedBy_restart s).exists (h.2 n hn)⟩

/-! ## Rows in CREATING -/

/-- The invariant behind `Dispatched`: a handler whose VM is not queued has placed it and gone no further. -/
def Cell.InHand (c : Cell) : Prop :=
  ∀ r ∈ c.shared.db.vms.rows, r.state = .creating → c.shared.db.Queued r.id ∨
    ∃ task ∈ c.tasks, task.tag.creates = some r.id ∧ discipline.At task .placed

theorem Cell.InHand.dispatched (h : Cell.InHand c) : Cell.Dispatched c := by
  intro r hr hstate
  refine (h r hr hstate).imp_right fun ⟨task, hmem, hcreates, hat⟩ => ⟨task, hmem, hcreates, ?_⟩
  obtain ⟨tag, prog⟩ := task
  cases prog with
  | call o k => rfl
  | ret result =>
    -- `create_machine` does not return before it has queued the command or given up
    cases tag with
    | createMachine req vmId picks =>
      rcases hat with h | ⟨_, h⟩ | h <;> cases h
    | _ => cases hcreates

theorem queued_fires (hfires : (identity.layered outbox).Fires discipline Durable c γ i t g o)
    (hr : r ∈ c.shared.db.vms.rows) (hstate : r.state = .creating) (h : c.shared.db.Queued r.id) :
    (o.exec c.shared).1.db.Queued r.id := by
  refine o.db_elim c.shared ‹_› ?_
  rintro w rfl
  refine h.exec.resolve_right fun hack => ?_
  subst hack
  have hholds := hfires.holds.2.1
  generalize hid : r.id = v at hfires
  cases hfires.allowed with
  | ackReported hterminal => exact (hholds _ rfl).2 hterminal r hr hid hstate
  | ackLooked _ hteardown => exact (hholds _ rfl).2 hteardown r hr hid hstate

/-- A handler that has placed its VM keeps it in hand, or has queued it. -/
theorem placed_exec {r' : VmRow} {k : o.Resp → Handler (Except Status Reply)}
    (hcreates : t.creates = some r.id) (hat : discipline.At ⟨t, .call o k⟩ .placed)
    (hr' : r' ∈ (o.exec s).1.db.vms.rows) (hid : r'.id = r.id) (hstate : r'.state = .creating) :
    (o.exec s).1.db.Queued r.id ∨ discipline.At ⟨t, k (o.exec s).2⟩ .placed := by
  obtain ⟨hallow, hnext⟩ := hat
  cases t with
  | createMachine req vmId picks =>
    cases hcreates
    cases hallow with
    | query | mem | elect | join => exact .inr (hnext _)
    | @enqueue _ _ _ hostId cmd hcmd =>
      obtain ⟨-, e, he⟩ | ⟨id, -, heff⟩ :=
        Write.exec_cases (.enqueuePendingCommand hostId r.id (.createVm cmd)) s.db
      · rw [Op.exec_write_resp, he]
        exact .inr (hnext (.error e))
      · refine .inl ?_
        show ((Write.enqueuePendingCommand hostId r.id (.createVm cmd)).exec s.db).1.Queued r.id
        generalize ((Write.enqueuePendingCommand hostId r.id (.createVm cmd)).exec s.db).1 = db' at heff
        cases heff with
        | enqueuePendingCommand hins =>
          exact ⟨_, (mem_insert hins).mpr (.inr rfl), rfl, congrArg some hcmd⟩
    | giveUpPlaced =>
      rcases Write.vms_exec hr' with ⟨r₀, -, hleaves⟩ | ⟨⟨_, _, h⟩, -⟩
      · rw [hleaves.state, Write.sets, if_pos (hleaves.same.id.trans hid)] at hstate
        cases hstate
      · cases h
  | _ => cases hcreates

theorem inHand_exec {pre post : List CellTask} {started : List Activity}
    {k : o.Resp → Handler (Except Status Reply)}
    (hc : (identity.layered outbox).Annotated discipline ⟨s, pre ++ ⟨t, .call o k⟩ :: post, started⟩ γ)
    (h : Cell.InHand ⟨s, pre ++ ⟨t, .call o k⟩ :: post, started⟩)
    (hC : Durable ⟨s, pre ++ ⟨t, .call o k⟩ :: post, started⟩ (.step pre.length)) :
    Cell.InHand ⟨(o.exec s).1, pre ++ ⟨t, k (o.exec s).2⟩ :: post, started⟩ := by
  intro r' hr' hstate'
  obtain ⟨g, hfires, hcont⟩ := hc.fires hC
  have here : (⟨t, k (o.exec s).2⟩ : CellTask) ∈
      pre ++ ⟨t, k (o.exec s).2⟩ :: post := mem_append_right _ mem_cons_self
  -- a row that was in CREATING already was in someone's hands
  have old : ∀ r ∈ s.db.vms.rows, r.id = r'.id → r.state = .creating → (o.exec s).1.db.Queued r'.id ∨
      ∃ task ∈ pre ++ ⟨t, k (o.exec s).2⟩ :: post, task.tag.creates = some r'.id ∧ discipline.At task .placed := by
    intro r hr hid hstate
    rw [← hid]
    rcases h r hr hstate with hqueued | ⟨task, hmem, hcreates, hat⟩
    · exact .inl (queued_fires hfires hr hstate hqueued)
    · rcases Machine.mem_middle.mp hmem with rfl | hmem
      · exact (placed_exec hcreates hat hr' hid.symm hstate').imp_right fun hat => ⟨_, here, hcreates, hat⟩
      · exact .inr ⟨task, Machine.mem_middle.mpr (.inr hmem), hcreates, hat⟩
  obtain hsame | ⟨w, rfl⟩ := o.db_cases s
  · rw [hsame] at hr'
    exact old r' hr' rfl hstate'
  · rcases creating_exec (hfires.cond _ hfires.op) hr' hstate' with ⟨r, hr, hleaves, hstate⟩ | ⟨⟨_, _, rfl⟩, u, hu⟩
    · exact old r hr hleaves.same.id hstate
    · refine .inr ⟨_, here, ?_⟩
      have hplaced := hcont (.ok u)
      cases hfires.allowed with
      | insert hid =>
        refine ⟨congrArg some hid.symm, ?_⟩
        rw [Op.exec_write_resp, hu]
        exact hplaced

theorem inHand_step {e : Event Activity} (hc : (identity.layered outbox).Annotated discipline c γ)
    (h : Cell.InHand c) (hC : Durable c e) (hstep : (cell settings).Step c e c') : Cell.InHand c' := by
  cases hstep with
  | spawn =>
    intro r hr hstate
    refine (h r hr hstate).imp_right fun ⟨task, hmem, htask⟩ => ⟨task, mem_append_left _ hmem, htask⟩
  | crash =>
    intro r hr hstate
    rcases h r hr hstate with hqueued | ⟨task, hmem, hcreates, -⟩
    · exact .inl hqueued
    · exact .inl (hC task hmem r hr hstate hcreates)
  | @drop s pre post started t o k =>
    intro r hr hstate
    rcases h r hr hstate with hqueued | ⟨task, hmem, hcreates, hat⟩
    · exact .inl hqueued
    · rcases Machine.mem_middle.mp hmem with rfl | hmem
      · exact .inl (hC _ (by simp) r hr hstate hcreates)
      · exact .inr ⟨task, hmem, hcreates, hat⟩
  | exec => exact inHand_exec hc h hC

end Sound

/-! ## Registrations -/

/-- Once a registration has read the outbox of its host and returned its stream, all it has read is on that
    stream's channel, or the channel is closed. -/
def Cell.Resends (settings : Settings) (c : Cell) (e : Event Activity) : Prop :=
  ∀ register newHostId now hostId,
    c.nextOp e = some (.streamMessages register newHostId now, .query (.listPendingCommands hostId)) →
  ∀ es c', (cell settings).run c (e :: es) = some c' →
  ∀ task ∈ c'.tasks, task.tag = .streamMessages register newHostId now →
  ∀ host n, task.prog = .ret (.ok (.stream host n)) →
  ∃ channel, c'.shared.channels[n]? = some channel ∧ (channel.closed = true ∨
    ∀ p ∈ c.shared.db.pendingCommands.rows, p.hostId = hostId → p.payload ∈ channel.sent)

section Replay

variable {pending : List (Nat × ControllerCommand)} {s s' : Shared} {t : Activity} {o : Op}
variable {settings : Settings} {c c' : Cell} {e : Event Activity} {γ : List String}
variable {task : CellTask} {k : o.Resp → Handler (Except Status Reply)}

/-- How far the replay of `pending` has come: a part of it is on the channel, or the channel is closed. -/
def Replaying (pending : List (Nat × ControllerCommand)) (s : Shared)
    (task : CellTask) : Prop :=
  (∃ n sent todo channel, discipline.At task (.replaying n sent todo) ∧ sent ++ todo = pending ∧
    s.channels[n]? = some channel ∧ ∀ x ∈ sent, x.2 ∈ channel.sent) ∨
  ∃ n channel, discipline.At task (.broken n) ∧ s.channels[n]? = some channel ∧ channel.closed = true

theorem Replaying.mono (h : Replaying pending s task) (hs : s.ExtendedBy s') : Replaying pending s' task := by
  rcases h with ⟨n, sent, todo, channel, hat, heq, hch, hsent⟩ | ⟨n, channel, hat, hch, hclosed⟩
  · obtain ⟨channel', hch', hsub, -⟩ := hs n channel hch
    exact .inl ⟨n, sent, todo, channel', hat, heq, hch', fun x hx => hsub _ (hsent x hx)⟩
  · obtain ⟨channel', hch', -, hcl⟩ := hs n channel hch
    exact .inr ⟨n, channel', hat, hch', hcl hclosed⟩

theorem Replaying.exec (h : Replaying pending s ⟨t, .call o k⟩) :
    Replaying pending (o.exec s).1 ⟨t, k (o.exec s).2⟩ := by
  rcases h with ⟨n, sent, todo, channel, ⟨hallow, hnext⟩, heq, hch, hsent⟩ | ⟨n, channel, ⟨hallow, -⟩, -⟩
  · cases hallow with
    | query h | mem h | elect h => cases h
    | @replay _ _ _ _ _ id cmd todo =>
      cases hlive : MemOp.live s n with
      | true =>
        have hexec : (Op.mem (.send n cmd)).exec s = ({ s with channels := s.channels.modify n fun ch =>
            { ch with sent := ch.sent ++ [cmd] } }, true) := if_pos hlive
        rw [hexec]
        refine .inl ⟨n, sent ++ [(id, cmd)], todo, { channel with sent := channel.sent ++ [cmd] }, hnext true,
          by rw [← heq, append_assoc]; rfl, ?_, fun x hx => ?_⟩
        · show (s.channels.modify n _)[n]? = _
          rw [List.getElem?_modify, hch]
          simp
        · rcases mem_append.mp hx with hx | hx
          · exact mem_append_left _ (hsent x hx)
          · cases mem_singleton.mp hx
            exact mem_append_right _ (mem_singleton_self _)
      | false =>
        have hexec : (Op.mem (.send n cmd)).exec s = (s, false) := if_neg (by rw [hlive]; exact Bool.false_ne_true)
        rw [hexec]
        refine .inr ⟨n, channel, hnext false, hch, ?_⟩
        simpa [MemOp.live, hch] using hlive
    | markReplayed =>
      refine .inl ⟨n, sent, todo, channel, ?_, heq, hch, hsent⟩
      have := hnext (Op.exec (.write (.markCommandSent _)) s).2
      cases todo <;> exact this
  · cases hallow with
    | query h | mem h | elect h => cases h

variable {register : RegisterHostRequest} {newHostId hostId : HostId} {now : Nat}

theorem Replaying.returned {host : HostId} {n : Nat}
    (h : Replaying pending s ⟨.streamMessages register newHostId now, .ret (.ok (.stream host n))⟩) :
    ∃ channel, s.channels[n]? = some channel ∧ (channel.closed = true ∨ ∀ x ∈ pending, x.2 ∈ channel.sent) := by
  rcases h with ⟨m, sent, todo, channel, hat, rfl, hch, hsent⟩ | ⟨m, channel, hat, hch, hclosed⟩
  · rcases hat with ⟨_, h⟩ | h
    · cases h
      exact ⟨channel, hch, .inr fun x hx => hsent x (by simpa using hx)⟩
    · cases h
  · rcases hat with ⟨_, h⟩ | h
    · cases h
    · cases h
      exact ⟨channel, hch, .inl hclosed⟩

/-- A registration that has listed the outbox, with the list it got. -/
def ReplayUnderWay (t : Activity) (pending : List (Nat × ControllerCommand)) (c : Cell) : Prop :=
  t ∈ c.started ∧ ∀ task ∈ c.tasks, task.tag = t → Replaying pending c.shared task

theorem ReplayUnderWay.step (hmints : t.mints ≠ []) (h : ReplayUnderWay t pending c)
    (hstep : (cell settings).Step c e c') : ReplayUnderWay t pending c' := by
  obtain ⟨hstarted, hreplay⟩ := h
  cases hstep with
  | spawn hfresh =>
    refine ⟨mem_cons_of_mem _ hstarted, fun task hmem htag => ?_⟩
    rcases mem_append.mp hmem with hmem | hmem
    · exact hreplay task hmem htag
    · -- the same activity does not start twice: its identifiers are drawn
      cases mem_singleton.mp hmem
      cases htag
      obtain ⟨x, hx⟩ := exists_mem_of_ne_nil _ hmints
      exact (Activity.apart_of_fresh hfresh hstarted x hx hx).elim
  | @exec s pre post started t' o k =>
    refine ⟨hstarted, fun task hmem htag => ?_⟩
    rcases Machine.mem_middle.mp hmem with rfl | hmem
    · exact (hreplay _ (Machine.mem_middle.mpr (.inl rfl)) htag).exec
    · exact (hreplay task (Machine.mem_middle.mpr (.inr hmem)) htag).mono (extendedBy_exec o s)
  | drop => exact ⟨hstarted, fun task hmem htag => hreplay task (Machine.mem_middle.mpr (.inr hmem)) htag⟩
  | crash =>
    refine ⟨hstarted, fun task hmem htag => ?_⟩
    exact (hreplay task (mem_filter.mp hmem).1 htag).mono (extendedBy_restart _)

theorem next_listPendingCommands {g : Phase}
    (h : Allows (.streamMessages register newHostId now) g (.query (.listPendingCommands hostId))) :
    ∃ n ∈ g.channel, ∀ pending,
      streamNext g (.query (.listPendingCommands hostId)) pending = .replaying n [] pending := by
  cases h with
  | query _ hq =>
    cases g with
    | opened n | reaping n vms => exact ⟨n, rfl, fun _ => rfl⟩
    | _ => cases hq

theorem replayUnderWay_listed {pre post : List CellTask}
    {started : List Activity} {k : List (Nat × ControllerCommand) → Handler (Except Status Reply)}
    (hc : (identity.layered outbox).Annotated discipline
      ⟨s, pre ++ ⟨.streamMessages register newHostId now, .call (.query (.listPendingCommands hostId)) k⟩ :: post,
        started⟩ γ) : ReplayUnderWay (.streamMessages register newHostId now) (s.db.listPendingCommands hostId)
      ⟨s, pre ++ ⟨.streamMessages register newHostId now, k (s.db.listPendingCommands hostId)⟩ :: post, started⟩ := by
  obtain ⟨g, hfires, hcont⟩ := hc.fires (C := fun _ _ => True) trivial
  refine ⟨hfires.known, fun task hmem htag => ?_⟩
  have alone : task ∉ pre ++ post := fun h => by
    have hapart : Activity.Apart _ _ := hc.apart_others Activity.Apart.symm h
    rw [htag] at hapart
    exact hapart newHostId (mem_singleton_self _) (mem_singleton_self _)
  obtain rfl := (Machine.mem_middle.mp hmem).resolve_right alone
  obtain ⟨n, hn, hnext⟩ := next_listPendingCommands hfires.allowed
  obtain ⟨channel, hch⟩ := hfires.holds.2.2 n hn
  exact .inl ⟨n, [], _, channel, hnext _ ▸ hcont _, rfl, hch, nofun⟩

theorem resends_of_annotated (hc : (identity.layered outbox).Annotated discipline c γ) (hC : Durable c e) :
    Cell.Resends settings c e := by
  intro register newHostId now hostId hop es c' hrun task hmem htag host n hprog
  obtain ⟨c₁, h₁, hrun⟩ := Option.bind_eq_some_iff.mp hrun
  have hunderWay : ReplayUnderWay (.streamMessages register newHostId now)
      (c.shared.db.listPendingCommands hostId) c₁ := by
    cases Machine.step_cases h₁ with
    | exec =>
      cases Machine.nextOp_exec.symm.trans hop
      exact replayUnderWay_listed hc
    | _ => cases hop
  have hpending : ∀ p ∈ c.shared.db.pendingCommands.rows, p.hostId = hostId → p.state = .pending := by
    cases e with
    | step i => exact of_decide_eq_true (hC _ hop)
    | _ => cases hop
  have hdone := Machine.run_invariant (C := fun _ _ => True)
    (fun h _ hstep => ReplayUnderWay.step (t := .streamMessages register newHostId now) (cons_ne_nil _ _) h hstep)
    hunderWay
    (Transition.along_of_forall fun _ _ => trivial) hrun
  obtain ⟨tag, prog⟩ := task
  cases htag
  cases hprog
  obtain ⟨channel, hch, hsent⟩ := (hdone.2 _ hmem rfl).returned
  refine ⟨channel, hch, hsent.imp_right fun hsent p hp hhost => ?_⟩
  exact hsent (p.id, p.payload) (mem_map.mpr
    ⟨p, mem_filter.mpr ⟨hp, decide_eq_true ⟨hhost, hpending p hp hhost⟩⟩, rfl⟩)

end Replay

/-! ## Durable dispatch -/

/-- **Durable dispatch.** -/
theorem durable_dispatch (settings : Settings) (effectiveCpu : Int → Int) (es : List (Event Activity)) (c : Cell)
    (hal : (cell settings).Along Durable (Cell.start (Db.create effectiveCpu)) es)
    (hrun : (cell settings).run (Cell.start (Db.create effectiveCpu)) es = some c) :
    Cell.Dispatched c ∧
      (cell settings).Along (Cell.Resends settings) (Cell.start (Db.create effectiveCpu)) es := by
  let J : Cell → Prop := fun c => (∃ γ, (identity.layered outbox).Annotated discipline c γ) ∧ Cell.InHand c
  have hsound := (outbox_sound settings).sound (identity_sound settings Durable)
  have hstart : J (Cell.start (Db.create effectiveCpu)) :=
    ⟨⟨[], Outline.annotated_empty ⟨identity_start effectiveCpu, trivial⟩⟩, forall_mem_nil _⟩
  have hstep : ∀ {c e c'}, J c → Durable c e → (cell settings).Step c e c' → J c' :=
    fun ⟨⟨_, hc⟩, hinHand⟩ hC hstep =>
      ⟨⟨_, Outline.annotated_step hsound hc hC hstep⟩, inHand_step hc hinHand hC hstep⟩
  exact ⟨(Machine.run_invariant hstep hstart hal hrun).2.dispatched,
    Machine.along_of_invariant hstep (fun ⟨⟨_, hc⟩, _⟩ hC => resends_of_annotated hc hC) hstart hal⟩

/-- The controller restarts once the command is in the outbox, the agent registers again and gets it. -/
def dispatchedByReplay : List (Event Activity) :=
  upToCluster ++ .spawn createWorker :: steps 2 19 ++ .crash :: .spawn (registerAs "h2" 200) :: steps 2 16

theorem durable_dispatch_smallCell :
    (cell smallCell).Along Durable emptyCell dispatchedByReplay ∧
    Cell.Dispatched (reached dispatchedByReplay) ∧
    (cell smallCell).Along (Cell.Resends smallCell) emptyCell dispatchedByReplay := by
  have hal : (cell smallCell).Along Durable emptyCell dispatchedByReplay := by decide +kernel
  exact ⟨hal, durable_dispatch smallCell id dispatchedByReplay _ hal (run_reached _ (by decide +kernel))⟩

/-- The machine's row is in, its command not yet in the outbox. -/
def upToPlaced : List (Event Activity) := upToCluster ++ .spawn createWorker :: steps 2 4

/-- The command went out, the controller restarts, and the agent registers again, up to its look at the outbox. -/
def upToListing : List (Event Activity) := upToWaiting ++ .crash :: .spawn (registerAs "h2" 200) :: steps 2 13

/-- A restart leaves a VM in CREATING that nobody creates, and a command that is `sent` is not sent again. -/
theorem dispatch_lost :
    ¬ Cell.Dispatched (reached (upToPlaced ++ [.crash])) ∧
    ¬ Cell.Resends smallCell (reached upToListing) (.step 2) := by
  refine ⟨by decide +kernel, fun h => ?_⟩
  have hop : (reached upToListing).nextOp (.step 2) =
      some (registerAs "h2" 200, .query (.listPendingCommands "h1")) := rfl
  have hrun : (cell smallCell).run (reached upToListing) [.step 2] =
      some (reached (upToListing ++ [.step 2])) := rfl
  have htask : (reached (upToListing ++ [.step 2])).tasks[2]? =
      some ⟨registerAs "h2" 200, .ret (.ok (.stream "h1" 1))⟩ := rfl
  have hnot : ¬ ∃ channel ∈ (reached (upToListing ++ [.step 2])).shared.channels[1]?,
      channel.closed = true ∨ ∀ p ∈ (reached upToListing).shared.db.pendingCommands.rows,
        p.hostId = "h1" → p.payload ∈ channel.sent := by
    decide +kernel
  exact hnot (h _ _ _ _ hop _ _ hrun _ (mem_of_getElem? htask) rfl "h1" 1 rfl)

end BasisCell
