import BasisCell.Agent.Idempotence

/-!
# `BasisCell.Agent.Race` — a create and the tombstone of the same VM

`process_inbound` spawns a task for every command, and the two share no lock: a tombstone's `delete_vm` may run
while `create_vm` of the same VM is still at work. Where the delete keeps out of the way of the create, that
is, does nothing but look until `create_vm_inner` has returned, an acked tombstone means that nothing of the
VM is left (`acked_is_clean`); the create's own rollback may well run beside it. Where it does not, the create
goes on building what the delete has passed (`acked_not_clean`).
-/

namespace BasisCell.Agent

open Conc Conc.Protocol Relational Storage List

/-- The pool of one create and one tombstone: nobody else is spawned. -/
def race (spec : HostSpec) : Machine Duty Op Op.Resp Host (Except AgentError Unit) :=
  { agent spec with fresh := fun _ _ => false, reboot := id }

abbrev Race := Config Duty Op Op.Resp Host (Except AgentError Unit)

/-- Both tasks have been spawned, neither has begun. -/
def Race.start (spec : HostSpec) (cmd : CreateVmCommand) (s : Host) : Race where
  shared := s
  tasks := [⟨.create cmd, createVm spec cmd⟩, ⟨.tombstone cmd.vmId, (deleteVm spec cmd.vmId).run⟩]
  started := [.create cmd, .tombstone cmd.vmId]

/-- The tombstone's task has returned `Ok`: the tombstone is acked. -/
def Race.Acked (vmId : VmId) (c : Race) : Prop := ⟨.tombstone vmId, .ret (.ok ())⟩ ∈ c.tasks

/-- Once both tasks have ended, an acked tombstone means that nothing of the VM is left. -/
def Race.AckedClean (spec : HostSpec) (vmId : VmId) (c : Race) : Prop :=
  (∀ task ∈ c.tasks, task.prog.finished = true) → Race.Acked vmId c → c.shared.Clean spec vmId

/-- Is the task about to announce its VM as pending? -/
def marks (task : Task Duty Op Op.Resp (Except AgentError Unit)) : Bool :=
  match task.prog with
  | .call (.mem (.markPending _)) _ => true
  | _ => false

/-- The delete keeps out of the way: but for its first read, it takes a step only when no create is pending
    or about to be. -/
def keepsClear (vmId : VmId) (c : Race) (e : Event Duty) : Bool :=
  match c.nextOp e with
  | some (.tombstone _, .sql (.getVm _)) => true
  | some (.tombstone _, _) => vmId ∉ c.shared.pending ∧ ∀ task ∈ c.tasks, marks task = false
  | _ => true

/-- No reservation under an assignment of the command is half made. -/
def Host.Settled (cmd : CreateVmCommand) (s : Host) : Prop :=
  ∀ r ∈ s.reservations.rows, ∀ disk ∈ cmd.storageDisks, disk.assignmentId = r.assignmentId → r.state = .ready

/-- The row is in, and no other reservation of the command is half made. -/
structure Host.Reserving (cmd : CreateVmCommand) (row : LvmReservationRow) (s : Host) : Prop where
  present : ∃ r ∈ s.reservations.rows, r.vmId = cmd.vmId ∧ r.vg = row.vg ∧ r.lvName = row.lvName
  settled : ∀ r ∈ s.reservations.rows, ∀ disk ∈ cmd.storageDisks, disk.assignmentId = r.assignmentId →
    r.assignmentId ≠ row.assignmentId → r.state = .ready

/-- Every step of a run keeps clear. -/
abbrev KeepsClear (vmId : VmId) (c : Race) (e : Event Duty) : Prop := keepsClear vmId c e = true

/-- Has `systemctl stop` been called? -/
def noteStop (γ : Bool) : (o : Op) → o.Resp → Bool
  | .cmd (.systemctlStop _), _ => true
  | _, _ => γ

/-- What a task in a phase of its protocol can rely on. -/
def RaceHolds (spec : HostSpec) (cmd : CreateVmCommand) (t : Duty) (γ : Bool) (s : Host) : Phase → Prop
  | .start => t = .create cmd ∧ γ = false ∧ s.Settled cmd
  | .preparing | .building => t = .create cmd ∧ cmd.vmId ∈ s.pending ∧ s.Settled cmd
  | .reserving row => t = .create cmd ∧ cmd.vmId ∈ s.pending ∧ s.Reserving cmd row
  | .stale => False
  | .looking | .stopping => t = .create cmd → cmd.vmId ∉ s.pending
  | g => γ = true ∧ cmd.vmId ∉ s.pending ∧ Halted spec cmd.vmId s g ∧ SweptAt spec cmd.vmId s g

/-- The proof outline of the race: beside the assertions, the ledger is proper throughout. -/
def raceOutline (spec : HostSpec) (cmd : CreateVmCommand) : Outline Duty Op Op.Resp Host Phase Bool where
  aux := fun γ _ => noteStop γ
  inv := fun started _ s =>
    (∀ t ∈ started, t = .create cmd ∨ t = .tombstone cmd.vmId) ∧ s.Ledgered spec cmd.vmId
  holds := fun t g γ s => RaceHolds spec cmd t γ s g
  apart := fun t t' => ¬ (t = .create cmd ∧ t' = .create cmd)

/-! ## What the steps of a create leave -/

section Create

variable {spec : HostSpec} {vmId : VmId} {cmd : CreateVmCommand} {s : Host} {o : Op}

theorem Host.Ledgered.of_same (h : s.Ledgered spec vmId) (hledger : o.touches .ledger = false)
    (hvolumes : o.touches .volumes = false) : (Op.exec o s).1.Ledgered spec vmId := by
  have hsame : (Op.exec o s).1.reservations = s.reservations := same_of_untouched hledger
  have hlvs : ∀ vg name, (Op.exec o s).1.hasLv vg name = s.hasLv vg name := same_of_untouched hvolumes
  refine ⟨fun vg i hlv => ?_, ?_⟩
  · rw [hsame]
    exact h.covered vg i (hlvs vg _ ▸ hlv)
  · rw [hsame]
    exact h.configured

variable {lv : Lv} {vg : String} {row : LvmReservationRow}

theorem hasLv_append {name : String} (h : ({ s with lvs := s.lvs ++ [lv] } : Host).hasLv vg name = true) :
    s.hasLv vg name = true ∨ (lv.vg = vg ∧ lv.name = name) := by
  obtain ⟨l, hl, hname⟩ := Host.hasLv_iff.mp h
  rcases mem_append.mp hl with hl | hl
  · exact .inl (Host.hasLv_iff.mpr ⟨l, hl, hname⟩)
  · exact .inr (mem_singleton.mp hl ▸ hname)

theorem Host.Ledgered.append (h : s.Ledgered spec vmId)
    (hlv : ∀ i, lv.name = lvName vmId i → ∃ r ∈ s.reservations.rows,
      r.vmId = vmId ∧ r.vg = lv.vg ∧ r.lvName = lv.name) :
    ({ s with lvs := s.lvs ++ [lv] } : Host).Ledgered spec vmId where
  covered := by
    intro vg i hhas
    rcases hasLv_append hhas with hhas | ⟨rfl, hname⟩
    · exact h.covered vg i hhas
    · obtain ⟨r, hr, hvm, hvg, hlvName⟩ := hlv i hname
      exact ⟨r, hr, hvm, hvg, hlvName.trans hname⟩
  configured := h.configured

theorem Host.Ledgered.snapshot {origin : String} (h : s.Ledgered spec vmId) :
    (Op.exec (.cmd (.lvcreateSnapshot vg (vmLvName vmId) origin)) s).1.Ledgered spec vmId := by
  simp only [Op.exec, Cmd.exec]
  split
  · exact h
  · exact h.append fun i hname => absurd hname vmLvName_ne_lvName

theorem Host.Ledgered.fill {sizeGib : Nat} (h : s.Ledgered spec cmd.vmId) (hrow : s.Reserving cmd row) :
    (Op.exec (.cmd (.lvcreate row.vg row.lvName sizeGib)) s).1.Ledgered spec cmd.vmId := by
  have hadd : ({ s with lvs := s.lvs ++ [⟨row.vg, row.lvName, sizeGib, false⟩] } : Host).Ledgered spec cmd.vmId :=
    h.append fun i _ => hrow.present
  simp only [Op.exec, Cmd.exec]
  split
  · exact h
  · split
    · exact h
    · split
      · exact h
      · exact hadd

theorem insertReservation_cases : (∃ what, Op.exec (.sql (.insertReservation row)) s = (s, .error what)) ∨
      ∃ table, (∀ r, r ∈ table.rows ↔ r ∈ s.reservations.rows ∨ r = row) ∧
        Op.exec (.sql (.insertReservation row)) s = ({ s with reservations := table }, .ok ()) := by
  cases hinsert : s.reservations.insert row with
  | none =>
    refine .inl ⟨"UNIQUE constraint failed: lvm_reservation", ?_⟩
    simp only [Op.exec, Sql.exec, hinsert]
    rfl
  | some table =>
    refine .inr ⟨table, fun r => Table.mem_insert hinsert, ?_⟩
    simp only [Op.exec, Sql.exec, hinsert]
    rfl

theorem Host.Settled.reserving {table : Table LvmReservationRow}
    (h : s.Settled cmd) (hvm : row.vmId = cmd.vmId) (hmem : ∀ r, r ∈ table.rows ↔ r ∈ s.reservations.rows ∨ r = row) :
    ({ s with reservations := table } : Host).Reserving cmd row where
  present := ⟨row, (hmem row).mpr (.inr rfl), hvm, rfl, rfl⟩
  settled := by
    intro r hr disk hdisk hid hne
    rcases (hmem r).mp hr with hr | rfl
    · exact h r hr disk hdisk hid
    · exact absurd rfl hne

/-- Marking the row ready settles the command's reservations. -/
theorem Host.Reserving.ready (h : s.Reserving cmd row) :
    (Op.exec (.sql (.setReservation row.assignmentId .ready)) s).1.Settled cmd := by
  intro r' hr' disk hdisk hid
  obtain ⟨r, hr, rfl⟩ := mem_map.mp hr'
  by_cases hrow : r.assignmentId = row.assignmentId
  · simp [hrow]
  · simp only [hrow, decide_false, Bool.false_eq_true, if_false] at hid ⊢
    exact h.settled r hr disk hdisk hid hrow

theorem Host.Settled.of_same (h : s.Settled cmd) (hledger : o.touches .ledger = false) :
    (Op.exec o s).1.Settled cmd := by
  have hsame : (Op.exec o s).1.reservations = s.reservations := same_of_untouched hledger
  unfold Host.Settled
  rw [hsame]
  exact h

theorem Host.Reserving.of_same (h : s.Reserving cmd row) (hledger : o.touches .ledger = false) :
    (Op.exec o s).1.Reserving cmd row := by
  have hsame : (Op.exec o s).1.reservations = s.reservations := same_of_untouched hledger
  refine ⟨?_, ?_⟩ <;> rw [hsame]
  · exact h.present
  · exact h.settled

theorem pending_of_same (h : vmId ∈ s.pending) (hpending : o.touches .pending = false) :
    vmId ∈ (Op.exec o s).1.pending := by
  have hsame : (Op.exec o s).1.pending = s.pending := same_of_untouched hpending
  rwa [hsame]

theorem RaceHolds.of_same {g : Phase} {γ : Bool} {t : Duty} (hg : g.inner = true) (h : RaceHolds spec cmd t γ s g)
    (hledger : o.touches .ledger = false) (hpending : o.touches .pending = false) (γ' : Bool) :
    RaceHolds spec cmd t γ' (Op.exec o s).1 g := by
  cases g with
  | preparing | building | reserving row => exact ⟨h.1, pending_of_same h.2.1 hpending, h.2.2.of_same hledger⟩
  | _ => cases hg

/-- **A step of `create_vm_inner`** keeps the ledger proper, and its own assertions. -/
theorem Allows.create_step {g : Phase} {γ γ' : Bool} (h : Allows spec (.create cmd) g o) (hinner : g.inner = true)
    (hs : s.Ledgered spec cmd.vmId) (hg : RaceHolds spec cmd (.create cmd) γ s g) :
    (Op.exec o s).1.Ledgered spec cmd.vmId ∧
      RaceHolds spec cmd (.create cmd) γ' (Op.exec o s).1 (next spec g o (Op.exec o s).2) := by
  cases h with
  | anything | mark => cases hinner
  | delete h => cases h <;> cases hinner
  | routine _ ho =>
    rw [next_of_routine ho]
    exact ⟨hs.of_same (touches_of_routine ho _) (touches_of_routine ho _),
      hg.of_same hinner (touches_of_routine ho _) (touches_of_routine ho _) _⟩
  | clear =>
    rw [next_clear hinner]
    refine ⟨hs.of_same rfl rfl, fun _ => ?_⟩
    simp [Op.exec, Mem.exec]
  | @attr _ _ vg lv _ =>
    have hnext : ∀ r, next spec g (.cmd (.lvAttr vg lv)) r = g := by
      intro r
      cases g <;> first | rfl | cases hinner
    rw [hnext]
    exact ⟨hs, hg.of_same hinner rfl rfl _⟩
  | insert =>
    refine ⟨hs.of_same rfl rfl, ?_⟩
    have hg' : RaceHolds spec cmd (.create cmd) γ' (Op.exec (.sql (.insertVm (localRow cmd))) s).1 .preparing :=
      hg.of_same rfl rfl rfl γ'
    cases (Op.exec (.sql (.insertVm (localRow cmd))) s).2 <;> exact hg'
  | @lookup _ disk hdisk =>
    refine ⟨hs, ?_⟩
    show RaceHolds spec cmd _ _ s (next spec .building (.sql (.lookupAssignment disk.assignmentId))
      (Except.ok (s.reservations.find fun r => r.assignmentId = disk.assignmentId)))
    cases hfind : s.reservations.find fun r => r.assignmentId = disk.assignmentId with
    | none => exact hg
    | some row =>
      have hid : row.assignmentId = disk.assignmentId := by simpa using List.find?_some hfind
      have hready : row.state = .ready := hg.2.2 row (mem_of_find?_eq_some hfind) disk hdisk hid.symm
      show RaceHolds spec cmd _ _ s (if row.state = .ready then .building else .stale)
      rw [if_pos hready]
      exact hg
  | @reserve _ disk pool vg hdisk hpool =>
    rcases @insertReservation_cases s ((allocationRequest cmd.vmId disk).row pool vg) with ⟨what, h⟩ | ⟨table, hmem, h⟩
    · rw [h]
      exact ⟨hs, hg⟩
    · rw [h]
      refine ⟨⟨fun vg' i hlv => ?_, fun r hr hvm => ?_⟩, rfl, hg.2.1, hg.2.2.reserving rfl hmem⟩
      · obtain ⟨r, hr, hrow⟩ := hs.covered vg' i hlv
        exact ⟨r, (hmem r).mpr (.inl hr), hrow⟩
      · rcases (hmem r).mp hr with hr | rfl
        · exact hs.configured r hr hvm
        · exact ⟨pool, hpool, rfl⟩
  | ready => exact ⟨hs.setReservation, rfl, pending_of_same hg.2.1 rfl, hg.2.2.ready⟩
  | fill => exact ⟨hs.fill hg.2.2, hg.of_same rfl rfl rfl _⟩
  | snapshot => exact ⟨hs.snapshot, hg.of_same rfl rfl rfl _⟩
  | sweep | sweepRootfs => exact ⟨hs.untouched rfl rfl, hg.of_same rfl rfl rfl _⟩
  | record | addTap | launch | track => exact ⟨hs.of_same rfl rfl, hg.of_same rfl rfl rfl _⟩

end Create

/-! ## What the steps of a delete leave -/

/-- Past the point where a delete has stopped the unit. -/
def Phase.underWay : Phase → Bool
  | stopped | unitGone => true
  | g => g.detached

section Delete

variable {spec : HostSpec} {cmd : CreateVmCommand} {t : Duty} {s s' : Host} {g : Phase} {o : Op} {γ γ' : Bool}

theorem raceHolds_underWay (hg : g.underWay = true) : RaceHolds spec cmd t γ s g ↔
    γ = true ∧ cmd.vmId ∉ s.pending ∧ Halted spec cmd.vmId s g ∧ SweptAt spec cmd.vmId s g := by
  cases g <;> first | exact Iff.rfl | cases hg

theorem Deletes.underWay {vmId : VmId} (h : Deletes spec vmId g o) (hg : g.underWay = true) (r : o.Resp) :
    (next spec g o r).underWay = true := by
  have hnext : ∀ {g'}, Phase.detached g' = true → g'.underWay = true := by
    intro g' hg'
    cases g' <;> first | rfl | cases hg'
  by_cases hd : g.detached = true
  · exact hnext (h.detached hd r)
  · cases h with
    | look | stop => cases hg
    | reset | detach => rfl
    | _ => exact absurd rfl hd

theorem noteStop_true (hγ : γ = true) (r : o.Resp) : noteStop γ o r = true := by
  unfold noteStop
  split
  · rfl
  · exact hγ

theorem underWay_or (hg : g.deletes = true) : g = .looking ∨ g = .stopping ∨ g.underWay = true := by
  cases g with
  | looking => exact .inl rfl
  | stopping => exact .inr (.inl rfl)
  | stopped | unitGone | tapGone | rootfsGone | releasing | removed | gone => exact .inr (.inr rfl)
  | _ => cases hg

/-- What a delete relies on survives every operation that makes nothing. -/
theorem RaceHolds.shed (hg : g.deletes = true) (h : RaceHolds spec cmd t γ s g) (hs : s.Sheds s')
    (hγ : γ = true → γ' = true) : RaceHolds spec cmd t γ' s' g := by
  rcases underWay_or hg with rfl | rfl | hw
  · exact fun ht hp => h ht (hs.pending _ hp)
  · exact fun ht hp => h ht (hs.pending _ hp)
  · rw [raceHolds_underWay hw] at h ⊢
    exact ⟨hγ h.1, fun hp => h.2.1 (hs.pending _ hp), h.2.2.1.shed hs, h.2.2.2.shed hs⟩

/-- **A step of a delete** keeps the ledger proper, and its own assertions, if no create is pending. -/
theorem Deletes.race_step (h : Deletes spec cmd.vmId g o) (hs : s.Ledgered spec cmd.vmId)
    (hg : RaceHolds spec cmd t γ s g) (hclear : g = .stopping → cmd.vmId ∉ s.pending) :
    (Op.exec o s).1.Ledgered spec cmd.vmId ∧
      RaceHolds spec cmd t (noteStop γ o (Op.exec o s).2) (Op.exec o s).1 (next spec g o (Op.exec o s).2) := by
  by_cases hw : g.underWay = true
  · rw [raceHolds_underWay hw] at hg
    obtain ⟨hγ, hpending, hhalted, hswept⟩ := hg
    refine ⟨h.ledgered hs hswept, (raceHolds_underWay (h.underWay hw _)).mpr ⟨noteStop_true hγ _, ?_, ?_, ?_⟩⟩
    · exact fun hp => hpending ((sheds_exec h.creates).pending _ hp)
    · exact h.halted hhalted
    · exact h.swept hs hswept
  · cases h with
    | look => exact ⟨hs, hg⟩
    | stop => exact ⟨hs.untouched rfl rfl, rfl, hclear rfl, running_systemctlStop, trivial⟩
    | _ => exact absurd rfl hw

end Delete

/-! ## The race -/

section Sound

variable {spec : HostSpec} {cmd : CreateVmCommand} {c : Race} {γ : Bool} {i : Nat} {t : Duty} {g : Phase} {o : Op}

variable {task : Task Duty Op Op.Resp (Except AgentError Unit)}

/-- A task in its first phase is about to announce its VM. -/
theorem marks_of_start (h : (discipline spec).At task .start) : marks task = true := by
  obtain ⟨t, p⟩ := task
  cases p with
  | ret r =>
    exfalso
    cases t <;> cases r <;> rcases h with h | h <;> cases h
  | call o k =>
    obtain ⟨hallow, -⟩ := h
    cases hallow with
    | mark => rfl
    | routine hg => exact absurd rfl hg
    | attr hg | clear hg => cases hg
    | delete h => cases h

/-- Where the stepped task is: about to begin, inside `create_vm_inner`, or inside a delete. -/
theorem phase_cases (h : RaceHolds spec cmd t γ c.shared g) :
    (g = .start ∧ t = .create cmd) ∨ (g.inner = true ∧ t = .create cmd ∧ cmd.vmId ∈ c.shared.pending) ∨
      g.deletes = true := by
  cases g with
  | start => exact .inl ⟨rfl, h.1⟩
  | preparing | building | reserving => exact .inr (.inl ⟨rfl, h.1, h.2.1⟩)
  | stale => exact h.elim
  | _ => exact .inr (.inr rfl)

variable (h : (raceOutline spec cmd).Fires (discipline spec) (KeepsClear cmd.vmId) c γ i t g o)

include h

/-- A step of the tombstone's task reads the record, or no create is at work. -/
theorem tombstone_step
    (ht : t = .tombstone cmd.vmId) :
    (∃ vmId, o = .sql (.getVm vmId)) ∨
      (cmd.vmId ∉ c.shared.pending ∧ ∀ task ∈ c.tasks, marks task = false) := by
  have hclear := h.cond
  unfold KeepsClear keepsClear at hclear
  rw [h.op, ht] at hclear
  split at hclear
  · rename_i heq
    cases heq
    exact .inl ⟨_, rfl⟩
  · exact .inr (of_decide_eq_true hclear)
  · rename_i _ hne
    exact absurd rfl (hne _ _)

theorem duty_cases :
    t = .create cmd ∨ t = .tombstone cmd.vmId := h.inv.1 t h.known

theorem vmId_of_fires :
    t.vmId = cmd.vmId := by
  rcases duty_cases h with rfl | rfl <;> rfl

theorem race_exec :
    (Op.exec o c.shared).1.Ledgered spec cmd.vmId ∧
      RaceHolds spec cmd t (noteStop γ o (Op.exec o c.shared).2) (Op.exec o c.shared).1
        (next spec g o (Op.exec o c.shared).2) := by
  have hallow : Allows spec t g o := h.allowed
  have hg : RaceHolds spec cmd t γ c.shared g := h.holds
  have hs : c.shared.Ledgered spec cmd.vmId := h.inv.2
  rcases phase_cases hg with ⟨rfl, rfl⟩ | ⟨hinner, rfl, -⟩ | hdeletes
  · cases hallow with
    | mark =>
      refine ⟨hs.of_same rfl rfl, rfl, ?_, hg.2.2.of_same rfl⟩
      simp [Op.exec, Mem.exec]
    | routine hne => exact absurd rfl hne
    | attr hinner | clear hinner => cases hinner
    | delete h => cases h
  · exact hallow.create_step hinner hs hg
  · rcases hallow.of_deletes hdeletes with ho | hdel
    · rw [next_of_routine ho]
      exact ⟨hs.untouched (creates_of_routine ho) (touches_of_routine ho _),
        hg.shed hdeletes (sheds_exec (creates_of_routine ho)) fun hγ => noteStop_true hγ _⟩
    · rw [vmId_of_fires h] at hdel
      refine hdel.race_step hs hg ?_
      rintro rfl
      -- the stop: the rollback has cleared its own mark, the tombstone waits for that
      rcases duty_cases h with rfl | ht
      · exact hg rfl
      · rcases tombstone_step h ht with ⟨v, rfl⟩ | ⟨hclear, -⟩
        · cases hdel
        · exact hclear

/-- What the other task relies on survives the step. -/
theorem race_frame {g' : Phase} (htask : task ∈ c.tasks)
    (hapart : ¬ (t = .create cmd ∧ task.tag = .create cmd)) (hat : (discipline spec).At task g')
    (hg' : RaceHolds spec cmd task.tag γ c.shared g') :
    RaceHolds spec cmd task.tag (noteStop γ o (Op.exec o c.shared).2) (Op.exec o c.shared).1 g' := by
  have hallow : Allows spec t g o := h.allowed
  have hg : RaceHolds spec cmd t γ c.shared g := h.holds
  have hmakesNone : g.deletes = true → o.creates = false := by
    intro hdeletes
    rcases hallow.of_deletes hdeletes with ho | hdel
    · exact creates_of_routine ho
    · exact hdel.creates
  rcases phase_cases hg' with ⟨rfl, htag⟩ | ⟨hinner, htag, hpending⟩ | hdeletes'
  · -- the other task is a create that has not begun: the tombstone may only look
    have ht : t = .tombstone cmd.vmId := (duty_cases h).resolve_left fun ht => hapart ⟨ht, htag⟩
    rcases tombstone_step h ht with ⟨v, rfl⟩ | ⟨-, hmarks⟩
    · exact hg'
    · exact absurd ((hmarks task htask).symm.trans (marks_of_start hat)) Bool.false_ne_true
  · -- inside `create_vm_inner`: the same, because the VM is pending
    have ht : t = .tombstone cmd.vmId := (duty_cases h).resolve_left fun ht => hapart ⟨ht, htag⟩
    rcases tombstone_step h ht with ⟨v, rfl⟩ | ⟨hclear, -⟩
    · exact hg'.of_same hinner rfl rfl _
    · exact absurd hpending hclear
  · -- the other task is inside a delete; a create that is at work has not let it come far
    have hbefore : t = .create cmd → (γ = true → cmd.vmId ∈ c.shared.pending) →
        RaceHolds spec cmd task.tag (noteStop γ o (Op.exec o c.shared).2) (Op.exec o c.shared).1 g' := by
      intro ht hpending
      rcases underWay_or hdeletes' with rfl | rfl | hw
      · exact fun htag => absurd ⟨ht, htag⟩ hapart
      · exact fun htag => absurd ⟨ht, htag⟩ hapart
      · rw [raceHolds_underWay hw] at hg'
        exact absurd (hpending hg'.1) hg'.2.1
    rcases phase_cases hg with ⟨rfl, ht⟩ | ⟨hinner, ht, hpending⟩ | hdeletes
    · exact hbefore ht fun hγ => absurd (hg.2.1.symm.trans hγ) Bool.false_ne_true
    · exact hbefore ht fun _ => hpending
    · exact hg'.shed hdeletes' (sheds_exec (hmakesNone hdeletes)) fun hγ => noteStop_true hγ _

omit h

theorem raceOutline_sound (spec : HostSpec) (cmd : CreateVmCommand) :
    (raceOutline spec cmd).Sound (discipline spec) (race spec) (KeepsClear cmd.vmId) where
  governs := discipline_governs spec
  symm := fun h h' => h ⟨h'.2, h'.1⟩
  spawn := nofun
  exec := fun h => ⟨⟨h.inv.1, (race_exec h).1⟩, (race_exec h).2⟩
  frame := fun h htask hapart hat hg => race_frame h (mem_of_mem_eraseIdx htask) hapart hat hg
  reboot := fun h => h
  reboot_holds := fun h => h

theorem annotated_start {s : Host} (hs : s.Ledgered spec cmd.vmId) (hsettled : s.Settled cmd) :
    (raceOutline spec cmd).Annotated (discipline spec) (Race.start spec cmd s) false where
  inv := by
    refine ⟨fun t ht => ?_, hs⟩
    simpa [Race.start] using ht
  known := by
    intro task htask
    simp only [Race.start, mem_cons, not_mem_nil, or_false] at htask
    rcases htask with rfl | rfl
    · exact mem_cons_self
    · exact mem_cons_of_mem _ mem_cons_self
  apart := pairwise_pair.mpr fun h => nomatch h.2
  phases := by
    intro task htask
    simp only [Race.start, mem_cons, not_mem_nil, or_false] at htask
    rcases htask with rfl | rfl
    · exact ⟨.start, discipline_governs spec (.create cmd), rfl, rfl, hsettled⟩
    · exact ⟨.looking, discipline_governs spec (.tombstone cmd.vmId), nofun⟩

end Sound

/-- **An acked tombstone means the VM is gone**, in every interleaving of the create and the delete in which
    the delete keeps clear of the create, from a host with a proper ledger. -/
theorem acked_is_clean {spec : HostSpec} {cmd : CreateVmCommand} {s : Host} {schedule : List Nat} {c : Race}
    (hs : s.Ledgered spec cmd.vmId) (hsettled : s.Settled cmd)
    (hclear : (race spec).Along (KeepsClear cmd.vmId) (Race.start spec cmd s) (schedule.map .step))
    (hrun : (race spec).run (Race.start spec cmd s) (schedule.map .step) = some c) :
    Race.AckedClean spec cmd.vmId c := by
  intro _ hacked
  obtain ⟨γ, hc⟩ := Outline.annotated_run (raceOutline_sound spec cmd) (annotated_start hs hsettled) hclear hrun
  obtain ⟨g, hat, hg⟩ := hc.phases _ hacked
  rcases hat with rfl | rfl
  · exact hg.elim
  · exact clean_of_gone hg.2.2.1 hg.2.2.2 hc.inv.2

theorem ledgered_smallHost : smallHost.Ledgered smallSpec smallCommand.vmId where
  covered := nofun
  configured := nofun

theorem settled_smallHost : smallHost.Settled smallCommand := nofun

/-- The tombstone arrives when the create has begun, and waits for it. -/
def politeSchedule : List Nat := [0, 1] ++ List.replicate 30 0 ++ List.replicate 17 1

def afterPolite : Race :=
  (race smallSpec).after (Race.start smallSpec smallCommand smallHost) (politeSchedule.map .step)

theorem acked_is_clean_small :
    smallHost.Ledgered smallSpec smallCommand.vmId ∧ smallHost.Settled smallCommand ∧
      (race smallSpec).Along (KeepsClear smallCommand.vmId) (Race.start smallSpec smallCommand smallHost)
        (politeSchedule.map .step) ∧
      (race smallSpec).run (Race.start smallSpec smallCommand smallHost) (politeSchedule.map .step) = some afterPolite ∧
      (∀ task ∈ afterPolite.tasks, task.prog.finished = true) ∧ Race.Acked smallCommand.vmId afterPolite ∧
      Race.AckedClean smallSpec smallCommand.vmId afterPolite := by
  have hclear : (race smallSpec).Along (KeepsClear smallCommand.vmId) (Race.start smallSpec smallCommand smallHost)
      (politeSchedule.map .step) := by decide +kernel
  have hrun : (race smallSpec).run (Race.start smallSpec smallCommand smallHost) (politeSchedule.map .step) =
      some afterPolite := Transition.run_eq_after (by decide +kernel)
  have hended : ∀ task ∈ afterPolite.tasks, task.prog.finished = true := by decide +kernel
  have hacked : Race.Acked smallCommand.vmId afterPolite := mem_of_getElem? (i := 1) rfl
  exact ⟨ledgered_smallHost, settled_smallHost, hclear, hrun, hended, hacked,
    acked_is_clean ledgered_smallHost settled_smallHost hclear hrun⟩

/-- The tombstone's delete runs just before the create starts the unit. -/
def rudeSchedule : List Nat := List.replicate 28 0 ++ List.replicate 19 1 ++ List.replicate 3 0

def afterRude : Race := (race smallSpec).after (Race.start smallSpec smallCommand smallHost) (rudeSchedule.map .step)

/-- Both tasks have returned `Ok`, the tombstone is acked, and the unit runs. -/
theorem acked_not_clean : ∃ spec cmd s schedule c,
    Host.Ledgered spec cmd.vmId s ∧ s.Settled cmd ∧
      (race spec).run (Race.start spec cmd s) (List.map .step schedule) = some c ∧
      ¬ Race.AckedClean spec cmd.vmId c := by
  have hrun : (race smallSpec).run (Race.start smallSpec smallCommand smallHost) (rudeSchedule.map .step) =
      some afterRude := Transition.run_eq_after (by decide +kernel)
  refine ⟨smallSpec, smallCommand, smallHost, rudeSchedule, afterRude, ledgered_smallHost, settled_smallHost, hrun,
    fun hclean => ?_⟩
  have hended : ∀ task ∈ afterRude.tasks, task.prog.finished = true := by decide +kernel
  have hacked : Race.Acked smallCommand.vmId afterRude := mem_of_getElem? (i := 1) rfl
  have hunit : afterRude.shared.loaded (unitNameForVm smallCommand.vmId) = true := by decide +kernel
  exact Bool.false_ne_true ((hclean hended hacked).detached.unit.symm.trans hunit)

end BasisCell.Agent
