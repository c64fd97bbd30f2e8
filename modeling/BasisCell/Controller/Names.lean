import BasisCell.Controller.Leaks

/-!
# `BasisCell.Controller.Names` — creating twice under one name

Clients retry: any number of `create_machine` calls may come in for one name of one cluster, and any number of
`create_cluster` calls for one name. The unique keys of the two tables let one row in; a call that loses, at its
first lookup, at the insert or in a later round of its retry loop, answers with the row that has the name.
As long as no row is deleted that row is the same for all, and what the losers have allocated is released
(`Controller.Leaks`).
-/

namespace BasisCell

open Conc Relational Table

/-! ## Rows under a name -/

namespace Db

variable {db : Db}

/-- The row `id` is the VM that the request asks for. -/
def VmNamed (db : Db) (id : VmId) (req : CreateMachineRequest) : Prop :=
  ∃ v ∈ db.vms.rows, v.id = id ∧ v.clusterId = req.clusterId ∧ v.name = req.name

/-- The row `id` is the cluster that the request asks for. -/
def ClusterNamed (db : Db) (id : ClusterId) (req : CreateClusterRequest) : Prop :=
  ∃ k ∈ db.clusters.rows, k.id = id ∧ k.name = req.name

theorem vmNamed_of_getVmByName {req : CreateMachineRequest} {vm : VmRow}
    (h : db.getVmByName req.clusterId req.name = some vm) : db.VmNamed vm.id req := by
  have hmem := List.mem_of_find?_eq_some h
  have hsel := List.find?_some h
  obtain ⟨hcluster, hname⟩ := of_decide_eq_true hsel
  exact ⟨vm, hmem, rfl, hcluster, hname⟩

theorem clusterNamed_of_getClusterByName {req : CreateClusterRequest} {k : ClusterRow}
    (h : db.getClusterByName req.name = some k) : db.ClusterNamed k.id req := by
  have hmem := List.mem_of_find?_eq_some h
  have hsel := List.find?_some h
  exact ⟨k, hmem, rfl, of_decide_eq_true hsel⟩

end Db

/-- The call deletes no VM and no cluster. -/
def Write.keepsRows (db : Db) : Write → Bool
  | .ackTombstones hostId vnis vmIds => (∀ v ∈ db.vms.rows, Db.ackedVm hostId vmIds v = false) ∧
    ∀ k ∈ db.clusters.rows, k.vni ∈ vnis → db.keptThrough hostId vmIds k.id = true
  | _ => true

/-- The event deletes no row, cancels no handler and restarts nothing. -/
def Cell.undeleting (c : Cell) : Event Activity → Prop
  | .drop _ => False
  | .crash => False
  | e => Cell.Checks Write.keepsRows c e

instance (c : Cell) : (e : Event Activity) → Decidable (c.undeleting e)
  | .spawn _ | .step _ | .drop _ | .crash => by dsimp only [Cell.undeleting]; infer_instance

section Kept

variable {db : Db} {w : Write}

theorem vmNamed_kept {id : VmId} {req : CreateMachineRequest} (hkeeps : w.keepsRows db = true)
    (h : db.VmNamed id req) : (w.exec db).1.VmNamed id req := by
  obtain ⟨v, hv, hid, hcluster, hname⟩ := h
  obtain ⟨v', hv', hleaves⟩ | ⟨hostId, vnis, vmIds, rfl, hacked⟩ := Write.vms_kept (w := w) hv
  · have hsame := hleaves.same
    exact ⟨v', hv', hsame.id.symm.trans hid, hsame.clusterId.symm.trans hcluster, hsame.name.symm.trans hname⟩
  · have hspared := (of_decide_eq_true hkeeps).1 v hv
    rw [hacked] at hspared
    cases hspared

theorem clusterNamed_kept {id : ClusterId} {req : CreateClusterRequest} (hkeeps : w.keepsRows db = true)
    (h : db.ClusterNamed id req) : (w.exec db).1.ClusterNamed id req := by
  obtain ⟨k, hk, hid, hname⟩ := h
  obtain ⟨k', hk', hsame⟩ | ⟨hostId, vnis, vmIds, rfl, hvni, hdrained⟩ := Write.clusters_kept (w := w) hk
  · have hname' : k.name = k'.name := congrArg (·.name) hsame
    exact ⟨k', hk', hsame.id.symm.trans hid, hname'.symm.trans hname⟩
  · have hspared := (of_decide_eq_true hkeeps).2 k hk hvni
    rw [hdrained] at hspared
    cases hspared

end Kept

/-! ## What a create knows of the row it answers with -/

/-- The row a create has inserted or come across is the one that was asked for. -/
def Course.Names (db : Db) : Activity → Course → Prop
  | .createMachine req vmId _, .placed _ _ => db.VmNamed vmId req
  | .createMachine req vmId _, .joined _ => db.VmNamed vmId req
  | .createMachine req vmId _, .awaited _ => db.VmNamed vmId req
  | .createMachine req _ _, .answered vm => db.VmNamed vm.id req
  | .createCluster req _, .settled row => db.ClusterNamed row.id req
  | _, _ => True

def naming : Outline Activity Op Op.Resp Shared Course Unit where
  aux := fun _ _ _ _ => ()
  inv := fun _ _ _ => True
  holds := fun t g _ s => g.Names s.db t
  apart := fun _ _ => True

section Steps

variable {s : Shared} {t : Activity} {g : Course} {o : Op}

/-- What a create knows of its row outlasts every step that deletes none. -/
theorem names_kept (hkeeps : ∀ w, o = .write w → w.keepsRows s.db = true) (h : g.Names s.db t) :
    g.Names (o.exec s).1.db t := by
  refine o.db_elim s h ?_
  rintro w rfl
  rw [Op.exec_write_db]
  have hkeeps := hkeeps w rfl
  cases t with
  | createMachine req vmId picks => cases g <;> first | exact vmNamed_kept hkeeps h | trivial
  | createCluster req ids => cases g <;> first | exact clusterNamed_kept hkeeps h | trivial
  | _ => trivial

/-- **A create's own step**: the row it inserts or reads is the one that was asked for. -/
theorem names_exec (hallow : Proceeds t g o) (hkeeps : ∀ w, o = .write w → w.keepsRows s.db = true)
    (h : g.Names s.db t) : (g.next o (o.exec s).2).Names (o.exec s).1.db t := by
  have hkept : g.Names (o.exec s).1.db t := names_kept hkeeps h
  cases hallow with
  | aside hun =>
    rw [Course.next_of_unnoticed hun]
    exact hkept
  | @look req vmId picks k =>
    show (Course.next (.found k) (.query (.getVmByName req.clusterId req.name))
      (s.db.getVmByName req.clusterId req.name)).Names s.db _
    cases hnamed : s.db.getVmByName req.clusterId req.name with
    | none => trivial
    | some vm => exact Db.vmNamed_of_getVmByName hnamed
  | @insert req vmId picks k vm gpus disks hid hcluster hname =>
    rw [Op.exec_write_resp, Op.exec_write_db]
    cases hins : ((Write.insertVm vm gpus disks).exec s.db).2 with
    | error e => trivial
    | ok u => exact ⟨vm, Write.mem_of_insertVm hins, hid, hcluster, hname⟩
  | @join req vmId picks cluster vm =>
    rw [Op.exec_write_resp]
    cases ((Write.ensureHostClusterActive cluster vm.hostId).exec s.db).2 with
    | error e | ok ip => exact hkept
  | @await req vmId picks vm =>
    generalize ((Op.mem (.awaitOutcome vmId)).exec s).2 = r
    cases r with
    | resolved result => cases result <;> exact hkept
    | recvError | elapsed => exact hkept
  | @read req vmId picks vm =>
    show (Course.next (.awaited vm) (.query (.getVm vmId)) (s.db.getVm vmId)).Names s.db _
    cases hread : s.db.getVm vmId with
    | error e => trivial
    | ok row =>
      show s.db.VmNamed row.id req
      rw [(Db.getVm_ok hread).2]
      exact h
  | @lookCluster req ids =>
    show (Course.next .idle (.query (.getClusterByName req.name)) (s.db.getClusterByName req.name)).Names s.db _
    cases hnamed : s.db.getClusterByName req.name with
    | none => trivial
    | some row => exact Db.clusterNamed_of_getClusterByName hnamed
  | @insertCluster req ids row i hid hname =>
    rw [Op.exec_write_resp, Op.exec_write_db]
    cases hins : ((Write.insertCluster row).exec s.db).2 with
    | error e => trivial
    | ok u => exact ⟨row, Write.mem_of_insertCluster hins, rfl, hname⟩
  | @find req vmId picks =>
    generalize ((Op.query (.getCluster req.clusterId)).exec s).2 = r
    cases r <;> trivial
  | @address req vmId picks k cluster =>
    rw [Op.exec_write_resp]
    cases ((Write.allocateClusterVmIp cluster vmId).exec s.db).2 <;> trivial
  | poolVip i hwithin | privateVip i hwithin | serviceBlock i hwithin => rcases hwithin with rfl | rfl <;> trivial
  | _ => trivial

end Steps

theorem naming_sound (settings : Settings) : naming.Sound courses (cell settings) Cell.undeleting where
  governs := courses_govern settings
  symm := id
  spawn := by
    intro started γ s t _ _
    refine ⟨trivial, ?_, fun _ _ => trivial⟩
    cases t <;> trivial
  exec := by
    intro c γ i t g o hfires
    refine ⟨trivial, names_exec hfires.allowed ?_ hfires.holds⟩
    rintro w rfl
    exact hfires.cond w (Cell.nextWrite_of_nextOp hfires.op)
  frame := by
    intro c γ i t g o task g' hfires _ _ _ hholds
    refine names_kept ?_ hholds
    rintro w rfl
    exact hfires.cond w (Cell.nextWrite_of_nextOp hfires.op)
  reboot := id
  reboot_holds := id

/-! ## Every run -/

/-- Names are idempotent: one row per name, one identifier in all successful answers for it, and once all
    creates have returned, no address without a row. -/
structure Idempotent (c : Cell) : Prop where
  oneVm : ∀ v ∈ c.shared.db.vms.rows, ∀ v' ∈ c.shared.db.vms.rows,
    v.clusterId = v'.clusterId → v.name = v'.name → v = v'
  oneCluster : ∀ k ∈ c.shared.db.clusters.rows, ∀ k' ∈ c.shared.db.clusters.rows, k.name = k'.name → k = k'
  sameVm : ∀ {req vmId picks r req' vmId' picks' r'},
    ⟨.createMachine req vmId picks, .ret (.ok (.machine r))⟩ ∈ c.tasks →
    ⟨.createMachine req' vmId' picks', .ret (.ok (.machine r'))⟩ ∈ c.tasks →
    req.clusterId = req'.clusterId → req.name = req'.name → r.id = r'.id
  sameCluster : ∀ {req ids r req' ids' r'},
    ⟨.createCluster req ids, .ret (.ok (.cluster r))⟩ ∈ c.tasks →
    ⟨.createCluster req' ids', .ret (.ok (.cluster r'))⟩ ∈ c.tasks → req.name = req'.name → r.clusterId = r'.clusterId
  leakless : c.createsDone → c.shared.db.Leakless

section Answers

variable {c : Cell} {γ : Unit}

/-- A successful `create_machine` names the row under the name. -/
theorem vmNamed_of_reply (h : naming.Annotated courses c γ) {req : CreateMachineRequest} {vmId : VmId}
    {picks : Picks} {r : CreateMachineResponse}
    (htask : ⟨.createMachine req vmId picks, .ret (.ok (.machine r))⟩ ∈ c.tasks) : c.shared.db.VmNamed r.id req := by
  obtain ⟨g, ⟨vm, rfl, hreply⟩, hnames⟩ := h.phases _ htask
  cases hreply
  exact hnames

theorem clusterNamed_of_reply (h : naming.Annotated courses c γ) {req : CreateClusterRequest}
    {ids : RoundIds} {r : CreateClusterResponse}
    (htask : ⟨.createCluster req ids, .ret (.ok (.cluster r))⟩ ∈ c.tasks) :
    c.shared.db.ClusterNamed r.clusterId req := by
  obtain ⟨g, ⟨row, r', rfl, hreply, hid⟩, hnames⟩ := h.phases _ htask
  cases hreply
  rw [hid]
  exact hnames

/-- The invariants make names idempotent. -/
theorem idempotent_of_annotated (h : naming.Annotated courses c γ) (ha : Answered c) : Idempotent c where
  oneVm := fun v hv v' hv' hcluster hname => eq_of_clash hv hv' (.inr ⟨hcluster, hname⟩)
  oneCluster := fun k hk k' hk' hname => eq_of_clash hk hk' (.inr (.inl hname))
  sameVm := by
    intro req vmId picks r req' vmId' picks' r' htask htask' hcluster hname
    obtain ⟨v, hv, hid, hvc, hvn⟩ := vmNamed_of_reply h htask
    obtain ⟨v', hv', hid', hvc', hvn'⟩ := vmNamed_of_reply h htask'
    have hsame : v = v' := by
      apply eq_of_clash hv hv' (.inr ⟨_, _⟩)
      · rw [hvc, hvc', hcluster]
      · rw [hvn, hvn', hname]
    rw [← hid, ← hid', hsame]
  sameCluster := by
    intro req ids r req' ids' r' htask htask' hname
    obtain ⟨k, hk, hid, hkn⟩ := clusterNamed_of_reply h htask
    obtain ⟨k', hk', hid', hkn'⟩ := clusterNamed_of_reply h htask'
    have hsame : k = k' := by
      apply eq_of_clash hk hk' (.inr (.inl _))
      rw [hkn, hkn', hname]
    rw [← hid, ← hid', hsame]
  leakless := leakless_of_answered ha

end Answers

/-- **Names are idempotent under concurrency.** -/
theorem names_idempotent (settings : Settings) (db : Db) (es : List (Event Activity)) (c : Cell) (hdb : db.Leakless)
    (hal : (cell settings).Along Cell.undeleting (Cell.start db) es)
    (hrun : (cell settings).run (Cell.start db) es = some c) : Idempotent c := by
  have hstart : naming.Annotated courses (Cell.start db) () := Outline.annotated_empty trivial
  obtain ⟨γ, hnamed⟩ := Outline.annotated_run (naming_sound settings) hstart hal hrun
  have hstart' : Answered (Cell.start db) :=
    ⟨List.forall_mem_nil _, fun a ha => .inl (hdb a ha)⟩
  -- a run without cancellations and restarts strands no address
  have hanswered : Answered c := by
    refine Machine.run_invariant (C := Cell.undeleting) (fun {c e c'} h hcond hstep => ?_) hstart' hal hrun
    apply answered_step h _ hstep
    cases e with
    | drop i | crash => cases hcond
    | spawn t | step i => trivial
  exact idempotent_of_annotated hnamed hanswered

/-- Two calls race for one machine: the second has looked the name up before the first inserts its row, so it
    allocates, is rejected at its insert, and answers with the first one's row. A second call for the cluster
    finds it at once. -/
def raceForNames : List (Event Activity) :=
  upToCluster ++ [.spawn createWorker, .spawn (createWorkerAs "worker" "v2"),
    .spawn (.createCluster (requestFor "alpha" 0) fun i => s!"d{i}")] ++
  steps 3 2 ++ steps 2 4 ++ steps 3 4 ++ steps 4 1 ++ steps 2 17 ++
    .spawn (reportRunning "v1") :: steps 5 5 ++ steps 2 2

theorem names_idempotent_race :
    ∃ c : Cell, (cell smallCell).run (Cell.start (Db.create id)) raceForNames = some c ∧ Idempotent c := by
  have hrun := run_reached raceForNames (by decide +kernel)
  refine ⟨_, hrun, ?_⟩
  apply names_idempotent smallCell (Db.create id) raceForNames _ _ _ hrun
  · decide
  · decide +kernel

end BasisCell
