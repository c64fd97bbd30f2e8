import BasisCell.Controller.Creates
import BasisCell.Controller.Election
import BasisCell.Controller.Teardown

/-!
# `BasisCell.Controller.Membership` — a live VM keeps its network

A VM whose `create_machine` has passed `ensure_host_cluster_active` relies on the ACTIVE membership of its
host in its cluster. Two calls mark memberships for teardown. `mark_host_cluster_pending_teardown` looks for
live VMs in the same statement. `mark_cluster_pending_teardown_all_hosts` does not: `delete_cluster` has listed
and marked the cluster's VMs before it, and a VM that came in between is not among them. And a VM that is
being torn down may be written FAILED again by a `create_machine` that times out, when its membership is gone.

`live_vm_networked` is the invariant in the runs where neither happens; `live_vm_cut_off` is a run where the
first does.
-/

namespace BasisCell

open Conc Relational Table List Transition

/-! ## Memberships after a call -/

section Write

variable {db : Db} {w : Write} {clusterId : ClusterId} {hostId : HostId}

/-- A VM on the host, in the cluster, that is not being torn down. -/
def Db.Houses (db : Db) (clusterId : ClusterId) (hostId : HostId) : Prop :=
  ∃ v ∈ db.vms.rows, v.hostId = hostId ∧ v.clusterId = clusterId ∧ v.state ≠ .pendingTeardown

/-- **An ACTIVE membership stays, unless one of two calls marks it**: one that has found no live VM behind it,
    and one that does not look. -/
theorem Write.activeIn_kept (h : db.ActiveIn clusterId hostId) :
    (w.exec db).1.ActiveIn clusterId hostId ∨
      w = .markHostClusterPendingTeardown clusterId hostId ∧ ¬db.Houses clusterId hostId ∨
      w = .markClusterPendingTeardownAllHosts clusterId := by
  obtain ⟨hc, hrow, rfl, rfl, hactive⟩ := h
  refine w.exec_elim db (.inl ⟨hc, hrow, rfl, rfl, hactive⟩) fun heff => ?_
  cases heff with
  | @reactivated cluster host ip =>
    refine .inl ⟨_, mem_map.mpr ⟨hc, hrow, rfl⟩, ?_⟩
    split
    · exact ⟨rfl, rfl, rfl⟩
    · exact ⟨rfl, rfl, hactive⟩
  | joined hins => exact .inl ⟨hc, (mem_insert hins).mpr (.inl hrow), rfl, rfl, hactive⟩
  | @markHostClusterPendingTeardown k host =>
    by_cases hpair : hc.clusterId = k ∧ hc.hostId = host ∧ ¬db.Houses k host
    · obtain ⟨rfl, rfl, hempty⟩ := hpair
      exact .inr (.inl ⟨rfl, hempty⟩)
    · refine .inl ⟨hc, mem_map.mpr ⟨hc, hrow, ?_⟩, rfl, rfl, hactive⟩
      refine if_neg fun hsel => hpair ?_
      obtain ⟨hcluster, hhost, hnone⟩ := of_decide_eq_true hsel
      refine ⟨hcluster, hhost, fun ⟨v, hv, hlive⟩ => ?_⟩
      rw [Bool.not_eq_true', any_eq_false] at hnone
      exact hnone v hv (decide_eq_true hlive)
  | @markClusterPendingTeardownAllHosts k =>
    by_cases hcluster : hc.clusterId = k
    · rw [hcluster]
      exact .inr (.inr rfl)
    · refine .inl ⟨hc, mem_map.mpr ⟨hc, hrow, ?_⟩, rfl, rfl, hactive⟩
      exact if_neg fun hsel => hcluster (of_decide_eq_true hsel)
  | ackTombstones =>
    refine .inl ⟨hc, Db.mem_hostClusters_ackTombstones.mpr ⟨hrow, ?_⟩, rfl, rfl, hactive⟩
    rintro ⟨-, hpending, -⟩
    cases hactive.symm.trans hpending
  | _ => exact .inl ⟨hc, hrow, rfl, rfl, hactive⟩

variable {cluster : ClusterRow} {ip : Ipv4Addr}

theorem Db.activeIn_of_ensure {db' : Db}
    (h : db.ensureHostClusterActive cluster hostId = .ok (db', ip)) : db'.ActiveIn cluster.id hostId := by
  unfold ensureHostClusterActive at h
  split at h
  · rename_i hc hfind
    cases h
    have hrow : hc ∈ db.hostClusters.rows := mem_of_find?_eq_some hfind
    have hsel := List.find?_some hfind
    obtain ⟨hcluster, hhost⟩ := of_decide_eq_true hsel
    refine ⟨_, mem_map.mpr ⟨hc, hrow, rfl⟩, ?_⟩
    rw [if_pos hsel]
    exact ⟨hcluster, hhost, rfl⟩
  · repeat' split at h
    all_goals cases h
    rename_i hins
    exact ⟨_, (mem_insert hins).mpr (.inr rfl), rfl, rfl, rfl⟩

theorem Write.activeIn_ensured (h : ((Write.ensureHostClusterActive cluster hostId).exec db).2 = .ok ip) :
    ((Write.ensureHostClusterActive cluster hostId).exec db).1.ActiveIn cluster.id hostId := by
  unfold Write.exec at h ⊢
  split at h
  · rename_i db' ip' happly
    exact Db.activeIn_of_ensure happly
  · cases h

end Write

/-! ## Who has joined -/

/-- The history: the VMs whose `create_machine` has passed `ensure_host_cluster_active`. -/
def noteJoin (joined : List VmId) (t : Activity) : (o : Op) → o.Resp → List VmId
  | .write (.ensureHostClusterActive _ _), .ok _ =>
    match t with
    | .createMachine _ vmId _ => vmId :: joined
    | _ => joined
  | _, _ => joined

/-- Every live VM that has joined has an ACTIVE membership behind it. -/
def Networked (joined : List VmId) (db : Db) : Prop :=
  ∀ v ∈ db.vms.rows, v.state ≠ .pendingTeardown → v.id ∈ joined → db.ActiveIn v.clusterId v.hostId

instance (joined : List VmId) (db : Db) : Decidable (Networked joined db) :=
  inferInstanceAs (Decidable (∀ v ∈ db.vms.rows, _))

/-- The condition on a run: memberships of a whole cluster are marked only when all its VMs are being torn
    down, and no state is written over PENDING_TEARDOWN. -/
def Write.keepsNetwork (db : Db) : Write → Bool
  | .markClusterPendingTeardownAllHosts clusterId =>
    ∀ v ∈ db.vms.rows, v.clusterId = clusterId → v.state = .pendingTeardown
  | w => w.respects db

/-- What a create knows until it has joined: that it has not, and, once its row is in, where it will. -/
def Course.Unjoined (joined : List VmId) (db : Db) : Activity → Course → Prop
  | .createMachine _ vmId _, .idle => vmId ∉ joined
  | .createMachine req vmId _, .found k => vmId ∉ joined ∧ k = req.clusterId
  | .createMachine req vmId _, .addressed k => vmId ∉ joined ∧ k = req.clusterId
  | .createMachine req vmId _, .placed k vm => (vmId ∉ joined ∧ k = req.clusterId) ∧
    ∀ v ∈ db.vms.rows, v.id = vmId → v.clusterId = k ∧ v.hostId = vm.hostId
  | _, _ => True

def membership : Outline Activity Op Op.Resp Shared Course (List VmId) where
  aux := noteJoin
  inv := fun started joined s => (∀ v ∈ joined, ∃ t ∈ started, v ∈ t.mints) ∧ Networked joined s.db
  holds := fun t g joined s => g.Unjoined joined s.db t
  apart := Activity.Apart

/-! ### Steps -/

section Steps

variable {s : Shared} {db : Db} {w : Write} {t : Activity} {g : Course} {o : Op} {joined : List VmId} {v : VmId}

variable {r : o.Resp} {vm : VmRow} {gpus : List GpuAssignment} {disks : List DiskPlacement}

/-- Only the VM of the create that steps can join in a step. -/
theorem mem_noteJoin (h : v ∈ noteJoin joined t o r) : v ∈ joined ∨ v ∈ t.mints := by
  unfold noteJoin at h
  split at h
  · split at h
    · rcases mem_cons.mp h with rfl | h
      · exact .inr (mem_singleton_self _)
      · exact .inl h
    · exact .inl h
  · exact .inl h

theorem noteJoin_of_ne (h : ∀ cluster hostId, o ≠ .write (.ensureHostClusterActive cluster hostId)) :
    noteJoin joined t o r = joined := by
  unfold noteJoin
  split
  · exact absurd rfl (h _ _)
  · rfl

/-- A VM row goes in only by the create that has minted its identifier. -/
theorem mints_of_insertVm (h : Proceeds t g (.write (.insertVm vm gpus disks))) : vm.id ∈ t.mints := by
  cases h with
  | aside hunnoticed => cases g <;> cases hunnoticed
  | insert hid => exact hid ▸ mem_singleton_self _

/-- A row that is live after a call that the condition lets through was live before, or is new. -/
theorem live_before {r r' : VmRow} (hkeeps : w.keepsNetwork db = true) (hr : r ∈ db.vms.rows)
    (hleaves : w.Leaves r r') (hlive : r'.state ≠ .pendingTeardown) : r.state ≠ .pendingTeardown := by
  intro hpending
  rw [hleaves.state, hpending] at hlive
  cases w with
  | markVmsFailedOnHost hostId reason =>
    have hspare := of_decide_eq_true hkeeps r hr
    simp only [Write.sets] at hlive
    split at hlive
    · rename_i hfails
      exact hspare (of_decide_eq_true hfails).1 hpending
    · exact hlive rfl
  | updateVmState vmId state message =>
    have hspare := of_decide_eq_true hkeeps
    simp only [Write.sets] at hlive
    split at hlive
    · rename_i hid
      rcases hspare with hstate | hspare
      · exact hlive hstate
      · exact hspare r hr hid hpending
    · exact hlive rfl
  | markVmPendingTeardown vmId =>
    simp only [Write.sets] at hlive
    split at hlive <;> exact hlive rfl
  | _ => exact hlive rfl

/-- **A call that the condition lets through leaves every VM that has joined its network.** -/
theorem networked_exec (hkeeps : w.keepsNetwork db = true)
    (hnew : ∀ vm gpus disks, w = .insertVm vm gpus disks → vm.id ∉ joined) (h : Networked joined db) :
    Networked joined (w.exec db).1 := by
  intro r' hr' hlive hjoined
  obtain ⟨r, hr, hleaves⟩ | ⟨⟨gpus, disks, hw⟩, -⟩ := Write.vms_exec hr'
  · have hlive' : r.state ≠ .pendingTeardown := live_before hkeeps hr hleaves hlive
    rw [← hleaves.same.id] at hjoined
    rw [← hleaves.same.clusterId, ← hleaves.same.hostId]
    rcases Write.activeIn_kept (w := w) (h r hr hlive' hjoined) with hactive | ⟨-, hempty⟩ | rfl
    · exact hactive
    · exact absurd ⟨r, hr, rfl, rfl, hlive'⟩ hempty
    · exact absurd (of_decide_eq_true hkeeps r hr rfl) hlive'
  · exact absurd hjoined (hnew r' gpus disks hw)

theorem rows_kept {vmId : VmId} {P : ClusterId → HostId → Prop}
    (hnew : ∀ vm gpus disks, w = .insertVm vm gpus disks → vm.id ≠ vmId)
    (h : ∀ r ∈ db.vms.rows, r.id = vmId → P r.clusterId r.hostId) :
    ∀ r ∈ (w.exec db).1.vms.rows, r.id = vmId → P r.clusterId r.hostId := by
  intro r' hr' hid
  obtain ⟨r, hr, hleaves⟩ | ⟨⟨gpus, disks, hw⟩, -⟩ := Write.vms_exec hr'
  · have hold := h r hr (hleaves.same.id.trans hid)
    rw [hleaves.same.clusterId, hleaves.same.hostId] at hold
    exact hold
  · exact absurd hid (hnew r' gpus disks hw)

/-- What a create knows survives the steps of others. -/
theorem unjoined_frame {t' : Activity} (hallow : Proceeds t g o) (hapart : t.Apart t') {g' : Course}
    (h : g'.Unjoined joined s.db t') : g'.Unjoined (noteJoin joined t o (o.exec s).2) (o.exec s).1.db t' := by
  cases t' with
  | createMachine req vmId picks =>
    have hother : vmId ∉ joined → vmId ∉ noteJoin joined t o (o.exec s).2 := by
      intro hnot hmem
      rcases mem_noteJoin hmem with hmem | hmint
      · exact hnot hmem
      · exact hapart vmId hmint (mem_singleton_self _)
    cases g' with
    | idle => exact hother h
    | found k | addressed k => exact ⟨hother h.1, h.2⟩
    | placed k vm =>
      refine ⟨⟨hother h.1.1, h.1.2⟩, ?_⟩
      refine o.db_elim s h.2 ?_
      rintro w rfl
      rw [Op.exec_write_db]
      apply rows_kept (P := fun c host => c = k ∧ host = vm.hostId) _ h.2
      rintro new gpus disks rfl hid
      exact hapart new.id (mints_of_insertVm hallow) (hid ▸ mem_singleton_self _)
    | _ => trivial
  | _ => trivial

/-- What a create knows survives its own steps that its course takes no notice of. -/
theorem unjoined_aside (hun : g.notices o = false) (h : g.Unjoined joined s.db t) :
    g.Unjoined joined (o.exec s).1.db t := by
  cases t with
  | createMachine req vmId picks =>
    cases g with
    | placed k vm =>
      refine ⟨h.1, ?_⟩
      refine o.db_elim s h.2 ?_
      rintro w rfl
      rw [Op.exec_write_db]
      apply rows_kept (P := fun c host => c = k ∧ host = vm.hostId) _ h.2
      rintro new gpus disks rfl
      cases hun
    | _ => exact h
  | _ => trivial

/-- **A create's own step takes what it knows along.** -/
theorem unjoined_exec (hallow : Proceeds t g o) (h : g.Unjoined joined s.db t) :
    (g.next o (o.exec s).2).Unjoined (noteJoin joined t o (o.exec s).2) (o.exec s).1.db t := by
  cases hallow with
  | aside hun =>
    have hne : ∀ cluster hostId, o ≠ .write (.ensureHostClusterActive cluster hostId) := by
      rintro cluster hostId rfl
      cases g <;> cases hun
    rw [Course.next_of_unnoticed hun, noteJoin_of_ne hne]
    exact unjoined_aside hun h
  | @find req vmId picks =>
    show (Course.next .idle (.query (.getCluster req.clusterId)) (s.db.getCluster req.clusterId)).Unjoined joined s.db _
    cases hfound : s.db.getCluster req.clusterId with
    | error e => exact h
    | ok cluster => exact ⟨h, (Db.getCluster_ok hfound).2⟩
  | @look req vmId picks k =>
    show (Course.next (.found k) (.query (.getVmByName req.clusterId req.name))
      (s.db.getVmByName req.clusterId req.name)).Unjoined joined s.db _
    cases s.db.getVmByName req.clusterId req.name with
    | none => exact h
    | some row => trivial
  | @address req vmId picks k cluster =>
    rw [Op.exec_write_resp]
    cases ((Write.allocateClusterVmIp cluster vmId).exec s.db).2 with
    | error e | ok ip => exact h
  | @insert req vmId picks k vm gpus disks hid hcluster hname hstate =>
    rw [Op.exec_write_resp, Op.exec_write_db]
    cases hins : ((Write.insertVm vm gpus disks).exec s.db).2 with
    | error e => exact h
    | ok u =>
      refine ⟨h, fun r hr hrid => ?_⟩
      have hsame : r = vm := eq_of_clash hr (Write.mem_of_insertVm hins) (.inl (hrid.trans hid.symm))
      rw [hsame]
      exact ⟨hcluster.trans h.2.symm, rfl⟩
  | giveBack => exact h
  | @join req vmId picks cluster vm =>
    rw [Op.exec_write_resp, Op.exec_write_db]
    cases hjoin : ((Write.ensureHostClusterActive cluster vm.hostId).exec s.db).2 with
    | ok ip => trivial
    | error e =>
      rw [Write.exec_of_error hjoin]
      exact h
  | @await req vmId picks vm =>
    generalize ((Op.mem (.awaitOutcome vmId)).exec s).2 = r
    cases r with
    | resolved result => cases result <;> trivial
    | recvError | elapsed => trivial
  | @read req vmId picks vm =>
    generalize ((Op.query (.getVm vmId)).exec s).2 = r
    cases r <;> trivial
  | _ => trivial

/-- **A step keeps the invariant.** -/
theorem networked_step (hallow : Proceeds t g o) (hholds : g.Unjoined joined s.db t) (h : Networked joined s.db)
    (hkeeps : ∀ w, o = .write w → w.keepsNetwork s.db = true) :
    Networked (noteJoin joined t o (o.exec s).2) (o.exec s).1.db := by
  cases o with
  | query q => exact h
  | mem m =>
    rw [Op.exec_mem_db]
    exact h
  | write w =>
    rw [Op.exec_write_db, Op.exec_write_resp]
    -- whoever had joined stays networked; a new row has not joined
    have hold : Networked joined (w.exec s.db).1 := by
      apply networked_exec (hkeeps w rfl) _ h
      rintro vm gpus disks rfl
      cases hallow with
      | aside hun => cases g <;> cases hun
      | insert hid => exact hid ▸ hholds.1
    cases hallow with
    | @join req vmId picks cluster vm =>
      cases hjoin : ((Write.ensureHostClusterActive cluster vm.hostId).exec s.db).2 with
      | error e => exact hold
      | ok ip =>
        intro r hr hlive hmem
        rcases mem_cons.mp hmem with hid | hmem
        · -- the VM that joins here: its row names the cluster and the host that are made ACTIVE
          have hplace := rows_kept (w := .ensureHostClusterActive cluster vm.hostId)
            (P := fun c host => c = cluster.id ∧ host = vm.hostId) (by rintro _ _ _ ⟨⟩) hholds.2 r hr hid
          rw [hplace.1, hplace.2]
          exact Write.activeIn_ensured hjoin
        · exact hold r hr hlive hmem
    | aside hun =>
      rw [noteJoin_of_ne (by rintro cluster hostId ⟨⟩; cases g <;> cases hun)]
      exact hold
    | _ => exact hold

end Steps

/-! ### Every run -/

theorem membership_sound (settings : Settings) :
    membership.Sound courses (cell settings) (Cell.Checks Write.keepsNetwork) where
  governs := courses_govern settings
  symm := Activity.Apart.symm
  spawn := by
    intro started joined s t hfresh hinv
    have hapart : ∀ t' ∈ started, t'.Apart t := fun t' ht' => Activity.apart_of_fresh hfresh ht'
    refine ⟨⟨fun v hv => ?_, hinv.2⟩, ?_, hapart⟩
    · obtain ⟨t', ht', hmint⟩ := hinv.1 v hv
      exact ⟨t', mem_cons_of_mem _ ht', hmint⟩
    · cases t with
      | createMachine req vmId picks =>
        intro hjoined
        obtain ⟨t', ht', hmint⟩ := hinv.1 vmId hjoined
        exact hapart t' ht' vmId hmint (mem_singleton_self _)
      | _ => trivial
  exec := by
    intro c joined i t g o hfires
    have hkeeps : ∀ w, o = .write w → w.keepsNetwork c.shared.db = true := by
      rintro w rfl
      exact hfires.cond w (Cell.nextWrite_of_nextOp hfires.op)
    refine ⟨⟨fun v hv => ?_, networked_step hfires.allowed hfires.holds hfires.inv.2 hkeeps⟩,
      unjoined_exec hfires.allowed hfires.holds⟩
    rcases mem_noteJoin hv with hv | hmint
    · exact hfires.inv.1 v hv
    · exact ⟨t, hfires.known, hmint⟩
  frame := by
    intro c joined i t g o task g' hfires _ hapart _ hholds
    exact unjoined_frame hfires.allowed hapart hholds
  reboot := id
  reboot_holds := id

/-- **A live VM keeps its network** in every run in which the marks of a whole cluster come after its VMs are
    all being torn down, and nothing is written over PENDING_TEARDOWN. -/
theorem live_vm_networked (settings : Settings) (db : Db) (es : List (Event Activity)) (joined : List VmId) (c : Cell)
    (hal : Along ((cell settings).watched (membership.watch (cell settings)))
      (fun x e => Cell.Checks Write.keepsNetwork x.2 e) ([], Cell.start db) es)
    (hrun : run ((cell settings).watched (membership.watch (cell settings))) ([], Cell.start db) es =
      some (joined, c)) : Networked joined c.shared.db := by
  have hstart : membership.inv [] [] (Shared.boot db) :=
    ⟨forall_mem_nil _, fun _ _ _ hv => (not_mem_nil hv).elim⟩
  exact (Outline.annotated_watched (membership_sound settings) (Outline.annotated_empty hstart) hal hrun).inv.2

theorem live_vm_networked_smallCell :
    ∃ joined c, run ((cell smallCell).watched (membership.watch (cell smallCell)))
      ([], Cell.start (Db.create id)) upToWaiting = some (joined, c) ∧ Networked joined c.shared.db :=
  ⟨_, _, run_eq_after (by decide +kernel),
    live_vm_networked smallCell (Db.create id) upToWaiting _ _ (by decide +kernel)
      (run_eq_after (by decide +kernel))⟩

/-- `delete_cluster` lists the VMs of the cluster, a machine is placed in it and joins, and the deletion goes on
    to mark the memberships. -/
def placedDuringDelete : List (Event Activity) :=
  upToCluster ++ .spawn (.deleteCluster "c0") :: steps 2 2 ++ .spawn createWorker :: steps 3 5 ++ steps 2 1

/-- **A live VM may lose its network.** -/
theorem live_vm_cut_off :
    ∃ joined c, run ((cell smallCell).watched (membership.watch (cell smallCell)))
      ([], Cell.start (Db.create id)) placedDuringDelete = some (joined, c) ∧ ¬Networked joined c.shared.db :=
  ⟨_, _, run_eq_after (by decide +kernel), by decide +kernel⟩

end BasisCell
