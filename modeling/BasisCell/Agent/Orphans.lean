import BasisCell.Agent.Sweep
import BasisCell.Lib.Fallible

/-!
# `BasisCell.Agent.Orphans` — volumes that a reclaim leaves

The collector of volumes finds VMs by the names of their volumes and reclaims a VM by its reservations. So a VM is off
the list after its reclaim iff every data volume that lists it was in the ledger. Reading a VM off a name is sound: the
name of a data volume decodes to the one pair it was made from.
-/

namespace BasisCell.Agent

open Conc Relational Table Storage List Fallible

/-! ## Listing -/

/-- `list_managed_vm_ids`. -/
def listManagedVmIds (spec : HostSpec) (s : Host) : Except String (List VmId) := do
  return (← (Kind.lv.listings spec).mapM (Listing.ids s)).flatten

/-- A data volume in one of the pools that has the VM in its name. -/
def HostSpec.DataOf (spec : HostSpec) (vmId : VmId) (lv : Lv) : Prop :=
  (∃ pool ∈ spec.pools, ∃ dev ∈ pool.devices, dev.vg = lv.vg) ∧ (parseDataDiskLvName lv.name).map (·.1) = some vmId

/-- The volume keeps the VM on the list. -/
def HostSpec.Shows (spec : HostSpec) (vmId : VmId) (lv : Lv) : Prop :=
  (lv.vg = spec.rootfsVg ∧ lv.name = vmLvName vmId) ∨ spec.DataOf vmId lv

/-- A row of the VM in one of these pools reserves the volume. -/
def Host.Reserves (s : Host) (vmId : VmId) (pools : List PoolSpec) (lv : Lv) : Prop :=
  ∃ r ∈ s.reservations.rows, r.vmId = vmId ∧ r.pool ∈ pools.map (·.name) ∧ r.vg = lv.vg ∧ r.lvName = lv.name

section Listing

variable {spec : HostSpec} {s : Host} {vmId : VmId} {ids : List VmId}

theorem afterStart_eq_some {start name rest : String} : afterStart start name = some rest ↔ name = start ++ rest := by
  rw [afterStart, Option.map_eq_some_iff]
  constructor
  · rintro ⟨tail, htail, rfl⟩
    rw [isPrefixOf?_eq_some_iff_append_eq] at htail
    exact String.ext (by simp [htail])
  · rintro rfl
    exact ⟨rest.toList, isPrefixOf?_eq_some_iff_append_eq.mpr (by simp), by simp⟩

/-- One look at a volume group. -/
theorem looked_iff {vg : String} {f : String → Option VmId}
    (h : (s.lvNames vg).map (fun names => names.filterMap f) = .ok ids) :
    vmId ∈ ids ↔ ∃ lv ∈ s.lvs, lv.vg = vg ∧ f lv.name = some vmId := by
  unfold Host.lvNames at h
  split at h <;> cases h
  simp [and_assoc]

theorem listed_iff (h : listManagedVmIds spec s = .ok ids) : vmId ∈ ids ↔ ∃ lv ∈ s.lvs, spec.Shows vmId lv := by
  obtain ⟨lists, hlists, h⟩ := bind_ok h
  cases h
  rw [mem_flatten]
  constructor
  · rintro ⟨l, hl, hv⟩
    obtain ⟨look, hlook, hids⟩ := mem_of_mapM hlists l hl
    rcases mem_cons.mp hlook with rfl | hlook
    · obtain ⟨lv, hlv, hvg, hname⟩ := (looked_iff hids).mp hv
      exact ⟨lv, hlv, .inl ⟨hvg, afterStart_eq_some.mp hname⟩⟩
    · obtain ⟨pool, hpool, hlook⟩ := mem_flatMap.mp hlook
      obtain ⟨dev, hdev, rfl⟩ := mem_map.mp hlook
      obtain ⟨lv, hlv, hvg, hname⟩ := (looked_iff hids).mp hv
      exact ⟨lv, hlv, .inr ⟨⟨pool, hpool, dev, hdev, hvg.symm⟩, hname⟩⟩
  · rintro ⟨lv, hlv, ⟨hvg, hname⟩ | ⟨⟨pool, hpool, dev, hdev, hvg⟩, hname⟩⟩
    · obtain ⟨l, hl, hids⟩ := mapM_of_mem hlists _ mem_cons_self
      exact ⟨l, hl, (looked_iff hids).mpr ⟨lv, hlv, hvg, afterStart_eq_some.mpr hname⟩⟩
    · obtain ⟨l, hl, hids⟩ := mapM_of_mem hlists (.dataLvs dev.vg)
        (mem_cons_of_mem _ (mem_flatMap.mpr ⟨pool, hpool, mem_map_of_mem hdev⟩))
      exact ⟨l, hl, (looked_iff hids).mpr ⟨lv, hlv, hvg.symm, hname⟩⟩

theorem not_dataOf_rootfs {lv : Lv} (h : lv.name = vmLvName vmId) : ¬ spec.DataOf vmId lv := by
  rintro ⟨-, hparse⟩
  have hstart : afterStart "basis-data-" lv.name = none := by
    rw [Option.eq_none_iff_forall_ne_some]
    intro rest hrest
    have htext := congrArg String.toList (h.symm.trans (afterStart_eq_some.mp hrest))
    simp [vmLvName] at htext
  rw [parseDataDiskLvName, hstart] at hparse
  cases hparse

end Listing

/-! ## Releasing -/

section Release

variable {s s' : Host} {vmId : VmId} {rows : List LvmReservationRow}

/-- The reservations, whatever their states. -/
def Host.ledger (s : Host) : List LvmReservationRow := s.reservations.rows.map fun r => { r with state := .deleting }

theorem reserves_iff {pools : List PoolSpec} {lv : Lv} : s.Reserves vmId pools lv ↔
    ∃ r ∈ s.ledger, r.vmId = vmId ∧ r.pool ∈ pools.map (·.name) ∧ r.vg = lv.vg ∧ r.lvName = lv.name := by
  simp [Host.Reserves, Host.ledger]

theorem markDeleting_spec : ∃ s', (markDeleting rows).run.eval Op.exec s = (s', .ok ()) ∧ s'.lvs = s.lvs ∧
    s'.ledger = s.ledger := by
  induction rows generalizing s with
  | nil => exact ⟨s, rfl, rfl, rfl⟩
  | cons row rows ih =>
    obtain ⟨s', hrun, hlvs, hledger⟩ := ih (s := (Op.exec (.sql (.setReservation row.assignmentId .deleting)) s).1)
    refine ⟨s', hrun, hlvs, hledger.trans ?_⟩
    refine (map_map ..).trans (map_congr_left fun r _ => ?_)
    simp only [Function.comp_apply]
    split <;> rfl

theorem removeReserved_spec : ∃ s', (removeReserved rows).run.eval Op.exec s = (s', .ok ()) ∧
    (∀ lv, lv ∈ s'.lvs ↔ lv ∈ s.lvs ∧ ∀ r ∈ rows, ¬ (lv.vg = r.vg ∧ lv.name = r.lvName)) ∧
    ∀ r, r ∈ s'.ledger ↔ r ∈ s.ledger ∧ ∀ row ∈ rows, r.assignmentId ≠ row.assignmentId := by
  induction rows generalizing s with
  | nil => exact ⟨s, rfl, by simp, by simp⟩
  | cons row rows ih =>
    obtain ⟨s', hrun, hlvs, hledger⟩ := ih
      (s := (Op.exec (.sql (.deleteReservation row.assignmentId)) (Op.exec (.cmd (.lvremove row.vg row.lvName)) s).1).1)
    refine ⟨s', hrun, fun lv => (hlvs lv).trans ?_, fun r => (hledger r).trans ?_⟩
    · simp only [Op.exec, Cmd.exec, Sql.exec, mem_filter, forall_mem_cons, and_assoc, Bool.not_eq_true',
        decide_eq_false_iff_not]
    · simp only [Host.ledger, Op.exec, Cmd.exec, Sql.exec, mem_map, mem_delete, decide_eq_false_iff_not,
        forall_mem_cons]
      grind

theorem withPermit_ok {role : String} {body : Fallible LvmError Unit}
    (h : (withPermit role body).run.eval Op.exec s = (s', .ok ())) :
    ∃ s₁, body.run.eval Op.exec { s with permits := role :: s.permits } = (s₁, .ok ()) ∧
      s' = { s₁ with permits := s₁.permits.filter (· ≠ role) } := by
  have hrun : (withPermit role body).run.eval Op.exec s = _ := Prog.eval_bind (acquire role) _ s
  rw [hrun] at h
  by_cases hfree : role ∈ s.permits
  · have hacquire : (acquire role).eval Op.exec s = (s, false) := if_pos hfree
    rw [hacquire] at h
    cases h
  · have hacquire : (acquire role).eval Op.exec s = ({ s with permits := role :: s.permits }, true) := if_neg hfree
    rw [hacquire] at h
    obtain ⟨hs, hok⟩ := Prod.mk.inj ((Prog.eval_bind body.run _ _).symm.trans h)
    exact ⟨_, Prod.ext rfl hok, hs.symm⟩

theorem reserves_cons {pool : PoolSpec} {pools : List PoolSpec} {lv : Lv} :
    s.Reserves vmId (pool :: pools) lv ↔ s.Reserves vmId [pool] lv ∨ s.Reserves vmId pools lv := by
  simp only [Host.Reserves, map_cons, map_nil, mem_cons, not_mem_nil, or_false]
  grind

/-- The volumes that a release removes, and what else is reserved after it. -/
theorem release_spec {pool : PoolSpec} (h : (release vmId pool).run.eval Op.exec s = (s', .ok ())) :
    (∀ lv, lv ∈ s'.lvs ↔ lv ∈ s.lvs ∧ ¬ s.Reserves vmId [pool] lv) ∧
      ∀ v pools lv, ¬ s.Reserves vmId [pool] lv → (s'.Reserves v pools lv ↔ s.Reserves v pools lv) := by
  let rows := s.reservations.rows.filter fun r => r.pool = pool.name ∧ r.vmId = vmId
  have hreserves : ∀ lv, s.Reserves vmId [pool] lv ↔ ∃ r ∈ rows, lv.vg = r.vg ∧ lv.name = r.lvName := by
    intro lv
    simp only [Host.Reserves, rows, mem_filter, map_cons, map_nil, mem_singleton, decide_eq_true_eq]
    grind
  have hrun : (release vmId pool).run.eval Op.exec s = (if rows.isEmpty then pure () else
      markDeleting rows >>= fun _ => withPermit (gate pool) (removeReserved rows) :
        Fallible LvmError Unit).run.eval Op.exec s := rfl
  rw [hrun] at h
  split at h
  · rename_i hempty
    cases h
    have hnone : ∀ lv, ¬ s.Reserves vmId [pool] lv := by simp [hreserves, List.isEmpty_iff.mp hempty]
    exact ⟨fun lv => by simp [hnone], fun _ _ _ _ => Iff.rfl⟩
  · obtain ⟨_, s₁, hmark, h⟩ := Prog.ok_of_bind h
    obtain ⟨s₂, hmark', hlvs, hledger⟩ := @markDeleting_spec s rows
    cases hmark.symm.trans hmark'
    obtain ⟨s₃, hremove, rfl⟩ := withPermit_ok h
    obtain ⟨s₄, hremove', hlvs', hledger'⟩ := @removeReserved_spec { s₁ with permits := gate pool :: s₁.permits } rows
    cases hremove.symm.trans hremove'
    refine ⟨fun lv => (hlvs' lv).trans ?_, fun v pools lv hnot => ?_⟩
    · show lv ∈ s₁.lvs ∧ _ ↔ _
      rw [hlvs, hreserves]
      simp
    · have hmem : ∀ r, r ∈ s₃.ledger ↔ r ∈ s.ledger ∧ ∀ row ∈ rows, r.assignmentId ≠ row.assignmentId := by
        intro r
        rw [hledger']
        exact and_congr_left fun _ => hledger ▸ Iff.rfl
      rw [reserves_iff, reserves_iff]
      show (∃ r ∈ s₃.ledger, _) ↔ _
      constructor
      · rintro ⟨r, hr, hfields⟩
        exact ⟨r, ((hmem r).mp hr).1, hfields⟩
      · rintro ⟨r, hr, hfields⟩
        refine ⟨r, (hmem r).mpr ⟨hr, fun row hrow hid => hnot ?_⟩, hfields⟩
        -- an assignment has one row, so this one is reserved in the pool itself
        obtain ⟨r₀, hr₀, rfl⟩ := mem_map.mp hr
        cases eq_of_clash hr₀ (mem_filter.mp hrow).1 (.inl hid)
        exact (hreserves lv).mpr ⟨row, hrow, hfields.2.2.1.symm, hfields.2.2.2.symm⟩

theorem releaseVmDisks_spec {pools : List PoolSpec}
    (h : (releaseVmDisks vmId pools).run.eval Op.exec s = (s', .ok ())) (lv : Lv) :
    (lv ∈ s'.lvs ↔ lv ∈ s.lvs ∧ ¬ s.Reserves vmId pools lv) ∧
      ∀ v pools', ¬ s.Reserves vmId pools lv → (s'.Reserves v pools' lv ↔ s.Reserves v pools' lv) := by
  induction pools generalizing s with
  | nil =>
    cases h
    simp [Host.Reserves]
  | cons pool pools ih =>
    obtain ⟨_, s₁, hpool, h⟩ := Prog.ok_of_bind h
    obtain ⟨hlvs, hothers⟩ := release_spec hpool
    have hcons : s.Reserves vmId (pool :: pools) lv ↔ _ := reserves_cons
    obtain ⟨hrest, hrest'⟩ := ih h
    rw [hrest, hlvs, hcons, not_or, and_assoc]
    refine ⟨and_congr_right fun _ => and_congr_right fun hnot => not_congr (hothers vmId pools lv hnot), ?_⟩
    rintro v pools' ⟨hnot, hnot'⟩
    rw [hrest' v pools' (mt (hothers vmId pools lv hnot).mp hnot'), hothers v pools' lv hnot]

theorem removeVmRootfs_spec {spec : HostSpec} (h : (removeVmRootfs spec vmId).run.eval Op.exec s = (s', .ok ())) :
    s'.reservations = s.reservations ∧
      ∀ lv, lv ∈ s'.lvs ↔ lv ∈ s.lvs ∧ ¬ (lv.vg = spec.rootfsVg ∧ lv.name = vmLvName vmId) := by
  obtain ⟨there, s₁, hthere, h⟩ := Prog.ok_of_bind h
  cases hthere
  split at h
  · obtain ⟨s₁, hbody, rfl⟩ := withPermit_ok h
    cases hbody
    refine ⟨rfl, fun lv => ?_⟩
    show lv ∈ s.lvs.filter (fun l => !decide (l.vg = spec.rootfsVg ∧ l.name = vmLvName vmId)) ↔ _
    simp only [mem_filter, Bool.not_eq_true', decide_eq_false_iff_not]
  · rename_i hnone
    cases h
    refine ⟨rfl, fun lv => (and_iff_left_of_imp fun hlv hnamed => hnone ?_).symm⟩
    exact any_eq_true.mpr ⟨lv, hlv, decide_eq_true hnamed⟩

end Release

theorem ok_of_orLvm {α : Type} {p : Fallible LvmError α} {a : α} {s s' : Host}
    (h : (orLvm p).run.eval Op.exec s = (s', .ok a)) : p.run.eval Op.exec s = (s', .ok a) := by
  have hrun : (orLvm p).run.eval Op.exec s = _ := Prog.eval_bind p.run _ s
  rw [hrun] at h
  rcases hp : p.run.eval Op.exec s with ⟨s₁, _ | b⟩
  · rw [hp] at h
    cases h
  · rw [hp] at h
    cases h
    rfl

/-- The volumes that a reclaim removes, and what is reserved after it. -/
theorem reclaim_spec {spec : HostSpec} {vmId : VmId} {s s' : Host}
    (h : (Kind.lv.reclaim spec vmId).run.eval Op.exec s = (s', .ok ())) (lv : Lv) :
    (lv ∈ s'.lvs ↔ (lv ∈ s.lvs ∧ ¬ (lv.vg = spec.rootfsVg ∧ lv.name = vmLvName vmId)) ∧
      ¬ s.Reserves vmId spec.pools lv) ∧
      ∀ v, ¬ s.Reserves vmId spec.pools lv → (s'.Reserves v spec.pools lv ↔ s.Reserves v spec.pools lv) := by
  obtain ⟨_, s₁, hrootfs, hdisks⟩ := Prog.ok_of_bind h
  obtain ⟨hrows, hlvs⟩ := removeVmRootfs_spec (ok_of_orLvm hrootfs)
  have hsame : ∀ v, s₁.Reserves v spec.pools lv ↔ s.Reserves v spec.pools lv := fun v => by
    rw [Host.Reserves, hrows]
    rfl
  obtain ⟨hleft, hothers⟩ := releaseVmDisks_spec (ok_of_orLvm hdisks) lv
  rw [hleft, hlvs, hsame]
  exact ⟨Iff.rfl, fun v hnot => (hothers v _ (mt (hsame vmId).mp hnot)).trans (hsame v)⟩

/-! ## Off the list -/

/-- **An orphan is off the list once it is reclaimed** iff every data volume with its name was in the ledger. -/
theorem reclaimed_iff (spec : HostSpec) (vmId : VmId) (s s' : Host) (ids : List VmId)
    (hrun : (Kind.lv.reclaim spec vmId).run.eval Op.exec s = (s', .ok ()))
    (hlisted : listManagedVmIds spec s' = .ok ids) :
    vmId ∉ ids ↔ ∀ lv ∈ s.lvs, spec.DataOf vmId lv → s.Reserves vmId spec.pools lv := by
  have hleft := fun lv => (reclaim_spec hrun lv).1
  rw [listed_iff hlisted]
  constructor
  · intro hnot lv hlv hdata
    by_contra hres
    exact hnot ⟨lv, (hleft lv).mpr ⟨⟨hlv, fun h => not_dataOf_rootfs h.2 hdata⟩, hres⟩, .inr hdata⟩
  · rintro hall ⟨lv, hlv, hkind⟩
    obtain ⟨⟨hlv, hrootfs⟩, hres⟩ := (hleft lv).mp hlv
    rcases hkind with hkind | hdata
    · exact hrootfs hkind
    · exact hres (hall lv hlv hdata)

/-- A data volume of a VM that the agent does not know. -/
def strayDisk (reservations : Table LvmReservationRow) : Host :=
  { smallHost with
    reservations, vgs := ⟨"rootvg", 2 ^ 40⟩ :: smallHost.vgs, lvs := [⟨"vg0", "basis-data-vm1-0", 10, false⟩] }

/-- It is in the ledger. -/
theorem reclaimed_in_ledger :
    let s := strayDisk ⟨[⟨"a", "bulk", "d0", "vg0", "basis-data-vm1-0", "vm1", 0, 10, .ready⟩], by decide⟩
    ∃ ids, listManagedVmIds smallSpec ((Kind.lv.reclaim smallSpec "vm1").run.eval Op.exec s).1 = .ok ids ∧
      "vm1" ∉ ids := by
  intro s
  refine ⟨[], by decide +kernel, ?_⟩
  refine (reclaimed_iff smallSpec "vm1" s _ [] (Prod.ext rfl (by decide +kernel)) (by decide +kernel)).mpr ?_
  intro lv hlv _
  cases mem_singleton.mp hlv
  exact ⟨_, mem_singleton_self _, rfl, by decide, rfl, rfl⟩

/-- It is not. The reclaim succeeds and the VM is listed as before. -/
theorem reclaimed_stays_listed :
    let s := strayDisk .empty
    listManagedVmIds smallSpec s = .ok ["vm1"] ∧ ¬ s.Managed "vm1" ∧
      ((Kind.lv.reclaim smallSpec "vm1").run.eval Op.exec s).2 = .ok () ∧
      listManagedVmIds smallSpec ((Kind.lv.reclaim smallSpec "vm1").run.eval Op.exec s).1 = .ok ["vm1"] := by
  refine ⟨by decide +kernel, ?_, by decide +kernel, by decide +kernel⟩
  rintro ⟨src, hsrc⟩
  cases src <;> cases hsrc

/-! ## One pass after the other -/

section Passes

/-- Reclaims one after the other, each of which returns Ok. -/
inductive Reclaims (spec : HostSpec) : List VmId → Host → Host → Prop
  | nil {s} : Reclaims spec [] s s
  | cons {vmId vmIds s s₁ s'} (hrun : (Kind.lv.reclaim spec vmId).run.eval Op.exec s = (s₁, .ok ()))
      (hrest : Reclaims spec vmIds s₁ s') : Reclaims spec (vmId :: vmIds) s s'

/-- The VMs on the list that are not known; none where the list fails. -/
def unknown (spec : HostSpec) (known : List VmId) (s : Host) : List VmId :=
  ((listManagedVmIds spec s).toOption.getD []).dedup.filter (· ∉ known)

/-- Passes of the volume collector, and what each of them reclaims. -/
inductive Passes (spec : HostSpec) (known : List VmId) : Host → List (List VmId) → Prop
  | nil {s} : Passes spec known s []
  | cons {s s₁ ids batches} (hlisted : listManagedVmIds spec s = .ok ids)
      (hpass : Reclaims spec (orphansOf known ids .lv) s s₁) (hrest : Passes spec known s₁ batches) :
      Passes spec known s (orphansOf known ids .lv :: batches)

/-- Every data volume of an unknown VM is in the ledger. -/
def Host.Covered (spec : HostSpec) (known : List VmId) (s : Host) : Prop :=
  ∀ vmId, vmId ∉ known → ∀ lv ∈ s.lvs, spec.DataOf vmId lv → s.Reserves vmId spec.pools lv

variable {spec : HostSpec} {known vmIds : List VmId} {v : VmId} {s s' : Host} {batches : List (List VmId)}

theorem Reclaims.clears (h : Reclaims spec vmIds s s') (hcovered : s.Covered spec known)
    (hnew : ∀ v ∈ vmIds, v ∉ known) :
    s'.Covered spec known ∧ (∀ lv ∈ s'.lvs, lv ∈ s.lvs) ∧ ∀ v ∈ vmIds, ∀ lv ∈ s'.lvs, ¬ spec.Shows v lv := by
  induction h with
  | nil => exact ⟨hcovered, fun _ h => h, nofun⟩
  | @cons vmId vmIds s s₁ s' hrun _ ih =>
    have hleft := fun lv (hlv : lv ∈ s₁.lvs) => (reclaim_spec hrun lv).1.mp hlv
    have hcovered₁ : s₁.Covered spec known := fun v hv lv hlv hdata =>
      ((reclaim_spec hrun lv).2 v (hleft lv hlv).2).mpr (hcovered v hv lv (hleft lv hlv).1.1 hdata)
    obtain ⟨hcovered', hsub, hgone⟩ := ih hcovered₁ fun v hv => hnew v (mem_cons_of_mem _ hv)
    refine ⟨hcovered', fun lv hlv => (hleft lv (hsub lv hlv)).1.1, fun v hv lv hlv hshows => ?_⟩
    rcases mem_cons.mp hv with rfl | hv
    · obtain ⟨⟨hlv, hrootfs⟩, hres⟩ := hleft lv (hsub lv hlv)
      exact hshows.elim hrootfs fun hdata => hres (hcovered v (hnew v mem_cons_self) lv hlv hdata)
    · exact hgone v hv lv hlv hshows

theorem shown_of_unknown (h : v ∈ unknown spec known s) : v ∉ known ∧ ∃ lv ∈ s.lvs, spec.Shows v lv := by
  cases hlisted : listManagedVmIds spec s with
  | error e => simp [unknown, hlisted, Except.toOption] at h
  | ok ids =>
    rw [← listed_iff hlisted]
    simpa [unknown, hlisted, Except.toOption, and_comm] using h

theorem nodup_unknown : (unknown spec known s).Nodup := (nodup_dedup _).filter _

/-- Whatever a pass reclaims is off the list of the next. -/
theorem fewer_unknown {ids : List VmId} (hlisted : listManagedVmIds spec s = .ok ids)
    (hsub : ∀ lv ∈ s'.lvs, lv ∈ s.lvs) (hnodup : vmIds.Nodup) (hunknown : ∀ v ∈ vmIds, v ∈ unknown spec known s)
    (hgone : ∀ v ∈ vmIds, ∀ lv ∈ s'.lvs, ¬ spec.Shows v lv) :
    (unknown spec known s').length + vmIds.length ≤ (unknown spec known s).length := by
  have hfewer : (unknown spec known s' ++ vmIds).Subperm (unknown spec known s) := by
    refine (nodup_append.mpr ⟨nodup_unknown, hnodup, ?_⟩).subperm fun v hv => ?_
    · rintro v hv _ hlater rfl
      obtain ⟨-, lv, hlv, hshows⟩ := shown_of_unknown hv
      exact hgone v hlater lv hlv hshows
    · rcases mem_append.mp hv with hv | hv
      · obtain ⟨hnew, lv, hlv, hshows⟩ := shown_of_unknown hv
        have hids : v ∈ ids := (listed_iff hlisted).mpr ⟨lv, hsub lv hlv, hshows⟩
        simp [unknown, hlisted, Except.toOption, hnew, hids]
      · exact hunknown v hv
  rw [← length_append]
  exact hfewer.length_le

/-- **Each orphan is reclaimed once**: over passes of the volume collector whose reclaims run one after the other and
    return Ok, no VM is reclaimed twice, and once there were as many passes as orphans, none is reclaimed. -/
theorem reclaimed_once (hcovered : s.Covered spec known) (h : Passes spec known s batches) :
    batches.flatten.Nodup ∧ (∀ v ∈ batches.flatten, ∃ lv ∈ s.lvs, spec.Shows v lv) ∧
      ∀ i batch, batches[i]? = some batch → (unknown spec known s).length ≤ i → batch = [] := by
  induction h with
  | nil => exact ⟨nodup_nil, nofun, nofun⟩
  | @cons s s₁ ids batches hlisted hpass hrest ih =>
    have hbatch : orphansOf known ids .lv = (unknown spec known s).take 50 := by
      simp [orphansOf, unknown, hlisted, Kind.batch, Except.toOption]
    rw [hbatch] at hpass ⊢
    have hunknown : ∀ v ∈ (unknown spec known s).take 50, v ∈ unknown spec known s := fun _ => mem_of_mem_take
    obtain ⟨hcovered₁, hsub, hgone⟩ := hpass.clears hcovered fun v hv => (shown_of_unknown (hunknown v hv)).1
    obtain ⟨hnodup, hshown, hzero⟩ := ih hcovered₁
    have htake : ((unknown spec known s).take 50).Nodup := nodup_unknown.sublist (take_sublist ..)
    refine ⟨nodup_append.mpr ⟨htake, hnodup, ?_⟩, fun v hv => ?_, fun i batch hi hle => ?_⟩
    · -- what this pass has reclaimed shows no more
      rintro v hv _ hlater rfl
      obtain ⟨lv, hlv, hshows⟩ := hshown v hlater
      exact hgone v hv lv hlv hshows
    · rcases mem_append.mp hv with hv | hv
      · exact (shown_of_unknown (hunknown v hv)).2
      · obtain ⟨lv, hlv, hshows⟩ := hshown v hv
        exact ⟨lv, hsub lv hlv, hshows⟩
    · cases i with
      | zero =>
        cases hi
        rw [length_eq_zero_iff.mp (Nat.le_zero.mp hle), take_nil]
      | succ i =>
        refine hzero i batch hi ?_
        have hlength := fewer_unknown hlisted hsub htake hunknown hgone
        rw [length_take] at hlength
        omega

end Passes

/-- One pass reclaims the VM of a stray volume, the next finds nothing. -/
example : Passes smallSpec []
    (strayDisk ⟨[⟨"a", "bulk", "d0", "vg0", "basis-data-vm1-0", "vm1", 0, 10, .ready⟩], by decide⟩) [["vm1"], []] :=
  @Passes.cons _ _ _ _ ["vm1"] _ (by decide +kernel) (.cons (Prod.ext rfl (by decide +kernel)) .nil)
    (@Passes.cons _ _ _ _ [] _ (by decide +kernel) .nil .nil)

/-! ## Names of data volumes -/

theorem rsplitOnce_append {c : Char} {front tail : String} (h : c ∉ tail.toList) :
    rsplitOnce c (front ++ c.toString ++ tail) = some (front, tail) := by
  have hkeep : ∀ d ∈ tail.toList.reverse, decide (d ≠ c) = true := by
    intro d hd
    exact decide_eq_true fun heq => h (heq ▸ mem_reverse.mp hd)
  have htext : (front ++ c.toString ++ tail).toList.reverse = tail.toList.reverse ++ c :: front.toList.reverse := by
    simp
  simp only [rsplitOnce, htext, dropWhile_append_of_pos hkeep, takeWhile_append_of_pos hkeep]
  simp

theorem isDigit_of_mem_toString {i : Nat} {c : Char} (h : c ∈ (toString i).toList) : c.isDigit = true := by
  rw [Nat.toString_eq_ofList_toDigits, String.toList_ofList] at h
  exact Nat.isDigit_of_mem_toDigits (by decide) (by decide) h

theorem parseU32_toString {i : Nat} (h : i < 2 ^ 32) : parseU32 (toString i) = some i := by
  have hplain : unsignedDigits (toString i) = Nat.toDigits 10 i := by
    rw [unsignedDigits]
    split
    · rename_i digits heq
      cases isDigit_of_mem_toString (heq ▸ mem_cons_self)
    · rw [Nat.toString_eq_ofList_toDigits, String.toList_ofList]
  have hvalue : (Nat.toDigits 10 i).foldl (fun n d => 10 * n + (d.toNat - '0'.toNat)) 0 = i := by
    rw [← Nat.ofDigitChars_eq_foldl, Nat.ofDigitChars_ten_toDigits]
  have hdigits : (Nat.toDigits 10 i).all (·.isDigit) = true :=
    all_eq_true.mpr fun c hc => Nat.isDigit_of_mem_toDigits (by decide) (by decide) hc
  have hsome : (Nat.toDigits 10 i).isEmpty ≠ true := by simp [Nat.toDigits_ne_nil]
  simp only [parseU32, hplain]
  rw [if_neg hsome, hvalue, if_pos ⟨hdigits, h⟩]

/-- **The name of a data volume tells the VM and the index of the disk**, whatever characters the VM's id has. -/
theorem lvName_decodes (vmId : VmId) (i : Nat) (hvm : vmId ≠ "") (hi : i < 2 ^ 32) :
    parseDataDiskLvName (lvName vmId i) = some (vmId, i) ∧
      ∀ vmId' j, vmId' ≠ "" → j < 2 ^ 32 → lvName vmId' j = lvName vmId i → vmId' = vmId ∧ j = i := by
  have hparse : ∀ {vmId : VmId} {i : Nat}, vmId ≠ "" → i < 2 ^ 32 →
      parseDataDiskLvName (lvName vmId i) = some (vmId, i) := by
    intro vmId i hvm hi
    have hname : afterStart "basis-data-" (lvName vmId i) = some (vmId ++ '-'.toString ++ toString i) := by
      rw [afterStart_eq_some]
      simp [lvName, toString_string, String.append_assoc]
    -- the digits have no dash, so the last one is the separator
    have hsplit : rsplitOnce '-' (vmId ++ '-'.toString ++ toString i) = some (vmId, toString i) := by
      refine rsplitOnce_append fun hdash => ?_
      cases isDigit_of_mem_toString hdash
    simp only [parseDataDiskLvName, hname, Option.bind_eq_bind, Option.bind_some, hsplit, parseU32_toString hi]
    simp [hvm]
  refine ⟨hparse hvm hi, fun vmId' j hvm' hj heq => ?_⟩
  have hsame := (hparse hvm' hj).symm.trans (heq ▸ hparse hvm hi)
  exact Prod.mk.inj (Option.some.inj hsame)

theorem lvName_decodes_dashes : parseDataDiskLvName (lvName "vm-1-" 42) = some ("vm-1-", 42) ∧
      ∀ vmId' j, vmId' ≠ "" → j < 2 ^ 32 → lvName vmId' j = lvName "vm-1-" 42 → vmId' = "vm-1-" ∧ j = 42 :=
  lvName_decodes "vm-1-" 42 (by decide) (by decide)

end BasisCell.Agent
