import BasisCell.Lib.Lists
import BasisCell.Agent.Discipline
import BasisCell.Agent.Effects

/-!
# `BasisCell.Agent.Teardown` — what `delete_vm` has taken down

Per phase of a delete, what is gone of the VM. `Halted` is about unit and tap, which a delete always takes
down; `Swept` about volumes and reservations, for which it relies on the ledger. Both only say that something
is not there, so they survive every operation that makes nothing (`Halted.shed`, `Swept.shed`), and a step of
the delete carries each to its next phase (`Deletes.halted`, `Deletes.swept`).

`Deletes.covered` keeps the ledger's side of it: a delete never drops a reservation whose volume is there.
-/

namespace BasisCell.Agent

open Conc Conc.Protocol Relational Table Storage List

variable {spec : HostSpec} {vmId : VmId} {s s' : Host} {g : Phase} {o : Op}

theorem touches_of_routine (ho : o.routine = true) (res : Resource) : o.touches res = false := by
  unfold Op.touches
  split <;> first | rfl | cases ho

theorem creates_of_routine (ho : o.routine = true) : o.creates = false := by
  unfold Op.creates
  split <;> first | rfl | cases ho

theorem Deletes.creates (h : Deletes spec vmId g o) : o.creates = false := by
  cases h <;> rfl

/-! ## Unit and tap -/

structure Host.Detached (spec : HostSpec) (vmId : VmId) (s : Host) : Prop where
  unit : s.loaded (unitNameForVm vmId) = false
  tap : spec.primaryTapName vmId ∉ s.taps

/-- How far unit and tap are down. -/
def Halted (spec : HostSpec) (vmId : VmId) (s : Host) : Phase → Prop
  | .stopped => s.running (unitNameForVm vmId) = false
  | .unitGone => s.loaded (unitNameForVm vmId) = false
  | .tapGone | .rootfsGone _ | .releasing _ _ | .removed _ _ _ | .gone => s.Detached spec vmId
  | _ => True

theorem Host.Detached.shed (h : s.Detached spec vmId) (hs : s.Sheds s') : s'.Detached spec vmId :=
  ⟨Bool.eq_false_of_imp (hs.loaded _) h.unit, fun ht => h.tap (hs.taps _ ht)⟩

theorem Halted.shed (h : Halted spec vmId s g) (hs : s.Sheds s') : Halted spec vmId s' g := by
  cases g with
  | stopped => exact Bool.eq_false_of_imp (hs.running _) h
  | unitGone => exact Bool.eq_false_of_imp (hs.loaded _) h
  | tapGone | rootfsGone | releasing | removed | gone => exact Host.Detached.shed h hs
  | _ => trivial

theorem halted_of_detached (hg : g.detached = true) (h : s.Detached spec vmId) : Halted spec vmId s g := by
  cases g <;> first | exact h | cases hg

theorem Halted.detached (h : Halted spec vmId s g) (hg : g.detached = true) : s.Detached spec vmId := by
  cases g <;> first | exact h | cases hg

theorem Deletes.detached (h : Deletes spec vmId g o) (hg : g.detached = true) (r : o.Resp) :
    (next spec g o r).detached = true := by
  cases h with
  | look | stop | reset | detach => cases hg
  | rootfsAttr =>
    match r with
    | .ok true | .ok false | .error _ => rfl
  | list =>
    match r with
    | .ok rows => exact detached_afterRow
    | .error _ => rfl
  | removeRow => exact detached_afterRow
  | _ => rfl

/-- **A step of a delete takes unit and tap down in order.** -/
theorem Deletes.halted (h : Deletes spec vmId g o) (hg : Halted spec vmId s g) :
    Halted spec vmId (Op.exec o s).1 (next spec g o (Op.exec o s).2) := by
  by_cases hd : g.detached = true
  · exact halted_of_detached (h.detached hd _) ((hg.detached hd).shed (sheds_exec h.creates))
  · cases h with
    | look => trivial
    | stop => exact running_systemctlStop
    | reset => exact loaded_resetFailed hg
    | detach => exact ⟨hg, taps_linkDelete⟩
    | _ => exact absurd rfl hd

/-! ## Volumes and reservations -/

/-- The reservation a delete has listed under this assignment, if it is still there, has the volume it had. -/
def Host.Listed (s : Host) (row : LvmReservationRow) : Prop :=
  ∀ r ∈ s.reservations.rows, r.assignmentId = row.assignmentId → r.vg = row.vg ∧ r.lvName = row.lvName

/-- The rootfs is gone, and so is every reservation that is neither listed in `todo` nor in one of `pools`. -/
structure Swept (spec : HostSpec) (vmId : VmId) (todo : List LvmReservationRow) (pools : List PoolSpec)
    (s : Host) : Prop where
  rootfs : s.hasLv spec.rootfsVg (vmLvName vmId) = false
  rows : ∀ r ∈ s.reservations.rows, r.vmId = vmId →
    (∃ row ∈ todo, row.assignmentId = r.assignmentId) ∨ ∃ pool ∈ pools, pool.name = r.pool
  listed : ∀ row ∈ todo, s.Listed row

def SweptAt (spec : HostSpec) (vmId : VmId) (s : Host) : Phase → Prop
  | .rootfsGone pools => Swept spec vmId [] pools s
  | .releasing todo pools => Swept spec vmId todo pools s
  | .removed row todo pools => Swept spec vmId (row :: todo) pools s ∧ s.hasLv row.vg row.lvName = false
  | .gone => Swept spec vmId [] [] s ∧ s.recorded vmId = false
  | _ => True

/-- What a delete finds in the ledger: every data volume of the VM has its reservation, every reservation is
    in a configured pool. -/
structure Host.Ledgered (spec : HostSpec) (vmId : VmId) (s : Host) : Prop where
  covered : ∀ vg i, s.hasLv vg (lvName vmId i) = true →
    ∃ r ∈ s.reservations.rows, r.vmId = vmId ∧ r.vg = vg ∧ r.lvName = lvName vmId i
  configured : ∀ r ∈ s.reservations.rows, r.vmId = vmId → ∃ pool ∈ spec.pools, pool.name = r.pool

section Swept

variable {todo : List LvmReservationRow} {pools : List PoolSpec}

theorem Host.Listed.shed {row : LvmReservationRow} (h : s.Listed row) (hs : s.Sheds s') : s'.Listed row := by
  intro r' hr' hid
  obtain ⟨r, hr, heq⟩ := hs.reservations r' hr'
  rw [heq] at hid ⊢
  exact h r hr hid

theorem Swept.shed (h : Swept spec vmId todo pools s) (hs : s.Sheds s') : Swept spec vmId todo pools s' where
  rootfs := Bool.eq_false_of_imp (hs.volumes _ _) h.rootfs
  rows := by
    intro r' hr' hvm
    obtain ⟨r, hr, heq⟩ := hs.reservations r' hr'
    rw [heq] at hvm ⊢
    exact h.rows r hr hvm
  listed := fun row hrow => (h.listed row hrow).shed hs

theorem SweptAt.shed (h : SweptAt spec vmId s g) (hs : s.Sheds s') : SweptAt spec vmId s' g := by
  cases g with
  | rootfsGone | releasing => exact Swept.shed h hs
  | removed => exact ⟨h.1.shed hs, Bool.eq_false_of_imp (hs.volumes _ _) h.2⟩
  | gone => exact ⟨h.1.shed hs, Bool.eq_false_of_imp (hs.recorded _) h.2⟩
  | _ => trivial

theorem sweptAt_afterRow (h : Swept spec vmId todo pools s) : SweptAt spec vmId s (.afterRow todo pools) := by
  cases todo with
  | nil => exact h
  | cons row todo => exact h

/-- The listing of a pool: its rows are all there is of the VM in that pool. -/
theorem Swept.list {pool : PoolSpec} (h : Swept spec vmId [] (pool :: pools) s) :
    Swept spec vmId (s.reservations.rows.filter fun r => r.pool = pool.name ∧ r.vmId = vmId) pools s where
  rootfs := h.rootfs
  rows := by
    intro r hr hvm
    rcases h.rows r hr hvm with ⟨row, hrow, -⟩ | ⟨p, hp, hname⟩
    · cases hrow
    · rcases mem_cons.mp hp with rfl | hp
      · exact .inl ⟨r, mem_filter.mpr ⟨hr, by simp [hname, hvm]⟩, rfl⟩
      · exact .inr ⟨p, hp, hname⟩
  listed := by
    intro row hrow r hr hid
    have heq : r = row := eq_of_clash hr (mem_filter.mp hrow).1 (.inl hid)
    exact ⟨congrArg _ heq, congrArg _ heq⟩

/-- With a row of the listing removed, the rest is left. -/
theorem Swept.removeRow {row : LvmReservationRow} (h : Swept spec vmId (row :: todo) pools s) :
    Swept spec vmId todo pools (Op.exec (.sql (.deleteReservation row.assignmentId)) s).1 where
  rootfs := h.rootfs
  rows := by
    intro r hr hvm
    obtain ⟨hr, hid⟩ := mem_delete.mp hr
    rcases h.rows r hr hvm with ⟨row', hrow', hid'⟩ | hpool
    · rcases mem_cons.mp hrow' with rfl | hrow'
      · exact absurd hid'.symm (by simpa using hid)
      · exact .inl ⟨row', hrow', hid'⟩
    · exact .inr hpool
  listed := fun row' hrow' => (h.listed row' (mem_cons_of_mem row hrow')).shed (sheds_exec rfl)

/-- **A step of a delete sweeps in order.** -/
theorem Deletes.swept (h : Deletes spec vmId g o) (hs : s.Ledgered spec vmId) (hg : SweptAt spec vmId s g) :
    SweptAt spec vmId (Op.exec o s).1 (next spec g o (Op.exec o s).2) := by
  have hall : ∀ r ∈ s.reservations.rows, r.vmId = vmId →
      (∃ row ∈ ([] : List LvmReservationRow), row.assignmentId = r.assignmentId) ∨
        ∃ pool ∈ spec.pools, pool.name = r.pool :=
    fun r hr hvm => .inr (hs.configured r hr hvm)
  cases h with
  | look | stop | reset | detach => trivial
  | rootfsAttr =>
    show SweptAt spec vmId s (next spec .tapGone (.cmd (.lvAttr spec.rootfsVg (vmLvName vmId)))
      (Except.ok (s.hasLv spec.rootfsVg (vmLvName vmId))))
    cases hlv : s.hasLv spec.rootfsVg (vmLvName vmId) with
    | true => trivial
    | false => exact ⟨hlv, hall, forall_mem_nil _⟩
  | rootfsRemove => exact ⟨hasLv_lvremove, hall, forall_mem_nil _⟩
  | list => exact sweptAt_afterRow hg.list
  | markRow => exact Swept.shed hg (sheds_exec rfl)
  | removeLv => exact ⟨Swept.shed hg (sheds_exec rfl), hasLv_lvremove⟩
  | removeRow => exact sweptAt_afterRow hg.1.removeRow
  | forget => exact ⟨Swept.shed hg (sheds_exec rfl), recorded_deleteVm⟩

end Swept

/-! ## The ledger -/

/-- A ledger that loses no row stays one while volumes only go. -/
theorem Host.Ledgered.kept (h : s.Ledgered spec vmId) (hs : s.Sheds s')
    (hkept : ∀ r ∈ s.reservations.rows, ∃ r' ∈ s'.reservations.rows, r' = { r with state := r'.state }) :
    s'.Ledgered spec vmId where
  covered := by
    intro vg i hlv
    obtain ⟨r, hr, hrow⟩ := h.covered vg i (hs.volumes _ _ hlv)
    obtain ⟨r', hr', heq⟩ := hkept r hr
    refine ⟨r', hr', ?_⟩
    rw [heq]
    exact hrow
  configured := by
    intro r' hr' hvm
    obtain ⟨r, hr, heq⟩ := hs.reservations r' hr'
    rw [heq] at hvm ⊢
    exact h.configured r hr hvm

theorem Host.Ledgered.untouched (h : s.Ledgered spec vmId) (hcreates : o.creates = false)
    (hledger : o.touches .ledger = false) : (Op.exec o s).1.Ledgered spec vmId := by
  have hsame : (Op.exec o s).1.reservations = s.reservations := same_of_untouched hledger
  exact h.kept (sheds_exec hcreates) fun r hr => ⟨r, hsame ▸ hr, rfl⟩

theorem Host.Ledgered.setReservation {id : String} {state : ReservationState} (h : s.Ledgered spec vmId) :
    (Op.exec (.sql (.setReservation id state)) s).1.Ledgered spec vmId := by
  refine h.kept (sheds_exec rfl) fun r hr => ⟨_, mem_map_of_mem hr, ?_⟩
  split <;> rfl

theorem Host.Ledgered.removeRow {row : LvmReservationRow} (h : s.Ledgered spec vmId) (hlisted : s.Listed row)
    (hgone : s.hasLv row.vg row.lvName = false) :
    (Op.exec (.sql (.deleteReservation row.assignmentId)) s).1.Ledgered spec vmId where
  covered := by
    intro vg i hlv
    obtain ⟨r, hr, hvm, hvg, hname⟩ := h.covered vg i hlv
    refine ⟨r, mem_delete.mpr ⟨hr, ?_⟩, hvm, hvg, hname⟩
    refine decide_eq_false fun hid => ?_
    obtain ⟨hvg', hname'⟩ := hlisted r hr hid
    rw [← hvg', ← hname', hvg, hname] at hgone
    exact Bool.false_ne_true (hgone.symm.trans hlv)
  configured := fun r hr => h.configured r (mem_delete.mp hr).1

/-- **A delete keeps the ledger**: it drops a reservation only once its volume is gone. -/
theorem Deletes.ledgered (h : Deletes spec vmId g o) (hs : s.Ledgered spec vmId) (hg : SweptAt spec vmId s g) :
    (Op.exec o s).1.Ledgered spec vmId := by
  cases h with
  | markRow => exact hs.setReservation
  | removeRow => exact hs.removeRow (hg.1.listed _ mem_cons_self) hg.2
  | _ => exact hs.untouched rfl rfl

/-! ## A delete that runs alone -/

/-- Nothing of the VM is left. -/
structure Host.Clean (spec : HostSpec) (vmId : VmId) (s : Host) : Prop where
  detached : s.Detached spec vmId
  rootfs : s.hasLv spec.rootfsVg (vmLvName vmId) = false
  volumes : ∀ vg i, s.hasLv vg (lvName vmId i) = false
  reservations : ∀ r ∈ s.reservations.rows, r.vmId ≠ vmId
  record : s.recorded vmId = false

theorem clean_of_gone (hhalted : Halted spec vmId s .gone) (hswept : SweptAt spec vmId s .gone)
    (hs : s.Ledgered spec vmId) : s.Clean spec vmId := by
  have hrows : ∀ r ∈ s.reservations.rows, r.vmId ≠ vmId := by
    intro r hr hvm
    rcases hswept.1.rows r hr hvm with ⟨_, h, -⟩ | ⟨_, h, -⟩ <;> cases h
  refine ⟨hhalted, hswept.1.rootfs, fun vg i => ?_, hrows, hswept.2⟩
  rw [← Bool.not_eq_true]
  intro hlv
  obtain ⟨r, hr, hvm, -⟩ := hs.covered vg i hlv
  exact hrows r hr hvm

theorem Deletes.deletes (h : Deletes spec vmId g o) (r : o.Resp) : (next spec g o r).deletes = true := by
  by_cases hd : g.detached = true
  · exact Phase.deletes_of_detached (h.detached hd r)
  · cases h with
    | look | stop | reset | detach => rfl
    | _ => exact absurd rfl hd

/-- **A delete alone.** What its steps carry from phase to phase holds where it ends. -/
theorem deleteVm_ends {J : Phase → Host → Prop}
    (hroutine : ∀ {g o s}, o.routine = true → J g s → J g (Op.exec o s).1)
    (hdelete : ∀ {g o s}, Deletes spec vmId g o → J g s → J (next spec g o (Op.exec o s).2) (Op.exec o s).1)
    (hs : J .looking s) :
    ∃ g, J g ((deleteVm spec vmId).run.eval Op.exec s).1 ∧
      Arrives (fun g' => g'.detached = true) .gone g ((deleteVm spec vmId).run.eval Op.exec s).2 := by
  have hfollows := @clears_deleteVm spec (.tombstone vmId)
  obtain ⟨g, hend, hdeletes, hg⟩ := hfollows.eval (I := fun g s => g.deletes = true ∧ J g s)
    (fun g o s hallow ⟨hdeletes, hg⟩ => by
      show (next spec g o _).deletes = true ∧ J (next spec g o _) _
      rcases Allows.of_deletes hallow hdeletes with ho | h
      · rw [next_of_routine ho]
        exact ⟨hdeletes, hroutine ho hg⟩
      · exact ⟨h.deletes _, hdelete h hg⟩) ⟨rfl, hs⟩
  rcases hend with rfl | hend
  · cases hdeletes
  · exact ⟨g, hg, hend⟩

/-- Unit and tap are gone wherever `delete_vm` ends, also where it fails. -/
theorem deleteVm_detaches : ((deleteVm spec vmId).run.eval Op.exec s).1.Detached spec vmId := by
  obtain ⟨g, hg, hend⟩ := deleteVm_ends (J := fun g s => Halted spec vmId s g)
    (fun ho hg => hg.shed (sheds_exec (creates_of_routine ho))) (fun h hg => h.halted hg) (s := s) trivial
  refine hg.detached ?_
  cases hr : ((deleteVm spec vmId).run.eval Op.exec s).2 with
  | ok _ =>
    rw [hr] at hend
    exact hend ▸ rfl
  | error e =>
    rw [hr] at hend
    exact hend

theorem vmLvName_ne_lvName {vmId' : VmId} {i : Nat} : vmLvName vmId ≠ lvName vmId' i := by
  intro h
  have hhead := congrArg (fun name : String => name.toList.head?) h
  simp [vmLvName, lvName, toString] at hhead

theorem ledgered_upHost : upHost.Ledgered smallSpec "v1" where
  covered := by
    intro vg i hlv
    have hcases : ∀ lv ∈ upHost.lvs, lv.name = vmLvName "v1" ∨
        ∃ r ∈ upHost.reservations.rows, r.vmId = "v1" ∧ r.vg = lv.vg ∧ r.lvName = lv.name := by decide +kernel
    obtain ⟨lv, hmem, hnamed⟩ := any_eq_true.mp hlv
    obtain ⟨hvg, hname⟩ := of_decide_eq_true hnamed
    rcases hcases lv hmem with hrootfs | hdata
    · exact absurd (hrootfs.symm.trans hname) vmLvName_ne_lvName
    · rwa [hvg, hname] at hdata
  configured := by decide +kernel

end BasisCell.Agent
