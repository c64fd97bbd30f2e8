import BasisCell.Lib.Ensures
import BasisCell.Agent.Teardown
import BasisCell.Agent.Node

/-!
# `BasisCell.Agent.Acknowledge` — what a `TombstoneAck` is worth when commands fail

Every command and every statement may fail: refused, so that nothing has happened, or carried out with the answer
lost. `apply_reconcile` acknowledges a tombstone whose teardown returned `Ok`; and the teardowns return `Ok` also
where a command that was to remove something has failed, for `systemctl stop`, `ip link delete`, the unbinding of
GPUs, the deletion of rules and of the VM's row are logged and no more.

So an acknowledgement is true where such a command fails only when there is nothing to remove (`Careful`), on a
host with a proper ledger. What propagates errors needs no such condition: a volume that cannot be removed, or a
reservation that cannot be read, is never acknowledged.
-/

namespace BasisCell.Agent

open Conc Conc.Prog Relational Table Network Storage List

/-! ## Failures -/

/-- What becomes of a command or statement. -/
inductive Fate (φ : Type) where
  | done
  | refused (f : φ)
  | lost (f : φ)

section Fate

variable {φ σ α : Type} {fate : Fate φ} {s s' : σ} {result : σ × Except φ α} {r : Except φ α}

def Fate.outcome (fate : Fate φ) (s : σ) (result : σ × Except φ α) : σ × Except φ α :=
  match fate with
  | .done => result
  | .refused f => (s, .error f)
  | .lost f => (result.1, .error f)

/-- An answer that is no error is true. -/
theorem Fate.eq_of_ok {a : α} (h : fate.outcome s result = (s', .ok a)) : result = (s', .ok a) := by
  cases fate with
  | done => exact h
  | refused f | lost f => cases h

theorem Fate.state (h : fate.outcome s result = (s', r)) : s' = s ∧ (∃ f, fate = .refused f) ∨ s' = result.1 := by
  cases fate with
  | done | lost f => exact .inr (congrArg Prod.fst h).symm
  | refused f => exact .inl ⟨(congrArg Prod.fst h).symm, f, rfl⟩

end Fate

def Network.NetOp.under (fate : Fate CmdFailure) : (o : NetOp) → Net → Net × o.Resp
  | .cmd c, s => fate.outcome s ((NetOp.cmd c).exec s)
  | .live o, s => o.exec s

def Op.under (fate : Fate String) : (o : Op) → Host → Host × o.Resp
  | .sql q, s => fate.outcome s (q.exec s)
  | .cmd c, s => fate.outcome s (c.exec s)
  | .mem m, s => m.exec s

/-- What an operation of the cluster manager may do, if its failures are as `allowed`. -/
def Network.NetOp.Acts (allowed : Fate CmdFailure → Net → NetOp → Prop) (o : NetOp) (s s' : Net) (r : o.Resp) : Prop :=
  ∃ fate, allowed fate s o ∧ o.under fate s = (s', r)

def Op.Acts (allowed : Fate String → Host → Op → Prop) (o : Op) (s s' : Host) (r : o.Resp) : Prop :=
  ∃ fate, allowed fate s o ∧ o.under fate s = (s', r)

/-- Which failures there may be. -/
structure Failures where
  net : Fate CmdFailure → Net → NetOp → Prop
  host : Fate String → Host → Op → Prop

/-- The world of `apply_reconcile`. A section of the cluster manager runs its commands, each with its own fate; how
    far an update of the announced prefixes comes is left open. -/
def NodeOp.Acts (spec : NodeSpec) (failures : Failures) : (o : NodeOp) → Node → Node → o.Resp → Prop
  | .reconcileClusters desired, x, x', r =>
    ∃ s', (reconcile spec.net desired).run.Runs (NetOp.Acts failures.net) x.net s' r ∧ x' = { x with net := s' }
  | .tombstoneCluster vni cidr, x, x', r =>
    ∃ s', (Network.tombstoneCluster vni cidr).run.Runs (NetOp.Acts failures.net) x.net s' r ∧
      x' = { x with net := s' }
  | .host o, x, x', r => ∃ s', o.Acts failures.host x.host s' r ∧ x' = { x with host := s' }
  | .send msg, x, x', _ => x' = { x with sent := x.sent ++ [msg] }
  | .bgpSpeaker, x, x', r => x' = x ∧ r = x.bgpSpeaker
  | .updateRoutes _, x, x', _ => ∃ rib, x' = { x with rib }

/-- Any failures. -/
def anyFailures : Failures := ⟨fun _ _ _ => True, fun _ _ _ => True⟩

/-! ## Failures that hide nothing -/

/-- There is nothing for the command to remove. -/
def Network.NetOp.Idle (s : Net) : NetOp → Prop
  | .cmd (.linkDelete (.bridge vni)) => s.kernel.hasBridge vni = false
  | .cmd (.linkDelete (.vxlan vni)) => s.kernel.hasVxlan vni = false
  | .cmd (.ruleDelete rule) => rule ∉ s.kernel.rules
  | _ => True

def Op.Idle (s : Host) : Op → Prop
  | .cmd (.systemctlStop unit) => s.running unit = false
  | .cmd (.linkDelete tap) => tap ∉ s.taps
  | .cmd (.unbindVfio pci) => pci ∉ s.vfio
  | .sql (.deleteVm vmId) => s.recorded vmId = false
  | _ => True

/-- A removal is refused only where it is idle, and a rule that is deleted was there once. -/
def Network.NetOp.Careful (fate : Fate CmdFailure) (s : Net) (o : NetOp) : Prop :=
  ((∃ f, fate = .refused f) → o.Idle s) ∧ ∀ rule, o = .cmd (.ruleDelete rule) → s.kernel.rules.count rule ≤ 1

/-- A removal is refused only where it is idle, and the VM's row is not read in vain. -/
def Op.Careful (fate : Fate String) (s : Host) (o : Op) : Prop :=
  ((∃ f, fate = .refused f) → o.Idle s) ∧ ∀ vmId, o = .sql (.getVm vmId) → s.recorded vmId = true → fate = .done

def carefulFailures : Failures := ⟨NetOp.Careful, Op.Careful⟩

/-! ## `delete_vm` -/

section Host

variable {spec : HostSpec} {vms : List VmId} {vmId : VmId} {s s' s'' : Host} {o : Op} {r : o.Resp} {ε α : Type}

/-- The steps of a delete before its last: nothing is made, the ledger stays proper for the VMs `vms`, and no row
    of a VM goes. -/
structure Going (spec : HostSpec) (vms : List VmId) (s s' : Host) : Prop where
  sheds : s.Sheds s'
  vfio : ∀ pci ∈ s'.vfio, pci ∈ s.vfio
  ledger : (∀ vmId ∈ vms, s.Ledgered spec vmId) → ∀ vmId ∈ vms, s'.Ledgered spec vmId
  records : s'.localVms = s.localVms

theorem Host.Sheds.trans (h : s.Sheds s') (h' : s'.Sheds s'') : s.Sheds s'' where
  recorded := fun v hv => h.recorded v (h'.recorded v hv)
  reservations := by
    intro r'' hr''
    obtain ⟨r', hr', heq'⟩ := h'.reservations r'' hr''
    obtain ⟨r, hr, heq⟩ := h.reservations r' hr'
    refine ⟨r, hr, ?_⟩
    rw [heq', heq]
  volumes := fun vg name hv => h.volumes vg name (h'.volumes vg name hv)
  loaded := fun unit hu => h.loaded unit (h'.loaded unit hu)
  running := fun unit hu => h.running unit (h'.running unit hu)
  taps := fun tap ht => h.taps tap (h'.taps tap ht)
  pending := fun v hv => h.pending v (h'.pending v hv)

theorem Going.refl : Going spec vms s s := ⟨.refl, fun _ h => h, fun h => h, rfl⟩

theorem Going.trans (h : Going spec vms s s') (h' : Going spec vms s' s'') : Going spec vms s s'' where
  sheds := h.sheds.trans h'.sheds
  vfio := fun pci hpci => h.vfio pci (h'.vfio pci hpci)
  ledger := fun hs => h'.ledger (h.ledger hs)
  records := h'.records.trans h.records

theorem Op.acts_cases (h : o.Acts Op.Careful s s' r) : s' = s ∧ o.Idle s ∨ s' = (o.exec s).1 := by
  obtain ⟨fate, hcareful, hunder⟩ := h
  cases o with
  | sql q | cmd c => exact (Fate.state hunder).imp_left fun ⟨hs, hrefused⟩ => ⟨hs, hcareful.1 hrefused⟩
  | mem m => exact .inr (congrArg Prod.fst hunder).symm

/-- What a removal leaves, it leaves also if it is refused. -/
theorem Op.Acts.leaves {K : Host → Prop} (h : o.Acts Op.Careful s s' r) (hidle : o.Idle s → K s)
    (hexec : K (o.exec s).1) : K s' := by
  rcases Op.acts_cases h with ⟨rfl, hi⟩ | rfl
  · exact hidle hi
  · exact hexec

theorem vfio_exec (h : ∀ pci, o ≠ .cmd (.bindVfio pci)) : ∀ pci ∈ (o.exec s).1.vfio, pci ∈ s.vfio := by
  intro pci hpci
  cases o with
  | sql q =>
    cases q <;> simp only [Op.exec, Sql.exec] at hpci <;> try split at hpci
    all_goals exact hpci
  | mem m =>
    cases m <;> simp only [Op.exec, Mem.exec] at hpci <;> try split at hpci
    all_goals exact hpci
  | cmd c =>
    cases c with
    | bindVfio p => exact absurd rfl (h p)
    | unbindVfio p => exact (mem_filter.mp hpci).1
    | _ =>
      simp only [Op.exec, Cmd.exec] at hpci
      repeat' split at hpci
      all_goals exact hpci

/-- An operation that makes nothing and stays away from ledger and rows. -/
def Op.quiet (o : Op) : Bool :=
  !o.creates && !o.touches .ledger && !o.touches .records && match o with
    | .cmd (.bindVfio _) => false
    | _ => true

theorem going_exec (h : o.quiet = true) : Going spec vms s (o.exec s).1 := by
  simp only [Op.quiet, Bool.and_eq_true, Bool.not_eq_true'] at h
  obtain ⟨⟨⟨hcreates, hledger⟩, hrecords⟩, hbind⟩ := h
  refine ⟨sheds_exec hcreates, vfio_exec fun pci heq => ?_, fun hs vm hvm => ?_, same_of_untouched hrecords⟩
  · rw [heq] at hbind
    cases hbind
  · exact (hs vm hvm).untouched hcreates hledger

theorem going_act (h : o.Acts Op.Careful s s' r) (ho : o.quiet = true) : Going spec vms s s' :=
  h.leaves (fun _ => Going.refl) (going_exec ho)

/-- An operation that removes something, whatever its fate. -/
theorem ensures_removal (spec : HostSpec) (vms : List VmId) (K : Host → Prop) (ho : o.quiet = true)
    (hidle : o.Idle s → K s) (hexec : K (o.exec s).1) :
    (perform o : Job o.Resp).Ensures (Op.Acts Op.Careful) s fun _ s' => Going spec vms s s' ∧ K s' :=
  ensures_perform fun _ _ hact => ⟨going_act hact ho, hact.leaves hidle hexec⟩

theorem ensures_quiet (spec : HostSpec) (vms : List VmId) (ho : o.quiet = true) :
    (perform o : Job o.Resp).Ensures (Op.Acts Op.Careful) s fun _ s' => Going spec vms s s' :=
  ensures_perform fun _ _ hact => going_act hact ho

variable {K : α → Host → Prop} {vg lv id : String}

/-- What a part of a delete achieves where it does not fail. -/
abbrev Goes (spec : HostSpec) (vms : List VmId) (q : Fallible ε α) (s : Host) (K : α → Host → Prop) : Prop :=
  Within (Op.Acts Op.Careful) (Going spec vms) q s K

theorem within_orFail {f : String → ε} {job : Job (Except String α)}
    (h : job.Ensures (Op.Acts Op.Careful) s (Either (Going spec vms s) fun a s' => Going spec vms s s' ∧ K a s')) :
    Goes spec vms (orFail f job) s K := by
  refine Ensures.bind h fun result s' hs' => ?_
  cases result with
  | ok a | error what => exact ensures_pure hs'

theorem within_orLvm {q : Fallible LvmError α} (h : Goes spec vms q s K) : Goes spec vms (Agent.orLvm q) s K := by
  refine Ensures.bind h fun result s' hs' => ?_
  cases result with
  | ok a | error e => exact ensures_pure hs'

theorem within_run {c : Cmd} {K : c.Resp → Host → Prop} (ho : (Op.cmd c).quiet = true)
    (hK : ∀ a, (c.exec s).2 = .ok a → K a (c.exec s).1) : Goes spec vms (Storage.run c) s K := by
  refine within_orFail (ensures_perform fun s' r hact => ?_)
  have hgoing : Going spec vms s s' := going_act hact ho
  cases r with
  | error what => exact hgoing
  | ok a =>
    obtain ⟨fate, -, hunder⟩ := hact
    have hexec : c.exec s = (s', .ok a) := Fate.eq_of_ok hunder
    rw [hexec] at hK
    exact ⟨hgoing, hK a rfl⟩

theorem within_sql {q : Sql} {K : q.Resp → Host → Prop} (hgoes : Going spec vms s ((Op.sql q).exec s).1)
    (hK : ∀ a, (q.exec s).2 = .ok a → K a (q.exec s).1) : Goes spec vms (Storage.sql q) s K := by
  refine within_orFail (ensures_perform fun s' r hact => ?_)
  have hgoing : Going spec vms s s' := hact.leaves (fun _ => Going.refl) hgoes
  cases r with
  | error what => exact hgoing
  | ok a =>
    obtain ⟨fate, -, hunder⟩ := hact
    have hexec : q.exec s = (s', .ok a) := Fate.eq_of_ok hunder
    rw [hexec] at hK
    exact ⟨hgoing, hK a rfl⟩

/-- A permit is given back wherever the body ends. -/
theorem within_withPermit {role : String} {body : Fallible LvmError α}
    (hbody : ∀ s₁, Going spec vms s s₁ → Goes spec vms body s₁ K)
    (hK : ∀ a s₁ s₂, Going spec vms s₁ s₂ → K a s₁ → K a s₂) : Goes spec vms (withPermit role body) s K := by
  refine Ensures.bind (ensures_quiet spec vms rfl) fun granted s₁ hs₁ => ?_
  cases granted with
  | false => exact ensures_pure hs₁
  | true =>
    refine Ensures.bind (hbody s₁ hs₁) fun result s₂ hs₂ => ?_
    refine Ensures.bind (ensures_quiet spec vms rfl) fun _ s₃ hs₃ => ?_
    cases result with
    | ok a => exact ensures_pure ⟨hs₁.trans (hs₂.1.trans hs₃), hK a s₂ s₃ hs₃ hs₂.2⟩
    | error e => exact ensures_pure (hs₁.trans (Going.trans hs₂ hs₃))

theorem Going.hasLv (h : Going spec vms s s') (hlv : s.hasLv vg lv = false) : s'.hasLv vg lv = false :=
  Bool.eq_false_of_imp (h.sheds.volumes vg lv) hlv

theorem within_lvremove : Goes spec vms (lvremove vg lv) s fun _ s' => s'.hasLv vg lv = false :=
  within_run rfl fun _ _ => hasLv_lvremove (s := s)

theorem within_removeVmRootfs : Goes spec vms (removeVmRootfs spec vmId) s fun _ s' =>
    s'.hasLv spec.rootfsVg (vmLvName vmId) = false := by
  have hattr : Goes spec vms (lvAttr spec.rootfsVg (vmLvName vmId)) s fun present s' =>
      s'.hasLv spec.rootfsVg (vmLvName vmId) = present :=
    within_run rfl fun present hexec => by cases hexec; rfl
  refine hattr.bind Going.trans fun present s₁ _ hpresent => ?_
  cases present with
  | false => exact within_pure Going.refl hpresent
  | true => exact within_withPermit (fun s₂ _ => within_lvremove) fun _ _ _ h hlv => h.hasLv hlv

/-! ### Reservations -/

/-- No reservation of this assignment is left. -/
def Host.Released (s : Host) (assignmentId : String) : Prop := ∀ r ∈ s.reservations.rows, r.assignmentId ≠ assignmentId

theorem Going.released (h : Going spec vms s s') (hid : s.Released id) : s'.Released id := by
  intro r' hr' heq
  obtain ⟨r, hr, hr'eq⟩ := h.sheds.reservations r' hr'
  rw [hr'eq] at heq
  exact hid r hr heq

theorem within_setReservation {state : ReservationState} :
    Goes spec vms (Storage.sql (.setReservation id state)) s fun _ _ => True := by
  refine within_sql ⟨sheds_exec rfl, fun _ h => h, fun hs vm hvm => ?_, rfl⟩ fun _ _ => trivial
  exact (hs vm hvm).setReservation

theorem within_deleteReservation {row : LvmReservationRow} (hlisted : s.Listed row)
    (hgone : s.hasLv row.vg row.lvName = false) :
    Goes spec vms (Storage.sql (.deleteReservation row.assignmentId)) s fun _ s' =>
      s'.Released row.assignmentId := by
  refine within_sql ⟨sheds_exec rfl, fun _ h => h, fun hs vm hvm => ?_, rfl⟩ fun _ _ r hr => ?_
  · exact (hs vm hvm).removeRow hlisted hgone
  · exact of_decide_eq_false (mem_delete.mp hr).2

theorem within_markDeleting (rows : List LvmReservationRow) :
    Goes spec vms (markDeleting rows) s fun _ _ => True := by
  induction rows generalizing s with
  | nil => exact within_pure Going.refl trivial
  | cons row rows ih => exact within_setReservation.bind Going.trans fun _ _ _ _ => ih

/-- Every reservation that was listed is dropped after its volume. -/
theorem within_removeReserved (rows : List LvmReservationRow) (hlisted : ∀ row ∈ rows, s.Listed row) :
    Goes spec vms (removeReserved rows) s fun _ s' =>
      ∀ row ∈ rows, s'.Released row.assignmentId := by
  induction rows generalizing s with
  | nil => exact within_pure Going.refl fun _ h => (by cases h)
  | cons row rows ih =>
    refine within_lvremove.bind Going.trans fun _ s₁ hs₁ hgone => ?_
    have hlisted₁ : s₁.Listed row := (hlisted row mem_cons_self).shed hs₁.sheds
    refine (within_deleteReservation hlisted₁ hgone).bind Going.trans fun _ s₂ hs₂ hreleased => ?_
    have hrest : ∀ row' ∈ rows, s₂.Listed row' := fun row' hrow' =>
      (hlisted row' (mem_cons_of_mem row hrow')).shed (hs₁.trans hs₂).sheds
    refine (ih hrest).mono fun _ s₃ hs₃ hdone row' hrow' => ?_
    rcases mem_cons.mp hrow' with rfl | hrow'
    · exact hs₃.released hreleased
    · exact hdone row' hrow'

/-- The VM has no reservation in this pool. -/
def Host.Left (s : Host) (vmId : VmId) (pool : String) : Prop :=
  ∀ r ∈ s.reservations.rows, r.vmId = vmId → r.pool ≠ pool

theorem Going.left (h : Going spec vms s s') {pool : String} (hleft : s.Left vmId pool) : s'.Left vmId pool := by
  intro r' hr' hvm
  obtain ⟨r, hr, heq⟩ := h.sheds.reservations r' hr'
  rw [heq] at hvm ⊢
  exact hleft r hr hvm

theorem within_release (pool : PoolSpec) :
    Goes spec vms (release vmId pool) s fun _ s' => s'.Left vmId pool.name := by
  have hlist : Goes spec vms (Storage.sql (.reservationsOf pool.name vmId)) s
      fun rows s' => rows = s'.reservations.rows.filter fun r => r.pool = pool.name ∧ r.vmId = vmId :=
    within_sql Going.refl fun rows hexec => by cases hexec; rfl
  refine hlist.bind Going.trans fun (rows : List LvmReservationRow) s₁ _ hrows => ?_
  have hmem : ∀ r ∈ s₁.reservations.rows, r.vmId = vmId → r.pool = pool.name → r ∈ rows := by
    intro r hr hvm hpool
    rw [hrows]
    exact mem_filter.mpr ⟨hr, decide_eq_true ⟨hpool, hvm⟩⟩
  by_cases hempty : rows.isEmpty = true
  · -- nothing to release
    rw [if_pos hempty]
    refine within_pure Going.refl fun r hr hvm hpool => ?_
    have hin := hmem r hr hvm hpool
    rw [List.isEmpty_iff.mp hempty] at hin
    cases hin
  · rw [if_neg hempty]
    refine (within_markDeleting rows).bind Going.trans fun _ s₂ hs₂ _ => ?_
    have hlisted : ∀ row ∈ rows, s₁.Listed row := by
      intro row hrow r hr hid
      have hrow' : row ∈ s₁.reservations.rows := by
        rw [hrows] at hrow
        exact (mem_filter.mp hrow).1
      have heq : r = row := eq_of_clash hr hrow' (.inl hid)
      exact ⟨congrArg _ heq, congrArg _ heq⟩
    have hremove : Goes spec vms (withPermit (gate pool) (removeReserved rows)) s₂
        fun _ s' => ∀ row ∈ rows, s'.Released row.assignmentId := by
      refine within_withPermit (fun s₃ hs₃ => ?_) fun _ _ _ h hdone row hrow => h.released (hdone row hrow)
      exact within_removeReserved rows fun row hrow => (hlisted row hrow).shed (hs₂.trans hs₃).sheds
    refine hremove.mono fun _ s₃ hs₃ hdone r' hr' hvm hpool => ?_
    -- a reservation that is still there was there when the rows were listed
    obtain ⟨r, hr, heq⟩ := (hs₂.trans hs₃).sheds.reservations r' hr'
    have hin : r ∈ rows := by
      refine hmem r hr ?_ ?_
      · rw [heq] at hvm
        exact hvm
      · rw [heq] at hpool
        exact hpool
    refine hdone r hin r' hr' ?_
    rw [heq]

theorem within_releaseVmDisks (pools : List PoolSpec) :
    Goes spec vms (releaseVmDisks vmId pools) s fun _ s' =>
      ∀ pool ∈ pools, s'.Left vmId pool.name := by
  induction pools generalizing s with
  | nil => exact within_pure Going.refl fun _ h => (by cases h)
  | cons pool pools ih =>
    refine (within_release pool).bind Going.trans fun _ s₁ _ hleft => ?_
    refine ih.mono fun _ s₂ hs₂ hrest pool' hpool' => ?_
    rcases mem_cons.mp hpool' with rfl | hpool'
    · exact hs₂.left hleft
    · exact hrest pool' hpool'

/-! ### The whole of it -/

/-- A delete, whether it fails or not: like `Going`, but the row of a VM may go once its GPUs are unbound. -/
structure Torn (spec : HostSpec) (vms : List VmId) (s s' : Host) : Prop where
  sheds : s.Sheds s'
  vfio : ∀ pci ∈ s'.vfio, pci ∈ s.vfio
  ledger : (∀ vmId ∈ vms, s.Ledgered spec vmId) → ∀ vmId ∈ vms, s'.Ledgered spec vmId
  rows : ∀ row ∈ s.localVms.rows, row ∈ s'.localVms.rows ∨ ∀ pci ∈ row.gpuPciAddresses, pci ∉ s'.vfio

theorem Going.torn (h : Going spec vms s s') : Torn spec vms s s' :=
  ⟨h.sheds, h.vfio, h.ledger, fun _ hrow => .inl (h.records ▸ hrow)⟩

theorem Torn.trans (h : Torn spec vms s s') (h' : Torn spec vms s' s'') : Torn spec vms s s'' where
  sheds := h.sheds.trans h'.sheds
  vfio := fun pci hpci => h.vfio pci (h'.vfio pci hpci)
  ledger := fun hs => h'.ledger (h.ledger hs)
  rows := by
    intro row hrow
    rcases h.rows row hrow with hrow | hunbound
    · exact h'.rows row hrow
    · exact .inr fun pci hpci hbound => hunbound pci hpci (h'.vfio pci hbound)

/-- Nothing of the VM is left; its GPUs are those of its row on the host `s₀`. -/
structure VmGone (spec : HostSpec) (vmId : VmId) (s₀ s : Host) : Prop where
  process : s.running (unitNameForVm vmId) = false
  tap : spec.primaryTapName vmId ∉ s.taps
  gpus : ∀ row ∈ s₀.localVms.rows, row.vmId = vmId → ∀ pci ∈ row.gpuPciAddresses, pci ∉ s.vfio
  rootfs : s.hasLv spec.rootfsVg (vmLvName vmId) = false
  volumes : ∀ vg i, s.hasLv vg (lvName vmId i) = false
  reservations : ∀ r ∈ s.reservations.rows, r.vmId ≠ vmId
  record : s.recorded vmId = false

theorem VmGone.torn {s₀ : Host} (h : VmGone spec vmId s₀ s) (hs : Torn spec vms s s') : VmGone spec vmId s₀ s' where
  process := Bool.eq_false_of_imp (hs.sheds.running _) h.process
  tap := fun ht => h.tap (hs.sheds.taps _ ht)
  gpus := fun row hrow hvm pci hpci hbound => h.gpus row hrow hvm pci hpci (hs.vfio pci hbound)
  rootfs := Bool.eq_false_of_imp (hs.sheds.volumes _ _) h.rootfs
  volumes := fun vg i => Bool.eq_false_of_imp (hs.sheds.volumes _ _) (h.volumes vg i)
  reservations := by
    intro r' hr' hvm
    obtain ⟨r, hr, heq⟩ := hs.sheds.reservations r' hr'
    rw [heq] at hvm
    exact h.reservations r hr hvm
  record := Bool.eq_false_of_imp (hs.sheds.recorded _) h.record

theorem ensures_getVm : (statement (.getVm vmId)).Ensures (Op.Acts Op.Careful) s fun record s' =>
    Going spec vms s s' ∧ ∀ row ∈ s.localVms.rows, row.vmId = vmId → record = .ok (some row) := by
  refine ensures_perform fun s' r hact => ⟨going_act hact rfl, fun row hrow hvm => ?_⟩
  obtain ⟨fate, hcareful, hunder⟩ := hact
  have hdone : fate = .done := hcareful.2 vmId rfl (Host.recorded_iff.mpr ⟨row, hrow, hvm⟩)
  subst hdone
  have hfind : s.localVms.find (fun r => r.vmId = vmId) = some row := by
    cases hfound : s.localVms.find (fun r => r.vmId = vmId) with
    | none =>
      have hno := List.find?_eq_none.mp hfound row hrow
      simp [hvm] at hno
    | some other =>
      have hother : other.vmId = vmId := by simpa using List.find?_some hfound
      rw [eq_of_clash (mem_of_find?_eq_some hfound) hrow (hother.trans hvm.symm)]
  have hexec : (s, Except.ok (s.localVms.find fun r => r.vmId = vmId)) = (s', r) := hunder
  rw [hfind] at hexec
  exact (congrArg Prod.snd hexec).symm

/-- The process is stopped, whatever else fails. -/
theorem ensures_stopVm : (VmManager.deleteVm vmId).Ensures (Op.Acts Op.Careful) s fun _ s' =>
    Going spec vms s s' ∧ s'.running (unitNameForVm vmId) = false := by
  refine Ensures.bind (ensures_quiet spec vms rfl) fun _ s₁ hs₁ => ?_
  refine Ensures.bind (ensures_removal spec vms (fun s => s.running (unitNameForVm vmId) = false) rfl (fun h => h)
    running_systemctlStop) fun _ s₂ hs₂ => ?_
  refine Ensures.bind (ensures_quiet spec vms rfl) fun _ s₃ hs₃ => ?_
  refine Ensures.bind (ensures_quiet spec vms rfl) fun _ s₄ hs₄ => ?_
  refine Ensures.bind (ensures_quiet spec vms rfl) fun _ s₅ hs₅ => ?_
  have hrest := hs₃.trans (hs₄.trans hs₅)
  exact ensures_pure ⟨hs₁.trans (hs₂.1.trans hrest), Bool.eq_false_of_imp (hrest.sheds.running _) hs₂.2⟩

theorem ensures_unbindAll (pcis : List String) :
    (forEach pcis fun pci => do let _ ← command (.unbindVfio pci)).Ensures (Op.Acts Op.Careful) s fun _ s' =>
      Going spec vms s s' ∧ ∀ pci ∈ pcis, pci ∉ s'.vfio := by
  induction pcis generalizing s with
  | nil => exact ensures_pure ⟨Going.refl, fun _ h => (by cases h)⟩
  | cons pci pcis ih =>
    have hone : (do let _ ← command (.unbindVfio pci) : Job Unit).Ensures (Op.Acts Op.Careful) s fun _ s' =>
        Going spec vms s s' ∧ pci ∉ s'.vfio := by
      refine Ensures.bind (ensures_removal spec vms (fun s => pci ∉ s.vfio) rfl (fun h => h) ?_)
        fun _ s' hs' => ensures_pure hs'
      simp [Op.exec, Cmd.exec]
    refine Ensures.bind hone fun _ s₁ hs₁ => ih.mono fun _ s₂ hs₂ => ⟨hs₁.1.trans hs₂.1, fun pci' hpci' => ?_⟩
    rcases mem_cons.mp hpci' with rfl | hpci'
    · exact fun hbound => hs₁.2 (hs₂.1.vfio _ hbound)
    · exact hs₂.2 pci' hpci'

/-- **An `Ok` of `delete_vm`** means that nothing of the VM is left, on a host with a proper ledger. -/
theorem deleteVm_within (hs : ∀ vm ∈ vms, s.Ledgered spec vm) (hvm : vmId ∈ vms) :
    Within (Op.Acts Op.Careful) (Torn spec vms) (deleteVm spec vmId) s fun _ s' => VmGone spec vmId s s' := by
  have hlift : ∀ {α : Type} {p : Job α} {s : Host} {K : α → Host → Prop},
      (p.Ensures (Op.Acts Op.Careful) s fun a s' => Going spec vms s s' ∧ K a s') →
      Within (Op.Acts Op.Careful) (Torn spec vms) (ExceptT.lift p : Fallible AgentError α) s fun a s' =>
        Going spec vms s s' ∧ K a s' :=
    fun h => (within_lift h).widen fun _ => Going.torn
  refine (hlift ensures_getVm).bind Torn.trans fun record s₁ _ hread => ?_
  obtain ⟨hs₁, hrecord⟩ := hread
  refine (hlift ensures_stopVm).bind Torn.trans fun _ s₂ _ ⟨hs₂, hstopped⟩ => ?_
  have hdetach : (command (.linkDelete (spec.primaryTapName vmId))).Ensures (Op.Acts Op.Careful) s₂ fun _ s' =>
      Going spec vms s₂ s' ∧ spec.primaryTapName vmId ∉ s'.taps :=
    ensures_removal spec vms (fun s => spec.primaryTapName vmId ∉ s.taps) rfl (fun h => h) taps_linkDelete
  refine (hlift hdetach).bind Torn.trans fun _ s₃ _ ⟨hs₃, htap⟩ => ?_
  have hbefore := hs₁.trans (hs₂.trans hs₃)
  have hrest : ∀ s₄, Going spec vms s₃ s₄ →
      (∀ row ∈ s.localVms.rows, row.vmId = vmId → ∀ pci ∈ row.gpuPciAddresses, pci ∉ s₄.vfio) →
      Within (Op.Acts Op.Careful) (Torn spec vms) (do
        orLvm (removeVmRootfs spec vmId)
        orLvm (releaseVmDisks vmId spec.pools)
        let _ ← ExceptT.lift (statement (.deleteVm vmId))) s₄ fun _ s' => VmGone spec vmId s s' := by
    intro s₄ hs₄ hgpus
    refine ((within_orLvm within_removeVmRootfs).widen fun _ => Going.torn).bind Torn.trans
      fun _ s₅ _ ⟨hs₅, hrootfs⟩ => ?_
    refine ((within_orLvm (within_releaseVmDisks spec.pools)).widen fun _ => Going.torn).bind Torn.trans
      fun _ s₆ _ ⟨hs₆, hleft⟩ => ?_
    have hlate := hs₄.trans (hs₅.trans hs₆)
    have hall := hbefore.trans hlate
    have hledger := (hall.ledger hs) vmId hvm
    have hreservations : ∀ r ∈ s₆.reservations.rows, r.vmId ≠ vmId := by
      intro r hr hrvm
      obtain ⟨pool, hpool, hname⟩ := hledger.configured r hr hrvm
      exact hleft pool hpool r hr hrvm hname.symm
    have hunbound : ∀ row ∈ s.localVms.rows, row.vmId = vmId → ∀ pci ∈ row.gpuPciAddresses, pci ∉ s₆.vfio :=
      fun row hrow hrvm pci hpci hbound => hgpus row hrow hrvm pci hpci ((hs₅.trans hs₆).vfio pci hbound)
    -- the row goes last
    have hforget : (statement (.deleteVm vmId)).Ensures (Op.Acts Op.Careful) s₆ fun _ s' =>
        Torn spec vms s₆ s' ∧ VmGone spec vmId s s' := by
      refine ensures_perform fun s₇ r hact => ?_
      have htorn : Torn spec vms s₆ s₇ := by
        refine hact.leaves (fun _ => Going.refl.torn) ⟨sheds_exec rfl, fun _ h => h, fun hl vm hmem => ?_, ?_⟩
        · exact (hl vm hmem).untouched rfl rfl
        · intro row hrow
          by_cases hrvm : row.vmId = vmId
          · exact .inr (hunbound row (hall.records ▸ hrow) hrvm)
          · exact .inl (mem_delete.mpr ⟨hrow, decide_eq_false hrvm⟩)
      refine ⟨htorn, ?_⟩
      exact
        { process := Bool.eq_false_of_imp (fun h => (hs₃.trans hlate).sheds.running _ (htorn.sheds.running _ h))
            hstopped
          tap := fun ht => htap (hlate.sheds.taps _ (htorn.sheds.taps _ ht))
          gpus := fun row hrow hrvm pci hpci hbound => hunbound row hrow hrvm pci hpci (htorn.vfio pci hbound)
          rootfs := Bool.eq_false_of_imp (fun h => hs₆.sheds.volumes _ _ (htorn.sheds.volumes _ _ h)) hrootfs
          volumes := by
            intro vg i
            rw [← Bool.not_eq_true]
            intro hlv
            obtain ⟨r, hr, hrvm, -⟩ := hledger.covered vg i (htorn.sheds.volumes _ _ hlv)
            exact hreservations r hr hrvm
          reservations := by
            intro r' hr' hrvm
            obtain ⟨r, hr, heq⟩ := htorn.sheds.reservations r' hr'
            rw [heq] at hrvm
            exact hreservations r hr hrvm
          record := hact.leaves (K := fun s => s.recorded vmId = false) (fun h => h) recorded_deleteVm }
    exact (within_lift hforget).bind Torn.trans fun _ s' _ hgone => within_pure Going.refl.torn hgone
  -- the GPUs of the row that was read
  cases record with
  | error what => exact hrest s₃ Going.refl fun row hrow hrvm => nomatch hrecord row hrow hrvm
  | ok found =>
    cases found with
    | none => exact hrest s₃ Going.refl fun row hrow hrvm => nomatch hrecord row hrow hrvm
    | some row =>
      refine (hlift (ensures_unbindAll row.gpuPciAddresses)).bind Torn.trans fun _ s₄ _ ⟨hs₄, hunbound⟩ => ?_
      refine hrest s₄ hs₄ fun row' hrow' hrvm => ?_
      cases hrecord row' hrow' hrvm
      exact hunbound

end Host

/-! ## `tombstone_cluster` -/

section Net

variable {s s' s'' : Net} {o : NetOp} {r : o.Resp} {v : Nat} {cidr : String}

/-- No device and no rule is made. -/
structure Shrinks (s s' : Net) : Prop where
  bridges : ∀ v, s'.kernel.hasBridge v = true → s.kernel.hasBridge v = true
  vxlans : ∀ v, s'.kernel.hasVxlan v = true → s.kernel.hasVxlan v = true
  rules : ∀ rule ∈ s'.kernel.rules, rule ∈ s.kernel.rules

theorem Shrinks.refl : Shrinks s s := ⟨fun _ h => h, fun _ h => h, fun _ h => h⟩

theorem Shrinks.trans (h : Shrinks s s') (h' : Shrinks s' s'') : Shrinks s s'' :=
  ⟨fun v hv => h.bridges v (h'.bridges v hv), fun v hv => h.vxlans v (h'.vxlans v hv),
    fun rule hrule => h.rules rule (h'.rules rule hrule)⟩

/-- The operations of a tombstone. -/
def Network.NetOp.removes : NetOp → Bool
  | .live _ => true
  | .cmd (.linkMaster _) | .cmd (.linkSlaves _) | .cmd (.linkDelete _) => true
  | .cmd (.ruleDelete _) | .cmd (.neighDel _) => true
  | _ => false

theorem shrinks_linkDelete {link : Link} : Shrinks s ((NetOp.cmd (.linkDelete link)).exec s).1 := by
  have hwithin : ∀ k, Shrinks s { s with kernel := k } → Shrinks s { s with kernel := s.kernel } →
      Shrinks s { s with kernel := (onObject (s.kernel.has link) s.kernel k ()).1 } := by
    intro k hk hs
    unfold onObject
    split
    · exact hk
    · exact hs
  cases link with
  | bridge u =>
    refine hwithin (s.kernel.withoutBridge u) ⟨fun w hw => ?_, fun w hw => ?_, fun _ h => h⟩ Shrinks.refl
    · obtain ⟨b, hb, hvni⟩ := Kernel.hasBridge_iff.mp hw
      exact Kernel.hasBridge_iff.mpr ⟨b, (mem_delete.mp hb).1, hvni⟩
    · obtain ⟨x, hx, hvni⟩ := Kernel.hasVxlan_iff.mp hw
      obtain ⟨y, hy, rfl⟩ := mem_map.mp hx
      refine Kernel.hasVxlan_iff.mpr ⟨y, hy, ?_⟩
      rw [← hvni]
      split <;> rfl
  | vxlan u =>
    refine hwithin (s.kernel.withoutVxlan u) ⟨fun _ h => h, fun w hw => ?_, fun _ h => h⟩ Shrinks.refl
    obtain ⟨x, hx, hvni⟩ := Kernel.hasVxlan_iff.mp hw
    exact Kernel.hasVxlan_iff.mpr ⟨x, (mem_delete.mp hx).1, hvni⟩
  | vrf name =>
    refine hwithin (s.kernel.withoutVrf name) ⟨fun w hw => ?_, fun _ h => h, fun _ h => h⟩ Shrinks.refl
    obtain ⟨b, hb, hvni⟩ := Kernel.hasBridge_iff.mp hw
    obtain ⟨y, hy, rfl⟩ := mem_map.mp hb
    refine Kernel.hasBridge_iff.mpr ⟨y, hy, ?_⟩
    rw [← hvni]
    split <;> rfl

theorem shrinks_exec (h : o.removes = true) : Shrinks s (o.exec s).1 := by
  cases o with
  | live o => cases o <;> exact ⟨fun _ h => h, fun _ h => h, fun _ h => h⟩
  | cmd c =>
    cases c with
    | linkDelete link => exact shrinks_linkDelete
    | ruleDelete rule =>
      have hexec : ((NetOp.cmd (.ruleDelete rule)).exec s).1 =
          { s with kernel := { s.kernel with rules := s.kernel.rules.erase rule } } :=
        congrArg (fun k => ({ s with kernel := k } : Net)) rules_ruleDelete
      rw [hexec]
      exact ⟨fun _ h => h, fun _ h => h, fun _ h => mem_of_mem_erase h⟩
    | neighDel addr =>
      obtain ⟨proxies, hexec, -⟩ := proxies_neighDel s.kernel addr
      have hstate : ((NetOp.cmd (.neighDel addr)).exec s).1 = { s with kernel := { s.kernel with proxies } } :=
        congrArg (fun k => ({ s with kernel := k } : Net)) hexec
      rw [hstate]
      exact ⟨fun _ h => h, fun _ h => h, fun _ h => h⟩
    | linkMaster u | linkSlaves vrf =>
      simp only [NetOp.exec, NetCmd.exec, onObject]
      split <;> exact Shrinks.refl
    | _ => cases h

theorem NetOp.acts_cases (h : o.Acts NetOp.Careful s s' r) : s' = s ∧ o.Idle s ∨ s' = (o.exec s).1 := by
  obtain ⟨fate, hcareful, hunder⟩ := h
  cases o with
  | cmd c => exact (Fate.state hunder).imp_left fun ⟨hs, hrefused⟩ => ⟨hs, hcareful.1 hrefused⟩
  | live o => exact .inr (congrArg Prod.fst hunder).symm

variable {K : Net → Prop} {c : NetCmd} {removed : Option ClusterLive} {tomb : ClusterTombstone}

theorem leaves_of_netActs (h : o.Acts NetOp.Careful s s' r) (hidle : o.Idle s → K s)
    (hexec : K (o.exec s).1) : K s' := by
  rcases NetOp.acts_cases h with ⟨rfl, hi⟩ | rfl
  · exact hidle hi
  · exact hexec

theorem shrinks_act (h : o.Acts NetOp.Careful s s' r) (ho : o.removes = true) : Shrinks s s' :=
  leaves_of_netActs h (fun _ => Shrinks.refl) (shrinks_exec ho)

/-- What a part of a tombstone achieves where it does not fail. -/
abbrev Cuts {ε α : Type} (q : ExceptT ε NetJob α) (s : Net) (K : α → Net → Prop) : Prop :=
  Within (NetOp.Acts NetOp.Careful) Shrinks q s K

theorem within_live {o : LiveOp} : Cuts (live o) s fun _ _ => True :=
  within_lift (ensures_perform fun _ _ hact => ⟨shrinks_act hact rfl, trivial⟩)

theorem within_spawned (hc : (NetOp.cmd c).removes = true) : Cuts (spawned c) s fun _ _ => True := by
  have hattempt : (attempt c).Ensures (NetOp.Acts NetOp.Careful) s fun _ s' => Shrinks s s' :=
    ensures_perform fun _ _ hact => shrinks_act hact hc
  refine Ensures.bind hattempt fun result s' hs' => ensures_pure ?_
  cases result with
  | ok out => exact ⟨hs', trivial⟩
  | error failure =>
    cases failure with
    | spawn what => exact hs'
    | status stderr => exact ⟨hs', trivial⟩

theorem within_logged (hc : (NetOp.cmd c).removes = true)
    (hK : ∀ s' r, (NetOp.cmd c).Acts NetOp.Careful s s' r → K s') : Cuts (logged c) s fun _ s' => K s' := by
  have hattempt : (attempt c).Ensures (NetOp.Acts NetOp.Careful) s fun _ s' => Shrinks s s' ∧ K s' :=
    ensures_perform fun s' r hact => ⟨shrinks_act hact hc, hK s' r hact⟩
  exact within_lift (Ensures.bind hattempt fun _ s' hs' => ensures_pure hs')

theorem within_vrfOf : Cuts (vrfOf removed v) s fun _ _ => True := by
  unfold vrfOf
  cases removed.bind (·.vrf) with
  | some vrf => exact within_pure Shrinks.refl trivial
  | none =>
    refine (within_spawned rfl).bind Shrinks.trans fun master s₁ _ _ => ?_
    cases master <;> exact within_pure Shrinks.refl trivial

theorem within_dropProxyArp : Cuts (dropProxyArp removed) s fun _ _ => True := by
  cases removed with
  | none => exact within_pure Shrinks.refl trivial
  | some entry =>
    refine within_forM (fun _ => Shrinks.refl) Shrinks.trans fun addr _ s => ?_
    refine within_live.bind Shrinks.trans fun others s₁ _ _ => ?_
    exact within_ite (fun _ => within_pure Shrinks.refl trivial) fun _ => within_logged rfl fun _ _ _ => trivial

theorem rule_of_ruleDelete {rule : Rule} {r : (NetOp.cmd (.ruleDelete rule)).Resp}
    (h : (NetOp.cmd (.ruleDelete rule)).Acts NetOp.Careful s s' r) : rule ∉ s'.kernel.rules := by
  have hone : s.kernel.rules.count rule ≤ 1 := by
    obtain ⟨fate, hcareful, -⟩ := h
    exact hcareful.2 rule rfl
  refine leaves_of_netActs (K := fun s => rule ∉ s.kernel.rules) h (fun hidle => hidle) ?_
  have hexec : ((NetOp.cmd (.ruleDelete rule)).exec s).1.kernel.rules = s.kernel.rules.erase rule :=
    congrArg Kernel.rules rules_ruleDelete
  rw [hexec, ← count_eq_zero, count_erase_self]
  omega

/-- The cluster of a tombstone is gone. -/
structure ClusterGone (tomb : ClusterTombstone) (s : Net) : Prop where
  bridge : s.kernel.hasBridge tomb.vni = false
  vxlan : s.kernel.hasVxlan tomb.vni = false
  rule : .masquerade tomb.cidr ∉ s.kernel.rules

theorem ClusterGone.shrinks (h : ClusterGone tomb s) (hs : Shrinks s s') : ClusterGone tomb s' :=
  ⟨Bool.eq_false_of_imp (hs.bridges _) h.bridge, Bool.eq_false_of_imp (hs.vxlans _) h.vxlan,
    fun hrule => h.rule (hs.rules _ hrule)⟩

theorem within_removeClusterMasquerade :
    Cuts (removeClusterMasquerade cidr) s fun _ s' =>
      .masquerade cidr ∉ s'.kernel.rules := by
  refine (within_logged rfl fun s' r hact => rule_of_ruleDelete hact).bind Shrinks.trans fun _ s₁ _ hrule => ?_
  refine Within.mono (within_logged (K := fun _ => True) rfl fun _ _ _ => trivial) fun _ s₂ hs₂ _ hin => ?_
  exact hrule (hs₂.rules _ hin)

theorem within_dropVrf {vrf : Option String} : Cuts (dropVrf vrf) s fun _ _ => True := by
  cases vrf with
  | none => exact within_pure Shrinks.refl trivial
  | some name =>
    refine within_ite (fun _ => ?_) fun _ => within_pure Shrinks.refl trivial
    refine (within_spawned rfl).bind Shrinks.trans fun slaves s₁ _ _ => ?_
    match slaves with
    | .ok false => exact within_logged rfl fun _ _ _ => trivial
    | .ok true | .error _ => exact within_pure Shrinks.refl trivial

/-- **An `Ok` of `tombstone_cluster`** means that devices and rule are gone. -/
theorem tombstoneCluster_within (hcidr : tomb.cidr ≠ "") :
    Cuts (Network.tombstoneCluster tomb.vni tomb.cidr) s fun _ s' =>
      ClusterGone tomb s' := by
  refine within_live.bind Shrinks.trans fun removed s₁ _ _ => ?_
  refine within_vrfOf.bind Shrinks.trans fun vrf s₂ _ _ => ?_
  refine within_dropProxyArp.bind Shrinks.trans fun _ s₃ _ _ => ?_
  have hremoved : masqueradeCidr removed tomb.cidr = some tomb.cidr := if_pos hcidr
  rw [hremoved]
  refine within_removeClusterMasquerade.bind Shrinks.trans fun _ s₄ _ hrule => ?_
  have hvxlan : Cuts (logged (.linkDelete (.vxlan tomb.vni))) s₄ fun _ s' =>
      s'.kernel.hasVxlan tomb.vni = false := by
    refine within_logged rfl fun s' r hact => ?_
    refine leaves_of_netActs (K := fun s => s.kernel.hasVxlan tomb.vni = false) hact (fun h => h) ?_
    have hexec : ((NetOp.cmd (.linkDelete (.vxlan tomb.vni))).exec s₄).1.kernel = s₄.kernel.withoutVxlan tomb.vni :=
      vxlans_linkDelete
    rw [hexec, ← Bool.not_eq_true, Kernel.hasVxlan_iff]
    rintro ⟨x, hx, hvni⟩
    exact of_decide_eq_false (mem_delete.mp hx).2 hvni
  refine hvxlan.bind Shrinks.trans fun _ s₅ hs₅ hvxlan => ?_
  have hbridge : Cuts (logged (.linkDelete (.bridge tomb.vni))) s₅ fun _ s' =>
      s'.kernel.hasBridge tomb.vni = false := by
    refine within_logged rfl fun s' r hact => ?_
    refine leaves_of_netActs (K := fun s => s.kernel.hasBridge tomb.vni = false) hact (fun h => h) ?_
    show (NetCmd.exec (.linkDelete (.bridge tomb.vni)) s₅.kernel).1.hasBridge tomb.vni = false
    cases hthere : s₅.kernel.hasBridge tomb.vni with
    | false =>
      have hexec : NetCmd.exec (.linkDelete (.bridge tomb.vni)) s₅.kernel = _ :=
          if_neg (by rw [hthere]; exact Bool.false_ne_true)
      rw [hexec]
      exact hthere
    | true =>
      have hexec : NetCmd.exec (.linkDelete (.bridge tomb.vni)) s₅.kernel = _ := onObject_ok hthere
      rw [hexec, ← Bool.not_eq_true, Kernel.hasBridge_iff]
      rintro ⟨b, hb, hvni⟩
      exact of_decide_eq_false (mem_delete.mp hb).2 hvni
  refine hbridge.bind Shrinks.trans fun _ s₆ hs₆ hbridge => ?_
  refine within_dropVrf.mono fun _ s₇ hs₇ _ => ?_
  have hlate := hs₆.trans hs₇
  exact ⟨Bool.eq_false_of_imp (hs₇.bridges _) hbridge, Bool.eq_false_of_imp (hlate.vxlans _) hvxlan,
    fun hin => hrule ((hs₅.trans hlate).rules _ hin)⟩

end Net

/-! ## The acknowledgement -/

section Node

variable {spec : NodeSpec} {cmd : ReconcileHostCommand} {x : Node}

theorem ensures_onHost {α : Type} {failures : Failures} {p : Job α} {Q : α → Node → Prop} {x : Node}
    (h : p.Ensures (Op.Acts failures.host) x.host fun a s' => Q a { x with host := s' }) :
    (onHost p).Ensures (NodeOp.Acts spec failures) x Q := by
  induction p generalizing x with
  | ret a => exact ensures_pure (h x.host a ⟨rfl, rfl⟩)
  | call o k ih =>
    refine ensures_call ?_
    rintro _ r ⟨s₁, hact, rfl⟩
    exact ih r fun s' a hrun => h s' a ⟨s₁, r, hact, hrun⟩

theorem ensures_tombstoneClusters (hcidr : ∀ tomb ∈ cmd.clusterTombstones, tomb.cidr ≠ "") :
    (tombstoneClusters cmd.clusterTombstones).Ensures (NodeOp.Acts spec carefulFailures) x fun acked x' =>
      (∃ s', x' = { x with net := s' }) ∧ ∀ tomb ∈ acked, tomb ∈ cmd.clusterTombstones ∧ ClusterGone tomb x'.net := by
  refine Ensures.mono (ensures_filterEach (I := fun y => ∃ s', y = { x with net := s' })
    (K := fun tomb y => ClusterGone tomb y.net) ?_ ⟨x.net, rfl⟩) fun acked x' h => ⟨h.1, h.2.1⟩
  rintro tomb htomb _ ⟨s, rfl⟩
  have hone : (tombstoneCluster tomb).Ensures (NodeOp.Acts spec carefulFailures) { x with net := s } fun result y =>
      ∃ s', y = { x with net := s' } ∧ Shrinks s s' ∧ (succeeded result = true → ClusterGone tomb s') := by
    refine ensures_perform ?_
    rintro _ result ⟨s', hrun, rfl⟩
    have hgone := tombstoneCluster_within (hcidr tomb htomb) s' result hrun
    refine ⟨s', rfl, ?_⟩
    cases result with
    | ok _ => exact ⟨hgone.1, fun _ => hgone.2⟩
    | error e => exact ⟨hgone, nofun⟩
  refine Ensures.bind hone ?_
  rintro result _ ⟨s', rfl, hshrinks, hgone⟩
  exact ensures_pure ⟨⟨s', rfl⟩, hgone, fun _ h => h.shrinks hshrinks⟩

theorem ensures_tombstoneVms (hledger : ∀ vmId ∈ cmd.vmTombstones, x.host.Ledgered spec.host vmId) :
    (tombstoneVms spec cmd.vmTombstones).Ensures (NodeOp.Acts spec carefulFailures) x fun acked x' =>
      (∃ s', x' = { x with host := s' }) ∧ ∀ vmId ∈ acked, VmGone spec.host vmId x.host x'.host := by
  refine Ensures.mono (ensures_filterEach
    (I := fun y => ∃ s, y = { x with host := s } ∧ Torn spec.host cmd.vmTombstones x.host s)
    (K := fun vmId y => VmGone spec.host vmId x.host y.host) ?_ ⟨x.host, rfl, Going.refl.torn⟩) ?_
  · rintro vmId hvm _ ⟨s, rfl, htorn⟩
    have hone : (onHost (deleteVm spec.host vmId).run).Ensures (NodeOp.Acts spec carefulFailures) { x with host := s }
        fun result y => ∃ s', y = { x with host := s' } ∧ Torn spec.host cmd.vmTombstones s s' ∧
          (succeeded result = true → VmGone spec.host vmId s s') := by
      refine ensures_onHost (Ensures.mono (deleteVm_within (htorn.ledger hledger) hvm) fun result s' hs' => ?_)
      refine ⟨s', rfl, ?_⟩
      cases result with
      | ok _ => exact ⟨hs'.1, fun _ => hs'.2⟩
      | error e => exact ⟨hs', nofun⟩
    refine Ensures.bind hone ?_
    rintro result _ ⟨s', rfl, hs', hgone⟩
    refine ensures_pure ⟨⟨s', rfl, htorn.trans hs'⟩, fun hok => ?_, fun _ h => h.torn hs'⟩
    -- the GPUs of the row that the host had before the command
    have hnow := hgone hok
    refine { hnow with gpus := fun row hrow hrvm pci hpci => ?_ }
    rcases htorn.rows row hrow with hthere | hunbound
    · exact hnow.gpus row hthere hrvm pci hpci
    · exact fun hbound => hunbound pci hpci (hs'.vfio pci hbound)
  · rintro acked x' ⟨⟨s', rfl, -⟩, hacked, -⟩
    exact ⟨⟨s', rfl⟩, fun vmId hvm => (hacked vmId hvm).2⟩

/-- Every acknowledgement sent since `x` is true. -/
def Truthful (spec : NodeSpec) (cmd : ReconcileHostCommand) (x x' : Node) : Prop :=
  ∀ vnis vmIds, AgentMessage.tombstoneAck vnis vmIds ∈ x'.sent.drop x.sent.length →
    (∀ v ∈ vnis, ∃ tomb ∈ cmd.clusterTombstones, tomb.vni = v ∧ ClusterGone tomb x'.net) ∧
    ∀ vmId ∈ vmIds, VmGone spec.host vmId x.host x'.host

theorem truthful_of_silent {x' : Node} (h : x'.sent = x.sent) : Truthful spec cmd x x' := by
  intro vnis vmIds hmem
  rw [h, drop_length] at hmem
  cases hmem

/-- **A `TombstoneAck` is true** on a host with a proper ledger, if every tombstone carries its CIDR and failures
    hide nothing. -/
theorem acks_are_true (spec : NodeSpec) (cmd : ReconcileHostCommand) (x x' : Node) (result : Except NetworkError Unit)
    (hledger : ∀ vmId ∈ cmd.vmTombstones, x.host.Ledgered spec.host vmId)
    (hcidr : ∀ tomb ∈ cmd.clusterTombstones, tomb.cidr ≠ "")
    (hrun : (applyReconcile spec cmd).Runs (NodeOp.Acts spec carefulFailures) x x' result) :
    Truthful spec cmd x x' := by
  suffices h : (applyReconcile spec cmd).Ensures (NodeOp.Acts spec carefulFailures) x
      fun _ x' => Truthful spec cmd x x' from h x' result hrun
  have hfirst : (reconcileClusters cmd.clusters).Ensures (NodeOp.Acts spec carefulFailures) x
      fun _ x' => ∃ s', x' = { x with net := s' } := by
    refine ensures_perform ?_
    rintro _ r ⟨s', -, rfl⟩
    exact ⟨s', rfl⟩
  refine Ensures.bind hfirst ?_
  rintro r _ ⟨s₁, rfl⟩
  cases r with
  | error e => exact ensures_pure (truthful_of_silent rfl)
  | ok _ =>
    refine Ensures.bind (ensures_tombstoneClusters hcidr) ?_
    rintro ackedClusters _ ⟨⟨s₂, rfl⟩, hclusters⟩
    refine Ensures.bind (ensures_tombstoneVms hledger) ?_
    rintro ackedVmIds _ ⟨⟨s₃, rfl⟩, hvms⟩
    have htrue : Truthful spec cmd x { x with net := s₂, host := s₃, sent := x.sent ++
        [.tombstoneAck (ackedClusters.map (·.vni)) ackedVmIds] } := by
      intro vnis vmIds hmem
      rw [drop_left, mem_singleton] at hmem
      cases hmem
      refine ⟨fun v hv => ?_, hvms⟩
      obtain ⟨tomb, htomb, rfl⟩ := mem_map.mp hv
      exact ⟨tomb, (hclusters tomb htomb).1, rfl, (hclusters tomb htomb).2⟩
    have hack : (sendTombstoneAck (ackedClusters.map (·.vni)) ackedVmIds).Ensures (NodeOp.Acts spec carefulFailures)
        { x with net := s₂, host := s₃ } fun _ x' => Truthful spec cmd x x' := by
      unfold sendTombstoneAck
      split
      · refine ensures_perform ?_
        rintro _ _ rfl
        exact htrue
      · exact ensures_pure (truthful_of_silent rfl)
    refine Ensures.bind hack fun _ x₄ hx₄ => ?_
    have hadvertise : (advertise cmd.clusters).Ensures (NodeOp.Acts spec carefulFailures) x₄
        fun _ x' => Truthful spec cmd x x' := by
      refine ensures_call ?_
      rintro _ speaker ⟨rfl, -⟩
      cases speaker with
      | false => exact ensures_pure hx₄
      | true =>
        refine ensures_perform ?_
        rintro _ _ ⟨rib, rfl⟩
        exact hx₄
    exact Ensures.bind hadvertise fun _ _ h => ensures_pure h

end Node

/-! ## Runs without failures, and one with -/

section Samples

/-- A rule that is deleted is there once at most. -/
def single : NetOp → Net → Bool
  | .cmd (.ruleDelete rule), s => s.kernel.rules.count rule ≤ 1
  | _, _ => true

/-- The same along the sections of the cluster manager. -/
def singles (spec : NodeSpec) : NodeOp → Node → Bool
  | .reconcileClusters desired, x => (reconcile spec.net desired).run.allAlong NetOp.exec single x.net
  | .tombstoneCluster vni cidr, x => (Network.tombstoneCluster vni cidr).run.allAlong NetOp.exec single x.net
  | _, _ => true

theorem netActs_exec (o : NetOp) (s : Net) (h : single o s = true) :
    o.Acts NetOp.Careful s (o.exec s).1 (o.exec s).2 := by
  refine ⟨.done, ⟨fun ⟨_, hf⟩ => (nomatch hf), ?_⟩, by cases o <;> rfl⟩
  rintro rule rfl
  exact of_decide_eq_true h

/-- A world without failures is a careful one. -/
theorem acts_exec (spec : NodeSpec) (o : NodeOp) (x : Node) (h : singles spec o x = true) :
    o.Acts spec carefulFailures x (NodeOp.exec spec o x).1 (NodeOp.exec spec o x).2 := by
  cases o with
  | reconcileClusters desired | tombstoneCluster vni cidr => exact ⟨_, runs_eval netActs_exec h, rfl⟩
  | host o =>
    refine ⟨_, ⟨.done, ⟨fun ⟨_, hf⟩ => (nomatch hf), fun _ _ _ => rfl⟩, ?_⟩, rfl⟩
    cases o <;> rfl
  | send msg => rfl
  | bgpSpeaker => exact ⟨rfl, rfl⟩
  | updateRoutes prefixes => exact ⟨_, rfl⟩

/-- The host, where systemd refuses every stop. -/
def refusing (spec : NodeSpec) : (o : NodeOp) → Node → Node × o.Resp
  | .host (.cmd (.systemctlStop _)), x => (x, .error "Failed to stop unit: Connection timed out")
  | o, x => NodeOp.exec spec o x

theorem acts_refusing (spec : NodeSpec) (o : NodeOp) (x : Node) (_ : true = true) :
    o.Acts spec anyFailures x (refusing spec o x).1 (refusing spec o x).2 := by
  have hnet : ∀ (o : NetOp) (s : Net), true = true → o.Acts anyFailures.net s (o.exec s).1 (o.exec s).2 :=
    fun o s _ => ⟨.done, trivial, by cases o <;> rfl⟩
  have hall : ∀ {α : Type} (p : NetJob α) (s : Net), p.allAlong NetOp.exec (fun _ _ => true) s = true := by
    intro α p
    induction p with
    | ret a => exact fun _ => rfl
    | call o k ih => exact fun s => ih _ _
  cases o with
  | reconcileClusters desired | tombstoneCluster vni cidr => exact ⟨_, runs_eval hnet (hall _ _), rfl⟩
  | send msg => rfl
  | bgpSpeaker => exact ⟨rfl, rfl⟩
  | updateRoutes prefixes => exact ⟨_, rfl⟩
  | host o =>
    cases o with
    | sql q | mem m => exact ⟨_, ⟨.done, trivial, rfl⟩, rfl⟩
    | cmd c =>
      cases c with
      | systemctlStop unit => exact ⟨x.host, ⟨.refused _, trivial, rfl⟩, rfl⟩
      | _ => exact ⟨_, ⟨.done, trivial, rfl⟩, rfl⟩

/-- Such a refusal does no harm where the unit does not run. -/
def harmless (spec : NodeSpec) (o : NodeOp) (x : Node) : Bool :=
  singles spec o x && match o with
    | .host (.cmd (.systemctlStop unit)) => !x.host.running unit
    | _ => true

theorem acts_harmless (spec : NodeSpec) (o : NodeOp) (x : Node) (h : harmless spec o x = true) :
    o.Acts spec carefulFailures x (refusing spec o x).1 (refusing spec o x).2 := by
  simp only [harmless, Bool.and_eq_true] at h
  by_cases hstop : ∃ unit, o = .host (.cmd (.systemctlStop unit))
  · obtain ⟨unit, rfl⟩ := hstop
    have hidle : x.host.running unit = false := by simpa using h.2
    exact ⟨x.host, ⟨.refused _, ⟨fun _ => hidle, nofun⟩, rfl⟩, rfl⟩
  · have hexec : refusing spec o x = NodeOp.exec spec o x := by
      unfold refusing
      split
      · exact absurd ⟨_, rfl⟩ hstop
      · rfl
    rw [hexec]
    exact acts_exec spec o x h.1

/-- A VM with its volumes, its record and its GPU, and the bridge of a cluster. -/
def tenanted : Node :=
  { restarted with
    host := upHost
    net := { restarted.net with kernel := { restarted.net.kernel with rules := [.masquerade "10.200.0.0/24"] } } }

/-- The VM has stopped by itself. -/
def halted : Node :=
  { tenanted with host := { upHost with units := upHost.units.map fun u => { u with running := false } } }

def tenantSpec : NodeSpec := { plainSpec with host := smallSpec }

def evicting : ReconcileHostCommand := ⟨[], [⟨7, "c-7", "10.200.0.0/24"⟩], ["v1"]⟩

/-- The stop is refused; VM and cluster are acknowledged, and gone. -/
theorem ack_of_eviction :
    ((applyReconcile tenantSpec evicting).eval (refusing tenantSpec) halted).1.sent = [.tombstoneAck [7] ["v1"]] ∧
      Truthful tenantSpec evicting halted
        ((applyReconcile tenantSpec evicting).eval (refusing tenantSpec) halted).1 := by
  refine ⟨by decide +kernel, ?_⟩
  refine acks_are_true tenantSpec evicting halted _ _ ?_ (by decide)
    (runs_eval (acts_harmless tenantSpec) (by decide +kernel))
  intro vmId hvm
  rw [mem_singleton.mp hvm]
  exact ⟨ledgered_upHost.covered, ledgered_upHost.configured⟩

/-- A VM is acknowledged that still runs. -/
theorem running_vm_acked : ∃ (spec : NodeSpec) (cmd : ReconcileHostCommand) (x x' : Node)
    (result : Except NetworkError Unit),
    (applyReconcile spec cmd).Runs (NodeOp.Acts spec anyFailures) x x' result ∧ ¬Truthful spec cmd x x' := by
  refine ⟨tenantSpec, evicting, tenanted, _, _, runs_eval (acts_refusing tenantSpec)
    (by decide +kernel), fun h => ?_⟩
  have hgone := (h [7] ["v1"] (by decide +kernel)).2 "v1" (by decide)
  exact absurd hgone.process (by decide +kernel)

end Samples

end BasisCell.Agent
