import BasisCell.Agent.Idempotence

/-!
# `BasisCell.Agent.Sweep` — the orphan sweep beside creates and deletes

`reconcile.rs`: `periodic_sweep` gathers the VMs the agent knows in three reads, the records of the local
database, the tracked VMs and the pending ones, and hands them to `sweep_orphans`. That runs three collectors
one after the other. Each lists the VMs that have a unit, a volume or a directory on the host and reclaims, all
at once, what belongs to none of the known ones.

No lock spans any of this, so creates and deletes go on between any two of these steps. A VM under reclaim is
one the agent does not manage as long as no step beside the sweep lets a VM slip past the known set: no VM that
the sweep has not seen and will not see enters one of the three places, and none leaves the place in which alone
the sweep would still have found it (`reclaims_only_orphans`). A create that starts once the pending VMs have
been read is enough to break it: its VM is up and is torn down again (`reclaims_running_vm`).
-/

namespace BasisCell.Agent

open Conc Conc.Protocol Relational Table Storage List Transition

/-! ## What the agent knows -/

/-- The places the known set is gathered from. -/
inductive Source where
  | vmRows | tracked | pending
  deriving DecidableEq, Repr

def Source.ids (s : Host) : Source → List VmId
  | .vmRows => s.localVms.rows.map (·.vmId)
  | .tracked => s.tracked
  | .pending => s.pending

/-- What `periodic_sweep` reads, in its order: `list_vms`, then the two locks of `live_vm_ids`. -/
def periodicSources : List Source := [.vmRows, .tracked, .pending]

theorem mem_periodicSources (src : Source) : src ∈ periodicSources := by
  cases src <;> simp [periodicSources]

/-- The VM has a `local_vms` row, is tracked or is marked pending. -/
def Host.Managed (s : Host) (vmId : VmId) : Prop := ∃ src : Source, vmId ∈ src.ids s

/-! ## What is on the host -/

/-- `strip_prefix`. -/
def afterStart (start name : String) : Option String := (start.toList.isPrefixOf? name.toList).map String.ofList

/-- `strip_suffix`. -/
def beforeEnd (tail name : String) : Option String := (tail.toList.isSuffixOf? name.toList).map String.ofList

/-- `rsplit_once`. -/
def rsplitOnce (c : Char) (text : String) : Option (String × String) :=
  match text.toList.reverse.dropWhile (· ≠ c) with
  | [] => none
  | _ :: front => some (String.ofList front.reverse, String.ofList (text.toList.reverse.takeWhile (· ≠ c)).reverse)

/-- The digits of `parse::<u32>`, which takes a plus sign in front. -/
def unsignedDigits (text : String) : List Char :=
  match text.toList with
  | '+' :: digits => digits
  | digits => digits

def parseU32 (text : String) : Option Nat :=
  let digits := unsignedDigits text
  let value := digits.foldl (fun n d => 10 * n + (d.toNat - '0'.toNat)) 0
  if digits.isEmpty then none
  else if digits.all (·.isDigit) = true ∧ value < 2 ^ 32 then some value
  else none

/-- `basis-data-<vm_id>-<index>`, taken apart. -/
def parseDataDiskLvName (lvName : String) : Option (VmId × Nat) := do
  let rest ← afterStart "basis-data-" lvName
  let (vmId, index) ← rsplitOnce '-' rest
  if vmId.isEmpty then none
  else return (vmId, ← parseU32 index)

/-- The VM of a unit name. -/
def unitVmId (unit : String) : Option VmId := (afterStart "basis-vm-" unit).bind (beforeEnd ".service")

/-- The names `lvs` prints for a volume group. -/
def Host.lvNames (s : Host) (vg : String) : Except String (List String) :=
  if s.vgs.any fun v => v.name = vg then .ok ((s.lvs.filter fun lv => lv.vg = vg).map (·.name))
  else .error s!"Volume group \"{vg}\" not found"

/-- One look of a collector's `list`. -/
inductive Listing where
  | units
  | rootfsLvs (vg : String)
  | dataLvs (vg : String)
  | vmDirs
  deriving DecidableEq, Repr

def Listing.ids (s : Host) : Listing → Except String (List VmId)
  | .units => .ok (s.units.filterMap fun u => unitVmId u.name)
  | .rootfsLvs vg => (s.lvNames vg).map fun names => names.filterMap (afterStart "vm-")
  | .dataLvs vg => (s.lvNames vg).map fun names => names.filterMap fun name => (parseDataDiskLvName name).map (·.1)
  | .vmDirs => .ok s.vmDirs

/-! ## The collectors -/

inductive Kind where
  | unit | lv | vmDir
  deriving DecidableEq, Repr

/-- The looks of `list`: for volumes the rootfs group, then the groups of every pool. -/
def Kind.listings (spec : HostSpec) : Kind → List Listing
  | .unit => [.units]
  | .lv => .rootfsLvs spec.rootfsVg :: spec.pools.flatMap fun pool => pool.devices.map fun dev => .dataLvs dev.vg
  | .vmDir => [.vmDirs]

/-- How many orphans one pass takes. -/
def Kind.batch : Kind → Nat
  | .lv => 50
  | _ => 2 ^ 64 - 1

def Kind.reclaim (spec : HostSpec) (vmId : VmId) : Kind → Fallible AgentError Unit
  | .unit => deleteVm spec vmId
  | .lv => do
    orLvm (removeVmRootfs spec vmId)
    orLvm (releaseVmDisks vmId spec.pools)
  | .vmDir => orFail .io (command (.removeDirAll vmId))

/-- A reclaim under way. -/
structure Reclaim where
  vmId : VmId
  prog : Job (Except AgentError Unit)

/-- What `collect` does with a complete list. -/
def orphansOf (known listed : List VmId) (kind : Kind) : List VmId :=
  (listed.dedup.filter (· ∉ known)).take kind.batch

/-! ## The sweep -/

/-- Where a sweep is. `known` is the known set as far as it has been read, `rest` the collectors to come. -/
inductive Sweep where
  | idle
  | gathering (left : List Source) (known : List VmId)
  | listing (kind : Kind) (rest : List Kind) (left : List Listing) (listed known : List VmId)
  | reclaiming (kind : Kind) (rest : List Kind) (jobs : List Reclaim) (known : List VmId)

namespace Sweep

/-- The next collector of `sweep_orphans` begins. -/
def collect (spec : HostSpec) (known : List VmId) : List Kind → Sweep
  | [] => .idle
  | kind :: rest => .listing kind rest (kind.listings spec) [] known

/-- `sweep_orphans`. -/
def orphans (spec : HostSpec) (known : List VmId) : Sweep := collect spec known [.unit, .lv, .vmDir]

/-- The sweep's next step but for those of its reclaims: it reads one more place, or goes on to what comes
    next. A collector whose list fails is skipped, and `join_all` waits for every reclaim. -/
def advance (spec : HostSpec) (s : Host) : Sweep → Option Sweep
  | .idle => none
  | .gathering (src :: left) known => some (.gathering left (src.ids s ++ known))
  | .gathering [] known => some (orphans spec known)
  | .listing kind rest (l :: left) listed known =>
    match l.ids s with
    | .ok ids => some (.listing kind rest left (listed ++ ids) known)
    | .error _ => some (collect spec known rest)
  | .listing kind rest [] listed known =>
    let jobs := (orphansOf known listed kind).map fun vmId => ⟨vmId, (kind.reclaim spec vmId).run⟩
    some (.reclaiming kind rest jobs known)
  | .reclaiming _ rest jobs known =>
    if jobs.all (·.prog.finished) then some (collect spec known rest) else none

/-- A read that fails: without the known set there is no sweep, without its list a collector is skipped. -/
def fail (spec : HostSpec) : Sweep → Option Sweep
  | .gathering (_ :: _) _ => some .idle
  | .listing _ rest (_ :: _) _ known => some (collect spec known rest)
  | _ => none

/-- One reclaim takes a step. -/
def work (s : Host) (i : Nat) : Sweep → Option (Host × Sweep)
  | .reclaiming kind rest jobs known =>
    match jobs[i]? with
    | some ⟨vmId, .call o k⟩ =>
      some ((o.exec s).1, .reclaiming kind rest (jobs.set i ⟨vmId, k (o.exec s).2⟩) known)
    | _ => none
  | _ => none

def jobs : Sweep → List Reclaim
  | .reclaiming _ _ jobs _ => jobs
  | _ => []

/-- The places the known set is still to be read from. -/
def left : Sweep → List Source
  | .gathering left _ => left
  | _ => []

def known : Sweep → List VmId
  | .idle => []
  | .gathering _ known => known
  | .listing _ _ _ _ known => known
  | .reclaiming _ _ _ known => known

def underWay : Sweep → Bool
  | .idle => false
  | _ => true

end Sweep

/-! ## Sweeping while the agent works -/

/-- The agent's pool of tasks, and the sweep beside it. -/
structure Sweeping where
  pool : Config Duty Op Op.Resp Host (Except AgentError Unit)
  sweep : Sweep

namespace Sweeping

inductive Event where
  | task (e : Conc.Event Duty)
  /-- The sweep loop's timer has run out. -/
  | begin
  | advance
  | fail
  | reclaim (i : Nat)

/-- A restart of the agent ends the sweep. -/
def sweepAfter (c : Sweeping) : Conc.Event Duty → Sweep
  | .crash => .idle
  | _ => c.sweep

def step (spec : HostSpec) (c : Sweeping) : Event → Option Sweeping
  | .task e => ((agent spec).step c.pool e).map fun pool => ⟨pool, c.sweepAfter e⟩
  | .begin =>
    match c.sweep with
    | .idle => some { c with sweep := .gathering periodicSources [] }
    | _ => none
  | .advance => (c.sweep.advance spec c.pool.shared).map fun sweep => { c with sweep }
  | .fail => (c.sweep.fail spec).map fun sweep => { c with sweep }
  | .reclaim i =>
    (c.sweep.work c.pool.shared i).map fun (shared, sweep) => { pool := { c.pool with shared }, sweep }

/-- No reclaim that is under way is of a VM the agent manages. -/
def ReclaimsOrphans (c : Sweeping) : Prop :=
  ∀ job ∈ c.sweep.jobs, job.prog.finished = false → ¬ c.pool.shared.Managed job.vmId

/-- The known set has the VM, or will. -/
def Sees (c : Sweeping) (vmId : VmId) : Prop :=
  vmId ∈ c.sweep.known ∨ ∃ src ∈ c.sweep.left, vmId ∈ src.ids c.pool.shared

end Sweeping

/-! ## How VMs come and go -/

/-- The place a VM enters by an operation. -/
def Op.enters : Op → Option (Source × VmId)
  | .sql (.insertVm row) => some (.vmRows, row.vmId)
  | .mem (.track vmId) => some (.tracked, vmId)
  | .mem (.markPending vmId) => some (.pending, vmId)
  | _ => none

/-- The place a VM leaves by an operation. -/
def Op.leaves : Op → Option (Source × VmId)
  | .sql (.deleteVm vmId) => some (.vmRows, vmId)
  | .mem (.untrack vmId) => some (.tracked, vmId)
  | .mem (.clearPending vmId) => some (.pending, vmId)
  | _ => none

namespace Sweeping

/-- A VM that enters a place which has been read is one the sweep sees. -/
def EntersSeen (c : Sweeping) (o : Op) : Prop :=
  match o.enters with
  | some (src, vmId) => src ∈ c.sweep.left ∨ c.Sees vmId
  | none => True

/-- A VM that leaves a place which is still to be read has been seen, will be found in another one, or is
    nowhere else. -/
def LeavesSeen (c : Sweeping) (o : Op) : Prop :=
  match o.leaves with
  | some (src, vmId) =>
    src ∈ c.sweep.left → vmId ∈ c.sweep.known ∨
      ∀ other ∈ periodicSources, other ≠ src → vmId ∈ other.ids c.pool.shared →
        ∃ another ∈ c.sweep.left, another ≠ src ∧ vmId ∈ another.ids c.pool.shared
  | none => True

instance {c : Sweeping} {vmId : VmId} : Decidable (c.Sees vmId) := inferInstanceAs (Decidable (_ ∨ _))

instance {c : Sweeping} {o : Op} : Decidable (c.EntersSeen o) := by
  unfold EntersSeen
  split <;> infer_instance

instance {c : Sweeping} {o : Op} : Decidable (c.LeavesSeen o) := by
  unfold LeavesSeen
  split <;> infer_instance

/-- No step of a task lets a VM slip past the known set of a sweep that is under way. -/
def Calm (c : Sweeping) : Event → Prop
  | .task e =>
    match c.pool.nextOp e with
    | some (_, o) => c.sweep.underWay = true → c.EntersSeen o ∧ c.LeavesSeen o
    | none => True
  | _ => True

instance (c : Sweeping) (e : Event) : Decidable (c.Calm e) := by
  unfold Calm
  split
  · split <;> infer_instance
  all_goals infer_instance

end Sweeping

section Moves

variable {s : Host} {o : Op} {src : Source} {vmId : VmId}

variable {v : VmId}

theorem vmIds_setStorageDisks {disks : List LocalStorageDisk} :
    Source.vmRows.ids (Op.exec (.sql (.setStorageDisks v disks)) s).1 = Source.vmRows.ids s := by
  refine (map_map ..).trans (map_congr_left fun r _ => ?_)
  simp only [Function.comp_apply]
  split <;> rfl

theorem mem_markPending {l : List VmId} {w : VmId} : w ∈ v :: l.filter (· ≠ v) ↔ w ∈ l ∨ w = v := by
  by_cases hv : w = v <;> simp [hv]

/-- **What moves.** An operation leaves a place as it is, or one VM enters, or one leaves. -/
theorem Source.ids_cases (src : Source) (o : Op) (s : Host) : src.ids (o.exec s).1 = src.ids s ∨
    (∃ v, o.enters = some (src, v) ∧ ∀ w, w ∈ src.ids (o.exec s).1 ↔ w ∈ src.ids s ∨ w = v) ∨
    ∃ v, o.leaves = some (src, v) ∧ ∀ w, w ∈ src.ids (o.exec s).1 ↔ w ∈ src.ids s ∧ w ≠ v := by
  cases o with
  | sql q =>
    cases q with
    | insertVm row =>
      simp only [Op.exec, Sql.exec]
      split
      · rename_i table hins
        cases src with
        | vmRows => exact .inr (.inl ⟨_, rfl, fun w => by simp [ids, rows_insert hins, or_comm, eq_comm]⟩)
        | _ => exact .inl rfl
      · exact .inl rfl
    | deleteVm v =>
      cases src with
      | vmRows => exact .inr (.inr ⟨v, rfl, fun w => by simp [ids, Op.exec, Sql.exec]; grind⟩)
      | _ => exact .inl rfl
    | setStorageDisks v disks =>
      cases src with
      | vmRows => exact .inl vmIds_setStorageDisks
      | _ => exact .inl rfl
    | _ =>
      refine .inl ?_
      cases src <;> simp only [Op.exec, Sql.exec] <;> first | rfl | (split <;> rfl)
  | cmd c =>
    refine .inl ?_
    cases c <;> simp only [Op.exec, Cmd.exec] <;> repeat' split
    all_goals cases src <;> rfl
  | mem m =>
    cases m with
    | markPending v =>
      cases src with
      | pending => exact .inr (.inl ⟨v, rfl, fun _ => mem_markPending⟩)
      | _ => exact .inl rfl
    | track v =>
      cases src with
      | tracked => exact .inr (.inl ⟨v, rfl, fun _ => mem_markPending⟩)
      | _ => exact .inl rfl
    | clearPending v =>
      cases src with
      | pending => exact .inr (.inr ⟨v, rfl, fun w => by simp [ids, Op.exec, Mem.exec]⟩)
      | _ => exact .inl rfl
    | untrack v =>
      cases src with
      | tracked => exact .inr (.inr ⟨v, rfl, fun w => by simp [ids, Op.exec, Mem.exec]⟩)
      | _ => exact .inl rfl
    | _ =>
      refine .inl ?_
      cases src <;> simp only [Op.exec, Mem.exec] <;> first | rfl | (split <;> rfl)

theorem Source.ids_exec (h : vmId ∈ src.ids (o.exec s).1) : vmId ∈ src.ids s ∨ o.enters = some (src, vmId) := by
  obtain heq | ⟨v, henters, hids⟩ | ⟨v, -, hids⟩ := src.ids_cases o s
  · exact .inl (heq ▸ h)
  · rcases (hids _).mp h with h | rfl
    · exact .inl h
    · exact .inr henters
  · exact .inl ((hids _).mp h).1

theorem Source.ids_kept (h : vmId ∈ src.ids s) : vmId ∈ src.ids (o.exec s).1 ∨ o.leaves = some (src, vmId) := by
  obtain heq | ⟨v, -, hids⟩ | ⟨v, hleaves, hids⟩ := src.ids_cases o s
  · exact .inl (heq.symm ▸ h)
  · exact .inl ((hids _).mpr (.inl h))
  · by_cases hv : vmId = v
    · exact .inr (hv ▸ hleaves)
    · exact .inl ((hids _).mpr ⟨h, hv⟩)

/-- An operation by which no VM enters makes none managed. -/
theorem Host.Managed.of_exec (ho : o.enters = none) (h : (o.exec s).1.Managed vmId) : s.Managed vmId := by
  obtain ⟨src, hsrc⟩ := h
  rcases Source.ids_exec hsrc with hsrc | henters
  · exact ⟨src, hsrc⟩
  · rw [ho] at henters
    cases henters

end Moves

/-! ## What a reclaim does not do -/

/-- Programs by which no VM enters a place. -/
def departing : Protocol Op Op.Resp Unit where
  allows _ o := o.enters = none
  next _ _ _ := ()

abbrev Departs {α : Type} (p : Job α) : Prop := departing.Stays () p

section Departs

variable {α : Type}

theorem departs_orLvm {p : Fallible LvmError α} (h : Departs p.run) : Departs (orLvm p).run := by
  refine Stays.bind h fun r => ?_
  cases r <;> exact rfl

theorem enters_of_routine {o : Op} (h : o.routine = true) : o.enters = none := by
  unfold Op.enters
  split <;> first | rfl | cases h

/-- What a delete does, departs. -/
theorem departs_of_follows {spec : HostSpec} {vmId : VmId} {K : Phase → α → Prop} {p : Job α} {g : Phase}
    (hg : g.deletes = true) (h : (protocol spec (.tombstone vmId)).Follows K p g) : Departs p := by
  induction p generalizing g with
  | ret a => exact rfl
  | call o k ih =>
    obtain ⟨hallow, hk⟩ := h
    rcases Allows.of_deletes hallow hg with ho | ho
    · refine stays_call (enters_of_routine ho) (fun _ => rfl) fun r => ih r ?_ (hk r)
      exact (congrArg Phase.deletes (next_of_routine ho r)).trans hg
    · exact stays_call (by cases ho <;> rfl) (fun _ => rfl) fun r => ih r (ho.deletes r) (hk r)

/-- **No VM becomes managed by a reclaim.** -/
theorem departs_reclaim {spec : HostSpec} {vmId : VmId} (kind : Kind) : Departs (kind.reclaim spec vmId).run := by
  cases kind with
  | unit => exact departs_of_follows rfl (clears_deleteVm (t := .tombstone vmId))
  | lv =>
    refine Stays.exceptBind (departs_orLvm (departs_of_follows rfl (clears_removeVmRootfs (t := .tombstone vmId))))
      fun _ => ?_
    exact departs_orLvm (departs_of_follows rfl (@clears_releaseVmDisks spec (.tombstone vmId) _))
  | vmDir => exact stays_call rfl (fun _ => rfl) fun r => by cases r <;> rfl

end Departs

/-! ## The invariant -/

namespace Sweeping

/-- While a sweep is under way it sees every VM the agent manages, and what it reclaims is of none it knows. -/
structure Shielded (c : Sweeping) : Prop where
  seen : c.sweep.underWay = true → ∀ vmId, c.pool.shared.Managed vmId → c.Sees vmId
  orphans : ∀ job ∈ c.sweep.jobs, job.vmId ∉ c.sweep.known ∧ Departs job.prog

section Step

variable {spec : HostSpec} {c c' : Sweeping} {pool : Config Duty Op Op.Resp Host (Except AgentError Unit)}
  {known : List VmId} {vmId : VmId} {o : Op}

theorem shielded_idle : Shielded ⟨pool, .idle⟩ where
  seen := nofun
  orphans := nofun

theorem shielded_collect (h : ∀ vmId, pool.shared.Managed vmId → vmId ∈ known) (kinds : List Kind) :
    Shielded ⟨pool, .collect spec known kinds⟩ := by
  cases kinds with
  | nil => exact shielded_idle
  | cons kind rest => exact ⟨fun _ vmId hv => .inl (h vmId hv), nofun⟩

/-- Once the known set is complete, it has what is seen. -/
theorem Shielded.mem_known (h : c.Shielded) (hway : c.sweep.underWay = true) (hleft : c.sweep.left = [])
    (hv : c.pool.shared.Managed vmId) : vmId ∈ c.sweep.known := by
  rcases h.seen hway vmId hv with hknown | ⟨src, hsrc, -⟩
  · exact hknown
  · rw [hleft] at hsrc
    cases hsrc

/-- A VM that left a place is not there, and none enters by the operation. -/
theorem of_leaves {s : Host} {src : Source} (h : o.leaves = some (src, vmId)) :
    vmId ∉ src.ids (o.exec s).1 ∧ o.enters = none := by
  cases o with
  | sql q =>
    cases q <;> cases h
    refine ⟨fun hmem => ?_, rfl⟩
    obtain ⟨r, hr, hv⟩ := mem_map.mp hmem
    exact absurd (mem_delete.mp hr).2 (by simp [hv])
  | cmd c => cases h
  | mem m =>
    cases m <;> cases h
    · exact ⟨fun hmem => by simp [Source.ids, Op.exec, Mem.exec] at hmem, rfl⟩
    · exact ⟨fun hmem => by simp [Source.ids, Op.exec, Mem.exec] at hmem, rfl⟩

/-- What a sweep sees of the managed VMs it goes on seeing, whatever operation a task runs that keeps calm. -/
theorem Sees.exec (hsees : c.Sees vmId) (hleaves : c.LeavesSeen o) (hv : (o.exec c.pool.shared).1.Managed vmId) :
    vmId ∈ c.sweep.known ∨ ∃ src ∈ c.sweep.left, vmId ∈ src.ids (o.exec c.pool.shared).1 := by
  rcases hsees with hknown | ⟨src, hsrc, hmem⟩
  · exact .inl hknown
  · rcases Source.ids_kept (o := o) hmem with hmem | hleft
    · exact .inr ⟨src, hsrc, hmem⟩
    · -- it leaves a place that is still to be read, and is somewhere else
      obtain ⟨other, hother⟩ := hv
      obtain ⟨hgone, henters⟩ := of_leaves (s := c.pool.shared) hleft
      have hne : other ≠ src := fun h => hgone (h ▸ hother)
      have hbefore : vmId ∈ other.ids c.pool.shared := by
        rcases Source.ids_exec hother with h | h
        · exact h
        · rw [henters] at h
          cases h
      simp only [LeavesSeen, hleft] at hleaves
      rcases hleaves hsrc with hknown | hfound
      · exact .inl hknown
      · obtain ⟨another, hin, hne', hmem'⟩ := hfound other (mem_periodicSources other) hne hbefore
        rcases Source.ids_kept (o := o) hmem' with hmem' | hleft'
        · exact .inr ⟨another, hin, hmem'⟩
        · rw [hleft] at hleft'
          cases hleft'
          exact absurd rfl hne'

variable {pool' : Config Duty Op Op.Resp Host (Except AgentError Unit)} {sweep' : Sweep}

/-- A task runs an operation beside the sweep. -/
theorem Shielded.exec (h : c.Shielded) (hcalm : c.sweep.underWay = true → c.EntersSeen o ∧ c.LeavesSeen o)
    (hpool : pool'.shared = (o.exec c.pool.shared).1) : Shielded ⟨pool', c.sweep⟩ := by
  refine ⟨fun hway vmId hv => ?_, h.orphans⟩
  obtain ⟨henters, hleaves⟩ := hcalm hway
  show vmId ∈ c.sweep.known ∨ ∃ src ∈ c.sweep.left, vmId ∈ src.ids pool'.shared
  simp only [hpool] at hv ⊢
  obtain ⟨src, hsrc⟩ := hv
  rcases Source.ids_exec hsrc with hbefore | hentered
  · exact (h.seen hway vmId ⟨src, hbefore⟩).exec hleaves ⟨src, hsrc⟩
  · simp only [EntersSeen, hentered] at henters
    rcases henters with hleft | hsees
    · exact .inr ⟨src, hleft, hsrc⟩
    · exact hsees.exec hleaves ⟨src, hsrc⟩

theorem shielded_task {e : Conc.Event Duty}
    (h : c.Shielded) (hcalm : c.Calm (.task e)) (hstep : (agent spec).step c.pool e = some pool') :
    Shielded ⟨pool', c.sweepAfter e⟩ := by
  obtain ⟨pool, sweep⟩ := c
  cases Machine.step_cases hstep with
  | spawn | drop => exact ⟨h.seen, h.orphans⟩
  | crash => exact shielded_idle
  | exec =>
    simp only [Calm, Machine.nextOp_exec] at hcalm
    exact h.exec hcalm rfl

/-- The sweep reads on, or goes on to what comes next. -/
theorem shielded_advance (h : c.Shielded) (hstep : c.sweep.advance spec c.pool.shared = some sweep') :
    Shielded ⟨c.pool, sweep'⟩ := by
  obtain ⟨pool, sweep⟩ := c
  have hknown : sweep.underWay = true → sweep.left = [] → ∀ vmId, pool.shared.Managed vmId → vmId ∈ sweep.known :=
    fun hway hleft _ hv => h.mem_known hway hleft hv
  cases sweep with
  | idle => cases hstep
  | gathering left known =>
    cases left with
    | nil =>
      cases hstep
      exact shielded_collect (hknown rfl rfl) _
    | cons src left =>
      cases hstep
      refine ⟨fun _ vmId hv => ?_, nofun⟩
      -- what was to be read from `src` is now known
      rcases h.seen rfl vmId hv with hin | ⟨src', hsrc', hmem⟩
      · exact .inl (mem_append_right _ hin)
      · rcases mem_cons.mp hsrc' with rfl | hsrc'
        · exact .inl (mem_append_left _ hmem)
        · exact .inr ⟨src', hsrc', hmem⟩
  | listing kind rest left listed known =>
    cases left with
    | nil =>
      cases hstep
      refine ⟨fun _ vmId hv => .inl (hknown rfl rfl vmId hv), fun job hjob => ?_⟩
      obtain ⟨vmId, hv, rfl⟩ := mem_map.mp hjob
      refine ⟨?_, departs_reclaim kind⟩
      exact of_decide_eq_true (mem_filter.mp (mem_of_mem_take hv)).2
    | cons l left =>
      simp only [Sweep.advance] at hstep
      split at hstep <;> cases hstep
      · exact ⟨fun _ vmId hv => .inl (hknown rfl rfl vmId hv), nofun⟩
      · exact shielded_collect (hknown rfl rfl) _
  | reclaiming kind rest jobs known =>
    simp only [Sweep.advance] at hstep
    split at hstep <;> cases hstep
    exact shielded_collect (hknown rfl rfl) _

theorem shielded_fail (h : c.Shielded) (hstep : c.sweep.fail spec = some sweep') : Shielded ⟨c.pool, sweep'⟩ := by
  obtain ⟨pool, sweep⟩ := c
  match sweep, hstep with
  | .gathering (_ :: _) _, hstep =>
    cases hstep
    exact shielded_idle
  | .listing _ _ (_ :: _) _ _, hstep =>
    cases hstep
    exact shielded_collect (fun _ hv => h.mem_known rfl rfl hv) _

/-- A reclaim takes a step: by none of its operations a VM becomes managed. -/
theorem shielded_work {shared : Host} {i : Nat} (h : c.Shielded)
    (hstep : c.sweep.work c.pool.shared i = some (shared, sweep')) : Shielded ⟨{ c.pool with shared }, sweep'⟩ := by
  obtain ⟨pool, sweep⟩ := c
  cases sweep with
  | reclaiming kind rest jobs known =>
    simp only [Sweep.work] at hstep
    split at hstep <;> cases hstep
    rename_i vmId o k hjob
    obtain ⟨horphan, hdeparts⟩ := h.orphans _ (mem_of_getElem? hjob)
    refine ⟨fun _ v hv => .inl (h.mem_known rfl rfl (hv.of_exec hdeparts.1)), fun job hmem => ?_⟩
    rcases mem_or_eq_of_mem_set hmem with hmem | rfl
    · exact h.orphans job hmem
    · exact ⟨horphan, hdeparts.2 _⟩
  | _ => cases hstep

/-- **Step.** -/
theorem shielded_step {e : Event} (h : c.Shielded) (hcalm : c.Calm e) (hstep : c.step spec e = some c') :
    c'.Shielded := by
  cases e with
  | task e =>
    obtain ⟨pool', hpool, rfl⟩ := Option.map_eq_some_iff.mp hstep
    exact shielded_task h hcalm hpool
  | begin =>
    simp only [step] at hstep
    split at hstep <;> cases hstep
    refine ⟨fun _ vmId hv => ?_, nofun⟩
    obtain ⟨src, hsrc⟩ := hv
    exact .inr ⟨src, mem_periodicSources src, hsrc⟩
  | advance =>
    obtain ⟨sweep', hadvance, rfl⟩ := Option.map_eq_some_iff.mp hstep
    exact shielded_advance h hadvance
  | fail =>
    obtain ⟨sweep', hfail, rfl⟩ := Option.map_eq_some_iff.mp hstep
    exact shielded_fail h hfail
  | reclaim i =>
    obtain ⟨⟨shared, sweep'⟩, hwork, rfl⟩ := Option.map_eq_some_iff.mp hstep
    exact shielded_work h hwork

theorem Shielded.reclaimsOrphans (h : c.Shielded) : c.ReclaimsOrphans := by
  intro job hjob _ hmanaged
  -- there are jobs only when the known set is complete
  have hstage : c.sweep.underWay = true ∧ c.sweep.left = [] := by
    obtain ⟨pool, sweep⟩ := c
    cases sweep with
    | reclaiming => exact ⟨rfl, rfl⟩
    | _ => cases hjob
  exact (h.orphans job hjob).1 (h.mem_known hstage.1 hstage.2 hmanaged)

end Step

/-! ## The result -/

/-- **The sweep reclaims orphans only**, beside any number of creates and deletes and with any restart of the
    agent, in every run in which no step of a task lets a VM slip past the known set. -/
theorem reclaims_only_orphans {spec : HostSpec} {c c' : Sweeping} {es : List Event} (hidle : c.sweep = .idle)
    (hcalm : Along (step spec) Calm c es) (hrun : run (step spec) c es = some c') :
    c'.ReclaimsOrphans := by
  have hc : c.Shielded := by
    obtain ⟨pool, sweep⟩ := c
    cases hidle
    exact shielded_idle
  exact (run_invariant shielded_step hc hcalm hrun).reclaimsOrphans

/-- A host with the directory of a VM that is gone. -/
def litteredHost : Host :=
  { smallHost with vgs := [⟨"rootvg", 100 * 2 ^ 30⟩, ⟨"vg0", 100 * 2 ^ 30⟩], vmDirs := ["v0"] }

def littered : Sweeping := ⟨⟨litteredHost, [], []⟩, .idle⟩

/-- The whole of one create. -/
def createEvents : List Event := .task (.spawn (.create smallCommand)) :: List.replicate 31 (.task (.step 0))

/-- The sweep comes after the create. -/
def calmEvents : List Event := createEvents ++ .begin :: List.replicate 13 .advance

def afterCalm : Sweeping := after (step smallSpec) littered calmEvents

/-- The directory of the VM that is gone is about to be removed. -/
theorem reclaims_only_orphans_littered :
    littered.sweep = .idle ∧ Along (step smallSpec) Calm littered calmEvents ∧
      run (step smallSpec) littered calmEvents = some afterCalm ∧
      afterCalm.sweep.jobs.map (fun job => (job.vmId, job.prog.finished)) = [("v0", false)] ∧
      afterCalm.ReclaimsOrphans := by
  have hcalm : Along (step smallSpec) Calm littered calmEvents := by decide +kernel
  have htaken : (run (step smallSpec) littered calmEvents).isSome = true := by decide +kernel
  have hrun := run_eq_after htaken
  exact ⟨rfl, hcalm, hrun, by decide +kernel, reclaims_only_orphans rfl hcalm hrun⟩

/-- The create comes after the known set has been read, and before the units are listed. -/
def hastyEvents : List Event := .begin :: List.replicate 3 .advance ++ createEvents ++ List.replicate 3 .advance

def afterHasty : Sweeping := after (step smallSpec) littered hastyEvents

/-- The reclaim of the VM runs to its end. -/
def reclaimEvents : List Event := List.replicate 19 (.reclaim 0)

def afterReclaim : Sweeping := after (step smallSpec) afterHasty reclaimEvents

/-- A VM that is recorded, tracked and running is reclaimed, and its unit is gone. -/
theorem reclaims_running_vm : ∃ spec c es c' es' c'' vmId, c.sweep = .idle ∧
    run (step spec) c es = some c' ∧ ¬ c'.ReclaimsOrphans ∧
    c'.pool.shared.recorded vmId = true ∧ vmId ∈ c'.pool.shared.tracked ∧
    c'.pool.shared.running (unitNameForVm vmId) = true ∧
    run (step spec) c' es' = some c'' ∧ c''.pool.shared.loaded (unitNameForVm vmId) = false := by
  have htaken : (run (step smallSpec) littered hastyEvents).isSome = true := by decide +kernel
  have htaken' : (run (step smallSpec) afterHasty reclaimEvents).isSome = true := by decide +kernel
  have htracked : smallCommand.vmId ∈ afterHasty.pool.shared.tracked := by decide +kernel
  refine ⟨smallSpec, littered, hastyEvents, afterHasty, reclaimEvents, afterReclaim, smallCommand.vmId, rfl,
    run_eq_after htaken, fun horphans => ?_, by decide +kernel, htracked, by decide +kernel,
    run_eq_after htaken', by decide +kernel⟩
  have hmem : (smallCommand.vmId, false) ∈ afterHasty.sweep.jobs.map fun job => (job.vmId, job.prog.finished) := by
    decide +kernel
  obtain ⟨job, hin, heq⟩ := mem_map.mp hmem
  have hv : job.vmId = smallCommand.vmId := congrArg Prod.fst heq
  exact horphans job hin (congrArg Prod.snd heq) ⟨.tracked, hv ▸ htracked⟩

end Sweeping

end BasisCell.Agent
