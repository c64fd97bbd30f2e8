import BasisCell.Lib.Lists
import BasisCell.Controller.Effects

/-!
# `BasisCell.Controller.Capacity` — no host is ever over-committed

`insert_vm` recomputes a host's usage from the stored rows and admits a row only under what is left of the
host's totals. Usage is recomputed in four columns with three different units, two of them out of a JSON
array, while other calls rewrite and delete rows; what has to be carried through a run is therefore not the
gate but the invariant behind it (`CapacityInv`): the stored rows are nonnegative and small enough that the
gate's arithmetic is exact, and the four sums of every registered host lie within its totals.

One step lemma (`capacityInv_step`) by cases on the call's effect, one run lemma, and the safety theorem.
-/

namespace BasisCell

open Relational Table List

/-! ## What a VM takes and what a host has -/

/-- The four capacities the gate accounts for. -/
inductive Resource where
  | cpu | memory | rootfs | data
  deriving DecidableEq, Repr

/-- Bytes (or cores, or MiB) per unit of the row's column. -/
def Resource.unit : Resource → Int
  | .cpu => 1
  | .memory => 1
  | .rootfs => gib
  | .data => gib

/-- Sum of the minimum sizes of a row's data disks, in GiB. -/
def VmRow.minSizeSum (v : VmRow) : Int := (v.storageDisks.map fun e => ((e.minSizeGib.getD 0 : Nat) : Int)).sum

/-- What a row takes of a resource, in the units of its own column. -/
def VmRow.amount (r : Resource) (v : VmRow) : Int :=
  match r with
  | .cpu => v.cpu
  | .memory => v.memoryMib
  | .rootfs => v.diskGib
  | .data => v.minSizeSum

/-- A host's registered total of a resource, cpu scaled by the overcommit ratio. -/
def HostRow.limit (effectiveCpu : Int → Int) (r : Resource) (h : HostRow) : Int :=
  match r with
  | .cpu => effectiveCpu h.totalCpu
  | .memory => h.totalMemoryMib
  | .rootfs => h.rootfsTotalBytes
  | .data => h.dataTotalBytes

/-- Nonnegative requests whose byte sizes fit in an `i64`. -/
def VmRow.Sized (v : VmRow) : Prop :=
  (∀ r, 0 ≤ v.amount r) ∧ v.diskGib * gib ≤ i64Max ∧ v.minSizeSum * gib ≤ i64Max

/-- The calls of a run with the registered totals held fixed: everything but registrations and heartbeats,
    with sized requests. -/
def Write.Admitted : Write → Prop
  | .insertVm vm _ _ => vm.Sized
  | .upsertHost _ => False
  | .recordHeartbeat _ _ _ _ => False
  | _ => True

/-- The database after a sequence of calls, each committed or rolled back. -/
def Db.run (db : Db) (ws : List Write) : Db := ws.foldl (fun db w => (w.exec db).1) db

/-! ## The gate's arithmetic is exact on sized rows -/

theorem minSizeSum_nonneg (v : VmRow) : 0 ≤ v.minSizeSum := by
  refine sum_nonneg fun x hx => ?_
  obtain ⟨e, -, rfl⟩ := mem_map.mp hx
  exact Int.natCast_nonneg _

variable {v vm : VmRow} {host : HostRow} {dataGib : Int} {p : VmRow → Bool}

theorem le_minSizeSum {e : DiskEntry} (he : e ∈ v.storageDisks) :
    ((e.minSizeGib.getD 0 : Nat) : Int) ≤ v.minSizeSum := by
  refine single_le_sum ?_ _ (mem_map.mpr ⟨e, he, rfl⟩)
  intro x hx
  obtain ⟨e', -, rfl⟩ := mem_map.mp hx
  exact Int.natCast_nonneg _

theorem minSizeSum_le_i64Max (h : v.minSizeSum * gib ≤ i64Max) : v.minSizeSum ≤ i64Max := by
  have := minSizeSum_nonneg v
  unfold gib at h
  omega

/-- SQL's cast clamps nothing in a sized row. -/
theorem dataGib_eq (h : v.minSizeSum * gib ≤ i64Max) : v.dataGib = v.minSizeSum := by
  unfold VmRow.dataGib VmRow.minSizeSum
  rw [map_congr_left]
  intro e he
  exact min_eq_left ((le_minSizeSum he).trans (minSizeSum_le_i64Max h))

/-- Reading the entries back keeps their sizes. -/
theorem map_minSizeGib_of_parse {es : List DiskEntry} {ds : List StoredDisk}
    (h : es.mapM DiskEntry.parse = some ds) :
    ds.map (·.minSizeGib) = es.map fun e => e.minSizeGib.getD 0 := by
  induction es generalizing ds with
  | nil =>
    cases h
    rfl
  | cons e es ih =>
    rw [mapM_cons] at h
    obtain ⟨d, hd, h⟩ := Option.bind_eq_some_iff.mp h
    obtain ⟨ds', hds, h⟩ := Option.bind_eq_some_iff.mp h
    cases h
    have hmin : e.minSizeGib = some d.minSizeGib := by
      unfold DiskEntry.parse at hd
      obtain ⟨i, -, hd⟩ := Option.bind_eq_some_iff.mp hd
      obtain ⟨n, hn, hd⟩ := Option.bind_eq_some_iff.mp hd
      obtain ⟨p, -, hd⟩ := Option.bind_eq_some_iff.mp hd
      obtain ⟨z, -, hd⟩ := Option.bind_eq_some_iff.mp hd
      cases hd
      exact hn
    rw [map_cons, map_cons, ih hds, hmin]
    rfl

/-- Rust's sum of the request wraps nowhere in a sized row. -/
theorem storageDisksSumGib_eq {s : Int} (hs : v.storageDisksSumGib = some s)
    (h : v.minSizeSum * gib ≤ i64Max) : s = v.minSizeSum := by
  obtain ⟨ds, hds, rfl⟩ := Option.map_eq_some_iff.mp hs
  have hmap := map_minSizeGib_of_parse hds
  have hsum : (ds.map fun d => asI64 d.minSizeGib).sum = v.minSizeSum := by
    calc (ds.map fun d => asI64 d.minSizeGib).sum
        = ((ds.map (·.minSizeGib)).map asI64).sum := by rw [map_map]; rfl
      _ = (v.storageDisks.map fun e => asI64 (e.minSizeGib.getD 0)).sum := by rw [hmap, map_map]; rfl
      _ = v.minSizeSum := by
        unfold VmRow.minSizeSum
        rw [map_congr_left fun e he =>
          asI64_of_le ((le_minSizeSum he).trans (minSizeSum_le_i64Max h))]
  rw [hsum]
  exact wrapI64_of_mem (minSizeSum_nonneg v) (minSizeSum_le_i64Max h)

/-- **What the gate guarantees**: on sized rows, room for the new row under every one of the host's totals. -/
theorem room_of_hasRoom {db : Db}
    (hrows : ∀ v ∈ db.vms.rows, v.Sized) (hvm : vm.Sized) (hsum : vm.storageDisksSumGib = some dataGib)
    (hroom : db.hasRoom vm (saturatingMul vm.diskGib gib) (saturatingMul dataGib gib) host = true) :
    host.id = vm.hostId ∧ ∀ r, (db.usedOn host.id (VmRow.amount r) + vm.amount r) * r.unit
      ≤ host.limit db.effectiveCpu r := by
  obtain ⟨hnn, hroot, hdata⟩ := hvm
  obtain ⟨hid, -, hcpu, hmem, hrootfs, hdisks⟩ := of_decide_eq_true hroom
  have hrootBytes : saturatingMul vm.diskGib gib = vm.diskGib * gib :=
    saturatingMul_of_mem (Int.mul_nonneg (hnn .rootfs) (by decide)) hroot
  have hdataBytes : saturatingMul dataGib gib = vm.minSizeSum * gib := by
    rw [storageDisksSumGib_eq hsum hdata]
    exact saturatingMul_of_mem (Int.mul_nonneg (minSizeSum_nonneg vm) (by decide)) hdata
  have hused : db.usedOn host.id VmRow.dataGib = db.usedOn host.id (VmRow.amount .data) :=
    sum_congr fun v hv => dataGib_eq (hrows v hv).2.2
  rw [hrootBytes] at hrootfs
  rw [hdataBytes, hused] at hdisks
  refine ⟨hid, fun r => ?_⟩
  cases r with
  | cpu =>
    show (db.usedOn host.id (·.cpu) + vm.cpu) * 1 ≤ db.effectiveCpu host.totalCpu
    omega
  | memory =>
    show (db.usedOn host.id (·.memoryMib) + vm.memoryMib) * 1 ≤ host.totalMemoryMib
    omega
  | rootfs =>
    show (db.usedOn host.id (·.diskGib) + vm.diskGib) * gib ≤ host.rootfsTotalBytes
    rw [Int.add_mul]
    omega
  | data =>
    show (db.usedOn host.id (VmRow.amount .data) + vm.minSizeSum) * gib ≤ host.dataTotalBytes
    rw [Int.add_mul]
    omega

/-! ## Disk reports do not change a row's demand -/

theorem minSizeSum_commitEntry (v : VmRow) (a : DiskAssignment) :
    VmRow.minSizeSum { v with storageDisks := commitEntry a v.storageDisks } = v.minSizeSum := by
  unfold VmRow.minSizeSum commitEntry
  dsimp only
  split
  · -- the appended object has no `min_size_gib`
    rw [map_append, sum_append]
    exact Int.add_zero _
  · rw [map_modify_of_forall (f := DiskEntry.commit a)]
    exact fun _ => rfl

/-! ## The invariant -/

/-- The four sums of every registered host lie within its totals, over rows the gate computes exactly on. -/
structure CapacityInv (reg db : Db) : Prop where
  scale : db.effectiveCpu = reg.effectiveCpu
  registered : ∀ h ∈ db.hosts.rows, ∃ h₀ ∈ reg.hosts.rows,
    h₀.id = h.id ∧ ∀ r, h₀.limit reg.effectiveCpu r = h.limit reg.effectiveCpu r
  sized : ∀ v ∈ db.vms.rows, v.Sized
  within : ∀ h ∈ reg.hosts.rows, ∀ r,
    db.usedOn h.id (VmRow.amount r) * r.unit ≤ h.limit reg.effectiveCpu r

theorem Resource.unit_nonneg (r : Resource) : 0 ≤ r.unit := by
  cases r <;> decide

variable {reg db db' : Db}

/-- Rewriting columns that are no demand keeps the invariant. -/
theorem CapacityInv.of_update (hi : CapacityInv reg db) {f : VmRow → VmRow}
    (hvms : db'.vms.rows = db.vms.rows.map fun v => if p v then f v else v) (hhosts : db'.hosts = db.hosts)
    (hscale : db'.effectiveCpu = db.effectiveCpu) (hhost : ∀ v, (f v).hostId = v.hostId)
    (hamount : ∀ v r, (f v).amount r = v.amount r) : CapacityInv reg db' where
  scale := hscale.trans hi.scale
  registered := hhosts ▸ hi.registered
  sized := by
    intro v hv
    rw [hvms] at hv
    obtain ⟨v₀, hv₀, rfl⟩ := mem_map.mp hv
    have h₀ := hi.sized v₀ hv₀
    split
    · obtain ⟨hnn, hroot, hdata⟩ := h₀
      refine ⟨fun r => (hamount v₀ r).symm ▸ hnn r, ?_, ?_⟩
      · show (f v₀).amount .rootfs * gib ≤ i64Max
        rw [hamount]
        exact hroot
      · show (f v₀).amount .data * gib ≤ i64Max
        rw [hamount]
        exact hdata
    · exact h₀
  within := by
    intro h hh r
    have : db'.usedOn h.id (VmRow.amount r) = db.usedOn h.id (VmRow.amount r) :=
      sum_of_update hvms (fun v => by rw [hhost]) fun v => hamount v r
    rw [this]
    exact hi.within h hh r

theorem CapacityInv.of_delete (hi : CapacityInv reg db)
    (hvms : db'.vms = db.vms.delete p) (hhosts : db'.hosts = db.hosts)
    (hscale : db'.effectiveCpu = db.effectiveCpu) : CapacityInv reg db' where
  scale := hscale.trans hi.scale
  registered := hhosts ▸ hi.registered
  sized := fun v hv => hi.sized v (mem_delete.mp (hvms ▸ hv)).1
  within := by
    intro h hh r
    refine le_trans (Int.mul_le_mul_of_nonneg_right ?_ r.unit_nonneg) (hi.within h hh r)
    unfold Db.usedOn
    rw [hvms]
    exact sum_delete_le fun v hv => (hi.sized v hv).1 r

theorem CapacityInv.of_insert (hi : CapacityInv reg db)
    (hvm : vm.Sized) (hsum : vm.storageDisksSumGib = some dataGib) (hhost : host ∈ db.hosts.rows)
    (hroom : db.hasRoom vm (saturatingMul vm.diskGib gib) (saturatingMul dataGib gib) host = true)
    (hvms : db.vms.insert vm = some db'.vms) (hhosts : db'.hosts = db.hosts)
    (hscale : db'.effectiveCpu = db.effectiveCpu) : CapacityInv reg db' where
  scale := hscale.trans hi.scale
  registered := hhosts ▸ hi.registered
  sized := by
    intro v hv
    rcases (mem_insert hvms).mp hv with hv | rfl
    · exact hi.sized v hv
    · exact hvm
  within := by
    intro h hh r
    have hused : db'.usedOn h.id (VmRow.amount r)
        = db.usedOn h.id (VmRow.amount r) + if vm.hostId = h.id then vm.amount r else 0 := by
      unfold Db.usedOn
      rw [sum_insert hvms]
      simp only [decide_eq_true_eq]
    rw [hused]
    by_cases hid : vm.hostId = h.id
    · -- the gate looked at the current row of this host; its totals are the registered ones
      obtain ⟨hroomId, hroom⟩ := room_of_hasRoom hi.sized hvm hsum hroom
      obtain ⟨h₀, hmem, hid₀, hlimit⟩ := hi.registered host hhost
      have : h₀ = h := eq_of_clash hmem hh (.inl (hid₀.trans (hroomId.trans hid)))
      subst this
      rw [if_pos hid, hlimit, ← hi.scale, hid₀]
      exact hroom r
    · rw [if_neg hid, Int.add_zero]
      exact hi.within h hh r

/-- **Every admitted call keeps every host within its totals.** -/
theorem capacityInv_step {w : Write} (hi : CapacityInv reg db) (hw : w.Admitted) :
    CapacityInv reg (w.exec db).1 := by
  refine w.exec_elim db hi fun heff => ?_
  cases heff with
  | upsertHost | recordHeartbeat => exact hw.elim
  | markStaleHostsUnhealthy =>
    -- only `healthy` changes, which no total reads
    refine ⟨hi.scale, fun h hh => ?_, hi.sized, hi.within⟩
    obtain ⟨h', hh', rfl⟩ := mem_map.mp hh
    obtain ⟨h₀, hmem, hid, hlimit⟩ := hi.registered h' hh'
    split
    · exact ⟨h₀, hmem, hid, fun r => (hlimit r).trans (by cases r <;> rfl)⟩
    · exact ⟨h₀, hmem, hid, hlimit⟩
  | insertVm hsum hhost hroom h => exact hi.of_insert hw hsum hhost hroom h rfl rfl
  | updateVmState | markVmPendingTeardown | markVmsFailedOnHost =>
    exact hi.of_update rfl rfl rfl (fun _ => rfl) fun _ r => by cases r <;> rfl
  | ackTombstones =>
    exact hi.of_delete Db.vms_ackTombstones Db.ackTombstones_frame.1 Db.ackTombstones_frame.2.2.2.1
  | commitDiskAssignment =>
    refine hi.of_update rfl rfl rfl (fun _ => rfl) fun v r => ?_
    cases r with
    | data => exact minSizeSum_commitEntry v _
    | _ => rfl
  | _ => exact ⟨hi.scale, hi.registered, hi.sized, hi.within⟩

/-- The invariant along a run of admitted calls. -/
theorem capacityInv_run {ws : List Write} (hws : ∀ w ∈ ws, w.Admitted) (hi : CapacityInv reg db) :
    CapacityInv reg (db.run ws) := by
  induction ws generalizing db with
  | nil => exact hi
  | cons w ws ih =>
    refine ih (fun w' hw' => hws w' (mem_cons_of_mem w hw')) ?_
    exact capacityInv_step hi (hws w mem_cons_self)

/-- **Capacity safety.** From a database without VMs, no sequence of admitted calls takes a host past its
    registered totals or records a GPU for two VMs, and a failing `insert_vm` changes nothing. -/
theorem capacity_safe (db : Db) (hempty : db.vms.rows = [])
    (htotals : ∀ h ∈ db.hosts.rows, ∀ r, 0 ≤ h.limit db.effectiveCpu r)
    (ws : List Write) (hws : ∀ w ∈ ws, w.Admitted) :
    (∀ h ∈ db.hosts.rows, ∀ r,
      (db.run ws).usedOn h.id (VmRow.amount r) * r.unit ≤ h.limit db.effectiveCpu r) ∧
    (∀ g ∈ (db.run ws).vmGpus.rows, ∀ g' ∈ (db.run ws).vmGpus.rows,
      g.hostId = g'.hostId → g.pciAddress = g'.pciAddress → g.vmId = g'.vmId) ∧
    ∀ vm gpus disks e, ((Write.insertVm vm gpus disks).exec (db.run ws)).2 = .error e →
      ((Write.insertVm vm gpus disks).exec (db.run ws)).1 = db.run ws := by
  have hinit : CapacityInv db db := by
    refine ⟨rfl, fun h hh => ⟨h, hh, rfl, fun _ => rfl⟩, ?_, ?_⟩
    · intro v hv
      rw [hempty] at hv
      cases hv
    · intro h hh r
      have : db.usedOn h.id (VmRow.amount r) = 0 := by
        unfold Db.usedOn Table.sum
        rw [hempty]
        rfl
      rw [this, Int.zero_mul]
      exact htotals h hh r
  refine ⟨(capacityInv_run hws hinit).within, ?_, fun _ _ _ _ => Write.exec_of_error⟩
  intro g hg g' hg' hhost hpci
  rw [eq_of_clash hg hg' ⟨hpci, .inr hhost⟩]

/-- A host with four cores and its one cluster, overcommit ratio 1. -/
def fourCoreCell : Db :=
  { Db.create id with
    hosts := .ofList [{ id := "h1", hostname := "h1", totalCpu := 4, totalMemoryMib := 8192,
                        rootfsTotalBytes := 100 * gib, dataTotalBytes := 50 * gib, lastHeartbeat := 0 }]
    clusters := .ofList [{ id := "c1", name := "c1", vni := 10000, cidr := ⟨0, 24⟩, bridgeRange := ⟨1, 32⟩,
                           vmRange := ⟨33, 254⟩, prefixLen := 24, controlPlaneEndpoint := 254,
                           externalPool := "lan" }] }

/-- Two creates that do not both fit, and the teardown of the first. -/
def twoCreates : List Write :=
  [ .insertVm { id := "v1", name := "a", clusterId := "c1", hostId := "h1", ipAddress := 33, state := .creating,
                cpu := 3, memoryMib := 1024, diskGib := 20,
                storageDisks := [{ diskIndex := some 0, minSizeGib := some 10, purpose := some "replicated" }] }
      [⟨"v1", "h1", "0000:01:00.0", "", "", 0⟩] [],
    .insertVm { id := "v2", name := "b", clusterId := "c1", hostId := "h1", ipAddress := 34, state := .creating,
                cpu := 2, memoryMib := 1024, diskGib := 20 } [] [],
    .markVmPendingTeardown "v1" ]

theorem capacity_safe_fourCoreCell :
    (fourCoreCell.run twoCreates).usedOn "h1" (VmRow.amount .cpu) = 3 ∧
      (fourCoreCell.run twoCreates).usedOn "h1" (VmRow.amount .data) * gib ≤ 50 * gib := by
  refine ⟨by decide +kernel, ?_⟩
  refine (capacity_safe fourCoreCell rfl ?_ twoCreates ?_).1 _ mem_cons_self .data
  · intro h hh r
    rw [mem_singleton.mp hh]
    cases r <;> decide
  · intro w hw
    simp only [twoCreates, mem_cons, not_mem_nil, or_false] at hw
    rcases hw with rfl | rfl | rfl
    · exact ⟨fun r => by cases r <;> decide, by decide, by decide⟩
    · exact ⟨fun r => by cases r <;> decide, by decide, by decide⟩
    · trivial

end BasisCell
