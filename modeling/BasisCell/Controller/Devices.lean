import BasisCell.Controller.Scheduler

/-!
# `BasisCell.Controller.Devices` — what `pick_disk_placements` promises

The loop of `pick_disk_placements` in its own terms: which devices may take a disk, how much room the earlier disks
have left, and how much a pool is preferred. `placeDisk` is one iteration, so the rules of `Lib.Loop` apply; the
invariant `Tracks` relates the mutable free map to the placements made so far.
-/

namespace BasisCell

open List

variable {dev : DeviceView} {pool : PoolView}
open Function (update_of_ne update_self update)

/-! ## Selectors -/

namespace LabelSelector

variable {s : LabelSelector} {labels : List (String × String)}

/-- Every requirement finds one of its values under its key. -/
def Meets (s : LabelSelector) (labels : List (String × String)) : Prop :=
  ∀ r ∈ s.requires, ∃ v ∈ r.values, labels.lookup r.key = some v

theorem satisfies_iff : s.satisfies labels = true ↔ s.Meets labels := by
  simp only [satisfies, Meets, all_eq_true]
  refine forall₂_congr fun r _ => ?_
  cases labels.lookup r.key with
  | none => simp
  | some v => simp

/-- The weights of the preferences that the labels match, summed. -/
def preference (s : LabelSelector) (labels : List (String × String)) : Nat :=
  ((s.prefers.filter fun p => labels.lookup p.key = some p.value).map (·.weight)).sum

/-- All weights together fit in a `u32`. -/
def Weighable (s : LabelSelector) : Prop := (s.prefers.map (·.weight)).sum < 2 ^ 32

instance (s : LabelSelector) : Decidable s.Weighable := inferInstanceAs (Decidable (_ < _))

theorem score_eq (h : s.Weighable) : s.score labels = s.preference labels := by
  have hsub : s.preference labels ≤ (s.prefers.map (·.weight)).sum :=
    (filter_sublist.map _).sum_le_sum fun _ _ => Nat.zero_le _
  exact Nat.mod_eq_of_lt (lt_of_le_of_lt hsub h)

end LabelSelector

/-- The selector of a disk; without one every pool will do. -/
def StorageDisk.wants (disk : StorageDisk) : LabelSelector := disk.selector.getD {}

/-! ## One iteration -/

/-- What the loop carries from disk to disk. -/
structure DiskLoop where
  idx : Nat
  deviceFree : String × String → Int
  used : List (String × String)

/-- Before the first disk. -/
def HostStorageView.diskLoop (view : HostStorageView) : DiskLoop := ⟨0, view.deviceFree, []⟩

attribute [local instance] intOrder

/-- The body of the loop; `none` is the early return. -/
def placeDisk (clusterId : ClusterId) (view : HostStorageView) (s : DiskLoop) (disk : StorageDisk) :
    Option (DiskLoop × DiskPlacement) :=
  match DiskPurpose.tryFrom disk.purpose with
  | none => none
  | some purpose =>
    match (diskCandidates clusterId view s.deviceFree s.used disk).argmax fun c => c.score.key with
    | none => none
    | some pick =>
      let key := (pick.pool, pick.deviceId)
      let rest := update s.deviceFree key (saturatingSub (s.deviceFree key) (needBytes disk.minSizeGib))
      some (⟨s.idx + 1, rest, key :: s.used⟩, ⟨s.idx, pick.pool, pick.deviceId, disk.minSizeGib, purpose⟩)

/-- Where a placement is. -/
def DiskPlacement.key (p : DiskPlacement) : String × String := (p.pool, p.deviceId)

/-- The device may take the disk, if it has the room. -/
structure HostStorageView.Eligible (view : HostStorageView) (disk : StorageDisk) (pool : PoolView)
    (dev : DeviceView) : Prop where
  listed : pool ∈ view.pools
  meets : disk.wants.Meets pool.labels
  device : dev ∈ pool.devices
  schedulable : dev.schedulable = true

/-- The candidate that an eligible device is. -/
def diskCandidate (clusterId : ClusterId) (used : List (String × String)) (disk : StorageDisk) (pool : PoolView)
    (dev : DeviceView) : DiskCandidate where
  pool := pool.name
  deviceId := dev.deviceId
  score :=
    { poolPrefersScore := disk.wants.score pool.labels
      negativeSameClusterOnDevice :=
        if clusterId = "" then 0 else if clusterId ∈ dev.replicatedClusters then -1 else 0
      negativeSameVmPenalty := if (pool.name, dev.deviceId) ∈ used then -1 else 0
      tieBreaker := backendTieBreaker pool.backend dev.freeBytes (needBytes disk.minSizeGib) }

section Iteration

variable {clusterId : ClusterId} {view : HostStorageView} {s s' : DiskLoop} {disk : StorageDisk}
  {disks : List StorageDisk} {p : DiskPlacement} {free : String × String → Int} {used : List (String × String)}

theorem placeDisks_eq_run (idx : Nat) :
    placeDisks clusterId view idx free used disks =
      (Loop.run (placeDisk clusterId view) ⟨idx, free, used⟩ disks).map Prod.snd := by
  induction disks generalizing idx free used with
  | nil => rfl
  | cons disk disks ih =>
    unfold placeDisks Loop.run placeDisk
    cases DiskPurpose.tryFrom disk.purpose with
    | none => rfl
    | some purpose =>
      cases (diskCandidates clusterId view free used disk).argmax fun c => c.score.key with
      | none => rfl
      | some pick =>
        simp only [ih, Option.map_map, Option.bind_some]
        rfl

theorem mem_diskCandidates {c : DiskCandidate} : c ∈ diskCandidates clusterId view free used disk ↔
    ∃ pool dev, view.Eligible disk pool dev ∧ needBytes disk.minSizeGib ≤ free (pool.name, dev.deviceId) ∧
      c = diskCandidate clusterId used disk pool dev := by
  simp only [diskCandidates, mem_flatMap, mem_filter, mem_map, decide_eq_true_eq]
  constructor
  · rintro ⟨pool, ⟨hpool, hmeets⟩, dev, ⟨hdev, hsched, hroom⟩, rfl⟩
    exact ⟨pool, dev, ⟨hpool, LabelSelector.satisfies_iff.mp hmeets, hdev, hsched⟩, hroom, rfl⟩
  · rintro ⟨pool, dev, helig, hroom, rfl⟩
    exact ⟨pool, ⟨helig.listed, LabelSelector.satisfies_iff.mpr helig.meets⟩, dev,
      ⟨helig.device, helig.schedulable, hroom⟩, rfl⟩

/-- An iteration that places the disk: the best candidate, and its bytes taken off. -/
theorem placeDisk_some (h : placeDisk clusterId view s disk = some (s', p)) :
    ∃ pool dev, view.Eligible disk pool dev ∧ needBytes disk.minSizeGib ≤ s.deviceFree (pool.name, dev.deviceId) ∧
      (∀ c ∈ diskCandidates clusterId view s.deviceFree s.used disk,
        c.score.key ≤ (diskCandidate clusterId s.used disk pool dev).score.key) ∧
      DiskPurpose.tryFrom disk.purpose = some p.purpose ∧ p.minSizeGib = disk.minSizeGib ∧
      p.key = (pool.name, dev.deviceId) ∧ s'.used = p.key :: s.used ∧
      s'.deviceFree = update s.deviceFree p.key
        (saturatingSub (s.deviceFree p.key) (needBytes disk.minSizeGib)) := by
  unfold placeDisk at h
  repeat' split at h
  all_goals cases h
  rename_i purpose hpurpose _ pick hpick
  obtain ⟨pool, dev, helig, hroom, rfl⟩ := mem_diskCandidates.mp (argmax_mem hpick)
  refine ⟨pool, dev, helig, hroom, fun c hc => ?_, hpurpose, rfl, rfl, rfl, rfl⟩
  exact le_of_mem_argmax (f := fun c : DiskCandidate => c.score.key) hc hpick

theorem idx_of_placeDisk (h : placeDisk clusterId view s disk = some (s', p)) :
    p.diskIndex = s.idx ∧ s'.idx = s.idx + 1 := by
  unfold placeDisk at h
  repeat' split at h
  all_goals cases h
  exact ⟨rfl, rfl⟩

/-- An iteration that gives up: the purpose is unknown, or no eligible device has the room. -/
theorem placeDisk_eq_none : placeDisk clusterId view s disk = none ↔
    DiskPurpose.tryFrom disk.purpose = none ∨ ∀ pool dev, view.Eligible disk pool dev →
      s.deviceFree (pool.name, dev.deviceId) < needBytes disk.minSizeGib := by
  have hempty : (diskCandidates clusterId view s.deviceFree s.used disk).argmax (fun c => c.score.key) = none ↔
      ∀ pool dev, view.Eligible disk pool dev →
        s.deviceFree (pool.name, dev.deviceId) < needBytes disk.minSizeGib := by
    rw [argmax_eq_none, eq_nil_iff_forall_not_mem]
    constructor
    · intro h pool dev helig
      by_contra hroom
      exact h _ (mem_diskCandidates.mpr ⟨pool, dev, helig, not_lt.mp hroom, rfl⟩)
    · intro h c hc
      obtain ⟨pool, dev, helig, hroom, -⟩ := mem_diskCandidates.mp hc
      exact absurd hroom (not_le.mpr (h pool dev helig))
  unfold placeDisk
  cases DiskPurpose.tryFrom disk.purpose with
  | none => simp
  | some purpose =>
    rw [← hempty]
    simp only [reduceCtorEq, false_or]
    split
    · rename_i hnone
      simp only [hnone]
    · rename_i pick hpick
      simp only [hpick, reduceCtorEq]

end Iteration

theorem DiskScore.prefers_le {a b : DiskScore} (h : a.key ≤ b.key) : a.poolPrefersScore ≤ b.poolPrefersScore := by
  rcases Prod.Lex.toLex_le_toLex.mp h with hlt | ⟨heq, -⟩
  · exact Nat.le_of_lt hlt
  · exact Nat.le_of_eq heq

/-! ## Room -/

/-- The sizes of the placements on one device, in bytes. -/
def occupied (placements : List DiskPlacement) (key : String × String) : Int :=
  ((placements.filter fun p => p.key = key).map fun p => (p.minSizeGib : Int) * gib).sum

theorem occupied_append (ps qs : List DiskPlacement) (key : String × String) :
    occupied (ps ++ qs) key = occupied ps key + occupied qs key := by
  simp only [occupied, filter_append, map_append, sum_append]

theorem occupied_singleton (p : DiskPlacement) (key : String × String) :
    occupied [p] key = if p.key = key then (p.minSizeGib : Int) * gib else 0 := by
  by_cases h : p.key = key
  · simp [occupied, h]
  · simp [occupied, h]

theorem occupied_nonneg (ps : List DiskPlacement) (key : String × String) : 0 ≤ occupied ps key := by
  refine sum_nonneg fun b hb => ?_
  obtain ⟨p, -, rfl⟩ := mem_map.mp hb
  exact Int.mul_nonneg (Int.natCast_nonneg _) (by decide)

/-- A size below `2 ^ 33` GiB is taken exactly. -/
theorem needBytes_of_lt {n : Nat} (h : n < 2 ^ 33) : needBytes n = n * gib := by
  apply needBytes_of_le
  unfold gib i64Max
  omega

/-- The free map is what the view reports less what has been placed, and stays nonnegative where it is used. -/
structure Tracks (view : HostStorageView) (s : DiskLoop) (placements : List DiskPlacement) : Prop where
  free : ∀ key, s.deviceFree key = view.deviceFree key - occupied placements key
  nonneg : ∀ p ∈ placements, 0 ≤ s.deviceFree p.key

section Room

variable {clusterId : ClusterId} {view : HostStorageView} {s s' : DiskLoop} {disk : StorageDisk}
  {disks : List StorageDisk} {p : DiskPlacement} {ps : List DiskPlacement}

theorem HostStorageView.deviceFree_le (hfree : ∀ pool ∈ view.pools, ∀ dev ∈ pool.devices, dev.freeBytes ≤ i64Max)
    (key : String × String) : view.deviceFree key ≤ i64Max := by
  rcases view.deviceFree_cases key with hzero | ⟨pool, hpool, dev, hdev, -, heq⟩
  · rw [hzero]
    decide
  · rw [heq]
    exact hfree pool hpool dev hdev

theorem HostStorageView.deviceFree_of_mem (hkeys : (view.slots.map key).Nodup)
    (hpool : pool ∈ view.pools) (hdev : dev ∈ pool.devices) :
    view.deviceFree (pool.name, dev.deviceId) = dev.freeBytes := by
  rw [deviceFree_eq_fill]
  exact Loop.fill_of_mem hkeys (mem_slots.mpr ⟨hpool, hdev⟩)

theorem Tracks.start : Tracks view view.diskLoop [] where
  free := fun _ => (Int.sub_zero _).symm
  nonneg := nofun

/-- Taking a disk off a device with the room for it is exact. -/
theorem Tracks.sub_exact (hfree : ∀ key, view.deviceFree key ≤ i64Max) (h : Tracks view s ps) {n : Nat}
    (hsize : n < 2 ^ 33) {key : String × String} (hroom : needBytes n ≤ s.deviceFree key) :
    saturatingSub (s.deviceFree key) (needBytes n) = s.deviceFree key - n * gib := by
  have hle := hfree key
  have htrack := h.free key
  have hocc := occupied_nonneg ps key
  have hneed : 0 ≤ (n : Int) * gib := Int.mul_nonneg (Int.natCast_nonneg _) (by decide)
  rw [needBytes_of_lt hsize] at hroom ⊢
  -- the difference lies between zero and what the view reported
  unfold saturatingSub
  rw [Int.min_eq_left (by omega), Int.max_eq_right (by omega)]

theorem Tracks.step (hfree : ∀ key, view.deviceFree key ≤ i64Max) (hsize : disk.minSizeGib < 2 ^ 33)
    (h : Tracks view s ps) (hstep : placeDisk clusterId view s disk = some (s', p)) : Tracks view s' (ps ++ [p]) := by
  obtain ⟨pool, dev, -, hroom, -, -, hmin, hkey, -, hnext⟩ := placeDisk_some hstep
  rw [← hkey] at hroom
  rw [h.sub_exact hfree hsize hroom] at hnext
  rw [needBytes_of_lt hsize] at hroom
  constructor
  · intro key
    rw [occupied_append, occupied_singleton, hmin, hnext]
    by_cases hk : p.key = key
    · rw [← hk, if_pos rfl, update_self, h.free]
      omega
    · rw [if_neg hk, update_of_ne (Ne.symm hk), h.free]
      omega
  · intro q hq
    rw [hnext]
    by_cases hk : q.key = p.key
    · rw [hk, update_self]
      omega
    · rw [update_of_ne hk]
      rcases mem_append.mp hq with hold | hnew
      · exact h.nonneg q hold
      · rw [mem_singleton.mp hnew] at hk
        exact absurd rfl hk

/-- The invariant of the loop, from its start on. -/
theorem tracks_run (hfree : ∀ key, view.deviceFree key ≤ i64Max) (hsize : ∀ d ∈ disks, d.minSizeGib < 2 ^ 33)
    (hrun : Loop.run (placeDisk clusterId view) view.diskLoop disks = some (s, ps)) : Tracks view s ps :=
  Loop.run_invariant (J := fun s ps => Tracks view s ps) (fun hd htrack => htrack.step hfree (hsize _ hd))
    Tracks.start hrun

end Room

variable {clusterId : ClusterId} {view : HostStorageView} {disks : List StorageDisk} {ps : List DiskPlacement}

theorem pickDiskPlacements_some : pickDiskPlacements clusterId view disks = some ps ↔
    ∃ s, Loop.run (placeDisk clusterId view) view.diskLoop disks = some (s, ps) := by
  unfold pickDiskPlacements
  rw [placeDisks_eq_run, Option.map_eq_some_iff]
  simp only [Prod.exists, exists_eq_right]
  rfl

/-- The placements are numbered in the order of the disks. -/
theorem diskIndex_of_pick (h : pickDiskPlacements clusterId view disks = some ps) :
    ps.map (·.diskIndex) = List.range ps.length := by
  obtain ⟨s, hrun⟩ := pickDiskPlacements_some.mp h
  refine (Loop.run_invariant (J := fun s ps => s.idx = ps.length ∧ ps.map (·.diskIndex) = List.range ps.length)
    (fun _ hnumbered hstep => ?_) ⟨rfl, rfl⟩ hrun).2
  obtain ⟨hidx, hnext⟩ := idx_of_placeDisk hstep
  rw [map_append, hnumbered.2, length_append, length_singleton, range_succ, map_singleton,
    hidx, hnext, hnumbered.1]
  exact ⟨rfl, rfl⟩

theorem bytesOn_concat (ps : List DiskPlacement) (p : DiskPlacement) (key : String × String) :
    bytesOn (ps ++ [p]) key = bytesOn ps key + if p.key = key then needBytes p.minSizeGib else 0 := by
  unfold bytesOn
  rw [filter_append, map_append, sum_append]
  congr 1
  show bytesOn [p] key = _
  rw [bytesOn_cons]
  exact Int.add_zero _

/-! ## The result -/

/-- The room of a device once `placements` are made. -/
def DeviceView.roomAfter (dev : DeviceView) (pool : PoolView) (placements : List DiskPlacement) : Int :=
  dev.freeBytes - occupied placements (pool.name, dev.deviceId)

/-- The placement is of this disk, on an eligible device. -/
def HostStorageView.PlacedOn (view : HostStorageView) (disk : StorageDisk) (p : DiskPlacement) : Prop :=
  p.minSizeGib = disk.minSizeGib ∧ DiskPurpose.tryFrom disk.purpose = some p.purpose ∧
    ∃ pool dev, view.Eligible disk pool dev ∧ p.key = (pool.name, dev.deviceId)

/-- The placement is on an eligible device of the most preferred pool that has the room, when `earlier` are made. -/
def HostStorageView.MostPreferred (view : HostStorageView) (disk : StorageDisk) (earlier : List DiskPlacement)
    (p : DiskPlacement) : Prop :=
  ∃ pool dev, view.Eligible disk pool dev ∧ p.key = (pool.name, dev.deviceId) ∧
    ∀ pool' dev', view.Eligible disk pool' dev' → (disk.minSizeGib : Int) * gib ≤ dev'.roomAfter pool' earlier →
      disk.wants.preference pool'.labels ≤ disk.wants.preference pool.labels

/-- The free map at an eligible device is the room that the earlier placements have left. -/
theorem Tracks.room {s : DiskLoop} (h : Tracks view s ps)
    (hkeys : (view.slots.map HostStorageView.key).Nodup) {disk : StorageDisk}
    (helig : view.Eligible disk pool dev) : s.deviceFree (pool.name, dev.deviceId) = dev.roomAfter pool ps := by
  rw [h.free, HostStorageView.deviceFree_of_mem hkeys helig.listed helig.device]
  rfl

/-- What is placed on a device keeps to its free bytes. -/
theorem occupied_le (hkeys : (view.slots.map HostStorageView.key).Nodup)
    (hfree : ∀ pool ∈ view.pools, ∀ dev ∈ pool.devices, dev.freeBytes ≤ i64Max)
    (hsize : ∀ d ∈ disks, d.minSizeGib < 2 ^ 33) (hps : pickDiskPlacements clusterId view disks = some ps)
    (hpool : pool ∈ view.pools) (hdev : dev ∈ pool.devices) {p : DiskPlacement} (hp : p ∈ ps)
    (hkey : p.key = (pool.name, dev.deviceId)) : occupied ps (pool.name, dev.deviceId) ≤ dev.freeBytes := by
  obtain ⟨s, hrun⟩ := pickDiskPlacements_some.mp hps
  have htrack := tracks_run (HostStorageView.deviceFree_le hfree) hsize hrun
  have hnonneg := htrack.nonneg p hp
  rw [hkey, htrack.free, HostStorageView.deviceFree_of_mem hkeys hpool hdev] at hnonneg
  omega

/-- The placements are those of the disks, in order. -/
theorem placedOn_of_pick (hps : pickDiskPlacements clusterId view disks = some ps) :
    List.Forall₂ view.PlacedOn disks ps := by
  obtain ⟨s, hrun⟩ := pickDiskPlacements_some.mp hps
  apply Loop.forall₂_run _ hrun
  intro s s' d p _ hstep
  obtain ⟨pool, dev, helig, -, -, htry, hmin, hkey, -⟩ := placeDisk_some hstep
  exact ⟨hmin, htry, pool, dev, helig, hkey⟩

theorem placed_of_pick (hps : pickDiskPlacements clusterId view disks = some ps) :
    ∀ p ∈ ps, ∃ d ∈ disks, view.PlacedOn d p := by
  have hplaced := placedOn_of_pick hps
  clear hps
  induction hplaced with
  | nil => exact nofun
  | cons hfirst _ ih =>
    intro p hp
    rcases mem_cons.mp hp with rfl | hp
    · exact ⟨_, mem_cons_self, hfirst⟩
    · obtain ⟨d, hd, hplace⟩ := ih p hp
      exact ⟨d, mem_cons_of_mem _ hd, hplace⟩

/-- **The disks of one request keep to what is left of each device**, as the loop updates it. -/
theorem bytesOn_pick_le (hps : pickDiskPlacements clusterId view disks = some ps) {key : String × String}
    (hfree : 0 ≤ view.deviceFree key) : bytesOn ps key ≤ view.deviceFree key := by
  obtain ⟨s, hrun⟩ := pickDiskPlacements_some.mp hps
  -- a placement takes its bytes off the free map, which stays nonnegative
  have hleft := Loop.run_invariant (J := fun (s : DiskLoop) ps =>
    0 ≤ s.deviceFree key ∧ bytesOn ps key + s.deviceFree key ≤ view.deviceFree key) (fun _ hs hstep => ?_)
    ⟨hfree, Int.le_of_eq (Int.zero_add _)⟩ hrun
  · omega
  obtain ⟨pool, dev, -, hroom, -, -, hmin, hkey, -, hnext⟩ := placeDisk_some hstep
  rw [← hkey] at hroom
  have hsub := saturatingSub_le hroom
  rw [bytesOn_concat, hnext, hmin]
  split
  · rename_i hk
    subst hk
    rw [update_self]
    omega
  · rename_i hk
    rw [update_of_ne (Ne.symm hk)]
    omega

/-- **`pick_disk_placements` is correct.** It returns one placement per disk, in order, each on an eligible device
    of the most preferred pool that had the room, within the free bytes of every device; and it returns nothing iff
    some disk finds no eligible device with the room after the earlier ones. -/
theorem disk_placements_correct (clusterId : ClusterId) (hkeys : (view.slots.map HostStorageView.key).Nodup)
    (hfree : ∀ pool ∈ view.pools, ∀ dev ∈ pool.devices, dev.freeBytes ≤ i64Max)
    (hpurpose : ∀ d ∈ disks, (DiskPurpose.tryFrom d.purpose).isSome = true)
    (hsize : ∀ d ∈ disks, d.minSizeGib < 2 ^ 33) (hweights : ∀ d ∈ disks, d.wants.Weighable) :
    (∀ ps, pickDiskPlacements clusterId view disks = some ps →
      List.Forall₂ view.PlacedOn disks ps ∧
      (∀ pool ∈ view.pools, ∀ dev ∈ pool.devices, (∃ p ∈ ps, p.key = (pool.name, dev.deviceId)) →
        occupied ps (pool.name, dev.deviceId) ≤ dev.freeBytes) ∧
      ∀ pre d post earlier p later, disks = pre ++ d :: post → ps = earlier ++ p :: later →
        earlier.length = pre.length → view.MostPreferred d earlier p) ∧
    (pickDiskPlacements clusterId view disks = none ↔
      ∃ pre d post ps, disks = pre ++ d :: post ∧ pickDiskPlacements clusterId view pre = some ps ∧
        ∀ pool dev, view.Eligible d pool dev → dev.roomAfter pool ps < (d.minSizeGib : Int) * gib) := by
  have hmax := HostStorageView.deviceFree_le hfree
  constructor
  · intro ps hps
    obtain ⟨s, hrun⟩ := pickDiskPlacements_some.mp hps
    refine ⟨placedOn_of_pick hps, ?_, ?_⟩
    · rintro pool hpool dev hdev ⟨p, hp, hkey⟩
      exact occupied_le hkeys hfree hsize hps hpool hdev hp hkey
    · rintro pre d post earlier p later rfl rfl hlen
      obtain ⟨s₁, s₂, hpre, hstep⟩ := Loop.run_at hrun hlen
      obtain ⟨pool, dev, helig, -, hbest, -, -, hkey, -⟩ := placeDisk_some hstep
      have htrack := tracks_run hmax (fun d' hd' => hsize d' (mem_append_left _ hd')) hpre
      have hd : d ∈ pre ++ d :: post := mem_append_right _ mem_cons_self
      refine ⟨pool, dev, helig, hkey, fun pool' dev' helig' hroom => ?_⟩
      rw [← htrack.room hkeys helig', ← needBytes_of_lt (hsize d hd)] at hroom
      have hle := DiskScore.prefers_le (hbest _ (mem_diskCandidates.mpr ⟨pool', dev', helig', hroom, rfl⟩))
      rw [← LabelSelector.score_eq (hweights d hd), ← LabelSelector.score_eq (hweights d hd)]
      exact hle
  · rw [show pickDiskPlacements clusterId view disks = _ from placeDisks_eq_run 0, Option.map_eq_none_iff,
      Loop.run_eq_none_iff]
    simp only [pickDiskPlacements_some, placeDisk_eq_none]
    constructor
    · rintro ⟨pre, d, post, s, ps, rfl, hpre, hnone⟩
      have hd : d ∈ pre ++ d :: post := mem_append_right _ mem_cons_self
      refine ⟨pre, d, post, ps, rfl, ⟨s, hpre⟩, fun pool dev helig => ?_⟩
      have htrack := tracks_run hmax (fun d' hd' => hsize d' (mem_append_left _ hd')) hpre
      rcases hnone with hbad | hfull
      · exact absurd hbad (Option.isSome_iff_ne_none.mp (hpurpose d hd))
      · rw [← htrack.room hkeys helig, ← needBytes_of_lt (hsize d hd)]
        exact hfull pool dev helig
    · rintro ⟨pre, d, post, ps, rfl, ⟨s, hpre⟩, hfull⟩
      have hd : d ∈ pre ++ d :: post := mem_append_right _ mem_cons_self
      refine ⟨pre, d, post, s, ps, rfl, hpre, .inr fun pool dev helig => ?_⟩
      have htrack := tracks_run hmax (fun d' hd' => hsize d' (mem_append_left _ hd')) hpre
      rw [htrack.room hkeys helig, needBytes_of_lt (hsize d hd)]
      exact hfull pool dev helig

/-- Two devices in a fast pool and one in a slow one. -/
def twoPools : HostStorageView where
  pools :=
    [⟨"slow", "lvm-linear", [("tier", "slow")], 20 * gib, 20 * gib, [⟨"sdc", 20 * gib, 20 * gib, true, []⟩]⟩,
      ⟨"fast", "lvm-linear", [("tier", "fast")], 9 * gib, 9 * gib,
        [⟨"sda", 5 * gib, 5 * gib, true, []⟩, ⟨"sdb", 4 * gib, 4 * gib, true, []⟩]⟩]

/-- Two disks that would rather be in the fast pool; one of them is too large for what is left of it. -/
def threeDisks : List StorageDisk :=
  [3, 4, 5].map fun size =>
    { minSizeGib := size
      selector := some { prefers := [⟨"tier", "fast", 10⟩] }
      purpose := DiskPurpose.replicated.toI32 }

theorem disk_placements_correct_twoPools :
    (twoPools.slots.map HostStorageView.key).Nodup ∧ (∀ d ∈ threeDisks, d.minSizeGib < 2 ^ 33) ∧
      ∃ ps, pickDiskPlacements "c" twoPools threeDisks = some ps ∧
        ps.map (·.deviceId) = ["sdb", "sda", "sdc"] ∧ List.Forall₂ twoPools.PlacedOn threeDisks ps := by
  have hkeys : (twoPools.slots.map HostStorageView.key).Nodup := by decide +kernel
  have hsize : ∀ d ∈ threeDisks, d.minSizeGib < 2 ^ 33 := by decide +kernel
  have hcorrect := disk_placements_correct "c" hkeys (by decide +kernel)
    (by decide +kernel : ∀ d ∈ threeDisks, (DiskPurpose.tryFrom d.purpose).isSome = true) hsize (by decide +kernel)
  obtain ⟨ps, hps⟩ : ∃ ps, pickDiskPlacements "c" twoPools threeDisks = some ps :=
    Option.isSome_iff_exists.mp (by decide +kernel)
  have hdevices : (pickDiskPlacements "c" twoPools threeDisks).map (·.map (·.deviceId)) =
      some ["sdb", "sda", "sdc"] := by decide +kernel
  rw [hps] at hdevices
  exact ⟨hkeys, hsize, ps, hps, Option.some.inj hdevices, (hcorrect.1 ps hps).1⟩

end BasisCell
