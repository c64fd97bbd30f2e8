import BasisCell.Controller.Devices

/-!
# `BasisCell.Controller.Scheduling` — what `schedule` promises

The choice of a host against a specification in its own terms: which hosts are `Feasible` for a request, and the
tuple `merit` that the best of them is largest in. Both are about integers and lists, without the `u32`s and the
saturating arithmetic of the code; `Fleet.Fits` says that those lose nothing.

The score counts the replicas and mates of the request's cluster only where the request has a say in them: replicas
for a request with a REPLICATED disk, and neither for a request that names no cluster. A host with fewer replicas
can lose otherwise (`schedule_disregards_replicas`).
-/

namespace BasisCell

open List

/-! ## GPUs -/

/-- The free GPUs of one NVLink group, in order. -/
def groupOf (available : List GpuInfo) (group : Nat) : List GpuInfo :=
  available.filter fun gpu => gpu.nvlinkGroup = group

/-- The group is a real NVLink domain with at least `count` and at least `minGroupSize` free GPUs. -/
def Linked (available : List GpuInfo) (count minGroupSize group : Nat) : Prop :=
  group ≠ 0 ∧ max count minGroupSize ≤ (groupOf available group).length

instance (available : List GpuInfo) (count minGroupSize group : Nat) :
    Decidable (Linked available count minGroupSize group) := inferInstanceAs (Decidable (_ ∧ _))

/-- The ways `gpu_topology_score` ends. -/
inductive GpuChoice (available : List GpuInfo) (count minGroupSize : Nat) : Int × List GpuInfo → Prop
  | linked {group : Nat} (h : Linked available count minGroupSize group) :
      GpuChoice available count minGroupSize (3, (groupOf available group).take count)
  | spread (hno : ∀ group, ¬ Linked available count minGroupSize group) (hmin : minGroupSize = 0)
      (hcount : count ≤ available.length) : GpuChoice available count minGroupSize (1, available.take count)
  | refused (hno : ∀ group, ¬ Linked available count minGroupSize group)
      (hcount : minGroupSize = 0 → available.length < count) : GpuChoice available count minGroupSize (0, [])

section Gpus

variable {groups : List Nat} {available : List GpuInfo} {count minGroupSize : Nat}

/-- A group with a free GPU is one of those the loop visits. -/
theorem mem_groups_of_linked (horder : groups.Perm (available.map (·.nvlinkGroup)).dedup) (hcount : 1 ≤ count)
    {group : Nat} (h : Linked available count minGroupSize group) : group ∈ groups := by
  have hlen := h.2
  have hpos : 0 < (groupOf available group).length := by omega
  obtain ⟨gpu, hgpu⟩ := exists_mem_of_length_pos hpos
  obtain ⟨hmem, hgroup⟩ := mem_filter.mp hgpu
  rw [horder.mem_iff, mem_dedup, mem_map]
  exact ⟨gpu, hmem, of_decide_eq_true hgroup⟩

/-- **Whatever order the groups are visited in, the choice is one of the three.** -/
theorem gpuTopologyScore_choice (minGroupSize : Nat)
    (horder : groups.Perm (available.map (·.nvlinkGroup)).dedup) (hcount : 1 ≤ count) :
    GpuChoice available count minGroupSize (gpuTopologyScore groups available count minGroupSize) := by
  unfold gpuTopologyScore
  dsimp only
  by_cases hmin : 0 < minGroupSize
  · rw [if_pos hmin]
    split
    · rename_i g hfind
      have hg := List.find?_some hfind
      simp only [ne_eq, decide_eq_true_eq] at hg
      exact .linked ⟨hg.1, Nat.max_le.mpr hg.2⟩
    · rename_i hfind
      rw [List.find?_eq_none] at hfind
      refine .refused (fun group hlinked => ?_) (fun h => absurd h (Nat.pos_iff_ne_zero.mp hmin))
      have hskip := hfind group (mem_groups_of_linked horder hcount hlinked)
      simp only [ne_eq, decide_eq_true_eq, not_and] at hskip
      exact hskip hlinked.1 (le_of_max_le_left hlinked.2) (le_of_max_le_right hlinked.2)
  · rw [if_neg hmin]
    have hzero : minGroupSize = 0 := Nat.eq_zero_of_not_pos hmin
    split
    · rename_i g hfind
      have hg := List.find?_some hfind
      simp only [ne_eq, decide_eq_true_eq] at hg
      refine .linked ⟨hg.1, ?_⟩
      rw [hzero, Nat.max_zero]
      exact hg.2
    · rename_i hfind
      rw [List.find?_eq_none] at hfind
      have hno : ∀ group, ¬ Linked available count minGroupSize group := by
        intro group hlinked
        have hskip := hfind group (mem_groups_of_linked horder hcount hlinked)
        simp only [ne_eq, decide_eq_true_eq, not_and] at hskip
        exact hskip hlinked.1 (le_of_max_le_left hlinked.2)
      by_cases hlen : count ≤ available.length
      · rw [if_pos hlen]
        exact .spread hno hzero hlen
      · rw [if_neg hlen]
        exact .refused hno fun _ => not_le.mp hlen

theorem group_of_mem_take {group : Nat} {gpu : GpuInfo} (h : gpu ∈ (groupOf available group).take count) :
    gpu.nvlinkGroup = group := of_decide_eq_true (mem_filter.mp (mem_of_mem_take h)).2

/-- As many as asked for, out of the free ones and in their order; or none. -/
theorem GpuChoice.taken {r : Int × List GpuInfo} (h : GpuChoice available count minGroupSize r) :
    r.2 = [] ∨ (r.2.length = count ∧ r.2.Sublist available) := by
  cases h with
  | linked h =>
    refine .inr ⟨?_, (take_sublist _ _).trans filter_sublist⟩
    rw [length_take, Nat.min_eq_left (le_of_max_le_left h.2)]
  | spread _ _ hcount =>
    refine .inr ⟨?_, take_sublist _ _⟩
    rw [length_take, Nat.min_eq_left hcount]
  | refused => exact .inl rfl

theorem take_ne_nil {l : List GpuInfo} (hcount : 1 ≤ count) (hlen : count ≤ l.length) : l.take count ≠ [] := by
  intro hnil
  have hlength := congrArg List.length hnil
  rw [length_take, Nat.min_eq_left hlen, length_nil] at hlength
  omega

/-- **GPU selection is exact**, in every order of the group map. -/
theorem gpu_selection_exact (count minGroupSize : Nat) (hdistinct : (available.map (·.pciAddress)).Nodup)
    (horder : groups.Perm (available.map (·.nvlinkGroup)).dedup) (hcount : 1 ≤ count) :
    let (score, selected) := gpuTopologyScore groups available count minGroupSize
    (selected = [] ∨
      (selected.length = count ∧ (selected.map (·.pciAddress)).Nodup ∧ ∀ gpu ∈ selected, gpu ∈ available)) ∧
    (0 < minGroupSize →
      (selected ≠ [] ↔ ∃ group, Linked available count minGroupSize group) ∧
      (selected ≠ [] → ∃ group, Linked available count minGroupSize group ∧
        ∀ gpu ∈ selected, gpu.nvlinkGroup = group)) ∧
    (minGroupSize = 0 →
      (selected ≠ [] ↔ count ≤ available.length) ∧
      ((∃ group, Linked available count 0 group) → ∃ group, Linked available count 0 group ∧
        ∀ gpu ∈ selected, gpu.nvlinkGroup = group)) ∧
    (score = 3 ↔ selected ≠ [] ∧ ∃ group, Linked available count minGroupSize group ∧
      ∀ gpu ∈ selected, gpu.nvlinkGroup = group) := by
  have hchoice := gpuTopologyScore_choice minGroupSize horder hcount
  generalize gpuTopologyScore groups available count minGroupSize = r at hchoice
  have htaken := hchoice.taken
  refine ⟨htaken.imp_right fun h => ⟨h.1, (h.2.map _).nodup hdistinct, fun gpu hgpu => h.2.subset hgpu⟩, ?_⟩
  cases hchoice with
  | @linked group h =>
    have hne := take_ne_nil hcount (le_of_max_le_left h.2)
    have hall : ∀ gpu ∈ (groupOf available group).take count, gpu.nvlinkGroup = group :=
      fun gpu hgpu => group_of_mem_take hgpu
    refine ⟨fun _ => ⟨⟨fun _ => ⟨group, h⟩, fun _ => hne⟩, fun _ => ⟨group, h, hall⟩⟩, fun hzero => ?_,
      ⟨fun _ => ⟨hne, group, h, hall⟩, fun _ => rfl⟩⟩
    subst hzero
    have hfits : count ≤ available.length := (le_of_max_le_left h.2).trans (length_filter_le _ _)
    exact ⟨⟨fun _ => hfits, fun _ => hne⟩, fun _ => ⟨group, h, hall⟩⟩
  | spread hno hmin hfits =>
    have hne := take_ne_nil hcount hfits
    refine ⟨fun hpos => absurd hmin (Nat.pos_iff_ne_zero.mp hpos), fun hzero => ⟨⟨fun _ => hfits, fun _ => hne⟩, ?_⟩,
      ⟨fun h : (1 : Int) = 3 => absurd h (by decide), fun ⟨_, group, hlinked, _⟩ => absurd hlinked (hno group)⟩⟩
    rintro ⟨group, hlinked⟩
    exact absurd (hzero ▸ hlinked) (hno group)
  | refused hno hfew =>
    refine ⟨fun _ => ⟨⟨fun h => absurd rfl h, fun ⟨group, hlinked⟩ => absurd hlinked (hno group)⟩,
        fun h => absurd rfl h⟩, fun hzero => ⟨⟨fun h => absurd rfl h, fun hfits => ?_⟩, ?_⟩,
      ⟨fun h : (0 : Int) = 3 => absurd h (by decide), fun h => absurd rfl h.1⟩⟩
    · exact absurd (hfew hzero) (not_lt.mpr hfits)
    · rintro ⟨group, hlinked⟩
      exact absurd (hzero ▸ hlinked) (hno group)

end Gpus

/-- Two linked GPUs, one of another domain, and one that is on no NVLink. -/
def fourGpus : List GpuInfo :=
  [{ pciAddress := "01:00.0" }, { pciAddress := "02:00.0", nvlinkGroup := 7 },
    { pciAddress := "03:00.0", nvlinkGroup := 9 }, { pciAddress := "04:00.0", nvlinkGroup := 7 }]

theorem gpu_selection_exact_fourGpus :
    (fourGpus.map (·.pciAddress)).Nodup ∧ [9, 0, 7].Perm (fourGpus.map (·.nvlinkGroup)).dedup ∧
      ∃ group, Linked fourGpus 2 0 group ∧
        ∀ gpu ∈ (gpuTopologyScore [9, 0, 7] fourGpus 2 0).2, gpu.nvlinkGroup = group := by
  have hdistinct : (fourGpus.map (·.pciAddress)).Nodup := by decide +kernel
  have horder : [9, 0, 7].Perm (fourGpus.map (·.nvlinkGroup)).dedup := by decide +kernel
  have hexact := gpu_selection_exact 2 0 hdistinct horder (by decide)
  exact ⟨hdistinct, horder, (hexact.2.2.1 rfl).2 ⟨7, by decide +kernel⟩⟩

/-! ## Hosts -/

/-- What is left of a total, zero where more is used than there is. -/
def free (total used : Int) : Int := max 0 (total - used)

namespace Fleet

/-- The GPUs of a host that no VM has. -/
def freeGpus (fleet : Fleet) (host : HostRow) : List GpuInfo :=
  host.gpuInventory.filter fun g => g.pciAddress ∉ (fleet.usageByHost host.id).assignedPci

def freeCpu (fleet : Fleet) (host : HostRow) : Int :=
  free (fleet.effectiveCpu host.totalCpu) (fleet.usageByHost host.id).usedCpu

def freeMemory (fleet : Fleet) (host : HostRow) : Int :=
  free host.totalMemoryMib (fleet.usageByHost host.id).usedMemoryMib

def freeRootfs (fleet : Fleet) (host : HostRow) : Int :=
  free (host.rootfsTotalBytes.tdiv gib) (fleet.usageByHost host.id).usedRootfsGib

def freeData (fleet : Fleet) (host : HostRow) : Int :=
  free (host.dataTotalBytes.tdiv gib) (fleet.usageByHost host.id).usedDataGib

end Fleet

/-- The GPUs can be supplied: from one domain that is large enough if the request asks for that. -/
def Supplies (freeGpus : List GpuInfo) (req : ScheduleRequest) : Prop :=
  req.gpus = 0 ∨ (0 < req.minGroupSize ∧ ∃ group, Linked freeGpus req.gpus req.minGroupSize group) ∨
    (req.minGroupSize = 0 ∧ req.gpus ≤ freeGpus.length)

/-- The host can take the request. -/
structure Fleet.Feasible (fleet : Fleet) (req : ScheduleRequest) (host : HostRow) : Prop where
  labels : req.placement.Meets host.labels
  cpu : (req.cpu : Int) ≤ fleet.freeCpu host
  memory : (req.memoryMib : Int) ≤ fleet.freeMemory host
  rootfs : (req.rootfsGib : Int) ≤ fleet.freeRootfs host
  data : (req.dataGib : Int) ≤ fleet.freeData host
  gpus : Supplies (fleet.freeGpus host) req
  disks : (selectDisks (fleet.storageByHost host.id) req).isSome = true

/-- The NVLink groups of some GPUs. -/
def nvlinkGroups (gpus : List GpuInfo) : List Nat := gpus.map (·.nvlinkGroup)

/-- How well the GPUs hang together: 3 for one domain, 1 for any, 0 for none. -/
def gpuMerit (freeGpus : List GpuInfo) (req : ScheduleRequest) : Int :=
  if req.gpus = 0 then 0
  else if ∃ group ∈ nvlinkGroups freeGpus, Linked freeGpus req.gpus req.minGroupSize group then 3
  else 1

/-- The tuple of a host, most significant first, for given numbers of replicas and cluster mates on it. -/
def Fleet.tuple (fleet : Fleet) (req : ScheduleRequest) (replicas mates : Int) (host : HostRow) :
    Int ×ₗ Int ×ₗ Nat ×ₗ Int ×ₗ Int ×ₗ Int :=
  toLex (-replicas, toLex (gpuMerit (fleet.freeGpus host) req, toLex (req.placement.preference host.labels,
    toLex (-mates, toLex (-host.rank, -(fleet.freeCpu host - req.cpu + (fleet.freeMemory host - req.memoryMib)))))))

/-- The replicas that count for a request: those of its cluster, if it has a REPLICATED disk itself. -/
def Fleet.replicas (fleet : Fleet) (req : ScheduleRequest) (host : HostRow) : Int :=
  if (req.storageDisks.any fun d => d.purpose = DiskPurpose.replicated.toI32) ∧ req.clusterId ≠ "" then
    fleet.replicatedCountByHost host.id
  else 0

/-- The cluster mates that count for a request. -/
def Fleet.mates (fleet : Fleet) (req : ScheduleRequest) (host : HostRow) : Int :=
  if req.clusterId = "" then 0 else (fleet.usageByHost host.id).vmsByCluster req.clusterId

/-- What the chosen host is largest in. -/
def Fleet.merit (fleet : Fleet) (req : ScheduleRequest) (host : HostRow) : Int ×ₗ Int ×ₗ Nat ×ₗ Int ×ₗ Int ×ₗ Int :=
  fleet.tuple req (fleet.replicas req host) (fleet.mates req host) host

/-! ### Candidates -/

/-- Nothing is cut or wraps: what is left on a host fits in a `u32`, its rank can be negated, and the weights of the
    request can be summed. -/
structure Fleet.Fits (fleet : Fleet) (req : ScheduleRequest) : Prop where
  cpu : ∀ host ∈ fleet.hosts, fleet.freeCpu host < 2 ^ 32
  memory : ∀ host ∈ fleet.hosts, fleet.freeMemory host < 2 ^ 32
  rootfs : ∀ host ∈ fleet.hosts, fleet.freeRootfs host < 2 ^ 32
  data : ∀ host ∈ fleet.hosts, fleet.freeData host < 2 ^ 32
  rank : ∀ host ∈ fleet.hosts, -i64Max ≤ host.rank ∧ host.rank ≤ i64Max
  weights : req.placement.Weighable

theorem remaining_eq {total used : Int} (h : free total used < 2 ^ 32) :
    (remaining total used : Int) = free total used := by
  unfold free at h ⊢
  unfold remaining saturatingSub i64Max
  omega

theorem wrapI64_neg {z : Int} (hl : -i64Max ≤ z) (hu : z ≤ i64Max) : wrapI64 (-z) = -z := by
  unfold i64Max at hl hu
  unfold wrapI64
  omega

section Candidates

variable {fleet : Fleet} {iterate : List Nat → List Nat} {req : ScheduleRequest} {host : HostRow}

theorem exists_linked_mem {available : List GpuInfo} {count minGroupSize : Nat} (hcount : 1 ≤ count) :
    (∃ group ∈ nvlinkGroups available, Linked available count minGroupSize group) ↔
      ∃ group, Linked available count minGroupSize group := by
  constructor
  · rintro ⟨group, -, h⟩
    exact ⟨group, h⟩
  · rintro ⟨group, h⟩
    have hmem := mem_groups_of_linked (List.Perm.refl _) hcount h
    exact ⟨group, mem_dedup.mp hmem, h⟩

theorem choice_of_iterate (hiterate : ∀ l, (iterate l).Perm l) (available : List GpuInfo) (hgpus : 0 < req.gpus) :
    GpuChoice available req.gpus req.minGroupSize
      (gpuTopologyScore (iterate (available.map (·.nvlinkGroup)).dedup) available req.gpus req.minGroupSize) :=
  gpuTopologyScore_choice _ (hiterate _) hgpus

/-- The GPUs that the loop selects, and the score it gives them. -/
theorem selectGpus_some (hiterate : ∀ l, (iterate l).Perm l) {available : List GpuInfo} {score : Int}
    {selected : List GpuInfo} (h : selectGpus iterate available req = some (score, selected)) :
    Supplies available req ∧ score = gpuMerit available req ∧ selected.length = req.gpus ∧
      selected.Sublist available := by
  unfold selectGpus at h
  unfold gpuMerit Supplies
  by_cases hgpus : 0 < req.gpus
  · rw [if_pos hgpus] at h
    rw [if_neg (Nat.pos_iff_ne_zero.mp hgpus)]
    dsimp only at h
    split at h
    · cases h
    · rename_i hne
      have hchoice := choice_of_iterate hiterate available hgpus
      rw [Option.some.inj h] at hchoice hne
      obtain ⟨hlen, hsub⟩ := hchoice.taken.resolve_left hne
      cases hchoice with
      | @linked group hlinked =>
        refine ⟨.inr ?_, (if_pos ((exists_linked_mem hgpus).mpr ⟨group, hlinked⟩)).symm, hlen, hsub⟩
        rcases Nat.eq_zero_or_pos req.minGroupSize with hzero | hpos
        · exact .inr ⟨hzero, (le_of_max_le_left hlinked.2).trans (length_filter_le _ _)⟩
        · exact .inl ⟨hpos, group, hlinked⟩
      | spread hno hmin hcount =>
        refine ⟨.inr (.inr ⟨hmin, hcount⟩), (if_neg ?_).symm, hlen, hsub⟩
        rintro ⟨group, -, hlinked⟩
        exact hno group hlinked
      | refused => exact absurd rfl hne
  · rw [if_neg hgpus] at h
    cases h
    have hzero : req.gpus = 0 := Nat.eq_zero_of_not_pos hgpus
    exact ⟨.inl hzero, (if_pos hzero).symm, hzero.symm, nil_sublist _⟩

theorem selectGpus_ne_none (hiterate : ∀ l, (iterate l).Perm l) {available : List GpuInfo}
    (h : Supplies available req) : selectGpus iterate available req ≠ none := by
  unfold selectGpus
  by_cases hgpus : 0 < req.gpus
  · rw [if_pos hgpus]
    dsimp only
    have hchoice := choice_of_iterate hiterate available hgpus
    generalize gpuTopologyScore _ available req.gpus req.minGroupSize = r at hchoice
    have hne : r.2 ≠ [] := by
      cases hchoice with
      | linked hlinked => exact take_ne_nil hgpus (le_of_max_le_left hlinked.2)
      | spread _ _ hcount => exact take_ne_nil hgpus hcount
      | refused hno hfew =>
        rcases h with hzero | ⟨-, group, hlinked⟩ | ⟨hzero, hcount⟩
        · exact absurd hzero (Nat.pos_iff_ne_zero.mp hgpus)
        · exact absurd hlinked (hno group)
        · exact absurd (hfew hzero) (not_lt.mpr hcount)
    rw [if_neg hne]
    exact Option.some_ne_none _
  · rw [if_neg hgpus]
    exact Option.some_ne_none _

theorem fits_iff (hfits : fleet.Fits req) (hhost : host ∈ fleet.hosts) :
    (Available.ofHost fleet.effectiveCpu host (fleet.usageByHost host.id)).fits req = true ↔
      (req.cpu : Int) ≤ fleet.freeCpu host ∧ (req.memoryMib : Int) ≤ fleet.freeMemory host ∧
        (req.rootfsGib : Int) ≤ fleet.freeRootfs host ∧ (req.dataGib : Int) ≤ fleet.freeData host := by
  have hcpu := remaining_eq (hfits.cpu host hhost)
  have hmemory := remaining_eq (hfits.memory host hhost)
  have hrootfs := remaining_eq (hfits.rootfs host hhost)
  have hdata := remaining_eq (hfits.data host hhost)
  unfold Fleet.freeCpu Fleet.freeMemory Fleet.freeRootfs Fleet.freeData
  rw [← hcpu, ← hmemory, ← hrootfs, ← hdata]
  unfold Available.fits Available.ofHost
  rw [decide_eq_true_iff]
  simp only [Int.ofNat_le]

/-- The body of the loop, as the code computes it. -/
theorem candidate_inv {c : Candidate} (h : fleet.candidate iterate req host = some c) :
    c.host = host ∧ req.placement.satisfies host.labels = true ∧
      (Available.ofHost fleet.effectiveCpu host (fleet.usageByHost host.id)).fits req = true ∧
      selectGpus iterate (fleet.freeGpus host) req = some (c.score.gpuScore, c.selectedGpus) ∧
      selectDisks (fleet.storageByHost host.id) req = some c.diskPlacements ∧
      c.score =
        { negativeClusterReplicatedMates := -fleet.replicas req host
          gpuScore := c.score.gpuScore
          prefersScore := req.placement.score host.labels
          negativeClusterMates := -fleet.mates req host
          negativeRank := wrapI64 (-host.rank)
          negativeRemainingAfter :=
            -(Available.ofHost fleet.effectiveCpu host (fleet.usageByHost host.id)).remainingAfter req } := by
  unfold Fleet.candidate at h
  dsimp only at h
  split at h
  · rename_i hpass
    split at h
    · cases h
    · rename_i gpuScore selected hgpus
      obtain ⟨disks, hdisks, rfl⟩ := Option.map_eq_some_iff.mp h
      refine ⟨rfl, hpass.1, hpass.2, hgpus, hdisks, ?_⟩
      unfold Fleet.replicas Fleet.mates
      by_cases hcluster : req.clusterId = ""
      · simp only [hcluster, if_true]
        rfl
      · simp only [hcluster, if_false]
  · cases h

/-- **The body of the loop**: a feasible host becomes a candidate with its merit, any other is passed over. -/
theorem candidate_spec (hiterate : ∀ l, (iterate l).Perm l) (hfits : fleet.Fits req) (hhost : host ∈ fleet.hosts)
    {c : Candidate} (h : fleet.candidate iterate req host = some c) :
    fleet.Feasible req host ∧ c.host = host ∧ c.score.key = fleet.merit req host ∧
      c.selectedGpus.length = req.gpus ∧ c.selectedGpus.Sublist (fleet.freeGpus host) ∧
      selectDisks (fleet.storageByHost host.id) req = some c.diskPlacements := by
  obtain ⟨hsame, hlabels, hroom, hgpus, hdisks, hscore⟩ := candidate_inv h
  obtain ⟨hcpu, hmemory, hrootfs, hdata⟩ := (fits_iff hfits hhost).mp hroom
  obtain ⟨hsupplies, hmerit, hlen, hsub⟩ := selectGpus_some hiterate hgpus
  have hisSome : (selectDisks (fleet.storageByHost host.id) req).isSome = true := by
    rw [hdisks]
    rfl
  refine ⟨⟨LabelSelector.satisfies_iff.mp hlabels, hcpu, hmemory, hrootfs, hdata, hsupplies, hisSome⟩, hsame, ?_, hlen,
    hsub, hdisks⟩
  have hfreeCpu := remaining_eq (hfits.cpu host hhost)
  have hfreeMemory := remaining_eq (hfits.memory host hhost)
  have hafter : -((Available.ofHost fleet.effectiveCpu host (fleet.usageByHost host.id)).remainingAfter req : Int) =
      -(fleet.freeCpu host - req.cpu + (fleet.freeMemory host - req.memoryMib)) := by
    unfold Available.remainingAfter Available.ofHost
    unfold Fleet.freeCpu at hcpu ⊢
    unfold Fleet.freeMemory at hmemory ⊢
    dsimp only
    omega
  have hrank := hfits.rank host hhost
  rw [hscore]
  unfold CandidateScore.key Fleet.merit Fleet.tuple
  dsimp only
  rw [hafter, wrapI64_neg hrank.1 hrank.2, LabelSelector.score_eq hfits.weights, hmerit]

theorem candidate_of_feasible (hiterate : ∀ l, (iterate l).Perm l) (hfits : fleet.Fits req)
    (hhost : host ∈ fleet.hosts) (h : fleet.Feasible req host) : ∃ c, fleet.candidate iterate req host = some c := by
  obtain ⟨disks, hdisks⟩ := Option.isSome_iff_exists.mp h.disks
  obtain ⟨⟨score, selected⟩, hgpus⟩ := Option.ne_none_iff_exists'.mp (selectGpus_ne_none hiterate h.gpus)
  have hpass : req.placement.satisfies host.labels = true ∧
      (Available.ofHost fleet.effectiveCpu host (fleet.usageByHost host.id)).fits req = true :=
    ⟨LabelSelector.satisfies_iff.mpr h.labels, (fits_iff hfits hhost).mpr ⟨h.cpu, h.memory, h.rootfs, h.data⟩⟩
  unfold Fleet.candidate
  unfold Fleet.freeGpus at hgpus
  simp only [hpass, hgpus, hdisks, and_self, if_true, Option.map_some]
  exact ⟨_, rfl⟩

end Candidates

/-! ## The decision -/

section Decision

variable {fleet : Fleet} {iterate : List Nat → List Nat} {req : ScheduleRequest}

/-- The candidates that the winner is chosen from. -/
def Fleet.candidates (fleet : Fleet) (iterate : List Nat → List Nat) (req : ScheduleRequest) : List Candidate :=
  (fleet.hosts.filter (·.healthy)).filterMap (fleet.candidate iterate req)

theorem mem_candidates {c : Candidate} : c ∈ fleet.candidates iterate req ↔
    ∃ host ∈ fleet.hosts, host.healthy = true ∧ fleet.candidate iterate req host = some c := by
  simp only [Fleet.candidates, mem_filterMap, mem_filter, and_assoc]

/-- A decision is the best candidate. -/
theorem schedule_eq_ok {d : ScheduleDecision} (h : fleet.schedule iterate req = .ok d) :
    ∃ c ∈ fleet.candidates iterate req, (∀ c' ∈ fleet.candidates iterate req, c'.score.key ≤ c.score.key) ∧
      d = ⟨c.host.id, c.selectedGpus, c.diskPlacements⟩ := by
  unfold Fleet.schedule at h
  dsimp only at h
  split at h
  · rename_i winner hwinner
    cases h
    refine ⟨winner, mem_reverse.mp (argmax_mem hwinner), fun c hc => ?_, rfl⟩
    exact le_of_mem_argmax (f := fun c : Candidate => c.score.key) (mem_reverse.mpr hc) hwinner
  · split at h <;> cases h

theorem schedule_isOk_iff : (∃ d, fleet.schedule iterate req = .ok d) ↔ fleet.candidates iterate req ≠ [] := by
  constructor
  · rintro ⟨d, hd⟩ hnil
    obtain ⟨c, hc, -⟩ := schedule_eq_ok hd
    rw [hnil] at hc
    cases hc
  · intro hne
    cases hwinner : (fleet.candidates iterate req).reverse.argmax fun c => c.score.key with
    | none => exact absurd (reverse_eq_nil_iff.mp (argmax_eq_none.mp hwinner)) hne
    | some winner =>
      refine ⟨⟨winner.host.id, winner.selectedGpus, winner.diskPlacements⟩, ?_⟩
      unfold Fleet.candidates at hwinner
      unfold Fleet.schedule
      dsimp only
      rw [hwinner]

/-- The requirements are to blame iff there are any and no healthy host meets them. -/
theorem schedule_unsatisfied_iff : (∃ msg, fleet.schedule iterate req = .error (.unsatisfiedRequirements msg)) ↔
    req.placement.requires ≠ [] ∧ ∀ host ∈ fleet.hosts, host.healthy = true → ¬ req.placement.Meets host.labels := by
  have hblame : (∀ h ∈ fleet.hosts.filter (·.healthy), ¬ req.placement.satisfies h.labels = true) ↔
      ∀ host ∈ fleet.hosts, host.healthy = true → ¬ req.placement.Meets host.labels := by
    simp only [mem_filter, and_imp, LabelSelector.satisfies_iff]
  constructor
  · rintro ⟨msg, h⟩
    unfold Fleet.schedule at h
    dsimp only at h
    repeat' split at h
    all_goals cases h
    rename_i hcond
    exact ⟨hcond.2, hblame.mp hcond.1⟩
  · rintro ⟨hsome, hmeets⟩
    have hnil : (fleet.hosts.filter (·.healthy)).filterMap (fleet.candidate iterate req) = [] := by
      rw [filterMap_eq_nil_iff]
      intro host hhost
      unfold Fleet.candidate
      dsimp only
      rw [if_neg]
      exact fun hpass => hblame.mpr hmeets host hhost hpass.1
    unfold Fleet.schedule
    dsimp only
    rw [hnil, reverse_nil, argmax_nil]
    dsimp only
    rw [if_pos ⟨hblame.mpr hmeets, hsome⟩]
    exact ⟨_, rfl⟩

/-- **`schedule` is sound, complete and optimal.** -/
theorem schedule_correct (hids : (fleet.hosts.map (·.id)).Nodup) (hiterate : ∀ l, (iterate l).Perm l)
    (hfits : fleet.Fits req) :
    ((∃ d, fleet.schedule iterate req = .ok d) ↔
      ∃ host ∈ fleet.hosts, host.healthy = true ∧ fleet.Feasible req host) ∧
    (∀ d, fleet.schedule iterate req = .ok d → (∃ host ∈ fleet.hosts, host.id = d.hostId) ∧
      ∀ host ∈ fleet.hosts, host.id = d.hostId →
        host.healthy = true ∧ fleet.Feasible req host ∧
        d.gpus.length = req.gpus ∧ d.gpus.Sublist (fleet.freeGpus host) ∧
        selectDisks (fleet.storageByHost host.id) req = some d.disks ∧
        ∀ other ∈ fleet.hosts, other.healthy = true → fleet.Feasible req other →
          ¬ fleet.merit req host < fleet.merit req other) ∧
    ((∃ msg, fleet.schedule iterate req = .error (.unsatisfiedRequirements msg)) ↔
      req.placement.requires ≠ [] ∧
        ∀ host ∈ fleet.hosts, host.healthy = true → ¬ req.placement.Meets host.labels) := by
  refine ⟨?_, ?_, schedule_unsatisfied_iff⟩
  · rw [schedule_isOk_iff]
    constructor
    · intro hne
      obtain ⟨c, hc⟩ := exists_mem_of_ne_nil _ hne
      obtain ⟨host, hhost, hhealthy, hcand⟩ := mem_candidates.mp hc
      exact ⟨host, hhost, hhealthy, (candidate_spec hiterate hfits hhost hcand).1⟩
    · rintro ⟨host, hhost, hhealthy, hfeasible⟩
      obtain ⟨c, hcand⟩ := candidate_of_feasible hiterate hfits hhost hfeasible
      exact ne_nil_of_mem (mem_candidates.mpr ⟨host, hhost, hhealthy, hcand⟩)
  · intro d hd
    obtain ⟨c, hc, hbest, rfl⟩ := schedule_eq_ok hd
    obtain ⟨winner, hwinner, hhealthy, hcand⟩ := mem_candidates.mp hc
    obtain ⟨hfeasible, hhost, hscore, hlen, hsub, hdisks⟩ := candidate_spec hiterate hfits hwinner hcand
    refine ⟨⟨winner, hwinner, congrArg (·.id) hhost.symm⟩, fun host hmem hid => ?_⟩
    -- ids are distinct, so the host with the decision's id is the winner
    obtain rfl : host = winner := inj_on_of_nodup_map hids hmem hwinner (hid.trans (congrArg (·.id) hhost))
    refine ⟨hhealthy, hfeasible, hlen, hsub, hdisks, fun other hother hup hothers => ?_⟩
    obtain ⟨c', hcand'⟩ := candidate_of_feasible hiterate hfits hother hothers
    obtain ⟨-, -, hscore', -⟩ := candidate_spec hiterate hfits hother hcand'
    rw [← hscore, ← hscore']
    exact not_lt.mpr (hbest c' (mem_candidates.mpr ⟨other, hother, hup, hcand'⟩))

end Decision

/-- Two equal hosts; the one of the better rank has a replica of every cluster. -/
def twoHostFleet : Fleet where
  hosts :=
    [{ id := "a", hostname := "a", totalCpu := 8, totalMemoryMib := 4096, rank := 0, lastHeartbeat := 0 },
      { id := "b", hostname := "b", totalCpu := 8, totalMemoryMib := 4096, rank := 1, lastHeartbeat := 0 }]
  usageByHost := fun _ => {}
  storageByHost := fun _ => {}
  replicatedCountByHost := fun hostId => if hostId = "a" then 1 else 0
  effectiveCpu := id

/-- A small VM without disks of its own. -/
def plainRequest : ScheduleRequest where
  clusterId := "c"
  cpu := 2
  memoryMib := 1024
  rootfsGib := 0
  dataGib := 0
  gpus := 0
  minGroupSize := 0
  placement := {}
  storageDisks := []

theorem twoHostFleet_fits : twoHostFleet.Fits plainRequest where
  cpu := by decide +kernel
  memory := by decide +kernel
  rootfs := by decide +kernel
  data := by decide +kernel
  rank := by decide +kernel
  weights := by decide +kernel

theorem schedule_correct_twoHosts :
    (twoHostFleet.hosts.map (·.id)).Nodup ∧ twoHostFleet.Fits plainRequest ∧
      twoHostFleet.schedule id plainRequest = .ok ⟨"a", [], []⟩ ∧
      ∀ host ∈ twoHostFleet.hosts, host.id = "a" → twoHostFleet.Feasible plainRequest host := by
  have hids : (twoHostFleet.hosts.map (·.id)).Nodup := by decide +kernel
  have hdecision : twoHostFleet.schedule id plainRequest = .ok ⟨"a", [], []⟩ := by decide +kernel
  have hcorrect := schedule_correct hids (fun l => List.Perm.refl l) twoHostFleet_fits
  exact ⟨hids, twoHostFleet_fits, hdecision, fun host hhost hid => ((hcorrect.2.1 _ hdecision).2 host hhost hid).2.1⟩

/-- The replicas on a host say nothing to a request without a REPLICATED disk: the host with a replica wins by rank
    over one without, although its tuple with the replicas counted is the smaller one. -/
theorem schedule_disregards_replicas : ∃ (fleet : Fleet) (iterate : List Nat → List Nat) (req : ScheduleRequest)
    (d : ScheduleDecision), ∃ a ∈ fleet.hosts, ∃ b ∈ fleet.hosts, (fleet.hosts.map (·.id)).Nodup ∧
      (∀ l, (iterate l).Perm l) ∧ fleet.Fits req ∧ req.clusterId ≠ "" ∧
      fleet.schedule iterate req = .ok d ∧ d.hostId = a.id ∧ b.healthy = true ∧ fleet.Feasible req b ∧
      fleet.tuple req (fleet.replicatedCountByHost a.id) ((fleet.usageByHost a.id).vmsByCluster req.clusterId) a <
        fleet.tuple req (fleet.replicatedCountByHost b.id) ((fleet.usageByHost b.id).vmsByCluster req.clusterId) b := by
  refine ⟨twoHostFleet, id, plainRequest, ⟨"a", [], []⟩, _, mem_cons_self, _,
    mem_cons_of_mem _ mem_cons_self, by decide +kernel, fun l => List.Perm.refl l, twoHostFleet_fits, by decide,
    by decide +kernel, rfl, rfl, ⟨?_, ?_, ?_, ?_, ?_, .inl rfl, rfl⟩, ?_⟩
  · exact fun r hr => nomatch hr
  · decide +kernel
  · decide +kernel
  · decide +kernel
  · decide +kernel
  · exact Prod.Lex.toLex_lt_toLex.mpr (.inl (by decide +kernel))

end BasisCell
