import BasisCell.Lib.Lists
import BasisCell.Agent.NetEffects

/-!
# `BasisCell.Agent.Sections` — the two locked sections of the cluster manager

`reconcile` and `tombstone_cluster` hold the lock on `live` from their first line to their last, so to everybody
else each is one step on kernel and memory. `Reconciled` and `Tombstoned` say what the step does: to the clusters
it names, to all others, to the rules of all CIDRs, and to the proxy-ARP entries of the uplink, which are one set
for all clusters. Both always succeed on the kernel of `NetCmd.exec`.
-/

namespace BasisCell.Agent.Network

open Conc Conc.Prog Relational Table List

/-! ## What the agent remembers -/

/-- The agent's entry for a VNI. -/
def Net.entry (s : Net) (v : Nat) : Option ClusterLive := s.live.find fun e => e.vni = v

section Entry

variable {s : Net} {v : Nat} {e : ClusterLive}

theorem Net.entry_eq_some : s.entry v = some e ↔ e ∈ s.live.rows ∧ e.vni = v := by
  unfold entry
  rw [find_eq_some, decide_eq_true_eq]
  intro a b ha hb
  exact (of_decide_eq_true ha).trans (of_decide_eq_true hb).symm

theorem Net.entry_put {k : Kernel} :
    Net.entry { s with kernel := k, live := s.live.put e } v = if v = e.vni then some e else s.entry v := by
  by_cases hv : v = e.vni
  · rw [if_pos hv]
    exact entry_eq_some.mpr ⟨mem_put.mpr (.inr rfl), hv.symm⟩
  · rw [if_neg hv]
    cases hentry : s.entry v with
    | some e' =>
      obtain ⟨hrow, hvni⟩ := entry_eq_some.mp hentry
      refine entry_eq_some.mpr ⟨mem_put.mpr (.inl ⟨hrow, fun hclash => ?_⟩), hvni⟩
      exact hv (hvni.symm.trans hclash)
    | none =>
      refine List.find?_eq_none.mpr fun e' hrow => ?_
      rcases mem_put.mp hrow with ⟨hrow, -⟩ | rfl
      · exact List.find?_eq_none.mp hentry e' hrow
      · simpa using fun h => hv h.symm

/-- `read_bridge_cluster_cidr`, on a kernel. -/
def bridgeCidr (k : Kernel) (v : Nat) : Option String :=
  (((((k.bridges.find fun b => b.vni = v).map (·.addresses)).getD []).filterMap Ipv4Net.parse).head?.map
    fun net => (⟨net.network, net.prefixLen⟩ : Ipv4Net).text)

/-- The entry for a VNI once the bridges of the kernel have been looked at. -/
def Net.remembered (s : Net) (v : Nat) : Option ClusterLive :=
  match s.entry v with
  | some e => some e
  | none => if s.kernel.hasBridge v then some { vni := v, cidr := bridgeCidr s.kernel v } else none

end Entry

/-! ## `reconcile` -/

section Reconcile

variable {spec : NetSpec} {s s' : Net} {desired : List ClusterState}

theorem readBridgeClusterCidr_spec {v : Nat} (h : s.kernel.hasBridge v = true) :
    OnKernel (readBridgeClusterCidr v) s fun cidr k' => cidr = bridgeCidr s.kernel v ∧ k' = s.kernel := by
  refine OnKernel.bind (onKernel_show rfl) ?_
  rintro _ _ ⟨rfl, rfl⟩
  rw [h]
  exact onKernel_pure ⟨rfl, rfl⟩

/-! ### Seeding from the kernel -/

/-- Looking at the bridges `vnis`. -/
structure Seeded (vnis : List Nat) (s s' : Net) : Prop where
  kernel : s'.kernel = s.kernel
  hostId : s'.hostId = s.hostId
  entries : ∀ v, s'.entry v = match s.entry v with
    | some e => some e
    | none => if v ∈ vnis then some { vni := v, cidr := bridgeCidr s.kernel v } else none

variable {s₁ : Net} {c : ClusterState}

theorem seed_spec {done : List Nat} {v : Nat} (h : Seeded done s s₁) (hbridge : s.kernel.hasBridge v = true) :
    Succeeds NetOp.exec (seed v) s₁ fun _ s' => Seeded (done ++ [v]) s s' := by
  unfold seed
  refine Succeeds.bind (succeeds_lift (Q := fun r s' => r = s₁.entry v ∧ s₁ = s') ⟨rfl, rfl⟩) ?_
  rintro _ _ ⟨rfl, rfl⟩
  have hentries := h.entries
  cases hentry : s₁.entry v with
  | some e =>
    refine succeeds_pure ⟨h.kernel, h.hostId, fun u => ?_⟩
    rw [hentries u]
    cases hu : s.entry u with
    | some e' => rfl
    | none =>
      have hmem : u ∈ done ++ [v] ↔ u ∈ done := by
        rw [mem_append, mem_singleton, or_iff_left_iff_imp]
        rintro rfl
        have hv := hentries u
        rw [hentry, hu] at hv
        by_contra hnot
        rw [if_neg hnot] at hv
        cases hv
      simp only [hmem]
  | none =>
    have hread : OnKernel (readBridgeClusterCidr v) s₁ fun cidr k' =>
        cidr = bridgeCidr s.kernel v ∧ k' = s₁.kernel := by
      rw [← h.kernel]
      refine readBridgeClusterCidr_spec ?_
      rw [h.kernel]
      exact hbridge
    refine Succeeds.bind hread ?_
    rintro _ _ ⟨k', rfl, rfl, rfl⟩
    refine succeeds_lift ⟨h.kernel, h.hostId, fun u => ?_⟩
    have hup : Net.entry { s₁ with live := s₁.live.put { vni := v, cidr := bridgeCidr s.kernel v } } u = _ :=
      Net.entry_put (k := s₁.kernel)
    refine hup.trans ?_
    by_cases huv : u = v
    · subst huv
      have hnone : s.entry u = none := by
        cases hu : s.entry u with
        | none => rfl
        | some e' =>
          have hv := hentries u
          rw [hentry, hu] at hv
          cases hv
      simp [hnone]
    · rw [if_neg huv, hentries u]
      simp [huv]

theorem seeds_spec : Succeeds NetOp.exec ((s.kernel.bridges.rows.map (·.vni)).forM seed) s fun _ s' =>
    s'.kernel = s.kernel ∧ s'.hostId = s.hostId ∧ ∀ v, s'.entry v = s.remembered v := by
  have hstart : Seeded [] s s := by
    refine ⟨rfl, rfl, fun v => ?_⟩
    cases s.entry v <;> simp
  refine (succeeds_forM (J := fun done s' => Seeded done s s') ?_ hstart).mono ?_
  · intro done v rest s₁ hvnis hs₁
    refine seed_spec hs₁ (Kernel.hasBridge_iff.mpr ?_)
    have hmem : v ∈ s.kernel.bridges.rows.map (·.vni) := by
      rw [hvnis]
      exact mem_append_right _ mem_cons_self
    exact mem_map.mp hmem
  · rintro _ s' h
    refine ⟨h.kernel, h.hostId, fun v => ?_⟩
    rw [h.entries v, Net.remembered]
    have hiff : v ∈ s.kernel.bridges.rows.map (·.vni) ↔ s.kernel.hasBridge v = true := by
      rw [Kernel.hasBridge_iff, mem_map]
    simp only [hiff]

/-! ### Cluster by cluster -/

/-- What a command says about a VNI: the last word counts. -/
def stated (desired : List ClusterState) (v : Nat) : Option ClusterState :=
  (desired.filter fun c => c.vni = v).getLast?

theorem stated_append {v : Nat} : stated (desired ++ [c]) v = if v = c.vni then some c else stated desired v := by
  unfold stated
  rw [filter_append]
  by_cases hv : c.vni = v
  · simp [hv]
  · have hv' : ¬v = c.vni := fun h => hv h.symm
    simp [hv, hv']

theorem stated_eq_none_iff {v : Nat} : stated desired v = none ↔ v ∉ desired.map (·.vni) := by
  unfold stated
  rw [List.getLast?_eq_none_iff, filter_eq_nil_iff]
  simp

theorem mem_of_stated {v : Nat} (h : stated desired v = some c) : c ∈ desired ∧ c.vni = v := by
  have hmem := mem_of_getLast? h
  rw [mem_filter, decide_eq_true_eq] at hmem
  exact hmem

/-- A command that lists a VNI once says about it what it lists. -/
theorem stated_iff (h : (desired.map (·.vni)).Nodup) {v : Nat} :
    stated desired v = some c ↔ c ∈ desired ∧ c.vni = v := by
  refine ⟨mem_of_stated, ?_⟩
  rintro ⟨hmem, rfl⟩
  cases hlast : stated desired c.vni with
  | none => exact absurd (mem_map_of_mem hmem) (stated_eq_none_iff.mp hlast)
  | some c' =>
    obtain ⟨hmem', hvni⟩ := mem_of_stated hlast
    rw [inj_on_of_nodup_map h hmem' hmem hvni]

/-- What the agent remembers of a VNI after a reconcile. -/
def Net.expected (s : Net) (desired : List ClusterState) (v : Nat) : Option ClusterLive :=
  match stated desired v with
  | some c => some (clusterLive c s.hostId)
  | none => s.remembered v

/-- The clusters of a command, one after the other. -/
structure Worked (desired : List ClusterState) (s s' : Net) : Prop where
  hostId : s'.hostId = s.hostId
  entries : ∀ v, s'.entry v = s.expected desired v
  only : Only (desired.map (·.vni)) (desired.flatMap clusterKeys) (desired.flatMap clusterRules) s.kernel s'.kernel
  materialised : ∀ pre c post, desired = pre ++ c :: post → c.vni ∉ post.map (·.vni) →
    (∀ x ∈ clusterKeys c, x ∉ post.flatMap clusterKeys) → Materialised c s'.kernel

theorem Worked.next {done : List ClusterState} {k : Kernel} (h : Worked done s s₁)
    (honly : Only [c.vni] (clusterKeys c) (clusterRules c) s₁.kernel k) (hc : Materialised c k) :
    Worked (done ++ [c]) s { s₁ with kernel := k, live := s₁.live.put (clusterLive c s₁.hostId) } where
  hostId := h.hostId
  entries := by
    intro v
    rw [Net.entry_put, Net.expected, stated_append]
    by_cases hv : v = c.vni
    · rw [if_pos hv, if_pos (show v = (clusterLive c s₁.hostId).vni from hv), h.hostId]
    · rw [if_neg hv, if_neg (show ¬v = (clusterLive c s₁.hostId).vni from hv), h.entries v, Net.expected]
  only := by
    have hboth := h.only.trans honly
    rw [map_append, flatMap_append, flatMap_append]
    simpa using hboth
  materialised := by
    intro pre c' post heq hvni hkeys
    rcases append_singleton_eq heq with ⟨rfl, rfl⟩ | ⟨post', rfl, hdone⟩
    · exact hc
    · -- an earlier cluster of the command: the last one leaves it as it is
      rw [map_append, mem_append, not_or] at hvni
      have hkeys' : ∀ x ∈ clusterKeys c', x ∉ post'.flatMap clusterKeys ∧ x ∉ clusterKeys c := by
        intro x hx
        have hnot := hkeys x hx
        rw [flatMap_append, mem_append, not_or] at hnot
        refine ⟨hnot.1, fun hmem => hnot.2 ?_⟩
        exact mem_flatMap.mpr ⟨c, mem_singleton_self c, hmem⟩
      have hold := h.materialised pre c' post' hdone hvni.1 fun x hx => (hkeys' x hx).1
      exact hold.kept honly hvni.2 fun x hx => (hkeys' x hx).2

theorem clusters_spec (hkernel : s₁.kernel = s.kernel) (hhost : s₁.hostId = s.hostId)
    (hentries : ∀ v, s₁.entry v = s.remembered v) :
    Succeeds NetOp.exec (desired.forM (reconcileCluster spec)) s₁ fun _ s' => Worked desired s s' := by
  refine succeeds_forM (J := fun done s' => Worked done s s') ?_ ?_
  · intro done c rest s₂ _ hs₂
    refine reconcileCluster_spec.mono ?_
    rintro _ s' ⟨k, rfl, honly, hc⟩
    exact hs₂.next honly hc
  · refine ⟨hhost, hentries, ?_, ?_⟩
    · rw [hkernel]
      exact Only.refl
    · intro pre c post heq
      cases pre <;> cases heq

/-! ### Proxy ARP -/

theorem proxies_neighDel (k : Kernel) (addr : String) :
    ∃ proxies, (NetCmd.exec (.neighDel addr) k).1 = { k with proxies } ∧
      ∀ a, a ∈ proxies ↔ a ∈ k.proxies ∧ a ≠ addr := by
  by_cases hthere : addr ∈ k.proxies
  · have hexec : NetCmd.exec (.neighDel addr) k = _ := onObject_ok (decide_eq_true hthere)
    refine ⟨k.proxies.filter (· ≠ addr), congrArg Prod.fst hexec, fun a => ?_⟩
    simp
  · have hexec : NetCmd.exec (.neighDel addr) k = _ := if_neg (by simpa using hthere)
    refine ⟨k.proxies, congrArg Prod.fst hexec, fun a => ?_⟩
    refine ⟨fun ha => ⟨ha, ?_⟩, fun h => h.1⟩
    rintro rfl
    exact hthere ha

/-- The uplink's entries after a pass over them: the union of all contributions. -/
theorem reconcileProxyArp_spec :
    Succeeds NetOp.exec (reconcileProxyArp spec) s fun _ s' =>
      ∃ proxies, s' = { s with kernel := { s.kernel with proxies } } ∧
        ∀ a, a ∈ proxies ↔ ∃ e ∈ s.live.rows, a ∈ e.proxyArpAddrs := by
  have hdesired : ∀ a, a ∈ (s.live.rows.flatMap (·.proxyArpAddrs)).dedup ↔ ∃ e ∈ s.live.rows, a ∈ e.proxyArpAddrs := by
    intro a
    rw [mem_dedup, mem_flatMap]
  unfold reconcileProxyArp
  refine Succeeds.bind (succeeds_lift (Q := fun r s' => r = s.live.rows ∧ s = s') ⟨rfl, rfl⟩) ?_
  rintro _ _ ⟨rfl, rfl⟩
  have hlist : OnKernel listKernelProxyArp s fun current k' => current = s.kernel.proxies ∧ k' = s.kernel :=
    ⟨_, _, rfl, _, rfl, rfl, rfl⟩
  refine Succeeds.bind hlist ?_
  rintro _ _ ⟨_, rfl, rfl, rfl⟩
  generalize (s.live.rows.flatMap (·.proxyArpAddrs)).dedup = wanted at hdesired ⊢
  -- what is missing is added and announced
  refine Succeeds.bind (onKernel_forM (J := fun done k => ∃ proxies, k = { s.kernel with proxies } ∧
    ∀ a, a ∈ proxies ↔ a ∈ s.kernel.proxies ∨ a ∈ done) ?_ ⟨s.kernel.proxies, rfl, by simp⟩) ?_
  · rintro done addr rest _ - ⟨proxies, rfl, hproxies⟩
    refine OnKernel.bind (Q := fun _ k' => k' = (NetCmd.exec (.neighReplace addr) { s.kernel with proxies }).1)
      (onKernel_runCmd (c := .neighReplace addr) (show _ = Except.ok () from rfl) rfl) ?_
    rintro _ _ rfl
    refine onKernel_logged ⟨_, rfl, fun a => ?_⟩
    show a ∈ (if addr ∈ proxies then proxies else proxies ++ [addr]) ↔ _
    split
    · rename_i hthere
      rw [hproxies, mem_append, mem_singleton]
      constructor
      · rintro (h | h)
        · exact .inl h
        · exact .inr (.inl h)
      · rintro (h | h | rfl)
        · exact .inl h
        · exact .inr h
        · exact (hproxies a).mp hthere
    · rw [mem_append, hproxies, mem_append, or_assoc]
  -- and what is stale deleted
  rintro _ _ ⟨k₁, rfl, added, rfl, hadded⟩
  refine Succeeds.mono (onKernel_forM (s := { s with kernel := { s.kernel with proxies := added } })
    (J := fun done k => ∃ proxies, k = { s.kernel with proxies } ∧ ∀ a, a ∈ proxies ↔ a ∈ added ∧ a ∉ done)
    ?_ ⟨added, rfl, by simp⟩) ?_
  · rintro done addr rest _ - ⟨proxies, rfl, hproxies⟩
    obtain ⟨left, hleft, hmem⟩ := proxies_neighDel { s.kernel with proxies } addr
    refine onKernel_logged ⟨left, hleft, fun a => ?_⟩
    rw [hmem, hproxies, mem_append, mem_singleton, not_or, and_assoc]
  · rintro _ _ ⟨k₂, rfl, proxies, rfl, hproxies⟩
    refine ⟨proxies, rfl, fun a => ?_⟩
    rw [hproxies, hadded, ← hdesired]
    simp only [mem_filter, decide_eq_true_eq]
    tauto

/-! ### The whole section -/

/-- **What a reconcile does.** The proxy-ARP entries are the uplink's, so they are set apart from the work on the
    clusters. -/
structure Reconciled (desired : List ClusterState) (s s' : Net) : Prop where
  hostId : s'.hostId = s.hostId
  entries : ∀ v, s'.entry v = s.expected desired v
  only : Only (desired.map (·.vni)) (desired.flatMap clusterKeys) (desired.flatMap clusterRules) s.kernel
    { s'.kernel with proxies := s.kernel.proxies }
  proxies : ∀ a, a ∈ s'.kernel.proxies ↔ ∃ e ∈ s'.live.rows, a ∈ e.proxyArpAddrs
  materialised : ∀ pre c post, desired = pre ++ c :: post → c.vni ∉ post.map (·.vni) →
    (∀ x ∈ clusterKeys c, x ∉ post.flatMap clusterKeys) → Materialised c s'.kernel

/-- **`reconcile` reconciles.** -/
theorem reconcile_spec : Succeeds NetOp.exec (reconcile spec desired) s fun _ s' => Reconciled desired s s' := by
  unfold reconcile
  refine Succeeds.bind (succeeds_lift (Q := fun r s' => r = s.kernel.bridges.rows.map (·.vni) ∧ s = s') ⟨rfl, rfl⟩) ?_
  rintro _ _ ⟨rfl, rfl⟩
  refine Succeeds.bind seeds_spec ?_
  rintro _ s₁ ⟨hkernel, hhost, hentries⟩
  refine Succeeds.bind (clusters_spec hkernel hhost hentries) ?_
  rintro _ s₂ hworked
  refine reconcileProxyArp_spec.mono ?_
  rintro _ _ ⟨proxies, rfl, hproxies⟩
  refine ⟨hworked.hostId, hworked.entries, ?_, hproxies, ?_⟩
  · exact { hworked.only with proxies := rfl }
  · intro pre c post heq hvni hkeys
    have hc := hworked.materialised pre c post heq hvni hkeys
    exact ⟨hc.bridge, hc.vxlan, hc.main, hc.tree⟩

end Reconcile

/-! ## `tombstone_cluster` -/

section Tombstone

variable {s s' : Net} {v : Nat} {cidr : String}

/-- The rules once those of a CIDR are removed. -/
def withoutRules (rules : List Rule) : Option String → List Rule
  | none => rules
  | some cidr => (rules.erase (.masquerade cidr)).erase (.clampMss cidr)

/-- **What a tombstone does.** -/
structure Tombstoned (v : Nat) (cidr : String) (s s' : Net) : Prop where
  hostId : s'.hostId = s.hostId
  entries : ∀ u, s'.entry u = if u = v then none else s.entry u
  bridges : ∀ b, b ∈ s'.kernel.bridges.rows ↔ b ∈ s.kernel.bridges.rows ∧ b.vni ≠ v
  vxlans : ∀ x, x ∈ s'.kernel.vxlans.rows ↔ x ∈ s.kernel.vxlans.rows ∧ x.vni ≠ v
  routes : ∀ r : Route, r ∈ s'.kernel.routes.rows ↔
    r ∈ s.kernel.routes.rows ∧ (r.dev = v → s.kernel.hasBridge v = false)
  rules : s'.kernel.rules = withoutRules s.kernel.rules (masqueradeCidr (s.entry v) cidr)
  proxies : ∀ a, a ∈ s'.kernel.proxies ↔ a ∈ s.kernel.proxies ∧
    ((∃ e, s.entry v = some e ∧ a ∈ e.proxyArpAddrs) → ∃ e ∈ s'.live.rows, a ∈ e.proxyArpAddrs)

theorem Net.entry_delete {u : Nat} :
    Net.entry { s with live := s.live.delete fun e => e.vni = v } u = if u = v then none else s.entry u := by
  by_cases hu : u = v
  · rw [if_pos hu]
    refine List.find?_eq_none.mpr fun e he => ?_
    have hne := (mem_delete.mp he).2
    simpa [hu] using hne
  · rw [if_neg hu]
    cases hentry : s.entry u with
    | none =>
      refine List.find?_eq_none.mpr fun e he => ?_
      exact List.find?_eq_none.mp hentry e (mem_delete.mp he).1
    | some e =>
      obtain ⟨hrow, hvni⟩ := entry_eq_some.mp hentry
      refine entry_eq_some.mpr ⟨mem_delete.mpr ⟨hrow, ?_⟩, hvni⟩
      exact decide_eq_false fun h => hu (hvni.symm.trans h)

variable {removed : Option ClusterLive} {k : Kernel}

/-! ### What is read first, and proxy ARP -/

theorem vrfOf_spec : OnKernel (vrfOf removed v) s fun _ k' => k' = s.kernel := by
  unfold vrfOf
  cases removed.bind (·.vrf) with
  | some vrf => exact onKernel_pure rfl
  | none =>
    refine OnKernel.bind (onKernel_show rfl) ?_
    rintro _ _ ⟨rfl, rfl⟩
    cases s.kernel.hasBridge v <;> exact onKernel_pure rfl

theorem onKernel_values : OnKernel (live .values) s fun entries k' => entries = s.live.rows ∧ k' = s.kernel :=
  ⟨_, _, rfl, _, rfl, rfl, rfl⟩

theorem dropProxyArp_spec :
    OnKernel (dropProxyArp removed) s fun _ k' => ∃ proxies, k' = { s.kernel with proxies } ∧
      ∀ a, a ∈ proxies ↔ a ∈ s.kernel.proxies ∧
        ((∃ e, removed = some e ∧ a ∈ e.proxyArpAddrs) → ∃ e ∈ s.live.rows, a ∈ e.proxyArpAddrs) := by
  cases removed with
  | none =>
    refine onKernel_pure ⟨s.kernel.proxies, rfl, fun a => (and_iff_left ?_).symm⟩
    rintro ⟨e, hnone, -⟩
    cases hnone
  | some entry =>
    refine (onKernel_forM (J := fun done k => ∃ proxies, k = { s.kernel with proxies } ∧
      ∀ a, a ∈ proxies ↔ a ∈ s.kernel.proxies ∧ (a ∈ done → ∃ e ∈ s.live.rows, a ∈ e.proxyArpAddrs))
      ?_ ⟨s.kernel.proxies, rfl, by simp⟩).mono ?_
    · rintro done addr rest _ - ⟨proxies, rfl, hproxies⟩
      refine OnKernel.bind onKernel_values ?_
      rintro _ _ ⟨rfl, rfl⟩
      refine onKernel_ite (fun hwanted => ?_) fun hfree => ?_
      · -- another cluster contributes the address
        refine onKernel_pure ⟨proxies, rfl, fun a => ?_⟩
        rw [hproxies]
        refine and_congr_right fun _ => ?_
        rw [mem_append, mem_singleton]
        refine ⟨fun h ha => ?_, fun h ha => h (.inl ha)⟩
        rcases ha with ha | rfl
        · exact h ha
        · simpa using hwanted
      · obtain ⟨left, hleft, hmem⟩ := proxies_neighDel { s.kernel with proxies } addr
        refine onKernel_logged ⟨left, hleft, fun a => ?_⟩
        rw [hmem, hproxies, mem_append, mem_singleton]
        have hnone : ¬∃ e ∈ s.live.rows, addr ∈ e.proxyArpAddrs := by simpa using hfree
        constructor
        · rintro ⟨⟨ha, hdone⟩, hne⟩
          exact ⟨ha, fun h => h.elim hdone fun heq => absurd heq hne⟩
        · rintro ⟨ha, h⟩
          refine ⟨⟨ha, fun hdone => h (.inl hdone)⟩, ?_⟩
          rintro rfl
          exact hnone (h (.inr rfl))
    · rintro _ _ ⟨proxies, rfl, hproxies⟩
      refine ⟨proxies, rfl, fun a => ?_⟩
      rw [hproxies]
      refine and_congr_right fun _ => ⟨?_, ?_⟩
      · rintro h ⟨e, heq, ha⟩
        cases heq
        exact h ha
      · intro h ha
        exact h ⟨entry, rfl, ha⟩

/-! ### Rules -/

theorem rules_ruleDelete {rule : Rule} :
    (NetCmd.exec (.ruleDelete rule) k).1 = { k with rules := k.rules.erase rule } := by
  by_cases hthere : rule ∈ k.rules
  · exact congrArg Prod.fst (onObject_ok (decide_eq_true hthere))
  · have hexec : NetCmd.exec (.ruleDelete rule) k = _ := if_neg (by simpa using hthere)
    rw [hexec, erase_of_not_mem hthere]

theorem removeMasquerade_spec {removedCidr : Option String} :
    OnKernel (removeMasquerade removedCidr) s fun _ k' =>
      k' = { s.kernel with rules := withoutRules s.kernel.rules removedCidr } := by
  cases removedCidr with
  | none => exact onKernel_pure rfl
  | some cidr =>
    refine OnKernel.bind (onKernel_logged
      (Q := fun _ k' => k' = { s.kernel with rules := s.kernel.rules.erase (.masquerade cidr) }) rules_ruleDelete) ?_
    rintro _ _ rfl
    exact onKernel_logged rules_ruleDelete

/-! ### Links -/

theorem vxlans_linkDelete : (NetCmd.exec (.linkDelete (.vxlan v)) k).1 = k.withoutVxlan v := by
  by_cases hthere : k.hasVxlan v = true
  · exact congrArg Prod.fst (onObject_ok hthere)
  · have hexec : NetCmd.exec (.linkDelete (.vxlan v)) k = _ := if_neg hthere
    have hsame : k.vxlans.delete (fun x => x.vni = v) = k.vxlans :=
      delete_eq_self fun x hx => decide_eq_false fun h => hthere (Kernel.hasVxlan_iff.mpr ⟨x, hx, h⟩)
    rw [hexec, Kernel.withoutVxlan, hsame]

/-- A bridge that is not there takes nothing with it. -/
theorem bridges_linkDelete (hvxlan : ∀ x ∈ k.vxlans.rows, x.vni ≠ v) :
    ∃ routes : Table Route, (NetCmd.exec (.linkDelete (.bridge v)) k).1 =
        { k with bridges := k.bridges.delete fun b => b.vni = v, routes } ∧
      ∀ r : Route, r ∈ routes.rows ↔ r ∈ k.routes.rows ∧ (r.dev = v → k.hasBridge v = false) := by
  by_cases hthere : k.hasBridge v = true
  · have hexec : NetCmd.exec (.linkDelete (.bridge v)) k = _ := onObject_ok hthere
    have hports : k.vxlans.update (fun x => x.vni = v) (fun x => { x with attached := false }) (fun _ _ => Iff.rfl) =
        k.vxlans := update_eq_self _ fun x hx => decide_eq_false (hvxlan x hx)
    refine ⟨k.routes.delete fun r => r.dev = v, ?_, fun r => ?_⟩
    · rw [hexec, Kernel.withoutBridge, hports]
    · rw [mem_delete, hthere]
      simp
  · have hexec : NetCmd.exec (.linkDelete (.bridge v)) k = _ := if_neg hthere
    have hsame : k.bridges.delete (fun b => b.vni = v) = k.bridges :=
      delete_eq_self fun b hb => decide_eq_false fun h => hthere (Kernel.hasBridge_iff.mpr ⟨b, hb, h⟩)
    refine ⟨k.routes, ?_, fun r => (and_iff_left fun _ => ?_).symm⟩
    · rw [hexec, hsame]
    · exact Bool.not_eq_true _ ▸ hthere

/-- A VRF is deleted only when no bridge is in it. -/
theorem dropVrf_spec {vrf : Option String} :
    OnKernel (dropVrf vrf) s fun _ k' => ∃ vrfs, k' = { s.kernel with vrfs } := by
  cases vrf with
  | none => exact onKernel_pure ⟨_, rfl⟩
  | some name =>
    refine onKernel_ite (fun _ => ?_) fun _ => onKernel_pure ⟨_, rfl⟩
    refine OnKernel.bind (onKernel_show rfl) ?_
    rintro _ _ ⟨rfl, rfl⟩
    cases s.kernel.hasVrf name with
    | false => exact onKernel_pure ⟨_, rfl⟩
    | true =>
      cases hslaves : s.kernel.bridges.rows.any fun b => b.master = some name with
      | true =>
        rw [if_pos rfl]
        exact onKernel_pure ⟨_, rfl⟩
      | false =>
        rw [if_pos rfl]
        refine onKernel_logged (onObject_fst (P := fun k' => ∃ vrfs, k' = { s.kernel with vrfs }) ⟨_, rfl⟩
          ⟨s.kernel.vrfs.delete fun v => v.name = name, ?_⟩)
        have hsame : s.kernel.bridges.update (fun b => b.master = some name) (fun b => { b with master := none })
            (fun _ _ => Iff.rfl) = s.kernel.bridges := by
          refine update_eq_self _ fun b hb => decide_eq_false fun h => ?_
          exact any_eq_false.mp hslaves b hb (decide_eq_true h)
        rw [Kernel.withoutVrf, hsame]

/-! ### The whole section -/

/-- **`tombstone_cluster` removes its cluster.** -/
theorem tombstoneCluster_spec :
    Succeeds NetOp.exec (tombstoneCluster v cidr) s fun _ s' => Tombstoned v cidr s s' := by
  unfold tombstoneCluster
  refine Succeeds.bind (succeeds_lift (Q := fun r s' =>
    r = s.entry v ∧ s' = { s with live := s.live.delete fun e => e.vni = v }) ⟨rfl, rfl⟩) ?_
  rintro _ _ ⟨rfl, rfl⟩
  refine Succeeds.bind vrfOf_spec ?_
  rintro vrf _ ⟨_, rfl, rfl⟩
  refine Succeeds.bind dropProxyArp_spec ?_
  rintro _ _ ⟨_, rfl, proxies, rfl, hproxies⟩
  refine Succeeds.bind removeMasquerade_spec ?_
  rintro _ _ ⟨_, rfl, rfl⟩
  refine Succeeds.bind (onKernel_logged (Q := fun _ k' => k' = Kernel.withoutVxlan _ v) vxlans_linkDelete) ?_
  rintro _ _ ⟨_, rfl, rfl⟩
  have hvxlan : ∀ x ∈ (s.kernel.vxlans.delete fun x => x.vni = v).rows, x.vni ≠ v :=
    fun x hx => of_decide_eq_false (mem_delete.mp hx).2
  obtain ⟨routes, hbridge, hroutes⟩ := bridges_linkDelete (v := v) (k := Kernel.withoutVxlan
    { s.kernel with proxies, rules := withoutRules s.kernel.rules (masqueradeCidr (s.entry v) cidr) } v) hvxlan
  refine Succeeds.bind (onKernel_logged (Q := fun _ k' => k' = _) hbridge) ?_
  rintro _ _ ⟨_, rfl, rfl⟩
  refine Succeeds.mono dropVrf_spec ?_
  rintro _ _ ⟨_, rfl, vrfs, rfl⟩
  exact
    { hostId := rfl
      entries := fun u => Net.entry_delete
      bridges := fun b => by simp [Kernel.withoutVxlan]
      vxlans := fun x => by simp [Kernel.withoutVxlan]
      routes := hroutes
      rules := rfl
      proxies := hproxies }

end Tombstone

end BasisCell.Agent.Network
