import BasisCell.Agent.Sections

/-!
# `BasisCell.Agent.Node` — `apply_reconcile`, on a whole host

A reconcile command is applied in phases: the listed clusters in one locked section, every cluster tombstone in a
section of its own, the VM tombstones, the acknowledgement, and last the prefixes the host announces over BGP. The
sections are single operations here (`Agent.Sections` says what they do), the VM teardowns run operation by
operation.

The global table of gobgpd has the prefixes that the host originates and those learned from its peers, and
`list_ipv4_prefixes` lists both. An RPC does not fail here; `ensure_running` finds the daemon running. A message
that is sent is taken: a closed stream is only logged.
-/

namespace BasisCell.Agent

open Conc Conc.Prog Relational Network List

/-! ## The model -/

/-- IPv4 prefixes of the global table: the host's own paths, and those of peers. -/
structure Rib where
  own : List String := []
  learned : List String := []
  deriving DecidableEq, Repr

/-- `reconcile_ipv4_paths`: what is desired and not listed is added, what is listed and not desired deleted. Only
    the host's own path for a prefix can be deleted. -/
def Rib.reconcilePaths (rib : Rib) (desired : List String) : Rib :=
  let current := (rib.own ++ rib.learned).dedup
  let added := rib.own ++ desired.dedup.filter (· ∉ current)
  { rib with own := added.filter (· ∉ current.filter (· ∉ desired)) }

theorem Rib.mem_own_reconcilePaths {rib : Rib} {desired : List String} {p : String} :
    p ∈ (rib.reconcilePaths desired).own ↔ p ∈ desired ∧ (p ∈ rib.own ∨ p ∉ rib.learned) := by
  unfold reconcilePaths
  simp only [mem_filter, mem_append, mem_dedup, decide_eq_true_eq, not_and, not_or, not_not]
  tauto

/-- **The own paths are the desired ones** exactly if no peer announces a desired prefix that is not originated yet. -/
theorem originates_desired_iff (rib : Rib) (desired : List String) :
    (∀ p, p ∈ (rib.reconcilePaths desired).own ↔ p ∈ desired) ∧ (rib.reconcilePaths desired).learned = rib.learned ↔
      ∀ p ∈ desired, p ∈ rib.learned → p ∈ rib.own := by
  simp only [Rib.mem_own_reconcilePaths, show (rib.reconcilePaths desired).learned = rib.learned from rfl, and_true]
  constructor
  · intro hall p hp hlearned
    exact ((hall p).mpr hp).2.resolve_right (not_not.mpr hlearned)
  · intro hall p
    refine and_iff_left_of_imp fun hp => ?_
    by_cases hlearned : p ∈ rib.learned
    · exact .inl (hall p hp hlearned)
    · exact .inr hlearned

/-- A prefix that a peer announces is not originated. -/
theorem announced_prefix_not_originated :
    (Rib.reconcilePaths ⟨[], ["10.0.0.5/32"]⟩ ["10.0.0.5/32"]).own = [] := by
  decide +kernel

/-! ### The node -/

structure NodeSpec where
  host : HostSpec
  net : NetSpec

/-- The host of an agent, its networks, its BGP daemon, and what the agent has sent on its stream. -/
structure Node where
  host : Host
  net : Net := {}
  rib : Rib := {}
  bgpSpeaker : Bool := false
  sent : List AgentMessage := []

inductive NodeOp where
  | reconcileClusters (desired : List ClusterState)
  | tombstoneCluster (vni : Nat) (cidr : String)
  | host (o : Op)
  | send (msg : AgentMessage)
  /-- Is there a BGP speaker? -/
  | bgpSpeaker
  | updateRoutes (prefixes : List String)

def NodeOp.Resp : NodeOp → Type
  | .reconcileClusters _ => Except NetworkError Unit
  | .tombstoneCluster _ _ => Except NetworkError Unit
  | .host o => o.Resp
  | .send _ => Unit
  | .bgpSpeaker => Bool
  | .updateRoutes _ => Unit

def NodeOp.exec (spec : NodeSpec) : (o : NodeOp) → Node → Node × o.Resp
  | .reconcileClusters desired, x =>
    let r := (reconcile spec.net desired).run.eval NetOp.exec x.net
    ({ x with net := r.1 }, r.2)
  | .tombstoneCluster vni cidr, x =>
    let r := (Network.tombstoneCluster vni cidr).run.eval NetOp.exec x.net
    ({ x with net := r.1 }, r.2)
  | .host o, x => ({ x with host := (o.exec x.host).1 }, (o.exec x.host).2)
  | .send msg, x => ({ x with sent := x.sent ++ [msg] }, ())
  | .bgpSpeaker, x => (x, x.bgpSpeaker)
  | .updateRoutes prefixes, x => ({ x with rib := x.rib.reconcilePaths prefixes }, ())

abbrev NodeJob (α : Type) := Prog NodeOp NodeOp.Resp α

def reconcileClusters (desired : List ClusterState) : NodeJob (Except NetworkError Unit) :=
  perform (NodeOp.reconcileClusters desired)

def tombstoneCluster (tomb : ClusterTombstone) : NodeJob (Except NetworkError Unit) :=
  perform (NodeOp.tombstoneCluster tomb.vni tomb.cidr)

def send (msg : AgentMessage) : NodeJob Unit := perform (NodeOp.send msg)

def updateRoutes (prefixes : List String) : NodeJob Unit := perform (NodeOp.updateRoutes prefixes)

def onHost {α : Type} (p : Job α) : NodeJob α := p.subst fun o => perform (NodeOp.host o)

/-- Was the result a success? -/
def succeeded {ε α : Type} : Except ε α → Bool
  | .ok _ => true
  | .error _ => false

/-- A tombstone that fails is only logged. -/
def tombstoneClusters (tombstones : List ClusterTombstone) : NodeJob (List ClusterTombstone) :=
  filterEach tombstones fun tomb => do return succeeded (← tombstoneCluster tomb)

def tombstoneVms (spec : NodeSpec) (vmIds : List VmId) : NodeJob (List VmId) :=
  filterEach vmIds fun vmId => do return succeeded (← onHost (deleteVm spec.host vmId).run)

def sendTombstoneAck (ackedClusterVnis : List Nat) (ackedVmIds : List VmId) : NodeJob Unit :=
  if ackedClusterVnis ≠ [] ∨ ackedVmIds ≠ [] then send (.tombstoneAck ackedClusterVnis ackedVmIds)
  else return ()

/-- The prefixes announced for the clusters of a command, whoever owns their VIPs. -/
def advertised (clusters : List ClusterState) : List String :=
  clusters.flatMap fun cluster => (cluster.clusterVips.filterMap fun vip => Ipv4Net.parse vip.cidr).map (·.text)

def advertise (clusters : List ClusterState) : NodeJob Unit :=
  perform NodeOp.bgpSpeaker >>= fun
    | true => updateRoutes (advertised clusters)
    | false => return ()

def applyReconcile (spec : NodeSpec) (cmd : ReconcileHostCommand) : NodeJob (Except NetworkError Unit) := do
  match ← reconcileClusters cmd.clusters with
  | .error e => return .error e
  | .ok () =>
    let ackedClusters ← tombstoneClusters cmd.clusterTombstones
    let ackedVmIds ← tombstoneVms spec cmd.vmTombstones
    sendTombstoneAck (ackedClusters.map (·.vni)) ackedVmIds
    advertise cmd.clusters
    return .ok ()

/-! ## A run alone -/

section Eval

variable (spec : NodeSpec)

theorem eval_onHost {α : Type} (p : Job α) (x : Node) :
    (onHost p).eval (NodeOp.exec spec) x =
      ({ x with host := (p.eval Op.exec x.host).1 }, (p.eval Op.exec x.host).2) := by
  induction p generalizing x with
  | ret a => rfl
  | call o k ih => exact ih _ _

theorem exec_reconcileClusters (desired : List ClusterState) (x : Node) : ∃ s', Reconciled desired x.net s' ∧
    NodeOp.exec spec (.reconcileClusters desired) x = ({ x with net := s' }, .ok ()) := by
  have hspec : Succeeds NetOp.exec (reconcile spec.net desired) x.net fun _ s' => Reconciled desired x.net s' :=
    reconcile_spec
  obtain ⟨_, s', hrun, hs'⟩ := hspec
  refine ⟨s', hs', ?_⟩
  simp only [NodeOp.exec, hrun]

theorem exec_tombstoneCluster (vni : Nat) (cidr : String) (x : Node) : ∃ s', Tombstoned vni cidr x.net s' ∧
    NodeOp.exec spec (.tombstoneCluster vni cidr) x = ({ x with net := s' }, .ok ()) := by
  have hspec : Succeeds NetOp.exec (Network.tombstoneCluster vni cidr) x.net fun _ s' => Tombstoned vni cidr x.net s' :=
    tombstoneCluster_spec
  obtain ⟨_, s', hrun, hs'⟩ := hspec
  refine ⟨s', hs', ?_⟩
  simp only [NodeOp.exec, hrun]

/-- The tombstones of a command, one after the other. -/
def Buried : List ClusterTombstone → Net → Net → Prop
  | [], s, s' => s = s'
  | t :: ts, s, s' => ∃ s₁, Tombstoned t.vni t.cidr s s₁ ∧ Buried ts s₁ s'

theorem eval_tombstoneClusters (tombstones : List ClusterTombstone) (x : Node) :
    ∃ s', Buried tombstones x.net s' ∧
      (tombstoneClusters tombstones).eval (NodeOp.exec spec) x = ({ x with net := s' }, tombstones) := by
  induction tombstones generalizing x with
  | nil => exact ⟨x.net, rfl, rfl⟩
  | cons t ts ih =>
    obtain ⟨s₁, hs₁, hexec⟩ := exec_tombstoneCluster spec t.vni t.cidr x
    have hone : (do return succeeded (← tombstoneCluster t) : NodeJob Bool).eval (NodeOp.exec spec) x =
        ({ x with net := s₁ }, true) := by
      show ((NodeOp.exec spec (.tombstoneCluster t.vni t.cidr) x).1,
        succeeded (NodeOp.exec spec (.tombstoneCluster t.vni t.cidr) x).2) = _
      rw [hexec]
      rfl
    obtain ⟨s', hs', hrest⟩ := ih { x with net := s₁ }
    refine ⟨s', ⟨s₁, hs₁, hs'⟩, ?_⟩
    unfold tombstoneClusters at hrest ⊢
    rw [eval_filterEach_cons, hone, hrest]
    rfl

theorem eval_tombstoneVms (vmIds : List VmId) (x : Node) :
    ∃ host acked, (tombstoneVms spec vmIds).eval (NodeOp.exec spec) x = ({ x with host }, acked) := by
  induction vmIds generalizing x with
  | nil => exact ⟨x.host, [], rfl⟩
  | cons vmId vmIds ih =>
    have hone : (do return succeeded (← onHost (deleteVm spec.host vmId).run) : NodeJob Bool).eval
        (NodeOp.exec spec) x = ({ x with host := ((deleteVm spec.host vmId).run.eval Op.exec x.host).1 },
          succeeded ((deleteVm spec.host vmId).run.eval Op.exec x.host).2) := by
      rw [eval_bind, eval_onHost spec]
      rfl
    obtain ⟨host, acked, hrest⟩ := ih { x with host := ((deleteVm spec.host vmId).run.eval Op.exec x.host).1 }
    unfold tombstoneVms at hrest ⊢
    rw [eval_filterEach_cons, hone, hrest]
    exact ⟨host, _, rfl⟩

theorem eval_sendTombstoneAck (vnis : List Nat) (vmIds : List VmId) (x : Node) :
    ∃ sent, (sendTombstoneAck vnis vmIds).eval (NodeOp.exec spec) x = ({ x with sent }, ()) := by
  unfold sendTombstoneAck
  split
  · exact ⟨_, rfl⟩
  · exact ⟨x.sent, rfl⟩

theorem eval_advertise (clusters : List ClusterState) (x : Node) :
    (advertise clusters).eval (NodeOp.exec spec) x =
      ({ x with rib := if x.bgpSpeaker then x.rib.reconcilePaths (advertised clusters) else x.rib }, ()) := by
  obtain ⟨host, net, rib, speaker, sent⟩ := x
  cases speaker <;> rfl

/-- The host after a command, phase by phase. -/
structure Applied (cmd : ReconcileHostCommand) (x x' : Node) : Prop where
  net : ∃ s₁, Reconciled cmd.clusters x.net s₁ ∧ Buried cmd.clusterTombstones s₁ x'.net
  rib : x'.rib = if x.bgpSpeaker then x.rib.reconcilePaths (advertised cmd.clusters) else x.rib

/-- **A run of `apply_reconcile` alone.** -/
theorem applied_applyReconcile (cmd : ReconcileHostCommand) (x : Node) :
    Applied cmd x ((applyReconcile spec cmd).eval (NodeOp.exec spec) x).1 := by
  obtain ⟨s₁, hs₁, hexec⟩ := exec_reconcileClusters spec cmd.clusters x
  have hfirst : (reconcileClusters cmd.clusters).eval (NodeOp.exec spec) x = ({ x with net := s₁ }, .ok ()) := hexec
  obtain ⟨s', hs', hclusters⟩ := eval_tombstoneClusters spec cmd.clusterTombstones { x with net := s₁ }
  obtain ⟨host, acked, hvms⟩ := eval_tombstoneVms spec cmd.vmTombstones { x with net := s' }
  obtain ⟨sent, hack⟩ := eval_sendTombstoneAck spec (cmd.clusterTombstones.map (·.vni)) acked
    { x with net := s', host }
  unfold applyReconcile
  rw [eval_bind, hfirst]
  dsimp only
  rw [eval_bind, hclusters, eval_bind, hvms, eval_bind, hack, eval_bind, eval_advertise spec]
  exact ⟨⟨s₁, hs₁, hs'⟩, rfl⟩

end Eval

/-! ## Clusters a command does not name -/

section Buried

variable {ts : List ClusterTombstone} {s s' : Net}

/-- What every tombstone keeps, all of them keep. -/
theorem Buried.keeps {P : Net → Prop} (h : Buried ts s s')
    (hstep : ∀ t ∈ ts, ∀ s s', Tombstoned t.vni t.cidr s s' → P s → P s') (hs : P s) : P s' := by
  induction ts generalizing s with
  | nil =>
    cases h
    exact hs
  | cons t ts ih =>
    obtain ⟨s₁, hs₁, hrest⟩ := h
    refine ih hrest (fun t' ht' => hstep t' (mem_cons_of_mem _ ht')) ?_
    exact hstep t mem_cons_self s s₁ hs₁ hs

theorem Buried.entries (h : Buried ts s s') (u : Nat) :
    s'.entry u = if u ∈ ts.map (·.vni) then none else s.entry u := by
  induction ts generalizing s with
  | nil =>
    cases h
    rfl
  | cons t ts ih =>
    obtain ⟨s₁, hs₁, hrest⟩ := h
    rw [ih hrest, hs₁.entries u, map_cons]
    by_cases hmem : u ∈ ts.map (·.vni)
    · rw [if_pos hmem, if_pos (mem_cons_of_mem _ hmem)]
    · rw [if_neg hmem]
      by_cases hu : u = t.vni
      · rw [if_pos hu, if_pos (mem_cons.mpr (.inl hu))]
      · rw [if_neg hu, if_neg fun h => (mem_cons.mp h).elim hu hmem]

theorem Buried.bridges (h : Buried ts s s') {b : Bridge} (hb : b.vni ∉ ts.map (·.vni)) :
    b ∈ s'.kernel.bridges.rows ↔ b ∈ s.kernel.bridges.rows := by
  refine h.keeps (P := fun s₁ => b ∈ s₁.kernel.bridges.rows ↔ b ∈ s.kernel.bridges.rows) ?_ Iff.rfl
  intro t ht s₁ s₂ hs hiff
  have hne : b.vni ≠ t.vni := fun heq => hb (mem_map.mpr ⟨t, ht, heq.symm⟩)
  rw [hs.bridges, and_iff_left hne, hiff]

theorem Buried.vxlans (h : Buried ts s s') {v : Vxlan} (hv : v.vni ∉ ts.map (·.vni)) :
    v ∈ s'.kernel.vxlans.rows ↔ v ∈ s.kernel.vxlans.rows := by
  refine h.keeps (P := fun s₁ => v ∈ s₁.kernel.vxlans.rows ↔ v ∈ s.kernel.vxlans.rows) ?_ Iff.rfl
  intro t ht s₁ s₂ hs hiff
  have hne : v.vni ≠ t.vni := fun heq => hv (mem_map.mpr ⟨t, ht, heq.symm⟩)
  rw [hs.vxlans, and_iff_left hne, hiff]

theorem Buried.routes (h : Buried ts s s') {r : Route} (hr : r.dev ∉ ts.map (·.vni)) :
    r ∈ s'.kernel.routes.rows ↔ r ∈ s.kernel.routes.rows := by
  refine h.keeps (P := fun s₁ => r ∈ s₁.kernel.routes.rows ↔ r ∈ s.kernel.routes.rows) ?_ Iff.rfl
  intro t ht s₁ s₂ hs hiff
  have hne : r.dev = t.vni → s₁.kernel.hasBridge t.vni = false :=
    fun heq => absurd (mem_map.mpr ⟨t, ht, heq.symm⟩) hr
  rw [hs.routes, and_iff_left hne, hiff]

/-- The uplink's proxy-ARP entries are what the remembered clusters contribute. -/
def Network.Net.Contributed (s : Net) : Prop :=
  ∀ a, a ∈ s.kernel.proxies ↔ ∃ v e, s.entry v = some e ∧ a ∈ e.proxyArpAddrs

theorem contributed_iff : s.Contributed ↔
    ∀ a, a ∈ s.kernel.proxies ↔ ∃ e ∈ s.live.rows, a ∈ e.proxyArpAddrs := by
  have hsame : ∀ a, (∃ v e, s.entry v = some e ∧ a ∈ e.proxyArpAddrs) ↔ ∃ e ∈ s.live.rows, a ∈ e.proxyArpAddrs := by
    intro a
    constructor
    · rintro ⟨v, e, hentry, ha⟩
      exact ⟨e, (Net.entry_eq_some.mp hentry).1, ha⟩
    · rintro ⟨e, hrow, ha⟩
      exact ⟨e.vni, e, Net.entry_eq_some.mpr ⟨hrow, rfl⟩, ha⟩
  unfold Net.Contributed
  simp only [hsame]

/-- A tombstone takes away what nobody else contributes. -/
theorem Network.Tombstoned.contributed {v : Nat} {cidr : String} (h : Tombstoned v cidr s s') (hs : s.Contributed) :
    s'.Contributed := by
  rw [contributed_iff]
  intro a
  rw [h.proxies, hs a]
  constructor
  · rintro ⟨⟨u, e, hentry, ha⟩, hother⟩
    by_cases hu : u = v
    · subst hu
      exact hother ⟨e, hentry, ha⟩
    · have hkept : s'.entry u = some e := by rw [h.entries u, if_neg hu, hentry]
      exact ⟨e, (Net.entry_eq_some.mp hkept).1, ha⟩
  · rintro ⟨e, hrow, ha⟩
    have hentry : s'.entry e.vni = some e := Net.entry_eq_some.mpr ⟨hrow, rfl⟩
    rw [h.entries] at hentry
    by_cases hv : e.vni = v
    · rw [if_pos hv] at hentry
      cases hentry
    · rw [if_neg hv] at hentry
      exact ⟨⟨e.vni, e, hentry, ha⟩, fun _ => ⟨e, hrow, ha⟩⟩

theorem Buried.contributed (h : Buried ts s s') (hs : s.Contributed) : s'.Contributed :=
  h.keeps (P := Net.Contributed) (fun _ _ _ _ ht => ht.contributed) hs

/-- The CIDRs whose rules a list of tombstones removes; `entry` is what the agent remembers. -/
def removedCidrs (entry : Nat → Option ClusterLive) : List ClusterTombstone → List String
  | [] => []
  | t :: ts => (masqueradeCidr (entry t.vni) t.cidr).toList ++
      removedCidrs (fun u => if u = t.vni then none else entry u) ts

theorem count_withoutRules {rules : List Rule} {removed : Option String} {cidr : String} :
    (withoutRules rules removed).count (.masquerade cidr) =
      rules.count (.masquerade cidr) - removed.toList.count cidr := by
  cases removed with
  | none => rfl
  | some c =>
    unfold withoutRules
    rw [count_erase_of_ne (by simp), count_erase]
    by_cases hc : c = cidr <;> simp [hc]

/-- A rule goes as often as its CIDR is removed. -/
theorem Buried.rules (h : Buried ts s s') (cidr : String) : s'.kernel.rules.count (.masquerade cidr) =
    s.kernel.rules.count (.masquerade cidr) - (removedCidrs s.entry ts).count cidr := by
  induction ts generalizing s with
  | nil =>
    cases h
    rfl
  | cons t ts ih =>
    obtain ⟨s₁, hs₁, hrest⟩ := h
    have hentry : s₁.entry = fun u => if u = t.vni then none else s.entry u := funext hs₁.entries
    rw [ih hrest, hs₁.rules, count_withoutRules, hentry, removedCidrs, count_append, Nat.sub_sub]

end Buried

/-! ### Masquerade rules -/

theorem count_ensured {rules : List Rule} {r r' : Rule} :
    (ensured rules r').count r = if r = r' ∧ r ∉ rules then 1 else rules.count r := by
  unfold ensured
  by_cases hthere : r' ∈ rules
  · have hno : ¬(r = r' ∧ r ∉ rules) := fun h => h.2 (h.1 ▸ hthere)
    rw [if_pos hthere, if_neg hno]
  · rw [if_neg hthere, count_append]
    by_cases heq : r = r'
    · subst heq
      rw [if_pos ⟨rfl, hthere⟩, count_eq_zero_of_not_mem hthere]
      simp
    · have hzero : [r'].count r = 0 := count_eq_zero_of_not_mem (by simpa using heq)
      rw [if_neg fun h => heq h.1, hzero, Nat.add_zero]

/-- A rule that is ensured is there once if it was not there, and as often as it was otherwise. -/
theorem count_foldl_ensured {rules wanted : List Rule} {r : Rule} :
    (wanted.foldl ensured rules).count r = if r ∈ wanted ∧ r ∉ rules then 1 else rules.count r := by
  induction wanted generalizing rules with
  | nil => simp
  | cons w wanted ih =>
    rw [foldl_cons, ih, count_ensured]
    by_cases hr : r ∈ rules
    · -- it was there
      have hr' : r ∈ ensured rules w := by
        unfold ensured
        split
        · exact hr
        · exact mem_append_left _ hr
      simp [hr, hr']
    · by_cases hw : r = w
      · subst hw
        have hr' : r ∈ ensured rules r := by
          unfold ensured
          simp [hr]
        simp [hr, hr']
      · have hr' : r ∉ ensured rules w := by
          unfold ensured
          split
          · exact hr
          · simp [hr, hw]
        simp [hr, hr', hw]

/-- The addresses of a cluster's VIPs, whoever answers for them. -/
def vipAddrs (cluster : ClusterState) : List String :=
  (parsedVips cluster.clusterVips).flatMap fun p => (hosts p.2).map Ipv4Addr.text

/-! ### Absence -/

/-- Everything on the host that is there for the cluster is as it was. -/
structure Untouched (cluster : ClusterState) (x x' : Node) : Prop where
  bridge : ∀ b : Bridge, b.vni = cluster.vni → (b ∈ x'.net.kernel.bridges.rows ↔ b ∈ x.net.kernel.bridges.rows)
  vxlan : ∀ v : Vxlan, v.vni = cluster.vni → (v ∈ x'.net.kernel.vxlans.rows ↔ v ∈ x.net.kernel.vxlans.rows)
  routes : ∀ r : Route, r.dev = cluster.vni → (r ∈ x'.net.kernel.routes.rows ↔ r ∈ x.net.kernel.routes.rows)
  rule : x'.net.kernel.rules.count (.masquerade cluster.cidr) = x.net.kernel.rules.count (.masquerade cluster.cidr)
  proxies : ∀ a ∈ vipAddrs cluster, (a ∈ x'.net.kernel.proxies ↔ a ∈ x.net.kernel.proxies)
  paths : ∀ p ∈ advertised [cluster], (p ∈ x'.rib.own ↔ p ∈ x.rib.own)

/-- The command and the host agree about a cluster that the command does not name. -/
structure Spared (cluster : ClusterState) (x : Node) (cmd : ReconcileHostCommand) : Prop where
  /-- No listed cluster takes the key of one of its routes. -/
  routes : ∀ r ∈ x.net.kernel.routes.rows, r.dev = cluster.vni → r.key ∉ cmd.clusters.flatMap clusterKeys
  /-- Its rule is not removed under the name of a tombstone. -/
  kept : .masquerade cluster.cidr ∈ x.net.kernel.rules →
    cluster.cidr ∉ removedCidrs (x.net.expected cmd.clusters) cmd.clusterTombstones
  /-- Nor is a rule it does not have ensured under the name of a listed cluster, and left there. -/
  absent : .masquerade cluster.cidr ∉ x.net.kernel.rules →
    .masquerade cluster.cidr ∈ cmd.clusters.flatMap clusterRules →
    cluster.cidr ∈ removedCidrs (x.net.expected cmd.clusters) cmd.clusterTombstones
  /-- The entries for its VIPs are what the agent remembers for the clusters without a tombstone. -/
  proxies : ∀ a ∈ vipAddrs cluster, (a ∈ x.net.kernel.proxies ↔ ∃ v e, v ∉ cmd.clusterTombstones.map (·.vni) ∧
    x.net.expected cmd.clusters v = some e ∧ a ∈ e.proxyArpAddrs)
  /-- The prefixes announced for it are announced for a listed cluster too; one that is not announced is neither,
      or a peer announces it. -/
  paths : x.bgpSpeaker = true → ∀ p ∈ advertised [cluster],
    (p ∈ x.rib.own → p ∈ advertised cmd.clusters) ∧
    (p ∉ x.rib.own → p ∈ advertised cmd.clusters → p ∈ x.rib.learned)

section Absence

variable {spec : NodeSpec} {cmd : ReconcileHostCommand} {x x' : Node} {cluster : ClusterState}

theorem Applied.routes_iff (h : Applied cmd x x') (hlisted : cluster.vni ∉ cmd.clusters.map (·.vni))
    (htomb : cluster.vni ∉ cmd.clusterTombstones.map (·.vni)) {r : Route} (hr : r.dev = cluster.vni) :
    r ∈ x'.net.kernel.routes.rows ↔ r ∈ x.net.kernel.routes.rows ∧ r.key ∉ cmd.clusters.flatMap clusterKeys := by
  obtain ⟨s₁, hs₁, hburied⟩ := h.net
  rw [hburied.routes (hr ▸ htomb)]
  exact hs₁.only.routes r (hr ▸ hlisted)

theorem Applied.rule_iff (h : Applied cmd x x') {cidr : String} :
    x'.net.kernel.rules.count (.masquerade cidr) = x.net.kernel.rules.count (.masquerade cidr) ↔
      (.masquerade cidr ∈ x.net.kernel.rules →
        cidr ∉ removedCidrs (x.net.expected cmd.clusters) cmd.clusterTombstones) ∧
      (.masquerade cidr ∉ x.net.kernel.rules → .masquerade cidr ∈ cmd.clusters.flatMap clusterRules →
        cidr ∈ removedCidrs (x.net.expected cmd.clusters) cmd.clusterTombstones) := by
  obtain ⟨s₁, hs₁, hburied⟩ := h.net
  have hentry : s₁.entry = x.net.expected cmd.clusters := funext hs₁.entries
  have hcount : s₁.kernel.rules.count (.masquerade cidr) = _ :=
    (congrArg (List.count (Rule.masquerade cidr)) hs₁.only.rules).trans count_foldl_ensured
  rw [hburied.rules, hentry, hcount]
  generalize removedCidrs (x.net.expected cmd.clusters) cmd.clusterTombstones = gone
  generalize cmd.clusters.flatMap clusterRules = wanted
  by_cases hthere : Rule.masquerade cidr ∈ x.net.kernel.rules
  · -- the rule is there: it stays as often as it was, if none is removed
    have hpos : 0 < x.net.kernel.rules.count (.masquerade cidr) := count_pos_iff.mpr hthere
    rw [if_neg fun h => h.2 hthere]
    simp only [hthere, true_imp_iff, not_true_eq_false, false_imp_iff, and_true]
    rw [← count_eq_zero]
    omega
  · have hzero : x.net.kernel.rules.count (.masquerade cidr) = 0 := count_eq_zero_of_not_mem hthere
    rw [hzero]
    simp only [hthere, not_false_eq_true, and_true, true_imp_iff, false_imp_iff, true_and]
    by_cases hwanted : Rule.masquerade cidr ∈ wanted
    · rw [if_pos hwanted]
      simp only [hwanted, true_imp_iff]
      rw [← count_pos_iff]
      omega
    · rw [if_neg hwanted]
      simp [hwanted]

theorem Applied.proxies_iff (h : Applied cmd x x') {a : String} : a ∈ x'.net.kernel.proxies ↔
    ∃ v e, v ∉ cmd.clusterTombstones.map (·.vni) ∧ x.net.expected cmd.clusters v = some e ∧ a ∈ e.proxyArpAddrs := by
  obtain ⟨s₁, hs₁, hburied⟩ := h.net
  rw [hburied.contributed (contributed_iff.mpr hs₁.proxies) a]
  refine exists_congr fun v => exists_congr fun e => ?_
  rw [hburied.entries v, hs₁.entries v]
  by_cases hv : v ∈ cmd.clusterTombstones.map (·.vni) <;> simp [hv]

theorem Applied.paths_iff (h : Applied cmd x x') {p : String} : (p ∈ x'.rib.own ↔ p ∈ x.rib.own) ↔
    (x.bgpSpeaker = true → (p ∈ x.rib.own → p ∈ advertised cmd.clusters) ∧
      (p ∉ x.rib.own → p ∈ advertised cmd.clusters → p ∈ x.rib.learned)) := by
  rw [h.rib]
  cases x.bgpSpeaker with
  | false => simp
  | true =>
    rw [if_pos rfl, Rib.mem_own_reconcilePaths]
    by_cases hown : p ∈ x.rib.own <;> simp [hown]

/-- A command leaves a cluster that it does not name as it was, exactly if it spares it. -/
theorem Applied.untouched_iff (h : Applied cmd x x') (hlisted : cluster.vni ∉ cmd.clusters.map (·.vni))
    (htomb : cluster.vni ∉ cmd.clusterTombstones.map (·.vni)) : Untouched cluster x x' ↔ Spared cluster x cmd := by
  constructor
  · intro hun
    obtain ⟨hkept, habsent⟩ := h.rule_iff.mp hun.rule
    refine ⟨fun r hr hdev => ?_, hkept, habsent, fun a ha => ?_, fun hspeaker p hp => ?_⟩
    · exact ((h.routes_iff hlisted htomb hdev).mp ((hun.routes r hdev).mpr hr)).2
    · rw [← hun.proxies a ha, h.proxies_iff]
    · exact h.paths_iff.mp (hun.paths p hp) hspeaker
  · intro hspared
    obtain ⟨s₁, hs₁, hburied⟩ := h.net
    refine ⟨fun b hb => ?_, fun v hv => ?_, fun r hr => ?_, ?_, fun a ha => ?_, fun p hp => ?_⟩
    · rw [hburied.bridges (hb ▸ htomb)]
      exact hs₁.only.bridges b (hb ▸ hlisted)
    · rw [hburied.vxlans (hv ▸ htomb)]
      exact hs₁.only.vxlans v (hv ▸ hlisted)
    · rw [h.routes_iff hlisted htomb hr]
      exact and_iff_left_of_imp fun hrow => hspared.routes r hrow hr
    · exact h.rule_iff.mpr ⟨hspared.kept, hspared.absent⟩
    · rw [h.proxies_iff, hspared.proxies a ha]
    · exact h.paths_iff.mpr fun hspeaker => hspared.paths hspeaker p hp

/-- **Absence is not intent where the cluster is spared**, and only there. -/
theorem unnamed_untouched_iff (spec : NodeSpec) (cmd : ReconcileHostCommand) (x : Node) (cluster : ClusterState)
    (hlisted : cluster.vni ∉ cmd.clusters.map (·.vni)) (htomb : cluster.vni ∉ cmd.clusterTombstones.map (·.vni)) :
    Untouched cluster x ((applyReconcile spec cmd).eval (NodeOp.exec spec) x).1 ↔ Spared cluster x cmd :=
  (applied_applyReconcile spec cmd x).untouched_iff hlisted htomb

/-! ### A node after a restart -/

/-- A cluster with a VIP that `host-a` answers for. -/
def lanCluster : ClusterState where
  clusterId := "c-7"
  vni := 7
  cidr := "10.200.0.0/24"
  clusterVips := [{ cidr := "10.0.0.5/32", ownerHostId := "host-a" }]

/-- `host-a` as its agent finds it after a restart: the cluster's devices and entry, and no memory of them. -/
def restarted : Node where
  host := { images := fun _ => .error "no such image" }
  net :=
    { kernel :=
        { bridges := ⟨[{ vni := 7, up := true }], by decide⟩
          vxlans := ⟨[{ vni := 7, localAddress := "192.0.2.1", up := true, attached := true }], by decide⟩
          proxies := ["10.0.0.5"] }
      hostId := "host-a" }

def plainSpec : NodeSpec := ⟨⟨"vg0", [], fun _ => "", nodup_nil⟩, ⟨"192.0.2.1", 1500, "br0"⟩⟩

/-- The agent remembers the cluster. -/
def remembering : Node :=
  { restarted with net := { restarted.net with live := ⟨[clusterLive lanCluster "host-a"], by simp⟩ } }

/-- A command for another cluster of the host. -/
def otherListed : ReconcileHostCommand :=
  ⟨[{ lanCluster with
      clusterId := "c-8", vni := 8, cidr := "10.201.0.0/24", clusterVips := [⟨"10.0.0.6/32", "host-a"⟩] }], [], []⟩

/-- An agent that remembers the cluster and has no BGP speaker leaves it alone. -/
theorem unnamed_untouched_remembered : 7 ∉ otherListed.clusters.map (·.vni) ∧
    Untouched lanCluster remembering
      ((applyReconcile plainSpec otherListed).eval (NodeOp.exec plainSpec) remembering).1 := by
  refine ⟨by decide, (unnamed_untouched_iff _ _ _ lanCluster (by decide) (by decide)).mpr ?_⟩
  refine ⟨fun r hr => (by cases hr), fun hr => (by cases hr), fun _ hr => absurd hr (by decide), fun a ha => ?_, nofun⟩
  have haddr : a = "10.0.0.5" := by
    have hone : vipAddrs lanCluster = ["10.0.0.5"] := by decide +kernel
    rwa [hone, mem_singleton] at ha
  subst haddr
  refine iff_of_true (by decide) ⟨7, clusterLive lanCluster "host-a", by decide, by rfl, by decide +kernel⟩

/-- A command that names nothing, to a restarted agent, takes the cluster's proxy-ARP entry. -/
theorem unnamed_touched : ∃ (spec : NodeSpec) (cmd : ReconcileHostCommand) (x : Node) (cluster : ClusterState),
    cluster.vni ∉ cmd.clusters.map (·.vni) ∧ cluster.vni ∉ cmd.clusterTombstones.map (·.vni) ∧
    ¬Untouched cluster x ((applyReconcile spec cmd).eval (NodeOp.exec spec) x).1 := by
  refine ⟨plainSpec, ⟨[], [], []⟩, restarted, lanCluster, by decide, by decide, fun h => ?_⟩
  have hentry := h.proxies "10.0.0.5" (by decide +kernel)
  exact absurd (hentry.mpr (by decide)) (by decide +kernel)

end Absence

end BasisCell.Agent
