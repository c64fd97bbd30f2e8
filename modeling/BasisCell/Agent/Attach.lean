import BasisCell.Agent.Node

/-!
# `BasisCell.Agent.Attach` — a VM joins the bridge of its cluster

`attach_vm_primary` makes sure that bridge and VXLAN device are there by `ensure_cluster_inner` on a cluster without
peers, gateway and trust domain. Where the cluster is up, all of its steps find their work done but the last, which
takes the flood destinations to be those of no peers. So the cluster stays as it is iff it floods nowhere.
-/

namespace BasisCell.Agent

open Conc Conc.Prog Relational Table Network List

/-! ## The operation -/

/-- What `ensure_bootstrap` asks for. -/
def bootstrapState (vni : Nat) : ClusterState := { clusterId := "", vni, cidr := "" }

def ensureBootstrap (spec : NetSpec) (vni : Nat) : NetFallible Unit := do
  ensureClusterInner spec (bootstrapState vni)
  if (← live (.find vni)).isNone then live (.insert { vni })

/-- `attach_vm_primary`, on a whole host. -/
def Node.attachVmPrimary (spec : NodeSpec) (vmId : VmId) (vni : Nat) (x : Node) : Node × Except AgentError String :=
  match (ensureBootstrap spec.net vni).run.eval NetOp.exec x.net with
  | (net, .error e) => ({ x with net }, .error (.network e))
  | (net, .ok _) =>
    let (host, r) := (Agent.attachVmPrimary spec.host vmId vni).run.eval Op.exec x.host
    ({ x with net, host }, r)

/-- VRF membership and addresses of a bridge. -/
def Network.Bridge.place (b : Bridge) : Nat × Option String × List String := (b.vni, b.master, b.addresses)

def Network.Vxlan.floods (l : Vxlan) : Nat × List String := (l.vni, l.flood)

/-- Flood destinations, VRF membership, addresses, routes, contributions and all else are what they were. -/
structure Unharmed (s s' : Net) : Prop where
  floods : s'.kernel.vxlans.rows.map (·.floods) = s.kernel.vxlans.rows.map (·.floods)
  bridges : s'.kernel.bridges.rows.map (·.place) = s.kernel.bridges.rows.map (·.place)
  routes : s'.kernel.routes = s.kernel.routes
  rules : s'.kernel.rules = s.kernel.rules
  proxies : s'.kernel.proxies = s.kernel.proxies
  vrfs : s'.kernel.vrfs = s.kernel.vrfs
  live : s'.live = s.live

section Bootstrap

variable {spec : NetSpec} {s : Net} {vni : Nat} {k₀ k : Kernel} {dropped : List String}

/-! ## A cluster without peers -/

/-- The kernel is what it was, but for MTUs, the state of links and the destinations that were dropped. -/
structure Bare (vni : Nat) (k₀ : Kernel) (dropped : List String) (k : Kernel) : Prop where
  floods : k.vxlans.rows.map (·.floods) =
    k₀.vxlans.rows.map fun l => (l.vni, if l.vni = vni then l.flood.filter (· ∉ dropped) else l.flood)
  bridges : k.bridges.rows.map (·.place) = k₀.bridges.rows.map (·.place)
  routes : k.routes = k₀.routes
  rules : k.rules = k₀.rules
  proxies : k.proxies = k₀.proxies
  vrfs : k.vrfs = k₀.vrfs

theorem Bare.has (h : Bare vni k₀ dropped k) (hbridge : k₀.hasBridge vni = true) (hvxlan : k₀.hasVxlan vni = true) :
    k.hasBridge vni = true ∧ k.hasVxlan vni = true := by
  constructor
  · obtain ⟨b, hb, hvni⟩ := Kernel.hasBridge_iff.mp hbridge
    have hmem : b.place ∈ k.bridges.rows.map (·.place) := h.bridges ▸ mem_map_of_mem hb
    obtain ⟨b', hb', hplace⟩ := mem_map.mp hmem
    exact Kernel.hasBridge_iff.mpr ⟨b', hb', (congrArg Prod.fst hplace).trans hvni⟩
  · obtain ⟨l, hl, hvni⟩ := Kernel.hasVxlan_iff.mp hvxlan
    have hmem : _ ∈ k.vxlans.rows.map (·.floods) := h.floods ▸ mem_map_of_mem hl
    obtain ⟨l', hl', hfloods⟩ := mem_map.mp hmem
    exact Kernel.hasVxlan_iff.mpr ⟨l', hl', (congrArg Prod.fst hfloods).trans hvni⟩

theorem Bare.setBridge (h : Bare vni k₀ dropped k) {v : Nat} {f : Bridge → Bridge} (hf : KeepsKey f)
    (hplace : ∀ b, (f b).place = b.place) : Bare vni k₀ dropped (k.setBridge v f hf) := by
  refine { h with bridges := (map_rows_update hf _).trans ?_ }
  simpa [hplace] using h.bridges

theorem Bare.setVxlan (h : Bare vni k₀ dropped k) {v : Nat} {f : Vxlan → Vxlan} (hf : KeepsKey f)
    (hfloods : ∀ l, (f l).floods = l.floods) : Bare vni k₀ dropped (k.setVxlan v f hf) := by
  refine { h with floods := (map_rows_update hf _).trans ?_ }
  simpa [hfloods] using h.floods

theorem Bare.fdbDel (h : Bare vni k₀ dropped k) (hvxlan : k.hasVxlan vni = true) (dst : String) :
    Bare vni k₀ (dropped ++ [dst]) ((NetCmd.fdbDel vni dst).exec k).1 := by
  have hdrop : KeepsKey fun l : Vxlan => { l with flood := l.flood.filter (· ≠ dst) } := fun _ _ => Iff.rfl
  have hexec : (NetCmd.fdbDel vni dst).exec k = (k.setVxlan vni _ hdrop, .ok ()) := onObject_ok hvxlan
  rw [hexec]
  refine { h with floods := (map_rows_update hdrop _).trans ?_ }
  have hmap := congrArg (map fun p => (p.1, if p.1 = vni then p.2.filter (· ≠ dst) else p.2)) h.floods
  rw [map_map, map_map] at hmap
  refine Eq.trans (map_congr_left fun l _ => ?_) (hmap.trans (map_congr_left fun l _ => ?_))
  · by_cases hl : l.vni = vni <;> simp [Vxlan.floods, hl]
  · by_cases hl : l.vni = vni <;> simp [hl, filter_filter, and_comm]

/-- **Bootstrap of a cluster that is up** takes its flood destinations away. -/
theorem ensureClusterInner_bootstrap (hbridge : s.kernel.hasBridge vni = true) (hvxlan : s.kernel.hasVxlan vni = true) :
    OnKernel (ensureClusterInner spec (bootstrapState vni)) s fun _ k' =>
      ∃ dropped, Bare vni s.kernel dropped k' ∧ ∀ l ∈ s.kernel.vxlans.rows, l.vni = vni → l.flood = dropped := by
  have h₀ : Bare vni s.kernel [] s.kernel := ⟨map_congr_left fun l _ => by simp [Vxlan.floods], rfl, rfl, rfl, rfl, rfl⟩
  -- bridge and device are there, so nothing is added, and what is set about them does not matter
  have hset : ∀ {k k' : Kernel} {c : NetCmd} {out : c.Out} {present : Bool}, Bare vni s.kernel [] k →
      c.exec k = onObject present k k' out → (k.hasBridge vni = true → k.hasVxlan vni = true → present = true) →
      Bare vni s.kernel [] k' →
        OnKernel (runCmd spec c) { s with kernel := k } fun _ k' => Bare vni s.kernel [] k' := by
    intro k k' c out present hk hexec hpresent hk'
    obtain ⟨hb, hx⟩ := hk.has hbridge hvxlan
    rw [onObject_ok (hpresent hb hx)] at hexec
    exact onKernel_runCmd (congrArg Prod.snd hexec) ((congrArg Prod.fst hexec).symm ▸ hk')
  have hthere : ∀ {link : Link} {add : NetFallible Unit} {k : Kernel}, Bare vni s.kernel [] k → k.has link = true →
      OnKernel (createMissing link add) { s with kernel := k } fun _ k' => Bare vni s.kernel [] k' := by
    intro link add k hk hlink
    refine createMissing_spec (fun _ => hk) fun hmissing => ?_
    exact absurd hlink (Bool.eq_false_iff.mp hmissing)
  have hidle : ∀ {k : Kernel}, Bare vni s.kernel [] k →
      OnKernel (pure ()) { s with kernel := k } fun _ k' => Bare vni s.kernel [] k' := fun h => onKernel_pure h
  refine OnKernel.bind (Q := fun _ k' => Bare vni s.kernel [] k') ?_ fun _ k₁ h₁ => ?_
  · refine OnKernel.bind (hthere h₀ hbridge) fun _ k h => ?_
    refine OnKernel.bind (hset h rfl (fun hb _ => hb) (h.setBridge _ fun _ => rfl)) fun _ k h => ?_
    exact hset h rfl (fun hb _ => hb) (h.setBridge _ fun _ => rfl)
  refine OnKernel.bind (hidle h₁) fun _ k₂ h₂ => ?_
  refine OnKernel.bind (Q := fun _ k' => Bare vni s.kernel [] k') ?_ fun _ k₃ h₃ => ?_
  · refine OnKernel.bind (hthere h₂ (h₂.has hbridge hvxlan).2) fun _ k h => ?_
    refine OnKernel.bind (hset h rfl (fun _ hx => hx) (h.setVxlan _ fun _ => rfl)) fun _ k h => ?_
    exact hset h rfl (fun _ hx => hx) (h.setVxlan _ fun _ => rfl)
  refine OnKernel.bind (hidle h₃) fun _ k₄ h₄ => OnKernel.bind (hidle h₄) fun _ k₅ h₅ => ?_
  refine OnKernel.bind (hidle h₅) fun _ k₆ h₆ => ?_
  -- `reconcile_fdb` with no peers
  have hx := (h₆.has hbridge hvxlan).2
  refine OnKernel.bind (Q := fun current k' => k' = k₆ ∧ ∀ l ∈ s.kernel.vxlans.rows, l.vni = vni → l.flood = current)
    ?_ ?_
  · refine OnKernel.bind (onKernel_show (c := .fdbShow vni) rfl) ?_
    rintro _ k ⟨rfl, rfl⟩
    rw [hx]
    refine onKernel_pure ⟨rfl, fun l hl hvni => ?_⟩
    have hmem : _ ∈ k.vxlans.rows.map (·.floods) := h₆.floods ▸ mem_map_of_mem hl
    obtain ⟨l', hl', hfloods⟩ := mem_map.mp hmem
    have hfound : (k.vxlans.find fun l => l.vni = vni) = some l' :=
      (find_eq_some fun a b ha hb => (of_decide_eq_true ha).trans (of_decide_eq_true hb).symm).mpr
        ⟨hl', decide_eq_true ((congrArg Prod.fst hfloods).trans hvni)⟩
    rw [hfound]
    show l.flood = l'.flood
    simpa [hvni, Vxlan.floods] using (congrArg Prod.snd hfloods).symm
  · rintro current _ ⟨rfl, hcurrent⟩
    refine OnKernel.bind (hidle h₆) fun _ k₇ h₇ => ?_
    have hall : current.filter (· ∉ ([] : List String)) = current := by simp
    show OnKernel ((current.filter (· ∉ ([] : List String))).forM _) _ _
    rw [hall]
    refine (onKernel_forM (J := fun done k => Bare vni s.kernel done k) ?_ h₇).mono
      fun _ k' hk' => ⟨current, hk', hcurrent⟩
    intro done dst rest k _ hk
    exact onKernel_logged (hk.fdbDel (hk.has hbridge hvxlan).2 dst)

theorem ensureBootstrap_spec (hbridge : s.kernel.hasBridge vni = true) (hvxlan : s.kernel.hasVxlan vni = true)
    (hlive : (s.live.find fun e => e.vni = vni).isSome = true) : OnKernel (ensureBootstrap spec vni) s fun _ k' =>
      ∃ dropped, Bare vni s.kernel dropped k' ∧ ∀ l ∈ s.kernel.vxlans.rows, l.vni = vni → l.flood = dropped := by
  refine OnKernel.bind (ensureClusterInner_bootstrap hbridge hvxlan) fun _ k hk => ?_
  refine OnKernel.bind (Q := fun e k' => e.isSome = true ∧ k' = k) ⟨_, _, rfl, _, rfl, hlive, rfl⟩ ?_
  rintro e _ ⟨he, rfl⟩
  cases e with
  | none => cases he
  | some e => exact onKernel_pure hk

end Bootstrap

section Commands

variable {ε α : Type} {f : String → ε} {c : Cmd} {s s' : Host} {a : c.Resp}

/-! ## The tap -/

theorem succeeds_command (h : c.exec s = (s', .ok a)) {Q : c.Resp → Host → Prop} (hq : Q a s') :
    Succeeds Op.exec (orFail f (command c)) s Q := by
  refine ⟨a, s', ?_, hq⟩
  have hstep : (orFail f (command c)).run.eval Op.exec s = _ := eval_bind (command c) _ s
  have hexec : (command c).eval Op.exec s = (s', .ok a) := h
  rw [hstep, hexec]
  rfl

theorem succeeds_command_bind (h : c.exec s = (s', .ok a)) {g : c.Resp → Fallible ε α} {R : α → Host → Prop}
    (hg : Succeeds Op.exec (g a) s' R) : Succeeds Op.exec (orFail f (command c) >>= g) s R := by
  refine Succeeds.bind (Q := fun b t => b = a ∧ t = s') (succeeds_command h ⟨rfl, rfl⟩) fun b t hbt => ?_
  rw [hbt.1, hbt.2]
  exact hg

end Commands

/-- A tap that is not there is added. -/
theorem ensureTapOnBridge_spec {tap bridge : String} {s : Host} (h : tap ∉ s.taps) :
    Succeeds Op.exec (ensureTapOnBridge tap bridge) s fun _ s' => s' = { s with taps := s.taps ++ [tap] } := by
  have hadd : (Cmd.tuntapAdd tap).exec s = ({ s with taps := s.taps ++ [tap] }, .ok ()) := if_neg h
  have hthere : tap ∈ s.taps ++ [tap] := by simp
  refine succeeds_command_bind rfl ?_
  rw [decide_eq_false h]
  refine succeeds_command_bind hadd ?_
  refine succeeds_command_bind (c := .linkSetMaster tap bridge) (congrArg (Prod.mk _) (if_pos hthere)) ?_
  exact succeeds_command (c := .linkSetUp tap) (congrArg (Prod.mk _) (if_pos hthere)) rfl

theorem attachVmPrimary_spec {spec : HostSpec} {vmId : VmId} {vni : Nat} {s : Host}
    (htap : spec.primaryTapName vmId ∉ s.taps) : (Agent.attachVmPrimary spec vmId vni).run.eval Op.exec s =
      ({ s with taps := s.taps ++ [spec.primaryTapName vmId] }, .ok (spec.primaryTapName vmId)) := by
  have h : Succeeds Op.exec (Agent.attachVmPrimary spec vmId vni) s fun a s' => a = spec.primaryTapName vmId ∧
      s' = { s with taps := s.taps ++ [spec.primaryTapName vmId] } :=
    succeeds_command_bind rfl (Succeeds.bind (ensureTapOnBridge_spec htap) fun _ _ hs' => succeeds_pure ⟨rfl, hs'⟩)
  obtain ⟨_, _, hrun, rfl, rfl⟩ := h
  exact hrun

/-! ## Attaching a VM -/

/-- **A cluster that is up does not notice a new VM** iff it has nowhere to flood to. -/
theorem attach_unharmed_iff (spec : NodeSpec) (vmId : VmId) (vni : Nat) (x : Node)
    (hbridge : x.net.kernel.hasBridge vni = true) (hvxlan : x.net.kernel.hasVxlan vni = true)
    (hlive : (x.net.live.find fun e => e.vni = vni).isSome = true)
    (htap : spec.host.primaryTapName vmId ∉ x.host.taps) :
    let tap := spec.host.primaryTapName vmId
    ∃ net, ((ensureBootstrap spec.net vni).run.eval NetOp.exec x.net) = (net, .ok ()) ∧
      x.attachVmPrimary spec vmId vni =
        ({ x with net, host := { x.host with taps := x.host.taps ++ [tap] } }, .ok tap) ∧
      (Unharmed x.net net ↔ ∀ l ∈ x.net.kernel.vxlans.rows, l.vni = vni → l.flood = []) := by
  obtain ⟨_, _, hrun, k, rfl, dropped, hbare, hdropped⟩ := @ensureBootstrap_spec spec.net _ _ hbridge hvxlan hlive
  refine ⟨_, hrun, ?_, fun h l hl hvni => ?_, fun h => ⟨hbare.floods.trans ?_, hbare.bridges, hbare.routes,
    hbare.rules, hbare.proxies, hbare.vrfs, rfl⟩⟩
  · rw [Node.attachVmPrimary, hrun, attachVmPrimary_spec htap]
  · have hkept := map_inj_left.mp (hbare.floods.symm.trans h.floods) l hl
    have hnone : dropped.filter (· ∉ dropped) = [] := filter_eq_nil_iff.mpr (by simp)
    rw [if_pos hvni, hdropped l hl hvni, hnone] at hkept
    exact (congrArg Prod.snd hkept).symm
  · refine map_congr_left fun l hl => ?_
    by_cases hvni : l.vni = vni
    · simp [Vxlan.floods, h l hl hvni]
    · simp [Vxlan.floods, hvni]

/-- A host on which a cluster with these VTEPs has been reconciled. -/
def clustered (vteps : List String) : Node where
  host := { images := fun _ => .error "no such image" }
  net := ((reconcile plainSpec.net [⟨"c-7", 7, "10.200.0.0/24", "10.200.0.1", 24, vteps, "", [], []⟩]).run.eval
    NetOp.exec {}).1

/-- The cluster is on this host only. -/
theorem attach_unharmed_alone : ∃ net, ((clustered ["192.0.2.1"]).attachVmPrimary plainSpec "vm-1" 7).1.net = net ∧
    Unharmed (clustered ["192.0.2.1"]).net net := by
  obtain ⟨net, -, hattach, hiff⟩ := attach_unharmed_iff plainSpec "vm-1" 7 (clustered ["192.0.2.1"]) (by decide +kernel)
    (by decide +kernel) (by decide +kernel) (by decide +kernel)
  exact ⟨net, by rw [hattach], hiff.mpr (by decide +kernel)⟩

/-- The cluster has a peer. After the VM has come, its broadcasts do not reach the peer. -/
theorem attach_drops_peer :
    let x := clustered ["192.0.2.1", "192.0.2.2"]
    x.net.kernel.vxlans.rows.map (·.floods) = [(7, ["192.0.2.2"])] ∧
      (x.attachVmPrimary plainSpec "vm-1" 7).2 = .ok (plainSpec.host.primaryTapName "vm-1") ∧
      (x.attachVmPrimary plainSpec "vm-1" 7).1.net.kernel.vxlans.rows.map (·.floods) = [(7, [])] := by
  decide +kernel

end BasisCell.Agent
