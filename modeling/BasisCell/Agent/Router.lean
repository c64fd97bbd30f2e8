import BasisCell.Lib.Steady
import BasisCell.Agent.NetEffects

/-!
# `BasisCell.Agent.Router` — the two writers of a host's routes

Commands of the controller program link routes for the VIPs of clusters. Beside them runs the route watcher
(`bgp_routes.rs`): it subscribes to the best paths of the BGP daemon and installs a route with a next hop for each of
them whose next hop lies in a live cluster. A command holds the lock of `live` from its first operation to its last.
The watcher takes the lock only to find the cluster of a next hop, so its `ip route` commands interleave with those
of a command.

`Router.step` has one event for every operation of either writer, and for what the daemon does: best paths change,
the stream breaks, a new subscription replays the table. A table event is handled from its last path to its first.
-/

namespace BasisCell.Agent

open Conc Conc.Prog Relational Table Network List Transition

/-! ## Learned routes -/

/-- A path of the stream. -/
structure LearnedRoute where
  dst : String
  nextHop : Ipv4Addr
  isWithdraw : Bool := false
  deriving DecidableEq, Repr

/-- `locate_next_hop`, on the entries of `live`: the cluster whose CIDR has the address, and its routing table. -/
def located (entries : List ClusterLive) (nextHop : Ipv4Addr) : Option (Nat × Option Nat) :=
  entries.findSome? fun e =>
    match e.cidr.bind Ipv4Net.parse with
    | some net => if net.contains nextHop then some (e.vni, e.vrf.map (·.tableId)) else none
    | none => none

def locateNextHop (nextHop : Ipv4Addr) : NetFallible (Option (Nat × Option Nat)) := do
  let entries ← live .values
  return located entries nextHop

/-- `tables_for`: the main table, and that of the cluster's VRF. -/
def tablesFor (vrf : Option Nat) : List (Option Nat) := none :: (vrf.map some).toList

def installLearnedRoute (spec : NetSpec) (dst : String) (nextHop : Ipv4Addr) : NetFallible Unit := do
  match ← locateNextHop nextHop with
  | none => return ()
  | some (vni, vrfTable) =>
    (tablesFor vrfTable).forM fun table => runCmd spec (.viaReplace vni table dst nextHop.text)

def withdrawLearnedRoute (dst : String) (nextHop : Ipv4Addr) : NetFallible Unit := do
  match ← locateNextHop nextHop with
  | none => return ()
  | some (vni, vrfTable) =>
    (tablesFor vrfTable).forM fun table => logged (.viaDel vni table dst nextHop.text)

/-- The body of `watch_once`'s loop. -/
def LearnedRoute.handle (spec : NetSpec) (route : LearnedRoute) : NetFallible Unit :=
  if route.isWithdraw then withdrawLearnedRoute route.dst route.nextHop
  else installLearnedRoute spec route.dst route.nextHop

/-! ## The router -/

/-- A row of the daemon's table of best paths. -/
structure BestPath where
  dst : String
  nextHop : Ipv4Addr
  deriving DecidableEq, Repr

instance : Schema BestPath where
  Clash a b := a.dst = b.dst
  clash_symm h := h.symm
  decClash _ _ := inferInstance

inductive PathChange where
  | announce (dst : String) (nextHop : Ipv4Addr)
  | withdraw (dst : String)
  deriving DecidableEq, Repr

/-- One change: the new table, and what the stream carries. A withdrawal names the path that was withdrawn. -/
def PathChange.apply (best : Table BestPath) : PathChange → Table BestPath × List LearnedRoute
  | .announce dst nextHop => (best.upsert ⟨dst, nextHop⟩, [{ dst, nextHop }])
  | .withdraw dst =>
    (best.delete fun p => p.dst = dst,
      ((best.find fun p => p.dst = dst).map fun p => ⟨dst, p.nextHop, true⟩).toList)

/-- Changes that are reported in one table event. -/
def applyChanges (best : Table BestPath) : List PathChange → Table BestPath × List LearnedRoute
  | [] => (best, [])
  | change :: rest =>
    let (best', paths) := change.apply best
    let (best'', paths') := applyChanges best' rest
    (best'', paths ++ paths')

structure Router where
  net : Net := {}
  /-- The reconcile or tombstone under way; it holds the lock of `live` until it has returned. -/
  command : NetJob (Except NetworkError Unit) := .ret (.ok ())
  best : Table BestPath := .empty
  /-- The table events that the watcher has not received yet; `none` while the stream is down. -/
  stream : Option (List (List LearnedRoute)) := none
  /-- What is left of the last one received. -/
  buffered : List LearnedRoute := []
  /-- The path in hand, and the rest of its handling. -/
  route : Option LearnedRoute := none
  handling : NetJob (Except NetworkError Unit) := .ret (.ok ())

inductive RouterEvent where
  /-- A command begins. -/
  | reconcile (desired : List ClusterState)
  | tombstone (vni : Nat) (cidr : String)
  /-- Its next operation. -/
  | command
  /-- Best paths change. -/
  | change (batch : List PathChange)
  /-- The stream breaks; what was not received is lost. -/
  | drop
  | subscribe
  /-- The watcher receives a table event, takes the last path that it has left, and handles it. -/
  | receive
  | next
  | handle

/-- Does the operation need the lock of `live`? -/
def NetOp.locks : NetOp → Bool
  | .live _ => true
  | .cmd _ => false

def Router.step (spec : NetSpec) (x : Router) : RouterEvent → Option Router
  | .reconcile desired =>
    if x.command.finished then some { x with command := (Network.reconcile spec desired).run } else none
  | .tombstone vni cidr =>
    if x.command.finished then some { x with command := (Network.tombstoneCluster vni cidr).run } else none
  | .command =>
    match x.command with
    | .call o k => some { x with net := (o.exec x.net).1, command := k (o.exec x.net).2 }
    | .ret _ => none
  | .change batch =>
    let (best, paths) := applyChanges x.best batch
    some { x with best, stream := x.stream.map (· ++ [paths]) }
  | .drop => if x.stream.isSome then some { x with stream := none } else none
  | .subscribe =>
    if x.stream = none ∧ x.buffered = [] ∧ x.handling.finished then
      some { x with stream := some [x.best.rows.map fun p => ⟨p.dst, p.nextHop, false⟩] }
    else none
  | .receive =>
    match x.stream with
    | some (paths :: rest) =>
      if x.buffered = [] ∧ x.handling.finished then some { x with stream := some rest, buffered := paths } else none
    | _ => none
  | .next =>
    match x.buffered.getLast? with
    | some route =>
      if x.handling.finished then
        some { x with buffered := x.buffered.dropLast, route := some route, handling := (route.handle spec).run }
      else none
    | none => none
  | .handle =>
    match x.handling with
    | .call o k =>
      if NetOp.locks o ∧ !x.command.finished then none
      else some { x with net := (o.exec x.net).1, handling := k (o.exec x.net).2 }
    | .ret _ => none

/-! ## What a command does to the routes -/

/-- The route that the command installs. -/
def Network.NetCmd.adds (r : Route) : NetCmd → Prop
  | .routeReplace vni table dst => r = { table, dst, dev := vni }
  | .replyRoute vni dst => r = { table := none, dst, dev := vni }
  | .viaReplace vni table dst nextHop => r = { table, dst, dev := vni, via := some nextHop }
  | _ => False

/-- The command may take the route away, or replace it. -/
def Network.NetCmd.takes (k : Kernel) (r : Route) : NetCmd → Prop
  | .routeReplace _ table dst => r.table = table ∧ r.dst = dst
  | .replyRoute _ dst => r.table = none ∧ r.dst = dst
  | .viaReplace _ table dst _ => r.table = table ∧ r.dst = dst
  | .routeDel vni table dst => r.table = table ∧ r.dst = dst ∧ r.dev = vni
  | .viaDel vni table dst nextHop => r = { table, dst, dev := vni, via := some nextHop }
  | .enslave vni vrf => r.dev = vni ∧ ∃ b ∈ k.bridges.rows, b.vni = vni ∧ b.master ≠ some vrf
  | .linkDelete (.bridge vni) => r.dev = vni
  | _ => False

instance (k : Kernel) (r : Route) (c : NetCmd) : Decidable (c.takes k r) := by
  unfold NetCmd.takes
  split <;> infer_instance

section Routes

variable {k : Kernel} {r : Route} {c : NetCmd}

/-- The routes after a command: what it does not take, and what it installs. -/
def Network.NetCmd.Reroutes (c : NetCmd) (k : Kernel) (routes : Table Route) : Prop :=
  ∀ r, (r ∈ routes.rows → r ∈ k.routes.rows ∨ c.adds r) ∧ (r ∈ k.routes.rows → ¬c.takes k r → r ∈ routes.rows)

theorem reroutes_same : c.Reroutes k k.routes := fun _ => ⟨.inl, fun h _ => h⟩

theorem reroutes_upsert (hadds : c.adds r) (htakes : ∀ r', r'.table = r.table ∧ r'.dst = r.dst → c.takes k r') :
    c.Reroutes k (k.routes.upsert r) := by
  refine fun r' => ⟨fun h => ?_, fun h hkept => mem_upsert.mpr (.inl ⟨h, fun hclash => hkept (htakes r' hclash)⟩)⟩
  rcases mem_upsert.mp h with ⟨hold, -⟩ | rfl
  · exact .inl hold
  · exact .inr hadds

theorem reroutes_delete {p : Route → Bool} (htakes : ∀ r, p r = true → c.takes k r) :
    c.Reroutes k (k.routes.delete p) :=
  fun r => ⟨fun h => .inl (mem_delete.mp h).1, fun h hkept =>
    mem_delete.mpr ⟨h, Bool.eq_false_of_not_eq_true fun hp => hkept (htakes r hp)⟩⟩

theorem reroutes_exec (c : NetCmd) (k : Kernel) : c.Reroutes k (c.exec k).1.routes := by
  cases c with
  | routeReplace vni table dst | replyRoute vni dst | viaReplace vni table dst nextHop =>
    exact onObject_fst reroutes_same (reroutes_upsert rfl fun _ h => h)
  | routeDel vni table dst | viaDel vni table dst nextHop =>
    exact onObject_fst reroutes_same (reroutes_delete fun _ h => of_decide_eq_true h)
  | enslave vni vrf =>
    refine onObject_fst reroutes_same ?_
    simp only [Kernel.enslaved]
    split
    · rename_i hmoved
      exact reroutes_delete fun r hr => ⟨of_decide_eq_true hr, by simpa using hmoved⟩
    · exact reroutes_same
  | linkDelete link =>
    cases link with
    | bridge vni => exact onObject_fst reroutes_same (reroutes_delete fun _ h => of_decide_eq_true h)
    | _ => exact onObject_fst reroutes_same reroutes_same
  | linkAddBridge vni | linkAddVxlan vni addr | linkAddVrf vrf => exact onNew_fst reroutes_same fun _ _ => reroutes_same
  | linkSetMtu link mtu | linkSetUp link => cases link <;> exact onObject_fst reroutes_same reroutes_same
  | listBridges | neighShow | ruleAppend rule | neighReplace addr | arping addr => exact reroutes_same
  | _ => exact onObject_fst reroutes_same reroutes_same

theorem mem_routes_exec (h : r ∈ (c.exec k).1.routes.rows) : r ∈ k.routes.rows ∨ c.adds r := (reroutes_exec c k r).1 h

theorem routes_exec_of_not_takes (h : r ∈ k.routes.rows) (hkept : ¬c.takes k r) : r ∈ (c.exec k).1.routes.rows :=
  (reroutes_exec c k r).2 h hkept

end Routes

/-! ## Programs that an invariant survives -/

/-- The command neither installs a route nor deletes a link route. -/
def Network.NetCmd.plain : NetCmd → Bool
  | .routeReplace _ _ _ => false
  | .replyRoute _ _ => false
  | .viaReplace _ _ _ _ => false
  | .routeDel _ _ _ => false
  | _ => true

/-- The invariant survives allowed commands and work on `live`. Plain commands are allowed, and the deletion of a link
    route that is listed. -/
structure Survives (A : NetCmd → Prop) (C : Terms NetOp Net) (J : Net → Prop) : Prop where
  cmd : ∀ {c s}, A c → J s → C.rely (.cmd c) s → C.ensure (.cmd c) s ∧ J { s with kernel := (c.exec s.kernel).1 }
  memory : ∀ {o : LiveOp} {s}, J s → C.ensure (.live o) s ∧ J (o.exec s).1
  plain : ∀ {c}, c.plain = true → A c
  listed : ∀ {s} {r : Route} {vni table}, J s → r ∈ s.kernel.routes.rows → r.via = none → A (.routeDel vni table r.dst)

/-- Every operation of the program keeps the invariant. -/
abbrev Keeps (C : Terms NetOp Net) (J : Net → Prop) {α : Type} (p : NetFallible α) : Prop :=
  p.run.Steady NetOp.exec C J fun _ => True

/-- The link routes that the cluster is to have are allowed. -/
structure Permits (A : NetCmd → Prop) (c : ClusterState) : Prop where
  main : ∀ dst ∈ wantMain c (lanPrefixes c.clusterVips) (expandTreePrefixes c.internalClusterVips),
    A (.routeReplace c.vni none dst)
  vrf : ∀ t, ∀ dst ∈ wantCombined c (lanPrefixes c.clusterVips) (expandTreePrefixes c.internalClusterVips),
    A (.routeReplace c.vni (some t) dst)
  reply : (treeVrf c).isSome = true → c.cidr ≠ "" → A (.replyRoute c.vni c.cidr)

section Walk

variable {A : NetCmd → Prop} {C : Terms NetOp Net} {J : Net → Prop} {spec : NetSpec} {c : NetCmd}

theorem keeps_pure {α : Type} {a : α} : Keeps C J (pure a : NetFallible α) := trivial

theorem keeps_ite {α : Type} {b : Prop} [Decidable b] {p q : NetFallible α} (hp : b → Keeps C J p)
    (hq : ¬b → Keeps C J q) : Keeps C J (if b then p else q) := by
  by_cases hb : b
  · rw [if_pos hb]
    exact hp hb
  · rw [if_neg hb]
    exact hq hb

namespace Survives

variable (h : Survives A C J)

include h

theorem live {o : LiveOp} : Keeps C J (Network.live o) := fun _ hs _ => ⟨h.memory hs, trivial⟩

theorem spawned (hc : A c) : Keeps C J (Network.spawned c) := fun _ hs hC => ⟨h.cmd hc hs hC, trivial⟩

theorem logged (hc : A c) : Keeps C J (Network.logged c) := fun _ hs hC => ⟨h.cmd hc hs hC, trivial⟩

theorem runCmd (hc : A c) : Keeps C J (Network.runCmd spec c) := by
  refine (h.spawned hc).andThen fun r => ?_
  cases r <;> exact trivial

theorem asks (hc : c.plain = true) : Keeps C J (Network.spawned c) := h.spawned (h.plain hc)

theorem tries (hc : c.plain = true) : Keeps C J (Network.logged c) := h.logged (h.plain hc)

theorem runs (hc : c.plain = true) : Keeps C J (Network.runCmd spec c) := h.runCmd (h.plain hc)

theorem createMissing {link : Link} {add : NetFallible Unit} (hadd : Keeps C J add) :
    Keeps C J (Network.createMissing link add) := by
  refine Steady.andThen (q := Network.linkExists link) ?_ fun there => ?_
  · refine (h.asks rfl).andThen fun r => ?_
    cases r <;> exact trivial
  · exact keeps_ite (fun _ => keeps_pure) fun _ => hadd

theorem reconcileFdb {vni : Nat} {peers : List String} :
    Keeps C J (Network.reconcileFdb spec vni peers) := by
  have hlist : Keeps C J (listFdbBumDsts vni) := by
    refine (h.asks rfl).andThen fun r => ?_
    cases r <;> exact trivial
  refine Steady.andThen hlist fun current => ?_
  exact Steady.andThen (steady_forM fun dst _ => h.runs rfl) fun _ => steady_forM fun dst _ => h.tries rfl

theorem ensureIptablesRule {rule : Rule} : Keeps C J (Network.ensureIptablesRule spec rule) := by
  refine (h.asks rfl).andThen fun r => ?_
  cases r with
  | ok out => exact keeps_pure
  | error stderr => exact h.runs rfl

theorem ensureClusterInner {c : ClusterState} (hc : Permits A c) :
    Keeps C J (Network.ensureClusterInner spec c) := by
  have hbridge : Keeps C J (ensureBridge spec c.vni) :=
    (h.createMissing (h.runs rfl)).andThen fun _ => (h.runs rfl).andThen fun _ => h.runs rfl
  have hvrf : Keeps C J (ensureTreeVrf spec c) := by
    unfold ensureTreeVrf
    cases treeVrf c with
    | none => exact keeps_pure
    | some vrf =>
      have hensure : Keeps C J (ensureVrf spec vrf) := (h.createMissing (h.runs rfl)).andThen fun _ => h.runs rfl
      exact Steady.andThen hensure fun _ => h.runs rfl
  have hvxlan : Keeps C J (ensureVxlan spec c.vni) := by
    refine Steady.andThen (h.createMissing ?_) fun _ => (h.runs rfl).andThen fun _ => h.runs rfl
    exact (h.runs rfl).andThen fun _ => h.runs rfl
  have haddress : Keeps C J (ensureBridgeAddress spec c) := keeps_ite (fun _ => h.runs rfl) fun _ => keeps_pure
  have hmasquerade : Keeps C J (ensureMasquerade spec c) := by
    refine keeps_ite (fun _ => ?_) fun _ => keeps_pure
    exact Steady.andThen h.ensureIptablesRule fun _ => h.ensureIptablesRule
  have hreply : Keeps C J (ensureReplyRoute spec c) :=
    keeps_ite (fun hreplies => h.runCmd (hc.reply hreplies.1 hreplies.2.2)) fun _ => keeps_pure
  exact hbridge.andThen fun _ => hvrf.andThen fun _ => hvxlan.andThen fun _ => haddress.andThen fun _ =>
    hmasquerade.andThen fun _ => hreply.andThen fun _ => h.reconcileFdb

theorem reconcileRoutes {vni : Nat} {table : Option Nat} {want : List String}
    (hwant : ∀ dst ∈ want, A (.routeReplace vni table dst)) :
    Keeps C J (Network.reconcileRoutes spec vni table want) := by
  -- what is listed was a link route of a state with the invariant, so its deletion is allowed, whenever it comes
  have hlist : (listKernelPrefixRoutes vni table).run.Steady NetOp.exec C J fun r =>
      ∀ dsts, r = .ok dsts → ∀ dst ∈ dsts, A (.routeDel vni table dst) := by
    intro s hs hC
    refine ⟨h.cmd (h.plain rfl) hs hC, ?_⟩
    simp only [NetOp.exec, NetCmd.exec, onObject]
    split
    · rintro dsts ⟨⟩ dst hdst
      obtain ⟨r, hr, rfl⟩ := mem_map.mp hdst
      obtain ⟨hr, hvia⟩ := mem_filter.mp hr
      exact h.listed hs (mem_filter.mp hr).1 (of_decide_eq_true hvia)
    · rintro dsts ⟨⟩ dst ⟨⟩
  refine hlist.exceptBind (fun current hcurrent => ?_) fun _ => trivial
  refine Steady.andThen (steady_forM fun dst hdst => h.runCmd (hwant dst (mem_filter.mp hdst).1)) fun _ => ?_
  exact steady_forM fun dst hdst => h.logged (hcurrent current rfl dst (mem_filter.mp hdst).1)

theorem reconcileCluster {c : ClusterState} (hc : Permits A c) :
    Keeps C J (Network.reconcileCluster spec c) := by
  refine Steady.andThen (h.ensureClusterInner hc) fun _ => Steady.andThen h.live fun selfHostId => ?_
  refine Steady.andThen (h.reconcileRoutes hc.main) fun _ => ?_
  refine Steady.andThen (q := reconcileVrfRoutes spec c _) ?_ fun _ => h.live
  unfold reconcileVrfRoutes
  cases treeVrf c with
  | none => exact keeps_pure
  | some vrf => exact h.reconcileRoutes (hc.vrf vrf.tableId)

theorem reconcile {desired : List ClusterState} (hdesired : ∀ c ∈ desired, Permits A c) :
    Keeps C J (Network.reconcile spec desired) := by
  have hvnis : Keeps C J (ExceptT.lift listKernelClusterVnis) := fun s hs hC => ⟨h.cmd (h.plain rfl) hs hC, trivial⟩
  have hseed : ∀ vni, Keeps C J (seed vni) := by
    intro vni
    refine Steady.andThen h.live fun entry => keeps_ite (fun _ => ?_) fun _ => keeps_pure
    refine Steady.andThen (q := readBridgeClusterCidr vni) ?_ fun _ => h.live
    refine (h.asks rfl).andThen fun r => ?_
    cases r <;> exact trivial
  have hproxy : Keeps C J (reconcileProxyArp spec) := by
    have hlist : Keeps C J listKernelProxyArp := by
      refine (h.asks rfl).andThen fun r => ?_
      cases r <;> exact trivial
    refine Steady.andThen h.live fun entries => Steady.andThen hlist fun current => ?_
    refine Steady.andThen (steady_forM fun addr _ => ?_) fun _ => steady_forM fun addr _ => h.tries rfl
    exact (h.runs rfl).andThen fun _ => h.tries rfl
  refine Steady.andThen hvnis fun vnis => Steady.andThen (steady_forM fun vni _ => hseed vni) fun _ => ?_
  exact Steady.andThen (steady_forM fun c hc => h.reconcileCluster (hdesired c hc)) fun _ => hproxy

theorem tombstoneCluster {vni : Nat} {cidr : String} :
    Keeps C J (Network.tombstoneCluster vni cidr) := by
  have hvrfOf : ∀ removed, Keeps C J (vrfOf removed vni) := by
    intro removed
    unfold vrfOf
    cases removed.bind (·.vrf) with
    | some vrf => exact keeps_pure
    | none =>
      refine (h.asks rfl).andThen fun r => ?_
      cases r <;> exact trivial
  have hproxy : ∀ removed, Keeps C J (dropProxyArp removed) := by
    intro removed
    cases removed with
    | none => exact keeps_pure
    | some entry =>
      refine steady_forM fun addr _ => Steady.andThen h.live fun others => ?_
      exact keeps_ite (fun _ => keeps_pure) fun _ => h.tries rfl
  have hmasquerade : ∀ cidr, Keeps C J (removeMasquerade cidr) := by
    intro cidr
    cases cidr with
    | none => exact keeps_pure
    | some cidr => exact (h.tries rfl).andThen fun _ => h.tries rfl
  have hdrop : ∀ vrf, Keeps C J (dropVrf vrf) := by
    intro vrf
    cases vrf with
    | none => exact keeps_pure
    | some vrf =>
      refine keeps_ite (fun _ => (h.asks rfl).andThen fun r => ?_) fun _ => keeps_pure
      rcases r with _ | _ | _
      · exact keeps_pure
      · exact h.tries rfl
      · exact keeps_pure
  refine Steady.andThen h.live fun removed => (hvrfOf removed).andThen fun vrf => ?_
  refine (hproxy removed).andThen fun _ => (hmasquerade _).andThen fun _ => ?_
  exact (h.tries rfl).andThen fun _ => (h.tries rfl).andThen fun _ => hdrop vrf

theorem locateNextHop {nextHop : Ipv4Addr} : Keeps C J (Agent.locateNextHop nextHop) :=
  Steady.andThen h.live fun _ => keeps_pure

theorem withdrawLearnedRoute {dst : String} {nextHop : Ipv4Addr} :
    Keeps C J (Agent.withdrawLearnedRoute dst nextHop) := by
  refine Steady.andThen h.locateNextHop fun found => ?_
  cases found with
  | none => exact keeps_pure
  | some place => exact steady_forM fun table _ => h.tries rfl

end Survives

/-- An invariant of the two writers. What the watcher does may depend on the path in hand. -/
structure Router.Keeping (C : Terms NetOp Net) (C' : Option LearnedRoute → Terms NetOp Net) (J : Net → Prop)
    (x : Router) : Prop where
  net : J x.net
  command : x.command.Steady NetOp.exec C J fun _ => True
  handling : x.handling.Steady NetOp.exec (C' x.route) J fun _ => True

/-- The condition on the operation that the event is about to run. -/
def Router.Meets (C : Terms NetOp Net) (C' : Option LearnedRoute → Terms NetOp Net) (x : Router) :
    RouterEvent → Prop
  | .command => match x.command with
    | .call o _ => C.rely o x.net
    | .ret _ => True
  | .handle => match x.handling with
    | .call o _ => (C' x.route).rely o x.net
    | .ret _ => True
  | _ => True

variable {C' : Option LearnedRoute → Terms NetOp Net} {x x' : Router} {e : RouterEvent}

theorem Router.keeping_step (hx : x.Keeping C C' J) (hmeets : x.Meets C C' e) (hstep : x.step spec e = some x')
    (hreconcile : ∀ desired, e = .reconcile desired → Keeps C J (reconcile spec desired))
    (htombstone : ∀ vni cidr, Keeps C J (tombstoneCluster vni cidr))
    (hhandle : ∀ route, Keeps (C' (some route)) J (route.handle spec)) : x'.Keeping C C' J := by
  obtain ⟨hnet, hcommand, hhandling⟩ := hx
  cases e with
  | reconcile desired =>
    simp only [Router.step] at hstep
    split at hstep <;> cases hstep
    exact ⟨hnet, hreconcile desired rfl, hhandling⟩
  | tombstone vni cidr =>
    simp only [Router.step] at hstep
    split at hstep <;> cases hstep
    exact ⟨hnet, htombstone vni cidr, hhandling⟩
  | command =>
    simp only [Router.step] at hstep
    split at hstep <;> cases hstep
    rename_i o k hk
    simp only [Router.Meets, hk] at hmeets
    rw [hk] at hcommand
    obtain ⟨⟨-, hnet'⟩, hrest⟩ := hcommand x.net hnet hmeets
    exact ⟨hnet', hrest, hhandling⟩
  | change batch =>
    cases hstep
    exact ⟨hnet, hcommand, hhandling⟩
  | drop | subscribe =>
    simp only [Router.step] at hstep
    split at hstep <;> cases hstep
    exact ⟨hnet, hcommand, hhandling⟩
  | receive =>
    simp only [Router.step] at hstep
    repeat' split at hstep
    all_goals cases hstep
    exact ⟨hnet, hcommand, hhandling⟩
  | next =>
    simp only [Router.step] at hstep
    repeat' split at hstep
    all_goals cases hstep
    exact ⟨hnet, hcommand, hhandle _⟩
  | handle =>
    simp only [Router.step] at hstep
    repeat' split at hstep
    all_goals cases hstep
    rename_i o k hk _
    simp only [Router.Meets, hk] at hmeets
    rw [hk] at hhandling
    obtain ⟨⟨-, hnet'⟩, hrest⟩ := hhandling x.net hnet hmeets
    exact ⟨hnet', hcommand, hrest⟩

end Walk

/-! ## What the main table may get -/

/-- Does the prefix lie in one of the networks? -/
def inside (nets : List Ipv4Net) (dst : String) : Bool :=
  match Ipv4Net.parse dst with
  | some n => nets.any fun v => v.prefixLen ≤ n.prefixLen ∧ v.contains n.network
  | none => false

/-- The VIPs of tree-scoped clusters that a command names. -/
def internalVips (desired : List ClusterState) : List Ipv4Net :=
  desired.flatMap fun c => c.internalClusterVips.filterMap Ipv4Net.parse

/-- No route of the main table is for a prefix inside these networks. -/
def MainFree (nets : List Ipv4Net) (s : Net) : Prop :=
  ∀ r ∈ s.kernel.routes.rows, r.table = none → inside nets r.dst = false

instance (nets : List Ipv4Net) (s : Net) : Decidable (MainFree nets s) := by
  unfold MainFree
  infer_instance

section MainTable

variable {nets : List Ipv4Net} {spec : NetSpec} {s : Net}

/-- The command adds no such route. -/
def Network.NetCmd.spares (nets : List Ipv4Net) : NetCmd → Prop
  | .routeReplace _ none dst => inside nets dst = false
  | .replyRoute _ dst => inside nets dst = false
  | .viaReplace _ none dst _ => inside nets dst = false
  | _ => True

theorem mainFree_exec {c : NetCmd} (hc : c.spares nets) (h : MainFree nets s) :
    MainFree nets { s with kernel := (c.exec s.kernel).1 } := by
  intro r hr htable
  rcases mem_routes_exec hr with hold | hadds
  · exact h r hold htable
  · cases c with
    | routeReplace vni table dst | viaReplace vni table dst nextHop =>
      cases hadds
      cases htable
      exact hc
    | replyRoute vni dst =>
      cases hadds
      exact hc
    | _ => exact hadds.elim

/-- A command keeps the VIPs apart: a tree-scoped cluster has a trust domain, and what a cluster is to have in the
    main table lies outside. -/
structure KeepsApart (nets : List Ipv4Net) (c : ClusterState) : Prop where
  tree : c.trustDomain = "" → internalVips [c] = []
  lan : ∀ vip ∈ c.clusterVips, inside nets vip.cidr = false
  cidr : c.trustDomain ≠ "" → inside nets c.cidr = false

instance (nets : List Ipv4Net) (c : ClusterState) : Decidable (KeepsApart nets c) :=
  decidable_of_iff ((c.trustDomain = "" → internalVips [c] = []) ∧
      (∀ vip ∈ c.clusterVips, inside nets vip.cidr = false) ∧ (c.trustDomain ≠ "" → inside nets c.cidr = false))
    ⟨fun h => ⟨h.1, h.2.1, h.2.2⟩, fun h => ⟨h.tree, h.lan, h.cidr⟩⟩

theorem treeVrf_isSome {c : ClusterState} : (treeVrf c).isSome = true ↔ c.trustDomain ≠ "" := by
  unfold treeVrf
  split <;> simp [*]

theorem KeepsApart.wanted {c : ClusterState} (h : KeepsApart nets c) :
    ∀ dst ∈ wantMain c (lanPrefixes c.clusterVips) (expandTreePrefixes c.internalClusterVips),
      inside nets dst = false := by
  have hlan : ∀ dst ∈ lanPrefixes c.clusterVips, inside nets dst = false := by
    intro dst hdst
    obtain ⟨p, hp, rfl⟩ := mem_map.mp (mem_dedup.mp hdst)
    obtain ⟨vip, hvip, hparse⟩ := mem_filterMap.mp hp
    obtain ⟨net, -, rfl⟩ := Option.map_eq_some_iff.mp hparse
    exact h.lan vip hvip
  intro dst hdst
  unfold wantMain at hdst
  by_cases hvrf : (treeVrf c).isSome = true
  · rw [if_pos hvrf] at hdst
    split at hdst
    · exact hlan dst hdst
    · rcases mem_cons.mp (mem_dedup.mp hdst) with rfl | hdst
      · exact h.cidr (treeVrf_isSome.mp hvrf)
      · exact hlan dst hdst
  · -- without a VRF the tree prefixes would be among them
    rw [if_neg hvrf, mem_dedup, mem_append] at hdst
    rcases hdst with hdst | hdst
    · exact hlan dst hdst
    · obtain ⟨hmem, hparse⟩ := mem_filter.mp (mem_dedup.mp hdst)
      obtain ⟨net, hnet⟩ := Option.isSome_iff_exists.mp hparse
      have hempty := h.tree (not_not.mp (mt treeVrf_isSome.mpr hvrf))
      have hthere : net ∈ internalVips [c] := by
        simp only [internalVips, flatMap_cons, flatMap_nil, append_nil, mem_filterMap]
        exact ⟨dst, hmem, hnet⟩
      rw [hempty] at hthere
      cases hthere

theorem KeepsApart.allows {c : ClusterState} (h : KeepsApart nets c) : Permits (NetCmd.spares nets) c where
  main := h.wanted
  vrf := fun _ _ _ => trivial
  reply := fun hvrf _ => h.cidr (treeVrf_isSome.mp hvrf)

theorem survives_mainFree {R : NetOp → Net → Prop} :
    Survives (NetCmd.spares nets) { rely := R } (MainFree nets) where
  cmd := fun hc hs _ => ⟨trivial, mainFree_exec hc hs⟩
  memory := fun {o} _ hs => ⟨trivial, by cases o <;> exact hs⟩
  plain := fun {c} hc => by cases c <;> first | exact trivial | cases hc
  listed := fun _ _ _ => trivial

/-- An announced prefix inside the networks has no next hop in a live cluster. -/
def Unclaimed (nets : List Ipv4Net) (route : Option LearnedRoute) (s : Net) : Prop :=
  ∀ r ∈ route, r.isWithdraw = false → inside nets r.dst = true → located s.live.rows r.nextHop = none

instance (nets : List Ipv4Net) (route : Option LearnedRoute) (s : Net) : Decidable (Unclaimed nets route s) := by
  unfold Unclaimed
  infer_instance

/-- Handling a path keeps the main table free if, when the cluster of its next hop is looked up, there is none, or
    the prefix lies outside. -/
theorem keeps_handle {r : LearnedRoute} :
    Keeps { rely := fun _ s => Unclaimed nets (some r) s } (MainFree nets) (r.handle spec) := by
  have h := @survives_mainFree nets fun _ s => Unclaimed nets (some r) s
  refine keeps_ite (fun _ => h.withdrawLearnedRoute) fun hwithdraw s hs hC => ⟨⟨trivial, hs⟩, ?_⟩
  show Steady NetOp.exec _ _ _ (ExceptT.run (match located s.live.rows r.nextHop with
    | none => pure ()
    | some (vni, vrfTable) =>
      (tablesFor vrfTable).forM fun table => runCmd spec (.viaReplace vni table r.dst r.nextHop.text)))
  cases hfound : located s.live.rows r.nextHop with
  | none => exact keeps_pure
  | some place =>
    have hout : inside nets r.dst = false := by
      by_contra hin
      rw [Bool.not_eq_false] at hin
      rw [hC r rfl (Bool.eq_false_of_not_eq_true hwithdraw) hin] at hfound
      cases hfound
    refine steady_forM fun table _ => h.runCmd ?_
    cases table with
    | none => exact hout
    | some t => trivial

/-- What is known of a router whose main table is kept free. -/
abbrev Router.Apart (nets : List Ipv4Net) : Router → Prop :=
  Router.Keeping anyOp (fun route => { rely := fun _ s => Unclaimed nets route s }) (MainFree nets)

/-- The condition on a step. -/
def Router.Isolating (nets : List Ipv4Net) (x : Router) : RouterEvent → Prop
  | .reconcile desired => ∀ c ∈ desired, KeepsApart nets c
  | .handle => Unclaimed nets x.route x.net
  | _ => True

instance (nets : List Ipv4Net) (x : Router) (e : RouterEvent) : Decidable (x.Isolating nets e) := by
  unfold Router.Isolating
  split <;> infer_instance

theorem Router.apart_step {x x' : Router} {e : RouterEvent} (hx : x.Apart nets) (he : x.Isolating nets e)
    (hstep : x.step spec e = some x') : x'.Apart nets := by
  refine Router.keeping_step hx ?_ hstep (fun desired hdesired => ?_) (fun _ _ => survives_mainFree.tombstoneCluster)
    fun _ => keeps_handle
  · cases e with
    | command =>
      simp only [Router.Meets]
      split <;> trivial
    | handle =>
      simp only [Router.Meets]
      split
      · exact he
      · trivial
    | _ => trivial
  · subst hdesired
    exact survives_mainFree.reconcile fun c hc => (he c hc).allows

end MainTable

/-- Neither writer is in the middle of something. -/
structure Router.Idle (x : Router) : Prop where
  command : x.command = .ret (.ok ())
  handling : x.handling = .ret (.ok ())

/-- The VIPs of tree-scoped clusters that the commands of a run name. -/
def treeVips (es : List RouterEvent) : List Ipv4Net :=
  es.flatMap fun
    | .reconcile desired => internalVips desired
    | _ => []

/-- **Tree VIPs stay out of the main table** in every run whose commands keep them apart, and in which no prefix
    inside them is learned from a live cluster: in every state on the way, between any two operations. -/
theorem tree_vips_out_of_main (spec : NetSpec) (es₁ es₂ : List RouterEvent) (x₀ x : Router) (hidle : x₀.Idle)
    (hclean : MainFree (treeVips (es₁ ++ es₂)) x₀.net)
    (hal : Along (Router.step spec) (Router.Isolating (treeVips (es₁ ++ es₂))) x₀ (es₁ ++ es₂))
    (hrun : run (Router.step spec) x₀ es₁ = some x) : MainFree (treeVips (es₁ ++ es₂)) x.net := by
  have hstart : x₀.Apart (treeVips (es₁ ++ es₂)) := by
    refine ⟨hclean, ?_, ?_⟩
    · rw [hidle.command]
      trivial
    · rw [hidle.handling]
      trivial
  exact (run_invariant (fun hx he hstep => Router.apart_step hx he hstep) hstart
    (along_append_left hal) hrun).net

def uplink : NetSpec := ⟨"192.0.2.1", 1500, "br0"⟩

/-- A tree-scoped cluster with a service block. -/
def treeCluster (trustDomain : String) : ClusterState where
  clusterId := "c-7"
  vni := 7
  cidr := "10.200.0.0/24"
  trustDomain := trustDomain
  internalClusterVips := ["10.9.0.0/28"]

/-- A node of the cluster announces a prefix, and the watcher handles the announcement; `n` is the number of its
    operations. -/
def announced (dst : String) (n : Nat) : List RouterEvent :=
  [.subscribe, .change [.announce dst 180879367], .receive, .receive, .next] ++ List.replicate n .handle

/-- A cluster in its VRF, and an announcement of a prefix elsewhere. -/
theorem tree_vips_out_of_main_elsewhere : ∃ es x, MainFree (treeVips es) ({} : Router).net ∧
    Along (Router.step uplink) (Router.Isolating (treeVips es)) {} es ∧
    run (Router.step uplink) {} es = some x ∧ x.net.kernel.routes.rows.length = 5 ∧
    MainFree (treeVips es) x.net := by
  have htaken : (run (Router.step uplink) {}
      ([.reconcile [treeCluster "tree-a"]] ++ List.replicate 24 .command ++
        announced "192.168.1.9/32" 3)).isSome = true := by
    decide +kernel
  have hrun := run_eq_after htaken
  have hmain := tree_vips_out_of_main uplink _ [] {} _ ⟨rfl, rfl⟩ (by decide +kernel) (by decide +kernel) hrun
  rw [append_nil] at hmain
  exact ⟨_, _, by decide +kernel, by decide +kernel, hrun, by decide +kernel, hmain⟩

/-- Without a trust domain the service block goes to the main table. With one, a node may announce an address of the
    block, and the learned route goes to the main table. -/
theorem tree_vip_in_main :
    (∃ es x, run (Router.step uplink) {} es = some x ∧
      es.head? = some (.reconcile [treeCluster ""]) ∧ ¬MainFree (treeVips es) x.net) ∧
    ∃ es x, run (Router.step uplink) {} es = some x ∧
      es.head? = some (.reconcile [treeCluster "tree-a"]) ∧ ¬MainFree (treeVips es) x.net := by
  refine ⟨⟨[.reconcile [treeCluster ""]] ++ List.replicate 17 .command, _,
    run_eq_after (by decide +kernel), rfl, by decide +kernel⟩, ?_⟩
  exact ⟨[.reconcile [treeCluster "tree-a"]] ++ List.replicate 24 .command ++ announced "10.9.0.3/32" 2, _,
    run_eq_after (by decide +kernel), rfl, by decide +kernel⟩

/-! ## A prefix that both writers want -/

section Learned

variable {r : Route} {spec : NetSpec} {x x' : Router} {e : RouterEvent}

/-- No link route is for the prefix. -/
def Unlinked (dst : String) (s : Net) : Prop := ∀ r ∈ s.kernel.routes.rows, r.via = none → r.dst ≠ dst

instance (dst : String) (s : Net) : Decidable (Unlinked dst s) := by
  unfold Unlinked
  infer_instance

/-- The command is not for a link route of the prefix. -/
def Network.NetCmd.avoids (dst : String) : NetCmd → Prop
  | .routeReplace _ _ dst' => dst' ≠ dst
  | .replyRoute _ dst' => dst' ≠ dst
  | .routeDel _ _ dst' => dst' ≠ dst
  | _ => True

/-- Whatever the state, the operations of a writer are not for a link route of the prefix. -/
def avoiding (dst : String) : Terms NetOp Net where
  rely := fun _ _ => True
  ensure := fun o _ => ∀ c, o = .cmd c → c.avoids dst

theorem survives_unlinked {dst : String} : Survives (NetCmd.avoids dst) (avoiding dst) (Unlinked dst) where
  cmd := by
    intro c s hc hlinks _
    refine ⟨fun c' heq => NetOp.cmd.inj heq ▸ hc, fun r hr hvia => ?_⟩
    rcases mem_routes_exec hr with hold | hadds
    · exact hlinks r hold hvia
    · cases c with
      | routeReplace vni table dst | replyRoute vni dst =>
        cases hadds
        exact hc
      | viaReplace vni table dst nextHop =>
        cases hadds
        cases hvia
      | _ => exact hadds.elim
  memory := fun {o} _ hs => ⟨nofun, by cases o <;> exact hs⟩
  plain := fun {c} hc => by cases c <;> first | exact trivial | cases hc
  listed := fun hs hr hvia => hs _ hr hvia

/-- The prefixes that the cluster is to have link routes for. -/
def linkPrefixes (c : ClusterState) : List String :=
  wantMain c (lanPrefixes c.clusterVips) (expandTreePrefixes c.internalClusterVips) ++
    wantCombined c (lanPrefixes c.clusterVips) (expandTreePrefixes c.internalClusterVips)

theorem allows_avoids {c : ClusterState} {dst : String} (h : dst ∉ linkPrefixes c) : Permits (NetCmd.avoids dst) c := by
  rw [linkPrefixes, mem_append, not_or] at h
  refine ⟨?_, ?_, ?_⟩
  · rintro dst' hdst' rfl
    exact h.1 hdst'
  · rintro t dst' hdst' rfl
    exact h.2 hdst'
  · rintro hvrf hcidr rfl
    refine h.1 ?_
    rw [wantMain, if_pos hvrf, if_neg hcidr, mem_dedup]
    exact mem_cons_self

theorem keeps_handle_unlinked {dst : String} {route : LearnedRoute} :
    Keeps (avoiding dst) (Unlinked dst) (route.handle spec) := by
  refine keeps_ite (fun _ => survives_unlinked.withdrawLearnedRoute) fun _ => ?_
  refine Steady.andThen survives_unlinked.locateNextHop fun found => ?_
  cases found with
  | none => exact keeps_pure
  | some place => exact steady_forM fun table _ => survives_unlinked.runCmd trivial

/-- No cluster of a reconcile is to have a link route for the prefix. -/
def RouterEvent.Yields (dst : String) : RouterEvent → Prop
  | .reconcile desired => ∀ c ∈ desired, dst ∉ linkPrefixes c
  | _ => True

instance (dst : String) (e : RouterEvent) : Decidable (e.Yields dst) := by
  unfold RouterEvent.Yields
  split <;> infer_instance

/-- What both writers keep before the route is there. -/
abbrev Router.Ready (dst : String) : Router → Prop :=
  Router.Keeping (avoiding dst) (fun _ => avoiding dst) (Unlinked dst)

theorem RouterEvent.Yields.reconcile {dst : String} (he : e.Yields dst) (desired : List ClusterState)
    (hdesired : e = .reconcile desired) : Keeps (avoiding dst) (Unlinked dst) (Network.reconcile spec desired) := by
  subst hdesired
  exact survives_unlinked.reconcile fun c hc => allows_avoids (he c hc)

theorem Router.ready_step {dst : String} (hx : x.Ready dst) (he : e.Yields dst) (hstep : x.step spec e = some x') :
    x'.Ready dst := by
  refine keeping_step hx ?_ hstep he.reconcile (fun _ _ => survives_unlinked.tombstoneCluster) fun _ =>
    keeps_handle_unlinked
  cases e <;> simp only [Meets, avoiding] <;> split <;> trivial

/-! ### Once the route is there -/

/-- The bridge of the route is not deleted or moved, and the watcher leaves the prefix alone in its table. -/
def leavesRoute (r : Route) : NetOp → Net → Prop
  | .cmd (.routeReplace _ _ _), _ => True
  | .cmd (.replyRoute _ _), _ => True
  | .cmd (.routeDel _ _ _), _ => True
  | .cmd c, s => ¬c.takes s.kernel r
  | .live _, _ => True

instance (o : NetOp) (s : Net) : Decidable (leavesRoute r o s) := by
  unfold leavesRoute
  split <;> infer_instance

/-- The route is there, and no link route is for its prefix. -/
def Undisputed (r : Route) (s : Net) : Prop := r ∈ s.kernel.routes.rows ∧ Unlinked r.dst s

/-- What avoids the prefix leaves the route, also in the middle of a command. -/
theorem keeps_route {p : NetJob (Except NetworkError Unit)}
    (h : p.Steady NetOp.exec (avoiding r.dst) (Unlinked r.dst) fun _ => True) :
    p.Steady NetOp.exec { rely := leavesRoute r } (Undisputed r) fun _ => True := by
  refine h.strengthen (fun hs _ => ⟨hs.2, trivial⟩) fun {o s} hs hleaves havoids hlinks => ⟨trivial, ?_, hlinks⟩
  cases o with
  | live o => cases o <;> exact hs.1
  | cmd c =>
    refine routes_exec_of_not_takes hs.1 ?_
    have hc := havoids c rfl
    cases c with
    | routeReplace vni table dst | replyRoute vni dst => exact fun htakes => hc htakes.2.symm
    | routeDel vni table dst => exact fun htakes => hc htakes.2.1.symm
    | _ => exact hleaves

/-- The condition on a step: no cluster of a reconcile is to have a link route for the prefix, and nothing else takes
    the route. -/
def Router.OneWriter (r : Route) (x : Router) (e : RouterEvent) : Prop :=
  e.Yields r.dst ∧ x.Meets { rely := leavesRoute r } (fun _ => { rely := leavesRoute r }) e

instance (e : RouterEvent) : Decidable (x.OneWriter r e) := by
  unfold Router.OneWriter Router.Meets
  refine @instDecidableAnd _ _ _ ?_
  repeat' split
  all_goals infer_instance

abbrev Router.Undisputed (r : Route) : Router → Prop :=
  Router.Keeping { rely := leavesRoute r } (fun _ => { rely := leavesRoute r }) (Agent.Undisputed r)

theorem Router.undisputed_step (hx : x.Undisputed r) (he : x.OneWriter r e) (hstep : x.step spec e = some x') :
    x'.Undisputed r :=
  keeping_step hx he.2 hstep (fun desired hdesired => keeps_route (he.1.reconcile desired hdesired))
    (fun _ _ => keeps_route survives_unlinked.tombstoneCluster) fun _ => keeps_route keeps_handle_unlinked

end Learned

/-- **A learned route stays** in every interleaving of commands and watcher in which no cluster is to have a link route
    for its prefix, and its bridge stays where it is, until the watcher itself replaces or withdraws it. It may have
    been written at any moment of the run, also in the middle of a command. -/
theorem learned_route_stays (spec : NetSpec) (r : Route) (es₁ es₂ : List RouterEvent) (x₀ x₁ x : Router)
    (hidle : x₀.command.finished = true ∧ x₀.handling.finished = true) (hlinks : Unlinked r.dst x₀.net)
    (hbefore : Along (Router.step spec) (fun _ e => e.Yields r.dst) x₀ es₁)
    (hrun₁ : run (Router.step spec) x₀ es₁ = some x₁) (hr : r ∈ x₁.net.kernel.routes.rows)
    (hafter : Along (Router.step spec) (Router.OneWriter r) x₁ es₂)
    (hrun₂ : run (Router.step spec) x₁ es₂ = some x) : r ∈ x.net.kernel.routes.rows := by
  have hdone : ∀ {p : NetJob (Except NetworkError Unit)}, p.finished = true →
      p.Steady NetOp.exec (avoiding r.dst) (Unlinked r.dst) fun _ => True := by
    intro p hp
    cases p with
    | ret a => trivial
    | call o k => cases hp
  have hready : x₁.Ready r.dst := run_invariant (fun hx he hstep => Router.ready_step hx he hstep)
    ⟨hlinks, hdone hidle.1, hdone hidle.2⟩ hbefore hrun₁
  have hthere : x₁.Undisputed r := ⟨⟨hr, hready.net⟩, keeps_route hready.command, keeps_route hready.handling⟩
  exact (run_invariant (fun hx he hstep => Router.undisputed_step hx he hstep) hthere hafter hrun₂).net.1

/-- The cluster comes up. -/
def comesUp : List RouterEvent := .reconcile [treeCluster "tree-a"] :: List.replicate 24 .command

/-- The route of the announced path in the main table. -/
def announcedRoute : Route := { table := none, dst := "192.168.1.9/32", dev := 7, via := some "10.200.0.7" }

/-- The cluster is reconciled again, and the watcher writes the route while the command is under way. -/
theorem learned_route_stays_again : ∃ es₁ es₂ x₁ x, run (Router.step uplink) {} es₁ = some x₁ ∧
    x₁.command.finished = false ∧ announcedRoute ∈ x₁.net.kernel.routes.rows ∧
    run (Router.step uplink) x₁ es₂ = some x ∧ x.command.finished = true ∧
    announcedRoute ∈ x.net.kernel.routes.rows := by
  have htaken₁ : (run (Router.step uplink) {} (comesUp ++ announced "192.168.1.9/32" 1 ++
      .reconcile [treeCluster "tree-a"] :: List.replicate 12 .command ++ [.handle])).isSome = true := by decide +kernel
  have htaken₂ : (run (Router.step uplink) (after (Router.step uplink) {} (comesUp ++ announced "192.168.1.9/32" 1 ++
      .reconcile [treeCluster "tree-a"] :: List.replicate 12 .command ++ [.handle]))
      (.handle :: List.replicate 6 .command)).isSome = true := by decide +kernel
  have hrun₁ := run_eq_after htaken₁
  have hrun₂ := run_eq_after htaken₂
  exact ⟨_, _, _, _, hrun₁, by decide +kernel, by decide +kernel, hrun₂, by decide +kernel,
    learned_route_stays uplink announcedRoute _ _ {} _ _ ⟨rfl, rfl⟩ (by decide) (by decide +kernel) hrun₁
      (by decide +kernel) (by decide +kernel) hrun₂⟩

/-- A VIP of the cluster is the prefix that a node announces. The next reconcile does not list the learned route, and
    replaces it. -/
theorem learned_route_replaced : ∃ c es₁ x₁ es₂ x₂, (c.clusterVips.map (·.cidr)) = [announcedRoute.dst] ∧
    run (Router.step uplink) {} es₁ = some x₁ ∧ announcedRoute ∈ x₁.net.kernel.routes.rows ∧
    es₂ = .reconcile [c] :: List.replicate 20 .command ∧ run (Router.step uplink) x₁ es₂ = some x₂ ∧
    announcedRoute ∉ x₂.net.kernel.routes.rows :=
  ⟨{ treeCluster "tree-a" with clusterVips := [⟨"192.168.1.9/32", "h1"⟩] },
    .reconcile [{ treeCluster "tree-a" with clusterVips := [⟨"192.168.1.9/32", "h1"⟩] }] ::
      List.replicate 26 .command ++ announced "192.168.1.9/32" 3, _, _, _, rfl,
    run_eq_after (by decide +kernel), by decide +kernel, rfl, run_eq_after (by decide +kernel),
    by decide +kernel⟩

end BasisCell.Agent
