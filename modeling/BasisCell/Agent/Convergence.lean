import BasisCell.Agent.Router

/-!
# `BasisCell.Agent.Convergence` — when learned routes are the current best paths

The route watcher only reacts to events. What the kernel has for a prefix is what the last event for it left, so it
is right in the end if every event takes the routes from those of the path before to those of its own path. An
announcement does that if the routes that are there are in tables it writes to; a withdrawal does if they are the
routes of the path it names. `Chain` says so of the events for one prefix that are still to be handled, in the order
in which the watcher will handle them, and what the last one leaves has to be the best path.

The rest is about what keeps the chain: which changes of best paths, which breaks of the stream, which operations of
commands (`Router.Calm`). Routes get lost where it fails: a cluster that comes up after its paths were handled, a path
that is withdrawn while the stream is down, a table event with two changes of one prefix, which are handled in the
wrong order.
-/

namespace BasisCell.Agent

open Conc Conc.Prog Relational Table Network List Transition

/-! ## What is there and what should be -/

/-- The routes of a path: in the tables of the cluster that its next hop lies in. -/
def pathRoutes (entries : List ClusterLive) (dst : String) (nextHop : Ipv4Addr) : List Route :=
  match located entries nextHop with
  | none => []
  | some (vni, vrf) => (tablesFor vrf).map fun table => { table, dst, dev := vni, via := some nextHop.text }

/-- The routes with a next hop are those of the best paths. -/
def Router.Converged (x : Router) : Prop :=
  ∀ r : Route, r.via ≠ none → (r ∈ x.net.kernel.routes.rows ↔
    ∃ p ∈ x.best.rows, r ∈ pathRoutes x.net.live.rows p.dst p.nextHop)

/-- The stream is connected and everything on it has been handled. -/
def Router.Quiet (x : Router) : Prop := x.stream = some [] ∧ x.buffered = [] ∧ x.handling.finished = true

instance (x : Router) : Decidable x.Quiet :=
  inferInstanceAs (Decidable (x.stream = some [] ∧ x.buffered = [] ∧ x.handling.finished = true))

/-- The learned routes for a prefix. -/
def learned (s : Net) (dst : String) : Set Route := {r | r ∈ s.kernel.routes.rows ∧ r.via ≠ none ∧ r.dst = dst}

/-- Those that a best path asks for. -/
def intended (entries : List ClusterLive) (dst : String) : Option Ipv4Addr → Set Route
  | none => ∅
  | some nextHop => {r | r ∈ pathRoutes entries dst nextHop}

def bestHop (best : Table BestPath) (dst : String) : Option Ipv4Addr :=
  (best.find fun p => p.dst = dst).map (·.nextHop)

theorem clash_of_dst {dst : String} (a b : BestPath) (ha : decide (a.dst = dst) = true)
    (hb : decide (b.dst = dst) = true) : Schema.Clash a b :=
  (of_decide_eq_true ha).trans (of_decide_eq_true hb).symm

theorem bestHop_eq_some {best : Table BestPath} {dst : String} {nextHop : Ipv4Addr} :
    bestHop best dst = some nextHop ↔ ⟨dst, nextHop⟩ ∈ best.rows := by
  unfold bestHop
  rw [Option.map_eq_some_iff]
  constructor
  · rintro ⟨p, hfind, rfl⟩
    obtain ⟨hrow, hdst⟩ := (find_eq_some clash_of_dst).mp hfind
    rwa [← of_decide_eq_true hdst]
  · intro hrow
    exact ⟨_, (find_eq_some clash_of_dst).mpr ⟨hrow, decide_eq_true rfl⟩, rfl⟩

variable {r : Route}

theorem mem_pathRoutes {entries : List ClusterLive} {dst : String} {nextHop : Ipv4Addr} :
    r ∈ pathRoutes entries dst nextHop ↔ ∃ vni vrf, located entries nextHop = some (vni, vrf) ∧
      ∃ table ∈ tablesFor vrf, r = { table, dst, dev := vni, via := some nextHop.text } := by
  unfold pathRoutes
  cases hfound : located entries nextHop with
  | none => simp
  | some place =>
    obtain ⟨vni, vrf⟩ := place
    simp only [mem_map, Option.some.injEq, Prod.mk.injEq]
    constructor
    · rintro ⟨table, htable, rfl⟩
      exact ⟨vni, vrf, ⟨rfl, rfl⟩, table, htable, rfl⟩
    · rintro ⟨vni', vrf', ⟨rfl, rfl⟩, table, htable, rfl⟩
      exact ⟨table, htable, rfl⟩

theorem dst_of_pathRoutes {entries : List ClusterLive} {dst : String} {nextHop : Ipv4Addr}
    (h : r ∈ pathRoutes entries dst nextHop) : r.dst = dst ∧ r.via ≠ none := by
  obtain ⟨vni, vrf, -, table, -, rfl⟩ := mem_pathRoutes.mp h
  exact ⟨rfl, by simp⟩

/-- A path has one route per table. -/
theorem eq_of_table {entries : List ClusterLive} {dst : String} {nextHop : Ipv4Addr} {r' : Route}
    (h : r ∈ pathRoutes entries dst nextHop) (h' : r' ∈ pathRoutes entries dst nextHop) (ht : r.table = r'.table) :
    r = r' := by
  obtain ⟨vni, vrf, hplace, table, -, rfl⟩ := mem_pathRoutes.mp h
  obtain ⟨vni', vrf', hplace', table', -, rfl⟩ := mem_pathRoutes.mp h'
  rw [hplace] at hplace'
  cases hplace'
  cases ht
  rfl

/-! ## Chains of events -/

/-- What the event leaves as the path of its prefix. -/
def LearnedRoute.result (u : LearnedRoute) : Option Ipv4Addr := if u.isWithdraw then none else some u.nextHop

/-- The event takes these routes away, or replaces all of them. -/
def Admits (entries : List ClusterLive) (u : LearnedRoute) (rows : Set Route) : Prop :=
  ∀ r ∈ rows, if u.isWithdraw then r ∈ pathRoutes entries u.dst u.nextHop
    else ∃ r' ∈ pathRoutes entries u.dst u.nextHop, r'.table = r.table

/-- The events for the prefix lead from these routes to routes with `fin`. -/
def Chain (entries : List ClusterLive) (dst : String) (fin : Set Route → Prop) : Set Route → List LearnedRoute → Prop
  | rows, [] => fin rows
  | rows, u :: us =>
    if u.dst = dst then Admits entries u rows ∧ Chain entries dst fin (intended entries dst u.result) us
    else Chain entries dst fin rows us

section Chain

variable {entries entries' : List ClusterLive} {dst : String} {fin fin' : Set Route → Prop} {rows : Set Route}
variable {u : LearnedRoute} {us ms : List LearnedRoute}

theorem chain_cons_own (hu : u.dst = dst) : Chain entries dst fin rows (u :: us) ↔
    Admits entries u rows ∧ Chain entries dst fin (intended entries dst u.result) us := by
  rw [Chain, if_pos hu]

theorem chain_cons_other (hu : u.dst ≠ dst) :
    Chain entries dst fin rows (u :: us) ↔ Chain entries dst fin rows us := by
  rw [Chain, if_neg hu]

theorem chain_append : Chain entries dst fin rows (us ++ ms) ↔
    Chain entries dst (fun rows' => Chain entries dst fin rows' ms) rows us := by
  induction us generalizing rows with
  | nil => exact Iff.rfl
  | cons u us ih =>
    by_cases hu : u.dst = dst
    · rw [cons_append, chain_cons_own hu, chain_cons_own hu, ih]
    · rw [cons_append, chain_cons_other hu, chain_cons_other hu, ih]

theorem Chain.mono (h : Chain entries dst fin rows us) (hfin : ∀ rows, fin rows → fin' rows) :
    Chain entries dst fin' rows us := by
  induction us generalizing rows with
  | nil => exact hfin rows h
  | cons u us ih =>
    by_cases hu : u.dst = dst
    · rw [chain_cons_own hu] at h ⊢
      exact ⟨h.1, ih h.2⟩
    · rw [chain_cons_other hu] at h ⊢
      exact ih h

/-- Events for other prefixes do not count. -/
theorem chain_filter : Chain entries dst fin rows us ↔ Chain entries dst fin rows (us.filter fun u => u.dst = dst) := by
  induction us generalizing rows with
  | nil => exact Iff.rfl
  | cons u us ih =>
    by_cases hu : u.dst = dst
    · rw [filter_cons_of_pos (by simpa using hu), chain_cons_own hu, chain_cons_own hu, ih]
    · rw [filter_cons_of_neg (by simpa using hu), chain_cons_other hu, ih]

theorem pathRoutes_congr {nextHop : Ipv4Addr} (h : located entries' nextHop = located entries nextHop) :
    pathRoutes entries' dst nextHop = pathRoutes entries dst nextHop := by
  unfold pathRoutes
  rw [h]

theorem intended_result_congr (h : located entries' u.nextHop = located entries u.nextHop) :
    intended entries' dst u.result = intended entries dst u.result := by
  unfold LearnedRoute.result
  split
  · rfl
  · simp only [intended, pathRoutes_congr h]

/-- Clusters that no next hop lies in do not count either. -/
theorem chain_congr (h : ∀ u ∈ us, located entries' u.nextHop = located entries u.nextHop) :
    Chain entries' dst fin rows us ↔ Chain entries dst fin rows us := by
  induction us generalizing rows with
  | nil => exact Iff.rfl
  | cons u us ih =>
    have hroutes : ∀ d, pathRoutes entries' d u.nextHop = pathRoutes entries d u.nextHop := fun d =>
      pathRoutes_congr (h u mem_cons_self)
    have hrest : ∀ rows, Chain entries' dst fin rows us ↔ Chain entries dst fin rows us := fun rows =>
      ih fun u' hu' => h u' (mem_cons_of_mem u hu')
    by_cases hu : u.dst = dst
    · rw [chain_cons_own hu, chain_cons_own hu, intended_result_congr (h u mem_cons_self), hrest]
      simp only [Admits, hroutes]
    · rw [chain_cons_other hu, chain_cons_other hu, hrest]

end Chain

/-! ## The condition on a run -/

/-- Does the CIDR of the entry have one of these next hops? -/
def carries (e : ClusterLive) (hops : List Ipv4Addr) : Bool :=
  (e.cidr.bind Ipv4Net.parse).any fun net => hops.any net.contains

def PathChange.dst : PathChange → String
  | announce dst _ => dst
  | withdraw dst => dst

namespace Router

variable (x : Router)

/-- What is still to be handled, in that order. -/
def queue : List LearnedRoute := x.buffered.reverse ++ (x.stream.getD []).flatMap List.reverse

/-- The path that is being handled. -/
def inHand : Option LearnedRoute := if x.handling.finished then none else x.route

/-- The next hops of the best paths, and of the paths that are still to be handled. -/
def hops : List Ipv4Addr := x.best.rows.map (·.nextHop) ++ (x.inHand.toList ++ x.queue).map (·.nextHop)

/-- The operation takes or replaces a learned route, or changes a cluster that a next hop lies in. A reconcile that
    repeats what is live changes nothing. -/
def Disturbs : NetOp → Prop
  | .live (.insert e) =>
    e ∉ x.net.live.rows ∧
      (carries e x.hops = true ∨ ∃ e' ∈ x.net.live.rows, e'.vni = e.vni ∧ carries e' x.hops = true)
  | .live (.remove vni) => ∃ e ∈ x.net.live.rows, e.vni = vni ∧ carries e x.hops = true
  | .live _ => False
  | .cmd (.routeReplace _ table dst) =>
    ∃ r ∈ x.net.kernel.routes.rows, r.via ≠ none ∧ r.table = table ∧ r.dst = dst
  | .cmd (.replyRoute _ dst) => ∃ r ∈ x.net.kernel.routes.rows, r.via ≠ none ∧ r.table = none ∧ r.dst = dst
  | .cmd (.routeDel vni table dst) =>
    ∃ r ∈ x.net.kernel.routes.rows, r.via ≠ none ∧ r.table = table ∧ r.dst = dst ∧ r.dev = vni
  | .cmd (.enslave vni vrf) =>
    (∃ b ∈ x.net.kernel.bridges.rows, b.vni = vni ∧ b.master ≠ some vrf) ∧
      ∃ r ∈ x.net.kernel.routes.rows, r.via ≠ none ∧ r.dev = vni
  | .cmd (.linkDelete (.bridge vni)) =>
    (∃ r ∈ x.net.kernel.routes.rows, r.via ≠ none ∧ r.dev = vni) ∨
      ∃ e ∈ x.net.live.rows, e.vni = vni ∧ carries e x.hops = true
  | .cmd (.viaReplace _ _ _ _) => True
  | .cmd (.viaDel _ _ _ _) => True
  | .cmd _ => False

/-- The bridge of an announced next hop is there, if its cluster is live. -/
def Reachable : PathChange → Prop
  | .announce _ nextHop => ∀ place ∈ located x.net.live.rows nextHop, x.net.kernel.hasBridge place.1 = true
  | .withdraw _ => True

/-- A path takes over from another in all of its tables. -/
def TakesOver : PathChange → Prop
  | .announce dst nextHop => ∀ p ∈ x.best.rows, p.dst = dst → ∀ r ∈ pathRoutes x.net.live.rows dst p.nextHop,
    ∃ r' ∈ pathRoutes x.net.live.rows dst nextHop, r'.table = r.table
  | .withdraw _ => True

/-- The best paths will replace every learned route when they are replayed. -/
def Covers (best : Table BestPath) : Prop :=
  ∀ r ∈ x.net.kernel.routes.rows, r.via ≠ none → ∃ p ∈ best.rows, p.dst = r.dst ∧
    ∃ r' ∈ pathRoutes x.net.live.rows p.dst p.nextHop, r'.table = r.table

/-- The condition on a step. While the stream is up, a table event has one path per prefix, and a new path takes
    over from the old one. The stream breaks when nothing is being handled and the best paths cover what is
    installed, and they do so while it is down. Commands do not disturb. -/
def Calm : RouterEvent → Prop
  | .command =>
    match x.command with
    | .call o _ => ¬x.Disturbs o
    | .ret _ => True
  | .change batch =>
    (∀ change ∈ batch, x.Reachable change) ∧
      if x.stream.isSome then (batch.map PathChange.dst).Nodup ∧ ∀ change ∈ batch, x.TakesOver change
      else x.Covers (applyChanges x.best batch).1
  | .drop => x.buffered = [] ∧ x.handling.finished = true ∧ x.Covers x.best
  | _ => True

instance (o : NetOp) : Decidable (x.Disturbs o) := by
  apply @NetOp.casesOn _ o <;> intro o
  · apply @NetCmd.casesOn _ o <;> try (intros; dsimp only [Disturbs]; infer_instance)
    intro link
    apply @Link.casesOn _ link <;> intros <;> dsimp only [Disturbs] <;> infer_instance
  · apply @LiveOp.casesOn _ o <;> intros <;> dsimp only [Disturbs] <;> infer_instance

instance (change : PathChange) : Decidable (x.Reachable change) := by
  unfold Reachable
  split <;> infer_instance

instance (change : PathChange) : Decidable (x.TakesOver change) := by
  unfold TakesOver
  split <;> infer_instance

instance (best : Table BestPath) : Decidable (x.Covers best) := by
  unfold Covers
  infer_instance

instance : (x : Router) → (e : RouterEvent) → Decidable (x.Calm e)
  | { command := .call _ _, .. }, .command | { command := .ret _, .. }, .command | _, .reconcile _ | _, .tombstone _ _
  | _, .change _ | _, .drop | _, .subscribe | _, .receive | _, .next | _, .handle => by
    dsimp only [Calm]
    infer_instance

end Router

/-! ## What the watcher is at -/

/-- The commands for the tables that are left. -/
def restOf (spec : NetSpec) (u : LearnedRoute) (vni : Nat) (left : List (Option Nat)) :
    NetJob (Except NetworkError Unit) :=
  if u.isWithdraw then (left.forM fun table => logged (.viaDel vni table u.dst u.nextHop.text)).run
  else (left.forM fun table => runCmd spec (.viaReplace vni table u.dst u.nextHop.text)).run

/-- What follows the look-up of the next hop. -/
def afterLookup (spec : NetSpec) (u : LearnedRoute) (entries : List ClusterLive) : NetJob (Except NetworkError Unit) :=
  match located entries u.nextHop with
  | none => .ret (.ok ())
  | some (vni, vrf) => restOf spec u vni (tablesFor vrf)

theorem handle_run (spec : NetSpec) (u : LearnedRoute) : ∃ k : List ClusterLive → NetJob (Except NetworkError Unit),
    (u.handle spec).run = .call (.live .values) k ∧ ∀ entries, k entries = afterLookup spec u entries := by
  unfold LearnedRoute.handle afterLookup restOf
  cases u.isWithdraw with
  | true =>
    refine ⟨_, rfl, fun entries => ?_⟩
    show ExceptT.run (match located entries u.nextHop with
      | none => pure ()
      | some (vni, vrfTable) => (tablesFor vrfTable).forM fun table =>
          logged (.viaDel vni table u.dst u.nextHop.text)) = _
    cases located entries u.nextHop <;> rfl
  | false =>
    refine ⟨_, rfl, fun entries => ?_⟩
    show ExceptT.run (match located entries u.nextHop with
      | none => pure ()
      | some (vni, vrfTable) =>
        (tablesFor vrfTable).forM fun table => runCmd spec (.viaReplace vni table u.dst u.nextHop.text)) = _
    cases located entries u.nextHop <;> rfl

theorem restOf_install (spec : NetSpec) {u : LearnedRoute} (hu : u.isWithdraw = false) (vni : Nat) (table : Option Nat)
    (left : List (Option Nat)) : ∃ k : Except CmdFailure Unit → NetJob (Except NetworkError Unit),
      restOf spec u vni (table :: left) = .call (.cmd (.viaReplace vni table u.dst u.nextHop.text)) k ∧
        k (.ok ()) = restOf spec u vni left := by
  unfold restOf
  rw [hu]
  exact ⟨_, rfl, rfl⟩

theorem restOf_withdraw (spec : NetSpec) {u : LearnedRoute} (hu : u.isWithdraw = true) (vni : Nat)
    (table : Option Nat) (left : List (Option Nat)) : ∃ k : Except CmdFailure Unit → NetJob (Except NetworkError Unit),
      restOf spec u vni (table :: left) = .call (.cmd (.viaDel vni table u.dst u.nextHop.text)) k ∧
        ∀ r, k r = restOf spec u vni left := by
  unfold restOf
  rw [hu]
  exact ⟨_, rfl, fun _ => rfl⟩

inductive Watch where
  | idle
  /-- It waits for the lock. -/
  | waiting (u : LearnedRoute)
  /-- It has found the cluster of the next hop, and has some tables left. -/
  | going (u : LearnedRoute) (vni : Nat) (vrf : Option Nat) (left : List (Option Nat))

namespace Watch

def todo : Watch → Option LearnedRoute
  | idle => none
  | waiting u => some u
  | going u _ _ _ => some u

def Runs (spec : NetSpec) (p : NetJob (Except NetworkError Unit)) : Watch → Prop
  | idle => p.finished = true
  | waiting u => p = (u.handle spec).run
  | going u vni _ left => p = restOf spec u vni left

/-- The routes for the prefix of a path in the middle of its handling. -/
def Partway (entries : List ClusterLive) (u : LearnedRoute) (left : List (Option Nat)) (rows : Set Route) : Prop :=
  if u.isWithdraw then ∀ r ∈ rows, r ∈ pathRoutes entries u.dst u.nextHop ∧ r.table ∈ left
  else (∀ r ∈ rows, r.table ∈ left ∨ r ∈ pathRoutes entries u.dst u.nextHop) ∧
    ∀ r ∈ pathRoutes entries u.dst u.nextHop, r.table ∈ left ∨ r ∈ rows

/-- The events for the prefix, the one in hand first, lead from these routes to routes with `fin`. -/
def Leads (entries : List ClusterLive) (dst : String) (fin : Set Route → Prop) (rows : Set Route)
    (us : List LearnedRoute) : Watch → Prop
  | idle => Chain entries dst fin rows us
  | waiting u => Chain entries dst fin rows (u :: us)
  | going u vni vrf left => located entries u.nextHop = some (vni, vrf) ∧ left ≠ [] ∧ (∀ t ∈ left, t ∈ tablesFor vrf) ∧
    if u.dst = dst then Partway entries u left rows ∧ Chain entries dst fin (intended entries dst u.result) us
    else Chain entries dst fin rows us

section Leads

variable {entries entries' : List ClusterLive} {dst : String} {fin fin' : Set Route → Prop} {rows : Set Route}
variable {us ms : List LearnedRoute} {g : Watch}

theorem Leads.append (h : g.Leads entries dst fin rows us)
    (hfin : ∀ rows, fin rows → Chain entries dst fin' rows ms) : g.Leads entries dst fin' rows (us ++ ms) := by
  cases g with
  | idle => exact chain_append.mpr (Chain.mono h hfin)
  | waiting u =>
    show Chain entries dst fin' rows ((u :: us) ++ ms)
    exact chain_append.mpr (Chain.mono h hfin)
  | going u vni vrf left =>
    obtain ⟨hplace, hleft, htables, hchain⟩ := h
    refine ⟨hplace, hleft, htables, ?_⟩
    split at hchain
    · rename_i hu
      rw [if_pos hu]
      exact ⟨hchain.1, chain_append.mpr (hchain.2.mono hfin)⟩
    · rename_i hu
      rw [if_neg hu]
      exact chain_append.mpr (hchain.mono hfin)

theorem Leads.congr (h : g.Leads entries dst fin rows us)
    (hsame : ∀ u ∈ g.todo.toList ++ us, located entries' u.nextHop = located entries u.nextHop) :
    g.Leads entries' dst fin rows us := by
  cases g with
  | idle | waiting u => exact (chain_congr hsame).mpr h
  | going u vni vrf left =>
    have hown : located entries' u.nextHop = located entries u.nextHop := hsame u mem_cons_self
    have hroutes : ∀ d, pathRoutes entries' d u.nextHop = pathRoutes entries d u.nextHop := fun d =>
      pathRoutes_congr hown
    have hrest : ∀ rows, Chain entries' dst fin rows us ↔ Chain entries dst fin rows us := fun rows =>
      chain_congr fun u' hu' => hsame u' (mem_cons_of_mem u hu')
    obtain ⟨hplace, hleft, htables, hchain⟩ := h
    refine ⟨hown.trans hplace, hleft, htables, ?_⟩
    simp only [Partway, hroutes, intended_result_congr hown, hrest] at hchain ⊢
    exact hchain

end Leads

end Watch

/-! ## What every step keeps -/

/-- The routes for the prefix once all events are handled: those of the best path, or, while the stream is down,
    routes that the best path will replace. -/
def Router.Settled (x : Router) (dst : String) (rows : Set Route) : Prop :=
  match x.stream with
  | some _ => rows = intended x.net.live.rows dst (bestHop x.best dst)
  | none => ∀ r ∈ rows, ∃ r' ∈ intended x.net.live.rows dst (bestHop x.best dst), r'.table = r.table

structure Router.Tracks (spec : NetSpec) (g : Watch) (x : Router) : Prop where
  runs : g.Runs spec x.handling
  hand : x.inHand = g.todo
  down : x.stream = none → x.buffered = [] ∧ g = .idle
  bridges : ∀ nextHop ∈ x.hops, ∀ place ∈ located x.net.live.rows nextHop, x.net.kernel.hasBridge place.1 = true
  leads : ∀ dst, g.Leads x.net.live.rows dst (x.Settled dst) (learned x.net dst) x.queue

section Steps

variable {spec : NetSpec} {g : Watch} {x x' : Router}

theorem Router.mem_hops_best {p : BestPath} (h : p ∈ x.best.rows) : p.nextHop ∈ x.hops :=
  mem_append_left _ (mem_map_of_mem h)

theorem Router.mem_hops_todo {u : LearnedRoute} (h : u ∈ x.inHand.toList ++ x.queue) : u.nextHop ∈ x.hops :=
  mem_append_right _ (mem_map_of_mem h)

theorem Router.forall_hops {P : Ipv4Addr → Prop} (hbest : ∀ p ∈ x.best.rows, P p.nextHop)
    (htodo : ∀ u ∈ x.inHand.toList ++ x.queue, P u.nextHop) : ∀ nextHop ∈ x.hops, P nextHop := by
  intro nextHop hhop
  rcases mem_append.mp hhop with hhop | hhop
  · obtain ⟨p, hp, rfl⟩ := mem_map.mp hhop
    exact hbest p hp
  · obtain ⟨u, hu, rfl⟩ := mem_map.mp hhop
    exact htodo u hu

/-- A change of the host that leaves learned routes and the clusters of next hops as they are. -/
theorem Router.Tracks.withNet (h : x.Tracks spec g) {net : Net} {command : NetJob (Except NetworkError Unit)}
    (hlearned : ∀ dst, learned net dst = learned x.net dst)
    (hlocated : ∀ nextHop ∈ x.hops, located net.live.rows nextHop = located x.net.live.rows nextHop)
    (hbridges : ∀ nextHop ∈ x.hops, ∀ place ∈ located x.net.live.rows nextHop,
      x.net.kernel.hasBridge place.1 = true → net.kernel.hasBridge place.1 = true) :
    Router.Tracks spec g { x with net, command } where
  runs := h.runs
  hand := h.hand
  down := h.down
  bridges := by
    intro nextHop hhop place hplace
    rw [show Router.hops { x with net, command } = x.hops from rfl] at hhop
    rw [hlocated nextHop hhop] at hplace
    exact hbridges nextHop hhop place hplace (h.bridges nextHop hhop place hplace)
  leads := by
    intro dst
    have hintended : intended net.live.rows dst (bestHop x.best dst) =
        intended x.net.live.rows dst (bestHop x.best dst) := by
      cases hbest : bestHop x.best dst with
      | none => rfl
      | some nextHop => simp only [intended, pathRoutes_congr (hlocated _ (mem_hops_best (bestHop_eq_some.mp hbest)))]
    have hsettled : Router.Settled { x with net, command } dst = x.Settled dst := by
      funext rows
      unfold Settled
      dsimp only
      rw [hintended]
    show g.Leads net.live.rows dst (Router.Settled { x with net, command } dst) (learned net dst) x.queue
    rw [hsettled, hlearned]
    refine (h.leads dst).congr fun u hu => hlocated _ (mem_hops_todo ?_)
    rw [h.hand]
    exact hu

/-! ### Commands -/

section Located

variable {entries : List ClusterLive} {hops : List Ipv4Addr} {nextHop : Ipv4Addr}

variable {e : ClusterLive}

theorem located_cons (hhop : nextHop ∈ hops) (he : carries e hops = false) :
    located (e :: entries) nextHop = located entries nextHop := by
  unfold located carries at *
  rw [List.findSome?_cons]
  cases hnet : e.cidr.bind Ipv4Net.parse with
  | none => rfl
  | some net =>
    have hout : ¬net.contains nextHop = true := by
      intro hin
      rw [hnet] at he
      simp only [Option.any_some, any_eq_false] at he
      exact he nextHop hhop hin
    simp only [if_neg hout]

/-- Entries that carry none of the next hops may go. -/
theorem located_filter {p : ClusterLive → Bool} (hhop : nextHop ∈ hops)
    (h : ∀ e ∈ entries, p e = false → carries e hops = false) :
    located (entries.filter p) nextHop = located entries nextHop := by
  induction entries with
  | nil => rfl
  | cons e entries ih =>
    have hrest := ih fun e' he' => h e' (mem_cons_of_mem e he')
    by_cases hp : p e = true
    · rw [filter_cons_of_pos hp]
      unfold located at hrest ⊢
      rw [List.findSome?_cons, List.findSome?_cons, hrest]
    · rw [filter_cons_of_neg hp, hrest]
      exact (located_cons hhop (h e mem_cons_self (Bool.eq_false_of_not_eq_true hp))).symm

theorem located_snoc (hhop : nextHop ∈ hops) (he : carries e hops = false) :
    located (entries ++ [e]) nextHop = located entries nextHop := by
  have hlast : located [e] nextHop = none := located_cons hhop he
  unfold located at hlast ⊢
  rw [List.findSome?_append, hlast, Option.or_none]

theorem carries_of_located {place : Nat × Option Nat} (hhop : nextHop ∈ hops)
    (h : located entries nextHop = some place) : ∃ e ∈ entries, e.vni = place.1 ∧ carries e hops = true := by
  obtain ⟨e, he, hplace⟩ := exists_of_findSome?_eq_some h
  refine ⟨e, he, ?_⟩
  unfold carries
  repeat' split at hplace
  all_goals cases hplace
  rename_i net hnet hin
  rw [hnet]
  exact ⟨rfl, by simpa using ⟨nextHop, hhop, hin⟩⟩

end Located

/-- What an undisturbing command leaves of the kernel. -/
structure Router.Leaves (x : Router) (k : Kernel) : Prop where
  routes : ∀ r : Route, r.via ≠ none → (r ∈ k.routes.rows ↔ r ∈ x.net.kernel.routes.rows)
  bridges : ∀ nextHop ∈ x.hops, ∀ place ∈ located x.net.live.rows nextHop,
    x.net.kernel.hasBridge place.1 = true → k.hasBridge place.1 = true

theorem hasBridge_exec {c : NetCmd} {k : Kernel} {vni : Nat} (h : k.hasBridge vni = true)
    (hc : c ≠ .linkDelete (.bridge vni)) : (c.exec k).1.hasBridge vni = true := by
  obtain ⟨b, hb, hvni⟩ := Kernel.hasBridge_iff.mp h
  cases c with
  | enslave vni' vrf =>
    refine onObject_fst h ?_
    exact hasBridge_update (f := fun b => { b with master := some vrf }) (fun _ _ => Iff.rfl) (fun _ => rfl) h
  | addrReplace vni' address =>
    refine onObject_fst h ?_
    exact hasBridge_update _ (fun _ => rfl) h
  | linkDelete link =>
    cases link with
    | bridge vni' =>
      refine onObject_fst h (Kernel.hasBridge_iff.mpr ⟨b, mem_delete.mpr ⟨hb, decide_eq_false fun hdel => hc ?_⟩, hvni⟩)
      rw [← hdel, hvni]
    | vxlan vni' => exact onObject_fst h h
    | vrf name =>
      refine onObject_fst h ?_
      exact hasBridge_update _ (fun _ => rfl) h
  | linkAddBridge vni' =>
    exact onNew_fst h fun bridges hins => Kernel.hasBridge_iff.mpr ⟨b, (mem_insert hins).mpr (.inl hb), hvni⟩
  | linkAddVxlan vni' addr | linkAddVrf vrf => exact onNew_fst h fun _ _ => h
  | linkSetMtu link mtu | linkSetUp link =>
    cases link with
    | bridge vni' =>
      refine onObject_fst h ?_
      exact hasBridge_update _ (fun _ => rfl) h
    | _ => exact onObject_fst h h
  | listBridges | neighShow | ruleAppend rule | neighReplace addr | arping addr => exact h
  | _ => exact onObject_fst h h

theorem Router.disturbs_of_takes {c : NetCmd} (hr : r ∈ x.net.kernel.routes.rows) (hvia : r.via ≠ none)
    (h : c.takes x.net.kernel r) : x.Disturbs (.cmd c) := by
  cases c with
  | routeReplace vni table dst | replyRoute vni dst | routeDel vni table dst => exact ⟨r, hr, hvia, h⟩
  | viaReplace vni table dst nextHop | viaDel vni table dst nextHop => trivial
  | enslave vni vrf => exact ⟨h.2, r, hr, hvia, h.1⟩
  | linkDelete link =>
    cases link with
    | bridge vni => exact .inl ⟨r, hr, hvia, h⟩
    | _ => exact h.elim
  | _ => exact h.elim

theorem Router.leaves_exec {c : NetCmd} (h : ¬x.Disturbs (.cmd c)) : x.Leaves (c.exec x.net.kernel).1 := by
  refine ⟨fun r hvia => ⟨fun hr => (mem_routes_exec hr).resolve_right fun hadds => ?_, fun hr =>
    routes_exec_of_not_takes hr fun htakes => h (disturbs_of_takes hr hvia htakes)⟩,
    fun nextHop hhop place hplace hbridge =>
    hasBridge_exec hbridge ?_⟩
  · -- only the watcher installs routes with a next hop
    cases c with
    | routeReplace vni table dst | replyRoute vni dst => exact hvia (hadds ▸ rfl)
    | viaReplace vni table dst nextHop => exact h trivial
    | _ => exact hadds
  · rintro rfl
    obtain ⟨e, he, hplaced, hcarries⟩ := carries_of_located hhop hplace
    exact h (.inr ⟨e, he, hplaced, hcarries⟩)

variable {k : Kernel} {o : NetOp}

theorem Router.Leaves.learned (h : x.Leaves k) (dst : String) :
    Agent.learned { x.net with kernel := k } dst = Agent.learned x.net dst := by
  refine Set.ext fun r => ?_
  constructor
  · rintro ⟨hr, hvia, hdst⟩
    exact ⟨(h.routes r hvia).mp hr, hvia, hdst⟩
  · rintro ⟨hr, hvia, hdst⟩
    exact ⟨(h.routes r hvia).mpr hr, hvia, hdst⟩

theorem Router.Tracks.command (h : x.Tracks spec g) (ho : ¬x.Disturbs o)
    {command : NetJob (Except NetworkError Unit)} :
    Router.Tracks spec g { x with net := (o.exec x.net).1, command } := by
  cases o with
  | cmd c =>
    have hleaves := leaves_exec ho
    exact h.withNet hleaves.learned (fun _ _ => rfl) hleaves.bridges
  | live o =>
    cases o with
    | insert e =>
      refine h.withNet (fun _ => rfl) (fun nextHop hhop => ?_) fun _ _ _ _ hbridge => hbridge
      show located (x.net.live.put e).rows nextHop = _
      unfold Table.put
      split
      · rfl
      rename_i hfresh
      have hnew : carries e x.hops = false :=
        Bool.eq_false_of_not_eq_true fun hcarries => ho ⟨hfresh, .inl hcarries⟩
      unfold Table.upsert
      dsimp only
      rw [located_snoc hhop hnew]
      refine located_filter hhop fun e' he' hclash => Bool.eq_false_of_not_eq_true fun hcarries =>
        ho ⟨hfresh, .inr ⟨e', he', not_not.mp (of_decide_eq_false hclash), hcarries⟩⟩
    | remove vni =>
      refine h.withNet (fun _ => rfl) (fun nextHop hhop => ?_) fun _ _ _ _ hbridge => hbridge
      show located (x.net.live.delete fun e => e.vni = vni).rows nextHop = _
      rw [rows_delete]
      refine located_filter hhop fun e he hsel => Bool.eq_false_of_not_eq_true fun hcarries => ho ⟨e, he, ?_, hcarries⟩
      simpa using hsel
    | _ => exact h.withNet (fun _ => rfl) (fun _ _ => rfl) fun _ _ _ _ hbridge => hbridge

/-! ### The daemon -/

section Changes

variable {best : Table BestPath} {batch : List PathChange} {dst : String}

/-- What a change leaves as the best path of its prefix. -/
def PathChange.result : PathChange → Option Ipv4Addr
  | announce _ nextHop => some nextHop
  | withdraw _ => none

theorem bestHop_apply (change : PathChange) :
    bestHop (change.apply best).1 dst = if change.dst = dst then change.result else bestHop best dst := by
  refine Option.ext fun nextHop => ?_
  rw [bestHop_eq_some]
  cases change with
  | announce d nh =>
    show _ ∈ (best.upsert ⟨d, nh⟩).rows ↔ (if d = dst then some nh else bestHop best dst) = some nextHop
    rw [mem_upsert]
    by_cases hd : d = dst
    · subst hd
      rw [if_pos rfl, Option.some.injEq]
      constructor
      · rintro (⟨-, hclash⟩ | heq)
        · exact absurd rfl hclash
        · cases heq
          rfl
      · rintro rfl
        exact .inr rfl
    · rw [if_neg hd, bestHop_eq_some]
      constructor
      · rintro (⟨hold, -⟩ | heq)
        · exact hold
        · cases heq
          exact absurd rfl hd
      · intro hold
        exact .inl ⟨hold, fun hclash => hd hclash.symm⟩
  | withdraw d =>
    show _ ∈ (best.delete fun p => p.dst = d).rows ↔ (if d = dst then none else bestHop best dst) = some nextHop
    rw [mem_delete]
    by_cases hd : d = dst
    · subst hd
      simp
    · rw [if_neg hd, bestHop_eq_some]
      refine and_iff_left_of_imp fun _ => decide_eq_false fun h => hd h.symm

theorem events_withdraw (d : String) : (PathChange.apply best (.withdraw d)).2 =
    ((bestHop best d).map fun nextHop => (⟨d, nextHop, true⟩ : LearnedRoute)).toList := by
  unfold bestHop
  rw [Option.map_map]
  rfl

/-- The event of a change, and whose next hop it carries. -/
theorem mem_apply {change : PathChange} {u : LearnedRoute} (h : u ∈ (change.apply best).2) :
    u.dst = change.dst ∧ u.result = change.result ∧
      (change = .announce u.dst u.nextHop ∧ u.isWithdraw = false ∨
        u.isWithdraw = true ∧ ⟨u.dst, u.nextHop⟩ ∈ best.rows) := by
  cases change with
  | announce d nh =>
    obtain rfl := mem_singleton.mp h
    exact ⟨rfl, rfl, .inl ⟨rfl, rfl⟩⟩
  | withdraw d =>
    rw [events_withdraw, Option.mem_toList] at h
    obtain ⟨nextHop, hold, rfl⟩ := Option.map_eq_some_iff.mp h
    exact ⟨rfl, rfl, .inr ⟨rfl, bestHop_eq_some.mp hold⟩⟩

/-- A change carries one event; one that carries none leaves its prefix without a path, as it was. -/
theorem events_apply (best : Table BestPath) (change : PathChange) :
    (change.apply best).2 = [] ∧ change.result = none ∧ bestHop best change.dst = none ∨
      ∃ u, (change.apply best).2 = [u] := by
  cases change with
  | announce d nh => exact .inr ⟨_, rfl⟩
  | withdraw d =>
    rw [events_withdraw]
    show _ ∨ _
    cases hold : bestHop best d with
    | none => exact .inl ⟨rfl, rfl, hold⟩
    | some nextHop => exact .inr ⟨_, rfl⟩

theorem applyChanges_cons (change : PathChange) : applyChanges best (change :: batch) =
    ((applyChanges (change.apply best).1 batch).1,
      (change.apply best).2 ++ (applyChanges (change.apply best).1 batch).2) := rfl

theorem applyChanges_other (best : Table BestPath) (h : dst ∉ batch.map PathChange.dst) :
    bestHop (applyChanges best batch).1 dst = bestHop best dst ∧
      (applyChanges best batch).2.filter (fun u => u.dst = dst) = [] := by
  induction batch generalizing best with
  | nil => exact ⟨rfl, rfl⟩
  | cons change batch ih =>
    rw [map_cons, mem_cons, not_or] at h
    obtain ⟨hbest, hnone⟩ := ih (change.apply best).1 h.2
    rw [applyChanges_cons, filter_append, hnone, append_nil]
    refine ⟨?_, filter_eq_nil_iff.mpr fun u hu => ?_⟩
    · rw [hbest, bestHop_apply, if_neg fun heq => h.1 heq.symm]
    · simpa [(mem_apply hu).1] using fun heq => h.1 heq.symm

/-- **A table event with one change per prefix**, as the events for a prefix and its new best path. -/
theorem applyChanges_one (best : Table BestPath) (h : (batch.map PathChange.dst).Nodup) (dst : String) :
    ((applyChanges best batch).2.filter (fun u => u.dst = dst) = [] ∧
      bestHop (applyChanges best batch).1 dst = bestHop best dst) ∨
    ∃ u, (applyChanges best batch).2.filter (fun u => u.dst = dst) = [u] ∧ u.dst = dst ∧
      bestHop (applyChanges best batch).1 dst = u.result ∧
      (.announce dst u.nextHop ∈ batch ∧ u.isWithdraw = false ∨
        u.isWithdraw = true ∧ bestHop best dst = some u.nextHop) := by
  induction batch generalizing best with
  | nil => exact .inl ⟨rfl, rfl⟩
  | cons change batch ih =>
    rw [map_cons, nodup_cons] at h
    rw [applyChanges_cons, filter_append]
    by_cases hdst : change.dst = dst
    · -- the head changes the prefix, and nothing after it does
      subst hdst
      obtain ⟨hbest, hnone⟩ := applyChanges_other (change.apply best).1 h.1
      rw [hnone, append_nil, hbest, bestHop_apply, if_pos rfl]
      rcases events_apply best change with ⟨hsilent, hresult, hold⟩ | ⟨u, hu⟩
      · rw [hsilent, hresult, hold]
        exact .inl ⟨rfl, rfl⟩
      · have hmem : u ∈ (change.apply best).2 := by
          rw [hu]
          exact mem_singleton_self u
        obtain ⟨hd, hresult, hfrom⟩ := mem_apply hmem
        refine .inr ⟨u, ?_, hd, hresult.symm, ?_⟩
        · rw [hu]
          simp [hd]
        · rw [← hd]
          rcases hfrom with ⟨hfrom, hannounce⟩ | ⟨hwithdraw, hrow⟩
          · exact .inl ⟨hfrom ▸ mem_cons_self, hannounce⟩
          · exact .inr ⟨hwithdraw, bestHop_eq_some.mpr hrow⟩
    · have hskip : (change.apply best).2.filter (fun u => u.dst = dst) = [] :=
        filter_eq_nil_iff.mpr fun u hu => by simpa [(mem_apply hu).1] using hdst
      have hbest : bestHop (change.apply best).1 dst = bestHop best dst := by rw [bestHop_apply, if_neg hdst]
      rw [hskip, nil_append]
      rcases ih (change.apply best).1 h.2 with ⟨hnone, hsame⟩ | ⟨u, hone, hd, hresult, hfrom⟩
      · exact .inl ⟨hnone, hsame.trans hbest⟩
      · refine .inr ⟨u, hone, hd, hresult, hfrom.imp (fun h => ⟨mem_cons_of_mem change h.1, h.2⟩) fun hold => ?_⟩
        rw [← hbest]
        exact hold

/-- Where the next hops of a table event and of the new best paths come from. -/
theorem hops_applyChanges (best : Table BestPath) (batch : List PathChange) :
    (∀ p ∈ (applyChanges best batch).1.rows, p ∈ best.rows ∨ .announce p.dst p.nextHop ∈ batch) ∧
      ∀ u ∈ (applyChanges best batch).2, ⟨u.dst, u.nextHop⟩ ∈ best.rows ∨ .announce u.dst u.nextHop ∈ batch := by
  induction batch generalizing best with
  | nil => exact ⟨fun p hp => .inl hp, fun u hu => nomatch hu⟩
  | cons change batch ih =>
    have hstep : ∀ p ∈ (change.apply best).1.rows, p ∈ best.rows ∨ .announce p.dst p.nextHop ∈ change :: batch := by
      intro p hp
      cases change with
      | announce d nh =>
        rcases mem_upsert.mp hp with ⟨hold, -⟩ | rfl
        · exact .inl hold
        · exact .inr mem_cons_self
      | withdraw d => exact .inl (mem_delete.mp hp).1
    have hlift : ∀ p : BestPath, p ∈ (change.apply best).1.rows ∨ .announce p.dst p.nextHop ∈ batch →
        p ∈ best.rows ∨ .announce p.dst p.nextHop ∈ change :: batch := by
      rintro p (hp | hp)
      · exact hstep p hp
      · exact .inr (mem_cons_of_mem change hp)
    obtain ⟨hbest, hevents⟩ := ih (change.apply best).1
    rw [applyChanges_cons]
    refine ⟨fun p hp => hlift p (hbest p hp), fun u hu => ?_⟩
    rcases mem_append.mp hu with hu | hu
    · rcases (mem_apply hu).2.2 with ⟨hfrom, -⟩ | ⟨-, hrow⟩
      · exact .inr (hfrom ▸ mem_cons_self)
      · exact .inl hrow
    · exact hlift ⟨u.dst, u.nextHop⟩ (hevents u hu)

end Changes

theorem Router.queue_change {ts : List (List LearnedRoute)} (paths : List LearnedRoute) (best : Table BestPath)
    (hup : x.stream = some ts) :
    Router.queue { x with best, stream := some (ts ++ [paths]) } = x.queue ++ paths.reverse := by
  unfold queue
  rw [hup]
  simp

/-- The events of a change lead from the routes of the old best paths to those of the new ones. -/
theorem Router.chain_change {batch : List PathChange} {dst : String} {fin : Set Route → Prop}
    {entries : List ClusterLive} (hentries : entries = x.net.live.rows)
    (hone : (batch.map PathChange.dst).Nodup) (hover : ∀ change ∈ batch, x.TakesOver change)
    (hfin : fin (intended entries dst (bestHop (applyChanges x.best batch).1 dst))) :
    Chain entries dst fin (intended entries dst (bestHop x.best dst)) (applyChanges x.best batch).2.reverse := by
  subst hentries
  rw [chain_filter, filter_reverse]
  rcases applyChanges_one x.best hone dst with ⟨hnone, hsame⟩ | ⟨u, hu, hd, hresult, hfrom⟩
  · rw [hnone]
    rwa [hsame] at hfin
  · rw [hu, reverse_singleton, chain_cons_own hd, ← hresult]
    refine ⟨fun r hr => ?_, hfin⟩
    rcases hfrom with ⟨hmem, hannounce⟩ | ⟨hwithdraw, hold⟩
    · rw [hannounce]
      cases hbest : bestHop x.best dst with
      | none =>
        rw [hbest] at hr
        cases hr
      | some old =>
        rw [hbest] at hr
        have hnew := hover _ hmem ⟨dst, old⟩ (bestHop_eq_some.mp hbest) rfl r hr
        rw [hd]
        simpa using hnew
    · rw [hold] at hr
      rw [hwithdraw, if_pos rfl, hd]
      exact hr

theorem Router.Covers.settled {best : Table BestPath} (h : x.Covers best) {dst : String} :
    ∀ r ∈ learned x.net dst, ∃ r' ∈ intended x.net.live.rows dst (bestHop best dst), r'.table = r.table := by
  rintro r ⟨hr, hvia, hdst⟩
  obtain ⟨p, hp, hpdst, r', hr', htable⟩ := h r hr hvia
  have hbest : bestHop best dst = some p.nextHop := by
    rw [bestHop_eq_some, ← hdst, ← hpdst]
    exact hp
  refine ⟨r', ?_, htable⟩
  rw [hbest, ← hdst, ← hpdst]
  exact hr'

theorem Router.Tracks.change (h : x.Tracks spec g) {batch : List PathChange} (hcalm : x.Calm (.change batch)) :
    Router.Tracks spec g { x with
      best := (applyChanges x.best batch).1, stream := x.stream.map (· ++ [(applyChanges x.best batch).2]) } := by
  obtain ⟨hreach, hcalm⟩ := hcalm
  have hannounced : ∀ dst nextHop, .announce dst nextHop ∈ batch → ∀ place ∈ located x.net.live.rows nextHop,
      x.net.kernel.hasBridge place.1 = true := fun dst nextHop hmem => hreach _ hmem
  obtain ⟨hbestHops, heventHops⟩ := hops_applyChanges x.best batch
  have hbest : ∀ p ∈ (applyChanges x.best batch).1.rows, ∀ place ∈ located x.net.live.rows p.nextHop,
      x.net.kernel.hasBridge place.1 = true := by
    intro p hp
    rcases hbestHops p hp with hold | hnew
    · exact h.bridges _ (mem_hops_best hold)
    · exact hannounced _ _ hnew
  cases hstream : x.stream with
  | none =>
    -- nothing is under way: what is installed stays covered
    rw [hstream] at hcalm
    obtain ⟨hbuffered, rfl⟩ := h.down hstream
    have hqueue : Router.queue { x with best := (applyChanges x.best batch).1, stream := none } = [] := by
      unfold queue
      simp [hbuffered]
    show Router.Tracks spec .idle { x with best := (applyChanges x.best batch).1, stream := none }
    refine ⟨h.runs, h.hand, fun _ => ⟨hbuffered, rfl⟩, forall_hops hbest fun u hu => ?_, fun dst => ?_⟩
    · rw [hqueue, append_nil] at hu
      exact h.bridges _ (mem_hops_todo (mem_append_left _ hu))
    · show Chain _ _ _ _ (Router.queue _)
      rw [show Router.queue _ = [] from hqueue]
      exact Covers.settled hcalm
  | some ts =>
    rw [hstream] at hcalm
    obtain ⟨hone, hover⟩ := hcalm
    have hqueue := queue_change (applyChanges x.best batch).2 (applyChanges x.best batch).1 hstream
    show Router.Tracks spec g { x with best := (applyChanges x.best batch).1, stream := some (ts ++ [_]) }
    refine ⟨h.runs, h.hand, nofun, forall_hops hbest fun u hu => ?_, fun dst => ?_⟩
    · rw [show Router.queue _ = _ from hqueue, ← append_assoc] at hu
      rcases mem_append.mp hu with hu | hu
      · exact h.bridges _ (mem_hops_todo hu)
      · rcases heventHops u (mem_reverse.mp hu) with hold | hnew
        · exact h.bridges _ (mem_hops_best hold)
        · exact hannounced _ _ hnew
    · show g.Leads _ _ _ _ (Router.queue _)
      rw [show Router.queue _ = _ from hqueue]
      refine (h.leads dst).append fun rows hrows => ?_
      unfold Settled at hrows
      rw [hstream] at hrows
      rw [show rows = _ from hrows]
      exact chain_change rfl hone hover rfl

theorem Router.Tracks.drop (h : x.Tracks spec g) (hcalm : x.Calm .drop) :
    Router.Tracks spec .idle { x with stream := none } := by
  obtain ⟨hbuffered, hfinished, hcovers⟩ := hcalm
  have hhand : x.inHand = none := if_pos hfinished
  have hqueue : Router.queue { x with stream := none } = [] := by
    unfold queue
    simp [hbuffered]
  refine ⟨hfinished, hhand, fun _ => ⟨hbuffered, rfl⟩, fun nextHop hhop => ?_, fun dst => ?_⟩
  · rcases mem_append.mp hhop with hhop | hhop
    · exact h.bridges _ (mem_append_left _ hhop)
    · rw [hqueue, show Router.inHand { x with stream := none } = none from hhand] at hhop
      cases hhop
  · show Chain _ _ _ _ (Router.queue _)
    rw [show Router.queue _ = [] from hqueue]
    exact hcovers.settled

/-- A new subscription replays the best paths. -/
theorem Router.Tracks.subscribe (h : x.Tracks spec g) (hdown : x.stream = none) :
    Router.Tracks spec .idle { x with stream := some [x.best.rows.map fun p => ⟨p.dst, p.nextHop, false⟩] } := by
  obtain ⟨hbuffered, rfl⟩ := h.down hdown
  have hqueue : Router.queue { x with stream := some [x.best.rows.map fun p => ⟨p.dst, p.nextHop, false⟩] } =
      (x.best.rows.map fun p => (⟨p.dst, p.nextHop, false⟩ : LearnedRoute)).reverse := by
    unfold queue
    simp [hbuffered]
  have hold : ∀ p ∈ x.best.rows, _ := fun p hp => h.bridges p.nextHop (mem_hops_best hp)
  refine ⟨h.runs, h.hand, nofun, forall_hops hold fun u hu => ?_, fun dst => ?_⟩
  · rw [hqueue] at hu
    change u ∈ x.inHand.toList ++ _ at hu
    rw [h.hand] at hu
    obtain ⟨p, hp, rfl⟩ := mem_map.mp (mem_reverse.mp hu)
    exact hold p hp
  · -- the one event for the prefix takes over what is installed
    have hrows : ∀ r ∈ learned x.net dst, ∃ r' ∈ intended x.net.live.rows dst (bestHop x.best dst),
        r'.table = r.table := by
      have hchain := h.leads dst
      rw [show x.queue = [] by unfold queue; simp [hbuffered, hdown]] at hchain
      have hsettled : x.Settled dst (learned x.net dst) := hchain
      unfold Settled at hsettled
      rw [hdown] at hsettled
      exact hsettled
    show Chain _ _ _ _ (Router.queue _)
    rw [show Router.queue _ = _ from hqueue, chain_filter, filter_reverse, filter_map,
      show ((fun u : LearnedRoute => decide (u.dst = dst)) ∘ fun p : BestPath =>
        (⟨p.dst, p.nextHop, false⟩ : LearnedRoute)) =
        fun p => decide (p.dst = dst) from rfl, filter_eq_find clash_of_dst]
    cases hfind : x.best.find fun p => p.dst = dst with
    | none =>
      have hbest : bestHop x.best dst = none := by
        unfold bestHop
        rw [hfind]
        rfl
      show learned x.net dst = intended x.net.live.rows dst (bestHop x.best dst)
      rw [hbest] at hrows ⊢
      refine Set.eq_empty_iff_forall_notMem.mpr fun r hr => ?_
      obtain ⟨r', hr', -⟩ := hrows r hr
      exact hr'
    | some p =>
      obtain ⟨hp, hpdst⟩ := (find_eq_some clash_of_dst).mp hfind
      have hpdst : p.dst = dst := of_decide_eq_true hpdst
      have hbest : bestHop x.best dst = some p.nextHop := by
        unfold bestHop
        rw [hfind]
        rfl
      refine (chain_cons_own hpdst).mpr ⟨fun r hr => ?_, ?_⟩
      · obtain ⟨r', hr', htable⟩ := hrows r hr
        rw [hbest] at hr'
        refine ⟨r', ?_, htable⟩
        show r' ∈ pathRoutes _ p.dst p.nextHop
        rw [hpdst]
        exact hr'
      · show intended x.net.live.rows dst (some p.nextHop) = intended x.net.live.rows dst (bestHop x.best dst)
        rw [hbest]

/-! ### The watcher -/

theorem Router.Tracks.receive (h : x.Tracks spec g) {paths : List LearnedRoute} {rest : List (List LearnedRoute)}
    (hup : x.stream = some (paths :: rest)) (hbuffered : x.buffered = []) :
    Router.Tracks spec g { x with stream := some rest, buffered := paths } := by
  have hqueue : Router.queue { x with stream := some rest, buffered := paths } = x.queue := by
    unfold queue
    simp [hup, hbuffered]
  refine ⟨h.runs, h.hand, nofun, fun nextHop hhop => h.bridges nextHop ?_, fun dst => ?_⟩
  · unfold hops at hhop ⊢
    rwa [hqueue] at hhop
  · have hchain := h.leads dst
    rw [show x.Settled dst = Router.Settled { x with stream := some rest, buffered := paths } dst by
      funext rows
      unfold Settled
      rw [hup], ← hqueue] at hchain
    exact hchain

theorem Watch.eq_idle (h : g.todo = none) : g = .idle := by
  cases g with
  | idle => rfl
  | waiting u | going u vni vrf left => cases h

theorem finished_handle {u : LearnedRoute} : (u.handle spec).run.finished = false := by
  obtain ⟨k, hk, -⟩ := handle_run spec u
  rw [hk]
  rfl

theorem Router.Tracks.next (h : x.Tracks spec g) {u : LearnedRoute} (hlast : x.buffered.getLast? = some u)
    (hfinished : x.handling.finished = true) :
    Router.Tracks spec (.waiting u) { x with
      buffered := x.buffered.dropLast, route := some u, handling := (u.handle spec).run } := by
  have hbuffered : x.buffered.dropLast ++ [u] = x.buffered := dropLast_append_getLast? u hlast
  have hnone : x.inHand = none := if_pos hfinished
  have hidle : g = .idle := Watch.eq_idle (h.hand.symm.trans hnone)
  have hhand : Router.inHand { x with
      buffered := x.buffered.dropLast, route := some u, handling := (u.handle spec).run } = some u := by
    unfold inHand
    dsimp only
    rw [finished_handle, if_neg Bool.false_ne_true]
  have hqueue : x.queue = u :: Router.queue { x with
      buffered := x.buffered.dropLast, route := some u, handling := (u.handle spec).run } := by
    unfold queue
    dsimp only
    conv_lhs => rw [← hbuffered]
    rw [reverse_append]
    rfl
  refine ⟨rfl, hhand, fun hdown => ?_, fun nextHop hhop => h.bridges nextHop ?_, fun dst => ?_⟩
  · rw [(h.down hdown).1] at hlast
    cases hlast
  · unfold hops at hhop ⊢
    rwa [hnone, hqueue, Option.toList_none, nil_append, ← singleton_append, ← Option.toList_some, ← hhand]
  · have hchain := h.leads dst
    rw [hqueue, hidle] at hchain
    exact hchain

theorem finished_restOf {u : LearnedRoute} {vni : Nat} {left : List (Option Nat)} (hleft : left ≠ []) :
    (restOf spec u vni left).finished = false := by
  obtain ⟨table, left, rfl⟩ := exists_cons_of_ne_nil hleft
  cases hu : u.isWithdraw with
  | true =>
    obtain ⟨k, hk, -⟩ := restOf_withdraw spec hu vni table left
    rw [hk]
    rfl
  | false =>
    obtain ⟨k, hk, -⟩ := restOf_install spec hu vni table left
    rw [hk]
    rfl

/-- With no table left, the routes are those of the path. -/
theorem Watch.Partway.nil {entries : List ClusterLive} {u : LearnedRoute} {rows : Set Route}
    (h : Partway entries u [] rows) : rows = intended entries u.dst u.result := by
  unfold Partway at h
  unfold LearnedRoute.result
  cases hu : u.isWithdraw with
  | true =>
    rw [hu, if_pos rfl] at h
    refine Set.eq_empty_iff_forall_notMem.mpr fun r hr => ?_
    cases (h r hr).2
  | false =>
    rw [hu, if_neg Bool.false_ne_true] at h
    refine Set.ext fun r => ?_
    constructor
    · intro hr
      exact (h.1 r hr).resolve_left not_mem_nil
    · intro hr
      exact (h.2 r hr).resolve_left not_mem_nil

theorem Router.Tracks.done (h : x.Tracks spec g) {u : LearnedRoute} (hu : g.todo = some u)
    {handling : NetJob (Except NetworkError Unit)} (hfinished : handling.finished = true)
    (hbridges : k.bridges = x.net.kernel.bridges)
    (hchain : ∀ dst, Chain x.net.live.rows dst (x.Settled dst) (learned { x.net with kernel := k } dst) x.queue) :
    Router.Tracks spec .idle { x with net := { x.net with kernel := k }, handling } := by
  refine ⟨hfinished, if_pos hfinished, fun hdown => ?_, fun nextHop hhop place hplace => ?_, hchain⟩
  · rw [(h.down hdown).2] at hu
    cases hu
  · have hhop : nextHop ∈ x.hops := by
      rcases mem_append.mp hhop with hhop | hhop
      · exact mem_append_left _ hhop
      · obtain ⟨u', hu', rfl⟩ := mem_map.mp hhop
        rw [show Router.inHand { x with net := { x.net with kernel := k }, handling } = none
          from if_pos hfinished] at hu'
        exact mem_hops_todo (mem_append_right _ hu')
    have hold := h.bridges nextHop hhop place hplace
    unfold Kernel.hasBridge at hold ⊢
    rwa [← hbridges] at hold

/-- The watcher goes on with the tables that are left, or is done. -/
theorem Router.Tracks.resume (h : x.Tracks spec g) {u : LearnedRoute} (hu : g.todo = some u) {vni : Nat}
    {vrf : Option Nat} (hplace : located x.net.live.rows u.nextHop = some (vni, vrf)) {left : List (Option Nat)}
    (htables : ∀ t ∈ left, t ∈ tablesFor vrf) (hbridges : k.bridges = x.net.kernel.bridges)
    (hown : Watch.Partway x.net.live.rows u left (learned { x.net with kernel := k } u.dst) ∧
      Chain x.net.live.rows u.dst (x.Settled u.dst) (intended x.net.live.rows u.dst u.result) x.queue)
    (hother : ∀ dst, u.dst ≠ dst →
      Chain x.net.live.rows dst (x.Settled dst) (learned { x.net with kernel := k } dst) x.queue) :
    ∃ g', Router.Tracks spec g' { x with net := { x.net with kernel := k }, handling := restOf spec u vni left } := by
  by_cases hleft : left = []
  · subst hleft
    have hfinished : (restOf spec u vni []).finished = true := by
      unfold restOf
      split <;> rfl
    refine ⟨.idle, h.done hu hfinished hbridges fun dst => ?_⟩
    by_cases hdst : u.dst = dst
    · subst hdst
      rw [hown.1.nil]
      exact hown.2
    · exact hother dst hdst
  · have hfinished : (restOf spec u vni left).finished = false := finished_restOf hleft
    have hroute : x.route = some u := by
      have hhand := h.hand.trans hu
      unfold inHand at hhand
      split at hhand
      · cases hhand
      · exact hhand
    have hhand : Router.inHand { x with
        net := { x.net with kernel := k }, handling := restOf spec u vni left } = some u := by
      unfold inHand
      dsimp only
      rw [hfinished, if_neg Bool.false_ne_true, hroute]
    refine ⟨.going u vni vrf left, rfl, hhand, fun hdown => ?_, fun nextHop hhop place hp => ?_, fun dst => ?_⟩
    · rw [(h.down hdown).2] at hu
      cases hu
    · have hhop : nextHop ∈ x.hops := by
        unfold hops at hhop ⊢
        rwa [h.hand.trans hu, ← hhand]
      have hold := h.bridges nextHop hhop place hp
      unfold Kernel.hasBridge at hold ⊢
      rwa [← hbridges] at hold
    · refine ⟨hplace, hleft, htables, ?_⟩
      by_cases hdst : u.dst = dst
      · subst hdst
        rw [if_pos rfl]
        exact hown
      · rw [if_neg hdst]
        exact hother dst hdst

/-- The cluster of the next hop has been looked up. -/
theorem Router.Tracks.lookup {u : LearnedRoute} (h : x.Tracks spec (.waiting u)) :
    ∃ g', Router.Tracks spec g' { x with handling := afterLookup spec u x.net.live.rows } := by
  have hown : Admits x.net.live.rows u (learned x.net u.dst) ∧
      Chain x.net.live.rows u.dst (x.Settled u.dst) (intended x.net.live.rows u.dst u.result) x.queue :=
    (chain_cons_own rfl).mp (h.leads u.dst)
  have hother : ∀ dst, u.dst ≠ dst →
      Chain x.net.live.rows dst (x.Settled dst) (learned x.net dst) x.queue := fun dst hdst =>
    (chain_cons_other hdst).mp (h.leads dst)
  unfold afterLookup
  cases hplace : located x.net.live.rows u.nextHop with
  | none =>
    -- the path has no routes, so there were none for the prefix
    have hroutes : pathRoutes x.net.live.rows u.dst u.nextHop = [] := by
      unfold pathRoutes
      rw [hplace]
    have hnone : learned x.net u.dst = ∅ := by
      refine Set.eq_empty_iff_forall_notMem.mpr fun r hr => ?_
      have hadmits := hown.1 r hr
      rw [hroutes] at hadmits
      split at hadmits
      · cases hadmits
      · obtain ⟨r', hr', -⟩ := hadmits
        cases hr'
    have hresult : intended x.net.live.rows u.dst u.result = ∅ := by
      unfold LearnedRoute.result
      split
      · rfl
      · simp only [intended, hroutes, not_mem_nil, Set.ofPred_false]
    refine ⟨.idle, h.done (k := x.net.kernel) rfl rfl rfl fun dst => ?_⟩
    by_cases hdst : u.dst = dst
    · subst hdst
      have hchain := hown.2
      rw [hresult, ← hnone] at hchain
      exact hchain
    · exact hother dst hdst
  | some place =>
    obtain ⟨vni, vrf⟩ := place
    have htable : ∀ r ∈ pathRoutes x.net.live.rows u.dst u.nextHop, r.table ∈ tablesFor vrf := by
      intro r hr
      obtain ⟨vni', vrf', hplace', table, htable, rfl⟩ := mem_pathRoutes.mp hr
      rw [hplace] at hplace'
      cases hplace'
      exact htable
    refine h.resume (k := x.net.kernel) rfl hplace (fun t ht => ht) rfl ⟨?_, hown.2⟩ hother
    have hadmits := hown.1
    unfold Admits at hadmits
    unfold Watch.Partway
    split
    · rename_i hu
      intro r hr
      have hmem := hadmits r hr
      rw [hu, if_pos rfl] at hmem
      exact ⟨hmem, htable r hmem⟩
    · rename_i hu
      refine ⟨fun r hr => .inl ?_, fun r hr => .inl (htable r hr)⟩
      have hmem := hadmits r hr
      rw [if_neg hu] at hmem
      obtain ⟨r', hr', heq⟩ := hmem
      rw [← heq]
      exact htable r' hr'

section Tables

variable {u : LearnedRoute} {vni : Nat} {vrf : Option Nat} {t : Option Nat} {left : List (Option Nat)}

/-- The route of the path in a table. -/
def LearnedRoute.route (u : LearnedRoute) (vni : Nat) (table : Option Nat) : Route :=
  { table, dst := u.dst, dev := vni, via := some u.nextHop.text }

/-- One table has been dealt with: only routes for the prefix have changed, and none of it is left in the table. -/
theorem Router.Tracks.tableDone (h : x.Tracks spec (.going u vni vrf (t :: left)))
    (hbridges : k.bridges = x.net.kernel.bridges)
    (hroutes : ∀ r : Route, r.dst ≠ u.dst → (r ∈ k.routes.rows ↔ r ∈ x.net.kernel.routes.rows))
    (hpartway : u.route vni t ∈ pathRoutes x.net.live.rows u.dst u.nextHop →
      Watch.Partway x.net.live.rows u (t :: left) (learned x.net u.dst) →
      Watch.Partway x.net.live.rows u left (learned { x.net with kernel := k } u.dst)) :
    ∃ g', Router.Tracks spec g' { x with net := { x.net with kernel := k }, handling := restOf spec u vni left } := by
  obtain ⟨hplace, -, htables, hown⟩ := h.leads u.dst
  rw [if_pos rfl] at hown
  have hroute : u.route vni t ∈ pathRoutes x.net.live.rows u.dst u.nextHop :=
    mem_pathRoutes.mpr ⟨vni, vrf, hplace, t, htables t mem_cons_self, rfl⟩
  refine h.resume rfl hplace (fun t' ht' => htables t' (mem_cons_of_mem t ht')) hbridges
    ⟨hpartway hroute hown.1, hown.2⟩ fun dst hdst => ?_
  obtain ⟨-, -, -, hrest⟩ := h.leads dst
  rw [if_neg hdst] at hrest
  have hsame : learned { x.net with kernel := k } dst = learned x.net dst := Set.ext fun r =>
    and_congr_left fun hr => hroutes r fun hd => hdst (hd.symm.trans hr.2)
  rw [hsame]
  exact hrest

theorem Router.Tracks.install (h : x.Tracks spec (.going u vni vrf (t :: left))) (hu : u.isWithdraw = false) :
    ∃ g', Router.Tracks spec g' { x with
      net := { x.net with kernel := { x.net.kernel with routes := x.net.kernel.routes.upsert (u.route vni t) } },
      handling := restOf spec u vni left } := by
  refine h.tableDone rfl (fun r hdst => ?_) fun hroute hpartway => ?_
  · refine mem_upsert.trans ⟨?_, fun hr => .inl ⟨hr, fun hclash => hdst hclash.2⟩⟩
    rintro (⟨hold, -⟩ | rfl)
    · exact hold
    · exact absurd rfl hdst
  · unfold Watch.Partway at hpartway ⊢
    rw [hu, if_neg Bool.false_ne_true] at hpartway ⊢
    obtain ⟨honly, hall⟩ := hpartway
    constructor
    · rintro r ⟨hr, hvia, hdst⟩
      rcases mem_upsert.mp hr with ⟨hold, hclash⟩ | rfl
      · refine (honly r ⟨hold, hvia, hdst⟩).imp_left fun htable => ?_
        rcases mem_cons.mp htable with heq | hmem
        · exact absurd ⟨heq, hdst⟩ hclash
        · exact hmem
      · exact .inr hroute
    · intro r hr
      by_cases heq : r.table = t
      · refine .inr ⟨mem_upsert.mpr (.inr (eq_of_table hr hroute heq)), ?_⟩
        exact (dst_of_pathRoutes hr).symm
      · rcases hall r hr with htable | ⟨hold, hvia, hdst⟩
        · exact .inl ((mem_cons.mp htable).resolve_left heq)
        · exact .inr ⟨mem_upsert.mpr (.inl ⟨hold, fun hclash => heq hclash.1⟩), hvia, hdst⟩

/-- The route is taken out of the next table, if it is there. -/
theorem Router.Tracks.takeOut (h : x.Tracks spec (.going u vni vrf (t :: left))) (hu : u.isWithdraw = true)
    (hbridges : k.bridges = x.net.kernel.bridges)
    (hroutes : ∀ r : Route, r ∈ k.routes.rows ↔ r ∈ x.net.kernel.routes.rows ∧ r ≠ u.route vni t) :
    ∃ g', Router.Tracks spec g' { x with net := { x.net with kernel := k }, handling := restOf spec u vni left } := by
  refine h.tableDone hbridges (fun r hdst => ?_) fun hroute hpartway => ?_
  · exact (hroutes r).trans (and_iff_left_of_imp fun _ heq => hdst (heq ▸ rfl))
  · unfold Watch.Partway at hpartway ⊢
    rw [hu, if_pos rfl] at hpartway ⊢
    rintro r ⟨hr, hvia, hdst⟩
    obtain ⟨hold, hne⟩ := (hroutes r).mp hr
    obtain ⟨hpath, htable⟩ := hpartway r ⟨hold, hvia, hdst⟩
    refine ⟨hpath, (mem_cons.mp htable).resolve_left fun heq => hne ?_⟩
    exact eq_of_table hpath hroute heq

end Tables

theorem Router.Tracks.handle (h : x.Tracks spec g) {k : o.Resp → NetJob (Except NetworkError Unit)}
    (hcall : x.handling = .call o k) :
    ∃ g', Router.Tracks spec g' { x with net := (o.exec x.net).1, handling := k (o.exec x.net).2 } := by
  have hruns := h.runs
  rw [hcall] at hruns
  cases g with
  | idle => cases hruns
  | waiting u =>
    obtain ⟨k', hk', hfound⟩ := handle_run spec u
    obtain ⟨rfl, hk⟩ := Prog.call.inj (hruns.trans hk')
    cases hk
    show ∃ g', Router.Tracks spec g' { x with handling := k' x.net.live.rows }
    rw [hfound]
    exact h.lookup
  | going u vni vrf left =>
    obtain ⟨hplace, hleft, htables, -⟩ := h.leads u.dst
    obtain ⟨t, left, rfl⟩ := exists_cons_of_ne_nil hleft
    cases hu : u.isWithdraw with
    | false =>
      -- the bridge is there, so the command succeeds
      obtain ⟨k', hk', hrest⟩ := restOf_install spec hu vni t left
      obtain ⟨rfl, hk⟩ := Prog.call.inj (hruns.trans hk')
      cases hk
      have hbridge : x.net.kernel.hasBridge vni = true := by
        refine h.bridges u.nextHop (mem_hops_todo (mem_append_left _ ?_)) (vni, vrf) hplace
        rw [h.hand]
        exact mem_singleton_self u
      have hexec : NetCmd.exec (.viaReplace vni t u.dst u.nextHop.text) x.net.kernel =
          ({ x.net.kernel with routes := x.net.kernel.routes.upsert (u.route vni t) }, Except.ok ()) :=
        onObject_ok hbridge
      have hgoes := h.install hu
      rw [← hrest] at hgoes
      show ∃ g', Router.Tracks spec g' { x with
        net := { x.net with kernel := (NetCmd.exec (.viaReplace vni t u.dst u.nextHop.text) x.net.kernel).1 },
        handling := k' (NetCmd.exec (.viaReplace vni t u.dst u.nextHop.text) x.net.kernel).2 }
      rw [hexec]
      exact hgoes
    | true =>
      obtain ⟨k', hk', hrest⟩ := restOf_withdraw spec hu vni t left
      obtain ⟨rfl, hk⟩ := Prog.call.inj (hruns.trans hk')
      cases hk
      have hgoes := h.takeOut (k := (NetCmd.exec (.viaDel vni t u.dst u.nextHop.text) x.net.kernel).1) hu
        (onObject_fst (P := fun k => k.bridges = x.net.kernel.bridges) rfl rfl) fun r => by
          simp only [NetCmd.exec, onObject]
          split
          · show r ∈ (x.net.kernel.routes.delete _).rows ↔ _
            rw [mem_delete, decide_eq_false_iff_not]
            rfl
          · rename_i hgone
            refine (and_iff_left_of_imp fun hr heq => hgone ?_).symm
            rw [heq] at hr
            exact any_eq_true.mpr ⟨_, hr, decide_eq_true rfl⟩
      rw [← hrest (NetCmd.exec (.viaDel vni t u.dst u.nextHop.text) x.net.kernel).2] at hgoes
      exact hgoes

theorem Router.tracks_step {e : RouterEvent} (h : x.Tracks spec g) (hcalm : x.Calm e)
    (hstep : x.step spec e = some x') :
    ∃ g', x'.Tracks spec g' := by
  cases e with
  | reconcile desired | tombstone vni cidr =>
    simp only [Router.step] at hstep
    split at hstep <;> cases hstep
    exact ⟨g, h.withNet (fun _ => rfl) (fun _ _ => rfl) fun _ _ _ _ hbridge => hbridge⟩
  | command =>
    unfold Calm at hcalm
    simp only [Router.step] at hstep
    split at hstep <;> cases hstep
    rename_i o k hk
    rw [hk] at hcalm
    exact ⟨g, h.command hcalm⟩
  | change batch =>
    cases hstep
    exact ⟨g, h.change hcalm⟩
  | drop =>
    simp only [Router.step] at hstep
    split at hstep <;> cases hstep
    exact ⟨_, h.drop hcalm⟩
  | subscribe =>
    simp only [Router.step] at hstep
    split at hstep <;> cases hstep
    rename_i hready
    exact ⟨_, h.subscribe hready.1⟩
  | receive =>
    simp only [Router.step] at hstep
    repeat' split at hstep
    all_goals cases hstep
    rename_i paths rest hstream hready
    exact ⟨g, h.receive hstream hready.1⟩
  | next =>
    simp only [Router.step] at hstep
    repeat' split at hstep
    all_goals cases hstep
    rename_i u hlast hfinished
    exact ⟨_, h.next hlast hfinished⟩
  | handle =>
    simp only [Router.step] at hstep
    repeat' split at hstep
    all_goals cases hstep
    rename_i o k hcall _
    exact h.handle hcall

/-- Once everything on the stream is handled, the routes are those of the best paths. -/
theorem Router.Tracks.converged (h : x.Tracks spec g) (hquiet : x.Quiet) : x.Converged := by
  obtain ⟨hstream, hbuffered, hfinished⟩ := hquiet
  have hidle : g = .idle := Watch.eq_idle (h.hand.symm.trans (if_pos hfinished))
  have hsettled : ∀ dst, learned x.net dst = intended x.net.live.rows dst (bestHop x.best dst) := by
    intro dst
    have hchain := h.leads dst
    rw [hidle, show x.queue = [] by unfold queue; simp [hbuffered, hstream]] at hchain
    have hsettled : x.Settled dst (learned x.net dst) := hchain
    unfold Settled at hsettled
    rw [hstream] at hsettled
    exact hsettled
  intro r hvia
  have hmem : r ∈ learned x.net r.dst ↔ r ∈ intended x.net.live.rows r.dst (bestHop x.best r.dst) := by
    rw [hsettled r.dst]
  constructor
  · intro hr
    have hpath := hmem.mp ⟨hr, hvia, rfl⟩
    cases hbest : bestHop x.best r.dst with
    | none =>
      rw [hbest] at hpath
      cases hpath
    | some nextHop =>
      rw [hbest] at hpath
      exact ⟨⟨r.dst, nextHop⟩, bestHop_eq_some.mp hbest, hpath⟩
  · rintro ⟨p, hp, hpath⟩
    have hdst : r.dst = p.dst := (dst_of_pathRoutes hpath).1
    refine (hmem.mpr ?_).1
    rw [hdst, bestHop_eq_some.mpr hp]
    exact hpath

end Steps

/-! ## Whole runs -/

/-- A watcher that starts: nothing has been learned. -/
structure Router.Fresh (x : Router) : Prop where
  idle : x.Idle
  stream : x.stream = none
  buffered : x.buffered = []
  best : x.best.rows = []
  routes : ∀ r ∈ x.net.kernel.routes.rows, r.via = none

theorem Router.Fresh.tracks {spec : NetSpec} {x : Router} (h : x.Fresh) : x.Tracks spec .idle := by
  have hfinished : x.handling.finished = true := by
    rw [h.idle.handling]
    rfl
  have hqueue : x.queue = [] := by
    unfold queue
    simp [h.buffered, h.stream]
  have hhand : x.inHand = none := if_pos hfinished
  refine ⟨hfinished, hhand, fun _ => ⟨h.buffered, rfl⟩, fun nextHop hhop => ?_, fun dst => ?_⟩
  · unfold hops at hhop
    rw [h.best, hhand, hqueue] at hhop
    cases hhop
  · rw [hqueue]
    show x.Settled dst (learned x.net dst)
    unfold Settled
    rw [h.stream]
    rintro r ⟨hr, hvia, -⟩
    exact absurd (h.routes r hr) hvia

/-- **Learned routes converge** in every run whose steps are calm: whenever the stream is up and everything on it has
    been handled, the routes with a next hop are those of the best paths. -/
theorem learned_routes_converge (spec : NetSpec) (es : List RouterEvent) (x₀ x : Router) (hfresh : x₀.Fresh)
    (hal : Along (Router.step spec) Router.Calm x₀ es)
    (hrun : run (Router.step spec) x₀ es = some x) (hquiet : x.Quiet) : x.Converged := by
  obtain ⟨g, htracks⟩ := run_invariant (J := fun x => ∃ g, Router.Tracks spec g x)
    (fun ⟨_, hx⟩ hcalm hstep => Router.tracks_step hx hcalm hstep) ⟨_, hfresh.tracks⟩ hal hrun
  exact htracks.converged hquiet

/-- A cluster comes up, a path of one of its nodes is announced and handled, and the cluster is reconciled again. -/
theorem learned_routes_converge_one : ∃ es x, Along (Router.step uplink) Router.Calm {} es ∧
    run (Router.step uplink) {} es = some x ∧ x.Quiet ∧ x.best.rows = [⟨"192.168.1.9/32", 180879367⟩] ∧
    x.Converged := by
  have htaken : (run (Router.step uplink) {} (comesUp ++ announced "192.168.1.9/32" 3 ++
      .reconcile [treeCluster "tree-a"] :: List.replicate 18 .command)).isSome = true := by decide +kernel
  have hrun := run_eq_after htaken
  exact ⟨_, _, by decide +kernel, hrun, by decide +kernel, by decide +kernel,
    learned_routes_converge uplink _ {} _ ⟨⟨rfl, rfl⟩, rfl, rfl, rfl, by decide⟩ (by decide +kernel) hrun
      (by decide +kernel)⟩

/-- A path that is announced before its cluster comes up is never installed; one that is withdrawn while the stream is
    down stays. -/
theorem learned_routes_diverge :
    (∃ x, run (Router.step uplink) {} (announced "192.168.1.9/32" 1 ++ comesUp) = some x ∧
      x.Quiet ∧ announcedRoute ∉ x.net.kernel.routes.rows ∧ ¬x.Converged) ∧
    ∃ x, run (Router.step uplink) {} (comesUp ++ announced "192.168.1.9/32" 3 ++
        [.drop, .change [.withdraw "192.168.1.9/32"], .subscribe, .receive]) = some x ∧
      x.Quiet ∧ x.best.rows = [] ∧ announcedRoute ∈ x.net.kernel.routes.rows ∧ ¬x.Converged := by
  constructor
  · refine ⟨_, run_eq_after (by decide +kernel), by decide +kernel, by decide +kernel, fun h => ?_⟩
    exact absurd ((h announcedRoute (by decide)).mpr ⟨⟨"192.168.1.9/32", 180879367⟩, by decide +kernel⟩)
      (by decide +kernel)
  · have hbest : (after (Router.step uplink) {} (comesUp ++ announced "192.168.1.9/32" 3 ++
        [.drop, .change [.withdraw "192.168.1.9/32"], .subscribe, .receive])).best.rows = [] := by decide +kernel
    refine ⟨_, run_eq_after (by decide +kernel), by decide +kernel, hbest, by decide +kernel, fun h => ?_⟩
    obtain ⟨p, hp, -⟩ := (h announcedRoute (by decide)).mp (by decide +kernel)
    rw [hbest] at hp
    cases hp

end BasisCell.Agent
