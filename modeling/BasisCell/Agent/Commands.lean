import BasisCell.Agent.Node

/-!
# `BasisCell.Agent.Commands` — the commands of a stream, one task each

`process_inbound` spawns a task per reconcile command, and the tasks meet only at the lock of the cluster manager:
each of their sections is one step of the pool, and nothing orders the sections of one command before those of the
next. So the host ends in the state of the newest command only if the schedule keeps the order. `InTurn` is that
condition, for one VNI at a time, together with what two clusters must not share; under it the newest command that
mentions a VNI has the last word on it.

The commands are numbered as they come in, and beside the host the pool writes down which command was the last to
run a section on a VNI and what it had to say. No task reads that.
-/

namespace BasisCell.Agent

open Conc Conc.Prog Relational Network List

/-! ## What the sections do to clusters -/

/-- The tables in which a cluster has routes. -/
def InTables (cluster : ClusterState) (r : Route) : Prop :=
  r.table = none ∨ ∃ vrf, treeVrf cluster = some vrf ∧ r.table = some vrf.tableId

instance {cluster : ClusterState} {r : Route} : Decidable (InTables cluster r) :=
  match h : treeVrf cluster with
  | none => decidable_of_iff (r.table = none) (by simp [InTables, h])
  | some vrf => decidable_of_iff (r.table = none ∨ r.table = some vrf.tableId) (by simp [InTables, h])

/-- The cluster is on the host as the command lists it: devices, link routes and contribution. -/
structure Programmed (cluster : ClusterState) (s : Net) : Prop where
  materialised : Materialised cluster s.kernel
  tables : ∀ r ∈ s.kernel.routes.rows, r.dev = cluster.vni → r.via = none → InTables cluster r
  entry : s.entry cluster.vni = some (clusterLive cluster s.hostId)

/-- The cluster is not on the host. -/
structure Gone (v : Nat) (s : Net) : Prop where
  bridge : s.kernel.hasBridge v = false
  vxlan : s.kernel.hasVxlan v = false
  entry : s.entry v = none

/-- The clusters of a command have their VNIs and routes to themselves. -/
def Tidy (clusters : List ClusterState) : Prop :=
  clusters.Pairwise fun a b => a.vni ≠ b.vni ∧ ∀ key ∈ clusterKeys a, key ∉ clusterKeys b

section Sections

variable {cluster : ClusterState} {clusters : List ClusterState} {s s' : Net} {u v : Nat} {cidr : String}

theorem Network.Materialised.mem_routes {k : Kernel} {key : Option Nat × String} (h : Materialised cluster k)
    (hkey : key ∈ clusterKeys cluster) : linkRoute cluster.vni key.1 key.2 ∈ k.routes.rows := by
  rcases mem_clusterKeys.mp hkey with ⟨htable, hdst⟩ | ⟨vrf, hvrf, htable, hdst⟩
  · rw [htable]
    exact (h.main key.2).mpr hdst
  · rw [htable]
    exact (h.tree vrf hvrf key.2).mpr hdst

theorem Programmed.tombstone (h : Programmed cluster s) (ht : Tombstoned v cidr s s') (hne : cluster.vni ≠ v) :
    Programmed cluster s' := by
  have hroutes : ∀ r : Route, r.dev = cluster.vni → (r ∈ s'.kernel.routes.rows ↔ r ∈ s.kernel.routes.rows) := by
    intro r hr
    rw [ht.routes, and_iff_left_iff_imp]
    exact fun _ hv => absurd (hr.symm.trans hv) hne
  obtain ⟨b, hb, hbvni⟩ := Kernel.hasBridge_iff.mp h.materialised.bridge
  obtain ⟨x, hx, hxvni⟩ := Kernel.hasVxlan_iff.mp h.materialised.vxlan
  refine ⟨⟨?_, ?_, ?_, ?_⟩, ?_, ?_⟩
  · exact Kernel.hasBridge_iff.mpr ⟨b, (ht.bridges b).mpr ⟨hb, hbvni ▸ hne⟩, hbvni⟩
  · exact Kernel.hasVxlan_iff.mpr ⟨x, (ht.vxlans x).mpr ⟨hx, hxvni ▸ hne⟩, hxvni⟩
  · intro dst
    rw [hroutes _ rfl]
    exact h.materialised.main dst
  · intro vrf hvrf dst
    rw [hroutes _ rfl]
    exact h.materialised.tree vrf hvrf dst
  · intro r hr hdev
    exact h.tables r ((hroutes r hdev).mp hr) hdev
  · rw [ht.entries, if_neg hne, ht.hostId]
    exact h.entry

theorem gone_iff : Gone v s ↔ (∀ b ∈ s.kernel.bridges.rows, b.vni ≠ v) ∧ (∀ x ∈ s.kernel.vxlans.rows, x.vni ≠ v) ∧
    s.entry v = none := by
  rw [show Gone v s ↔ _ ∧ _ ∧ _ from ⟨fun h => ⟨h.1, h.2, h.3⟩, fun h => ⟨h.1, h.2.1, h.2.2⟩⟩, ← Bool.not_eq_true,
    ← Bool.not_eq_true, Kernel.hasBridge_iff, Kernel.hasVxlan_iff]
  push Not
  rfl

theorem Gone.tombstone (h : Gone u s) (ht : Tombstoned v cidr s s') : Gone u s' := by
  obtain ⟨hbridge, hvxlan, hentry⟩ := gone_iff.mp h
  refine gone_iff.mpr ⟨fun b hb => hbridge b ((ht.bridges b).mp hb).1, fun x hx => hvxlan x ((ht.vxlans x).mp hx).1, ?_⟩
  rw [ht.entries, hentry, ite_self]

theorem gone_tombstone (ht : Tombstoned v cidr s s') : Gone v s' := by
  refine gone_iff.mpr ⟨fun b hb => ((ht.bridges b).mp hb).2, fun x hx => ((ht.vxlans x).mp hx).2, ?_⟩
  rw [ht.entries, if_pos rfl]

/-- A VNI that a command does not list stays remembered as it is. -/
theorem Network.Reconciled.entry_of_unlisted (hr : Reconciled clusters s s') (hv : v ∉ clusters.map (·.vni)) :
    s'.entry v = s.remembered v := by
  rw [hr.entries, Net.expected, stated_eq_none_iff.mpr hv]

/-- A reconcile leaves a cluster alone that it does not list and takes no key from. -/
theorem Programmed.reconcile (h : Programmed cluster s) (hr : Reconciled clusters s s')
    (hv : cluster.vni ∉ clusters.map (·.vni))
    (hkeys : ∀ key ∈ clusterKeys cluster, key ∉ clusters.flatMap clusterKeys) :
    Programmed cluster s' := by
  have hkept := h.materialised.kept hr.only hv hkeys
  refine ⟨⟨hkept.bridge, hkept.vxlan, hkept.main, hkept.tree⟩, ?_, ?_⟩
  · intro r hrow hdev
    exact h.tables r ((hr.only.routes r (hdev ▸ hv)).mp hrow).1 hdev
  · rw [hr.entry_of_unlisted hv, Net.remembered, h.entry, hr.hostId]

theorem Gone.reconcile (h : Gone v s) (hr : Reconciled clusters s s') (hv : v ∉ clusters.map (·.vni)) : Gone v s' := by
  obtain ⟨hbridge, hvxlan, -⟩ := gone_iff.mp h
  refine gone_iff.mpr ⟨fun b hb heq => ?_, fun x hx heq => ?_, ?_⟩
  · exact hbridge b ((hr.only.bridges b (heq ▸ hv)).mp hb) heq
  · exact hvxlan x ((hr.only.vxlans x (heq ▸ hv)).mp hx) heq
  · rw [hr.entry_of_unlisted hv, Net.remembered, h.entry, h.bridge]
    rfl

theorem Tidy.nodup (h : Tidy clusters) : (clusters.map (·.vni)).Nodup := by
  rw [List.Nodup, pairwise_map]
  exact h.imp And.left

/-- A cluster of a tidy command is what the command states about its VNI. -/
theorem Tidy.stated (h : Tidy clusters) (hc : cluster ∈ clusters) : stated clusters cluster.vni = some cluster :=
  (stated_iff h.nodup).mpr ⟨hc, rfl⟩

theorem Network.Reconciled.materialised_of_mem (hr : Reconciled clusters s s') (htidy : Tidy clusters)
    (hc : cluster ∈ clusters) : Materialised cluster s'.kernel := by
  obtain ⟨pre, post, rfl⟩ := append_of_mem hc
  obtain ⟨-, hafter, -⟩ := pairwise_append.mp htidy
  have hpost : ∀ b ∈ post, cluster.vni ≠ b.vni ∧ ∀ key ∈ clusterKeys cluster, key ∉ clusterKeys b :=
    (pairwise_cons.mp hafter).1
  refine hr.materialised pre cluster post rfl ?_ ?_
  · intro hmem
    obtain ⟨b, hb, hvni⟩ := mem_map.mp hmem
    exact (hpost b hb).1 hvni.symm
  · intro key hkey hmem
    obtain ⟨b, hb, hkeyb⟩ := mem_flatMap.mp hmem
    exact (hpost b hb).2 key hkey hkeyb

theorem inTables_of_key {r : Route} (hkey : r.key ∈ clusterKeys cluster) : InTables cluster r :=
  (mem_clusterKeys.mp hkey).imp And.left fun ⟨vrf, hvrf, htable, _⟩ => ⟨vrf, hvrf, htable⟩

/-- A cluster that a tidy command lists is programmed, unless its bridge has link routes in tables it does not
    know of. -/
theorem programmed_reconcile (hr : Reconciled clusters s s') (htidy : Tidy clusters) (hc : cluster ∈ clusters)
    (htables : ∀ r ∈ s.kernel.routes.rows, r.dev = cluster.vni → r.via = none → InTables cluster r) :
    Programmed cluster s' := by
  refine ⟨hr.materialised_of_mem htidy hc, fun r hrow hdev hvia => ?_, ?_⟩
  · rcases hr.only.own r hrow with hold | ⟨-, hkey⟩
    · exact htables r hold hdev hvia
    · -- a new route: the cluster whose key it has is the one whose bridge it is on
      obtain ⟨other, hother, hkey⟩ := mem_flatMap.mp hkey
      have hroute := (hr.materialised_of_mem htidy hother).mem_routes hkey
      have heq : linkRoute other.vni r.key.1 r.key.2 = r := Table.eq_of_clash hroute hrow ⟨rfl, rfl⟩
      have hvni : other.vni = cluster.vni := (congrArg Route.dev heq).trans hdev
      rw [inj_on_of_nodup_map htidy.nodup hother hc hvni] at hkey
      exact inTables_of_key hkey
  · rw [hr.entries, Net.expected, htidy.stated hc, hr.hostId]

end Sections

/-! ## The tasks of a stream -/

/-- A command, with its number in the stream. -/
structure Received where
  number : Nat
  cmd : ReconcileHostCommand
  deriving DecidableEq

/-- What a command says about a VNI: it lists it, or it has a tombstone for it. -/
def wordOn (cmd : ReconcileHostCommand) (v : Nat) : Option (Option ClusterState) :=
  match stated cmd.clusters v with
  | some cluster => some (some cluster)
  | none => if v ∈ cmd.clusterTombstones.map (·.vni) then some none else none

/-- The last section run on a VNI: the number of its command and what it had to say. -/
structure Word where
  vni : Nat
  number : Nat
  cluster : Option ClusterState

structure Stream where
  node : Node
  words : List Word := []

/-- The words after a section of command `number`. -/
def note (number : Nat) (words : List Word) : NodeOp → List Word
  | .reconcileClusters clusters =>
    clusters.map (fun cluster => ⟨cluster.vni, number, some cluster⟩) ++
      words.filter fun w => w.vni ∉ clusters.map (·.vni)
  | .tombstoneCluster v _ => ⟨v, number, none⟩ :: words.filter fun w => w.vni ≠ v
  | _ => words

/-- One task per command, and one operation per section. -/
def commands (spec : NodeSpec) : Machine Received (Nat × NodeOp) (fun o => o.2.Resp) Stream
    (Except NetworkError Unit) where
  exec o s := (⟨(o.2.exec spec s.node).1, note o.1 s.words o.2⟩, (o.2.exec spec s.node).2)
  body t := (applyReconcile spec t.cmd).subst fun o => perform (t.number, o)
  fresh started t := t.number = started.length
  reboot := id

/-- The section comes in turn: no later command has run one on the same VNIs. And it is for clusters that do not
    share VNIs, or routes with each other or with those on the host; a command does not list a cluster and bury
    it; and a bridge has link routes only where its cluster is to have them. -/
def InTurn (t : Received) (s : Stream) : NodeOp → Prop
  | .reconcileClusters clusters => Tidy clusters ∧ ∀ cluster ∈ clusters,
    (∀ w ∈ s.words, w.vni = cluster.vni → w.number ≤ t.number) ∧
    (∀ w ∈ s.words, w.vni ∉ clusters.map (·.vni) → ∀ other ∈ w.cluster, ∀ key ∈ clusterKeys other,
      key ∉ clusterKeys cluster) ∧
    ∀ r ∈ s.node.net.kernel.routes.rows, r.dev = cluster.vni → r.via = none → InTables cluster r
  | .tombstoneCluster v _ => v ∉ t.cmd.clusters.map (·.vni) ∧ ∀ w ∈ s.words, w.vni = v → w.number ≤ t.number
  | _ => True

instance {t : Received} {s : Stream} : (o : NodeOp) → Decidable (InTurn t s o)
  | .reconcileClusters clusters =>
    have : Decidable (Tidy clusters) := inferInstanceAs (Decidable (clusters.Pairwise _))
    @instDecidableAnd _ _ this (List.decidableBAll _ _)
  | .tombstoneCluster _ _ => inferInstanceAs (Decidable (_ ∧ _))
  | .host _ | .send _ | .bgpSpeaker | .updateRoutes _ => .isTrue trivial

/-- Every section that is run comes in turn. -/
def Ordered (c : Config Received (Nat × NodeOp) (fun o => o.2.Resp) Stream (Except NetworkError Unit))
    (e : Event Received) : Prop :=
  match c.nextOp e with
  | some (t, o) => InTurn t c.shared o.2
  | none => True

instance {c : Config Received (Nat × NodeOp) (fun o => o.2.Resp) Stream (Except NetworkError Unit)}
    {e : Event Received} : Decidable (Ordered c e) := by
  unfold Ordered
  split <;> infer_instance

/-! ## The sections of one command -/

/-- Before the reconcile, and with these tombstones left. -/
inductive Stage where
  | first
  | burying (rest : List ClusterTombstone)
  | failed

def sections (cmd : ReconcileHostCommand) : Protocol NodeOp NodeOp.Resp Stage where
  allows
    | .first, .reconcileClusters clusters => clusters = cmd.clusters
    | .first, _ => False
    | .burying (t :: _), .tombstoneCluster v cidr => v = t.vni ∧ cidr = t.cidr
    | .burying [], .tombstoneCluster _ _ => False
    | .burying _, .reconcileClusters _ => False
    | .burying _, _ => True
    | .failed, _ => False
  next
    | .first, .reconcileClusters _, .ok () => .burying cmd.clusterTombstones
    | .first, .reconcileClusters _, .error _ => .failed
    | .burying (_ :: ts), .tombstoneCluster _ _, _ => .burying ts
    | g, _, _ => g

section Follows

variable {cmd : ReconcileHostCommand}

theorem follows_tombstoneClusters (ts : List ClusterTombstone) :
    (sections cmd).Follows (fun g _ => g = .burying []) (tombstoneClusters ts) (.burying ts) := by
  induction ts with
  | nil => rfl
  | cons t ts ih =>
    refine ⟨⟨rfl, rfl⟩, fun r => ?_⟩
    show (sections cmd).Follows _ (tombstoneClusters ts >>= _) (.burying ts)
    exact ih.bind fun _ _ hg => hg

theorem stays_onHost {α : Type} (p : Job α) : (sections cmd).Stays (.burying []) (onHost p) := by
  induction p with
  | ret a => rfl
  | call o k ih => exact ⟨trivial, fun r => ih r⟩

theorem stays_tombstoneVms (spec : NodeSpec) (vmIds : List VmId) :
    (sections cmd).Stays (.burying []) (tombstoneVms spec vmIds) :=
  Protocol.stays_filterEach fun _ _ => (stays_onHost _).bind fun _ => rfl

theorem stays_sendTombstoneAck (vnis : List Nat) (vmIds : List VmId) :
    (sections cmd).Stays (.burying []) (sendTombstoneAck vnis vmIds) := by
  unfold sendTombstoneAck
  split
  · exact ⟨trivial, fun _ => rfl⟩
  · rfl

theorem stays_advertise (clusters : List ClusterState) :
    (sections cmd).Stays (.burying []) (advertise clusters) := by
  refine ⟨trivial, fun r => ?_⟩
  cases r with
  | true => exact ⟨trivial, fun _ => rfl⟩
  | false => rfl

/-- A command reconciles first and buries one tombstone after the other. -/
theorem follows_applyReconcile (spec : NodeSpec) :
    (sections cmd).Follows (fun g _ => g = .burying [] ∨ g = .failed) (applyReconcile spec cmd) .first := by
  refine ⟨rfl, fun r => ?_⟩
  cases r with
  | error e => exact .inr rfl
  | ok _ =>
    show (sections cmd).Follows _ (tombstoneClusters cmd.clusterTombstones >>= _) (.burying cmd.clusterTombstones)
    refine (follows_tombstoneClusters cmd.clusterTombstones).bind fun g acked hg => ?_
    subst hg
    refine (stays_tombstoneVms spec cmd.vmTombstones).follows fun _ => ?_
    exact (stays_sendTombstoneAck _ _).follows fun _ => (stays_advertise _).follows fun _ => .inl rfl

end Follows

def stages : Discipline Received (Nat × NodeOp) (fun o => o.2.Resp) (Except NetworkError Unit) Stage where
  protocol t :=
    { allows := fun g o => o.1 = t.number ∧ (sections t.cmd).allows g o.2
      next := fun g o r => (sections t.cmd).next g o.2 r }
  start _ := .first
  ends _ g _ := g = .burying [] ∨ g = .failed

theorem stages_governs (spec : NodeSpec) : stages.Governs (commands spec) := by
  intro t
  show (stages.protocol t).Follows (fun g _ => g = .burying [] ∨ g = .failed)
    ((applyReconcile spec t.cmd).subst fun o => perform (t.number, o)) (id .first)
  refine ((follows_applyReconcile spec).subst id fun g o ho => ?_).mono ?_
  · exact ⟨⟨rfl, ho⟩, fun r => rfl⟩
  rintro _ r ⟨g, rfl, hg⟩
  exact hg

/-! ## Sections in turn -/

/-- The stream's numbers are the commands' places in it. -/
def Counted (started : List Received) : Prop := ∀ pre t post, started = pre ++ t :: post → t.number = post.length

/-- The host is as the word has it. -/
def Word.Holds (w : Word) (s : Net) : Prop :=
  match w.cluster with
  | some cluster => cluster.vni = w.vni ∧ Programmed cluster s
  | none => Gone w.vni s

/-- The word is a command's of the stream. -/
def Word.Spoken (w : Word) (started : List Received) : Prop :=
  ∃ t ∈ started, t.number = w.number ∧ wordOn t.cmd w.vni = some w.cluster

section Turn

variable {spec : NodeSpec} {t : Received} {s : Stream} {o : NodeOp} {w : Word} {started : List Received}

theorem Counted.cons (h : Counted started) (hfresh : t.number = started.length) : Counted (t :: started) := by
  intro pre t' post heq
  cases pre with
  | nil =>
    cases heq
    exact hfresh
  | cons t'' pre =>
    cases heq
    exact h pre t' post rfl

theorem mem_note_reconcile {number : Nat} {words : List Word} {clusters : List ClusterState} :
    w ∈ note number words (.reconcileClusters clusters) ↔
      (∃ cluster ∈ clusters, ⟨cluster.vni, number, some cluster⟩ = w) ∨ w ∈ words ∧ w.vni ∉ clusters.map (·.vni) := by
  unfold note
  rw [mem_append, mem_map, mem_filter, decide_eq_true_eq]

theorem mem_note_tombstone {number v : Nat} {words : List Word} {cidr : String} :
    w ∈ note number words (.tombstoneCluster v cidr) ↔ w = ⟨v, number, none⟩ ∨ w ∈ words ∧ w.vni ≠ v := by
  unfold note
  rw [mem_cons, mem_filter, decide_eq_true_eq]

/-- In turn, a word on a VNI only gives way to one of a later command, or of the same. -/
theorem note_mono (h : InTurn t s o) (hw : w ∈ s.words) :
    ∃ w' ∈ note t.number s.words o, w'.vni = w.vni ∧ w.number ≤ w'.number := by
  cases o with
  | reconcileClusters clusters =>
    by_cases hlisted : w.vni ∈ clusters.map (·.vni)
    · obtain ⟨cluster, hc, hvni⟩ := mem_map.mp hlisted
      refine ⟨⟨cluster.vni, t.number, some cluster⟩, mem_note_reconcile.mpr (.inl ⟨cluster, hc, rfl⟩), hvni, ?_⟩
      exact (h.2 cluster hc).1 w hw hvni.symm
    · exact ⟨w, mem_note_reconcile.mpr (.inr ⟨hw, hlisted⟩), rfl, le_rfl⟩
  | tombstoneCluster v cidr =>
    by_cases hv : w.vni = v
    · exact ⟨⟨v, t.number, none⟩, mem_note_tombstone.mpr (.inl rfl), hv.symm, h.2 w hw hv⟩
    · exact ⟨w, mem_note_tombstone.mpr (.inr ⟨hw, hv⟩), rfl, le_rfl⟩
  | host o | send msg | bgpSpeaker | updateRoutes prefixes => exact ⟨w, hw, rfl, le_rfl⟩

/-- Every section leaves the proxy-ARP entries what the remembered clusters contribute. -/
theorem contributed_exec (h : s.node.net.Contributed) : (NodeOp.exec spec o s.node).1.net.Contributed := by
  cases o with
  | reconcileClusters clusters =>
    obtain ⟨s', hs', hexec⟩ := exec_reconcileClusters spec clusters s.node
    rw [hexec]
    exact contributed_iff.mpr hs'.proxies
  | tombstoneCluster v cidr =>
    obtain ⟨s', hs', hexec⟩ := exec_tombstoneCluster spec v cidr s.node
    rw [hexec]
    exact hs'.contributed h
  | host o | send msg | bgpSpeaker | updateRoutes prefixes => exact h

/-- **A section in turn keeps the words true**: its own by what it does, the others because it leaves them alone. -/
theorem holds_note (h : InTurn t s o) (hs : ∀ w ∈ s.words, w.Holds s.node.net) :
    ∀ w ∈ note t.number s.words o, w.Holds (NodeOp.exec spec o s.node).1.net := by
  intro w hw
  cases o with
  | reconcileClusters clusters =>
    obtain ⟨s', hs', hexec⟩ := exec_reconcileClusters spec clusters s.node
    rw [hexec]
    rcases mem_note_reconcile.mp hw with ⟨cluster, hc, rfl⟩ | ⟨hold, hunlisted⟩
    · exact ⟨rfl, programmed_reconcile hs' h.1 hc (h.2 cluster hc).2.2⟩
    · obtain ⟨v, number, _ | other⟩ := w
      · exact Gone.reconcile (hs _ hold) hs' hunlisted
      · obtain ⟨rfl, hbefore⟩ := hs _ hold
        refine ⟨rfl, hbefore.reconcile hs' hunlisted fun key hkey hmem => ?_⟩
        obtain ⟨cluster, hc, hkey'⟩ := mem_flatMap.mp hmem
        exact (h.2 cluster hc).2.1 _ hold hunlisted other rfl key hkey hkey'
  | tombstoneCluster v cidr =>
    obtain ⟨s', hs', hexec⟩ := exec_tombstoneCluster spec v cidr s.node
    rw [hexec]
    rcases mem_note_tombstone.mp hw with rfl | ⟨hold, hne⟩
    · exact gone_tombstone hs'
    · obtain ⟨u, number, _ | other⟩ := w
      · exact Gone.tombstone (hs _ hold) hs'
      · obtain ⟨rfl, hbefore⟩ := hs _ hold
        exact ⟨rfl, hbefore.tombstone hs' hne⟩
  | host o | send msg | bgpSpeaker | updateRoutes prefixes => exact hs w hw

/-- The words of a command's sections are the command's. -/
theorem spoken_note {g : Stage} (h : InTurn t s o) (ht : t ∈ started) (hallows : (sections t.cmd).allows g o)
    (hg : ∀ rest, g = .burying rest → ∀ tomb ∈ rest, tomb ∈ t.cmd.clusterTombstones)
    (hs : ∀ w ∈ s.words, w.Spoken started) : ∀ w ∈ note t.number s.words o, w.Spoken started := by
  intro w hw
  cases o with
  | reconcileClusters clusters =>
    rcases mem_note_reconcile.mp hw with ⟨cluster, hc, rfl⟩ | ⟨hold, -⟩
    · refine ⟨t, ht, rfl, ?_⟩
      have hclusters : clusters = t.cmd.clusters := by
        cases g with
        | first => exact hallows
        | burying rest => cases rest <;> cases hallows
        | failed => cases hallows
      unfold wordOn
      rw [← hclusters, h.1.stated hc]
    · exact hs w hold
  | tombstoneCluster v cidr =>
    rcases mem_note_tombstone.mp hw with rfl | ⟨hold, -⟩
    · refine ⟨t, ht, rfl, ?_⟩
      have hv : v ∈ t.cmd.clusterTombstones.map (·.vni) := by
        cases g with
        | first | failed => cases hallows
        | burying rest =>
          cases rest with
          | nil => cases hallows
          | cons tomb rest =>
            exact mem_map.mpr ⟨tomb, hg _ rfl tomb mem_cons_self, hallows.1.symm⟩
      unfold wordOn
      rw [stated_eq_none_iff.mpr h.1]
      exact if_pos hv
    · exact hs w hold
  | host o | send msg | bgpSpeaker | updateRoutes prefixes => exact hs w hw

end Turn

/-! ## The outline -/

/-- What is left of a task: its tombstones are a command's, and every VNI that it mentioned and has dealt with has
    a word of its own or a later one. -/
def order : Outline Received (Nat × NodeOp) (fun o => o.2.Resp) Stream Stage Unit where
  aux := fun γ _ _ _ => γ
  inv := fun started _ s => Counted started ∧ (∀ w ∈ s.words, w.Holds s.node.net) ∧ ∀ w ∈ s.words, w.Spoken started
  holds := fun t g _ s =>
    match g with
    | .first => True
    | .burying rest => s.node.net.Contributed ∧ (∀ tomb ∈ rest, tomb ∈ t.cmd.clusterTombstones) ∧
        ∀ v, wordOn t.cmd v ≠ none → v ∉ rest.map (·.vni) → ∃ w ∈ s.words, w.vni = v ∧ t.number ≤ w.number
    | .failed => False
  apart := fun _ _ => True

section Order

variable {spec : NodeSpec} {t t' : Received} {s : Stream} {o : NodeOp} {g : Stage}

/-- A section in turn keeps what another task has achieved. -/
theorem order_frame (spec : NodeSpec) (h : InTurn t s o) (hholds : order.holds t' g () s) :
    order.holds t' g () ⟨(NodeOp.exec spec o s.node).1, note t.number s.words o⟩ := by
  cases g with
  | first => trivial
  | failed => exact hholds
  | burying rest =>
    obtain ⟨hcontributed, hrest, hdone⟩ := hholds
    refine ⟨contributed_exec hcontributed, hrest, fun v hv hnot => ?_⟩
    obtain ⟨w, hw, hvni, hle⟩ := hdone v hv hnot
    obtain ⟨w', hw', hvni', hle'⟩ := note_mono h hw
    exact ⟨w', hw', hvni'.trans hvni, hle.trans hle'⟩

/-- The first section deals with all clusters the command lists. -/
theorem order_first :
    order.holds t (.burying t.cmd.clusterTombstones) ()
      ⟨(NodeOp.exec spec (.reconcileClusters t.cmd.clusters) s.node).1,
        note t.number s.words (.reconcileClusters t.cmd.clusters)⟩ := by
  obtain ⟨s', hs', hexec⟩ := exec_reconcileClusters spec t.cmd.clusters s.node
  rw [hexec]
  refine ⟨contributed_iff.mpr hs'.proxies, fun _ h => h, fun v hv hnot => ?_⟩
  unfold wordOn at hv
  cases hst : stated t.cmd.clusters v with
  | none =>
    rw [hst] at hv
    exact absurd (if_neg hnot) hv
  | some cluster =>
    obtain ⟨hc, hvni⟩ := mem_of_stated hst
    exact ⟨⟨cluster.vni, t.number, some cluster⟩, mem_note_reconcile.mpr (.inl ⟨cluster, hc, rfl⟩), hvni, le_rfl⟩

/-- A section takes its own task one step on. -/
theorem order_next (h : InTurn t s o) (hallows : (sections t.cmd).allows g o) (hholds : order.holds t g () s) :
    order.holds t ((sections t.cmd).next g o (NodeOp.exec spec o s.node).2) ()
      ⟨(NodeOp.exec spec o s.node).1, note t.number s.words o⟩ := by
  have hframe := order_frame spec h hholds
  cases g with
  | failed => cases hholds
  | first =>
    cases o with
    | reconcileClusters clusters =>
      cases (show clusters = t.cmd.clusters from hallows)
      obtain ⟨s', -, hexec⟩ := exec_reconcileClusters spec t.cmd.clusters s.node
      have hok : (NodeOp.exec spec (.reconcileClusters t.cmd.clusters) s.node).2 = Except.ok () := by rw [hexec]
      rw [hok]
      exact order_first
    | tombstoneCluster v cidr | host o | send msg | bgpSpeaker | updateRoutes prefixes => cases hallows
  | burying rest =>
    cases o with
    | reconcileClusters clusters => cases rest <;> cases hallows
    | tombstoneCluster v cidr =>
      cases rest with
      | nil => cases hallows
      | cons tomb rest =>
        obtain ⟨hcontributed, hrest, hdone⟩ := hframe
        refine ⟨hcontributed, fun tomb' hmem => hrest tomb' (mem_cons_of_mem _ hmem), fun u hu hnot => ?_⟩
        by_cases huv : u = v
        · have hnew : ⟨v, t.number, none⟩ ∈ note t.number s.words (.tombstoneCluster v cidr) :=
            mem_note_tombstone.mpr (.inl rfl)
          exact ⟨_, hnew, huv.symm, le_rfl⟩
        · refine hdone u hu fun hmem => ?_
          rcases mem_cons.mp hmem with heq | hmem
          · exact huv (heq.trans hallows.1.symm)
          · exact hnot hmem
    | host o | send msg | bgpSpeaker | updateRoutes prefixes => cases rest <;> exact hframe

/-- **Sections in turn keep the order of the commands.** -/
theorem order_sound (spec : NodeSpec) : order.Sound stages (commands spec) Ordered where
  governs := stages_governs spec
  symm := fun _ => trivial
  spawn := by
    intro started γ s t hfresh ⟨hcounted, hholds, hspoken⟩
    refine ⟨⟨hcounted.cons (by simpa [commands] using hfresh), hholds, fun w hw => ?_⟩, trivial, fun _ _ => trivial⟩
    obtain ⟨t', ht', hword⟩ := hspoken w hw
    exact ⟨t', mem_cons_of_mem _ ht', hword⟩
  exec := by
    rintro c γ i t g ⟨n, o⟩ hf
    obtain ⟨hnumber, hallows⟩ := hf.allowed
    obtain ⟨hcounted, hholds, hspoken⟩ := hf.inv
    have hturn : InTurn t c.shared o := by
      have hcond := hf.cond
      rw [Ordered, hf.op] at hcond
      exact hcond
    have hg : ∀ rest, g = .burying rest → ∀ tomb ∈ rest, tomb ∈ t.cmd.clusterTombstones := by
      rintro rest rfl
      exact hf.holds.2.1
    cases (show n = t.number from hnumber)
    refine ⟨⟨hcounted, holds_note hturn hholds, spoken_note hturn hf.known hallows hg hspoken⟩, ?_⟩
    exact order_next hturn hallows hf.holds
  frame := by
    rintro c γ i t g ⟨n, o⟩ task g' hf - - - hholds
    have hturn : InTurn t c.shared o := by
      have hcond := hf.cond
      rw [Ordered, hf.op] at hcond
      exact hcond
    cases (show n = t.number from hf.allowed.1)
    exact order_frame spec hturn hholds
  reboot := fun h => h
  reboot_holds := fun h => h

end Order

/-! ## The last word -/

/-- What the newest command that mentions a VNI says about it; the newest command is the first of the list. -/
def lastWord (started : List Received) (v : Nat) : Option (Option ClusterState) :=
  started.findSome? fun t => wordOn t.cmd v

/-- The host is as it was told about a VNI. -/
structure AsTold (v : Nat) (word : Option ClusterState) (s : Net) : Prop where
  materialised : (s.kernel.hasBridge v = true ∧ s.kernel.hasVxlan v = true) ↔ word.isSome = true
  routes : ∀ cluster, word = some cluster → ∀ table dst,
    linkRoute v table dst ∈ s.kernel.routes.rows ↔ (table, dst) ∈ clusterKeys cluster
  /-- It answers ARP for the VIPs the command makes it the owner of, and for no others of the cluster's unless
      another cluster has them too. -/
  proxies : ∀ cluster, word = some cluster → ∀ a, a ∈ vipAddrs cluster → (a ∈ s.kernel.proxies ↔
    a ∈ lanAddrs cluster.clusterVips s.hostId ∨ ∃ u e, u ≠ v ∧ s.entry u = some e ∧ a ∈ e.proxyArpAddrs)

theorem Programmed.routes {cluster : ClusterState} {s : Net} (h : Programmed cluster s) {table : Option Nat}
    {dst : String} : linkRoute cluster.vni table dst ∈ s.kernel.routes.rows ↔ (table, dst) ∈ clusterKeys cluster := by
  constructor
  · intro hroute
    rcases h.tables _ hroute rfl rfl with hmain | ⟨vrf, hvrf, htree⟩
    · cases (show table = none from hmain)
      exact mem_clusterKeys.mpr (.inl ⟨rfl, (h.materialised.main dst).mp hroute⟩)
    · cases (show table = some vrf.tableId from htree)
      exact mem_clusterKeys.mpr (.inr ⟨vrf, hvrf, rfl, (h.materialised.tree vrf hvrf dst).mp hroute⟩)
  · intro hkey
    exact h.materialised.mem_routes hkey

theorem Word.Holds.asTold {w : Word} {s : Net} (h : w.Holds s) (hs : s.Contributed) : AsTold w.vni w.cluster s := by
  obtain ⟨v, number, _ | cluster⟩ := w
  · refine ⟨?_, fun _ heq => (by cases heq), fun _ heq => (by cases heq)⟩
    rw [Gone.bridge h]
    simp
  · obtain ⟨rfl, hprogrammed⟩ := h
    refine ⟨iff_of_true ⟨hprogrammed.materialised.bridge, hprogrammed.materialised.vxlan⟩ rfl, ?_, ?_⟩
    · rintro _ heq table dst
      cases heq
      exact hprogrammed.routes
    · rintro _ heq a -
      cases heq
      rw [hs a]
      constructor
      · rintro ⟨u, e, hentry, ha⟩
        by_cases hu : u = cluster.vni
        · rw [hu, hprogrammed.entry] at hentry
          cases hentry
          exact .inl ha
        · exact .inr ⟨u, e, hu, hentry, ha⟩
      · rintro (ha | ⟨u, e, -, hentry, ha⟩)
        · exact ⟨cluster.vni, _, hprogrammed.entry, ha⟩
        · exact ⟨u, e, hentry, ha⟩

/-- In a stream, a word of a command at least as new as the newest one that mentions its VNI is that one's. -/
theorem lastWord_of_spoken {started : List Received} {v : Nat} {word : Option ClusterState} (hcounted : Counted started)
    (hlast : lastWord started v = some word) : ∃ t ∈ started, wordOn t.cmd v = some word ∧
      ∀ w : Word, w.Spoken started → w.vni = v → t.number ≤ w.number → w.cluster = word := by
  obtain ⟨pre, t, post, rfl, ht, hpre⟩ := List.findSome?_eq_some_iff.mp hlast
  refine ⟨t, mem_append_right _ mem_cons_self, ht, ?_⟩
  rintro w ⟨t', hmem, hnumber, hword⟩ rfl hle
  rcases mem_append.mp hmem with hmem | hmem
  · -- a newer command does not mention the VNI
    rw [hpre t' hmem] at hword
    cases hword
  rcases mem_cons.mp hmem with rfl | hmem
  · rw [ht] at hword
    exact (Option.some.inj hword).symm
  · -- an older command has a smaller number
    obtain ⟨mid, tail, rfl⟩ := append_of_mem hmem
    have hnew := hcounted pre t _ rfl
    have hold := hcounted (pre ++ t :: mid) t' tail (by simp)
    rw [length_append, length_cons] at hnew
    omega

/-- **The newest command has the last word**: the tasks of a stream's commands have finished, every section came in
    turn, and the host is as the newest command that mentions a VNI says. -/
theorem newest_has_last_word (spec : NodeSpec) (x : Node) (es : List (Event Received))
    (c : Config Received (Nat × NodeOp) (fun o => o.2.Resp) Stream (Except NetworkError Unit))
    (hproceeds : ∀ e ∈ es, Machine.proceeds e = true) (hal : (commands spec).Along Ordered ⟨⟨x, []⟩, [], []⟩ es)
    (hrun : (commands spec).run ⟨⟨x, []⟩, [], []⟩ es = some c)
    (hdone : ∀ task ∈ c.tasks, task.prog.finished = true) (v : Nat) (word : Option ClusterState)
    (hlast : lastWord c.started v = some word) : AsTold v word c.shared.node.net := by
  have hstart : Counted [] := by
    intro pre t post heq
    cases pre <;> cases heq
  obtain ⟨_, hc⟩ := Outline.annotated_run (γ := ()) (order_sound spec)
    (Outline.annotated_empty ⟨hstart, fun w hw => (by cases hw), fun w hw => (by cases hw)⟩) hal hrun
  obtain ⟨hcounted, hholds, hspoken⟩ := hc.inv
  obtain ⟨t, ht, hword, hnewest⟩ := lastWord_of_spoken hcounted hlast
  -- its task is still in the pool, and it has dealt with the VNI
  have htags := Machine.tags_of_proceeds hproceeds hrun rfl
  obtain ⟨task, htask, rfl⟩ : ∃ task ∈ c.tasks, task.tag = t := by
    have hmem : t ∈ c.tasks.map (·.tag) := by
      rw [htags]
      exact mem_reverse.mpr ht
    exact mem_map.mp hmem
  obtain ⟨g, hat, hg⟩ := hc.phases task htask
  have hend : g = .burying [] ∨ g = .failed := by
    obtain ⟨tag, prog⟩ := task
    cases prog with
    | ret a => exact hat
    | call o k => exact absurd (hdone _ htask) Bool.false_ne_true
  rcases hend with rfl | rfl
  · obtain ⟨hcontributed, -, hdealt⟩ := hg
    obtain ⟨w, hw, rfl, hle⟩ := hdealt v (by rw [hword]; exact Option.some_ne_none _) not_mem_nil
    have htold := (hholds w hw).asTold hcontributed
    rwa [hnewest w (hspoken w hw) rfl hle] at htold
  · cases hg

/-- A command that lists the cluster, and one that buries it. -/
def listing : ReconcileHostCommand := ⟨[lanCluster], [], []⟩

def burying : ReconcileHostCommand := ⟨[], [⟨7, "c-7", "10.200.0.0/24"⟩], []⟩

/-- The tombstone comes first and runs first. -/
def inOrder : List (Event Received) :=
  [.spawn ⟨0, burying⟩, .spawn ⟨1, listing⟩, .step 0, .step 0, .step 0, .step 0, .step 1, .step 1]

/-- Sections in turn: the cluster that was buried and listed again is on the host. -/
theorem listed_after_burial :
    ∃ c, (commands plainSpec).run ⟨⟨restarted, []⟩, [], []⟩ inOrder = some c ∧
      AsTold 7 (some lanCluster) c.shared.node.net := by
  have htaken : ((commands plainSpec).run ⟨⟨restarted, []⟩, [], []⟩ inOrder).isSome = true := by decide +kernel
  have hrun := Transition.run_eq_after htaken
  refine ⟨_, hrun, newest_has_last_word plainSpec restarted inOrder _ (by decide) (by decide +kernel) hrun
    (by decide +kernel) 7 (some lanCluster) (by decide +kernel)⟩

/-- The tombstone comes last and runs first. -/
def overtaken : List (Event Received) :=
  [.spawn ⟨0, listing⟩, .spawn ⟨1, burying⟩, .step 1, .step 1, .step 1, .step 1, .step 0, .step 0]

/-- The task of the newest command is done before that of an older one begins: the cluster it buries is on the
    host in the end. -/
theorem burial_overtaken : ∃ (spec : NodeSpec) (x : Node) (es : List (Event Received))
    (c : Config Received (Nat × NodeOp) (fun o => o.2.Resp) Stream (Except NetworkError Unit)),
    (∀ e ∈ es, Machine.proceeds e = true) ∧ (commands spec).run ⟨⟨x, []⟩, [], []⟩ es = some c ∧
    (∀ task ∈ c.tasks, task.prog.finished = true) ∧
    ∃ v word, lastWord c.started v = some word ∧ ¬AsTold v word c.shared.node.net := by
  have htaken : ((commands plainSpec).run ⟨⟨restarted, []⟩, [], []⟩ overtaken).isSome = true := by decide +kernel
  have hrun := Transition.run_eq_after htaken
  refine ⟨plainSpec, restarted, overtaken, _, by decide, hrun, by decide +kernel, 7, none, by decide +kernel, ?_⟩
  intro h
  have hon : let k := ((commands plainSpec).after ⟨⟨restarted, []⟩, [], []⟩ overtaken).shared.node.net.kernel
      k.hasBridge 7 = true ∧ k.hasVxlan 7 = true := by decide +kernel
  cases h.materialised.mp hon

end BasisCell.Agent
