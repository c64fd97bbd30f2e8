import BasisCell.Lib.Faults
import BasisCell.Lib.Fallible
import BasisCell.Ipv4

/-!
# `BasisCell.Gobgp` — the client of the local gobgpd

The part of `gobgp.rs` that programs the ingress filter of the cell's route reflector. A spec lists, per
cluster, the prefixes its nodes may announce; it is rendered into named sets of prefixes and neighbours and a
policy whose statements refer to the sets by name, and pushed with three RPCs. gobgpd carries out each RPC
atomically; between two of them the filter is whatever the RPCs so far have left.

Only the fields that the client sets to anything but their default are kept. Prefixes are IPv4.
-/

namespace BasisCell.Gobgp

open Conc Fallible List

/-! ## Rendering -/

structure ClusterIngress where
  clusterId : String
  allowedPrefixes : List String
  nodes : List Ipv4Addr
  deriving DecidableEq, Repr

structure IngressPolicySpec where
  clusters : List ClusterIngress
  hypervisors : List Ipv4Addr
  deriving DecidableEq, Repr

/-- A prefix with the window of lengths that match it. -/
structure Prefix where
  ipPrefix : String
  maskLengthMin : Nat
  maskLengthMax : Nat
  deriving DecidableEq, Repr

inductive DefinedType where
  | ofPrefixes | ofNeighbors
  deriving DecidableEq, Repr

structure DefinedSet where
  definedType : DefinedType
  name : String
  list : List String := []
  prefixes : List Prefix := []
  deriving DecidableEq, Repr

inductive RouteAction where
  | accept | reject
  deriving DecidableEq, Repr

/-- A statement applies to the neighbours of one set and, if it names one, to the prefixes of another. -/
structure Statement where
  name : String
  neighborSet : String
  prefixSet : Option String
  routeAction : RouteAction
  deriving DecidableEq, Repr

structure Policy where
  name : String
  statements : List Statement
  deriving DecidableEq, Repr

/-- One entry of a prefix set: the prefix and whatever is more specific. -/
def prefixEntry (name raw : String) : Except String Prefix :=
  match Ipv4Net.parse raw with
  | none => .error s!"prefix '{raw}' in defined-set '{name}': invalid IP address syntax"
  | some net => .ok ⟨net.text, net.prefixLen, 32⟩

/-- `prefix_defined_set`. -/
def prefixDefinedSet (name : String) (prefixes : List String) : Except String DefinedSet := do
  let out ← prefixes.mapM (prefixEntry name)
  return { definedType := .ofPrefixes, name, prefixes := out }

/-- `neighbor_defined_set`: one host route per address. -/
def neighborDefinedSet (name : String) (addrs : List Ipv4Addr) : DefinedSet :=
  { definedType := .ofNeighbors, name, list := addrs.map fun v => s!"{v.text}/32" }

/-- `accept_statement`. -/
def acceptStatement (name neighborSet : String) (prefixSet : Option String) : Statement :=
  ⟨name, neighborSet, prefixSet, .accept⟩

/-- What one cluster adds to the policy: nothing if it has no prefixes or no nodes. -/
def clusterStatement (cluster : ClusterIngress) : Except String (List DefinedSet × List Statement) := do
  if cluster.allowedPrefixes = [] ∨ cluster.nodes = [] then return ([], [])
  let prefixSetName := s!"cluster-{cluster.clusterId}-prefixes"
  let neighborSetName := s!"cluster-{cluster.clusterId}-nodes"
  let prefixSet ← prefixDefinedSet prefixSetName cluster.allowedPrefixes
  return ([prefixSet, neighborDefinedSet neighborSetName cluster.nodes],
    [acceptStatement s!"cluster-{cluster.clusterId}-import" neighborSetName (some prefixSetName)])

/-- What the hypervisors add: they may announce anything. -/
def hypervisorStatement (hypervisors : List Ipv4Addr) : List DefinedSet × List Statement :=
  if hypervisors = [] then ([], [])
  else ([neighborDefinedSet "hypervisors" hypervisors], [acceptStatement "hypervisor-import" "hypervisors" none])

/-- The defined sets and the policy that `reconcile_ingress_policy` pushes. -/
def ingressPolicy (spec : IngressPolicySpec) : Except String (List DefinedSet × Policy) := do
  let parts ← spec.clusters.mapM clusterStatement
  let parts := parts ++ [hypervisorStatement spec.hypervisors]
  return (parts.flatMap (·.1), ⟨"cell-ingress", parts.flatMap (·.2)⟩)

/-! ## How gobgpd reads a policy -/

/-- Is the address of a session one of the set's neighbours? -/
def DefinedSet.hasNeighbor (set : DefinedSet) (session : Ipv4Addr) : Bool :=
  set.list.any fun entry => (Ipv4Net.parse entry).any fun net => net.contains session

/-- Is the announced network one of the set's prefixes, or inside one, with a length in its window? -/
def DefinedSet.hasPrefix (set : DefinedSet) (route : Ipv4Net) : Bool :=
  set.prefixes.any fun p => (Ipv4Net.parse p.ipPrefix).any fun net =>
    p.maskLengthMin ≤ route.prefixLen ∧ route.prefixLen ≤ p.maskLengthMax ∧ net.contains route.network

def Statement.applies (sets : List DefinedSet) (st : Statement) (session : Ipv4Addr) (route : Ipv4Net) : Bool :=
  (sets.any fun set =>
    set.definedType = .ofNeighbors ∧ set.name = st.neighborSet ∧ set.hasNeighbor session) &&
  st.prefixSet.all fun name => sets.any fun set =>
    set.definedType = .ofPrefixes ∧ set.name = name ∧ set.hasPrefix route

/-- An announcement is accepted if a statement applies to it, and rejected otherwise. -/
def accepts (sets : List DefinedSet) (policy : Policy) (session : Ipv4Addr) (route : Ipv4Net) : Bool :=
  policy.statements.any fun st => st.routeAction = .accept ∧ st.applies sets session route

/-! ## What a rendered policy accepts -/

section Rendered

variable {spec : IngressPolicySpec} {sets : List DefinedSet} {policy : Policy} {set : DefinedSet} {st : Statement}

/-- Where the sets of a rendered policy come from. -/
inductive SetOf (spec : IngressPolicySpec) : DefinedSet → Prop
  | prefixes {cluster : ClusterIngress} {set : DefinedSet} (hmem : cluster ∈ spec.clusters)
      (hset : prefixDefinedSet s!"cluster-{cluster.clusterId}-prefixes" cluster.allowedPrefixes = .ok set) :
      SetOf spec set
  | nodes {cluster : ClusterIngress} (hmem : cluster ∈ spec.clusters) :
      SetOf spec (neighborDefinedSet s!"cluster-{cluster.clusterId}-nodes" cluster.nodes)
  | hypervisors : SetOf spec (neighborDefinedSet "hypervisors" spec.hypervisors)

/-- Where its statements come from. -/
inductive StatementOf (spec : IngressPolicySpec) : Statement → Prop
  | cluster {cluster : ClusterIngress} (hmem : cluster ∈ spec.clusters) :
      StatementOf spec (acceptStatement s!"cluster-{cluster.clusterId}-import" s!"cluster-{cluster.clusterId}-nodes"
        (some s!"cluster-{cluster.clusterId}-prefixes"))
  | hypervisors : StatementOf spec (acceptStatement "hypervisor-import" "hypervisors" none)

/-- A part of the policy is made of such sets and statements. -/
def PartOf (spec : IngressPolicySpec) (part : List DefinedSet × List Statement) : Prop :=
  (∀ set ∈ part.1, SetOf spec set) ∧ ∀ st ∈ part.2, StatementOf spec st

theorem partOf_cluster {cluster : ClusterIngress} (hmem : cluster ∈ spec.clusters)
    {part : List DefinedSet × List Statement} (h : clusterStatement cluster = .ok part) : PartOf spec part := by
  unfold clusterStatement at h
  split at h
  · cases h
    exact ⟨forall_mem_nil _, forall_mem_nil _⟩
  · obtain ⟨prefixSet, hset, h⟩ := bind_ok h
    cases h
    exact ⟨forall_mem_cons.mpr ⟨.prefixes hmem hset, forall_mem_singleton.mpr (.nodes hmem)⟩,
      forall_mem_singleton.mpr (.cluster hmem)⟩

theorem partOf_hypervisors : PartOf spec (hypervisorStatement spec.hypervisors) := by
  unfold hypervisorStatement
  split
  · exact ⟨forall_mem_nil _, forall_mem_nil _⟩
  · exact ⟨forall_mem_singleton.mpr .hypervisors, forall_mem_singleton.mpr .hypervisors⟩

theorem partOf_policy (h : ingressPolicy spec = .ok (sets, policy)) : PartOf spec (sets, policy.statements) := by
  unfold ingressPolicy at h
  obtain ⟨parts, hparts, h⟩ := bind_ok h
  cases h
  have hall : ∀ part ∈ parts ++ [hypervisorStatement spec.hypervisors], PartOf spec part := by
    intro part hpart
    rcases mem_append.mp hpart with hpart | hpart
    · obtain ⟨cluster, hmem, hcluster⟩ := mem_of_mapM hparts part hpart
      exact partOf_cluster hmem hcluster
    · rw [mem_singleton.mp hpart]
      exact partOf_hypervisors
  constructor
  · intro set hset
    obtain ⟨part, hpart, hmem⟩ := mem_flatMap.mp hset
    exact (hall part hpart).1 set hmem
  · intro st hst
    obtain ⟨part, hpart, hmem⟩ := mem_flatMap.mp hst
    exact (hall part hpart).2 st hmem

theorem nodes_ne_hypervisors {id : String} : "cluster-" ++ id ++ "-nodes" ≠ "hypervisors" := by
  intro h
  have hlists := congrArg (fun s : String => s.toList.head?) h
  simp at hlists

variable {name : String} {prefixes : List String} {session : Ipv4Addr} {route : Ipv4Net}

theorem of_prefixDefinedSet (h : prefixDefinedSet name prefixes = .ok set) :
    set.definedType = .ofPrefixes ∧ set.name = name ∧ prefixes.mapM (prefixEntry name) = .ok set.prefixes := by
  obtain ⟨out, hout, h⟩ := bind_ok h
  cases h
  exact ⟨rfl, rfl, hout⟩

theorem neighbor_of_hasNeighbor {addrs : List Ipv4Addr}
    (haddrs : ∀ v ∈ addrs, v < 2 ^ 32) (h : (neighborDefinedSet name addrs).hasNeighbor session = true) :
    session ∈ addrs := by
  obtain ⟨entry, hentry, hnet⟩ := any_eq_true.mp h
  obtain ⟨v, hv, rfl⟩ := mem_map.mp hentry
  have hwf : (⟨v, 32⟩ : Ipv4Net).wellFormed = true := decide_eq_true ⟨haddrs v hv, Nat.le_refl _⟩
  rw [← Ipv4Net.text_host, Ipv4Net.parse_text hwf] at hnet
  rw [Ipv4Net.contains_host.mp hnet]
  exact hv

theorem covers_of_hasPrefix (hset : prefixDefinedSet name prefixes = .ok set) (h : set.hasPrefix route = true) :
    ∃ raw ∈ prefixes, ∃ net, Ipv4Net.parse raw = some net ∧ net.prefixLen ≤ route.prefixLen ∧
      net.contains route.network = true := by
  obtain ⟨-, -, hout⟩ := of_prefixDefinedSet hset
  obtain ⟨p, hp, hnet⟩ := any_eq_true.mp h
  obtain ⟨raw, hraw, hfrom⟩ := mem_of_mapM hout p hp
  unfold prefixEntry at hfrom
  split at hfrom <;> cases hfrom
  rename_i net hparse
  rw [Ipv4Net.parse_text (Ipv4Net.wellFormed_of_parse hparse)] at hnet
  obtain ⟨hmin, -, hinside⟩ := of_decide_eq_true hnet
  exact ⟨raw, hraw, net, hparse, hmin, hinside⟩

/-- **What an accepted announcement says.** The session is a hypervisor's, or it is a node's and the announced
    network lies inside one of the prefixes of the node's cluster. -/
theorem accepted_by (hpolicy : ingressPolicy spec = .ok (sets, policy))
    (hids : ∀ a ∈ spec.clusters, ∀ b ∈ spec.clusters, a.clusterId = b.clusterId → a = b)
    (hnodes : ∀ cluster ∈ spec.clusters, ∀ v ∈ cluster.nodes, v < 2 ^ 32) (hhosts : ∀ v ∈ spec.hypervisors, v < 2 ^ 32)
    (h : accepts sets policy session route = true) :
    session ∈ spec.hypervisors ∨ ∃ cluster ∈ spec.clusters, session ∈ cluster.nodes ∧
      ∃ raw ∈ cluster.allowedPrefixes, ∃ net, Ipv4Net.parse raw = some net ∧ net.prefixLen ≤ route.prefixLen ∧
        net.contains route.network = true := by
  obtain ⟨hsets, hstatements⟩ := partOf_policy hpolicy
  obtain ⟨st, hst, hacc⟩ := any_eq_true.mp h
  obtain ⟨-, happlies⟩ := of_decide_eq_true hacc
  obtain ⟨hneighbor, hprefix⟩ := Bool.and_eq_true_iff.mp happlies
  obtain ⟨set, hset, hfound⟩ := any_eq_true.mp hneighbor
  obtain ⟨htype, hname, hhas⟩ := of_decide_eq_true hfound
  cases hstatements st hst with
  | hypervisors =>
    left
    cases hsets set hset with
    | prefixes _ hfrom =>
      rw [(of_prefixDefinedSet hfrom).1] at htype
      cases htype
    | nodes => exact absurd hname nodes_ne_hypervisors
    | hypervisors => exact neighbor_of_hasNeighbor hhosts hhas
  | @cluster cluster hmem =>
    refine .inr ⟨cluster, hmem, ?_, ?_⟩
    · cases hsets set hset with
      | prefixes _ hfrom =>
        rw [(of_prefixDefinedSet hfrom).1] at htype
        cases htype
      | @nodes other hother =>
        obtain rfl := hids other hother cluster hmem
          ((String.append_right_inj _).mp ((String.append_left_inj _).mp hname))
        exact neighbor_of_hasNeighbor (hnodes other hmem) hhas
      | hypervisors => exact absurd hname.symm nodes_ne_hypervisors
    · obtain ⟨set', hset', hfound'⟩ := any_eq_true.mp hprefix
      obtain ⟨htype', hname', hhas'⟩ := of_decide_eq_true hfound'
      cases hsets set' hset' with
      | @prefixes other _ hother hfrom =>
        rw [(of_prefixDefinedSet hfrom).2.1] at hname'
        obtain rfl := hids other hother cluster hmem
          ((String.append_right_inj _).mp ((String.append_left_inj _).mp hname'))
        exact covers_of_hasPrefix hfrom hhas'
      | nodes => cases htype'
      | hypervisors => cases htype'

end Rendered

theorem ingressPolicy_ok {spec : IngressPolicySpec}
    (h : ∀ cluster ∈ spec.clusters, ∀ raw ∈ cluster.allowedPrefixes, ∃ net, Ipv4Net.parse raw = some net) :
    ∃ sets policy, ingressPolicy spec = .ok (sets, policy) := by
  have hclusters : ∀ cluster ∈ spec.clusters, ∃ part, clusterStatement cluster = .ok part := by
    intro cluster hmem
    unfold clusterStatement
    split
    · exact ⟨_, rfl⟩
    · obtain ⟨out, hout⟩ : ∃ out, cluster.allowedPrefixes.mapM
          (prefixEntry s!"cluster-{cluster.clusterId}-prefixes") = .ok out := by
        refine mapM_of_forall fun raw hraw => ?_
        obtain ⟨net, hnet⟩ := h cluster hmem raw hraw
        exact ⟨⟨net.text, net.prefixLen, 32⟩, by rw [prefixEntry, hnet]⟩
      unfold prefixDefinedSet
      dsimp only
      rw [hout]
      exact ⟨_, rfl⟩
  obtain ⟨parts, hparts⟩ := mapM_of_forall hclusters
  unfold ingressPolicy
  rw [hparts]
  exact ⟨_, _, rfl⟩

/-! ## Pushing a policy -/

/-- The import assignment of gobgpd: which policies filter announcements, and what becomes of the rest. -/
structure PolicyAssignment where
  name : String
  policies : List Policy
  defaultAction : RouteAction
  deriving DecidableEq, Repr

inductive Rpc where
  | setPolicies (definedSets : List DefinedSet) (policies : List Policy)
  | deletePolicyAssignment (assignment : PolicyAssignment) (all : Bool)
  | addPolicyAssignment (assignment : PolicyAssignment)
  deriving DecidableEq, Repr

abbrev Rpc.Resp (_ : Rpc) : Type := Except String Unit

/-- The state of the daemon that the RPCs write. Without an import assignment it accepts every route. -/
structure Gobgpd where
  definedSets : List DefinedSet := []
  policies : List Policy := []
  importAssignment : Option PolicyAssignment := none
  deriving DecidableEq, Repr

/-- One RPC, carried out. -/
def Rpc.exec : (rpc : Rpc) → Gobgpd → Gobgpd × rpc.Resp
  | .setPolicies definedSets policies, d => ({ d with definedSets, policies }, .ok ())
  | .deletePolicyAssignment assignment all, d =>
    match d.importAssignment with
    | none => (d, .error "not found")
    | some current =>
      if all then ({ d with importAssignment := none }, .ok ())
      else
        let kept := current.policies.filter fun p => !assignment.policies.any fun q => q.name = p.name
        ({ d with importAssignment := some { current with policies := kept } }, .ok ())
  | .addPolicyAssignment assignment, d =>
    match d.importAssignment with
    | none => ({ d with importAssignment := some assignment }, .ok ())
    | some current =>
      if current.policies.any fun p => assignment.policies.any fun q => q.name = p.name then
        (d, .error "duplicated policy")
      else
        let policies := current.policies ++ assignment.policies
        ({ d with importAssignment := some { assignment with policies } }, .ok ())

/-- The assignment the client writes: what its policies do not accept is rejected. -/
def importAssignment (policies : List Policy) : PolicyAssignment := ⟨"global", policies, .reject⟩

/-- The end of `reconcile_ingress_policy`: delete the assignment and add it. The delete is best effort, since on
    the first run there is nothing to delete. -/
def replaceAssignment (policy : Policy) : Prog Rpc Rpc.Resp (Except String Unit) := do
  let _ ← Prog.perform (.deletePolicyAssignment (importAssignment []) true)
  match ← Prog.perform (.addPolicyAssignment (importAssignment [policy])) with
  | .error e => return .error s!"AddPolicyAssignment: {e}"
  | .ok () => return .ok ()

/-- `reconcile_ingress_policy`. -/
def reconcileIngressPolicy (spec : IngressPolicySpec) : Prog Rpc Rpc.Resp (Except String Unit) :=
  match ingressPolicy spec with
  | .error e => return .error e
  | .ok (definedSets, policy) => do
    match ← Prog.perform (.setPolicies definedSets [policy]) with
    | .error e => return .error s!"SetPolicies: {e}"
    | .ok () => replaceAssignment policy

/-! ## The filter over later calls -/

/-- What is not accepted by a statement is rejected. -/
def Gobgpd.closed (d : Gobgpd) : Bool := d.importAssignment.any fun a => a.defaultAction = .reject

/-- One call of `reconcile_ingress_policy`: what becomes of each RPC, and after how many RPCs the controller
    crashes (three or more is no crash). -/
structure Attempt where
  spec : IngressPolicySpec
  outcomes : Nat → Outcome
  rpcs : Nat

/-- An RPC under a pattern of outcomes; the client hears of a failure as a transport error. -/
def Attempt.exec (a : Attempt) : (rpc : Rpc) → Gobgpd × Nat → (Gobgpd × Nat) × rpc.Resp :=
  Prog.unreliable Rpc.exec (fun _ => some (.error "transport error")) a.outcomes

/-- The states of gobgpd after each RPC of the call. -/
def Attempt.moments (a : Attempt) (d : Gobgpd) : List Gobgpd :=
  (((reconcileIngressPolicy a.spec).visits a.exec (d, 0)).take a.rpcs).map Prod.fst

/-- The call runs to its end and returns `Ok`. -/
def Attempt.succeeds (a : Attempt) (d : Gobgpd) : Prop :=
  ((reconcileIngressPolicy a.spec).visits a.exec (d, 0)).length ≤ a.rpcs ∧
    ((reconcileIngressPolicy a.spec).eval a.exec (d, 0)).2 = .ok ()

/-- The states after each RPC of a sequence of calls. -/
def moments (d : Gobgpd) : List Attempt → List Gobgpd
  | [] => []
  | a :: rest => a.moments d ++ moments ((a.moments d).getLastD d) rest

/-- The call gets as far as deleting the assignment: its spec can be rendered, `SetPolicies` succeeds, the
    controller lives to send the delete, and gobgpd carries the delete out. -/
def Attempt.withdraws (a : Attempt) : Bool :=
  (ingressPolicy a.spec).isOk && (a.outcomes 0 = .done) && (2 ≤ a.rpcs) && (a.outcomes 1 ≠ .refused)

section Closed

variable {a : Attempt} {d : Gobgpd} {rpc : Rpc} {n : Nat}

/-- The state after an RPC that met the `n`-th outcome. -/
def Attempt.after (a : Attempt) (rpc : Rpc) (d : Gobgpd) (n : Nat) : Gobgpd :=
  if a.outcomes n = .refused then d else (rpc.exec d).1

/-- The client reads a success only off an RPC that was carried out and answered. -/
theorem Attempt.exec_eq : a.exec rpc (d, n) =
    ((a.after rpc d n, n + 1), if a.outcomes n = .done then (rpc.exec d).2 else .error "transport error") :=
  Prog.unreliable_of_failure rfl d n

variable {α : Type} {policies : List Policy}

theorem Attempt.visits_call {k : rpc.Resp → Prog Rpc Rpc.Resp α} :
    (Prog.call rpc k).visits a.exec (d, n) = (a.after rpc d n, n + 1) ::
      (k (if a.outcomes n = .done then (rpc.exec d).2 else .error "transport error")).visits a.exec
        (a.after rpc d n, n + 1) := by
  rw [Prog.visits, Attempt.exec_eq]

/-- A call that cannot render its spec sends nothing. -/
theorem Attempt.moments_of_error {e : String} (h : ingressPolicy a.spec = .error e) : a.moments d = [] := by
  unfold Attempt.moments reconcileIngressPolicy
  rw [h]
  show (([] : List (Gobgpd × Nat)).take a.rpcs).map Prod.fst = []
  rw [take_nil, map_nil]

theorem Attempt.visits_replaceAssignment {policy : Policy} :
    (replaceAssignment policy).visits a.exec (d, n) =
      let d₁ := a.after (.deletePolicyAssignment (importAssignment []) true) d n
      [(d₁, n + 1), (a.after (.addPolicyAssignment (importAssignment [policy])) d₁ (n + 1), n + 2)] := by
  show (Prog.call _ fun _ => Prog.call _ _).visits _ _ = _
  rw [Attempt.visits_call, Attempt.visits_call]
  -- the answer to the add decides what the call returns, and nothing else
  generalize (if a.outcomes (n + 1) = .done then _ else _ : Except String Unit) = r
  cases r <;> rfl

/-- The moments of a call that renders its spec. -/
theorem Attempt.moments_of_ok {sets : List DefinedSet} {policy : Policy}
    (h : ingressPolicy a.spec = .ok (sets, policy)) :
    a.moments d =
      let d₁ := a.after (.setPolicies sets [policy]) d 0
      let d₂ := a.after (.deletePolicyAssignment (importAssignment []) true) d₁ 1
      let d₃ := a.after (.addPolicyAssignment (importAssignment [policy])) d₂ 2
      (if a.outcomes 0 = .done then [d₁, d₂, d₃] else [d₁]).take a.rpcs := by
  unfold Attempt.moments reconcileIngressPolicy
  rw [h, map_take]
  show ((Prog.call _ _).visits _ _ |>.map _).take _ = _
  rw [Attempt.visits_call]
  by_cases hdone : a.outcomes 0 = .done
  · rw [if_pos hdone]
    show ((_ :: (replaceAssignment policy).visits _ _).map _).take _ = _
    rw [Attempt.visits_replaceAssignment]
    dsimp only
    rw [if_pos hdone]
    rfl
  · rw [if_neg hdone]
    dsimp only
    rw [if_neg hdone]
    rfl

/-- An RPC that is not a delete leaves the filter closed. -/
theorem closed_addPolicyAssignment (h : d.closed = true) :
    (a.after (.addPolicyAssignment (importAssignment policies)) d n).closed = true := by
  unfold Attempt.after
  split
  · exact h
  · unfold Rpc.exec
    dsimp only
    split
    · rfl
    · split
      · exact h
      · rfl

/-- **A call that withdraws nothing leaves the filter closed at every moment.** -/
theorem closed_of_not_withdraws (hd : d.closed = true) (h : a.withdraws = false) :
    ∀ d' ∈ a.moments d, d'.closed = true := by
  intro d' hd'
  cases hpolicy : ingressPolicy a.spec with
  | error e =>
    rw [Attempt.moments_of_error hpolicy] at hd'
    cases hd'
  | ok rendered =>
    obtain ⟨sets, policy⟩ := rendered
    rw [Attempt.moments_of_ok hpolicy] at hd'
    have hset : (a.after (.setPolicies sets [policy]) d 0).closed = true := by
      unfold Attempt.after
      split <;> exact hd
    dsimp only at hd'
    by_cases hdone : a.outcomes 0 = .done
    · rw [if_pos hdone] at hd'
      by_cases hrpcs : 2 ≤ a.rpcs
      · -- the delete is refused, so the add finds what was there
        have hrefused : a.outcomes 1 = .refused := by
          by_contra hne
          have hwithdraws : a.withdraws = true := by
            simp [Attempt.withdraws, hpolicy, hdone, hrpcs, hne, Except.isOk, Except.toBool]
          rw [h] at hwithdraws
          cases hwithdraws
        have hdelete : ∀ e, a.after (.deletePolicyAssignment (importAssignment []) true) e 1 = e := by
          intro e
          unfold Attempt.after
          rw [if_pos hrefused]
        rw [hdelete] at hd'
        have hmem := mem_of_mem_take hd'
        simp only [mem_cons, not_mem_nil, or_false] at hmem
        rcases hmem with rfl | rfl | rfl
        · exact hset
        · exact hset
        · exact closed_addPolicyAssignment hset
      · obtain hzero | hone : a.rpcs = 0 ∨ a.rpcs = 1 := by omega
        · rw [hzero] at hd'
          cases hd'
        · rw [hone] at hd'
          rw [mem_singleton.mp hd']
          exact hset
    · rw [if_neg hdone] at hd'
      rw [mem_singleton.mp (mem_of_mem_take hd')]
      exact hset

theorem closed_delete (hne : a.outcomes n ≠ .refused) :
    (a.after (.deletePolicyAssignment (importAssignment []) true) d n).closed = false := by
  unfold Attempt.after
  rw [if_neg hne]
  unfold Rpc.exec Gobgpd.closed
  dsimp only
  split
  · rename_i hnone
    rw [hnone]
    rfl
  · rfl

/-- A call that withdraws the assignment leaves the filter open until its next RPC. -/
theorem open_of_withdraws (h : a.withdraws = true) : ∃ d' ∈ a.moments d, d'.closed = false := by
  simp only [Attempt.withdraws, Bool.and_eq_true, decide_eq_true_eq] at h
  obtain ⟨⟨⟨hok, hdone⟩, hrpcs⟩, hdelete⟩ := h
  cases hpolicy : ingressPolicy a.spec with
  | error e =>
    rw [hpolicy] at hok
    cases hok
  | ok rendered =>
    obtain ⟨sets, policy⟩ := rendered
    refine ⟨_, ?_, closed_delete (d := a.after (.setPolicies sets [policy]) d 0) hdelete⟩
    rw [Attempt.moments_of_ok hpolicy]
    dsimp only
    rw [if_pos hdone]
    obtain ⟨m, hm⟩ := Nat.exists_eq_add_of_le' hrpcs
    rw [hm]
    exact mem_cons_of_mem _ mem_cons_self

theorem Attempt.eval_call {k : rpc.Resp → Prog Rpc Rpc.Resp α} : (Prog.call rpc k).eval a.exec (d, n) =
      (k (if a.outcomes n = .done then (rpc.exec d).2 else .error "transport error")).eval a.exec
        (a.after rpc d n, n + 1) := by
  rw [Prog.eval, Attempt.exec_eq]

/-- An add that gobgpd accepts closes the filter. -/
theorem closed_of_add {u : Unit} (h : ((Rpc.addPolicyAssignment (importAssignment policies)).exec d).2 = .ok u) :
    ((Rpc.addPolicyAssignment (importAssignment policies)).exec d).1.closed = true := by
  unfold Rpc.exec at h ⊢
  dsimp only at h ⊢
  split at h
  · rfl
  · split at h
    · cases h
    · rename_i hfresh
      rw [if_neg hfresh]
      rfl

theorem closed_of_replaced {policy : Policy} (h : ((replaceAssignment policy).eval a.exec (d, n)).2 = .ok ()) :
    ((replaceAssignment policy).eval a.exec (d, n)).1.1.closed = true := by
  have heval : (replaceAssignment policy).eval a.exec (d, n) =
      (Prog.call _ fun _ => Prog.call _ _).eval a.exec (d, n) :=
    rfl
  rw [heval, Attempt.eval_call, Attempt.eval_call] at h ⊢
  generalize a.after (.deletePolicyAssignment (importAssignment []) true) d n = d₁ at h ⊢
  by_cases hdone : a.outcomes (n + 1) = .done
  · rw [if_pos hdone] at h ⊢
    have hafter : a.after (.addPolicyAssignment (importAssignment [policy])) d₁ (n + 1) =
        ((Rpc.addPolicyAssignment (importAssignment [policy])).exec d₁).1 := by
      unfold Attempt.after
      rw [hdone]
      rfl
    cases hadd : ((Rpc.addPolicyAssignment (importAssignment [policy])).exec d₁).2 with
    | error e =>
      rw [hadd] at h
      cases h
    | ok u =>
      rw [hafter]
      exact closed_of_add hadd
  · rw [if_neg hdone] at h
    cases h

/-- A call that succeeds leaves the filter closed. -/
theorem closed_of_succeeds (h : a.succeeds d) : ((a.moments d).getLastD d).closed = true := by
  obtain ⟨hall, hok⟩ := h
  have hlast : (a.moments d).getLastD d = ((reconcileIngressPolicy a.spec).eval a.exec (d, 0)).1.1 := by
    unfold Attempt.moments
    rw [take_of_length_le hall, ← Prog.getLastD_visits]
    exact getLastD_map (f := Prod.fst) (a := (d, 0))
  rw [hlast]
  unfold reconcileIngressPolicy at hok ⊢
  split at hok
  · cases hok
  · rename_i sets policy hpolicy
    have heval : ∀ k : Except String Unit → Prog Rpc Rpc.Resp (Except String Unit),
        (Prog.perform (.setPolicies sets [policy]) >>= k).eval a.exec (d, 0) = (Prog.call _ k).eval a.exec (d, 0) :=
      fun _ => rfl
    rw [heval, Attempt.eval_call] at hok ⊢
    by_cases hdone : a.outcomes 0 = .done
    · rw [if_pos hdone] at hok ⊢
      exact closed_of_replaced hok
    · rw [if_neg hdone] at hok
      cases hok

end Closed

/-- **When the filter stays closed.** After a call that succeeded, the filter is closed at every moment of a
    sequence of later calls iff none of them gets as far as deleting the assignment. -/
theorem filter_closed_iff (d : Gobgpd) (first : Attempt) (hfirst : first.succeeds d) (attempts : List Attempt) :
    (∀ d' ∈ (first.moments d).getLastD d :: moments ((first.moments d).getLastD d) attempts, d'.closed = true) ↔
      ∀ a ∈ attempts, a.withdraws = false := by
  have hclosed := closed_of_succeeds hfirst
  generalize (first.moments d).getLastD d = d₀ at hclosed
  rw [forall_mem_cons, and_iff_right hclosed]
  induction attempts generalizing d₀ with
  | nil => exact ⟨fun _ => forall_mem_nil _, fun _ => forall_mem_nil _⟩
  | cons a rest ih =>
    have hmoments : moments d₀ (a :: rest) = a.moments d₀ ++ moments ((a.moments d₀).getLastD d₀) rest := rfl
    rw [hmoments, forall_mem_append, forall_mem_cons]
    cases hw : a.withdraws with
    | true =>
      obtain ⟨d', hd', hopen⟩ := open_of_withdraws (d := d₀) hw
      refine iff_of_false (fun h => ?_) fun h => nomatch h.1
      have := h.1 d' hd'
      rw [hopen] at this
      cases this
    | false =>
      have hnow := closed_of_not_withdraws hclosed hw
      have hlast : ((a.moments d₀).getLastD d₀).closed = true := by
        rcases mem_cons.mp (getLastD_mem_cons (l := a.moments d₀) (a := d₀)) with hsame | hmem
        · rw [hsame]
          exact hclosed
        · exact hnow _ hmem
      rw [and_iff_right hnow, and_iff_right rfl]
      exact ih _ hlast

/-- A call without any failure, for a cell of one cluster with one node and one hypervisor. -/
def plainCall : Attempt where
  spec := ⟨[⟨"c", ["10.0.0.0/24"], [167772165]⟩], [3232235777]⟩
  outcomes := fun _ => .done
  rpcs := 3

theorem filter_closed_iff_refused :
    plainCall.succeeds {} ∧
      ∀ d' ∈ moments ((plainCall.moments {}).getLastD {}) [{ plainCall with outcomes := fun _ => .refused }],
        d'.closed = true := by
  have hfirst : plainCall.succeeds {} := ⟨by decide +kernel, by decide +kernel⟩
  have hlater := filter_closed_iff {} plainCall hfirst [{ plainCall with outcomes := fun _ => .refused }]
  exact ⟨hfirst, (forall_mem_cons.mp (hlater.mpr (by decide +kernel))).2⟩

/-- The second call of a controller that never fails: between its delete and its add gobgpd accepts every
    route. -/
theorem second_call_opens_filter :
    plainCall.succeeds {} ∧
      ∃ d' ∈ moments ((plainCall.moments {}).getLastD {}) [plainCall], d'.importAssignment = none ∧ d'.closed = false :=
  ⟨⟨by decide +kernel, by decide +kernel⟩, by decide +kernel⟩

end BasisCell.Gobgp
