import BasisCell.Controller.Effects
import BasisCell.Controller.System

/-!
# `BasisCell.Controller.Confirmations` — which teardown an ack confirms

A membership that is marked PENDING_TEARDOWN stays in the database until the host's agent acks the teardown of
the cluster's network. An ack names VNIs and nothing else. Between the teardown and the ack the cluster may have
come back to the host and be gone again, and the ack then deletes a row whose teardown is still to come.

`Deployment` is the controller with its agents: they act on the commands that were put on their channels, every
teardown is recorded with its moment, and its confirmation may be delivered late and more than once, until it is
settled. The handler of an ack makes one database call and returns (`body_tombstoneAck`), so a delivery is that
call. `acks_confirm` says that a row is deleted only by an ack whose teardown came after the row was last marked,
in all histories in which no membership is marked while an earlier teardown of it may still be confirmed
(`Deployment.unconfirmed`). `ack_outlived` is a history in which one is: the row goes, the bridge stays.
-/

namespace BasisCell

open Conc Relational List Transition

/-! ## Agents beside the controller -/

/-- The agent of a host reads the channels on which its registration was acked. -/
def Channel.ofHost (hostId : HostId) (ch : Channel) : Bool :=
  ch.sent.any fun
    | .registerAck id _ _ _ => id = hostId
    | _ => false

/-- The reconcile that a command carries. -/
def ControllerCommand.reconcile? : ControllerCommand → Option ReconcileHostCommand
  | createVm _ => none
  | registerAck _ initialState _ _ => some initialState
  | reconcileHost cmd => some cmd

/-- Every reconcile that was sent to a host. -/
def Shared.reconciles (s : Shared) (hostId : HostId) : List ReconcileHostCommand :=
  (s.channels.filter (·.ofHost hostId)).flatMap fun ch => ch.sent.filterMap (·.reconcile?)

/-- A teardown of a cluster's network on a host, with its moment. -/
structure Teardown where
  host : HostId
  vni : Nat
  moment : Nat
  deriving DecidableEq, Repr

/-- The controller, its agents' networks, and the history. -/
structure Deployment where
  cell : Cell
  /-- The bridges that exist on the hosts. -/
  bridges : List (HostId × Nat) := []
  /-- The teardowns whose confirmation may still be delivered. -/
  confirmable : List Teardown := []
  /-- The number of the next event. -/
  clock : Nat := 1
  /-- When the row of a pair was last marked; 0 for a row that was marked from the start. -/
  markedAt : ClusterId → HostId → Nat := fun _ _ => 0

inductive DeploymentEvent where
  /-- An event of the controller process. -/
  | act (e : Event Activity)
  | materialise (hostId : HostId) (vni : Nat)
  | teardown (hostId : HostId) (vni : Nat)
  /-- An ack of these teardowns is delivered. -/
  | ack (hostId : HostId) (confirmed : List Teardown) (vmIds : List VmId)
  /-- The confirmation of a teardown will not be delivered any more. -/
  | settle (t : Teardown)

/-- Is the pair's row marked? -/
def Db.marked (db : Db) (clusterId : ClusterId) (hostId : HostId) : Bool :=
  db.hostClusters.rows.any fun hc => hc.clusterId = clusterId ∧ hc.hostId = hostId ∧ hc.state = .pendingTeardown

/-- The message that acks teardowns. -/
def ackMessage (hostId : HostId) (confirmed : List Teardown) (vmIds : List VmId) (now : Nat) : Activity :=
  .agentMessage hostId (.tombstoneAck (confirmed.map (·.vni)) vmIds) now

namespace Deployment

def start (db : Db) : Deployment where
  cell := Cell.start db

/-- The controller has moved: rows that are marked now and were not are marked at this event. -/
def moved (x : Deployment) (c : Cell) : Deployment :=
  { x with
    cell := c
    clock := x.clock + 1
    markedAt := fun clusterId hostId =>
      if c.shared.db.marked clusterId hostId && !x.cell.shared.db.marked clusterId hostId then x.clock
      else x.markedAt clusterId hostId }

/-- Acks reach the controller by delivery only. -/
def isAck : Event Activity → Bool
  | .spawn (.agentMessage _ (.tombstoneAck _ _) _) => true
  | _ => false

def step (settings : Settings) (x : Deployment) : DeploymentEvent → Option Deployment
  | .act e => if isAck e then none else ((BasisCell.cell settings).step x.cell e).map x.moved
  | .materialise hostId vni =>
    if (x.cell.shared.reconciles hostId).any fun cmd => cmd.clusters.any fun k => k.vni = vni
    then some { x with bridges := (hostId, vni) :: x.bridges, clock := x.clock + 1 }
    else none
  | .teardown hostId vni =>
    if (x.cell.shared.reconciles hostId).any fun cmd => cmd.clusterTombstones.any fun k => k.vni = vni
    then some { x with
      bridges := x.bridges.filter fun b => b ≠ (hostId, vni)
      confirmable := ⟨hostId, vni, x.clock⟩ :: x.confirmable
      clock := x.clock + 1 }
    else none
  | .ack hostId confirmed vmIds =>
    if ∀ t ∈ confirmed, t ∈ x.confirmable ∧ t.host = hostId
    then ((BasisCell.cell settings).run x.cell
      [.spawn (ackMessage hostId confirmed vmIds x.clock), .step x.cell.tasks.length]).map x.moved
    else none
  | .settle t => some { x with confirmable := x.confirmable.filter (· ≠ t), clock := x.clock + 1 }

/-- May a teardown of the cluster's network on the host still be confirmed? -/
def awaited (x : Deployment) (clusterId : ClusterId) (hostId : HostId) : Bool :=
  x.confirmable.any fun t =>
    t.host = hostId ∧ x.cell.shared.db.clusters.rows.any fun k => k.id = clusterId ∧ k.vni = t.vni

/-- **No confirmation is outstanding.** An ACTIVE membership is marked only when no earlier teardown of it may
    still be confirmed; and a cluster is not created under an id that memberships refer to already. -/
def unconfirmed (x : Deployment) : DeploymentEvent → Bool
  | .act e =>
    match x.cell.nextWrite e with
    | some (.markHostClusterPendingTeardown clusterId hostId) =>
      x.cell.shared.db.hostClusters.rows.all fun hc =>
        hc.clusterId ≠ clusterId ∨ hc.hostId ≠ hostId ∨ hc.state ≠ .active ∨ x.awaited clusterId hostId = false
    | some (.markClusterPendingTeardownAllHosts clusterId) =>
      x.cell.shared.db.hostClusters.rows.all fun hc =>
        hc.clusterId ≠ clusterId ∨ hc.state ≠ .active ∨ x.awaited clusterId hc.hostId = false
    | some (.insertCluster row) => x.cell.shared.db.hostClusters.rows.all fun hc => hc.clusterId ≠ row.id
    | _ => true
  | _ => true

/-- **An ack matches its teardowns.** A membership row that it deletes is of a cluster whose teardown it confirms,
    and the teardown came after the row was last marked. -/
def AckMatches (settings : Settings) (x : Deployment) : DeploymentEvent → Prop
  | .ack hostId confirmed vmIds =>
    ∀ x', step settings x (.ack hostId confirmed vmIds) = some x' →
      ∀ hc ∈ x.cell.shared.db.hostClusters.rows, hc ∉ x'.cell.shared.db.hostClusters.rows →
        ∃ k ∈ x.cell.shared.db.clusters.rows, k.id = hc.clusterId ∧ (∃ t ∈ confirmed, t.vni = k.vni) ∧
          ∀ t ∈ confirmed, t.vni = k.vni → x.markedAt hc.clusterId hc.hostId < t.moment
  | _ => True

end Deployment

/-! ## What a call does to memberships -/

section Write

variable {db : Db} {w : Write}

/-- A membership that is marked after a call was so before, or was ACTIVE and the call marks it. -/
theorem Write.marked_exec {hc' : HostClusterRow} (h : hc' ∈ (w.exec db).1.hostClusters.rows)
    (hstate : hc'.state = .pendingTeardown) :
    (∃ hc ∈ db.hostClusters.rows, hc.clusterId = hc'.clusterId ∧ hc.hostId = hc'.hostId ∧
      hc.state = .pendingTeardown) ∨
    ∃ hc ∈ db.hostClusters.rows, hc.clusterId = hc'.clusterId ∧ hc.hostId = hc'.hostId ∧ hc.state = .active ∧
      (w = .markHostClusterPendingTeardown hc.clusterId hc.hostId ∨
        w = .markClusterPendingTeardownAllHosts hc.clusterId) := by
  revert h
  refine w.exec_elim db (fun h => .inl ⟨hc', h, rfl, rfl, hstate⟩) fun heff h => ?_
  cases heff with
  | reactivated =>
    obtain ⟨hc, hrow, rfl⟩ := mem_map.mp h
    split at hstate
    · cases hstate
    · rename_i hsel
      rw [if_neg hsel]
      exact .inl ⟨hc, hrow, rfl, rfl, hstate⟩
  | joined hins hfk =>
    rcases (Table.mem_insert hins).mp h with hrow | rfl
    · exact .inl ⟨hc', hrow, rfl, rfl, hstate⟩
    · cases hstate
  | markHostClusterPendingTeardown =>
    obtain ⟨hc, hrow, rfl⟩ := mem_map.mp h
    split
    · rename_i hsel
      obtain ⟨hcluster, hhost, -⟩ := of_decide_eq_true hsel
      cases hcs : hc.state with
      | active => exact .inr ⟨hc, hrow, rfl, rfl, hcs, .inl (by rw [hcluster, hhost])⟩
      | pendingTeardown => exact .inl ⟨hc, hrow, rfl, rfl, hcs⟩
    · rename_i hsel
      rw [if_neg hsel] at hstate
      exact .inl ⟨hc, hrow, rfl, rfl, hstate⟩
  | markClusterPendingTeardownAllHosts =>
    obtain ⟨hc, hrow, rfl⟩ := mem_map.mp h
    split
    · rename_i hsel
      have hcluster := of_decide_eq_true hsel
      cases hcs : hc.state with
      | active => exact .inr ⟨hc, hrow, rfl, rfl, hcs, .inr (by rw [hcluster])⟩
      | pendingTeardown => exact .inl ⟨hc, hrow, rfl, rfl, hcs⟩
    · rename_i hsel
      rw [if_neg hsel] at hstate
      exact .inl ⟨hc, hrow, rfl, rfl, hstate⟩
  | ackTombstones => exact .inl ⟨hc', (Db.mem_hostClusters_ackTombstones.mp h).1, rfl, rfl, hstate⟩
  | _ => exact .inl ⟨hc', h, rfl, rfl, hstate⟩

end Write

/-! ## Every confirmation outstanding is of the present teardown -/

/-- Marks are in the past, and a teardown that may still be confirmed came after its row was marked. -/
structure Deployment.Current (x : Deployment) : Prop where
  past : ∀ clusterId hostId, x.markedAt clusterId hostId < x.clock
  after : ∀ t ∈ x.confirmable, ∀ hc ∈ x.cell.shared.db.hostClusters.rows, hc.state = .pendingTeardown →
    hc.hostId = t.host → ∀ k ∈ x.cell.shared.db.clusters.rows, k.id = hc.clusterId → k.vni = t.vni →
    x.markedAt hc.clusterId hc.hostId < t.moment

namespace Deployment

variable {settings : Settings} {x x' : Deployment} {c : Cell}

theorem current_start (db : Db) : (start db).Current where
  past := fun _ _ => Nat.one_pos
  after := fun t ht => by cases ht

/-- A move keeps this if it marks no membership whose teardown may still be confirmed, and brings up no cluster
    that has memberships. -/
theorem Current.moved (h : x.Current)
    (hmarks : ∀ hc' ∈ c.shared.db.hostClusters.rows, hc'.state = .pendingTeardown →
      (∃ hc ∈ x.cell.shared.db.hostClusters.rows, hc.clusterId = hc'.clusterId ∧ hc.hostId = hc'.hostId ∧
        hc.state = .pendingTeardown) ∨ x.awaited hc'.clusterId hc'.hostId = false)
    (hclusters : ∀ k' ∈ c.shared.db.clusters.rows,
      (∃ k ∈ x.cell.shared.db.clusters.rows, k.id = k'.id ∧ k.vni = k'.vni) ∨
        ∀ hc' ∈ c.shared.db.hostClusters.rows, hc'.clusterId ≠ k'.id) : (x.moved c).Current where
  past := by
    intro clusterId hostId
    have hpast := h.past clusterId hostId
    simp only [Deployment.moved]
    split <;> omega
  after := by
    intro t ht hc' hrow' hstate hhost k' hk' hid hvni
    obtain ⟨k, hk, hid', hvni'⟩ | hnone := hclusters k' hk'
    · obtain ⟨hc, hrow, hcluster, hhost', hstate'⟩ | hfree := hmarks hc' hrow' hstate
      · -- the row was marked before, so its mark is the old one
        have hmarked : x.cell.shared.db.marked hc'.clusterId hc'.hostId = true :=
          any_eq_true.mpr ⟨hc, hrow, decide_eq_true ⟨hcluster, hhost', hstate'⟩⟩
        have hold := h.after t ht hc hrow hstate' (hhost'.trans hhost) k hk
          (by rw [hid', hid, hcluster]) (hvni'.trans hvni)
        simp only [Deployment.moved, hmarked, Bool.not_true, Bool.and_false, Bool.false_eq_true, if_false]
        rwa [hcluster, hhost'] at hold
      · -- a row that has just been marked awaits no confirmation
        exfalso
        have hyes : x.awaited hc'.clusterId hc'.hostId = true := by
          refine any_eq_true.mpr ⟨t, ht, decide_eq_true ⟨hhost.symm, ?_⟩⟩
          exact any_eq_true.mpr ⟨k, hk, decide_eq_true ⟨hid'.trans hid, hvni'.trans hvni⟩⟩
        rw [hfree] at hyes
        cases hyes
    · exact absurd hid.symm (hnone hc' hrow')

/-- What an event of the controller leaves of the database. -/
theorem db_of_step {c c' : Cell} {e : Event Activity} (h : (BasisCell.cell settings).Step c e c') :
    c'.shared.db = c.shared.db ∨ ∃ w, c.nextWrite e = some w ∧ c'.shared.db = (w.exec c.shared.db).1 := by
  cases h with
  | spawn _ | drop | crash => exact .inl rfl
  | @exec s pre post started t o k =>
    cases o with
    | query q => exact .inl rfl
    | write w => exact .inr ⟨w, Cell.nextWrite_of_nextOp Machine.nextOp_exec, rfl⟩
    | mem m => exact .inl (MemOp.exec_db s m)

theorem Current.same (h : x.Current) (hdb : c.shared.db = x.cell.shared.db) : (x.moved c).Current := by
  refine h.moved ?_ ?_
  · intro hc hrow hstate
    rw [hdb] at hrow
    exact .inl ⟨hc, hrow, rfl, rfl, hstate⟩
  · intro k hk
    rw [hdb] at hk
    exact .inl ⟨k, hk, rfl, rfl⟩

/-- The controller's own events keep every confirmation current, if they meet the condition. -/
theorem current_act {e : Event Activity} (h : x.Current) (hcond : x.unconfirmed (.act e) = true)
    (hstep : (BasisCell.cell settings).Step x.cell e c) : (x.moved c).Current := by
  obtain hdb | ⟨w, hw, hdb⟩ := db_of_step hstep
  · exact h.same hdb
  simp only [unconfirmed, hw] at hcond
  refine h.moved ?_ ?_
  · intro hc' hrow' hstate
    rw [hdb] at hrow'
    obtain hbefore | ⟨hc, hrow, hcluster, hhost, hactive, hcall⟩ := Write.marked_exec hrow' hstate
    · exact .inl hbefore
    · refine .inr ?_
      rw [← hcluster, ← hhost]
      rcases hcall with rfl | rfl
      · have hall := of_decide_eq_true (all_eq_true.mp hcond hc hrow)
        rcases hall with hne | hne | hne | hfree
        · exact absurd rfl hne
        · exact absurd rfl hne
        · exact absurd hactive hne
        · exact hfree
      · have hall := of_decide_eq_true (all_eq_true.mp hcond hc hrow)
        rcases hall with hne | hne | hfree
        · exact absurd rfl hne
        · exact absurd hactive hne
        · exact hfree
  · intro k' hk'
    rw [hdb] at hk'
    obtain ⟨k, hk, hsame⟩ | ⟨rfl, u, -⟩ := Write.clusters_exec hk'
    · exact .inl ⟨k, hk, hsame.id, congrArg (·.vni) hsame⟩
    · refine .inr ?_
      intro hc' hrow'
      rw [hdb] at hrow'
      have hrow : hc' ∈ x.cell.shared.db.hostClusters.rows := by
        revert hrow'
        refine Write.exec_elim (.insertCluster k') _ id fun heff hrow' => ?_
        cases heff with
        | insertCluster _ => exact hrow'
      exact of_decide_eq_true (all_eq_true.mp hcond hc' hrow)

/-! ## Acks -/

variable {hostId : HostId} {confirmed : List Teardown} {vmIds : List VmId} {now : Nat}

/-- The handler of an ack makes one database call and returns. -/
theorem body_tombstoneAck : (ackMessage hostId confirmed vmIds now).body settings =
    .call (.write (.ackTombstones hostId (confirmed.map (·.vni)) vmIds)) fun _ => .ret (.ok .handled) := rfl

theorem db_of_ack {c c' : Cell}
    (h : (BasisCell.cell settings).run c
      [.spawn (ackMessage hostId confirmed vmIds now), .step c.tasks.length] = some c') :
    c'.shared.db = c.shared.db.ackTombstones hostId (confirmed.map (·.vni)) vmIds := by
  simp only [Transition.run, Machine.step] at h
  split at h
  · simp only [Option.bind_some, List.getElem?_concat_length, BasisCell.cell, body_tombstoneAck] at h
    cases h
    rfl
  · cases h

theorem current_ack {vnis : List Nat} (h : x.Current)
    (hdb : c.shared.db = x.cell.shared.db.ackTombstones hostId vnis vmIds) : (x.moved c).Current := by
  have hexec : ((Write.ackTombstones hostId vnis vmIds).exec x.cell.shared.db).1 = c.shared.db := by
    rw [hdb]
    rfl
  refine h.moved ?_ ?_
  · intro hc hrow hstate
    rw [hdb] at hrow
    exact .inl ⟨hc, (Db.mem_hostClusters_ackTombstones.mp hrow).1, rfl, rfl, hstate⟩
  · intro k' hk'
    rw [← hexec] at hk'
    obtain ⟨k, hk, hsame⟩ | ⟨hw, -⟩ := Write.clusters_exec hk'
    · exact .inl ⟨k, hk, hsame.id, congrArg (·.vni) hsame⟩
    · cases hw

/-- **One event** keeps every confirmation current. -/
theorem current_step {e : DeploymentEvent} (h : x.Current) (hcond : x.unconfirmed e = true)
    (hstep : step settings x e = some x') : x'.Current := by
  cases e with
  | act e =>
    simp only [step] at hstep
    split at hstep
    · cases hstep
    · obtain ⟨c, hc, rfl⟩ := Option.map_eq_some_iff.mp hstep
      exact current_act h hcond (Machine.step_cases hc)
  | materialise hostId vni =>
    simp only [step] at hstep
    split at hstep <;> cases hstep
    exact ⟨fun k host => Nat.lt_succ_of_lt (h.past k host), h.after⟩
  | teardown hostId vni =>
    simp only [step] at hstep
    split at hstep <;> cases hstep
    refine ⟨fun k host => Nat.lt_succ_of_lt (h.past k host), ?_⟩
    intro t ht hc hrow hstate hhost k hk hid hvni
    rcases mem_cons.mp ht with rfl | ht
    · -- the new teardown comes after every mark
      exact h.past hc.clusterId hc.hostId
    · exact h.after t ht hc hrow hstate hhost k hk hid hvni
  | ack hostId confirmed vmIds =>
    simp only [step] at hstep
    split at hstep
    · obtain ⟨c, hc, rfl⟩ := Option.map_eq_some_iff.mp hstep
      exact current_ack h (db_of_ack hc)
    · cases hstep
  | settle t =>
    cases hstep
    refine ⟨fun k host => Nat.lt_succ_of_lt (h.past k host), ?_⟩
    intro t' ht'
    exact h.after t' (mem_filter.mp ht').1

/-- Where every confirmation is current, an ack matches its teardowns. -/
theorem ackMatches_of_current {e : DeploymentEvent} (h : x.Current) : x.AckMatches settings e := by
  cases e with
  | ack hostId confirmed vmIds =>
    intro x' hstep hc hrow hgone
    simp only [step] at hstep
    split at hstep
    · rename_i hguard
      obtain ⟨c, hrun, rfl⟩ := Option.map_eq_some_iff.mp hstep
      have hdb : c.shared.db = x.cell.shared.db.ackTombstones hostId (confirmed.map (·.vni)) vmIds :=
        db_of_ack hrun
      -- the row was marked, and the ack names the VNI of its cluster
      have hdrop : hc.hostId = hostId ∧ hc.state = .pendingTeardown ∧
          ∃ k ∈ x.cell.shared.db.clusters.rows, k.vni ∈ confirmed.map (·.vni) ∧ k.id = hc.clusterId := by
        by_contra hkeep
        apply hgone
        show hc ∈ c.shared.db.hostClusters.rows
        rw [hdb]
        exact Db.mem_hostClusters_ackTombstones.mpr ⟨hrow, hkeep⟩
      obtain ⟨hhost, hstate, k, hk, hnamed, hid⟩ := hdrop
      obtain ⟨t, ht, hvni⟩ := mem_map.mp hnamed
      refine ⟨k, hk, hid, ⟨t, ht, hvni⟩, ?_⟩
      intro t' ht' hvni'
      obtain ⟨hin, hown⟩ := hguard t' ht'
      exact h.after t' hin hc hrow hstate (hhost.trans hown.symm) k hk hid hvni'.symm
    · cases hstep
  | _ => trivial

end Deployment

/-- **Acks match the teardowns they confirm**, in every history in which no membership is marked while an earlier
    teardown of it may still be confirmed. -/
theorem acks_confirm (settings : Settings) (db : Db) (es : List DeploymentEvent)
    (hal : Along (Deployment.step settings) (fun x e => x.unconfirmed e = true) (Deployment.start db)
      es) :
    Along (Deployment.step settings) (fun x e => x.AckMatches settings e) (Deployment.start db) es :=
  along_of_invariant (J := Deployment.Current)
    (fun h hcond hstep => Deployment.current_step h hcond hstep)
    (fun h _ => Deployment.ackMatches_of_current h) (Deployment.current_start db) hal

/-- A machine comes and goes, and the node tears its network down. -/
def torndown : List DeploymentEvent :=
  (upToWaiting ++ ranAndDeleted).map .act ++ [.teardown "h1" 10000]

/-- Then its ack completes the teardown. -/
theorem acks_confirm_torndown :
    ((run (Deployment.step smallCell) (Deployment.start (Db.create id))
      (torndown ++ [.ack "h1" [⟨"h1", 10000, 59⟩] ["v1"]])).any
        fun x => x.cell.shared.db.hostClusters.rows = []) = true ∧
    Along (Deployment.step smallCell) (fun x e => x.AckMatches smallCell e)
      (Deployment.start (Db.create id)) (torndown ++ [.ack "h1" [⟨"h1", 10000, 59⟩] ["v1"]]) :=
  ⟨by decide +kernel, acks_confirm smallCell (Db.create id) _ (by decide +kernel)⟩

/-- Before the ack arrives, a second machine brings the network back, and goes too. -/
def broughtBack : List DeploymentEvent :=
  torndown ++
  (.spawn (createWorkerAs "worker2" "v2") :: steps 5 21 ++ .spawn (reportRunning "v2") :: steps 6 5 ++
    steps 5 2).map .act ++
  .materialise "h1" 10000 :: (.spawn (.deleteMachine "v2") :: steps 7 9).map .act

/-- **An ack outlives its teardown.** The row was marked again at event 94, and the ack of the teardown of event 59
    deletes it; the bridge of the second machine is still there, and nothing in the database asks for its
    teardown. -/
theorem ack_outlived : ∃ x x' : Deployment,
    run (Deployment.step smallCell) (Deployment.start (Db.create id)) broughtBack = some x ∧
    run (Deployment.step smallCell) (Deployment.start (Db.create id))
      (broughtBack ++ [.ack "h1" [⟨"h1", 10000, 59⟩] []]) = some x' ∧
    x.cell.shared.db.marked "c0" "h1" = true ∧ x.markedAt "c0" "h1" = 94 ∧
    x'.cell.shared.db.hostClusters.rows = [] ∧ ("h1", 10000) ∈ x'.bridges := by
  refine ⟨_, _, run_eq_after (by decide +kernel), run_eq_after (by decide +kernel), ?_⟩
  decide +kernel

end BasisCell
