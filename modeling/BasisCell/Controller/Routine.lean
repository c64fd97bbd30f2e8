import BasisCell.Controller.Text

/-!
# `BasisCell.Controller.Routine` — protocols that watch a few fragments of the handlers

Some protocols take notice of a few operations only, which occur together in one place of the text: the
election of a LAN-VIP owner inside `build_reconcile_command`, the host row that a registration writes, or the
epoch that it mints and puts into the agents map. To such a protocol every activity is a long idle phase with
these fragments in it.
`Routine` says what has to be shown, and `Routine.stays_body` follows the text of all handlers once, for any
such protocol.
-/

namespace BasisCell

open Conc Conc.Protocol

variable {Ph α : Type} {P : Protocol Op Op.Resp Ph} {a : Ph} {settings : Settings}

/-- In phase `a` the protocol ignores plain operations, and the fragments return to `a`. -/
structure Routine (settings : Settings) (P : Protocol Op Op.Resp Ph) (a : Ph) : Prop where
  plain : ∀ o : Op, o.plain = true → P.allows a o ∧ ∀ r, P.next a o r = a
  elects : ∀ membership, P.Stays a (carriedState settings membership)
  hosts : ∀ register newId now, P.Stays a (registerOrLookupHost register newId now)
  registers : ∀ {α : Type} (hostId : HostId) (channel : Nat) {k : Nat → Unit → Handler α},
    (∀ epoch, P.Stays a (k epoch ())) → P.Stays a (.call (.mem .nextAgentEpoch) fun epoch =>
      .call (.mem (.agentsInsert hostId ⟨channel, epoch⟩)) (k epoch))

/-- A protocol that ignores host rows ignores what a registration does with them. -/
theorem stays_registerOrLookupHost_of {register : RegisterHostRequest} {newId : HostId} {now : Nat}
    (h : ∀ o : Op, o.plain = true ∨ (∃ host, o = .write (.upsertHost host)) →
      P.allows a o ∧ ∀ r, P.next a o r = a) : P.Stays a (registerOrLookupHost register newId now) := by
  refine stays_call (h _ (.inl rfl)).1 (h _ (.inl rfl)).2 fun existing => ?_
  refine stays_call (h _ (.inr ⟨_, rfl⟩)).1 (h _ (.inr ⟨_, rfl⟩)).2 fun upserted => ?_
  cases upserted <;> rfl

namespace Routine

variable {hostId : HostId} {clusterId : ClusterId} (h : Routine settings P a)

include h

theorem call {o : Op} {k : o.Resp → Handler α} (ho : o.plain = true)
    (hk : ∀ r, P.Stays a (k r)) : P.Stays a (.call o k) :=
  stays_call (h.plain o ho).1 (h.plain o ho).2 hk

/-! ### Reconcile commands -/

variable {cluster : ClusterRow} {vmId : VmId} {req : CreateMachineRequest}
    {picks : Picks} {register : RegisterHostRequest} {now : Nat}

theorem reconciles : Reconciles settings P a := ⟨fun o _ ho => h.plain o ho, h.elects⟩

theorem stays_cleanupFailedVm : P.Stays a (cleanupFailedVm settings vmId clusterId hostId) :=
  h.call rfl fun _ => h.call rfl fun _ => h.call rfl fun _ => h.reconciles.stays_pushReconcile

/-! ### Machines -/

theorem stays_placeVm (n : Nat) : P.Stays a (placeVm req vmId cluster picks n) := by
  have try_place : ∀ pick, P.Stays a (tryPlaceVm req vmId cluster pick) := by
    intro pick
    cases pick with
    | error status => rfl
    | ok decision =>
      refine h.call rfl fun allocated => ?_
      cases allocated with
      | error e => rfl
      | ok ip =>
        refine h.call rfl fun inserted => ?_
        cases inserted with
        | ok _ => rfl
        | error e => exact h.call rfl fun _ => rfl
  induction n with
  | zero => rfl
  | succ n ih =>
    refine (try_place _).bind fun placed => ?_
    cases placed with
    | ok placement => rfl
    | error e =>
      cases e with
      | raced _ | hostGone _ => exact ih
      | noCapacity _ | internal _ => rfl
      | nameConflict =>
        refine h.call rfl fun existing => ?_
        cases existing <;> rfl

theorem stays_awaitAgent {vm : VmRow} : P.Stays a (awaitAgent settings vm clusterId) := by
  refine h.call rfl fun outcome => ?_
  cases outcome with
  | resolved result =>
    cases result with
    | ok _ =>
      refine h.call rfl fun row => ?_
      cases row <;> rfl
    | error failure =>
      refine h.stays_cleanupFailedVm.bind fun _ => ?_
      split <;> rfl
  | recvError => exact h.stays_cleanupFailedVm.bind fun _ => rfl
  | elapsed => exact h.call rfl fun _ => h.call rfl fun _ => rfl

theorem stays_dispatchVm {placement : Placement} {gateway : Ipv4Addr} {agent : ConnectedAgent} :
    P.Stays a (dispatchVm settings req cluster placement gateway agent) := by
  refine h.call rfl fun _ => h.call rfl fun queued => ?_
  cases queued with
  | error e => exact h.call rfl fun _ => h.stays_cleanupFailedVm.bind fun _ => rfl
  | ok outboxId =>
    refine h.call rfl fun sent => ?_
    cases sent with
    | true => exact h.call rfl fun _ => h.stays_awaitAgent
    | false => exact h.call rfl fun _ => h.stays_cleanupFailedVm.bind fun _ => rfl

theorem stays_createMachine : P.Stays a (createMachine settings req vmId picks) := by
  unfold createMachine
  split
  · rfl
  refine h.call rfl fun found => ?_
  cases found with
  | error e => rfl
  | ok cluster =>
    refine h.call rfl fun existing => ?_
    cases existing with
    | some vm => rfl
    | none =>
      refine (h.stays_placeVm _).bind fun placed => ?_
      cases placed with
      | error early => rfl
      | ok placement =>
        refine h.call rfl fun joined => ?_
        cases joined with
        | error e => exact h.stays_cleanupFailedVm.bind fun _ => rfl
        | ok gateway =>
          refine h.reconciles.stays_broadcastCluster.bind fun _ => h.call rfl fun agent => ?_
          cases agent with
          | none => exact h.stays_cleanupFailedVm.bind fun _ => rfl
          | some agent => exact h.stays_dispatchVm

theorem stays_deleteMachine : P.Stays a (deleteMachine settings vmId) := by
  refine h.call rfl fun found => ?_
  cases found with
  | error e => cases e <;> rfl
  | ok vm =>
    dsimp only [Prog.bind]
    split
    · refine Stays.bind (p := initiateVmTeardown settings vm) ?_ fun torn => ?_
      · refine h.call rfl fun marked => ?_
        cases marked with
        | error e => rfl
        | ok _ =>
          refine h.call rfl fun left => ?_
          cases left with
          | error e => rfl
          | ok _ => exact h.reconciles.stays_pushReconcile.bind fun _ => rfl
      · cases torn <;> rfl
    · exact h.reconciles.stays_pushReconcile.bind fun _ => rfl

/-! ### Clusters -/

theorem stays_provisionCluster {req : CreateClusterRequest}
    {visibility : ApiserverVisibility} {pool : Pool} {count : Nat} :
    P.Stays a (provisionCluster settings req visibility pool count clusterId) := by
  have commit : ∀ row, P.Stays a (commitCluster settings req row) := by
    intro row
    refine h.call rfl fun inserted => ?_
    cases inserted with
    | ok _ => rfl
    | error e =>
      cases e with
      | conflict _ =>
        refine h.call rfl fun _ => h.call rfl fun existing => ?_
        cases existing <;> rfl
      | _ => exact h.call rfl fun _ => rfl
  refine h.call rfl fun picked => ?_
  cases picked with
  | error e => rfl
  | ok network =>
    refine Stays.bind (p := allocateApiserverVip visibility pool network clusterId) ?_ fun vip => ?_
    · cases visibility with
      | apiserverPublic => exact h.call rfl fun _ => rfl
      | apiserverPrivate =>
        refine h.call rfl fun reserved => ?_
        cases reserved <;> rfl
    cases vip with
    | error e => exact h.call rfl fun _ => rfl
    | ok endpoint =>
      refine Stays.bind (p := allocateServiceBlock pool clusterId count) ?_ fun block => ?_
      · unfold allocateServiceBlock
        split
        · rfl
        · refine h.call rfl fun allocated => ?_
          cases allocated <;> rfl
      cases block with
      | error e => exact h.call rfl fun _ => rfl
      | ok block => exact commit _

theorem stays_createCluster {req : CreateClusterRequest}
    {ids : RoundIds} :
    P.Stays a (createCluster settings req ids) := by
  have loop : ∀ visibility pool count rest,
      P.Stays a (provisionLoop settings req visibility pool count rest) := by
    intro visibility pool count rest
    induction rest with
    | nil => rfl
    | cons id rest ih =>
      refine h.stays_provisionCluster.bind fun round => ?_
      cases round with
      | some result => rfl
      | none => exact ih
  unfold createCluster
  split
  · rfl
  split
  · rfl
  dsimp only
  split
  · rfl
  split
  · rfl
  refine h.call rfl fun existing => ?_
  cases existing with
  | none => exact loop _ _ _ _
  | some row =>
    show P.Stays a (returnExistingCluster settings req row)
    unfold returnExistingCluster
    split
    · refine h.call rfl fun updated => ?_
      cases updated with
      | error e => rfl
      | ok _ => exact h.reconciles.stays_broadcastCluster.bind fun _ => rfl
    · rfl

theorem stays_deleteCluster : P.Stays a (deleteCluster settings clusterId) := by
  refine h.call rfl fun found => ?_
  cases found with
  | error e => cases e <;> rfl
  | ok row =>
    refine h.call rfl fun vms => (stays_forEach fun _ _ => ?_).bind fun _ => h.call rfl fun marked => ?_
    · exact h.call rfl fun _ => rfl
    cases marked with
    | error e => rfl
    | ok hosts => exact (stays_forEach fun _ _ => h.reconciles.stays_pushReconcile).bind fun _ => rfl

/-! ### Agent streams -/

theorem stays_initialState : P.Stays a (initialState settings register hostId) := by
  have extend : ∀ inventory cmd, P.Stays a (extendWithOrphanTombstones settings hostId inventory cmd) := by
    intro inventory cmd
    refine (stays_filterEach fun v _ => h.call rfl fun row => ?_).bind fun orphans => ?_
    · cases row <;> rfl
    · refine h.call rfl fun active => h.call rfl fun pending => ?_
      dsimp only
      split <;> rfl
  have reap : ∀ inventory, P.Stays a (reapDbOrphansFromInventory settings hostId inventory) := by
    intro inventory
    refine h.call rfl fun vms => h.call rfl fun pending => ?_
    dsimp only [Prog.bind]
    split
    · refine Stays.bind (stays_forEach fun _ _ => h.stays_cleanupFailedVm) fun _ => ?_
      split
      · exact h.call rfl fun _ => rfl
      · rfl
    · rfl
  refine h.reconciles.stays_buildReconcileCommand.bind fun built => ?_
  cases built with
  | error e => rfl
  | ok cmd =>
    dsimp only
    split
    · rfl
    · refine (extend _ _).bind fun _ => (reap _).bind fun reaped => ?_
      cases reaped with
      | error e => rfl
      | ok _ =>
        refine h.reconciles.stays_buildReconcileCommand.bind fun rebuilt => ?_
        cases rebuilt with
        | error e => rfl
        | ok cmd => exact (extend _ _).bind fun _ => rfl

theorem stays_streamMessages : P.Stays a (streamMessages settings register hostId now) := by
  have replay : ∀ channel pending, P.Stays a (replayOutbox channel pending) := by
    intro channel pending
    induction pending with
    | nil => rfl
    | cons entry rest ih =>
      refine h.call rfl fun sent => ?_
      cases sent with
      | true => exact h.call rfl fun _ => ih
      | false => rfl
  refine (h.hosts _ _ _).bind fun registered => ?_
  cases registered with
  | error e => rfl
  | ok id =>
    refine h.call rfl fun channel => h.stays_initialState.bind fun state => ?_
    cases state with
    | error e => rfl
    | ok cmd =>
      refine h.call rfl fun sent => ?_
      cases sent with
      | true =>
        exact h.registers _ _ fun _ => h.call rfl fun _ => (replay _ _).bind fun _ => rfl
      | false => rfl

theorem stays_handleAgentMessage {msg : AgentMessage} : P.Stays a (handleAgentMessage hostId msg now) := by
  have resolve : ∀ report state, P.Stays a (resolveReport hostId report state) := by
    intro report state
    refine h.call rfl fun waiting => ?_
    dsimp only [Prog.bind]
    split
    · rfl
    · exact h.call rfl fun _ => h.call rfl fun _ => rfl
  cases msg with
  | heartbeat capacity | tombstoneAck vnis vmIds => exact h.call rfl fun _ => rfl
  | diskAssignment assignment =>
    cases assignment with
    | none => rfl
    | some a => exact h.call rfl fun _ => rfl
  | register r | empty => rfl
  | vmState report =>
    have finish : P.Stays a (settleReport hostId report) := by
      unfold settleReport
      split
      · exact (resolve _ _).bind fun _ => rfl
      · rfl
    refine h.call rfl fun found => ?_
    cases found with
    | error e => cases e <;> rfl
    | ok prev =>
      dsimp only [Prog.bind]
      split
      · rfl
      · split
        · refine h.call rfl fun updated => ?_
          cases updated with
          | error e => rfl
          | ok _ => exact finish
        · exact finish

/-- **Every activity, from beginning to end.** -/
theorem stays_body (t : Activity) : P.Stays a (t.body settings) := by
  cases t with
  | createMachine req vmId picks => exact h.stays_createMachine
  | deleteMachine vmId => exact h.stays_deleteMachine
  | createCluster req ids => exact h.stays_createCluster
  | deleteCluster clusterId => exact h.stays_deleteCluster
  | streamMessages register newHostId now => exact h.stays_streamMessages
  | agentMessage hostId msg now =>
    refine h.stays_handleAgentMessage.bind fun handled => ?_
    cases handled <;> rfl
  | reconcileTick hostId channel =>
    refine h.reconciles.stays_buildReconcileCommand.bind fun built => ?_
    cases built with
    | error e => rfl
    | ok cmd => exact h.call rfl fun _ => rfl
  | hostHealthTick cutoff =>
    refine h.call rfl fun stale => ?_
    cases stale with
    | error e => rfl
    | ok hosts =>
      refine (stays_forEach fun _ _ => ?_).bind fun _ => rfl
      exact h.call rfl fun _ => rfl
  | streamEnded hostId epoch =>
    refine h.call rfl fun removed => ?_
    cases removed with
    | true =>
      refine h.call rfl fun stale => (stays_forEach fun _ _ => ?_).bind fun _ => rfl
      exact h.call rfl fun _ => rfl
    | false => rfl
  | channelClosed channel => exact h.call rfl fun _ => rfl

end Routine

end BasisCell
