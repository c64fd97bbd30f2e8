import BasisCell.Controller.Routine
import BasisCell.Controller.Effects

/-!
# `BasisCell.Controller.Election` — the owner of a cluster's LAN VIPs

Every reconcile command that names a carried cluster may elect the cluster's LAN-VIP owner: it reads the
carriers, then the recorded owner, and if the owner is not among the carriers it records the first of them.
These are three calls. What was read can be out of date when the new owner is recorded, since a host may have
become a carrier, or another election may have recorded one, in between.

`Ballot` says how far an election has come. `ballots_govern` follows the text of all handlers: owners are
recorded by elections and nowhere else. If while an election is under way nothing gives its cluster a new
carrier or a new owner (`Cell.undisturbed`), then a recorded owner is replaced only after it has stopped
being a carrier (`ownership_sticky`). `owner_replaced` is a run in which an owner loses its place although it
is healthy and a member.
-/

namespace BasisCell

open Conc Conc.Protocol Relational Table List

/-! ## How far an election has come -/

inductive Ballot where
  /-- No election is under way. -/
  | idle
  /-- The carriers of a cluster were read. -/
  | listed (clusterId : ClusterId) (carriers : List HostId)
  /-- The recorded owner is not among them. -/
  | vacant (clusterId : ClusterId) (carriers : List HostId)

namespace Ballot

/-- An election under way does nothing else. -/
inductive Allows : Ballot → Op → Prop
  | other {o : Op} (h : ∀ clusterId hostId, o ≠ .write (.setLanVipOwner clusterId hostId)) : Allows .idle o
  | owner {clusterId carriers} : Allows (.listed clusterId carriers) (.query (.lanVipOwner clusterId))
  | record {clusterId carriers hostId} :
      Allows (.vacant clusterId carriers) (.write (.setLanVipOwner clusterId hostId))

def next : Ballot → (o : Op) → o.Resp → Ballot
  | .idle, .query (.listActiveCarriers clusterId), carriers => .listed clusterId carriers
  | .listed clusterId carriers, .query (.lanVipOwner _), prev =>
    if prev.filter (· ∈ carriers) = none ∧ carriers ≠ [] then .vacant clusterId carriers else .idle
  | _, _, _ => .idle

end Ballot

def voting : Protocol Op Op.Resp Ballot := ⟨Ballot.Allows, Ballot.next⟩

/-- All activities vote alike. -/
def ballots : Discipline Activity Op Op.Resp (Except Status Reply) Ballot where
  protocol := fun _ => voting
  start := fun _ => .idle
  ends := fun _ g _ => g = .idle

/-! ## Owners are recorded by elections only -/

/-- The calls that no election makes. -/
def Op.offBallot : Op → Bool
  | .query (.listActiveCarriers _) => false
  | .query (.lanVipOwner _) => false
  | .write (.setLanVipOwner _ _) => false
  | _ => true

section Follows

variable {settings : Settings} {hostId : HostId} {clusterId : ClusterId} {α : Type} {o : Op}

theorem ignores_off (ho : o.offBallot = true) : voting.allows .idle o ∧ ∀ r, voting.next .idle o r = .idle := by
  refine ⟨.other fun _ _ h => ?_, fun r => ?_⟩
  · subst h
    cases ho
  · show Ballot.idle.next o r = .idle
    unfold Ballot.next
    split <;> first | rfl | contradiction

theorem stays_off {k : o.Resp → Handler α} (ho : o.offBallot = true) (hk : ∀ r, voting.Stays .idle (k r)) :
    voting.Stays .idle (.call o k) :=
  stays_call (ignores_off ho).1 (ignores_off ho).2 hk

theorem votes_electLanVipOwner {carriers : List HostId} :
    voting.Follows (fun g _ => g = .idle) (electLanVipOwner clusterId carriers) (.listed clusterId carriers) := by
  refine ⟨.owner, fun prev => ?_⟩
  show voting.Follows _ _ (if _ then _ else _)
  cases hkeep : prev.filter (· ∈ carriers) with
  | some owner =>
    rw [if_neg fun h => nomatch h.1]
    dsimp only [Prog.bind]
    rw [hkeep]
    rfl
  | none =>
    dsimp only [Prog.bind]
    rw [hkeep]
    cases carriers with
    | nil => rfl
    | cons newOwner rest =>
      rw [if_pos ⟨rfl, cons_ne_nil _ _⟩]
      refine ⟨.record, fun recorded => ?_⟩
      cases recorded <;> rfl

theorem stays_carriedState {membership : HostClusterMembership} :
    voting.Stays .idle (carriedState settings membership) := by
  unfold carriedState
  dsimp only
  split
  · rfl
  · rfl
  · refine ⟨.other nofun, fun carriers => votes_electLanVipOwner.bind fun g elected hg => ?_⟩
    subst hg
    cases elected with
    | error e => rfl
    | ok owner => exact stays_off rfl fun _ => rfl

theorem voting_routine (settings : Settings) : Routine settings voting .idle := by
  have plain : ∀ o : Op, o.plain = true → o.offBallot = true := by
    intro o ho
    unfold Op.offBallot
    split <;> first | rfl | cases ho
  refine ⟨fun o ho => ignores_off (plain o ho), fun _ => stays_carriedState, fun _ _ _ => ?_, fun _ _ _ hk => ?_⟩
  · refine stays_registerOrLookupHost_of fun o ho => ignores_off ?_
    rcases ho with ho | ⟨host, rfl⟩
    · exact plain o ho
    · rfl
  · exact stays_off rfl fun epoch => stays_off rfl fun _ => hk epoch

/-- **Every activity elects as `elect_lan_vip_owner` does, or not at all.** -/
theorem ballots_govern (settings : Settings) : ballots.Governs (cell settings) :=
  (voting_routine settings).stays_body

end Follows

/-! ## Carriers and owners under one call -/

namespace Db

/-- The host has an ACTIVE membership in the cluster. -/
def ActiveIn (db : Db) (clusterId : ClusterId) (hostId : HostId) : Prop :=
  ∃ hc ∈ db.hostClusters.rows, hc.clusterId = clusterId ∧ hc.hostId = hostId ∧ hc.state = .active

instance (db : Db) (clusterId : ClusterId) (hostId : HostId) : Decidable (db.ActiveIn clusterId hostId) :=
  inferInstanceAs (Decidable (∃ hc ∈ db.hostClusters.rows, _))

def Healthy (db : Db) (hostId : HostId) : Prop := ∃ h ∈ db.hosts.rows, h.id = hostId ∧ h.healthy = true

instance (db : Db) (hostId : HostId) : Decidable (db.Healthy hostId) :=
  inferInstanceAs (Decidable (∃ h ∈ db.hosts.rows, _))

/-- A healthy host with an ACTIVE membership in the cluster. -/
def Carries (db : Db) (clusterId : ClusterId) (hostId : HostId) : Prop :=
  db.ActiveIn clusterId hostId ∧ db.Healthy hostId

instance (db : Db) (clusterId : ClusterId) (hostId : HostId) : Decidable (db.Carries clusterId hostId) :=
  inferInstanceAs (Decidable (_ ∧ _))

variable {db : Db} {clusterId : ClusterId} {hostId : HostId}

theorem mem_listActiveCarriers : hostId ∈ db.listActiveCarriers clusterId ↔ db.Carries clusterId hostId := by
  unfold listActiveCarriers Carries
  rw [mem_insertionSort, mem_map]
  constructor
  · rintro ⟨hc, hmem, rfl⟩
    obtain ⟨hrow, hsel⟩ := mem_filter.mp hmem
    obtain ⟨hcluster, hstate, hhost⟩ := of_decide_eq_true hsel
    exact ⟨⟨hc, hrow, hcluster, rfl, hstate⟩, hhost⟩
  · rintro ⟨⟨hc, hrow, hcluster, rfl, hstate⟩, hhost⟩
    exact ⟨hc, mem_filter.mpr ⟨hrow, decide_eq_true ⟨hcluster, hstate, hhost⟩⟩, rfl⟩

theorem lanVipOwner_eq_some : db.lanVipOwner clusterId = some hostId ↔
    (⟨clusterId, hostId⟩ : ClusterLanVipOwner) ∈ db.clusterLanVipOwners.rows := by
  have hkey : ∀ a b : ClusterLanVipOwner, decide (a.clusterId = clusterId) = true →
      decide (b.clusterId = clusterId) = true → Schema.Clash a b := fun a b ha hb =>
    (of_decide_eq_true ha).trans (of_decide_eq_true hb).symm
  unfold lanVipOwner
  rw [Option.map_eq_some_iff]
  constructor
  · rintro ⟨row, hfind, rfl⟩
    obtain ⟨hrow, hcluster⟩ := (find_eq_some hkey).mp hfind
    rwa [← of_decide_eq_true hcluster]
  · intro hrow
    exact ⟨_, (find_eq_some hkey).mpr ⟨hrow, decide_eq_true rfl⟩, rfl⟩

theorem owners_ackTombstones {vnis : List Nat} {vmIds : List VmId} {o : ClusterLanVipOwner}
    (h : o ∈ (db.ackTombstones hostId vnis vmIds).clusterLanVipOwners.rows) :
    o ∈ db.clusterLanVipOwners.rows := by
  have loop : ∀ (vnis : List Nat) (db : Db), o ∈ (vnis.foldl (ackVni hostId) db).clusterLanVipOwners.rows →
      o ∈ db.clusterLanVipOwners.rows := by
    intro vnis
    induction vnis with
    | nil => exact fun _ h => h
    | cons vni rest ih =>
      intro db h
      have h := ih _ h
      obtain ⟨-, heq⟩ | ⟨c, -, -, ⟨-, heq⟩ | ⟨-, heq⟩⟩ := ackVni_cases hostId db vni
      · rwa [heq] at h
      · rw [heq] at h
        exact (mem_delete.mp h).1
      · rwa [heq] at h
  have h := loop vnis _ h
  rwa [foldl_ackVm] at h

end Db

namespace Write

variable {db : Db} {w : Write} {clusterId : ClusterId} {hostId : HostId}

/-- Would the call record an owner of the cluster, or make a host a carrier of it that is none now? -/
def disturbs (db : Db) (clusterId : ClusterId) : Write → Bool
  | .setLanVipOwner c _ => c = clusterId
  | .ensureHostClusterActive cluster hostId => cluster.id = clusterId ∧ ¬db.Carries clusterId hostId
  | .upsertHost host => db.ActiveIn clusterId host.id ∧ ¬db.Carries clusterId host.id
  | .recordHeartbeat hostId _ _ _ => db.ActiveIn clusterId hostId ∧ ¬db.Carries clusterId hostId
  | _ => false

/-- Who has an ACTIVE membership after a call, had one before, or has just got it. -/
theorem activeIn_exec (h : (w.exec db).1.ActiveIn clusterId hostId) :
    db.ActiveIn clusterId hostId ∨ ∃ cluster : ClusterRow, cluster.id = clusterId ∧
      w = .ensureHostClusterActive cluster hostId := by
  obtain ⟨hc', hmem, rfl, rfl, hstate⟩ := h
  revert hmem
  refine w.exec_elim db (fun hmem => .inl ⟨hc', hmem, rfl, rfl, hstate⟩) fun heff hmem => ?_
  -- rows that a marking call leaves ACTIVE were not marked
  have unmarked : ∀ {p : HostClusterRow → Bool},
      hc' ∈ (db.hostClusters.rows.map fun hc => if p hc then { hc with state := .pendingTeardown } else hc) →
      db.ActiveIn hc'.clusterId hc'.hostId := by
    intro p hmem
    obtain ⟨hc, hrow, rfl⟩ := mem_map.mp hmem
    split at hstate
    · cases hstate
    · rename_i hp
      rw [if_neg hp]
      exact ⟨hc, hrow, rfl, rfl, hstate⟩
  cases heff with
  | @reactivated cluster host ip =>
    obtain ⟨hc, hrow, rfl⟩ := mem_map.mp hmem
    split
    · rename_i hsel
      obtain ⟨hcluster, hhost⟩ := of_decide_eq_true hsel
      exact .inr ⟨cluster, hcluster.symm, by rw [← hhost]⟩
    · rename_i hsel
      rw [if_neg hsel] at hstate
      exact .inl ⟨hc, hrow, rfl, rfl, hstate⟩
  | joined hins hfk =>
    rcases (mem_insert hins).mp hmem with hrow | rfl
    · exact .inl ⟨hc', hrow, rfl, rfl, hstate⟩
    · exact .inr ⟨_, rfl, rfl⟩
  | markHostClusterPendingTeardown | markClusterPendingTeardownAllHosts => exact .inl (unmarked hmem)
  | ackTombstones => exact .inl ⟨hc', (Db.mem_hostClusters_ackTombstones.mp hmem).1, rfl, rfl, hstate⟩
  | _ => exact .inl ⟨hc', hmem, rfl, rfl, hstate⟩

/-- Who is healthy after a call, was so before, or has just registered or sent a heartbeat. -/
theorem healthy_exec (h : (w.exec db).1.Healthy hostId) : db.Healthy hostId ∨
    (∃ host : HostRow, host.id = hostId ∧ w = .upsertHost host) ∨
      ∃ now capacity pools, w = .recordHeartbeat hostId now capacity pools := by
  obtain ⟨row, hmem, rfl, hhealthy⟩ := h
  revert hmem
  refine w.exec_elim db (fun hmem => .inl ⟨row, hmem, rfl, hhealthy⟩) fun heff hmem => ?_
  cases heff with
  | upsertHost hins =>
    rcases (mem_insert hins).mp hmem with hrow | rfl
    · exact .inl ⟨row, (mem_delete.mp hrow).1, rfl, hhealthy⟩
    · exact .inr (.inl ⟨_, rfl, rfl⟩)
  | recordHeartbeat =>
    obtain ⟨row, hrow, rfl⟩ := mem_map.mp hmem
    split
    · rename_i hsel
      have hid : row.id = _ := of_decide_eq_true hsel
      exact .inr (.inr ⟨_, _, _, by rw [← hid]; rfl⟩)
    · rename_i hsel
      rw [if_neg hsel] at hhealthy
      exact .inl ⟨row, hrow, rfl, hhealthy⟩
  | markStaleHostsUnhealthy =>
    obtain ⟨row, hrow, rfl⟩ := mem_map.mp hmem
    split at hhealthy
    · cases hhealthy
    · rename_i hsel
      rw [if_neg hsel]
      exact .inl ⟨row, hrow, rfl, hhealthy⟩
  | ackTombstones =>
    rw [Db.ackTombstones_frame.1] at hmem
    exact .inl ⟨row, hmem, rfl, hhealthy⟩
  | _ => exact .inl ⟨row, hmem, rfl, hhealthy⟩

/-- A call that does not disturb a cluster gives it no new carrier. -/
theorem carries_exec (h : (w.exec db).1.Carries clusterId hostId) :
    db.Carries clusterId hostId ∨ w.disturbs db clusterId = true := by
  by_cases hbefore : db.Carries clusterId hostId
  · exact .inl hbefore
  refine .inr ?_
  rcases activeIn_exec h.1 with hactive | ⟨cluster, hid, rfl⟩
  · rcases healthy_exec h.2 with hhealthy | ⟨host, rfl, rfl⟩ | ⟨now, capacity, pools, rfl⟩
    · exact absurd ⟨hactive, hhealthy⟩ hbefore
    · exact decide_eq_true ⟨hactive, hbefore⟩
    · exact decide_eq_true ⟨hactive, hbefore⟩
  · exact decide_eq_true ⟨hid, hbefore⟩

/-- An owner recorded after a call was recorded before, or the call is the election's write. -/
theorem lanVipOwner_exec (h : (w.exec db).1.lanVipOwner clusterId = some hostId) :
    db.lanVipOwner clusterId = some hostId ∨ w = .setLanVipOwner clusterId hostId := by
  rw [Db.lanVipOwner_eq_some] at h ⊢
  obtain ⟨heq, -⟩ | ⟨r, hr, heff⟩ := w.exec_cases db
  · exact .inl (heq ▸ h)
  by_cases hset : ∃ c o, w = .setLanVipOwner c o
  · obtain ⟨c, o, rfl⟩ := hset
    have hok := done_ok (apply_of_ok hr)
    unfold Db.setLanVipOwner at hok
    split at hok
    · split at hok
      · cases hok
      · rename_i t hins
        rw [← Except.ok.inj hok] at h
        rcases (mem_insert hins).mp h with h | h
        · exact .inl (mem_delete.mp h).1
        · cases h
          exact .inr rfl
    · cases hok
  generalize (w.exec db).1 = db' at heff h
  cases heff with
  | setLanVipOwner => exact absurd ⟨_, _, rfl⟩ hset
  | ackTombstones => exact .inl (Db.owners_ackTombstones h)
  | _ => exact .inl h

end Write

/-! ## All interleavings -/

/-- The cluster whose election the operation belongs to, once the carriers were read. -/
def Op.electing : Op → Option ClusterId
  | .query (.lanVipOwner clusterId) => some clusterId
  | .write (.setLanVipOwner clusterId _) => some clusterId
  | _ => none

/-- The condition on a run: no call disturbs a cluster while another task is in the middle of its election. -/
def Cell.undisturbed (c : Cell) : Event Activity → Prop
  | .step i => ∀ j ∈ List.range c.tasks.length, j ≠ i → ∀ x ∈ c.nextOp (.step j), ∀ clusterId ∈ x.2.electing,
    ∀ w ∈ c.nextWrite (.step i), w.disturbs c.shared.db clusterId = false
  | _ => True

instance (c : Cell) : (e : Event Activity) → Decidable (c.undisturbed e)
  | .spawn _ | .step _ | .drop _ | .crash => by dsimp only [Cell.undisturbed]; infer_instance

/-- What an election has read is still true, as far as it matters. -/
def Ballot.Current (db : Db) : Ballot → Prop
  | .idle => True
  | .listed clusterId carriers => ∀ h, db.Carries clusterId h → h ∈ carriers
  | .vacant clusterId carriers =>
    (∀ h, db.Carries clusterId h → h ∈ carriers) ∧ ∀ o, db.lanVipOwner clusterId = some o → o ∉ carriers

def electing : Outline Activity Op Op.Resp Shared Ballot Unit where
  aux := fun γ _ _ _ => γ
  inv := fun _ _ _ => True
  holds := fun _ g _ s => g.Current s.db
  apart := fun _ _ => True

section Sound

variable {g : Ballot} {o : Op} {s : Shared} {c : Cell} {i : Nat}

theorem current_exec (hallow : g.Allows o) (h : g.Current s.db) :
    (g.next o (o.exec s).2).Current (o.exec s).1.db := by
  cases hallow with
  | record => trivial
  | @owner clusterId carriers =>
    show (if _ then Ballot.vacant clusterId carriers else Ballot.idle).Current s.db
    split
    · rename_i hvacant
      refine ⟨h, fun owner howner hmem => ?_⟩
      have hkeep : (s.db.lanVipOwner clusterId).filter (· ∈ carriers) = some owner := by
        rw [howner]
        exact Option.filter_eq_some_iff.mpr ⟨rfl, decide_eq_true hmem⟩
      exact nomatch hkeep.symm.trans hvacant.1
    · trivial
  | other hnot =>
    unfold Ballot.next
    split
    · exact fun h hcarries => Db.mem_listActiveCarriers.mpr hcarries
    · contradiction
    · trivial

/-- A task in the middle of an election is about to run the election's next call. -/
theorem electing_of_at {t : Activity} {p : Handler (Except Status Reply)} {clusterId : ClusterId}
    {carriers : List HostId} (hat : ballots.At ⟨t, p⟩ g)
    (hg : g = .listed clusterId carriers ∨ g = .vacant clusterId carriers) :
    ∃ o k, p = .call o k ∧ o.electing = some clusterId := by
  cases p with
  | ret a => rcases hg with rfl | rfl <;> cases (show _ = Ballot.idle from hat)
  | call o k =>
    refine ⟨o, k, rfl, ?_⟩
    rcases hg with rfl | rfl
    · cases hat.1
      rfl
    · cases hat.1
      rfl

/-- The step of another task leaves an election's reads as true as they were. -/
theorem current_frame {task : CellTask} {t : Activity}
    (hop : c.nextOp (.step i) = some (t, o)) (hcond : c.undisturbed (.step i)) (htask : task ∈ c.tasks.eraseIdx i)
    (hat : ballots.At task g) (h : g.Current c.shared.db) : g.Current (o.exec c.shared).1.db := by
  refine o.db_elim c.shared ‹_› ?_
  rintro w rfl
  have quiet : ∀ {clusterId carriers}, g = .listed clusterId carriers ∨ g = .vacant clusterId carriers →
      w.disturbs c.shared.db clusterId = false := by
    intro clusterId carriers hg
    obtain ⟨t', p⟩ := task
    obtain ⟨o', k, rfl, hel⟩ := electing_of_at hat hg
    obtain ⟨j, hlt, hji, hnext⟩ := Machine.exists_nextOp_of_mem_eraseIdx htask
    exact hcond j (mem_range.mpr hlt) hji (t', o') hnext clusterId hel w (Cell.nextWrite_of_nextOp hop)
  have carriers_kept : ∀ {clusterId h}, w.disturbs c.shared.db clusterId = false →
      (w.exec c.shared.db).1.Carries clusterId h → c.shared.db.Carries clusterId h := fun hq hcarries =>
    (Write.carries_exec hcarries).resolve_right fun hd => Bool.false_ne_true (hq.symm.trans hd)
  cases g with
  | idle => trivial
  | listed clusterId carriers => exact fun host hcarries => h host (carriers_kept (quiet (.inl rfl)) hcarries)
  | vacant clusterId carriers =>
    have hquiet := quiet (.inr rfl)
    refine ⟨fun host hcarries => h.1 host (carriers_kept hquiet hcarries), fun owner howner => h.2 owner ?_⟩
    refine (Write.lanVipOwner_exec howner).resolve_right fun hset => ?_
    rw [hset] at hquiet
    exact of_decide_eq_false hquiet rfl

theorem electing_sound (settings : Settings) :
    electing.Sound ballots (cell settings) Cell.undisturbed where
  governs := ballots_govern settings
  symm := id
  spawn := fun _ _ => ⟨trivial, trivial, fun _ _ => trivial⟩
  exec := fun hfires => ⟨trivial, current_exec hfires.allowed hfires.holds⟩
  frame := fun hfires htask _ hat hholds => current_frame hfires.op hfires.cond htask hat hholds
  reboot := id
  reboot_holds := id

end Sound

/-- What replaces a recorded owner: an election's write, made while the owner is not a healthy member. -/
def Cell.Sticky (settings : Settings) (c : Cell) (e : Event Activity) : Prop :=
  ∀ c' clusterId owner owner', (cell settings).step c e = some c' →
    c.shared.db.lanVipOwner clusterId = some owner → c'.shared.db.lanVipOwner clusterId = some owner' →
    owner' ≠ owner →
    (∃ t, c.nextOp e = some (t, .write (.setLanVipOwner clusterId owner'))) ∧ ¬c.shared.db.Carries clusterId owner

theorem sticky_of_annotated {settings : Settings} {c : Cell} {e : Event Activity}
    (hc : electing.Annotated ballots c ()) : c.Sticky settings e := by
  intro c' clusterId owner owner' hstep hbefore hafter hne
  cases Machine.step_cases hstep with
  | spawn | drop | crash => exact absurd (Option.some.inj (hafter.symm.trans hbefore)) hne
  | @exec s pre post started t o k =>
    cases o with
    | query q => exact absurd (Option.some.inj (hafter.symm.trans hbefore)) hne
    | mem m =>
      have hafter : ((Op.mem m).exec s).1.db.lanVipOwner clusterId = some owner' := hafter
      rw [Op.exec_mem_db] at hafter
      exact absurd (Option.some.inj (hafter.symm.trans hbefore)) hne
    | write w =>
      rcases Write.lanVipOwner_exec hafter with hsame | rfl
      · exact absurd (Option.some.inj (hsame.symm.trans hbefore)) hne
      refine ⟨⟨t, Machine.nextOp_exec⟩, fun hcarries => ?_⟩
      obtain ⟨g, hat, hcurrent⟩ := hc.phases _ (mem_append_right _ mem_cons_self)
      cases hat.1 with
      | other hnot => exact hnot _ _ rfl
      | record => exact hcurrent.2 owner hbefore (hcurrent.1 owner hcarries)

/-- **LAN-VIP ownership is sticky** in every run, on any database, whose calls disturb no election that
    another task is in the middle of. -/
theorem ownership_sticky (settings : Settings) (db : Db) (es : List (Event Activity))
    (hal : (cell settings).Along Cell.undisturbed (Cell.start db) es) :
    (cell settings).Along (Cell.Sticky settings) (Cell.start db) es :=
  Machine.along_of_invariant (J := fun c => ∃ γ, electing.Annotated ballots c γ)
    (fun ⟨_, hc⟩ hC h => ⟨_, Outline.annotated_step (electing_sound settings) hc hC h⟩)
    (fun ⟨_, hc⟩ _ => sticky_of_annotated hc) ⟨(), Outline.annotated_empty trivial⟩ hal

/-- Two nodes carry cluster `c0`, and `h1` is the recorded owner. -/
def upToPeer : List (Event Activity) :=
  upToWaiting ++ .spawn (registration "node-2" "h2" 200) :: steps 3 11 ++
  .spawn (createWorkerOn "h2" "c0" "peer" "v2") :: steps 4 29

/-- Node `h1` misses its heartbeats. A periodic reconcile of `h2` reads the carriers, which are `h2` alone
    then; a node sends a heartbeat; the reconcile finds the recorded owner missing from its list. -/
def electsAfterHeartbeat (hostId : HostId) : List (Event Activity) :=
  upToPeer ++ .spawn (.hostHealthTick 150) :: steps 5 2 ++ .spawn (.reconcileTick "h2" 1) :: steps 6 2 ++
  .spawn (.agentMessage hostId (.heartbeat none) 210) :: steps 7 1 ++ steps 6 1

/-- The heartbeat of `h2` disturbs nothing, and the election replaces `h1`. -/
theorem ownership_sticky_smallCell :
    (reached (electsAfterHeartbeat "h2")).shared.db.lanVipOwner "c0" = some "h1" ∧
    (reached (electsAfterHeartbeat "h2" ++ steps 6 1)).shared.db.lanVipOwner "c0" = some "h2" ∧
    (cell smallCell).Along (Cell.Sticky smallCell) emptyCell (electsAfterHeartbeat "h2" ++ steps 6 1) :=
  ⟨by decide +kernel, by decide +kernel, ownership_sticky smallCell _ _ (by decide +kernel)⟩

def upToElected : List (Event Activity) := electsAfterHeartbeat "h1"

/-- **An owner is replaced although it is a healthy member.** -/
theorem owner_replaced :
    (cell smallCell).run emptyCell upToElected = some (reached upToElected) ∧
    (reached upToElected).shared.db.lanVipOwner "c0" = some "h1" ∧
    (reached upToElected).shared.db.Carries "c0" "h1" ∧
    (reached (upToElected ++ steps 6 1)).shared.db.lanVipOwner "c0" = some "h2" ∧
    ¬Cell.Sticky smallCell (reached upToElected) (.step 6) := by
  refine ⟨run_reached _ (by decide +kernel), by decide +kernel, by decide +kernel, by decide +kernel, ?_⟩
  intro hsticky
  obtain ⟨-, hgone⟩ := hsticky _ "c0" "h1" "h2" (Transition.step_eq_after (by decide +kernel)) (by decide +kernel)
    (by decide +kernel) (by decide)
  exact hgone (by decide +kernel)

end BasisCell
