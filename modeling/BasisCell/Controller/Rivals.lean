import BasisCell.Controller.Bids
import BasisCell.Controller.Orderly

/-!
# `BasisCell.Controller.Rivals` — two clusters created at once

Two `create_cluster` calls with different names, interleaved in any way. Both may read the same free network
before either has inserted its row; the one that inserts second then loses on the VNI, gives back what it has
allocated, and picks again, with the winner's row in the table. It cannot lose twice, since there is no third
call, and a pick that is not stale goes in.

The outline `rivalry` over the bids of the two calls says that a pick is either what the allocator would still
return, or has lost to the rival's row, and that a call never gets to `failed`, given that the pools have what is
asked of them.

What is asked of them includes the apiserver's address of a private cluster. That one is not chosen but
computed from the picked network, and `reserve_specific_ip` of the second call fails before the insert that
would have told it to retry.
-/

namespace BasisCell

open Conc Relational Table List

/-! ## The outline -/

/-- The two names, of which this is one. -/
def oneOf (names : String × String) (name : String) : Prop := name = names.1 ∨ name = names.2

namespace Db

/-- The row is in the table, up to its trust domain. -/
def Has (db : Db) (row : ClusterRow) : Prop := ∃ k ∈ db.clusters.rows, row.SameCluster k

/-- The other name has its row. -/
def Rival (names : String × String) (req : CreateClusterRequest) (db : Db) : Prop :=
  ∃ k ∈ db.clusters.rows, oneOf names k.name ∧ k.name ≠ req.name

/-- The call has inserted nothing: neither its name nor its identifiers are in the table. -/
structure Pending (req : CreateClusterRequest) (ids : RoundIds) (db : Db) : Prop where
  unnamed : ∀ k ∈ db.clusters.rows, k.name ≠ req.name
  unused : ∀ k ∈ db.clusters.rows, ∀ i, k.id ≠ ids i

/-- The pick is what the allocator would still return, in the first round or in the second with the rival's row
    in; or it has lost to that row, in the first round. -/
def Backs (net : NetworkConfig) (names : String × String) (req : CreateClusterRequest) (rest : List ClusterId)
    (network : ClusterNetwork) (db : Db) : Prop :=
  (db.allocateClusterNetwork net = .ok network ∧
    (rest.length + 1 = maxAllocationAttempts ∨ rest.length + 2 = maxAllocationAttempts ∧ db.Rival names req)) ∨
  (rest.length + 1 = maxAllocationAttempts ∧ db.Rival names req ∧ ∃ k ∈ db.clusters.rows, k.vni = network.vni)

/-- There is room for whoever of the two has not inserted yet. -/
def Room (net : NetworkConfig) (names : String × String) (db : Db) : Prop :=
  db.RoomForTwo net ∨ (db.RoomForOne net ∧ ∃ k ∈ db.clusters.rows, oneOf names k.name) ∨
    ∀ name, oneOf names name → ∃ k ∈ db.clusters.rows, k.name = name

end Db

/-- All of these are the call's own. -/
def ownIds (ids : RoundIds) (l : List ClusterId) : Prop := ∀ x ∈ l, ∃ i, x = ids i

/-- What a call relies on where. -/
def Bid.Stands (net : NetworkConfig) (names : String × String) (db : Db) (req : CreateClusterRequest)
    (ids : RoundIds) : Bid → Prop
  | .free => False
  | .start => ∀ k ∈ db.clusters.rows, ∀ i, k.id ≠ ids i
  | .found row => row.name = req.name ∧ db.Has row
  | .picking rest => db.Pending req ids ∧ ownIds ids rest ∧
    (rest.length = maxAllocationAttempts ∨ rest.length + 1 = maxAllocationAttempts ∧ db.Rival names req)
  | .picked id rest network => db.Pending req ids ∧ ownIds ids (id :: rest) ∧ db.Backs net names req rest network
  | .fronted id rest network endpoint =>
    db.Pending req ids ∧ ownIds ids (id :: rest) ∧ db.Backs net names req rest network ∧ db.HeldBy id endpoint
  | .equipped id rest network endpoint block =>
    db.Pending req ids ∧ ownIds ids (id :: rest) ∧ db.Backs net names req rest network ∧ db.HeldBy id endpoint ∧
      ∀ a, block.contains a = true → db.HeldBy id a
  | .raced id rest =>
    db.Pending req ids ∧ ownIds ids (id :: rest) ∧ rest.length + 1 = maxAllocationAttempts ∧ db.Rival names req
  | .inserted row => row.name = req.name ∧ db.Has row
  | .failed => False

/-- Different names and different identifiers. -/
def Activity.Rivals : Activity → Activity → Prop
  | .createCluster req ids, .createCluster req' ids' => req.name ≠ req'.name ∧ ∀ i j, ids i ≠ ids' j
  | _, _ => True

theorem Activity.Rivals.symm {t t' : Activity} (h : t.Rivals t') : t'.Rivals t := by
  cases t with
  | createCluster req ids =>
    cases t' with
    | createCluster req' ids' => exact ⟨h.1.symm, fun i j => (h.2 j i).symm⟩
    | _ => trivial
  | _ => cases t' <;> trivial

/-- The two calls, with nobody else in the pool. -/
def rivalry (settings : Settings) (names : String × String) : Outline Activity Op Op.Resp Shared Bid Unit where
  aux := fun _ _ _ _ => ()
  inv := fun _ _ s => s.db.Orderly ∧ s.db.Room settings.network names
  holds
    | .createCluster req ids, g, _, s =>
      oneOf names req.name ∧ req.Accepted settings ∧ g.Stands settings.network names s.db req ids
    | _, _, _, _ => False
  apart := Activity.Rivals

section Same

variable {db db' : Db} {net : NetworkConfig} {names : String × String} {req : CreateClusterRequest}
variable {ids : RoundIds}

/-- What a call relies on, part by part. -/
theorem Bid.Stands.transfer {g : Bid} (h : g.Stands net names db req ids)
    (hunused : (∀ k ∈ db.clusters.rows, ∀ i, k.id ≠ ids i) → ∀ k ∈ db'.clusters.rows, ∀ i, k.id ≠ ids i)
    (hpending : db.Pending req ids → db'.Pending req ids) (hhas : ∀ {row}, db.Has row → db'.Has row)
    (hrival : db.Rival names req → db'.Rival names req)
    (hbacks : ∀ {rest network}, db.Backs net names req rest network → db'.Backs net names req rest network)
    (hheld : ∀ i {a}, db.HeldBy (ids i) a → db'.HeldBy (ids i) a) : g.Stands net names db' req ids := by
  cases g with
  | free | failed => exact h
  | start => exact hunused h
  | found row | inserted row => exact ⟨h.1, hhas h.2⟩
  | picking rest =>
    obtain ⟨hp, hown, hround⟩ := h
    exact ⟨hpending hp, hown, hround.imp_right fun hsecond => ⟨hsecond.1, hrival hsecond.2⟩⟩
  | picked id rest network =>
    obtain ⟨hp, hown, hb⟩ := h
    exact ⟨hpending hp, hown, hbacks hb⟩
  | fronted id rest network endpoint =>
    obtain ⟨hp, hown, hb, hfront⟩ := h
    obtain ⟨i, rfl⟩ := hown id mem_cons_self
    exact ⟨hpending hp, hown, hbacks hb, hheld i hfront⟩
  | equipped id rest network endpoint block =>
    obtain ⟨hp, hown, hb, hfront, hblock⟩ := h
    obtain ⟨i, rfl⟩ := hown id mem_cons_self
    exact ⟨hpending hp, hown, hbacks hb, hheld i hfront, fun a ha => hheld i (hblock a ha)⟩
  | raced id rest =>
    obtain ⟨hp, hown, hround, hr⟩ := h
    exact ⟨hpending hp, hown, hround, hrival hr⟩

variable (h : db.SameClusters db')

include h

theorem Db.SameClusters.has {row : ClusterRow} (hrow : db.Has row) : db'.Has row :=
  h.exists_of (fun _ _ hsame hk => hk.trans hsame) hrow

theorem Db.SameClusters.rival (hrival : db.Rival names req) : db'.Rival names req := by
  refine h.exists_of (fun k k' hsame hk => ?_) hrival
  rw [← hsame]
  exact hk

theorem Db.SameClusters.pending (hpending : db.Pending req ids) : db'.Pending req ids := by
  constructor
  · refine h.forall_of (fun k k' hsame hk => ?_) hpending.unnamed
    rw [← hsame]
    exact hk
  · refine h.forall_of (fun k k' hsame hk => ?_) hpending.unused
    rw [← hsame]
    exact hk

theorem Db.SameClusters.backs {rest : List ClusterId} {network : ClusterNetwork}
    (hbacks : db.Backs net names req rest network) : db'.Backs net names req rest network := by
  rcases hbacks with ⟨hpick, hround⟩ | ⟨hround, hrival, hlost⟩
  · left
    refine ⟨?_, hround.imp_right fun hsecond => ⟨hsecond.1, h.rival hsecond.2⟩⟩
    rw [h.pick_eq]
    exact hpick
  · right
    refine ⟨hround, h.rival hrival, h.exists_of (fun k k' hsame hk => ?_) hlost⟩
    rw [← hsame]
    exact hk

/-- What a call relies on survives a step that neither inserts a cluster nor releases its addresses. -/
theorem stands_same (hkeeps : ∀ i, db.Keeps db' (ids i)) {g : Bid}
    (hstands : g.Stands net names db req ids) : g.Stands net names db' req ids := by
  refine hstands.transfer (fun hunused => h.forall_of (fun k k' hsame hk => ?_) hunused) h.pending h.has h.rival h.backs
    fun i _ hheld => hheld.mono (hkeeps i)
  rw [← hsame]
  exact hk

omit h

theorem Db.SameClusters.room (h : db.SameClusters db') (hroom : db.Room net names) : db'.Room net names := by
  rcases hroom with htwo | ⟨hone, hnamed⟩ | hboth
  · obtain ⟨⟨v, w, hne, hv, hw⟩, c, d, hne', hc, hd⟩ := htwo
    exact .inl ⟨⟨v, w, hne, h.freeVni hv, h.freeVni hw⟩, c, d, hne', h.freeSubnet hc, h.freeSubnet hd⟩
  · obtain ⟨⟨v, hv⟩, c, hc⟩ := hone
    refine .inr (.inl ⟨⟨⟨v, h.freeVni hv⟩, c, h.freeSubnet hc⟩, h.exists_of (fun k k' hsame hk => ?_) hnamed⟩)
    rw [← hsame]
    exact hk
  · refine .inr (.inr fun name hname => h.exists_of (fun k k' hsame hk => ?_) (hboth name hname))
    rw [← hsame]
    exact hk

theorem Db.Orderly.same (horderly : db.Orderly) (h : db.SameClusters db')
    (hkeeps : ∀ k ∈ db.clusters.rows, db.Keeps db' k.id) : db'.Orderly := by
  constructor
  · intro k₁ hk₁ k₂ hk₂ hne a ha
    obtain ⟨j₁, hj₁, hsame₁⟩ := h.old k₁ hk₁
    obtain ⟨j₂, hj₂, hsame₂⟩ := h.old k₂ hk₂
    have hcidr₁ : j₁.cidr = k₁.cidr := congrArg (·.cidr) hsame₁
    have hcidr₂ : j₂.cidr = k₂.cidr := congrArg (·.cidr) hsame₂
    rw [← hcidr₁, ← hcidr₂] at ha
    refine horderly.apart j₁ hj₁ j₂ hj₂ (fun heq => hne ?_) a ha
    apply eq_of_clash hk₁ hk₂ (.inl _)
    rw [← hsame₁.id, ← hsame₂.id, heq]
  · intro k hk a ha
    obtain ⟨j, hj, hsame⟩ := h.old k hk
    rw [← hsame] at ha
    rw [← hsame.id]
    exact (horderly.held j hj a ha).mono (hkeeps j hj)

end Same

section Steps

variable {settings : Settings} {names : String × String} {req req' : CreateClusterRequest} {s : Shared} {g g' : Bid}
variable {ids ids' : RoundIds} {o : Op} {db : Db}

/-! ### Steps that insert nothing -/

theorem Bids.not_ack (h : Bids settings (.createCluster req ids) g o) (hlive : g ≠ .free ∧ g ≠ .failed) :
    ∀ hostId vnis vmIds, o ≠ .write (.ackTombstones hostId vnis vmIds) := by
  rintro hostId vnis vmIds rfl
  cases h with
  | free => exact hlive.1 rfl
  | giveUp => exact hlive.2 rfl
  | broadcast hquiet => cases hquiet

variable {id : ClusterId} {rest : List ClusterId} {row : ClusterRow} {u : Unit} {network : ClusterNetwork}
    {endpoint : Ipv4Addr} {block : Option Ipv4Net} {pool : Pool}

/-- A call releases addresses only under the identifier with which it has lost. -/
theorem Bids.released (h : Bids settings (.createCluster req ids) g (.write (.releaseClusterIps id)))
    (hlive : g ≠ .free ∧ g ≠ .failed) : ∃ rest, g = .raced id rest := by
  cases h with
  | free => exact absurd rfl hlive.1
  | giveUp => exact absurd rfl hlive.2
  | broadcast hquiet => cases hquiet
  | release => exact ⟨_, rfl⟩

theorem sameClusters_of_bids (h : Bids settings (.createCluster req ids) g o) (hlive : g ≠ .free ∧ g ≠ .failed)
    (hinsert : ∀ k, o ≠ .write (.insertCluster k)) : s.db.SameClusters (o.exec s).1.db := by
  refine o.db_elim s (.refl _) ?_
  rintro w rfl
  apply Db.sameClusters_write
  · intro hostId vnis vmIds hw
    exact h.not_ack hlive hostId vnis vmIds (by rw [hw])
  · intro k u hw
    exact absurd (by rw [hw]) (hinsert k)

theorem keeps_of_bids (h : Bids settings (.createCluster req ids) g o) (hlive : g ≠ .free ∧ g ≠ .failed) {x : ClusterId}
    (hx : ∀ id rest, g = .raced id rest → x ≠ id) : s.db.Keeps (o.exec s).1.db x := by
  refine keeps_exec ?_ ?_
  · intro hostId vnis vmIds ho
    exact absurd ho (h.not_ack hlive hostId vnis vmIds)
  · rintro rfl
    obtain ⟨rest, hg⟩ := h.released hlive
    exact hx x rest hg rfl

theorem live_of_stands (h : g.Stands settings.network names db req ids) : g ≠ .free ∧ g ≠ .failed := by
  constructor
  · rintro rfl
    exact h
  · rintro rfl
    exact h

/-- The identifier that a call rolls back is its own and has no row. -/
theorem unused_of_raced (h : g.Stands settings.network names db req ids)
    (hg : g = .raced id rest) : (∃ i, id = ids i) ∧ ∀ k ∈ db.clusters.rows, k.id ≠ id := by
  subst hg
  obtain ⟨hpending, hown, -⟩ := h
  obtain ⟨i, rfl⟩ := hown id mem_cons_self
  exact ⟨⟨i, rfl⟩, fun k hk => hpending.unused k hk i⟩

/-! ### The insert -/

/-- One row more, and the same addresses. -/
structure Db.Gains (db : Db) (row : ClusterRow) (db' : Db) : Prop where
  rows : db'.clusters.rows = db.clusters.rows ++ [row]
  ips : db'.ipAllocations = db.ipAllocations

theorem Db.Gains.mem_iff {db' : Db} (h : db.Gains row db') {k : ClusterRow} :
    k ∈ db'.clusters.rows ↔ k ∈ db.clusters.rows ∨ k = row := by
  rw [h.rows, mem_append, mem_singleton]

theorem Db.Gains.heldBy {db' : Db} (h : db.Gains row db') {a : Ipv4Addr} (hheld : db.HeldBy id a) :
    db'.HeldBy id a := by
  unfold Db.HeldBy
  rw [h.ips]
  exact hheld

theorem gains_of_insert (h : ((Write.insertCluster row).exec db).2 = .ok u) :
    db.Gains row ((Write.insertCluster row).exec db).1 := by
  obtain ⟨t, ht, hdb⟩ := Db.insertCluster_ok (Write.done_ok (Write.apply_of_ok h))
  rw [hdb]
  exact ⟨rows_insert ht, rfl⟩

theorem insert_of_fresh (hid : ∀ k ∈ db.clusters.rows, k.id ≠ row.id)
    (hname : ∀ k ∈ db.clusters.rows, k.name ≠ row.name) (hvni : ∀ k ∈ db.clusters.rows, k.vni ≠ row.vni) :
    ((Write.insertCluster row).exec db).2 = .ok () := by
  have hsome : (db.clusters.insert row).isSome = true := by
    rw [insert_isSome_iff]
    rintro k hk (hclash | hclash | hclash)
    · exact hid k hk hclash
    · exact hname k hk hclash
    · exact hvni k hk hclash
  obtain ⟨t, ht⟩ := Option.isSome_iff_exists.mp hsome
  simp only [Write.exec, Write.apply, Db.insertCluster, ht, Write.done, Except.map]

theorem raced_of_lost (row : ClusterRow) (h : ∃ k ∈ db.clusters.rows, k.vni = row.vni) :
    ∃ message, ((Write.insertCluster row).exec db).2 = .error (.allocationRaced message) := by
  obtain ⟨k, hk, hvni⟩ := h
  have hnone : db.clusters.insert row = none := by
    rw [← Option.not_isSome_iff_eq_none, insert_isSome_iff]
    exact fun hfree => hfree k hk (.inr (.inr hvni))
  have hany : (db.clusters.rows.any fun c => c.vni = row.vni) = true :=
    any_eq_true.mpr ⟨k, hk, decide_eq_true hvni⟩
  refine ⟨"UNIQUE constraint failed: clusters.vni", ?_⟩
  simp only [Write.exec, Write.apply, Db.insertCluster, hnone, hany, if_true, Write.done, Except.map]

theorem eq_of_oneOf {x y z : String} (hx : oneOf names x) (hy : oneOf names y) (hz : oneOf names z) (hxz : x ≠ z)
    (hyz : y ≠ z) : x = y := by
  unfold oneOf at hx hy hz
  rcases hx with rfl | rfl
  · rcases hy with rfl | rfl
    · rfl
    · rcases hz with rfl | rfl
      · exact absurd rfl hxz
      · exact absurd rfl hyz
  · rcases hy with rfl | rfl
    · rcases hz with rfl | rfl
      · exact absurd rfl hyz
      · exact absurd rfl hxz
    · rfl

/-- A pick that goes in was not lost. -/
theorem pick_of_inserted (hbacks : db.Backs settings.network names req rest network)
    (h : ((Write.insertCluster (.fromNetwork id req endpoint block network)).exec db).2 = .ok u) :
    db.allocateClusterNetwork settings.network = .ok network := by
  rcases hbacks with ⟨hpick, -⟩ | ⟨-, -, hlost⟩
  · exact hpick
  · obtain ⟨message, hraced⟩ := raced_of_lost (.fromNetwork id req endpoint block network) hlost
    rw [h] at hraced
    cases hraced

/-- **The rival's insert.** A call that had picked the same network has lost it. -/
theorem stands_inserted {i : Fin maxAllocationAttempts}
    {db' : Db} (hname : oneOf names req.name) (hname' : oneOf names req'.name)
    (hne : req.name ≠ req'.name) (hids : ∀ i j, ids i ≠ ids' j) (hpending : db.Pending req ids)
    (hpick : db.allocateClusterNetwork settings.network = .ok network)
    (hgains : db.Gains (.fromNetwork (ids i) req endpoint block network) db')
    (h : g'.Stands settings.network names db req' ids') : g'.Stands settings.network names db' req' ids' := by
  have hmem := hgains.mem_iff.mpr (.inr rfl)
  have hunused : (∀ k ∈ db.clusters.rows, ∀ j, k.id ≠ ids' j) → ∀ k ∈ db'.clusters.rows, ∀ j, k.id ≠ ids' j := by
    intro hunused k hk j
    rcases hgains.mem_iff.mp hk with hk | rfl
    · exact hunused k hk j
    · exact hids i j
  -- as long as a call has no row, it is nobody's rival
  have hquiet : ¬db.Rival names req' := fun ⟨k, hk, hone, hother⟩ =>
    hpending.unnamed k hk (eq_of_oneOf hone hname hname' hother hne)
  refine h.transfer hunused (fun hp => ⟨fun k hk => ?_, hunused hp.unused⟩) ?_ (fun hrival => absurd hrival hquiet) ?_
    fun j a hheld => hgains.heldBy hheld
  · rcases hgains.mem_iff.mp hk with hk | rfl
    · exact hp.unnamed k hk
    · exact hne
  · rintro row ⟨k, hk, hsame⟩
    exact ⟨k, hgains.mem_iff.mpr (.inl hk), hsame⟩
  · rintro rest network' (⟨hpick', hround⟩ | ⟨-, hrival, -⟩)
    · -- both have read the same table
      have hsame : network = network' := by
        rw [hpick] at hpick'
        exact Except.ok.inj hpick'
      right
      refine ⟨hround.resolve_right fun hsecond => hquiet hsecond.2, ⟨_, hmem, hname, hne⟩, ⟨_, hmem, ?_⟩⟩
      rw [← hsame]
      rfl
    · exact absurd hrival hquiet

/-- The insert leaves room for the one that is left. -/
theorem room_inserted (hvalid : settings.network.Valid) {db' : Db} (hname : oneOf names row.name)
    (hunnamed : ∀ k ∈ db.clusters.rows, k.name ≠ row.name) (hfree : db.FreeSubnet settings.network row.cidr)
    (hgains : db.Gains row db') (h : db.Room settings.network names) : db'.Room settings.network names := by
  have hmem := hgains.mem_iff.mpr (.inr rfl)
  rcases h with htwo | ⟨-, k, hk, hone⟩ | hboth
  · right; left
    exact ⟨htwo.one_left hvalid hfree.1 fun k hk => hgains.mem_iff.mp hk, row, hmem, hname⟩
  · right; right
    intro name hn
    by_cases heq : name = row.name
    · exact ⟨row, hmem, heq.symm⟩
    · exact ⟨k, hgains.mem_iff.mpr (.inl hk), eq_of_oneOf hone hn hname (hunnamed k hk) heq⟩
  · obtain ⟨k, hk, hkname⟩ := hboth row.name hname
    exact absurd hkname (hunnamed k hk)

/-- A row with a fresh network that holds its addresses keeps the table orderly. -/
theorem Db.Orderly.inserted {db' : Db} (h : db.Orderly)
    (hfree : ∀ k ∈ db.clusters.rows, cidrsOverlap k.cidr row.cidr = false)
    (hheld : ∀ a, row.Uses a → db.HeldBy row.id a) (hgains : db.Gains row db') : db'.Orderly := by
  have hclear : ∀ k ∈ db.clusters.rows, ∀ a, ¬(k.cidr.contains a = true ∧ row.cidr.contains a = true) := by
    intro k hk a ha
    have hmeet := cidrsOverlap_iff.mpr ⟨a, ha⟩
    rw [hfree k hk] at hmeet
    cases hmeet
  constructor
  · intro k hk k' hk' hne a ha
    rcases hgains.mem_iff.mp hk with hold | rfl
    · rcases hgains.mem_iff.mp hk' with hold' | rfl
      · exact h.apart k hold k' hold' hne a ha
      · exact hclear k hold a ha
    · rcases hgains.mem_iff.mp hk' with hold' | rfl
      · exact hclear k' hold' a ha.symm
      · exact hne rfl
  · intro k hk a ha
    rcases hgains.mem_iff.mp hk with hold | rfl
    · exact hgains.heldBy (h.held k hold a ha)
    · exact hgains.heldBy (hheld a ha)

/-! ### A call's own step -/

/-- The pools and the allocation table have what the call is about to ask for. -/
def Db.supplies (db : Db) : Write → Bool
  -- the pool has an address left
  | .allocatePoolVip pool _ =>
    db.scopedTo pool.name (.parsePoolRange pool) && db.hasAddress pool.name (.parsePoolRange pool)
  -- it has an aligned block left
  | .allocateServiceBlock scope range _ count => db.scopedTo scope range && db.hasBlock scope range count
  -- nobody holds the private apiserver's address
  | .reserveSpecificIp _ ip _ => db.unheld ip
  | _ => true

theorem vip_of_supplies (hvalid : settings.network.Valid)
    (hpool : settings.network.poolByName req.externalIpPool = some pool)
    (h : db.supplies (.allocatePoolVip pool id) = true) :
    ∃ ip, ((Write.allocatePoolVip pool id).exec db).2 = .ok ip ∧
      ((Write.allocatePoolVip pool id).exec db).1.HeldBy id ip := by
  obtain ⟨hscoped, hhas⟩ := Bool.and_eq_true_iff.mp h
  obtain ⟨hmem, -⟩ := NetworkConfig.mem_of_poolByName hpool
  obtain ⟨hrange, -⟩ := Pool.range_of_valid hvalid hmem
  obtain ⟨db', ip, hok⟩ : ∃ db' ip, db.allocateFromRange pool.name (.parsePoolRange pool) (.cluster id) =
      .ok (db', ip) :=
    Db.allocateFromRange_succeeds hrange hscoped hhas
  obtain ⟨-, t, ht, rfl⟩ := Db.allocateFromRange_ok hok
  refine ⟨ip, ?_, ?_⟩
  · simp only [Write.exec, Write.apply, Db.allocatePoolVip, hok]
  · simp only [Write.exec, Write.apply, Db.allocatePoolVip, hok]
    exact Db.held_of_insert ht

theorem reserved_of_supplies {scope : String} {ip : Ipv4Addr}
    (h : db.supplies (.reserveSpecificIp scope ip (.cluster id)) = true) :
    ((Write.reserveSpecificIp scope ip (.cluster id)).exec db).2 = .ok () ∧
      ((Write.reserveSpecificIp scope ip (.cluster id)).exec db).1.HeldBy id ip := by
  obtain ⟨db', hok⟩ : ∃ db', db.reserveSpecificIp scope ip (.cluster id) = .ok db' := Db.reserveSpecificIp_succeeds h
  obtain ⟨t, ht, rfl⟩ := Db.reserveSpecificIp_ok hok
  constructor
  · simp only [Write.exec, Write.apply, hok, Write.done, Except.map]
  · simp only [Write.exec, Write.apply, hok, Write.done, Except.map]
    exact Db.held_of_insert ht

theorem block_of_supplies (hvalid : settings.network.Valid) {count : Nat}
    (hpool : settings.network.poolByName req.externalIpPool = some pool) (hpower : count.isPowerOfTwo)
    (h : db.supplies (.allocateServiceBlock pool.name (.parsePoolRange pool) id count) = true) :
    ∃ block, ((Write.allocateServiceBlock pool.name (.parsePoolRange pool) id count).exec db).2 = .ok block ∧
      ∀ a, block.contains a = true →
        ((Write.allocateServiceBlock pool.name (.parsePoolRange pool) id count).exec db).1.HeldBy id a := by
  obtain ⟨hscoped, hhas⟩ := Bool.and_eq_true_iff.mp h
  obtain ⟨hmem, -⟩ := NetworkConfig.mem_of_poolByName hpool
  obtain ⟨hrange, -⟩ := Pool.range_of_valid hvalid hmem
  have htop := Db.stop_lt_of_valid hvalid hmem
  obtain ⟨db', block, hok⟩ : ∃ db' block,
      db.allocateServiceBlock pool.name (.parsePoolRange pool) id count = .ok (db', block) :=
    Db.allocateServiceBlock_succeeds hpower hrange htop hscoped hhas
  refine ⟨block, ?_, ?_⟩
  · simp only [Write.exec, Write.apply, hok]
  · simp only [Write.exec, Write.apply, hok]
    exact Db.held_of_block htop hok

/-- Whoever has not inserted yet finds a network. -/
theorem pick_succeeds (hvalid : settings.network.Valid) (hname : oneOf names req.name) (hpending : db.Pending req ids)
    (hroom : db.Room settings.network names) : ∃ network, db.allocateClusterNetwork settings.network = .ok network := by
  apply Db.allocateClusterNetwork_succeeds hvalid
  rcases hroom with ⟨⟨v, -, -, hv, -⟩, c, -, -, hc, -⟩ | ⟨hone, -⟩ | hboth
  · exact ⟨⟨v, hv⟩, c, hc⟩
  · exact hone
  · obtain ⟨k, hk, hkname⟩ := hboth req.name hname
    exact absurd hkname (hpending.unnamed k hk)

/-- **A call's own step**: it does not fail. -/
theorem stands_exec (hvalid : settings.network.Valid) (hname : oneOf names req.name) (hreq : req.Accepted settings)
    (hbids : Bids settings (.createCluster req ids) g o) (hsupplies : ∀ w, o = .write w → s.db.supplies w = true)
    (hroom : s.db.Room settings.network names) (h : g.Stands settings.network names s.db req ids) :
    (g.next (List.ofFn ids) o (o.exec s).2).Stands settings.network names (o.exec s).1.db req ids := by
  have hlive := live_of_stands h
  have hsame : (∀ k, o ≠ .write (.insertCluster k)) → s.db.SameClusters (o.exec s).1.db :=
    sameClusters_of_bids hbids hlive
  have hkeeps : (∀ id rest, g ≠ .raced id rest) → ∀ i, s.db.Keeps (o.exec s).1.db (ids i) := by
    intro hg i
    exact keeps_of_bids hbids hlive fun id rest heq => absurd heq (hg id rest)
  cases hbids with
  | free | giveUp => exact h.elim
  | look =>
    show (Bid.next _ .start (.query (.getClusterByName req.name)) (s.db.getClusterByName req.name)).Stands _ _ s.db _ _
    cases hfound : s.db.getClusterByName req.name with
    | some row =>
      have hsel := List.find?_some hfound
      exact ⟨of_decide_eq_true hsel, row, mem_of_find?_eq_some hfound, .refl row⟩
    | none =>
      refine ⟨⟨fun k hk hkname => ?_, h⟩, fun x hx => ?_, .inl (length_ofFn)⟩
      · exact List.find?_eq_none.mp hfound k hk (decide_eq_true hkname)
      · obtain ⟨i, hi⟩ := mem_ofFn.mp hx
        exact ⟨i, hi.symm⟩
  | @refresh _ _ row domain =>
    exact ⟨h.1, (hsame (by rintro _ ⟨⟩)).has h.2⟩
  | @broadcast _ _ row o hquiet =>
    rw [Bid.next_quiet hquiet]
    refine ⟨h.1, (hsame ?_).has h.2⟩
    rintro k rfl
    cases hquiet
  | @pick _ _ id rest =>
    obtain ⟨hpending, hown, hround⟩ := h
    obtain ⟨network, hpick⟩ := pick_succeeds hvalid hname hpending hroom
    show (Bid.next _ (.picking (id :: rest)) (.query (.allocateClusterNetwork settings.network))
      (s.db.allocateClusterNetwork settings.network)).Stands _ _ s.db _ _
    rw [hpick]
    refine ⟨hpending, hown, .inl ⟨hpick, ?_⟩⟩
    simpa only [length_cons] using hround
  | @poolVip _ _ id rest network pool hpool =>
    obtain ⟨hpending, hown, hbacks⟩ := h
    have hsame := hsame (by rintro _ ⟨⟩)
    obtain ⟨ip, hok, hheld⟩ := vip_of_supplies hvalid hpool (hsupplies _ rfl)
    rw [Op.exec_write_resp, hok]
    exact ⟨hsame.pending hpending, hown, hsame.backs hbacks, hheld⟩
  | @privateVip _ _ id rest network =>
    obtain ⟨hpending, hown, hbacks⟩ := h
    have hsame := hsame (by rintro _ ⟨⟩)
    obtain ⟨hok, hheld⟩ := reserved_of_supplies (hsupplies _ rfl)
    rw [Op.exec_write_resp, hok]
    exact ⟨hsame.pending hpending, hown, hsame.backs hbacks, hheld⟩
  | @serviceBlock _ _ id rest network endpoint pool hpool =>
    obtain ⟨hpending, hown, hbacks, hfront⟩ := h
    have hsame := hsame (by rintro _ ⟨⟩)
    obtain ⟨i, rfl⟩ := hown id mem_cons_self
    have hkeeps := hkeeps (by rintro _ _ ⟨⟩) i
    obtain ⟨block, hok, hheld⟩ := block_of_supplies hvalid hpool hreq.power (hsupplies _ rfl)
    rw [Op.exec_write_resp, hok]
    exact ⟨hsame.pending hpending, hown, hsame.backs hbacks, hfront.mono hkeeps, hheld⟩
  | @insert _ _ id rest network endpoint block =>
    obtain ⟨hpending, hown, hbacks, hfront, hblock⟩ := h
    obtain ⟨i, rfl⟩ := hown id mem_cons_self
    rw [Op.exec_write_resp, Op.exec_write_db]
    rcases hbacks with ⟨hpick, -⟩ | ⟨hround, hrival, hlost⟩
    · have hfresh : ((Write.insertCluster (.fromNetwork (ids i) req endpoint (some block) network)).exec s.db).2 =
          .ok () :=
        insert_of_fresh (fun k hk => hpending.unused k hk i) hpending.unnamed (Db.free_of_pick hpick).1.2
      rw [hfresh]
      exact ⟨rfl, _, Write.mem_of_insertCluster hfresh, .refl _⟩
    · obtain ⟨message, hraced⟩ := raced_of_lost (.fromNetwork (ids i) req endpoint (some block) network) hlost
      rw [hraced, Write.exec_of_error hraced]
      exact ⟨hpending, hown, hround, hrival⟩
  | @release _ _ id rest =>
    obtain ⟨hpending, hown, hround, hrival⟩ := h
    have hsame := hsame (by rintro _ ⟨⟩)
    refine ⟨hsame.pending hpending, fun x hx => hown x (mem_cons_of_mem _ hx), .inr ⟨hround, hsame.rival hrival⟩⟩

/-- What a step does to the table, as far as anybody else can tell: nothing, or one fresh row. -/
theorem clusters_of_step (hbids : Bids settings (.createCluster req ids) g o)
    (h : g.Stands settings.network names s.db req ids) :
    (s.db.SameClusters (o.exec s).1.db ∧ ∀ x, (∀ id rest, g = .raced id rest → x ≠ id) → s.db.Keeps (o.exec s).1.db x) ∨
    ∃ i network endpoint block, s.db.Pending req ids ∧ s.db.allocateClusterNetwork settings.network = .ok network ∧
      (s.db.HeldBy (ids i) endpoint ∧ ∀ a, block.contains a = true → s.db.HeldBy (ids i) a) ∧
      s.db.Gains (.fromNetwork (ids i) req endpoint (some block) network) (o.exec s).1.db := by
  have hlive := live_of_stands h
  by_cases hinsert : ∃ k, o = .write (.insertCluster k)
  · obtain ⟨k, rfl⟩ := hinsert
    cases hbids with
    | free | giveUp => exact h.elim
    | broadcast hquiet => cases hquiet
    | @insert _ _ id rest network endpoint block =>
      obtain ⟨hpending, hown, hbacks, hheld⟩ := h
      obtain ⟨i, rfl⟩ := hown id mem_cons_self
      rw [Op.exec_write_db]
      cases hresp : ((Write.insertCluster (.fromNetwork (ids i) req endpoint (some block) network)).exec s.db).2 with
      | error e =>
        left
        rw [Write.exec_of_error hresp]
        exact ⟨.refl _, fun _ _ _ ha _ => ha⟩
      | ok u =>
        right
        exact ⟨i, network, endpoint, block, hpending, pick_of_inserted hbacks hresp, hheld, gains_of_insert hresp⟩
  · left
    have hinsert' : ∀ k, o ≠ .write (.insertCluster k) := fun k heq => hinsert ⟨k, heq⟩
    exact ⟨sameClusters_of_bids hbids hlive hinsert', fun x hx => keeps_of_bids hbids hlive hx⟩

end Steps

/-! ## Every interleaving -/

/-- The cell while no further call comes in. -/
def closedCell (settings : Settings) : Machine Activity Op Op.Resp Shared (Except Status Reply) :=
  { cell settings with fresh := fun _ _ => false }

theorem rivalry_sound (settings : Settings) (hvalid : settings.network.Valid) (names : String × String) :
    (rivalry settings names).Sound (bids settings) (closedCell settings) (Cell.Checks Db.supplies) where
  governs := bids_govern
  symm := Activity.Rivals.symm
  spawn := by
    intro started γ s t hfresh
    cases hfresh
  exec := by
    intro c γ i t g o hfires
    have hholds := hfires.holds
    have hallow := hfires.allowed
    cases t with
    | createCluster req ids =>
      obtain ⟨hname, hreq, hstands⟩ := hholds
      obtain ⟨horderly, hroom⟩ := hfires.inv
      have hsupplies : ∀ w, o = .write w → c.shared.db.supplies w = true := by
        rintro w rfl
        exact hfires.cond w (Cell.nextWrite_of_nextOp hfires.op)
      refine ⟨?_, hname, hreq, stands_exec hvalid hname hreq hallow hsupplies hroom hstands⟩
      rcases clusters_of_step hallow hstands with ⟨hsame, hkeeps⟩ |
        ⟨i, network, endpoint, block, hpending, hpick, hheld, hgains⟩
      · refine ⟨horderly.same hsame fun k hk => hkeeps k.id fun id rest hg => ?_, hsame.room hroom⟩
        exact (unused_of_raced hstands hg).2 k hk
      · obtain ⟨-, hfree⟩ := Db.free_of_pick hpick
        refine ⟨horderly.inserted hfree.2 (fun a ha => ?_) hgains,
          room_inserted hvalid hname hpending.unnamed hfree hgains hroom⟩
        rcases ha with rfl | ⟨block', hblock', hmem⟩
        · exact hheld.1
        · cases hblock'
          exact hheld.2 a hmem
    | _ => exact hholds.elim
  frame := by
    intro c γ i t g o task g' hfires _ hapart _ hholds'
    have hholds := hfires.holds
    have hallow := hfires.allowed
    obtain ⟨tag, prog⟩ := task
    cases t with
    | createCluster req ids =>
      cases tag with
      | createCluster req' ids' =>
        obtain ⟨hname, -, hstands⟩ := hholds
        obtain ⟨hname', hreq', hstands'⟩ := hholds'
        refine ⟨hname', hreq', ?_⟩
        rcases clusters_of_step hallow hstands with ⟨hsame, hkeeps⟩ | ⟨i, network, endpoint, block, hpending, hpick, -,
          hgains⟩
        · refine stands_same hsame (fun j => hkeeps (ids' j) fun id rest hg => ?_) hstands'
          obtain ⟨⟨i, rfl⟩, -⟩ := unused_of_raced hstands hg
          exact (hapart.2 i j).symm
        · exact stands_inserted hname hname' hapart.1 hapart.2 hpending hpick hgains hstands'
      | _ => exact hholds'.elim
    | _ => exact hholds.elim
  reboot := id
  reboot_holds := by
    intro t g γ s h
    cases t with
    | createCluster req ids => exact h
    | _ => exact h.elim

/-- Two answers that share nothing. -/
structure CreateClusterResponse.Disjoint (r r' : CreateClusterResponse) : Prop where
  vni : r.vni ≠ r'.vni
  cidr : ∀ a, ¬(r.cidr.contains a = true ∧ r'.cidr.contains a = true)
  /-- Neither VIPs nor service blocks meet. -/
  external : ∀ a, (a = r.controlPlaneEndpoint ∨ ∃ block, r.serviceBlockCidr = some block ∧ block.contains a = true) →
    ¬(a = r'.controlPlaneEndpoint ∨ ∃ block, r'.serviceBlockCidr = some block ∧ block.contains a = true)

theorem Db.Has.same {db : Db} {row : ClusterRow} (h : db.Has row) : ∃ k ∈ db.clusters.rows,
    row.name = k.name ∧ row.vni = k.vni ∧ row.cidr = k.cidr ∧ ∀ a, row.Uses a → k.Uses a := by
  obtain ⟨k, hk, hsame⟩ := h
  refine ⟨k, hk, congrArg (·.name) hsame, congrArg (·.vni) hsame, congrArg (·.cidr) hsame, fun a ha => ?_⟩
  rw [← hsame]
  exact ha

theorem disjoint_of_orderly {settings : Settings} {db : Db} (h : db.Orderly) {row row' : ClusterRow} (hrow : db.Has row)
    (hrow' : db.Has row') (hname : row.name ≠ row'.name) :
    (createClusterResponse row settings.bgp).Disjoint (createClusterResponse row' settings.bgp) := by
  obtain ⟨k, hk, hn, hvni, hcidr, huses⟩ := hrow.same
  obtain ⟨k', hk', hn', hvni', hcidr', huses'⟩ := hrow'.same
  have hne : k ≠ k' := by
    rintro rfl
    exact hname (hn.trans hn'.symm)
  refine ⟨fun heq => hne ?_, fun a ha => ?_, fun a ha ha' => hne ?_⟩
  · apply eq_of_clash hk hk' (.inr (.inr _))
    rw [← hvni, ← hvni']
    exact heq
  · refine h.apart k hk k' hk' hne a ?_
    rw [← hcidr, ← hcidr']
    exact ha
  · exact h.eq_of_uses hk hk' (huses a ha) (huses' a ha')

/-- Two activities that are just starting. -/
def Cell.both (settings : Settings) (s : Shared) (t t' : Activity) : Cell :=
  ⟨s, [⟨t, t.body settings⟩, ⟨t', t'.body settings⟩], [t', t]⟩

section Runs

variable {settings : Settings} {c c' : Cell} {es : List (Event Activity)}

/-- Steps are the same whether or not further calls could come in. -/
theorem run_closed (hsteps : ∀ e ∈ es, ∃ i, e = .step i) :
    (closedCell settings).run c es = (cell settings).run c es := by
  induction es generalizing c with
  | nil => rfl
  | cons e es ih =>
    obtain ⟨i, rfl⟩ := hsteps e mem_cons_self
    have hstep : (closedCell settings).step c (.step i) = (cell settings).step c (.step i) := rfl
    simp only [Transition.run, hstep]
    exact Option.bind_congr fun c₁ _ => ih fun e' he' => hsteps e' (mem_cons_of_mem _ he')

theorem along_closed {C : Cell → Event Activity → Prop} (hsteps : ∀ e ∈ es, ∃ i, e = .step i)
    (h : (cell settings).Along C c es) : (closedCell settings).Along C c es := by
  induction es generalizing c with
  | nil => trivial
  | cons e es ih =>
    obtain ⟨i, rfl⟩ := hsteps e mem_cons_self
    have hstep : (closedCell settings).step c (.step i) = (cell settings).step c (.step i) := rfl
    refine ⟨h.1, ?_⟩
    have hrest := h.2
    rw [hstep]
    cases hc₁ : (cell settings).step c (.step i) with
    | none => trivial
    | some c₁ =>
      rw [hc₁] at hrest
      exact ih (fun e' he' => hsteps e' (mem_cons_of_mem _ he')) hrest

end Runs

theorem answer_of_rivalry {settings : Settings} {names : String × String} {c : Cell}
    (h : (rivalry settings names).Annotated (bids settings) c ()) {req : CreateClusterRequest}
    {ids : RoundIds} {prog : Handler (Except Status Reply)}
    (htask : ⟨.createCluster req ids, prog⟩ ∈ c.tasks) (hdone : prog.finished = true) :
    ∃ row, prog = .ret (.ok (.cluster (createClusterResponse row settings.bgp))) ∧ row.name = req.name ∧
      c.shared.db.Has row := by
  obtain ⟨g, hat, -, hreq, hstands⟩ := h.phases _ htask
  cases prog with
  | call o k => cases hdone
  | ret result =>
    cases result with
    | ok reply =>
      rcases hat with rfl | ⟨row, rfl | rfl, rfl⟩
      · exact hstands.elim
      · exact ⟨row, rfl, hstands⟩
      · exact ⟨row, rfl, hstands⟩
    | error status =>
      rcases hat with rfl | rfl | ⟨rfl, hrejected⟩
      · exact hstands.elim
      · -- there are rounds left
        obtain ⟨-, -, hround | ⟨hround, -⟩⟩ := hstands
        · cases hround
        · cases hround
      · exact absurd hreq hrejected

/-- **Concurrent creates do not fail spuriously.** From any state of any run, two calls with different names and
    room for both end with Ok and share nothing, in every interleaving in which the pools have what is asked of
    them and the address of a private apiserver is not held. -/
theorem creates_compatible (settings : Settings) (hvalid : settings.network.validate = .ok ())
    (effectiveCpu : Int → Int) (es₀ : List (Event Activity)) (c₀ : Cell)
    (hrun₀ : (cell settings).run (Cell.start (Db.create effectiveCpu)) es₀ = some c₀)
    (req req' : CreateClusterRequest) (ids ids' : RoundIds)
    (hfresh : Activity.fresh c₀.started (.createCluster req ids) = true)
    (hfresh' : Activity.fresh (.createCluster req ids :: c₀.started) (.createCluster req' ids') = true)
    (hreq : req.Accepted settings) (hreq' : req'.Accepted settings) (hnames : req.name ≠ req'.name)
    (hroom : c₀.shared.db.RoomForTwo settings.network) (es : List (Event Activity)) (c : Cell)
    (hsteps : ∀ e ∈ es, ∃ i, e = .step i)
    (hal : (cell settings).Along (Cell.Checks Db.supplies)
      (Cell.both settings c₀.shared (.createCluster req ids) (.createCluster req' ids')) es)
    (hrun : (cell settings).run
      (Cell.both settings c₀.shared (.createCluster req ids) (.createCluster req' ids')) es = some c)
    (hdone : ∀ task ∈ c.tasks, task.prog.finished = true) :
    ∃ r r', c.tasks = [⟨.createCluster req ids, .ret (.ok (.cluster r))⟩,
      ⟨.createCluster req' ids', .ret (.ok (.cluster r'))⟩] ∧ r.Disjoint r' := by
  have hnet := NetworkConfig.valid_of_validate hvalid
  obtain ⟨horderly, hminted⟩ := orderly_run hnet hrun₀
  -- identifiers are new, so no row has them
  have hunused : ∀ {req ids started}, c₀.started ⊆ started → Activity.fresh started (.createCluster req ids) = true →
      ∀ k ∈ c₀.shared.db.clusters.rows, ∀ i, k.id ≠ ids i := by
    intro req ids started hsub hfresh k hk i heq
    obtain ⟨t, ht, hmint⟩ := hminted k hk
    rw [heq] at hmint
    exact ((of_decide_eq_true hfresh).2 _ (mem_mints i) t (hsub ht)).1 hmint
  have hrivals : (Activity.createCluster req ids).Rivals (.createCluster req' ids') := by
    refine ⟨hnames, fun i j heq => ?_⟩
    refine ((of_decide_eq_true hfresh').2 _ (mem_mints j) _ mem_cons_self).1 ?_
    rw [← heq]
    exact mem_mints i
  have hstart : (rivalry settings (req.name, req'.name)).Annotated (bids settings)
      (Cell.both settings c₀.shared (.createCluster req ids) (.createCluster req' ids')) () := by
    refine ⟨⟨horderly, .inl hroom⟩, ?_, ?_, ?_⟩
    · intro task htask
      rcases mem_cons.mp htask with rfl | htask
      · exact mem_cons_of_mem _ mem_cons_self
      · rw [mem_singleton.mp htask]
        exact mem_cons_self
    · refine pairwise_cons.mpr ⟨fun task htask => ?_, pairwise_singleton _ _⟩
      rw [mem_singleton.mp htask]
      exact hrivals
    · intro task htask
      rcases mem_cons.mp htask with rfl | htask
      · exact ⟨.start, bids_createCluster, .inl rfl, hreq, hunused (Subset.refl _) hfresh⟩
      · rw [mem_singleton.mp htask]
        exact ⟨.start, bids_createCluster, .inr rfl, hreq', hunused (subset_cons_self ..) hfresh'⟩
  obtain ⟨γ, hc⟩ := Outline.annotated_run (rivalry_sound settings hnet _) hstart (along_closed hsteps hal)
    ((run_closed hsteps).trans hrun)
  -- stepping keeps the two tasks in place
  have htags := Machine.tags_of_steps hsteps hrun
  obtain ⟨task, task', htasks⟩ : ∃ task task', c.tasks = [task, task'] := by
    have hlength := congrArg List.length htags
    rw [length_map] at hlength
    exact length_eq_two.mp hlength
  obtain ⟨tag, prog⟩ := task
  obtain ⟨tag', prog'⟩ := task'
  rw [htasks] at htags
  cases htags
  have hmem : ⟨.createCluster req ids, prog⟩ ∈ c.tasks := by
    rw [htasks]
    exact mem_cons_self
  have hmem' : ⟨.createCluster req' ids', prog'⟩ ∈ c.tasks := by
    rw [htasks]
    exact mem_cons_of_mem _ mem_cons_self
  obtain ⟨row, rfl, hname, hhas⟩ := answer_of_rivalry hc hmem (hdone _ hmem)
  obtain ⟨row', rfl, hname', hhas'⟩ := answer_of_rivalry hc hmem' (hdone _ hmem')
  refine ⟨_, _, htasks, disjoint_of_orderly hc.inv.1 hhas hhas' ?_⟩
  rw [hname, hname']
  exact hnames

theorem accepted_smallCell {name : String} {visibility : Int} (hname : name ≠ "")
    (hvisible : ∃ v, ApiserverVisibility.tryFrom visibility = some v) :
    (requestFor name visibility).Accepted smallCell :=
  ⟨hvisible, hname, ⟨0, rfl⟩, _, rfl⟩

theorem room_emptyCell : emptyCell.shared.db.RoomForTwo smallCell.network := by
  refine ⟨⟨10000, 10001, by decide, ⟨by decide, ?_⟩, by decide, ?_⟩, ⟨167772160, 24⟩, ⟨167772416, 24⟩, by decide,
    ⟨by decide +kernel, ?_⟩, by decide +kernel, ?_⟩
  all_goals
    intro k hk
    exact absurd hk not_mem_nil

/-- Both read the same free network; the private cluster loses it at its insert and gets the next one. -/
def bothAtOnce : List (Event Activity) := steps 0 2 ++ steps 1 2 ++ steps 0 3 ++ steps 1 8

theorem creates_compatible_smallCell :
    ∃ c, (cell smallCell).run (Cell.both smallCell emptyCell.shared
      (.createCluster (requestFor "alpha" 0) fun i => s!"c{i}")
      (.createCluster (requestFor "beta" 1) fun i => s!"d{i}")) bothAtOnce = some c ∧
    ∃ r r', c.tasks = [⟨.createCluster (requestFor "alpha" 0) fun i => s!"c{i}", .ret (.ok (.cluster r))⟩,
      ⟨.createCluster (requestFor "beta" 1) fun i => s!"d{i}", .ret (.ok (.cluster r'))⟩] ∧ r.Disjoint r' := by
  have hvalid : smallCell.network.validate = .ok () := by decide +kernel
  have hrun : (cell smallCell).run (Cell.both smallCell emptyCell.shared
      (.createCluster (requestFor "alpha" 0) fun i => s!"c{i}")
      (.createCluster (requestFor "beta" 1) fun i => s!"d{i}")) bothAtOnce = some _ :=
    Transition.run_eq_after (by decide +kernel)
  refine ⟨_, hrun, ?_⟩
  apply creates_compatible smallCell hvalid id [] emptyCell rfl (requestFor "alpha" 0) (requestFor "beta" 1)
    _ _ _ _ _ _ _
    room_emptyCell bothAtOnce _ _ _ hrun
  · decide +kernel
  · decide +kernel
  · decide +kernel
  · exact accepted_smallCell (by decide) ⟨_, rfl⟩
  · exact accepted_smallCell (by decide) ⟨_, rfl⟩
  · decide
  · intro e he
    simp only [bothAtOnce, steps, mem_append, mem_replicate] at he
    rcases he with ((⟨-, rfl⟩ | ⟨-, rfl⟩) | ⟨-, rfl⟩) | ⟨-, rfl⟩ <;> exact ⟨_, rfl⟩
  · decide +kernel

/-- Two private clusters: the second call is at `reserve_specific_ip` when the first one has the address. -/
def bothPrivate : List (Event Activity) := steps 0 2 ++ steps 1 2 ++ steps 0 3 ++ steps 1 2

/-- With room for both, one call returns ALREADY_EXISTS for an address it was never asked about. -/
theorem creates_incompatible : emptyCell.shared.db.RoomForTwo smallCell.network ∧
    ∃ c : Cell, (cell smallCell).run (Cell.both smallCell emptyCell.shared
      (.createCluster (requestFor "alpha" 1) fun i => s!"c{i}")
      (.createCluster (requestFor "beta" 1) fun i => s!"d{i}")) bothPrivate = some c ∧
    (c.tasks.all fun task => task.prog.finished) = true ∧
    (c.tasks.any fun task => match task.prog with
      | .ret (.error status) => status.code = .alreadyExists
      | _ => false) = true := by
  refine ⟨room_emptyCell, _, Transition.run_eq_after (by decide +kernel), ?_, ?_⟩
  · decide +kernel
  · decide +kernel

end BasisCell
