import BasisCell.Controller.Allocators

/-!
# `BasisCell.Controller.Orderly` — cluster rows hold what they name

In every state of every run the CIDRs of two clusters are apart, and every cluster row holds its apiserver's
address, public or private, and the addresses of its service block. The layer `holding` carries the second half
through `create_cluster`, as `external` does for pool addresses; it needs no bound on the size of a block.
-/

namespace BasisCell

open Conc Relational

/-- The addresses a cluster is reached under: its apiserver's, and those of its service block. -/
def ClusterRow.Uses (k : ClusterRow) (a : Ipv4Addr) : Prop :=
  a = k.controlPlaneEndpoint ∨ ∃ block, k.serviceBlockCidr = some block ∧ block.contains a = true

/-- CIDRs are apart, and every row holds its addresses. -/
structure Db.Orderly (db : Db) : Prop where
  apart : ∀ k ∈ db.clusters.rows, ∀ k' ∈ db.clusters.rows, k ≠ k' →
    ∀ a, ¬(k.cidr.contains a = true ∧ k'.cidr.contains a = true)
  held : ∀ k ∈ db.clusters.rows, ∀ a, k.Uses a → db.HeldBy k.id a

/-- Two rows of an orderly table share no address. -/
theorem Db.Orderly.eq_of_uses {db : Db} (h : db.Orderly) {k k' : ClusterRow} (hk : k ∈ db.clusters.rows)
    (hk' : k' ∈ db.clusters.rows) {a : Ipv4Addr} (ha : k.Uses a) (ha' : k'.Uses a) : k = k' := by
  obtain ⟨r, hr, hip, howner⟩ := h.held k hk a ha
  obtain ⟨r', hr', hip', howner'⟩ := h.held k' hk' a ha'
  have hsame : r = r' := Table.eq_of_clash hr hr' (hip.trans hip'.symm)
  rw [hsame, howner'] at howner
  exact Table.eq_of_clash hk hk' (.inl (IpOwner.cluster.inj howner).symm)

/-! ## The layer -/

section Holding

variable {settings : Settings}

/-- The addresses of a round, of a pool or not. -/
def possession : Holdings where
  front := fun db _ id _ endpoint => db.HeldBy id endpoint
  full := fun db _ id _ endpoint block => db.HeldBy id endpoint ∧ ∀ a, block.contains a = true → db.HeldBy id a
  row := fun db k => ∀ a, k.Uses a → db.HeldBy k.id a

def holding : Layer Activity Shared (Phase × Stage) (List String) where
  inv := fun _ _ s => ∀ k ∈ s.db.clusters.rows, ∀ a, k.Uses a → s.db.HeldBy k.id a
  holds := fun t g _ s => possession.hand s.db t g.1 g.2

theorem possession_lasting (net : NetworkConfig) : possession.Lasting net where
  front_mono := fun hfront hkeeps => hfront.mono hkeeps
  full_mono := fun hfull hkeeps => ⟨hfull.1.mono hkeeps, fun a ha => (hfull.2 a ha).mono hkeeps⟩
  row_mono := by
    intro db db' k k' hrow hkeeps hsame a ha
    rw [← hsame] at ha
    rw [← hsame.id]
    exact (hrow a ha).mono hkeeps
  poolVip := by
    intro db db' req id network pool ip _ _ hok
    obtain ⟨-, t, ht, rfl⟩ := Db.allocateFromRange_ok hok
    exact Db.held_of_insert ht
  privateVip := by
    intro db db' req id network scope _ hok
    obtain ⟨t, ht, rfl⟩ := Db.reserveSpecificIp_ok hok
    exact Db.held_of_insert ht
  row_of_full := by
    rintro db req id network endpoint block ⟨hfront, hblock⟩ a (rfl | ⟨block', hblock', hmem⟩)
    · exact hfront
    · cases hblock'
      exact hblock a hmem

/-- **Rows hold their addresses.** -/
theorem holding_sound (hvalid : settings.network.Valid) (C : Cell → Event Activity → Prop) :
    holding.SoundOver (slotted settings) (cellDiscipline settings) (cell settings) C where
  spawn := by
    intro started γ s t _ hinv
    refine ⟨hinv.2, ?_⟩
    show possession.hand s.db t .start t.firstStage
    cases t <;> trivial
  exec := by
    intro c γ i t g o hfires
    have hlast := possession_lasting settings.network
    obtain ⟨hrows, -⟩ := hfires.inv.1
    obtain ⟨hknown, -⟩ := hfires.holds.1
    obtain ⟨hallow, hgrant⟩ := hfires.allowed
    refine ⟨hlast.rows_exec hrows hknown hallow hgrant hfires.holds.2 hfires.inv.2,
      hlast.hand_next hrows hknown hallow hgrant hfires.holds.2 ?_⟩
    intro req ids id network endpoint pool db' block _ hpool hfront hok
    obtain ⟨hmem, -⟩ := NetworkConfig.mem_of_poolByName hpool
    have hheld := Db.held_of_block (Db.stop_lt_of_valid hvalid hmem) hok
    obtain ⟨k, start, t, -, -, -, -, -, -, hreserve, rfl⟩ := Db.allocateServiceBlock_ok hok
    exact ⟨hfront.mono fun r hr _ => Db.reserveBlock_rows hreserve ▸ List.mem_append_left _ hr, hheld⟩
  frame := by
    intro c γ i t g o task g' hfires _ hapart _ hholds
    obtain ⟨hrows, -⟩ := hfires.inv.1
    obtain ⟨hknown', -⟩ := hholds.1
    refine (possession_lasting settings.network).hand_stays hrows hknown' hholds.2 fun id hid ho => ?_
    subst ho
    obtain ⟨hknown, -⟩ := hfires.holds.1
    exact hapart id (unused_of_rollback hknown hfires.allowed.1).1 hid
  reboot := id
  reboot_holds := id

end Holding

/-- **The tables of every run are orderly**, and its rows have minted identifiers. -/
theorem orderly_run {settings : Settings} (hvalid : settings.network.Valid) {effectiveCpu : Int → Int}
    {es : List (Event Activity)} {c : Cell}
    (hrun : (cell settings).run (Cell.start (Db.create effectiveCpu)) es = some c) :
    c.shared.db.Orderly ∧ ∀ k ∈ c.shared.db.clusters.rows, ∃ t ∈ c.started, k.id ∈ t.mints := by
  have hsound := (holding_sound hvalid fun _ _ => True).sound (slotted_sound hvalid fun _ _ => True)
  have hstart : ((slotted settings).layered holding).inv [] [] (Shared.boot (Db.create effectiveCpu)) :=
    ⟨slotted_start settings effectiveCpu, List.forall_mem_nil _⟩
  obtain ⟨γ, hc⟩ := Outline.annotated_run hsound (Outline.annotated_empty hstart)
    (Transition.along_of_forall fun _ _ => trivial) hrun
  obtain ⟨⟨hnoted, hcarved⟩, hheld⟩ := hc.inv
  refine ⟨⟨fun k hk k' hk' hne a ha => ?_, hheld⟩, fun k hk => ?_⟩
  · exact hne (eq_of_cidrs_meet hvalid hcarved hk hk' ha.1 ha.2)
  · exact hnoted.minted k.id (hnoted.clusters k hk)

end BasisCell
