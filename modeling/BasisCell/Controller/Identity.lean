import BasisCell.Controller.Discipline
import BasisCell.Controller.Effects

/-!
# `BasisCell.Controller.Identity` — identifiers are drawn once

A VM or a cluster has one row under its identifier in the whole life of the cell: the activity that minted
the identifier inserts the row, and nobody else can. After the row is gone its identifier does not come back,
so whatever is still said about it (an ack, a state report, an entry of the outbox) is about that one VM or
cluster.

`identity` is the proof outline behind this, with the identifiers of all rows ever inserted as its auxiliary
variable. It needs no condition on the run; the outlines of the following modules are layers on top of it.
-/

namespace BasisCell

open Conc Relational List

variable {s : Shared} {o : Op} {γ : List String} {x : String} {t : Activity} {g : Phase}

/-- Auxiliary variable: the identifiers of all rows that ever went in. -/
def noteInsert (γ : List String) : (o : Op) → o.Resp → List String
  | .write (.insertVm vm _ _), .ok _ => vm.id :: γ
  | .write (.insertCluster cluster), .ok _ => cluster.id :: γ
  | _, _ => γ

theorem subset_noteInsert {r : o.Resp} (h : x ∈ γ) : x ∈ noteInsert γ o r := by
  unfold noteInsert
  split
  · exact mem_cons_of_mem _ h
  · exact mem_cons_of_mem _ h
  · exact h

/-- Before the row of the activity is in. -/
def Phase.early : Phase → Bool
  | start => true
  | holding _ => true
  | _ => false

/-- Only the activity that minted an identifier inserts a row under it, and it is past its insert then. -/
theorem mem_noteInsert {r : o.Resp} (hallow : Allows t g o) (h : x ∈ noteInsert γ o r) :
    x ∈ γ ∨ x ∈ t.mints ∧ (t.next g o r).early = false := by
  unfold noteInsert at h
  split at h
  · rcases mem_cons.mp h with rfl | h
    · cases hallow with
      | insert hid => exact .inr ⟨hid ▸ mem_singleton_self _, rfl⟩
    · exact .inl h
  · rcases mem_cons.mp h with rfl | h
    · cases hallow with
      | insertCluster i hid => exact .inr ⟨hid ▸ mem_ofFn.mpr ⟨i, rfl⟩, rfl⟩
    · exact .inl h
  · exact .inl h

/-- What is known of the identifiers in the tables. -/
structure RowsNoted (started : List Activity) (γ : List String) (db : Db) : Prop where
  vms : ∀ r ∈ db.vms.rows, r.id ∈ γ
  clusters : ∀ k ∈ db.clusters.rows, k.id ∈ γ
  minted : ∀ x ∈ γ, ∃ t ∈ started, x ∈ t.mints

theorem RowsNoted.exec {started : List Activity} (h : RowsNoted started γ s.db) (ht : t ∈ started)
    (hallow : Allows t g o) : RowsNoted started (noteInsert γ o (o.exec s).2) (o.exec s).1.db where
  vms := by
    intro r' hr'
    cases o with
    | query q => exact h.vms r' hr'
    | mem m =>
      rw [Op.exec_mem_db] at hr'
      exact h.vms r' hr'
    | write w =>
      obtain ⟨r, hr, hsame⟩ | ⟨⟨gpus, disks, rfl⟩, u, hu⟩ := Write.vms_exec hr'
      · exact subset_noteInsert (hsame.same.id ▸ h.vms r hr)
      · rw [Op.exec_write_resp, hu]
        exact mem_cons_self
  clusters := by
    intro k' hk'
    cases o with
    | query q => exact h.clusters k' hk'
    | mem m =>
      rw [Op.exec_mem_db] at hk'
      exact h.clusters k' hk'
    | write w =>
      obtain ⟨k, hk, hsame⟩ | ⟨rfl, u, hu⟩ := Write.clusters_exec hk'
      · exact subset_noteInsert (hsame.id ▸ h.clusters k hk)
      · rw [Op.exec_write_resp, hu]
        exact mem_cons_self
  minted := by
    intro x hx
    rcases mem_noteInsert hallow hx with hx | ⟨hx, -⟩
    · exact h.minted x hx
    · exact ⟨t, ht, hx⟩

/-! ## The outline -/

theorem early_of_next {r : o.Resp} (h : (t.next g o r).early = true) : g.early = true := by
  have hmoves := next_moves t g o r
  generalize t.next g o r = g' at hmoves h
  cases hmoves <;> first | exact h | rfl

/-- A registration cleans up rows of its host that it has read. -/
theorem reaping_of_next {channel : Nat} {vms : List VmRow}
    (h : t.next g o (o.exec s).2 = .reaping channel vms) :
    g = .reaping channel vms ∨ ∃ hostId, vms = s.db.listVmsOnHost hostId := by
  have hmoves := next_moves t g o (o.exec s).2
  rw [h] at hmoves
  generalize hr : (o.exec s).2 = r at hmoves
  cases hmoves with
  | stay => exact .inl rfl
  | readRows => exact .inr ⟨_, hr.symm⟩

/-- Identifiers an activity has minted are unused until its row is in; rows it has read were inserted. -/
structure IdsKnown (t : Activity) (g : Phase) (γ : List String) : Prop where
  unused : g.early = true → ∀ x ∈ t.mints, x ∉ γ
  read : ∀ channel vms, g = .reaping channel vms → ∀ vm ∈ vms, vm.id ∈ γ

def identity : Outline Activity Op Op.Resp Shared Phase (List String) where
  aux := fun γ _ => noteInsert γ
  inv := fun started γ s => RowsNoted started γ s.db
  holds := fun t g γ _ => IdsKnown t g γ
  apart := Activity.Apart

/-- **Identifiers are drawn once**, whatever happens. -/
theorem identity_sound (settings : Settings) (C : Cell → Event Activity → Prop) :
    identity.Sound discipline (cell settings) C where
  governs := discipline_governs settings
  symm := Activity.Apart.symm
  spawn := by
    intro started γ s t hfresh hinv
    refine ⟨⟨hinv.vms, hinv.clusters, fun x hx => ?_⟩, ⟨fun _ x hx hx' => ?_, nofun⟩,
      fun t' ht' => Activity.apart_of_fresh hfresh ht'⟩
    · obtain ⟨t', ht', hm⟩ := hinv.minted x hx
      exact ⟨t', mem_cons_of_mem _ ht', hm⟩
    · obtain ⟨t', ht', hm⟩ := hinv.minted x hx'
      exact Activity.apart_of_fresh hfresh ht' x hm hx
  exec := by
    intro c γ i t g o hfires
    refine ⟨hfires.inv.exec hfires.known hfires.allowed, fun hearly x hx hx' => ?_, fun channel vms hg vm hvm => ?_⟩
    · rcases mem_noteInsert hfires.allowed hx' with hx' | ⟨-, hlate⟩
      · exact hfires.holds.unused (early_of_next hearly) x hx hx'
      · exact Bool.false_ne_true (hlate.symm.trans hearly)
    · rcases reaping_of_next hg with rfl | ⟨hostId, rfl⟩
      · exact subset_noteInsert (hfires.holds.read channel vms rfl vm hvm)
      · exact subset_noteInsert (hfires.inv.vms vm (mem_filter.mp hvm).1)
  frame := by
    intro c γ i t g o task g' hfires htask hapart hat hholds
    refine ⟨fun hearly x hx hx' => ?_,
      fun channel vms hg vm hvm => subset_noteInsert (hholds.read channel vms hg vm hvm)⟩
    rcases mem_noteInsert hfires.allowed hx' with hx' | ⟨hmint, -⟩
    · exact hholds.unused hearly x hx hx'
    · exact hapart x hmint hx
  reboot := id
  reboot_holds := id

/-- A fresh database knows no identifier. -/
theorem identity_start (effectiveCpu : Int → Int) :
    identity.inv [] [] (Shared.boot (Db.create effectiveCpu)) :=
  ⟨forall_mem_nil _, forall_mem_nil _,
    forall_mem_nil _⟩

/-! ## Lifetimes -/

/-- The VM has been there; a row under its identifier is its row, and implies `P`. -/
def lifetime (r : VmRow) (P : Prop) : Layer Activity Shared Phase (List String) where
  inv := fun _ γ s => r.id ∈ γ ∧ ∀ r' ∈ s.db.vms.rows, r'.id = r.id → r.SameVm r' ∧ P
  holds := fun _ _ _ _ => True

section Lifetime

variable {settings : Settings} {r : VmRow} {P : Prop} {c c' : Cell}

theorem lifetime_sound : (lifetime r P).SoundOver identity discipline (cell settings) fun _ _ => True where
  spawn := fun _ hinv => ⟨hinv.2, trivial⟩
  exec := by
    intro c γ i t g o hfires
    obtain ⟨-, hγ, hrows⟩ := hfires.inv
    refine ⟨⟨subset_noteInsert hγ, o.db_elim c.shared hrows ?_⟩, trivial⟩
    rintro w rfl r₂ hr₂ hid
    rcases Write.vms_exec hr₂ with ⟨r₁, hr₁, hleaves⟩ | ⟨⟨gpus, disks, rfl⟩, -⟩
    · obtain ⟨hsame, hP⟩ := hrows r₁ hr₁ (hleaves.same.id.trans hid)
      exact ⟨hsame.trans hleaves.same, hP⟩
    · -- a row goes in under an identifier that no row had
      have hknown := hfires.holds.1
      cases hfires.allowed with
      | insert hmint => exact absurd (hid ▸ hγ) (hknown.unused rfl _ (mem_singleton.mpr hmint))
  frame := fun _ _ _ _ _ => trivial
  reboot := fun h => h
  reboot_holds := fun h => h

theorem lifetime_run {es : List (Event Activity)} (hc : identity.Annotated discipline c γ) (hid : r.id ∈ γ)
    (hrows : ∀ r' ∈ c.shared.db.vms.rows, r'.id = r.id → r.SameVm r' ∧ P)
    (hrun : (cell settings).run c es = some c') : ∃ γ', identity.Annotated discipline c' γ' ∧ r.id ∈ γ' ∧
      ∀ r' ∈ c'.shared.db.vms.rows, r'.id = r.id → r.SameVm r' ∧ P := by
  obtain ⟨γ', h⟩ := Outline.annotated_run (lifetime_sound.sound (identity_sound settings _))
    ⟨⟨hc.inv, hid, hrows⟩, hc.known, hc.apart, fun _ h => (hc.phases _ h).imp fun _ h => ⟨h.1, h.2, trivial⟩⟩
    (Transition.along_of_forall fun _ _ => trivial) hrun
  exact ⟨γ', ⟨h.inv.1, h.known, h.apart, fun _ h' => (h.phases _ h').imp fun _ h => ⟨h.1, h.2.1⟩⟩, h.inv.2⟩

end Lifetime

/-- **A VM keeps its identity for life**: a later row under its identifier has its name, cluster, host and address; and
    once there is no row, there is none ever after. -/
theorem vm_identity_kept (settings : Settings) (effectiveCpu : Int → Int) (es₁ es₂ es₃ : List (Event Activity))
    (c₁ c₂ c₃ : Cell) (hrun₁ : (cell settings).run (Cell.start (Db.create effectiveCpu)) es₁ = some c₁)
    (hrun₂ : (cell settings).run c₁ es₂ = some c₂) (hrun₃ : (cell settings).run c₂ es₃ = some c₃)
    (r : VmRow) (hr : r ∈ c₁.shared.db.vms.rows) :
    (∀ r' ∈ c₂.shared.db.vms.rows, r'.id = r.id → r.SameVm r') ∧
      ((∀ r' ∈ c₂.shared.db.vms.rows, r'.id ≠ r.id) → ∀ r' ∈ c₃.shared.db.vms.rows, r'.id ≠ r.id) := by
  obtain ⟨γ, hc₁⟩ := Outline.annotated_run (identity_sound settings fun _ _ => True)
    (Outline.annotated_empty (identity_start effectiveCpu)) (Transition.along_of_forall fun _ _ => trivial) hrun₁
  have hself : ∀ r' ∈ c₁.shared.db.vms.rows, r'.id = r.id → r.SameVm r' ∧ True := by
    intro r' hr' hid
    rw [Table.eq_of_clash hr' hr (.inl hid)]
    exact ⟨.refl r, trivial⟩
  obtain ⟨γ', hc₂, hused, hsame⟩ := lifetime_run hc₁ (hc₁.inv.vms r hr) hself hrun₂
  refine ⟨fun r' hr' hid => (hsame r' hr' hid).1, fun hgone => ?_⟩
  obtain ⟨-, -, -, hnone⟩ :=
    lifetime_run (P := False) hc₂ hused (fun r' hr' hid => absurd hid (hgone r' hr')) hrun₃
  exact fun r' hr' hid => (hnone r' hr' hid).2

/-- A second cluster, with a machine. -/
def nextCluster : List (Event Activity) := .spawn createBeta :: steps 6 5 ++ placed "d0" "v2" 7

/-- The machine runs, is deleted and acked; another one takes its name. -/
theorem vm_identity_kept_machineLife : ∃ c₀ c₁ c₂ c₃ : Cell, ∃ r ∈ c₀.shared.db.vms.rows,
    (cell smallCell).run emptyCell upToWaiting = some c₀ ∧ (cell smallCell).run c₀ ranAndDeleted = some c₁ ∧
    (cell smallCell).run c₀ (ranAndDeleted ++ teardownAcked) = some c₂ ∧
    (cell smallCell).run c₂ nextCluster = some c₃ ∧ (∃ r' ∈ c₁.shared.db.vms.rows, r.SameVm r') ∧
    c₃.shared.db.vms.rows.map (·.name) = [r.name] ∧ ∀ r' ∈ c₃.shared.db.vms.rows, r'.id ≠ r.id := by
  obtain ⟨r, hr, hid, hname⟩ : ∃ r ∈ (reached upToWaiting).shared.db.vms.rows,
      r.id = "v1" ∧ r.name = "worker" := by decide +kernel
  have hwait := run_reached upToWaiting (by decide +kernel)
  have hdelete := run_on upToWaiting ranAndDeleted (by decide +kernel)
  have hack := run_on upToWaiting (ranAndDeleted ++ teardownAcked) (by decide +kernel)
  have hplace := run_on machineLife nextCluster (by decide +kernel)
  obtain ⟨r', hr', hid'⟩ : ∃ r' ∈ (reached (upToWaiting ++ ranAndDeleted)).shared.db.vms.rows,
      r'.id = "v1" := by decide +kernel
  have hsame := (vm_identity_kept smallCell id _ _ [] _ _ _ hwait hdelete rfl r hr).1 r' hr' (hid'.trans hid.symm)
  have hgone := (vm_identity_kept smallCell id _ _ _ _ _ _ hwait hack hplace r hr).2 (by rw [hid]; decide +kernel)
  exact ⟨_, _, _, _, r, hr, hwait, hdelete, hack, hplace, ⟨r', hr', hsame⟩, by rw [hname]; decide +kernel, hgone⟩

end BasisCell
