import BasisCell.Agent.Host

/-!
# `BasisCell.Agent.Effects` — what an operation leaves of a VM's resources

The resources of a VM that outlive an operation, and which operations can touch which (`Op.touches`); the
others leave a resource as it was (`same_of_untouched`). Of the ones that touch something, few make anything:
after an operation that does not, the host has nothing it did not have before (`sheds_exec`). So what a delete
has seen gone stays gone, whoever else deletes beside it.
-/

namespace BasisCell.Agent

open Relational List

namespace Host

/-- Is there a record of the VM? -/
def recorded (s : Host) (vmId : VmId) : Bool := s.localVms.rows.any fun r => r.vmId = vmId

def loaded (s : Host) (unit : String) : Bool := s.units.any fun u => u.name = unit

def running (s : Host) (unit : String) : Bool := s.units.any fun u => u.name = unit ∧ u.running = true

variable {s s' : Host}

theorem hasLv_iff {vg name : String} : s.hasLv vg name = true ↔ ∃ lv ∈ s.lvs, lv.vg = vg ∧ lv.name = name := by
  simp [hasLv]

theorem recorded_iff {vmId : VmId} : s.recorded vmId = true ↔ ∃ r ∈ s.localVms.rows, r.vmId = vmId := by
  simp [recorded]

theorem loaded_iff {unit : String} : s.loaded unit = true ↔ ∃ u ∈ s.units, u.name = unit := by
  simp [loaded]

theorem running_iff {unit : String} : s.running unit = true ↔ ∃ u ∈ s.units, u.name = unit ∧ u.running = true := by
  simp [running]

end Host

/-! ## What stays as it was -/

inductive Resource where
  | records | ledger | volumes | units | taps | pending

/-- Can the operation change the resource? -/
def Op.touches : Op → Resource → Bool
  | .sql (.insertVm _), .records | .sql (.deleteVm _), .records | .sql (.setStorageDisks _ _), .records => true
  | .sql (.insertReservation _), .ledger | .sql (.setReservation _ _), .ledger
  | .sql (.deleteReservation _), .ledger => true
  | .cmd (.lvremove _ _), .volumes | .cmd (.lvcreateSnapshot _ _ _), .volumes | .cmd (.lvcreate _ _ _), .volumes => true
  | .cmd (.systemdRun _ _), .units | .cmd (.systemctlStop _), .units | .cmd (.resetFailed _), .units => true
  | .cmd (.tuntapAdd _), .taps | .cmd (.linkDelete _), .taps => true
  | .mem (.markPending _), .pending | .mem (.clearPending _), .pending => true
  | _, _ => false

/-- Two hosts agree on a resource; of a volume only its name counts. -/
def Host.Same (s s' : Host) : Resource → Prop
  | .records => s'.localVms = s.localVms
  | .ledger => s'.reservations = s.reservations
  | .volumes => ∀ vg name, s'.hasLv vg name = s.hasLv vg name
  | .units => s'.units = s.units
  | .taps => s'.taps = s.taps
  | .pending => s'.pending = s.pending

theorem hasLv_lvextend {s : Host} {vg lv : String} {sizeGib : Nat} (vg' name : String) :
    (Op.exec (.cmd (.lvextend vg lv sizeGib)) s).1.hasLv vg' name = s.hasLv vg' name := by
  simp only [Op.exec, Cmd.exec]
  split
  · simp only [Host.hasLv, any_map]
    congr 1
    funext l
    by_cases h : l.vg = vg ∧ l.name = lv
    · simp [h]
    · simp [h]
  · rfl

/-- **Frame.** What an operation does not touch, it leaves as it was. -/
theorem same_of_untouched {s : Host} {o : Op} {res : Resource} (h : o.touches res = false) :
    s.Same (Op.exec o s).1 res := by
  cases o with
  | sql q =>
    cases q <;> simp only [Op.exec, Sql.exec] <;> try split
    all_goals cases res <;> first | rfl | exact fun _ _ => rfl | cases h
  | mem m =>
    cases m <;> simp only [Op.exec, Mem.exec] <;> try split
    all_goals cases res <;> first | rfl | exact fun _ _ => rfl | cases h
  | cmd c =>
    cases c with
    | lvextend vg lv sizeGib =>
      cases res with
      | volumes => exact hasLv_lvextend
      | _ =>
        simp only [Op.exec, Cmd.exec]
        split <;> rfl
    | _ =>
      simp only [Op.exec, Cmd.exec]
      repeat' split
      all_goals cases res <;> first | rfl | exact fun _ _ => rfl | cases h

/-! ## What is not made -/

/-- Operations after which there may be something that was not there. -/
def Op.creates : Op → Bool
  | .sql (.insertVm _) | .sql (.insertReservation _) => true
  | .cmd (.lvcreateSnapshot _ _ _) | .cmd (.lvcreate _ _ _) | .cmd (.systemdRun _ _) | .cmd (.tuntapAdd _) => true
  | .mem (.markPending _) => true
  | _ => false

/-- `s'` has nothing that `s` does not have. -/
structure Host.Sheds (s s' : Host) : Prop where
  recorded : ∀ vmId, s'.recorded vmId = true → s.recorded vmId = true
  reservations : ∀ r' ∈ s'.reservations.rows, ∃ r ∈ s.reservations.rows, r' = { r with state := r'.state }
  volumes : ∀ vg name, s'.hasLv vg name = true → s.hasLv vg name = true
  loaded : ∀ unit, s'.loaded unit = true → s.loaded unit = true
  running : ∀ unit, s'.running unit = true → s.running unit = true
  taps : ∀ tap ∈ s'.taps, tap ∈ s.taps
  pending : ∀ vmId ∈ s'.pending, vmId ∈ s.pending

namespace Host.Sheds

variable {s s' : Host}

theorem refl : s.Sheds s :=
  ⟨fun _ h => h, fun r h => ⟨r, h, rfl⟩, fun _ _ h => h, fun _ h => h, fun _ h => h, fun _ h => h, fun _ h => h⟩

theorem of_same (h : ∀ res, s.Same s' res) : s.Sheds s' where
  recorded := fun vmId hr => by
    rw [Host.recorded, h .records] at hr
    exact hr
  reservations := fun r hr => ⟨r, by rwa [h .ledger] at hr, rfl⟩
  volumes := fun vg name hv => (h .volumes vg name) ▸ hv
  loaded := fun unit hu => by
    rw [Host.loaded, h .units] at hu
    exact hu
  running := fun unit hu => by
    rw [Host.running, h .units] at hu
    exact hu
  taps := fun tap ht => by rwa [h .taps] at ht
  pending := fun vmId hp => by rwa [h .pending] at hp

end Host.Sheds

/-- **What an operation does not make is not there after it.** -/
theorem sheds_exec {s : Host} {o : Op} (h : o.creates = false) : s.Sheds (Op.exec o s).1 := by
  cases o with
  | sql q =>
    cases q with
    | insertVm | insertReservation => cases h
    | deleteVm vmId =>
      refine { Host.Sheds.refl with recorded := fun v hv => ?_ }
      obtain ⟨r, hr, hrv⟩ := Host.recorded_iff.mp hv
      exact Host.recorded_iff.mpr ⟨r, (Table.mem_delete.mp hr).1, hrv⟩
    | setStorageDisks vmId disks =>
      refine { Host.Sheds.refl with recorded := fun v hv => ?_ }
      obtain ⟨r', hr', hrv⟩ := Host.recorded_iff.mp hv
      obtain ⟨r, hr, rfl⟩ := mem_map.mp hr'
      refine Host.recorded_iff.mpr ⟨r, hr, ?_⟩
      rw [← hrv]
      split <;> rfl
    | setReservation id state =>
      refine { Host.Sheds.refl with reservations := fun r' hr' => ?_ }
      obtain ⟨r, hr, rfl⟩ := mem_map.mp hr'
      refine ⟨r, hr, ?_⟩
      split <;> rfl
    | deleteReservation id =>
      exact { Host.Sheds.refl with reservations := fun r hr => ⟨r, (Table.mem_delete.mp hr).1, rfl⟩ }
    | _ => exact .of_same fun res => same_of_untouched (by cases res <;> rfl)
  | mem m =>
    cases m with
    | markPending => cases h
    | clearPending vmId => exact { Host.Sheds.refl with pending := fun v hv => (mem_filter.mp hv).1 }
    | _ => exact .of_same fun res => same_of_untouched (by cases res <;> rfl)
  | cmd c =>
    cases c with
    | lvcreateSnapshot | lvcreate | systemdRun | tuntapAdd => cases h
    | lvremove vg lv =>
      refine { Host.Sheds.refl with volumes := fun vg' name hv => ?_ }
      obtain ⟨l, hl, hname⟩ := Host.hasLv_iff.mp hv
      exact Host.hasLv_iff.mpr ⟨l, (mem_filter.mp hl).1, hname⟩
    | systemctlStop unit =>
      refine { Host.Sheds.refl with loaded := fun v hv => ?_, running := fun v hv => ?_ }
      · obtain ⟨u', hu', hname⟩ := Host.loaded_iff.mp hv
        obtain ⟨u, hu, rfl⟩ := mem_map.mp hu'
        refine Host.loaded_iff.mpr ⟨u, hu, ?_⟩
        rw [← hname]
        split <;> rfl
      · obtain ⟨u', hu', hname, hrunning⟩ := Host.running_iff.mp hv
        obtain ⟨u, hu, rfl⟩ := mem_map.mp hu'
        split at hrunning
        · cases hrunning
        · rw [if_neg ‹_›] at hname
          exact Host.running_iff.mpr ⟨u, hu, hname, hrunning⟩
    | resetFailed unit =>
      refine { Host.Sheds.refl with loaded := fun v hv => ?_, running := fun v hv => ?_ }
      · obtain ⟨u, hu, hname⟩ := Host.loaded_iff.mp hv
        exact Host.loaded_iff.mpr ⟨u, (mem_filter.mp hu).1, hname⟩
      · obtain ⟨u, hu, hname⟩ := Host.running_iff.mp hv
        exact Host.running_iff.mpr ⟨u, (mem_filter.mp hu).1, hname⟩
    | linkDelete link => exact { Host.Sheds.refl with taps := fun tap ht => (mem_filter.mp ht).1 }
    | _ => exact .of_same fun res => same_of_untouched (by cases res <;> rfl)

/-! ## What is removed -/

section Removed

variable {s : Host}

theorem running_systemctlStop {unit : String} : (Op.exec (.cmd (.systemctlStop unit)) s).1.running unit = false := by
  rw [← Bool.not_eq_true, Host.running_iff]
  rintro ⟨u', hu', hname, hrunning⟩
  obtain ⟨u, -, rfl⟩ := mem_map.mp hu'
  split at hrunning
  · cases hrunning
  · rw [if_neg ‹_›] at hname
    contradiction

theorem loaded_resetFailed {unit : String} (h : s.running unit = false) :
    (Op.exec (.cmd (.resetFailed unit)) s).1.loaded unit = false := by
  rw [← Bool.not_eq_true, Host.loaded_iff]
  rintro ⟨u, hu, hname⟩
  obtain ⟨hu, hkept⟩ := mem_filter.mp hu
  have hrunning : u.running = true := by simpa [hname] using hkept
  rw [Host.running_iff.mpr ⟨u, hu, hname, hrunning⟩] at h
  cases h

theorem taps_linkDelete {link : String} : link ∉ (Op.exec (.cmd (.linkDelete link)) s).1.taps := by
  simp [Op.exec, Cmd.exec]

theorem hasLv_lvremove {vg lv : String} : (Op.exec (.cmd (.lvremove vg lv)) s).1.hasLv vg lv = false := by
  rw [← Bool.not_eq_true, Host.hasLv_iff]
  rintro ⟨l, hl, hname⟩
  simpa [hname] using (mem_filter.mp hl).2

theorem recorded_deleteVm {vmId : VmId} : (Op.exec (.sql (.deleteVm vmId)) s).1.recorded vmId = false := by
  simp [Op.exec, Sql.exec, Host.recorded]

end Removed

end BasisCell.Agent
