import BasisCell.Controller.Creates
import BasisCell.Controller.Effects

/-!
# `BasisCell.Controller.Leaks` — addresses without a row

`create_machine` and `create_cluster` allocate addresses before they insert the row that owns them, and
`ip_allocations` has no foreign key. While a create is under way its addresses may have no row; when it has
returned they have one, or are released. A create that is cancelled in between, or lost in a restart, leaves
them behind, and no other activity looks for them.

The invariant says who answers for an address: a row, or a task that holds it (`Course.Holds`). It survives
every operation; a drop or a restart may break it, and `Cell.strandsNothing` is the condition that it does not.
-/

namespace BasisCell

open Conc Relational List

/-! ## Who owns an address -/

/-- The VM or the cluster has its row. -/
def Db.Rowed (db : Db) : IpOwner → Prop
  | .vm id => ∃ v ∈ db.vms.rows, v.id = id
  | .cluster id => ∃ k ∈ db.clusters.rows, k.id = id

instance (db : Db) (owner : IpOwner) : Decidable (db.Rowed owner) := by
  unfold Db.Rowed
  split <;> infer_instance

/-- Every address names a VM or a cluster that has a row. -/
def Db.Leakless (db : Db) : Prop := ∀ a ∈ db.ipAllocations.rows, db.Rowed a.owner

instance (db : Db) : Decidable db.Leakless := inferInstanceAs (Decidable (∀ a ∈ db.ipAllocations.rows, _))

/-- The owners an activity allocates for. -/
def Activity.owners : Activity → List IpOwner
  | .createMachine _ vmId _ => [.vm vmId]
  | .createCluster _ ids => (List.ofFn ids).map .cluster
  | _ => []

/-- An address that the activity has taken has no row. -/
def Activity.strands (db : Db) (t : Activity) : Prop :=
  ∃ a ∈ db.ipAllocations.rows, a.owner ∈ t.owners ∧ ¬db.Rowed a.owner

instance (db : Db) (t : Activity) : Decidable (t.strands db) :=
  inferInstanceAs (Decidable (∃ a ∈ db.ipAllocations.rows, _))

/-- The condition on a run: no handler is cancelled, or lost in a restart, while an address it has taken has no
    row. -/
def Cell.strandsNothing (c : Cell) : Event Activity → Prop
  | .drop i => ∀ task ∈ c.tasks[i]?, ¬task.tag.strands c.shared.db
  | .crash => ∀ task ∈ c.tasks, task.prog.finished = false → ¬task.tag.strands c.shared.db
  | _ => True

instance (c : Cell) (e : Event Activity) : Decidable (c.strandsNothing e) := by
  unfold Cell.strandsNothing
  split <;> infer_instance

/-- What a create holds without a row. -/
def Course.Holds : Activity → Course → IpOwner → Prop
  | .createMachine _ vmId _, .addressed _, owner => owner = .vm vmId
  | .createCluster _ ids, .round id, owner => owner = .cluster id ∧ ∃ i, id = ids i
  | _, _, _ => False

/-- Some task answers for the owner. -/
def Held (tasks : List CellTask) (owner : IpOwner) : Prop :=
  ∃ task ∈ tasks, ∃ g, courses.At task g ∧ g.Holds task.tag owner

/-- The invariant: every create keeps to its course, and for every address a row or a task answers. -/
structure Answered (c : Cell) : Prop where
  phases : ∀ task ∈ c.tasks, ∃ g, courses.At task g
  answered : ∀ a ∈ c.shared.db.ipAllocations.rows, c.shared.db.Rowed a.owner ∨ Held c.tasks a.owner

/-! ## Steps -/

section Steps

variable {db : Db} {s : Shared} {w : Write} {t : Activity} {g : Course} {o : Op} {a : IpAllocation}
variable {owner : IpOwner}

theorem owners_of_holds (h : g.Holds t owner) : owner ∈ t.owners := by
  cases t with
  | createMachine req vmId picks =>
    cases g with
    | addressed k =>
      rw [show owner = .vm vmId from h]
      exact mem_singleton_self _
    | _ => cases h
  | createCluster req ids =>
    cases g with
    | round id =>
      obtain ⟨rfl, i, rfl⟩ := h
      exact mem_map_of_mem (mem_ofFn.mpr ⟨i, rfl⟩)
    | _ => cases h
  | _ => cases h

/-- **A row and the addresses of its owner go together.** An address that is left after a call still has the
    row it had. -/
theorem rowed_kept (ha : a ∈ (w.exec db).1.ipAllocations.rows) (h : db.Rowed a.owner) :
    (w.exec db).1.Rowed a.owner := by
  obtain ⟨ip, scope, owner⟩ := a
  cases owner with
  | vm id =>
    obtain ⟨v, hv, rfl⟩ := h
    obtain ⟨v', hv', hleaves⟩ | ⟨hostId, vnis, vmIds, rfl, hacked⟩ := Write.vms_kept (w := w) hv
    · exact ⟨v', hv', hleaves.same.id.symm⟩
    · -- an ack that deletes the row releases its addresses
      obtain ⟨-, hreleased, -⟩ := Db.mem_ipAllocations_ackTombstones.mp ha
      exact absurd rfl (hreleased v.id (of_decide_eq_true hacked).1)
  | cluster id =>
    obtain ⟨k, hk, rfl⟩ := h
    obtain ⟨k', hk', hsame⟩ | ⟨hostId, vnis, vmIds, rfl, hvni, hdrained⟩ := Write.clusters_kept (w := w) hk
    · exact ⟨k', hk', hsame.id.symm⟩
    · obtain ⟨-, -, hreleased⟩ := Db.mem_ipAllocations_ackTombstones.mp ha
      exact absurd ⟨k, hk, hvni, hdrained, rfl⟩ hreleased

/-- Whoever takes a new address holds it. -/
theorem holds_new (hallow : Proceeds t g (.write w)) (ha : a ∈ (w.exec db).1.ipAllocations.rows)
    (hnew : a ∉ db.ipAllocations.rows) : (g.next (.write w) (w.exec db).2).Holds t a.owner := by
  have hfor : w.allocatesFor = some a.owner := (Write.ipAllocations_new ha).resolve_left hnew
  -- the call went through, or nothing would be new
  have hok : ∀ e, (w.exec db).2 ≠ .error e := by
    intro e he
    rw [Write.exec_of_error he] at ha
    exact hnew ha
  cases hallow with
  | aside hun =>
    cases w with
    | allocatePoolVip | allocateClusterVmIp | reserveSpecificIp | allocateServiceBlock => cases g <;> cases hun
    | _ => cases hfor
  | @address req vmId picks k cluster =>
    cases hres : ((Write.allocateClusterVmIp cluster vmId).exec db).2 with
    | error e => exact absurd hres (hok e)
    | ok ip => exact (Option.some.inj hfor).symm
  | poolVip i hwithin | privateVip i hwithin | serviceBlock i hwithin =>
    rcases hwithin with rfl | rfl <;> exact ⟨(Option.some.inj hfor).symm, i, rfl⟩
  | _ => cases hfor

/-- **What a create holds, it holds on to until the row is in or the address is gone.** -/
theorem holds_next (hallow : Proceeds t g (.write w)) (h : g.Holds t a.owner)
    (ha : a ∈ (w.exec db).1.ipAllocations.rows) :
    (w.exec db).1.Rowed a.owner ∨ (g.next (.write w) (w.exec db).2).Holds t a.owner := by
  obtain ⟨ip, scope, owner⟩ := a
  cases hallow with
  | aside hun =>
    rw [Course.next_of_unnoticed hun]
    exact .inr h
  | @insert req vmId picks k vm gpus disks hid =>
    cases hins : ((Write.insertVm vm gpus disks).exec db).2 with
    | error e => exact .inr h
    | ok u =>
      obtain rfl : owner = .vm vmId := h
      exact .inl ⟨vm, Write.mem_of_insertVm hins, hid⟩
  | @giveBack req vmId picks k =>
    obtain rfl : owner = .vm vmId := h
    have hgone := (Table.mem_delete.mp ha).2
    exact absurd rfl (of_decide_eq_false hgone)
  | poolVip i hwithin | privateVip i hwithin | serviceBlock i hwithin =>
    rcases hwithin with rfl | rfl
    · cases h
    · exact .inr h
  | @insertCluster req ids row i hid =>
    cases hins : ((Write.insertCluster row).exec db).2 with
    | error e => exact .inr h
    | ok u =>
      obtain ⟨rfl, -⟩ := h
      exact .inl ⟨row, Write.mem_of_insertCluster hins, hid⟩
  | rollback i =>
    obtain ⟨rfl, -⟩ := h
    have hgone := (Table.mem_delete.mp ha).2
    exact absurd rfl (of_decide_eq_false hgone)
  | _ => cases h

/-- A create does not return with an address in hand. -/
theorem not_finished_of_holds {task : CellTask} (hat : courses.At task g)
    (h : g.Holds task.tag owner) : task.prog.finished ≠ true := by
  obtain ⟨t, p⟩ := task
  intro hfinished
  cases p with
  | call o k => cases hfinished
  | ret reply =>
    cases t with
    | createMachine req vmId picks =>
      cases g with
      | addressed k =>
        cases reply with
        | ok reply =>
          obtain ⟨vm, hg, -⟩ := hat
          cases hg
        | error status => rcases hat with hg | ⟨k, hg⟩ | hg <;> cases hg
      | _ => cases h
    | createCluster req ids =>
      cases g with
      | round id =>
        cases reply with
        | ok reply =>
          obtain ⟨row, r, hg, -⟩ := hat
          cases hg
        | error status => rcases hat with hg | ⟨row, hg⟩ <;> cases hg
      | _ => cases h
    | _ => cases h

variable {pre post : List CellTask} {started : List Activity}
variable {k : o.Resp → Handler (Except Status Reply)} {c c' : Cell} {e : Event Activity}

/-- An address is held by another task, or by the one that steps. -/
theorem held_cases {task : CellTask} (h : Held (pre ++ task :: post) owner) :
    (∀ task', Held (pre ++ task' :: post) owner) ∨ ∃ g, courses.At task g ∧ g.Holds task.tag owner := by
  obtain ⟨holder, hmem, g, hat, hholds⟩ := h
  rcases Machine.mem_middle.mp hmem with rfl | hother
  · exact .inr ⟨g, hat, hholds⟩
  · exact .inl fun task' => ⟨holder, Machine.mem_middle.mpr (.inr hother), g, hat, hholds⟩

/-- **One operation keeps the invariant.** -/
theorem answered_exec (h : Answered ⟨s, pre ++ ⟨t, .call o k⟩ :: post, started⟩)
    (ha : a ∈ (o.exec s).1.db.ipAllocations.rows) :
    (o.exec s).1.db.Rowed a.owner ∨ Held (pre ++ ⟨t, k (o.exec s).2⟩ :: post) a.owner := by
  have hself : (⟨t, k (o.exec s).2⟩ : CellTask) ∈
      pre ++ ⟨t, k (o.exec s).2⟩ :: post := mem_append_right _ mem_cons_self
  obtain ⟨g, hallow, hcont⟩ := h.phases ⟨t, .call o k⟩ (mem_append_right _ mem_cons_self)
  -- reads and map operations touch no table, and a holder takes no notice of them
  have idle : (∀ w, o ≠ .write w) → (o.exec s).1.db = s.db →
      (o.exec s).1.db.Rowed a.owner ∨ Held (pre ++ ⟨t, k (o.exec s).2⟩ :: post) a.owner := by
    intro hread hdb
    have hold : a ∈ s.db.ipAllocations.rows := by
      rw [← hdb]
      exact ha
    rw [hdb]
    refine (h.answered a hold).imp_right fun hheld => ?_
    rcases held_cases hheld with hother | ⟨g', ⟨hallow', hcont'⟩, hholds⟩
    · exact hother _
    · refine ⟨_, hself, _, hcont' _, ?_⟩
      have hun : g'.notices o = false := by
        cases hallow' with
        | aside hun => exact hun
        | find | look | await | read | lookCluster => cases hholds
        | _ => exact absurd rfl (hread _)
      show (g'.next o _).Holds t a.owner
      rw [Course.next_of_unnoticed hun]
      exact hholds
  cases o with
  | query q => exact idle (by rintro w ⟨⟩) rfl
  | mem m => exact idle (by rintro w ⟨⟩) (Op.exec_mem_db m s)
  | write w =>
    change a ∈ (w.exec s.db).1.ipAllocations.rows at ha
    show (w.exec s.db).1.Rowed a.owner ∨ _
    by_cases hold : a ∈ s.db.ipAllocations.rows
    · rcases h.answered a hold with hrowed | hheld
      · exact .inl (rowed_kept ha hrowed)
      · rcases held_cases hheld with hother | ⟨g', ⟨hallow', hcont'⟩, hholds⟩
        · exact .inr (hother _)
        · refine (holds_next hallow' hholds ha).imp_right fun hnext => ?_
          exact ⟨_, hself, _, hcont' _, hnext⟩
    · exact .inr ⟨_, hself, _, hcont _, holds_new hallow ha hold⟩

/-- Losing tasks that strand nothing keeps the invariant. -/
theorem answered_lose {tasks : List CellTask} {s' : Shared} (h : Answered c)
    (hphases : ∀ task ∈ tasks, ∃ g, courses.At task g) (hdb : s'.db = c.shared.db)
    (hlost : ∀ task ∈ c.tasks, task ∉ tasks → task.prog.finished = true ∨ ¬task.tag.strands c.shared.db) :
    Answered ⟨s', tasks, c.started⟩ := by
  refine ⟨hphases, fun a ha => ?_⟩
  change a ∈ s'.db.ipAllocations.rows at ha
  show s'.db.Rowed a.owner ∨ _
  rw [hdb] at ha ⊢
  by_cases hrowed : c.shared.db.Rowed a.owner
  · exact .inl hrowed
  · obtain ⟨task, htask, g, hat, hholds⟩ := (h.answered a ha).resolve_left hrowed
    refine .inr ⟨task, ?_, g, hat, hholds⟩
    by_contra hgone
    rcases hlost task htask hgone with hfinished | hstrands
    · exact not_finished_of_holds hat hholds hfinished
    · exact hstrands ⟨a, ha, owners_of_holds hholds, hrowed⟩

/-- **One event keeps the invariant**, unless it strands an address. -/
theorem answered_step {settings : Settings} (h : Answered c) (hcond : c.strandsNothing e)
    (hstep : (cell settings).Step c e c') : Answered c' := by
  have hphases := (courses_govern settings).phases_step h.phases hstep
  cases hstep with
  | spawn =>
    refine ⟨hphases, fun a ha => (h.answered a ha).imp_right fun ⟨task, htask, hholds⟩ => ?_⟩
    exact ⟨task, mem_append_left _ htask, hholds⟩
  | exec => exact ⟨hphases, fun a ha => answered_exec h ha⟩
  | @drop s pre post started t o k =>
    refine answered_lose h hphases rfl fun task htask hgone => .inr ?_
    rw [(Machine.mem_middle.mp htask).resolve_right hgone]
    refine hcond ⟨t, .call o k⟩ ?_
    rw [List.getElem?_append_right (Nat.le_refl _), Nat.sub_self]
    rfl
  | @crash s tasks started =>
    refine answered_lose h hphases rfl fun task htask hgone => .inr ?_
    apply hcond task htask
    by_contra hfinished
    exact hgone (mem_filter.mpr ⟨htask, by simpa using hfinished⟩)

end Steps

/-- `create_machine` and `create_cluster`. -/
def Activity.isCreate : Activity → Bool
  | .createMachine _ _ _ => true
  | .createCluster _ _ => true
  | _ => false

theorem isCreate_of_holds {t : Activity} {g : Course} {owner : IpOwner} (h : g.Holds t owner) : t.isCreate = true := by
  cases t <;> first | rfl | cases h

/-- No create is under way. -/
def Cell.createsDone (c : Cell) : Prop := ∀ task ∈ c.tasks, task.tag.isCreate = true → task.prog.finished = true

/-- Between creates, every address has its row. -/
theorem leakless_of_answered {c : Cell} (h : Answered c) (hdone : c.createsDone) : c.shared.db.Leakless := by
  intro a ha
  rcases h.answered a ha with hrowed | ⟨task, htask, g, hat, hholds⟩
  · exact hrowed
  · exact absurd (hdone task htask (isCreate_of_holds hholds)) (not_finished_of_holds hat hholds)

/-- **No address leaks** in a run that cancels or loses no create while an address of it has no row. -/
theorem no_address_leak (settings : Settings) (db : Db) (es : List (Event Activity)) (c : Cell) (hdb : db.Leakless)
    (hal : (cell settings).Along Cell.strandsNothing (Cell.start db) es)
    (hrun : (cell settings).run (Cell.start db) es = some c) (hdone : c.createsDone) : c.shared.db.Leakless := by
  have hstart : Answered (Cell.start db) :=
    ⟨forall_mem_nil _, fun a ha => .inl (hdb a ha)⟩
  exact leakless_of_answered (Machine.run_invariant (fun h hcond hstep => answered_step h hcond hstep) hstart hal hrun)
    hdone

instance (c : Cell) : Decidable c.createsDone := inferInstanceAs (Decidable (∀ task ∈ c.tasks, _))

/-- A create that is cancelled while it waits for the agent leaves its row behind, with its address. -/
theorem no_address_leak_smallCell :
    ∃ c : Cell, (cell smallCell).run (Cell.start (Db.create id)) (upToWaiting ++ [.drop 2]) = some c ∧
      c.shared.db.Leakless := by
  have hrun := run_reached (upToWaiting ++ [.drop 2]) (by decide +kernel)
  refine ⟨_, hrun, ?_⟩
  apply no_address_leak smallCell (Db.create id) _ _ _ _ hrun
  · decide +kernel
  · decide
  · decide +kernel

/-- **An address leaks.** `create_machine` is cancelled when it has allocated its address and not inserted its
    row. -/
theorem address_leaked :
    ∃ c : Cell, (cell smallCell).run (Cell.start (Db.create id))
        (upToCluster ++ .spawn createWorker :: steps 2 3 ++ [.drop 2]) = some c ∧
      Cell.createsDone c ∧ ¬c.shared.db.Leakless :=
  ⟨_, run_reached _ (by decide +kernel), by decide +kernel, by decide +kernel⟩

end BasisCell
