import BasisCell.Agent.Handlers

/-!
# `BasisCell.Agent.Restart` — the GPUs of a VM that is restarted

`restart_vm` binds the GPUs of the record one by one, and when one fails undoes the others. `bind_vfio` takes a PCI
address and returns the path of a VFIO group; the rollback hands those paths to `unbind_vfio`, which takes an address
and whose errors are ignored. So nothing is undone.
-/

namespace BasisCell.Agent

open Conc Conc.Prog List

/-- The host, when each PCI address has an IOMMU group or a reason why `bind_vfio` fails. -/
def execGpus (group : String → Except String String) : (o : Op) → Host → Host × o.Resp
  | .cmd (.bindVfio pci), s =>
    match group pci with
    | .ok number => ({ s with vfio := pci :: s.vfio.filter (· ≠ pci) }, .ok s!"/dev/vfio/{number}")
    | .error e => (s, .error e)
  | o, s => o.exec s

def rollback (vfioDevices : List String) : Job Unit :=
  forEach vfioDevices fun bound => do let _ ← command (.unbindVfio bound)

/-- The loop of `restart_vm` over the GPUs; an error is the text of its `GpuBindFailed`. -/
def bindGpus (vfioDevices : List String) : List String → Job (Except String (List String))
  | [] => return .ok vfioDevices
  | addr :: addrs => do
    let result : Except String String ← command (.bindVfio addr)
    match result with
    | .ok path => bindGpus (vfioDevices ++ [path]) addrs
    | .error e =>
      rollback vfioDevices
      return .error s!"GPU {addr}: {e}"

variable {group : String → Except String String} {s : Host} {addr gpu e : String} {pre paths : List String}

theorem mem_rollback : gpu ∈ ((rollback paths).eval (execGpus group) s).1.vfio ↔ gpu ∈ s.vfio ∧ gpu ∉ paths := by
  induction paths generalizing s with
  | nil => exact (and_iff_left not_mem_nil).symm
  | cons path paths ih =>
    refine (ih (s := { s with vfio := s.vfio.filter (· ≠ path) })).trans ?_
    rw [mem_filter, decide_eq_true_iff, mem_cons, not_or, and_assoc]

/-- The loop up to the first GPU that cannot be bound, with what it has bound so far. -/
theorem bindGpus_failed (post : List String) (hpre : ∀ gpu ∈ pre, ∃ number, group gpu = .ok number)
    (hfail : group addr = .error e) (hpaths : ∀ path ∈ paths, '/' ∈ path.toList) : ∃ s',
      (bindGpus paths (pre ++ addr :: post)).eval (execGpus group) s = (s', .error s!"GPU {addr}: {e}") ∧
        ∀ gpu, '/' ∉ gpu.toList → gpu ∈ pre ∨ gpu ∈ s.vfio → gpu ∈ s'.vfio := by
  induction pre generalizing s paths with
  | nil =>
    refine ⟨((rollback paths).eval (execGpus group) s).1, ?_, ?_⟩
    · refine (eval_bind (command (.bindVfio addr)) _ s).trans ?_
      simp only [command, perform, eval, execGpus, hfail]
      exact eval_bind _ _ s
    · intro gpu hslash hgpu
      exact mem_rollback.mpr ⟨hgpu.resolve_left not_mem_nil, fun hpath => hslash (hpaths gpu hpath)⟩
  | cons first pre ih =>
    obtain ⟨number, hnumber⟩ := hpre first mem_cons_self
    have hpaths' : ∀ path ∈ paths ++ [s!"/dev/vfio/{number}"], '/' ∈ path.toList := by
      simpa [or_imp, forall_and, toString] using hpaths
    obtain ⟨s', hrun, hkept⟩ := ih (s := { s with vfio := first :: s.vfio.filter (· ≠ first) })
      (fun gpu hgpu => hpre gpu (mem_cons_of_mem first hgpu)) hpaths'
    refine ⟨s', ?_, fun gpu hslash hgpu => hkept gpu hslash ?_⟩
    · refine (eval_bind (command (.bindVfio first)) _ s).trans ?_
      simp only [command, perform, eval, execGpus, hnumber]
      exact hrun
    · by_cases heq : gpu = first
      · exact .inr (heq ▸ mem_cons_self)
      · simpa [heq] using hgpu

/-- **A failed restart keeps its GPUs**: it reports the one that cannot be bound, and all before it stay with
    `vfio-pci`. -/
theorem restart_keeps_gpus (group : String → Except String String) (s : Host) (pre post : List String) (addr e : String)
    (hpre : ∀ gpu ∈ pre, '/' ∉ gpu.toList ∧ ∃ number, group gpu = .ok number) (hfail : group addr = .error e) :
    ((bindGpus [] (pre ++ addr :: post)).eval (execGpus group) s).2 = .error s!"GPU {addr}: {e}" ∧
      ∀ gpu ∈ pre, gpu ∈ ((bindGpus [] (pre ++ addr :: post)).eval (execGpus group) s).1.vfio := by
  obtain ⟨s', hrun, hkept⟩ := bindGpus_failed (s := s) post (fun gpu hgpu => (hpre gpu hgpu).2) hfail
    fun _ hpath => (not_mem_nil hpath).elim
  rw [hrun]
  exact ⟨rfl, fun gpu hgpu => hkept gpu (hpre gpu hgpu).1 (.inl hgpu)⟩

theorem restart_keeps_gpus_first : "0000:41:00.0" ∈ ((bindGpus [] ["0000:41:00.0", "0000:81:00.0"]).eval
    (execGpus fun pci => if pci = "0000:41:00.0" then .ok "7" else .error "No such device")
    { images := fun _ => .error "no such image" }).1.vfio :=
  (restart_keeps_gpus _ _ ["0000:41:00.0"] [] "0000:81:00.0" "No such device"
    (forall_mem_singleton.mpr ⟨by decide, "7", rfl⟩) rfl).2 _ (mem_singleton_self _)

end BasisCell.Agent
