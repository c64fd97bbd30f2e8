import BasisCell.Agent.Network

/-!
# `BasisCell.Agent.NetEffects` — what a cluster's reconcile and tombstone do to the kernel

Runs on the kernel of `NetCmd.exec`, one section of the agent under its lock. Work for some clusters leaves the
devices of all others alone and takes their routes only by installing a route for the same prefix in the same
table: `Only` says so, exactly, together with the rules that were ensured. It composes (`Only.trans`), so the
description of a whole reconcile is put together from those of its commands.
-/

namespace BasisCell.Agent.Network

open Conc Conc.Prog Relational Table List

/-! ## Work for some clusters -/

/-- What the kernel keeps one route for. -/
def Route.key (r : Route) : Option Nat × String := (r.table, r.dst)

/-- A link route of a cluster. -/
def linkRoute (vni : Nat) (table : Option Nat) (dst : String) : Route := { table, dst, dev := vni }

/-- A rule is appended if it is not there. -/
def ensured (rules : List Rule) (rule : Rule) : List Rule := if rule ∈ rules then rules else rules ++ [rule]

/-- `k'` is `k` after work for the clusters `vs` in which link routes with the given keys were installed on
    their bridges and the given rules were ensured. -/
structure Only (vs : List Nat) (keys : List (Option Nat × String)) (rules : List Rule) (k k' : Kernel) : Prop where
  bridges : ∀ b : Bridge, b.vni ∉ vs → (b ∈ k'.bridges.rows ↔ b ∈ k.bridges.rows)
  vxlans : ∀ x : Vxlan, x.vni ∉ vs → (x ∈ k'.vxlans.rows ↔ x ∈ k.vxlans.rows)
  routes : ∀ r : Route, r.dev ∉ vs → (r ∈ k'.routes.rows ↔ r ∈ k.routes.rows ∧ r.key ∉ keys)
  own : ∀ r ∈ k'.routes.rows, r ∈ k.routes.rows ∨ r.dev ∈ vs ∧ r.key ∈ keys
  has : ∀ link, k.has link = true → k'.has link = true
  rules : k'.rules = rules.foldl ensured k.rules
  proxies : k'.proxies = k.proxies

theorem Kernel.hasBridge_iff {k : Kernel} {v : Nat} : k.hasBridge v = true ↔ ∃ b ∈ k.bridges.rows, b.vni = v := by
  simp [Kernel.hasBridge]

theorem Kernel.hasVxlan_iff {k : Kernel} {v : Nat} : k.hasVxlan v = true ↔ ∃ x ∈ k.vxlans.rows, x.vni = v := by
  simp [Kernel.hasVxlan]

theorem Kernel.hasVrf_iff {k : Kernel} {name : String} :
    k.hasVrf name = true ↔ ∃ x ∈ k.vrfs.rows, x.name = name := by
  simp [Kernel.hasVrf]

section Only

variable {vs ws : List Nat} {keys keys' : List (Option Nat × String)} {rules rules' : List Rule}
  {k k' k'' : Kernel} {v : Nat}

theorem Only.refl : Only vs [] [] k k where
  bridges := fun _ _ => Iff.rfl
  vxlans := fun _ _ => Iff.rfl
  routes := fun _ _ => ⟨fun h => ⟨h, not_mem_nil⟩, fun h => h.1⟩
  own := fun _ h => .inl h
  has := fun _ h => h
  rules := rfl
  proxies := rfl

theorem Only.trans (h : Only vs keys rules k k') (h' : Only ws keys' rules' k' k'') :
    Only (vs ++ ws) (keys ++ keys') (rules ++ rules') k k'' where
  bridges := by
    intro b hb
    rw [mem_append, not_or] at hb
    rw [h'.bridges b hb.2, h.bridges b hb.1]
  vxlans := by
    intro x hx
    rw [mem_append, not_or] at hx
    rw [h'.vxlans x hx.2, h.vxlans x hx.1]
  routes := by
    intro r hr
    rw [mem_append, not_or] at hr
    rw [h'.routes r hr.2, h.routes r hr.1, mem_append, not_or, and_assoc]
  own := by
    intro r hr
    rcases h'.own r hr with hr | ⟨hdev, hkey⟩
    · rcases h.own r hr with hr | ⟨hdev, hkey⟩
      · exact .inl hr
      · exact .inr ⟨mem_append_left _ hdev, mem_append_left _ hkey⟩
    · exact .inr ⟨mem_append_right _ hdev, mem_append_right _ hkey⟩
  has := fun link hlink => h'.has link (h.has link hlink)
  rules := by rw [h'.rules, h.rules, foldl_append]
  proxies := h'.proxies.trans h.proxies

/-- Only which clusters and keys there are counts. -/
theorem Only.congr (h : Only vs keys rules k k') (hvs : ∀ v, v ∈ vs ↔ v ∈ ws) (hkeys : ∀ x, x ∈ keys ↔ x ∈ keys') :
    Only ws keys' rules k k' where
  bridges := fun b hb => h.bridges b (fun hv => hb ((hvs _).mp hv))
  vxlans := fun x hx => h.vxlans x (fun hv => hx ((hvs _).mp hv))
  routes := by
    intro r hr
    rw [h.routes r (fun hv => hr ((hvs _).mp hv)), hkeys]
  own := fun r hr => (h.own r hr).imp_right fun ⟨hdev, hkey⟩ => ⟨(hvs _).mp hdev, (hkeys _).mp hkey⟩
  has := h.has
  rules := h.rules
  proxies := h.proxies

theorem Only.next (h : Only [v] keys rules k k') (h' : Only [v] keys' rules' k' k'') :
    Only [v] (keys ++ keys') (rules ++ rules') k k'' :=
  (h.trans h').congr (by simp) (fun _ => Iff.rfl)

/-- A key under which a route of these clusters is installed is theirs, also if the work has found it there. -/
theorem Only.claim (h : Only vs keys rules k k') (hheld : ∀ x ∈ keys', ∃ r ∈ k'.routes.rows, r.key = x ∧ r.dev ∈ vs) :
    Only vs (keys ++ keys') rules k k' :=
  { h with
    routes := by
      intro r hr
      rw [h.routes r hr, mem_append, not_or]
      constructor
      · rintro ⟨hrow, hkey⟩
        refine ⟨hrow, hkey, fun hclaimed => ?_⟩
        -- the kernel has one route for a key, and this one is on another bridge
        obtain ⟨r', hrow', hkey', hdev⟩ := hheld _ hclaimed
        have hafter : r ∈ k'.routes.rows := (h.routes r hr).mpr ⟨hrow, hkey⟩
        have heq : r' = r := eq_of_clash hrow' hafter
          ⟨congrArg Prod.fst hkey', congrArg Prod.snd hkey'⟩
        rw [heq] at hdev
        exact hr hdev
      · rintro ⟨hrow, hkey, -⟩
        exact ⟨hrow, hkey⟩
    own := fun r hr => (h.own r hr).imp_right fun ⟨hdev, hkey⟩ => ⟨hdev, mem_append_left _ hkey⟩ }

theorem only_routes (keys : List (Option Nat × String)) {routes : Table Route}
    (hothers : ∀ r : Route, r.dev ∉ vs → (r ∈ routes.rows ↔ r ∈ k.routes.rows ∧ r.key ∉ keys))
    (hown : ∀ r ∈ routes.rows, r ∈ k.routes.rows ∨ r.dev ∈ vs ∧ r.key ∈ keys) :
    Only vs keys [] k { k with routes } :=
  { (Only.refl : Only vs [] [] k k) with routes := hothers, own := hown }

variable {κ : Type}

theorem hasBridge_update {p : Bridge → Bool} {f : Bridge → Bridge} (hf : KeepsKey f) (hvni : ∀ b, (f b).vni = b.vni)
    (h : k.hasBridge v = true) : ({ k with bridges := k.bridges.update p f hf } : Kernel).hasBridge v = true :=
  Kernel.hasBridge_iff.mpr (exists_update hf hvni (Kernel.hasBridge_iff.mp h))

theorem only_setBridge {f : Bridge → Bridge} (hf : KeepsKey f) (hvni : ∀ b, (f b).vni = b.vni) :
    Only [v] [] [] k (k.setBridge v f hf) :=
  { (Only.refl : Only [v] [] [] k k) with
    bridges := fun b hb => mem_update_other hf (decide_eq_false fun h => hb (mem_singleton.mpr h))
      (fun b => by rw [hvni])
    has := by
      intro link h
      cases link with
      | bridge w => exact hasBridge_update hf hvni h
      | _ => exact h }

theorem only_setVxlan {f : Vxlan → Vxlan} (hf : KeepsKey f) (hvni : ∀ b, (f b).vni = b.vni) :
    Only [v] [] [] k (k.setVxlan v f hf) :=
  { (Only.refl : Only [v] [] [] k k) with
    vxlans := fun b hb => mem_update_other hf (decide_eq_false fun h => hb (mem_singleton.mpr h))
      (fun b => by rw [hvni])
    has := by
      intro link h
      cases link with
      | vxlan w => exact Kernel.hasVxlan_iff.mpr (exists_update hf hvni (Kernel.hasVxlan_iff.mp h))
      | _ => exact h }

theorem only_setVrf {name : String} {f : VrfLink → VrfLink} (hf : KeepsKey f) (hname : ∀ b, (f b).name = b.name) :
    Only [v] [] [] k (k.setVrf name f hf) :=
  { (Only.refl : Only [v] [] [] k k) with
    has := by
      intro link h
      cases link with
      | vrf other => exact Kernel.hasVrf_iff.mpr (exists_update hf hname (Kernel.hasVrf_iff.mp h))
      | _ => exact h }

theorem only_enslaved {vrf : String} : Only [v] [] [] k (k.enslaved v vrf) := by
  have hbridge : Only [v] [] [] k (k.setBridge v (fun b => { b with master := some vrf }) fun _ _ => Iff.rfl) :=
    only_setBridge _ fun _ => rfl
  refine (hbridge.next (only_routes [] ?_ ?_)).congr (fun _ => Iff.rfl) (fun _ => Iff.rfl)
  · intro r hr
    rw [mem_singleton] at hr
    split
    · rw [mem_delete]
      simp [hr, Kernel.setBridge]
    · simp [Kernel.setBridge]
  · intro r hr
    split at hr
    · exact .inl (mem_delete.mp hr).1
    · exact .inl hr

end Only

/-! ## Single commands -/

/-- The commands of a reconcile of cluster `v` that neither install a route nor append a rule. -/
def NetCmd.serves (v : Nat) : NetCmd → Bool
  | .linkAddBridge w | .linkAddVxlan w _ | .linkSetMtu (.bridge w) _ | .linkSetMtu (.vxlan w) _
  | .linkSetUp (.bridge w) | .linkSetUp (.vxlan w) | .enslave w _ | .attach w | .addrReplace w _
  | .routeDel w _ _ | .fdbAppend w _ | .fdbDel w _ => w = v
  | .linkAddVrf _ | .linkSetUp (.vrf _) | .linkSetMtu (.vrf _) _ => true
  | _ => false

variable {present : Bool}

theorem onObject_ok {α : Type} {k k' : Kernel} {out : α} (h : present = true) :
    onObject present k k' out = (k', .ok out) := if_pos h

@[elab_as_elim] theorem onObject_fst {α : Type} {P : Kernel → Prop} {k k' : Kernel} {out : α} (hk : P k) (hk' : P k') :
    P (onObject present k k' out).1 := by
  unfold onObject
  split
  · exact hk'
  · exact hk

@[elab_as_elim] theorem onNew_fst {α : Type} [Schema α] {P : Kernel → Prop} {table : Option (Table α)} {k : Kernel}
    {put : Table α → Kernel} (hk : P k) (hput : ∀ t, table = some t → P (put t)) : P (onNew table k put).1 := by
  cases table with
  | none => exact hk
  | some t => exact hput t rfl

/-- **One command.** -/
theorem only_exec {c : NetCmd} {v : Nat} {k : Kernel} (h : c.serves v = true) : Only [v] [] [] k (c.exec k).1 := by
  cases c with
  | linkAddBridge w =>
    obtain rfl : w = v := of_decide_eq_true h
    refine onNew_fst Only.refl fun bridges hins => ?_
    refine { (Only.refl : Only [w] [] [] k k) with bridges := fun b hb => ?_, has := fun link hlink => ?_ }
    · rw [mem_insert hins]
      refine or_iff_left fun heq => hb ?_
      rw [heq]
      exact mem_singleton_self w
    · cases link with
      | bridge u => exact Kernel.hasBridge_iff.mpr (exists_insert hins (Kernel.hasBridge_iff.mp hlink))
      | _ => exact hlink
  | linkAddVxlan w localAddress =>
    obtain rfl : w = v := of_decide_eq_true h
    refine onNew_fst Only.refl fun vxlans hins => ?_
    refine { (Only.refl : Only [w] [] [] k k) with vxlans := fun x hx => ?_, has := fun link hlink => ?_ }
    · rw [mem_insert hins]
      refine or_iff_left fun heq => hx ?_
      rw [heq]
      exact mem_singleton_self w
    · cases link with
      | vxlan u => exact Kernel.hasVxlan_iff.mpr (exists_insert hins (Kernel.hasVxlan_iff.mp hlink))
      | _ => exact hlink
  | linkAddVrf vrf =>
    refine onNew_fst Only.refl fun vrfs hins => { (Only.refl : Only [v] [] [] k k) with has := fun link hlink => ?_ }
    cases link with
    | vrf name => exact Kernel.hasVrf_iff.mpr (exists_insert hins (Kernel.hasVrf_iff.mp hlink))
    | _ => exact hlink
  | linkSetMtu link mtu | linkSetUp link =>
    cases link with
    | bridge w =>
      obtain rfl : w = v := of_decide_eq_true h
      exact onObject_fst Only.refl (only_setBridge _ fun _ => rfl)
    | vxlan w =>
      obtain rfl : w = v := of_decide_eq_true h
      exact onObject_fst Only.refl (only_setVxlan _ fun _ => rfl)
    -- `linkSetMtu` changes nothing of a VRF
    | vrf name => exact onObject_fst Only.refl (by first | exact only_setVrf _ fun _ => rfl | exact Only.refl)
  | enslave w vrf =>
    obtain rfl : w = v := of_decide_eq_true h
    exact onObject_fst Only.refl only_enslaved
  | attach w | fdbAppend w dst | fdbDel w dst =>
    obtain rfl : w = v := of_decide_eq_true h
    exact onObject_fst Only.refl (only_setVxlan _ fun _ => rfl)
  | addrReplace w address =>
    obtain rfl : w = v := of_decide_eq_true h
    exact onObject_fst Only.refl (only_setBridge _ fun _ => rfl)
  | routeDel w table dst =>
    obtain rfl : w = v := of_decide_eq_true h
    refine onObject_fst Only.refl (only_routes _ (fun r hr => ?_) fun r hr => .inl (mem_delete.mp hr).1)
    rw [mem_singleton] at hr
    rw [mem_delete]
    simp [hr]
  | _ => cases h

/-! ## Programs that leave the agent's memory alone -/

/-- The program succeeds from `s` and changes the kernel only; `Q` holds of its result and the new kernel. -/
def OnKernel {α : Type} (p : NetFallible α) (s : Net) (Q : α → Kernel → Prop) : Prop :=
  Succeeds NetOp.exec p s fun a s' => ∃ k', s' = { s with kernel := k' } ∧ Q a k'

section OnKernel

variable {α β : Type} {p : NetFallible α} {f : α → NetFallible β} {s : Net} {Q : α → Kernel → Prop}
  {R : β → Kernel → Prop} {c : NetCmd} {spec : NetSpec}

theorem OnKernel.mono (h : OnKernel p s Q) {Q' : α → Kernel → Prop} (hQ : ∀ a k', Q a k' → Q' a k') :
    OnKernel p s Q' :=
  Succeeds.mono h fun a _ ⟨k', hs', hq⟩ => ⟨k', hs', hQ a k' hq⟩

theorem onKernel_pure {a : α} (h : Q a s.kernel) : OnKernel (pure a) s Q := succeeds_pure ⟨s.kernel, rfl, h⟩

theorem OnKernel.bind (h : OnKernel p s Q) (hf : ∀ a k', Q a k' → OnKernel (f a) { s with kernel := k' } R) :
    OnKernel (p >>= f) s R := by
  refine Succeeds.bind h fun a s' hs' => ?_
  obtain ⟨k', rfl, hq⟩ := hs'
  exact hf a k' hq

theorem onKernel_ite {b : Prop} [Decidable b] {q : NetFallible α} (hp : b → OnKernel p s Q)
    (hq : ¬b → OnKernel q s Q) : OnKernel (if b then p else q) s Q := by
  by_cases h : b
  · rw [if_pos h]
    exact hp h
  · rw [if_neg h]
    exact hq h

theorem onKernel_forM {J : List β → Kernel → Prop} {f : β → NetFallible PUnit} {bs : List β}
    (hf : ∀ done b rest k, bs = done ++ b :: rest → J done k →
      OnKernel (f b) { s with kernel := k } fun _ k' => J (done ++ [b]) k')
    (hs : J [] s.kernel) : OnKernel (bs.forM f) s fun _ k' => J bs k' := by
  refine succeeds_forM (J := fun done s' => ∃ k', s' = { s with kernel := k' } ∧ J done k') ?_ ⟨s.kernel, rfl, hs⟩
  rintro done b rest _ hbs ⟨k, rfl, hJ⟩
  exact hf done b rest k hbs hJ

variable {out : c.Out}

theorem onKernel_runCmd {Q : c.Out → Kernel → Prop} (hok : (c.exec s.kernel).2 = .ok out)
    (h : Q out (c.exec s.kernel).1) : OnKernel (runCmd spec c) s Q := by
  refine OnKernel.bind (Q := fun r k' => r = .ok out ∧ k' = (c.exec s.kernel).1) ?_ ?_
  · have hrun : (spawned c).run.eval NetOp.exec s =
        ({ s with kernel := (c.exec s.kernel).1 }, answer (c.exec s.kernel).2) := rfl
    rw [hok] at hrun
    exact ⟨_, _, hrun, _, rfl, rfl, rfl⟩
  · rintro _ _ ⟨rfl, rfl⟩
    exact onKernel_pure h

theorem onKernel_logged {Q : Unit → Kernel → Prop} (h : Q () (c.exec s.kernel).1) : OnKernel (logged c) s Q :=
  ⟨(), _, rfl, _, rfl, h⟩

theorem onKernel_show (h : c.exec s.kernel = onObject present s.kernel s.kernel out) :
    OnKernel (spawned c) s fun r k' =>
      r = (if present then .ok out else .error "Cannot find device") ∧ k' = s.kernel := by
  have hrun : (spawned c).run.eval NetOp.exec s =
      ({ s with kernel := (c.exec s.kernel).1 }, answer (c.exec s.kernel).2) := rfl
  rw [h] at hrun
  refine ⟨_, s, ?_, s.kernel, rfl, rfl, rfl⟩
  rw [hrun]
  cases present <;> rfl

end OnKernel

/-! ## `ensure_cluster_inner` -/

section Ensure

variable {spec : NetSpec} {s : Net} {v : Nat}

variable {link : Link} {add : NetFallible Unit} {cluster : ClusterState}

theorem linkExists_spec :
    OnKernel (linkExists link) s fun there k' => there = s.kernel.has link ∧ k' = s.kernel := by
  refine OnKernel.bind (onKernel_show rfl) ?_
  rintro _ _ ⟨rfl, rfl⟩
  cases hlink : s.kernel.has link with
  | true | false => exact onKernel_pure ⟨rfl, rfl⟩

/-- What is there stays as it is; what is missing is added. -/
theorem createMissing_spec {Q : Kernel → Prop} (hthere : s.kernel.has link = true → Q s.kernel)
    (hadd : s.kernel.has link = false → OnKernel add s fun _ k' => Q k') :
    OnKernel (createMissing link add) s fun _ k' => Q k' := by
  refine OnKernel.bind linkExists_spec ?_
  rintro _ _ ⟨rfl, rfl⟩
  cases hlink : s.kernel.has link with
  | true => exact onKernel_pure (hthere hlink)
  | false => exact hadd hlink

/-- The kernel has gone from `k₀` to `k` by work on cluster `v`, and has these links now. -/
structure Working (v : Nat) (links : List Link) (keys : List (Option Nat × String)) (rules : List Rule)
    (k₀ k : Kernel) : Prop where
  only : Only [v] keys rules k₀ k
  links : ∀ link ∈ links, k.has link = true

variable {links : List Link} {keys keys' : List (Option Nat × String)} {rules rules' : List Rule} {k₀ k : Kernel}

theorem Working.next (h : Working v links keys rules k₀ k) {k' : Kernel} (h' : Only [v] keys' rules' k k') :
    Working v links (keys ++ keys') (rules ++ rules') k₀ k' :=
  ⟨h.only.next h', fun link hlink => h'.has link (h.links link hlink)⟩

theorem Working.serve (h : Working v links keys rules k₀ k) {c : NetCmd} (hc : c.serves v = true) :
    Working v links keys rules k₀ (c.exec k).1 := by
  have hnext := h.next (only_exec hc)
  rwa [append_nil, append_nil] at hnext

theorem Working.weaken (h : Working v (link :: links) keys rules k₀ k) : Working v links keys rules k₀ k :=
  ⟨h.only, fun l hl => h.links l (mem_cons_of_mem _ hl)⟩

theorem onNew_insert {α : Type} [Schema α] {t : Table α} {r : α} {p : Table α → Kernel}
    (h : ∀ a ∈ t.rows, ¬ Schema.Clash a r) :
    ∃ t', t.insert r = some t' ∧ onNew (t.insert r) k p = (p t', .ok ()) := by
  obtain ⟨t', ht'⟩ := Option.isSome_iff_exists.mp (insert_isSome_iff.mpr h)
  exact ⟨t', ht', by rw [ht']; rfl⟩

variable (h : Working v links keys rules k₀ s.kernel)

include h

theorem Working.run {c : NetCmd} {out : c.Out} (hc : c.serves v = true)
    (hok : (c.exec s.kernel).2 = .ok out) :
    OnKernel (runCmd spec c) s fun _ k' => Working v links keys rules k₀ k' :=
  onKernel_runCmd hok (h.serve hc)

theorem Working.onLink {c : NetCmd} {k' : Kernel} {out : c.Out} (hlink : link ∈ links) (hc : c.serves v = true)
    (hexec : c.exec s.kernel = onObject (s.kernel.has link) s.kernel k' out) :
    OnKernel (runCmd spec c) s fun _ k' => Working v links keys rules k₀ k' :=
  h.run hc (congrArg Prod.snd (hexec.trans (onObject_ok (h.links link hlink))))

theorem Working.create (hadd : s.kernel.has link = false →
      OnKernel add s fun _ k' => Working v links keys rules k₀ k' ∧ k'.has link = true) :
    OnKernel (createMissing link add) s fun _ k' => Working v (link :: links) keys rules k₀ k' := by
  refine createMissing_spec (fun hthere => ⟨h.only, ?_⟩)
    fun hmissing => (hadd hmissing).mono fun _ k' hk' => ⟨hk'.1.only, ?_⟩
  · exact forall_mem_cons.mpr ⟨hthere, h.links⟩
  · exact forall_mem_cons.mpr ⟨hk'.2, hk'.1.links⟩

theorem ensureBridge_spec :
    OnKernel (ensureBridge spec v) s fun _ k' => Working v (.bridge v :: links) keys rules k₀ k' := by
  refine OnKernel.bind (h.create fun hmissing => ?_) fun _ k₁ h₁ => ?_
  · obtain ⟨bridges, hins, hexec⟩ := onNew_insert (k := s.kernel) (t := s.kernel.bridges) (r := { vni := v })
      (p := fun bridges => { s.kernel with bridges })
      fun b hb hclash => Bool.false_ne_true (hmissing.symm.trans (Kernel.hasBridge_iff.mpr ⟨b, hb, hclash⟩))
    refine onKernel_runCmd (c := .linkAddBridge v) (congrArg Prod.snd hexec) ⟨h.serve (decide_eq_true rfl), ?_⟩
    show Kernel.hasBridge (onNew _ _ _).1 v = true
    rw [hexec]
    exact Kernel.hasBridge_iff.mpr ⟨_, (mem_insert hins).mpr (.inr rfl), rfl⟩
  · refine OnKernel.bind (h₁.onLink mem_cons_self (decide_eq_true rfl) rfl) fun _ k₂ h₂ => ?_
    exact Working.onLink h₂ mem_cons_self (decide_eq_true rfl) rfl

theorem ensureVxlan_spec (hbridge : Link.bridge v ∈ links) :
    OnKernel (ensureVxlan spec v) s fun _ k' => Working v (.vxlan v :: links) keys rules k₀ k' := by
  refine OnKernel.bind (h.create fun hmissing => ?_) fun _ k₁ h₁ => ?_
  · obtain ⟨vxlans, hins, hexec⟩ := onNew_insert (k := s.kernel) (t := s.kernel.vxlans)
      (r := { vni := v, localAddress := spec.vtepAddress }) (p := fun vxlans => { s.kernel with vxlans })
      fun x hx hclash => Bool.false_ne_true (hmissing.symm.trans (Kernel.hasVxlan_iff.mpr ⟨x, hx, hclash⟩))
    refine OnKernel.bind (Q := fun _ k' => Working v (.vxlan v :: links) keys rules k₀ k') ?_ fun _ k₁ h₁ => ?_
    · refine onKernel_runCmd (c := .linkAddVxlan v spec.vtepAddress) (congrArg Prod.snd hexec) ?_
      have hserve := h.serve (c := .linkAddVxlan v spec.vtepAddress) (decide_eq_true rfl)
      refine ⟨hserve.only, forall_mem_cons.mpr ⟨?_, hserve.links⟩⟩
      show Kernel.hasVxlan (onNew _ _ _).1 v = true
      rw [hexec]
      exact Kernel.hasVxlan_iff.mpr ⟨_, (mem_insert hins).mpr (.inr rfl), rfl⟩
    · have hboth : (k₁.hasVxlan v && k₁.hasBridge v) = true := by
        rw [Bool.and_eq_true]
        exact ⟨h₁.links _ mem_cons_self, h₁.links _ (mem_cons_of_mem _ hbridge)⟩
      refine (Working.run (s := { s with kernel := k₁ }) h₁ (c := .attach v) (decide_eq_true rfl)
        (congrArg Prod.snd (onObject_ok hboth))).mono
        fun _ k' hk' => ⟨⟨hk'.only, fun link hlink => hk'.links link (mem_cons_of_mem _ hlink)⟩, ?_⟩
      exact hk'.links _ mem_cons_self
  · refine OnKernel.bind (h₁.onLink mem_cons_self (decide_eq_true rfl) rfl) fun _ k₂ h₂ => ?_
    exact Working.onLink h₂ mem_cons_self (decide_eq_true rfl) rfl

theorem ensureVrf_spec {vrf : TreeVrf} :
    OnKernel (ensureVrf spec vrf) s fun _ k' => Working v (.vrf vrf.name :: links) keys rules k₀ k' := by
  refine OnKernel.bind (h.create fun hmissing => ?_) fun _ k₁ h₁ => ?_
  · obtain ⟨vrfs, hins, hexec⟩ := onNew_insert (k := s.kernel) (t := s.kernel.vrfs)
      (r := { name := vrf.name, tableId := vrf.tableId }) (p := fun vrfs => { s.kernel with vrfs })
      fun x hx hclash => Bool.false_ne_true (hmissing.symm.trans (Kernel.hasVrf_iff.mpr ⟨x, hx, hclash⟩))
    refine onKernel_runCmd (c := .linkAddVrf vrf) (congrArg Prod.snd hexec) ⟨h.serve rfl, ?_⟩
    show Kernel.hasVrf (onNew _ _ _).1 vrf.name = true
    rw [hexec]
    exact Kernel.hasVrf_iff.mpr ⟨_, (mem_insert hins).mpr (.inr rfl), rfl⟩
  · exact h₁.onLink mem_cons_self rfl rfl

omit h

theorem ensureTreeVrf_spec (h : Working cluster.vni links keys rules k₀ s.kernel)
    (hbridge : Link.bridge cluster.vni ∈ links) :
    OnKernel (ensureTreeVrf spec cluster) s fun _ k' => Working cluster.vni links keys rules k₀ k' := by
  unfold ensureTreeVrf
  split
  · exact onKernel_pure h
  · rename_i vrf _
    refine OnKernel.bind (ensureVrf_spec h) fun _ k₁ h₁ => ?_
    have hboth : (k₁.hasBridge cluster.vni && k₁.hasVrf vrf.name) = true := by
      rw [Bool.and_eq_true]
      exact ⟨h₁.links _ (mem_cons_of_mem _ hbridge), h₁.links _ mem_cons_self⟩
    exact Working.run (s := { s with kernel := k₁ }) h₁.weaken (c := .enslave cluster.vni vrf.name)
      (decide_eq_true rfl) (congrArg Prod.snd (onObject_ok hboth))

theorem ensureBridgeAddress_spec (h : Working cluster.vni links keys rules k₀ s.kernel)
    (hbridge : Link.bridge cluster.vni ∈ links) :
    OnKernel (ensureBridgeAddress spec cluster) s fun _ k' => Working cluster.vni links keys rules k₀ k' := by
  refine onKernel_ite (fun _ => ?_) fun _ => onKernel_pure h
  exact h.onLink hbridge (decide_eq_true rfl) rfl

theorem ensureIptablesRule_spec {rule : Rule} (h : Working v links keys rules k₀ s.kernel) :
    OnKernel (ensureIptablesRule spec rule) s fun _ k' => Working v links keys (rules ++ [rule]) k₀ k' := by
  refine OnKernel.bind (onKernel_show rfl) ?_
  rintro _ _ ⟨rfl, rfl⟩
  by_cases hthere : rule ∈ s.kernel.rules
  · rw [decide_eq_true hthere]
    refine onKernel_pure ⟨{ h.only with rules := ?_ }, h.links⟩
    rw [foldl_append, ← h.only.rules]
    exact (if_pos hthere).symm
  · rw [decide_eq_false hthere]
    refine onKernel_runCmd (c := .ruleAppend rule) (show _ = Except.ok () from rfl)
      ⟨{ h.only with rules := ?_ }, h.links⟩
    rw [foldl_append, ← h.only.rules]
    exact (if_neg hthere).symm

/-- The rules that a reconcile of the cluster ensures. -/
def clusterRules (cluster : ClusterState) : List Rule :=
  if cluster.gatewayIp ≠ "" ∧ cluster.cidr ≠ "" then [.masquerade cluster.cidr, .clampMss cluster.cidr] else []

theorem ensureMasquerade_spec (h : Working v links keys rules k₀ s.kernel) :
    OnKernel (ensureMasquerade spec cluster) s fun _ k' =>
      Working v links keys (rules ++ clusterRules cluster) k₀ k' := by
  unfold ensureMasquerade clusterRules
  split
  · refine OnKernel.bind (ensureIptablesRule_spec h) fun _ k₁ h₁ => ?_
    refine (ensureIptablesRule_spec (s := { s with kernel := k₁ }) h₁).mono fun _ k' h' => ?_
    rwa [append_assoc] at h'
  · rw [append_nil]
    exact onKernel_pure h

theorem only_upsert {table : Option Nat} {dst : String} :
    Only [v] [(table, dst)] [] k { k with routes := k.routes.upsert (linkRoute v table dst) } := by
  refine only_routes _ (fun r hr => ?_) fun r hr => ?_
  · rw [mem_upsert]
    constructor
    · rintro (⟨hrow, hclash⟩ | rfl)
      · refine ⟨hrow, fun hkey => hclash ?_⟩
        rw [mem_singleton] at hkey
        exact ⟨congrArg Prod.fst hkey, congrArg Prod.snd hkey⟩
      · exact absurd (mem_singleton_self v) hr
    · rintro ⟨hrow, hkey⟩
      refine .inl ⟨hrow, fun ⟨htable, hdst⟩ => hkey ?_⟩
      rw [mem_singleton]
      exact Prod.ext htable hdst
  · rcases mem_upsert.mp hr with ⟨hrow, -⟩ | rfl
    · exact .inl hrow
    · exact .inr ⟨mem_singleton_self v, mem_singleton_self _⟩

/-- The key of the reply route. -/
def replyKeys (cluster : ClusterState) : List (Option Nat × String) :=
  if (treeVrf cluster).isSome ∧ cluster.gatewayIp ≠ "" ∧ cluster.cidr ≠ "" then [(none, cluster.cidr)] else []

theorem ensureReplyRoute_spec (h : Working cluster.vni links keys rules k₀ s.kernel)
    (hbridge : Link.bridge cluster.vni ∈ links) : OnKernel (ensureReplyRoute spec cluster) s fun _ k' =>
      Working cluster.vni links (keys ++ replyKeys cluster) rules k₀ k' := by
  refine onKernel_ite (fun hreply => ?_) fun hnone => ?_
  · rw [replyKeys, if_pos hreply]
    have hexec : NetCmd.exec (.replyRoute cluster.vni cluster.cidr) s.kernel = _ := onObject_ok (h.links _ hbridge)
    refine onKernel_runCmd (c := .replyRoute cluster.vni cluster.cidr) (congrArg Prod.snd hexec) ?_
    rw [hexec]
    have hnext := h.next (only_upsert : Only [cluster.vni] [(none, cluster.cidr)] [] s.kernel _)
    rwa [append_nil] at hnext
  · rw [replyKeys, if_neg hnone, append_nil]
    exact onKernel_pure h

theorem reconcileFdb_spec {peers : List String} (h : Working v links keys rules k₀ s.kernel)
    (hvxlan : Link.vxlan v ∈ links) :
    OnKernel (reconcileFdb spec v peers) s fun _ k' => Working v links keys rules k₀ k' := by
  unfold reconcileFdb
  refine OnKernel.bind (Q := fun _ k' => Working v links keys rules k₀ k') ?_ fun current k₁ h₁ => ?_
  · refine OnKernel.bind (onKernel_show rfl) ?_
    rintro _ _ ⟨rfl, rfl⟩
    have hthere : s.kernel.hasVxlan v = true := h.links _ hvxlan
    rw [hthere]
    exact onKernel_pure h
  · refine OnKernel.bind (Q := fun _ k' => Working v links keys rules k₀ k') ?_ fun _ k₂ h₂ => ?_
    · refine onKernel_forM (J := fun _ k => Working v links keys rules k₀ k) ?_ h₁
      intro done dst rest k _ hk
      exact Working.onLink (s := { s with kernel := k }) hk hvxlan (decide_eq_true rfl) rfl
    · refine onKernel_forM (J := fun _ k => Working v links keys rules k₀ k) ?_ h₂
      intro done dst rest k _ hk
      exact onKernel_logged (hk.serve (decide_eq_true rfl))

/-- **`ensure_cluster_inner` works on its cluster only** and leaves it with bridge and VXLAN device. -/
theorem ensureClusterInner_spec : OnKernel (ensureClusterInner spec cluster) s fun _ k' =>
      Working cluster.vni [.vxlan cluster.vni, .bridge cluster.vni] (replyKeys cluster) (clusterRules cluster)
        s.kernel k' := by
  have h₀ : Working cluster.vni [] [] [] s.kernel s.kernel := ⟨Only.refl, fun _ h => by cases h⟩
  unfold ensureClusterInner
  refine OnKernel.bind (ensureBridge_spec h₀) fun _ k₁ h₁ => ?_
  refine OnKernel.bind (ensureTreeVrf_spec (s := { s with kernel := k₁ }) h₁ mem_cons_self) fun _ k₂ h₂ => ?_
  refine OnKernel.bind (ensureVxlan_spec (s := { s with kernel := k₂ }) h₂ mem_cons_self) fun _ k₃ h₃ => ?_
  have hbridge : Link.bridge cluster.vni ∈ [Link.vxlan cluster.vni, .bridge cluster.vni] :=
    mem_cons_of_mem _ mem_cons_self
  refine OnKernel.bind (ensureBridgeAddress_spec (s := { s with kernel := k₃ }) h₃ hbridge) fun _ k₄ h₄ => ?_
  refine OnKernel.bind (ensureMasquerade_spec (s := { s with kernel := k₄ }) h₄) fun _ k₅ h₅ => ?_
  refine OnKernel.bind (ensureReplyRoute_spec (s := { s with kernel := k₅ }) h₅ hbridge) fun _ k₆ h₆ => ?_
  exact reconcileFdb_spec (s := { s with kernel := k₆ }) h₆ mem_cons_self

/-! ## The routes of a cluster -/

/-- The link routes of the bridge in one table are those to `P`, and its routes in other tables are as in `k₁`. -/
structure Routed (v : Nat) (table : Option Nat) (P : String → Prop) (k₁ k : Kernel) : Prop where
  here : ∀ dst, linkRoute v table dst ∈ k.routes.rows ↔ P dst
  elsewhere : ∀ r : Route, r.dev = v → r.table ≠ table → (r ∈ k.routes.rows ↔ r ∈ k₁.routes.rows)

section Routed

variable {table : Option Nat} {P : String → Prop} {k₁ : Kernel} {dst : String}

theorem Routed.congr (h : Routed v table P k₁ k) {P' : String → Prop} (hP : ∀ dst, P dst ↔ P' dst) :
    Routed v table P' k₁ k :=
  ⟨fun dst => (h.here dst).trans (hP dst), h.elsewhere⟩

theorem Routed.upsert (h : Routed v table P k₁ k) :
    Routed v table (fun d => P d ∨ d = dst) k₁ { k with routes := k.routes.upsert (linkRoute v table dst) } where
  here := by
    intro d
    rw [mem_upsert, h.here]
    constructor
    · rintro (⟨hd, -⟩ | heq)
      · exact .inl hd
      · exact .inr (congrArg Route.dst heq)
    · rintro (hd | rfl)
      · by_cases heq : d = dst
        · exact .inr (by rw [heq])
        · exact .inl ⟨hd, fun hclash => heq hclash.2⟩
      · exact .inr rfl
  elsewhere := by
    intro r hdev htable
    rw [mem_upsert, ← h.elsewhere r hdev htable]
    constructor
    · rintro (⟨hr, -⟩ | rfl)
      · exact hr
      · exact absurd rfl htable
    · intro hr
      exact .inl ⟨hr, fun hclash => htable hclash.1⟩

theorem Routed.del (h : Routed v table P k₁ k) :
    Routed v table (fun d => P d ∧ d ≠ dst) k₁ (NetCmd.exec (.routeDel v table dst) k).1 := by
  by_cases hthere : (k.routes.rows.any fun r => r.table = table ∧ r.dst = dst ∧ r.dev = v) = true
  · have hexec : (NetCmd.exec (.routeDel v table dst) k).1 =
        { k with routes := k.routes.delete fun r => r.table = table ∧ r.dst = dst ∧ r.dev = v } :=
      congrArg Prod.fst (onObject_ok hthere)
    rw [hexec]
    refine ⟨fun d => ?_, fun r hdev htable => ?_⟩
    · rw [mem_delete, h.here]
      simp [linkRoute]
    · rw [mem_delete, ← h.elsewhere r hdev htable]
      simp [htable]
  · -- there is nothing to delete
    have hexec : (NetCmd.exec (.routeDel v table dst) k).1 = k := congrArg Prod.fst (if_neg hthere)
    rw [hexec]
    refine h.congr fun d => ⟨fun hd => ⟨hd, fun heq => hthere ?_⟩, fun hd => hd.1⟩
    subst heq
    exact any_eq_true.mpr ⟨_, (h.here d).mpr hd, decide_eq_true ⟨rfl, rfl, rfl⟩⟩

theorem listKernelPrefixRoutes_spec (hbridge : s.kernel.hasBridge v = true) :
    OnKernel (listKernelPrefixRoutes v table) s fun out k' =>
      k' = s.kernel ∧ ∀ dst, dst ∈ out ↔ linkRoute v table dst ∈ s.kernel.routes.rows := by
  refine OnKernel.bind (onKernel_show rfl) ?_
  rintro _ _ ⟨rfl, rfl⟩
  rw [hbridge]
  refine onKernel_pure ⟨rfl, fun dst => ?_⟩
  simp only [mem_map, mem_filter, decide_eq_true_eq]
  constructor
  · rintro ⟨r, ⟨⟨hr, hdev, htable⟩, hvia⟩, rfl⟩
    obtain ⟨rtable, rdst, rdev, rvia⟩ := r
    cases hdev
    cases htable
    cases hvia
    exact hr
  · intro hr
    exact ⟨_, ⟨⟨hr, rfl, rfl⟩, rfl⟩, rfl⟩

/-- **The diff loops converge the link routes of a bridge in one table.** -/
theorem reconcileRoutes_spec {want : List String} (h : Working v links keys rules k₀ s.kernel)
    (hbridge : Link.bridge v ∈ links) :
    OnKernel (reconcileRoutes spec v table want) s fun _ k' =>
      Working v links (keys ++ want.map fun dst => (table, dst)) rules k₀ k' ∧
      Routed v table (· ∈ want) s.kernel k' := by
  unfold reconcileRoutes
  refine OnKernel.bind (listKernelPrefixRoutes_spec (h.links _ hbridge)) ?_
  rintro current _ ⟨rfl, hcurrent⟩
  have hstart : Routed v table (· ∈ current) s.kernel s.kernel := ⟨fun dst => (hcurrent dst).symm, fun _ _ _ => Iff.rfl⟩
  -- what is missing is added
  refine OnKernel.bind (Q := fun _ k' =>
      Working v links (keys ++ (want.filter (· ∉ current)).map fun dst => (table, dst)) rules k₀ k' ∧
      Routed v table (fun d => d ∈ current ∨ d ∈ want.filter (· ∉ current)) s.kernel k') ?_ ?_
  · refine onKernel_forM (J := fun done k => Working v links (keys ++ done.map fun dst => (table, dst)) rules k₀ k ∧
      Routed v table (fun d => d ∈ current ∨ d ∈ done) s.kernel k) ?_ ⟨?_, ?_⟩
    · intro done dst rest k _ hk
      have hexec : NetCmd.exec (.routeReplace v table dst) k = _ := onObject_ok (hk.1.links _ hbridge)
      refine onKernel_runCmd (c := .routeReplace v table dst) (congrArg Prod.snd hexec) ?_
      rw [hexec]
      refine ⟨?_, hk.2.upsert.congr fun d => ?_⟩
      · have hnext := hk.1.next (only_upsert : Only [v] [(table, dst)] [] k _)
        rwa [append_nil, append_assoc, ← map_singleton (f := fun dst => (table, dst)),
          ← map_append] at hnext
      · rw [mem_append, mem_singleton, or_assoc]
    · rw [map_nil, append_nil]
      exact h
    · exact hstart.congr fun d => (or_iff_left not_mem_nil).symm
  · -- and what is stale deleted
    rintro _ k₂ ⟨hwork, hrouted⟩
    refine OnKernel.mono (onKernel_forM (s := { s with kernel := k₂ })
      (J := fun done k => Working v links (keys ++ (want.filter (· ∉ current)).map fun dst => (table, dst)) rules k₀ k ∧
        Routed v table (fun d => (d ∈ current ∨ d ∈ want.filter (· ∉ current)) ∧ d ∉ done) s.kernel k)
      ?_ ⟨hwork, hrouted.congr fun d => (and_iff_left not_mem_nil).symm⟩) ?_
    · intro done dst rest k _ hk
      refine onKernel_logged ⟨hk.1.serve (decide_eq_true rfl), hk.2.del.congr fun d => ?_⟩
      rw [mem_append, mem_singleton, not_or, and_assoc]
    · rintro _ k₃ ⟨hwork₃, hrouted₃⟩
      have hfinal : Routed v table (· ∈ want) s.kernel k₃ := by
        refine hrouted₃.congr fun d => ?_
        simp only [mem_filter, decide_eq_true_eq]
        tauto
      refine ⟨⟨?_, hwork₃.links⟩, hfinal⟩
      -- routes that were there already hold their keys as well
      have hheld : ∀ x ∈ want.map fun dst => (table, dst), ∃ r ∈ k₃.routes.rows, r.key = x ∧ r.dev ∈ [v] := by
        intro x hx
        obtain ⟨d, hd, rfl⟩ := mem_map.mp hx
        exact ⟨_, (hfinal.here d).mpr hd, rfl, mem_singleton_self v⟩
      have hclaim := hwork₃.only.claim hheld
      refine hclaim.congr (fun _ => Iff.rfl) fun x => ?_
      simp only [mem_append, mem_map, mem_filter]
      tauto

end Routed

/-! ## One cluster of a reconcile -/

/-- The link routes of a cluster in the main table. -/
def mainRoutes (cluster : ClusterState) : List String :=
  wantMain cluster (lanPrefixes cluster.clusterVips) (expandTreePrefixes cluster.internalClusterVips)

/-- Its link routes in the table of its VRF. -/
def treeRoutes (cluster : ClusterState) : List String :=
  wantCombined cluster (lanPrefixes cluster.clusterVips) (expandTreePrefixes cluster.internalClusterVips)

def treeKeys (cluster : ClusterState) : List (Option Nat × String) :=
  match treeVrf cluster with
  | none => []
  | some vrf => (treeRoutes cluster).map fun dst => (some vrf.tableId, dst)

/-- Every key under which a reconcile of the cluster puts a route. -/
def clusterKeys (cluster : ClusterState) : List (Option Nat × String) :=
  replyKeys cluster ++ (mainRoutes cluster).map (fun dst => (none, dst)) ++ treeKeys cluster

theorem mem_clusterKeys {key : Option Nat × String} : key ∈ clusterKeys cluster ↔
    key.1 = none ∧ key.2 ∈ mainRoutes cluster ∨
      ∃ vrf, treeVrf cluster = some vrf ∧ key.1 = some vrf.tableId ∧ key.2 ∈ treeRoutes cluster := by
  obtain ⟨table, dst⟩ := key
  -- the reply route is one of the main table's
  have hreply : (table, dst) ∈ replyKeys cluster → table = none ∧ dst ∈ mainRoutes cluster := by
    unfold replyKeys mainRoutes wantMain
    split <;> simp_all
  have htree : (table, dst) ∈ treeKeys cluster ↔
      ∃ vrf, treeVrf cluster = some vrf ∧ table = some vrf.tableId ∧ dst ∈ treeRoutes cluster := by
    unfold treeKeys
    cases treeVrf cluster <;> simp [eq_comm, and_comm]
  rw [clusterKeys, mem_append, mem_append, htree]
  simp only [mem_map, Prod.mk.injEq, exists_eq_right_right]
  constructor <;> grind

/-- What the agent of `hostId` remembers of it. -/
def clusterLive (cluster : ClusterState) (hostId : HostId) : ClusterLive where
  vni := cluster.vni
  cidr := if cluster.cidr = "" then none else some cluster.cidr
  prefixes := treeRoutes cluster
  proxyArpAddrs := lanAddrs cluster.clusterVips hostId
  vrf := treeVrf cluster

/-- The cluster is on the host: its devices, and its link routes exactly. -/
structure Materialised (cluster : ClusterState) (k : Kernel) : Prop where
  bridge : k.hasBridge cluster.vni = true
  vxlan : k.hasVxlan cluster.vni = true
  main : ∀ dst, linkRoute cluster.vni none dst ∈ k.routes.rows ↔ dst ∈ mainRoutes cluster
  tree : ∀ vrf, treeVrf cluster = some vrf →
    ∀ dst, linkRoute cluster.vni (some vrf.tableId) dst ∈ k.routes.rows ↔ dst ∈ treeRoutes cluster

theorem reconcileVrfRoutes_spec (h : Working cluster.vni links keys rules k₀ s.kernel)
    (hbridge : Link.bridge cluster.vni ∈ links) :
    OnKernel (reconcileVrfRoutes spec cluster (treeRoutes cluster)) s fun _ k' =>
      Working cluster.vni links (keys ++ treeKeys cluster) rules k₀ k' ∧
      (∀ vrf, treeVrf cluster = some vrf → ∀ dst,
        linkRoute cluster.vni (some vrf.tableId) dst ∈ k'.routes.rows ↔ dst ∈ treeRoutes cluster) ∧
      ∀ dst, linkRoute cluster.vni none dst ∈ k'.routes.rows ↔
        linkRoute cluster.vni none dst ∈ s.kernel.routes.rows := by
  unfold reconcileVrfRoutes treeKeys
  cases hvrf : treeVrf cluster with
  | none =>
    refine onKernel_pure ⟨?_, ?_, fun _ => Iff.rfl⟩
    · rw [append_nil]
      exact h
    · intro vrf hsome
      cases hsome
  | some vrf =>
    refine (reconcileRoutes_spec h hbridge).mono fun _ k' ⟨hwork, hrouted⟩ => ⟨hwork, ?_, fun dst => ?_⟩
    · intro vrf' hsome
      cases hsome
      exact hrouted.here
    · exact hrouted.elsewhere _ rfl fun hnone => by cases hnone

/-- **A cluster of a reconcile** is materialised and remembered, and nobody else loses more than the routes whose
    keys it takes. -/
theorem reconcileCluster_spec : Succeeds NetOp.exec (reconcileCluster spec cluster) s fun _ s' =>
      ∃ k', s' = { s with kernel := k', live := s.live.put (clusterLive cluster s.hostId) } ∧
        Only [cluster.vni] (clusterKeys cluster) (clusterRules cluster) s.kernel k' ∧ Materialised cluster k' := by
  have hbridge : Link.bridge cluster.vni ∈ [Link.vxlan cluster.vni, .bridge cluster.vni] :=
    mem_cons_of_mem _ mem_cons_self
  unfold reconcileCluster
  refine Succeeds.bind (ensureClusterInner_spec) ?_
  rintro _ _ ⟨k₁, rfl, h₁⟩
  refine Succeeds.bind (succeeds_lift (Q := fun id s' => id = s.hostId ∧ s' = { s with kernel := k₁ }) ⟨rfl, rfl⟩) ?_
  rintro _ _ ⟨rfl, rfl⟩
  refine Succeeds.bind (reconcileRoutes_spec (s := { s with kernel := k₁ }) h₁ hbridge) ?_
  rintro _ _ ⟨k₂, rfl, h₂, hmain⟩
  refine Succeeds.bind (reconcileVrfRoutes_spec (s := { s with kernel := k₂ }) h₂ hbridge) ?_
  rintro _ _ ⟨k₃, rfl, h₃, htree, hsame⟩
  refine succeeds_lift ⟨k₃, rfl, h₃.only, ?_⟩
  exact
    { bridge := h₃.links _ hbridge
      vxlan := h₃.links _ mem_cons_self
      main := fun dst => (hsame dst).trans (hmain.here dst)
      tree := htree }

/-- What is materialised stays so while others are worked on who want none of its routes. -/
theorem Materialised.kept {vs : List Nat} {k' : Kernel} (h : Materialised cluster k)
    (honly : Only vs keys rules k k') (hvni : cluster.vni ∉ vs) (hkeys : ∀ x ∈ clusterKeys cluster, x ∉ keys) :
    Materialised cluster k' where
  bridge := honly.has (.bridge cluster.vni) h.bridge
  vxlan := honly.has (.vxlan cluster.vni) h.vxlan
  main := by
    intro dst
    rw [honly.routes _ hvni, h.main, and_iff_left_iff_imp]
    exact fun hdst => hkeys _ (mem_clusterKeys.mpr (.inl ⟨rfl, hdst⟩))
  tree := by
    intro vrf hvrf dst
    rw [honly.routes _ hvni, h.tree vrf hvrf, and_iff_left_iff_imp]
    exact fun hdst => hkeys _ (mem_clusterKeys.mpr (.inr ⟨vrf, hvrf, rfl, hdst⟩))

end Ensure

end BasisCell.Agent.Network
