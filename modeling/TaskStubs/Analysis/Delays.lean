import TaskStubs.Analysis.Schedules

/-! What one longer task does to the report: `float` is the delay that no sink notices. -/

namespace TaskStubs.Analysis

open Function Relation Library.Walks Library.Scheduling

variable {V : Type} [DecidableEq V]

def DiGraph.delay (g : DiGraph V) (n : V) (δ : ℚ) : DiGraph V :=
  { g with attr := update g.attr n { g.attr n with duration := (g.attr n).duration.map (· + δ) } }

variable {g : DiGraph V} {n : V} {δ : ℚ}

@[simp] lemma delay_edge (u v : V) : (g.delay n δ).Edge u v ↔ g.Edge u v := Iff.rfl

lemma delay_attr_self : (g.delay n δ).attr n =
    { g.attr n with duration := (g.attr n).duration.map (· + δ) } :=
  update_self ..

lemma delay_attr_of_ne {v : V} (hv : v ≠ n) : (g.delay n δ).attr v = g.attr v := update_of_ne hv ..

lemma delay_duration_self (hn : g.Measured n) :
    ((g.delay n δ).attr n).duration = some (g.dur n + δ) := by
  rw [delay_attr_self, hn.1, Option.map_some]

lemma delay_dur (hn : g.Measured n) : (g.delay n δ).dur = update g.dur n (g.dur n + δ) := by
  funext v
  by_cases hv : v = n
  · subst hv
    rw [update_self, DiGraph.dur, delay_duration_self hn, Option.getD_some]
  · rw [update_of_ne hv, DiGraph.dur, delay_attr_of_ne hv, DiGraph.dur]

lemma delay_measured (ht : ∀ v ∈ g.nodes, g.Measured v) (hn : n ∈ g.nodes) :
    ∀ v ∈ (g.delay n δ).nodes, (g.delay n δ).Measured v := by
  intro v hv
  rw [DiGraph.Measured, delay_dur (ht n hn), DiGraph.time]
  by_cases he : v = n
  · subst he
    refine ⟨by rw [delay_duration_self (ht v hv), update_self], ?_⟩
    rw [delay_attr_self]
    exact (ht v hv).2
  · rw [update_of_ne he, delay_attr_of_ne he]
    exact ht v hv

namespace Solves

variable {root : V} {r r' : Report V} {est lst est' lst' : V → ℚ}
  (hacyclic : Acyclic g.Edge) (hn : n ∈ g.nodes) (hm : g.Measured n) (hδ : 0 ≤ δ)
  (h : Solves g root r est lst) (h' : Solves (g.delay n δ) root r' est' lst')

include hacyclic hm hδ h h' in
lemma finish_le_delayed {v : V} (hv : v ∈ g.nodes) : est v + g.dur v ≤ est' v + (g.delay n δ).dur v := by
  obtain ⟨u, p, hp, hw⟩ := h.heaviest_path hv
  have hle := (h'.heaviest v hv).2 ⟨u, p, hp.2, rfl⟩
  rw [delay_dur hm] at hle ⊢
  rw [← hw]
  exact (weight_le_update n hδ (hp.2.nodup (fun x _ => hacyclic x))).1.trans hle

include hacyclic hm hδ h h' in
lemma delayed_le_finish {v : V} (hv : v ∈ g.nodes) : est' v + (g.delay n δ).dur v ≤ est v + g.dur v + δ := by
  obtain ⟨u, p, hp, hw⟩ := h'.heaviest_path hv
  have hle := (h.heaviest v hv).2 ⟨u, p, hp.2, rfl⟩
  rw [← hw, delay_dur hm]
  have hδp := (weight_le_update (d := g.dur) n hδ (hp.2.nodup (fun x _ => hacyclic x))).2
  linarith

include hacyclic hn hm hδ h h' in
lemma sinks_unchanged (hf : δ ≤ lst n - est n) {t : V} (ht : t ∈ g.nodes) (hsink : g.Sink t) :
    est' t + (g.delay n δ).dur t = est t + g.dur t := by
  apply le_antisymm ?_ (finish_le_delayed hacyclic hm hδ h h' ht)
  obtain ⟨u, p, hp, hw⟩ := h'.heaviest_path ht
  rw [← hw, delay_dur hm]
  by_cases hmem : n ∈ p
  · rw [weight_update_of_mem n δ (hp.2.nodup (fun x _ => hacyclic x)) hmem]
    obtain ⟨q, s, hq, hs, rfl⟩ := hp.2.split hmem
    have hqle := (h.heaviest n hn).2 ⟨u, q, hq, rfl⟩
    have hsle := (h.least n hn).2 ⟨t, s, hs, hsink, rfl⟩
    rw [weight_append, hs.weight_tail]
    linarith
  · rw [weight_update_of_notMem n _ hmem]
    exact (h.heaviest t ht).2 ⟨u, p, hp.2, rfl⟩

include hacyclic hn hm h h' in
lemma float_le_of_unchanged (hsinks : ∀ t ∈ g.nodes, g.Sink t →
    est' t + (g.delay n δ).dur t = est t + g.dur t) : δ ≤ lst n - est n := by
  obtain ⟨t, p, hp, hsink, hl⟩ := (h.least n hn).1
  obtain ⟨u, q, hq, hqw⟩ := h.heaviest_path hn
  -- the heaviest walk to `n` followed by the tightest walk from it
  have hwalk := hq.2.append hp
  have hnodup := hwalk.nodup (fun x _ => hacyclic x)
  have hle := (h'.heaviest t (reaches_mem hn hp.reaches)).2 ⟨u, _, hwalk, rfl⟩
  rw [hsinks t (reaches_mem hn hp.reaches) hsink, delay_dur hm,
    weight_update_of_mem n δ hnodup (List.mem_append_left _ hq.2.last_mem), weight_append, hp.weight_tail] at hle
  linarith

end Solves

variable {topologicalSort : TopologicalSort V}

theorem float_tolerates_delay (hsort : Sorts topologicalSort) (g : DiGraph V) (hacyclic : Acyclic g.Edge)
    (ht : ∀ v ∈ g.nodes, g.Measured v) (root : V) (hroot : root ∈ g.nodes) (n : V) (hn : n ∈ g.nodes)
    (δ : ℚ) (hδ : 0 ≤ δ) :
    ∃ r r' float, criticalPathMethod topologicalSort g root = .ok r ∧
      criticalPathMethod topologicalSort (g.delay n δ) root = .ok r' ∧
      r.passes.float n = some ((float : ℚ) : WithTop ℚ) ∧
      ((∀ t ∈ g.nodes, g.Sink t → r'.passes.eft t = r.passes.eft t) ↔ δ ≤ float) ∧
      r.projectCompletionTime ≤ r'.projectCompletionTime ∧
      r'.projectCompletionTime ≤ r.projectCompletionTime + δ := by
  obtain ⟨r, est, lst, hr, h⟩ := criticalPathMethod_solves g hsort hacyclic ht hroot
  obtain ⟨r', est', lst', hr', h'⟩ := criticalPathMethod_solves (g.delay n δ) hsort hacyclic
    (delay_measured ht hn) hroot
  have hm := ht n hn
  refine ⟨r, r', lst n - est n, hr, hr', h.float_eq n hn, ?_, ?_, ?_⟩
  · have heft : ∀ t ∈ g.nodes, r'.passes.eft t = r.passes.eft t ↔
        est' t + (g.delay n δ).dur t = est t + g.dur t := by
      intro t htn
      rw [h.eft_eq t htn, h'.eft_eq t htn, Option.some_inj]
    refine ⟨?_, ?_⟩
    · intro hsinks
      exact Solves.float_le_of_unchanged hacyclic hn hm h h'
        (fun t htn hsink => (heft t htn).mp (hsinks t htn hsink))
    · intro hf t htn hsink
      exact (heft t htn).mpr (Solves.sinks_unchanged hacyclic hn hm hδ h h' hf htn hsink)
  · refine h.completion_least.2 ⟨h'.completion_nonneg, h.earliest, ?_⟩
    intro v hv
    exact (Solves.finish_le_delayed hacyclic hm hδ h h' hv).trans (h'.eft_le_completion hv)
  · refine h'.completion_least.2 ⟨add_nonneg h.completion_nonneg hδ, h'.earliest, ?_⟩
    intro v hv
    have hle := h.eft_le_completion hv
    have hd := Solves.delayed_le_finish hacyclic hm hδ h h' hv
    change est' v + (g.delay n δ).dur v ≤ _
    linarith

theorem float_tolerates_delay_twoSinks :
    ∃ r r' float, criticalPathMethod generationSort twoSinks 0 = .ok r ∧
      criticalPathMethod generationSort (twoSinks.delay 1 3) 0 = .ok r' ∧
      r.passes.float 1 = some ((float : ℚ) : WithTop ℚ) ∧
      ((∀ t ∈ twoSinks.nodes, twoSinks.Sink t → r'.passes.eft t = r.passes.eft t) ↔ 3 ≤ float) := by
  obtain ⟨r, r', float, hr, hr', hf, h, _⟩ := float_tolerates_delay generationSort_sorts twoSinks
    twoSinks_acyclic (fun v hv => (twoSinks_timed v hv).measured) 0 (by decide) 1 (by decide) 3 (by norm_num)
  exact ⟨r, r', float, hr, hr', hf, h⟩

end TaskStubs.Analysis
