import TaskStubs.Analysis.Slack

/-! A node without slack lies on a longest path exactly when all sinks finish last together. -/

namespace TaskStubs.Analysis

open Library.Walks

variable {V : Type} {g : DiGraph V}

def OnLongestPath (g : DiGraph V) (completion : ℚ) (n : V) : Prop :=
  ∃ u v p, g.Path u v p ∧ n ∈ p ∧ weight g.dur p = completion

def SinksFinishTogether (g : DiGraph V) : Prop :=
  ∀ t ∈ g.nodes, g.Sink t → ∃ u p, g.Path u t p ∧
    ∀ u' v' q, g.Path u' v' q → weight g.dur q ≤ weight g.dur p

namespace Solves

variable {root : V} {r : Report V} {est lst : V → ℚ}

lemma sink_critical (h : Solves g root r est lst) {t : V} (ht : t ∈ g.nodes) (hs : g.Sink t) :
    t ∈ r.criticalPath := by
  have hl := (h.least t ht).unique (least_from_sink (d := g.dur) (fun t => est t + g.dur t) t hs)
  exact (h.mem_criticalPath t).mpr ⟨ht, by linarith⟩

lemma together_of_sound (h : Solves g root r est lst)
    (hsound : ∀ n ∈ r.criticalPath, OnLongestPath g r.projectCompletionTime n) :
    SinksFinishTogether g := by
  intro t ht hs
  obtain ⟨u, v, p, hp, hn, hw⟩ := hsound t (h.sink_critical ht hs)
  obtain ⟨q, s, hq, hs', rfl⟩ := hp.2.split hn
  -- the path stops at the sink
  have hv : s = [t] := by
    cases hs' with
    | single => rfl
    | cons he _ => exact (hs _ he).elim
  subst hv
  refine ⟨u, q, ⟨hp.1, hq⟩, ?_⟩
  intro u' v' q' hq'
  rw [List.tail_cons, List.append_nil] at hw
  exact (h.weight_le_completion hq').trans hw.ge

lemma sound_of_together (h : Solves g root r est lst) (ht : ∀ v ∈ g.nodes, g.Timed v)
    (hroot : root ∈ g.nodes) (htogether : SinksFinishTogether g) {n : V} (hn : n ∈ r.criticalPath) :
    OnLongestPath g r.projectCompletionTime n := by
  obtain ⟨hnn, hfloat⟩ := (h.mem_criticalPath n).mp hn
  obtain ⟨t, s, hs, hsink, hx⟩ := (h.least n hnn).1
  have htn := reaches_mem hnn hs.reaches
  obtain ⟨u, p, hp, hw⟩ := h.heaviest_path hnn
  obtain ⟨u', p', hp', hmax⟩ := htogether t htn hsink
  obtain ⟨a, b, q, hq, hqw⟩ := (h.completion_greatest ht hroot).1
  have hle : r.projectCompletionTime ≤ est t + g.dur t :=
    hqw ▸ (hmax a b q hq).trans ((h.heaviest t htn).2 ⟨u', p', hp'.2, rfl⟩)
  have heq := le_antisymm (h.eft_le_completion htn) hle
  refine ⟨u, t, p ++ s.tail, ⟨hp.1, hp.2.append hs⟩, List.mem_append_left _ hp.2.last_mem, ?_⟩
  rw [weight_append, hs.weight_tail, hw, ← heq]
  linarith

end Solves

theorem critical_path_sound_iff [DecidableEq V] {topologicalSort : TopologicalSort V}
    (hsort : Sorts topologicalSort) (g : DiGraph V) (hacyclic : Acyclic g.Edge)
    (ht : ∀ v ∈ g.nodes, g.Timed v) (root : V) (hroot : root ∈ g.nodes) :
    ∃ r, criticalPathMethod topologicalSort g root = .ok r ∧
      ((∀ n ∈ r.criticalPath, OnLongestPath g r.projectCompletionTime n) ↔ SinksFinishTogether g) := by
  obtain ⟨r, est, lst, hr, h⟩ := criticalPathMethod_solves g hsort hacyclic
    (fun v hv => (ht v hv).measured) hroot
  exact ⟨r, hr, h.together_of_sound, fun htogether n hn => h.sound_of_together ht hroot htogether hn⟩

theorem critical_path_sound_iff_twoSinks :
    ∃ r, criticalPathMethod generationSort twoSinks 0 = .ok r ∧
      ((∀ n ∈ r.criticalPath, OnLongestPath twoSinks r.projectCompletionTime n) ↔
        SinksFinishTogether twoSinks) :=
  critical_path_sound_iff generationSort_sorts twoSinks twoSinks_acyclic twoSinks_timed 0 (by decide)

theorem short_sink_reported :
    Acyclic twoSinks.Edge ∧ (∀ v ∈ twoSinks.nodes, twoSinks.Timed v ∧ twoSinks.Reaches 0 v) ∧
      ∃ r, criticalPathMethod generationSort twoSinks 0 = .ok r ∧ 1 ∈ r.criticalPath ∧
        ¬ OnLongestPath twoSinks r.projectCompletionTime 1 := by
  refine ⟨twoSinks_acyclic, ?_, ?_⟩
  · intro v hv
    refine ⟨twoSinks_timed v hv, ?_⟩
    have he : v = 0 ∨ twoSinks.Edge 0 v :=
      (by decide : ∀ v ∈ twoSinks.nodes, v = 0 ∨ twoSinks.Edge 0 v) v hv
    rcases he with rfl | he
    · exact .refl
    · exact .single he
  · obtain ⟨r, est, lst, hr, h⟩ := criticalPathMethod_solves twoSinks generationSort_sorts
      twoSinks_acyclic (fun v hv => (twoSinks_timed v hv).measured) (by decide : 0 ∈ twoSinks.nodes)
    have hrun : (criticalPathMethod generationSort twoSinks 0).toOption.map
        (fun r => (r.criticalPath, r.projectCompletionTime, r.passes.eft 1)) =
          some ([0, 1, 2], 6, some 3) := by decide +kernel
    rw [hr] at hrun
    obtain ⟨hc, hrun⟩ := Prod.mk.inj (Option.some.inj hrun)
    obtain ⟨hp, he⟩ := Prod.mk.inj hrun
    rw [h.eft_eq 1 (by decide)] at he
    have heft := Option.some.inj he
    refine ⟨r, hr, by rw [hc]; decide, ?_⟩
    rintro ⟨u, v, p, hpath, hn, hw⟩
    obtain ⟨q, s, hq, hs, rfl⟩ := hpath.2.split hn
    have hle := (h.heaviest 1 (by decide)).2 ⟨u, q, hq, rfl⟩
    have hs' : s = [1] := by
      cases hs with
      | single => rfl
      | @cons _ w _ _ he _ =>
        exact absurd he ((by decide : ∀ e ∈ twoSinks.edges, e.1 ≠ 1) (1, w) · rfl)
    subst hs'
    rw [List.tail_cons, List.append_nil, hp] at hw
    linarith

end TaskStubs.Analysis
