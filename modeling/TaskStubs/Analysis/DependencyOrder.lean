import TaskStubs.Analysis.Slack
import TaskStubs.Library.Insertion

/-! The order of the reported critical path is that of `graph.nodes`, not that of the dependencies. -/

namespace TaskStubs.Analysis

open Library.Walks Library.Insertion Library.Loops

variable {V : Type} {g : DiGraph V}

def OnHeaviestPath (g : DiGraph V) (n : V) : Prop :=
  ∃ t u p, g.Sink t ∧ g.Path u t p ∧ n ∈ p ∧ ∀ u' q, g.Path u' t q → weight g.dur q ≤ weight g.dur p

def EndsLongestPath (g : DiGraph V) (n : V) : Prop :=
  ∃ u p, g.Path u n p ∧ ∀ u' v' q, g.Path u' v' q → weight g.dur q ≤ weight g.dur p

/-- Among the nodes on heaviest paths, `graph.nodes` lists no node before one it depends on,
and lists last a node at which a longest path ends. -/
structure ListedInOrder (g : DiGraph V) : Prop where
  dependencies : ∀ u v, OnHeaviestPath g u → OnHeaviestPath g v → u ≠ v → g.Reaches u v →
    [u, v].Sublist g.nodes
  last : ∃ pre n post, g.nodes = pre ++ n :: post ∧ OnHeaviestPath g n ∧
    (∀ w ∈ post, ¬ OnHeaviestPath g w) ∧ EndsLongestPath g n

lemma OnHeaviestPath.mem {n : V} (h : OnHeaviestPath g n) : n ∈ g.nodes := by
  obtain ⟨t, u, p, _, hp, hn, _⟩ := h
  exact hp.mem_nodes hn

namespace Solves

variable {root : V} {r : Report V} {est lst : V → ℚ}

lemma float_zero_iff (h : Solves g root r est lst) {n : V} (hn : n ∈ g.nodes) :
    lst n = est n ↔ OnHeaviestPath g n := by
  refine ⟨?_, ?_⟩
  · intro heq
    obtain ⟨t, s, hs, hsink, hx⟩ := (h.least n hn).1
    obtain ⟨u, p, hp, hw⟩ := h.heaviest_path hn
    refine ⟨t, u, p ++ s.tail, hsink, ⟨hp.1, hp.2.append hs⟩, List.mem_append_left _ hp.2.last_mem, ?_⟩
    intro u' q hq
    have hle := (h.heaviest t (reaches_mem hn hs.reaches)).2 ⟨u', q, hq.2, rfl⟩
    rw [weight_append, hs.weight_tail, hw]
    linarith
  · rintro ⟨t, u, p, hsink, hp, hnp, hmax⟩
    obtain ⟨q, s, hq, hs, rfl⟩ := hp.2.split hnp
    obtain ⟨u', q', hq', hw'⟩ := h.heaviest_path hp.last_mem_nodes
    have hge := hmax u' q' hq'
    have hlst := (h.least n hn).2 ⟨t, s, hs, hsink, rfl⟩
    have hqle := (h.heaviest n hn).2 ⟨u, q, hq, rfl⟩
    rw [weight_append, hs.weight_tail] at hge
    exact le_antisymm (by linarith) (h.est_le_lst hn)

lemma mem_criticalPath_iff (h : Solves g root r est lst) (n : V) :
    n ∈ r.criticalPath ↔ OnHeaviestPath g n := by
  rw [h.mem_criticalPath]
  refine ⟨?_, ?_⟩
  · exact fun hn => (h.float_zero_iff hn.1).mp hn.2
  · exact fun hn => ⟨hn.mem, (h.float_zero_iff hn.mem).mpr hn⟩

lemma endsLongestPath_iff (h : Solves g root r est lst) (ht : ∀ v ∈ g.nodes, g.Timed v)
    (hroot : root ∈ g.nodes) {n : V} (hn : n ∈ g.nodes) :
    EndsLongestPath g n ↔ est n + g.dur n = r.projectCompletionTime := by
  refine ⟨?_, ?_⟩
  · rintro ⟨u, p, hp, hmax⟩
    obtain ⟨u', v', q, hq, hqw⟩ := (h.completion_greatest ht hroot).1
    have hle := hmax u' v' q hq
    have hpn := (h.heaviest n hn).2 ⟨u, p, hp.2, rfl⟩
    exact le_antisymm (h.eft_le_completion hn) (by linarith)
  · intro heq
    obtain ⟨u, p, hp, hw⟩ := h.heaviest_path hn
    refine ⟨u, p, hp, ?_⟩
    intro u' v' q hq
    rw [hw, heq]
    exact h.weight_le_completion hq

lemma before_iff (h : Solves g root r est lst) (u v : V) :
    [u, v].Sublist r.criticalPath ↔
      OnHeaviestPath g u ∧ OnHeaviestPath g v ∧ [u, v].Sublist g.nodes := by
  rw [← h.mem_criticalPath_iff, ← h.mem_criticalPath_iff]
  refine ⟨?_, ?_⟩
  · intro hs
    refine ⟨hs.subset (by simp), hs.subset (by simp), ?_⟩
    rw [h.critical_eq] at hs
    exact hs.trans List.filter_sublist
  · rintro ⟨hu, hv, hs⟩
    rw [h.critical_eq] at hu hv ⊢
    have hf := hs.filter (fun v => lst v = est v)
    rwa [List.filter_cons_of_pos (List.of_mem_filter hu), List.filter_cons_of_pos (List.of_mem_filter hv)] at hf

lemma last_iff (h : Solves g root r est lst) (n : V) :
    r.criticalPath.getLast? = some n ↔ ∃ pre post, g.nodes = pre ++ n :: post ∧ OnHeaviestPath g n ∧
      ∀ w ∈ post, ¬ OnHeaviestPath g w := by
  rw [h.critical_eq, getLast?_filter_eq_some_iff]
  refine exists_congr fun pre => exists_congr fun post => and_congr_right ?_
  intro hsplit
  have hnode : ∀ w ∈ n :: post, (decide (lst w = est w) = true ↔ OnHeaviestPath g w) := by
    intro w hw
    rw [decide_eq_true_eq]
    exact h.float_zero_iff (by rw [hsplit]; exact List.mem_append_right _ hw)
  refine and_congr (hnode n List.mem_cons_self) (forall₂_congr ?_)
  intro w hw
  rw [hnode w (List.mem_cons_of_mem _ hw)]

end Solves

theorem dependency_order_iff [DecidableEq V] {topologicalSort : TopologicalSort V}
    (hsort : Sorts topologicalSort) (g : DiGraph V) (hacyclic : Acyclic g.Edge)
    (ht : ∀ v ∈ g.nodes, g.Timed v) (root : V) (hroot : root ∈ g.nodes) :
    ∃ r, criticalPathMethod topologicalSort g root = .ok r ∧
      (((∀ u v, u ∈ r.criticalPath → v ∈ r.criticalPath → u ≠ v → g.Reaches u v →
          [u, v].Sublist r.criticalPath) ∧
        ∃ last, r.criticalPath.getLast? = some last ∧
          r.passes.eft last = some r.projectCompletionTime) ↔ ListedInOrder g) := by
  obtain ⟨r, est, lst, hr, h⟩ := criticalPathMethod_solves g hsort hacyclic
    (fun v hv => (ht v hv).measured) hroot
  refine ⟨r, hr, ?_⟩
  refine ⟨?_, ?_⟩
  · rintro ⟨hdep, last, hlast, heft⟩
    obtain ⟨pre, post, hsplit, hon, hpost⟩ := (h.last_iff last).mp hlast
    rw [h.eft_eq last hon.mem] at heft
    refine ⟨?_, pre, last, post, hsplit, hon, hpost, ?_⟩
    · intro u v hu hv hne hreach
      have hs := hdep u v ((h.mem_criticalPath_iff u).mpr hu) ((h.mem_criticalPath_iff v).mpr hv) hne hreach
      exact ((h.before_iff u v).mp hs).2.2
    · exact (h.endsLongestPath_iff ht hroot hon.mem).mpr (Option.some.inj heft)
  · rintro ⟨hdep, pre, last, post, hsplit, hon, hpost, hends⟩
    refine ⟨?_, last, (h.last_iff last).mpr ⟨pre, post, hsplit, hon, hpost⟩, ?_⟩
    · intro u v hu hv hne hreach
      rw [h.mem_criticalPath_iff] at hu hv
      exact (h.before_iff u v).mpr ⟨hu, hv, hdep u v hu hv hne hreach⟩
    · rw [h.eft_eq last hon.mem, (h.endsLongestPath_iff ht hroot hon.mem).mp hends]

theorem dependency_order_iff_twoSinks :
    ∃ r, criticalPathMethod generationSort twoSinks 0 = .ok r ∧
      (((∀ u v, u ∈ r.criticalPath → v ∈ r.criticalPath → u ≠ v → twoSinks.Reaches u v →
          [u, v].Sublist r.criticalPath) ∧
        ∃ last, r.criticalPath.getLast? = some last ∧
          r.passes.eft last = some r.projectCompletionTime) ↔ ListedInOrder twoSinks) :=
  dependency_order_iff generationSort_sorts twoSinks twoSinks_acyclic twoSinks_timed 0 (by decide)

def childFirst : DiGraph ℕ where
  nodes := [1, 0]
  attr v := { duration := some ([2, 3].getD v 0), ts := some ([0, 2].getD v 0) }
  edges := [(0, 1)]
  nodes_nodup := by decide
  edges_nodup := by decide
  edges_mem := by decide

theorem child_listed_first :
    Acyclic childFirst.Edge ∧ (∀ v ∈ childFirst.nodes, childFirst.Timed v ∧ childFirst.Reaches 0 v) ∧
      ∃ r, criticalPathMethod generationSort childFirst 0 = .ok r ∧ r.criticalPath = [1, 0] ∧
        childFirst.Reaches 0 1 ∧ r.passes.eft 0 = some 2 ∧ r.projectCompletionTime = 5 := by
  have hreach : childFirst.Reaches 0 1 := .single (by decide : childFirst.Edge 0 1)
  refine ⟨?_, ?_, ?_⟩
  · exact acyclic_of_rank id (fun u v h => (by decide : ∀ e ∈ childFirst.edges, e.1 < e.2) (u, v) h)
  · intro v hv
    refine ⟨(by decide +kernel : ∀ v ∈ childFirst.nodes, childFirst.Timed v) v hv, ?_⟩
    rcases (by decide : ∀ v ∈ childFirst.nodes, v = 0 ∨ v = 1) v hv with rfl | rfl
    · exact .refl
    · exact hreach
  · have hrun : (criticalPathMethod generationSort childFirst 0).toOption.map
        (fun r => (r.criticalPath, r.passes.eft 0, r.projectCompletionTime)) =
          some ([1, 0], some 2, 5) := by decide +kernel
    obtain ⟨r, hr, hfields⟩ := toOption_map_eq_some hrun
    obtain ⟨hc, hfields⟩ := Prod.mk.inj hfields
    obtain ⟨he, hp⟩ := Prod.mk.inj hfields
    exact ⟨r, hr, hc, hreach, he, hp⟩

end TaskStubs.Analysis
