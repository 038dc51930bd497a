import TaskStubs.Analysis.Soundness
import TaskStubs.Analysis.Traversal

/-! The analysis of one main task: the reachable part of the trace, and the longest path in it. -/

namespace TaskStubs.Analysis

open Relation Library.Walks Library.Loops

variable {V : Type} [DecidableEq V] {g : DiGraph V}

structure Analysable (g : DiGraph V) (m : V) : Prop where
  mem : m ∈ g.nodes
  acyclic : ∀ v, g.Reaches m v → ¬ TransGen g.Edge v v
  timed : ∀ v, g.Reaches m v → g.Timed v

namespace Below

variable {m : V} {sub : DiGraph V} (h : Below g m sub)

include h

omit [DecidableEq V] in
lemma dur_eq : sub.dur = g.dur := by
  funext v
  rw [DiGraph.dur, h.attr_eq, DiGraph.dur]

omit [DecidableEq V] in
lemma time_eq : sub.time = g.time := by
  funext v
  rw [DiGraph.time, h.attr_eq, DiGraph.time]

omit [DecidableEq V] in
lemma acyclic (ha : ∀ v, g.Reaches m v → ¬ TransGen g.Edge v v) : Acyclic sub.Edge := by
  intro v hv
  obtain ⟨w, hw, _⟩ := TransGen.head'_iff.mp hv
  exact ha v ((h.edge v w).mp hw).2 (TransGen.mono (fun x y he => ((h.edge x y).mp he).1) v v hv)

omit [DecidableEq V] in
lemma measured (hm : ∀ v, g.Reaches m v → g.Measured v) : ∀ v ∈ sub.nodes, sub.Measured v := by
  intro v hv
  rw [DiGraph.Measured, h.dur_eq, h.time_eq, h.attr_eq]
  exact hm v ((h.mem_nodes v).mp hv)

omit [DecidableEq V] in
lemma timed (ha : Analysable g m) : ∀ v ∈ sub.nodes, sub.Timed v := by
  intro v hv
  rw [DiGraph.Timed, h.dur_eq, h.time_eq, h.attr_eq]
  exact ha.timed v ((h.mem_nodes v).mp hv)

omit [DecidableEq V] in
lemma root : m ∈ sub.nodes := (h.mem_nodes m).mpr .refl

omit [DecidableEq V] in
lemma walk {v : V} {p : List V} : Walk sub.Edge m v p ↔ Walk g.Edge m v p := by
  refine ⟨?_, ?_⟩
  · exact fun hw => hw.mono (fun x y _ he => ((h.edge x y).mp he).1)
  · exact fun hw => hw.mono (fun x y hx he => (h.edge x y).mpr ⟨he, hx⟩)

omit [DecidableEq V] in
lemma extend_to_root (ha : Analysable g m) {u v : V} {p : List V} (hp : sub.Path u v p) :
    ∃ q, Walk sub.Edge m v q ∧ weight g.dur p ≤ weight g.dur q := by
  obtain ⟨q, hq⟩ := exists_walk ((h.mem_nodes u).mp hp.1)
  refine ⟨_, (h.walk.mpr hq).append hp.2, ?_⟩
  rw [weight_append, hp.2.weight_tail]
  -- the walk to `u` ends with `u` itself
  rcases hq.last_step with ⟨_, rfl⟩ | ⟨x, s, hs, _, rfl⟩
  · simp
  · have hn : 0 ≤ weight g.dur s := weight_nonneg (fun y hy => (ha.timed y (hs.reaches_mem hy)).2.1)
    rw [weight_append, weight_singleton]
    linarith

end Below

variable {topologicalSort : TopologicalSort V} (nx : Networkx V)

lemma analysis_solves (hsort : Sorts topologicalSort) {m : V} (h : Analysable g m) :
    ∃ sub r est lst, getSubgraphFromNode nx g m = .ok sub ∧ Below g m sub ∧
      criticalPathMethod topologicalSort sub m = .ok r ∧ Solves sub m r est lst := by
  obtain ⟨sub, hrun, hsub⟩ := getSubgraphFromNode_below g nx h.mem
  obtain ⟨r, est, lst, hr, hs⟩ := criticalPathMethod_solves sub hsort (hsub.acyclic h.acyclic)
    (hsub.measured (fun v hv => (h.timed v hv).measured)) hsub.root
  exact ⟨sub, r, est, lst, hrun, hsub, hr, hs⟩

theorem completion_time_longest (hsort : Sorts topologicalSort)
    (g : DiGraph V) (m : V) (h : Analysable g m) :
    ∃ sub r, getSubgraphFromNode nx g m = .ok sub ∧
      (∀ u v, sub.Edge u v ↔ g.Edge u v ∧ g.Reaches m u) ∧
      criticalPathMethod topologicalSort sub m = .ok r ∧
      IsGreatest (weightsFrom g.Edge g.dur m) r.projectCompletionTime := by
  obtain ⟨sub, r, est, lst, hrun, hsub, hr, hs⟩ := analysis_solves nx hsort h
  refine ⟨sub, r, hrun, hsub.edge, hr, ?_⟩
  obtain ⟨⟨u, v, p, hp, hw⟩, hmax⟩ := hs.completion_greatest (hsub.timed h) hsub.root
  rw [hsub.dur_eq] at hw hmax
  refine ⟨?_, ?_⟩
  · obtain ⟨q, hq, hle⟩ := hsub.extend_to_root h hp
    refine ⟨v, q, hsub.walk.mp hq, le_antisymm (hmax ⟨m, v, q, ⟨hsub.root, hq⟩, rfl⟩) ?_⟩
    exact hw.symm.trans_le hle
  · rintro x ⟨v, q, hq, rfl⟩
    exact hmax ⟨m, v, q, ⟨hsub.root, hsub.walk.mpr hq⟩, rfl⟩

lemma twoSinks_analysable : Analysable twoSinks 0 := by
  refine ⟨by decide, fun v _ => twoSinks_acyclic v, ?_⟩
  intro v hv
  exact twoSinks_timed v (reaches_mem (by decide) hv)

theorem completion_time_longest_twoSinks :
    ∃ sub r, getSubgraphFromNode insertionOrdered twoSinks 0 = .ok sub ∧
      (∀ u v, sub.Edge u v ↔ twoSinks.Edge u v ∧ twoSinks.Reaches 0 u) ∧
      criticalPathMethod generationSort sub 0 = .ok r ∧
      IsGreatest (weightsFrom twoSinks.Edge twoSinks.dur 0) r.projectCompletionTime :=
  completion_time_longest insertionOrdered generationSort_sorts twoSinks 0 twoSinks_analysable

/-- `main` once the trace is read: the report and the last critical node. What it prints is left out. -/
def analyze (nx : Networkx V) (topologicalSort : TopologicalSort V) (fullG : DiGraph V) (mainTask : V) :
    Except (PyError V) (Report V × V) := do
  let g ← getSubgraphFromNode nx fullG mainTask
  let report ← criticalPathMethod topologicalSort g mainTask
  match report.criticalPath.getLast? with
  | some lastNode => pure (report, lastNode)
  | none => .error .indexError

theorem analyze_ok (hsort : Sorts topologicalSort)
    (g : DiGraph V) (m : V) (h : Analysable g m) :
    ∃ result, analyze nx topologicalSort g m = .ok result := by
  obtain ⟨sub, r, est, lst, hrun, hsub, hr, hs⟩ := analysis_solves nx hsort h
  have hn := hs.criticalPath_nonempty (hsub.timed h) hsub.root
  refine ⟨(r, r.criticalPath.getLast hn), ?_⟩
  rw [analyze, bind_ok hrun, bind_ok hr, List.getLast?_eq_some_getLast hn]
  rfl

end TaskStubs.Analysis
