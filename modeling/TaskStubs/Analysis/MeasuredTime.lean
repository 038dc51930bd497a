import TaskStubs.Analysis.CompletionTime

/-! The optimal time against the measured time, where no task starts before its parents have ended. -/

namespace TaskStubs.Analysis

open Relation Library.Walks

variable {V : Type} [DecidableEq V] {g : DiGraph V} {m : V}

def FinishToStart (g : DiGraph V) (m : V) : Prop :=
  ∀ p c, g.Reaches m p → g.Edge p c → g.time p + g.dur p ≤ g.time c

omit [DecidableEq V] in
lemma walk_weight_le (hts : FinishToStart g m) {u v : V} {p : List V} (hp : Walk g.Edge u v p)
    (hu : g.Reaches m u) : weight g.dur p ≤ g.time v + g.dur v - g.time u := by
  induction hp with
  | single v =>
    rw [weight_singleton]
    linarith
  | @cons u w v p he _ ih =>
    have hstart := hts u w hu he
    have hrest := ih (hu.tail he)
    rw [weight_cons]
    linarith

variable {sub : DiGraph V} {r : Report V} {est lst : V → ℚ}

omit [DecidableEq V] in
lemma eft_le_measured (hsub : Below g m sub) (h : Analysable g m)
    (hts : FinishToStart g m) (hs : Solves sub m r est lst) {v : V}
    (hv : v ∈ sub.nodes) : est v + g.dur v ≤ g.time v + g.dur v - g.time m := by
  obtain ⟨u, p, hp, hw⟩ := hs.heaviest_path hv
  rw [hsub.dur_eq] at hw
  -- a heaviest path to `v` may start below the main task
  obtain ⟨q, hq, hle⟩ := hsub.extend_to_root h hp
  exact hw.symm.trans_le (hle.trans (walk_weight_le hts (hsub.walk.mp hq) .refl))

theorem optimal_le_measured (nx : Networkx V) {topologicalSort : TopologicalSort V} (hsort : Sorts topologicalSort)
    (g : DiGraph V) (m : V) (h : Analysable g m) (hts : FinishToStart g m) :
    ∃ sub r, getSubgraphFromNode nx g m = .ok sub ∧ criticalPathMethod topologicalSort sub m = .ok r ∧
      r.projectCompletionTime ≤ r.actual ∧
      ∀ n ∈ sub.nodes, ∃ est, r.passes.est n = some est ∧ est ≤ g.time n - g.time m := by
  obtain ⟨sub, r, est, lst, hrun, hsub, hr, hs⟩ := analysis_solves nx hsort h
  refine ⟨sub, r, hrun, hr, ?_, ?_⟩
  · obtain ⟨v, hv, hvc⟩ := hs.completion_attained (hsub.timed h) hsub.root
    have heft := eft_le_measured hsub h hts hs hv
    have hend : sub.time v + sub.dur v ≤ r.actual + sub.time m := hs.actual_eq.2 ⟨v, hv, rfl⟩
    have hc : est v + sub.dur v = r.projectCompletionTime := hvc
    rw [hsub.dur_eq] at hend hc
    rw [hsub.time_eq] at hend
    linarith
  · intro n hn
    have heft := eft_le_measured hsub h hts hs hn
    exact ⟨est n, hs.est_eq n hn, by linarith⟩

theorem optimal_le_measured_twoSinks :
    ∃ sub r, getSubgraphFromNode insertionOrdered twoSinks 0 = .ok sub ∧
      criticalPathMethod generationSort sub 0 = .ok r ∧ r.projectCompletionTime ≤ r.actual ∧
      ∀ n ∈ sub.nodes, ∃ est, r.passes.est n = some est ∧ est ≤ twoSinks.time n - twoSinks.time 0 := by
  apply optimal_le_measured insertionOrdered generationSort_sorts twoSinks 0 twoSinks_analysable
  intro p c _ he
  exact (by decide +kernel : ∀ e ∈ twoSinks.edges,
    twoSinks.time e.1 + twoSinks.dur e.1 ≤ twoSinks.time e.2) (p, c) he

end TaskStubs.Analysis
