import TaskStubs.Analysis.Outcomes
import TaskStubs.Analysis.Schedules

/-! More dependencies and longer tasks: nothing starts earlier. The filter on the parents removes
dependencies, so that no time it leads to is too long. -/

namespace TaskStubs.Analysis

open Relation Library.Walks Library.Scheduling Library.Loops

structure DiGraph.Easier {V : Type} (g g' : DiGraph V) : Prop where
  nodes : ∀ v ∈ g.nodes, v ∈ g'.nodes
  edge : ∀ u v, g.Edge u v → g'.Edge u v
  dur : ∀ v ∈ g.nodes, g.dur v ≤ g'.dur v

namespace Solves

variable {V : Type} {g g' : DiGraph V} {root root' : V} {r r' : Report V} {est lst est' lst' : V → ℚ}
  (h : Solves g root r est lst) (h' : Solves g' root' r' est' lst') (hless : g.Easier g')

include h' hless

def relaxed : g.Schedule := h'.earliest.relax hless.nodes hless.edge (fun u _ he => hless.dur u he.mem_left)

include h

lemma est_mono {v : V} (hv : v ∈ g.nodes) : est v ≤ est' v := h.est_le_start (h'.relaxed hless) hv

lemma eft_mono {v : V} (hv : v ∈ g.nodes) : est v + g.dur v ≤ est' v + g'.dur v :=
  add_le_add (h.est_mono h' hless hv) (hless.dur v hv)

lemma completion_mono : r.projectCompletionTime ≤ r'.projectCompletionTime := by
  apply h.completion_least.2
  refine ⟨h'.completion_nonneg, h'.relaxed hless, ?_⟩
  intro v hv
  calc est' v + g.dur v ≤ est' v + g'.dur v := by gcongr; exact hless.dur v hv
    _ ≤ r'.projectCompletionTime := h'.eft_le_completion (hless.nodes v hv)

end Solves

section Passes

variable {V : Type} [DecidableEq V] {topologicalSort : TopologicalSort V}

theorem passes_monotone (hsort : Sorts topologicalSort) (g g' : DiGraph V) (hless : g.Easier g')
    (hacyclic : Acyclic g'.Edge) (ht : ∀ v ∈ g.nodes, g.Measured v) (ht' : ∀ v ∈ g'.nodes, g'.Measured v)
    (root root' : V) (hroot : root ∈ g.nodes) (hroot' : root' ∈ g'.nodes) :
    ∃ r r', criticalPathMethod topologicalSort g root = .ok r ∧
      criticalPathMethod topologicalSort g' root' = .ok r' ∧
      (∀ v ∈ g.nodes, ∃ est est', r.passes.est v = some est ∧ r'.passes.est v = some est' ∧ est ≤ est') ∧
      (∀ v ∈ g.nodes, ∃ eft eft', r.passes.eft v = some eft ∧ r'.passes.eft v = some eft' ∧ eft ≤ eft') ∧
      r.projectCompletionTime ≤ r'.projectCompletionTime := by
  have hacyclic' : Acyclic g.Edge := fun v hv => hacyclic v (TransGen.mono hless.edge v v hv)
  obtain ⟨r, est, lst, hr, h⟩ := criticalPathMethod_solves g hsort hacyclic' ht hroot
  obtain ⟨r', est', lst', hr', h'⟩ := criticalPathMethod_solves g' hsort hacyclic ht' hroot'
  refine ⟨r, r', hr, hr', ?_, ?_, h.completion_mono h' hless⟩
  · intro v hv
    exact ⟨_, _, h.est_eq v hv, h'.est_eq v (hless.nodes v hv), h.est_mono h' hless hv⟩
  · intro v hv
    exact ⟨_, _, h.eft_eq v hv, h'.eft_eq v (hless.nodes v hv), h.eft_mono h' hless hv⟩

def inSequence : DiGraph ℕ :=
  { twoSinks with edges := [(0, 1), (0, 2), (1, 2)], edges_nodup := by decide, edges_mem := by decide }

lemma inSequence_acyclic : Acyclic inSequence.Edge :=
  acyclic_of_rank id (fun u v h => (by decide : ∀ e ∈ inSequence.edges, e.1 < e.2) (u, v) h)

lemma twoSinks_easier : twoSinks.Easier inSequence where
  nodes _ hv := hv
  edge u v := (by decide : ∀ e ∈ twoSinks.edges, e ∈ inSequence.edges) (u, v)
  dur _ _ := le_rfl

theorem passes_monotone_inSequence :
    ∃ r r', criticalPathMethod generationSort twoSinks 0 = .ok r ∧
      criticalPathMethod generationSort inSequence 0 = .ok r' ∧
      (∀ v ∈ twoSinks.nodes, ∃ est est', r.passes.est v = some est ∧ r'.passes.est v = some est' ∧ est ≤ est') ∧
      r.projectCompletionTime ≤ r'.projectCompletionTime := by
  obtain ⟨r, r', hr, hr', hest, -, hle⟩ := passes_monotone generationSort_sorts twoSinks inSequence
    twoSinks_easier inSequence_acyclic (fun v hv => (twoSinks_timed v hv).measured)
    (fun v hv => (twoSinks_timed v hv).measured) 0 0 (by decide) (by decide)
  exact ⟨r, r', hr, hr', hest, hle⟩

end Passes

section Filter

variable {topologicalSort : TopologicalSort ℤ} {xs : List Execution} {m : ℤ} {firstCreate : ℚ} {g g' : DiGraph ℤ}
  {result result' : Report ℤ × ℤ}

lemma Contents.analyze_ok_solved {nx : Networkx ℤ} {retain : ℤ → Bool} (h : Contents retain xs firstCreate g)
    (hsort : Sorts topologicalSort) (hrefuses : Refuses topologicalSort)
    (hr : analyze nx topologicalSort g m = .ok result) :
    m ∈ g.nodes ∧ (m = 0 ∨ Known xs m) ∧ ∃ sub est lst, Below g m sub ∧ Solves sub m result.1 est lst := by
  have hm : m ∈ g.nodes := by
    by_contra hm
    cases (analyze_missing nx hm).symm.trans hr
  have hk : m = 0 ∨ Known xs m := by
    by_contra hk
    cases (analyze_unmeasured nx hm (by rw [h.root_blank hk])).symm.trans hr
  have hroot := h.root_measured hm hk
  have hacyclic : ∀ v, g.Reaches m v → ¬ TransGen g.Edge v v := by
    intro v hv hc
    cases (analyze_cyclic nx hrefuses hm hroot hv hc).symm.trans hr
  obtain ⟨sub, r, est, lst, hsub, hs, hrun⟩ := analyze_solved nx hsort hm hacyclic
    (fun v hv => h.measured_of_reaches hroot hv)
  refine ⟨hm, hk, sub, est, lst, hsub, ?_⟩
  rw [hrun] at hr
  cases hl : r.criticalPath.getLast? with
  | none =>
    rw [hl] at hr
    cases hr
  | some last =>
    rw [hl] at hr
    cases hr
    exact hs

variable (h : Contents (fun P => m ≤ P) xs firstCreate g) (h' : Contents (fun _ => true) xs firstCreate g')

include h h'

lemma filtered_edge_retained (u v : ℤ) (he : g.Edge u v) : g'.Edge u v :=
  (unfiltered_edge h').mpr ((filtered_edge h).mp he).1

lemma filtered_easier {sub sub' : DiGraph ℤ} (hsub : Below g m sub) (hsub' : Below g' m sub') :
    sub.Easier sub' := by
  have hedge := filtered_edge_retained h h'
  have hreach : ∀ v, g.Reaches m v → g'.Reaches m v := fun v hv => ReflTransGen.mono hedge m v hv
  refine ⟨?_, ?_, ?_⟩
  · exact fun v hv => (hsub'.mem_nodes v).mpr (hreach v ((hsub.mem_nodes v).mp hv))
  · intro u v he
    obtain ⟨he, hu⟩ := (hsub.edge u v).mp he
    exact (hsub'.edge u v).mpr ⟨hedge u v he, hreach u hu⟩
  · intro v _
    rw [hsub.dur_eq, hsub'.dur_eq, h.dur_eq, h'.dur_eq]

lemma filtered_actual_le {sub sub' : DiGraph ℤ} (hsub : Below g m sub) (hsub' : Below g' m sub')
    (hm : m ∈ g.nodes) (hk : m = 0 ∨ Known xs m) {r r' : Report ℤ} {est lst est' lst' : ℤ → ℚ}
    (hs : Solves sub m r est lst) (hs' : Solves sub' m r' est' lst') : r.actual ≤ r'.actual := by
  have hm' := (mainTask_mem_iff h h').mp hm
  have htime : ∀ v, g.Reaches m v → g.time v = g'.time v := by
    intro v hv
    by_cases hvm : v = m
    · subst hvm
      rw [h.time_eq (hk.imp_left (fun hz => ⟨hz, hz ▸ hm⟩)), h'.time_eq (hk.imp_left (fun hz => ⟨hz, hz ▸ hm'⟩))]
    · have hknown := h.known_of_reaches hv hvm
      rw [h.time_eq (Or.inr hknown), h'.time_eq (Or.inr hknown)]
  obtain ⟨v, hv, hx⟩ := (actual_greatest hsub hs).1
  have hle := (actual_greatest hsub' hs').2 ⟨v, ReflTransGen.mono (filtered_edge_retained h h') m v hv, rfl⟩
  rw [← htime v hv, ← htime m .refl, h'.dur_eq, ← h.dur_eq] at hle
  linarith

end Filter

theorem filter_never_lengthens (nx : Networkx ℤ) {topologicalSort : TopologicalSort ℤ}
    (hsort : Sorts topologicalSort) (hrefuses : Refuses topologicalSort) (mainTask : ℤ) (files : List TraceFile)
    (t' : TraceGraph) (result result' : Report ℤ × ℤ) (hr : main nx topologicalSort mainTask files = .ok result)
    (ht' : readGraphUnfiltered files = .ok t') (hr' : analyze nx topologicalSort t'.graph mainTask = .ok result') :
    result.1.projectCompletionTime ≤ result'.1.projectCompletionTime ∧ result.1.actual ≤ result'.1.actual := by
  obtain ⟨t, ht, hr⟩ : ∃ t, readGraph mainTask files = .ok t ∧
      analyze nx topologicalSort t.graph mainTask = .ok result := by
    rw [main] at hr
    cases ht : readGraph mainTask files with
    | error e =>
      rw [ht] at hr
      cases hr
    | ok t =>
      rw [ht] at hr
      refine ⟨t, rfl, ?_⟩
      cases ha : analyze nx topologicalSort t.graph mainTask with
      | error e =>
        simp only [ha] at hr
        cases hr
      | ok r =>
        simp only [ha] at hr
        cases hr
        rfl
  obtain ⟨s, _, hreads, _, hc⟩ := readGraph_contents ht
  obtain ⟨s', _, hreads', _, hc'⟩ := readGraph_contents ht'
  rw [hreads.firstCreate] at hc
  rw [hreads'.firstCreate] at hc'
  obtain ⟨hm, hk, sub, est, lst, hsub, hs⟩ := hc.analyze_ok_solved hsort hrefuses hr
  obtain ⟨-, -, sub', est', lst', hsub', hs'⟩ := hc'.analyze_ok_solved hsort hrefuses hr'
  exact ⟨hs.completion_mono hs' (filtered_easier hc hc' hsub hsub'),
    filtered_actual_le hc hc' hsub hsub' hm hk hs hs'⟩

lemma renumbered_analysable {retain : ℤ → Bool} {firstCreate : ℚ} {g : DiGraph ℤ}
    (h : Contents retain (executions (eventsRead renumbered)) firstCreate g) : Analysable g 5 := by
  have hknown : Known (executions (eventsRead renumbered)) 5 := by decide +kernel
  obtain ⟨x, hx, hg⟩ := hknown
  have hm : 5 ∈ g.nodes := (h.mem_nodes 5).mpr ⟨x, hx, Or.inl hg⟩
  refine ⟨hm, ?_, ?_⟩
  · intro v _
    apply acyclic_of_rank (fun v => [0, 1, 5, 3, 7].idxOf v)
    intro p c he
    obtain ⟨x, hx, rfl, hp, _⟩ := (h.edge p c).mp he
    exact (by decide +kernel : ∀ x ∈ executions (eventsRead renumbered), ∀ p ∈ x.pguid.parents,
      [0, 1, 5, 3, 7].idxOf p < [0, 1, 5, 3, 7].idxOf x.guid) x hx p hp
  · intro v hr
    obtain ⟨hd, ht⟩ := h.measured_of_reaches (h.root_measured hm (Or.inr ⟨x, hx, hg⟩)) hr
    exact ⟨hd, h.dur_nonneg (by decide +kernel) v, ht⟩

theorem filter_never_lengthens_renumbered :
    ∃ t' result result', main insertionOrdered generationSort 5 renumbered = .ok result ∧
      readGraphUnfiltered renumbered = .ok t' ∧ analyze insertionOrdered generationSort t'.graph 5 = .ok result' ∧
      result.1.projectCompletionTime ≤ result'.1.projectCompletionTime ∧ result.1.actual ≤ result'.1.actual := by
  obtain ⟨t, ht⟩ := ok_of_isSome (by decide +kernel : (readGraph 5 renumbered).toOption.isSome)
  obtain ⟨t', ht'⟩ := ok_of_isSome (by decide +kernel : (readGraphUnfiltered renumbered).toOption.isSome)
  obtain ⟨_, _, _, _, hc⟩ := readGraph_contents ht
  obtain ⟨_, _, _, _, hc'⟩ := readGraph_contents ht'
  obtain ⟨result, hr⟩ := analyze_ok insertionOrdered generationSort_sorts t.graph 5 (renumbered_analysable hc)
  obtain ⟨result', hr'⟩ := analyze_ok insertionOrdered generationSort_sorts t'.graph 5 (renumbered_analysable hc')
  have hr := main_ok insertionOrdered ht hr
  exact ⟨t', result, result', hr, ht', hr', filter_never_lengthens insertionOrdered
    generationSort_sorts generationSort_refuses 5 renumbered t' result result' hr ht' hr'⟩

end TaskStubs.Analysis
