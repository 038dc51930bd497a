import TaskStubs.Analysis.PassInvariants

/-! The slack of a node in terms of paths, and which nodes are reported as critical. -/

namespace TaskStubs.Analysis

open Function Relation Library.Walks

variable {V : Type} {g : DiGraph V}

lemma path_weight_nonneg (ht : ∀ v ∈ g.nodes, g.Timed v) {u v : V} {p : List V} (h : g.Path u v p) :
    0 ≤ weight g.dur p :=
  weight_nonneg (fun x hx => (ht x (h.mem_nodes hx)).2.1)

lemma exists_heaviest_path (hacyclic : Acyclic g.Edge) {n : V} (hn : n ∈ g.nodes) :
    ∃ heaviest : V → ℚ, ∀ t, g.Reaches n t → IsGreatest (weightsBetween g.Edge g.dur n t) (heaviest t) := by
  classical
  have h : ∀ t, g.Reaches n t → ∃ x, IsGreatest (weightsBetween g.Edge g.dur n t) x := by
    intro t hr
    exact exists_heaviest g.dur g.nodes.toFinset n t
      (fun x hx => List.mem_toFinset.mpr (reaches_mem hn hx)) (fun x _ => hacyclic x) hr
  choose! heaviest hh using h
  exact ⟨heaviest, hh⟩

namespace Solves

variable {root : V} {r : Report V} {est lst : V → ℚ}

lemma heaviest_path (h : Solves g root r est lst) {v : V} (hv : v ∈ g.nodes) :
    ∃ u p, g.Path u v p ∧ weight g.dur p = est v + g.dur v := by
  obtain ⟨u, p, hp, hw⟩ := (h.heaviest v hv).1
  refine ⟨u, p, ⟨?_, hp⟩, hw⟩
  rcases hp.reaches.cases_head with rfl | ⟨x, he, _⟩
  · exact hv
  · exact he.mem_left

lemma eft_le_completion (h : Solves g root r est lst) {v : V} (hv : v ∈ g.nodes) :
    est v + g.dur v ≤ r.projectCompletionTime := by
  rw [h.completion_eq]
  exact mem_le_foldl_max _ _ _ (List.mem_map.mpr ⟨v, hv, rfl⟩)

lemma weight_le_completion (h : Solves g root r est lst) {u v : V} {p : List V} (hp : g.Path u v p) :
    weight g.dur p ≤ r.projectCompletionTime :=
  ((h.heaviest v hp.last_mem_nodes).2 ⟨u, p, hp.2, rfl⟩).trans (h.eft_le_completion hp.last_mem_nodes)

lemma completion_attained (h : Solves g root r est lst) (ht : ∀ v ∈ g.nodes, g.Timed v)
    (hroot : root ∈ g.nodes) : ∃ v ∈ g.nodes, est v + g.dur v = r.projectCompletionTime := by
  rcases foldl_max_mem (g.nodes.map (fun v => est v + g.dur v)) 0 with h₀ | hm
  · obtain ⟨u, p, hp, hw⟩ := h.heaviest_path hroot
    refine ⟨root, hroot, le_antisymm (h.eft_le_completion hroot) ?_⟩
    rw [h.completion_eq, h₀, ← hw]
    exact path_weight_nonneg ht hp
  · rw [← h.completion_eq] at hm
    obtain ⟨v, hv, hvc⟩ := List.mem_map.mp hm
    exact ⟨v, hv, hvc⟩

lemma completion_greatest (h : Solves g root r est lst) (ht : ∀ v ∈ g.nodes, g.Timed v)
    (hroot : root ∈ g.nodes) :
    IsGreatest {x | ∃ u v p, g.Path u v p ∧ weight g.dur p = x} r.projectCompletionTime := by
  refine ⟨?_, ?_⟩
  · obtain ⟨v, hv, hvc⟩ := h.completion_attained ht hroot
    obtain ⟨u, p, hp, hw⟩ := h.heaviest_path hv
    exact ⟨u, v, p, hp, hw.trans hvc⟩
  · rintro x ⟨u, v, p, hp, rfl⟩
    exact h.weight_le_completion hp

lemma join_le (h : Solves g root r est lst) {n t : V} {p : List V} (hn : n ∈ g.nodes)
    (hp : Walk g.Edge n t p) : est n + weight g.dur p ≤ est t + g.dur t := by
  obtain ⟨u, q, hq, hw⟩ := h.heaviest_path hn
  have hle := (h.heaviest t (reaches_mem hn hp.reaches)).2 ⟨u, _, hq.2.append hp, rfl⟩
  rw [weight_append, hp.weight_tail, hw] at hle
  linarith

lemma est_le_lst (h : Solves g root r est lst) {n : V} (hn : n ∈ g.nodes) : est n ≤ lst n := by
  obtain ⟨t, p, hp, _, hx⟩ := (h.least n hn).1
  have hj := h.join_le hn hp
  linarith

lemma float_least (h : Solves g root r est lst) {n : V} (hn : n ∈ g.nodes) {heaviest : V → ℚ}
    (hh : ∀ t, g.Reaches n t → IsGreatest (weightsBetween g.Edge g.dur n t) (heaviest t)) :
    IsLeast {x | ∃ t eft, g.Sink t ∧ g.Reaches n t ∧ r.passes.eft t = some eft ∧
      x = eft - (est n + heaviest t)} (lst n - est n) := by
  refine ⟨?_, ?_⟩
  · obtain ⟨t, p, hp, hsink, hx⟩ := (h.least n hn).1
    obtain ⟨q, hq, hqw⟩ := (hh t hp.reaches).1
    have hle : weight g.dur p ≤ heaviest t := (hh t hp.reaches).2 ⟨p, hp, rfl⟩
    have hge := (h.least n hn).2 ⟨t, q, hq, hsink, rfl⟩
    rw [hqw] at hge
    exact ⟨t, _, hsink, hp.reaches, h.eft_eq t (reaches_mem hn hp.reaches), by linarith⟩
  · rintro x ⟨t, eft, hsink, hr, heft, rfl⟩
    rw [h.eft_eq t (reaches_mem hn hr)] at heft
    obtain rfl := Option.some.inj heft
    obtain ⟨q, hq, hqw⟩ := (hh t hr).1
    have hge := (h.least n hn).2 ⟨t, q, hq, hsink, rfl⟩
    rw [hqw] at hge
    linarith

lemma mem_criticalPath (h : Solves g root r est lst) (n : V) :
    n ∈ r.criticalPath ↔ n ∈ g.nodes ∧ lst n = est n := by
  simp [h.critical_eq]

lemma critical_of_longest (h : Solves g root r est lst) (ht : ∀ v ∈ g.nodes, g.Timed v) {u v n : V}
    {p : List V} (hp : g.Path u v p) (hw : weight g.dur p = r.projectCompletionTime) (hn : n ∈ p) :
    n ∈ r.criticalPath := by
  have hnn := hp.mem_nodes hn
  obtain ⟨q, s, hq, hs, rfl⟩ := hp.2.split hn
  obtain ⟨t, s', hs', hsink, _⟩ := (h.least v hp.last_mem_nodes).1
  have hlst := (h.least n hnn).2 ⟨t, _, hs.append hs', hsink, rfl⟩
  have hqle := (h.heaviest n hnn).2 ⟨u, q, hq, rfl⟩
  have htail : 0 ≤ weight g.dur s'.tail := by
    refine weight_nonneg (fun x hx => (ht x ?_).2.1)
    exact DiGraph.Path.mem_nodes ⟨hp.last_mem_nodes, hs'⟩ (List.mem_of_mem_tail hx)
  have hend := h.eft_le_completion (reaches_mem hp.last_mem_nodes hs'.reaches)
  rw [weight_append, hs.weight_tail] at hw
  rw [weight_append] at hlst
  have hle : lst n ≤ est n := by linarith
  exact (h.mem_criticalPath n).mpr ⟨hnn, le_antisymm hle (h.est_le_lst hnn)⟩

lemma criticalPath_nonempty (h : Solves g root r est lst) (ht : ∀ v ∈ g.nodes, g.Timed v)
    (hroot : root ∈ g.nodes) : r.criticalPath ≠ [] := by
  obtain ⟨u, v, p, hp, hw⟩ := (h.completion_greatest ht hroot).1
  exact List.ne_nil_of_mem (h.critical_of_longest ht hp hw hp.2.first_mem)

end Solves

theorem slack_characterisation [DecidableEq V] {topologicalSort : TopologicalSort V} (hsort : Sorts topologicalSort)
    (g : DiGraph V) (hacyclic : Acyclic g.Edge) (ht : ∀ v ∈ g.nodes, g.Timed v) (root : V)
    (hroot : root ∈ g.nodes) :
    ∃ r, criticalPathMethod topologicalSort g root = .ok r ∧
      (∀ n ∈ g.nodes, ∃ (est float : ℚ) (heaviest : V → ℚ),
        r.passes.est n = some est ∧ r.passes.float n = some (float : WithTop ℚ) ∧
        (∀ t, g.Reaches n t → IsGreatest (weightsBetween g.Edge g.dur n t) (heaviest t)) ∧
        IsLeast {x | ∃ t eft, g.Sink t ∧ g.Reaches n t ∧ r.passes.eft t = some eft ∧
          x = eft - (est + heaviest t)} float ∧ 0 ≤ float) ∧
      (∀ u v p, g.Path u v p → weight g.dur p = r.projectCompletionTime → ∀ n ∈ p, n ∈ r.criticalPath) ∧
      ∃ last, r.criticalPath.getLast? = some last := by
  obtain ⟨r, est, lst, hr, h⟩ := criticalPathMethod_solves g hsort hacyclic
    (fun v hv => (ht v hv).measured) hroot
  refine ⟨r, hr, ?_, fun u v p hp hw n hn => h.critical_of_longest ht hp hw hn, ?_⟩
  · intro n hn
    obtain ⟨heaviest, hh⟩ := exists_heaviest_path hacyclic hn
    exact ⟨est n, lst n - est n, heaviest, h.est_eq n hn, h.float_eq n hn, hh, h.float_least hn hh,
      sub_nonneg.mpr (h.est_le_lst hn)⟩
  · exact ⟨_, List.getLast?_eq_some_getLast (h.criticalPath_nonempty ht hroot)⟩

def twoSinks : DiGraph ℕ where
  nodes := [0, 1, 2]
  attr v := { duration := some ([1, 2, 5].getD v 0), ts := some ([0, 1, 1].getD v 0) }
  edges := [(0, 1), (0, 2)]
  nodes_nodup := by decide
  edges_nodup := by decide
  edges_mem := by decide

lemma twoSinks_acyclic : Acyclic twoSinks.Edge :=
  acyclic_of_rank id (fun u v h => (by decide : ∀ e ∈ twoSinks.edges, e.1 < e.2) (u, v) h)

lemma twoSinks_timed : ∀ v ∈ twoSinks.nodes, twoSinks.Timed v := by decide +kernel

theorem slack_characterisation_twoSinks :
    ∃ r, criticalPathMethod generationSort twoSinks 0 = .ok r ∧
      (∀ u v p, twoSinks.Path u v p → weight twoSinks.dur p = r.projectCompletionTime →
        ∀ n ∈ p, n ∈ r.criticalPath) ∧
      ∃ last, r.criticalPath.getLast? = some last := by
  obtain ⟨r, hr, _, h⟩ := slack_characterisation generationSort_sorts twoSinks twoSinks_acyclic
    twoSinks_timed 0 (by decide)
  exact ⟨r, hr, h⟩

end TaskStubs.Analysis
