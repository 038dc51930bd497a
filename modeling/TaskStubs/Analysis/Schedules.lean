import TaskStubs.Analysis.DependencyOrder
import TaskStubs.Library.Scheduling

/-! The two passes as schedules: the earliest one, and the latest that delays no sink. -/

namespace TaskStubs.Analysis

open Function Relation Library.Walks Library.Scheduling

variable {V : Type} {g : DiGraph V}

abbrev DiGraph.Schedule (g : DiGraph V) : Type := Library.Scheduling.Schedule g.Edge g.dur {v | v ∈ g.nodes}

def InTime (r : Report V) (s : g.Schedule) : Prop :=
  ∀ t ∈ g.nodes, g.Sink t → ∀ eft, r.passes.eft t = some eft → s.finish t ≤ eft

lemma edge_mem (u v : V) (h : g.Edge u v) : u ∈ {v | v ∈ g.nodes} ∧ v ∈ {v | v ∈ g.nodes} :=
  ⟨h.mem_left, h.mem_right⟩

lemma reached_from_nodes {u v : V} (hv : v ∈ g.nodes) (h : g.Reaches u v) : u ∈ g.nodes := by
  rcases h.cases_head with rfl | ⟨w, he, _⟩
  · exact hv
  · exact he.mem_left

namespace Solves

variable {root : V} {r : Report V} {est lst : V → ℚ} (h : Solves g root r est lst)

include h

lemma est_nonneg {v : V} (hv : v ∈ g.nodes) : 0 ≤ est v := by
  have hle := (h.heaviest v hv).2 ⟨v, [v], .single v, weight_singleton g.dur v⟩
  linarith

lemma lst_nonneg {v : V} (hv : v ∈ g.nodes) : 0 ≤ lst v := (h.est_nonneg hv).trans (h.est_le_lst hv)

lemma completion_nonneg : 0 ≤ r.projectCompletionTime := by
  rw [h.completion_eq]
  exact le_foldl_max _ 0

lemma inTime_iff (s : g.Schedule) : InTime r s ↔ s.Meets (fun t => est t + g.dur t) := by
  refine ⟨?_, ?_⟩
  · intro hs t ht hsink
    exact hs t ht hsink _ (h.eft_eq t ht)
  · intro hs t ht hsink eft heft
    rw [h.eft_eq t ht] at heft
    obtain rfl := Option.some.inj heft
    exact hs t ht hsink

def earliest : g.Schedule := Schedule.earliest est edge_mem h.heaviest

def latest : g.Schedule :=
  Schedule.latest (fun t => est t + g.dur t) lst edge_mem h.least (fun _ hv => h.lst_nonneg hv)

lemma earliest_inTime : InTime r h.earliest :=
  (h.inTime_iff h.earliest).mpr (fun _ _ _ => le_rfl)

lemma latest_inTime : InTime r h.latest :=
  (h.inTime_iff h.latest).mpr (Schedule.latest_meets _ lst edge_mem h.least _)

lemma est_le_start (s : g.Schedule) {v : V} (hv : v ∈ g.nodes) : est v ≤ s.start v :=
  s.earliest_le (fun _ hr => reached_from_nodes hv hr) (h.heaviest v hv)

lemma start_le_lst {s : g.Schedule} (hs : InTime r s) {v : V} (hv : v ∈ g.nodes) : s.start v ≤ lst v :=
  s.le_latest ((h.inTime_iff s).mp hs) (fun _ hr => reaches_mem hv hr) (h.least v hv)

lemma completion_least :
    IsLeast {c | 0 ≤ c ∧ ∃ s : g.Schedule, ∀ v ∈ g.nodes, s.finish v ≤ c} r.projectCompletionTime := by
  refine ⟨⟨h.completion_nonneg, h.earliest, fun v hv => h.eft_le_completion hv⟩, ?_⟩
  rintro c ⟨hc, s, hs⟩
  rw [h.completion_eq]
  rcases foldl_max_mem (g.nodes.map (fun v => est v + g.dur v)) 0 with h₀ | hm
  · rwa [h₀]
  · obtain ⟨v, hv, hvc⟩ := List.mem_map.mp hm
    rw [← hvc]
    have hle := h.est_le_start s hv
    calc est v + g.dur v ≤ s.start v + g.dur v := by gcongr
      _ ≤ c := hs v hv

lemma critical_iff_fixed (v : V) :
    v ∈ r.criticalPath ↔ v ∈ g.nodes ∧
      ∀ s s' : g.Schedule, InTime r s → InTime r s' → s.start v = s'.start v := by
  rw [h.mem_criticalPath]
  refine ⟨?_, ?_⟩
  · rintro ⟨hv, he⟩
    have hfixed : ∀ s : g.Schedule, InTime r s → s.start v = est v := by
      intro s hs
      exact le_antisymm ((h.start_le_lst hs hv).trans_eq he) (h.est_le_start s hv)
    exact ⟨hv, fun s s' hs hs' => (hfixed s hs).trans (hfixed s' hs').symm⟩
  · rintro ⟨hv, hfixed⟩
    exact ⟨hv, hfixed h.latest h.earliest h.latest_inTime h.earliest_inTime⟩

lemma gapless_iff {u t : V} {p : List V} (hp : g.Path u t p) :
    (est u = 0 ∧ p.IsChain (fun x y => est x + g.dur x = est y)) ↔
      ∀ u' q, g.Path u' t q → weight g.dur q ≤ weight g.dur p := by
  have ht := hp.last_mem_nodes
  have htight : est u + weight g.dur p = est t + g.dur t ↔ _ := h.earliest.tight_iff hp.2
  have hle := h.join_le hp.1 hp.2
  have hu := h.est_nonneg hp.1
  refine ⟨?_, ?_⟩
  · rintro ⟨h₀, hchain⟩ u' q hq
    have heq := htight.mpr hchain
    have hqle := (h.heaviest t ht).2 ⟨u', q, hq.2, rfl⟩
    linarith
  · intro hmax
    obtain ⟨u', q, hq, hw⟩ := h.heaviest_path ht
    have hqp := hmax u' q hq
    exact ⟨by linarith, htight.mp (by linarith)⟩

lemma chain_congr {u t : V} {p : List V} (hp : g.Path u t p) :
    p.IsChain (fun x y => r.passes.eft x = r.passes.est y) ↔
      p.IsChain (fun x y => est x + g.dur x = est y) := by
  apply List.IsChain.iff_of_mem_imp
  intro x y hx hy
  rw [h.eft_eq x (hp.mem_nodes hx), h.est_eq y (hp.mem_nodes hy), Option.some_inj]

lemma critical_iff_gapless (n : V) :
    n ∈ r.criticalPath ↔ ∃ u t p, g.Path u t p ∧ g.Sink t ∧ n ∈ p ∧ r.passes.est u = some 0 ∧
      p.IsChain (fun x y => r.passes.eft x = r.passes.est y) := by
  rw [h.mem_criticalPath_iff]
  refine ⟨?_, ?_⟩
  · rintro ⟨t, u, p, hsink, hp, hn, hmax⟩
    obtain ⟨hu, hchain⟩ := (h.gapless_iff hp).mpr hmax
    exact ⟨u, t, p, hp, hsink, hn, by rw [h.est_eq u hp.1, hu], (h.chain_congr hp).mpr hchain⟩
  · rintro ⟨u, t, p, hp, hsink, hn, hu, hchain⟩
    rw [h.est_eq u hp.1, Option.some_inj] at hu
    exact ⟨t, u, p, hsink, hp, hn, (h.gapless_iff hp).mp ⟨hu, (h.chain_congr hp).mp hchain⟩⟩

end Solves

variable [DecidableEq V] {topologicalSort : TopologicalSort V}

theorem passes_extremal (hsort : Sorts topologicalSort) (g : DiGraph V) (hacyclic : Acyclic g.Edge)
    (ht : ∀ v ∈ g.nodes, g.Measured v) (root : V) (hroot : root ∈ g.nodes) :
    ∃ r, ∃ earliest latest : g.Schedule, criticalPathMethod topologicalSort g root = .ok r ∧
      (∀ v ∈ g.nodes, r.passes.est v = some (earliest.start v) ∧
        r.passes.lst v = some (latest.start v : WithTop ℚ)) ∧
      (∀ s : g.Schedule, ∀ v ∈ g.nodes, earliest.start v ≤ s.start v) ∧
      InTime r latest ∧ (∀ s : g.Schedule, InTime r s → ∀ v ∈ g.nodes, s.start v ≤ latest.start v) ∧
      IsLeast {c | 0 ≤ c ∧ ∃ s : g.Schedule, ∀ v ∈ g.nodes, s.finish v ≤ c} r.projectCompletionTime := by
  obtain ⟨r, est, lst, hr, h⟩ := criticalPathMethod_solves g hsort hacyclic ht hroot
  refine ⟨r, h.earliest, h.latest, hr, ?_, ?_, h.latest_inTime, ?_, h.completion_least⟩
  · exact fun v hv => ⟨h.est_eq v hv, h.lst_eq v hv⟩
  · exact fun s v hv => h.est_le_start s hv
  · exact fun s hs v hv => h.start_le_lst hs hv

theorem passes_extremal_twoSinks :
    ∃ r, criticalPathMethod generationSort twoSinks 0 = .ok r ∧
      IsLeast {c | 0 ≤ c ∧ ∃ s : twoSinks.Schedule, ∀ v ∈ twoSinks.nodes, s.finish v ≤ c}
        r.projectCompletionTime := by
  obtain ⟨r, _, _, hr, _, _, _, _, h⟩ := passes_extremal generationSort_sorts twoSinks twoSinks_acyclic
    (fun v hv => (twoSinks_timed v hv).measured) 0 (by decide)
  exact ⟨r, hr, h⟩

theorem critical_iff_start_fixed (hsort : Sorts topologicalSort) (g : DiGraph V) (hacyclic : Acyclic g.Edge)
    (ht : ∀ v ∈ g.nodes, g.Measured v) (root : V) (hroot : root ∈ g.nodes) :
    ∃ r, criticalPathMethod topologicalSort g root = .ok r ∧ ∀ n,
      (n ∈ r.criticalPath ↔ n ∈ g.nodes ∧
        ∀ s s' : g.Schedule, InTime r s → InTime r s' → s.start n = s'.start n) ∧
      (n ∈ r.criticalPath ↔ ∃ u t p, g.Path u t p ∧ g.Sink t ∧ n ∈ p ∧ r.passes.est u = some 0 ∧
        p.IsChain (fun x y => r.passes.eft x = r.passes.est y)) := by
  obtain ⟨r, est, lst, hr, h⟩ := criticalPathMethod_solves g hsort hacyclic ht hroot
  exact ⟨r, hr, fun n => ⟨h.critical_iff_fixed n, h.critical_iff_gapless n⟩⟩

theorem critical_iff_start_fixed_twoSinks :
    ∃ r, criticalPathMethod generationSort twoSinks 0 = .ok r ∧ ∀ n,
      n ∈ r.criticalPath ↔ n ∈ twoSinks.nodes ∧
        ∀ s s' : twoSinks.Schedule, InTime r s → InTime r s' → s.start n = s'.start n := by
  obtain ⟨r, hr, h⟩ := critical_iff_start_fixed generationSort_sorts twoSinks twoSinks_acyclic
    (fun v hv => (twoSinks_timed v hv).measured) 0 (by decide)
  exact ⟨r, hr, fun n => (h n).1⟩

end TaskStubs.Analysis
