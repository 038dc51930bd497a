import TaskStubs.Analysis.Outcomes

/-! The analyses of the tasks below a main task, and how the main task's own follows from them. -/

namespace TaskStubs.Analysis

open Relation Library.Walks Library.Loops

variable {V : Type} [DecidableEq V] {topologicalSort topologicalSort' : TopologicalSort V} {g : DiGraph V} {m : V}

lemma criticalPathMethod_agree (hsort : Sorts topologicalSort) (hsort' : Sorts topologicalSort')
    (hrefuses : Refuses topologicalSort) (hrefuses' : Refuses topologicalSort') {part part' : DiGraph V}
    (hshape : part.SameShape part') (hattr : part.attr = part'.attr) {root : V} (hroot : root ∈ part.nodes) :
    (∃ e e', criticalPathMethod topologicalSort part root = .error e ∧
        criticalPathMethod topologicalSort' part' root = .error e') ∨
      ∃ r r', criticalPathMethod topologicalSort part root = .ok r ∧
        criticalPathMethod topologicalSort' part' root = .ok r' ∧ r.Agrees r' := by
  have hroot' := (hshape.1 root).mp hroot
  have hdur : part.dur = part'.dur := by
    funext v
    rw [DiGraph.dur, hattr, DiGraph.dur]
  have htime : part.time = part'.time := by
    funext v
    rw [DiGraph.time, hattr, DiGraph.time]
  have hgood : (Acyclic part.Edge ∧ ∀ v ∈ part.nodes, part.Measured v) ↔
      Acyclic part'.Edge ∧ ∀ v ∈ part'.nodes, part'.Measured v := by
    simp only [hshape.edge_eq, hshape.1, DiGraph.Measured, hattr, hdur, htime]
  by_cases h : Acyclic part.Edge ∧ ∀ v ∈ part.nodes, part.Measured v
  · obtain ⟨hacyclic', ht'⟩ := hgood.mp h
    obtain ⟨r, est, lst, hr, hs⟩ := criticalPathMethod_solves part hsort h.1 h.2 hroot
    obtain ⟨r', est', lst', hr', hs'⟩ := criticalPathMethod_solves part' hsort' hacyclic' ht' hroot'
    exact Or.inr ⟨r, r', hr, hr', hs.agree hshape hdur htime hs'⟩
  · have hfails := mt (criticalPathMethod_returns_iff hsort hrefuses hroot).mp h
    have hfails' := mt (criticalPathMethod_returns_iff hsort' hrefuses' hroot').mp (mt hgood.mpr h)
    cases hr : criticalPathMethod topologicalSort part root with
    | ok r => exact absurd ⟨r, hr⟩ hfails
    | error e =>
      cases hr' : criticalPathMethod topologicalSort' part' root with
      | ok r' => exact absurd ⟨r', hr'⟩ hfails'
      | error e' => exact Or.inl ⟨e, e', rfl, rfl⟩

omit [DecidableEq V] in
lemma Below.reaches {sub : DiGraph V} (hsub : Below g m sub) {c : V} (hc : g.Reaches m c) (v : V) :
    sub.Reaches c v ↔ g.Reaches c v := by
  refine (reaches_congr ?_).symm
  intro x y hx
  rw [hsub.edge]
  exact (and_iff_left (hc.trans hx)).symm

omit [DecidableEq V] in
lemma Below.nested {sub part : DiGraph V} (hsub : Below g m sub) {c : V} (hc : g.Reaches m c)
    (hpart : Below sub c part) : Below g c part where
  mem_nodes v := by rw [hpart.mem_nodes, hsub.reaches hc]
  edge u v := by
    rw [hpart.edge, hsub.edge, hsub.reaches hc, and_assoc, and_congr_right_iff]
    exact fun _ => and_iff_right_of_imp (fun hu => hc.trans hu)
  attr_eq := hpart.attr_eq.trans hsub.attr_eq

theorem analyses_nest (nx nx' : Networkx V) (hsort : Sorts topologicalSort) (hsort' : Sorts topologicalSort')
    (hrefuses : Refuses topologicalSort) (hrefuses' : Refuses topologicalSort') (g : DiGraph V) (m : V)
    (sub : DiGraph V) (hrun : getSubgraphFromNode nx g m = .ok sub) (c : V) (hc : g.Reaches m c) :
    (∃ part part', getSubgraphFromNode nx sub c = .ok part ∧ getSubgraphFromNode nx' g c = .ok part' ∧
      part.SameShape part' ∧ ∀ v ∈ part.nodes, part.attr v = part'.attr v) ∧
    ((∃ e e', analyze nx topologicalSort sub c = .error e ∧ analyze nx' topologicalSort' g c = .error e') ∨
      ∃ result result', analyze nx topologicalSort sub c = .ok result ∧
        analyze nx' topologicalSort' g c = .ok result' ∧ result.1.Agrees result'.1) := by
  have hm : m ∈ g.nodes := by
    by_contra hm
    cases (getSubgraphFromNode_missing g nx hm).symm.trans hrun
  obtain ⟨sub', hrun', hsub⟩ := getSubgraphFromNode_below g nx hm
  obtain rfl := Except.ok.inj (hrun.symm.trans hrun')
  obtain ⟨part, hpart, hb⟩ := getSubgraphFromNode_below sub nx ((hsub.mem_nodes c).mpr hc)
  obtain ⟨part', hpart', hb'⟩ := getSubgraphFromNode_below g nx' (reaches_mem hm hc)
  have hshape : part.SameShape part' := (hsub.nested hc hb).sameShape hb' ⟨fun _ => Iff.rfl, fun _ _ => Iff.rfl⟩
  have hattr : part.attr = part'.attr := (hb.attr_eq.trans hsub.attr_eq).trans hb'.attr_eq.symm
  refine ⟨⟨part, part', hpart, hpart', hshape, fun v _ => congrFun hattr v⟩, ?_⟩
  rw [analyze, analyze, bind_ok hpart, bind_ok hpart']
  rcases criticalPathMethod_agree hsort hsort' hrefuses hrefuses' hshape hattr hb.root with
    ⟨e, e', he, he'⟩ | ⟨r, r', hr, hr', hagrees⟩
  · rw [he, he']
    exact Or.inl ⟨e, e', rfl, rfl⟩
  · rw [bind_ok hr, bind_ok hr']
    exact hagrees.last.error_or_ok

theorem analyses_nest_twoSinks :
    ∃ sub, getSubgraphFromNode insertionOrdered twoSinks 0 = .ok sub ∧
      (∃ part part', getSubgraphFromNode insertionOrdered sub 2 = .ok part ∧
        getSubgraphFromNode insertionOrdered twoSinks 2 = .ok part' ∧ part.SameShape part' ∧
        ∀ v ∈ part.nodes, part.attr v = part'.attr v) ∧
      ((∃ e e', analyze insertionOrdered generationSort sub 2 = .error e ∧
          analyze insertionOrdered generationSort twoSinks 2 = .error e') ∨
        ∃ result result', analyze insertionOrdered generationSort sub 2 = .ok result ∧
          analyze insertionOrdered generationSort twoSinks 2 = .ok result' ∧ result.1.Agrees result'.1) := by
  obtain ⟨sub, hrun, _⟩ := getSubgraphFromNode_below twoSinks insertionOrdered (by decide : 0 ∈ twoSinks.nodes)
  exact ⟨sub, hrun, analyses_nest insertionOrdered insertionOrdered generationSort_sorts generationSort_sorts
    generationSort_refuses generationSort_refuses twoSinks 0 sub hrun 2 (.single (by decide))⟩

omit [DecidableEq V] in
lemma Analysable.below (h : Analysable g m) {c : V} (hc : g.Reaches m c) : Analysable g c where
  mem := reaches_mem h.mem hc
  acyclic v hv := h.acyclic v (hc.trans hv)
  timed v hv := h.timed v (hc.trans hv)

lemma analyze_longest (nx : Networkx V) (hsort : Sorts topologicalSort) (h : Analysable g m) :
    ∃ result, analyze nx topologicalSort g m = .ok result ∧
      IsGreatest (weightsFrom g.Edge g.dur m) result.1.projectCompletionTime := by
  obtain ⟨sub, r, est, lst, hrun, hsub, hr, hs⟩ := analysis_solves nx hsort h
  have hn := hs.criticalPath_nonempty (hsub.timed h) hsub.root
  refine ⟨(r, r.criticalPath.getLast hn), ?_, completion_from_main hsub h hs⟩
  rw [analyze, bind_ok hrun, bind_ok hr, List.getLast?_eq_some_getLast hn]
  rfl

theorem completion_time_decomposes (nx : Networkx V) (hsort : Sorts topologicalSort) (g : DiGraph V) (m : V)
    (h : Analysable g m) :
    ∃ result, analyze nx topologicalSort g m = .ok result ∧
      (∀ c, g.Edge m c → ∃ below, analyze nx topologicalSort g c = .ok below) ∧
      IsGreatest ({0} ∪ {x | ∃ c below, g.Edge m c ∧ analyze nx topologicalSort g c = .ok below ∧
        x = below.1.projectCompletionTime}) (result.1.projectCompletionTime - g.dur m) := by
  obtain ⟨result, hr, hlongest⟩ := analyze_longest nx hsort h
  have hbelow : ∀ c, g.Edge m c → ∃ below, analyze nx topologicalSort g c = .ok below ∧
      IsGreatest (weightsFrom g.Edge g.dur c) below.1.projectCompletionTime :=
    fun c hc => analyze_longest nx hsort (h.below (.single hc))
  refine ⟨result, hr, fun c hc => ⟨_, (hbelow c hc).choose_spec.1⟩, ?_, ?_⟩
  · obtain ⟨v, p, hp, hw⟩ := hlongest.1
    cases hp with
    | single =>
      refine Or.inl ?_
      rw [← hw, weight_singleton, sub_self]
      rfl
    | @cons _ c _ p he hp =>
      obtain ⟨below, hb, hgreatest⟩ := hbelow c he
      obtain ⟨w, q, hq, hqw⟩ := hgreatest.1
      have hle := hgreatest.2 ⟨v, p, hp, rfl⟩
      have hge := hlongest.2 ⟨w, m :: q, .cons he hq, rfl⟩
      rw [weight_cons] at hw hge
      exact Or.inr ⟨c, below, he, hb, by linarith⟩
  · rintro x (rfl | ⟨c, below, he, hb, rfl⟩)
    · have hle := hlongest.2 ⟨m, [m], .single m, weight_singleton g.dur m⟩
      exact sub_nonneg.mpr hle
    · obtain ⟨below', hb', hgreatest⟩ := hbelow c he
      obtain rfl := Except.ok.inj (hb.symm.trans hb')
      obtain ⟨w, q, hq, hqw⟩ := hgreatest.1
      have hle := hlongest.2 ⟨w, m :: q, .cons he hq, rfl⟩
      rw [weight_cons, hqw] at hle
      linarith

theorem completion_time_decomposes_twoSinks :
    ∃ result, analyze insertionOrdered generationSort twoSinks 0 = .ok result ∧
      (∀ c, twoSinks.Edge 0 c → ∃ below, analyze insertionOrdered generationSort twoSinks c = .ok below) ∧
      IsGreatest ({0} ∪ {x | ∃ c below, twoSinks.Edge 0 c ∧
        analyze insertionOrdered generationSort twoSinks c = .ok below ∧ x = below.1.projectCompletionTime})
        (result.1.projectCompletionTime - twoSinks.dur 0) :=
  completion_time_decomposes insertionOrdered generationSort_sorts twoSinks 0 twoSinks_analysable

end TaskStubs.Analysis
