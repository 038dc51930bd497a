import TaskStubs.Analysis.CriticalPath

/-! The forward pass computes heaviest walks, the backward pass least slacks, and no pass reads
what has not been written. -/

namespace TaskStubs.Analysis

open Function Library.Walks Library.Loops Library.TopologicalOrders

variable {V : Type} [DecidableEq V] (g : DiGraph V)

def Forwarded (done : List V) (passes : Passes V) : Prop :=
  ∀ v ∈ done, ∃ x : ℚ, passes.est v = some x ∧ passes.eft v = some (x + g.dur v) ∧
    IsGreatest (weightsTo g.Edge g.dur v) (x + g.dur v)

def EndTime (done : List V) (initial endtime : ℚ) : Prop :=
  IsGreatest {x | x = initial ∨ ∃ v ∈ done, x = g.time v + g.dur v} endtime

lemma latestPredecessor_eq (passes : Passes V) (v : V) (e : V → ℚ)
    (h : ∀ u, g.Edge u v → passes.eft u = some (e u)) :
    latestPredecessor g passes v = .ok (((g.predecessors v).map e).foldl max 0) := by
  rw [List.foldl_map]
  apply foldlM_eq _ _
  intro est u hu
  rw [h u ((g.mem_predecessors u v).mp hu)]
  rfl

omit [DecidableEq V] in
lemma endTime_step {done : List V} {initial endtime : ℚ} (h : EndTime g done initial endtime) (v : V) :
    EndTime g (done ++ [v]) initial
      (if g.time v + g.dur v > endtime then g.time v + g.dur v else endtime) := by
  obtain ⟨hm, hu⟩ := h
  split_ifs with hlt
  · refine ⟨Or.inr ⟨v, by simp, rfl⟩, ?_⟩
    rintro x (rfl | ⟨w, hw, rfl⟩)
    · exact (hu (Or.inl rfl)).trans hlt.le
    · rcases List.mem_append.mp hw with hw | hw
      · exact (hu (Or.inr ⟨w, hw, rfl⟩)).trans hlt.le
      · rw [List.mem_singleton.mp hw]
  · refine ⟨?_, ?_⟩
    · rcases hm with hm | ⟨w, hw, hm⟩
      · exact Or.inl hm
      · exact Or.inr ⟨w, List.mem_append_left _ hw, hm⟩
    · rintro x (rfl | ⟨w, hw, rfl⟩)
      · exact hu (Or.inl rfl)
      · rcases List.mem_append.mp hw with hw | hw
        · exact hu (Or.inr ⟨w, hw, rfl⟩)
        · rw [List.mem_singleton.mp hw]
          exact not_lt.mp hlt

lemma forwardNode_step {pre : List V} {v : V} {passes : Passes V} {initial endtime : ℚ}
    (ht : g.Measured v) (hn : v ∉ pre) (hpre : ∀ u, g.Edge u v → u ∈ pre)
    (hf : Forwarded g pre passes) (he : EndTime g pre initial endtime) :
    ∃ state, forwardNode g (passes, endtime) v = .ok state ∧
      Forwarded g (pre ++ [v]) state.1 ∧ EndTime g (pre ++ [v]) initial state.2 := by
  choose! x hx using hf
  have hpred := latestPredecessor_eq g passes v (fun u => x u + g.dur u)
    (fun u hu => (hx u (hpre u hu)).2.1)
  obtain ⟨hdur, hts⟩ := ht
  refine ⟨_, by rw [forwardNode, bind_ok hpred, hdur, hts]; rfl, ?_, endTime_step g he v⟩
  intro w hw
  rcases List.mem_append.mp hw with hw | hw
  · have hne : w ≠ v := fun h => hn (h ▸ hw)
    exact ⟨x w, by simp [hne, hx w hw]⟩
  · obtain rfl := List.mem_singleton.mp hw
    refine ⟨_, update_self .., update_self .., ?_⟩
    exact greatest_to w (g.predecessors w) (fun u => g.mem_predecessors u w) _
      (fun u hu => (hx u (hpre u ((g.mem_predecessors u w).mp hu))).2.2)

lemma forward_pass {order : List V} (ho : g.IsTopologicalOrder order) (ht : ∀ v ∈ g.nodes, g.Measured v)
    (initial : ℚ) : ∃ state : Passes V × ℚ, order.foldlM (forwardNode g) ({}, initial) = .ok state ∧
      Forwarded g order state.1 ∧ EndTime g order initial state.2 := by
  refine foldlM_prefix (fun done (state : Passes V × ℚ) =>
    Forwarded g done state.1 ∧ EndTime g done initial state.2) order _ ?_ ?_
  · refine ⟨fun v hv => by simp at hv, Or.inl rfl, ?_⟩
    rintro x (rfl | ⟨w, hw, _⟩)
    · exact le_rfl
    · simp at hw
  · rintro pre v post ⟨passes, endtime⟩ hsplit ⟨hf, he⟩
    have hv : v ∈ order := by rw [hsplit]; simp
    have hn := ho.nodup
    rw [hsplit, List.nodup_append] at hn
    exact forwardNode_step g (ht v ((ho.mem v).mp hv))
      (fun h => hn.2.2 v h v List.mem_cons_self rfl) (ho.2 pre v post hsplit) hf he

/-- The backward pass has finished exactly the nodes of `done`; `c` is the finish time of each sink. -/
def Backwarded (c : V → ℚ) (done : List V) (passes : Passes V) : Prop :=
  ∀ v ∈ done, ∃ y : ℚ, passes.lst v = some (y : WithTop ℚ) ∧
    passes.lft v = some ((y + g.dur v : ℚ) : WithTop ℚ) ∧ IsLeast (slacksFrom g.Edge g.dur c v) y

lemma latestFinish_eq (passes : Passes V) (v : V) (c l : V → ℚ) (hc : passes.eft v = some (c v))
    (hl : ∀ w, g.Edge v w → passes.lst w = some (l w : WithTop ℚ) ∧ IsLeast (slacksFrom g.Edge g.dur c w) (l w)) :
    ∃ m : ℚ, latestFinish g passes v = .ok (m : WithTop ℚ) ∧
      IsLeast (slacksFrom g.Edge g.dur c v) (m - g.dur v) := by
  rw [latestFinish]
  split_ifs with hs
  · have hsink : ∀ w, ¬ g.Edge v w := by
      intro w hw
      have := (g.mem_successors v w).mpr hw
      simp [hs] at this
    exact ⟨c v, by rw [hc]; rfl, least_from_sink c v hsink⟩
  · obtain ⟨m, hm, hleast⟩ := foldl_min_top ((g.successors v).map l) (by simpa using hs)
    refine ⟨m, ?_, least_from c v _ (fun w => g.mem_successors v w) l
      (fun w hw => (hl w ((g.mem_successors v w).mp hw)).2) m hleast⟩
    rw [← hm, List.foldl_map]
    apply foldlM_eq _ _
    intro lft w hw
    rw [(hl w ((g.mem_successors v w).mp hw)).1]
    rfl

lemma backwardNode_step {pre : List V} {v : V} {passes : Passes V} {c : V → ℚ} (ht : g.Measured v)
    (hn : v ∉ pre) (hpre : ∀ w, g.Edge v w → w ∈ pre) (hc : passes.eft v = some (c v))
    (hb : Backwarded g c pre passes) : ∃ next, backwardNode g passes v = .ok next ∧
      Backwarded g c (pre ++ [v]) next ∧ next.est = passes.est ∧ next.eft = passes.eft := by
  choose! l hl using hb
  obtain ⟨m, hm, hleast⟩ := latestFinish_eq g passes v c l hc
    (fun w hw => ⟨(hl w (hpre w hw)).1, (hl w (hpre w hw)).2.2⟩)
  have hs : backwardNode g passes v = .ok { passes with
      lft := update passes.lft v (some (m : WithTop ℚ))
      lst := update passes.lst v (some ((m - g.dur v : ℚ) : WithTop ℚ)) } := by
    rw [backwardNode, bind_ok hm, ht.1]
    rfl
  refine ⟨_, hs, ?_, rfl, rfl⟩
  intro w hw
  rcases List.mem_append.mp hw with hw | hw
  · have hne : w ≠ v := fun h => hn (h ▸ hw)
    exact ⟨l w, by simp [hne, hl w hw]⟩
  · obtain rfl := List.mem_singleton.mp hw
    exact ⟨m - g.dur w, by simp, by simp, hleast⟩

lemma backward_pass {order : List V} (ho : g.IsTopologicalOrder order)
    (ht : ∀ v ∈ g.nodes, g.Measured v) (passes : Passes V) (c : V → ℚ)
    (hc : ∀ v ∈ g.nodes, passes.eft v = some (c v)) :
    ∃ next, order.reverse.foldlM (backwardNode g) passes = .ok next ∧
      Backwarded g c order.reverse next ∧ next.est = passes.est ∧ next.eft = passes.eft := by
  refine foldlM_prefix (fun done next => Backwarded g c done next ∧
    next.est = passes.est ∧ next.eft = passes.eft) order.reverse passes ?_ ?_
  · exact ⟨fun v hv => by simp at hv, rfl, rfl⟩
  · rintro pre v post s hsplit ⟨hb, hest, heft⟩
    have hv : v ∈ g.nodes := (ho.mem v).mp (List.mem_reverse.mp (by rw [hsplit]; simp))
    have hn := List.nodup_reverse.mpr ho.nodup
    rw [hsplit, List.nodup_append] at hn
    obtain ⟨t, hs, hb', hest', heft'⟩ := backwardNode_step g (ht v hv)
      (fun h => hn.2.2 v h v List.mem_cons_self rfl) (fun w hw => ho.reverse pre v post hsplit w hw)
      (by rw [heft]; exact hc v hv) hb
    exact ⟨t, hs, hb', hest'.trans hest, heft'.trans heft⟩

lemma float_eq_zero_iff (x y : ℚ) : WithTop.map (· - x) (y : WithTop ℚ) = 0 ↔ y = x := by
  rw [WithTop.map_coe, ← WithTop.coe_zero, WithTop.coe_inj, sub_eq_zero]

lemma float_pass (passes : Passes V) (x y : V → ℚ)
    (h : ∀ v ∈ g.nodes, passes.est v = some (x v) ∧ passes.eft v = some (x v + g.dur v) ∧
      passes.lst v = some (y v : WithTop ℚ)) :
    ∃ next, g.nodes.foldlM floatNode (passes, [], 0) = .ok (next,
        g.nodes.filter (fun v => y v = x v), (g.nodes.map (fun v => x v + g.dur v)).foldl max 0) ∧
      (∀ v ∈ g.nodes, next.float v = some ((y v - x v : ℚ) : WithTop ℚ)) ∧
      next = { passes with float := next.float } := by
  have hfold := foldlM_prefix (f := floatNode) (fun done (s : Passes V × List V × ℚ) =>
    s.2 = (done.filter (fun v => y v = x v), (done.map (fun v => x v + g.dur v)).foldl max 0) ∧
      (∀ v ∈ done, s.1.float v = some ((y v - x v : ℚ) : WithTop ℚ)) ∧
      s.1 = { passes with float := s.1.float }) g.nodes (passes, [], 0) ⟨rfl, by simp, rfl⟩ ?_
  · obtain ⟨⟨next, rest⟩, hok, hrest, hfloat, hnext⟩ := hfold
    exact ⟨next, by rw [hok, ← hrest], hfloat, hnext⟩
  · rintro pre v post ⟨s, cp, pct⟩ hsplit ⟨hrest, hfloat, hs⟩
    obtain ⟨hx, he, hy⟩ := h v (by rw [hsplit]; simp)
    obtain ⟨rfl, rfl⟩ := Prod.mk.inj hrest
    dsimp only at hs hfloat
    have hstep : floatNode (s, pre.filter (fun v => y v = x v),
        (pre.map (fun v => x v + g.dur v)).foldl max 0) v =
        .ok ({ s with float := update s.float v (some ((y v - x v : ℚ) : WithTop ℚ)) },
          (pre ++ [v]).filter (fun v => y v = x v),
          ((pre ++ [v]).map (fun v => x v + g.dur v)).foldl max 0) := by
      rw [floatNode]
      rw [hs]
      simp only [hx, hy, he, readKey, bind, Except.bind, pure, Except.pure, float_eq_zero_iff,
        List.filter_append, List.map_append, List.foldl_append]
      by_cases hv : y v = x v <;> simp [hv]
    refine ⟨_, hstep, rfl, ?_, ?_⟩
    · intro w hw
      by_cases hwv : w = v
      · subst hwv
        exact update_self ..
      · have hp : w ∈ pre := by simpa [hwv] using hw
        simpa [hwv] using hfloat w hp
    · rw [hs]

def Passes.Within (nodes : List V) (passes : Passes V) : Prop :=
  ∀ v ∉ nodes, passes.est v = none ∧ passes.eft v = none ∧ passes.lft v = none ∧ passes.lst v = none ∧
    passes.float v = none

section Within

variable {nodes : List V} {node : V}

variable {g} in
lemma forwardNode_within (hn : node ∈ nodes) {state next : Passes V × ℚ} (h : state.1.Within nodes)
    (hstep : forwardNode g state node = .ok next) : next.1.Within nodes := by
  obtain ⟨est, -, hstep⟩ := bind_eq_ok hstep
  obtain ⟨duration, -, hstep⟩ := bind_eq_ok hstep
  obtain ⟨ts, -, hstep⟩ := bind_eq_ok hstep
  cases hstep
  intro v hv
  have hne : v ≠ node := fun he => hv (he ▸ hn)
  simpa [hne] using h v hv

variable {g} in
lemma backwardNode_within (hn : node ∈ nodes) {passes next : Passes V} (h : passes.Within nodes)
    (hstep : backwardNode g passes node = .ok next) : next.Within nodes := by
  obtain ⟨lft, -, hstep⟩ := bind_eq_ok hstep
  obtain ⟨duration, -, hstep⟩ := bind_eq_ok hstep
  cases hstep
  intro v hv
  have hne : v ≠ node := fun he => hv (he ▸ hn)
  simpa [hne] using h v hv

lemma floatNode_within (hn : node ∈ nodes) {state next : Passes V × List V × ℚ} (h : state.1.Within nodes)
    (hstep : floatNode state node = .ok next) : next.1.Within nodes := by
  obtain ⟨lst, -, hstep⟩ := bind_eq_ok hstep
  obtain ⟨est, -, hstep⟩ := bind_eq_ok hstep
  obtain ⟨eft, -, hstep⟩ := bind_eq_ok hstep
  cases hstep
  intro v hv
  have hne : v ≠ node := fun he => hv (he ▸ hn)
  simpa [hne] using h v hv

end Within

structure Solves (root : V) (r : Report V) (est lst : V → ℚ) : Prop where
  within : r.passes.Within g.nodes
  est_eq : ∀ v ∈ g.nodes, r.passes.est v = some (est v)
  eft_eq : ∀ v ∈ g.nodes, r.passes.eft v = some (est v + g.dur v)
  lst_eq : ∀ v ∈ g.nodes, r.passes.lst v = some (lst v : WithTop ℚ)
  lft_eq : ∀ v ∈ g.nodes, r.passes.lft v = some ((lst v + g.dur v : ℚ) : WithTop ℚ)
  float_eq : ∀ v ∈ g.nodes, r.passes.float v = some ((lst v - est v : ℚ) : WithTop ℚ)
  heaviest : ∀ v ∈ g.nodes, IsGreatest (weightsTo g.Edge g.dur v) (est v + g.dur v)
  least : ∀ v ∈ g.nodes, IsLeast (slacksFrom g.Edge g.dur (fun t => est t + g.dur t) v) (lst v)
  critical_eq : r.criticalPath = g.nodes.filter (fun v => lst v = est v)
  completion_eq : r.projectCompletionTime = (g.nodes.map (fun v => est v + g.dur v)).foldl max 0
  actual_eq : IsGreatest {x | ∃ v ∈ g.nodes, x = g.time v + g.dur v} (r.actual + g.time root)

theorem criticalPathMethod_solves {topologicalSort : TopologicalSort V} (hsort : Sorts topologicalSort)
    (hacyclic : Acyclic g.Edge) (ht : ∀ v ∈ g.nodes, g.Measured v) {root : V} (hroot : root ∈ g.nodes) :
    ∃ r est lst, criticalPathMethod topologicalSort g root = .ok r ∧ Solves g root r est lst := by
  obtain ⟨hdur, hts⟩ := ht root hroot
  obtain ⟨order, hsort₁, ho⟩ := hsort g hacyclic {}
  obtain ⟨⟨passes, endtime⟩, hforward, hf, hend⟩ := forward_pass g ho ht (g.time root + g.dur root)
  obtain ⟨order', hsort₂, ho'⟩ := hsort g hacyclic passes
  choose! est hest using hf
  have hest' := fun v hv => hest v ((ho.mem v).mpr hv)
  obtain ⟨passes', hbackward, hb, hest₂, heft₂⟩ := backward_pass g ho' ht passes
    (fun v => est v + g.dur v) (fun v hv => (hest' v hv).2.1)
  choose! lst hlst using hb
  have hlst' := fun v hv => hlst v (List.mem_reverse.mpr ((ho'.mem v).mpr hv))
  obtain ⟨passes'', hfloat, hf₂, hpasses⟩ := float_pass g passes' est lst
    (fun v hv => ⟨by rw [hest₂, (hest' v hv).1], by rw [heft₂, (hest' v hv).2.1], (hlst' v hv).1⟩)
  have hwithin : passes.Within g.nodes := foldlM_keeps (fun s => s.1.Within g.nodes)
    (fun v hv _ _ hs => forwardNode_within ((ho.mem v).mp hv) hs) (fun _ _ => ⟨rfl, rfl, rfl, rfl, rfl⟩) hforward
  have hwithin' : passes'.Within g.nodes := foldlM_keeps (fun s => s.Within g.nodes)
    (fun v hv _ _ hs => backwardNode_within ((ho'.mem v).mp (List.mem_reverse.mp hv)) hs) hwithin hbackward
  have hest₃ : passes''.est = passes.est := by rw [hpasses, ← hest₂]
  have heft₃ : passes''.eft = passes.eft := by rw [hpasses, ← heft₂]
  have hlst₃ : passes''.lst = passes'.lst := by rw [hpasses]
  have hlft₃ : passes''.lft = passes'.lft := by rw [hpasses]
  refine ⟨⟨g.nodes.filter (fun v => lst v = est v), endtime - g.time root,
    (g.nodes.map (fun v => est v + g.dur v)).foldl max 0, passes''⟩, est, lst, ?_, ?_⟩
  · rw [criticalPathMethod, nodeAttrs, if_pos hroot]
    change (readKey "ts" (g.attr root).ts >>= _) = _
    rw [hts]
    change (readKey "duration" (g.attr root).duration >>= _) = _
    rw [hdur]
    change (topologicalSort g {} >>= _) = _
    rw [bind_ok hsort₁, bind_ok hforward]
    change (topologicalSort g passes >>= _) = _
    rw [bind_ok hsort₂, bind_ok hbackward, bind_ok hfloat]
    rfl
  · exact {
      within := foldlM_keeps (fun s => s.1.Within g.nodes) (fun v hv _ _ hs => floatNode_within hv hs) hwithin' hfloat
      est_eq := fun v hv => by rw [hest₃]; exact (hest' v hv).1
      eft_eq := fun v hv => by rw [heft₃]; exact (hest' v hv).2.1
      lst_eq := fun v hv => by rw [hlst₃]; exact (hlst' v hv).1
      lft_eq := fun v hv => by rw [hlft₃]; exact (hlst' v hv).2.1
      float_eq := hf₂
      heaviest := fun v hv => (hest' v hv).2.2
      least := fun v hv => (hlst' v hv).2.2
      critical_eq := rfl
      completion_eq := rfl
      actual_eq := by
        rw [sub_add_cancel]
        refine ⟨?_, fun x hx => ?_⟩
        · rcases hend.1 with h | ⟨v, hv, h⟩
          · exact ⟨root, hroot, h⟩
          · exact ⟨v, (ho.mem v).mp hv, h⟩
        · obtain ⟨v, hv, rfl⟩ := hx
          exact hend.2 (Or.inr ⟨v, (ho.mem v).mpr hv, rfl⟩) }

variable {g}

lemma forwardNode_measured {state next : Passes V × ℚ} {v : V} (h : forwardNode g state v = .ok next) :
    g.Measured v := by
  obtain ⟨est, -, h⟩ := bind_eq_ok h
  obtain ⟨duration, hduration, h⟩ := bind_eq_ok h
  obtain ⟨ts, hts, -⟩ := bind_eq_ok h
  have hduration := readKey_ok hduration
  have hts := readKey_ok hts
  simp [DiGraph.Measured, DiGraph.dur, DiGraph.time, hduration, hts]

theorem criticalPathMethod_returns_iff {topologicalSort : TopologicalSort V} (hsort : Sorts topologicalSort)
    (hrefuses : Refuses topologicalSort) {root : V} (hroot : root ∈ g.nodes) :
    (∃ r, criticalPathMethod topologicalSort g root = .ok r) ↔ Acyclic g.Edge ∧ ∀ v ∈ g.nodes, g.Measured v := by
  refine ⟨?_, ?_⟩
  · rintro ⟨r, h⟩
    obtain ⟨attrs, -, h⟩ := bind_eq_ok h
    obtain ⟨starttime, -, h⟩ := bind_eq_ok h
    obtain ⟨duration, -, h⟩ := bind_eq_ok h
    obtain ⟨forward, hforward, h⟩ := bind_eq_ok h
    have hacyclic : Acyclic g.Edge := by
      by_contra hc
      cases (hrefuses g hc {}).symm.trans hforward
    refine ⟨hacyclic, ?_⟩
    intro v hv
    obtain ⟨order, horder, ho⟩ := hsort g hacyclic {}
    obtain rfl := Except.ok.inj (horder.symm.trans hforward)
    obtain ⟨state, hstate, -⟩ := bind_eq_ok h
    obtain ⟨_, _, hstep⟩ := foldlM_step_ok hstate ((ho.mem v).mpr hv)
    exact forwardNode_measured hstep
  · rintro ⟨hacyclic, ht⟩
    obtain ⟨r, _, _, hr, -⟩ := criticalPathMethod_solves g hsort hacyclic ht hroot
    exact ⟨r, hr⟩

end TaskStubs.Analysis
