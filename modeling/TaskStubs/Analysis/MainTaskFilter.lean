import TaskStubs.Analysis.TraceContents
import TaskStubs.Analysis.CompletionTime

/-! The filter `P >= main_task` on the parents, against the graph of all parents. -/

namespace TaskStubs.Analysis

open Relation Library.Walks Library.Loops

def readGraphUnfiltered (files : List TraceFile) : Except ReadError TraceGraph :=
  readGraphRetaining (fun _ => true) files

def ParentOf (xs : List Execution) (p c : ℤ) : Prop := ∃ x ∈ xs, x.guid = c ∧ p ∈ x.pguid.parents

/-- No task that descends from `mainTask` and has a child is numbered below `mainTask`. -/
def NumberedAbove (xs : List Execution) (mainTask : ℤ) : Prop :=
  ∀ p c, ReflTransGen (ParentOf xs) mainTask p → ParentOf xs p c → mainTask ≤ p

def ReadState.clock (s : ReadState) : ℚ × ℚ × Option ℤ := (s.firstCreate, s.lastDestroy, s.duration)

lemma apply_clock {retain retain' : ℤ → Bool} {s s' : ReadState} (h : s.clock = s'.clock) (r : Reading) :
    (s.apply retain r).clock = (s'.apply retain' r).clock := by
  simp only [ReadState.clock, Prod.mk.injEq] at h ⊢
  obtain ⟨hf, hl, hd⟩ := h
  cases r <;> simp [ReadState.apply, hf, hl, hd]

lemma readEvent_clock (retain retain' : ℤ → Bool) {s s' : ReadState} (line : TraceEvent)
    (h : s.clock = s'.clock) :
    (readEvent retain s line).map ReadState.clock = (readEvent retain' s' line).map ReadState.clock := by
  have hf : s.firstCreate = s'.firstCreate := congrArg Prod.fst h
  rw [readEvent, readEvent, hf]
  cases readLine s'.firstCreate line with
  | error e => rfl
  | ok r => exact congrArg Except.ok (apply_clock h r)

lemma readFile_clock (retain retain' : ℤ → Bool) {s s' : ReadState} (file : TraceFile)
    (h : s.clock = s'.clock) :
    (readFile retain s file).map ReadState.clock = (readFile retain' s' file).map ReadState.clock := by
  rw [readFile, readFile]
  cases file.traceEvents with
  | none => rfl
  | some lines => exact foldlM_view ReadState.clock (fun _ _ a ha => readEvent_clock retain retain' a ha) _ _ _ h

lemma readGraph_alike (retain retain' : ℤ → Bool) (files : List TraceFile) :
    (∃ e, readGraphRetaining retain files = .error e ∧ readGraphRetaining retain' files = .error e) ∨
      ∃ t t', readGraphRetaining retain files = .ok t ∧ readGraphRetaining retain' files = .ok t' := by
  have h : (readFiles retain files).map ReadState.clock = (readFiles retain' files).map ReadState.clock :=
    foldlM_view ReadState.clock (fun _ _ a ha => readFile_clock retain retain' a ha) _ _ _ rfl
  rw [readGraphRetaining, readGraphRetaining]
  split_ifs
  · exact Or.inl ⟨_, rfl, rfl⟩
  · obtain ⟨e, hs, hs'⟩ | ⟨s, s', hs, hs', hclock⟩ := map_eq_map h
    · rw [hs, hs']
      exact Or.inl ⟨_, rfl, rfl⟩
    · rw [hs, hs']
      have hd : s.duration = s'.duration := congrArg (·.2.2) hclock
      dsimp only [afterLoop]
      rw [hd]
      cases s'.duration with
      | none => exact Or.inl ⟨_, rfl, rfl⟩
      | some duration => exact Or.inr ⟨_, _, rfl, rfl⟩

section

variable {xs : List Execution} {mainTask : ℤ} {firstCreate firstCreate' : ℚ}
  {g g' : DiGraph ℤ}

lemma unfiltered_edge (h' : Contents (fun _ => true) xs firstCreate' g') {p c : ℤ} :
    g'.Edge p c ↔ ParentOf xs p c := by
  simp [h'.edge, ParentOf]

lemma filtered_edge (h : Contents (fun P => mainTask ≤ P) xs firstCreate g) {p c : ℤ} :
    g.Edge p c ↔ ParentOf xs p c ∧ mainTask ≤ p := by
  rw [h.edge]
  refine ⟨?_, ?_⟩
  · rintro ⟨x, hx, hc, hp, hr⟩
    exact ⟨⟨x, hx, hc, hp⟩, of_decide_eq_true hr⟩
  · rintro ⟨⟨x, hx, hc, hp⟩, hr⟩
    exact ⟨x, hx, hc, hp, decide_eq_true hr⟩

lemma mainTask_mem_iff (h : Contents (fun P => mainTask ≤ P) xs firstCreate g)
    (h' : Contents (fun _ => true) xs firstCreate' g') : mainTask ∈ g.nodes ↔ mainTask ∈ g'.nodes := by
  rw [h.mem_nodes, h'.mem_nodes]
  simp

lemma sameShape_iff (h : Contents (fun P => mainTask ≤ P) xs firstCreate g)
    (h' : Contents (fun _ => true) xs firstCreate' g') {sub sub' : DiGraph ℤ}
    (hsub : Below g mainTask sub) (hsub' : Below g' mainTask sub') :
    sub.SameShape sub' ↔ NumberedAbove xs mainTask := by
  have hE : g'.Edge = ParentOf xs := by
    funext p c
    exact propext (unfiltered_edge h')
  refine ⟨?_, ?_⟩
  · rintro ⟨_, hedge⟩ p c hr hpc
    rw [← hE] at hr hpc
    have he := ((hsub.edge p c).mp ((hedge p c).mpr ((hsub'.edge p c).mpr ⟨hpc, hr⟩))).1
    exact ((filtered_edge h).mp he).2
  · intro hnum
    have hagree : ∀ u v, g'.Reaches mainTask u → (g'.Edge u v ↔ g.Edge u v) := by
      intro u v hr
      rw [DiGraph.Reaches, hE] at hr
      rw [unfiltered_edge h', filtered_edge h]
      exact ⟨fun hp => ⟨hp, hnum u v hr hp⟩, fun hp => hp.1⟩
    have hreach : ∀ v, g'.Reaches mainTask v ↔ g.Reaches mainTask v := fun v => reaches_congr hagree
    refine ⟨?_, ?_⟩
    · intro v
      rw [hsub.mem_nodes, hsub'.mem_nodes, hreach]
    · intro u v
      rw [hsub.edge, hsub'.edge, hreach]
      refine ⟨?_, ?_⟩
      · exact fun he => ⟨(hagree u v ((hreach u).mpr he.2)).mpr he.1, he.2⟩
      · exact fun he => ⟨(hagree u v ((hreach u).mpr he.2)).mp he.1, he.2⟩

end

theorem filter_keeps_dependencies_iff (nx : Networkx ℤ) (mainTask : ℤ) (files : List TraceFile) :
    (∃ e, readGraph mainTask files = .error e ∧ readGraphUnfiltered files = .error e) ∨
      ∃ t t', readGraph mainTask files = .ok t ∧ readGraphUnfiltered files = .ok t' ∧
        ((∃ e, getSubgraphFromNode nx t.graph mainTask = .error e ∧
            getSubgraphFromNode nx t'.graph mainTask = .error e) ∨
          ∃ sub sub', getSubgraphFromNode nx t.graph mainTask = .ok sub ∧
            getSubgraphFromNode nx t'.graph mainTask = .ok sub' ∧
            (sub.SameShape sub' ↔ NumberedAbove (executions (eventsRead files)) mainTask)) := by
  rcases readGraph_alike (fun P => mainTask ≤ P) (fun _ => true) files with he | ⟨t, t', ht, ht'⟩
  · exact Or.inl he
  · refine Or.inr ⟨t, t', ht, ht', ?_⟩
    obtain ⟨_, _, _, _, hc⟩ := readGraph_contents ht
    obtain ⟨_, _, _, _, hc'⟩ := readGraph_contents ht'
    by_cases hm : mainTask ∈ t.graph.nodes
    · obtain ⟨sub, hrun, hsub⟩ := getSubgraphFromNode_below t.graph nx hm
      obtain ⟨sub', hrun', hsub'⟩ := getSubgraphFromNode_below t'.graph nx ((mainTask_mem_iff hc hc').mp hm)
      exact Or.inr ⟨sub, sub', hrun, hrun', sameShape_iff hc hc' hsub hsub'⟩
    · have hm' : mainTask ∉ t'.graph.nodes := fun h => hm ((mainTask_mem_iff hc hc').mpr h)
      exact Or.inl ⟨_, getSubgraphFromNode_missing _ nx hm, getSubgraphFromNode_missing _ nx hm'⟩

def renumbered : List TraceFile :=
  [⟨"trace_events.0.json.gz", some [
    .span "int apex_preload_main(int, char**, char**)" 1 0 0 90, .span "outer" 5 1 10 20,
    .span "inner" 3 5 30 20, .span "leaf" 7 3 50 20]⟩]

theorem low_parent_dropped :
    ∃ t t' sub sub', readGraph 5 renumbered = .ok t ∧ readGraphUnfiltered renumbered = .ok t' ∧
      getSubgraphFromNode insertionOrdered t.graph 5 = .ok sub ∧
      getSubgraphFromNode insertionOrdered t'.graph 5 = .ok sub' ∧
      sub'.Edge 3 7 ∧ 7 ∈ sub'.nodes ∧ 7 ∉ sub.nodes := by
  have hrun : (readGraph 5 renumbered).toOption.map (fun t => (t.graph.nodes, t.graph.edges)) =
      some ([1, 5, 3, 7], [(5, 3)]) := by decide +kernel
  have hrun' : (readGraphUnfiltered renumbered).toOption.map (fun t => (t.graph.nodes, t.graph.edges)) =
      some ([1, 0, 5, 3, 7], [(0, 1), (1, 5), (5, 3), (3, 7)]) := by decide +kernel
  obtain ⟨t, ht, hfields⟩ := toOption_map_eq_some hrun
  obtain ⟨t', ht', hfields'⟩ := toOption_map_eq_some hrun'
  obtain ⟨hnodes, hedges⟩ := Prod.mk.inj hfields
  obtain ⟨hnodes', hedges'⟩ := Prod.mk.inj hfields'
  obtain ⟨sub, hrun, hsub⟩ := getSubgraphFromNode_below t.graph insertionOrdered
    (by rw [hnodes]; decide : 5 ∈ t.graph.nodes)
  obtain ⟨sub', hrun', hsub'⟩ := getSubgraphFromNode_below t'.graph insertionOrdered
    (by rw [hnodes']; decide : 5 ∈ t'.graph.nodes)
  have he : t'.graph.Edge 5 3 := by simp [DiGraph.Edge, hedges']
  have he' : t'.graph.Edge 3 7 := by simp [DiGraph.Edge, hedges']
  have hr : t'.graph.Reaches 5 3 := .single he
  refine ⟨t, t', sub, sub', ht, ht', hrun, hrun', (hsub'.edge 3 7).mpr ⟨he', hr⟩, ?_, ?_⟩
  · exact (hsub'.mem_nodes 7).mpr (hr.tail he')
  · intro h
    have hr₇ := (hsub.mem_nodes 7).mp h
    rcases hr₇.cases_tail with h₇ | ⟨w, _, hw⟩
    · cases h₇
    · simp [DiGraph.Edge, hedges] at hw

end TaskStubs.Analysis
