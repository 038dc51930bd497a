import TaskStubs.Analysis.EventOrder

/-! Nodes without attributes: parents that have no event of their own, or one that was skipped.
They have no incoming edges, so they are met at the main task or not at all. -/

namespace TaskStubs.Analysis

open Relation Library.Walks Library.TopologicalOrders Library.Insertion Library.Loops

/-- A failed read of an attribute that only `readGraph` sets. -/
def AttributeError (e : PyError ℤ) : Prop := e = .keyError "ts" ∨ e = .keyError "duration"

/-- `nx.topological_sort` yields nodes of the graph, or raises `NetworkXUnfeasible`. -/
def ListsNodes (topologicalSort : TopologicalSort ℤ) : Prop :=
  ∀ g passes, (∃ order, topologicalSort g passes = .ok order ∧ ∀ v ∈ order, v ∈ g.nodes) ∨
    topologicalSort g passes = .error .unfeasible

def Execution.Describes (x : Execution) (g : DiGraph ℤ) (v : ℤ) : Prop :=
  x.guid = v ∧ (g.attr v).duration = some x.duration ∧ (g.attr v).ts = some x.ts

abbrev Unblamed {α : Type} (x : Except (PyError ℤ) α) : Prop := FailsOnly (fun e => ¬ AttributeError e) x

lemma readKey_unblamed {α : Type} {key : String} (hkey : key ≠ "ts" ∧ key ≠ "duration") (o : Option α) :
    Unblamed (readKey key o) := by
  cases o with
  | none =>
    rintro e ⟨⟩
    simpa [AttributeError] using hkey
  | some a => exact failsOnly_ok a

section Passes

variable {g : DiGraph ℤ} {passes : Passes ℤ} {node : ℤ}

lemma latestPredecessor_unblamed : Unblamed (latestPredecessor g passes node) := by
  apply FailsOnly.foldlM
  intro predecessor _ est
  refine FailsOnly.bind (readKey_unblamed (by decide) _) ?_
  exact fun eft _ => failsOnly_ok _

lemma latestFinish_unblamed : Unblamed (latestFinish g passes node) := by
  rw [latestFinish]
  split_ifs
  · refine FailsOnly.bind (readKey_unblamed (by decide) _) ?_
    exact fun eft _ => failsOnly_ok _
  · apply FailsOnly.foldlM
    intro successor _ lft
    refine FailsOnly.bind (readKey_unblamed (by decide) _) ?_
    exact fun lst _ => failsOnly_ok _

lemma forwardNode_unblamed (hm : g.Measured node) (endtime : ℚ) :
    Unblamed (forwardNode g (passes, endtime) node) := by
  obtain ⟨hdur, hts⟩ := hm
  apply latestPredecessor_unblamed.bind
  intro est _
  rw [hdur, hts]
  exact failsOnly_ok _

lemma backwardNode_unblamed (hm : g.Measured node) : Unblamed (backwardNode g passes node) := by
  apply latestFinish_unblamed.bind
  intro lft _
  rw [hm.1]
  exact failsOnly_ok _

lemma floatNode_unblamed (criticalPath : List ℤ) (projectCompletionTime : ℚ) :
    Unblamed (floatNode (passes, criticalPath, projectCompletionTime) node) := by
  refine FailsOnly.bind (readKey_unblamed (by decide) _) ?_
  intro lst _
  refine FailsOnly.bind (readKey_unblamed (by decide) _) ?_
  intro est _
  refine FailsOnly.bind (readKey_unblamed (by decide) _) ?_
  exact fun eft _ => failsOnly_ok _

lemma ListsNodes.unblamed {topologicalSort : TopologicalSort ℤ} (hsort : ListsNodes topologicalSort) :
    Unblamed (topologicalSort g passes) := by
  rcases hsort g passes with ⟨order, ho, -⟩ | ho
  · rw [ho]
    exact failsOnly_ok order
  · rw [ho]
    rintro e ⟨⟩
    simp [AttributeError]

lemma ListsNodes.mem {topologicalSort : TopologicalSort ℤ} (hsort : ListsNodes topologicalSort) {order : List ℤ}
    (h : topologicalSort g passes = .ok order) {v : ℤ} (hv : v ∈ order) : v ∈ g.nodes := by
  rcases hsort g passes with ⟨order', ho, hmem⟩ | ho
  · obtain rfl := Except.ok.inj (ho.symm.trans h)
    exact hmem v hv
  · cases ho.symm.trans h

lemma criticalPathMethod_unblamed {topologicalSort : TopologicalSort ℤ} (hsort : ListsNodes topologicalSort)
    {root : ℤ} (hroot : root ∈ g.nodes) (hm : ∀ v ∈ g.nodes, g.Measured v) :
    Unblamed (criticalPathMethod topologicalSort g root) := by
  obtain ⟨hdur, hts⟩ := hm root hroot
  have hdur : readKey (V := ℤ) "duration" (g.attr root).duration = .ok (g.dur root) :=
    congrArg (readKey "duration") hdur
  have hts : readKey (V := ℤ) "ts" (g.attr root).ts = .ok (g.time root) := congrArg (readKey "ts") hts
  rw [criticalPathMethod, nodeAttrs, if_pos hroot, bind_ok rfl, bind_ok hts, bind_ok hdur]
  apply hsort.unblamed.bind
  intro forward hforward
  refine FailsOnly.bind (FailsOnly.foldlM ?_ _) ?_
  · intro v hv state
    exact forwardNode_unblamed (hm v (hsort.mem hforward hv)) state.2
  rintro ⟨passes, endtime⟩ _
  apply hsort.unblamed.bind
  intro backward hbackward
  refine FailsOnly.bind (FailsOnly.foldlM ?_ _) ?_
  · intro v hv passes
    exact backwardNode_unblamed (hm v (hsort.mem hbackward (List.mem_reverse.mp hv)))
  intro passes _
  refine FailsOnly.bind (FailsOnly.foldlM ?_ _) ?_
  · intro v _ state
    exact floatNode_unblamed state.2.1 state.2.2
  exact fun _ _ => failsOnly_ok _

end Passes

section Placeholders

variable {m : ℤ} {xs : List Execution} {firstCreate : ℚ} {g : DiGraph ℤ}

def Known (xs : List Execution) (v : ℤ) : Prop := ∃ x ∈ xs, x.guid = v

instance (xs : List Execution) (v : ℤ) : Decidable (Known xs v) :=
  inferInstanceAs (Decidable (∃ x ∈ xs, x.guid = v))

lemma lastOf_guid_none {v : ℤ} (h : ¬ Known xs v) : lastOf Execution.guid v xs = none :=
  (lastOf_eq_none_iff _ _ _).mpr (fun x hx hg => h ⟨x, hx, hg⟩)

lemma Contents.described {retain : ℤ → Bool} (h : Contents retain xs firstCreate g) {v : ℤ}
    (hv : Known xs v) : ∃ x ∈ xs, x.Describes g v := by
  cases hl : lastOf Execution.guid v xs with
  | none =>
    obtain ⟨x, hx, hg⟩ := hv
    exact ((lastOf_eq_none_iff _ _ _).mp hl x hx hg).elim
  | some x =>
    obtain ⟨hx, hg⟩ := lastOf_mem hl
    refine ⟨x, hx, hg, ?_, ?_⟩
    · rw [h.attr_last v x hl]
      rfl
    · rw [h.attr_last v x hl]
      rfl

lemma Contents.known_of_reaches {retain : ℤ → Bool} (h : Contents retain xs firstCreate g) {v : ℤ}
    (hr : g.Reaches m v) (hv : v ≠ m) : Known xs v := by
  rcases hr.cases_tail with rfl | ⟨p, _, he⟩
  · exact (hv rfl).elim
  · obtain ⟨x, hx, hg, _⟩ := (h.edge p v).mp he
    exact ⟨x, hx, hg⟩

lemma Contents.root_measured {retain : ℤ → Bool} (h : Contents retain xs firstCreate g)
    (hm : m ∈ g.nodes) (hk : m = 0 ∨ Known xs m) : g.Measured m := by
  rcases hk with rfl | hk
  · exact h.measured (Or.inr ⟨rfl, hm⟩)
  · exact h.measured (Or.inl hk)

lemma Contents.root_blank {retain : ℤ → Bool} (h : Contents retain xs firstCreate g)
    (hk : ¬ (m = 0 ∨ Known xs m)) : g.attr m = {} := by
  rw [not_or] at hk
  exact h.attr_blank m (Or.inl hk.1) (lastOf_guid_none hk.2)

end Placeholders

theorem placeholders_unreached (nx : Networkx ℤ) (m : ℤ) (files : List TraceFile) (t : TraceGraph)
    (ht : readGraph m files = .ok t) (hm : m ∈ t.graph.nodes) :
    ∃ sub, getSubgraphFromNode nx t.graph m = .ok sub ∧
      (∀ v ∈ sub.nodes, v ≠ m → ∃ x ∈ executions (eventsRead files), x.Describes sub v) ∧
      (m = 0 → (∃ x ∈ executions (eventsRead files), x.Describes sub 0) ∨
        sub.attr 0 = apexMain (((creations (eventsRead files)).find? (· ≠ 0)).getD 0)) ∧
      ∀ topologicalSort, ListsNodes topologicalSort → ∀ e,
        criticalPathMethod topologicalSort sub m = .error e → AttributeError e →
          m ≠ 0 ∧ sub.attr m = {} := by
  obtain ⟨s, _, hreads, _, hc⟩ := readGraph_contents ht
  obtain ⟨sub, hrun, hsub⟩ := getSubgraphFromNode_below t.graph nx hm
  have hdescribes : ∀ x v, Execution.Describes x sub v ↔ x.Describes t.graph v := by
    intro x v
    rw [Execution.Describes, hsub.attr_eq, Execution.Describes]
  refine ⟨sub, hrun, ?_, ?_, ?_⟩
  · intro v hv hne
    simp only [hdescribes]
    exact hc.described (hc.known_of_reaches ((hsub.mem_nodes v).mp hv) hne)
  · rintro rfl
    by_cases hk : Known (executions (eventsRead files)) 0
    · simp only [hdescribes]
      exact Or.inl (hc.described hk)
    · rw [← hreads.firstCreate, hsub.attr_eq]
      exact Or.inr (hc.attr_main hm (lastOf_guid_none hk))
  · intro topologicalSort hsort e he hattr
    by_cases hk : m = 0 ∨ Known (executions (eventsRead files)) m
    · -- below a root that has its attributes every node has them
      have hmeasured := hsub.measured (fun v hv => hc.measured_of_reaches (hc.root_measured hm hk) hv)
      exact (criticalPathMethod_unblamed hsort hsub.root hmeasured e he hattr).elim
    · rw [hsub.attr_eq]
      exact ⟨fun hz => hk (Or.inl hz), hc.root_blank hk⟩

def orphans : List TraceFile :=
  [⟨"trace_events.0.json.gz", some [
    .span "int apex_preload_main(int, char**, char**)" 1 0 0 90, .span "task" 2 1 10 20,
    { TraceEvent.span "hidden" 3 1 20 20 with
      args := some { implicitParent := some true, guid := some 3, parentGuid := some (.single 1) } },
    .span "below" 4 3 20 20]⟩]

lemma generationSort_listsNodes : ListsNodes generationSort := by
  intro g passes
  rw [generationSort]
  split_ifs
  · refine Or.inl ⟨_, rfl, ?_⟩
    exact fun v hv => generations_subset _ _ v hv
  · exact Or.inr rfl

theorem placeholders_unreached_orphans :
    ∃ t sub, readGraph 0 orphans = .ok t ∧ (3 ∈ t.graph.nodes ∧ t.graph.attr 3 = {}) ∧
      getSubgraphFromNode insertionOrdered t.graph 0 = .ok sub ∧
      (∀ v ∈ sub.nodes, v ≠ 0 → ∃ x ∈ executions (eventsRead orphans), x.Describes sub v) ∧
      ∀ e, criticalPathMethod generationSort sub 0 = .error e → ¬ AttributeError e := by
  have hrun : (readGraph 0 orphans).toOption.map (fun t => (t.graph.nodes, t.graph.attr 3)) =
      some ([1, 0, 2, 4, 3], {}) := by decide +kernel
  obtain ⟨t, ht, hfields⟩ := toOption_map_eq_some hrun
  obtain ⟨hnodes, hattr⟩ := Prod.mk.inj hfields
  have hm : 0 ∈ t.graph.nodes := by rw [hnodes]; decide
  have hthree : 3 ∈ t.graph.nodes := by rw [hnodes]; decide
  obtain ⟨sub, hsub, hnode, _, hpasses⟩ := placeholders_unreached insertionOrdered 0 orphans t ht hm
  refine ⟨t, sub, ht, ⟨hthree, hattr⟩, hsub, hnode, ?_⟩
  intro e he hattr
  exact (hpasses generationSort generationSort_listsNodes e he hattr).1 rfl

/-- `readGraph` returns, and the main task is either no node or a root that can be read. -/
def RejectsOnlyUnknown (nx : Networkx ℤ) (mainTask : ℤ) (files : List TraceFile) : Prop :=
  ∃ t, readGraph mainTask files = .ok t ∧
    ((mainTask ∉ t.graph.nodes ∧
        getSubgraphFromNode nx t.graph mainTask = .error (.valueError "Start node is not in the graph.")) ∨
      ∃ sub, getSubgraphFromNode nx t.graph mainTask = .ok sub ∧ mainTask ∈ sub.nodes ∧
        (sub.attr mainTask).ts.isSome ∧ (sub.attr mainTask).duration.isSome)

lemma readGraph_main {mainTask : ℤ} {files : List TraceFile} {t : TraceGraph}
    (h : readGraph mainTask files = .ok t) : ∃ x ∈ executions (eventsRead files), x.IsMain := by
  obtain ⟨s, hs, hreads, _⟩ := readGraph_contents h
  rw [← hreads.duration, Option.isSome_iff_ne_none]
  intro hd
  rw [readGraph, readGraphRetaining] at h
  split_ifs at h
  rw [hs] at h
  dsimp only [afterLoop] at h
  rw [hd] at h
  cases h

/-- The main timer has a kept event, and the main task is 0, has one itself, or is nobody's parent. -/
def Accepted (mainTask : ℤ) (xs : List Execution) : Prop :=
  (∃ x ∈ xs, x.IsMain) ∧
    (mainTask = 0 ∨ Known xs mainTask ∨ ∀ x ∈ xs, mainTask ∉ x.pguid.parents)

instance (mainTask : ℤ) (xs : List Execution) : Decidable (Accepted mainTask xs) :=
  inferInstanceAs (Decidable (_ ∧ _))

lemma Accepted.perm {mainTask : ℤ} {xs xs' : List Execution} (hp : xs.Perm xs') :
    Accepted mainTask xs ↔ Accepted mainTask xs' := by
  simp only [Accepted, Known, hp.mem_iff]

lemma RejectsOnlyUnknown.accepted {nx : Networkx ℤ} {mainTask : ℤ} {files : List TraceFile}
    (h : RejectsOnlyUnknown nx mainTask files) : Accepted mainTask (executions (eventsRead files)) := by
  obtain ⟨t, ht, hroot⟩ := h
  obtain ⟨_, _, _, _, hc⟩ := readGraph_contents ht
  refine ⟨readGraph_main ht, ?_⟩
  by_contra hcond
  push Not at hcond
  obtain ⟨hz, hk, x, hxs, hp⟩ := hcond
  have hm : mainTask ∈ t.graph.nodes := (hc.mem_nodes mainTask).mpr ⟨x, hxs, Or.inr ⟨hp, by simp⟩⟩
  rcases hroot with ⟨hno, _⟩ | ⟨sub, hsub, _, hts, _⟩
  · exact hno hm
  · obtain ⟨sub', hsub', hbelow⟩ := getSubgraphFromNode_below t.graph nx hm
    obtain rfl := Except.ok.inj (hsub.symm.trans hsub')
    rw [hbelow.attr_eq, hc.root_blank (not_or.mpr ⟨hz, hk⟩)] at hts
    cases hts

lemma Accepted.rejectsOnlyUnknown (nx : Networkx ℤ) {mainTask : ℤ} {files : List TraceFile} (hread : Readable files)
    (h : Accepted mainTask (executions (eventsRead files))) : RejectsOnlyUnknown nx mainTask files := by
  obtain ⟨hmain, hcond⟩ := h
  obtain ⟨t, ht⟩ := readGraph_total mainTask hread hmain
  obtain ⟨_, _, _, _, hc⟩ := readGraph_contents ht
  refine ⟨t, ht, ?_⟩
  by_cases hm : mainTask ∈ t.graph.nodes
  · have hk : mainTask = 0 ∨ Known (executions (eventsRead files)) mainTask := by
      rcases hcond with hz | hk | hparent
      · exact Or.inl hz
      · exact Or.inr hk
      · -- a node that is nobody's parent has come with its own event
        obtain ⟨x, hxs, hg | ⟨hp, _⟩⟩ := (hc.mem_nodes mainTask).mp hm
        · exact Or.inr ⟨x, hxs, hg⟩
        · exact (hparent x hxs hp).elim
    obtain ⟨sub, hrun, hsub⟩ := getSubgraphFromNode_below t.graph nx hm
    obtain ⟨hdur, hts⟩ := hc.root_measured hm hk
    refine Or.inr ⟨sub, hrun, hsub.root, ?_, ?_⟩ <;> rw [hsub.attr_eq]
    · exact Option.isSome_iff_exists.mpr ⟨_, hts⟩
    · exact Option.isSome_iff_exists.mpr ⟨_, hdur⟩
  · exact Or.inl ⟨hm, getSubgraphFromNode_missing _ nx hm⟩

theorem rejects_only_unknown_iff (nx : Networkx ℤ) (mainTask : ℤ) (files : List TraceFile)
    (hread : Readable files) :
    RejectsOnlyUnknown nx mainTask files ↔
      Accepted mainTask (executions (files.flatMap TraceFile.events)) := by
  have hp : (executions (eventsRead files)).Perm (executions (files.flatMap TraceFile.events)) :=
    (eventsRead_perm files).filterMap _
  rw [← Accepted.perm hp]
  exact ⟨fun h => h.accepted, fun h => h.rejectsOnlyUnknown nx hread⟩

lemma orphans_readable : Readable orphans := by
  intro file hf
  obtain rfl := List.mem_singleton.mp hf
  refine ⟨_, rfl, ?_⟩
  simp only [List.forall_mem_cons, span_wellFormed, true_and, List.not_mem_nil, IsEmpty.forall_iff,
    implies_true, and_true]
  refine ⟨rfl, ?_, fun _ => ⟨rfl, rfl, rfl, _, rfl, rfl, rfl⟩⟩
  simp [TraceEvent.span]

theorem rejects_only_unknown_iff_orphans : RejectsOnlyUnknown insertionOrdered 4 orphans :=
  (rejects_only_unknown_iff insertionOrdered 4 orphans orphans_readable).mpr (by decide +kernel)

lemma main_error {nx : Networkx ℤ} {topologicalSort : TopologicalSort ℤ} {mainTask : ℤ} {files : List TraceFile}
    {t : TraceGraph} {e : PyError ℤ} (ht : readGraph mainTask files = .ok t)
    (he : analyze nx topologicalSort t.graph mainTask = .error e) :
    main nx topologicalSort mainTask files = .error (.raised e) := by
  rw [main, ht]
  dsimp only
  rw [he]

def unmarked : List TraceFile :=
  [⟨"trace_events.0.json.gz", some [.span "task" 2 1 10 20]⟩]

/-- Without the main timer `duration` is read unassigned, and a main task that only occurs as a
parent is a node whose `ts` is read in vain. -/
theorem known_task_rejected :
    Readable unmarked ∧ readGraph 2 unmarked = .error (.unboundLocal "duration") ∧
      ¬ RejectsOnlyUnknown insertionOrdered 2 unmarked ∧
      Readable orphans ∧ main insertionOrdered generationSort 3 orphans = .error (.raised (.keyError "ts")) ∧
      ¬ RejectsOnlyUnknown insertionOrdered 3 orphans := by
  refine ⟨?_, ?_, ?_, orphans_readable, ?_, ?_⟩
  · simp [Readable, unmarked, span_wellFormed]
  · have hrun : (readFiles (fun P => decide (2 ≤ P)) unmarked).toOption.map (·.duration) = some none := by
      decide +kernel
    obtain ⟨s, hs, hd⟩ := toOption_map_eq_some hrun
    rw [readGraph, readGraphRetaining, if_neg (by decide), hs]
    change afterLoop s = _
    rw [afterLoop, hd]
  · exact fun h => absurd h.accepted (by decide +kernel)
  · have hrun : (readGraph 3 orphans).toOption.map (fun t => (t.graph.nodes, t.graph.attr 3)) =
        some ([1, 2, 4, 3], {}) := by decide +kernel
    obtain ⟨t, ht, hfields⟩ := toOption_map_eq_some hrun
    obtain ⟨hnodes, hattr⟩ := Prod.mk.inj hfields
    have hthree : 3 ∈ t.graph.nodes := by rw [hnodes]; decide
    exact main_error ht (analyze_unmeasured insertionOrdered hthree (by rw [hattr]))
  · exact fun h => absurd h.accepted (by decide +kernel)

end TaskStubs.Analysis
