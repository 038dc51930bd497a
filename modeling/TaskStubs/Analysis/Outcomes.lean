import TaskStubs.Analysis.DependencyOrder
import TaskStubs.Analysis.MainTaskFilter
import TaskStubs.Analysis.Placeholders

/-! Every way in which `main` ends on a trace that can be read, in terms of the executions in it. -/

namespace TaskStubs.Analysis

open Relation Library.Walks Library.TopologicalOrders Library.Insertion Library.Loops

section Trace

variable (xs : List Execution) (m : ℤ)

/-- The parent links that the filter `P >= main_task` lets through. -/
def Link (p c : ℤ) : Prop := ParentOf xs p c ∧ m ≤ p

def lengthOf (v : ℤ) : ℚ := ((lastOf Execution.guid v xs).map Execution.duration).getD 0

def startOf (firstCreate : ℚ) (v : ℤ) : ℚ := ((lastOf Execution.guid v xs).map Execution.ts).getD firstCreate

def Mentioned : Prop := ∃ x ∈ xs, x.guid = m ∨ m ∈ x.pguid.parents

def Circular : Prop := ∃ v, ReflTransGen (Link xs m) m v ∧ TransGen (Link xs m) v v

end Trace

def OnHeaviestChain {V : Type} (E : V → V → Prop) (d : V → ℚ) (m n : V) : Prop :=
  ∃ t p, Walk E m t p ∧ (∀ c, ¬ E t c) ∧ n ∈ p ∧ ∀ q, Walk E m t q → weight d q ≤ weight d p

structure Reported (xs : List Execution) (firstCreate : ℚ) (m : ℤ) (result : Report ℤ × ℤ) : Prop where
  optimal : IsGreatest (weightsFrom (Link xs m) (lengthOf xs) m) result.1.projectCompletionTime
  measured : IsGreatest {x | ∃ v, ReflTransGen (Link xs m) m v ∧ x = startOf xs firstCreate v + lengthOf xs v}
    (result.1.actual + startOf xs firstCreate m)
  critical : ∀ n, n ∈ result.1.criticalPath ↔ OnHeaviestChain (Link xs m) (lengthOf xs) m n
  last : result.1.criticalPath.getLast? = some result.2

inductive Settles (xs : List Execution) (firstCreate : ℚ) (m : ℤ) : Except ReadError (Report ℤ × ℤ) → Prop
  | unmarked : (∀ x ∈ xs, ¬ x.IsMain) → Settles xs firstCreate m (.error (.unboundLocal "duration"))
  | unknown : (∃ x ∈ xs, x.IsMain) → ¬ Mentioned xs m →
    Settles xs firstCreate m (.error (.raised (.valueError "Start node is not in the graph.")))
  | placeholder : (∃ x ∈ xs, x.IsMain) → Mentioned xs m → m ≠ 0 → ¬ Known xs m →
    Settles xs firstCreate m (.error (.raised (.keyError "ts")))
  | circular : (∃ x ∈ xs, x.IsMain) → Mentioned xs m → (m = 0 ∨ Known xs m) → Circular xs m →
    Settles xs firstCreate m (.error (.raised .unfeasible))
  | reported (result) : (∃ x ∈ xs, x.IsMain) → Mentioned xs m → (m = 0 ∨ Known xs m) → ¬ Circular xs m →
    ((∀ x ∈ xs, 0 ≤ x.dur) → Reported xs firstCreate m result) → Settles xs firstCreate m (.ok result)

section Subgraph

variable {V : Type} {g sub : DiGraph V} {m : V}

lemma Below.transGen (hsub : Below g m sub) {u v : V} (hu : g.Reaches m u) (h : TransGen g.Edge u v) :
    TransGen sub.Edge u v := by
  induction h with
  | single he => exact .single ((hsub.edge _ _).mpr ⟨he, hu⟩)
  | tail h he ih => exact ih.tail ((hsub.edge _ _).mpr ⟨he, hu.trans h.to_reflTransGen⟩)

variable {r : Report V} {est lst : V → ℚ}

lemma completion_from_main [DecidableEq V] (hsub : Below g m sub) (h : Analysable g m) (hs : Solves sub m r est lst) :
    IsGreatest (weightsFrom g.Edge g.dur m) r.projectCompletionTime := by
  have hle : ∀ v q, Walk g.Edge m v q → weight g.dur q ≤ r.projectCompletionTime := fun v q hq =>
    hsub.dur_eq ▸ hs.weight_le_completion ⟨hsub.root, hsub.walk.mpr hq⟩
  obtain ⟨u, v, p, hp, hw⟩ := (hs.completion_greatest (hsub.timed h) hsub.root).1
  rw [hsub.dur_eq] at hw
  obtain ⟨q, hq, hpq⟩ := hsub.extend_to_root h hp
  have hq := hsub.walk.mp hq
  refine ⟨⟨v, q, hq, le_antisymm (hle v q hq) (hw.symm.trans_le hpq)⟩, ?_⟩
  rintro x ⟨v, q, hq, rfl⟩
  exact hle v q hq

lemma critical_iff_chain [DecidableEq V] (hsub : Below g m sub) (h : Analysable g m) (hs : Solves sub m r est lst)
    (n : V) : n ∈ r.criticalPath ↔ OnHeaviestChain g.Edge g.dur m n := by
  rw [hs.mem_criticalPath_iff, OnHeaviestPath, hsub.dur_eq]
  refine ⟨?_, ?_⟩
  · rintro ⟨t, u, p, hsink, hp, hn, hmax⟩
    obtain ⟨q, s, hq, hns, rfl⟩ := hp.2.split hn
    -- the part before `n` may be taken from the main task on
    obtain ⟨q', hq', hle⟩ := hsub.extend_to_root h ⟨hp.1, hq⟩
    have hwalk := hsub.walk.mp (hq'.append hns)
    refine ⟨t, _, hwalk, ?_, List.mem_append_left _ hq'.last_mem, ?_⟩
    · exact fun c hc => hsink c ((hsub.edge t c).mpr ⟨hc, hwalk.reaches⟩)
    · intro w hw
      have hwp : weight g.dur w ≤ weight g.dur (q ++ s.tail) := hmax m w ⟨hsub.root, hsub.walk.mpr hw⟩
      rw [weight_append] at hwp ⊢
      linarith
  · rintro ⟨t, p, hp, hsink, hn, hmax⟩
    refine ⟨t, m, p, ?_, ⟨hsub.root, hsub.walk.mpr hp⟩, hn, ?_⟩
    · exact fun c hc => hsink c ((hsub.edge t c).mp hc).1
    · intro u q hq
      obtain ⟨w, hw, hle⟩ := hsub.extend_to_root h hq
      exact hle.trans (hmax w (hsub.walk.mp hw))

lemma actual_greatest (hsub : Below g m sub) (hs : Solves sub m r est lst) :
    IsGreatest {x | ∃ v, g.Reaches m v ∧ x = g.time v + g.dur v} (r.actual + g.time m) := by
  have h := hs.actual_eq
  simp only [hsub.mem_nodes, hsub.dur_eq, hsub.time_eq] at h
  exact h

end Subgraph

lemma analyze_cyclic (nx : Networkx ℤ) {topologicalSort : TopologicalSort ℤ} (hrefuses : Refuses topologicalSort)
    {g : DiGraph ℤ} {m v : ℤ} (hm : m ∈ g.nodes) (hroot : g.Measured m) (hr : g.Reaches m v)
    (hc : TransGen g.Edge v v) : analyze nx topologicalSort g m = .error .unfeasible := by
  obtain ⟨sub, hrun, hsub⟩ := getSubgraphFromNode_below g nx hm
  obtain ⟨hdur, hts⟩ := hroot
  have hcyclic : ¬ Acyclic sub.Edge := fun ha => ha v (hsub.transGen hr hc)
  have hdur : readKey (V := ℤ) "duration" (g.attr m).duration = .ok (g.dur m) :=
    congrArg (readKey "duration") hdur
  have hts : readKey (V := ℤ) "ts" (g.attr m).ts = .ok (g.time m) := congrArg (readKey "ts") hts
  have hcpm : criticalPathMethod topologicalSort sub m = .error .unfeasible := by
    rw [criticalPathMethod, nodeAttrs, if_pos hsub.root, hsub.attr_eq, bind_ok rfl, bind_ok hts, bind_ok hdur,
      hrefuses _ hcyclic]
    rfl
  rw [analyze, bind_ok hrun, hcpm]
  rfl

namespace Contents

variable {retain : ℤ → Bool} {m : ℤ} {xs : List Execution} {firstCreate : ℚ} {g : DiGraph ℤ}

section Attributes

variable (h : Contents retain xs firstCreate g)

include h

lemma dur_eq : g.dur = lengthOf xs := by
  funext v
  rw [DiGraph.dur, lengthOf]
  cases hl : lastOf Execution.guid v xs with
  | some x =>
    rw [h.attr_last v x hl]
    rfl
  | none =>
    by_cases hv : v ≠ 0 ∨ v ∉ g.nodes
    · rw [h.attr_blank v hv hl]
      rfl
    · push Not at hv
      obtain ⟨rfl, hm⟩ := hv
      rw [h.attr_main hm hl]
      rfl

lemma time_eq {v : ℤ} (hv : v = 0 ∧ 0 ∈ g.nodes ∨ Known xs v) : g.time v = startOf xs firstCreate v := by
  rw [DiGraph.time, startOf]
  cases hl : lastOf Execution.guid v xs with
  | some x =>
    rw [h.attr_last v x hl]
    rfl
  | none =>
    rcases hv with ⟨rfl, hm⟩ | ⟨x, hx, hg⟩
    · rw [h.attr_main hm hl]
      rfl
    · exact ((lastOf_eq_none_iff _ _ _).mp hl x hx hg).elim

lemma dur_nonneg (hdur : ∀ x ∈ xs, 0 ≤ x.dur) (v : ℤ) : 0 ≤ g.dur v := by
  rw [h.dur_eq, lengthOf]
  cases hl : lastOf Execution.guid v xs with
  | none => exact le_rfl
  | some x =>
    rw [Option.map_some, Option.getD_some, Execution.duration]
    split_ifs
    · exact le_rfl
    · exact hdur x (lastOf_mem hl).1

end Attributes

variable (h : Contents (fun P => m ≤ P) xs firstCreate g)

include h

lemma edge_eq : g.Edge = Link xs m := by
  funext p c
  exact propext (filtered_edge h)

lemma mentioned_iff : m ∈ g.nodes ↔ Mentioned xs m := by
  simp [h.mem_nodes, Mentioned]

lemma circular_iff : (∃ v, g.Reaches m v ∧ TransGen g.Edge v v) ↔ Circular xs m := by
  rw [Circular, ← h.edge_eq]
  rfl

lemma analysable (hdur : ∀ x ∈ xs, 0 ≤ x.dur) (hm : m ∈ g.nodes) (hk : m = 0 ∨ Known xs m)
    (hacyclic : ¬ Circular xs m) : Analysable g m where
  mem := hm
  acyclic v hr hc := hacyclic (h.circular_iff.mp ⟨v, hr, hc⟩)
  timed v hr := by
    obtain ⟨hd, ht⟩ := h.measured_of_reaches (h.root_measured hm hk) hr
    exact ⟨hd, h.dur_nonneg hdur v, ht⟩

lemma analyze_settled (nx : Networkx ℤ) {topologicalSort : TopologicalSort ℤ} (hsort : Sorts topologicalSort)
    (hm : m ∈ g.nodes) (hk : m = 0 ∨ Known xs m) (hacyclic : ¬ Circular xs m) :
    ∃ result, analyze nx topologicalSort g m = .ok result ∧
      ((∀ x ∈ xs, 0 ≤ x.dur) → Reported xs firstCreate m result) := by
  have hroot := h.root_measured hm hk
  obtain ⟨sub, r, est, lst, hsub, hs, hrun⟩ := analyze_solved nx hsort hm
    (fun v hr hc => hacyclic (h.circular_iff.mp ⟨v, hr, hc⟩)) (fun v hr => h.measured_of_reaches hroot hr)
  -- the walk of least slack from the main task ends at a sink, and sinks are critical
  obtain ⟨t, p, hp, hsink, _⟩ := (hs.least m hsub.root).1
  have htn := reaches_mem hsub.root hp.reaches
  have hne : r.criticalPath ≠ [] := List.ne_nil_of_mem (hs.sink_critical htn hsink)
  rw [List.getLast?_eq_some_getLast hne] at hrun
  refine ⟨_, hrun, fun hdur => ?_⟩
  have ha := h.analysable hdur hm hk hacyclic
  have hstart : ∀ v, g.Reaches m v → g.time v = startOf xs firstCreate v := by
    intro v hr
    apply h.time_eq
    by_cases hv : v = m
    · subst hv
      exact hk.imp_left (fun hz => ⟨hz, hz ▸ hm⟩)
    · exact Or.inr (h.known_of_reaches hr hv)
  refine ⟨?_, ?_, ?_, List.getLast?_eq_some_getLast hne⟩
  · rw [← h.edge_eq, ← h.dur_eq]
    exact completion_from_main hsub ha hs
  · rw [← h.edge_eq, ← h.dur_eq, ← hstart m .refl]
    obtain ⟨⟨v, hv, hx⟩, hmax⟩ := actual_greatest hsub hs
    refine ⟨⟨v, hv, by rw [hx, hstart v hv]⟩, ?_⟩
    rintro x ⟨w, hw, rfl⟩
    exact hmax ⟨w, hw, by rw [hstart w hw]⟩
  · rw [← h.edge_eq, ← h.dur_eq]
    exact critical_iff_chain hsub ha hs

lemma analyze_circular (nx : Networkx ℤ) {topologicalSort : TopologicalSort ℤ} (hrefuses : Refuses topologicalSort)
    (hm : m ∈ g.nodes) (hk : m = 0 ∨ Known xs m) (hcircular : Circular xs m) :
    analyze nx topologicalSort g m = .error .unfeasible := by
  obtain ⟨v, hr, hc⟩ := h.circular_iff.mpr hcircular
  exact analyze_cyclic nx hrefuses hm (h.root_measured hm hk) hr hc

end Contents

lemma readGraph_unmarked (mainTask : ℤ) {files : List TraceFile} (hread : Readable files) (hne : files ≠ [])
    (hmain : ∀ x ∈ executions (eventsRead files), ¬ x.IsMain) :
    readGraph mainTask files = .error (.unboundLocal "duration") := by
  obtain ⟨s, hs⟩ := readFiles_total (fun P => mainTask ≤ P) hread
  have hd : s.duration = none := by
    rw [← Option.not_isSome_iff_eq_none, (readFiles_reads hs).duration]
    exact fun ⟨x, hx, hm⟩ => hmain x hx hm
  rw [readGraph, readGraphRetaining, if_neg (by simpa using hne), hs]
  dsimp only [afterLoop]
  rw [hd]

variable (nx : Networkx ℤ) {topologicalSort : TopologicalSort ℤ}

lemma main_ok {mainTask : ℤ} {files : List TraceFile} {t : TraceGraph} {result : Report ℤ × ℤ}
    (ht : readGraph mainTask files = .ok t) (hr : analyze nx topologicalSort t.graph mainTask = .ok result) :
    main nx topologicalSort mainTask files = .ok result := by
  rw [main, ht]
  dsimp only
  rw [hr]

theorem main_settles (hsort : Sorts topologicalSort) (hrefuses : Refuses topologicalSort) (mainTask : ℤ)
    (files : List TraceFile) (hread : Readable files) (hne : files ≠ []) :
    Settles (executions (eventsRead files)) (((creations (eventsRead files)).find? (· ≠ 0)).getD 0) mainTask
      (main nx topologicalSort mainTask files) := by
  by_cases hmain : ∃ x ∈ executions (eventsRead files), x.IsMain
  · obtain ⟨t, ht⟩ := readGraph_total mainTask hread hmain
    obtain ⟨s, _, hreads, _, hc⟩ := readGraph_contents ht
    rw [← hreads.firstCreate]
    by_cases hm : mainTask ∈ t.graph.nodes
    · have hmentioned := hc.mentioned_iff.mp hm
      by_cases hk : mainTask = 0 ∨ Known (executions (eventsRead files)) mainTask
      · by_cases hcircular : Circular (executions (eventsRead files)) mainTask
        · rw [main_error ht (hc.analyze_circular nx hrefuses hm hk hcircular)]
          exact .circular hmain hmentioned hk hcircular
        · obtain ⟨result, hr, hreport⟩ := hc.analyze_settled nx hsort hm hk hcircular
          rw [main_ok nx ht hr]
          exact .reported result hmain hmentioned hk hcircular hreport
      · rw [main_error ht (analyze_unmeasured nx hm (by rw [hc.root_blank hk]))]
        obtain ⟨hz, hk⟩ := not_or.mp hk
        exact .placeholder hmain hmentioned hz hk
    · rw [main_error ht (analyze_missing nx hm)]
      exact .unknown hmain (fun h => hm (hc.mentioned_iff.mpr h))
  · have hmain : ∀ x ∈ executions (eventsRead files), ¬ x.IsMain := fun x hx hm => hmain ⟨x, hx, hm⟩
    rw [main, readGraph_unmarked mainTask hread hne hmain]
    exact .unmarked hmain

theorem main_settles_orphans :
    Settles (executions (eventsRead orphans)) (((creations (eventsRead orphans)).find? (· ≠ 0)).getD 0) 0
      (main insertionOrdered generationSort 0 orphans) :=
  main_settles insertionOrdered generationSort_sorts generationSort_refuses 0 orphans orphans_readable
    (by simp [orphans])

end TaskStubs.Analysis
