import TaskStubs.Analysis.CompletionTime
import TaskStubs.Analysis.TraceContents

/-! The order of the events, and how they are spread over the files, has no influence on the graph
nor on the completion time and the critical nodes computed from it. -/

namespace TaskStubs.Analysis

open Relation Library.Walks Library.Insertion Library.Loops

section Agree

variable {V : Type} {g g' : DiGraph V} {root root' : V} {r r' : Report V} {est lst est' lst' : V → ℚ}

lemma DiGraph.SameShape.edge_eq (h : g.SameShape g') : g.Edge = g'.Edge := by
  funext u v
  exact propext (h.2 u v)

lemma DiGraph.SameShape.reaches (h : g.SameShape g') (u v : V) : g.Reaches u v ↔ g'.Reaches u v :=
  reaches_congr (fun x y _ => h.2 x y)

lemma Solves.est_agree (hshape : g.SameShape g') (hdur : g.dur = g'.dur)
    (h : Solves g root r est lst) (h' : Solves g' root' r' est' lst') {v : V} (hv : v ∈ g.nodes) :
    est v = est' v := by
  have hg := h.heaviest v hv
  rw [hshape.edge_eq, hdur] at hg
  have heq := hg.unique (h'.heaviest v ((hshape.1 v).mp hv))
  linarith

lemma Solves.lst_agree (hshape : g.SameShape g') (hdur : g.dur = g'.dur)
    (h : Solves g root r est lst) (h' : Solves g' root' r' est' lst') {v : V} (hv : v ∈ g.nodes) :
    lst v = lst' v := by
  have hl := h.least v hv
  have hc : ∀ t, g.Reaches v t → est t + g.dur t = est' t + g'.dur t := by
    intro t ht
    rw [h.est_agree hshape hdur h' (reaches_mem hv ht), hdur]
  rw [slacksFrom_congr g.dur hc, hshape.edge_eq, hdur] at hl
  exact hl.unique (h'.least v ((hshape.1 v).mp hv))

lemma Solves.completion_agree (hshape : g.SameShape g') (hdur : g.dur = g'.dur)
    (h : Solves g root r est lst) (h' : Solves g' root' r' est' lst') :
    r.projectCompletionTime = r'.projectCompletionTime := by
  rw [h.completion_eq, h'.completion_eq]
  apply foldl_max_congr 0
  intro x
  simp only [List.mem_map]
  refine ⟨?_, ?_⟩
  · rintro ⟨v, hv, rfl⟩
    exact ⟨v, (hshape.1 v).mp hv, by rw [h.est_agree hshape hdur h' hv, hdur]⟩
  · rintro ⟨v, hv, rfl⟩
    have hv' := (hshape.1 v).mpr hv
    exact ⟨v, hv', by rw [h.est_agree hshape hdur h' hv', hdur]⟩

lemma Solves.critical_agree [DecidableEq V] (hshape : g.SameShape g') (hdur : g.dur = g'.dur)
    (h : Solves g root r est lst) (h' : Solves g' root' r' est' lst') :
    r.criticalPath.toFinset = r'.criticalPath.toFinset := by
  ext v
  rw [List.mem_toFinset, List.mem_toFinset, h.mem_criticalPath, h'.mem_criticalPath, ← hshape.1 v]
  apply and_congr_right
  intro hv
  rw [h.lst_agree hshape hdur h' hv, h.est_agree hshape hdur h' hv]

structure Report.Agrees (r r' : Report V) : Prop where
  critical : ∀ v, v ∈ r.criticalPath ↔ v ∈ r'.criticalPath
  actual_eq : r.actual = r'.actual
  completion_eq : r.projectCompletionTime = r'.projectCompletionTime
  passes_eq : r.passes = r'.passes

lemma Solves.passes_agree (hshape : g.SameShape g') (hdur : g.dur = g'.dur)
    (h : Solves g root r est lst) (h' : Solves g' root' r' est' lst') : r.passes = r'.passes := by
  have hvalues : ∀ v, r.passes.est v = r'.passes.est v ∧ r.passes.eft v = r'.passes.eft v ∧
      r.passes.lft v = r'.passes.lft v ∧ r.passes.lst v = r'.passes.lst v ∧
      r.passes.float v = r'.passes.float v := by
    intro v
    by_cases hv : v ∈ g.nodes
    · have hv' := (hshape.1 v).mp hv
      rw [h.est_eq v hv, h.eft_eq v hv, h.lft_eq v hv, h.lst_eq v hv, h.float_eq v hv, h'.est_eq v hv',
        h'.eft_eq v hv', h'.lft_eq v hv', h'.lst_eq v hv', h'.float_eq v hv', h.est_agree hshape hdur h' hv,
        h.lst_agree hshape hdur h' hv, hdur]
      exact ⟨rfl, rfl, rfl, rfl, rfl⟩
    · have hv' := mt (hshape.1 v).mpr hv
      obtain ⟨he, hf, hl, hs, ht⟩ := h.within v hv
      obtain ⟨he', hf', hl', hs', ht'⟩ := h'.within v hv'
      rw [he, hf, hl, hs, ht, he', hf', hl', hs', ht']
      exact ⟨rfl, rfl, rfl, rfl, rfl⟩
  generalize r.passes = passes at hvalues
  generalize r'.passes = passes' at hvalues
  obtain ⟨_, _, _, _, _⟩ := passes
  obtain ⟨_, _, _, _, _⟩ := passes'
  rw [Passes.mk.injEq]
  exact ⟨funext fun v => (hvalues v).1, funext fun v => (hvalues v).2.1, funext fun v => (hvalues v).2.2.1,
    funext fun v => (hvalues v).2.2.2.1, funext fun v => (hvalues v).2.2.2.2⟩

lemma Solves.agree [DecidableEq V] (hshape : g.SameShape g') (hdur : g.dur = g'.dur) (htime : g.time = g'.time)
    (h : Solves g root r est lst) (h' : Solves g' root r' est' lst') : r.Agrees r' where
  critical v := by
    have hset := h.critical_agree hshape hdur h'
    rw [← List.mem_toFinset, hset, List.mem_toFinset]
  actual_eq := by
    have hactual := h.actual_eq
    simp only [hshape.1, hdur, htime] at hactual
    exact add_right_cancel (hactual.unique h'.actual_eq)
  completion_eq := h.completion_agree hshape hdur h'
  passes_eq := h.passes_agree hshape hdur h'

lemma Report.Agrees.nil_iff (h : r.Agrees r') : r.criticalPath = [] ↔ r'.criticalPath = [] := by
  rw [List.eq_nil_iff_forall_not_mem, List.eq_nil_iff_forall_not_mem]
  exact forall_congr' (fun v => not_congr (h.critical v))

end Agree

structure WellFormed (line : TraceEvent) : Prop where
  ph : line.ph.isSome
  record : line.ph = some "R" → line.name.isSome ∧
    (line.name = some "Task Creation" ∨ line.name = some "Task Destroy" → line.ts.isSome)
  execution : line.ph = some "X" → line.name.isSome ∧ line.dur.isSome ∧ line.ts.isSome ∧
    ∃ args, line.args = some args ∧ args.guid.isSome ∧ args.parentGuid.isSome

def Readable (files : List TraceFile) : Prop :=
  ∀ file ∈ files, ∃ lines, file.traceEvents = some lines ∧ ∀ line ∈ lines, WellFormed line

lemma span_wellFormed (name : String) (guid parent : ℤ) (ts dur : ℚ) :
    WellFormed (.span name guid parent ts dur) where
  ph := rfl
  record h := by simp [TraceEvent.span] at h
  execution _ := ⟨rfl, rfl, rfl, _, rfl, rfl, rfl⟩

lemma readExecution_total {line : TraceEvent} (h : WellFormed line) (hx : line.ph = some "X") :
    ∃ r, readExecution line = .ok r := by
  obtain ⟨hname, hdur, hts, args, hargs, hguid, hpguid⟩ := h.execution hx
  obtain ⟨name, hname⟩ := Option.isSome_iff_exists.mp hname
  obtain ⟨dur, hdur⟩ := Option.isSome_iff_exists.mp hdur
  obtain ⟨ts, hts⟩ := Option.isSome_iff_exists.mp hts
  obtain ⟨guid, hguid⟩ := Option.isSome_iff_exists.mp hguid
  obtain ⟨pguid, hpguid⟩ := Option.isSome_iff_exists.mp hpguid
  simp only [readExecution, hargs, hname, hdur, hts, hguid, hpguid, readKey, bind, Except.bind]
  split_ifs
  · exact ⟨_, rfl⟩
  · exact ⟨_, rfl⟩

lemma isRecord_total {line : TraceEvent} (h : WellFormed line) (text : String) :
    ∃ b, isRecord line text = .ok b := by
  obtain ⟨ph, hph⟩ := Option.isSome_iff_exists.mp h.ph
  by_cases hr : ph = "R"
  · obtain ⟨name, hname⟩ := Option.isSome_iff_exists.mp (h.record (by rw [hph, hr])).1
    exact ⟨_, by simp [isRecord, hph, hr, hname, readKey, bind, Except.bind]; rfl⟩
  · exact ⟨false, by simp [isRecord, hph, hr, readKey, bind, Except.bind]; rfl⟩

lemma readLine_total {line : TraceEvent} (h : WellFormed line) (firstCreate : ℚ) :
    ∃ r, readLine firstCreate line = .ok r := by
  obtain ⟨ph, hph⟩ := Option.isSome_iff_exists.mp h.ph
  have hts : ∀ text, (text = "Task Creation" ∨ text = "Task Destroy") →
      isRecord line text = .ok true → ∃ ts, line.ts = some ts := by
    intro text htext hr
    obtain ⟨hR, hname⟩ := (isRecord_ok hr).2.mp rfl
    refine Option.isSome_iff_exists.mp ((h.record hR).2 ?_)
    rcases htext with rfl | rfl
    · exact Or.inl hname
    · exact Or.inr hname
  have hcreation : ∃ b, isFirstCreation firstCreate line = .ok b ∧ (b = true → ∃ ts, line.ts = some ts) := by
    rw [isFirstCreation]
    split_ifs
    · obtain ⟨b, hb⟩ := isRecord_total h "Task Creation"
      refine ⟨b, hb, ?_⟩
      rintro rfl
      exact hts _ (Or.inl rfl) hb
    · exact ⟨false, rfl, by simp⟩
  obtain ⟨b, hb, hbts⟩ := hcreation
  rw [readLine, bind_ok hb]
  cases b with
  | true =>
    obtain ⟨ts, hts⟩ := hbts rfl
    exact ⟨.creation ts, by rw [hts]; rfl⟩
  | false =>
    obtain ⟨d, hd⟩ := isRecord_total h "Task Destroy"
    rw [if_neg (by decide), bind_ok hd]
    cases d with
    | true =>
      obtain ⟨ts, hts⟩ := hts _ (Or.inr rfl) hd
      exact ⟨.destroy ts, by rw [hts]; rfl⟩
    | false =>
      rw [if_neg (by decide), bind_ok (congrArg (readKey "ph") hph)]
      split_ifs with hx
      · exact readExecution_total h (by rw [hph, hx])
      · exact ⟨.other, rfl⟩

lemma readFile_total (retain : ℤ → Bool) {file : TraceFile}
    (h : ∃ lines, file.traceEvents = some lines ∧ ∀ line ∈ lines, WellFormed line) (s : ReadState) :
    ∃ t, readFile retain s file = .ok t := by
  obtain ⟨lines, hlines, hw⟩ := h
  rw [readFile, hlines]
  obtain ⟨t, ht, _⟩ := foldlM_prefix (f := readEvent retain) (fun _ _ => True) lines s trivial (by
    rintro pre line post s hsplit -
    obtain ⟨r, hr⟩ := readLine_total (hw line (by rw [hsplit]; simp)) s.firstCreate
    exact ⟨_, by rw [readEvent, bind_ok hr]; rfl, trivial⟩)
  exact ⟨t, ht⟩

lemma readFiles_total (retain : ℤ → Bool) {files : List TraceFile} (h : Readable files) :
    ∃ s, readFiles retain files = .ok s := by
  obtain ⟨t, ht, _⟩ := foldlM_prefix (f := readFile retain) (fun _ _ => True) (inNameOrder files) {} trivial (by
    rintro pre file post s hsplit -
    have hf : file ∈ inNameOrder files := by rw [hsplit]; simp
    obtain ⟨t, ht⟩ := readFile_total retain (h file ((inNameOrder_perm files).mem_iff.mp hf)) s
    exact ⟨t, ht, trivial⟩)
  exact ⟨t, ht⟩

lemma readGraph_total (mainTask : ℤ) {files : List TraceFile} (h : Readable files)
    (hmain : ∃ x ∈ executions (eventsRead files), x.IsMain) : ∃ t, readGraph mainTask files = .ok t := by
  obtain ⟨s, hs⟩ := readFiles_total (fun P => mainTask ≤ P) h
  obtain ⟨duration, hd⟩ := Option.isSome_iff_exists.mp ((readFiles_reads hs).duration.mpr hmain)
  have hne : ¬ files.isEmpty := by
    rintro he
    obtain rfl := List.isEmpty_iff.mp he
    simp [eventsRead, inNameOrder, executions] at hmain
  rw [readGraph, readGraphRetaining, if_neg hne, hs]
  change ∃ t, afterLoop s = .ok t
  rw [afterLoop, hd]
  exact ⟨_, rfl⟩

section Reordered

variable {retain : ℤ → Bool} {xs xs' : List Execution} {firstCreate firstCreate' : ℚ} {g g' : DiGraph ℤ}

lemma Contents.sameShape (hp : xs.Perm xs') (h : Contents retain xs firstCreate g)
    (h' : Contents retain xs' firstCreate' g') : g.SameShape g' := by
  refine ⟨?_, ?_⟩
  · intro v
    simp only [h.mem_nodes, h'.mem_nodes, hp.mem_iff]
  · intro p c
    simp only [h.edge, h'.edge, hp.mem_iff]

lemma Contents.duration_agree (hp : xs.Perm xs') (hn : (xs.map Execution.guid).Nodup)
    (h : Contents retain xs firstCreate g) (h' : Contents retain xs' firstCreate' g') (v : ℤ) :
    (g.attr v).duration = (g'.attr v).duration := by
  have hlast : lastOf Execution.guid v xs' = lastOf Execution.guid v xs := (lastOf_perm hp hn).symm
  cases hx : lastOf Execution.guid v xs with
  | some x => rw [h.attr_last v x hx, h'.attr_last v x (hlast.trans hx)]
  | none =>
    by_cases hv : v ≠ 0 ∨ v ∉ g.nodes
    · have hv' : v ≠ 0 ∨ v ∉ g'.nodes :=
        hv.imp_right (fun hm hm' => hm (((h.sameShape hp h').1 v).mpr hm'))
      rw [h.attr_blank v hv hx, h'.attr_blank v hv' (hlast.trans hx)]
    · push Not at hv
      obtain ⟨rfl, hm⟩ := hv
      have hm' := ((h.sameShape hp h').1 0).mp hm
      rw [h.attr_main hm hx, h'.attr_main hm' (hlast.trans hx)]
      rfl

lemma Contents.measured (h : Contents retain xs firstCreate g) {v : ℤ}
    (hv : (∃ x ∈ xs, x.guid = v) ∨ (v = 0 ∧ 0 ∈ g.nodes)) : g.Measured v := by
  cases hl : lastOf Execution.guid v xs with
  | some x =>
    rw [DiGraph.Measured, DiGraph.dur, DiGraph.time, h.attr_last v x hl]
    exact ⟨rfl, rfl⟩
  | none =>
    rcases hv with ⟨x, hx, hg⟩ | ⟨rfl, hm⟩
    · exact ((lastOf_eq_none_iff _ _ _).mp hl x hx hg).elim
    · rw [DiGraph.Measured, DiGraph.dur, DiGraph.time, h.attr_main hm hl]
      exact ⟨rfl, rfl⟩

lemma Contents.measured_of_reaches (h : Contents retain xs firstCreate g) {m v : ℤ}
    (hm : g.Measured m) (hr : g.Reaches m v) : g.Measured v := by
  rcases hr.cases_tail with rfl | ⟨p, _, he⟩
  · exact hm
  · obtain ⟨x, hx, hg, _⟩ := (h.edge p v).mp he
    exact h.measured (Or.inl ⟨x, hx, hg⟩)

end Reordered

def main (nx : Networkx ℤ) (topologicalSort : TopologicalSort ℤ) (mainTask : ℤ) (files : List TraceFile) :
    Except ReadError (Report ℤ × ℤ) :=
  match readGraph mainTask files with
  | .error e => .error e
  | .ok t =>
    match analyze nx topologicalSort t.graph mainTask with
    | .error e => .error (.raised e)
    | .ok result => .ok result

def outcome {V : Type} [DecidableEq V] (result : Report V × V) : ℚ × Finset V :=
  (result.1.projectCompletionTime, result.1.criticalPath.toFinset)

lemma main_outcome (nx : Networkx ℤ) (topologicalSort : TopologicalSort ℤ) {mainTask : ℤ} {files : List TraceFile}
    {t : TraceGraph} (ht : readGraph mainTask files = .ok t) :
    (main nx topologicalSort mainTask files).map outcome =
      ((analyze nx topologicalSort t.graph mainTask).map outcome).mapError .raised := by
  rw [main, ht]
  cases h : analyze nx topologicalSort t.graph mainTask <;> simp only [h] <;> rfl

section Outcome

variable {V : Type} [DecidableEq V] {g g' sub sub' : DiGraph V} {m : V} (nx nx' : Networkx V)
  {topologicalSort topologicalSort' : TopologicalSort V}

omit [DecidableEq V] in
lemma Below.sameShape (hsub : Below g m sub) (hsub' : Below g' m sub') (h : g.SameShape g') : sub.SameShape sub' := by
  refine ⟨?_, ?_⟩
  · intro v
    rw [hsub.mem_nodes, hsub'.mem_nodes, h.reaches]
  · intro u v
    rw [hsub.edge, hsub'.edge, h.2, h.reaches]

lemma analyze_unmeasured (hm : m ∈ g.nodes) (hts : (g.attr m).ts = none) :
    analyze nx topologicalSort g m = .error (.keyError "ts") := by
  obtain ⟨sub, hrun, hsub⟩ := getSubgraphFromNode_below g nx hm
  have hcpm : criticalPathMethod topologicalSort sub m = .error (.keyError "ts") := by
    rw [criticalPathMethod, nodeAttrs, if_pos hsub.root, hsub.attr_eq]
    change (readKey "ts" (g.attr m).ts >>= _) = _
    rw [hts]
    rfl
  rw [analyze, bind_ok hrun, hcpm]
  rfl

lemma analyze_missing (hm : m ∉ g.nodes) :
    analyze nx topologicalSort g m = .error (.valueError "Start node is not in the graph.") := by
  rw [analyze, getSubgraphFromNode_missing g nx hm]
  rfl

lemma analyze_solved (hsort : Sorts topologicalSort) (hm : m ∈ g.nodes)
    (hacyclic : ∀ v, g.Reaches m v → ¬ TransGen g.Edge v v) (ht : ∀ v, g.Reaches m v → g.Measured v) :
    ∃ sub r est lst, Below g m sub ∧ Solves sub m r est lst ∧
      analyze nx topologicalSort g m =
        match r.criticalPath.getLast? with
        | some lastNode => .ok (r, lastNode)
        | none => .error .indexError := by
  obtain ⟨sub, hrun, hsub⟩ := getSubgraphFromNode_below g nx hm
  obtain ⟨r, est, lst, hr, hs⟩ :=
    criticalPathMethod_solves sub hsort (hsub.acyclic hacyclic) (hsub.measured ht) hsub.root
  refine ⟨sub, r, est, lst, hsub, hs, ?_⟩
  rw [analyze, bind_ok hrun, bind_ok hr]
  rfl

omit [DecidableEq V] in
lemma Report.Agrees.last {r r' : Report V} (h : r.Agrees r') :
    Mirrors id (fun x y : Report V × V => x.1.Agrees y.1)
      (match r.criticalPath.getLast? with
        | some lastNode => .ok (r, lastNode)
        | none => .error (PyError.indexError (V := V)))
      (match r'.criticalPath.getLast? with
        | some lastNode => .ok (r', lastNode)
        | none => .error PyError.indexError) := by
  cases hl : r.criticalPath.getLast? <;> cases hl' : r'.criticalPath.getLast?
  · exact .error PyError.indexError
  · rw [List.getLast?_eq_none_iff, h.nil_iff] at hl
    simp [hl] at hl'
  · rw [List.getLast?_eq_none_iff, ← h.nil_iff] at hl'
    simp [hl'] at hl
  · exact .ok h

lemma analyze_agree (hsort : Sorts topologicalSort) (hsort' : Sorts topologicalSort')
    (hshape : g.SameShape g') (hdur : g.dur = g'.dur) (hm : m ∈ g.nodes)
    (hacyclic : ∀ v, g.Reaches m v → ¬ TransGen g.Edge v v) (ht : ∀ v, g.Reaches m v → g.Measured v)
    (ht' : ∀ v, g'.Reaches m v → g'.Measured v) :
    (analyze nx topologicalSort g m).map outcome = (analyze nx' topologicalSort' g' m).map outcome := by
  have hacyclic' : ∀ v, g'.Reaches m v → ¬ TransGen g'.Edge v v := by
    intro v hv
    rw [← hshape.edge_eq]
    exact hacyclic v ((hshape.reaches m v).mpr hv)
  obtain ⟨sub, r, est, lst, hsub, hs, hrun⟩ := analyze_solved nx hsort hm hacyclic ht
  obtain ⟨sub', r', est', lst', hsub', hs', hrun'⟩ :=
    analyze_solved nx' hsort' ((hshape.1 m).mp hm) hacyclic' ht'
  have hsame := hsub.sameShape hsub' hshape
  have hdur : sub.dur = sub'.dur := hsub.dur_eq.trans (hdur.trans hsub'.dur_eq.symm)
  have hcompletion := hs.completion_agree hsame hdur hs'
  have hcritical := hs.critical_agree hsame hdur hs'
  rw [hrun, hrun']
  cases hl : r.criticalPath.getLast? with
  | some last =>
    cases hl' : r'.criticalPath.getLast? with
    | some last' => simp [Except.map, outcome, hcompletion, hcritical]
    | none =>
      rw [List.getLast?_eq_none_iff.mp hl', List.toFinset_nil, List.toFinset_eq_empty_iff] at hcritical
      simp [hcritical] at hl
  | none =>
    rw [List.getLast?_eq_none_iff.mp hl, List.toFinset_nil, eq_comm, List.toFinset_eq_empty_iff] at hcritical
    rw [hcritical]
    rfl

end Outcome

lemma Contents.analyze_agree {retain : ℤ → Bool} {xs xs' : List Execution} {firstCreate firstCreate' : ℚ}
    {g g' : DiGraph ℤ} (h : Contents retain xs firstCreate g) (hp : xs.Perm xs')
    (hn : (xs.map Execution.guid).Nodup) (h' : Contents retain xs' firstCreate' g') (nx nx' : Networkx ℤ)
    {topologicalSort topologicalSort' : TopologicalSort ℤ} (hsort : Sorts topologicalSort)
    (hsort' : Sorts topologicalSort') (m : ℤ)
    (hacyclic : ∀ v, g.Reaches m v → ¬ TransGen g.Edge v v) :
    (analyze nx topologicalSort g m).map outcome = (analyze nx' topologicalSort' g' m).map outcome := by
  have hshape := h.sameShape hp h'
  have hduration := h.duration_agree hp hn h'
  by_cases hm : m ∈ g.nodes
  · have hm' := (hshape.1 m).mp hm
    by_cases hown : (∃ x ∈ xs, x.guid = m) ∨ m = 0
    · have hdur : g.dur = g'.dur := by
        funext v
        rw [DiGraph.dur, DiGraph.dur, hduration]
      have hmeasured : g.Measured m := h.measured (hown.imp_right (fun hz => ⟨hz, hz ▸ hm⟩))
      simp only [hp.mem_iff] at hown
      have hmeasured' : g'.Measured m := h'.measured (hown.imp_right (fun hz => ⟨hz, hz ▸ hm'⟩))
      exact Analysis.analyze_agree nx nx' hsort hsort' hshape hdur hm hacyclic
        (fun v hv => h.measured_of_reaches hmeasured hv)
        (fun v hv => h'.measured_of_reaches hmeasured' hv)
    · -- the main task is known by its children only, and both analyses fail on it
      push Not at hown
      have hnone : lastOf Execution.guid m xs = none := (lastOf_eq_none_iff _ _ _).mpr hown.1
      have hnone' : lastOf Execution.guid m xs' = none := (lastOf_perm hp hn).symm.trans hnone
      rw [analyze_unmeasured nx hm (by rw [h.attr_blank _ (Or.inl hown.2) hnone]),
        analyze_unmeasured nx' hm' (by rw [h'.attr_blank _ (Or.inl hown.2) hnone'])]
  · rw [analyze_missing nx hm, analyze_missing nx' (fun hm' => hm ((hshape.1 m).mpr hm'))]

theorem event_order_independent (nx nx' : Networkx ℤ) {topologicalSort topologicalSort' : TopologicalSort ℤ}
    (hsort : Sorts topologicalSort) (hsort' : Sorts topologicalSort') (mainTask : ℤ)
    (files files' : List TraceFile) (hread : Readable files) (hread' : Readable files')
    (hperm : (files.flatMap TraceFile.events).Perm (files'.flatMap TraceFile.events))
    (hmain : ∃ x ∈ executions (files.flatMap TraceFile.events), x.IsMain)
    (hdistinct : ((executions (files.flatMap TraceFile.events)).map Execution.guid).Nodup) :
    ∃ t t', readGraph mainTask files = .ok t ∧ readGraph mainTask files' = .ok t' ∧
      t.graph.SameShape t'.graph ∧ (∀ v, (t.graph.attr v).duration = (t'.graph.attr v).duration) ∧
      ((∀ v, t.graph.Reaches mainTask v → ¬ TransGen t.graph.Edge v v) →
        (main nx topologicalSort mainTask files).map outcome =
          (main nx' topologicalSort' mainTask files').map outcome) := by
  have hx : (executions (eventsRead files)).Perm (executions (files.flatMap TraceFile.events)) :=
    (eventsRead_perm files).filterMap _
  have hx' : (executions (eventsRead files')).Perm (executions (files.flatMap TraceFile.events)) :=
    ((eventsRead_perm files').trans hperm.symm).filterMap _
  have hp := hx.trans hx'.symm
  have hn := ((hx.map Execution.guid).nodup_iff).mpr hdistinct
  simp only [← hx.mem_iff] at hmain
  obtain ⟨t, ht⟩ := readGraph_total mainTask hread hmain
  simp only [hp.mem_iff] at hmain
  obtain ⟨t', ht'⟩ := readGraph_total mainTask hread' hmain
  obtain ⟨s, _, _, _, hc⟩ := readGraph_contents ht
  obtain ⟨s', _, _, _, hc'⟩ := readGraph_contents ht'
  have hshape := hc.sameShape hp hc'
  have hduration := hc.duration_agree hp hn hc'
  refine ⟨t, t', ht, ht', hshape, hduration, ?_⟩
  intro hacyclic
  rw [main_outcome nx topologicalSort ht, main_outcome nx' topologicalSort' ht',
    hc.analyze_agree hp hn hc' nx nx' hsort hsort' mainTask hacyclic]

def oneThread : List TraceFile :=
  [⟨"trace_events.0.json.gz", some [
    .span "int apex_preload_main(int, char**, char**)" 1 0 0 90, .span "task" 2 1 10 20]⟩]

def childThread : List TraceFile :=
  [⟨"trace_events.2.json.gz", some [.span "int apex_preload_main(int, char**, char**)" 1 0 0 90]⟩,
    ⟨"trace_events.10.json.gz", some [.span "task" 2 1 10 20]⟩]

theorem event_order_independent_split :
    ∃ t t', readGraph 0 oneThread = .ok t ∧ readGraph 0 childThread = .ok t' ∧
      t.graph.SameShape t'.graph ∧ (∀ v, (t.graph.attr v).duration = (t'.graph.attr v).duration) ∧
      (main insertionOrdered generationSort 0 oneThread).map outcome =
        (main insertionOrdered generationSort 0 childThread).map outcome := by
  have hread : Readable oneThread := by simp [Readable, oneThread, span_wellFormed]
  have hread' : Readable childThread := by simp [Readable, childThread, span_wellFormed]
  obtain ⟨t, t', ht, ht', hshape, hduration, hmain⟩ := event_order_independent insertionOrdered insertionOrdered
    generationSort_sorts generationSort_sorts 0 oneThread childThread hread hread' (.refl _) (by decide +kernel)
    (by decide +kernel)
  have hrun : (readGraph 0 oneThread).toOption.map (fun t => t.graph.edges) =
      some [(0, 1), (1, 2)] := by decide +kernel
  obtain ⟨u, hu, hedges⟩ := toOption_map_eq_some hrun
  obtain rfl := Except.ok.inj (ht.symm.trans hu)
  refine ⟨t, t', ht, ht', hshape, hduration, hmain fun v _ => ?_⟩
  have hacyclic : Acyclic t.graph.Edge := by
    apply acyclic_of_rank Int.toNat
    intro p c he
    rw [DiGraph.Edge, hedges] at he
    exact (by decide : ∀ e ∈ [((0 : ℤ), (1 : ℤ)), (1, 2)], e.1.toNat < e.2.toNat) (p, c) he
  exact hacyclic v

end TaskStubs.Analysis
