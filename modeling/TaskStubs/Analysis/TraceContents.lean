import TaskStubs.Analysis.ReadGraph

/-! What the loop of `readGraph` has made of the events read so far. -/

namespace TaskStubs.Analysis

open Function Library.Insertion Library.Loops

namespace Reading

def execution? : Reading → Option Execution
  | .execution x => some x
  | _ => none

def creation? : Reading → Option ℚ
  | .creation ts => some ts
  | _ => none

def destroy? : Reading → Option ℚ
  | .destroy ts => some ts
  | _ => none

end Reading

namespace TraceEvent

def execution? (line : TraceEvent) : Option Execution :=
  if line.ph = some "X" then (readExecution line).toOption.bind Reading.execution? else none

def record? (text : String) (line : TraceEvent) : Option ℚ :=
  if line.ph = some "R" ∧ line.name = some text then line.ts else none

end TraceEvent

/-- The kept `X` events, in the order in which they are read. -/
def executions (events : List TraceEvent) : List Execution := events.filterMap (·.execution?)

def creations (events : List TraceEvent) : List ℚ := events.filterMap (·.record? "Task Creation")

def destructions (events : List TraceEvent) : List ℚ := events.filterMap (·.record? "Task Destroy")

lemma isRecord_ok {line : TraceEvent} {text : String} {b : Bool} (h : isRecord line text = .ok b) :
    (∃ ph, line.ph = some ph) ∧ (b = true ↔ line.ph = some "R" ∧ line.name = some text) := by
  obtain ⟨ph, hph, h⟩ := bind_eq_ok h
  have hph := readKey_ok hph
  refine ⟨⟨ph, hph⟩, ?_⟩
  split_ifs at h with hr
  · obtain ⟨name, hname, h⟩ := bind_eq_ok h
    have hname := readKey_ok hname
    cases h
    simp [hph, hname, hr]
  · cases h
    simp [hph, hr]

lemma readExecution_ok {line : TraceEvent} {r : Reading} (h : readExecution line = .ok r) :
    r.creation? = none ∧ r.destroy? = none := by
  obtain ⟨args, _, h⟩ := bind_eq_ok h
  obtain ⟨name, _, h⟩ := bind_eq_ok h
  split_ifs at h
  · cases h
    exact ⟨rfl, rfl⟩
  · obtain ⟨dur, _, h⟩ := bind_eq_ok h
    obtain ⟨ts, _, h⟩ := bind_eq_ok h
    obtain ⟨guid, _, h⟩ := bind_eq_ok h
    obtain ⟨pguid, _, h⟩ := bind_eq_ok h
    cases h
    exact ⟨rfl, rfl⟩

lemma readLine_ok {firstCreate : ℚ} {line : TraceEvent} {r : Reading}
    (h : readLine firstCreate line = .ok r) :
    line.execution? = r.execution? ∧ line.record? "Task Destroy" = r.destroy? ∧
      (if firstCreate = 0 then line.record? "Task Creation" else none) = r.creation? := by
  obtain ⟨creation, hcreation, h⟩ := bind_eq_ok h
  have hc : creation = true ↔ firstCreate = 0 ∧ line.ph = some "R" ∧ line.name = some "Task Creation" := by
    rw [isFirstCreation] at hcreation
    split_ifs at hcreation with h₀
    · simp [h₀, (isRecord_ok hcreation).2]
    · cases hcreation
      simp [h₀]
  by_cases hcr : creation = true
  · obtain ⟨h₀, hph, hname⟩ := hc.mp hcr
    rw [if_pos hcr] at h
    obtain ⟨ts, hts, h⟩ := bind_eq_ok h
    have hts := readKey_ok hts
    cases h
    simp [TraceEvent.execution?, TraceEvent.record?, hph, hname, h₀, hts, Reading.execution?,
      Reading.destroy?, Reading.creation?]
  · rw [if_neg hcr] at h
    have hno : (if firstCreate = 0 then line.record? "Task Creation" else none) = none := by
      simpa [TraceEvent.record?] using fun h₀ hph hname => (hcr (hc.mpr ⟨h₀, hph, hname⟩)).elim
    rw [hno]
    obtain ⟨destroy, hdestroy, h⟩ := bind_eq_ok h
    obtain ⟨⟨ph, hph⟩, hd⟩ := isRecord_ok hdestroy
    by_cases hdr : destroy = true
    · obtain ⟨hph, hname⟩ := hd.mp hdr
      rw [if_pos hdr] at h
      obtain ⟨ts, hts, h⟩ := bind_eq_ok h
      have hts := readKey_ok hts
      cases h
      simp [TraceEvent.execution?, TraceEvent.record?, hph, hname, hts, Reading.execution?,
        Reading.destroy?, Reading.creation?]
    · rw [if_neg hdr] at h
      have hnd : line.record? "Task Destroy" = none := if_neg (fun hh => hdr (hd.mpr hh))
      rw [hnd]
      obtain ⟨ph', hph', h⟩ := bind_eq_ok h
      have hph' := readKey_ok hph'
      split_ifs at h with hx
      · obtain ⟨h₁, h₂⟩ := readExecution_ok h
        rw [TraceEvent.execution?, if_pos (by rw [hph', hx]), h, h₁, h₂]
        exact ⟨rfl, rfl, rfl⟩
      · cases h
        refine ⟨if_neg ?_, rfl, rfl⟩
        rw [hph']
        exact fun hh => hx (Option.some.inj hh)

variable {retain : ℤ → Bool}

structure Added (retain : ℤ → Bool) (g g' : DiGraph ℤ) (v : ℤ) (parents : List ℤ) : Prop where
  blank : g'.Blank
  attr : g'.attr = g.attr
  mem_nodes : ∀ w, w ∈ g'.nodes ↔ w ∈ g.nodes ∨ (w ∈ parents ∧ retain w)
  edge : ∀ p c, g'.Edge p c ↔ g.Edge p c ∨ (c = v ∧ p ∈ parents ∧ retain p)

lemma addParents_added {g : DiGraph ℤ} (hb : g.Blank) {v : ℤ} (hv : v ∈ g.nodes) (parents : List ℤ) :
    Added retain g (parents.foldl (fun g P => if retain P then g.addEdge P v else g) g) v parents := by
  induction parents generalizing g with
  | nil => exact ⟨hb, rfl, by simp, by simp⟩
  | cons P parents ih =>
    rw [List.foldl_cons]
    split_ifs with hP
    · have hm := fun w => DiGraph.mem_addEdge_nodes g P v w
      obtain ⟨hb', hattr, hnodes, hedge⟩ := ih (hb.addEdge P v) ((hm v).mpr (Or.inr (Or.inr rfl)))
      refine ⟨hb', hattr.trans (DiGraph.addEdge_attr hb P v), ?_, ?_⟩
      · intro w
        rw [hnodes, hm]
        refine ⟨?_, ?_⟩
        · rintro ((hw | rfl | rfl) | ⟨hw, hr⟩)
          · exact Or.inl hw
          · exact Or.inr ⟨List.mem_cons_self, hP⟩
          · exact Or.inl hv
          · exact Or.inr ⟨List.mem_cons_of_mem _ hw, hr⟩
        · rintro (hw | ⟨hw, hr⟩)
          · exact Or.inl (Or.inl hw)
          · rcases List.mem_cons.mp hw with rfl | hw
            · exact Or.inl (Or.inr (Or.inl rfl))
            · exact Or.inr ⟨hw, hr⟩
      · intro p c
        rw [hedge, DiGraph.addEdge_edge]
        refine ⟨?_, ?_⟩
        · rintro ((he | ⟨rfl, rfl⟩) | ⟨rfl, hp, hr⟩)
          · exact Or.inl he
          · exact Or.inr ⟨rfl, List.mem_cons_self, hP⟩
          · exact Or.inr ⟨rfl, List.mem_cons_of_mem _ hp, hr⟩
        · rintro (he | ⟨rfl, hp, hr⟩)
          · exact Or.inl (Or.inl he)
          · rcases List.mem_cons.mp hp with rfl | hp
            · exact Or.inl (Or.inr ⟨rfl, rfl⟩)
            · exact Or.inr ⟨rfl, hp, hr⟩
    · obtain ⟨hb', hattr, hnodes, hedge⟩ := ih hb hv
      have hskip : ∀ w, (w ∈ P :: parents ∧ retain w) ↔ (w ∈ parents ∧ retain w) := by
        intro w
        refine ⟨?_, fun h => ⟨List.mem_cons_of_mem _ h.1, h.2⟩⟩
        rintro ⟨hw, hr⟩
        rcases List.mem_cons.mp hw with rfl | hw
        · exact (hP hr).elim
        · exact ⟨hw, hr⟩
      exact ⟨hb', hattr, fun w => by rw [hnodes, hskip], fun p c => by rw [hedge, hskip]⟩

lemma addNode_attr (g : DiGraph ℤ) (x : Execution) :
    (g.addNode x.guid x.attrs).attr = update g.attr x.guid x.attrs := by
  rw [DiGraph.addNode]
  split_ifs <;> rfl

lemma addExecution_added {g : DiGraph ℤ} (hb : g.Blank) (x : Execution) :
    Added retain (g.addNode x.guid x.attrs) (addExecution retain g x) x.guid x.pguid.parents :=
  addParents_added (hb.addNode _ _) ((DiGraph.mem_addNode_nodes _ _ _ _).mpr (Or.inr rfl)) _

/-- The graph that the executions `xs`, read in this order, leave behind. -/
structure Built (retain : ℤ → Bool) (xs : List Execution) (g : DiGraph ℤ) : Prop where
  blank : g.Blank
  mem_nodes : ∀ v, v ∈ g.nodes ↔ ∃ x ∈ xs, x.guid = v ∨ (v ∈ x.pguid.parents ∧ retain v)
  edge : ∀ p c, g.Edge p c ↔ ∃ x ∈ xs, x.guid = c ∧ p ∈ x.pguid.parents ∧ retain p
  attr : ∀ v, g.attr v = ((lastOf Execution.guid v xs).map Execution.attrs).getD {}

lemma built_empty : Built retain [] .empty where
  blank := DiGraph.blank_empty
  mem_nodes v := by simp [DiGraph.empty]
  edge p c := by simp [DiGraph.empty, DiGraph.Edge]
  attr v := rfl

lemma Built.addExecution {xs : List Execution} {g : DiGraph ℤ} (h : Built retain xs g) (x : Execution) :
    Built retain (xs ++ [x]) (addExecution retain g x) := by
  have hadded : Added retain (g.addNode x.guid x.attrs) (Analysis.addExecution retain g x) x.guid
      x.pguid.parents := addExecution_added h.blank x
  obtain ⟨hb, hattr, hnodes, hedge⟩ := hadded
  refine ⟨hb, ?_, ?_, ?_⟩
  · intro v
    rw [hnodes, DiGraph.mem_addNode_nodes, h.mem_nodes]
    simp only [List.mem_append, List.mem_singleton, or_and_right, exists_or, exists_eq_left, or_assoc,
      eq_comm (a := v)]
  · intro p c
    rw [hedge, DiGraph.addNode_edge, h.edge]
    simp only [List.mem_append, List.mem_singleton, or_and_right, exists_or, exists_eq_left,
      eq_comm (a := c)]
  · intro v
    rw [hattr, addNode_attr, lastOf_concat]
    by_cases hv : x.guid = v
    · subst hv
      simp
    · simp [hv, update_of_ne (Ne.symm hv), h.attr v]

structure Reads (retain : ℤ → Bool) (events : List TraceEvent) (s : ReadState) : Prop where
  built : Built retain (executions events) s.graph
  firstCreate : s.firstCreate = ((creations events).find? (· ≠ 0)).getD 0
  lastDestroy : s.lastDestroy = (destructions events).getLast?.getD 0
  duration : s.duration.isSome ↔ ∃ x ∈ executions events, x.IsMain

lemma reads_nil : Reads retain [] {} := ⟨built_empty, rfl, rfl, by simp [executions]⟩

lemma filterMap_concat {α β : Type*} (f : α → Option β) (xs : List α) (a : α) :
    (xs ++ [a]).filterMap f = xs.filterMap f ++ (f a).toList := by
  cases h : f a <;> simp [h]

lemma apply_firstCreate (s : ReadState) (r : Reading) :
    (s.apply retain r).firstCreate = r.creation?.getD s.firstCreate := by
  cases r <;> rfl

lemma apply_lastDestroy (s : ReadState) (r : Reading) :
    (s.apply retain r).lastDestroy = r.destroy?.getD s.lastDestroy := by
  cases r <;> rfl

lemma firstCreate_concat (found : List ℚ) (record : Option ℚ) :
    ((found ++ record.toList).find? (· ≠ 0)).getD 0 =
      (if (found.find? (· ≠ 0)).getD 0 = 0 then record else none).getD ((found.find? (· ≠ 0)).getD 0) := by
  rw [List.find?_append]
  cases hf : found.find? (· ≠ 0) with
  | some y =>
    have hy : y ≠ 0 := by simpa using List.find?_some hf
    simp [hy]
  | none =>
    cases record with
    | none => rfl
    | some ts =>
      by_cases hts : ts = 0 <;> simp [hts]

lemma reads_step {events : List TraceEvent} {s t : ReadState} {line : TraceEvent}
    (h : Reads retain events s) (hst : readEvent retain s line = .ok t) :
    Reads retain (events ++ [line]) t := by
  obtain ⟨r, hr, hst⟩ := bind_eq_ok hst
  cases hst
  obtain ⟨hx, hd, hc⟩ := readLine_ok hr
  have hxs : executions (events ++ [line]) = executions events ++ r.execution?.toList := by
    rw [executions, filterMap_concat, hx, executions]
  refine ⟨?_, ?_, ?_, ?_⟩
  · rw [hxs]
    cases r with
    | execution x => exact h.built.addExecution x
    | creation | destroy | other => simpa [Reading.execution?, ReadState.apply] using h.built
  · rw [apply_firstCreate, creations, filterMap_concat, firstCreate_concat, ← hc]
    rw [h.firstCreate]
    rfl
  · rw [apply_lastDestroy, destructions, filterMap_concat, hd, h.lastDestroy]
    cases r.destroy? <;> simp [destructions]
  · rw [hxs]
    cases r with
    | execution x =>
      by_cases hm : x.IsMain
      · simp [ReadState.apply, Reading.execution?, hm]
      · simp [ReadState.apply, Reading.execution?, hm, h.duration, or_and_right, exists_or]
    | creation | destroy | other => simpa [Reading.execution?, ReadState.apply] using h.duration

def TraceFile.events (file : TraceFile) : List TraceEvent := file.traceEvents.getD []

def eventsRead (files : List TraceFile) : List TraceEvent := (inNameOrder files).flatMap TraceFile.events

lemma inNameOrder_perm (files : List TraceFile) : (inNameOrder files).Perm files :=
  List.perm_insertionSort _ files

lemma eventsRead_perm (files : List TraceFile) :
    (eventsRead files).Perm (files.flatMap TraceFile.events) :=
  (inNameOrder_perm files).flatMap_right _

lemma readFile_reads {events : List TraceEvent} {s t : ReadState} {file : TraceFile}
    (h : Reads retain events s) (hst : readFile retain s file = .ok t) :
    Reads retain (events ++ file.events) t := by
  obtain ⟨lines, hlines, hst⟩ := bind_eq_ok hst
  rw [TraceFile.events, readKey_ok hlines]
  exact foldlM_returns (Reads retain) (fun _ _ _ _ hs => reads_step hs) lines events s t h hst

lemma readFiles_reads {files : List TraceFile} {s : ReadState} (h : readFiles retain files = .ok s) :
    Reads retain (eventsRead files) s := by
  refine foldlM_returns (fun pre s => Reads retain (pre.flatMap TraceFile.events) s) ?_
    (inNameOrder files) [] {} s reads_nil h
  intro pre file s t hs hst
  simpa using readFile_reads hs hst

/-- The graph that `readGraph` returns: node 0 is filled in where no event describes it. -/
structure Contents (retain : ℤ → Bool) (xs : List Execution) (firstCreate : ℚ) (g : DiGraph ℤ) : Prop where
  mem_nodes : ∀ v, v ∈ g.nodes ↔ ∃ x ∈ xs, x.guid = v ∨ (v ∈ x.pguid.parents ∧ retain v)
  edge : ∀ p c, g.Edge p c ↔ ∃ x ∈ xs, x.guid = c ∧ p ∈ x.pguid.parents ∧ retain p
  attr_last : ∀ v x, lastOf Execution.guid v xs = some x → g.attr v = x.attrs
  attr_main : 0 ∈ g.nodes → lastOf Execution.guid 0 xs = none → g.attr 0 = apexMain firstCreate
  attr_blank : ∀ v, (v ≠ 0 ∨ v ∉ g.nodes) → lastOf Execution.guid v xs = none → g.attr v = {}

lemma Built.patchMain {xs : List Execution} {g : DiGraph ℤ} (h : Built retain xs g) (firstCreate : ℚ) :
    Contents retain xs firstCreate (patchMain g firstCreate) := by
  have hlast : ∀ v x, lastOf Execution.guid v xs = some x → g.attr v = x.attrs := by
    intro v x hx
    rw [h.attr, hx]
    rfl
  have hblank : ∀ v, lastOf Execution.guid v xs = none → g.attr v = {} := by
    intro v hv
    rw [h.attr, hv]
    rfl
  rw [Analysis.patchMain]
  split_ifs with hp
  · obtain ⟨hm, he⟩ := hp
    have hnone : lastOf Execution.guid 0 xs = none := by
      cases hl : lastOf Execution.guid 0 xs with
      | none => rfl
      | some x =>
        rw [hlast 0 x hl] at he
        cases he
    refine ⟨?_, h.edge, ?_, ?_, ?_⟩
    · intro v
      rw [DiGraph.mem_addNode_nodes, ← h.mem_nodes]
      refine ⟨?_, Or.inl⟩
      rintro (hv | rfl)
      · exact hv
      · exact hm
    · intro v x hx
      have hv : v ≠ 0 := by
        rintro rfl
        rw [hnone] at hx
        cases hx
      exact (update_of_ne hv _ _).trans (hlast v x hx)
    · intro _ _
      simp [DiGraph.addNode, hm, he]
      rfl
    · intro v hv hn
      have hv : v ≠ 0 := by
        rcases hv with hv | hv
        · exact hv
        · rintro rfl
          exact hv ((DiGraph.mem_addNode_nodes _ _ _ _).mpr (Or.inr rfl))
      exact (update_of_ne hv _ _).trans (hblank v hn)
  · exact ⟨h.mem_nodes, h.edge, hlast, fun hm hn => (hp ⟨hm, hblank 0 hn⟩).elim, fun v _ => hblank v⟩

theorem readGraph_contents {files : List TraceFile} {t : TraceGraph}
    (h : readGraphRetaining retain files = .ok t) :
    ∃ s, readFiles retain files = .ok s ∧ Reads retain (eventsRead files) s ∧
      t.path = (s.lastDestroy - s.firstCreate) / 1000000 ∧
      Contents retain (executions (eventsRead files)) s.firstCreate t.graph := by
  rw [readGraphRetaining] at h
  split_ifs at h
  cases hs : readFiles retain files with
  | error e => rw [hs] at h; cases h
  | ok s =>
    rw [hs] at h
    dsimp only [afterLoop] at h
    have hr := readFiles_reads hs
    cases hd : s.duration with
    | none => rw [hd] at h; cases h
    | some duration =>
      rw [hd] at h
      cases h
      exact ⟨s, rfl, hr, rfl, hr.built.patchMain s.firstCreate⟩

def TraceEvent.span (name : String) (guid parent : ℤ) (ts dur : ℚ) : TraceEvent where
  ph := some "X"
  name := some name
  ts := some ts
  dur := some dur
  args := some { guid := some guid, parentGuid := some (.single parent) }

end TaskStubs.Analysis
