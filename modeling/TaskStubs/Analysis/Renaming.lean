import TaskStubs.Analysis.Outcomes

/-! GUIDs are names and times have no unit: a trace whose GUIDs are renamed and whose times are scaled
is analysed as the one it comes from. -/

namespace TaskStubs.Analysis

open Function Relation Library.Loops Library.Insertion Library.TopologicalOrders

variable {V W : Type} [DecidableEq V] [DecidableEq W] {σ : V → W} {c : ℚ}

def PyError.rename (σ : V → W) : PyError V → PyError W
  | .noNode node => .noNode (σ node)
  | .keyError key => .keyError key
  | .indexError => .indexError
  | .valueError message => .valueError message
  | .unfeasible => .unfeasible

/-- What the analysis sees of a node. -/
structure Attrs.Image (c : ℚ) (a : Attrs V) (b : Attrs W) : Prop where
  duration_eq : b.duration = a.duration.map (c * ·)
  ts_eq : b.ts = a.ts.map (c * ·)
  blank : b = {} ↔ a = {}

lemma Attrs.update_blank {V : Type} (old new : Attrs V) : old.update new = {} ↔ old = {} ∧ new = {} := by
  obtain ⟨_, _, _, _, _, _⟩ := old
  obtain ⟨_, _, _, _, _, _⟩ := new
  simp only [Attrs.update, Attrs.mk.injEq, Option.orElse_eq_orElse, Option.orElse_eq_or, Option.or_eq_none_iff]
  tauto

omit [DecidableEq V] [DecidableEq W] in
lemma Attrs.Image.update {old new : Attrs V} {old' new' : Attrs W} (h : old.Image c old') (hn : new.Image c new') :
    (old.update new).Image c (old'.update new') := by
  refine ⟨?_, ?_, ?_⟩
  · simp only [Attrs.update, h.duration_eq, hn.duration_eq]
    cases new.duration <;> rfl
  · simp only [Attrs.update, h.ts_eq, hn.ts_eq]
    cases new.ts <;> rfl
  · rw [Attrs.update_blank, Attrs.update_blank, h.blank, hn.blank]

namespace DiGraph

structure Image (σ : V → W) (c : ℚ) (g : DiGraph V) (g' : DiGraph W) : Prop where
  nodes_eq : g'.nodes = g.nodes.map σ
  edges_eq : g'.edges = g.edges.map (Prod.map σ σ)
  attr : ∀ v, (g.attr v).Image c (g'.attr (σ v))

variable {g : DiGraph V} {g' : DiGraph W}

omit [DecidableEq V] [DecidableEq W] in
lemma Image.mem_nodes (h : g.Image σ c g') (hσ : Injective σ) (v : V) : σ v ∈ g'.nodes ↔ v ∈ g.nodes := by
  rw [h.nodes_eq]
  exact List.mem_map_of_injective hσ

omit [DecidableEq V] [DecidableEq W] in
lemma Image.edge (h : g.Image σ c g') (hσ : Injective σ) (u v : V) : g'.Edge (σ u) (σ v) ↔ g.Edge u v := by
  rw [Edge, h.edges_eq]
  exact List.mem_map_of_injective (a := (u, v)) (hσ.prodMap hσ)

lemma Image.successors (h : g.Image σ c g') (hσ : Injective σ) (v : V) :
    g'.successors (σ v) = (g.successors v).map σ := by
  rw [DiGraph.successors, DiGraph.successors, h.edges_eq, List.filter_map, List.map_map, List.map_map]
  simp only [comp_def, Prod.map_fst, Prod.map_snd, hσ.eq_iff]

lemma Image.predecessors (h : g.Image σ c g') (hσ : Injective σ) (v : V) :
    g'.predecessors (σ v) = (g.predecessors v).map σ := by
  rw [DiGraph.predecessors, DiGraph.predecessors, h.edges_eq, List.filter_map, List.map_map, List.map_map]
  simp only [comp_def, Prod.map_fst, Prod.map_snd, hσ.eq_iff]

lemma Image.addNode (h : g.Image σ c g') (hσ : Injective σ) (v : V) {a : Attrs V} {b : Attrs W} (ha : a.Image c b) :
    (g.addNode v a).Image σ c (g'.addNode (σ v) b) := by
  refine ⟨?_, h.edges_eq, ?_⟩
  · exact (congrArg (insertNew · (σ v)) h.nodes_eq).trans (insertNew_map hσ _ _)
  · intro w
    by_cases hw : w = v
    · subst hw
      simp only [DiGraph.addNode, update_self, h.mem_nodes hσ]
      split_ifs
      · exact (h.attr w).update ha
      · exact ha
    · simp only [DiGraph.addNode, update_of_ne hw, update_of_ne (hσ.ne hw)]
      exact h.attr w

lemma Image.ensure (h : g.Image σ c g') (hσ : Injective σ) (v : V) : (g.ensure v).Image σ c (g'.ensure (σ v)) := by
  simp only [DiGraph.ensure, h.mem_nodes hσ]
  split_ifs with hv
  · exact h
  · exact h.addNode hσ v ⟨rfl, rfl, by simp⟩

lemma Image.addEdge (h : g.Image σ c g') (hσ : Injective σ) (u v : V) :
    (g.addEdge u v).Image σ c (g'.addEdge (σ u) (σ v)) := by
  have hboth := (h.ensure hσ u).ensure hσ v
  refine ⟨hboth.nodes_eq, ?_, hboth.attr⟩
  exact (congrArg (insertNew · (σ u, σ v)) h.edges_eq).trans (insertNew_map (hσ.prodMap hσ) _ (u, v))

lemma Image.subgraph (h : g.Image σ c g') {keep : Finset V} {keep' : Finset W}
    (hkeep : ∀ v, σ v ∈ keep' ↔ v ∈ keep) : (g.subgraph keep).Image σ c (g'.subgraph keep') := by
  refine ⟨?_, ?_, h.attr⟩
  · simp only [DiGraph.subgraph, h.nodes_eq, List.filter_map, comp_def, hkeep]
  · simp only [DiGraph.subgraph, h.edges_eq, List.filter_map, comp_def, Prod.map_fst, Prod.map_snd, hkeep]

omit [DecidableEq V] [DecidableEq W] in
lemma Image.reaches (h : g.Image σ c g') (hσ : Injective σ) (u v : V) :
    g'.Reaches (σ u) (σ v) ↔ g.Reaches u v := by
  refine ⟨?_, ?_⟩
  · intro hr
    have hgen : ∀ w, g'.Reaches (σ u) w → ∃ x, w = σ x ∧ g.Reaches u x := by
      intro w hw
      induction hw with
      | refl => exact ⟨u, rfl, .refl⟩
      | @tail a b _ he ih =>
        obtain ⟨x, rfl, hx⟩ := ih
        rw [DiGraph.Edge, h.edges_eq] at he
        obtain ⟨⟨y, z⟩, hyz, heq⟩ := List.mem_map.mp he
        obtain ⟨hy, rfl⟩ := Prod.mk.inj heq
        obtain rfl := hσ hy
        exact ⟨z, rfl, hx.tail hyz⟩
    obtain ⟨x, hx, hux⟩ := hgen _ hr
    rwa [hσ hx]
  · exact fun hr => ReflTransGen.lift σ (fun x y he => (h.edge hσ x y).mpr he) u v hr

end DiGraph

variable {g : DiGraph V} {g' : DiGraph W}

lemma getSubgraphFromNode_image (h : g.Image σ c g') (hσ : Injective σ) (m : V) :
    Mirrors (PyError.rename σ) (DiGraph.Image σ c) (getSubgraphFromNode insertionOrdered g m)
      (getSubgraphFromNode insertionOrdered g' (σ m)) := by
  by_cases hm : m ∈ g.nodes
  · obtain ⟨keep, hsub, hkeep⟩ := getSubgraphFromNode_reachable g insertionOrdered hm
    obtain ⟨keep', hsub', hkeep'⟩ :=
      getSubgraphFromNode_reachable g' insertionOrdered ((h.mem_nodes hσ m).mpr hm)
    rw [hsub, hsub']
    refine .ok (h.subgraph ?_)
    intro v
    rw [hkeep', hkeep, h.reaches hσ]
  · rw [getSubgraphFromNode_missing g insertionOrdered hm,
      getSubgraphFromNode_missing g' insertionOrdered (mt (h.mem_nodes hσ m).mp hm)]
    exact .error _

section Passes

def scale (c : ℚ) : WithTop ℚ → WithTop ℚ := WithTop.map (c * ·)

lemma scale_min (hc : 0 < c) (x y : WithTop ℚ) : scale c (min x y) = min (scale c x) (scale c y) :=
  (monotone_mul_left_of_nonneg hc.le).withTop_map.map_min

lemma scale_sub (x : WithTop ℚ) (d : ℚ) : scale c (x.map (· - d)) = (scale c x).map (· - c * d) := by
  cases x with
  | top => rfl
  | coe x => exact congrArg WithTop.some (mul_sub c x d)

lemma scale_eq_zero (hc : 0 < c) (x : WithTop ℚ) : scale c x = 0 ↔ x = 0 := by
  cases x with
  | top => exact Iff.rfl
  | coe x =>
    change ((c * x : ℚ) : WithTop ℚ) = 0 ↔ (x : WithTop ℚ) = 0
    simp [hc.ne']

structure Passes.Image (σ : V → W) (c : ℚ) (p : Passes V) (p' : Passes W) : Prop where
  est : ∀ v, p'.est (σ v) = (p.est v).map (c * ·)
  eft : ∀ v, p'.eft (σ v) = (p.eft v).map (c * ·)
  lft : ∀ v, p'.lft (σ v) = (p.lft v).map (scale c)
  lst : ∀ v, p'.lst (σ v) = (p.lst v).map (scale c)
  float : ∀ v, p'.float (σ v) = (p.float v).map (scale c)

lemma update_image (hσ : Injective σ) {α β : Type*} {f : V → Option α} {f' : W → Option β} {φ : α → β}
    (h : ∀ v, f' (σ v) = (f v).map φ) (v : V) (x : α) (w : V) :
    update f' (σ v) (some (φ x)) (σ w) = (update f v (some x) w).map φ := by
  by_cases hw : w = v
  · subst hw
    rw [update_self, update_self]
    rfl
  · rw [update_of_ne hw, update_of_ne (hσ.ne hw), h]

lemma readKey_image {V W α β : Type} {σ : V → W} {φ : α → β} (key : String) {a : Option α} {b : Option β}
    (h : b = a.map φ) : Mirrors (PyError.rename σ) (fun a b => b = φ a) (readKey key a) (readKey key b) := by
  subst h
  cases a with
  | none => exact .error (PyError.keyError key)
  | some a => exact .ok rfl

variable {p : Passes V} {p' : Passes W}

lemma latestPredecessor_image (hσ : Injective σ) (hc : 0 < c) (hg : g.Image σ c g') (hp : p.Image σ c p') (v : V) :
    Mirrors (PyError.rename σ) (fun a b => b = c * a) (latestPredecessor g p v) (latestPredecessor g' p' (σ v)) := by
  rw [latestPredecessor, latestPredecessor, hg.predecessors hσ]
  refine Mirrors.foldlM σ ?_ _ (mul_zero c).symm
  rintro est est' u rfl
  apply (readKey_image "eft" (hp.eft u)).bind
  rintro eft eft' rfl
  exact .ok (mul_max_of_nonneg _ _ hc.le).symm

lemma forwardNode_image (hσ : Injective σ) (hc : 0 < c) (hg : g.Image σ c g') {endtime endtime' : ℚ}
    (hp : p.Image σ c p') (he : endtime' = c * endtime) (v : V) :
    Mirrors (PyError.rename σ) (fun s t => s.1.Image σ c t.1 ∧ t.2 = c * s.2)
      (forwardNode g (p, endtime) v) (forwardNode g' (p', endtime') (σ v)) := by
  apply (latestPredecessor_image hσ hc hg hp v).bind
  rintro est est' rfl
  apply (readKey_image "duration" (hg.attr v).duration_eq).bind
  rintro duration duration' rfl
  apply (readKey_image "ts" (hg.attr v).ts_eq).bind
  rintro ts ts' rfl
  refine .ok ⟨⟨update_image hσ hp.est v est, ?_, hp.lft, hp.lst, hp.float⟩, ?_⟩
  · simp only [← mul_add]
    exact update_image hσ hp.eft v (est + duration)
  · simp only [he, ← mul_add, gt_iff_lt, mul_lt_mul_iff_right₀ hc]
    split_ifs <;> rfl

lemma latestFinish_image (hσ : Injective σ) (hc : 0 < c) (hg : g.Image σ c g') (hp : p.Image σ c p') (v : V) :
    Mirrors (PyError.rename σ) (fun a b => b = scale c a) (latestFinish g p v) (latestFinish g' p' (σ v)) := by
  simp only [latestFinish, hg.successors hσ, List.map_eq_nil_iff]
  split_ifs with hs
  · apply (readKey_image "eft" (hp.eft v)).bind
    rintro eft eft' rfl
    exact .ok rfl
  · refine Mirrors.foldlM σ ?_ _ rfl
    rintro lft lft' u rfl
    apply (readKey_image "lst" (hp.lst u)).bind
    rintro lst lst' rfl
    exact .ok (scale_min hc _ _).symm

lemma backwardNode_image (hσ : Injective σ) (hc : 0 < c) (hg : g.Image σ c g') (hp : p.Image σ c p') (v : V) :
    Mirrors (PyError.rename σ) (Passes.Image σ c) (backwardNode g p v) (backwardNode g' p' (σ v)) := by
  apply (latestFinish_image hσ hc hg hp v).bind
  rintro lft lft' rfl
  apply (readKey_image "duration" (hg.attr v).duration_eq).bind
  rintro duration duration' rfl
  refine .ok ⟨hp.est, hp.eft, update_image hσ hp.lft v lft, ?_, hp.float⟩
  simp only [← scale_sub]
  exact update_image hσ hp.lst v (lft.map (· - duration))

lemma floatNode_image (hσ : Injective σ) (hc : 0 < c) {path : List V} {path' : List W} {time time' : ℚ}
    (hp : p.Image σ c p') (hpath : path' = path.map σ) (htime : time' = c * time) (v : V) :
    Mirrors (PyError.rename σ) (fun s t => s.1.Image σ c t.1 ∧ t.2.1 = s.2.1.map σ ∧ t.2.2 = c * s.2.2)
      (floatNode (p, path, time) v) (floatNode (p', path', time') (σ v)) := by
  apply (readKey_image "lst" (hp.lst v)).bind
  rintro lst lst' rfl
  apply (readKey_image "est" (hp.est v)).bind
  rintro est est' rfl
  apply (readKey_image "eft" (hp.eft v)).bind
  rintro eft eft' rfl
  simp only [← scale_sub, scale_eq_zero hc]
  refine .ok ⟨⟨hp.est, hp.eft, hp.lft, hp.lst, update_image hσ hp.float v (lst.map (· - est))⟩, ?_, ?_⟩
  · subst hpath
    split_ifs
    · simp
    · rfl
  · exact htime ▸ (mul_max_of_nonneg _ _ hc.le).symm

structure Report.Image (σ : V → W) (c : ℚ) (r : Report V) (r' : Report W) : Prop where
  critical : ∀ w, w ∈ r'.criticalPath ↔ ∃ v ∈ r.criticalPath, σ v = w
  actual_eq : r'.actual = c * r.actual
  completion_eq : r'.projectCompletionTime = c * r.projectCompletionTime
  passes : r.passes.Image σ c r'.passes

omit [DecidableEq V] [DecidableEq W] in
lemma Report.Image.of_agrees {r s : Report V} {r' s' : Report W} (h : r.Agrees s) (hi : s.Image σ c s')
    (h' : s'.Agrees r') : r.Image σ c r' where
  critical w := by
    rw [← h'.critical, hi.critical]
    simp only [h.critical]
  actual_eq := by rw [← h'.actual_eq, hi.actual_eq, h.actual_eq]
  completion_eq := by rw [← h'.completion_eq, hi.completion_eq, h.completion_eq]
  passes := by
    rw [h.passes_eq, ← h'.passes_eq]
    exact hi.passes

/-! With the copy and the sort that go by the order of the graph, every step is mirrored. -/

lemma generationSort_image (hσ : Injective σ) (hg : g.Image σ c g') (passes : Passes V) (passes' : Passes W) :
    Mirrors (PyError.rename σ) (fun order order' => order' = order.map σ) (generationSort g passes)
      (generationSort g' passes') := by
  have hgenerations : g'.topologicalGenerations = g.topologicalGenerations.map σ := by
    rw [DiGraph.topologicalGenerations, DiGraph.topologicalGenerations, hg.nodes_eq, List.length_map]
    exact generations_map hσ (hg.edge hσ) _ _
  simp only [generationSort, hgenerations, hg.nodes_eq, List.length_map]
  split_ifs
  · exact .ok rfl
  · exact .error PyError.unfeasible

lemma criticalPathMethod_image (hσ : Injective σ) (hc : 0 < c) (hg : g.Image σ c g') (m : V) :
    Mirrors (PyError.rename σ) (fun r r' => r.Image σ c r' ∧ r'.criticalPath = r.criticalPath.map σ)
      (criticalPathMethod generationSort g m) (criticalPathMethod generationSort g' (σ m)) := by
  have hattrs : Mirrors (PyError.rename σ) (Attrs.Image c) (nodeAttrs g m) (nodeAttrs g' (σ m)) := by
    simp only [nodeAttrs, hg.mem_nodes hσ]
    split_ifs
    · exact .ok (hg.attr m)
    · exact .error (PyError.noNode m)
  apply hattrs.bind
  intro attrs attrs' ha
  apply (readKey_image "ts" ha.ts_eq).bind
  rintro starttime starttime' rfl
  apply (readKey_image "duration" ha.duration_eq).bind
  rintro duration duration' rfl
  apply (generationSort_image hσ hg _ _).bind
  rintro forward forward' rfl
  have hforward : Mirrors (PyError.rename σ) (fun s t => s.1.Image σ c t.1 ∧ t.2 = c * s.2)
      (forward.foldlM (forwardNode g) ({}, starttime + duration))
      ((forward.map σ).foldlM (forwardNode g') ({}, c * starttime + c * duration)) := by
    refine Mirrors.foldlM σ ?_ _ ⟨⟨fun _ => rfl, fun _ => rfl, fun _ => rfl, fun _ => rfl, fun _ => rfl⟩, ?_⟩
    · intro s t v h
      exact forwardNode_image hσ hc hg h.1 h.2 v
    · exact (mul_add c _ _).symm
  apply hforward.bind
  rintro ⟨passes, endtime⟩ ⟨passes', endtime'⟩ ⟨hp, he⟩
  apply (generationSort_image hσ hg passes passes').bind
  rintro backward backward' rfl
  rw [← List.map_reverse]
  apply (Mirrors.foldlM σ (fun _ _ v h => backwardNode_image hσ hc hg h v) backward.reverse hp).bind
  intro passes passes' hp
  have hfloat : Mirrors (PyError.rename σ) (fun s t => s.1.Image σ c t.1 ∧ t.2.1 = s.2.1.map σ ∧ t.2.2 = c * s.2.2)
      (g.nodes.foldlM floatNode (passes, [], 0)) (g'.nodes.foldlM floatNode (passes', [], 0)) := by
    rw [hg.nodes_eq]
    refine Mirrors.foldlM σ ?_ _ ⟨hp, rfl, (mul_zero c).symm⟩
    intro s t v h
    exact floatNode_image hσ hc h.1 h.2.1 h.2.2 v
  apply hfloat.bind
  rintro ⟨passes, path, time⟩ ⟨passes', path', time'⟩ ⟨hp, hpath, htime⟩
  refine .ok ⟨⟨?_, ?_, htime, hp⟩, hpath⟩
  · intro w
    dsimp only at hpath ⊢
    rw [hpath, List.mem_map]
  · change endtime' - c * starttime = c * (endtime - starttime)
    rw [mul_sub]
    exact congrArg (· - c * starttime) he

lemma analyze_image (hσ : Injective σ) (hc : 0 < c) (hg : g.Image σ c g') (m : V) :
    Mirrors (PyError.rename σ) (fun x y => x.1.Image σ c y.1) (analyze insertionOrdered generationSort g m)
      (analyze insertionOrdered generationSort g' (σ m)) := by
  apply (getSubgraphFromNode_image hg hσ m).bind
  intro sub sub' hsub
  apply (criticalPathMethod_image hσ hc hsub m).bind
  rintro report report' ⟨hreport, hpath⟩
  rw [hpath, List.getLast?_map]
  cases report.criticalPath.getLast? with
  | none => exact .error PyError.indexError
  | some lastNode => exact .ok hreport

end Passes

def ParentGuid.rename (σ : V → W) : ParentGuid V → ParentGuid W
  | .single parent => .single (σ parent)
  | .many parents => .many (parents.map σ)

section Reading

variable (σ : ℤ → ℤ) (c : ℚ)

def TraceArgs.rename (args : TraceArgs) : TraceArgs :=
  { args with guid := args.guid.map σ, parentGuid := args.parentGuid.map (ParentGuid.rename σ) }

def TraceEvent.rename (line : TraceEvent) : TraceEvent :=
  { line with ts := line.ts.map (c * ·), dur := line.dur.map (c * ·), args := line.args.map (TraceArgs.rename σ) }

def TraceFile.rename (file : TraceFile) : TraceFile :=
  { file with traceEvents := file.traceEvents.map (List.map (TraceEvent.rename σ c)) }

def Execution.rename (x : Execution) : Execution where
  guid := σ x.guid
  pguid := x.pguid.rename σ
  name := x.name
  dur := c * x.dur
  ts := c * x.ts
  args := ⟨x.args.implicitParent, σ x.args.guid, x.args.parentGuid.rename σ⟩

def Reading.rename : Reading → Reading
  | .creation ts => .creation (c * ts)
  | .destroy ts => .destroy (c * ts)
  | .execution x => .execution (x.rename σ c)
  | .other => .other

variable {σ c}

lemma readKey_same {α : Type} (key : String) (a : Option α) :
    Mirrors (PyError.rename σ) Eq (readKey key a) (readKey key a) := by
  cases a with
  | none => exact .error (PyError.keyError key)
  | some a => exact .ok rfl

lemma isRecord_image (line : TraceEvent) (text : String) :
    Mirrors (PyError.rename σ) Eq (isRecord line text) (isRecord (line.rename σ c) text) := by
  apply (readKey_same "ph" line.ph).bind
  rintro ph _ rfl
  split_ifs
  · apply (readKey_same "name" line.name).bind
    rintro name _ rfl
    exact .ok rfl
  · exact .ok rfl

lemma readExecution_image (line : TraceEvent) : Mirrors (PyError.rename σ) (fun a b => b = a.rename σ c)
    (readExecution line) (readExecution (line.rename σ c)) := by
  apply (readKey_image "args" rfl).bind
  rintro args _ rfl
  apply (readKey_same "name" line.name).bind
  rintro name _ rfl
  change Mirrors _ _ (if args.implicitParent = some true ∧ ¬ namesMain name then _ else _)
    (if args.implicitParent = some true ∧ ¬ namesMain name then _ else _)
  split_ifs
  · exact .ok rfl
  · apply (readKey_image "dur" rfl).bind
    rintro dur _ rfl
    apply (readKey_image "ts" rfl).bind
    rintro ts _ rfl
    apply (readKey_image "GUID" rfl).bind
    rintro guid _ rfl
    apply (readKey_image "Parent GUID" rfl).bind
    rintro pguid _ rfl
    exact .ok rfl

lemma readLine_image (hc : 0 < c) (firstCreate : ℚ) (line : TraceEvent) :
    Mirrors (PyError.rename σ) (fun a b => b = a.rename σ c) (readLine firstCreate line)
      (readLine (c * firstCreate) (line.rename σ c)) := by
  have hcreation : Mirrors (PyError.rename σ) Eq (isFirstCreation firstCreate line)
      (isFirstCreation (c * firstCreate) (line.rename σ c)) := by
    simp only [isFirstCreation, mul_eq_zero, hc.ne', false_or]
    split_ifs
    · exact isRecord_image line _
    · exact .ok rfl
  apply hcreation.bind
  rintro creation _ rfl
  split_ifs
  · apply (readKey_image "ts" rfl).bind
    rintro ts _ rfl
    exact .ok rfl
  · apply (isRecord_image line _).bind
    rintro destroy _ rfl
    split_ifs
    · apply (readKey_image "ts" rfl).bind
      rintro ts _ rfl
      exact .ok rfl
    · apply (readKey_same "ph" line.ph).bind
      rintro ph _ rfl
      split_ifs
      · exact readExecution_image line
      · exact .ok rfl

/-- The length of the program is truncated, so that it does not scale. -/
structure ReadState.Image (σ : ℤ → ℤ) (c : ℚ) (s s' : ReadState) : Prop where
  graph : s.graph.Image σ c s'.graph
  firstCreate_eq : s'.firstCreate = c * s.firstCreate
  lastDestroy_eq : s'.lastDestroy = c * s.lastDestroy
  duration_isSome : s'.duration.isSome = s.duration.isSome

lemma attrs_image (x : Execution) : x.attrs.Image c (x.rename σ c).attrs := by
  refine ⟨?_, rfl, ?_⟩
  · change some (if x.IsMain then 0 else c * x.dur) = some (c * (if x.IsMain then 0 else x.dur))
    rw [mul_ite, mul_zero]
  · simp [Execution.attrs]

variable {retain retain' : ℤ → Bool}

lemma addParents_image (hσ : Injective σ) (hretain : ∀ P, retain' (σ P) = retain P) (guid : ℤ) (parents : List ℤ)
    {g g' : DiGraph ℤ} (hg : g.Image σ c g') :
    (parents.foldl (fun g P => if retain P then g.addEdge P guid else g) g).Image σ c
      ((parents.map σ).foldl (fun g P => if retain' P then g.addEdge P (σ guid) else g) g') := by
  induction parents generalizing g g' with
  | nil => exact hg
  | cons P parents ih =>
    rw [List.map_cons, List.foldl_cons, List.foldl_cons]
    apply ih
    rw [hretain]
    split_ifs
    · exact hg.addEdge hσ P guid
    · exact hg

lemma addExecution_image (hσ : Injective σ) (hretain : ∀ P, retain' (σ P) = retain P) {g g' : DiGraph ℤ}
    (hg : g.Image σ c g') (x : Execution) :
    (addExecution retain g x).Image σ c (addExecution retain' g' (x.rename σ c)) := by
  have hparents : (x.rename σ c).pguid.parents = x.pguid.parents.map σ := by
    rw [Execution.rename]
    cases x.pguid <;> rfl
  have hattrs : x.attrs.Image c (x.rename σ c).attrs := attrs_image x
  rw [addExecution, addExecution, hparents]
  exact addParents_image hσ hretain x.guid x.pguid.parents (hg.addNode hσ x.guid hattrs)

lemma apply_image (hσ : Injective σ) (hretain : ∀ P, retain' (σ P) = retain P) {s s' : ReadState}
    (h : s.Image σ c s') (reading : Reading) :
    (s.apply retain reading).Image σ c (s'.apply retain' (reading.rename σ c)) := by
  cases reading with
  | creation ts => exact ⟨h.graph, rfl, h.lastDestroy_eq, h.duration_isSome⟩
  | destroy ts => exact ⟨h.graph, h.firstCreate_eq, rfl, h.duration_isSome⟩
  | other => exact h
  | execution x =>
    refine ⟨addExecution_image hσ hretain h.graph x, h.firstCreate_eq, h.lastDestroy_eq, ?_⟩
    change (if x.IsMain then some (truncate (c * x.dur)) else s'.duration).isSome =
      (if x.IsMain then some (truncate x.dur) else s.duration).isSome
    split_ifs
    · rfl
    · exact h.duration_isSome

lemma readFiles_image (hσ : Injective σ) (hc : 0 < c) (hretain : ∀ P, retain' (σ P) = retain P)
    (files : List TraceFile) : Mirrors (PyError.rename σ) (ReadState.Image σ c) (readFiles retain files)
      (readFiles retain' (files.map (TraceFile.rename σ c))) := by
  have hempty : ({} : ReadState).Image σ c {} :=
    ⟨⟨rfl, rfl, fun _ => ⟨rfl, rfl, by simp [DiGraph.empty]⟩⟩, (mul_zero c).symm, (mul_zero c).symm, rfl⟩
  have hevent : ∀ s s' line, s.Image σ c s' → Mirrors (PyError.rename σ) (ReadState.Image σ c)
      (readEvent retain s line) (readEvent retain' s' (line.rename σ c)) := by
    intro s s' line h
    rw [readEvent, readEvent, h.firstCreate_eq]
    apply (readLine_image hc s.firstCreate line).bind
    rintro reading _ rfl
    exact .ok (apply_image hσ hretain h reading)
  have horder : inNameOrder (files.map (TraceFile.rename σ c)) = (inNameOrder files).map (TraceFile.rename σ c) :=
    (List.map_insertionSort (fun a b : TraceFile => a.name ≤ b.name) (fun a b : TraceFile => a.name ≤ b.name)
      (TraceFile.rename σ c) files (fun _ _ _ _ => Iff.rfl)).symm
  rw [readFiles, readFiles, horder]
  refine Mirrors.foldlM _ ?_ _ hempty
  intro s s' file h
  apply (readKey_image "traceEvents" rfl).bind
  rintro events _ rfl
  exact Mirrors.foldlM _ hevent events h

lemma patchMain_image (hσ : Injective σ) (hzero : σ 0 = 0) {g g' : DiGraph ℤ} (hg : g.Image σ c g')
    (firstCreate : ℚ) : (patchMain g firstCreate).Image σ c (patchMain g' (c * firstCreate)) := by
  have hmem := hg.mem_nodes hσ 0
  have hblank := (hg.attr 0).blank
  rw [hzero] at hmem hblank
  simp only [patchMain, hmem, hblank]
  split_ifs
  · have happ : (apexMain firstCreate).Image c (apexMain (c * firstCreate)) := by
      refine ⟨?_, rfl, by simp [apexMain]⟩
      exact congrArg some (mul_zero c).symm
    have hnode := hg.addNode hσ 0 happ
    rwa [hzero] at hnode
  · exact hg

def ReadError.rename (σ : ℤ → ℤ) : ReadError → ReadError
  | .systemExit code => .systemExit code
  | .unboundLocal name => .unboundLocal name
  | .raised error => .raised (error.rename σ)

lemma readGraph_image (hσ : Injective σ) (hzero : σ 0 = 0) (hc : 0 < c) {m : ℤ} (hm : ∀ P, σ m ≤ σ P ↔ m ≤ P)
    (files : List TraceFile) : Mirrors (ReadError.rename σ) (fun t t' => t.graph.Image σ c t'.graph)
      (readGraph m files) (readGraph (σ m) (files.map (TraceFile.rename σ c))) := by
  have hretain : ∀ P, decide (σ m ≤ σ P) = decide (m ≤ P) := fun P => decide_eq_decide.mpr (hm P)
  simp only [readGraph, readGraphRetaining, List.isEmpty_map]
  split_ifs
  · exact .error (ReadError.systemExit 1)
  · have hfiles : Mirrors (PyError.rename σ) (ReadState.Image σ c) (readFiles (fun P => m ≤ P) files)
        (readFiles (fun P => σ m ≤ P) (files.map (TraceFile.rename σ c))) := readFiles_image hσ hc hretain files
    generalize readFiles (fun P => m ≤ P) files = x at hfiles
    generalize readFiles (fun P => σ m ≤ P) _ = y at hfiles
    cases hfiles with
    | error e => exact .error (ReadError.raised e)
    | @ok s s' h =>
      have hsome := h.duration_isSome
      change Mirrors _ _ (afterLoop s) (afterLoop s')
      rw [afterLoop, afterLoop, h.firstCreate_eq]
      cases hd : s.duration <;> cases hd' : s'.duration <;> simp only [hd, hd'] at hsome ⊢
      · exact .error (ReadError.unboundLocal "duration")
      · cases hsome
      · cases hsome
      · exact .ok (patchMain_image hσ hzero h.graph s.firstCreate)

lemma main_image (hσ : Injective σ) (hzero : σ 0 = 0) (hc : 0 < c) (m : ℤ) (hm : ∀ P, σ m ≤ σ P ↔ m ≤ P)
    (files : List TraceFile) :
    Mirrors (ReadError.rename σ) (fun x y => x.1.Image σ c y.1) (main insertionOrdered generationSort m files)
      (main insertionOrdered generationSort (σ m) (files.map (TraceFile.rename σ c))) := by
  have hread := readGraph_image hσ hzero hc hm files
  rw [main, main]
  generalize readGraph m files = x at hread
  generalize readGraph (σ m) _ = y at hread
  cases hread with
  | error e => exact .error e
  | @ok t t' h =>
    have hanalyze := analyze_image hσ hc h m
    dsimp only
    generalize analyze insertionOrdered generationSort t.graph m = x at hanalyze
    generalize analyze insertionOrdered generationSort t'.graph (σ m) = y at hanalyze
    cases hanalyze with
    | error e => exact .error (ReadError.raised e)
    | ok h => exact .ok h

end Reading

section Unordered

variable (nx nx' : Networkx ℤ) {topologicalSort topologicalSort' : TopologicalSort ℤ} (hsort : Sorts topologicalSort)
  (hsort' : Sorts topologicalSort') (hrefuses : Refuses topologicalSort) (hrefuses' : Refuses topologicalSort')

include hsort hsort' hrefuses hrefuses'

lemma Contents.analyze_unordered {m : ℤ} {xs : List Execution} {firstCreate : ℚ} {g : DiGraph ℤ}
    (h : Contents (fun P => m ≤ P) xs firstCreate g) :
    Mirrors id (fun x y => x.1.Agrees y.1) (analyze nx topologicalSort g m) (analyze nx' topologicalSort' g m) := by
  by_cases hm : m ∈ g.nodes
  · by_cases hk : m = 0 ∨ Known xs m
    · by_cases hcircular : Circular xs m
      · rw [h.analyze_circular nx hrefuses hm hk hcircular, h.analyze_circular nx' hrefuses' hm hk hcircular]
        exact .error PyError.unfeasible
      · have hacyclic : ∀ v, g.Reaches m v → ¬ TransGen g.Edge v v :=
          fun v hr hv => hcircular (h.circular_iff.mp ⟨v, hr, hv⟩)
        have hmeasured : ∀ v, g.Reaches m v → g.Measured v :=
          fun v hr => h.measured_of_reaches (h.root_measured hm hk) hr
        obtain ⟨sub, r, est, lst, hsub, hs, hrun⟩ := analyze_solved nx hsort hm hacyclic hmeasured
        obtain ⟨sub', r', est', lst', hsub', hs', hrun'⟩ := analyze_solved nx' hsort' hm hacyclic hmeasured
        have hshape : sub.SameShape sub' := hsub.sameShape hsub' ⟨fun _ => Iff.rfl, fun _ _ => Iff.rfl⟩
        have hagrees : r.Agrees r' :=
          hs.agree hshape (hsub.dur_eq.trans hsub'.dur_eq.symm) (hsub.time_eq.trans hsub'.time_eq.symm) hs'
        rw [hrun, hrun']
        exact hagrees.last
    · have hts : (g.attr m).ts = none := by rw [h.root_blank hk]
      rw [analyze_unmeasured nx hm hts, analyze_unmeasured nx' hm hts]
      exact .error (PyError.keyError "ts")
  · rw [analyze_missing nx hm, analyze_missing nx' hm]
    exact .error (PyError.valueError "Start node is not in the graph.")

lemma main_unordered (m : ℤ) (files : List TraceFile) :
    Mirrors id (fun x y => x.1.Agrees y.1) (main nx topologicalSort m files)
      (main nx' topologicalSort' m files) := by
  rw [main, main]
  cases hread : readGraph m files with
  | error e => exact .error e
  | ok t =>
    obtain ⟨s, _, _, _, hc⟩ := readGraph_contents hread
    have hanalyze := hc.analyze_unordered nx nx' hsort hsort' hrefuses hrefuses'
    dsimp only
    generalize analyze nx topologicalSort t.graph m = x at hanalyze
    generalize analyze nx' topologicalSort' t.graph m = y at hanalyze
    cases hanalyze with
    | error e => exact .error (ReadError.raised e)
    | ok h => exact .ok h

end Unordered

/-- The program does not see the unit of the times, and of the GUIDs it sees which one is 0 and which are
at least the main task's. -/
theorem main_mirrors_renaming (nx nx' : Networkx ℤ) {topologicalSort topologicalSort' : TopologicalSort ℤ}
    (hsort : Sorts topologicalSort) (hsort' : Sorts topologicalSort') (hrefuses : Refuses topologicalSort)
    (hrefuses' : Refuses topologicalSort') {σ : ℤ → ℤ} {c : ℚ} (hσ : Injective σ) (hzero : σ 0 = 0) (hc : 0 < c)
    (m : ℤ) (hm : ∀ P, σ m ≤ σ P ↔ m ≤ P) (files : List TraceFile) :
    Mirrors (ReadError.rename σ) (fun x y => x.1.Image σ c y.1) (main nx topologicalSort m files)
      (main nx' topologicalSort' (σ m) (files.map (TraceFile.rename σ c))) := by
  have hleft := main_unordered nx insertionOrdered hsort generationSort_sorts hrefuses generationSort_refuses m files
  have hright := main_unordered insertionOrdered nx' generationSort_sorts hsort' generationSort_refuses hrefuses'
    (σ m) (files.map (TraceFile.rename σ c))
  apply (hleft.trans ((main_image hσ hzero hc m hm files).trans hright)).mono
  rintro x y ⟨s, hs, s', hi, hs'⟩
  exact .of_agrees hs hi hs'

theorem main_mirrors_renaming_doubled :
    Mirrors (ReadError.rename (2 * ·)) (fun x y => x.1.Image (2 * ·) 1000 y.1)
      (main insertionOrdered generationSort 0 orphans)
      (main insertionOrdered generationSort (2 * 0) (orphans.map (TraceFile.rename (2 * ·) 1000))) :=
  main_mirrors_renaming insertionOrdered insertionOrdered generationSort_sorts generationSort_sorts
    generationSort_refuses generationSort_refuses (mul_right_injective₀ two_ne_zero) rfl (by norm_num) 0
    (fun P => by omega) orphans

end TaskStubs.Analysis
