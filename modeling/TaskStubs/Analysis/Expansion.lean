import TaskStubs.Analysis.CompletionTime
import TaskStubs.Library.BreadthFirst

/-! The run of `get_subgraph_from_node`: it ends with the reachable subgraph, and it dequeues every
node once exactly when no node has two predecessors before it in breadth-first order. -/

namespace TaskStubs.Analysis

open Relation Library Library.Loops Library.Insertion Library.BreadthFirst

variable {V : Type} [DecidableEq V] (g : DiGraph V) (start : V)

def atStart : Traversal V := ⟨∅, [(start, 0)]⟩

def Reached (s : Traversal V) : Prop :=
  ReflTransGen (fun s t => traversalStep g s = some t) (atStart start) s

theorem subgraph_is_reachable_part (nx : Networkx V) (h : start ∈ g.nodes) :
    ∃ s sub, Reached g start s ∧ s.queue = [] ∧ getSubgraphFromNode nx g start = .ok sub ∧
      (∀ v, v ∈ sub.nodes ↔ g.Reaches start v) ∧ (∀ v ∈ sub.nodes, sub.attr v = g.attr v) ∧
      ∀ u v, sub.Edge u v ↔ g.Edge u v ∧ u ∈ sub.nodes ∧ v ∈ sub.nodes := by
  obtain ⟨hr, hn⟩ := runToEnd_reaches (traversalStep g) (traversal_wf g) (atStart start)
  obtain ⟨sub, hrun, hsub⟩ := getSubgraphFromNode_below g nx h
  refine ⟨_, sub, hr, queue_nil g hn, hrun, hsub.mem_nodes, fun _ _ => by rw [hsub.attr_eq], ?_⟩
  intro u v
  rw [hsub.edge, hsub.mem_nodes, hsub.mem_nodes]
  exact ⟨fun he => ⟨he.1, he.2, he.2.tail he.1⟩, fun he => ⟨he.1, he.2.1⟩⟩

/-- A cycle, a self-loop, and a node that is not reachable from 0. -/
def looped : DiGraph ℕ where
  nodes := [0, 1, 2, 3]
  attr v := { duration := some v }
  edges := [(0, 1), (1, 2), (2, 0), (2, 2), (3, 1)]
  nodes_nodup := by decide
  edges_nodup := by decide
  edges_mem := by decide

theorem subgraph_is_reachable_part_looped :
    ∃ s sub, Reached looped 0 s ∧ s.queue = [] ∧ getSubgraphFromNode insertionOrdered looped 0 = .ok sub ∧
      (∀ v, v ∈ sub.nodes ↔ looped.Reaches 0 v) ∧ (∀ v ∈ sub.nodes, sub.attr v = looped.attr v) ∧
      ∀ u v, sub.Edge u v ↔ looped.Edge u v ∧ u ∈ sub.nodes ∧ v ∈ sub.nodes :=
  subgraph_is_reachable_part looped 0 insertionOrdered (by decide)

def waiting (s : Traversal V) : List V := s.queue.map Prod.fst

def loggedStep (s : Traversal V × List V) : Option (Traversal V × List V) :=
  (traversalStep g s.1).map (fun t => (t, s.2 ++ (waiting s.1).head?.toList))

lemma loggedStep_some {s t : Traversal V × List V} (h : loggedStep g s = some t) :
    traversalStep g s.1 = some t.1 ∧ t.2 = s.2 ++ (waiting s.1).head?.toList := by
  obtain ⟨u, hu, rfl⟩ := Option.map_eq_some_iff.mp h
  exact ⟨hu, rfl⟩

lemma logged_wf : WellFounded (fun t s => loggedStep g s = some t) :=
  Subrelation.wf (fun h => (loggedStep_some g h).1) (InvImage.wf Prod.fst (traversal_wf g))

def dequeued : List V := (runToEnd (loggedStep g) (logged_wf g) (atStart start, [])).2

lemma traversalStep_some {s t : Traversal V} (h : traversalStep g s = some t) :
    ∃ v rest, waiting s = v :: rest ∧ t.nodes = insert v s.nodes ∧
      waiting t = rest ++ (g.successors v).filter (· ∉ insert v s.nodes) := by
  obtain ⟨nodes, queue⟩ := s
  cases queue with
  | nil => simp [traversalStep] at h
  | cons entry queue =>
    obtain ⟨v, level⟩ := entry
    obtain rfl := Option.some.inj h
    exact ⟨v, _, rfl, rfl, by simp [waiting, Function.comp_def]⟩

def Logged (s : Traversal V × List V) : Prop := ∀ v, v ∈ s.1.nodes ↔ v ∈ s.2

variable {g start}

lemma logged_step {s t : Traversal V × List V} (h : loggedStep g s = some t) (hs : Logged s) : Logged t := by
  obtain ⟨hst, hlog⟩ := loggedStep_some g h
  obtain ⟨v, rest, hw, hnodes, _⟩ := traversalStep_some g hst
  intro w
  rw [hnodes, hlog, hw, Finset.mem_insert, hs w]
  simp [or_comm]

lemma logged_before {s t : Traversal V × List V} (h : loggedStep g s = some t) :
    s.2 ++ waiting s.1 <+: t.2 ++ waiting t.1 := by
  obtain ⟨hst, hlog⟩ := loggedStep_some g h
  obtain ⟨v, rest, hw, _, hw'⟩ := traversalStep_some g hst
  refine ⟨(g.successors v).filter (· ∉ insert v s.1.nodes), ?_⟩
  rw [hlog, hw, hw']
  simp

section Run

def ReachedLogged (g : DiGraph V) (start : V) (s : Traversal V × List V) : Prop :=
  ReflTransGen (fun s t => loggedStep g s = some t) (atStart start, []) s

lemma Reached.log {s : Traversal V} (h : Reached g start s) : ∃ log, ReachedLogged g start (s, log) := by
  induction h with
  | refl => exact ⟨[], .refl⟩
  | tail _ ht ih =>
    obtain ⟨log, hlog⟩ := ih
    exact ⟨_, hlog.tail (Option.map_eq_some_iff.mpr ⟨_, ht, rfl⟩)⟩

lemma Reached.exploring {s : Traversal V} (h : Reached g start s) : Exploring g start s := by
  induction h with
  | refl => exact exploring_start g start
  | tail _ ht ih => exact exploring_step g ht ih

lemma ReachedLogged.reached {s : Traversal V × List V} (h : ReachedLogged g start s) :
    Reached g start s.1 := by
  induction h with
  | refl => exact .refl
  | tail _ ht ih => exact ih.tail (loggedStep_some g ht).1

lemma ReachedLogged.logged {s : Traversal V × List V} (h : ReachedLogged g start s) : Logged s := by
  induction h with
  | refl => simp [Logged, atStart]
  | tail _ ht ih => exact logged_step ht ih

lemma reachedLogged_end (g : DiGraph V) (start : V) :
    ∃ s, ReachedLogged g start (s, dequeued g start) ∧ s.queue = [] := by
  obtain ⟨hr, hn⟩ := runToEnd_reaches (loggedStep g) (logged_wf g) (atStart start, [])
  refine ⟨_, hr, queue_nil g ?_⟩
  exact Option.map_eq_none_iff.mp hn

lemma ReachedLogged.prefix_dequeued {s : Traversal V × List V} (h : ReachedLogged g start s) :
    s.2 ++ waiting s.1 <+: dequeued g start := by
  obtain ⟨hr, hn⟩ := runToEnd_reaches (loggedStep g) (logged_wf g) s
  have hfinal := runToEnd_of_reaches (loggedStep g) (logged_wf g) h
  have hlast : s.2 ++ waiting s.1 <+: (runToEnd (loggedStep g) (logged_wf g) s).2 ++
      waiting (runToEnd (loggedStep g) (logged_wf g) s).1 := by
    generalize runToEnd (loggedStep g) (logged_wf g) s = t at hr
    induction hr with
    | refl => exact List.prefix_rfl
    | tail _ ht ih => exact ih.trans (logged_before ht)
  have hempty : waiting (runToEnd (loggedStep g) (logged_wf g) s).1 = [] := by
    rw [waiting, queue_nil g (Option.map_eq_none_iff.mp hn), List.map_nil]
  rw [hempty, List.append_nil, ← hfinal] at hlast
  exact hlast

lemma mem_dequeued (v : V) : v ∈ dequeued g start ↔ g.Reaches start v := by
  obtain ⟨s, hs, hq⟩ := reachedLogged_end g start
  rw [← hs.logged v]
  exact visited_iff g hs.reached.exploring hq v

end Run

def Fresh (s : Traversal V) : Prop := (waiting s).Nodup ∧ ∀ v ∈ waiting s, v ∉ s.nodes

/-- The reachable nodes in breadth-first order: the start, its successors, those of its first successor,
and so on, each where it occurs first. -/
def breadthFirst (g : DiGraph V) (start : V) : List V :=
  BreadthFirst.breadthFirst g.successors start g.nodes.length

/-- Each node but the start has one predecessor before it in breadth-first order. -/
def Unshared (g : DiGraph V) (start : V) : Prop :=
  ∀ before v rest, breadthFirst g start = before ++ v :: rest → v ≠ start → ∃! u, u ∈ before ∧ g.Edge u v

section Order

lemma breadthFirst_fixed : visits g.successors start (breadthFirst g start) = breadthFirst g start := by
  have hstart : start ∈ insert start g.nodes.toFinset := Finset.mem_insert_self _ _
  apply BreadthFirst.breadthFirst_fixed hstart
  · intro u v he
    exact Finset.mem_insert_of_mem (List.mem_toFinset.mpr ((g.mem_successors u v).mp he).mem_right)
  · rw [← List.toFinset_card_of_nodup g.nodes_nodup]
    exact Finset.card_insert_le _ _

lemma mem_fixed {order : List V} (h : visits g.successors start order = order) {v : V} (hr : g.Reaches start v) :
    v ∈ order := by
  rw [← h, mem_visits]
  induction hr with
  | refl => exact Or.inl rfl
  | @tail u v _ he ih =>
    rw [← mem_visits, h] at ih
    exact Or.inr ⟨u, ih, (g.mem_successors u v).mpr he⟩

theorem breadthFirst_lists (g : DiGraph V) (start : V) :
    (breadthFirst g start).Nodup ∧ ∀ v, v ∈ breadthFirst g start ↔ g.Reaches start v := by
  refine ⟨BreadthFirst.breadthFirst_nodup _, fun v => ⟨?_, mem_fixed breadthFirst_fixed⟩⟩
  apply BreadthFirst.breadthFirst_invariant (P := g.Reaches start) .refl
  intro u hu w hw
  exact hu.tail ((g.mem_successors u w).mp hw)

lemma successors_nodup (v : V) : (g.successors v).Nodup := by
  refine List.Nodup.map_on ?_ (g.edges_nodup.filter _)
  rintro ⟨a, b⟩ ha ⟨c, d⟩ hc rfl
  simp only [List.mem_filter, decide_eq_true_eq] at ha hc
  rw [ha.2, hc.2]

end Order

/-- What has been dequeued and what is waiting are in breadth-first order. -/
def InOrder (g : DiGraph V) (start : V) (s : Traversal V × List V) : Prop :=
  visits g.successors start s.2 = s.2 ++ waiting s.1

lemma InOrder.nodup {s : Traversal V × List V} (h : InOrder g start s) : (s.2 ++ waiting s.1).Nodup :=
  h ▸ visits_nodup s.2

lemma logged_next {s t : Traversal V × List V} (ht : loggedStep g s = some t) (hs : Logged s) :
    ∃ v rest, waiting s.1 = v :: rest ∧ t.2 = s.2 ++ [v] ∧
      waiting t.1 = rest ++ (g.successors v).filter (· ∉ s.2 ++ [v]) := by
  obtain ⟨hst, hlog⟩ := loggedStep_some g ht
  obtain ⟨v, rest, hw, _, hwt⟩ := traversalStep_some g hst
  have hvisited : (g.successors v).filter (· ∉ insert v s.1.nodes) = (g.successors v).filter (· ∉ s.2 ++ [v]) := by
    apply List.filter_congr
    intro w _
    simp [hs w, not_or, and_comm]
  refine ⟨v, rest, hw, ?_, hvisited ▸ hwt⟩
  rw [hlog, hw]
  rfl

def NoJoin (g : DiGraph V) (s : Traversal V × List V) : Prop :=
  ∀ v rest, waiting s.1 = v :: rest → ∀ w, g.Edge v w → w ∉ s.2 ++ [v] → w ∉ rest

lemma InOrder.step {s t : Traversal V × List V} (h : InOrder g start s) (hs : Logged s)
    (ht : loggedStep g s = some t) (hjoin : NoJoin g s) : InOrder g start t := by
  obtain ⟨v, rest, hw, hlog, hwt⟩ := logged_next ht hs
  have hnew : (g.successors v).filter (· ∉ s.2 ++ waiting s.1) = (g.successors v).filter (· ∉ s.2 ++ [v]) := by
    apply List.filter_congr
    intro w hm
    have hrest := hjoin v rest hw w ((g.mem_successors v w).mp hm)
    rw [hw]
    simp only [List.mem_append, List.mem_cons, List.not_mem_nil, or_false, decide_eq_decide] at hrest ⊢
    tauto
  rw [InOrder, hlog, visits_append, List.flatMap_singleton, h, foldl_insertNew_eq (successors_nodup v), hnew, hw,
    hwt]
  simp

lemma noJoin_of_nodup {s t : Traversal V × List V} (hs : Logged s) (ht : loggedStep g s = some t)
    (hn : (t.2 ++ waiting t.1).Nodup) : NoJoin g s := by
  obtain ⟨v, rest, hw, hlog, hwt⟩ := logged_next ht hs
  intro v' rest' hw' w he hnew
  obtain ⟨rfl, rfl⟩ := List.cons.inj (hw.symm.trans hw')
  rw [hwt, ← List.append_assoc, List.nodup_append', List.disjoint_left] at hn
  intro hrest
  apply hn.2.2 (List.mem_append_right _ hrest)
  exact List.mem_filter.mpr ⟨(g.mem_successors v w).mpr he, decide_eq_true hnew⟩

lemma inOrder_of_nodup (h : (dequeued g start).Nodup) {s : Traversal V × List V} (hs : ReachedLogged g start s) :
    InOrder g start s := by
  induction hs with
  | refl => rfl
  | tail hs ht ih =>
    have hs : ReachedLogged g start _ := hs
    have hn := h.sublist (ReachedLogged.prefix_dequeued (hs.tail ht)).sublist
    exact ih.step hs.logged ht (noJoin_of_nodup hs.logged ht hn)

lemma dequeued_eq (h : (dequeued g start).Nodup) : dequeued g start = breadthFirst g start := by
  obtain ⟨s, hs, hq⟩ := reachedLogged_end g start
  have hfixed : visits g.successors start (dequeued g start) = dequeued g start := by
    have hin : visits g.successors start (dequeued g start) = dequeued g start ++ waiting s := inOrder_of_nodup h hs
    rw [hin, waiting, hq, List.map_nil, List.append_nil]
  have hsub : dequeued g start ⊆ breadthFirst g start :=
    fun v hv => ((breadthFirst_lists g start).2 v).mpr ((mem_dequeued v).mp hv)
  exact ((breadthFirst_within hfixed _).eq_of_length_le (List.subperm_of_subset h hsub).length_le).symm

lemma ReachedLogged.earlier {s : Traversal V × List V} (hs : ReachedLogged g start s) {done : List V} {v : V}
    {rest : List V} (hlog : s.2 = done ++ v :: rest) : ∃ r t behind, ReachedLogged g start r ∧
      loggedStep g r = some t ∧ r.2 = done ∧ waiting r.1 = v :: behind := by
  induction hs generalizing rest with
  | refl => simp at hlog
  | @tail s t hs ht ih =>
    have hs : ReachedLogged g start s := hs
    obtain ⟨u, behind, hw, ht', -⟩ := logged_next ht hs.logged
    rw [ht'] at hlog
    rcases rest.eq_nil_or_concat' with rfl | ⟨rest, last, rfl⟩
    · obtain ⟨hdone, hu⟩ := List.append_inj' hlog rfl
      exact ⟨s, t, behind, hs, ht, hdone, by rw [hw, List.singleton_inj.mp hu]⟩
    · rw [← List.cons_append, ← List.append_assoc] at hlog
      exact ih (List.append_inj' hlog rfl).1

lemma unshared_of_nodup (h : (dequeued g start).Nodup) : Unshared g start := by
  intro before v rest horder hv
  rw [← dequeued_eq h] at horder
  obtain ⟨last, hlast, -⟩ := reachedLogged_end g start
  -- of two predecessors, the second finds `v` waiting
  have hpair : ∀ done x behind y, before = done ++ x :: behind → y ∈ done → g.Edge x v → ¬ g.Edge y v := by
    rintro done x behind y rfl hy hx he
    rw [List.append_assoc, List.cons_append] at horder
    obtain ⟨r, t, waits, hr, ht, hlog, hw⟩ := hlast.earlier horder
    have hin : visits g.successors start r.2 = r.2 ++ waiting r.1 := inOrder_of_nodup h hr
    have hvisit : v ∈ r.2 ++ waiting r.1 :=
      hin ▸ mem_visits.mpr (Or.inr ⟨y, hlog ▸ hy, (g.mem_successors y v).mpr he⟩)
    have hnew : v ∉ done ++ [x] := by
      have hn := h
      rw [horder, ← List.singleton_append, ← List.append_assoc, List.nodup_append', List.disjoint_left] at hn
      exact fun hm => hn.2.2 hm (List.mem_append_right _ List.mem_cons_self)
    have hn := h.sublist (ReachedLogged.prefix_dequeued (hr.tail ht)).sublist
    have hjoin := noJoin_of_nodup hr.logged ht hn x waits hw v hx
    rw [hlog, hw] at hvisit
    rw [hlog] at hjoin
    simp only [List.mem_append, List.mem_cons, List.not_mem_nil, or_false] at hvisit hnew hjoin
    tauto
  obtain ⟨r, t, waits, hr, -, hlog, hw⟩ := hlast.earlier horder
  have hin : visits g.successors start r.2 = r.2 ++ waiting r.1 := inOrder_of_nodup h hr
  have hvisit : v ∈ visits g.successors start before := by
    rw [← hlog, hin, hw]
    exact List.mem_append_right _ List.mem_cons_self
  obtain ⟨u, hu, he⟩ := (mem_visits.mp hvisit).resolve_left hv
  have he := (g.mem_successors u v).mp he
  refine ⟨u, ⟨hu, he⟩, ?_⟩
  rintro y ⟨hy, hey⟩
  by_contra hne
  obtain ⟨done, behind, rfl⟩ := List.append_of_mem hu
  rcases List.mem_append.mp hy with hy | hy
  · exact hpair done u behind y rfl hy he hey
  · obtain ⟨mid, later, rfl⟩ := List.append_of_mem ((List.mem_cons.mp hy).resolve_left hne)
    exact hpair (done ++ u :: mid) y later u (by simp) (by simp) hey he

lemma noJoin_of_unshared (h : Unshared g start) {s : Traversal V × List V} (hin : InOrder g start s)
    (hall : s.2 ++ waiting s.1 <+: breadthFirst g start) : NoJoin g s := by
  intro v rest hw w he hnew hrest
  rw [hw] at hall
  obtain ⟨mid, behind, rfl⟩ := List.append_of_mem hrest
  obtain ⟨tail, horder⟩ := hall
  have hvisit : w ∈ visits g.successors start s.2 := by
    rw [hin, hw]
    exact List.mem_append_right _ (List.mem_cons_of_mem _ hrest)
  have hstart : w ≠ start := by
    rintro rfl
    have hfirst : [w] <+: s.2 ++ waiting s.1 := hin ▸ start_visits _
    rw [hw] at hfirst
    apply hnew
    cases hlog : s.2 with
    | nil | cons => simp_all
  -- a predecessor among the dequeued nodes and the head of the queue would be two
  obtain ⟨u, hu, heu⟩ := (mem_visits.mp hvisit).resolve_left hstart
  have huv : u = v := by
    apply (h (s.2 ++ v :: mid) w (behind ++ tail) ?_ hstart).unique ⟨?_, (g.mem_successors u w).mp heu⟩ ⟨?_, he⟩
    · rw [← horder]
      simp
    · exact List.mem_append_left _ hu
    · exact List.mem_append_right _ List.mem_cons_self
  have hn := hin.nodup
  rw [hw, List.nodup_append', List.disjoint_left] at hn
  exact hn.2.2 hu (huv ▸ List.mem_cons_self)

lemma inOrder_of_unshared (h : Unshared g start) {s : Traversal V × List V} (hs : ReachedLogged g start s) :
    InOrder g start s ∧ s.2 <+: breadthFirst g start := by
  induction hs with
  | refl => exact ⟨rfl, List.nil_prefix⟩
  | @tail s t hs ht ih =>
    obtain ⟨hin, hp⟩ := ih
    have hs : ReachedLogged g start s := hs
    have hall : s.2 ++ waiting s.1 <+: breadthFirst g start := by
      rw [← hin, ← breadthFirst_fixed]
      exact visits_mono hp
    refine ⟨hin.step hs.logged ht (noJoin_of_unshared h hin hall), ?_⟩
    obtain ⟨v, rest, hw, hlog, -⟩ := logged_next ht hs.logged
    rw [hw] at hall
    rw [hlog]
    exact List.IsPrefix.trans ⟨rest, by simp⟩ hall

lemma nodup_iff_unshared : (dequeued g start).Nodup ↔ Unshared g start := by
  refine ⟨unshared_of_nodup, ?_⟩
  intro h
  obtain ⟨s, hs, -⟩ := reachedLogged_end g start
  exact (List.nodup_append'.mp (inOrder_of_unshared h hs).1.nodup).1

omit [DecidableEq V] in
lemma fresh_iff {s : Traversal V × List V} (hs : Logged s) (hn : s.2.Nodup) :
    Fresh s.1 ↔ (s.2 ++ waiting s.1).Nodup := by
  rw [List.nodup_append', List.disjoint_right]
  refine ⟨?_, ?_⟩
  · exact fun h => ⟨hn, h.1, fun v hv hm => h.2 v hv ((hs v).mpr hm)⟩
  · exact fun h => ⟨h.2.1, fun v hv hm => h.2.2 hv ((hs v).mp hm)⟩

lemma fresh_of_nodup (h : (dequeued g start).Nodup) {s : Traversal V} (hs : Reached g start s) : Fresh s := by
  obtain ⟨log, hlog⟩ := hs.log
  have hn : (log ++ waiting s).Nodup := h.sublist hlog.prefix_dequeued.sublist
  exact (fresh_iff hlog.logged (List.nodup_append'.mp hn).1).mpr hn

lemma nodup_of_fresh (h : ∀ s, Reached g start s → Fresh s) : (dequeued g start).Nodup := by
  have hinv : ∀ s, ReachedLogged g start s → s.2.Nodup := by
    intro s hs
    induction hs with
    | refl => exact .nil
    | @tail s t hs ht ih =>
      have hs : ReachedLogged g start s := hs
      obtain ⟨v, rest, hw, hlog, -⟩ := logged_next ht hs.logged
      have hn := (fresh_iff hs.logged ih).mp (h s.1 hs.reached)
      rw [hw] at hn
      rw [hlog]
      exact hn.sublist (by simp)
  obtain ⟨s, hs, -⟩ := reachedLogged_end g start
  exact hinv (s, dequeued g start) hs

theorem expands_once_iff (g : DiGraph V) (start : V) :
    ∃ reachable : Finset V, (∀ v, v ∈ reachable ↔ g.Reaches start v) ∧
      ((∀ v ∈ reachable, (dequeued g start).count v = 1) ↔ Unshared g start) ∧
      ((∀ s, Reached g start s → Fresh s) ↔ Unshared g start) ∧
      ((dequeued g start).length = reachable.card ↔ Unshared g start) := by
  refine ⟨(dequeued g start).toFinset, ?_, ?_, ?_, ?_⟩
  · intro v
    rw [List.mem_toFinset, mem_dequeued]
  · simp only [List.mem_toFinset]
    rw [← nodup_iff_unshared, List.nodup_iff_count_eq_one]
  · rw [← nodup_iff_unshared]
    exact ⟨nodup_of_fresh, fun h s hs => fresh_of_nodup h hs⟩
  · rw [← nodup_iff_unshared]
    refine ⟨?_, ?_⟩
    · intro h
      rw [← List.dedup_eq_self]
      exact (List.dedup_sublist _).eq_of_length h.symm
    · exact fun h => (List.toFinset_card_of_nodup h).symm

def diamond : DiGraph ℕ where
  nodes := [0, 1, 2, 3]
  attr _ := {}
  edges := [(0, 1), (0, 2), (1, 3), (2, 3)]
  nodes_nodup := by decide
  edges_nodup := by decide
  edges_mem := by decide

example : breadthFirst diamond 0 = [0, 1, 2, 3] := by decide

theorem join_dequeued_twice :
    (∃ s, Reached diamond 0 s ∧ waiting s = [3, 3]) ∧ dequeued diamond 0 = [0, 1, 2, 3, 3] := by
  have h₁ : loggedStep diamond (atStart 0, []) = some (⟨insert 0 ∅, [(1, 1), (2, 1)]⟩, [0]) := rfl
  have h₂ : loggedStep diamond (⟨insert 0 ∅, [(1, 1), (2, 1)]⟩, [0]) =
      some (⟨insert 1 (insert 0 ∅), [(2, 1), (3, 2)]⟩, [0, 1]) := rfl
  have h₃ : loggedStep diamond (⟨insert 1 (insert 0 ∅), [(2, 1), (3, 2)]⟩, [0, 1]) =
      some (⟨insert 2 (insert 1 (insert 0 ∅)), [(3, 2), (3, 2)]⟩, [0, 1, 2]) := rfl
  have h₄ : loggedStep diamond (⟨insert 2 (insert 1 (insert 0 ∅)), [(3, 2), (3, 2)]⟩, [0, 1, 2]) =
      some (⟨insert 3 (insert 2 (insert 1 (insert 0 ∅))), [(3, 2)]⟩, [0, 1, 2, 3]) := rfl
  have h₅ : loggedStep diamond (⟨insert 3 (insert 2 (insert 1 (insert 0 ∅))), [(3, 2)]⟩, [0, 1, 2, 3]) =
      some (⟨insert 3 (insert 3 (insert 2 (insert 1 (insert 0 ∅)))), []⟩, [0, 1, 2, 3, 3]) := rfl
  refine ⟨?_, ?_⟩
  · have hr : ReachedLogged diamond 0 (⟨insert 2 (insert 1 (insert 0 ∅)), [(3, 2), (3, 2)]⟩, [0, 1, 2]) :=
      .head h₁ (.head h₂ (.single h₃))
    exact ⟨_, hr.reached, rfl⟩
  · rw [dequeued, runToEnd_some _ _ h₁, runToEnd_some _ _ h₂, runToEnd_some _ _ h₃,
      runToEnd_some _ _ h₄, runToEnd_some _ _ h₅, runToEnd_none _ _ rfl]

end TaskStubs.Analysis
