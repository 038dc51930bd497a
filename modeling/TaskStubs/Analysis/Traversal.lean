import Mathlib.Data.Finset.Card
import TaskStubs.Analysis.DiGraph
import TaskStubs.Library.Loops

/-! `get_subgraph_from_node`: a queue that may hold a node many times still visits exactly the
reachable nodes, on cyclic graphs too. -/

namespace TaskStubs.Analysis

open Relation Library.Loops

variable {V : Type} [DecidableEq V] (g : DiGraph V)

structure Traversal (V : Type) where
  nodes : Finset V
  queue : List (V × ℕ)

def traversalStep (s : Traversal V) : Option (Traversal V) :=
  match s.queue with
  | [] => none
  | (currentNode, currentLevel) :: queue =>
    let nodes := insert currentNode s.nodes
    let neighbors := (g.successors currentNode).filter (· ∉ nodes)
    some ⟨nodes, queue ++ neighbors.map (fun neighbor => (neighbor, currentLevel + 1))⟩

def remaining (s : Traversal V) : ℕ × ℕ :=
  ((g.nodes.toFinset \ s.nodes).card,
    (s.queue.filter (fun e => e.1 ∈ s.nodes ∨ e.1 ∉ g.nodes)).length)

lemma remaining_decreases {s t : Traversal V} (h : traversalStep g s = some t) :
    Prod.Lex (· < ·) (· < ·) (remaining g t) (remaining g s) := by
  obtain ⟨nodes, queue⟩ := s
  cases queue with
  | nil => simp [traversalStep] at h
  | cons entry queue =>
    obtain ⟨v, level⟩ := entry
    obtain rfl := Option.some.inj h
    by_cases hv : v ∈ nodes ∨ v ∉ g.nodes
    · -- an entry that visits nothing new queues only nodes that are not visited
      have hcard : g.nodes.toFinset \ insert v nodes = g.nodes.toFinset \ nodes := by
        ext w
        by_cases hw : w = v
        · subst hw
          rcases hv with hv | hv <;> simp [hv]
        · simp [hw]
      have hstale : ∀ w, (w ∈ insert v nodes ∨ w ∉ g.nodes) ↔ (w ∈ nodes ∨ w ∉ g.nodes) := by
        intro w
        by_cases hw : w = v
        · subst hw
          simp [hv]
        · simp [hw]
      have hfresh : ((((g.successors v).filter (· ∉ insert v nodes)).map
          (fun neighbor => (neighbor, level + 1))).filter
            (fun e => e.1 ∈ nodes ∨ e.1 ∉ g.nodes)) = [] := by
        refine List.filter_eq_nil_iff.mpr ?_
        intro e he
        obtain ⟨w, hw, rfl⟩ := List.mem_map.mp he
        obtain ⟨hs, hn⟩ := List.mem_filter.mp hw
        have hedge := (g.mem_successors v w).mp hs
        have hn' : w ∉ nodes := fun h => by simp [h] at hn
        simp [hn', hedge.mem_right]
      simp only [remaining, hcard, hstale, List.filter_append, hfresh, List.append_nil]
      refine .right _ ?_
      simp [hv]
    · push Not at hv
      refine .left _ _ (Finset.card_lt_card ?_)
      refine Finset.ssubset_iff_subset_ne.mpr ⟨?_, ?_⟩
      · exact Finset.sdiff_subset_sdiff subset_rfl (Finset.subset_insert v nodes)
      · intro heq
        have hm : v ∈ g.nodes.toFinset \ nodes := by simp [hv]
        rw [← heq] at hm
        simp at hm

lemma traversal_wf : WellFounded (fun t s => traversalStep g s = some t) :=
  Subrelation.wf (fun h => remaining_decreases g h)
    (InvImage.wf (remaining g) (WellFounded.prod_lex wellFounded_lt wellFounded_lt))

def getSubgraphFromNode (nx : Networkx V) (g : DiGraph V) (startNode : V) : Except (PyError V) (DiGraph V) :=
  if startNode ∉ g.nodes then .error (.valueError "Start node is not in the graph.")
  else
    let s := runToEnd (traversalStep g) (traversal_wf g) ⟨∅, [(startNode, 0)]⟩
    .ok (nx.subgraphCopy g s.nodes)

lemma getSubgraphFromNode_missing (nx : Networkx V) {start : V} (h : start ∉ g.nodes) :
    getSubgraphFromNode nx g start = .error (.valueError "Start node is not in the graph.") := by
  rw [getSubgraphFromNode, if_pos h]

/-- Everything seen is reachable, and an edge out of a visited node leads to a node that is
visited or queued. -/
structure Exploring (start : V) (s : Traversal V) : Prop where
  nodes_reachable : ∀ v ∈ s.nodes, g.Reaches start v
  queue_reachable : ∀ e ∈ s.queue, g.Reaches start e.1
  start_seen : start ∈ s.nodes ∨ ∃ e ∈ s.queue, e.1 = start
  edge_seen : ∀ u ∈ s.nodes, ∀ v, g.Edge u v → v ∈ s.nodes ∨ ∃ e ∈ s.queue, e.1 = v

omit [DecidableEq V] in
lemma exploring_start (start : V) : Exploring g start ⟨∅, [(start, 0)]⟩ where
  nodes_reachable v hv := by simp at hv
  queue_reachable e he := by
    obtain rfl := List.mem_singleton.mp he
    exact .refl
  start_seen := Or.inr ⟨_, List.mem_singleton_self _, rfl⟩
  edge_seen u hu := by simp at hu

lemma exploring_step {start : V} {s t : Traversal V} (h : traversalStep g s = some t)
    (hs : Exploring g start s) : Exploring g start t := by
  obtain ⟨nodes, queue⟩ := s
  cases queue with
  | nil => simp [traversalStep] at h
  | cons entry queue =>
    obtain ⟨v, level⟩ := entry
    obtain rfl := Option.some.inj h
    have hv : g.Reaches start v := hs.queue_reachable _ List.mem_cons_self
    -- what was visited or queued before still is
    have hseen : ∀ w, (w ∈ nodes ∨ ∃ e ∈ (v, level) :: queue, e.1 = w) → w ∈ insert v nodes ∨
        ∃ e ∈ queue ++ ((g.successors v).filter (· ∉ insert v nodes)).map
          (fun neighbor => (neighbor, level + 1)), e.1 = w := by
      rintro w (hw | ⟨e, he, rfl⟩)
      · exact Or.inl (Finset.mem_insert_of_mem hw)
      · rcases List.mem_cons.mp he with rfl | he
        · exact Or.inl (Finset.mem_insert_self _ _)
        · exact Or.inr ⟨e, List.mem_append_left _ he, rfl⟩
    refine ⟨?_, ?_, ?_, ?_⟩
    · intro w hw
      rcases Finset.mem_insert.mp hw with rfl | hw
      · exact hv
      · exact hs.nodes_reachable w hw
    · intro e he
      rcases List.mem_append.mp he with he | he
      · exact hs.queue_reachable e (List.mem_cons_of_mem _ he)
      · obtain ⟨w, hw, rfl⟩ := List.mem_map.mp he
        exact hv.tail ((g.mem_successors v w).mp (List.mem_of_mem_filter hw))
    · exact hseen start hs.start_seen
    · intro u hu w he
      rcases Finset.mem_insert.mp hu with rfl | hu
      · by_cases hw : w ∈ insert u nodes
        · exact Or.inl hw
        · refine Or.inr ⟨(w, level + 1), List.mem_append_right _ (List.mem_map.mpr ⟨w, ?_, rfl⟩), rfl⟩
          exact List.mem_filter.mpr ⟨(g.mem_successors u w).mpr he, by simpa using hw⟩
      · exact hseen w (hs.edge_seen u hu w he)

omit [DecidableEq V] in
lemma visited_iff {start : V} {s : Traversal V} (hs : Exploring g start s) (hq : s.queue = []) (v : V) :
    v ∈ s.nodes ↔ g.Reaches start v := by
  refine ⟨hs.nodes_reachable v, ?_⟩
  intro hr
  induction hr with
  | refl => simpa [hq] using hs.start_seen
  | tail _ he ih => simpa [hq] using hs.edge_seen _ ih _ he

lemma queue_nil {s : Traversal V} (h : traversalStep g s = none) : s.queue = [] := by
  obtain ⟨nodes, queue⟩ := s
  cases queue with
  | nil => rfl
  | cons entry queue => simp [traversalStep] at h

lemma getSubgraphFromNode_reachable (nx : Networkx V) {m : V} (h : m ∈ g.nodes) :
    ∃ keep, getSubgraphFromNode nx g m = .ok (nx.subgraphCopy g keep) ∧ ∀ v, v ∈ keep ↔ g.Reaches m v := by
  obtain ⟨hi, hn⟩ := runToEnd_invariant (traversalStep g) (traversal_wf g) (Exploring g m)
    (exploring_start g m) (fun _ _ hst hs => exploring_step g hst hs)
  exact ⟨_, if_neg (not_not.mpr h), visited_iff g hi (queue_nil g hn)⟩

/-- The part of the graph that is reachable from `m`, in any order. -/
structure Below (g : DiGraph V) (m : V) (sub : DiGraph V) : Prop where
  mem_nodes : ∀ v, v ∈ sub.nodes ↔ g.Reaches m v
  edge : ∀ u v, sub.Edge u v ↔ g.Edge u v ∧ g.Reaches m u
  attr_eq : sub.attr = g.attr

theorem getSubgraphFromNode_below (nx : Networkx V) {m : V} (h : m ∈ g.nodes) :
    ∃ sub, getSubgraphFromNode nx g m = .ok sub ∧ Below g m sub := by
  obtain ⟨keep, hrun, hkeep⟩ := getSubgraphFromNode_reachable g nx h
  have hsub := nx.isSubgraph g keep
  refine ⟨_, hrun, ?_, ?_, hsub.attr_eq⟩
  · intro v
    rw [hsub.mem_nodes, hkeep]
    exact ⟨fun hv => hv.2, fun hv => ⟨reaches_mem h hv, hv⟩⟩
  · intro u v
    rw [hsub.edge, hkeep, hkeep]
    exact ⟨fun he => ⟨he.1, he.2.1⟩, fun he => ⟨he.1, he.2, he.2.tail he.1⟩⟩

end TaskStubs.Analysis
