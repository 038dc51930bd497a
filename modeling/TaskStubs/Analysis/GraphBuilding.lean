import TaskStubs.Analysis.DiGraph
import TaskStubs.Library.Insertion

/-! `add_node` and `add_edge` of `networkx.DiGraph`. -/

namespace TaskStubs.Analysis

open Function Library.Insertion

variable {V : Type} [DecidableEq V]

/-- `dict.update` on an attribute dictionary. -/
def Attrs.update (old new : Attrs V) : Attrs V where
  guid := new.guid <|> old.guid
  name := new.name <|> old.name
  duration := new.duration <|> old.duration
  args := new.args <|> old.args
  pguid := new.pguid <|> old.pguid
  ts := new.ts <|> old.ts

namespace DiGraph

def empty : DiGraph V where
  nodes := []
  attr _ := {}
  edges := []
  nodes_nodup := List.nodup_nil
  edges_nodup := List.nodup_nil
  edges_mem e he := by simp at he

def addNode (g : DiGraph V) (v : V) (attrs : Attrs V) : DiGraph V where
  nodes := insertNew g.nodes v
  attr := update g.attr v (if v ∈ g.nodes then (g.attr v).update attrs else attrs)
  edges := g.edges
  nodes_nodup := insertNew_nodup g.nodes_nodup v
  edges_nodup := g.edges_nodup
  edges_mem e he := by simp [g.edges_mem e he]

/-- An endpoint that is not in the graph yet enters it with an empty dictionary. -/
def ensure (g : DiGraph V) (v : V) : DiGraph V :=
  if v ∈ g.nodes then g else g.addNode v {}

@[simp] lemma mem_ensure_nodes (g : DiGraph V) (v w : V) :
    w ∈ (g.ensure v).nodes ↔ w ∈ g.nodes ∨ w = v := by
  rw [ensure]
  split_ifs with h
  · refine ⟨Or.inl, ?_⟩
    rintro (hw | rfl)
    · exact hw
    · exact h
  · simp [addNode]

def addEdge (g : DiGraph V) (u v : V) : DiGraph V where
  nodes := ((g.ensure u).ensure v).nodes
  attr := ((g.ensure u).ensure v).attr
  edges := insertNew g.edges (u, v)
  nodes_nodup := ((g.ensure u).ensure v).nodes_nodup
  edges_nodup := insertNew_nodup g.edges_nodup _
  edges_mem e he := by
    simp only [mem_ensure_nodes]
    rcases (mem_insertNew _ _ _).mp he with he | rfl
    · simp [g.edges_mem e he]
    · simp

def Blank (g : DiGraph V) : Prop := ∀ v, v ∉ g.nodes → g.attr v = {}

variable {g : DiGraph V}

omit [DecidableEq V] in
lemma blank_empty : (empty : DiGraph V).Blank := fun _ _ => rfl

lemma mem_addNode_nodes (g : DiGraph V) (v w : V) (attrs : Attrs V) :
    w ∈ (g.addNode v attrs).nodes ↔ w ∈ g.nodes ∨ w = v :=
  mem_insertNew _ _ _

lemma addNode_edge (g : DiGraph V) (v x y : V) (attrs : Attrs V) :
    (g.addNode v attrs).Edge x y ↔ g.Edge x y := Iff.rfl

lemma Blank.addNode (h : g.Blank) (v : V) (attrs : Attrs V) : (g.addNode v attrs).Blank := by
  intro w hw
  rw [mem_addNode_nodes, not_or] at hw
  exact (update_of_ne hw.2 _ _).trans (h w hw.1)

lemma ensure_attr (h : g.Blank) (v : V) : (g.ensure v).attr = g.attr := by
  rw [ensure]
  split_ifs with hv
  · rfl
  · funext w
    by_cases hw : w = v
    · subst hw
      simp [DiGraph.addNode, hv, h w hv]
    · simp [DiGraph.addNode, hw]

lemma Blank.ensure (h : g.Blank) (v : V) : (g.ensure v).Blank := by
  intro w hw
  rw [mem_ensure_nodes, not_or] at hw
  rw [ensure_attr h]
  exact h w hw.1

lemma mem_addEdge_nodes (g : DiGraph V) (u v w : V) :
    w ∈ (g.addEdge u v).nodes ↔ w ∈ g.nodes ∨ w = u ∨ w = v := by
  simp [addEdge, or_assoc]

lemma addEdge_edge (g : DiGraph V) (u v x y : V) :
    (g.addEdge u v).Edge x y ↔ g.Edge x y ∨ (x = u ∧ y = v) := by
  simp [Edge, addEdge]

lemma addEdge_attr (h : g.Blank) (u v : V) : (g.addEdge u v).attr = g.attr :=
  (ensure_attr (h.ensure u) v).trans (ensure_attr h u)

lemma Blank.addEdge (h : g.Blank) (u v : V) : (g.addEdge u v).Blank :=
  (h.ensure u).ensure v

end DiGraph

end TaskStubs.Analysis
