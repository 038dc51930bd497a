import Mathlib.Data.Finset.Basic
import Mathlib.Data.Rat.Defs
import TaskStubs.Library.TopologicalOrders

/-! The `networkx.DiGraph` of a trace: nodes and edges in insertion order, and the attribute
dictionary of each node. A parent that has no event of its own is a node with no attributes. The copy of
a subgraph is a parameter, since its order is not documented. -/

namespace TaskStubs.Analysis

open Relation Library.Walks Library.TopologicalOrders

inductive ParentGuid (V : Type) where
  | single (parent : V)
  | many (parents : List V)
  deriving DecidableEq

structure EventArgs (V : Type) where
  implicitParent : Option Bool
  guid : V
  parentGuid : ParentGuid V
  deriving DecidableEq

/-- The keys that `readGraph` may set on a node. -/
structure Attrs (V : Type) where
  guid : Option V := none
  name : Option String := none
  duration : Option ℚ := none
  args : Option (EventArgs V) := none
  pguid : Option (ParentGuid V) := none
  ts : Option ℚ := none
  deriving DecidableEq

inductive PyError (V : Type) where
  | noNode (node : V)
  | keyError (key : String)
  | indexError
  | valueError (message : String)
  | unfeasible
  deriving DecidableEq

def readKey {V α : Type} (key : String) : Option α → Except (PyError V) α
  | some a => .ok a
  | none => .error (.keyError key)

lemma readKey_ok {V α : Type} {key : String} {o : Option α} {a : α} (h : readKey (V := V) key o = .ok a) :
    o = some a := by
  cases o with
  | none => cases h
  | some b => cases h; rfl

structure DiGraph (V : Type) where
  nodes : List V
  attr : V → Attrs V
  edges : List (V × V)
  nodes_nodup : nodes.Nodup
  edges_nodup : edges.Nodup
  edges_mem : ∀ e ∈ edges, e.1 ∈ nodes ∧ e.2 ∈ nodes

namespace DiGraph

variable {V : Type} [DecidableEq V]

def Edge (g : DiGraph V) (u v : V) : Prop := (u, v) ∈ g.edges

instance (g : DiGraph V) : DecidableRel g.Edge :=
  fun u v => inferInstanceAs (Decidable ((u, v) ∈ g.edges))

def predecessors (g : DiGraph V) (v : V) : List V :=
  (g.edges.filter (fun e => e.2 = v)).map Prod.fst

def successors (g : DiGraph V) (v : V) : List V :=
  (g.edges.filter (fun e => e.1 = v)).map Prod.snd

@[simp] lemma mem_predecessors (g : DiGraph V) (u v : V) : u ∈ g.predecessors v ↔ g.Edge u v := by
  simp [predecessors, Edge]

@[simp] lemma mem_successors (g : DiGraph V) (u v : V) : v ∈ g.successors u ↔ g.Edge u v := by
  simp [successors, Edge]

omit [DecidableEq V] in
lemma Edge.mem_left {g : DiGraph V} {u v : V} (h : g.Edge u v) : u ∈ g.nodes := (g.edges_mem _ h).1

omit [DecidableEq V] in
lemma Edge.mem_right {g : DiGraph V} {u v : V} (h : g.Edge u v) : v ∈ g.nodes := (g.edges_mem _ h).2

/-- The graph that `subgraph(nodes).copy()` is documented to return. Its nodes and edges may come in any
order, and the attributes of other nodes mean nothing. -/
structure IsSubgraph (g : DiGraph V) (keep : Finset V) (sub : DiGraph V) : Prop where
  mem_nodes : ∀ v, v ∈ sub.nodes ↔ v ∈ g.nodes ∧ v ∈ keep
  edge : ∀ u v, sub.Edge u v ↔ g.Edge u v ∧ u ∈ keep ∧ v ∈ keep
  attr_eq : sub.attr = g.attr

def subgraph (g : DiGraph V) (keep : Finset V) : DiGraph V where
  nodes := g.nodes.filter (· ∈ keep)
  attr := g.attr
  edges := g.edges.filter (fun e => e.1 ∈ keep ∧ e.2 ∈ keep)
  nodes_nodup := g.nodes_nodup.filter _
  edges_nodup := g.edges_nodup.filter _
  edges_mem := by
    intro e he
    simp only [List.mem_filter, decide_eq_true_eq] at he ⊢
    obtain ⟨hm, h₁, h₂⟩ := he
    exact ⟨⟨(g.edges_mem e hm).1, h₁⟩, (g.edges_mem e hm).2, h₂⟩

lemma subgraph_isSubgraph (g : DiGraph V) (keep : Finset V) : g.IsSubgraph keep (g.subgraph keep) where
  mem_nodes v := by simp [subgraph]
  edge u v := by simp [subgraph, Edge]
  attr_eq := rfl

variable (g : DiGraph V)

def Reaches (u v : V) : Prop := ReflTransGen g.Edge u v

def Sink (v : V) : Prop := ∀ w, ¬ g.Edge v w

def Path (u v : V) (p : List V) : Prop := u ∈ g.nodes ∧ Walk g.Edge u v p

def SameShape (g g' : DiGraph V) : Prop :=
  (∀ v, v ∈ g.nodes ↔ v ∈ g'.nodes) ∧ ∀ u v, g.Edge u v ↔ g'.Edge u v

def dur (v : V) : ℚ := (g.attr v).duration.getD 0

def time (v : V) : ℚ := (g.attr v).ts.getD 0

def Measured (v : V) : Prop :=
  (g.attr v).duration = some (g.dur v) ∧ (g.attr v).ts = some (g.time v)

def Timed (v : V) : Prop :=
  (g.attr v).duration = some (g.dur v) ∧ 0 ≤ g.dur v ∧ (g.attr v).ts = some (g.time v)

instance (g : DiGraph V) (v : V) : Decidable (g.Timed v) :=
  inferInstanceAs (Decidable (_ ∧ _ ∧ _))

omit [DecidableEq V] in
lemma Timed.measured {g : DiGraph V} {v : V} (h : g.Timed v) : g.Measured v := ⟨h.1, h.2.2⟩

omit [DecidableEq V] in
lemma Path.mem_nodes {g : DiGraph V} {u v x : V} {p : List V} (h : g.Path u v p) (hx : x ∈ p) :
    x ∈ g.nodes := by
  rcases (h.2.reaches_mem hx).cases_tail with rfl | ⟨w, _, he⟩
  · exact h.1
  · exact he.mem_right

omit [DecidableEq V] in
lemma Path.last_mem_nodes {g : DiGraph V} {u v : V} {p : List V} (h : g.Path u v p) : v ∈ g.nodes :=
  h.mem_nodes h.2.last_mem

def IsTopologicalOrder (order : List V) : Prop :=
  order.Perm g.nodes ∧ IsTopological g.Edge order

/-- One generation of sources after another, as `nx.topological_sort` proceeds. -/
def topologicalGenerations : List V := generations g.Edge g.nodes.length g.nodes

variable {g}

lemma topologicalGenerations_correct (h : Acyclic g.Edge) : g.IsTopologicalOrder g.topologicalGenerations := by
  refine ⟨generations_perm h _ _ le_rfl, ?_⟩
  intro pre v post ho u he
  exact generations_topological _ _ pre post v ho u he.mem_left he

omit [DecidableEq V] in
lemma IsTopologicalOrder.nodup {order : List V} (h : g.IsTopologicalOrder order) : order.Nodup :=
  h.1.nodup_iff.mpr g.nodes_nodup

omit [DecidableEq V] in
lemma IsTopologicalOrder.mem {order : List V} (h : g.IsTopologicalOrder order) (v : V) :
    v ∈ order ↔ v ∈ g.nodes :=
  h.1.mem_iff

omit [DecidableEq V] in
lemma IsTopologicalOrder.reverse {order : List V} (h : g.IsTopologicalOrder order) :
    IsTopological (flip g.Edge) order.reverse :=
  h.2.reverse h.nodup (fun _ w he => (h.mem w).mpr he.mem_right)

end DiGraph

lemma reaches_mem {V : Type} {g : DiGraph V} {u v : V} (hu : u ∈ g.nodes) (h : g.Reaches u v) : v ∈ g.nodes := by
  obtain ⟨p, hp⟩ := exists_walk h
  exact DiGraph.Path.last_mem_nodes ⟨hu, hp⟩

/-- `graph.subgraph(nodes).copy()` of networkx. -/
structure Networkx (V : Type) [DecidableEq V] where
  subgraphCopy : DiGraph V → Finset V → DiGraph V
  isSubgraph : ∀ g keep, DiGraph.IsSubgraph g keep (subgraphCopy g keep)

def insertionOrdered {V : Type} [DecidableEq V] : Networkx V := ⟨DiGraph.subgraph, DiGraph.subgraph_isSubgraph⟩

end TaskStubs.Analysis
