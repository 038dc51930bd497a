import Mathlib.Algebra.Order.Ring.Rat
import Mathlib.Order.WithBot
import TaskStubs.Analysis.DiGraph
import TaskStubs.Library.Loops

/-! `critical_path_method` of `analysis/critical-path.py`, on exact durations. -/

namespace TaskStubs.Analysis

open Function Library.Walks Library.TopologicalOrders

variable {V : Type} [DecidableEq V]

/-- What one call has written on the nodes so far. A value that an earlier call left on a node
cannot be read: reading what this call has not written raises `KeyError`. -/
structure Passes (V : Type) where
  est : V → Option ℚ := fun _ => none
  eft : V → Option ℚ := fun _ => none
  lft : V → Option (WithTop ℚ) := fun _ => none
  lst : V → Option (WithTop ℚ) := fun _ => none
  float : V → Option (WithTop ℚ) := fun _ => none

/-- `nx.topological_sort`, which is handed the graph with its attributes as they stand. -/
abbrev TopologicalSort (V : Type) := DiGraph V → Passes V → Except (PyError V) (List V)

def nodeAttrs (g : DiGraph V) (node : V) : Except (PyError V) (Attrs V) :=
  if node ∈ g.nodes then .ok (g.attr node) else .error (.noNode node)

def latestPredecessor (g : DiGraph V) (passes : Passes V) (node : V) : Except (PyError V) ℚ :=
  (g.predecessors node).foldlM (fun est predecessor => do
    let eft ← readKey "eft" (passes.eft predecessor)
    pure (max est eft)) 0

def forwardNode (g : DiGraph V) (state : Passes V × ℚ) (node : V) :
    Except (PyError V) (Passes V × ℚ) := do
  let (passes, endtime) := state
  let est ← latestPredecessor g passes node
  let duration ← readKey "duration" (g.attr node).duration
  let ts ← readKey "ts" (g.attr node).ts
  let tmpend := ts + duration
  pure ({ passes with
      est := update passes.est node (some est)
      eft := update passes.eft node (some (est + duration)) },
    if tmpend > endtime then tmpend else endtime)

def latestFinish (g : DiGraph V) (passes : Passes V) (node : V) : Except (PyError V) (WithTop ℚ) :=
  if g.successors node = [] then do
    let eft ← readKey "eft" (passes.eft node)
    pure (eft : WithTop ℚ)
  else
    (g.successors node).foldlM (fun lft successor => do
      let lst ← readKey "lst" (passes.lst successor)
      pure (min lft lst)) ⊤

def backwardNode (g : DiGraph V) (passes : Passes V) (node : V) : Except (PyError V) (Passes V) := do
  let lft ← latestFinish g passes node
  let duration ← readKey "duration" (g.attr node).duration
  pure { passes with
    lft := update passes.lft node (some lft)
    lst := update passes.lst node (some (lft.map (· - duration))) }

def floatNode (state : Passes V × List V × ℚ) (node : V) :
    Except (PyError V) (Passes V × List V × ℚ) := do
  let (passes, criticalPath, projectCompletionTime) := state
  let lst ← readKey "lst" (passes.lst node)
  let est ← readKey "est" (passes.est node)
  let float := lst.map (· - est)
  let eft ← readKey "eft" (passes.eft node)
  pure ({ passes with float := update passes.float node (some float) },
    if float = 0 then criticalPath ++ [node] else criticalPath,
    max projectCompletionTime eft)

structure Report (V : Type) where
  criticalPath : List V
  actual : ℚ
  projectCompletionTime : ℚ
  passes : Passes V

/-- `nx.topological_sort` is a generator that raises its error in the course of the loop. Here it has ended before
the loop begins: of a graph with a cycle and a node without attributes the error is that of the cycle. -/
def criticalPathMethod (topologicalSort : TopologicalSort V) (g : DiGraph V) (root : V) :
    Except (PyError V) (Report V) := do
  let attrs ← nodeAttrs g root
  let starttime ← readKey "ts" attrs.ts
  let duration ← readKey "duration" attrs.duration
  let forward ← topologicalSort g {}
  let (passes, endtime) ← forward.foldlM (forwardNode g) ({}, starttime + duration)
  let backward ← topologicalSort g passes
  let passes ← backward.reverse.foldlM (backwardNode g) passes
  let (passes, criticalPath, projectCompletionTime) ← g.nodes.foldlM floatNode (passes, [], 0)
  pure ⟨criticalPath, endtime - starttime, projectCompletionTime, passes⟩

/-- The documented behaviour of `nx.topological_sort`. -/
def Sorts (topologicalSort : TopologicalSort V) : Prop :=
  ∀ g : DiGraph V, Acyclic g.Edge → ∀ passes,
    ∃ order, topologicalSort g passes = .ok order ∧ g.IsTopologicalOrder order

/-- `nx.topological_sort` on a graph with a cycle. -/
def Refuses (topologicalSort : TopologicalSort V) : Prop :=
  ∀ g : DiGraph V, ¬ Acyclic g.Edge → ∀ passes, topologicalSort g passes = .error .unfeasible

def generationSort : TopologicalSort V := fun g _ =>
  if g.topologicalGenerations.length = g.nodes.length then .ok g.topologicalGenerations
  else .error .unfeasible

lemma generationSort_sorts : Sorts (generationSort (V := V)) := by
  intro g hg _
  have h := DiGraph.topologicalGenerations_correct hg
  exact ⟨_, if_pos h.1.length_eq, h⟩

lemma generationSort_refuses : Refuses (generationSort (V := V)) := by
  intro g hg passes
  rw [generationSort, if_neg]
  intro hlength
  apply hg
  have hsubset : g.topologicalGenerations ⊆ g.nodes := generations_subset _ _
  have hperm : g.topologicalGenerations.Perm g.nodes :=
    ((generations_nodup _ _ g.nodes_nodup).subperm hsubset).perm_of_length_le hlength.ge
  have htop : IsTopological g.Edge g.topologicalGenerations := by
    intro pre v post ho u he
    exact generations_topological _ _ pre post v ho u he.mem_left he
  exact htop.acyclic (fun u v he => hperm.mem_iff.mpr he.mem_right)

end TaskStubs.Analysis
