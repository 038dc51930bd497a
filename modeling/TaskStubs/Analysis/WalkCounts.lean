import TaskStubs.Analysis.Levels

/-! Every iteration of `get_subgraph_from_node` follows a walk of its own, so their number may grow
exponentially with the number of nodes. -/

namespace TaskStubs.Analysis

open Relation Library.Walks Library.Loops

variable {V : Type} [DecidableEq V] {g : DiGraph V} {start : V}

/-- Each node dequeued so far, and each waiting one, has been reached along a walk that no other has. -/
structure Followed (g : DiGraph V) (start : V) (s : Traversal V × List V) (done pending : List (List V)) : Prop where
  logged : List.Forall₂ (fun p v => Walk g.Edge start v p) done s.2
  queued : List.Forall₂ (fun p v => Walk g.Edge start v p) pending (waiting s.1)
  nodup : (done ++ pending).Nodup
  extends_done : ∀ p v, p ≠ [] → p ++ [v] ∈ done ++ pending → p ∈ done

omit [DecidableEq V] in
lemma followed_start : Followed g start (atStart start, []) [] [[start]] where
  logged := .nil
  queued := .cons (.single start) .nil
  nodup := List.nodup_singleton _
  extends_done p v hp hm := by
    have hlength := congrArg List.length (List.mem_singleton.mp hm)
    simp [hp] at hlength

def extensions (p : List V) (neighbors : List V) : List (List V) := neighbors.map (fun w => p ++ [w])

omit [DecidableEq V] in
lemma extensions_nodup (p : List V) {neighbors : List V} (h : neighbors.Nodup) :
    (extensions p neighbors).Nodup :=
  h.map (fun w w' he => by simpa using he)

lemma Followed.step {s t : Traversal V × List V} {done pending : List (List V)}
    (h : Followed g start s done pending) (hst : loggedStep g s = some t) {v : V} {rest : List V}
    (hw : waiting s.1 = v :: rest) : ∃ p pending', pending = p :: pending' ∧ Walk g.Edge start v p ∧
      Followed g start t (done ++ [p])
        (pending' ++ extensions p ((g.successors v).filter (· ∉ insert v s.1.nodes))) := by
  obtain ⟨hlogged, hqueued, hnodup, hextends⟩ := h
  obtain ⟨htr, hlog⟩ := loggedStep_some g hst
  obtain ⟨v', rest', hw', _, hwt⟩ := traversalStep_some g htr
  obtain ⟨rfl, rfl⟩ := List.cons.inj (hw.symm.trans hw')
  rw [hw] at hqueued hlog
  obtain ⟨p, pending', hp, hrest, rfl⟩ := List.forall₂_cons_right_iff.mp hqueued
  have hpne : p ≠ [] := by
    obtain ⟨q, rfl⟩ := hp.head
    exact List.cons_ne_nil _ _
  have hpdone : p ∉ done := by
    intro hm
    exact (List.disjoint_of_nodup_append hnodup) hm List.mem_cons_self
  have hall : ∀ neighbors, (done ++ [p]) ++ (pending' ++ extensions p neighbors) =
      (done ++ p :: pending') ++ extensions p neighbors := by simp
  refine ⟨p, pending', rfl, hp, ?_, ?_, ?_, ?_⟩
  · rw [hlog]
    exact List.rel_append hlogged (.cons hp .nil)
  · rw [hwt]
    refine List.rel_append hrest ?_
    rw [extensions, List.forall₂_map_left_iff, List.forall₂_same]
    intro w hm
    exact hp.snoc ((g.mem_successors v w).mp (List.mem_of_mem_filter hm))
  · rw [hall, List.nodup_append']
    refine ⟨hnodup, extensions_nodup p ((successors_nodup v).filter _), ?_⟩
    intro q hold hnew
    obtain ⟨w, _, rfl⟩ := List.mem_map.mp hnew
    exact hpdone (hextends p w hpne hold)
  · intro q w hq hm
    rw [hall] at hm
    rcases List.mem_append.mp hm with hm | hm
    · exact List.mem_append_left _ (hextends q w hq hm)
    · obtain ⟨w', _, heq⟩ := List.mem_map.mp hm
      obtain rfl : p = q := (List.append_inj' heq rfl).1
      simp

def Layered (g : DiGraph V) (start : V) : Prop :=
  ∀ v j k, Steps g start j v → Steps g start k v → j = k

lemma Layered.fresh (hlayered : Layered g start) {s : Traversal V} (hs : Reached g start s) {v : V}
    {rest : List V} (hw : waiting s = v :: rest) {w : V} (he : g.Edge v w) : w ∉ insert v s.nodes := by
  obtain ⟨⟨v', l⟩, rest', hq, rfl, _⟩ := List.map_eq_cons_iff.mp hw
  obtain ⟨l₀, h₀⟩ := hs.atLevel
  have h := h₀.head hs.exploring hq
  have hv := h.walks (v', l) (by rw [hq]; exact List.mem_cons_self)
  rw [Finset.mem_insert, not_or]
  refine ⟨?_, ?_⟩
  · rintro rfl
    have heq := hlayered w _ _ hv (hv.step he)
    omega
  · intro hm
    obtain ⟨j, hj, hsteps⟩ := h.near w hm
    have heq := hlayered w _ _ hsteps (hv.step he)
    dsimp only at heq
    omega

def Extended (g : DiGraph V) (start : V) (done pending : List (List V)) : Prop :=
  [start] ∈ done ++ pending ∧
    ∀ v p, p ∈ done → Walk g.Edge start v p → ∀ w, g.Edge v w → p ++ [w] ∈ done ++ pending

omit [DecidableEq V] in
lemma walk_end_unique {v v' : V} {p : List V} (h : Walk g.Edge start v p) (h' : Walk g.Edge start v' p) :
    v = v' := by
  induction h with
  | single =>
    cases h' with
    | single => rfl
    | cons _ hq =>
      obtain ⟨q, hq⟩ := hq.head
      cases hq
  | cons _ hp ih =>
    cases h' with
    | single =>
      obtain ⟨q, hq⟩ := hp.head
      cases hq
    | cons _ hq =>
      obtain ⟨q, rfl⟩ := hp.head
      obtain ⟨q', hq'⟩ := hq.head
      obtain ⟨rfl, _⟩ := List.cons.inj hq'
      exact ih hq

lemma ReachedLogged.followed {s : Traversal V × List V} (h : ReachedLogged g start s) :
    ∃ done pending, Followed g start s done pending ∧ (Layered g start → Extended g start done pending) := by
  induction h with
  | refl => exact ⟨[], [[start]], followed_start, fun _ => ⟨by simp, by simp⟩⟩
  | @tail s t hs ht ih =>
    obtain ⟨done, pending, hf, hcomplete⟩ := ih
    obtain ⟨v, rest, hw, _⟩ := traversalStep_some g (loggedStep_some g ht).1
    obtain ⟨p, pending', rfl, hp, hf'⟩ := hf.step ht hw
    refine ⟨_, _, hf', ?_⟩
    intro hlayered
    obtain ⟨hstart, hextended⟩ := hcomplete hlayered
    have hmem : ∀ q, q ∈ done ++ p :: pending' → q ∈ (done ++ [p]) ++
        (pending' ++ extensions p ((g.successors v).filter (· ∉ insert v s.1.nodes))) := by
      intro q hq
      simp only [List.mem_append, List.mem_cons] at hq ⊢
      rcases hq with hq | rfl | hq
      · exact Or.inl (Or.inl hq)
      · exact Or.inl (Or.inr (Or.inl rfl))
      · exact Or.inr (Or.inl hq)
    refine ⟨hmem _ hstart, ?_⟩
    intro u q hq hu w he
    rcases List.mem_append.mp hq with hq | hq
    · exact hmem _ (hextended u q hq hu w he)
    · obtain rfl := List.mem_singleton.mp hq
      obtain rfl := walk_end_unique hp hu
      have hfresh := hlayered.fresh (ReachedLogged.reached hs) hw he
      refine List.mem_append_right _ (List.mem_append_right _ (List.mem_map_of_mem ?_))
      exact List.mem_filter.mpr ⟨(g.mem_successors v w).mpr he, decide_eq_true hfresh⟩

theorem one_walk_per_iteration (g : DiGraph V) (start : V) :
    ∃ walks : List (List V), walks.Nodup ∧
      List.Forall₂ (fun p v => Walk g.Edge start v p) walks (dequeued g start) ∧
      (Layered g start → ∀ v p, Walk g.Edge start v p → p ∈ walks) := by
  obtain ⟨s, hs, hq⟩ := reachedLogged_end g start
  obtain ⟨walks, pending, hf, hcomplete⟩ := hs.followed
  obtain ⟨hlogged, hqueued, hnodup, _⟩ := hf
  have hempty : waiting s = [] := by rw [waiting, hq, List.map_nil]
  rw [hempty, List.forall₂_nil_right_iff] at hqueued
  subst hqueued
  rw [List.append_nil] at hnodup
  refine ⟨walks, hnodup, hlogged, ?_⟩
  intro hlayered v p hp
  obtain ⟨hstart, hextended⟩ := hcomplete hlayered
  rw [List.append_nil] at hstart hextended
  -- the walks that have been followed are closed under one more edge
  generalize hlen : p.length = n
  induction n generalizing v p with
  | zero =>
    obtain ⟨q, rfl⟩ := hp.head
    simp at hlen
  | succ n ih =>
    rcases hp.last_step with ⟨rfl, rfl⟩ | ⟨u, q, hwalk, he, rfl⟩
    · exact hstart
    · exact hextended u q (ih u q hwalk (by simpa using hlen)) hwalk v he

lemma ReachedLogged.count {s : Traversal V × List V} (h : ReachedLogged g start s)
    (hlayered : Layered g start) (v : V) :
    (s.2 ++ waiting s.1).count v = (if v = start then 1 else 0) + s.2.countP (fun u => g.Edge u v) := by
  induction h with
  | refl => simp [waiting, atStart, List.count_singleton', eq_comm (a := v)]
  | @tail s t hs ht ih =>
    obtain ⟨hst, hlog⟩ := loggedStep_some g ht
    obtain ⟨u, rest, hw, _, hwt⟩ := traversalStep_some g hst
    have hall : (g.successors u).filter (· ∉ insert u s.1.nodes) = g.successors u := by
      apply List.filter_eq_self.mpr
      intro w hsucc
      exact decide_eq_true (hlayered.fresh (ReachedLogged.reached hs) hw ((g.mem_successors u w).mp hsucc))
    have hsucc : (g.successors u).count v = if g.Edge u v then 1 else 0 := by
      rw [(successors_nodup u).count]
      simp
    rw [hw] at ih hlog
    rw [hlog, hwt, hall, List.countP_append]
    simp only [List.head?_cons, Option.toList_some, List.append_assoc, List.count_append, List.count_cons,
      List.count_nil, List.countP_singleton, hsucc, decide_eq_true_eq] at ih ⊢
    omega

lemma count_dequeued (hlayered : Layered g start) (v : V) :
    (dequeued g start).count v =
      (if v = start then 1 else 0) + (dequeued g start).countP (fun u => g.Edge u v) := by
  obtain ⟨s, hs, hq⟩ := reachedLogged_end g start
  have h := hs.count hlayered v
  dsimp only at h
  rwa [waiting, hq, List.map_nil, List.append_nil] at h

def diamonds (k : ℕ) : DiGraph ℕ where
  nodes := List.range (3 * k + 1)
  attr _ := {}
  edges := (List.range k).flatMap
    (fun i => [(3 * i, 3 * i + 1), (3 * i, 3 * i + 2), (3 * i + 1, 3 * i + 3), (3 * i + 2, 3 * i + 3)])
  nodes_nodup := List.nodup_range
  edges_nodup := by
    refine List.nodup_flatMap.mpr ⟨fun i _ => by simp, ?_⟩
    refine List.nodup_range.imp ?_
    intro i j hij e hi hj
    simp only [List.mem_cons, List.not_mem_nil, or_false] at hi hj
    rcases hi with rfl | rfl | rfl | rfl <;> simp only [Prod.mk.injEq] at hj <;> omega
  edges_mem := by
    intro e he
    simp only [List.mem_flatMap, List.mem_range, List.mem_cons, List.not_mem_nil, or_false] at he ⊢
    obtain ⟨i, hi, rfl | rfl | rfl | rfl⟩ := he <;> dsimp only <;> omega

section Diamonds

variable {k i : ℕ}

lemma diamonds_edge (u v : ℕ) : (diamonds k).Edge u v ↔ ∃ i < k, (u = 3 * i ∧ v = 3 * i + 1) ∨
    (u = 3 * i ∧ v = 3 * i + 2) ∨ (u = 3 * i + 1 ∧ v = 3 * i + 3) ∨ (u = 3 * i + 2 ∧ v = 3 * i + 3) := by
  simp [DiGraph.Edge, diamonds]

lemma diamonds_layered (k : ℕ) : Layered (diamonds k) 0 := by
  let level (v : ℕ) : ℕ := v / 3 * 2 + (v % 3 + 1) / 2
  have hlevel : ∀ v j, Steps (diamonds k) 0 j v → level v = j := by
    intro v j h
    induction j generalizing v with
    | zero =>
      rw [steps_zero_iff.mp h]
    | succ j ih =>
      obtain ⟨u, hu, he⟩ := h.last
      have hj := ih u hu
      obtain ⟨i, _, he⟩ := (diamonds_edge u v).mp he
      dsimp only [level] at hj ⊢
      omega
  intro v j j' h h'
  rw [← hlevel v j h, hlevel v j' h']

lemma side_count (hi : i < k) (side : ℕ) (hside : side = 3 * i + 1 ∨ side = 3 * i + 2) :
    (dequeued (diamonds k) 0).count side = (dequeued (diamonds k) 0).count (3 * i) := by
  rw [count_dequeued (diamonds_layered k), if_neg (by omega), Nat.zero_add, List.count]
  apply List.countP_congr
  intro u _
  rw [decide_eq_true_eq, diamonds_edge, beq_iff_eq]
  refine ⟨?_, ?_⟩
  · rintro ⟨j, _, he⟩
    omega
  · rintro rfl
    exact ⟨i, hi, by omega⟩

lemma bottom_count (hi : i < k) :
    (dequeued (diamonds k) 0).count (3 * (i + 1)) = 2 * (dequeued (diamonds k) 0).count (3 * i) := by
  have hsides : ∀ u, (diamonds k).Edge u (3 * (i + 1)) ↔ u = 3 * i + 1 ∨ u = 3 * i + 2 := by
    intro u
    rw [diamonds_edge]
    refine ⟨?_, fun hu => ⟨i, hi, by omega⟩⟩
    rintro ⟨j, _, he⟩
    omega
  rw [count_dequeued (diamonds_layered k), if_neg (by omega), Nat.zero_add]
  have hsplit : ∀ us : List ℕ, us.countP (fun u => (diamonds k).Edge u (3 * (i + 1))) =
      us.count (3 * i + 1) + us.count (3 * i + 2) := by
    intro us
    induction us with
    | nil => rfl
    | cons u us ih =>
      rw [List.countP_cons, List.count_cons, List.count_cons, ih]
      simp only [hsides, decide_eq_true_eq, beq_iff_eq]
      split_ifs <;> omega
  rw [hsplit, side_count hi _ (Or.inl rfl), side_count hi _ (Or.inr rfl)]
  omega

lemma top_count (h : i ≤ k) : (dequeued (diamonds k) 0).count (3 * i) = 2 ^ i := by
  induction i with
  | zero =>
    rw [count_dequeued (diamonds_layered k), if_pos rfl, List.countP_eq_zero.mpr]
    · rfl
    · intro u _
      rw [decide_eq_true_eq, diamonds_edge]
      rintro ⟨j, _, he⟩
      omega
  | succ i ih => rw [bottom_count (by omega), ih (by omega), pow_succ, mul_comm]

end Diamonds

theorem iterations_exponential (k : ℕ) :
    (diamonds k).nodes.length = 3 * k + 1 ∧ (dequeued (diamonds k) 0).count (3 * k) = 2 ^ k ∧
      2 ^ k ≤ (dequeued (diamonds k) 0).length := by
  have hcount : (dequeued (diamonds k) 0).count (3 * k) = 2 ^ k := top_count le_rfl
  exact ⟨List.length_range, hcount, hcount ▸ List.count_le_length⟩

end TaskStubs.Analysis
