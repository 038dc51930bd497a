import TaskStubs.Analysis.Expansion

/-! The levels in the queue of `get_subgraph_from_node`: a node is met first at its distance from the
start node, and never more than one level later. -/

namespace TaskStubs.Analysis

open Relation Library.Walks Library.Loops

variable {V : Type} {g : DiGraph V} {start : V}

def Steps (g : DiGraph V) (start : V) (k : ℕ) (v : V) : Prop :=
  ∃ p, Walk g.Edge start v p ∧ p.length = k + 1

lemma steps_zero (g : DiGraph V) (start : V) : Steps g start 0 start := ⟨[start], .single start, rfl⟩

lemma Steps.step {k : ℕ} {u v : V} (h : Steps g start k u) (he : g.Edge u v) :
    Steps g start (k + 1) v := by
  obtain ⟨p, hp, hk⟩ := h
  exact ⟨p ++ [v], hp.snoc he, by simp [hk]⟩

lemma steps_zero_iff {v : V} : Steps g start 0 v ↔ v = start := by
  refine ⟨?_, ?_⟩
  · rintro ⟨p, hp, hk⟩
    rcases hp.last_step with ⟨rfl, _⟩ | ⟨u, q, hq, _, rfl⟩
    · rfl
    · obtain ⟨r, rfl⟩ := hq.head
      simp at hk
  · rintro rfl
    exact steps_zero g v

lemma Steps.last {k : ℕ} {v : V} (h : Steps g start (k + 1) v) : ∃ u, Steps g start k u ∧ g.Edge u v := by
  obtain ⟨p, hp, hk⟩ := h
  rcases hp.last_step with ⟨_, rfl⟩ | ⟨u, q, hq, he, rfl⟩
  · simp at hk
  · exact ⟨u, ⟨q, hq, by simpa using hk⟩, he⟩

def IsDistance (g : DiGraph V) (start : V) (v : V) (k : ℕ) : Prop := IsLeast {k | Steps g start k v} k

/-- The traversal is at level `l`: the queue holds this level and then the next, every node below the
level is visited, and every node of the level is visited or waiting at it. -/
structure AtLevel (g : DiGraph V) (start : V) (l : ℕ) (s : Traversal V) : Prop where
  sorted : s.queue.Pairwise (fun e e' => e.2 ≤ e'.2)
  span : ∀ e ∈ s.queue, e.2 = l ∨ e.2 = l + 1
  walks : ∀ e ∈ s.queue, Steps g start e.2 e.1
  late : ∀ e ∈ s.queue, ∀ j, Steps g start j e.1 → e.2 ≤ j + 1
  near : ∀ v ∈ s.nodes, ∃ j ≤ l, Steps g start j v
  below : ∀ j < l, ∀ v, Steps g start j v → v ∈ s.nodes
  level : ∀ v, Steps g start l v → v ∈ s.nodes ∨ (v, l) ∈ s.queue

lemma atLevel_start : AtLevel g start 0 (atStart start) where
  sorted := List.pairwise_singleton _ _
  span e he := Or.inl (by rw [List.mem_singleton.mp he])
  walks e he := by
    obtain rfl := List.mem_singleton.mp he
    exact steps_zero g start
  late e he j _ := by
    obtain rfl := List.mem_singleton.mp he
    omega
  near v hv := by simp [atStart] at hv
  below j hj := by omega
  level v hv := by
    rw [steps_zero_iff] at hv
    simp [atStart, hv]

lemma AtLevel.advance {l : ℕ} {s : Traversal V} (h : AtLevel g start l s)
    (hedge : ∀ u ∈ s.nodes, ∀ v, g.Edge u v → v ∈ s.nodes ∨ ∃ e ∈ s.queue, e.1 = v)
    (hnext : ∀ e ∈ s.queue, e.2 = l + 1) : AtLevel g start (l + 1) s := by
  have hvisited : ∀ v, Steps g start l v → v ∈ s.nodes := by
    intro v hv
    rcases h.level v hv with hm | hq
    · exact hm
    · have hl := hnext _ hq
      simp at hl
  refine ⟨h.sorted, fun e he => Or.inl (hnext e he), h.walks, h.late, ?_, ?_, ?_⟩
  · intro v hv
    obtain ⟨j, hj, hs⟩ := h.near v hv
    exact ⟨j, by omega, hs⟩
  · intro j hj v hv
    rcases Nat.lt_succ_iff_lt_or_eq.mp hj with hj | rfl
    · exact h.below j hj v hv
    · exact hvisited v hv
  · intro v hv
    obtain ⟨u, hu, huv⟩ := hv.last
    rcases hedge u (hvisited u hu) v huv with hm | ⟨e, he, rfl⟩
    · exact Or.inl hm
    · rw [← hnext e he]
      exact Or.inr he

variable [DecidableEq V]

lemma AtLevel.step {l : ℕ} {s t : Traversal V} (h : AtLevel g start l s) {v : V} {rest : List (V × ℕ)}
    (hq : s.queue = (v, l) :: rest) (hst : traversalStep g s = some t) : AtLevel g start l t := by
  obtain ⟨nodes, queue⟩ := s
  subst hq
  obtain rfl := Option.some.inj hst
  obtain ⟨hsorted, hspan, hwalks, hlate, hnear, hbelow, hlevel⟩ := h
  simp only [List.pairwise_cons, List.forall_mem_cons] at hsorted hspan hwalks hlate
  have hnew : ∀ e ∈ ((g.successors v).filter (· ∉ insert v nodes)).map (fun w => (w, l + 1)),
      ∃ w, e = (w, l + 1) ∧ g.Edge v w ∧ w ∉ insert v nodes := by
    intro e he
    obtain ⟨w, hw, rfl⟩ := List.mem_map.mp he
    obtain ⟨hs, hn⟩ := List.mem_filter.mp hw
    exact ⟨w, rfl, (g.mem_successors v w).mp hs, of_decide_eq_true hn⟩
  refine ⟨?_, ?_, ?_, ?_, ?_, ?_, ?_⟩
  · refine List.pairwise_append.mpr ⟨hsorted.2, ?_, ?_⟩
    · apply List.pairwise_of_forall_mem_list
      intro e he e' he'
      obtain ⟨w, rfl, _⟩ := hnew e he
      obtain ⟨w', rfl, _⟩ := hnew e' he'
      exact le_rfl
    · intro e he e' he'
      obtain ⟨w', rfl, _⟩ := hnew e' he'
      have hl := hspan.2 e he
      dsimp only
      omega
  · intro e he
    rcases List.mem_append.mp he with he | he
    · exact hspan.2 e he
    · obtain ⟨w, rfl, _⟩ := hnew e he
      exact Or.inr rfl
  · intro e he
    rcases List.mem_append.mp he with he | he
    · exact hwalks.2 e he
    · obtain ⟨w, rfl, hvw, _⟩ := hnew e he
      exact hwalks.1.step hvw
  · intro e he j hj
    rcases List.mem_append.mp he with he | he
    · exact hlate.2 e he j hj
    · obtain ⟨w, rfl, _, hn⟩ := hnew e he
      -- whoever is closer than the level has been visited
      have hlj : ¬ j < l := fun hlt => hn (Finset.mem_insert_of_mem (hbelow j hlt w hj))
      dsimp only
      omega
  · intro w hw
    rcases Finset.mem_insert.mp hw with rfl | hw
    · exact ⟨l, le_rfl, hwalks.1⟩
    · exact hnear w hw
  · exact fun j hj w hw => Finset.mem_insert_of_mem (hbelow j hj w hw)
  · intro w hw
    rcases hlevel w hw with hm | hm
    · exact Or.inl (Finset.mem_insert_of_mem hm)
    · rcases List.mem_cons.mp hm with heq | hm
      · exact Or.inl (Finset.mem_insert.mpr (Or.inl (Prod.mk.inj heq).1))
      · exact Or.inr (List.mem_append_left _ hm)

omit [DecidableEq V] in
lemma AtLevel.head {l : ℕ} {s : Traversal V} (h : AtLevel g start l s) (hexp : Exploring g start s)
    {v : V} {k : ℕ} {rest : List (V × ℕ)} (hq : s.queue = (v, k) :: rest) : AtLevel g start k s := by
  have hk := h.span (v, k) (by rw [hq]; exact List.mem_cons_self)
  rcases hk with rfl | rfl
  · exact h
  · apply h.advance hexp.edge_seen
    intro e he
    have hle := h.span e he
    have hsorted := h.sorted
    rw [hq] at he hsorted
    rcases List.mem_cons.mp he with rfl | he
    · rfl
    · have hge := List.rel_of_pairwise_cons hsorted he
      dsimp only at hge
      omega

lemma Reached.atLevel {s : Traversal V} (h : Reached g start s) : ∃ l, AtLevel g start l s := by
  induction h with
  | refl => exact ⟨0, atLevel_start⟩
  | @tail s t hs ht ih =>
    obtain ⟨l, hl⟩ := ih
    cases hq : s.queue with
    | nil => simp [traversalStep, hq] at ht
    | cons entry rest =>
      obtain ⟨v, k⟩ := entry
      exact ⟨k, (hl.head (Reached.exploring hs) hq).step hq ht⟩

theorem levels_are_distances (g : DiGraph V) (start : V) (s : Traversal V) (hs : Reached g start s) :
    s.queue.Pairwise (fun e e' => e.2 ≤ e'.2) ∧
      ∀ v l rest, s.queue = (v, l) :: rest → (∀ e ∈ rest, e.2 ≤ l + 1) ∧
        (∀ w k, IsDistance g start w k → k < l → w ∈ s.nodes) ∧
        ∃ k, IsDistance g start v k ∧ k ≤ l ∧ l ≤ k + 1 ∧ (v ∉ s.nodes → l = k) := by
  obtain ⟨l₀, h₀⟩ := hs.atLevel
  refine ⟨h₀.sorted, ?_⟩
  intro v l rest hq
  have h := h₀.head hs.exploring hq
  have hhead : (v, l) ∈ s.queue := by rw [hq]; exact List.mem_cons_self
  have hsteps : ∃ k, Steps g start k v := ⟨l, h.walks _ hhead⟩
  classical
  have hleast : IsDistance g start v (Nat.find hsteps) :=
    ⟨Nat.find_spec hsteps, fun j hj => Nat.find_min' hsteps hj⟩
  have hle : Nat.find hsteps ≤ l := hleast.2 (h.walks _ hhead)
  refine ⟨?_, ?_, Nat.find hsteps, hleast, hle, h.late _ hhead _ hleast.1, ?_⟩
  · intro e he
    have hspan := h.span e (by rw [hq]; exact List.mem_cons_of_mem _ he)
    omega
  · exact fun w k hw hk => h.below k hk w hw.1
  · intro hn
    by_contra hne
    exact hn (h.below _ (by omega) v hleast.1)

theorem levels_are_distances_diamond :
    ∃ s, Reached diamond 0 s ∧ waiting s = [1, 2] ∧ s.queue.Pairwise (fun e e' => e.2 ≤ e'.2) := by
  have hs : Reached diamond 0 ⟨insert 0 ∅, [(1, 1), (2, 1)]⟩ := .single rfl
  exact ⟨_, hs, rfl, (levels_are_distances diamond 0 _ hs).1⟩

end TaskStubs.Analysis
