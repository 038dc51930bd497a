import TaskStubs.Library.Walks

/-! Schedules of tasks under precedences, and what a longer task does to the weights of walks. -/

namespace TaskStubs.Library.Scheduling

open Function Relation Walks

variable {V R : Type*} [AddCommGroup R] [LinearOrder R] {E : V → V → Prop} {d : V → R} {S : Set V}

structure Schedule (E : V → V → Prop) (d : V → R) (S : Set V) where
  start : V → R
  start_nonneg : ∀ v ∈ S, 0 ≤ start v
  precedes : ∀ u v, E u v → start u + d u ≤ start v

namespace Schedule

variable (s : Schedule E d S)

def finish (v : V) : R := s.start v + d v

def Meets (deadline : V → R) : Prop := ∀ t ∈ S, (∀ w, ¬ E t w) → s.finish t ≤ deadline t

variable [IsOrderedAddMonoid R]

def relax {E' : V → V → Prop} {d' : V → R} {S' : Set V} (s : Schedule E' d' S') (hS : ∀ v ∈ S, v ∈ S')
    (hE : ∀ u v, E u v → E' u v) (hd : ∀ u v, E u v → d u ≤ d' u) : Schedule E d S where
  start := s.start
  start_nonneg v hv := s.start_nonneg v (hS v hv)
  precedes := by
    intro u v he
    calc s.start u + d u ≤ s.start u + d' u := by gcongr; exact hd u v he
      _ ≤ s.start v := s.precedes u v (hE u v he)

lemma walk_le {u v : V} {p : List V} (h : Walk E u v p) : s.start u + weight d p ≤ s.finish v := by
  induction h with
  | single v => simp [finish]
  | @cons u v w p he _ ih =>
    have hstep := s.precedes u v he
    calc s.start u + weight d (u :: p) = s.start u + d u + weight d p := by simp [add_assoc]
      _ ≤ s.start v + weight d p := by gcongr
      _ ≤ s.finish w := ih

lemma tight_iff {u v : V} {p : List V} (h : Walk E u v p) :
    s.start u + weight d p = s.finish v ↔ p.IsChain (fun x y => s.finish x = s.start y) := by
  induction h with
  | single v => simp [finish]
  | @cons u v w p he hp ih =>
    obtain ⟨q, rfl⟩ := hp.head
    have hstep : s.finish u ≤ s.start v := s.precedes u v he
    have hrest := s.walk_le hp
    have hsum : s.start u + weight d (u :: v :: q) = s.finish u + weight d (v :: q) := by
      rw [weight_cons, finish, add_assoc]
    rw [List.isChain_cons_cons, ← ih, hsum]
    refine ⟨?_, ?_⟩
    · intro heq
      have hle : s.start v ≤ s.finish u := le_of_add_le_add_right (hrest.trans heq.ge)
      obtain hu := le_antisymm hstep hle
      exact ⟨hu, by rw [← hu, heq]⟩
    · rintro ⟨hu, heq⟩
      rw [hu, heq]

lemma earliest_le {v : V} {x : R} (hv : ∀ u, ReflTransGen E u v → u ∈ S)
    (h : IsGreatest (weightsTo E d v) (x + d v)) : x ≤ s.start v := by
  obtain ⟨u, p, hp, hw⟩ := h.1
  have hle := s.walk_le hp
  rw [hw, finish, ← add_assoc] at hle
  have hu := s.start_nonneg u (hv u hp.reaches)
  calc x ≤ s.start u + x := le_add_of_nonneg_left hu
    _ ≤ s.start v := le_of_add_le_add_right hle

lemma le_latest {v : V} {y : R} {deadline : V → R} (hs : s.Meets deadline)
    (hv : ∀ t, ReflTransGen E v t → t ∈ S) (h : IsLeast (slacksFrom E d deadline v) y) : s.start v ≤ y := by
  obtain ⟨t, p, hp, ht, rfl⟩ := h.1
  apply le_sub_iff_add_le.mpr
  exact (s.walk_le hp).trans (hs t (hv t hp.reaches) ht)

def earliest (est : V → R) (hE : ∀ u v, E u v → u ∈ S ∧ v ∈ S)
    (h : ∀ v ∈ S, IsGreatest (weightsTo E d v) (est v + d v)) : Schedule E d S where
  start := est
  start_nonneg := by
    intro v hv
    have hle := (h v hv).2 ⟨v, [v], .single v, weight_singleton d v⟩
    exact nonneg_of_le_add_left hle
  precedes := by
    intro u v he
    obtain ⟨hu, hv⟩ := hE u v he
    obtain ⟨w, p, hp, hw⟩ := (h u hu).1
    have hle := (h v hv).2 ⟨w, p ++ [v], hp.snoc he, rfl⟩
    rw [weight_append, weight_singleton, hw] at hle
    exact le_of_add_le_add_right hle

def latest (deadline lst : V → R) (hE : ∀ u v, E u v → u ∈ S ∧ v ∈ S)
    (h : ∀ v ∈ S, IsLeast (slacksFrom E d deadline v) (lst v)) (h₀ : ∀ v ∈ S, 0 ≤ lst v) :
    Schedule E d S where
  start := lst
  start_nonneg := h₀
  precedes := by
    intro u v he
    obtain ⟨hu, hv⟩ := hE u v he
    obtain ⟨t, p, hp, ht, hw⟩ := (h v hv).1
    have hle := (h u hu).2 ⟨t, u :: p, .cons he hp, ht, rfl⟩
    rw [weight_cons, sub_add_eq_sub_sub_swap, hw] at hle
    exact le_sub_iff_add_le.mp hle

lemma latest_meets (deadline lst : V → R) (hE : ∀ u v, E u v → u ∈ S ∧ v ∈ S)
    (h : ∀ v ∈ S, IsLeast (slacksFrom E d deadline v) (lst v)) (h₀ : ∀ v ∈ S, 0 ≤ lst v) :
    (latest deadline lst hE h h₀).Meets deadline := by
  intro t ht hsink
  have hle := (h t ht).2 ⟨t, [t], .single t, hsink, rfl⟩
  rw [weight_singleton] at hle
  exact le_sub_iff_add_le.mp hle

end Schedule

variable [DecidableEq V]

omit [LinearOrder R] in
lemma weight_update_of_notMem (n : V) (x : R) {p : List V} (hn : n ∉ p) :
    weight (update d n x) p = weight d p := by
  induction p with
  | nil => rfl
  | cons v p ih =>
    obtain ⟨hv, hp⟩ := not_or.mp (fun h => hn (List.mem_cons.mpr h))
    simp [ih hp, Ne.symm hv]

omit [LinearOrder R] in
lemma weight_update_of_mem (n : V) (δ : R) {p : List V} (hp : p.Nodup) (hn : n ∈ p) :
    weight (update d n (d n + δ)) p = weight d p + δ := by
  induction p with
  | nil => simp at hn
  | cons v p ih =>
    obtain ⟨hv, hp⟩ := List.nodup_cons.mp hp
    by_cases he : v = n
    · subst he
      rw [weight_cons, weight_cons, weight_update_of_notMem v _ hv, update_self]
      abel
    · have hm : n ∈ p := (List.mem_cons.mp hn).resolve_left (fun h => he h.symm)
      rw [weight_cons, weight_cons, ih hp hm, update_of_ne he]
      abel

lemma weight_le_update [IsOrderedAddMonoid R] (n : V) {δ : R} (hδ : 0 ≤ δ) {p : List V} (hp : p.Nodup) :
    weight d p ≤ weight (update d n (d n + δ)) p ∧ weight (update d n (d n + δ)) p ≤ weight d p + δ := by
  by_cases hn : n ∈ p
  · rw [weight_update_of_mem n δ hp hn]
    exact ⟨le_add_of_nonneg_right hδ, le_rfl⟩
  · rw [weight_update_of_notMem n _ hn]
    exact ⟨le_rfl, le_add_of_nonneg_right hδ⟩

end TaskStubs.Library.Scheduling
