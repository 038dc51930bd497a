import Mathlib.Algebra.BigOperators.Group.List.Basic
import Mathlib.Algebra.Order.Group.Defs
import Mathlib.Data.Fintype.List
import Mathlib.Data.Set.Finite.Basic
import Mathlib.Logic.Relation
import Mathlib.Order.Bounds.Basic
import Mathlib.Tactic

/-! Walks of a directed relation and the extremal weights over them. -/

namespace TaskStubs.Library.Walks

open Relation

variable {V : Type*} {E : V → V → Prop}

inductive Walk (E : V → V → Prop) : V → V → List V → Prop
  | single (v : V) : Walk E v v [v]
  | cons {u v w : V} {p : List V} : E u v → Walk E v w p → Walk E u w (u :: p)

namespace Walk

lemma head {u v : V} {p : List V} (h : Walk E u v p) : ∃ q, p = u :: q := by
  cases h with
  | single => exact ⟨[], rfl⟩
  | cons _ _ => exact ⟨_, rfl⟩

lemma first_mem {u v : V} {p : List V} (h : Walk E u v p) : u ∈ p := by
  obtain ⟨q, rfl⟩ := h.head
  exact List.mem_cons_self

lemma last_mem {u v : V} {p : List V} (h : Walk E u v p) : v ∈ p := by
  induction h with
  | single => exact List.mem_singleton_self _
  | cons _ _ ih => exact List.mem_cons_of_mem _ ih

lemma snoc {u v w : V} {p : List V} (h : Walk E u v p) (he : E v w) : Walk E u w (p ++ [w]) := by
  induction h with
  | single => exact .cons he (.single w)
  | cons hs _ ih => exact .cons hs (ih he)

lemma append {u v w : V} {p q : List V} (hp : Walk E u v p) (hq : Walk E v w q) :
    Walk E u w (p ++ q.tail) := by
  induction hp with
  | single v =>
    obtain ⟨r, rfl⟩ := hq.head
    exact hq
  | cons hs _ ih => exact .cons hs (ih hq)

lemma split {u w n : V} {p : List V} (h : Walk E u w p) (hn : n ∈ p) :
    ∃ q r, Walk E u n q ∧ Walk E n w r ∧ p = q ++ r.tail := by
  induction h with
  | single v =>
    obtain rfl := List.mem_singleton.mp hn
    exact ⟨[n], [n], .single n, .single n, rfl⟩
  | @cons u v w p hs hp ih =>
    by_cases he : n = u
    · subst he
      exact ⟨[n], n :: p, .single n, .cons hs hp, rfl⟩
    · obtain ⟨q, r, hq, hr, rfl⟩ := ih ((List.mem_cons.mp hn).resolve_left he)
      exact ⟨u :: q, r, .cons hs hq, hr, rfl⟩

lemma last_step {u v : V} {p : List V} (h : Walk E u v p) :
    (u = v ∧ p = [v]) ∨ ∃ x q, Walk E u x q ∧ E x v ∧ p = q ++ [v] := by
  induction h with
  | single => exact Or.inl ⟨rfl, rfl⟩
  | @cons u v w p hs hp ih =>
    rcases ih with ⟨rfl, rfl⟩ | ⟨x, q, hq, hx, rfl⟩
    · exact Or.inr ⟨u, [u], .single u, hs, rfl⟩
    · exact Or.inr ⟨x, u :: q, .cons hs hq, hx, rfl⟩

lemma reaches {u v : V} {p : List V} (h : Walk E u v p) : ReflTransGen E u v := by
  induction h with
  | single => exact .refl
  | cons hs _ ih => exact .head hs ih

lemma reaches_mem {u v x : V} {p : List V} (h : Walk E u v p) (hx : x ∈ p) : ReflTransGen E u x := by
  obtain ⟨q, _, hq, _⟩ := h.split hx
  exact hq.reaches

lemma mono {E' : V → V → Prop} {u v : V} {p : List V} (h : Walk E u v p)
    (hE : ∀ x y, ReflTransGen E u x → E x y → E' x y) : Walk E' u v p := by
  induction h with
  | single v => exact .single v
  | @cons u v w p hs _ ih =>
    exact .cons (hE u v .refl hs) (ih (fun x y hx => hE x y (.head hs hx)))

end Walk

lemma exists_walk {u v : V} (h : ReflTransGen E u v) : ∃ p, Walk E u v p := by
  induction h with
  | refl => exact ⟨[u], .single u⟩
  | tail _ hs ih =>
    obtain ⟨p, hp⟩ := ih
    exact ⟨_, hp.snoc hs⟩

lemma reaches_congr {E' : V → V → Prop} {a b : V}
    (h : ∀ u v, ReflTransGen E a u → (E u v ↔ E' u v)) : ReflTransGen E a b ↔ ReflTransGen E' a b := by
  refine ⟨?_, ?_⟩
  · intro hr
    induction hr with
    | refl => exact .refl
    | tail hu he ih => exact ih.tail ((h _ _ hu).mp he)
  · intro hr
    induction hr with
    | refl => exact .refl
    | tail _ he ih => exact ih.tail ((h _ _ ih).mpr he)

def Acyclic (E : V → V → Prop) : Prop := ∀ v, ¬ TransGen E v v

lemma acyclic_of_rank (rank : V → ℕ) (h : ∀ u v, E u v → rank u < rank v) : Acyclic E := by
  have hlt : ∀ u v, TransGen E u v → rank u < rank v := by
    intro u v ht
    induction ht with
    | single he => exact h _ _ he
    | tail _ he ih => exact ih.trans (h _ _ he)
  exact fun v hv => (hlt v v hv).false

lemma Walk.nodup {u v : V} {p : List V}
    (hp : Walk E u v p) (h : ∀ x, ReflTransGen E u x → ¬ TransGen E x x) : p.Nodup := by
  induction hp with
  | single => exact List.nodup_singleton _
  | @cons u v w p hs hp ih =>
    refine List.nodup_cons.mpr ⟨?_, ih (fun x hx => h x (.head hs hx))⟩
    intro hu
    exact h u .refl (TransGen.head' hs (hp.reaches_mem hu))

lemma nodup_lists_finite (S : Finset V) : {p : List V | p.Nodup ∧ ∀ x ∈ p, x ∈ S}.Finite := by
  classical
  have hf : (Set.range (fun l : {l : List S // l.Nodup} => l.val.map Subtype.val)).Finite :=
    Set.finite_range _
  apply hf.subset
  rintro p ⟨hp, hS⟩
  refine ⟨⟨p.attachWith (· ∈ S) hS, ?_⟩, by simp⟩
  exact List.Nodup.of_map Subtype.val (by simpa using hp)

lemma walks_finite (S : Finset V) (u : V) (hS : ∀ x, ReflTransGen E u x → x ∈ S)
    (h : ∀ x, ReflTransGen E u x → ¬ TransGen E x x) : {p : List V | ∃ v, Walk E u v p}.Finite := by
  apply (nodup_lists_finite S).subset
  rintro p ⟨v, hp⟩
  exact ⟨hp.nodup h, fun x hx => hS x (hp.reaches_mem hx)⟩

variable {R : Type*} [AddCommGroup R] (d : V → R)

def weight (p : List V) : R := (p.map d).sum

@[simp] lemma weight_nil : weight d ([] : List V) = 0 := rfl

@[simp] lemma weight_cons (v : V) (p : List V) : weight d (v :: p) = d v + weight d p := by
  simp [weight]

@[simp] lemma weight_singleton (v : V) : weight d [v] = d v := by
  simp [weight]

@[simp] lemma weight_append (p q : List V) : weight d (p ++ q) = weight d p + weight d q := by
  simp [weight]

lemma Walk.weight_tail {u v : V} {p : List V} (h : Walk E u v p) :
    weight d p.tail = weight d p - d u := by
  obtain ⟨q, rfl⟩ := h.head
  simp

def weightsTo (E : V → V → Prop) (d : V → R) (v : V) : Set R :=
  {x | ∃ u p, Walk E u v p ∧ weight d p = x}

def weightsFrom (E : V → V → Prop) (d : V → R) (u : V) : Set R :=
  {x | ∃ v p, Walk E u v p ∧ weight d p = x}

def weightsBetween (E : V → V → Prop) (d : V → R) (u v : V) : Set R :=
  {x | ∃ p, Walk E u v p ∧ weight d p = x}

def slacksFrom (E : V → V → Prop) (d c : V → R) (v : V) : Set R :=
  {x | ∃ t p, Walk E v t p ∧ (∀ w, ¬ E t w) ∧ c t - weight d p = x}

lemma slacksFrom_congr {c c' : V → R} {v : V} (h : ∀ t, ReflTransGen E v t → c t = c' t) :
    slacksFrom E d c v = slacksFrom E d c' v := by
  ext x
  refine ⟨?_, ?_⟩
  · rintro ⟨t, p, hp, ht, rfl⟩
    exact ⟨t, p, hp, ht, by rw [h t hp.reaches]⟩
  · rintro ⟨t, p, hp, ht, rfl⟩
    exact ⟨t, p, hp, ht, by rw [h t hp.reaches]⟩

variable [LinearOrder R]

lemma exists_heaviest (S : Finset V) (u v : V) (hS : ∀ x, ReflTransGen E u x → x ∈ S)
    (h : ∀ x, ReflTransGen E u x → ¬ TransGen E x x) (hr : ReflTransGen E u v) :
    ∃ x, IsGreatest (weightsBetween E d u v) x := by
  have hf : (weightsBetween E d u v).Finite := by
    apply ((walks_finite S u hS h).image (weight d)).subset
    rintro x ⟨p, hp, rfl⟩
    exact ⟨p, ⟨v, hp⟩, rfl⟩
  obtain ⟨p, hp⟩ := exists_walk hr
  obtain ⟨x, hx, hm⟩ := hf.exists_maximal ⟨_, p, hp, rfl⟩
  exact ⟨x, hx, fun y hy => le_of_not_gt (fun hlt => (hlt.not_ge (hm hy hlt.le)))⟩

omit [AddCommGroup R] in
lemma le_foldl_max (xs : List R) (b : R) : b ≤ xs.foldl max b := by
  induction xs generalizing b with
  | nil => exact le_rfl
  | cons x xs ih => exact (le_max_left b x).trans (ih (max b x))

omit [AddCommGroup R] in
lemma mem_le_foldl_max (xs : List R) (b x : R) (hx : x ∈ xs) : x ≤ xs.foldl max b := by
  induction xs generalizing b with
  | nil => simp at hx
  | cons y xs ih =>
    rcases List.mem_cons.mp hx with rfl | hx
    · exact (le_max_right b x).trans (le_foldl_max xs _)
    · exact ih (max b y) hx

omit [AddCommGroup R] in
lemma foldl_max_mem (xs : List R) (b : R) : xs.foldl max b = b ∨ xs.foldl max b ∈ xs := by
  induction xs generalizing b with
  | nil => exact Or.inl rfl
  | cons x xs ih =>
    rcases ih (max b x) with h | h
    · rw [List.foldl_cons, h]
      rcases max_choice b x with hm | hm
      · exact Or.inl hm
      · exact Or.inr (by rw [hm]; exact List.mem_cons_self)
    · exact Or.inr (List.mem_cons_of_mem _ h)

omit [AddCommGroup R] in
lemma foldl_max_congr {xs ys : List R} (b : R) (h : ∀ x, x ∈ xs ↔ x ∈ ys) :
    xs.foldl max b = ys.foldl max b := by
  have hle : ∀ xs ys : List R, (∀ x, x ∈ xs → x ∈ ys) → xs.foldl max b ≤ ys.foldl max b := by
    intro xs ys hsub
    rcases foldl_max_mem xs b with h | h
    · rw [h]
      exact le_foldl_max ys b
    · exact mem_le_foldl_max ys b _ (hsub _ h)
  exact le_antisymm (hle xs ys (fun x => (h x).mp)) (hle ys xs (fun x => (h x).mpr))

omit [AddCommGroup R] in
lemma foldl_min_top (xs : List R) (hn : xs ≠ []) :
    ∃ x : R, xs.foldl (fun (m : WithTop R) (y : R) => min m (y : WithTop R)) ⊤ = (x : WithTop R) ∧
      IsLeast {y | y ∈ xs} x := by
  have hgen : ∀ (ys : List R) (b : R), ∃ x : R,
      ys.foldl (fun (m : WithTop R) (y : R) => min m (y : WithTop R)) (b : WithTop R) = (x : WithTop R) ∧
        IsLeast {y | y ∈ b :: ys} x := by
    intro ys
    induction ys with
    | nil => exact fun b => ⟨b, rfl, by simp [IsLeast, lowerBounds]⟩
    | cons y ys ih =>
      intro b
      obtain ⟨x, hx, hm, hl⟩ := ih (min b y)
      refine ⟨x, by simpa only [List.foldl_cons, WithTop.coe_min] using hx, ?_, ?_⟩
      · rcases List.mem_cons.mp hm with hm | hm
        · rcases min_choice b y with hc | hc <;> simp [hm, hc]
        · exact List.mem_cons_of_mem _ (List.mem_cons_of_mem _ hm)
      · intro z hz
        have hb : x ≤ min b y := hl List.mem_cons_self
        rcases List.mem_cons.mp hz with rfl | hz
        · exact hb.trans (min_le_left _ _)
        · rcases List.mem_cons.mp hz with rfl | hz
          · exact hb.trans (min_le_right _ _)
          · exact hl (List.mem_cons_of_mem _ hz)
  cases xs with
  | nil => exact (hn rfl).elim
  | cons x xs => simpa using hgen xs x

variable [IsOrderedAddMonoid R] {d}

lemma weight_nonneg {p : List V} (hd : ∀ v ∈ p, 0 ≤ d v) : 0 ≤ weight d p := by
  apply List.sum_nonneg
  intro x hx
  obtain ⟨v, hv, rfl⟩ := List.mem_map.mp hx
  exact hd v hv

lemma greatest_to (v : V) (preds : List V) (hpreds : ∀ u, u ∈ preds ↔ E u v)
    (e : V → R) (he : ∀ u ∈ preds, IsGreatest (weightsTo E d u) (e u)) :
    IsGreatest (weightsTo E d v) ((preds.map e).foldl max 0 + d v) := by
  refine ⟨?_, ?_⟩
  · rcases foldl_max_mem (preds.map e) 0 with h | h
    · rw [h]
      exact ⟨v, [v], .single v, by simp⟩
    · obtain ⟨u, hu, hue⟩ := List.mem_map.mp h
      obtain ⟨s, p, hp, hw⟩ := (he u hu).1
      exact ⟨s, p ++ [v], hp.snoc ((hpreds u).mp hu), by simp [hw, hue]⟩
  · rintro x ⟨s, p, hp, rfl⟩
    rcases hp.last_step with ⟨_, rfl⟩ | ⟨u, q, hq, huv, rfl⟩
    · simpa using le_foldl_max (preds.map e) 0
    · have hu := (hpreds u).mpr huv
      have hle := (he u hu).2 ⟨s, q, hq, rfl⟩
      have hmax := mem_le_foldl_max (preds.map e) 0 (e u) (List.mem_map_of_mem hu)
      simpa using hle.trans hmax

omit [IsOrderedAddMonoid R] in
lemma least_from_sink (c : V → R) (v : V) (hv : ∀ w, ¬ E v w) :
    IsLeast (slacksFrom E d c v) (c v - d v) := by
  refine ⟨?_, ?_⟩
  · exact ⟨v, [v], .single v, hv, by simp⟩
  · rintro x ⟨t, p, hp, _, rfl⟩
    cases hp with
    | single => simp
    | cons hs _ => exact (hv _ hs).elim

lemma least_from (c : V → R) (v : V) (succs : List V) (hsuccs : ∀ w, w ∈ succs ↔ E v w)
    (l : V → R) (hl : ∀ w ∈ succs, IsLeast (slacksFrom E d c w) (l w)) (m : R)
    (hm : IsLeast {y | y ∈ succs.map l} m) : IsLeast (slacksFrom E d c v) (m - d v) := by
  refine ⟨?_, ?_⟩
  · obtain ⟨w, hw, rfl⟩ := List.mem_map.mp hm.1
    obtain ⟨t, p, hp, ht, hx⟩ := (hl w hw).1
    exact ⟨t, v :: p, .cons ((hsuccs w).mp hw) hp, ht, by rw [← hx, weight_cons]; abel⟩
  · rintro x ⟨t, p, hp, ht, rfl⟩
    cases hp with
    | single =>
      obtain ⟨w, hw, _⟩ := List.mem_map.mp hm.1
      exact (ht w ((hsuccs w).mp hw)).elim
    | @cons _ w _ p hs hp =>
      have hw := (hsuccs w).mpr hs
      have hle := (hm.2 (List.mem_map_of_mem hw)).trans ((hl w hw).2 ⟨t, p, hp, ht, rfl⟩)
      rw [weight_cons, sub_add_eq_sub_sub_swap]
      exact sub_le_sub_right hle _

end TaskStubs.Library.Walks
