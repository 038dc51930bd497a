import TaskStubs.Library.Walks
import Mathlib.Data.Fintype.Card
import Mathlib.Order.WellFounded

/-! Topological orders of a finite acyclic relation, and the order obtained by
removing one generation of sources after another. -/

namespace TaskStubs.Library.TopologicalOrders

open Relation Walks

variable {V : Type*} {E : V → V → Prop}

def IsTopological (E : V → V → Prop) (order : List V) : Prop :=
  ∀ pre v post, order = pre ++ v :: post → ∀ u, E u v → u ∈ pre

lemma IsTopological.successor_mem {order pre post : List V} {v w : V} (h : IsTopological E order)
    (hn : order.Nodup) (ho : order = pre ++ v :: post) (hw : w ∈ order) (he : E v w) : w ∈ post := by
  obtain ⟨a, b, hab⟩ := List.append_of_mem hw
  have hv : v ∈ a := h a w b hab v he
  obtain ⟨x, y, rfl⟩ := List.append_of_mem hv
  have hx : order = x ++ v :: (y ++ w :: b) := by simpa using hab
  rw [hx, List.nodup_middle, List.nodup_cons, List.mem_append, not_or] at hn
  rw [hx, List.append_cons_inj_of_notMem hn.1.1 hn.1.2] at ho
  rw [← ho.2.2]
  simp

lemma IsTopological.reverse {order : List V} (h : IsTopological E order) (hn : order.Nodup)
    (hm : ∀ v w, E v w → w ∈ order) : IsTopological (flip E) order.reverse := by
  intro pre v post ho w he
  have hr : order = post.reverse ++ v :: pre.reverse := by
    rw [← List.reverse_reverse order, ho]
    simp
  exact List.mem_reverse.mp (h.successor_mem hn hr (hm v w he) he)

lemma IsTopological.acyclic {order : List V} (h : IsTopological E order)
    (hm : ∀ u v, E u v → v ∈ order) : Acyclic E := by
  classical
  apply acyclic_of_rank (order.idxOf ·)
  intro u v he
  obtain ⟨pre, post, hsplit, hv⟩ := List.eq_append_cons_of_mem (hm u v he)
  have hu := h pre v post hsplit u he
  rw [hsplit, List.idxOf_append_of_mem hu, List.idxOf_append_of_notMem hv, List.idxOf_cons_self]
  simpa using List.idxOf_lt_length_of_mem hu

def sources (E : V → V → Prop) [DecidableRel E] (rest : List V) : List V :=
  rest.filter (fun v => ∀ u ∈ rest, ¬ E u v)

def generations [DecidableEq V] (E : V → V → Prop) [DecidableRel E] : ℕ → List V → List V
  | 0, _ => []
  | n + 1, rest => sources E rest ++ generations E n (rest.filter (· ∉ sources E rest))

lemma sources_map {W : Type*} {F : W → W → Prop} [DecidableRel E] [DecidableRel F] {f : V → W}
    (h : ∀ u v, F (f u) (f v) ↔ E u v) (rest : List V) : sources F (rest.map f) = (sources E rest).map f := by
  simp only [sources, List.filter_map, Function.comp_def, List.forall_mem_map, h]

lemma generations_map {W : Type*} {F : W → W → Prop} [DecidableEq V] [DecidableEq W] [DecidableRel E] [DecidableRel F]
    {f : V → W} (hf : Function.Injective f) (h : ∀ u v, F (f u) (f v) ↔ E u v) (n : ℕ) (rest : List V) :
    generations F n (rest.map f) = (generations E n rest).map f := by
  induction n generalizing rest with
  | zero => rfl
  | succ n ih =>
    have hrest : (rest.map f).filter (· ∉ sources F (rest.map f)) = (rest.filter (· ∉ sources E rest)).map f := by
      simp only [sources_map h, List.filter_map, Function.comp_def, List.mem_map_of_injective hf]
    rw [generations, generations, hrest, ih, sources_map h, List.map_append]

lemma generations_subset [DecidableEq V] [DecidableRel E] (n : ℕ) (rest : List V) :
    ∀ v ∈ generations E n rest, v ∈ rest := by
  induction n generalizing rest with
  | zero => simp [generations]
  | succ n ih =>
    intro v hv
    rcases List.mem_append.mp hv with hv | hv
    · exact List.mem_of_mem_filter hv
    · exact List.mem_of_mem_filter (ih _ v hv)

lemma generations_nodup [DecidableEq V] [DecidableRel E] (n : ℕ) (rest : List V) (h : rest.Nodup) :
    (generations E n rest).Nodup := by
  induction n generalizing rest with
  | zero => exact List.nodup_nil
  | succ n ih =>
    refine List.nodup_append.mpr ⟨h.filter _, ih _ (h.filter _), ?_⟩
    rintro v hv w hw rfl
    simpa [hv] using (List.mem_filter.mp (generations_subset n _ v hw)).2

lemma exists_source (h : Acyclic E) (rest : List V) (hn : rest ≠ []) :
    ∃ v ∈ rest, ∀ u ∈ rest, ¬ E u v := by
  let below (a b : {v // v ∈ rest}) : Prop := TransGen E a.val b.val
  have hfin : Finite {v // v ∈ rest} := List.finite_toSet rest
  have hirr : Std.Irrefl below := ⟨fun a => h a.val⟩
  have htrans : IsTrans _ below := ⟨fun _ _ _ => TransGen.trans⟩
  have hwf : WellFounded below := Finite.wellFounded_of_trans_of_irrefl below
  obtain ⟨x, hx⟩ := List.exists_mem_of_ne_nil rest hn
  obtain ⟨v, _, hv⟩ := hwf.has_min Set.univ ⟨⟨x, hx⟩, trivial⟩
  exact ⟨v.val, v.property, fun u hu he => hv ⟨u, hu⟩ trivial (.single he)⟩

variable [DecidableEq V] [DecidableRel E]

lemma generations_perm (h : Acyclic E) (n : ℕ) (rest : List V) (hn : rest.length ≤ n) :
    (generations E n rest).Perm rest := by
  induction n generalizing rest with
  | zero => simp [List.length_eq_zero_iff.mp (Nat.le_zero.mp hn), generations]
  | succ n ih =>
    by_cases hr : rest = []
    · subst hr
      have hn' := ih [] (Nat.zero_le n)
      simpa [generations, sources] using hn'
    · obtain ⟨v, hv, hs⟩ := exists_source h rest hr
      have hvs : v ∈ sources E rest := by simpa [sources, hv] using hs
      have hlt : (rest.filter (· ∉ sources E rest)).length < rest.length :=
        List.length_filter_lt_length_iff_exists.mpr ⟨v, hv, by simpa using hvs⟩
      have hrec := ih (rest.filter (· ∉ sources E rest)) (by omega)
      have hsrc : sources E rest = rest.filter (· ∈ sources E rest) := by
        apply List.filter_congr
        intro u hu
        simp [sources, hu]
      apply (List.Perm.append_left _ hrec).trans
      conv_lhs => rw [hsrc]
      have hp := List.filter_append_perm (fun u => decide (u ∈ sources E rest)) rest
      simpa [hsrc.symm] using hp

lemma generations_topological (n : ℕ) (rest pre post : List V) (v : V)
    (ho : generations E n rest = pre ++ v :: post) (u : V) (hu : u ∈ rest) (he : E u v) : u ∈ pre := by
  induction n generalizing rest pre with
  | zero => simp [generations] at ho
  | succ n ih =>
    simp only [generations] at ho
    rcases List.append_eq_append_iff.mp ho with ⟨a, rfl, hr⟩ | ⟨a, hs, hr⟩
    · by_cases hsu : u ∈ sources E rest
      · exact List.mem_append_left _ hsu
      · exact List.mem_append_right _ (ih _ a hr (by simpa [hu] using hsu))
    · cases a with
      | nil =>
        by_cases hsu : u ∈ sources E rest
        · simpa [hs] using hsu
        · have := ih _ [] hr.symm (by simpa [hu] using hsu)
          simp at this
      | cons x a =>
        obtain ⟨rfl, _⟩ := List.cons.inj hr
        have hv : v ∈ sources E rest := by rw [hs]; simp
        have hno : ∀ u ∈ rest, ¬ E u v := by simpa [sources] using (List.mem_filter.mp hv).2
        exact (hno u hu he).elim

end TaskStubs.Library.TopologicalOrders
