import Mathlib.Data.List.Dedup
import Mathlib.Data.List.Perm.Basic
import Mathlib.Tactic

/-! Lists filled in the order of insertion: new entries go to the end, and under one key the last
entry counts. -/

namespace TaskStubs.Library.Insertion

variable {α κ : Type*} [DecidableEq κ]

def insertNew [DecidableEq α] (xs : List α) (a : α) : List α := if a ∈ xs then xs else xs ++ [a]

@[simp] lemma mem_insertNew [DecidableEq α] (xs : List α) (a b : α) :
    b ∈ insertNew xs a ↔ b ∈ xs ∨ b = a := by
  rw [insertNew]
  split_ifs with h
  · refine ⟨Or.inl, ?_⟩
    rintro (hb | rfl)
    · exact hb
    · exact h
  · simp

lemma insertNew_map {β : Type*} [DecidableEq α] [DecidableEq β] {f : α → β} (hf : Function.Injective f) (xs : List α)
    (a : α) : insertNew (xs.map f) (f a) = (insertNew xs a).map f := by
  simp only [insertNew, List.mem_map_of_injective hf]
  split_ifs
  · rfl
  · rw [List.map_append, List.map_singleton]

lemma insertNew_nodup [DecidableEq α] {xs : List α} (h : xs.Nodup) (a : α) : (insertNew xs a).Nodup := by
  rw [insertNew]
  split_ifs with ha
  · exact h
  · rw [← List.concat_eq_append]
    exact h.concat ha

section Fold

variable [DecidableEq α]

def firstOccurrences (xs : List α) : List α := xs.foldl insertNew []

lemma prefix_insertNew (xs : List α) (a : α) : xs <+: insertNew xs a := by
  rw [insertNew]
  split_ifs
  · exact List.prefix_rfl
  · exact List.prefix_append _ _

lemma prefix_foldl_insertNew (xs acc : List α) : acc <+: xs.foldl insertNew acc := by
  induction xs generalizing acc with
  | nil => exact List.prefix_rfl
  | cons a xs ih => exact (prefix_insertNew acc a).trans (ih _)

lemma foldl_insertNew_nodup (xs : List α) {acc : List α} (h : acc.Nodup) : (xs.foldl insertNew acc).Nodup := by
  induction xs generalizing acc with
  | nil => exact h
  | cons a xs ih => exact ih (insertNew_nodup h a)

lemma mem_foldl_insertNew (xs acc : List α) (a : α) : a ∈ xs.foldl insertNew acc ↔ a ∈ acc ∨ a ∈ xs := by
  induction xs generalizing acc with
  | nil => simp
  | cons b xs ih => simp [ih, or_assoc]

lemma foldl_insertNew_eq {xs : List α} (h : xs.Nodup) (acc : List α) :
    xs.foldl insertNew acc = acc ++ xs.filter (· ∉ acc) := by
  induction xs generalizing acc with
  | nil => exact (List.append_nil acc).symm
  | cons a xs ih =>
    obtain ⟨ha, hxs⟩ := List.nodup_cons.mp h
    rw [List.foldl_cons, ih hxs, insertNew]
    by_cases hm : a ∈ acc
    · simp [hm]
    · have hfilter : xs.filter (· ∉ acc ++ [a]) = xs.filter (· ∉ acc) := by
        apply List.filter_congr
        intro b hb
        have hne : b ≠ a := fun he => ha (he ▸ hb)
        simp [hne]
      rw [if_neg hm, hfilter]
      simp [hm]

end Fold

def lastOf (key : α → κ) (k : κ) (xs : List α) : Option α :=
  (xs.filter (fun x => key x = k)).getLast?

variable (key : α → κ) (k : κ)

@[simp] lemma lastOf_concat (xs : List α) (a : α) :
    lastOf key k (xs ++ [a]) = if key a = k then some a else lastOf key k xs := by
  by_cases h : key a = k <;> simp [lastOf, h]

lemma lastOf_eq_none_iff (xs : List α) : lastOf key k xs = none ↔ ∀ x ∈ xs, key x ≠ k := by
  simp [lastOf]

variable {key k}

lemma lastOf_mem {xs : List α} {a : α} (h : lastOf key k xs = some a) : a ∈ xs ∧ key a = k := by
  have hm := List.mem_of_getLast? h
  exact ⟨List.mem_of_mem_filter hm, by simpa using List.of_mem_filter hm⟩

lemma exists_lastOf {xs : List α} {a : α} (ha : a ∈ xs) (hk : key a = k) :
    ∃ b, lastOf key k xs = some b := by
  cases h : lastOf key k xs with
  | some b => exact ⟨b, rfl⟩
  | none => exact ((lastOf_eq_none_iff key k xs).mp h a ha hk).elim

lemma lastOf_eq_some_iff {xs : List α} (hn : (xs.map key).Nodup) (a : α) :
    lastOf key k xs = some a ↔ a ∈ xs ∧ key a = k := by
  refine ⟨lastOf_mem, ?_⟩
  rintro ⟨ha, hk⟩
  obtain ⟨b, hb⟩ := exists_lastOf ha hk
  obtain ⟨hbm, hbk⟩ := lastOf_mem hb
  rw [hb, List.inj_on_of_nodup_map hn ha hbm (hk.trans hbk.symm)]

lemma lastOf_perm {xs ys : List α} (h : xs.Perm ys) (hn : (xs.map key).Nodup) :
    lastOf key k xs = lastOf key k ys := by
  have hn' : (ys.map key).Nodup := (h.map key).nodup_iff.mp hn
  apply Option.ext
  intro a
  rw [lastOf_eq_some_iff hn, lastOf_eq_some_iff hn', h.mem_iff]

omit [DecidableEq κ] in
lemma getLast?_filter_eq_some_iff (p : α → Bool) (xs : List α) (a : α) :
    (xs.filter p).getLast? = some a ↔ ∃ pre post, xs = pre ++ a :: post ∧ p a ∧ ∀ b ∈ post, ¬ p b := by
  rw [List.getLast?_filter, List.find?_eq_some_iff_append]
  refine ⟨?_, ?_⟩
  · rintro ⟨ha, post, pre, hsplit, hpost⟩
    refine ⟨pre.reverse, post.reverse, ?_, ha, ?_⟩
    · rw [← List.reverse_reverse xs, hsplit]
      simp
    · intro b hb
      simpa using hpost b (List.mem_reverse.mp hb)
  · rintro ⟨pre, post, rfl, ha, hpost⟩
    refine ⟨ha, post.reverse, pre.reverse, by simp, ?_⟩
    intro b hb
    simpa using hpost b (List.mem_reverse.mp hb)

end TaskStubs.Library.Insertion
