import TaskStubs.Library.Insertion

/-! The breadth-first order of an adjacency function: the start, then the neighbours of the first node,
those of the second, and so on, each node where it occurs first. -/

namespace TaskStubs.Library.BreadthFirst

open Insertion

variable {α : Type*} [DecidableEq α] (next : α → List α) (start : α)

def visits (order : List α) : List α := firstOccurrences (start :: order.flatMap next)

def breadthFirst (rounds : ℕ) : List α := (visits next start)^[rounds] [start]

variable {next start}

lemma visits_nodup (order : List α) : (visits next start order).Nodup := foldl_insertNew_nodup _ .nil

lemma mem_visits {order : List α} {a : α} : a ∈ visits next start order ↔ a = start ∨ ∃ b ∈ order, a ∈ next b := by
  simp [visits, firstOccurrences, mem_foldl_insertNew]

lemma visits_append (first second : List α) : visits next start (first ++ second) =
    (second.flatMap next).foldl insertNew (visits next start first) := by
  simp only [visits, firstOccurrences, List.flatMap_append, ← List.cons_append, List.foldl_append]

lemma visits_mono {first second : List α} (h : first <+: second) :
    visits next start first <+: visits next start second := by
  obtain ⟨rest, rfl⟩ := h
  rw [visits_append]
  exact prefix_foldl_insertNew _ _

lemma start_visits (order : List α) : [start] <+: visits next start order := visits_mono (List.nil_prefix)

lemma breadthFirst_succ (rounds : ℕ) :
    breadthFirst next start (rounds + 1) = visits next start (breadthFirst next start rounds) :=
  Function.iterate_succ_apply' _ _ _

lemma breadthFirst_grows (rounds : ℕ) :
    breadthFirst next start rounds <+: breadthFirst next start (rounds + 1) := by
  induction rounds with
  | zero => exact start_visits _
  | succ rounds ih =>
    rw [breadthFirst_succ, breadthFirst_succ (rounds + 1)]
    exact visits_mono ih

lemma breadthFirst_nodup (rounds : ℕ) : (breadthFirst next start rounds).Nodup := by
  cases rounds with
  | zero => exact List.nodup_singleton _
  | succ rounds =>
    rw [breadthFirst_succ]
    exact visits_nodup _

lemma breadthFirst_invariant {P : α → Prop} (hstart : P start) (hnext : ∀ a, P a → ∀ b ∈ next a, P b) {rounds : ℕ}
    {a : α} (ha : a ∈ breadthFirst next start rounds) : P a := by
  induction rounds generalizing a with
  | zero => exact List.mem_singleton.mp ha ▸ hstart
  | succ rounds ih =>
    rw [breadthFirst_succ, mem_visits] at ha
    obtain rfl | ⟨b, hb, hab⟩ := ha
    · exact hstart
    · exact hnext b (ih hb) a hab

/-- A round adds a node, or nothing is left to add. -/
lemma breadthFirst_rounds (rounds : ℕ) :
    visits next start (breadthFirst next start rounds) = breadthFirst next start rounds ∨
      rounds + 2 ≤ (breadthFirst next start (rounds + 1)).length := by
  have hgrow : ∀ rounds, visits next start (breadthFirst next start rounds) = breadthFirst next start rounds ∨
      (breadthFirst next start rounds).length < (breadthFirst next start (rounds + 1)).length := by
    intro rounds
    have hp : breadthFirst next start rounds <+: breadthFirst next start (rounds + 1) := breadthFirst_grows rounds
    rcases hp.length_le.lt_or_eq with hlt | heq
    · exact Or.inr hlt
    · exact Or.inl ((breadthFirst_succ rounds).symm.trans (hp.eq_of_length heq).symm)
  induction rounds with
  | zero =>
    apply (hgrow 0).imp_right
    intro h
    exact h
  | succ rounds ih =>
    rcases ih with hfixed | hlong
    · left
      rw [breadthFirst_succ, hfixed, hfixed]
    · apply (hgrow (rounds + 1)).imp_right
      intro h
      omega

lemma breadthFirst_fixed {all : Finset α} (hstart : start ∈ all) (hnext : ∀ a, ∀ b ∈ next a, b ∈ all)
    {rounds : ℕ} (hrounds : all.card ≤ rounds + 1) :
    visits next start (breadthFirst next start rounds) = breadthFirst next start rounds := by
  apply (breadthFirst_rounds rounds).resolve_right
  intro hlong
  have hsub : (breadthFirst next start (rounds + 1)).toFinset ⊆ all := by
    intro a ha
    exact breadthFirst_invariant hstart (fun b _ => hnext b) (List.mem_toFinset.mp ha)
  have hcard := Finset.card_le_card hsub
  rw [List.toFinset_card_of_nodup (breadthFirst_nodup _)] at hcard
  omega

lemma breadthFirst_within {order : List α} (h : visits next start order = order) (rounds : ℕ) :
    breadthFirst next start rounds <+: order := by
  induction rounds with
  | zero => exact h ▸ start_visits order
  | succ rounds ih =>
    rw [breadthFirst_succ]
    exact h ▸ visits_mono ih

end TaskStubs.Library.BreadthFirst
