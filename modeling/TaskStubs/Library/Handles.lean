import Mathlib.Tactic

/-! Handles that owners open and close: an owner holds at most one, and closes no other. -/

namespace TaskStubs.Library.Handles

inductive Act (κ : Type*) where
  | opened (handle : κ)
  | closed (handle : κ)
  deriving DecidableEq

variable {ω κ : Type*} [DecidableEq κ]

def next (holdings : List (ω × κ)) (act : ω × Act κ) : List (ω × κ) :=
  match act.2 with
  | .opened handle => (act.1, handle) :: holdings
  | .closed handle => holdings.filter (fun holding => holding.2 ≠ handle)

def held (acts : List (ω × Act κ)) : List (ω × κ) := acts.foldl next []

@[simp] lemma held_opened (acts : List (ω × Act κ)) (owner : ω) (handle : κ) :
    held (acts ++ [(owner, .opened handle)]) = (owner, handle) :: held acts :=
  List.foldl_concat ..

@[simp] lemma held_closed (acts : List (ω × Act κ)) (owner : ω) (handle : κ) :
    held (acts ++ [(owner, .closed handle)]) = (held acts).filter (fun holding => holding.2 ≠ handle) :=
  List.foldl_concat ..

structure Protocol (acts : List (ω × Act κ)) : Prop where
  one_each : ∀ pre, pre <+: acts → ((held pre).map Prod.fst).Nodup
  one_owner : ∀ pre, pre <+: acts → ((held pre).map Prod.snd).Nodup
  closed_own : ∀ pre owner handle post, acts = pre ++ (owner, .closed handle) :: post →
    (owner, handle) ∈ held pre

lemma protocol_nil : Protocol ([] : List (ω × Act κ)) where
  one_each pre h := by simp [List.prefix_nil.mp h, held]
  one_owner pre h := by simp [List.prefix_nil.mp h, held]
  closed_own pre owner handle post h := by simp at h

namespace Protocol

variable {acts : List (ω × Act κ)} {owner : ω} {handle : κ}

lemma same_owner (h : Protocol acts) {other : ω} (ho : (owner, handle) ∈ held acts)
    (ho' : (other, handle) ∈ held acts) : owner = other := by
  have hinj := List.inj_on_of_nodup_map (h.one_owner acts List.prefix_rfl)
  exact congrArg Prod.fst (hinj ho ho' rfl)

lemma same_handle (h : Protocol acts) {other : κ} (ho : (owner, handle) ∈ held acts)
    (ho' : (owner, other) ∈ held acts) : handle = other := by
  have hinj := List.inj_on_of_nodup_map (h.one_each acts List.prefix_rfl)
  exact congrArg Prod.snd (hinj ho ho' rfl)

lemma concat (h : Protocol acts) {act : ω × Act κ}
    (hone : ((held (acts ++ [act])).map Prod.fst).Nodup)
    (howner : ((held (acts ++ [act])).map Prod.snd).Nodup)
    (hclosed : ∀ owner handle, act = (owner, .closed handle) → (owner, handle) ∈ held acts) :
    Protocol (acts ++ [act]) := by
  refine ⟨?_, ?_, ?_⟩
  · intro pre hp
    rcases List.prefix_concat_iff.mp hp with rfl | hp
    · exact hone
    · exact h.one_each pre hp
  · intro pre hp
    rcases List.prefix_concat_iff.mp hp with rfl | hp
    · exact howner
    · exact h.one_owner pre hp
  · intro pre owner handle post hsplit
    rcases List.eq_nil_or_concat post with rfl | ⟨post, last, rfl⟩
    · obtain ⟨rfl, hact⟩ := List.append_inj' hsplit rfl
      exact hclosed owner handle (List.singleton_inj.mp hact)
    · rw [List.concat_eq_append, ← List.cons_append, ← List.append_assoc] at hsplit
      obtain ⟨rfl, _⟩ := List.append_inj' hsplit rfl
      exact h.closed_own pre owner handle post rfl

lemma opened (h : Protocol acts) (howner : ∀ k, (owner, k) ∉ held acts)
    (hhandle : ∀ o, (o, handle) ∉ held acts) : Protocol (acts ++ [(owner, .opened handle)]) := by
  apply h.concat
  · rw [held_opened, List.map_cons, List.nodup_cons]
    refine ⟨?_, h.one_each acts List.prefix_rfl⟩
    intro hm
    obtain ⟨⟨o, k⟩, hk, rfl⟩ := List.mem_map.mp hm
    exact howner k hk
  · rw [held_opened, List.map_cons, List.nodup_cons]
    refine ⟨?_, h.one_owner acts List.prefix_rfl⟩
    intro hm
    obtain ⟨⟨o, k⟩, hk, rfl⟩ := List.mem_map.mp hm
    exact hhandle o hk
  · intro _ _ hact
    cases hact

lemma closed (h : Protocol acts) (ho : (owner, handle) ∈ held acts) :
    Protocol (acts ++ [(owner, .closed handle)]) := by
  have hsub : (held (acts ++ [(owner, .closed handle)])).Sublist (held acts) := by
    rw [held_closed]
    exact List.filter_sublist
  apply h.concat
  · exact (h.one_each acts List.prefix_rfl).sublist (hsub.map _)
  · exact (h.one_owner acts List.prefix_rfl).sublist (hsub.map _)
  · intro _ _ hact
    cases hact
    exact ho

end Protocol

lemma mem_held_append {first second : List (ω × Act κ)} {owner : ω} {handle : κ}
    (h : (owner, handle) ∈ held (first ++ second)) :
    (owner, handle) ∈ held first ∨ (owner, .opened handle) ∈ second := by
  induction second using List.reverseRecOn with
  | nil => exact Or.inl (by simpa using h)
  | append_singleton second act ih =>
    rw [← List.append_assoc] at h
    obtain ⟨o, k | k⟩ := act
    · rw [held_opened] at h
      rcases List.mem_cons.mp h with h | h
      · cases h
        exact Or.inr (by simp)
      · exact (ih h).imp_right (List.mem_append_left _)
    · rw [held_closed] at h
      exact (ih (List.mem_of_mem_filter h)).imp_right (List.mem_append_left _)

lemma Protocol.reopened {acts : List (ω × Act κ)} (h : Protocol acts) {first second third : List (ω × Act κ)}
    {owner other : ω} {handle : κ} (hsplit : acts =
      first ++ (owner, .closed handle) :: (second ++ (other, .closed handle) :: third)) :
    (other, .opened handle) ∈ second := by
  have hown := h.closed_own (first ++ (owner, .closed handle) :: second) other handle third
    (by rw [hsplit]; simp)
  rw [List.append_cons] at hown
  rcases mem_held_append hown with hm | hm
  · rw [held_closed] at hm
    simp at hm
  · exact hm

end TaskStubs.Library.Handles
