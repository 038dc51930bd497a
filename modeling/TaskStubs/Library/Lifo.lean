import Mathlib.Tactic

/-! Words of openings and closings. Openings are numbered 1, 2, 3, … and kept on a stack; a closing
takes the top. It takes the number of a given opening exactly when the word between is balanced. -/

namespace TaskStubs.Library.Lifo

inductive Bracket where
  | opening
  | closing
  deriving DecidableEq

def depthStep : ℕ → Bracket → Option ℕ
  | n, .opening => some (n + 1)
  | 0, .closing => none
  | n + 1, .closing => some n

def depth (n : ℕ) (w : List Bracket) : Option ℕ := w.foldlM depthStep n

def NoUnderflow (w : List Bracket) : Prop := (depth 0 w).isSome = true

def Balanced (w : List Bracket) : Prop := depth 0 w = some 0

instance (w : List Bracket) : Decidable (NoUnderflow w) := inferInstanceAs (Decidable (_ = _))

instance (w : List Bracket) : Decidable (Balanced w) := inferInstanceAs (Decidable (_ = _))

structure Numbered where
  opened : ℕ := 0
  stack : List ℕ := []
  deriving DecidableEq

def step (s : Numbered) : Bracket → Option Numbered
  | .opening => some { opened := s.opened + 1, stack := (s.opened + 1) :: s.stack }
  | .closing =>
    match s.stack with
    | [] => none
    | _ :: rest => some { s with stack := rest }

def after (s : Numbered) (w : List Bracket) : Option Numbered := w.foldlM step s

lemma depth_cons (n : ℕ) (b : Bracket) (w : List Bracket) :
    depth n (b :: w) = (depthStep n b).bind (fun m => depth m w) := by
  rw [depth, List.foldlM_cons]
  rfl

lemma after_cons (s : Numbered) (b : Bracket) (w : List Bracket) :
    after s (b :: w) = (step s b).bind (fun t => after t w) := by
  rw [after, List.foldlM_cons]
  rfl

lemma after_append (s : Numbered) (u v : List Bracket) :
    after s (u ++ v) = (after s u).bind (fun t => after t v) := by
  rw [after, List.foldlM_append]
  rfl

lemma depth_append (n : ℕ) (u v : List Bracket) :
    depth n (u ++ v) = (depth n u).bind (fun m => depth m v) := by
  rw [depth, List.foldlM_append]
  rfl

lemma depth_add {n m : ℕ} {w : List Bracket} (h : depth n w = some m) (k : ℕ) :
    depth (n + k) w = some (m + k) := by
  induction w generalizing n with
  | nil =>
    obtain rfl := Option.some.inj h
    rfl
  | cons b w ih =>
    rw [depth_cons] at h ⊢
    obtain ⟨j, hj, h⟩ := Option.bind_eq_some_iff.mp h
    have hstep : depthStep (n + k) b = some (j + k) := by
      cases b with
      | opening =>
        obtain rfl := Option.some.inj hj
        exact congrArg some (Nat.succ_add n k).symm
      | closing =>
        cases n with
        | zero => cases hj
        | succ n =>
          obtain rfl := Option.some.inj hj
          rw [Nat.succ_add]
          rfl
    rw [hstep]
    exact ih h

lemma after_opened {s t : Numbered} {w : List Bracket} (h : after s w = some t) :
    t.opened = s.opened + w.count .opening := by
  induction w generalizing s with
  | nil =>
    obtain rfl := Option.some.inj h
    rfl
  | cons b w ih =>
    rw [after_cons] at h
    obtain ⟨r, hr, h⟩ := Option.bind_eq_some_iff.mp h
    rw [ih h]
    cases b with
    | opening =>
      obtain rfl := Option.some.inj hr
      simp only [List.count_cons_self]
      omega
    | closing =>
      have ho : r.opened = s.opened := by
        rw [step] at hr
        split at hr
        · cases hr
        · obtain rfl := Option.some.inj hr
          rfl
      rw [ho, List.count_cons_of_ne (by decide)]

lemma after_of_depth {w : List Bracket} {d e : ℕ} (h : depth d w = some e) (n : ℕ)
    (top rest : List ℕ) (ht : top.length = d) :
    ∃ m top', top'.length = e ∧ after ⟨n, top ++ rest⟩ w = some ⟨m, top' ++ rest⟩ := by
  induction w generalizing d n top with
  | nil =>
    obtain rfl := Option.some.inj h
    exact ⟨n, top, ht, rfl⟩
  | cons b w ih =>
    rw [depth_cons] at h
    cases b with
    | opening => exact ih h (n + 1) ((n + 1) :: top) (by simp [ht])
    | closing =>
      cases top with
      | nil =>
        subst ht
        cases h
      | cons k top =>
        subst ht
        exact ih h n top rfl

lemma after_isSome_iff (w : List Bracket) (s : Numbered) :
    (after s w).isSome ↔ (depth s.stack.length w).isSome := by
  induction w generalizing s with
  | nil => exact iff_of_true rfl rfl
  | cons b w ih =>
    rw [after_cons, depth_cons]
    cases b with
    | opening => exact ih _
    | closing =>
      cases hs : s.stack with
      | nil => simp [step, hs, depthStep]
      | cons k rest =>
        simp only [step, hs]
        exact ih _

lemma after_not_mem {w : List Bracket} {s t : Numbered} {k : ℕ} (h : after s w = some t)
    (hk : k ≤ s.opened) (hm : k ∉ s.stack) : k ∉ t.stack := by
  induction w generalizing s with
  | nil =>
    obtain rfl := Option.some.inj h
    exact hm
  | cons b w ih =>
    rw [after_cons] at h
    obtain ⟨r, hr, h⟩ := Option.bind_eq_some_iff.mp h
    cases b with
    | opening =>
      obtain rfl := Option.some.inj hr
      apply ih h
      · exact Nat.le_succ_of_le hk
      · simp only [List.mem_cons, not_or]
        exact ⟨by omega, hm⟩
    | closing =>
      rw [step] at hr
      split at hr
      · cases hr
      · rename_i j rest hs
        obtain rfl := Option.some.inj hr
        apply ih h hk
        rw [hs] at hm
        exact fun hn => hm (List.mem_cons_of_mem j hn)

lemma depth_of_after {w : List Bracket} {n k : ℕ} (top : List ℕ) {rest : List ℕ} {t : Numbered}
    (h : after ⟨n, top ++ k :: rest⟩ w = some t) (ht : t.stack.head? = some k) (hn : k ≤ n)
    (htop : k ∉ top) (hrest : k ∉ rest) : depth top.length w = some 0 := by
  induction w generalizing n top with
  | nil =>
    obtain rfl := Option.some.inj h
    cases top with
    | nil => rfl
    | cons j top =>
      obtain rfl := Option.some.inj ht
      exact absurd List.mem_cons_self htop
  | cons b w ih =>
    rw [after_cons] at h
    rw [depth_cons]
    cases b with
    | opening =>
      have hne : k ∉ (n + 1) :: top := by
        simp only [List.mem_cons, not_or]
        exact ⟨by omega, htop⟩
      exact ih ((n + 1) :: top) h (Nat.le_succ_of_le hn) hne
    | closing =>
      cases top with
      | nil =>
        -- `k` itself is taken here, and a number that is used up never comes back
        have hm := after_not_mem (s := ⟨n, rest⟩) h hn hrest
        exact absurd (List.mem_of_mem_head? ht) hm
      | cons j top =>
        exact ih top h hn (fun hm => htop (List.mem_cons_of_mem j hm))

lemma stack_le {w : List Bracket} {s t : Numbered} (h : after s w = some t)
    (hs : ∀ k ∈ s.stack, k ≤ s.opened) : ∀ k ∈ t.stack, k ≤ t.opened := by
  induction w generalizing s with
  | nil =>
    obtain rfl := Option.some.inj h
    exact hs
  | cons b w ih =>
    rw [after_cons] at h
    obtain ⟨r, hr, h⟩ := Option.bind_eq_some_iff.mp h
    apply ih h
    intro k hk
    cases b with
    | opening =>
      obtain rfl := Option.some.inj hr
      obtain rfl | hk := List.mem_cons.mp hk
      · exact le_rfl
      · exact Nat.le_succ_of_le (hs k hk)
    | closing =>
      rw [step] at hr
      split at hr
      · cases hr
      · rename_i j rest hst
        obtain rfl := Option.some.inj hr
        exact hs k (by rw [hst]; exact List.mem_cons_of_mem j hk)

theorem takes_opening_iff (u v : List Bracket) :
    (∃ s, after {} (u ++ .opening :: v) = some s ∧
        s.stack.head? = some (u.count .opening + 1)) ↔ NoUnderflow u ∧ Balanced v := by
  refine ⟨?_, ?_⟩
  · rintro ⟨s, h, ht⟩
    rw [after_append] at h
    obtain ⟨r, hr, h⟩ := Option.bind_eq_some_iff.mp h
    rw [after_cons] at h
    have ho : r.opened = u.count .opening := by simpa using after_opened hr
    rw [← ho] at ht
    have hrest : r.opened + 1 ∉ r.stack := by
      intro hm
      have hle := stack_le hr (by simp) _ hm
      omega
    refine ⟨?_, depth_of_after [] h ht le_rfl (by simp) hrest⟩
    exact (after_isSome_iff u {}).mp (by simp [hr])
  · rintro ⟨hu, hv⟩
    obtain ⟨r, hr⟩ := Option.isSome_iff_exists.mp ((after_isSome_iff u {}).mpr hu)
    have ho : r.opened = u.count .opening := by simpa using after_opened hr
    obtain ⟨m, top, htop, hs⟩ := after_of_depth hv (r.opened + 1) [] ((r.opened + 1) :: r.stack) rfl
    obtain rfl := List.eq_nil_of_length_eq_zero htop
    refine ⟨⟨m, (r.opened + 1) :: r.stack⟩, ?_, by rw [← ho]; rfl⟩
    rw [after_append, hr]
    exact hs

section Merge

variable {τ : Type*} [DecidableEq τ]

def projection (t : τ) (w : List (τ × Bracket)) : List Bracket :=
  (w.filter (fun c => c.1 = t)).map Prod.snd

lemma depth_concat (n : ℕ) (w : List Bracket) (b : Bracket) :
    depth n (w ++ [b]) = (depth n w).bind (fun m => depthStep m b) := by
  rw [depth, List.foldlM_append]
  exact congrArg _ (funext fun m => bind_pure _)

lemma noUnderflow_left {u v : List Bracket} (h : NoUnderflow (u ++ v)) : NoUnderflow u := by
  rw [NoUnderflow, depth, List.foldlM_append] at h
  obtain ⟨m, hm⟩ := Option.isSome_iff_exists.mp h
  obtain ⟨n, hn, -⟩ := Option.bind_eq_some_iff.mp hm
  exact Option.isSome_iff_exists.mpr ⟨n, hn⟩

lemma depth_merge (threads : Finset τ) (w : List (τ × Bracket)) (hw : ∀ c ∈ w, c.1 ∈ threads)
    (d : τ → ℕ) (h : ∀ t, depth 0 (projection t w) = some (d t)) :
    depth 0 (w.map Prod.snd) = some (∑ t ∈ threads, d t) := by
  induction w using List.reverseRecOn generalizing d with
  | nil =>
    have hd : ∀ t, d t = 0 := fun t => (Option.some.inj (h t)).symm
    simp [hd, depth]
  | append_singleton w c ih =>
    obtain ⟨t, b⟩ := c
    have ht : t ∈ threads := hw (t, b) (by simp)
    have hsame : projection t (w ++ [(t, b)]) = projection t w ++ [b] := by simp [projection]
    have hother (s : τ) (hs : s ≠ t) : projection s (w ++ [(t, b)]) = projection s w := by
      simp [projection, hs.symm]
    have hd := h t
    rw [hsame, depth_concat] at hd
    obtain ⟨e, he, hb⟩ := Option.bind_eq_some_iff.mp hd
    -- before its last call the interleaving differs in the depth of that call's thread only
    have hprev := ih (fun c hc => hw c (List.mem_append_left _ hc)) (Function.update d t e) (by
      intro s
      by_cases hs : s = t
      · subst hs
        rw [Function.update_self, he]
      · rw [Function.update_of_ne hs, ← h s, hother s hs])
    have hsum := Finset.add_sum_erase threads d ht
    have hsum' := Finset.add_sum_erase threads (Function.update d t e) ht
    have hrest : ∑ s ∈ threads.erase t, Function.update d t e s = ∑ s ∈ threads.erase t, d s :=
      Finset.sum_congr rfl (fun s hs => Function.update_of_ne (Finset.ne_of_mem_erase hs) e d)
    rw [hrest, Function.update_self] at hsum'
    rw [List.map_append, List.map_singleton, depth_concat, hprev, ← hsum, ← hsum']
    cases b with
    | opening =>
      have hdt : e + 1 = d t := Option.some.inj hb
      exact congrArg some (by omega)
    | closing =>
      cases e with
      | zero => cases hb
      | succ e =>
        have hdt : e = d t := Option.some.inj hb
        rw [Option.bind_some, Nat.succ_add, depthStep, hdt]

theorem noUnderflow_merge (w : List (τ × Bracket)) (h : ∀ t, NoUnderflow (projection t w)) :
    NoUnderflow (w.map Prod.snd) := by
  choose d hd using fun t => Option.isSome_iff_exists.mp (h t)
  have hw : ∀ c ∈ w, c.1 ∈ (w.map Prod.fst).toFinset := fun c hc =>
    List.mem_toFinset.mpr (List.mem_map_of_mem hc)
  exact Option.isSome_iff_exists.mpr ⟨_, depth_merge _ w hw d hd⟩

variable {α : Type*}

def share (t : τ) (w : List (τ × α)) : List α := (w.filter (fun c => c.1 = t)).map Prod.snd

lemma share_append (t : τ) (u v : List (τ × α)) : share t (u ++ v) = share t u ++ share t v := by
  rw [share, List.filter_append, List.map_append]
  rfl

lemma share_own (t : τ) (xs : List α) : share t (xs.map (fun a => (t, a))) = xs := by
  simp [share, List.filter_map, Function.comp_def]

lemma share_other {s t : τ} (h : s ≠ t) (xs : List α) : share s (xs.map (fun a => (t, a))) = [] := by
  simp [share, List.filter_map, Function.comp_def, h.symm]

lemma projection_filterMap (t : τ) (w : List (τ × α)) (f : α → Option Bracket) :
    projection t (w.filterMap (fun c => (f c.2).map (fun b => (c.1, b)))) = (share t w).filterMap f := by
  induction w with
  | nil => rfl
  | cons c w ih =>
    rw [projection] at ih ⊢
    rw [share] at ih ⊢
    by_cases hc : c.1 = t <;> cases hf : f c.2 <;> simp [hc, hf, ih]

lemma countP_share (threads : Finset τ) (w : List (τ × α)) (hw : ∀ c ∈ w, c.1 ∈ threads) (p : α → Bool) :
    (w.map Prod.snd).countP p = ∑ t ∈ threads, (share t w).countP p := by
  induction w with
  | nil => simp [share]
  | cons c w ih =>
    have hcons (t : τ) : (share t (c :: w)).countP p =
        (share t w).countP p + if c.1 = t then (if p c.2 then 1 else 0) else 0 := by
      rw [share, List.filter_cons]
      by_cases ht : c.1 = t <;> simp [ht, share, List.countP_cons]
    simp only [hcons, Finset.sum_add_distrib]
    rw [List.map_cons, List.countP_cons, ih (fun d hd => hw d (List.mem_cons_of_mem c hd)), Finset.sum_ite_eq,
      if_pos (hw c List.mem_cons_self)]

end Merge

end TaskStubs.Library.Lifo
