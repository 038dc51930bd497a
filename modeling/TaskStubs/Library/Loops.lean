import Mathlib.Logic.Relation
import Mathlib.Tactic

/-! Rules for loops: a fallible fold over a list, and a partial step taken until it stops. -/

namespace TaskStubs.Library.Loops

open Relation

variable {σ α ε : Type*}

universe u in
lemma bind_ok {α β : Type u} {x : Except ε α} {f : α → Except ε β} {a : α} (h : x = .ok a) :
    x >>= f = f a := by
  rw [h]
  rfl

universe u in
lemma bind_error {α β : Type u} {x : Except ε α} {f : α → Except ε β} {e : ε} (h : x = .error e) :
    x >>= f = .error e := by
  rw [h]
  rfl

universe u in
lemma bind_eq_ok {α β : Type u} {x : Except ε α} {f : α → Except ε β} {b : β} (h : x >>= f = .ok b) :
    ∃ a, x = .ok a ∧ f a = .ok b := by
  cases x with
  | error e => cases h
  | ok a => exact ⟨a, rfl, h⟩

universe u in
lemma bind_ok_iff {α β : Type u} {x : Except ε α} {f : α → Except ε β} {b : β} :
    x >>= f = .ok b ↔ ∃ a, x = .ok a ∧ f a = .ok b := by
  refine ⟨bind_eq_ok, ?_⟩
  rintro ⟨a, ha, hb⟩
  rw [bind_ok ha, hb]

lemma toOption_map_eq_some {α β : Type*} {x : Except ε α} {f : α → β} {b : β}
    (h : x.toOption.map f = some b) : ∃ a, x = .ok a ∧ f a = b := by
  cases x with
  | error e => cases h
  | ok a => exact ⟨a, rfl, Option.some.inj h⟩

lemma ok_of_isSome {α : Type*} {x : Except ε α} (h : x.toOption.isSome) : ∃ a, x = .ok a := by
  cases x with
  | error e => cases h
  | ok a => exact ⟨a, rfl⟩

lemma map_eq_map {α β γ : Type*} {x : Except ε α} {y : Except ε β} {f : α → γ} {g : β → γ}
    (h : x.map f = y.map g) :
    (∃ e, x = .error e ∧ y = .error e) ∨ ∃ a b, x = .ok a ∧ y = .ok b ∧ f a = g b := by
  cases x with
  | error e =>
    cases y with
    | error e' =>
      obtain rfl := Except.error.inj h
      exact Or.inl ⟨e, rfl, rfl⟩
    | ok b => cases h
  | ok a =>
    cases y with
    | error e => cases h
    | ok b => exact Or.inr ⟨a, b, rfl, rfl, Except.ok.inj h⟩

lemma foldlM_prefix {f : σ → α → Except ε σ} (Inv : List α → σ → Prop) (xs : List α) (s : σ)
    (hs : Inv [] s)
    (hstep : ∀ pre a post s, xs = pre ++ a :: post → Inv pre s → ∃ t, f s a = .ok t ∧ Inv (pre ++ [a]) t) :
    ∃ t, xs.foldlM f s = .ok t ∧ Inv xs t := by
  have hgen : ∀ (post pre : List α) (s : σ), xs = pre ++ post → Inv pre s →
      ∃ t, post.foldlM f s = .ok t ∧ Inv xs t := by
    intro post
    induction post with
    | nil =>
      intro pre s hx hi
      obtain rfl : xs = pre := by simpa using hx
      exact ⟨s, rfl, hi⟩
    | cons a post ih =>
      intro pre s hx hi
      obtain ⟨t, ht, hit⟩ := hstep pre a post s hx hi
      obtain ⟨u, hu, hiu⟩ := ih (pre ++ [a]) t (by simpa using hx) hit
      exact ⟨u, by rw [List.foldlM_cons, bind_ok ht, hu], hiu⟩
  exact hgen xs [] s rfl hs

lemma foldlM_returns {f : σ → α → Except ε σ} (Inv : List α → σ → Prop)
    (hstep : ∀ pre a s t, Inv pre s → f s a = .ok t → Inv (pre ++ [a]) t) (xs pre : List α) (s t : σ)
    (hs : Inv pre s) (h : xs.foldlM f s = .ok t) : Inv (pre ++ xs) t := by
  induction xs generalizing pre s with
  | nil =>
    cases h
    simpa using hs
  | cons a xs ih =>
    obtain ⟨u, hu, h⟩ := bind_eq_ok h
    simpa using ih (pre ++ [a]) u (hstep pre a s u hs hu) h

lemma foldlM_keeps {f : σ → α → Except ε σ} (P : σ → Prop) {xs : List α}
    (hstep : ∀ a ∈ xs, ∀ s t, P s → f s a = .ok t → P t) {s t : σ} (hs : P s) (h : xs.foldlM f s = .ok t) : P t := by
  induction xs generalizing s with
  | nil =>
    cases h
    exact hs
  | cons a xs ih =>
    obtain ⟨u, hu, h⟩ := bind_eq_ok h
    exact ih (fun b hb => hstep b (List.mem_cons_of_mem a hb)) (hstep a List.mem_cons_self s u hs hu) h

lemma foldlM_step_ok {f : σ → α → Except ε σ} {xs : List α} {s t : σ} (h : xs.foldlM f s = .ok t) {a : α}
    (ha : a ∈ xs) : ∃ u v, f u a = .ok v := by
  induction xs generalizing s with
  | nil => cases ha
  | cons b xs ih =>
    obtain ⟨u, hu, h⟩ := bind_eq_ok h
    rcases List.mem_cons.mp ha with rfl | ha
    · exact ⟨s, u, hu⟩
    · exact ih h ha

lemma foldlM_view {τ : Type*} {f f' : σ → α → Except ε σ} (view : σ → τ)
    (hstep : ∀ s s' a, view s = view s' → (f s a).map view = (f' s' a).map view) (xs : List α) (s s' : σ)
    (h : view s = view s') : (xs.foldlM f s).map view = (xs.foldlM f' s').map view := by
  induction xs generalizing s s' with
  | nil => exact congrArg Except.ok h
  | cons a xs ih =>
    rw [List.foldlM_cons, List.foldlM_cons]
    obtain ⟨e, hf, hf'⟩ | ⟨t, t', hf, hf', ht⟩ := map_eq_map (hstep s s' a h)
    · rw [hf, hf']
      rfl
    · rw [hf, hf']
      exact ih t t' ht

lemma foldlM_eq {f : σ → α → Except ε σ} {g : σ → α → σ} (xs : List α) (s : σ)
    (h : ∀ s, ∀ a ∈ xs, f s a = .ok (g s a)) : xs.foldlM f s = .ok (xs.foldl g s) := by
  induction xs generalizing s with
  | nil => rfl
  | cons a xs ih =>
    rw [List.foldlM_cons, bind_ok (h s a List.mem_cons_self), List.foldl_cons]
    exact ih _ (fun s b hb => h s b (List.mem_cons_of_mem _ hb))

lemma foldlM_toOption (f : σ → α → Except ε σ) (xs : List α) (s : σ) :
    (xs.foldlM f s).toOption = xs.foldlM (fun s a => (f s a).toOption) s := by
  induction xs generalizing s with
  | nil => rfl
  | cons a xs ih =>
    rw [List.foldlM_cons, List.foldlM_cons]
    cases h : f s a with
    | error e => rfl
    | ok t => exact ih t

def FailsOnly (P : ε → Prop) (x : Except ε α) : Prop := ∀ e, x = .error e → P e

section Failures

variable {P : ε → Prop}

lemma failsOnly_ok (a : α) : FailsOnly P (.ok a) := by
  rintro e ⟨⟩

universe u in
lemma FailsOnly.bind {α β : Type u} {x : Except ε α} {f : α → Except ε β} (hx : FailsOnly P x)
    (hf : ∀ a, x = .ok a → FailsOnly P (f a)) : FailsOnly P (x >>= f) := by
  cases x with
  | error e =>
    rintro e' ⟨⟩
    exact hx e rfl
  | ok a => exact hf a rfl

lemma FailsOnly.foldlM {f : σ → α → Except ε σ} {xs : List α} (h : ∀ a ∈ xs, ∀ t, FailsOnly P (f t a)) (s : σ) :
    FailsOnly P (xs.foldlM f s) := by
  induction xs generalizing s with
  | nil => exact failsOnly_ok s
  | cons a xs ih =>
    rw [List.foldlM_cons]
    apply (h a List.mem_cons_self s).bind
    intro t _
    exact ih (fun b hb => h b (List.mem_cons_of_mem a hb)) t

end Failures

inductive Mirrors {ε' α β : Type*} (rename : ε → ε') (R : α → β → Prop) : Except ε α → Except ε' β → Prop where
  | ok {a b} (h : R a b) : Mirrors rename R (.ok a) (.ok b)
  | error (e) : Mirrors rename R (.error e) (.error (rename e))

section Mirrors

variable {ε' τ β : Type*} {rename : ε → ε'}

universe u u' in
lemma Mirrors.bind {α γ : Type u} {β δ : Type u'} {R : α → β → Prop} {S : γ → δ → Prop} {x : Except ε α}
    {y : Except ε' β} {f : α → Except ε γ} {g : β → Except ε' δ} (h : Mirrors rename R x y)
    (hf : ∀ a b, R a b → Mirrors rename S (f a) (g b)) : Mirrors rename S (x >>= f) (y >>= g) := by
  cases h with
  | ok h => exact hf _ _ h
  | error e => exact .error e

lemma Mirrors.foldlM {R : σ → τ → Prop} {f : σ → α → Except ε σ} {g : τ → β → Except ε' τ} (image : α → β)
    (hstep : ∀ s t a, R s t → Mirrors rename R (f s a) (g t (image a))) (xs : List α) {s : σ} {t : τ} (h : R s t) :
    Mirrors rename R (xs.foldlM f s) ((xs.map image).foldlM g t) := by
  induction xs generalizing s t with
  | nil => exact .ok h
  | cons a xs ih =>
    rw [List.map_cons, List.foldlM_cons, List.foldlM_cons]
    exact (hstep s t a h).bind (fun _ _ h' => ih h')

lemma Mirrors.error_or_ok {R : α → β → Prop} {x : Except ε α} {y : Except ε' β} (h : Mirrors rename R x y) :
    (∃ e e', x = .error e ∧ y = .error e') ∨ ∃ a b, x = .ok a ∧ y = .ok b ∧ R a b := by
  cases h with
  | ok h => exact Or.inr ⟨_, _, rfl, rfl, h⟩
  | error e => exact Or.inl ⟨_, _, rfl, rfl⟩

lemma Mirrors.trans {ε'' γ : Type*} {rename' : ε' → ε''} {R : α → β → Prop} {S : β → γ → Prop} {x : Except ε α}
    {y : Except ε' β} {z : Except ε'' γ} (h : Mirrors rename R x y) (h' : Mirrors rename' S y z) :
    Mirrors (rename' ∘ rename) (Relation.Comp R S) x z := by
  cases h with
  | ok h =>
    cases h' with
    | ok h' => exact .ok ⟨_, h, h'⟩
  | error e =>
    cases h' with
    | error => exact .error e

lemma Mirrors.mono {R S : α → β → Prop} {x : Except ε α} {y : Except ε' β} (h : Mirrors rename R x y)
    (hRS : ∀ a b, R a b → S a b) : Mirrors rename S x y := by
  cases h with
  | ok h => exact .ok (hRS _ _ h)
  | error e => exact .error e

end Mirrors

def runToEnd (step : σ → Option σ) (hwf : WellFounded (fun t s => step s = some t)) (s : σ) : σ :=
  match _hs : step s with
  | none => s
  | some t => runToEnd step hwf t
termination_by hwf.wrap s
decreasing_by exact _hs

variable (step : σ → Option σ) (hwf : WellFounded (fun t s => step s = some t))

lemma runToEnd_none {s : σ} (h : step s = none) : runToEnd step hwf s = s := by
  rw [runToEnd]
  split
  · rfl
  · next t ht => rw [h] at ht; cases ht

lemma runToEnd_some {s t : σ} (h : step s = some t) :
    runToEnd step hwf s = runToEnd step hwf t := by
  rw [runToEnd]
  split
  · next hn => rw [h] at hn; cases hn
  · next u hu => rw [h] at hu; cases hu; rfl

lemma runToEnd_reaches (s : σ) :
    ReflTransGen (fun s t => step s = some t) s (runToEnd step hwf s) ∧
      step (runToEnd step hwf s) = none := by
  induction s using hwf.induction with
  | h s ih =>
    cases hs : step s with
    | none => rw [runToEnd_none step hwf hs]; exact ⟨.refl, hs⟩
    | some t =>
      rw [runToEnd_some step hwf hs]
      exact ⟨.head hs (ih t hs).1, (ih t hs).2⟩

lemma runToEnd_of_reaches {s t : σ} (h : ReflTransGen (fun s t => step s = some t) s t) :
    runToEnd step hwf s = runToEnd step hwf t := by
  induction h with
  | refl => rfl
  | tail _ ht ih => exact ih.trans (runToEnd_some step hwf ht)

/-- The while rule: an invariant of the step holds when the loop ends, and nothing is left to do. -/
lemma runToEnd_invariant (Inv : σ → Prop) {s : σ} (hs : Inv s)
    (hstep : ∀ s t, step s = some t → Inv s → Inv t) :
    Inv (runToEnd step hwf s) ∧ step (runToEnd step hwf s) = none := by
  obtain ⟨hr, hn⟩ := runToEnd_reaches step hwf s
  refine ⟨?_, hn⟩
  generalize runToEnd step hwf s = t at hr
  induction hr with
  | refl => exact hs
  | tail _ ht ih => exact hstep _ _ ht ih

end TaskStubs.Library.Loops
