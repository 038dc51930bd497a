import Mathlib.Data.Option.Defs
import Mathlib.Tactic

/-! Machines that answer each input, machines that may get stuck, and simulations between them. -/

namespace TaskStubs.Library.Machines

variable {S T A B : Type*}

def run (step : S → A → S × B) (s : S) : List A → S × List B
  | [] => (s, [])
  | a :: inputs => ((run step (step s a).1 inputs).1, (step s a).2 :: (run step (step s a).1 inputs).2)

section Answers

variable (step : S → A → S × B)

@[simp] lemma run_nil (s : S) : run step s [] = (s, []) := rfl

@[simp] lemma run_cons (s : S) (a : A) (inputs : List A) :
    run step s (a :: inputs) =
      ((run step (step s a).1 inputs).1, (step s a).2 :: (run step (step s a).1 inputs).2) := rfl

lemma run_append (first second : List A) (s : S) :
    (run step s (first ++ second)).1 = (run step (run step s first).1 second).1 := by
  induction first generalizing s with
  | nil => rfl
  | cons a first ih => exact ih _

lemma run_invariant (Inv : S → Prop) (inputs : List A) (s : S) (hs : Inv s)
    (hstep : ∀ s, ∀ a ∈ inputs, Inv s → Inv (step s a).1) : Inv (run step s inputs).1 := by
  induction inputs generalizing s with
  | nil => exact hs
  | cons a inputs ih =>
    apply ih
    · exact hstep s a List.mem_cons_self hs
    · exact fun s b hb => hstep s b (List.mem_cons_of_mem _ hb)

lemma run_simulates {step : S → A → S × B} {step' : T → A → T × B} (R : S → T → Prop)
    (h : ∀ s t a, R s t → (step s a).2 = (step' t a).2 ∧ R (step s a).1 (step' t a).1)
    (inputs : List A) {s : S} {t : T} (hst : R s t) :
    (run step s inputs).2 = (run step' t inputs).2 ∧
      R (run step s inputs).1 (run step' t inputs).1 := by
  induction inputs generalizing s t with
  | nil => exact ⟨rfl, hst⟩
  | cons a inputs ih =>
    obtain ⟨ha, hs⟩ := h s t a hst
    obtain ⟨hr, hs⟩ := ih hs
    exact ⟨by rw [run_cons, run_cons, ha, hr], hs⟩

end Answers

lemma stuck_together {step : S → A → Option S} {step' : T → A → Option T} (R : S → T → Prop)
    (inputs : List A) (h : ∀ a ∈ inputs, ∀ s t, R s t → Option.Rel R (step s a) (step' t a))
    {s : S} {t : T} (hst : R s t) :
    Option.Rel R (inputs.foldlM step s) (inputs.foldlM step' t) := by
  induction inputs generalizing s t with
  | nil => exact .some hst
  | cons a inputs ih =>
    rw [List.foldlM_cons, List.foldlM_cons]
    have hr := h a List.mem_cons_self s t hst
    generalize step s a = x at hr
    generalize step' t a = y at hr
    cases hr with
    | none => exact .none
    | some hs => exact ih (fun b hb => h b (List.mem_cons_of_mem a hb)) hs

section Traces

variable {step : S → A → Option S} {s t u : S} {inputs : List A} {a : A}

lemma foldlM_append_some {first second : List A} : (first ++ second).foldlM step s = some u ↔
    ∃ t, first.foldlM step s = some t ∧ second.foldlM step t = some u := by
  rw [List.foldlM_append]
  exact Option.bind_eq_some_iff

lemma foldlM_cons_some : (a :: inputs).foldlM step s = some u ↔
    ∃ t, step s a = some t ∧ inputs.foldlM step t = some u := by
  rw [List.foldlM_cons]
  exact Option.bind_eq_some_iff

lemma foldlM_concat : (inputs ++ [a]).foldlM step s = some u ↔
    ∃ t, inputs.foldlM step s = some t ∧ step t a = some u := by
  rw [foldlM_append_some]
  simp only [foldlM_cons_some, List.foldlM_nil, pure, Option.some.injEq, exists_eq_right]

lemma reached_invariant (Inv : S → List A → Prop) (hs : Inv s [])
    (hstep : ∀ inputs t a u, inputs.foldlM step s = some t → Inv t inputs → step t a = some u →
      Inv u (inputs ++ [a])) {inputs : List A} {t : S} (h : inputs.foldlM step s = some t) :
    Inv t inputs := by
  induction inputs using List.reverseRecOn generalizing t with
  | nil =>
    cases h
    exact hs
  | append_singleton inputs a ih =>
    obtain ⟨u, hu, ha⟩ := foldlM_concat.mp h
    exact hstep inputs u a t hu (ih hu) ha

lemma good_iff_keeps (Good : S → Prop) (Keeps : S → A → Prop) (Inv : S → Prop) (hs : Inv s ∧ Good s)
    (hinv : ∀ t a u, Inv t → step t a = some u → Inv u)
    (hgood : ∀ t a u, Inv t → Good t → step t a = some u → (Good u ↔ Keeps t a))
    (h : inputs.foldlM step s = some t) :
    (∀ (pre post : List A) u, inputs = pre ++ post → pre.foldlM step s = some u → Good u) ↔
      ∀ (pre : List A) a post u, inputs = pre ++ a :: post → pre.foldlM step s = some u → Keeps u a := by
  have hreach : ∀ (pre : List A) u, pre.foldlM step s = some u → Inv u := by
    intro pre u hu
    exact reached_invariant (fun t _ => Inv t) hs.1 (fun _ t a u _ hi ha => hinv t a u hi ha) hu
  refine ⟨?_, ?_⟩
  · intro hall pre a post u hsplit hu
    obtain ⟨u', hu', hrest⟩ := foldlM_append_some.mp (hsplit ▸ h)
    obtain rfl := Option.some.inj (hu.symm.trans hu')
    obtain ⟨w, hw, -⟩ := foldlM_cons_some.mp hrest
    have hnext := hall (pre ++ [a]) post w (by simp [hsplit]) (foldlM_concat.mpr ⟨u, hu, hw⟩)
    exact (hgood u a w (hreach pre u hu) (hall pre (a :: post) u hsplit hu) hw).mp hnext
  · intro hkeeps pre
    induction pre using List.reverseRecOn with
    | nil =>
      intro _ u _ hu
      cases hu
      exact hs.2
    | append_singleton pre a ih =>
      intro post u hsplit hu
      rw [List.append_assoc] at hsplit
      obtain ⟨w, hw, ha⟩ := foldlM_concat.mp hu
      exact (hgood w a u (hreach pre w hw) (ih _ w hsplit hw) ha).mpr (hkeeps pre a post w hsplit hw)

variable (step) (out : S → A → S → List B)

/-- What `out` makes of each step, up to where the machine is stuck. -/
def along (s : S) : List A → List B
  | [] => []
  | a :: inputs =>
    match step s a with
    | none => []
    | some t => out s a t ++ along t inputs

variable {step}

lemma along_append {first : List A} (h : first.foldlM step s = some t) (second : List A) :
    along step out s (first ++ second) = along step out s first ++ along step out t second := by
  induction first generalizing s with
  | nil =>
    cases h
    rfl
  | cons a first ih =>
    obtain ⟨u, hu, h⟩ := foldlM_cons_some.mp h
    rw [List.cons_append, along, along, hu]
    simp only [ih h, List.append_assoc]

lemma along_concat (h : inputs.foldlM step s = some t) (ha : step t a = some u) :
    along step out s (inputs ++ [a]) = along step out s inputs ++ out t a u := by
  rw [along_append out h, along, ha]
  simp only [along, List.append_nil]

end Traces

end TaskStubs.Library.Machines
