import TaskStubs.Stub.Provider

/-! The timers that the application holds, and which of them the stub hands to the tool. -/

namespace TaskStubs.Stub

open Library.Machines

/-- The application names a timer by the number of the create call that gave it. Beside each timer
stands whether a function of the tool was invoked to make it. -/
structure Application (S : Type) where
  stub : S
  timers : List (Pointer × Bool) := []

namespace Application

variable {S : Type} (step : S → Call Pointer → S × Option Pointer) (trace : S → List Invocation)

def passed (a : Application S) (c : Call ℕ) : Call Pointer :=
  c.mapTimer (fun k => (a.timers.getD k (null, false)).1)

@[simp] lemma passed_api (a : Application S) (c : Call ℕ) : (passed a c).api = c.api :=
  Call.api_mapTimer _ c

def call (a : Application S) (c : Call ℕ) : Application S :=
  let r := step a.stub (passed a c)
  { stub := r.1
    timers := a.timers ++ r.2.toList.map (fun t => (t, decide (trace r.1 ≠ trace a.stub))) }

def runs (s : S) (calls : List (Call ℕ)) : Application S :=
  calls.foldl (call step trace) { stub := s }

def NoPlaceholder (s : S) (calls : List (Call ℕ)) : Prop :=
  ∀ before c after, calls = before ++ c :: after → ∀ k, c.timer = some k →
    let a := runs step trace s before
    trace (step a.stub (passed a c)).1 ≠ trace a.stub → ∃ t, a.timers[k]? = some (t, true)

lemma runs_concat (s : S) (calls : List (Call ℕ)) (c : Call ℕ) :
    runs step trace s (calls ++ [c]) = call step trace (runs step trace s calls) c := by
  simp [runs]

end Application

def Provenance (trace : List Invocation) : Prop :=
  ∀ before i after, trace = before ++ i :: after → ∀ t, i.call.timer = some t →
    ∃ j ∈ before, j.call.api = .create ∧ j.result = t

def WellUsed (calls : List (Call ℕ)) : Prop :=
  ∀ before c after, calls = before ++ c :: after → ∀ k, c.timer = some k →
    k < before.countP (fun d => d.api = .create) ∧ Call.destroy k ∉ before

def createdHeard (heard : Bool) : List (Call ℕ) → List Bool
  | [] => []
  | c :: calls =>
    (if c.api = .create then [heard] else []) ++ createdHeard (heard || c.api = .init) calls

lemma provenance_concat {trace : List Invocation} {i : Invocation} (h : Provenance trace)
    (hi : ∀ t, i.call.timer = some t → ∃ j ∈ trace, j.call.api = .create ∧ j.result = t) :
    Provenance (trace ++ [i]) := by
  intro before k after hk t ht
  obtain rfl | ⟨after, last, rfl⟩ := after.eq_nil_or_concat
  · obtain ⟨rfl, hl⟩ := List.append_inj' hk rfl
    obtain rfl := List.singleton_inj.mp hl
    exact hi t ht
  · rw [List.concat_eq_append, ← List.cons_append, ← List.append_assoc] at hk
    obtain ⟨rfl, -⟩ := List.append_inj' hk rfl
    exact h before k after rfl t ht

lemma createdHeard_concat (heard : Bool) (calls : List (Call ℕ)) (c : Call ℕ) :
    createdHeard heard (calls ++ [c]) = createdHeard heard calls ++
      if c.api = .create then [heard || calls.any (fun d => d.api = .init)] else [] := by
  induction calls generalizing heard with
  | nil => simp [createdHeard]
  | cons d calls ih => simp [createdHeard, ih, Bool.or_assoc]

section Forwarder

open Application

variable {σ : Type} (exported : Api → Option FunctionPointer) (tool : Tool σ)

/-- Every timer the application passes to the tool stems from a create call that the tool heard. -/
def TimersHeard (calls : List (Call ℕ)) : Prop :=
  exported .init = none ∨
    ∀ before c after, calls = before ++ c :: after → ∀ k, c.timer = some k →
      Call.init ∈ before → (exported c.api).isSome →
        (exported .create).isSome ∧ (createdHeard false before)[k]? = some true

lemma step_trace_ne (a : Forwarder σ) (c : Call Pointer) :
    (Forwarder.step exported tool a c).1.trace ≠ a.trace ↔
      (Forwarder.target exported a c.api).isSome := by
  rw [Forwarder.step]
  cases Forwarder.target exported a c.api <;> simp

lemma step_answer (a : Forwarder σ) (c : Call Pointer) :
    (Forwarder.step exported tool a c).2.isSome = decide (c.api = .create) := by
  rw [Forwarder.step]
  cases Forwarder.target exported a c.api <;>
    by_cases hc : c.api = .create <;> simp [Forwarder.unheard, Forwarder.heard, hc]

lemma step_trace (a : Forwarder σ) (c : Call Pointer) :
    (Forwarder.step exported tool a c).1.trace = a.trace ∨
      ∃ func result, (Forwarder.step exported tool a c).1.trace = a.trace ++ [⟨func, c, result⟩] := by
  rw [Forwarder.step]
  cases Forwarder.target exported a c.api with
  | none => exact Or.inl rfl
  | some func => exact Or.inr ⟨func, _, rfl⟩

lemma step_trace_subset (a : Forwarder σ) (c : Call Pointer) :
    a.trace ⊆ (Forwarder.step exported tool a c).1.trace := by
  obtain ht | ⟨func, result, ht⟩ := step_trace exported tool a c <;> simp [ht]

lemma step_created {a : Forwarder σ} {c : Call Pointer} {t : Pointer}
    (h : (Forwarder.step exported tool a c).2 = some t)
    (hne : (Forwarder.step exported tool a c).1.trace ≠ a.trace) :
    ∃ j ∈ (Forwarder.step exported tool a c).1.trace, j.call.api = .create ∧ j.result = t := by
  rw [Forwarder.step] at h hne ⊢
  cases ht : Forwarder.target exported a c.api with
  | none => simp [ht] at hne
  | some func =>
    simp only [ht, Forwarder.heard] at h ⊢
    split_ifs at h with hc
    exact ⟨_, List.mem_append_right _ (List.mem_singleton_self _), hc, Option.some.inj h⟩

variable (s : σ)

lemma runs_loaded (calls : List (Call ℕ)) :
    (runs (Forwarder.step exported tool) Forwarder.trace { tool := s } calls).stub.loaded =
      (calls.any (fun c => c.api = .init) && (exported .init).isSome) := by
  induction calls using List.reverseRecOn with
  | nil => rfl
  | append_singleton calls c ih =>
    rw [runs_concat]
    change (Forwarder.step exported tool _ _).1.loaded = _
    rw [Forwarder.step_loaded, ih, passed_api, List.any_append,
      Bool.and_or_distrib_right]
    simp

lemma runs_timers (calls : List (Call ℕ)) :
    (runs (Forwarder.step exported tool) Forwarder.trace { tool := s } calls).timers.map Prod.snd =
      (createdHeard false calls).map
        (fun heard => heard && (exported .init).isSome && (exported .create).isSome) := by
  induction calls using List.reverseRecOn with
  | nil => rfl
  | append_singleton calls c ih =>
    rw [runs_concat, createdHeard_concat, List.map_append, ← ih]
    have hl := runs_loaded exported tool s calls
    generalize runs (Forwarder.step exported tool) Forwarder.trace { tool := s } calls = a at hl
    have ha := step_answer exported tool a.stub (passed a c)
    have hn := step_trace_ne exported tool a.stub (passed a c)
    rw [passed_api] at ha hn
    rw [call, List.map_append]
    congr 1
    by_cases hc : c.api = .create
    · obtain ⟨t, ht⟩ := Option.isSome_iff_exists.mp (ha.trans (decide_eq_true hc))
      have hd : decide ((Forwarder.step exported tool a.stub (passed a c)).1.trace ≠ a.stub.trace) =
          (calls.any (fun d => d.api = .init) && (exported .init).isSome &&
            (exported .create).isSome) := by
        rw [Bool.eq_iff_iff, decide_eq_true_iff, hn, Forwarder.target, hc, hl]
        by_cases hi : (calls.any (fun d => d.api = .init) && (exported .init).isSome) = true
        · simp [hi]
        · simp [hi]
      simp [ht, hc, hd]
    · have hnone : (Forwarder.step exported tool a.stub (passed a c)).2 = none := by
        simpa [hc] using ha
      simp [hnone, hc]

lemma timers_made (calls : List (Call ℕ)) :
    let a := runs (Forwarder.step exported tool) Forwarder.trace { tool := s } calls
    ∀ t, (t, true) ∈ a.timers → ∃ j ∈ a.stub.trace, j.call.api = .create ∧ j.result = t := by
  induction calls using List.reverseRecOn with
  | nil => simp [runs]
  | append_singleton calls c ih =>
    rw [runs_concat]
    generalize runs (Forwarder.step exported tool) Forwarder.trace { tool := s } calls = a at ih
    intro b t ht
    obtain ht | ht := List.mem_append.mp ht
    · obtain ⟨j, hj, hc⟩ := ih t ht
      exact ⟨j, step_trace_subset exported tool a.stub _ hj, hc⟩
    · obtain ⟨u, hu, hut⟩ := List.mem_map.mp ht
      obtain ⟨rfl, hne⟩ := Prod.mk.inj hut
      exact step_created exported tool (Option.mem_toList.mp hu) (of_decide_eq_true hne)

lemma noPlaceholder_left {S : Type} {step : S → Call Pointer → S × Option Pointer}
    {trace : S → List Invocation} {s : S} {calls : List (Call ℕ)} {c : Call ℕ}
    (h : NoPlaceholder step trace s (calls ++ [c])) : NoPlaceholder step trace s calls := by
  intro before d after hd
  apply h before d (after ++ [c])
  simp [hd]

lemma provenance_of_noPlaceholder (calls : List (Call ℕ))
    (h : NoPlaceholder (Forwarder.step exported tool) Forwarder.trace { tool := s } calls) :
    Provenance (runs (Forwarder.step exported tool) Forwarder.trace { tool := s } calls).stub.trace := by
  induction calls using List.reverseRecOn with
  | nil =>
    intro before i after hi
    simp [runs] at hi
  | append_singleton calls c ih =>
    -- a call that reaches the tool carries a timer that the tool made before this call
    have hp := ih (noPlaceholder_left h)
    have hc := h calls c [] rfl
    have hm := timers_made exported tool s calls
    rw [runs_concat]
    generalize runs (Forwarder.step exported tool) Forwarder.trace { tool := s } calls = a at hp hc hm
    change Provenance (Forwarder.step exported tool a.stub (passed a c)).1.trace
    obtain ht | ⟨func, result, ht⟩ := step_trace exported tool a.stub (passed a c)
    · rw [ht]
      exact hp
    · rw [ht]
      apply provenance_concat hp
      intro t hi
      rw [passed, Call.timer_mapTimer] at hi
      obtain ⟨k, hk, rfl⟩ := Option.map_eq_some_iff.mp hi
      obtain ⟨t, hu⟩ := hc k hk (by simp [ht])
      have hv : a.timers.getD k (null, false) = (t, true) := by
        rw [List.getD_eq_getElem?_getD, hu, Option.getD_some]
      rw [hv]
      exact hm t (List.mem_of_getElem? hu)

lemma reaches_iff (before : List (Call ℕ)) {c : Call ℕ} {k : ℕ} (hk : c.timer = some k) :
    let a := runs (Forwarder.step exported tool) Forwarder.trace { tool := s } before
    (Forwarder.step exported tool a.stub (passed a c)).1.trace ≠ a.stub.trace ↔
      Call.init ∈ before ∧ (exported .init).isSome ∧ (exported c.api).isSome := by
  intro a
  have hc : c.api ≠ .init := by
    intro hi
    rw [Call.api_eq_init hi] at hk
    cases hk
  have hany : before.any (fun d => d.api = .init) = true ↔ Call.init ∈ before := by
    rw [List.any_eq_true]
    refine ⟨?_, ?_⟩
    · rintro ⟨d, hd, hi⟩
      rwa [← Call.api_eq_init (of_decide_eq_true hi)]
    · intro hi
      exact ⟨.init, hi, rfl⟩
  rw [step_trace_ne, passed_api, Forwarder.target, runs_loaded, ← hany]
  by_cases hl : (before.any (fun d => d.api = .init) && (exported .init).isSome) = true
  · rw [if_pos (Or.inr hl)]
    rw [Bool.and_eq_true] at hl
    simp [hl]
  · rw [if_neg (by simp [hc, hl])]
    rw [Bool.and_eq_true, not_and] at hl
    refine ⟨?_, ?_⟩
    · intro hn
      cases hn
    · rintro ⟨hb, hi, -⟩
      exact absurd hi (hl hb)

lemma made_iff (before : List (Call ℕ)) (k : ℕ) :
    (∃ t, (runs (Forwarder.step exported tool) Forwarder.trace { tool := s } before).timers[k]? =
        some (t, true)) ↔
      (createdHeard false before)[k]? = some true ∧ (exported .init).isSome ∧
        (exported .create).isSome := by
  have hr := congrArg (fun l => l[k]? = some true) (runs_timers exported tool s before)
  simp only [List.getElem?_map, Option.map_eq_some_iff, Prod.exists, Bool.and_eq_true] at hr
  refine ⟨?_, ?_⟩
  · rintro ⟨t, ht⟩
    obtain ⟨heard, hh, ⟨rfl, hi⟩, hc⟩ := hr.mp ⟨t, true, ht, rfl⟩
    exact ⟨hh, hi, hc⟩
  · rintro ⟨hh, hi, hc⟩
    obtain ⟨t, _, ht, rfl⟩ := hr.mpr ⟨true, hh, ⟨rfl, hi⟩, hc⟩
    exact ⟨t, ht⟩

lemma noPlaceholder_iff (calls : List (Call ℕ)) :
    NoPlaceholder (Forwarder.step exported tool) Forwarder.trace { tool := s } calls ↔
      TimersHeard exported calls := by
  cases hi : exported .init with
  | none =>
    refine iff_of_true ?_ (Or.inl hi)
    intro before c after _ k hk a hreach
    have hr := ((reaches_iff exported tool s before hk).mp hreach).2.1
    simp [hi] at hr
  | some func =>
    refine ⟨?_, ?_⟩
    · intro h
      apply Or.inr
      intro before c after hs k hk hb hc
      have hreach := (reaches_iff exported tool s before hk).mpr ⟨hb, by simp [hi], hc⟩
      obtain ⟨hh, -, hcreate⟩ := (made_iff exported tool s before k).mp (h before c after hs k hk hreach)
      exact ⟨hcreate, hh⟩
    · intro h before c after hs k hk a hreach
      obtain ⟨hb, hi', hc⟩ := (reaches_iff exported tool s before hk).mp hreach
      obtain hn | h := h
      · simp [hi] at hn
      · obtain ⟨hcreate, hh⟩ := h before c after hs k hk hb hc
        exact (made_iff exported tool s before k).mpr ⟨hh, hi', hcreate⟩

end Forwarder

open Application

variable {σ : Type} (env : Linker) (tool : Tool σ)

lemma runs_refines (s : σ) (calls : List (Call ℕ)) :
    let a := runs (apiCall env tool) Process.trace (Process.start s) calls
    let b := runs (Forwarder.step (exported env) tool) Forwarder.trace { tool := s } calls
    a.timers = b.timers ∧ Refines env a.stub b.stub := by
  induction calls using List.reverseRecOn with
  | nil => exact ⟨rfl, start_refines env s⟩
  | append_singleton calls c ih =>
    obtain ⟨ht, hr⟩ := ih
    intro a b
    simp only [a, b, runs_concat]
    generalize runs (apiCall env tool) Process.trace (Process.start s) calls = p at ht hr
    generalize runs (Forwarder.step (exported env) tool) Forwarder.trace { tool := s } calls = q at ht hr
    have hp : passed p c = passed q c := by rw [passed, passed, ht]
    obtain ⟨ha, hn⟩ := apiCall_refines env tool p.stub q.stub (passed q c) hr
    simp only [call, hp, ha]
    exact ⟨by rw [ht, hn.trace_eq, hr.trace_eq], hn⟩

lemma runs_reaches (s : σ) (before : List (Call ℕ)) (c : Call ℕ) :
    let a := runs (apiCall env tool) Process.trace (Process.start s) before
    let b := runs (Forwarder.step (exported env) tool) Forwarder.trace { tool := s } before
    (apiCall env tool a.stub (passed a c)).1.trace = a.stub.trace ↔
      (Forwarder.step (exported env) tool b.stub (passed b c)).1.trace = b.stub.trace := by
  intro a b
  obtain ⟨ht, hr⟩ := runs_refines env tool s before
  have hp : passed a c = passed b c := by rw [passed, passed, ht]
  have hs := (apiCall_refines env tool a.stub b.stub (passed b c) hr).2.trace_eq
  rw [hp, hs, hr.trace_eq]

lemma noPlaceholder_refines (s : σ) (calls : List (Call ℕ)) :
    NoPlaceholder (apiCall env tool) Process.trace (Process.start s) calls ↔
      NoPlaceholder (Forwarder.step (exported env) tool) Forwarder.trace { tool := s } calls := by
  refine ⟨?_, ?_⟩
  · intro h before c after hs k hk b hreach
    rw [← (runs_refines env tool s before).1]
    apply h before c after hs k hk
    exact (runs_reaches env tool s before c).not.mpr hreach
  · intro h before c after hs k hk a hreach
    rw [(runs_refines env tool s before).1]
    apply h before c after hs k hk
    exact (runs_reaches env tool s before c).not.mp hreach

theorem timers_iff (calls : List (Call ℕ)) (s : σ) :
    let a := runs (apiCall env tool) Process.trace (Process.start s) calls
    Provenance a.stub.trace ∧
        NoPlaceholder (apiCall env tool) Process.trace (Process.start s) calls ↔
      TimersHeard (exported env) calls := by
  intro a
  rw [noPlaceholder_refines, ← noPlaceholder_iff (exported env) tool s calls,
    (runs_refines env tool s calls).2.trace_eq]
  exact and_iff_right_of_imp (provenance_of_noPlaceholder (exported env) tool s calls)

theorem placeholder_forwarded :
    let calls : List (Call ℕ) := [.create null (some "task") 0 none 0, .init, .start 0 none]
    let a := runs (apiCall completeLibrary countingTool) Process.trace (Process.start 0) calls
    WellUsed calls ∧
      a.stub.trace = [⟨⟨1, "tasktimer_initialize_impl"⟩, .init, 1⟩,
        ⟨⟨1, "tasktimer_start_impl"⟩, .start null none, 2⟩] ∧
      ¬ Provenance a.stub.trace := by
  intro calls a
  have htrace : a.stub.trace = [⟨⟨1, "tasktimer_initialize_impl"⟩, .init, 1⟩,
      ⟨⟨1, "tasktimer_start_impl"⟩, .start null none, 2⟩] := by decide
  refine ⟨?_, htrace, ?_⟩
  · intro before c after h k hk
    rcases before with _ | ⟨b₁, _ | ⟨b₂, _ | ⟨b₃, before⟩⟩⟩ <;>
      simp only [calls, List.nil_append, List.cons_append, List.cons.injEq] at h
    · obtain ⟨rfl, -⟩ := h
      cases hk
    · obtain ⟨-, rfl, -⟩ := h
      cases hk
    · obtain ⟨rfl, rfl, rfl, -⟩ := h
      obtain rfl := Option.some.inj hk
      decide
    · simp at h
  · rw [htrace]
    intro h
    obtain ⟨j, hj, hc, -⟩ := h [⟨⟨1, "tasktimer_initialize_impl"⟩, .init, 1⟩] _ [] rfl null rfl
    obtain rfl := List.mem_singleton.mp hj
    cases hc

end TaskStubs.Stub
