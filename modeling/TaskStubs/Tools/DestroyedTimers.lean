import TaskStubs.Tools.RangeProtocol

/-! What is left of a timer's range when the timer is destroyed. -/

namespace TaskStubs.Tools

open Stub Function Library.Handles Library.Insertion Library.Machines

def NoneOutlives (ranges : List (Call Pointer) → List (Option Pointer × Act ℕ))
    (calls : List (Call Pointer)) : Prop :=
  ∀ pre post, calls = pre ++ post → ∀ p, .destroy p ∈ pre → ∀ id, (some p, id) ∉ held (ranges pre)

def StoppedFirst (calls : List (Call Pointer)) : Prop :=
  ∀ pre p post, calls = pre ++ .destroy p :: post → ¬ LastOpens p pre

section Vendors

variable {V A : Type} {vendor : Vendor V A} {runtime : Runtime} {entries : V → List Entry} {s s' : ToolState V A}
  {c : Call Pointer} {calls : List (Call Pointer)} {acts : List (Option Pointer × Act ℕ)}

def Gone (p : Pointer) (s : ToolState V A) : Prop := s.timers p = none ∧ p < s.nextTimer

lemma Tracks.gone (h : Tracks entries s calls acts) {p : Pointer} (hs : deleteTimer vendor p s = some s') :
    Gone p s' := by
  rcases deleteTimer_cases hs with ⟨rfl, rfl⟩ | ⟨hp, t, ht, rfl⟩
  · exact ⟨h.unused _ (Or.inl rfl), h.next_pos⟩
  · refine ⟨update_self .., ?_⟩
    by_contra hn
    rw [h.unused p (Or.inr (not_lt.mp hn))] at ht
    cases ht

lemma callback_frame {q : Pointer} (hr : rangeTimer c = some q)
    (hs : callback vendor runtime s c = some s') :
    (∃ t, s.timers q = some t) ∧ (∀ p, p ≠ q → s'.timers p = s.timers p) ∧ s'.nextTimer = s.nextTimer := by
  have hopen : openRange vendor q s = some s' → (∃ t, s.timers q = some t) ∧
      (∀ p, p ≠ q → s'.timers p = s.timers p) ∧ s'.nextTimer = s.nextTimer := by
    intro h
    obtain ⟨t, ht, ⟨-, rfl⟩ | ⟨-, rfl⟩⟩ := openRange_cases h
    · exact ⟨⟨t, ht⟩, fun p hp => update_of_ne hp _ _, rfl⟩
    · exact ⟨⟨t, ht⟩, fun _ _ => rfl, rfl⟩
  have hclose : closeRange vendor q s = some s' → (∃ t, s.timers q = some t) ∧
      (∀ p, p ≠ q → s'.timers p = s.timers p) ∧ s'.nextTimer = s.nextTimer := by
    intro h
    obtain ⟨t, ht, ⟨-, rfl⟩ | ⟨-, rfl⟩⟩ := closeRange_cases h
    · exact ⟨⟨t, ht⟩, fun p hp => update_of_ne hp _ _, rfl⟩
    · exact ⟨⟨t, ht⟩, fun _ _ => rfl, rfl⟩
  cases c with
  | start | resume => cases hr; exact hopen hs
  | yield | stop => cases hr; exact hclose hs
  | _ => cases hr

lemma callback_gone (hv : KeepsLog vendor entries) {p : Pointer} (hg : Gone p s) (hc : OnTimers c)
    (hs : callback vendor runtime s c = some s') : rangeTimer c ≠ some p ∧ Gone p s' := by
  obtain ⟨hnone, hlt⟩ := hg
  cases hr : rangeTimer c with
  | none =>
    have hq := quiet_callback hv hc hr hs
    refine ⟨by simp, ?_, lt_of_lt_of_le hlt hq.next_le⟩
    by_contra hne
    obtain ⟨t, ht⟩ := Option.ne_none_iff_exists'.mp hne
    rcases hq.timers p t ht with ht | ⟨rfl, -, -⟩
    · rw [hnone] at ht
      cases ht
    · exact lt_irrefl _ hlt
  | some q =>
    obtain ⟨⟨t, ht⟩, hframe, hnext⟩ := callback_frame hr hs
    have hne : p ≠ q := by
      rintro rfl
      rw [hnone] at ht
      cases ht
    exact ⟨fun h => hne (Option.some.inj h).symm, (hframe p hne).trans hnone, hnext ▸ hlt⟩

lemma lastOpens_gone (hv : KeepsLog vendor entries) {p : Pointer} (hg : Gone p s)
    {mid : List (Call Pointer)} (hcalls : ∀ c ∈ mid, OnTimers c)
    (hs : callbacks vendor runtime s mid = some s') (pre : List (Call Pointer)) :
    LastOpens p (pre ++ mid) ↔ LastOpens p pre := by
  induction mid generalizing s pre with
  | nil => rw [List.append_nil]
  | cons c mid ih =>
    obtain ⟨t, ht, hs⟩ := callbacks_cons.mp hs
    obtain ⟨hr, hg⟩ := callback_gone hv hg (hcalls c List.mem_cons_self) ht
    rw [List.append_cons, ih hg (fun d hd => hcalls d (List.mem_cons_of_mem c hd)) hs, lastOpens_skip hr]

lemma noneOutlives_iff (hv : KeepsLog vendor entries) {v : V} (hcalls : ∀ c ∈ calls, OnTimers c)
    (hs : callbacks vendor runtime { vendor := v } calls = some s) :
    NoneOutlives (timerRanges vendor runtime entries { vendor := v }) calls ↔ StoppedFirst calls := by
  have hprefix : ∀ pre post, calls = pre ++ post → ∃ u,
      callbacks vendor runtime { vendor := v } pre = some u ∧
        Tracks entries u pre (timerRanges vendor runtime entries { vendor := v } pre) := by
    rintro pre post rfl
    obtain ⟨u, hu, -⟩ := callbacks_append.mp hs
    exact ⟨u, hu, callbacks_tracks hv (fun c hc => hcalls c (List.mem_append_left _ hc)) hu⟩
  refine ⟨?_, ?_⟩
  · intro h pre p post hsplit hlast
    rw [List.append_cons] at hsplit
    obtain ⟨u, -, htracks⟩ := hprefix _ _ hsplit
    rw [← lastOpens_skip (c := .destroy p) (by simp [rangeTimer]), ← htracks.last p] at hlast
    obtain ⟨id, hid⟩ := hlast
    exact h _ _ hsplit p (by simp) id hid
  · intro h pre post hsplit p hp id hid
    obtain ⟨first, mid, rfl⟩ := List.append_of_mem hp
    obtain ⟨u, hu, htracks⟩ := hprefix _ _ hsplit
    have hlast := (htracks.last p).mp ⟨id, hid⟩
    obtain ⟨t, ht, hrest⟩ := callbacks_append.mp hu
    obtain ⟨w, hw, hmid⟩ := callbacks_cons.mp hrest
    rw [List.append_assoc] at hsplit
    obtain ⟨t', ht', hfirst⟩ := hprefix _ _ hsplit
    obtain rfl := Option.some.inj (ht.symm.trans ht')
    have hg : Gone p w := hfirst.gone hw
    rw [List.append_cons, lastOpens_gone hv hg (fun c hc => hcalls c (by rw [hsplit]; simp [hc])) hmid,
      lastOpens_skip (by simp [rangeTimer])] at hlast
    exact h first p (mid ++ post) hsplit hlast

end Vendors

variable (runtime : Runtime) (nvtx : Nvtx.Library) (roctx : Roctx.Library)

theorem none_outlives_iff (calls : List (Call Pointer)) (hcalls : ∀ c ∈ calls, OnTimers c) :
    (∀ v s, callbacks (Nvtx.vendor nvtx) runtime { vendor := v } calls = some s →
      (NoneOutlives (nvtxRanges runtime nvtx v) calls ↔ StoppedFirst calls)) ∧
    ∀ v s, callbacks (Roctx.vendor roctx) runtime { vendor := v } calls = some s →
      (NoneOutlives (roctxRanges runtime roctx v) calls ↔ StoppedFirst calls) := by
  refine ⟨?_, ?_⟩
  · intro v s hs
    exact noneOutlives_iff (nvtx_keepsLog nvtx) hcalls hs
  · intro v s hs
    exact noneOutlives_iff (roctx_keepsLog roctx) hcalls hs

def destroyedStopped : List (Call Pointer) :=
  [.create null (some "a") 1 none 0, .start 1 none, .stop 1, .destroy 1]

lemma destroyedStopped_stoppedFirst : StoppedFirst destroyedStopped := by
  intro pre p post hsplit
  rcases pre with _ | ⟨a, _ | ⟨b, _ | ⟨c, _ | ⟨d, pre⟩⟩⟩⟩ <;>
    simp only [destroyedStopped, List.cons_append, List.nil_append, List.cons.injEq, reduceCtorEq,
      false_and, and_false, List.nil_eq, List.append_eq_nil_iff] at hsplit
  obtain ⟨rfl, rfl, rfl, hp, -⟩ := hsplit
  cases hp
  simp [LastOpens, lastOf, rangeTimer, Call.api]

theorem none_outlives_iff_stopped :
    ((callbacks (Nvtx.vendor Nvtx.freshLibrary) noSymbols { vendor := {} } destroyedStopped).isSome ∧
      NoneOutlives (nvtxRanges noSymbols Nvtx.freshLibrary {}) destroyedStopped) ∧
    (callbacks (Roctx.vendor Roctx.freshLibrary) noSymbols { vendor := [] } destroyedStopped).isSome ∧
      NoneOutlives (roctxRanges noSymbols Roctx.freshLibrary []) destroyedStopped := by
  obtain ⟨hn, hr⟩ :=
    none_outlives_iff noSymbols Nvtx.freshLibrary Roctx.freshLibrary destroyedStopped (by decide)
  have hnvtx : (callbacks (Nvtx.vendor Nvtx.freshLibrary) noSymbols { vendor := {} } destroyedStopped).isSome := by
    decide +kernel
  have hroctx : (callbacks (Roctx.vendor Roctx.freshLibrary) noSymbols { vendor := [] } destroyedStopped).isSome := by
    decide +kernel
  obtain ⟨s, hs⟩ := Option.isSome_iff_exists.mp hnvtx
  obtain ⟨t, ht⟩ := Option.isSome_iff_exists.mp hroctx
  exact ⟨⟨hnvtx, (hn {} s hs).mpr destroyedStopped_stoppedFirst⟩, hroctx,
    (hr [] t ht).mpr destroyedStopped_stoppedFirst⟩

def destroyedRunning : List (Call Pointer) :=
  [.create null (some "a") 1 none 0, .start 1 none, .destroy 1]

theorem range_outlives_timer :
    (∀ c ∈ destroyedRunning, OnTimers c) ∧
    ((callbacks (Nvtx.vendor Nvtx.freshLibrary) noSymbols { vendor := {} } destroyedRunning).isSome ∧
      ¬ NoneOutlives (nvtxRanges noSymbols Nvtx.freshLibrary {}) destroyedRunning) ∧
    (callbacks (Roctx.vendor Roctx.freshLibrary) noSymbols { vendor := [] } destroyedRunning).isSome ∧
      ¬ NoneOutlives (roctxRanges noSymbols Roctx.freshLibrary []) destroyedRunning := by
  refine ⟨by decide, ⟨by decide +kernel, ?_⟩, by decide +kernel, ?_⟩
  · intro h
    exact h destroyedRunning [] (List.append_nil _).symm 1 (by decide) 1 (by decide +kernel)
  · intro h
    exact h destroyedRunning [] (List.append_nil _).symm 1 (by decide) 1 (by decide +kernel)

end TaskStubs.Tools
