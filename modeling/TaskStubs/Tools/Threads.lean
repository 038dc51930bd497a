import TaskStubs.Tools.Ranges

/-! Commands of several threads, one call at a time. -/

namespace TaskStubs.Tools

open Stub Library.Lifo

inductive Command where
  | start (typeName : String)
  | stop

def Command.call : Command → RangeCall
  | .start typeName => .commandStart typeName
  | .stop => .commandStop

variable {τ : Type}

def calls (w : List (τ × Command)) : List RangeCall := w.map (fun c => c.2.call)

def brackets (w : List (τ × Command)) : List (τ × Bracket) := w.map (fun c => (c.1, c.2.call.bracket))

lemma brackets_snd (w : List (τ × Command)) :
    (brackets w).map Prod.snd = (calls w).map RangeCall.bracket := by
  rw [brackets, calls, List.map_map, List.map_map]
  rfl

variable [DecidableEq τ]

def ProperlyNested (w : List (τ × Command)) : Prop := ∀ t, NoUnderflow (projection t (brackets w))

/-- In `w` a thread starts a command after `u`, and the stop that matches it in the thread's own calls
comes after `v`. -/
structure Matching (w : List (τ × Command)) (t : τ) (u : List (τ × Command)) (typeName : String)
    (v : List (τ × Command)) : Prop where
  prefix_eq : u ++ (t, .start typeName) :: v ++ [(t, .stop)] <+: w
  balanced : Balanced (projection t (brackets v))

def CommandsPaired (observed : List (Call Pointer) → Option (List Observation))
    (w : List (τ × Command)) : Prop :=
  ∀ t u typeName v, Matching w t u typeName v →
    EndsItsRange observed (calls u) (.commandStart typeName) (calls v) .commandStop

def CommandsNested (w : List (τ × Command)) : Prop :=
  ∀ t u typeName v, Matching w t u typeName v → Balanced ((calls v).map RangeCall.bracket)

lemma noUnderflow_before {w u : List (τ × Command)} (rest : List (τ × Command))
    (h : ProperlyNested w) (hu : u ++ rest <+: w) : NoUnderflow ((calls u).map RangeCall.bracket) := by
  rw [← brackets_snd]
  apply noUnderflow_merge
  intro t
  obtain ⟨tail, rfl⟩ := hu
  have ht := h t
  rw [List.append_assoc, brackets, List.map_append, projection, List.filter_append,
    List.map_append] at ht
  exact noUnderflow_left ht

lemma commandsPaired_iff_nested {observed : List (Call Pointer) → Option (List Observation)}
    {createText : String → String} (runtime : Runtime)
    (hobs : ∀ w : List RangeCall, observed (w.map RangeCall.call) =
      (recorded runtime (w.map RangeCall.call)).map (List.map (Event.render createText)))
    {w : List (τ × Command)} (h : ProperlyNested w) : CommandsPaired observed w ↔ CommandsNested w := by
  refine ⟨?_, ?_⟩
  · intro hp t u typeName v hm
    have he := hp t u typeName v hm
    rw [ends_its_range_iff runtime hobs (calls u) (calls v) rfl rfl] at he
    exact he.2
  · intro hn t u typeName v hm
    apply (ends_its_range_iff runtime hobs (calls u) (calls v) rfl rfl).mpr
    refine ⟨?_, hn t u typeName v hm⟩
    apply noUnderflow_before ((t, .start typeName) :: v ++ [(t, .stop)]) h
    rw [← List.append_assoc]
    exact hm.prefix_eq

theorem commands_paired_iff (nvtx : Nvtx.Library) (roctx : Roctx.Library) (runtime : Runtime)
    (w : List (τ × Command)) (h : ProperlyNested w) :
    (CommandsPaired (Nvtx.observed nvtx runtime) w ↔ CommandsNested w) ∧
      (CommandsPaired (Roctx.observed roctx runtime) w ↔ CommandsNested w) :=
  ⟨commandsPaired_iff_nested runtime (nvtx_observed runtime nvtx) h,
    commandsPaired_iff_nested runtime (roctx_observed runtime roctx) h⟩

def overlapping : List (Bool × Command) :=
  [(false, .start "a"), (true, .start "b"), (false, .stop), (true, .stop)]

lemma overlapping_nested : ProperlyNested overlapping := by
  intro t
  cases t <;> decide

theorem commands_paired_iff_overlapping :
    ProperlyNested overlapping ∧
      (CommandsPaired (Nvtx.observed Nvtx.freshLibrary noSymbols) overlapping ↔
          CommandsNested overlapping) ∧
        (CommandsPaired (Roctx.observed Roctx.freshLibrary noSymbols) overlapping ↔
          CommandsNested overlapping) :=
  ⟨overlapping_nested, commands_paired_iff Nvtx.freshLibrary Roctx.freshLibrary noSymbols overlapping
    overlapping_nested⟩

theorem overlapping_commands :
    ProperlyNested overlapping ∧
      ¬ CommandsPaired (Nvtx.observed Nvtx.freshLibrary noSymbols) overlapping ∧
      ¬ CommandsPaired (Roctx.observed Roctx.freshLibrary noSymbols) overlapping := by
  have hm : Matching overlapping false [] "a" [(true, .start "b")] :=
    ⟨⟨[(true, .stop)], rfl⟩, by decide⟩
  refine ⟨?_, ?_, ?_⟩
  · intro t
    cases t <;> decide
  · intro h
    exact not_endsItsRange (k := 2) (b := []) (by decide)
      (d := [.rangeStart (some "a"), .rangeStart (some "b")]) (by decide) (by decide) (by decide)
      (h false _ _ _ hm)
  · intro h
    exact not_endsItsRange (k := 2) (b := []) (by decide)
      (d := [.rangeStart (some "a"), .rangeStart (some "b")]) (by decide) (by decide) (by decide)
      (h false _ _ _ hm)

end TaskStubs.Tools
