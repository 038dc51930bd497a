import TaskStubs.Tools.Ranges

/-! Data transfers, paired by their GUID. -/

namespace TaskStubs.Tools

open Stub Library.Lifo

structure Transfer (guid : UInt64) (w u : List RangeCall) (start : RangeCall) (v : List RangeCall)
    (stop : RangeCall) : Prop where
  prefix_eq : u ++ start :: v ++ [stop] <+: w
  start_transfer : start.transfer = some guid
  start_bracket : start.bracket = .opening
  stop_transfer : stop.transfer = some guid
  stop_bracket : stop.bracket = .closing
  between : ∀ c ∈ v, c.transfer ≠ some guid

def StartedAndStoppedOnce (w : List RangeCall) : Prop :=
  ∀ guid, w.filter (fun c => c.transfer = some guid) = [] ∨
    ∃ start stop, w.filter (fun c => c.transfer = some guid) = [start, stop] ∧
      start.bracket = .opening ∧ stop.bracket = .closing

def TransfersPaired (observed : List (Call Pointer) → Option (List Observation))
    (w : List RangeCall) : Prop :=
  ∀ guid u start v stop, Transfer guid w u start v stop → EndsItsRange observed u start v stop

def TransfersNested (w : List RangeCall) : Prop :=
  ∀ guid u start v stop, Transfer guid w u start v stop →
    NoUnderflow (u.map RangeCall.bracket) ∧ Balanced (v.map RangeCall.bracket)

lemma transfersPaired_iff_nested {observed : List (Call Pointer) → Option (List Observation)}
    {createText : String → String} (runtime : Runtime)
    (hobs : ∀ w : List RangeCall, observed (w.map RangeCall.call) =
      (recorded runtime (w.map RangeCall.call)).map (List.map (Event.render createText)))
    (w : List RangeCall) : TransfersPaired observed w ↔ TransfersNested w := by
  refine ⟨?_, ?_⟩
  · intro h guid u start v stop ht
    apply (ends_its_range_iff runtime hobs u v ht.start_bracket ht.stop_bracket).mp
    exact h guid u start v stop ht
  · intro h guid u start v stop ht
    apply (ends_its_range_iff runtime hobs u v ht.start_bracket ht.stop_bracket).mpr
    exact h guid u start v stop ht

theorem transfers_paired_iff (nvtx : Nvtx.Library) (roctx : Roctx.Library) (runtime : Runtime)
    (w : List RangeCall) :
    (TransfersPaired (Nvtx.observed nvtx runtime) w ↔ TransfersNested w) ∧
      (TransfersPaired (Roctx.observed roctx runtime) w ↔ TransfersNested w) :=
  ⟨transfersPaired_iff_nested runtime (nvtx_observed runtime nvtx) w,
    transfersPaired_iff_nested runtime (roctx_observed runtime roctx) w⟩

def hostToDevice (guid : UInt64) : RangeCall :=
  .transferStart guid ⟨.cpu, 0, 0⟩ none null ⟨.gpu, 0, 0⟩ none null

lemma overlapping_once : StartedAndStoppedOnce
    [hostToDevice 1, hostToDevice 2, .transferStop 1, .transferStop 2] := by
  intro guid
  by_cases h₁ : guid = 1
  · subst h₁
    exact Or.inr ⟨hostToDevice 1, .transferStop 1, by decide, rfl, rfl⟩
  · by_cases h₂ : guid = 2
    · subst h₂
      exact Or.inr ⟨hostToDevice 2, .transferStop 2, by decide, rfl, rfl⟩
    · left
      simp [hostToDevice, RangeCall.transfer, Ne.symm h₁, Ne.symm h₂]

theorem overlapping_transfers :
    let w := [hostToDevice 1, hostToDevice 2, .transferStop 1, .transferStop 2]
    let nvtx := Nvtx.observed Nvtx.freshLibrary noSymbols
    let roctx := Roctx.observed Roctx.freshLibrary noSymbols
    let shown := some [.rangeStart (some "Data Transfer CPU 0,0 -> GPU 0,0"),
      .rangeStart (some "Data Transfer CPU 0,0 -> GPU 0,0"), .rangeEnd (some 2), .rangeEnd (some 1)]
    StartedAndStoppedOnce w ∧ nvtx (w.map RangeCall.call) = shown ∧
      roctx (w.map RangeCall.call) = shown ∧ ¬ TransfersPaired nvtx w ∧ ¬ TransfersPaired roctx w := by
  intro w nvtx roctx shown
  have htransfer : Transfer 1 w [] (hostToDevice 1) [hostToDevice 2] (.transferStop 1) :=
    ⟨⟨[.transferStop 2], rfl⟩, rfl, rfl, rfl, rfl, by decide⟩
  refine ⟨overlapping_once, by decide, by decide, ?_, ?_⟩
  · intro h
    exact not_endsItsRange (k := 2) (b := []) (by decide)
      (d := [.rangeStart (some "Data Transfer CPU 0,0 -> GPU 0,0"),
        .rangeStart (some "Data Transfer CPU 0,0 -> GPU 0,0")]) (by decide) (by decide) (by decide)
      (h 1 _ _ _ _ htransfer)
  · intro h
    exact not_endsItsRange (k := 2) (b := []) (by decide)
      (d := [.rangeStart (some "Data Transfer CPU 0,0 -> GPU 0,0"),
        .rangeStart (some "Data Transfer CPU 0,0 -> GPU 0,0")]) (by decide) (by decide) (by decide)
      (h 1 _ _ _ _ htransfer)

end TaskStubs.Tools
