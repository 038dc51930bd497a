import TaskStubs.Tools.Ranges
import TaskStubs.Tools.Stubbed

/-! Stops on an empty stack. The stub drops the calls before the first initialize, so the tool misses
a start that comes before it and still gets the stop that comes after it. -/

namespace TaskStubs.Tools

open Stub Function Library Library.Lifo Library.Machines

def rangeBracket : Call Pointer → Option Bracket
  | .dataTransferStart .. => some .opening
  | .commandStart _ => some .opening
  | .dataTransferStop _ => some .closing
  | .commandStop => some .closing
  | _ => none

def rangeBrackets (calls : List (Call Pointer)) : List Bracket := calls.filterMap rangeBracket

lemma rangeBrackets_append (u v : List (Call Pointer)) :
    rangeBrackets (u ++ v) = rangeBrackets u ++ rangeBrackets v := List.filterMap_append

section Stack

variable {V A : Type} (vendor : Vendor V A) (runtime : Runtime)

lemma openRange_stack {p : Pointer} {s s' : ToolState V A} (h : openRange vendor p s = some s') :
    s'.timerStack = s.timerStack := by
  obtain ⟨t, -, ⟨-, rfl⟩ | ⟨-, rfl⟩⟩ := openRange_cases h <;> rfl

lemma closeRange_stack {p : Pointer} {s s' : ToolState V A} (h : closeRange vendor p s = some s') :
    s'.timerStack = s.timerStack := by
  obtain ⟨t, -, ⟨-, rfl⟩ | ⟨-, rfl⟩⟩ := closeRange_cases h <;> rfl

lemma deleteTimer_stack {p : Pointer} {s s' : ToolState V A} (h : deleteTimer vendor p s = some s') :
    s'.timerStack = s.timerStack := by
  obtain ⟨-, rfl⟩ | ⟨-, t, -, rfl⟩ := deleteTimer_cases h <;> rfl

lemma pushTimer_stack {name : String} {guid : UInt64} {s s' : ToolState V A}
    (h : pushTimer vendor name guid s = some s') : s'.timerStack = s.nextTimer :: s.timerStack :=
  openRange_stack vendor h

lemma popTimer_stack {s s' : ToolState V A} (h : popTimer vendor s = some s') :
    ∃ p, s.timerStack = p :: s'.timerStack := by
  obtain ⟨p, rest, hs, hclose⟩ := popTimer_cases h
  exact ⟨p, by rw [closeRange_stack vendor hclose, hs]⟩

lemma callback_depth {s s' : ToolState V A} {c : Call Pointer}
    (h : callback vendor runtime s c = some s') :
    depth s.timerStack.length (rangeBracket c).toList = some s'.timerStack.length := by
  have hpush : ∀ {name guid}, pushTimer vendor name guid s = some s' →
      depth s.timerStack.length [.opening] = some s'.timerStack.length := by
    intro name guid hp
    rw [pushTimer_stack vendor hp]
    rfl
  have hpop : popTimer vendor s = some s' →
      depth s.timerStack.length [.closing] = some s'.timerStack.length := by
    intro hp
    obtain ⟨p, hs⟩ := popTimer_stack vendor hp
    rw [hs]
    rfl
  have hsame : s'.timerStack = s.timerStack →
      depth s.timerStack.length [] = some s'.timerStack.length := by
    intro hs
    rw [hs]
    rfl
  cases c with
  | dataTransferStart guid source _ _ dest _ _ =>
    obtain ⟨_, _, rfl, rfl, hp⟩ := dataTransferStart_cases h
    exact hpush hp
  | commandStart name =>
    obtain ⟨_, rfl, hp⟩ := commandStart_cases h
    exact hpush hp
  | dataTransferStop guid => exact hpop h
  | commandStop => exact hpop h
  | start timer resource => exact hsame (openRange_stack vendor h)
  | resume timer resource => exact hsame (openRange_stack vendor h)
  | yield timer => exact hsame (closeRange_stack vendor h)
  | stop timer => exact hsame (closeRange_stack vendor h)
  | destroy timer => exact hsame (deleteTimer_stack vendor h)
  | schedule timer arguments count =>
    obtain rfl := schedule_cases h
    exact hsame rfl
  | sampleValue name value =>
    obtain ⟨v, _, rfl⟩ := Option.map_eq_some_iff.mp h
    exact hsame rfl
  | mark label =>
    obtain ⟨_, -, rfl⟩ := mark_cases h
    exact hsame rfl
  | init | finalize | create | addParents | addChildren => cases h; exact hsame rfl

lemma callbacks_depth {s s' : ToolState V A} {calls : List (Call Pointer)}
    (h : callbacks vendor runtime s calls = some s') :
    depth s.timerStack.length (rangeBrackets calls) = some s'.timerStack.length := by
  induction calls generalizing s with
  | nil =>
    cases h
    rfl
  | cons c calls ih =>
    obtain ⟨t, ht, h⟩ := callbacks_cons.mp h
    have hc : rangeBrackets (c :: calls) = (rangeBracket c).toList ++ rangeBrackets calls := by
      rw [rangeBrackets, List.filterMap_cons]
      cases rangeBracket c <;> rfl
    rw [hc, depth_append, callback_depth vendor runtime ht]
    exact ih h

end Stack

def beforeInitialize (calls : List (Call Pointer)) : List (Call Pointer) :=
  calls.takeWhile (fun c => c.api ≠ .init)

lemma beforeInitialize_append_fromInitialize (calls : List (Call Pointer)) :
    beforeInitialize calls ++ fromInitialize calls = calls := List.takeWhile_append_dropWhile

lemma beforeInitialize_cons {c : Call Pointer} (hc : c.api ≠ .init) (calls : List (Call Pointer)) :
    beforeInitialize (c :: calls) = c :: beforeInitialize calls := by
  simp [beforeInitialize, hc]

lemma split_after_first {pre : List (Call Pointer)} (h : .init ∈ pre) (rest : List (Call Pointer)) :
    beforeInitialize (pre ++ rest) = beforeInitialize pre ∧
      fromInitialize (pre ++ rest) = fromInitialize pre ++ rest := by
  induction pre with
  | nil => cases h
  | cons c pre ih =>
    by_cases hc : c.api = .init
    · simp [beforeInitialize, fromInitialize, hc]
    · have hm : .init ∈ pre := by
        apply (List.mem_cons.mp h).resolve_left
        rintro rfl
        exact hc rfl
      obtain ⟨hb, hf⟩ := ih hm
      rw [List.cons_append, fromInitialize_cons hc, fromInitialize_cons hc, beforeInitialize_cons hc,
        beforeInitialize_cons hc, hb]
      exact ⟨rfl, hf⟩

lemma fromInitialize_eq_nil {calls : List (Call Pointer)} (h : .init ∉ calls) :
    fromInitialize calls = [] := by
  rcases fromInitialize_cases calls with hn | ⟨rest, hr⟩
  · exact hn
  · have hm : .init ∈ fromInitialize calls := by rw [hr]; exact List.mem_cons_self
    exact absurd ((List.dropWhile_sublist _).subset hm) h

/-- The data transfers and commands started before the first initialize are also stopped before it. -/
def NothingOpenAtInitialize (calls : List (Call Pointer)) : Prop :=
  .init ∈ calls → Balanced (rangeBrackets (beforeInitialize calls))

section Run

variable {V A : Type} (vendor : Vendor V A) (runtime : Runtime) (env : Linker) (v : V)

def PopsEmptyStack (calls : List (Call Pointer)) : Prop :=
  ∃ pre c post s, calls = pre ++ c :: post ∧ rangeBracket c = some .closing ∧
    ((stubbed vendor runtime env v pre).functions.func c.api).isSome ∧
    (stubbed vendor runtime env v pre).tool = some s ∧ s.timerStack = []

def OtherwiseDefined (calls : List (Call Pointer)) : Prop :=
  ∀ pre c post s, calls = pre ++ c :: post → (stubbed vendor runtime env v pre).tool = some s →
    (stubbed vendor runtime env v (pre ++ [c])).tool = none →
      rangeBracket c = some .closing ∧ s.timerStack = []

variable {env} {object : Provider}

lemma closing_ne_init {c : Call Pointer} (h : rangeBracket c = some .closing) : c.api ≠ .init := by
  intro hi
  rw [Call.api_eq_init hi] at h
  cases h

lemma stubbed_depth (hone : SuppliedBy env object) {pre : List (Call Pointer)}
    {s : ToolState V A} (hs : (stubbed vendor runtime env v pre).tool = some s) :
    depth 0 (rangeBrackets (fromInitialize pre)) = some s.timerStack.length := by
  rw [stubbed_tool vendor runtime hone] at hs
  exact callbacks_depth vendor runtime hs

lemma safe_of_nothing_open (hone : SuppliedBy env object) {calls : List (Call Pointer)}
    (hbal : Balanced (rangeBrackets calls)) (h : NothingOpenAtInitialize calls) :
    ¬ PopsEmptyStack vendor runtime env v calls := by
  rintro ⟨pre, c, post, s, rfl, hc, hforward, hs, hempty⟩
  have hinit := (stubbed_forwards vendor runtime hone v pre (closing_ne_init hc)).mp hforward
  have hopen := h (List.mem_append_left _ hinit)
  rw [(split_after_first hinit _).1] at hopen
  have htool := stubbed_depth vendor runtime v hone hs
  rw [hempty, List.length_nil] at htool
  -- the application has nothing open here either, so its stop does not match a start
  have hpre : depth 0 (rangeBrackets pre) = some 0 := by
    rw [← beforeInitialize_append_fromInitialize pre, rangeBrackets_append, depth_append, hopen]
    exact htool
  have hcons : rangeBrackets (c :: post) = .closing :: rangeBrackets post := by
    rw [rangeBrackets, List.filterMap_cons, hc]
    rfl
  rw [Lifo.Balanced, rangeBrackets_append, depth_append, hpre, hcons] at hbal
  cases hbal

lemma stubbed_defined (hone : SuppliedBy env object) {calls : List (Call Pointer)}
    (hdef : OtherwiseDefined vendor runtime env v calls)
    (hsafe : ¬ PopsEmptyStack vendor runtime env v calls) (pre post : List (Call Pointer))
    (hsplit : calls = pre ++ post) : ∃ s, (stubbed vendor runtime env v pre).tool = some s := by
  induction pre using List.reverseRecOn generalizing post with
  | nil => exact ⟨_, rfl⟩
  | append_singleton pre c ih =>
    rw [List.append_assoc] at hsplit
    obtain ⟨s, hs⟩ := ih _ hsplit
    cases hn : (stubbed vendor runtime env v (pre ++ [c])).tool with
    | some t => exact ⟨t, rfl⟩
    | none =>
      obtain ⟨hc, hempty⟩ := hdef pre c post s hsplit hs hn
      have hinit : .init ∈ pre := by
        by_contra hno
        have hno' : .init ∉ pre ++ [c] := by
          rw [List.mem_append, List.mem_singleton, not_or]
          exact ⟨hno, fun he => closing_ne_init hc (by rw [← he]; rfl)⟩
        rw [stubbed_tool vendor runtime hone, fromInitialize_eq_nil hno'] at hn
        cases hn
      refine absurd ⟨pre, c, post, s, hsplit, hc, ?_, hs, hempty⟩ hsafe
      exact (stubbed_forwards vendor runtime hone v pre (closing_ne_init hc)).mpr hinit

lemma nothing_open_of_safe (hone : SuppliedBy env object) {calls : List (Call Pointer)}
    (hbal : Balanced (rangeBrackets calls)) (hdef : OtherwiseDefined vendor runtime env v calls)
    (hsafe : ¬ PopsEmptyStack vendor runtime env v calls) : NothingOpenAtInitialize calls := by
  intro _
  obtain ⟨s, hs⟩ := stubbed_defined vendor runtime v hone hdef hsafe calls [] (List.append_nil _).symm
  have htool := stubbed_depth vendor runtime v hone hs
  rw [Lifo.Balanced, ← beforeInitialize_append_fromInitialize calls, rangeBrackets_append, depth_append] at hbal
  obtain ⟨d, hd, hrest⟩ := Option.bind_eq_some_iff.mp hbal
  -- the tool sees the same calls from depth 0 that the application makes from depth `d`
  have hshift := depth_add htool d
  rw [Nat.zero_add, hrest] at hshift
  have hzero : d = 0 := by
    have := Option.some.inj hshift
    omega
  rw [Lifo.Balanced, hd, hzero]

end Run

theorem no_empty_pop_iff (env : Linker) {object : Provider} (hone : SuppliedBy env object) (runtime : Runtime)
    (nvtx : Nvtx.Library) (roctx : Roctx.Library) (calls : List (Call Pointer))
    (hbal : Balanced (rangeBrackets calls)) :
    (NothingOpenAtInitialize calls →
      ¬ PopsEmptyStack (Nvtx.vendor nvtx) runtime env {} calls ∧
        ¬ PopsEmptyStack (Roctx.vendor roctx) runtime env [] calls) ∧
    (OtherwiseDefined (Nvtx.vendor nvtx) runtime env {} calls →
      ¬ PopsEmptyStack (Nvtx.vendor nvtx) runtime env {} calls → NothingOpenAtInitialize calls) ∧
    (OtherwiseDefined (Roctx.vendor roctx) runtime env [] calls →
      ¬ PopsEmptyStack (Roctx.vendor roctx) runtime env [] calls → NothingOpenAtInitialize calls) := by
  refine ⟨?_, ?_, ?_⟩
  · intro h
    exact ⟨safe_of_nothing_open _ runtime _ hone hbal h, safe_of_nothing_open _ runtime _ hone hbal h⟩
  · exact nothing_open_of_safe _ runtime _ hone hbal
  · exact nothing_open_of_safe _ runtime _ hone hbal

theorem no_empty_pop_iff_completeLibrary :
    ¬ PopsEmptyStack (Nvtx.vendor Nvtx.freshLibrary) noSymbols completeLibrary {}
        [.commandStart (some "a"), .commandStop, .init, .commandStart (some "b"), .commandStop] ∧
      ¬ PopsEmptyStack (Roctx.vendor Roctx.freshLibrary) noSymbols completeLibrary []
        [.commandStart (some "a"), .commandStop, .init, .commandStart (some "b"), .commandStop] := by
  refine (no_empty_pop_iff completeLibrary completeLibrary_supplied noSymbols Nvtx.freshLibrary
    Roctx.freshLibrary _ (by decide)).1 ?_
  exact fun _ => (by decide : Lifo.Balanced [.opening, .closing])

def lateInitialize : List (Call Pointer) := [.commandStart (some "a"), .init, .commandStop]

theorem late_initialize_pops_empty :
    SuppliedBy completeLibrary 1 ∧ Lifo.Balanced (rangeBrackets lateInitialize) ∧
      PopsEmptyStack (Nvtx.vendor Nvtx.freshLibrary) noSymbols completeLibrary {} lateInitialize ∧
      PopsEmptyStack (Roctx.vendor Roctx.freshLibrary) noSymbols completeLibrary [] lateInitialize := by
  have hinit : Call.init ∈ ([.commandStart (some "a"), .init] : List (Call Pointer)) := by decide
  refine ⟨completeLibrary_supplied, by decide, ?_, ?_⟩
  · refine ⟨[.commandStart (some "a"), .init], .commandStop, [], _, rfl, rfl, ?_,
      stubbed_tool _ _ completeLibrary_supplied _ _, rfl⟩
    exact (stubbed_forwards _ _ completeLibrary_supplied _ _ (by decide)).mpr hinit
  · refine ⟨[.commandStart (some "a"), .init], .commandStop, [], _, rfl, rfl, ?_,
      stubbed_tool _ _ completeLibrary_supplied _ _, rfl⟩
    exact (stubbed_forwards _ _ completeLibrary_supplied _ _ (by decide)).mpr hinit

end TaskStubs.Tools
