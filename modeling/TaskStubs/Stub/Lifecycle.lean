import TaskStubs.Stub.Transparency

/-! Sessions of a tool: an initialize, any events, a finalize, over and over. -/

namespace TaskStubs.Stub

open Library.Machines

variable {σ : Type}

/-- Whether a session is open after the call; none where the call is out of place. -/
def sessionStep (inSession : Bool) : Api → Option Bool
  | .init => if inSession then none else some true
  | .finalize => if inSession then some false else none
  | _ => if inSession then some true else none

def Sessions (calls : List Api) : Prop := (calls.foldlM sessionStep false).isSome = true

instance (calls : List Api) : Decidable (Sessions calls) := inferInstanceAs (Decidable (_ = _))

lemma sessions_cons {calls : List (Call Pointer)} (h : Sessions (calls.map Call.api)) :
    calls = [] ∨ ∃ rest, calls = .init :: rest ∧
      ((rest.map Call.api).foldlM sessionStep true).isSome := by
  cases calls with
  | nil => exact Or.inl rfl
  | cons c rest =>
    rw [Sessions, List.map_cons, List.foldlM_cons] at h
    cases c with
    | init => exact Or.inr ⟨rest, rfl, h⟩
    | _ => cases h

lemma session_cases {rest : List (Call Pointer)}
    (h : ((rest.map Call.api).foldlM sessionStep true).isSome) (hinit : .init ∉ rest) :
    ∃ body, .init ∉ body ∧ .finalize ∉ body ∧ (rest = body ∨ rest = body ++ [.finalize]) := by
  induction rest with
  | nil => exact ⟨[], List.not_mem_nil, List.not_mem_nil, Or.inl rfl⟩
  | cons c rest ih =>
    rw [List.mem_cons, not_or] at hinit
    rw [List.map_cons, List.foldlM_cons] at h
    by_cases hfinal : c.api = .finalize
    · obtain rfl := Call.api_eq_finalize hfinal
      refine ⟨[], List.not_mem_nil, List.not_mem_nil, Or.inr ?_⟩
      obtain rfl | ⟨later, rfl, -⟩ := sessions_cons h
      · rfl
      · exact absurd List.mem_cons_self hinit.2
    · have hstep : sessionStep true c.api = some true := by
        cases c with
        | init => exact absurd rfl hinit.1
        | finalize => exact absurd rfl hfinal
        | _ => rfl
      rw [hstep] at h
      obtain ⟨body, hi, hf, hbody⟩ := ih h hinit.2
      refine ⟨c :: body, ?_, ?_, hbody.imp (congrArg _) (congrArg _)⟩
      · exact List.not_mem_cons_of_ne_of_not_mem hinit.1 hi
      · refine List.not_mem_cons_of_ne_of_not_mem ?_ hf
        rintro rfl
        exact hfinal rfl

variable (env : Linker) (tool : Tool σ)

def fromInitialize (calls : List (Call Pointer)) : List (Call Pointer) :=
  calls.dropWhile (fun c => c.api ≠ .init)

lemma fromInitialize_cons {c : Call Pointer} (hc : c.api ≠ .init) (calls : List (Call Pointer)) :
    fromInitialize (c :: calls) = fromInitialize calls := by
  simp [fromInitialize, hc]

lemma fromInitialize_cases (calls : List (Call Pointer)) :
    fromInitialize calls = [] ∨ ∃ rest, fromInitialize calls = .init :: rest := by
  induction calls with
  | nil => exact Or.inl rfl
  | cons c calls ih =>
    by_cases hc : c.api = .init
    · obtain rfl := Call.api_eq_init hc
      exact Or.inr ⟨calls, rfl⟩
    · simpa only [fromInitialize_cons hc] using ih

lemma trace_fromInitialize (exported : Api → Option FunctionPointer) (s : σ)
    (calls : List (Call Pointer)) :
    (run (Forwarder.step exported tool) { tool := s } calls).1.trace =
      (run (Forwarder.step exported tool) { tool := s } (fromInitialize calls)).1.trace := by
  induction calls with
  | nil => rfl
  | cons c calls ih =>
    by_cases hc : c.api = .init
    · obtain rfl := Call.api_eq_init hc
      rfl
    · rw [fromInitialize_cons hc, run_cons,
        Forwarder.step_unheard exported tool { tool := s } c (by simp [Forwarder.target, hc])]
      exact ih

theorem sessions_iff (hall : ∀ api, (exported env api).isSome) (calls : List (Call Pointer)) (s : σ) :
    let trace := (run (apiCall env tool) (Process.start s) calls).1.trace
    trace.map (fun i => (i.callee.symbol, i.call)) =
        (fromInitialize calls).map (fun c => (c.api.symbol, c)) ∧
      (Sessions (trace.map (fun i => i.call.api)) ↔
        Sessions ((fromInitialize calls).map Call.api)) := by
  intro trace
  have htrace : trace.map (fun i => (i.callee.symbol, i.call)) =
      (fromInitialize calls).map (fun c => (c.api.symbol, c)) := by
    have hr : trace = (run (Forwarder.step (exported env) tool) { tool := s }
        (fromInitialize calls)).1.trace :=
      (stub_refines env tool calls s).2.trace_eq.trans
        (trace_fromInitialize tool (exported env) s calls)
    rw [hr]
    obtain hn | ⟨rest, hd⟩ := fromInitialize_cases calls
    · rw [hn]
      rfl
    · obtain ⟨func, hf⟩ := Option.isSome_iff_exists.mp (hall .init)
      rw [hd, (Forwarder.run_direct (exported env) tool s hf rest).2.2, directCall_trace]
      simp [hall]
  refine ⟨htrace, ?_⟩
  have hapi := congrArg (List.map (fun p => p.2.api)) htrace
  simp only [List.map_map] at hapi
  exact iff_of_eq (congrArg Sessions hapi)

def completeLibrary : Linker where
  getenv _ := some "libtool.so"
  dlopenLoaded _ := none
  dlopen _ := some 1
  globalScope _ := none
  exports _ _ := true

def countingTool : Tool ℕ := ⟨fun _ _ n => (n + 1, n + 1)⟩

lemma completeLibrary_exported (api : Api) : (exported completeLibrary api).isSome := by
  cases api <;> rfl

theorem sessions_iff_completeLibrary :
    (∀ api, (exported completeLibrary api).isSome) ∧
      let calls : List (Call Pointer) := [.commandStop, .init, .commandStart none, .finalize]
      let trace := (run (apiCall completeLibrary countingTool) (Process.start 0) calls).1.trace
      trace.map (fun i => (i.callee.symbol, i.call)) =
          (fromInitialize calls).map (fun c => (c.api.symbol, c)) ∧
        (Sessions (trace.map (fun i => i.call.api)) ↔
          Sessions ((fromInitialize calls).map Call.api)) :=
  ⟨completeLibrary_exported, sessions_iff completeLibrary countingTool completeLibrary_exported _ 0⟩

def invoked (calls : List (Call Pointer)) : List Api :=
  (run (apiCall completeLibrary countingTool) (Process.start 0) calls).1.trace.map (fun i => i.call.api)

theorem sessions_broken :
    (∀ api, (exported completeLibrary api).isSome) ∧
      ¬ Sessions (invoked [.init, .init]) ∧
      ¬ Sessions (invoked [.init, .finalize, .finalize]) ∧
      ¬ Sessions (invoked [.init, .finalize, .mark (some "late")]) := by
  refine ⟨?_, by decide, by decide, by decide⟩
  intro api
  cases api <;> rfl

end TaskStubs.Stub
