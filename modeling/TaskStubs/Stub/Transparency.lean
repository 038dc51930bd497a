import TaskStubs.Stub.Forwarder

/-! The stubbed program against the program that calls the tool's functions directly. -/

namespace TaskStubs.Stub

open Library.Machines

variable {σ : Type}

def directCall (exported : Api → Option FunctionPointer) (tool : Tool σ)
    (d : σ × List Invocation) (c : Call Pointer) : (σ × List Invocation) × Option Pointer :=
  match exported c.api with
  | none => (d, Forwarder.unheard c)
  | some func =>
    let (s, result) := tool.invoke func c d.1
    ((s, d.2 ++ [⟨func, c, result⟩]), Forwarder.heard c result)

namespace Forwarder

variable (exported : Api → Option FunctionPointer) (tool : Tool σ)

lemma step_unheard (a : Forwarder σ) (c : Call Pointer) (h : target exported a c.api = none) :
    step exported tool a c = (a, unheard c) := by
  rw [step, h]

lemma run_unheard (a : Forwarder σ) (hl : a.loaded = false) (calls : List (Call Pointer))
    (h : ∀ c ∈ calls, c.api = .init → exported .init = none) :
    run (step exported tool) a calls = (a, calls.map unheard) := by
  induction calls with
  | nil => rfl
  | cons c calls ih =>
    have hc : target exported a c.api = none := by
      by_cases hi : c.api = .init
      · simp [target, hi, h c List.mem_cons_self hi]
      · simp [target, hi, hl]
    have hr := ih (fun d hd => h d (List.mem_cons_of_mem c hd))
    rw [run_cons, step_unheard exported tool a c hc, hr, List.map_cons]

lemma step_direct (a : Forwarder σ) (d : σ × List Invocation) (c : Call Pointer)
    (h : a.loaded = true ∧ a.tool = d.1 ∧ a.trace = d.2) :
    (step exported tool a c).2 = (directCall exported tool d c).2 ∧
      (step exported tool a c).1.loaded = true ∧
      (step exported tool a c).1.tool = (directCall exported tool d c).1.1 ∧
      (step exported tool a c).1.trace = (directCall exported tool d c).1.2 := by
  obtain ⟨hl, ht, htr⟩ := h
  rw [step, directCall, target, if_pos (Or.inr hl)]
  cases exported c.api with
  | none => exact ⟨rfl, hl, ht, htr⟩
  | some func => simp [hl, ht, htr]

lemma init_direct (s : σ) {func : FunctionPointer} (h : exported .init = some func) :
    step exported tool { tool := s } .init =
      ({ loaded := true, tool := (directCall exported tool (s, []) .init).1.1,
         trace := (directCall exported tool (s, []) .init).1.2 }, none) := by
  simp [step, directCall, target, Call.api, heard, h]

lemma run_direct (s : σ) {func : FunctionPointer} (h : exported .init = some func)
    (rest : List (Call Pointer)) :
    (run (step exported tool) { tool := s } (.init :: rest)).2 =
        (run (directCall exported tool) (s, []) (.init :: rest)).2 ∧
      (run (step exported tool) { tool := s } (.init :: rest)).1.tool =
        (run (directCall exported tool) (s, []) (.init :: rest)).1.1 ∧
      (run (step exported tool) { tool := s } (.init :: rest)).1.trace =
        (run (directCall exported tool) (s, []) (.init :: rest)).1.2 := by
  have hi := init_direct exported tool s h
  have hd : (directCall exported tool (s, []) .init).2 = none := by
    simp [directCall, Call.api, h, heard]
  obtain ⟨hr, _, ht, htr⟩ := run_simulates
    (fun (a : Forwarder σ) (d : σ × List Invocation) =>
      a.loaded = true ∧ a.tool = d.1 ∧ a.trace = d.2)
    (step_direct exported tool) rest (s := (step exported tool { tool := s } .init).1)
    (t := (directCall exported tool (s, []) .init).1) (by rw [hi]; exact ⟨rfl, rfl, rfl⟩)
  refine ⟨?_, ht, htr⟩
  rw [run_cons, run_cons, hr, hi, hd]

end Forwarder

variable (env : Linker) (tool : Tool σ)

lemma directCall_trace (calls : List (Call Pointer)) (d : σ × List Invocation) :
    (run (directCall (exported env) tool) d calls).1.2.map (fun i => (i.callee.symbol, i.call)) =
      d.2.map (fun i => (i.callee.symbol, i.call)) ++
        (calls.filter (fun c => (exported env c.api).isSome)).map (fun c => (c.api.symbol, c)) := by
  induction calls generalizing d with
  | nil => simp
  | cons c calls ih =>
    rw [run_cons, ih, directCall]
    cases he : exported env c.api with
    | none => simp [he]
    | some func => simp [he, resolve_symbol env he]

theorem stub_transparent (s : σ) (rest : List (Call Pointer)) :
    let stubbed := run (apiCall env tool) (Process.start s) (.init :: rest)
    let direct := run (directCall (exported env) tool) (s, []) (.init :: rest)
    match exported env .init with
    | some _ =>
      stubbed.1.tool = direct.1.1 ∧ stubbed.1.trace = direct.1.2 ∧ stubbed.2 = direct.2 ∧
        stubbed.1.trace.map (fun i => (i.callee.symbol, i.call)) =
          (Call.init :: rest.filter (fun c => (exported env c.api).isSome)).map
            (fun c => (c.api.symbol, c))
    | none => stubbed.1.trace = [] ∧ stubbed.2 = (Call.init :: rest).map Forwarder.unheard := by
  intro stubbed direct
  obtain ⟨ha, hr⟩ := stub_refines env tool (.init :: rest) s
  cases he : exported env .init with
  | none =>
    have hu := Forwarder.run_unheard (exported env) tool { tool := s } rfl (.init :: rest)
      (fun _ _ _ => he)
    refine ⟨?_, ?_⟩
    · rw [hr.trace_eq, hu]
    · rw [ha, hu]
  | some func =>
    obtain ⟨hd, ht, htr⟩ := Forwarder.run_direct (exported env) tool s he rest
    have htrace : stubbed.1.trace = direct.1.2 := hr.trace_eq.trans htr
    refine ⟨hr.tool_eq.trans ht, htrace, ha.trans hd, ?_⟩
    rw [htrace, directCall_trace]
    simp [Call.api, he]

end TaskStubs.Stub
