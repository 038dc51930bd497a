import TaskStubs.Stub.Provider
import TaskStubs.Tools.TimerTool

/-! A tool behind the stub: it executes the application's calls from the first initialize on. -/

namespace TaskStubs.Tools

open Stub Library.Machines

variable {V A : Type} (vendor : Vendor V A) (runtime : Runtime)

/-- The tool with the state of one loaded object, whichever pointer is called: it stands for the tool where
one object supplies all functions. After a callback that has no result there is no state any more. -/
def vendorTool : Tool (Option (ToolState V A)) where
  invoke _ call s := (s.bind (fun s => callback vendor runtime s call), (s.map (·.nextTimer)).getD null)

variable (env : Linker)

def stubbed (v : V) (calls : List (Call Pointer)) : Process (Option (ToolState V A)) :=
  (run (apiCall env (vendorTool vendor runtime)) (Process.start (some { vendor := v })) calls).1

variable {env} {object : Provider}

def partialTool {S : Type} (step : S → Call Pointer → Option S) (created : S → Pointer) : Tool (Option S) where
  invoke _ call s := (s.bind (fun s => step s call), (s.map created).getD null)

lemma apiCall_partial {S : Type} (step : S → Call Pointer → Option S) (created : S → Pointer)
    (hone : SuppliedBy env object) {p : Process (Option S)} {f : Forwarder (Option S)} {c : Call Pointer}
    (hf : Refines env p f) (hl : f.loaded = true ∨ c.api = .init) :
    (apiCall env (partialTool step created) p c).2 = Forwarder.heard c ((p.tool.map created).getD null) ∧
      ∃ f', (apiCall env (partialTool step created) p c).1.tool = p.tool.bind (fun s => step s c) ∧
        Refines env (apiCall env (partialTool step created) p c).1 f' ∧ f'.loaded = true := by
  have hfunc := hone c.api
  obtain ⟨hresult, hstep⟩ := apiCall_refines env (partialTool step created) p f c hf
  rw [Forwarder.step, Forwarder.target, if_pos hl.symm, hfunc] at hresult hstep
  refine ⟨?_, _, ?_, hstep, ?_⟩
  · rw [hresult, hf.tool_eq]
    rfl
  · rw [hstep.tool_eq, hf.tool_eq]
    rfl
  · rcases hl with hl | hl <;> simp [hl]

lemma directCall_tool (hone : SuppliedBy env object) (calls : List (Call Pointer))
    (d : Option (ToolState V A) × List Invocation) :
    (run (directCall (exported env) (vendorTool vendor runtime)) d calls).1.1 =
      d.1.bind (fun s => callbacks vendor runtime s calls) := by
  induction calls generalizing d with
  | nil =>
    exact (Option.bind_fun_some d.1).symm
  | cons c calls ih =>
    have hf := hone c.api
    rw [run_cons, ih]
    simp only [directCall, hf, vendorTool, callbacks]
    rw [Option.bind_assoc]
    rfl

lemma forwarder_tool (hone : SuppliedBy env object) (v : V) (calls : List (Call Pointer)) :
    (run (Forwarder.step (exported env) (vendorTool vendor runtime))
        { tool := some { vendor := v } } calls).1.tool =
      callbacks vendor runtime { vendor := v } (fromInitialize calls) := by
  induction calls with
  | nil => rfl
  | cons c calls ih =>
    by_cases hc : c.api = .init
    · obtain rfl := Call.api_eq_init hc
      have hf := hone .init
      rw [(Forwarder.run_direct (exported env) (vendorTool vendor runtime) _ hf calls).2.1,
        directCall_tool vendor runtime hone]
      rfl
    · rw [fromInitialize_cons hc, run_cons,
        Forwarder.step_unheard (exported env) _ _ c (by simp [Forwarder.target, hc])]
      exact ih

lemma stubbed_tool (hone : SuppliedBy env object) (v : V) (calls : List (Call Pointer)) :
    (stubbed vendor runtime env v calls).tool =
      callbacks vendor runtime { vendor := v } (fromInitialize calls) :=
  (stub_refines env (vendorTool vendor runtime) calls _).2.tool_eq.trans
    (forwarder_tool vendor runtime hone v calls)

lemma stubbed_forwards (hone : SuppliedBy env object) (v : V) (calls : List (Call Pointer))
    {api : Api} (hapi : api ≠ .init) :
    ((stubbed vendor runtime env v calls).functions.func api).isSome ↔ .init ∈ calls := by
  have hr := (stub_refines env (vendorTool vendor runtime) calls (some { vendor := v })).2
  have hinit : calls.any (fun c => c.api = .init) = true ↔ .init ∈ calls := by
    simp only [List.any_eq_true, decide_eq_true_eq]
    refine ⟨?_, ?_⟩
    · rintro ⟨c, hc, hi⟩
      rwa [Call.api_eq_init hi] at hc
    · exact fun hc => ⟨_, hc, rfl⟩
  rw [stubbed, hr.func_eq api hapi, Forwarder.run_loaded, ← hinit]
  cases calls.any (fun c => c.api = .init) <;> simp [hone api, hone .init]

end TaskStubs.Tools
