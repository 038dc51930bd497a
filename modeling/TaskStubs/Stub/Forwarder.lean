import TaskStubs.Library.Machines
import TaskStubs.Stub.TaskTimer

/-! What the stub is for: a switch in front of the tool. Once the tool's initializer has run, every
call goes to the function of the same name if there is one. The seventeen pointers refine it. -/

namespace TaskStubs.Stub

open Library.Machines

variable {σ : Type}

structure Forwarder (σ : Type) where
  loaded : Bool := false
  tool : σ
  trace : List Invocation := []

namespace Forwarder

def unheard (c : Call Pointer) : Option Pointer :=
  if c.api = .create then some null else none

def heard (c : Call Pointer) (result : Pointer) : Option Pointer :=
  if c.api = .create then some result else none

variable (exported : Api → Option FunctionPointer) (tool : Tool σ)

def target (a : Forwarder σ) (api : Api) : Option FunctionPointer :=
  if api = .init ∨ a.loaded then exported api else none

def step (a : Forwarder σ) (c : Call Pointer) : Forwarder σ × Option Pointer :=
  match target exported a c.api with
  | none => (a, unheard c)
  | some func =>
    let (s, result) := tool.invoke func c a.tool
    ({ loaded := a.loaded || c.api = .init, tool := s, trace := a.trace ++ [⟨func, c, result⟩] },
      heard c result)

lemma step_loaded (a : Forwarder σ) (c : Call Pointer) :
    (step exported tool a c).1.loaded =
      (a.loaded || (decide (c.api = .init) && (exported .init).isSome)) := by
  rw [step]
  by_cases hc : c.api = .init
  · rw [target, if_pos (Or.inl hc), hc]
    cases exported .init <;> simp
  · simp only [target, hc, false_or, decide_false, Bool.false_and, Bool.or_false]
    cases target exported a c.api <;> split <;> simp

lemma run_loaded (a : Forwarder σ) (calls : List (Call Pointer)) :
    (run (step exported tool) a calls).1.loaded =
      (a.loaded || (calls.any (fun c => c.api = .init) && (exported .init).isSome)) := by
  induction calls generalizing a with
  | nil => simp
  | cons c calls ih =>
    rw [run_cons, ih, step_loaded, List.any_cons, Bool.and_or_distrib_right, Bool.or_assoc]

lemma run_trace_exported (a : Forwarder σ) (calls : List (Call Pointer))
    (h : ∀ i ∈ a.trace, exported i.call.api = some i.callee) :
    ∀ i ∈ (run (step exported tool) a calls).1.trace, exported i.call.api = some i.callee := by
  apply run_invariant _ (fun a => ∀ i ∈ a.trace, exported i.call.api = some i.callee) calls a h
  intro a c _ ha
  rw [step]
  cases ht : target exported a c.api with
  | none => exact ha
  | some func =>
    intro i hi
    obtain hi | hi := List.mem_append.mp hi
    · exact ha i hi
    · obtain rfl := List.mem_singleton.mp hi
      rw [target] at ht
      split_ifs at ht
      exact ht

end Forwarder

variable (env : Linker) (tool : Tool σ)

def exported (api : Api) : Option FunctionPointer := resolve env api.symbol

structure Refines (p : Process σ) (a : Forwarder σ) : Prop where
  tool_eq : p.tool = a.tool
  trace_eq : p.trace = a.trace
  cached : Cached env p.libraryHandle
  func_eq : ∀ api, api ≠ .init →
    p.functions.func api = if a.loaded then exported env api else none

lemma load_functions (p : Process σ) (h : Cached env p.libraryHandle)
    (entry : String × (Option FunctionPointer → Functions → Functions)) :
    (load env p entry).functions = entry.2 (resolve env entry.1) p.functions ∧
      Cached env (load env p entry).libraryHandle := by
  obtain ⟨hf, hc⟩ := getSymbol_resolve env h entry.1
  refine ⟨?_, hc⟩
  rw [← hf]
  rfl

lemma loads_functions (entries : List (String × (Option FunctionPointer → Functions → Functions)))
    (p : Process σ) (h : Cached env p.libraryHandle) :
    (entries.foldl (load env) p).functions =
        entries.foldl (fun t entry => entry.2 (resolve env entry.1) t) p.functions ∧
      Cached env (entries.foldl (load env) p).libraryHandle ∧
      (entries.foldl (load env) p).tool = p.tool ∧ (entries.foldl (load env) p).trace = p.trace := by
  induction entries generalizing p with
  | nil => exact ⟨rfl, h, rfl, rfl⟩
  | cons entry entries ih =>
    obtain ⟨hf, hc⟩ := load_functions env p h entry
    obtain ⟨hfs, hcs, ht, htr⟩ := ih (load env p entry) hc
    rw [hf] at hfs
    exact ⟨hfs, hcs, ht, htr⟩

lemma assigned_func (t : Functions) (api : Api) (h : api ≠ .init) :
    (assignments.foldl (fun t entry => entry.2 (resolve env entry.1) t) t).func api =
      exported env api := by
  cases api with
  | init => exact (h rfl).elim
  | _ => rfl

lemma load_initialize (p : Process σ) (h : Cached env p.libraryHandle) :
    (load env p initializeAssignment).functions.initializeFunc = exported env .init := by
  rw [(load_functions env p h initializeAssignment).1]
  rfl

lemma init_refines {p : Process σ} {a : Forwarder σ} (h : Refines env p a) :
    Refines env (tasktimerInitialize env tool p)
      (Forwarder.step (exported env) tool a .init).1 := by
  obtain ⟨hl, hc⟩ := load_functions env p h.cached initializeAssignment
  have hi := load_initialize env p h.cached
  rw [tasktimerInitialize, Forwarder.step]
  simp only [Forwarder.target, Call.api, true_or, if_true]
  cases hr : exported env .init with
  | none =>
    rw [hr] at hi
    simp only [hi]
    refine ⟨h.tool_eq, h.trace_eq, hc, ?_⟩
    intro api hapi
    rw [hl, ← h.func_eq api hapi]
    cases api <;> first | exact (hapi rfl).elim | rfl
  | some func =>
    rw [hr] at hi
    simp only [hi]
    obtain ⟨hfs, hcs, ht, htr⟩ := loads_functions env assignments
      (invoke tool func .init (load env p initializeAssignment)).1 hc
    refine ⟨?_, ?_, hcs, ?_⟩
    · rw [ht]
      simp only [invoke, load, h.tool_eq]
    · rw [htr]
      simp only [invoke, load, h.tool_eq, h.trace_eq]
    · intro api hapi
      rw [hfs, assigned_func env _ api hapi]
      simp

lemma forward_event (func : Option FunctionPointer) (c : Call Pointer) (p : Process σ)
    (h : c.api ≠ .create) :
    (forward tool func c p, none) = match func with
      | none => (p, Forwarder.unheard c)
      | some func => ((invoke tool func c p).1, Forwarder.heard c (invoke tool func c p).2) := by
  cases func <;> simp [forward, Forwarder.unheard, Forwarder.heard, h]

lemma apiCall_event (p : Process σ) (c : Call Pointer) (h : c.api ≠ .init) :
    apiCall env tool p c = match p.functions.func c.api with
      | none => (p, Forwarder.unheard c)
      | some func => ((invoke tool func c p).1, Forwarder.heard c (invoke tool func c p).2) := by
  cases c with
  | init => exact (h rfl).elim
  | create address name guid parents count =>
    simp only [apiCall, tasktimerCreate, Call.api, Functions.func]
    cases p.functions.createFunc <;> rfl
  | _ => exact forward_event tool _ _ p (by simp [Call.api])

lemma apiCall_refines (p : Process σ) (a : Forwarder σ) (c : Call Pointer) (h : Refines env p a) :
    (apiCall env tool p c).2 = (Forwarder.step (exported env) tool a c).2 ∧
      Refines env (apiCall env tool p c).1 (Forwarder.step (exported env) tool a c).1 := by
  by_cases hc : c.api = .init
  · obtain rfl := Call.api_eq_init hc
    refine ⟨?_, init_refines env tool h⟩
    rw [Forwarder.step]
    split <;> rfl
  · rw [apiCall_event env tool p c hc, h.func_eq c.api hc, Forwarder.step, Forwarder.target]
    simp only [hc, false_or]
    cases ha : a.loaded with
    | false => exact ⟨rfl, h⟩
    | true =>
      simp only [if_true]
      cases exported env c.api with
      | none => exact ⟨rfl, h⟩
      | some func =>
        refine ⟨by simp only [invoke, h.tool_eq], ⟨?_, ?_, h.cached, ?_⟩⟩
        · simp only [invoke, h.tool_eq]
        · simp only [invoke, h.tool_eq, h.trace_eq]
        · intro api hapi
          rw [show (invoke tool func c p).1.functions = p.functions from rfl, h.func_eq api hapi, ha]
          simp

lemma start_refines (s : σ) : Refines env (Process.start s) { tool := s } := by
  refine ⟨rfl, rfl, Or.inl rfl, ?_⟩
  intro api hapi
  cases api <;> rfl

theorem stub_refines (calls : List (Call Pointer)) (s : σ) :
    (run (apiCall env tool) (Process.start s) calls).2 =
        (run (Forwarder.step (exported env) tool) { tool := s } calls).2 ∧
      Refines env (run (apiCall env tool) (Process.start s) calls).1
        (run (Forwarder.step (exported env) tool) { tool := s } calls).1 :=
  run_simulates (Refines env) (fun p a c h => apiCall_refines env tool p a c h) calls
    (start_refines env s)

end TaskStubs.Stub
