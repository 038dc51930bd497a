import TaskStubs.Stub.Transparency

/-! The loader in a world that changes: the environment variable, the libraries and the global scope may
be different at every lookup. The static handle is all that `plugin.c` remembers of the past. -/

namespace TaskStubs.Stub

open Library.Machines

variable {σ : Type}

structure Watched (σ : Type) where
  process : Process σ
  lookups : List String := []

variable (world : ℕ → Linker) (tool : Tool σ)

/-- The n-th lookup meets the linker `world n`. -/
def loadAt (w : Watched σ) (entry : String × (Option FunctionPointer → Functions → Functions)) : Watched σ :=
  { process := load (world w.lookups.length) w.process entry, lookups := w.lookups ++ [entry.1] }

def initializeAt (w : Watched σ) : Watched σ :=
  let w := loadAt world w initializeAssignment
  match w.process.functions.initializeFunc with
  | none => w
  | some func => assignments.foldl (loadAt world) { w with process := (invoke tool func .init w.process).1 }

def apiCallAt (w : Watched σ) (c : Call Pointer) : Watched σ × Option Pointer :=
  if c.api = .init then (initializeAt world tool w, none)
  else
    let (p, result) := apiCall (world w.lookups.length) tool w.process c -- no lookup happens
    ({ w with process := p }, result)

def foundAt (n : ℕ) (symbol : String) : Option Provider :=
  if dlsymDefault (world n) symbol = none then getLibrary (world n) else none

def firstLibrary (lookups : List String) : Option Provider :=
  lookups.zipIdx.findSome? (fun lookup => foundAt world lookup.2 lookup.1)

def answer (earlier : List String) (symbol : String) : Option FunctionPointer :=
  match dlsymDefault (world earlier.length) symbol with
  | some func => some func
  | none =>
    (firstLibrary world (earlier ++ [symbol])).bind (fun handle => dlsym (world earlier.length) handle symbol)

def answersAfter (earlier : List String) : List String → List (String × Option FunctionPointer)
  | [] => []
  | symbol :: later => (symbol, answer world earlier symbol) :: answersAfter (earlier ++ [symbol]) later

def latest (lookups : List String) (symbol : String) : Option FunctionPointer :=
  ((answersAfter world [] lookups).reverse.lookup symbol).join

lemma firstLibrary_concat (lookups : List String) (symbol : String) : firstLibrary world (lookups ++ [symbol]) =
    (firstLibrary world lookups).or (foundAt world lookups.length symbol) := by
  rw [firstLibrary, List.zipIdx_append, List.findSome?_append]
  simp [firstLibrary]

lemma answersAfter_append (earlier first second : List String) : answersAfter world earlier (first ++ second) =
    answersAfter world earlier first ++ answersAfter world (earlier ++ first) second := by
  induction first generalizing earlier with
  | nil => simp [answersAfter]
  | cons symbol first ih => simp [answersAfter, ih]

lemma latest_concat (lookups : List String) (symbol other : String) : latest world (lookups ++ [symbol]) other =
    if other = symbol then answer world lookups symbol else latest world lookups other := by
  rw [latest, answersAfter_append, List.nil_append, List.reverse_append]
  change (List.lookup other ((symbol, answer world lookups symbol) :: _)).join = _
  rw [List.lookup_cons]
  by_cases h : other = symbol
  · simp [h]
  · rw [beq_false_of_ne h, if_neg h]
    rfl

lemma Api.symbol_injective {a b : Api} (h : a.symbol = b.symbol) : a = b := by
  cases a <;> cases b <;> first | rfl | simp [Api.symbol] at h

def Provided (lookups : List String) (func : FunctionPointer) : Prop :=
  (∃ n symbol, lookups[n]? = some symbol ∧ dlsymDefault (world n) symbol = some func) ∨
    firstLibrary world lookups = some func.provider

structure Recalls (w : Watched σ) : Prop where
  library_eq : w.process.libraryHandle = firstLibrary world w.lookups
  func_eq : ∀ api, w.process.functions.func api = latest world w.lookups api.symbol
  provided : ∀ i ∈ w.process.trace, i.callee.symbol = i.call.api.symbol ∧ Provided world w.lookups i.callee

variable {world}

lemma Provided.concat {lookups : List String} {func : FunctionPointer} (h : Provided world lookups func)
    (symbol : String) : Provided world (lookups ++ [symbol]) func := by
  obtain ⟨n, s, hn, hs⟩ | h := h
  · refine Or.inl ⟨n, s, ?_, hs⟩
    have hlt := (List.getElem?_eq_some_iff.mp hn).1
    rwa [List.getElem?_append_left hlt]
  · refine Or.inr ?_
    rw [firstLibrary_concat, h]
    rfl

lemma answer_provided {earlier : List String} {symbol : String} {func : FunctionPointer}
    (h : answer world earlier symbol = some func) :
    func.symbol = symbol ∧ Provided world (earlier ++ [symbol]) func := by
  rw [answer] at h
  cases hd : dlsymDefault (world earlier.length) symbol with
  | some f =>
    rw [hd] at h
    obtain rfl := Option.some.inj h
    obtain ⟨provider, -, rfl⟩ := Option.map_eq_some_iff.mp hd
    exact ⟨rfl, Or.inl ⟨earlier.length, symbol, by simp, hd⟩⟩
  | none =>
    rw [hd] at h
    obtain ⟨handle, hl, hs⟩ := Option.bind_eq_some_iff.mp h
    rw [dlsym] at hs
    split_ifs at hs
    obtain rfl := Option.some.inj hs
    exact ⟨rfl, Or.inr hl⟩

lemma latest_provided {lookups : List String} {symbol : String} {func : FunctionPointer}
    (h : latest world lookups symbol = some func) : func.symbol = symbol ∧ Provided world lookups func := by
  induction lookups using List.reverseRecOn with
  | nil => cases h
  | append_singleton lookups last ih =>
    rw [latest_concat] at h
    split_ifs at h with hl
    · subst hl
      exact answer_provided h
    · obtain ⟨hs, hp⟩ := ih h
      exact ⟨hs, hp.concat last⟩

lemma getSymbol_answer {libraryHandle : Option Provider} {earlier : List String}
    (h : libraryHandle = firstLibrary world earlier) (symbol : String) :
    getSymbol (world earlier.length) libraryHandle symbol =
      (answer world earlier symbol, firstLibrary world (earlier ++ [symbol])) := by
  rw [getSymbol, answer, firstLibrary_concat, foundAt, h]
  cases dlsymDefault (world earlier.length) symbol with
  | some func => cases firstLibrary world earlier <;> rfl
  | none =>
    cases firstLibrary world earlier with
    | some handle => rfl
    | none =>
      simp only [if_true, Option.none_or]
      cases getLibrary (world earlier.length) <;> rfl

def Assigns (entry : String × (Option FunctionPointer → Functions → Functions)) : Prop :=
  ∃ api : Api, entry.1 = api.symbol ∧
    ∀ func t other, (entry.2 func t).func other = if other = api then func else t.func other

lemma initializeAssignment_assigns : Assigns initializeAssignment := by
  refine ⟨.init, rfl, ?_⟩
  intro func t other
  cases other <;> rfl

lemma assignments_assign : ∀ entry ∈ assignments, Assigns entry := by
  have assigns (entry) (api : Api) (hs : entry.1 = api.symbol)
      (h : ∀ func t other, (entry.2 func t).func other = if other = api then func else t.func other) :
      Assigns entry := ⟨api, hs, h⟩
  simp only [assignments, List.forall_mem_cons]
  refine ⟨assigns _ .finalize rfl ?_, assigns _ .create rfl ?_, assigns _ .schedule rfl ?_,
    assigns _ .start rfl ?_, assigns _ .yield rfl ?_, assigns _ .resume rfl ?_, assigns _ .stop rfl ?_,
    assigns _ .destroy rfl ?_, assigns _ .addParents rfl ?_, assigns _ .addChildren rfl ?_,
    assigns _ .dataTransferStart rfl ?_, assigns _ .dataTransferStop rfl ?_, assigns _ .commandStart rfl ?_,
    assigns _ .commandStop rfl ?_, assigns _ .sampleValue rfl ?_, assigns _ .mark rfl ?_, by simp⟩
  all_goals
    intro func t other
    cases other <;> rfl

lemma loadAt_recalls {w : Watched σ} (h : Recalls world w)
    {entry : String × (Option FunctionPointer → Functions → Functions)} (he : Assigns entry) :
    Recalls world (loadAt world w entry) := by
  obtain ⟨api, hs, hset⟩ := he
  have hget := getSymbol_answer h.library_eq entry.1
  refine ⟨?_, ?_, ?_⟩
  · exact congrArg Prod.snd hget
  · intro other
    change (entry.2 (getSymbol _ _ entry.1).1 w.process.functions).func other =
      latest world (w.lookups ++ [entry.1]) other.symbol
    rw [hget, hset, latest_concat, h.func_eq, hs]
    by_cases ho : other = api
    · rw [if_pos ho, if_pos (congrArg Api.symbol ho)]
    · rw [if_neg ho, if_neg (fun hn => ho (Api.symbol_injective hn))]
  · intro i hi
    obtain ⟨hi, hp⟩ := h.provided i hi
    exact ⟨hi, hp.concat _⟩

lemma loadsAt_recalls {entries : List (String × (Option FunctionPointer → Functions → Functions))}
    (he : ∀ entry ∈ entries, Assigns entry) {w : Watched σ} (h : Recalls world w) :
    Recalls world (entries.foldl (loadAt world) w) := by
  induction entries generalizing w with
  | nil => exact h
  | cons entry entries ih =>
    rw [List.forall_mem_cons] at he
    exact ih he.2 (loadAt_recalls h he.1)

lemma invoke_recalls {w : Watched σ} (h : Recalls world w) {c : Call Pointer} {func : FunctionPointer}
    (hf : w.process.functions.func c.api = some func) :
    Recalls world { w with process := (invoke tool func c w.process).1 } := by
  refine ⟨h.library_eq, h.func_eq, ?_⟩
  intro i hi
  obtain hi | hi := List.mem_append.mp hi
  · exact h.provided i hi
  · obtain rfl := List.mem_singleton.mp hi
    rw [h.func_eq] at hf
    exact latest_provided hf

lemma apiCallAt_recalls {w : Watched σ} (h : Recalls world w) (c : Call Pointer) :
    Recalls world (apiCallAt world tool w c).1 := by
  rw [apiCallAt]
  split_ifs with hc
  · have hfirst := loadAt_recalls h initializeAssignment_assigns
    rw [initializeAt]
    dsimp only
    cases hf : (loadAt world w initializeAssignment).process.functions.initializeFunc with
    | none => exact hfirst
    | some func => exact loadsAt_recalls assignments_assign (invoke_recalls tool (c := .init) hfirst hf)
  · rw [apiCall_event _ tool w.process c hc]
    cases hf : w.process.functions.func c.api with
    | none => exact h
    | some func => exact invoke_recalls tool h hf

lemma start_recalls (s : σ) : Recalls world { process := Process.start s } := by
  refine ⟨rfl, ?_, ?_⟩
  · intro api
    cases api <;> rfl
  · rintro i ⟨⟩

lemma loadAt_handle {w : Watched σ} {handle : Provider} (h : w.process.libraryHandle = some handle)
    (entry : String × (Option FunctionPointer → Functions → Functions)) :
    (loadAt world w entry).process.libraryHandle = some handle := by
  change (getSymbol _ w.process.libraryHandle entry.1).2 = some handle
  rw [getSymbol, h]
  cases dlsymDefault (world w.lookups.length) entry.1 <;> rfl

lemma loadsAt_handle {handle : Provider}
    (entries : List (String × (Option FunctionPointer → Functions → Functions))) {w : Watched σ}
    (h : w.process.libraryHandle = some handle) :
    (entries.foldl (loadAt world) w).process.libraryHandle = some handle := by
  induction entries generalizing w with
  | nil => exact h
  | cons entry entries ih => exact ih (loadAt_handle h entry)

lemma apiCallAt_handle {w : Watched σ} {handle : Provider} (h : w.process.libraryHandle = some handle)
    (c : Call Pointer) : (apiCallAt world tool w c).1.process.libraryHandle = some handle := by
  rw [apiCallAt]
  split_ifs with hc
  · have hfirst : (loadAt world w initializeAssignment).process.libraryHandle = some handle :=
      loadAt_handle h initializeAssignment
    rw [initializeAt]
    dsimp only
    cases hf : (loadAt world w initializeAssignment).process.functions.initializeFunc with
    | none => exact hfirst
    | some func => exact loadsAt_handle assignments hfirst
  · rw [apiCall_event _ tool w.process c hc]
    cases w.process.functions.func c.api <;> exact h

variable (env : Linker)

lemma loadsAt_still (entries : List (String × (Option FunctionPointer → Functions → Functions)))
    (w : Watched σ) :
    (entries.foldl (loadAt (fun _ => env)) w).process = entries.foldl (load env) w.process := by
  induction entries generalizing w with
  | nil => rfl
  | cons entry entries ih => exact ih _

lemma apiCallAt_still (w : Watched σ) (p : Process σ) (c : Call Pointer) (h : w.process = p) :
    (apiCallAt (fun _ => env) tool w c).2 = (apiCall env tool p c).2 ∧
      (apiCallAt (fun _ => env) tool w c).1.process = (apiCall env tool p c).1 := by
  subst h
  rw [apiCallAt]
  split_ifs with hc
  · obtain rfl := Call.api_eq_init hc
    refine ⟨rfl, ?_⟩
    change (initializeAt (fun _ => env) tool w).process = tasktimerInitialize env tool w.process
    rw [initializeAt, tasktimerInitialize]
    dsimp only [loadAt]
    cases (load env w.process initializeAssignment).functions.initializeFunc with
    | none => rfl
    | some func => exact loadsAt_still env assignments _
  · exact ⟨rfl, rfl⟩

theorem still_world (calls : List (Call Pointer)) (s : σ) :
    (run (apiCallAt (fun _ => env) tool) { process := Process.start s } calls).1.process =
      (run (apiCall env tool) (Process.start s) calls).1 :=
  (run_simulates (fun (w : Watched σ) p => w.process = p) (apiCallAt_still tool env) calls rfl).2

variable (world)

theorem first_library_stays (calls : List (Call Pointer)) (s : σ) :
    let w := (run (apiCallAt world tool) { process := Process.start s } calls).1
    Recalls world w ∧ ∀ early late handle, calls = early ++ late →
      (run (apiCallAt world tool) { process := Process.start s } early).1.process.libraryHandle = some handle →
        w.process.libraryHandle = some handle := by
  refine ⟨?_, ?_⟩
  · apply run_invariant _ (Recalls world) calls _ (start_recalls s)
    exact fun w c _ h => apiCallAt_recalls tool h c
  · rintro early late handle rfl h
    rw [run_append]
    apply run_invariant _ (fun w : Watched σ => w.process.libraryHandle = some handle) late _ h
    exact fun w c _ h => apiCallAt_handle tool h c

def secondLibrary (n : ℕ) : Linker where
  getenv _ := some (if n < 17 then "libfirst.so" else "libsecond.so")
  dlopenLoaded _ := none
  dlopen name := if name = "libfirst.so" then some 1 else some 2
  globalScope _ := none
  exports _ _ := true

example : (run (apiCallAt secondLibrary ⟨fun _ _ n => (n, null)⟩) { process := Process.start 0 }
    [.init, .finalize, .init]).1.process.functions.startFunc = some ⟨1, "tasktimer_start_impl"⟩ := by decide

end TaskStubs.Stub
