import TaskStubs.Stub.Lifecycle

/-! Which objects the seventeen pointers point into. -/

namespace TaskStubs.Stub

open Library.Machines

variable {σ : Type} (env : Linker) (tool : Tool σ)

def SingleProvider (t : Functions) : Prop :=
  ∀ a b f g, t.func a = some f → t.func b = some g → f.provider = g.provider

def NoInitializer : Prop :=
  env.globalScope Api.init.symbol = none ∧
    ∀ library, getLibrary env = some library → env.exports library Api.init.symbol = false

/-- One object holds all the global symbols, and where the library has to fill in for it they are
the same. -/
structure Unmixed : Prop where
  scope : ∀ (a b : Api) p q, env.globalScope a.symbol = some p → env.globalScope b.symbol = some q →
    p = q
  library : ∀ (a b : Api) p library, env.globalScope a.symbol = some p → getLibrary env = some library →
    env.globalScope b.symbol = none → env.exports library b.symbol = true → p = library

lemma exported_none_iff (api : Api) :
    exported env api = none ↔ env.globalScope api.symbol = none ∧
      ∀ library, getLibrary env = some library → env.exports library api.symbol = false := by
  rw [exported, resolve, dlsymDefault]
  cases env.globalScope api.symbol with
  | some p => simp
  | none => cases getLibrary env <;> simp [dlsym]

lemma exported_global {api : Api} {p : Provider} (h : env.globalScope api.symbol = some p) :
    exported env api = some ⟨p, api.symbol⟩ := by
  simp [exported, resolve, dlsymDefault, h]

lemma exported_library {api : Api} {library : Provider} (hg : env.globalScope api.symbol = none)
    (hl : getLibrary env = some library) (he : env.exports library api.symbol = true) :
    exported env api = some ⟨library, api.symbol⟩ := by
  simp [exported, resolve, dlsymDefault, dlsym, hg, hl, he]

lemma exported_cases {api : Api} {func : FunctionPointer} (h : exported env api = some func) :
    env.globalScope api.symbol = some func.provider ∨
      env.globalScope api.symbol = none ∧ getLibrary env = some func.provider ∧
        env.exports func.provider api.symbol = true := by
  rw [exported, resolve, dlsymDefault] at h
  cases hg : env.globalScope api.symbol with
  | some p =>
    rw [hg] at h
    exact Or.inl (congrArg some (congrArg FunctionPointer.provider (Option.some.inj h)))
  | none =>
    rw [hg] at h
    obtain ⟨library, hl, hs⟩ := Option.bind_eq_some_iff.mp h
    rw [dlsym] at hs
    split_ifs at hs with he
    obtain rfl := Option.some.inj hs
    exact Or.inr ⟨rfl, hl, he⟩

lemma unmixed_iff : Unmixed env ↔
    ∀ a b f g, exported env a = some f → exported env b = some g → f.provider = g.provider := by
  refine ⟨?_, ?_⟩
  · intro h a b f g hf hg
    rcases exported_cases env hf with hp | ⟨hn, hl, he⟩ <;>
      rcases exported_cases env hg with hq | ⟨hm, hk, hx⟩
    · exact h.scope a b _ _ hp hq
    · exact h.library a b _ _ hp hk hm hx
    · exact (h.library b a _ _ hq hl hn he).symm
    · exact Option.some.inj (hl.symm.trans hk)
  · intro h
    refine ⟨?_, ?_⟩
    · intro a b p q hp hq
      exact h a b _ _ (exported_global env hp) (exported_global env hq)
    · intro a b p library hp hl hn he
      exact h a b _ _ (exported_global env hp) (exported_library env hn hl he)

def SuppliedBy (object : Provider) : Prop := ∀ api, exported env api = some ⟨object, api.symbol⟩

theorem supplied_iff : (∃ object, SuppliedBy env object) ↔ Unmixed env ∧ ∀ api, (exported env api).isSome := by
  rw [unmixed_iff]
  refine ⟨?_, ?_⟩
  · rintro ⟨object, h⟩
    refine ⟨?_, fun api => by rw [h api]; rfl⟩
    intro a b f g hf hg
    obtain rfl := Option.some.inj ((h a).symm.trans hf)
    obtain rfl := Option.some.inj ((h b).symm.trans hg)
    rfl
  · rintro ⟨hu, hall⟩
    obtain ⟨first, hfirst⟩ := Option.isSome_iff_exists.mp (hall .init)
    refine ⟨first.provider, ?_⟩
    intro api
    obtain ⟨func, hfunc⟩ := Option.isSome_iff_exists.mp (hall api)
    rw [hfunc, ← hu api .init func first hfunc hfirst, ← resolve_symbol env hfunc]

lemma completeLibrary_supplied : SuppliedBy completeLibrary 1 := by
  intro api
  cases api <;> rfl

lemma initialize_func {p : Process σ} {a : Forwarder σ} (h : Refines env p a)
    (ha : a.loaded = true → (exported env .init).isSome) (api : Api) :
    (tasktimerInitialize env tool p).functions.func api =
      if (exported env .init).isSome then exported env api else none := by
  by_cases hi : api = .init
  · subst hi
    have hc := (load_functions env p h.cached initializeAssignment).2
    have hf := load_initialize env p h.cached
    rw [tasktimerInitialize]
    cases hr : exported env .init with
    | none =>
      rw [hr] at hf
      simp only [hf]
      exact hf
    | some func =>
      rw [hr] at hf
      simp only [hf]
      rw [(loads_functions env assignments
        (invoke tool func .init (load env p initializeAssignment)).1 hc).1]
      exact hf
  · rw [(init_refines env tool h).func_eq api hi, Forwarder.step_loaded]
    cases he : exported env .init with
    | none =>
      have hl : a.loaded = false := by
        by_contra hn
        simpa [he] using ha (by simpa using hn)
      simp [hl]
    | some func => simp [Call.api]

theorem single_provider_iff (calls : List (Call Pointer)) (s : σ) :
    let p := (run (apiCall env tool) (Process.start s) calls).1
    (SingleProvider (tasktimerInitialize env tool p).functions ↔ NoInitializer env ∨ Unmixed env) ∧
      (NoInitializer env ∨ Unmixed env →
        ∀ i ∈ p.trace, ∀ j ∈ p.trace, i.callee.provider = j.callee.provider) := by
  intro p
  obtain ⟨-, hr⟩ := stub_refines env tool calls s
  have hi : (run (Forwarder.step (exported env) tool) { tool := s } calls).1.loaded = true →
      (exported env .init).isSome := by
    intro hl
    rw [Forwarder.run_loaded] at hl
    simp only [Bool.false_or, Bool.and_eq_true] at hl
    exact hl.2
  have hf := initialize_func env tool hr hi
  have hx := Forwarder.run_trace_exported (exported env) tool { tool := s } calls (by simp)
  rw [← hr.trace_eq] at hx
  rw [NoInitializer, ← exported_none_iff, unmixed_iff]
  refine ⟨?_, ?_⟩
  · rw [SingleProvider]
    simp only [p, hf]
    cases exported env .init <;> simp
  · rintro (hn | hu)
    · have ht : p.trace = [] := by
        rw [hr.trace_eq, Forwarder.run_unheard (exported env) tool { tool := s } rfl calls
          (fun _ _ _ => hn)]
      simp [ht]
    · intro i hip j hjp
      exact hu _ _ _ _ (hx i hip) (hx j hjp)

def mixedScope : Linker where
  getenv _ := some "libtool.so"
  dlopenLoaded _ := none
  dlopen _ := some 2
  globalScope symbol := if symbol = "tasktimer_start_impl" then some 1 else none
  exports _ _ := true

theorem providers_mixed :
    let p := (run (apiCall mixedScope countingTool) (Process.start 0)
      [.init, .create null (some "task") 0 none 0, .start 2 none]).1
    ¬ SingleProvider p.functions ∧
      p.trace = [⟨⟨2, "tasktimer_initialize_impl"⟩, .init, 1⟩,
        ⟨⟨2, "tasktimer_create_impl"⟩, .create null (some "task") 0 none 0, 2⟩,
        ⟨⟨1, "tasktimer_start_impl"⟩, .start 2 none, 3⟩] := by
  intro p
  refine ⟨?_, by decide⟩
  intro h
  have hp := h .create .start ⟨2, "tasktimer_create_impl"⟩ ⟨1, "tasktimer_start_impl"⟩
    (by decide) (by decide)
  simp at hp

end TaskStubs.Stub
