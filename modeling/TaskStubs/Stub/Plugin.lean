import TaskStubs.Stub.Api

/-! `plugin.c`: a symbol is looked up in the global scope and then in the library that the
environment names. The lookups of the dynamic linker are fixed during a run. -/

namespace TaskStubs.Stub

/-- An object that provides functions: one in the global scope, or a loaded library. -/
abbrev Provider := ℕ

structure FunctionPointer where
  provider : Provider
  symbol : String
  deriving DecidableEq

structure Linker where
  getenv : String → Option String
  dlopenLoaded : String → Option Provider -- with RTLD_NOLOAD
  dlopen : String → Option Provider
  globalScope : String → Option Provider -- where RTLD_DEFAULT finds a symbol
  exports : Provider → String → Bool

variable (env : Linker)

def dlsymDefault (symbol : String) : Option FunctionPointer :=
  (env.globalScope symbol).map (fun provider => ⟨provider, symbol⟩)

def dlsym (handle : Provider) (symbol : String) : Option FunctionPointer :=
  if env.exports handle symbol then some ⟨handle, symbol⟩ else none

def getLibrary : Option Provider :=
  match env.getenv "TASKTIMER_EXTERNAL_TOOL_LIBRARY" with
  | none => none
  | some libname =>
    match env.dlopenLoaded libname with
    | some handle => some handle
    | none => env.dlopen libname

/-- The function found, and the new value of the static `library_handle`. -/
def getSymbol (libraryHandle : Option Provider) (symbol : String) :
    Option FunctionPointer × Option Provider :=
  match dlsymDefault env symbol with
  | some func => (some func, libraryHandle)
  | none =>
    -- looked up again at every symbol as long as there is no library
    let libraryHandle := if libraryHandle = none then getLibrary env else libraryHandle
    match libraryHandle with
    | none => (none, none)
    | some handle => (dlsym env handle symbol, some handle)

def resolve (symbol : String) : Option FunctionPointer :=
  match dlsymDefault env symbol with
  | some func => some func
  | none => (getLibrary env).bind (fun handle => dlsym env handle symbol)

def Cached (libraryHandle : Option Provider) : Prop :=
  libraryHandle = none ∨ libraryHandle = getLibrary env

lemma getSymbol_resolve {libraryHandle : Option Provider} (h : Cached env libraryHandle)
    (symbol : String) :
    (getSymbol env libraryHandle symbol).1 = resolve env symbol ∧
      Cached env (getSymbol env libraryHandle symbol).2 := by
  have he : (if libraryHandle = none then getLibrary env else libraryHandle) = getLibrary env := by
    split_ifs with hn
    · rfl
    · exact h.resolve_left hn
  rw [getSymbol, resolve]
  cases dlsymDefault env symbol with
  | some func => exact ⟨rfl, h⟩
  | none =>
    simp only [he]
    cases hl : getLibrary env with
    | none => exact ⟨rfl, Or.inl rfl⟩
    | some handle => exact ⟨rfl, Or.inr hl.symm⟩

lemma resolve_symbol {symbol : String} {func : FunctionPointer} (h : resolve env symbol = some func) :
    func.symbol = symbol := by
  rw [resolve] at h
  cases hd : dlsymDefault env symbol with
  | some f =>
    rw [hd] at h
    obtain rfl := Option.some.inj h
    obtain ⟨provider, _, rfl⟩ := Option.map_eq_some_iff.mp hd
    rfl
  | none =>
    rw [hd] at h
    obtain ⟨handle, _, hs⟩ := Option.bind_eq_some_iff.mp h
    rw [dlsym] at hs
    split_ifs at hs
    rw [← Option.some.inj hs]

end TaskStubs.Stub
