import TaskStubs.Tools.Recorder

/-! `roctx_tool.cpp`: the same tool, with plain texts. -/

namespace TaskStubs.Tools.Roctx

open Stub

/-- The library's answers: the id of a range is not 0 and not the id of an open range. -/
structure Library where
  startRange : List Entry → String → ℕ
  startRange_ne_zero : ∀ log text, startRange log text ≠ 0
  startRange_not_open : ∀ log text, ∀ range ∈ (Reading.of log).openRanges,
    range.1 ≠ startRange log text

def freshLibrary : Library where
  startRange log _ := ((Reading.of log).openRanges.map Prod.fst).sum + 1
  startRange_ne_zero _ _ := Nat.succ_ne_zero _
  startRange_not_open := by
    intro log text range h
    have hle := List.le_sum_of_mem (List.mem_map_of_mem (f := Prod.fst) h)
    omega

abbrev State := List Entry

variable (library : Library)

def doMarker (name : String) (log : State) : State := log ++ [.mark (some name)]

def doMarker₂ (name name2 : String) (log : State) : State := doMarker (name ++ (":" ++ name2)) log

def rangeStart (name : String) (log : State) : State × ℕ :=
  let id := library.startRange log name
  (log ++ [.rangeStart (some name) id], id)

def rangeStop (id : ℕ) (log : State) : State := log ++ [.rangeStop id]

def vendor : Vendor State Unit where
  initializeTool := doMarker "TaskStubs Initialize"
  finalizeTool := doMarker "TaskStubs Finalize"
  construct _ _ log := (log, ())
  markCreate name _ := doMarker₂ "Timer Create" name
  doMarker := doMarker
  rangeStart name _ := rangeStart library name
  rangeStop := rangeStop
  sampleValue _ _ log := some log

def createText (name : String) : String := "Timer Create" ++ (":" ++ name)

def session : Session (vendor library) createText where
  entries log := log
  Ok _ := True
  Carries _ _ _ := True
  construct _ _ _ _ := ⟨⟨trivial, (List.append_nil _).symm, fun _ _ h => h⟩, trivial⟩
  markCreate _ _ _ _ _ := ⟨trivial, rfl, fun _ _ h => h⟩
  doMarker _ _ _ := ⟨trivial, rfl, fun _ _ h => h⟩
  rangeStart _ _ _ _ _ :=
    ⟨⟨trivial, rfl, fun _ _ h => h⟩, library.startRange_ne_zero _ _, library.startRange_not_open _ _⟩
  rangeStop _ _ _ := ⟨trivial, rfl, fun _ _ h => h⟩
  finalizeTool _ _ := ⟨trivial, rfl, fun _ _ h => h⟩

lemma start_records : Records (session library) { vendor := [] } { vendor := [] } :=
  records_new _ trivial rfl rfl

lemma initialize_records : Records (session library)
    { vendor := doMarker "TaskStubs Initialize" [] } { vendor := [.marker "TaskStubs Initialize"] } :=
  records_new _ trivial rfl rfl

variable (runtime : Runtime)

def observed (calls : List (Call Pointer)) : Option (List Observation) :=
  Tools.observed (vendor library) runtime (fun log => log) { vendor := [] } calls

end TaskStubs.Tools.Roctx
