import Mathlib.Data.List.Sort
import TaskStubs.Analysis.GraphBuilding
import TaskStubs.Library.Loops

/-! `readGraph` of `analysis/critical-path.py`: the trace files are read in the order of their names,
and every line is folded into the graph as it is met. Opening and decoding the files is left out. -/

namespace TaskStubs.Analysis

structure TraceArgs where
  implicitParent : Option Bool := none
  guid : Option ℤ := none
  parentGuid : Option (ParentGuid ℤ) := none

/-- One line of `traceEvents`, with the keys that are looked up in it. -/
structure TraceEvent where
  ph : Option String := none
  name : Option String := none
  ts : Option ℚ := none
  dur : Option ℚ := none
  args : Option TraceArgs := none

structure TraceFile where
  name : String
  traceEvents : Option (List TraceEvent)

structure Execution where
  guid : ℤ
  pguid : ParentGuid ℤ
  name : String
  dur : ℚ
  ts : ℚ
  args : EventArgs ℤ

def ParentGuid.parents {V : Type} : ParentGuid V → List V
  | .single parent => [parent]
  | .many parents => parents

def namesMain (name : String) : Prop := "apex_preload_main".toList <:+: name.toList

instance (name : String) : Decidable (namesMain name) :=
  inferInstanceAs (Decidable (_ <:+: _))

namespace Execution

def IsMain (x : Execution) : Prop := namesMain x.name

instance (x : Execution) : Decidable x.IsMain := inferInstanceAs (Decidable (namesMain x.name))

/-- The main timer is given no length of its own. -/
def duration (x : Execution) : ℚ := if x.IsMain then 0 else x.dur

def attrs (x : Execution) : Attrs ℤ where
  guid := some x.guid
  name := some x.name
  duration := some x.duration
  args := some x.args
  pguid := some x.pguid
  ts := some x.ts

end Execution

inductive Reading where
  | creation (ts : ℚ)
  | destroy (ts : ℚ)
  | execution (x : Execution)
  | other

def isRecord (line : TraceEvent) (text : String) : Except (PyError ℤ) Bool := do
  let ph ← readKey "ph" line.ph
  if ph = "R" then do
    let name ← readKey "name" line.name
    pure (name = text)
  else pure false

def readExecution (line : TraceEvent) : Except (PyError ℤ) Reading := do
  let args ← readKey "args" line.args
  let name ← readKey "name" line.name
  if args.implicitParent = some true ∧ ¬ namesMain name then pure .other
  else do
    let dur ← readKey "dur" line.dur
    let ts ← readKey "ts" line.ts
    let guid ← readKey "GUID" args.guid
    let pguid ← readKey "Parent GUID" args.parentGuid
    pure (.execution ⟨guid, pguid, name, dur, ts, ⟨args.implicitParent, guid, pguid⟩⟩)

def isFirstCreation (firstCreate : ℚ) (line : TraceEvent) : Except (PyError ℤ) Bool :=
  if firstCreate = 0 then isRecord line "Task Creation" else pure false

def readLine (firstCreate : ℚ) (line : TraceEvent) : Except (PyError ℤ) Reading := do
  let creation ← isFirstCreation firstCreate line
  if creation then do
    let ts ← readKey "ts" line.ts
    pure (.creation ts)
  else do
    let destroy ← isRecord line "Task Destroy"
    if destroy then do
      let ts ← readKey "ts" line.ts
      pure (.destroy ts)
    else do
      let ph ← readKey "ph" line.ph
      if ph = "X" then readExecution line else pure .other

/-! The loop over the files. `retain` stands for the comparison `P >= inargs.main_task`. -/

structure ReadState where
  graph : DiGraph ℤ := .empty
  firstCreate : ℚ := 0
  lastDestroy : ℚ := 0
  duration : Option ℤ := none

variable (retain : ℤ → Bool)

def addExecution (g : DiGraph ℤ) (x : Execution) : DiGraph ℤ :=
  x.pguid.parents.foldl (fun g P => if retain P then g.addEdge P x.guid else g)
    (g.addNode x.guid x.attrs)

def truncate (dur : ℚ) : ℤ := if 0 ≤ dur then dur.floor else dur.ceil

def ReadState.apply (s : ReadState) : Reading → ReadState
  | .creation ts => { s with firstCreate := ts }
  | .destroy ts => { s with lastDestroy := ts }
  | .execution x =>
    { s with
      graph := addExecution retain s.graph x
      duration := if x.IsMain then some (truncate x.dur) else s.duration }
  | .other => s

def readEvent (s : ReadState) (line : TraceEvent) : Except (PyError ℤ) ReadState := do
  let reading ← readLine s.firstCreate line
  pure (s.apply retain reading)

def readFile (s : ReadState) (file : TraceFile) : Except (PyError ℤ) ReadState := do
  let traceEvents ← readKey "traceEvents" file.traceEvents
  traceEvents.foldlM (readEvent retain) s

def inNameOrder (files : List TraceFile) : List TraceFile :=
  files.insertionSort (fun a b => a.name ≤ b.name)

def readFiles (files : List TraceFile) : Except (PyError ℤ) ReadState :=
  (inNameOrder files).foldlM (readFile retain) {}

inductive ReadError where
  | systemExit (code : ℕ)
  | unboundLocal (name : String)
  | raised (error : PyError ℤ)
  deriving DecidableEq

def apexMain (firstCreate : ℚ) : Attrs ℤ where
  guid := some 0
  name := some "APEX MAIN"
  duration := some 0
  args := some ⟨none, 0, .single (-1)⟩
  pguid := some (.single (-1))
  ts := some firstCreate

def patchMain (g : DiGraph ℤ) (firstCreate : ℚ) : DiGraph ℤ :=
  if 0 ∈ g.nodes ∧ g.attr 0 = {} then g.addNode 0 (apexMain firstCreate) else g

/-- The graph, with the program time and the total lifetime of the tasks that are printed. -/
structure TraceGraph where
  graph : DiGraph ℤ
  duration : ℚ
  path : ℚ

def afterLoop (s : ReadState) : Except ReadError TraceGraph :=
  match s.duration with
  | none => .error (.unboundLocal "duration")
  | some duration =>
    .ok ⟨patchMain s.graph s.firstCreate, duration / 1000000, (s.lastDestroy - s.firstCreate) / 1000000⟩

def readGraphRetaining (files : List TraceFile) : Except ReadError TraceGraph :=
  if files.isEmpty then .error (.systemExit 1)
  else
    match readFiles retain files with
    | .error e => .error (.raised e)
    | .ok s => afterLoop s

def readGraph (mainTask : ℤ) (files : List TraceFile) : Except ReadError TraceGraph :=
  readGraphRetaining (fun P => mainTask ≤ P) files

end TaskStubs.Analysis
