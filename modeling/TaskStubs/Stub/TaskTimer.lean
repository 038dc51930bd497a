import TaskStubs.Stub.Plugin

/-! `tasktimer.c`: seventeen function pointers and the wrappers that call through them. -/

namespace TaskStubs.Stub

/-- The global pointers `tasktimer_*_func`, NULL at the start. -/
structure Functions where
  initializeFunc : Option FunctionPointer := none
  finalizeFunc : Option FunctionPointer := none
  createFunc : Option FunctionPointer := none
  scheduleFunc : Option FunctionPointer := none
  startFunc : Option FunctionPointer := none
  yieldFunc : Option FunctionPointer := none
  resumeFunc : Option FunctionPointer := none
  stopFunc : Option FunctionPointer := none
  destroyFunc : Option FunctionPointer := none
  addParentsFunc : Option FunctionPointer := none
  addChildrenFunc : Option FunctionPointer := none
  dataTransferStartFunc : Option FunctionPointer := none
  dataTransferStopFunc : Option FunctionPointer := none
  commandStartFunc : Option FunctionPointer := none
  commandStopFunc : Option FunctionPointer := none
  sampleValueFunc : Option FunctionPointer := none
  markFunc : Option FunctionPointer := none

def Functions.func (functions : Functions) : Api → Option FunctionPointer
  | .init => functions.initializeFunc
  | .finalize => functions.finalizeFunc
  | .create => functions.createFunc
  | .schedule => functions.scheduleFunc
  | .start => functions.startFunc
  | .yield => functions.yieldFunc
  | .resume => functions.resumeFunc
  | .stop => functions.stopFunc
  | .destroy => functions.destroyFunc
  | .addParents => functions.addParentsFunc
  | .addChildren => functions.addChildrenFunc
  | .dataTransferStart => functions.dataTransferStartFunc
  | .dataTransferStop => functions.dataTransferStopFunc
  | .commandStart => functions.commandStartFunc
  | .commandStop => functions.commandStopFunc
  | .sampleValue => functions.sampleValueFunc
  | .mark => functions.markFunc

/-- The tools behind the function pointers; the returned pointer matters for `create` only. -/
structure Tool (σ : Type) where
  invoke : FunctionPointer → Call Pointer → σ → σ × Pointer

structure Invocation where
  callee : FunctionPointer
  call : Call Pointer
  result : Pointer
  deriving DecidableEq

structure Process (σ : Type) where
  functions : Functions := {}
  libraryHandle : Option Provider := none
  tool : σ
  trace : List Invocation := []

variable {σ : Type} (env : Linker) (tool : Tool σ)

def Process.start (s : σ) : Process σ := { tool := s }

def invoke (func : FunctionPointer) (call : Call Pointer) (p : Process σ) : Process σ × Pointer :=
  let (s, result) := tool.invoke func call p.tool
  ({ p with tool := s, trace := p.trace ++ [⟨func, call, result⟩] }, result)

def load (p : Process σ) (entry : String × (Option FunctionPointer → Functions → Functions)) :
    Process σ :=
  let (func, handle) := getSymbol env p.libraryHandle entry.1
  { p with functions := entry.2 func p.functions, libraryHandle := handle }

def initializeAssignment : String × (Option FunctionPointer → Functions → Functions) :=
  ("tasktimer_initialize_impl", fun f t => { t with initializeFunc := f })

def assignments : List (String × (Option FunctionPointer → Functions → Functions)) :=
  [("tasktimer_finalize_impl", fun f t => { t with finalizeFunc := f }),
    ("tasktimer_create_impl", fun f t => { t with createFunc := f }),
    ("tasktimer_schedule_impl", fun f t => { t with scheduleFunc := f }),
    ("tasktimer_start_impl", fun f t => { t with startFunc := f }),
    ("tasktimer_yield_impl", fun f t => { t with yieldFunc := f }),
    ("tasktimer_resume_impl", fun f t => { t with resumeFunc := f }),
    ("tasktimer_stop_impl", fun f t => { t with stopFunc := f }),
    ("tasktimer_destroy_impl", fun f t => { t with destroyFunc := f }),
    ("tasktimer_add_parents_impl", fun f t => { t with addParentsFunc := f }),
    ("tasktimer_add_children_impl", fun f t => { t with addChildrenFunc := f }),
    ("tasktimer_data_transfer_start_impl", fun f t => { t with dataTransferStartFunc := f }),
    ("tasktimer_data_transfer_stop_impl", fun f t => { t with dataTransferStopFunc := f }),
    ("tasktimer_command_start_impl", fun f t => { t with commandStartFunc := f }),
    ("tasktimer_command_stop_impl", fun f t => { t with commandStopFunc := f }),
    ("tasktimer_sample_value_impl", fun f t => { t with sampleValueFunc := f }),
    ("tasktimer_mark_impl", fun f t => { t with markFunc := f })]

def tasktimerInitialize (p : Process σ) : Process σ :=
  let p := load env p initializeAssignment
  match p.functions.initializeFunc with
  | none => p -- the early return: no other pointer is assigned
  | some func => assignments.foldl (load env) (invoke tool func .init p).1

def forward (func : Option FunctionPointer) (call : Call Pointer) (p : Process σ) : Process σ :=
  match func with
  | some func => (invoke tool func call p).1
  | none => p

def tasktimerFinalize (p : Process σ) : Process σ :=
  forward tool p.functions.finalizeFunc .finalize p

def tasktimerCreate (address : Pointer) (name : Option String) (guid : UInt64)
    (parents : Option (List UInt64)) (parentCount : UInt64) (p : Process σ) : Process σ × Pointer :=
  match p.functions.createFunc with
  | some func => invoke tool func (.create address name guid parents parentCount) p
  | none => (p, null)

def tasktimerSchedule (timer arguments : Pointer) (argumentCount : UInt64) (p : Process σ) : Process σ :=
  forward tool p.functions.scheduleFunc (.schedule timer arguments argumentCount) p

def tasktimerStart (timer : Pointer) (resource : Option ExecutionSpace) (p : Process σ) : Process σ :=
  forward tool p.functions.startFunc (.start timer resource) p

def tasktimerYield (timer : Pointer) (p : Process σ) : Process σ :=
  forward tool p.functions.yieldFunc (.yield timer) p

def tasktimerResume (timer : Pointer) (resource : Option ExecutionSpace) (p : Process σ) : Process σ :=
  forward tool p.functions.resumeFunc (.resume timer resource) p

def tasktimerStop (timer : Pointer) (p : Process σ) : Process σ :=
  forward tool p.functions.stopFunc (.stop timer) p

def tasktimerDestroy (timer : Pointer) (p : Process σ) : Process σ :=
  forward tool p.functions.destroyFunc (.destroy timer) p

def tasktimerAddParents (timer : Pointer) (parents : Option (List UInt64)) (parentCount : UInt64)
    (p : Process σ) : Process σ :=
  forward tool p.functions.addParentsFunc (.addParents timer parents parentCount) p

def tasktimerAddChildren (timer : Pointer) (children : Option (List UInt64)) (childCount : UInt64)
    (p : Process σ) : Process σ :=
  forward tool p.functions.addChildrenFunc (.addChildren timer children childCount) p

def tasktimerDataTransferStart (guid : UInt64)
    (sourceType : Option ExecutionSpace) (sourceName : Option String) (sourcePtr : Pointer)
    (destType : Option ExecutionSpace) (destName : Option String) (destPtr : Pointer)
    (p : Process σ) : Process σ :=
  forward tool p.functions.dataTransferStartFunc
    (.dataTransferStart guid sourceType sourceName sourcePtr destType destName destPtr) p

def tasktimerDataTransferStop (guid : UInt64) (p : Process σ) : Process σ :=
  forward tool p.functions.dataTransferStopFunc (.dataTransferStop guid) p

def tasktimerCommandStart (typeName : Option String) (p : Process σ) : Process σ :=
  forward tool p.functions.commandStartFunc (.commandStart typeName) p

def tasktimerCommandStop (p : Process σ) : Process σ :=
  forward tool p.functions.commandStopFunc .commandStop p

def tasktimerSampleValue (name : Option String) (value : UInt64) (p : Process σ) : Process σ :=
  forward tool p.functions.sampleValueFunc (.sampleValue name value) p

def tasktimerMark (label : Option String) (p : Process σ) : Process σ :=
  forward tool p.functions.markFunc (.mark label) p

def apiCall (p : Process σ) : Call Pointer → Process σ × Option Pointer
  | .init => (tasktimerInitialize env tool p, none)
  | .finalize => (tasktimerFinalize tool p, none)
  | .create address name guid parents count =>
    let (p, timer) := tasktimerCreate tool address name guid parents count p
    (p, some timer)
  | .schedule timer arguments count => (tasktimerSchedule tool timer arguments count p, none)
  | .start timer resource => (tasktimerStart tool timer resource p, none)
  | .yield timer => (tasktimerYield tool timer p, none)
  | .resume timer resource => (tasktimerResume tool timer resource p, none)
  | .stop timer => (tasktimerStop tool timer p, none)
  | .destroy timer => (tasktimerDestroy tool timer p, none)
  | .addParents timer parents count => (tasktimerAddParents tool timer parents count p, none)
  | .addChildren timer children count => (tasktimerAddChildren tool timer children count p, none)
  | .dataTransferStart guid st sn sp dt dn dp =>
    (tasktimerDataTransferStart tool guid st sn sp dt dn dp p, none)
  | .dataTransferStop guid => (tasktimerDataTransferStop tool guid p, none)
  | .commandStart typeName => (tasktimerCommandStart tool typeName p, none)
  | .commandStop => (tasktimerCommandStop tool p, none)
  | .sampleValue name value => (tasktimerSampleValue tool name value p, none)
  | .mark label => (tasktimerMark tool label p, none)

end TaskStubs.Stub
