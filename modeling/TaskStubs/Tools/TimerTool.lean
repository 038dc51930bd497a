import TaskStubs.Library.Machines
import TaskStubs.Stub.Api

/-! What `nvtx_tool.cpp` and `roctx_tool.cpp` have in common: the two files differ in the calls of
the vendor's library only, which are the operations of a `Vendor` here. A callback that dereferences
NULL or a deleted timer, or takes the top of an empty stack, has no result. -/

namespace TaskStubs.Tools

open Stub Function

/-- `nvtxTimer` and `roctxTimer`; `A` is what the constructor keeps for the vendor's library. -/
structure Timer (A : Type) where
  name : String
  guid : UInt64
  attributes : A
  rangeId : ℕ := 0
  doDestroy : Bool

structure Vendor (V A : Type) where
  initializeTool : V → V -- the body of tasktimer_initialize_impl
  finalizeTool : V → V -- the body of tasktimer_finalize_impl
  construct : String → UInt64 → V → V × A
  markCreate : String → A → V → V -- the marker of a timer's constructor
  doMarker : String → V → V
  rangeStart : String → A → V → V × ℕ
  rangeStop : ℕ → V → V
  sampleValue : Option String → UInt64 → V → Option V -- the body of tasktimer_sample_value_impl

/-- `dladdr` with the names of the symbol and the file, and `abi::__cxa_demangle` where it succeeds. -/
structure Runtime where
  dladdr : Pointer → Option (Option String × Option String)
  cxaDemangle : String → Option String

def noSymbols : Runtime := ⟨fun _ => none, fun _ => none⟩

structure ToolState (V A : Type) where
  vendor : V
  timers : Pointer → Option (Timer A) := fun _ => none
  nextTimer : Pointer := 1
  timerStack : List Pointer := []

variable {V A : Type} (vendor : Vendor V A) (runtime : Runtime)

def Runtime.demangle (timerName : String) : String :=
  (runtime.cxaDemangle timerName).getD timerName

def Runtime.timerName (address : Pointer) : Option String → String
  | some name => name
  | none =>
    match runtime.dladdr address with
    | some (some symbol, some file) => runtime.demangle symbol ++ (" [" ++ file ++ "]")
    | some (some symbol, none) => runtime.demangle symbol
    | some (none, _) => ""
    | none => ""

def getSpace (space : ExecutionSpace) : String :=
  (if space.type = .cpu then "CPU " else "GPU ") ++ toString space.deviceId.toNat ++ "," ++
    toString space.instanceId.toNat

def newTimer (name : String) (guid : UInt64) (doCreate : Bool) (s : ToolState V A) :
    ToolState V A × Pointer :=
  let (v, attributes) := vendor.construct name guid s.vendor
  let v := if doCreate then vendor.markCreate name attributes v else v
  let timer := { name := name, guid := guid, attributes := attributes, doDestroy := doCreate }
  ({ s with vendor := v, timers := update s.timers s.nextTimer (some timer),
            nextTimer := s.nextTimer + 1 }, s.nextTimer)

def deleteTimer (p : Pointer) (s : ToolState V A) : Option (ToolState V A) :=
  if p = null then some s -- `delete` of NULL does nothing
  else
    match s.timers p with
    | none => none
    | some timer =>
      let v := if timer.doDestroy then vendor.doMarker "Timer Destroy" s.vendor else s.vendor
      some { s with vendor := v, timers := update s.timers p none }

def mark (text : String) (s : ToolState V A) : ToolState V A :=
  { s with vendor := vendor.doMarker text s.vendor }

def openRange (p : Pointer) (s : ToolState V A) : Option (ToolState V A) :=
  match s.timers p with
  | none => none
  | some timer =>
    if timer.rangeId = 0 then
      let (v, rangeId) := vendor.rangeStart timer.name timer.attributes s.vendor
      some { s with vendor := v, timers := update s.timers p (some { timer with rangeId := rangeId }) }
    else some s

def closeRange (p : Pointer) (s : ToolState V A) : Option (ToolState V A) :=
  match s.timers p with
  | none => none
  | some timer =>
    if timer.rangeId > 0 then
      some { s with vendor := vendor.rangeStop timer.rangeId s.vendor,
                    timers := update s.timers p (some { timer with rangeId := 0 }) }
    else some s

namespace Timer

def schedule (p : Pointer) (s : ToolState V A) : Option (ToolState V A) :=
  if (s.timers p).isSome then some (mark vendor "Timer Schedule" s) else none

def start (p : Pointer) (s : ToolState V A) : Option (ToolState V A) := openRange vendor p s

def yield (p : Pointer) (s : ToolState V A) : Option (ToolState V A) := closeRange vendor p s

def resume (p : Pointer) (s : ToolState V A) : Option (ToolState V A) := openRange vendor p s

def stop (p : Pointer) (s : ToolState V A) : Option (ToolState V A) := closeRange vendor p s

end Timer

def tasktimerInitializeImpl (s : ToolState V A) : ToolState V A :=
  { s with vendor := vendor.initializeTool s.vendor }

def tasktimerFinalizeImpl (s : ToolState V A) : ToolState V A :=
  { s with vendor := vendor.finalizeTool s.vendor }

def tasktimerCreateImpl (address : Pointer) (name : Option String) (id : UInt64)
    (s : ToolState V A) : ToolState V A × Pointer :=
  newTimer vendor (runtime.timerName address name) id true s

def tasktimerDestroyImpl (timer : Pointer) (s : ToolState V A) : Option (ToolState V A) :=
  deleteTimer vendor timer s

def tasktimerScheduleImpl (timer : Pointer) (s : ToolState V A) : Option (ToolState V A) :=
  Timer.schedule vendor timer s

def tasktimerStartImpl (timer : Pointer) (s : ToolState V A) : Option (ToolState V A) :=
  Timer.start vendor timer s

def tasktimerYieldImpl (timer : Pointer) (s : ToolState V A) : Option (ToolState V A) :=
  Timer.yield vendor timer s

def tasktimerResumeImpl (timer : Pointer) (s : ToolState V A) : Option (ToolState V A) :=
  Timer.resume vendor timer s

def tasktimerStopImpl (timer : Pointer) (s : ToolState V A) : Option (ToolState V A) :=
  Timer.stop vendor timer s

def tasktimerAddParentsImpl (s : ToolState V A) : ToolState V A := mark vendor "Timer Add Parents" s

def tasktimerAddChildrenImpl (s : ToolState V A) : ToolState V A := mark vendor "Timer Add Children" s

def pushTimer (name : String) (guid : UInt64) (s : ToolState V A) : Option (ToolState V A) :=
  let (s, timer) := newTimer vendor name guid false s
  Timer.start vendor timer { s with timerStack := timer :: s.timerStack }

def popTimer (s : ToolState V A) : Option (ToolState V A) :=
  match s.timerStack with
  | [] => none
  | timer :: rest => Timer.stop vendor timer { s with timerStack := rest }

def tasktimerDataTransferStartImpl (guid : UInt64) (sourceType destType : Option ExecutionSpace)
    (s : ToolState V A) : Option (ToolState V A) :=
  match sourceType, destType with
  | some source, some dest =>
    pushTimer vendor ("Data Transfer " ++ getSpace source ++ " -> " ++ getSpace dest) guid s
  | _, _ => none

def tasktimerDataTransferStopImpl (_guid : UInt64) (s : ToolState V A) : Option (ToolState V A) :=
  popTimer vendor s -- whatever transfer the GUID names

def tasktimerCommandStartImpl (typeName : Option String) (s : ToolState V A) :
    Option (ToolState V A) :=
  match typeName with
  | some name => pushTimer vendor name 0 s
  | none => none

def tasktimerCommandStopImpl (s : ToolState V A) : Option (ToolState V A) := popTimer vendor s

def tasktimerSampleValueImpl (name : Option String) (value : UInt64) (s : ToolState V A) :
    Option (ToolState V A) :=
  (vendor.sampleValue name value s.vendor).map (fun v => { s with vendor := v })

def tasktimerMarkImpl (label : Option String) (s : ToolState V A) : Option (ToolState V A) :=
  match label with
  | some label => some (mark vendor label s)
  | none => none

section Cases

variable {vendor} {s s' : ToolState V A}

lemma openRange_cases {p : Pointer} (h : openRange vendor p s = some s') :
    ∃ t, s.timers p = some t ∧ (t.rangeId = 0 ∧ s' = { s with
        vendor := (vendor.rangeStart t.name t.attributes s.vendor).1
        timers := update s.timers p
          (some { t with rangeId := (vendor.rangeStart t.name t.attributes s.vendor).2 }) } ∨
      t.rangeId ≠ 0 ∧ s' = s) := by
  rw [openRange] at h
  cases ht : s.timers p with
  | none => rw [ht] at h; cases h
  | some t =>
    refine ⟨t, rfl, ?_⟩
    simp only [ht] at h
    split_ifs at h with hz
    · exact Or.inl ⟨hz, (Option.some.inj h).symm⟩
    · exact Or.inr ⟨hz, (Option.some.inj h).symm⟩

lemma closeRange_cases {p : Pointer} (h : closeRange vendor p s = some s') :
    ∃ t, s.timers p = some t ∧ (t.rangeId ≠ 0 ∧ s' = { s with
        vendor := vendor.rangeStop t.rangeId s.vendor
        timers := update s.timers p (some { t with rangeId := 0 }) } ∨
      t.rangeId = 0 ∧ s' = s) := by
  rw [closeRange] at h
  cases ht : s.timers p with
  | none => rw [ht] at h; cases h
  | some t =>
    refine ⟨t, rfl, ?_⟩
    simp only [ht] at h
    split_ifs at h with hz
    · exact Or.inl ⟨Nat.pos_iff_ne_zero.mp hz, (Option.some.inj h).symm⟩
    · exact Or.inr ⟨Nat.eq_zero_of_not_pos hz, (Option.some.inj h).symm⟩

lemma deleteTimer_cases {p : Pointer} (h : deleteTimer vendor p s = some s') :
    p = null ∧ s' = s ∨ p ≠ null ∧ ∃ t, s.timers p = some t ∧ s' = { s with
      vendor := if t.doDestroy then vendor.doMarker "Timer Destroy" s.vendor else s.vendor
      timers := update s.timers p none } := by
  rw [deleteTimer] at h
  split_ifs at h with hp
  · exact Or.inl ⟨hp, (Option.some.inj h).symm⟩
  · cases ht : s.timers p with
    | none => rw [ht] at h; cases h
    | some t =>
      rw [ht] at h
      exact Or.inr ⟨hp, t, rfl, (Option.some.inj h).symm⟩

lemma popTimer_cases (h : popTimer vendor s = some s') :
    ∃ p rest, s.timerStack = p :: rest ∧ closeRange vendor p { s with timerStack := rest } = some s' := by
  rw [popTimer] at h
  cases hs : s.timerStack with
  | nil => rw [hs] at h; cases h
  | cons p rest =>
    rw [hs] at h
    exact ⟨p, rest, rfl, h⟩

lemma schedule_cases {p : Pointer} (h : tasktimerScheduleImpl vendor p s = some s') :
    s' = mark vendor "Timer Schedule" s := by
  rw [tasktimerScheduleImpl, Timer.schedule] at h
  split_ifs at h
  exact (Option.some.inj h).symm

lemma dataTransferStart_cases {guid : UInt64} {sourceType destType : Option ExecutionSpace}
    (h : tasktimerDataTransferStartImpl vendor guid sourceType destType s = some s') :
    ∃ source dest, sourceType = some source ∧ destType = some dest ∧
      pushTimer vendor ("Data Transfer " ++ getSpace source ++ " -> " ++ getSpace dest) guid s =
        some s' := by
  cases sourceType with
  | none => cases h
  | some source =>
    cases destType with
    | none => cases h
    | some dest => exact ⟨source, dest, rfl, rfl, h⟩

lemma commandStart_cases {typeName : Option String}
    (h : tasktimerCommandStartImpl vendor typeName s = some s') :
    ∃ name, typeName = some name ∧ pushTimer vendor name 0 s = some s' := by
  cases typeName with
  | none => cases h
  | some name => exact ⟨name, rfl, h⟩

lemma mark_cases {label : Option String} (h : tasktimerMarkImpl vendor label s = some s') :
    ∃ text, label = some text ∧ s' = mark vendor text s := by
  cases label with
  | none => cases h
  | some text => exact ⟨text, rfl, (Option.some.inj h).symm⟩

end Cases

/-- One callback of the tool. The timer that `create` returns is the state's `nextTimer`. -/
def callback (s : ToolState V A) : Call Pointer → Option (ToolState V A)
  | .init => some (tasktimerInitializeImpl vendor s)
  | .finalize => some (tasktimerFinalizeImpl vendor s)
  | .create address name id _ _ => some (tasktimerCreateImpl vendor runtime address name id s).1
  | .schedule timer _ _ => tasktimerScheduleImpl vendor timer s
  | .start timer _ => tasktimerStartImpl vendor timer s
  | .yield timer => tasktimerYieldImpl vendor timer s
  | .resume timer _ => tasktimerResumeImpl vendor timer s
  | .stop timer => tasktimerStopImpl vendor timer s
  | .destroy timer => tasktimerDestroyImpl vendor timer s
  | .addParents .. => some (tasktimerAddParentsImpl vendor s)
  | .addChildren .. => some (tasktimerAddChildrenImpl vendor s)
  | .dataTransferStart guid sourceType _ _ destType _ _ =>
    tasktimerDataTransferStartImpl vendor guid sourceType destType s
  | .dataTransferStop guid => tasktimerDataTransferStopImpl vendor guid s
  | .commandStart typeName => tasktimerCommandStartImpl vendor typeName s
  | .commandStop => tasktimerCommandStopImpl vendor s
  | .sampleValue name value => tasktimerSampleValueImpl vendor name value s
  | .mark label => tasktimerMarkImpl vendor label s

def callbacks (s : ToolState V A) (calls : List (Call Pointer)) : Option (ToolState V A) :=
  calls.foldlM (callback vendor runtime) s

variable {vendor runtime} {s s' : ToolState V A}

lemma callbacks_cons {c : Call Pointer} {calls : List (Call Pointer)} :
    callbacks vendor runtime s (c :: calls) = some s' ↔
      ∃ t, callback vendor runtime s c = some t ∧ callbacks vendor runtime t calls = some s' :=
  Library.Machines.foldlM_cons_some

lemma callbacks_append {first second : List (Call Pointer)} :
    callbacks vendor runtime s (first ++ second) = some s' ↔
      ∃ t, callbacks vendor runtime s first = some t ∧ callbacks vendor runtime t second = some s' :=
  Library.Machines.foldlM_append_some

end TaskStubs.Tools
