import Mathlib.Tactic

/-! The calls of `tool_api.h`. A `const char*` is its text or NULL, an array of GUIDs its entries or
NULL, a pointer to an execution space the space or NULL; other pointers are addresses. -/

namespace TaskStubs.Stub

abbrev Pointer := ℕ

def null : Pointer := 0

inductive DeviceType where
  | cpu
  | gpu
  | other
  deriving DecidableEq

structure ExecutionSpace where
  type : DeviceType
  deviceId : UInt64
  instanceId : UInt64
  deriving DecidableEq

inductive Api where
  | init
  | finalize
  | create
  | schedule
  | start
  | yield
  | resume
  | stop
  | destroy
  | addParents
  | addChildren
  | dataTransferStart
  | dataTransferStop
  | commandStart
  | commandStop
  | sampleValue
  | mark
  deriving DecidableEq

def Api.symbol : Api → String
  | .init => "tasktimer_initialize_impl"
  | .finalize => "tasktimer_finalize_impl"
  | .create => "tasktimer_create_impl"
  | .schedule => "tasktimer_schedule_impl"
  | .start => "tasktimer_start_impl"
  | .yield => "tasktimer_yield_impl"
  | .resume => "tasktimer_resume_impl"
  | .stop => "tasktimer_stop_impl"
  | .destroy => "tasktimer_destroy_impl"
  | .addParents => "tasktimer_add_parents_impl"
  | .addChildren => "tasktimer_add_children_impl"
  | .dataTransferStart => "tasktimer_data_transfer_start_impl"
  | .dataTransferStop => "tasktimer_data_transfer_stop_impl"
  | .commandStart => "tasktimer_command_start_impl"
  | .commandStop => "tasktimer_command_stop_impl"
  | .sampleValue => "tasktimer_sample_value_impl"
  | .mark => "tasktimer_mark_impl"

/-- One call with its arguments in the order of the C declarations; `T` is what stands for a timer.
The value of a sample is the bit pattern of the double. -/
inductive Call (T : Type) where
  | init
  | finalize
  | create (address : Pointer) (name : Option String) (guid : UInt64)
      (parents : Option (List UInt64)) (parentCount : UInt64)
  | schedule (timer : T) (arguments : Pointer) (argumentCount : UInt64)
  | start (timer : T) (resource : Option ExecutionSpace)
  | yield (timer : T)
  | resume (timer : T) (resource : Option ExecutionSpace)
  | stop (timer : T)
  | destroy (timer : T)
  | addParents (timer : T) (parents : Option (List UInt64)) (parentCount : UInt64)
  | addChildren (timer : T) (children : Option (List UInt64)) (childCount : UInt64)
  | dataTransferStart (guid : UInt64)
      (sourceType : Option ExecutionSpace) (sourceName : Option String) (sourcePtr : Pointer)
      (destType : Option ExecutionSpace) (destName : Option String) (destPtr : Pointer)
  | dataTransferStop (guid : UInt64)
  | commandStart (typeName : Option String)
  | commandStop
  | sampleValue (name : Option String) (value : UInt64)
  | mark (label : Option String)
  deriving DecidableEq

namespace Call

variable {T U : Type}

def api : Call T → Api
  | .init => .init
  | .finalize => .finalize
  | .create .. => .create
  | .schedule .. => .schedule
  | .start .. => .start
  | .yield _ => .yield
  | .resume .. => .resume
  | .stop _ => .stop
  | .destroy _ => .destroy
  | .addParents .. => .addParents
  | .addChildren .. => .addChildren
  | .dataTransferStart .. => .dataTransferStart
  | .dataTransferStop _ => .dataTransferStop
  | .commandStart _ => .commandStart
  | .commandStop => .commandStop
  | .sampleValue .. => .sampleValue
  | .mark _ => .mark

def timer : Call T → Option T
  | .schedule t .. | .start t _ | .yield t | .resume t _ | .stop t | .destroy t
  | .addParents t .. | .addChildren t .. => some t
  | _ => none

def mapTimer (f : T → U) : Call T → Call U
  | .init => .init
  | .finalize => .finalize
  | .create address name guid parents count => .create address name guid parents count
  | .schedule t arguments count => .schedule (f t) arguments count
  | .start t resource => .start (f t) resource
  | .yield t => .yield (f t)
  | .resume t resource => .resume (f t) resource
  | .stop t => .stop (f t)
  | .destroy t => .destroy (f t)
  | .addParents t parents count => .addParents (f t) parents count
  | .addChildren t children count => .addChildren (f t) children count
  | .dataTransferStart guid st sn sp dt dn dp => .dataTransferStart guid st sn sp dt dn dp
  | .dataTransferStop guid => .dataTransferStop guid
  | .commandStart name => .commandStart name
  | .commandStop => .commandStop
  | .sampleValue name value => .sampleValue name value
  | .mark label => .mark label

@[simp] lemma api_mapTimer (f : T → U) (c : Call T) : (c.mapTimer f).api = c.api := by
  cases c <;> rfl

@[simp] lemma timer_mapTimer (f : T → U) (c : Call T) : (c.mapTimer f).timer = c.timer.map f := by
  cases c <;> rfl

lemma api_eq_init {c : Call T} (h : c.api = .init) : c = .init := by
  cases c <;> first | rfl | simp [api] at h

lemma api_eq_finalize {c : Call T} (h : c.api = .finalize) : c = .finalize := by
  cases c <;> first | rfl | simp [api] at h

end Call

end TaskStubs.Stub
