import TaskStubs.Stub.Api
import TaskStubs.Tools.PrintCalls

/-! `my_tool.c`, which prints what it is told. A field of a timer is none until it is written. -/

namespace TaskStubs.Tools.MyTool

open Stub Function

/-- What `dladdr` finds, none where it fails, with the name of the symbol if there is one; and `"%f"`. -/
structure Platform where
  dladdr : Pointer → Option (Option String)
  formatDouble : UInt64 → String

/-- `my_timer_t`, as `malloc` returns it. -/
structure MyTimer where
  mName : Option String := none
  mID : Option UInt64 := none
  hasName : Option ℕ := none
  mAddress : Option Pointer := none
  mParents : GuidSet := List.replicate MAX_PARENTS.toNat none
  mParentCount : Option UInt64 := none
  mChildren : GuidSet := List.replicate MAX_CHILDREN.toNat none
  mChildCount : Option UInt64 := none

structure State where
  timers : Pointer → Option MyTimer := fun _ => none
  nextTimer : Pointer := 1
  printed : List String := []

def readField {α : Type} (field : String) : Option α → Except Fault α
  | some a => .ok a
  | none => .error (.uninitialised field)

def text : Option String → Except Fault String
  | some s => .ok s
  | none => .error .nullString

variable (platform : Platform)

def label (t : MyTimer) : Except Fault (MyTimer × String) := do
  let hasName ← readField "hasName" t.hasName
  if hasName = 1 then
    return (t, ← readField "mName" t.mName)
  let mAddress ← readField "mAddress" t.mAddress
  match platform.dladdr mAddress with
  | some dliSname =>
    let symbol ← text dliSname -- strdup, with no test for a missing symbol
    return ({ t with mName := some symbol, hasName := some 1 }, symbol)
  | none => return (t, ← readField "mName" t.mName)

def nameTimer (name : Option String) (timer : MyTimer) : MyTimer :=
  match name with
  | some name =>
    if name.length > 0 then { timer with mName := some name, hasName := some 1 }
    else { timer with hasName := some 0 }
  | none => { timer with hasName := some 0 }

/-- The arguments of `printf` are taken from left to right; C leaves their order open. -/
def createMytimer (address : Pointer) (name : Option String) (id : UInt64) (parents : List UInt64) (count : UInt64) :
    Except Fault (MyTimer × String) := do
  let timer := nameTimer name { mAddress := some address }
  let call ← createCall parents count
  let timer := { timer with mID := some id, mParents := call.inSet, mParentCount := some call.stored }
  let (timer, name) ← label platform timer
  let set ← printSet call.inSet call.count
  return (timer, "Created timer " ++ name ++ " with ID " ++ String.ofList (printedGuid id) ++ " and parents " ++
    String.ofList set)

def announce (event : String) (timer : MyTimer) : Except Fault (MyTimer × String) := do
  let (timer, name) ← label platform timer
  let mID ← readField "mID" timer.mID
  return (timer, event ++ " timer " ++ name ++ " with ID " ++ String.ofList (printedGuid mID))

def schedule := announce platform "Scheduling"

def start := announce platform "Starting"

def yield := announce platform "Yielding"

def resume := announce platform "Resuming"

def stop := announce platform "Stopping"

def addParents (parents : List UInt64) (count : UInt64) (timer : MyTimer) : Except Fault (MyTimer × String) := do
  let mParentCount ← readField "mParentCount" timer.mParentCount
  let call ← addParentsCall timer.mParents mParentCount parents count
  let timer := { timer with mParents := call.inSet, mParentCount := some call.stored }
  let (timer, name) ← label platform timer
  let set ← printSet call.inSet call.count
  return (timer, "Timer " ++ name ++ " adding parents " ++ String.ofList set)

def addChildren (children : List UInt64) (count : UInt64) (timer : MyTimer) : Except Fault (MyTimer × String) := do
  let mChildCount ← readField "mChildCount" timer.mChildCount
  let call ← addChildrenCall timer.mChildren mChildCount children count
  let timer := { timer with mChildren := call.inSet, mChildCount := some call.stored }
  let (timer, name) ← label platform timer
  let set ← printSet call.inSet call.count
  return (timer, "Timer " ++ name ++ " adding children " ++ String.ofList set)

def print (line : String) (s : State) : State := { s with printed := s.printed ++ [line] }

def withTimer (p : Pointer) (callback : MyTimer → Except Fault (MyTimer × String)) (s : State) :
    Except Fault State :=
  match s.timers p with
  | none => .error .notLive
  | some timer => do
    let (timer, line) ← callback timer
    return print line { s with timers := update s.timers p (some timer) }

def create (address : Pointer) (name : Option String) (id : UInt64) (parents : List UInt64) (count : UInt64)
    (s : State) : Except Fault State := do
  let (timer, line) ← createMytimer platform address name id parents count
  return print line { s with timers := update s.timers s.nextTimer (some timer), nextTimer := s.nextTimer + 1 }

def destroy (p : Pointer) (s : State) : Except Fault State :=
  if p = null then .ok s -- `free` of NULL does nothing
  else if (s.timers p).isSome then .ok { s with timers := update s.timers p none }
  else .error .notLive

/-- A callback; an array that is NULL has no entries. -/
def step (s : State) : Call Pointer → Except Fault State
  | .init => .ok (print "Initializing tool" s)
  | .finalize => .ok (print "Finalizing tool" s)
  | .create address name id parents count => create platform address name id (parents.getD []) count s
  | .schedule timer _ _ => withTimer timer (schedule platform) s
  | .start timer _ => withTimer timer (start platform) s
  | .yield timer => withTimer timer (yield platform) s
  | .resume timer _ => withTimer timer (resume platform) s
  | .stop timer => withTimer timer (stop platform) s
  | .destroy timer => destroy timer s
  | .addParents timer parents count => withTimer timer (addParents platform (parents.getD []) count) s
  | .addChildren timer children count => withTimer timer (addChildren platform (children.getD []) count) s
  | .dataTransferStart guid .. => .ok (print ("Data transfer " ++ toString guid.toNat ++ " start") s)
  | .dataTransferStop guid => .ok (print ("Data transfer " ++ toString guid.toNat ++ " stop") s)
  | .commandStart typeName => do return print ("Command " ++ (← text typeName) ++ " start") s
  | .commandStop => .ok (print "Command stop" s)
  | .sampleValue name value => do
    return print ("sample value " ++ (← text name) ++ " = " ++ platform.formatDouble value) s
  | .mark label => do return print ("mark an event " ++ (← text label)) s

end TaskStubs.Tools.MyTool
