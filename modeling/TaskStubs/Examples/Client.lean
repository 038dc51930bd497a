import TaskStubs.Stub.TaskTimer

/-! `examples/main.c`, and the programs of its kind: tasks that are created, scheduled, started and
stopped around the work they contain, commands and transfers around theirs. -/

namespace TaskStubs.Examples

open Stub

/-- The process behind the stub, and the static counter of `new_guid`. -/
structure App (σ : Type) where
  process : Process σ
  count : UInt64 := 0

/-- The addresses that the program passes on, and its thread. -/
structure Image where
  A : Pointer
  B : Pointer
  C : Pointer
  args : Pointer
  source : Pointer
  dest : Pointer
  gettid : UInt64

variable {σ : Type}

def newGuid : StateM (App σ) UInt64 := fun a => (a.count, { a with count := a.count + 1 })

variable (env : Linker) (tool : Tool σ)

def create (address : Pointer) (name : Option String) (guid : UInt64) (parents : Option (List UInt64))
    (parentCount : UInt64) : StateM (App σ) Pointer := fun a =>
  let (process, timer) := tasktimerCreate tool address name guid parents parentCount a.process
  (timer, { a with process := process })

def notify (c : Call Pointer) : StateM (App σ) Unit := fun a =>
  ((), { a with process := (apiCall env tool a.process c).1 })

def cpu (instanceId : UInt64) : ExecutionSpace := ⟨.cpu, 0, instanceId⟩

namespace MainC

variable (image : Image)

def D : StateM (App σ) Unit := do
  notify env tool (.commandStart (some "D"))
  notify env tool .commandStop

def E : StateM (App σ) Unit := do
  notify env tool (.commandStart (some "E"))
  notify env tool .commandStop

def F : StateM (App σ) Unit := do
  notify env tool (.commandStart (some "F"))
  notify env tool .commandStop

def xfer : StateM (App σ) Unit := do
  notify env tool (.dataTransferStart 100 (some (cpu 0)) (some "source") image.source
    (some (cpu 0)) (some "dest") image.dest)
  notify env tool (.dataTransferStop 100)

def B (parent1 parent2 : UInt64) : StateM (App σ) Unit := do
  let myguid ← newGuid
  let tt_B ← create tool image.B (some "B") myguid (some [parent1, parent2]) 2
  notify env tool (.schedule tt_B image.args 2)
  notify env tool (.start tt_B (some (cpu image.gettid)))
  notify env tool (.stop tt_B)

def C (parent1 parent2 : UInt64) : StateM (App σ) Unit := do
  let myguid ← newGuid
  let tt_C ← create tool image.C none myguid (some [parent1, parent2]) 2
  notify env tool (.schedule tt_C image.args 2)
  notify env tool (.start tt_C (some (cpu image.gettid)))
  D env tool
  xfer env tool image
  E env tool
  xfer env tool image
  F env tool
  notify env tool (.stop tt_C)

def A (parent : UInt64) : StateM (App σ) Unit := do
  let myguid ← newGuid
  let tt_A ← create tool image.A (some "A") myguid (some [parent]) 1
  notify env tool (.schedule tt_A image.args 1)
  notify env tool (.start tt_A (some (cpu image.gettid)))
  B env tool image parent myguid
  C env tool image parent myguid
  notify env tool (.stop tt_A)

/-- The sample `10.0` is given by its bits. -/
def main : StateM (App σ) Unit := do
  notify env tool .init
  let myguid ← newGuid
  let tt ← create tool null (some "main") myguid none 0
  notify env tool (.schedule tt null 0)
  notify env tool (.start tt (some (cpu image.gettid)))
  notify env tool (.yield tt)
  A env tool image myguid
  notify env tool (.mark (some "marker event"))
  notify env tool (.sampleValue (some "sample") 0x4024000000000000)
  notify env tool (.resume tt (some (cpu image.gettid)))
  notify env tool (.stop tt)
  notify env tool .finalize

end MainC

/-! Programs as trees. The parents of a task are among the tasks around it, which are counted from the
innermost; a task may yield and resume its own timer only. -/

inductive Work where
  | nothing
  | andThen (first second : Work)
  | task (address : Pointer) (name : Option String) (parents : Option (List ℕ)) (arguments : Pointer)
      (argumentCount : UInt64) (resource : Option ExecutionSpace) (body : Work)
  | command (typeName : String) (body : Work)
  | transfer (guid : UInt64) (source : ExecutionSpace) (sourceName : Option String) (sourcePtr : Pointer)
      (dest : ExecutionSpace) (destName : Option String) (destPtr : Pointer) (body : Work)
  | yield
  | resume (resource : Option ExecutionSpace)
  | mark (label : String)
  | sampleValue (name : String) (value : UInt64)

/-- `guids` are those of the tasks around the work, and `timer` is that of the innermost. -/
def perform : Work → List UInt64 → Pointer → StateM (App σ) Unit
  | .nothing, _, _ => pure ()
  | .andThen first second, guids, timer => do
    perform first guids timer
    perform second guids timer
  | .task address name parents arguments argumentCount resource body, guids, _ => do
    let myguid ← newGuid
    let timer ← create tool address name myguid (parents.map (List.map (fun i => guids.getD i 0)))
      (.ofNat (parents.getD []).length)
    notify env tool (.schedule timer arguments argumentCount)
    notify env tool (.start timer resource)
    perform body (myguid :: guids) timer
    notify env tool (.stop timer)
  | .command typeName body, guids, timer => do
    notify env tool (.commandStart (some typeName))
    perform body guids timer
    notify env tool .commandStop
  | .transfer guid source sourceName sourcePtr dest destName destPtr body, guids, timer => do
    notify env tool (.dataTransferStart guid (some source) sourceName sourcePtr (some dest) destName destPtr)
    perform body guids timer
    notify env tool (.dataTransferStop guid)
  | .yield, _, timer => notify env tool (.yield timer)
  | .resume resource, _, timer => notify env tool (.resume timer resource)
  | .mark label, _, _ => notify env tool (.mark (some label))
  | .sampleValue name value, _, _ => notify env tool (.sampleValue (some name) value)

def program (work : Work) : StateM (App σ) Unit := do
  notify env tool .init
  perform env tool work [] null
  notify env tool .finalize

namespace MainC

variable (image : Image)

def commandTree (name : String) : Work := .command name .nothing

def xferTree : Work :=
  .transfer 100 (cpu 0) (some "source") image.source (cpu 0) (some "dest") image.dest .nothing

def treeB : Work :=
  .task image.B (some "B") (some [1, 0]) image.args 2 (some (cpu image.gettid)) .nothing

def treeC : Work :=
  .task image.C none (some [1, 0]) image.args 2 (some (cpu image.gettid))
    (.andThen (commandTree "D") (.andThen (xferTree image) (.andThen (commandTree "E")
      (.andThen (xferTree image) (commandTree "F")))))

def treeA : Work :=
  .task image.A (some "A") (some [0]) image.args 1 (some (cpu image.gettid))
    (.andThen (treeB image) (treeC image))

def tree : Work :=
  .task null (some "main") none null 0 (some (cpu image.gettid))
    (.andThen .yield (.andThen (treeA image) (.andThen (.mark "marker event")
      (.andThen (.sampleValue "sample" 0x4024000000000000) (.resume (some (cpu image.gettid)))))))

variable {env tool image}

lemma perform_commandTree (name : String) (guids : List UInt64) (timer : Pointer) :
    perform env tool (commandTree name) guids timer = (do
      notify env tool (.commandStart (some name))
      notify env tool .commandStop) := by
  simp [perform, commandTree]

lemma perform_xferTree (guids : List UInt64) (timer : Pointer) :
    perform env tool (xferTree image) guids timer = xfer env tool image := by
  simp [perform, xferTree, xfer]

lemma perform_treeB (parent1 parent2 : UInt64) (guids : List UInt64) (timer : Pointer) :
    perform env tool (treeB image) (parent2 :: parent1 :: guids) timer = B env tool image parent1 parent2 := by
  simp [perform, treeB, B]

lemma perform_treeC (parent1 parent2 : UInt64) (guids : List UInt64) (timer : Pointer) :
    perform env tool (treeC image) (parent2 :: parent1 :: guids) timer = C env tool image parent1 parent2 := by
  rw [treeC, C]
  simp [perform, perform_commandTree, perform_xferTree, D, E, F]

lemma perform_treeA (parent : UInt64) (guids : List UInt64) (timer : Pointer) :
    perform env tool (treeA image) (parent :: guids) timer = A env tool image parent := by
  rw [treeA, A]
  simp [perform, perform_treeB, perform_treeC]

theorem main_program : main env tool image = program env tool (tree image) := by
  rw [main, program, tree]
  simp [perform, perform_treeA]

end MainC

def mainImage : Image := ⟨0x1000, 0x2000, 0x3000, 0x7000, 0x8000, 0x9000, 42⟩

end TaskStubs.Examples
