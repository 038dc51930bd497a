import TaskStubs.Examples.Client
import TaskStubs.Tools.Ranges

/-! Programs in the threads of one process, as the atomic counter of `examples/main.cpp` allows for. Each
is taken apart into its calls, and any thread may make the next call. -/

namespace TaskStubs.Examples

open Stub Tools Function

inductive Instruction where
  | newGuid
  | create (address : Pointer) (name : Option String) (parents : Option (List ℕ))
  | schedule (arguments : Pointer) (argumentCount : UInt64)
  | start (resource : Option ExecutionSpace)
  | yield
  | resume (resource : Option ExecutionSpace)
  | stop
  | range (c : RangeCall)
  | mark (label : String)
  | sampleValue (name : String) (value : UInt64)

def Work.code : Work → List Instruction
  | .nothing => []
  | .andThen first second => first.code ++ second.code
  | .task address name parents arguments argumentCount resource body =>
    .newGuid :: .create address name parents :: .schedule arguments argumentCount :: .start resource ::
      (body.code ++ [.stop])
  | .command typeName body => .range (.commandStart typeName) :: (body.code ++ [.range .commandStop])
  | .transfer guid source sourceName sourcePtr dest destName destPtr body =>
    .range (.transferStart guid source sourceName sourcePtr dest destName destPtr) ::
      (body.code ++ [.range (.transferStop guid)])
  | .yield => [.yield]
  | .resume resource => [.resume resource]
  | .mark label => [.mark label]
  | .sampleValue name value => [.sampleValue name value]

/-- The local variables of the tasks that a thread is in, innermost first. -/
structure Frames where
  guids : List UInt64 := []
  timers : List Pointer := []

def Frames.timer (f : Frames) : Pointer := f.timers.headD null

structure Thread where
  code : List Instruction
  frames : Frames := {}

variable {σ : Type} (env : Linker) (tool : Tool σ)

def Instruction.execute : Instruction → Frames → StateM (App σ) Frames
  | .newGuid, f => do
    let myguid ← Examples.newGuid
    pure { f with guids := myguid :: f.guids }
  | .create address name parents, f => do
    let timer ← Examples.create tool address name (f.guids.headD 0)
      (parents.map (List.map (fun i => f.guids.tail.getD i 0))) (.ofNat (parents.getD []).length)
    pure { f with timers := timer :: f.timers }
  | .schedule arguments argumentCount, f => do
    notify env tool (.schedule f.timer arguments argumentCount)
    pure f
  | .start resource, f => do
    notify env tool (.start f.timer resource)
    pure f
  | .yield, f => do
    notify env tool (.yield f.timer)
    pure f
  | .resume resource, f => do
    notify env tool (.resume f.timer resource)
    pure f
  | .stop, f => do
    notify env tool (.stop f.timer)
    pure { guids := f.guids.tail, timers := f.timers.tail }
  | .range c, f => do
    notify env tool c.call
    pure f
  | .mark label, f => do
    notify env tool (.mark (some label))
    pure f
  | .sampleValue name value, f => do
    notify env tool (.sampleValue (some name) value)
    pure f

def execute (code : List Instruction) (f : Frames) : StateM (App σ) Frames :=
  code.foldlM (fun f i => i.execute env tool f) f

lemma execute_nil (f : Frames) : execute env tool [] f = pure f := rfl

lemma execute_cons (i : Instruction) (code : List Instruction) (f : Frames) :
    execute env tool (i :: code) f = i.execute env tool f >>= (fun f => execute env tool code f) :=
  List.foldlM_cons

lemma execute_append (first second : List Instruction) (f : Frames) :
    execute env tool (first ++ second) f =
      execute env tool first f >>= (fun f => execute env tool second f) :=
  List.foldlM_append

theorem execute_code (work : Work) (f : Frames) :
    execute env tool work.code f = (do
      perform env tool work f.guids f.timer
      pure f) := by
  induction work generalizing f with
  | nothing => simp [Work.code, execute_nil, perform]
  | andThen first second ih ih' => simp [Work.code, execute_append, ih, ih', perform]
  | task address name parents arguments argumentCount resource body ih =>
    simp [Work.code, execute_cons, execute_append, execute_nil, ih, Instruction.execute, perform, Frames.timer]
  | command typeName body ih | transfer guid _ _ _ _ _ _ body ih =>
    simp [Work.code, execute_cons, execute_append, execute_nil, ih, Instruction.execute, perform, RangeCall.call]
  | yield | resume | mark | sampleValue =>
    simp [Work.code, execute_cons, execute_nil, Instruction.execute, perform]

variable {τ : Type} [DecidableEq τ]

def turn (threads : τ → Thread) (t : τ) : StateM (App σ) (τ → Thread) :=
  match (threads t).code with
  | [] => pure threads
  | i :: code => do
    let frames ← i.execute env tool (threads t).frames
    pure (update threads t ⟨code, frames⟩)

variable {env tool} in
lemma turn_done {threads : τ → Thread} {t : τ} {f : Frames} (h : threads t = ⟨[], f⟩) (a : App σ) :
    turn env tool threads t a = (threads, a) := by
  rw [turn, h]
  rfl

variable {env tool} in
lemma turn_next {threads : τ → Thread} {t : τ} {i : Instruction} {code : List Instruction} {f : Frames}
    (h : threads t = ⟨i :: code, f⟩) (a : App σ) :
    turn env tool threads t a =
      (update threads t ⟨code, (i.execute env tool f a).1⟩, (i.execute env tool f a).2) := by
  rw [turn, h]
  rfl

def concurrently (works : τ → Work) (schedule : List τ) : StateM (App σ) (τ → Thread) := do
  notify env tool .init
  let threads ← schedule.foldlM (turn env tool) (fun t => ⟨(works t).code, {}⟩)
  notify env tool .finalize
  pure threads

lemma turns_alone (code : List Instruction) (f : Frames) :
    ((List.replicate code.length ()).foldlM (turn env tool) (fun _ => ⟨code, f⟩) :
        StateM (App σ) (Unit → Thread)) = (do
      let f ← execute env tool code f
      pure (fun _ => ⟨[], f⟩)) := by
  induction code generalizing f with
  | nil => rfl
  | cons i code ih =>
    have hturn (f' : Frames) : update (fun _ : Unit => (⟨i :: code, f⟩ : Thread)) () ⟨code, f'⟩ =
        fun _ => ⟨code, f'⟩ := by
      funext u
      cases u
      exact update_self _ _ _
    rw [List.length_cons, List.replicate_succ, List.foldlM_cons, execute_cons]
    simp [turn, hturn, ih]

theorem concurrently_alone (work : Work) :
    (concurrently env tool (fun _ : Unit => work) (List.replicate work.code.length ()) :
        StateM (App σ) (Unit → Thread)) = (do
      program env tool work
      pure (fun _ => ⟨[], {}⟩)) := by
  rw [concurrently, turns_alone, execute_code, program]
  simp [Frames.timer]

end TaskStubs.Examples
