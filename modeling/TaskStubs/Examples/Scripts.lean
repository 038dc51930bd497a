import TaskStubs.Examples.Threads
import TaskStubs.Examples.Transcripts

/-! What a thread has to show, call by call, and how the threads of one process come to show it together:
each has its own tasks, but commands and transfers are on one stack. -/

namespace TaskStubs.Examples

open Stub Tools Function Library.Lifo

/-- An event by its kind: of no range, of a task's range, or of a range on the stack. -/
inductive Move where
  | shown (e : Event)
  | opened (text : String)
  | closed (opening : ℕ)
  | pushed (text : String)
  | popped (opening : ℕ)

namespace Move

def event : Move → Event
  | shown e => e
  | opened text => .opened text
  | closed opening => .closed opening
  | pushed text => .opened text
  | popped opening => .closed opening

def bracket : Move → Option Bracket
  | pushed _ => some .opening
  | popped _ => some .closing
  | _ => none

def offStack : Move → Move
  | pushed text => opened text
  | popped opening => closed opening
  | move => move

end Move

def closingMoves (opening : ℕ) : List Move := if opening = 0 then [] else [.closed opening]

section Script

variable (runtime : Runtime) (sample : String → List Event)

def script : Work → String → ℕ → ℕ → List Move × ℕ
  | .nothing, _, _, current => ([], current)
  | .andThen first second, name, k, current =>
    let (moves, between) := script first name k current
    let (rest, last) := script second name (k + openings (moves.map Move.event)) between
    (moves ++ rest, last)
  | .task address name _ _ _ _ body, _, k, current =>
    let name := runtime.timerName address name
    let (moves, last) := script body name (k + 1) (k + 1)
    (.shown (.created name) :: .shown (.marker "Timer Schedule") :: .opened name ::
      (moves ++ closingMoves last), current)
  | .command typeName body, name, k, current =>
    let (moves, last) := script body name (k + 1) current
    (.pushed typeName :: (moves ++ [.popped (k + 1)]), last)
  | .transfer _ source _ _ dest _ _ body, name, k, current =>
    let (moves, last) := script body name (k + 1) current
    (.pushed (transferName source dest) :: (moves ++ [.popped (k + 1)]), last)
  | .yield, _, _, current => (closingMoves current, 0)
  | .resume _, name, k, current => if current = 0 then ([.opened name], k + 1) else ([], current)
  | .mark label, _, _, current => ([.shown (.marker label)], current)
  | .sampleValue name _, _, _, current => ((sample name).map .shown, current)

lemma closingMoves_events (opening : ℕ) : (closingMoves opening).map Move.event = closing opening := by
  rw [closingMoves, closing]
  split_ifs <;> rfl

theorem script_transcript (work : Work) (name : String) (k current : ℕ) :
    ((script runtime sample work name k current).1.map Move.event,
        (script runtime sample work name k current).2) =
      transcript runtime sample work name k current := by
  induction work generalizing name k current with
  | andThen first second ih ih' =>
    simp only [script, transcript, ← ih, ← ih', List.map_append]
  | task address text _ _ _ _ body ih =>
    simp only [script, transcript, ← ih, List.map_append, List.map_cons, closingMoves_events]
    rfl
  | command typeName body ih =>
    simp only [script, transcript, ← ih, List.map_append, List.map_cons]
    rfl
  | transfer guid source _ _ dest _ _ body ih =>
    simp only [script, transcript, ← ih, List.map_append, List.map_cons]
    rfl
  | yield => rw [script, transcript, closingMoves_events]
  | resume resource =>
    rw [script, transcript]
    split_ifs <;> rfl
  | nothing | mark => rfl
  | sampleValue text value => simp [script, transcript, Function.comp_def, Move.event]

end Script

structure View where
  tasks : List (String × ℕ) := []
  pushed : List ℕ := []
  opened : ℕ := 0

def View.enter (v : View) (name : String) (current : ℕ) : View := { v with tasks := (name, current) :: v.tasks }

def View.opens (v : View) : View := { v with opened := v.opened + 1 }

def View.push (v : View) (opening : ℕ) : View := { v with pushed := opening :: v.pushed }

def rangeText : RangeCall → Option String
  | .transferStart _ source _ _ dest _ _ => some (transferName source dest)
  | .commandStart typeName => some typeName
  | _ => none

section Steps

variable (runtime : Runtime) (sample : String → List Event)

inductive Step : Instruction → View → List Move → View → Prop
  | newGuid (v) : Step .newGuid v [] v
  | create (address name parents v) : Step (.create address name parents) v
      [.shown (.created (runtime.timerName address name))] (v.enter (runtime.timerName address name) 0)
  | schedule (arguments count v name current) : Step (.schedule arguments count) (View.enter v name current)
      [.shown (.marker "Timer Schedule")] (v.enter name current)
  | start (resource v name) :
      Step (.start resource) (View.enter v name 0) [.opened name] (v.opens.enter name (v.opened + 1))
  | yield (v name current) : Step .yield (View.enter v name current) (closingMoves current) (v.enter name 0)
  | resume (resource v name) :
      Step (.resume resource) (View.enter v name 0) [.opened name] (v.opens.enter name (v.opened + 1))
  | running (resource v name current) (h : current ≠ 0) :
      Step (.resume resource) (View.enter v name current) [] (v.enter name current)
  | stop (v name current) : Step .stop (View.enter v name current) (closingMoves current) v
  | push (c text v) (h : rangeText c = some text) :
      Step (.range c) v [.pushed text] (v.opens.push (v.opened + 1))
  | pop (c v k) (h : rangeText c = none) : Step (.range c) (View.push v k) [.popped k] v
  | mark (label v) : Step (.mark label) v [.shown (.marker label)] v
  | sampleValue (name value v) : Step (.sampleValue name value) v ((sample name).map .shown) v

inductive Steps : List Instruction → View → List Move → View → Prop
  | nil (v : View) : Steps [] v [] v
  | cons {i : Instruction} {code : List Instruction} {v w u : View} {moves rest : List Move} :
      Step runtime sample i v moves w → Steps code w rest u → Steps (i :: code) v (moves ++ rest) u

variable {runtime sample}

lemma Step.single {i : Instruction} {v w : View} {moves : List Move} (h : Step runtime sample i v moves w) :
    Steps runtime sample [i] v moves w := by
  have hs := Steps.cons h (.nil w)
  rwa [List.append_nil] at hs

lemma Steps.append {first second : List Instruction} {v w u : View} {moves rest : List Move}
    (h : Steps runtime sample first v moves w) (h' : Steps runtime sample second w rest u) :
    Steps runtime sample (first ++ second) v (moves ++ rest) u := by
  induction h with
  | nil => exact h'
  | cons hi _ ih =>
    rw [List.append_assoc]
    exact .cons hi (ih h')

def View.name (v : View) : String := (v.tasks.headD ("", 0)).1

def View.current (v : View) : ℕ := (v.tasks.headD ("", 0)).2

def View.after (v : View) (s : List Move × ℕ) : View where
  tasks := v.tasks.modifyHead (fun task => (task.1, s.2))
  pushed := v.pushed
  opened := v.opened + openings (s.1.map Move.event)

lemma View.after_self (v : View) : v.after ([], v.current) = v := by
  obtain ⟨tasks, pushed, n⟩ := v
  cases tasks <;> rfl

lemma openings_moves (first second : List Move) : openings ((first ++ second).map Move.event) =
    openings (first.map Move.event) + openings (second.map Move.event) := by
  rw [List.map_append, openings_append]

lemma View.after_after (v : View) (s s' : List Move × ℕ) : (v.after s).after s' = v.after (s.1 ++ s'.1, s'.2) := by
  obtain ⟨tasks, pushed, n⟩ := v
  rw [View.after, View.after, View.after, openings_moves, Nat.add_assoc]
  cases tasks <;> rfl

lemma View.name_after (v : View) (s : List Move × ℕ) : (v.after s).name = v.name := by
  obtain ⟨tasks, pushed, n⟩ := v
  cases tasks <;> rfl

lemma View.current_after {v : View} {s : List Move × ℕ} (h : v.tasks = [] → s.2 = 0) :
    (v.after s).current = s.2 := by
  obtain ⟨tasks, pushed, n⟩ := v
  cases tasks with
  | nil => exact (h rfl).symm
  | cons task tasks => rfl

lemma View.eq_enter {v : View} (h : v.tasks ≠ []) : ∃ w name current, v = View.enter w name current := by
  obtain ⟨tasks, pushed, n⟩ := v
  cases tasks with
  | nil => exact absurd rfl h
  | cons task tasks => exact ⟨⟨tasks, pushed, n⟩, task.1, task.2, rfl⟩

lemma script_closed {work : Work} (h : work.closed = true) (name : String) (k current : ℕ) :
    (script runtime sample work name k current).2 = current := by
  have ht : (transcript runtime sample work name k current).2 = current := transcript_closed h name k current
  rwa [← script_transcript] at ht

variable (runtime sample) in
def Scripted (work : Work) : Prop := ∀ v : View, (v.tasks = [] → work.closed = true) →
  Steps runtime sample work.code v (script runtime sample work v.name v.opened v.current).1
    (v.after (script runtime sample work v.name v.opened v.current))

lemma scripted_andThen {first second : Work} (h : Scripted runtime sample first)
    (h' : Scripted runtime sample second) : Scripted runtime sample (.andThen first second) := by
  intro v hv
  have hclosed : v.tasks = [] → first.closed = true ∧ second.closed = true := by
    intro ht
    simpa [Work.closed] using hv ht
  have hfirst := h v (fun ht => (hclosed ht).1)
  rw [script]
  generalize hs : script runtime sample first v.name v.opened v.current = s at hfirst ⊢
  have hbetween : (v.after s).current = s.2 := by
    apply View.current_after
    intro ht
    rw [← hs, script_closed (hclosed ht).1, View.current, ht]
    rfl
  have hsecond := h' (v.after s) (fun ht => (hclosed (by simpa [View.after] using ht)).2)
  rw [View.name_after, hbetween, View.after_after] at hsecond
  exact hfirst.append hsecond

lemma scripted_pushed {body : Work} (h : Scripted runtime sample body) {first last : RangeCall} {text : String}
    (hfirst : rangeText first = some text) (hlast : rangeText last = none) {v : View}
    (hv : v.tasks = [] → body.closed = true) :
    Steps runtime sample (.range first :: (body.code ++ [.range last])) v
      (.pushed text :: ((script runtime sample body v.name (v.opened + 1) v.current).1 ++ [.popped (v.opened + 1)]))
      (v.after (.pushed text :: ((script runtime sample body v.name (v.opened + 1) v.current).1 ++
        [.popped (v.opened + 1)]), (script runtime sample body v.name (v.opened + 1) v.current).2)) := by
  have hbody := h (v.opens.push (v.opened + 1)) hv
  change Steps _ _ _ _ (script runtime sample body v.name (v.opened + 1) v.current).1
    (View.after _ (script runtime sample body v.name (v.opened + 1) v.current)) at hbody
  generalize script runtime sample body v.name (v.opened + 1) v.current = s at hbody ⊢
  have hpop : Steps runtime sample [.range last] (View.push (v.after (.pushed text ::
      (s.1 ++ [.popped (v.opened + 1)]), s.2)) (v.opened + 1)) [.popped (v.opened + 1)] _ :=
    (Step.pop last _ _ hlast).single
  have hview : (v.opens.push (v.opened + 1)).after s =
      (v.after (.pushed text :: (s.1 ++ [.popped (v.opened + 1)]), s.2)).push (v.opened + 1) := by
    simp [View.after, View.opens, View.push, openings, Move.event, List.countP_append, Nat.add_right_comm _ 1,
      Nat.add_assoc]
  rw [hview] at hbody
  exact .cons (.push first text v hfirst) (hbody.append hpop)

lemma openings_closingMoves (opening : ℕ) : openings ((closingMoves opening).map Move.event) = 0 := by
  rw [closingMoves_events, openings_closing]

lemma scripted_task {body : Work} (h : Scripted runtime sample body) (address : Pointer) (name : Option String)
    (parents : Option (List ℕ)) (arguments : Pointer) (count : UInt64) (resource : Option ExecutionSpace) :
    Scripted runtime sample (.task address name parents arguments count resource body) := by
  intro v _
  have hbody := h (v.opens.enter (runtime.timerName address name) (v.opened + 1)) (fun ht => by cases ht)
  change Steps _ _ _ _ (script runtime sample body (runtime.timerName address name) (v.opened + 1)
    (v.opened + 1)).1 (View.after _ (script runtime sample body (runtime.timerName address name) (v.opened + 1)
      (v.opened + 1))) at hbody
  rw [script]
  generalize script runtime sample body (runtime.timerName address name) (v.opened + 1) (v.opened + 1) = s at hbody ⊢
  have hcreate : Step runtime sample (.create address name parents) v _ _ := .create address name parents v
  generalize runtime.timerName address name = text at hbody hcreate ⊢
  have hview : (v.opens.enter text (v.opened + 1)).after s = View.enter { v with
      opened := v.opened + openings ((Move.opened text :: (s.1 ++ closingMoves s.2)).map Move.event) } text s.2 := by
    have hclosing := openings_closingMoves s.2
    simp only [openings, List.countP_map] at hclosing
    simp [View.after, View.opens, View.enter, openings, Move.event, hclosing, Nat.add_right_comm _ 1, Nat.add_assoc]
  have hafter : v.after (.shown (.created text) :: .shown (.marker "Timer Schedule") :: .opened text ::
      (s.1 ++ closingMoves s.2), v.current) = { v with
        opened := v.opened + openings ((Move.opened text :: (s.1 ++ closingMoves s.2)).map Move.event) } := by
    conv_rhs => rw [← v.after_self]
    rfl
  rw [hview] at hbody
  rw [hafter]
  exact .cons (.newGuid v) (.cons hcreate (.cons (.schedule arguments count v text 0)
    (.cons (.start resource v text) (hbody.append (Step.stop _ text s.2).single))))

theorem scripted (hsample : ∀ name, openings (sample name) = 0) (work : Work) : Scripted runtime sample work := by
  induction work with
  | nothing =>
    intro v _
    rw [script, View.after_self]
    exact .nil v
  | andThen first second ih ih' => exact scripted_andThen ih ih'
  | task address name parents arguments count resource body ih =>
    exact scripted_task ih address name parents arguments count resource
  | command typeName body ih => exact fun v hv => scripted_pushed ih rfl rfl hv
  | transfer guid source _ _ dest _ _ body ih => exact fun v hv => scripted_pushed ih rfl rfl hv
  | yield =>
    intro v hv
    obtain ⟨w, name, current, rfl⟩ := View.eq_enter (fun ht => Bool.noConfusion (hv ht))
    have hafter : (w.enter name current).after (closingMoves current, 0) = w.enter name 0 := by
      rw [View.after, openings_closingMoves]
      rfl
    change Steps _ _ _ _ (closingMoves current) ((w.enter name current).after (closingMoves current, 0))
    rw [hafter]
    exact (Step.yield w name current).single
  | resume resource =>
    intro v hv
    obtain ⟨w, name, current, rfl⟩ := View.eq_enter (fun ht => Bool.noConfusion (hv ht))
    rw [script]
    by_cases hc : current = 0
    · subst hc
      exact (Step.resume resource w name).single
    · have hrunning : (w.enter name current).current ≠ 0 := hc
      rw [if_neg hrunning]
      exact (Step.running resource w name current hc).single
  | mark label =>
    intro v _
    have hafter : v.after ([.shown (.marker label)], v.current) = v := v.after_self
    rw [script, hafter]
    exact (Step.mark label v).single
  | sampleValue text value =>
    intro v _
    have hafter : v.after ((sample text).map .shown, v.current) = v := by
      have hevents : ((sample text).map Move.shown).map Move.event = sample text := by
        simp [Function.comp_def, Move.event]
      conv_rhs => rw [← v.after_self]
      rw [View.after, hevents, hsample]
      rfl
    rw [script, hafter]
    exact (Step.sampleValue text value v).single

end Steps

end TaskStubs.Examples
