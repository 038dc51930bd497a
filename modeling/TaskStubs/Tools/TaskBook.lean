import TaskStubs.Library.Machines
import TaskStubs.Tools.WrittenFields

/-! What `my_tool.c` is for: a book of the live tasks, with a name that is settled at creation, and a
printed line for every callback but `destroy`. The tool's arrays and counts keep this book. -/

namespace TaskStubs.Tools.MyTool

open Stub Function Library.Loops Library.Machines

structure Task where
  name : String
  id : UInt64
  parents : List UInt64

structure Book where
  tasks : Pointer → Option Task := fun _ => none
  next : Pointer := 1
  lines : List String := []

def listed (guids : List UInt64) : String := String.ofList ('[' :: (separated printedGuid true guids ++ [']']))

namespace Book

variable (b : Book)

def write (line : String) : Book := { b with lines := b.lines ++ [line] }

def record (p : Pointer) (task : Task) : Book := { b with tasks := update b.tasks p (some task) }

def announce (event : String) (p : Pointer) : Option Book :=
  (b.tasks p).map (fun task =>
    b.write (event ++ " timer " ++ task.name ++ " with ID " ++ String.ofList (printedGuid task.id)))

def create (platform : Platform) (address : Pointer) (name : Option String) (id : UInt64) (parents : List UInt64) :
    Option Book :=
  (knownName platform address name).toOption.map (fun name =>
    { b.record b.next ⟨name, id, parents⟩ with next := b.next + 1 }.write ("Created timer " ++ name ++ " with ID " ++
      String.ofList (printedGuid id) ++ " and parents " ++ listed (parents.take 32)))

/-- What is shown are the first parents of the task, as many as are added. -/
def addParents (p : Pointer) (parents : List UInt64) : Option Book :=
  (b.tasks p).bind (fun task =>
    if parents.length ≤ 32 then
      some ((b.record p { task with parents := task.parents ++ parents }).write ("Timer " ++ task.name ++
        " adding parents " ++ listed ((task.parents ++ parents).take parents.length)))
    else none)

def destroy (p : Pointer) : Option Book :=
  if p = null then some b
  else (b.tasks p).map (fun _ => { b with tasks := update b.tasks p none })

def step (platform : Platform) : Call Pointer → Option Book
  | .init => some (b.write "Initializing tool")
  | .finalize => some (b.write "Finalizing tool")
  | .create address name id parents _ => b.create platform address name id (parents.getD [])
  | .schedule timer _ _ => b.announce "Scheduling" timer
  | .start timer _ => b.announce "Starting" timer
  | .yield timer => b.announce "Yielding" timer
  | .resume timer _ => b.announce "Resuming" timer
  | .stop timer => b.announce "Stopping" timer
  | .destroy timer => b.destroy timer
  | .addParents timer parents _ => b.addParents timer (parents.getD [])
  | .addChildren .. => none
  | .dataTransferStart guid .. => some (b.write ("Data transfer " ++ toString guid.toNat ++ " start"))
  | .dataTransferStop guid => some (b.write ("Data transfer " ++ toString guid.toNat ++ " stop"))
  | .commandStart typeName => typeName.map (fun name => b.write ("Command " ++ name ++ " start"))
  | .commandStop => some (b.write "Command stop")
  | .sampleValue name value =>
    name.map (fun name => b.write ("sample value " ++ name ++ " = " ++ platform.formatDouble value))
  | .mark label => label.map (fun label => b.write ("mark an event " ++ label))

def run (inputs : List (Platform × Call Pointer)) : Option Book :=
  inputs.foldlM (fun b input => b.step input.1 input.2) {}

end Book

structure MyTimer.Keeps (t : MyTimer) (task : Task) : Prop where
  named : t.hasName = some 1 ∧ t.mName = some task.name
  identified : t.mID = some task.id
  parents : ∃ stored, t.mParentCount = some stored ∧ Holds MAX_PARENTS t.mParents stored (task.parents.take 32)
  children : t.mChildCount = none

structure State.Keeps (s : State) (b : Book) : Prop where
  timers : ∀ p, Option.Rel MyTimer.Keeps (s.timers p) (b.tasks p)
  next : s.nextTimer = b.next
  printed : s.printed = b.lines

variable {s : State} {b : Book} {platform : Platform}

lemma keeps_start : State.Keeps {} {} := ⟨fun _ => .none, rfl, rfl⟩

lemma State.Keeps.write (h : s.Keeps b) (line : String) : (print line s).Keeps (b.write line) :=
  ⟨h.timers, h.next, by rw [print, Book.write, h.printed]⟩

lemma rel_update (h : ∀ p, Option.Rel MyTimer.Keeps (s.timers p) (b.tasks p)) {cell : Option MyTimer}
    {cell' : Option Task} (hcell : Option.Rel MyTimer.Keeps cell cell') (p q : Pointer) :
    Option.Rel MyTimer.Keeps (update s.timers p cell q) (update b.tasks p cell' q) := by
  by_cases hq : q = p
  · subst hq
    rwa [update_self, update_self]
  · rw [update_of_ne hq, update_of_ne hq]
    exact h q

lemma printSet_listed {set : GuidSet} {guids : List UInt64} {count : UInt64} (hlen : guids.length = count.toNat)
    (hset : set.take count.toNat = guids.map some) (hle : guids.length ≤ 32) :
    printSet set count = .ok ('[' :: (separated printedGuid true guids ++ [']'])) := by
  obtain ⟨text, htext⟩ := printSet_fits hlen hset hle
  obtain ⟨guids', _, hset', rfl, _⟩ := printSet_ok_iff.mp htext
  have hinj : Injective (List.map (some : UInt64 → Option UInt64)) :=
    List.map_injective_iff.mpr (Option.some_injective _)
  obtain rfl : guids = guids' := hinj (hset.symm.trans hset')
  exact htext

section Timers

variable {t : MyTimer} {task : Task}

lemma MyTimer.Keeps.label (h : t.Keeps task) : label platform t = .ok (t, task.name) :=
  label_of_named h.named.1 h.named.2

lemma announce_keeps (h : t.Keeps task) (event : String) :
    announce platform event t = .ok (t, event ++ " timer " ++ task.name ++ " with ID " ++
      String.ofList (printedGuid task.id)) := by
  rw [announce, bind_ok h.label]
  dsimp only
  rw [bind_ok (readField_some h.identified)]
  rfl

lemma label_created (address : Pointer) (name : Option String) (id stored : UInt64) (set : GuidSet) :
    Option.Rel (fun r known => r.2 = known ∧ r.1 = {
          mName := some known, mID := some id, hasName := some 1, mAddress := some address
          mParents := set, mParentCount := some stored })
      (label platform { nameTimer name { mAddress := some address } with
        mID := some id, mParents := set, mParentCount := some stored }).toOption
      (knownName platform address name).toOption := by
  rw [knownName]
  cases hname : name.filter (fun name => name.length > 0) with
  | some known =>
    rw [nameTimer_of_known hname, label_of_named rfl rfl]
    exact .some ⟨rfl, rfl⟩
  | none =>
    rw [nameTimer_of_unknown hname, label_of_nameless rfl rfl]
    rcases platform.dladdr address with _ | _ | symbol
    · exact .none
    · exact .none
    · exact .some ⟨rfl, rfl⟩

lemma createMytimer_keeps (address : Pointer) (name : Option String) (id : UInt64) {parents : List UInt64}
    {count : UInt64} (hlen : parents.length = count.toNat) :
    Option.Rel (fun r known => r.1.Keeps ⟨known, id, parents⟩ ∧ r.2 = "Created timer " ++ known ++ " with ID " ++
        String.ofList (printedGuid id) ++ " and parents " ++ listed (parents.take 32))
      (createMytimer platform address name id parents count).toOption
      (knownName platform address name).toOption := by
  obtain rfl : count = .ofNat parents.length := by
    rw [hlen, UInt64.ofNat_toNat]
  obtain ⟨set, stored, hcall, hholds⟩ := createCall_holds (hlen.trans_lt (UInt64.toNat_lt _))
  have hprint := printSet_listed hholds.count.symm (by rw [hholds.count]; exact hholds.cells) hholds.length_le
  have hlabel : Option.Rel _ (label platform _).toOption _ := label_created address name id stored set
  rw [createMytimer, bind_ok hcall]
  dsimp only
  generalize label platform _ = named at hlabel ⊢
  generalize knownName platform address name = known at hlabel ⊢
  cases named with
  | error f =>
    cases known with
    | error f' => exact .none
    | ok known => cases hlabel
  | ok r =>
    cases known with
    | error f' => cases hlabel
    | ok known =>
      obtain ⟨timer, label⟩ := r
      cases hlabel with
      | some h =>
        obtain ⟨hname, htimer⟩ := h
        dsimp only at hname htimer
        subst hname htimer
        rw [bind_ok rfl]
        dsimp only
        rw [bind_ok hprint]
        exact .some ⟨⟨⟨rfl, rfl⟩, rfl, ⟨stored, rfl, hholds⟩, rfl⟩, rfl⟩

lemma addParents_keeps (h : t.Keeps task) {parents : List UInt64} {count : UInt64}
    (hlen : parents.length = count.toNat) :
    (parents.length ≤ 32 ∧ ∃ t', t'.Keeps { task with parents := task.parents ++ parents } ∧
      addParents platform parents count t = .ok (t', "Timer " ++ task.name ++ " adding parents " ++
        listed ((task.parents ++ parents).take parents.length))) ∨
      ¬ parents.length ≤ 32 ∧ ∃ f, addParents platform parents count t = .error f := by
  obtain rfl : count = .ofNat parents.length := by
    rw [hlen, UInt64.ofNat_toNat]
  obtain ⟨stored, hstored, hholds⟩ := h.parents
  obtain ⟨set', stored', hcall, hholds'⟩ := hholds.addCall_holds (hlen.trans_lt (UInt64.toNat_lt _))
  have hcapped : (task.parents.take 32 ++ parents).take 32 = (task.parents ++ parents).take 32 := by
    rw [List.take_append, List.take_append, List.take_take, List.length_take]
    congr 2
    omega
  change Holds MAX_PARENTS set' stored' ((task.parents.take 32 ++ parents).take 32) at hholds'
  rw [hcapped] at hholds'
  have hlabel : label platform { t with mParents := set', mParentCount := some stored' } = .ok (_, task.name) :=
    label_of_named h.named.1 h.named.2
  have hlength : ((task.parents ++ parents).take 32).length = min 32 (task.parents.length + parents.length) := by
    rw [List.length_take, List.length_append]
  have hcount : (UInt64.ofNat parents.length).toNat = parents.length := hlen.symm
  rw [addParents, bind_ok (readField_some hstored), addParentsCall, bind_ok hcall]
  dsimp only
  rw [bind_ok hlabel]
  by_cases hle : parents.length ≤ 32
  · have hshown : ((task.parents ++ parents).take 32).take parents.length =
        (task.parents ++ parents).take parents.length := by
      rw [List.take_take, Nat.min_eq_left hle]
    have hprint : printSet set' (.ofNat parents.length) = .ok ('[' ::
        (separated printedGuid true ((task.parents ++ parents).take parents.length) ++ [']'])) := by
      apply printSet_listed
      · rw [hcount, List.length_take_of_le (by rw [List.length_append]; omega)]
      · rw [hcount, hholds'.take_eq (by omega), hshown]
      · rw [List.length_take]
        omega
    refine Or.inl ⟨hle, _, ?_, bind_ok hprint⟩
    exact ⟨h.named, h.identified, ⟨stored', rfl, hholds'⟩, h.children⟩
  · refine Or.inr ⟨hle, _, bind_error (hholds'.overruns ?_ ?_)⟩
    · omega
    · omega

end Timers

section Steps

variable (h : s.Keeps b)

include h

lemma State.Keeps.live (p : Pointer) : (s.timers p = none ∧ b.tasks p = none) ∨
    ∃ t task, s.timers p = some t ∧ b.tasks p = some task ∧ t.Keeps task := by
  have hp := h.timers p
  generalize s.timers p = x at hp
  generalize b.tasks p = y at hp
  cases hp with
  | none => exact Or.inl ⟨rfl, rfl⟩
  | some hkeeps => exact Or.inr ⟨_, _, rfl, rfl, hkeeps⟩

lemma announces (event : String) (p : Pointer) :
    Option.Rel State.Keeps (withTimer p (announce platform event) s).toOption (b.announce event p) := by
  rw [withTimer, Book.announce]
  rcases h.live p with ⟨ht, htask⟩ | ⟨t, task, ht, htask, hkeeps⟩
  · rw [ht, htask]
    exact .none
  · -- the timer that is written back is the one that was there
    have hsame : update s.timers p (some t) = s.timers := by
      rw [← ht, update_eq_self]
    rw [ht, htask]
    dsimp only
    rw [bind_ok (announce_keeps hkeeps event)]
    dsimp only
    rw [hsame]
    exact .some (h.write _)

lemma addsParents (p : Pointer) {parents : List UInt64} {count : UInt64} (hlen : parents.length = count.toNat) :
    Option.Rel State.Keeps (withTimer p (addParents platform parents count) s).toOption (b.addParents p parents) := by
  rw [withTimer, Book.addParents]
  rcases h.live p with ⟨ht, htask⟩ | ⟨t, task, ht, htask, hkeeps⟩
  · rw [ht, htask]
    exact .none
  · rw [ht, htask]
    dsimp only
    rw [Option.bind_some]
    have hadds : _ ∨ _ ∧ ∃ f, addParents platform parents count t = .error f := addParents_keeps hkeeps hlen
    rcases hadds with ⟨hle, t', hkeeps', hadd⟩ | ⟨hle, f, hadd⟩
    · rw [bind_ok hadd, if_pos hle]
      have hnext : State.Keeps { s with timers := update s.timers p (some t') } (b.record p _) :=
        ⟨rel_update h.timers (.some hkeeps') p, h.next, h.printed⟩
      exact .some (hnext.write _)
    · rw [bind_error hadd, if_neg hle]
      exact .none

lemma addsNoChildren (p : Pointer) (children : List UInt64) (count : UInt64) :
    (withTimer p (addChildren platform children count) s).toOption = none := by
  rw [withTimer]
  rcases h.live p with ⟨ht, _⟩ | ⟨t, task, ht, _, hkeeps⟩
  · rw [ht]
    rfl
  · have hread : readField "mChildCount" t.mChildCount = .error (.uninitialised "mChildCount") := by
      rw [hkeeps.children]
      rfl
    rw [ht]
    dsimp only
    rw [addChildren, bind_error hread]
    rfl

lemma creates (address : Pointer) (name : Option String) (id : UInt64) {parents : List UInt64} {count : UInt64}
    (hlen : parents.length = count.toNat) :
    Option.Rel State.Keeps (create platform address name id parents count s).toOption
      (b.create platform address name id parents) := by
  have hcreate : Option.Rel _ (createMytimer platform address name id parents count).toOption _ :=
    createMytimer_keeps address name id hlen
  rw [create, Book.create]
  generalize createMytimer platform address name id parents count = created at hcreate ⊢
  generalize knownName platform address name = known at hcreate ⊢
  cases created with
  | error f =>
    cases known with
    | error f' => exact .none
    | ok known => cases hcreate
  | ok r =>
    cases known with
    | error f' => cases hcreate
    | ok known =>
      cases hcreate with
      | some hr =>
        obtain ⟨timer, line⟩ := r
        obtain ⟨hkeeps, hline⟩ := hr
        dsimp only at hkeeps hline
        subst hline
        rw [bind_ok rfl, h.next]
        have hnext : State.Keeps
            { s with timers := update s.timers b.next (some timer), nextTimer := b.next + 1 }
            { b.record b.next ⟨known, id, parents⟩ with next := b.next + 1 } :=
          ⟨rel_update h.timers (.some hkeeps) b.next, rfl, h.printed⟩
        exact .some (hnext.write _)

lemma destroys (p : Pointer) : Option.Rel State.Keeps (destroy p s).toOption (b.destroy p) := by
  rw [destroy, Book.destroy]
  by_cases hp : p = null
  · rw [if_pos hp, if_pos hp]
    exact .some h
  · rw [if_neg hp, if_neg hp]
    rcases h.live p with ⟨ht, htask⟩ | ⟨t, task, ht, htask, _⟩
    · rw [ht, htask]
      exact .none
    · rw [ht, htask]
      exact .some ⟨rel_update h.timers .none p, h.next, h.printed⟩

lemma writes (line : String) : Option.Rel State.Keeps (Except.toOption (.ok (print line s) : Except Fault State))
    (some (b.write line)) :=
  .some (h.write line)

lemma writesText (name : Option String) (line : String → String) :
    Option.Rel State.Keeps ((text name).map (fun name => print (line name) s)).toOption
      (name.map (fun name => b.write (line name))) := by
  cases name with
  | none => exact .none
  | some name => exact .some (h.write _)

lemma step_keeps {call : Call Pointer} (hcall : Complete call) :
    Option.Rel State.Keeps (step platform s call).toOption (b.step platform call) := by
  cases call with
  | init => exact writes h _
  | finalize => exact writes h _
  | create address name id parents count => exact creates h address name id hcall
  | schedule timer => exact announces h _ timer
  | start timer => exact announces h _ timer
  | yield timer => exact announces h _ timer
  | resume timer => exact announces h _ timer
  | stop timer => exact announces h _ timer
  | destroy timer => exact destroys h timer
  | addParents timer parents count => exact addsParents h timer hcall
  | addChildren timer children count =>
    rw [step, addsNoChildren h]
    exact .none
  | dataTransferStart => exact writes h _
  | dataTransferStop => exact writes h _
  | commandStart typeName => exact writesText h typeName _
  | commandStop => exact writes h _
  | sampleValue name value => exact writesText h name _
  | mark label => exact writesText h label _

end Steps

theorem book_kept (inputs : List (Platform × Call Pointer)) (hinputs : ∀ input ∈ inputs, Complete input.2) :
    Option.Rel State.Keeps (run {} inputs).toOption (Book.run inputs) := by
  rw [run, foldlM_toOption, Book.run]
  apply stuck_together State.Keeps inputs ?_ keeps_start
  intro input hinput s b h
  exact step_keeps h (hinputs input hinput)

def twoParents : List (Platform × Call Pointer) :=
  [(strippedPlatform, .create 7 (some "a") 1 (some [2, 3]) 2), (strippedPlatform, .start 1 none),
    (strippedPlatform, .addParents 1 (some [4]) 1)]

theorem book_kept_twoParents :
    Option.Rel State.Keeps (run {} twoParents).toOption (Book.run twoParents) ∧
      (Book.run twoParents).map (fun b => b.lines.getLast?) = some (some "Timer a adding parents [2]") := by
  refine ⟨book_kept twoParents ?_, by decide +kernel⟩
  rintro input (_ | ⟨_, _ | ⟨_, _ | ⟨_, ⟨⟩⟩⟩⟩) <;> trivial

end TaskStubs.Tools.MyTool
