import TaskStubs.Examples.Client
import TaskStubs.Tools.Stubbed
import TaskStubs.Tools.TaskBook

/-! What an instrumented program prints with `my_tool.c` behind the stub: the tasks are numbered in the
order of their creation, and each is shown with the numbers of the tasks around it. -/

namespace TaskStubs.Examples

open Stub Tools MyTool Function

structure Sheet where
  lines : List String := []
  count : UInt64 := 0

def Sheet.say (sheet : Sheet) (line : String) : Sheet := { sheet with lines := sheet.lines ++ [line] }

def announced (event : String) (task : String × UInt64) : String :=
  event ++ " timer " ++ task.1 ++ " with ID " ++ String.ofList (printedGuid task.2)

variable (platform : Platform)

/-- `own` is the innermost task around the work; the tool crashes where there is no sheet. -/
def printout : Work → List UInt64 → Option (String × UInt64) → Sheet → Option Sheet
  | .nothing, _, _, sheet => some sheet
  | .andThen first second, guids, own, sheet =>
    (printout first guids own sheet).bind (printout second guids own)
  | .task address name parents _ _ _ body, guids, _, sheet =>
    (knownName platform address name).toOption.bind (fun name =>
      let task := (name, sheet.count)
      let parents := (parents.getD []).map (fun i => guids.getD i 0)
      let created := { sheet with count := sheet.count + 1 }.say ("Created timer " ++ name ++ " with ID " ++
        String.ofList (printedGuid sheet.count) ++ " and parents " ++ listed (parents.take 32))
      (printout body (sheet.count :: guids) (some task)
        ((created.say (announced "Scheduling" task)).say (announced "Starting" task))).map
          (fun sheet => sheet.say (announced "Stopping" task)))
  | .command typeName body, guids, own, sheet =>
    (printout body guids own (sheet.say ("Command " ++ typeName ++ " start"))).map
      (fun sheet => sheet.say "Command stop")
  | .transfer guid _ _ _ _ _ _ body, guids, own, sheet =>
    (printout body guids own (sheet.say ("Data transfer " ++ toString guid.toNat ++ " start"))).map
      (fun sheet => sheet.say ("Data transfer " ++ toString guid.toNat ++ " stop"))
  | .yield, _, own, sheet => own.map (fun task => sheet.say (announced "Yielding" task))
  | .resume _, _, own, sheet => own.map (fun task => sheet.say (announced "Resuming" task))
  | .mark label, _, _, sheet => some (sheet.say ("mark an event " ++ label))
  | .sampleValue name value, _, _, sheet =>
    some (sheet.say ("sample value " ++ name ++ " = " ++ platform.formatDouble value))

def programPrintout (work : Work) : Option Sheet :=
  (printout platform work [] none (Sheet.say {} "Initializing tool")).map (fun sheet => sheet.say "Finalizing tool")

/-- A C array has fewer than `2 ^ 64` entries. -/
def Work.Addressable : Work → Prop
  | .andThen first second => first.Addressable ∧ second.Addressable
  | .task _ _ parents _ _ _ body => (parents.getD []).length < 2 ^ 64 ∧ body.Addressable
  | .command _ body => body.Addressable
  | .transfer _ _ _ _ _ _ _ body => body.Addressable
  | _ => True

def myTool : Tool (Option State) := partialTool (fun s c => (step platform s c).toOption) (fun s => s.nextTimer)

section Steps

variable {platform} {env : Linker} {a a' : App (Option State)} {b : Book} {sheet : Sheet}

def Follows (env : Linker) (a : App (Option State)) (b : Option Book) : Prop :=
  Option.Rel State.Keeps a.process.tool b ∧ ∃ f, Refines env a.process f ∧ f.loaded = true

structure Written (env : Linker) (a : App (Option State)) (b : Book) (sheet : Sheet) : Prop where
  follows : Follows env a (some b)
  lines_eq : b.lines = sheet.lines
  count_eq : a.count = sheet.count

def Grown (b b' : Book) : Prop := b.next ≤ b'.next ∧ ∀ p, p < b.next → b'.tasks p = b.tasks p

lemma Grown.trans {b b' b'' : Book} (h : Grown b b') (h' : Grown b' b'') : Grown b b'' := by
  refine ⟨h.1.trans h'.1, ?_⟩
  intro p hp
  rw [h'.2 p (hp.trans_le h.1), h.2 p hp]

def Leads (env : Linker) (b : Book) (a : App (Option State)) : Option Sheet → Prop
  | some sheet => ∃ b', Written env a b' sheet ∧ Grown b b'
  | none => Follows env a none

lemma Leads.of_grown {b' : Book} {x : Option Sheet} (h : Leads env b' a x) (hg : Grown b b') : Leads env b a x := by
  cases x with
  | none => exact h
  | some sheet =>
    obtain ⟨b'', hw, hg'⟩ := h
    exact ⟨b'', hw, hg.trans hg'⟩

lemma Leads.bind {x : Option Sheet} {next : Sheet → Option Sheet} (h : Leads env b a x)
    (hnext : ∀ b' sheet, Written env a b' sheet → Grown b b' → Leads env b' a' (next sheet))
    (hdead : Follows env a none → Follows env a' none) : Leads env b a' (x.bind next) := by
  cases x with
  | none => exact hdead h
  | some sheet =>
    obtain ⟨b', hw, hg⟩ := h
    exact (hnext b' sheet hw hg).of_grown hg

lemma next_rel {s : Option State} {b : Option Book} (h : Option.Rel State.Keeps s b) :
    (s.map (fun s => s.nextTimer)).getD null = (b.map (fun b => b.next)).getD null := by
  cases h with
  | none => rfl
  | some h => exact h.next

def Owns (b : Book) (timer : Pointer) (own : Option (String × UInt64)) : Prop :=
  (b.tasks timer).map (fun task => (task.name, task.id)) = own

lemma Owns.grown {timer : Pointer} {own : Option (String × UInt64)} {b' : Book} (h : Owns b timer own)
    (hlt : timer < b.next) (hg : Grown b b') : Owns b' timer own := by
  rw [Owns, hg.2 timer hlt]
  exact h

lemma complete_create {parents : Option (List ℕ)} (h : (parents.getD []).length < 2 ^ 64) (address : Pointer)
    (name : Option String) (guid : UInt64) (f : ℕ → UInt64) :
    Complete (.create address name guid (parents.map (List.map f)) (.ofNat (parents.getD []).length)) := by
  change ((parents.map (List.map f)).getD []).length = (UInt64.ofNat (parents.getD []).length).toNat
  rw [UInt64.toNat_ofNat_of_lt' h]
  cases parents with
  | none => rfl
  | some parents => exact List.length_map f

variable (platform env) in
def Prints (work : Work) : Prop :=
  ∀ guids timer own a b sheet, Written env a b sheet → timer < b.next → Owns b timer own →
    Leads env b (perform env (myTool platform) work guids timer a).2 (printout platform work guids own sheet)

variable (platform env) in
def printed (work : Work) : Option (List String) :=
  (program env (myTool platform) work ⟨Process.start (some {}), 0⟩).2.process.tool.map (fun s => s.printed)

lemma Leads.printed {x : Option Sheet} (h : Leads env b a x) :
    a.process.tool.map (fun s => s.printed) = x.map (fun sheet => sheet.lines) := by
  cases x with
  | none =>
    obtain ⟨hrel, -⟩ := h
    generalize a.process.tool = s at hrel
    cases hrel with
    | none => rfl
  | some sheet =>
    obtain ⟨b', ⟨⟨hrel, -⟩, hlines, -⟩, -⟩ := h
    generalize a.process.tool = s at hrel
    cases hrel with
    | some hkeeps => exact congrArg some (hkeeps.printed.trans hlines)

section Loaded

variable {object : Provider} (hone : SuppliedBy env object)

include hone

lemma apiCall_follows {b : Option Book} (h : Follows env a b) {c : Call Pointer} (hc : Complete c) :
    (apiCall env (myTool platform) a.process c).2 = Forwarder.heard c ((b.map (fun b => b.next)).getD null) ∧
      Option.Rel State.Keeps (apiCall env (myTool platform) a.process c).1.tool
        (b.bind (fun b => b.step platform c)) ∧
      ∃ f, Refines env (apiCall env (myTool platform) a.process c).1 f ∧ f.loaded = true := by
  obtain ⟨hrel, f, hf, hl⟩ := h
  have hcall : (apiCall env (myTool platform) a.process c).2 =
        Forwarder.heard c ((a.process.tool.map (fun s => s.nextTimer)).getD null) ∧
      ∃ f', (apiCall env (myTool platform) a.process c).1.tool =
          a.process.tool.bind (fun s => (step platform s c).toOption) ∧
        Refines env (apiCall env (myTool platform) a.process c).1 f' ∧ f'.loaded = true :=
    apiCall_partial _ _ hone hf (Or.inl hl)
  obtain ⟨hresult, f', ht, hf', hl'⟩ := hcall
  rw [hresult, ht]
  refine ⟨?_, ?_, f', hf', hl'⟩
  · rw [next_rel hrel]
  · generalize a.process.tool = s at hrel
    cases hrel with
    | none => exact .none
    | some h => exact step_keeps h hc

lemma notify_follows {b : Option Book} (h : Follows env a b) {c : Call Pointer} (hc : Complete c) :
    Follows env (notify env (myTool platform) c a).2 (b.bind (fun b => b.step platform c)) :=
  (apiCall_follows hone h hc).2

variable (platform) in
lemma create_follows {b : Option Book} (h : Follows env a b) {address : Pointer} {name : Option String}
    {guid : UInt64} {parents : Option (List UInt64)} {count : UInt64}
    (hc : Complete (.create address name guid parents count)) :
    (create (myTool platform) address name guid parents count a).1 = (b.map (fun b => b.next)).getD null ∧
      Follows env (create (myTool platform) address name guid parents count a).2
        (b.bind (fun b => b.create platform address name guid (parents.getD []))) := by
  obtain ⟨hresult, hnext⟩ := apiCall_follows hone h hc
  exact ⟨Option.some.inj hresult, hnext⟩

lemma notify_leads (h : Written env a b sheet) {c : Call Pointer} (hc : Complete c) {lines : Option String}
    (hstep : b.step platform c = lines.map b.write) :
    Leads env b (notify env (myTool platform) c a).2 (lines.map sheet.say) := by
  have hf : Follows env (notify env (myTool platform) c a).2 (b.step platform c) :=
    notify_follows hone h.follows hc
  rw [hstep] at hf
  cases lines with
  | none => exact hf
  | some line =>
    refine ⟨b.write line, ⟨hf, ?_, h.count_eq⟩, le_rfl, fun _ _ => rfl⟩
    rw [Book.write, Sheet.say, h.lines_eq]

lemma say_leads (h : Written env a b sheet) {c : Call Pointer} (hc : Complete c) {line : String}
    (hstep : b.step platform c = some (b.write line)) :
    Leads env b (notify env (myTool platform) c a).2 (some (sheet.say line)) := by
  have hlines : b.step platform c = (some line).map b.write := hstep
  exact notify_leads hone h hc hlines

variable (platform) in
lemma notify_dead (h : Follows env a none) {c : Call Pointer} (hc : Complete c) : Follows env
    (notify env (myTool platform) c a).2 none :=
  notify_follows hone h hc

lemma perform_dead {work : Work} (hwork : work.Addressable) (guids : List UInt64) (timer : Pointer)
    {a : App (Option State)} (h : Follows env a none) :
    Follows env (perform env (myTool platform) work guids timer a).2 none := by
  induction work generalizing guids timer a with
  | nothing => exact h
  | andThen first second ih ih' => exact ih' hwork.2 guids timer (ih hwork.1 guids timer h)
  | task address name parents arguments count resource body ih =>
    have hguid : Follows env (newGuid a).2 none := h
    obtain ⟨-, hcreate⟩ := create_follows platform hone hguid
      (complete_create hwork.1 address name (newGuid a).1 (fun i => guids.getD i 0))
    refine notify_dead platform hone (ih hwork.2 _ _ (notify_dead platform hone
      (notify_dead platform hone hcreate ?_) ?_)) ?_ <;> trivial
  | command typeName body ih =>
    refine notify_dead platform hone (ih hwork guids timer (notify_dead platform hone h ?_)) ?_ <;> trivial
  | transfer guid source sourceName sourcePtr dest destName destPtr body ih =>
    refine notify_dead platform hone (ih hwork guids timer (notify_dead platform hone h ?_)) ?_ <;> trivial
  | yield => exact notify_dead platform hone h (c := .yield timer) trivial
  | resume resource => exact notify_dead platform hone h (c := .resume timer resource) trivial
  | mark label => exact notify_dead platform hone h (c := .mark (some label)) trivial
  | sampleValue name value => exact notify_dead platform hone h (c := .sampleValue (some name) value) trivial

lemma announce_leads (h : Written env a b sheet) {timer : Pointer} {own : Option (String × UInt64)}
    (ho : Owns b timer own) {c : Call Pointer} (hc : Complete c) {event : String}
    (hstep : b.step platform c = b.announce event timer) :
    Leads env b (notify env (myTool platform) c a).2 (own.map (fun task => sheet.say (announced event task))) := by
  have hlines : b.step platform c = (own.map (announced event)).map b.write := by
    rw [hstep, ← ho, Book.announce, Option.map_map, Option.map_map]
    rfl
  have hleads := notify_leads hone h hc hlines
  rwa [Option.map_map] at hleads

lemma prints_andThen {first second : Work} (hwork : second.Addressable) (h : Prints platform env first)
    (h' : Prints platform env second) :
    Prints platform env (.andThen first second) := by
  intro guids timer own a b sheet hw hlt ho
  apply (h guids timer own a b sheet hw hlt ho).bind
  · intro b' sheet' hw' hg
    exact h' guids timer own _ b' sheet' hw' (hlt.trans_le hg.1) (ho.grown hlt hg)
  · exact perform_dead hone hwork guids timer

lemma prints_around {body : Work} (h : Prints platform env body) {first last : Call Pointer}
    (hfirst : Complete first) (hlast : Complete last) {before after : String}
    (hbefore : ∀ b : Book, b.step platform first = some (b.write before))
    (hafter : ∀ b : Book, b.step platform last = some (b.write after)) (guids : List UInt64) {timer : Pointer}
    {own : Option (String × UInt64)} (hw : Written env a b sheet) (hlt : timer < b.next) (ho : Owns b timer own) :
    Leads env b (notify env (myTool platform) last (perform env (myTool platform) body guids timer
        (notify env (myTool platform) first a).2).2).2
      ((printout platform body guids own (sheet.say before)).map (fun sheet => sheet.say after)) := by
  obtain ⟨b₁, hw₁, hg₁⟩ := say_leads hone hw hfirst (hbefore b)
  have hbody := h guids timer own _ b₁ _ hw₁ (hlt.trans_le hg₁.1) (ho.grown hlt hg₁)
  rw [Option.map_eq_bind]
  apply (hbody.of_grown hg₁).bind
  · intro b₂ sheet₂ hw₂ _
    exact say_leads hone hw₂ hlast (hafter b₂)
  · exact fun hdead => notify_dead platform hone hdead hlast

variable (platform) in
lemma create_leads (hw : Written env a b sheet) {address : Pointer} {name : Option String}
    {parents : Option (List UInt64)} {count : UInt64}
    (hc : Complete (.create address name sheet.count parents count)) :
    (create (myTool platform) address name (newGuid a).1 parents count (newGuid a).2).1 = b.next ∧
      match (knownName platform address name).toOption with
      | none => Follows env (create (myTool platform) address name (newGuid a).1 parents count (newGuid a).2).2 none
      | some known => ∃ b', Owns b' b.next (some (known, sheet.count)) ∧ Grown b b' ∧ b.next < b'.next ∧
          Written env (create (myTool platform) address name (newGuid a).1 parents count (newGuid a).2).2 b'
            ({ sheet with count := sheet.count + 1 }.say ("Created timer " ++ known ++ " with ID " ++
              String.ofList (printedGuid sheet.count) ++ " and parents " ++ listed ((parents.getD []).take 32))) := by
  have hguid : Follows env (newGuid a).2 (some b) := hw.follows
  have hcount : (newGuid a).1 = sheet.count := hw.count_eq
  rw [hcount]
  obtain ⟨hresult, hcreate⟩ := create_follows platform hone hguid hc
  refine ⟨hresult, ?_⟩
  rw [Option.bind_some, Book.create] at hcreate
  cases hknown : (knownName platform address name).toOption with
  | none =>
    rw [hknown] at hcreate
    exact hcreate
  | some known =>
    rw [hknown] at hcreate
    refine ⟨_, ?_, ⟨Nat.le_succ _, ?_⟩, Nat.lt_succ_self _, hcreate, ?_, ?_⟩
    · simp [Owns, Book.write, Book.record]
    · intro p hp
      exact update_of_ne hp.ne _ _
    · change b.lines ++ _ = sheet.lines ++ _
      rw [hw.lines_eq]
    · exact congrArg (· + 1) hw.count_eq

lemma prints_started {body : Work} (h : Prints platform env body) {timer : Pointer} {task : String × UInt64}
    (hw : Written env a b sheet) (hlt : timer < b.next) (ho : Owns b timer (some task)) (guids : List UInt64)
    (arguments : Pointer) (count : UInt64) (resource : Option ExecutionSpace) :
    Leads env b (notify env (myTool platform) (.stop timer) (perform env (myTool platform) body guids timer
        (notify env (myTool platform) (.start timer resource)
          (notify env (myTool platform) (.schedule timer arguments count) a).2).2).2).2
      ((printout platform body guids (some task)
          ((sheet.say (announced "Scheduling" task)).say (announced "Starting" task))).map
        (fun sheet => sheet.say (announced "Stopping" task))) := by
  obtain ⟨b₁, hw₁, hg₁⟩ := announce_leads hone hw ho (c := .schedule timer arguments count) trivial rfl
  have hlt₁ := hlt.trans_le hg₁.1
  have ho₁ := ho.grown hlt hg₁
  obtain ⟨b₂, hw₂, hg₂⟩ := announce_leads hone hw₁ ho₁ (c := .start timer resource) trivial rfl
  have hlt₂ := hlt₁.trans_le hg₂.1
  have ho₂ := ho₁.grown hlt₁ hg₂
  have hbody := h guids timer (some task) _ b₂ _ hw₂ hlt₂ ho₂
  rw [Option.map_eq_bind]
  apply Leads.of_grown _ (hg₁.trans hg₂)
  apply hbody.bind
  · intro b₃ sheet₃ hw₃ hg₃
    exact announce_leads hone hw₃ (ho₂.grown hlt₂ hg₃) (c := .stop timer) trivial rfl
  · exact fun hdead => notify_dead platform hone hdead trivial

lemma prints_task {body : Work} (hwork : body.Addressable) (h : Prints platform env body) (address : Pointer)
    (name : Option String) {parents : Option (List ℕ)} (hlen : (parents.getD []).length < 2 ^ 64)
    (arguments : Pointer) (count : UInt64) (resource : Option ExecutionSpace) :
    Prints platform env (.task address name parents arguments count resource body) := by
  intro guids outer own a b sheet hw _ _
  have hguid : (newGuid a).1 = sheet.count := hw.count_eq
  have hcreate : _ ∧ _ := create_leads platform hone hw
    (complete_create hlen address name sheet.count (fun i => guids.getD i 0))
  obtain ⟨htimer, hcreated⟩ := hcreate
  have hshown : (parents.map (List.map (fun i => guids.getD i 0))).getD [] =
      (parents.getD []).map (fun i => guids.getD i 0) := by
    cases parents <;> rfl
  rw [printout]
  cases hknown : (knownName platform address name).toOption with
  | none =>
    rw [hknown] at hcreated
    refine notify_dead platform hone (perform_dead hone hwork _ _ (notify_dead platform hone
      (notify_dead platform hone hcreated ?_) ?_)) ?_ <;> trivial
  | some known =>
    rw [hknown, hshown] at hcreated
    obtain ⟨b₁, ho, hg, hlt, hw₁⟩ := hcreated
    rw [← htimer] at ho hlt
    rw [← hguid]
    rw [← hguid] at ho hw₁
    exact (prints_started hone h hw₁ hlt ho _ arguments count resource).of_grown hg

theorem prints {work : Work} (hwork : work.Addressable) :
    Prints platform env work := by
  induction work with
  | nothing =>
    intro guids timer own a b sheet hw _ _
    exact ⟨b, hw, le_rfl, fun _ _ => rfl⟩
  | andThen first second ih ih' => exact prints_andThen hone hwork.2 (ih hwork.1) (ih' hwork.2)
  | task address name parents arguments count resource body ih =>
    exact prints_task hone hwork.2 (ih hwork.2) address name hwork.1 arguments count resource
  | command typeName body ih =>
    intro guids timer own a b sheet hw hlt ho
    refine prints_around hone (ih hwork) ?_ ?_ (fun _ => rfl) (fun _ => rfl) guids hw hlt ho <;> trivial
  | transfer guid source _ _ dest _ _ body ih =>
    intro guids timer own a b sheet hw hlt ho
    refine prints_around hone (ih hwork) ?_ ?_ (fun _ => rfl) (fun _ => rfl) guids hw hlt ho <;> trivial
  | yield =>
    intro guids timer own a b sheet hw _ ho
    exact announce_leads hone hw ho (c := .yield timer) trivial rfl
  | resume resource =>
    intro guids timer own a b sheet hw _ ho
    exact announce_leads hone hw ho (c := .resume timer resource) trivial rfl
  | mark label =>
    intro guids timer own a b sheet hw _ _
    exact say_leads hone hw (c := .mark (some label)) trivial rfl
  | sampleValue name value =>
    intro guids timer own a b sheet hw _ _
    exact say_leads hone hw (c := .sampleValue (some name) value) trivial rfl

variable (platform) in
lemma init_written :
    Written env (notify env (myTool platform) .init ⟨Process.start (some {}), 0⟩).2
      (Book.write {} "Initializing tool") (Sheet.say {} "Initializing tool") := by
  have hcall : _ ∧ _ := apiCall_partial (fun s c => (step platform s c).toOption) (fun s => s.nextTimer)
    (c := .init) hone (start_refines env (some {})) (Or.inr rfl)
  obtain ⟨-, f, ht, hf, hl⟩ := hcall
  refine ⟨⟨?_, f, hf, hl⟩, rfl, rfl⟩
  change Option.Rel State.Keeps (apiCall env (partialTool _ _) _ .init).1.tool _
  rw [ht]
  exact .some (keeps_start.write _)

end Loaded

theorem program_printed {object : Provider} (hone : SuppliedBy env object) (work : Work) (hwork : work.Addressable) :
    printed platform env work = (programPrintout platform work).map (fun sheet => sheet.lines) := by
  have hprints : Prints platform env work := prints hone hwork
  have hbody := hprints [] null none _ _ _ (init_written platform hone) Nat.one_pos rfl
  have hlast : Leads env (Book.write {} "Initializing tool") (program env (myTool platform) work
      ⟨Process.start (some {}), 0⟩).2 (programPrintout platform work) := by
    rw [programPrintout, Option.map_eq_bind]
    apply hbody.bind
    · intro b' sheet hw _
      exact say_leads hone hw (c := .finalize) trivial rfl
    · exact fun hdead => notify_dead platform hone hdead (c := .finalize) trivial
  exact hlast.printed

end Steps

def mainPlatform : Platform where
  dladdr p := if p = mainImage.C then some (some "C") else none
  formatDouble _ := "10.000000"

theorem program_printed_main :
    (MainC.main completeLibrary (myTool mainPlatform) mainImage ⟨Process.start (some {}), 0⟩).2.process.tool.map
        (fun s => s.printed) =
      some ["Initializing tool", "Created timer main with ID 0 and parents []", "Scheduling timer main with ID 0",
        "Starting timer main with ID 0", "Yielding timer main with ID 0", "Created timer A with ID 1 and parents [0]",
        "Scheduling timer A with ID 1", "Starting timer A with ID 1", "Created timer B with ID 2 and parents [0,1]",
        "Scheduling timer B with ID 2", "Starting timer B with ID 2", "Stopping timer B with ID 2",
        "Created timer C with ID 3 and parents [0,1]", "Scheduling timer C with ID 3", "Starting timer C with ID 3",
        "Command D start", "Command stop", "Data transfer 100 start", "Data transfer 100 stop", "Command E start",
        "Command stop", "Data transfer 100 start", "Data transfer 100 stop", "Command F start", "Command stop",
        "Stopping timer C with ID 3", "Stopping timer A with ID 1", "mark an event marker event",
        "sample value sample = 10.000000", "Resuming timer main with ID 0", "Stopping timer main with ID 0",
        "Finalizing tool"] := by
  have haddressable : (MainC.tree mainImage).Addressable := by
    simp [Work.Addressable, MainC.tree, MainC.treeA, MainC.treeB, MainC.treeC, MainC.commandTree, MainC.xferTree]
  have hprinted : printed mainPlatform completeLibrary (MainC.tree mainImage) = _ :=
    program_printed completeLibrary_supplied _ haddressable
  rw [printed, ← MainC.main_program] at hprinted
  rw [hprinted]
  decide +kernel

end TaskStubs.Examples
