import TaskStubs.Examples.Client
import TaskStubs.Tools.Programs

/-! What an instrumented program shows: the transcript of its tree, whatever the tool and the vendor's
library do inside. A timer yields and resumes its own range only, and what is pushed within a range is
popped within it, so that every range that opens closes once. -/

namespace TaskStubs.Examples

open Stub Tools Function

def Work.closed : Work → Bool
  | .andThen first second => first.closed && second.closed
  | .command _ body => body.closed
  | .transfer _ _ _ _ _ _ _ body => body.closed
  | .yield => false
  | .resume _ => false
  | _ => true

def closing (opening : ℕ) : List Event := if opening = 0 then [] else [.closed opening]

def transferName (source dest : ExecutionSpace) : String :=
  "Data Transfer " ++ getSpace source ++ " -> " ++ getSpace dest

section Transcript

variable (runtime : Runtime) (sample : String → List Event)

/-- The events of a piece of work after `k` openings, inside a task whose open range is `current`, and
what the open range is in the end; 0 is none. -/
def transcript : Work → String → ℕ → ℕ → List Event × ℕ
  | .nothing, _, _, current => ([], current)
  | .andThen first second, name, k, current =>
    let (events, between) := transcript first name k current
    let (rest, last) := transcript second name (k + openings events) between
    (events ++ rest, last)
  | .task address name _ _ _ _ body, _, k, current =>
    let name := runtime.timerName address name
    let (events, last) := transcript body name (k + 1) (k + 1)
    (.created name :: .marker "Timer Schedule" :: .opened name :: (events ++ closing last), current)
  | .command typeName body, name, k, current =>
    let (events, last) := transcript body name (k + 1) current
    (.opened typeName :: (events ++ [.closed (k + 1)]), last)
  | .transfer _ source _ _ dest _ _ body, name, k, current =>
    let (events, last) := transcript body name (k + 1) current
    (.opened (transferName source dest) :: (events ++ [.closed (k + 1)]), last)
  | .yield, _, _, current => (closing current, 0)
  | .resume _, name, k, current => if current = 0 then ([.opened name], k + 1) else ([], current)
  | .mark label, _, _, current => ([.marker label], current)
  | .sampleValue name _, _, _, current => (sample name, current)

def programTranscript (work : Work) : List Event :=
  .marker "TaskStubs Initialize" ::
    ((transcript runtime sample work "" 0 0).1 ++ [.marker "TaskStubs Finalize"])

end Transcript

section Recorder

variable {r r' r'' : ToolState (List Event) Unit} {timer : Pointer} {name : String}

def Holds (r : ToolState (List Event) Unit) (timer : Pointer) (name : String) (current : ℕ) : Prop :=
  ∃ t, r.timers timer = some t ∧ t.name = name ∧ t.rangeId = current

structure Within (timer : Pointer) (name : String) (before after : ℕ) (r r' : ToolState (List Event) Unit)
    (events : List Event) : Prop where
  vendor_eq : r'.vendor = r.vendor ++ events
  stack_eq : r'.timerStack = r.timerStack
  next_le : r.nextTimer ≤ r'.nextTimer
  own : Holds r timer name before → Holds r' timer name after
  others : ∀ p, p ≠ timer → p < r.nextTimer → r'.timers p = r.timers p

lemma within_refl (current : ℕ) : Within timer name current current r r [] :=
  ⟨(List.append_nil _).symm, rfl, le_rfl, id, fun _ _ _ => rfl⟩

lemma Within.trans {before between after : ℕ} {first second : List Event}
    (h : Within timer name before between r r' first) (h' : Within timer name between after r' r'' second) :
    Within timer name before after r r'' (first ++ second) := by
  refine ⟨?_, h'.stack_eq.trans h.stack_eq, h.next_le.trans h'.next_le, fun ho => h'.own (h.own ho), ?_⟩
  · rw [h'.vendor_eq, h.vendor_eq, List.append_assoc]
  · intro p hp hlt
    rw [h'.others p hp (hlt.trans_le h.next_le), h.others p hp hlt]

lemma within_events (current : ℕ) (events : List Event) :
    Within timer name current current r { r with vendor := r.vendor ++ events } events :=
  ⟨rfl, rfl, le_rfl, id, fun _ _ _ => rfl⟩

lemma within_close {current : ℕ} (h : Holds r timer name current) :
    ∃ r', closeRange recorder timer r = some r' ∧ Within timer name current 0 r r' (closing current) := by
  obtain ⟨t, ht, hname, hrange⟩ := h
  by_cases hz : current = 0
  · refine ⟨r, ?_, ?_⟩
    · simp [closeRange, ht, hrange, hz]
    · rw [closing, if_pos hz, hz]
      exact within_refl 0
  · refine ⟨{ r with vendor := r.vendor ++ [.closed current]
                     timers := update r.timers timer (some { t with rangeId := 0 }) }, ?_, ?_⟩
    · simp [closeRange, ht, hrange, Nat.pos_of_ne_zero hz, recorder]
    · rw [closing, if_neg hz]
      refine ⟨rfl, rfl, le_rfl, ?_, fun p hp _ => update_of_ne hp _ _⟩
      exact fun _ => ⟨_, update_self _ _ _, hname, rfl⟩

lemma within_open {current : ℕ} (h : Holds r timer name current) :
    ∃ r', openRange recorder timer r = some r' ∧
      Within timer name current (if current = 0 then openings r.vendor + 1 else current) r r'
        (if current = 0 then [.opened name] else []) := by
  obtain ⟨t, ht, hname, hrange⟩ := h
  by_cases hz : current = 0
  · refine ⟨{ r with vendor := r.vendor ++ [.opened name]
                     timers := update r.timers timer (some { t with rangeId := openings r.vendor + 1 }) }, ?_, ?_⟩
    · simp [openRange, ht, hrange, hz, hname, recorder]
    · rw [if_pos hz, if_pos hz]
      refine ⟨rfl, rfl, le_rfl, ?_, fun p hp _ => update_of_ne hp _ _⟩
      exact fun _ => ⟨_, update_self _ _ _, hname, rfl⟩
  · refine ⟨r, ?_, ?_⟩
    · simp [openRange, ht, hrange, hz]
    · rw [if_neg hz, if_neg hz]
      exact within_refl current

lemma within_task {current : ℕ} {text : String} {guid : UInt64} {before after : ℕ} {events : List Event}
    (hlt : timer < r.nextTimer)
    (h : Within r.nextTimer text before after (newTimer recorder text guid true r).1 r' events) :
    Within timer name current current r r' (.created text :: events) := by
  have hothers : ∀ p, p < r.nextTimer → r'.timers p = r.timers p := by
    intro p hp
    rw [h.others p hp.ne (hp.trans (Nat.lt_succ_self _))]
    exact update_of_ne hp.ne _ _
  refine ⟨?_, h.stack_eq, (Nat.le_succ _).trans h.next_le, ?_, fun p _ hp => hothers p hp⟩
  · rw [h.vendor_eq]
    simp [newTimer, recorder]
  · rintro ⟨t, ht, hnamed⟩
    exact ⟨t, (hothers timer hlt).trans ht, hnamed⟩

def afterPush (text : String) (guid : UInt64) (r : ToolState (List Event) Unit) :
    ToolState (List Event) Unit where
  vendor := r.vendor ++ [.opened text]
  timers := update r.timers r.nextTimer (some ⟨text, guid, (), openings r.vendor + 1, false⟩)
  nextTimer := r.nextTimer + 1
  timerStack := r.nextTimer :: r.timerStack

lemma pushTimer_recorder (text : String) (guid : UInt64) :
    pushTimer recorder text guid r = some (afterPush text guid r) := by
  simp [pushTimer, newTimer, Timer.start, openRange, afterPush, recorder]

lemma holds_afterPush {current : ℕ} {text : String} {guid : UInt64} (hlt : timer < r.nextTimer)
    (h : Holds r timer name current) : Holds (afterPush text guid r) timer name current := by
  obtain ⟨t, ht, hnamed⟩ := h
  exact ⟨t, (update_of_ne hlt.ne _ _).trans ht, hnamed⟩

lemma within_pop {before after : ℕ} {text : String} {guid : UInt64} {events : List Event}
    (hlt : timer < r.nextTimer) (h : Within timer name before after (afterPush text guid r) r' events) :
    ∃ r'', popTimer recorder r' = some r'' ∧
      Within timer name before after r r'' (.opened text :: (events ++ [.closed (openings r.vendor + 1)])) := by
  have htop : Holds { r' with timerStack := r.timerStack } r.nextTimer text (openings r.vendor + 1) := by
    refine ⟨_, (h.others r.nextTimer hlt.ne' (Nat.lt_succ_self _)).trans (update_self _ _ _), rfl, rfl⟩
  obtain ⟨r'', hclose, hw⟩ := within_close htop
  refine ⟨r'', ?_, ?_, hw.stack_eq, ?_, ?_, ?_⟩
  · rw [popTimer, h.stack_eq]
    exact hclose
  · rw [hw.vendor_eq, h.vendor_eq, closing, if_neg (Nat.succ_ne_zero _)]
    simp [afterPush]
  · exact (Nat.le_succ _).trans (h.next_le.trans hw.next_le)
  · intro ho
    obtain ⟨t, ht, hnamed⟩ := h.own (holds_afterPush hlt ho)
    refine ⟨t, (hw.others timer hlt.ne ?_).trans ht, hnamed⟩
    exact hlt.trans_le ((Nat.le_succ _).trans h.next_le)
  · intro p hp hlt'
    have hnext : p < r'.nextTimer := hlt'.trans_le ((Nat.le_succ _).trans h.next_le)
    calc r''.timers p = r'.timers p := hw.others p hlt'.ne hnext
      _ = (afterPush text guid r).timers p := h.others p hp (hlt'.trans (Nat.lt_succ_self _))
      _ = r.timers p := update_of_ne hlt'.ne _ _

end Recorder

section Programs

variable {V A : Type} {vendor : Vendor V A} {createText : String → String}
  (session : Session vendor createText) (runtime : Runtime) (env : Linker)

/-- The tool is loaded behind the stub, and the recorder keeps up with it. -/
def Live (a : App (Option (ToolState V A))) (r : ToolState (List Event) Unit) : Prop :=
  ∃ s f, a.process.tool = some s ∧ Refines env a.process f ∧ f.loaded = true ∧ Records session s r

variable {session runtime env} {a : App (Option (ToolState V A))} {r r' : ToolState (List Event) Unit}

variable {sample : String → List Event}

def Samples (session : Session vendor createText) (runtime : Runtime) (sample : String → List Event) : Prop :=
  ∀ s r name value, Records session s r →
    ∃ s', callback vendor runtime s (.sampleValue (some name) value) = some s' ∧
      Records session s' { r with vendor := r.vendor ++ sample name }

def Performs (session : Session vendor createText) (runtime : Runtime) (env : Linker)
    (sample : String → List Event) (work : Work) : Prop :=
  ∀ guids timer name current a r, Live session env a r → timer < r.nextTimer →
    (work.closed = false → Holds r timer name current) →
    ∃ r', Live session env (perform env (vendorTool vendor runtime) work guids timer a).2 r' ∧
      Within timer name current (transcript runtime sample work name (openings r.vendor) current).2 r r'
        (transcript runtime sample work name (openings r.vendor) current).1

lemma performs_andThen {first second : Work} (h : Performs session runtime env sample first)
    (h' : Performs session runtime env sample second) :
    Performs session runtime env sample (.andThen first second) := by
  intro guids timer name current a r hlive hlt hclosed
  obtain ⟨r₁, hlive₁, hw₁⟩ := h guids timer name current a r hlive hlt
    (fun hc => hclosed (by simp [Work.closed, hc]))
  obtain ⟨r₂, hlive₂, hw₂⟩ := h' guids timer name _ _ r₁ hlive₁ (hlt.trans_le hw₁.next_le)
    (fun hc => hw₁.own (hclosed (by simp [Work.closed, hc])))
  have hopened : openings r₁.vendor = openings r.vendor +
      openings (transcript runtime sample first name (openings r.vendor) current).1 := by
    rw [hw₁.vendor_eq, openings, List.countP_append]
    rfl
  rw [hopened] at hw₂
  exact ⟨r₂, hlive₂, hw₁.trans hw₂⟩

variable (runtime) in
lemma schedule_recorded {r : ToolState (List Event) Unit} {timer : Pointer} {name : String} {current : ℕ}
    (h : Holds r timer name current) (arguments : Pointer) (count : UInt64) :
    ∃ r', callback recorder runtime r (.schedule timer arguments count) = some r' ∧
      Within timer name current current r r' [.marker "Timer Schedule"] := by
  obtain ⟨t, ht, -⟩ := h
  refine ⟨_, ?_, within_events current _⟩
  simp [callback, tasktimerScheduleImpl, Timer.schedule, ht, mark, recorder]

variable {object : Provider} (hone : SuppliedBy env object)

include hone

lemma apiCall_tool {p : Process (Option (ToolState V A))} {f : Forwarder (Option (ToolState V A))}
    {c : Call Pointer} (hf : Refines env p f) (hl : f.loaded = true ∨ c.api = .init) {s s' : ToolState V A}
    (ht : p.tool = some s) (hs : callback vendor runtime s c = some s') :
    (apiCall env (vendorTool vendor runtime) p c).2 = Forwarder.heard c s.nextTimer ∧
      ∃ f', (apiCall env (vendorTool vendor runtime) p c).1.tool = some s' ∧
        Refines env (apiCall env (vendorTool vendor runtime) p c).1 f' ∧ f'.loaded = true := by
  have hcall := apiCall_partial (callback vendor runtime) (fun s => s.nextTimer) hone hf hl
  rw [ht, Option.bind_some, hs] at hcall
  exact hcall

lemma notify_live {c : Call Pointer} (h : Live session env a r)
    (hc : ∀ s, Records session s r → ∃ s', callback vendor runtime s c = some s' ∧ Records session s' r') :
    Live session env (notify env (vendorTool vendor runtime) c a).2 r' := by
  obtain ⟨s, f, ht, hf, hl, hrec⟩ := h
  obtain ⟨s', hs, hrec'⟩ := hc s hrec
  obtain ⟨-, f', ht', hf', hl'⟩ := apiCall_tool hone hf (Or.inl hl) ht hs
  exact ⟨s', f', ht', hf', hl', hrec'⟩

lemma notify_recorded {c : Call Pointer} (h : Live session env a r) (hc : InSession c)
    (hr : callback recorder runtime r c = some r') :
    Live session env (notify env (vendorTool vendor runtime) c a).2 r' := by
  apply notify_live hone h
  intro s hrec
  have hrel := callback_records session runtime hrec c hc
  rw [hr] at hrel
  generalize callback vendor runtime s c = x at hrel
  cases hrel with
  | some hrec' => exact ⟨_, rfl, hrec'⟩

lemma create_live (h : Live session env a r) (address : Pointer) (name : Option String) (guid : UInt64)
    (parents : Option (List UInt64)) (count : UInt64) :
    (create (vendorTool vendor runtime) address name guid parents count a).1 = r.nextTimer ∧
      Live session env (create (vendorTool vendor runtime) address name guid parents count a).2
        (newTimer recorder (runtime.timerName address name) guid true r).1 := by
  obtain ⟨s, f, ht, hf, hl, hrec⟩ := h
  have hs : callback vendor runtime s (.create address name guid parents count) =
    some (newTimer vendor (runtime.timerName address name) guid true s).1 := rfl
  obtain ⟨hresult, f', ht', hf', hl'⟩ := apiCall_tool hone hf (Or.inl hl) ht hs
  refine ⟨?_, _, f', ht', hf', hl', records_newTimer hrec _ _ _⟩
  rw [← hrec.next_eq]
  exact Option.some.inj hresult

lemma performs_pushed {body : Work} (h : Performs session runtime env sample body) {first last : Call Pointer}
    (hfirst : InSession first) (hlast : InSession last) {text : String} {guid : UInt64}
    (hpush : ∀ r, callback recorder runtime r first = pushTimer recorder text guid r)
    (hpop : ∀ r, callback recorder runtime r last = popTimer recorder r) {guids : List UInt64} {timer : Pointer}
    {name : String} {current : ℕ} (hlive : Live session env a r) (hlt : timer < r.nextTimer)
    (hclosed : body.closed = false → Holds r timer name current) :
    ∃ r', Live session env (notify env (vendorTool vendor runtime) last
        (perform env (vendorTool vendor runtime) body guids timer
          (notify env (vendorTool vendor runtime) first a).2).2).2 r' ∧
      Within timer name current (transcript runtime sample body name (openings r.vendor + 1) current).2 r r'
        (.opened text :: ((transcript runtime sample body name (openings r.vendor + 1) current).1 ++
          [.closed (openings r.vendor + 1)])) := by
  have hpushed := notify_recorded hone hlive hfirst ((hpush r).trans (pushTimer_recorder text guid))
  obtain ⟨r₂, hlive₂, hw⟩ := h guids timer name current _ _ hpushed (hlt.trans (Nat.lt_succ_self _))
    (fun hc => holds_afterPush hlt (hclosed hc))
  have hopened : openings (afterPush text guid r).vendor = openings r.vendor + 1 := by
    simp [afterPush, openings, List.countP_append]
  rw [hopened] at hw
  obtain ⟨r₃, hpopped, hw₃⟩ := within_pop hlt hw
  exact ⟨r₃, notify_recorded hone hlive₂ hlast ((hpop r₂).trans hpopped), hw₃⟩

lemma performs_task {body : Work} (h : Performs session runtime env sample body) (address : Pointer)
    (name : Option String) (parents : Option (List ℕ)) (arguments : Pointer) (count : UInt64)
    (resource : Option ExecutionSpace) :
    Performs session runtime env sample (.task address name parents arguments count resource body) := by
  intro guids timer outer current a r hlive hlt _
  have hguid : Live session env (newGuid a).2 r := hlive
  obtain ⟨hresult, hlive₁⟩ := create_live hone hguid address name (newGuid a).1
    (parents.map (List.map (fun i => guids.getD i 0))) (.ofNat (parents.getD []).length)
  have hnew : Holds (newTimer recorder (runtime.timerName address name) (newGuid a).1 true r).1 r.nextTimer
      (runtime.timerName address name) 0 := ⟨_, update_self _ _ _, rfl, rfl⟩
  obtain ⟨r₂, hschedule, hw₂⟩ := schedule_recorded runtime hnew arguments count
  have hlive₂ := notify_recorded hone hlive₁ (by simp [InSession, Call.api]) hschedule
  have hopened : openings r₂.vendor = openings r.vendor := by
    rw [hw₂.vendor_eq]
    simp [newTimer, recorder, openings, List.countP_append]
  obtain ⟨r₃, hstart, hw₃⟩ := within_open (hw₂.own hnew)
  rw [if_pos rfl, if_pos rfl, hopened] at hw₃
  have hcall₃ : callback recorder runtime r₂ (.start r.nextTimer resource) = some r₃ := hstart
  have hlive₃ := notify_recorded hone hlive₂ (by simp [InSession, Call.api]) hcall₃
  have hopened₃ : openings r₃.vendor = openings r.vendor + 1 := by
    rw [hw₃.vendor_eq, openings, List.countP_append]
    exact congrArg Nat.succ hopened
  have hw := hw₂.trans hw₃
  obtain ⟨r₄, hlive₄, hw₄⟩ := h ((newGuid a).1 :: guids) r.nextTimer _ _ _ r₃ hlive₃
    ((Nat.lt_succ_self _).trans_le hw.next_le) (fun _ => hw.own hnew)
  rw [hopened₃] at hw₄
  obtain ⟨r₅, hstop, hw₅⟩ := within_close ((hw.trans hw₄).own hnew)
  have hcall₅ : callback recorder runtime r₄ (.stop r.nextTimer) = some r₅ := hstop
  have hlive₅ := notify_recorded hone hlive₄ (by simp [InSession, Call.api]) hcall₅
  refine ⟨r₅, ?_, ?_⟩
  · rw [← hresult] at hlive₅
    exact hlive₅
  · have htask : Within timer outer current current r r₅ _ := within_task hlt ((hw.trans hw₄).trans hw₅)
    simpa [transcript] using htask

theorem performs (hsample : Samples session runtime sample) (work : Work) :
    Performs session runtime env sample work := by
  induction work with
  | nothing =>
    intro guids timer name current a r hlive _ _
    exact ⟨r, hlive, within_refl current⟩
  | andThen first second ih ih' => exact performs_andThen ih ih'
  | task address name parents arguments count resource body ih =>
    exact performs_task hone ih address name parents arguments count resource
  | command typeName body ih =>
    intro guids timer name current a r hlive hlt hclosed
    exact performs_pushed hone ih (by simp [InSession, Call.api]) (by simp [InSession, Call.api])
      (fun _ => rfl) (fun _ => rfl) hlive hlt hclosed
  | transfer guid source _ _ dest _ _ body ih =>
    intro guids timer name current a r hlive hlt hclosed
    exact performs_pushed hone ih (by simp [InSession, Call.api]) (by simp [InSession, Call.api])
      (fun _ => rfl) (fun _ => rfl) hlive hlt hclosed
  | yield =>
    intro guids timer name current a r hlive hlt hclosed
    obtain ⟨r', hyield, hw⟩ := within_close (hclosed rfl)
    have hcall : callback recorder runtime r (.yield timer) = some r' := hyield
    exact ⟨r', notify_recorded hone hlive (by simp [InSession, Call.api]) hcall, hw⟩
  | resume resource =>
    intro guids timer name current a r hlive hlt hclosed
    obtain ⟨r', hresume, hw⟩ := within_open (hclosed rfl)
    have hcall : callback recorder runtime r (.resume timer resource) = some r' := hresume
    refine ⟨r', notify_recorded hone hlive (by simp [InSession, Call.api]) hcall, ?_⟩
    rw [transcript]
    split_ifs with hz
    · simpa only [if_pos hz] using hw
    · simpa only [if_neg hz] using hw
  | mark label =>
    intro guids timer name current a r hlive _ _
    have hcall : callback recorder runtime r (.mark (some label)) =
      some { r with vendor := r.vendor ++ [.marker label] } := rfl
    exact ⟨_, notify_recorded hone hlive (by simp [InSession, Call.api]) hcall, within_events current _⟩
  | sampleValue name value =>
    intro guids timer task current a r hlive _ _
    exact ⟨_, notify_live hone hlive (fun s hrec => hsample s r name value hrec), within_events current _⟩

variable (vendor runtime env) in
def afterProgram (v : V) (work : Work) : Option V :=
  (program env (vendorTool vendor runtime) work ⟨Process.start (some { vendor := v }), 0⟩).2.process.tool.map
    (fun s => s.vendor)

lemma init_live {v : V} {count : UInt64} (h : Records session { vendor := vendor.initializeTool v } r) :
    Live session env
      (notify env (vendorTool vendor runtime) .init ⟨Process.start (some { vendor := v }), count⟩).2 r := by
  have hs : callback vendor runtime { vendor := v } .init = some { vendor := vendor.initializeTool v } := rfl
  obtain ⟨-, f, ht, hf, hl⟩ := apiCall_tool hone (start_refines env _) (Or.inr rfl) rfl hs
  exact ⟨_, f, ht, hf, hl, h⟩

lemma finalize_live (h : Live session env a r) :
    Live session env (notify env (vendorTool vendor runtime) .finalize a).2
      { r with vendor := r.vendor ++ [.marker "TaskStubs Finalize"] } := by
  have hc : ∀ s, Records session s r → ∃ s', callback vendor runtime s .finalize = some s' ∧
      Records session s' { r with vendor := r.vendor ++ [.marker "TaskStubs Finalize"] } := by
    intro s hrec
    exact ⟨_, rfl, hrec.grow_mark (session.finalizeTool _ hrec.ok) rfl⟩
  exact notify_live hone h hc

theorem program_records (hsample : Samples session runtime sample) {v : V}
    (h : Records session { vendor := vendor.initializeTool v } { vendor := [.marker "TaskStubs Initialize"] })
    (work : Work) (hclosed : work.closed = true) :
    ∃ w, afterProgram vendor runtime env v work = some w ∧
      (session.reading w).observations = (programTranscript runtime sample work).map (Event.render createText) := by
  have hlive : Live session env
    (notify env (vendorTool vendor runtime) .init ⟨Process.start (some { vendor := v }), 0⟩).2 _ := init_live hone h
  obtain ⟨r, hbody, hw⟩ := performs hone hsample work [] null "" 0 _ _ hlive Nat.one_pos
    (fun hc => by simp [hclosed] at hc)
  obtain ⟨s, f, ht, -, -, hrec⟩ := finalize_live hone hbody
  refine ⟨s.vendor, ?_, ?_⟩
  · exact congrArg (Option.map (fun s => s.vendor)) ht
  · rw [hrec.observations_eq, hw.vendor_eq]
    simp [programTranscript, openings]

end Programs

section Closings

open scoped List

def closings (events : List Event) : List ℕ :=
  events.filterMap (fun e => match e with
    | .closed opening => some opening
    | _ => none)

def openRanges (current : ℕ) : List ℕ := if current = 0 then [] else [current]

variable {runtime : Runtime} {sample : String → List Event}

lemma openings_append (first second : List Event) :
    openings (first ++ second) = openings first + openings second :=
  List.countP_append

lemma closings_append (first second : List Event) :
    closings (first ++ second) = closings first ++ closings second :=
  List.filterMap_append

lemma closings_closing (current : ℕ) : closings (closing current) = openRanges current := by
  rw [closing, openRanges]
  split_ifs <;> rfl

lemma openings_closing (current : ℕ) : openings (closing current) = 0 := by
  rw [closing]
  split_ifs <;> rfl

def Settled (k before after : ℕ) (events : List Event) : Prop :=
  (closings events ++ openRanges after).Perm (openRanges before ++ List.range' (k + 1) (openings events))

lemma Settled.trans {k before between after : ℕ} {first second : List Event}
    (h : Settled k before between first) (h' : Settled (k + openings first) between after second) : Settled k
    before after (first ++ second) := by
  rw [Settled, closings_append, openings_append, ← List.range'_append_1, List.append_assoc]
  calc closings first ++ (closings second ++ openRanges after)
      ~ closings first ++ (openRanges between ++ List.range' (k + openings first + 1) (openings second)) :=
        h'.append_left _
    _ = closings first ++ openRanges between ++ List.range' (k + openings first + 1) (openings second) :=
        (List.append_assoc _ _ _).symm
    _ ~ openRanges before ++ List.range' (k + 1) (openings first) ++
          List.range' (k + openings first + 1) (openings second) := h.append_right _
    _ = _ := by rw [List.append_assoc, Nat.add_right_comm]

lemma settled_around {k before after : ℕ} {text : String} {events : List Event}
    (h : Settled (k + 1) before after events) :
    Settled k before after (.opened text :: (events ++ [.closed (k + 1)])) := by
  have hopened : openings (.opened text :: (events ++ [.closed (k + 1)])) = openings events + 1 := by
    simp [openings, List.countP_append]
  have hclosed : closings (.opened text :: (events ++ [.closed (k + 1)])) = closings events ++ [k + 1] :=
    closings_append events [.closed (k + 1)]
  rw [Settled, hopened, hclosed, List.range'_succ]
  calc closings events ++ [k + 1] ++ openRanges after
      ~ (k + 1) :: (closings events ++ openRanges after) := by
        rw [List.append_assoc]
        exact List.perm_middle
    _ ~ (k + 1) :: (openRanges before ++ List.range' (k + 1 + 1) (openings events)) := h.cons _
    _ ~ _ := List.perm_middle.symm

lemma settled_task {k current last : ℕ} {text : String} {events : List Event}
    (h : Settled (k + 1) (k + 1) last events) :
    Settled k current current
      (.created text :: .marker "Timer Schedule" :: .opened text :: (events ++ closing last)) := by
  have hopened : openings (.created text :: .marker "Timer Schedule" :: .opened text ::
      (events ++ closing last)) = openings events + 1 := by
    simp [openings, List.countP_append, ← openings_closing last]
  have hclosed : closings (.created text :: .marker "Timer Schedule" :: .opened text ::
      (events ++ closing last)) = closings events ++ openRanges last :=
    (closings_append events (closing last)).trans (by rw [closings_closing])
  rw [Settled, hopened, hclosed, List.range'_succ]
  rw [Settled, openRanges.eq_def (k + 1), if_neg (Nat.succ_ne_zero k)] at h
  exact (h.append_right _).trans List.perm_append_comm

theorem transcript_settled (hsample : ∀ name, openings (sample name) = 0 ∧ closings (sample name) = [])
    (work : Work) (name : String) (k current : ℕ) :
    Settled k current (transcript runtime sample work name k current).2
      (transcript runtime sample work name k current).1 := by
  induction work generalizing name k current with
  | nothing => simp [transcript, Settled, closings, openings]
  | andThen first second ih ih' => exact (ih name k current).trans (ih' name _ _)
  | task address text _ _ _ _ body ih => exact settled_task (ih _ _ _)
  | command typeName body ih => exact settled_around (ih _ _ _)
  | transfer guid source _ _ dest _ _ body ih => exact settled_around (ih _ _ _)
  | yield =>
    rw [Settled, transcript, closings_closing, openings_closing]
    exact List.Perm.refl _
  | resume resource =>
    rw [Settled, transcript]
    by_cases hz : current = 0
    · simp [hz, closings, openings, openRanges]
    · simp [hz, closings, openings]
  | mark label => simp [transcript, Settled, closings, openings]
  | sampleValue text value => simp [transcript, Settled, hsample]

lemma transcript_closed {work : Work} (h : work.closed = true) (name : String) (k current : ℕ) :
    (transcript runtime sample work name k current).2 = current := by
  induction work generalizing name k current with
  | andThen first second ih ih' =>
    obtain ⟨hf, hs⟩ : first.closed = true ∧ second.closed = true := by simpa [Work.closed] using h
    exact (ih' hs _ _ _).trans (ih hf _ _ _)
  | command typeName body ih => exact ih h _ _ _
  | transfer guid source _ _ dest _ _ body ih => exact ih h _ _ _
  | yield => cases h
  | resume resource => cases h
  | _ => rfl

theorem programTranscript_closings (hsample : ∀ name, openings (sample name) = 0 ∧ closings (sample name) = [])
    {work : Work} (h : work.closed = true) :
    (closings (programTranscript runtime sample work)).Perm
      (List.range' 1 (openings (programTranscript runtime sample work))) := by
  have hs : Settled 0 0 (transcript runtime sample work "" 0 0).2 (transcript runtime sample work "" 0 0).1 :=
    transcript_settled hsample work "" 0 0
  rw [transcript_closed h, Settled, openRanges, if_pos rfl, List.append_nil, List.nil_append] at hs
  have hopened : openings (programTranscript runtime sample work) =
      openings (transcript runtime sample work "" 0 0).1 := by
    simp [programTranscript, openings, List.countP_append]
  have hclosed : closings (programTranscript runtime sample work) =
      closings (transcript runtime sample work "" 0 0).1 := by
    simp [programTranscript, closings]
  rwa [hopened, hclosed]

end Closings

def sampleMarker (name : String) : List Event := [.marker name]

def noSample (_ : String) : List Event := []

lemma nvtx_samples (library : Nvtx.Library) (runtime : Runtime) :
    Samples (Nvtx.session library) runtime sampleMarker := by
  intro s r name value hrec
  have hrel := Nvtx.sampleValue_records library runtime hrec (some name) value
  generalize callback (Nvtx.vendor library) runtime s (.sampleValue (some name) value) = x at hrel
  cases hrel with
  | some hrec' => exact ⟨_, rfl, hrec'⟩

lemma roctx_samples (library : Roctx.Library) (runtime : Runtime) :
    Samples (Roctx.session library) runtime noSample := by
  intro s r name value hrec
  refine ⟨s, rfl, ?_⟩
  rwa [noSample, List.append_nil]

variable (runtime : Runtime) (env : Linker)

theorem program_shown (nvtx : Nvtx.Library) (roctx : Roctx.Library) {object : Provider}
    (hone : SuppliedBy env object) (work : Work) (hclosed : work.closed = true) :
    (afterProgram (Nvtx.vendor nvtx) runtime env {} work).map
          (fun s => (Reading.of (Nvtx.entries s.log)).observations) =
        some ((programTranscript runtime sampleMarker work).map (Event.render id)) ∧
      (afterProgram (Roctx.vendor roctx) runtime env [] work).map
          (fun log => (Reading.of log).observations) =
        some ((programTranscript runtime noSample work).map (Event.render Roctx.createText)) ∧
      ∀ sample ∈ [sampleMarker, noSample], (closings (programTranscript runtime sample work)).Perm
        (List.range' 1 (openings (programTranscript runtime sample work))) := by
  refine ⟨?_, ?_, ?_⟩
  · obtain ⟨w, hw, hobs⟩ := program_records hone (nvtx_samples nvtx runtime) (v := {})
      (Nvtx.initialize_records nvtx) work hclosed
    rw [hw]
    exact congrArg some hobs
  · obtain ⟨w, hw, hobs⟩ := program_records hone (roctx_samples roctx runtime) (v := [])
      (Roctx.initialize_records roctx) work hclosed
    rw [hw]
    exact congrArg some hobs
  · intro sample hs
    apply programTranscript_closings _ hclosed
    intro name
    rcases List.mem_pair.mp hs with rfl | rfl <;> exact ⟨rfl, rfl⟩

/-- `C` has no name of its own, but `dladdr` knows one. -/
def mainSymbols : Runtime where
  dladdr p := if p = mainImage.C then some (some "C", some "taskstubs_main") else none
  cxaDemangle _ := none

theorem program_shown_main :
    (MainC.main completeLibrary (vendorTool (Roctx.vendor Roctx.freshLibrary) mainSymbols) mainImage
          ⟨Process.start (some { vendor := [] }), 0⟩).2.process.tool.map
          (fun s => (Reading.of s.vendor).observations) =
        some ([Event.marker "TaskStubs Initialize", .created "main", .marker "Timer Schedule", .opened "main",
          .closed 1, .created "A", .marker "Timer Schedule", .opened "A", .created "B", .marker "Timer Schedule",
          .opened "B", .closed 3, .created "C [taskstubs_main]", .marker "Timer Schedule",
          .opened "C [taskstubs_main]", .opened "D", .closed 5, .opened "Data Transfer CPU 0,0 -> CPU 0,0", .closed 6,
          .opened "E", .closed 7, .opened "Data Transfer CPU 0,0 -> CPU 0,0", .closed 8, .opened "F", .closed 9,
          .closed 4, .closed 2, .marker "marker event", .opened "main", .closed 10,
          .marker "TaskStubs Finalize"].map (Event.render Roctx.createText)) := by
  have hshown := (program_shown mainSymbols completeLibrary Nvtx.freshLibrary Roctx.freshLibrary
    completeLibrary_supplied (MainC.tree mainImage) (by decide)).2.1
  rw [MainC.main_program]
  rw [afterProgram, Option.map_map] at hshown
  refine hshown.trans ?_
  decide +kernel

end TaskStubs.Examples
