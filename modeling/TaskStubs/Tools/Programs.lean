import TaskStubs.Tools.NvtxTool
import TaskStubs.Tools.RoctxTool
import TaskStubs.Tools.Stubbed

/-! A program that runs with the stub, the loader and one of the two tools: what the vendor's display
shows of it is the record of its calls. -/

namespace TaskStubs.Tools

open Stub Function Library.Machines

variable {V A : Type} {vendor : Vendor V A} {createText : String → String}
  (session : Session vendor createText) (runtime : Runtime)

def Hears (heard : Call Pointer → Option (Call Pointer)) (c : Call Pointer) : Prop :=
  ∀ s r, Records session s r → Option.Rel (Records session) (callback vendor runtime s c)
    ((heard c).elim (some r) (callback recorder runtime r))

lemma callbacks_heard {heard : Call Pointer → Option (Call Pointer)} (calls : List (Call Pointer))
    (hc : ∀ c ∈ calls, Hears session runtime heard c) {s : ToolState V A} {r : ToolState (List Event) Unit}
    (h : Records session s r) : Option.Rel (Records session) (callbacks vendor runtime s calls)
      (callbacks recorder runtime r (calls.filterMap heard)) := by
  rw [callbacks, callbacks, List.foldlM_filterMap]
  refine stuck_together (Records session) calls ?_ h
  intro c hm s r hrec
  have hstep := hc c hm s r hrec
  cases hheard : heard c with
  | none | some => rwa [hheard] at hstep

/-- What the tools look at in a call. No GUID, parent, child, argument or resource is among it. -/
def visible : Call Pointer → Call Pointer
  | .create address name _ _ _ => .create null (some (runtime.timerName address name)) 0 none 0
  | .schedule timer _ _ => .schedule timer null 0
  | .start timer _ => .start timer none
  | .resume timer _ => .resume timer none
  | .addParents .. => .addParents null none 0
  | .addChildren .. => .addChildren null none 0
  | .dataTransferStart _ source _ _ dest _ _ => .dataTransferStart 0 source none null dest none null
  | .dataTransferStop _ => .dataTransferStop 0
  | c => c

section Visible

variable {session} {s : ToolState V A} {r : ToolState (List Event) Unit}

lemma Records.reguid (h : Records session s r) {p : Pointer} {t : Timer Unit} (ht : r.timers p = some t)
    (guid : UInt64) :
    Records session s { r with timers := update r.timers p (some { t with guid := guid }) } := by
  refine ⟨h.ok, h.observations_eq, h.opened_eq, h.next_eq, h.stack_eq, ?_, h.exclusive⟩
  intro q
  change Option.Rel _ (s.timers q) (update r.timers p _ q)
  by_cases hq : q = p
  · subst hq
    have hsame := h.timers q
    rw [ht] at hsame
    rw [update_self]
    generalize s.timers q = x at hsame
    cases hsame with
    | some hsame => exact .some ⟨hsame.name_eq, hsame.doDestroy_eq, hsame.carries, hsame.range⟩
  · rw [update_of_ne hq]
    exact h.timers q

lemma records_newTimer_guids (h : Records session s r) (name : String) (guid guid' : UInt64) (doCreate : Bool) :
    Records session (newTimer vendor name guid doCreate s).1 (newTimer recorder name guid' doCreate r).1 := by
  have hn := (records_newTimer h name guid doCreate).reguid (update_self _ _ _) guid'
  have hidem := update_idem (f := r.timers) (a := r.nextTimer) (some ⟨name, guid, (), 0, doCreate⟩)
    (some (⟨name, guid', (), 0, doCreate⟩ : Timer Unit))
  change Records session _ { (newTimer recorder name guid doCreate r).1 with
    timers := update (update r.timers r.nextTimer _) r.nextTimer _ } at hn
  rwa [hidem] at hn

lemma records_pushTimer_guids (h : Records session s r) (name : String) (guid guid' : UInt64) :
    Option.Rel (Records session) (pushTimer vendor name guid s) (pushTimer recorder name guid' r) := by
  have hn := records_newTimer_guids h name guid guid' false
  have hs := records_openRange (hn.stack (s.nextTimer :: s.timerStack)) s.nextTimer
  rw [pushTimer, pushTimer]
  change Option.Rel _ _ (openRange recorder r.nextTimer
    { (newTimer recorder name guid' false r).1 with timerStack := r.nextTimer :: r.timerStack })
  rw [← h.next_eq, ← h.stack_eq]
  exact hs

end Visible

lemma hears_visible {heard : Call Pointer → Option (Call Pointer)} {c : Call Pointer} (hc : InSession c)
    (hheard : heard c = some (visible runtime c)) : Hears session runtime heard c := by
  intro s r h
  rw [hheard]
  cases c with
  | create address name guid parents count => exact .some (records_newTimer_guids h _ _ _ _)
  | dataTransferStart guid source _ _ dest _ _ =>
    cases source with
    | none => exact .none
    | some source =>
      cases dest with
      | none => exact .none
      | some dest => exact records_pushTimer_guids h _ _ _
  | _ => exact callback_records session runtime h _ hc

variable (vendor) in
def display (entries : V → List Entry) (env : Linker) (v : V) (calls : List (Call Pointer)) :
    Option (List Observation) :=
  (stubbed vendor runtime env v calls).tool.map (fun t => (Reading.of (entries t.vendor)).observations)

lemma display_observed (entries : V → List Entry) {env : Linker} {object : Provider}
    (hone : SuppliedBy env object) (v : V) (calls : List (Call Pointer)) :
    display vendor runtime entries env v calls = observed vendor runtime entries { vendor := v } (fromInitialize calls) := by
  rw [display, stubbed_tool vendor runtime hone]
  rfl

lemma fromInitialize_single {early : List (Call Pointer)} (hearly : .init ∉ early) (body : List (Call Pointer))
    (finished : Bool) : fromInitialize (early ++ singleSession body finished) = singleSession body finished := by
  rw [fromInitialize, List.dropWhile_append_of_pos]
  · simp [singleSession, Call.api]
  · intro c hc
    refine decide_eq_true ?_
    intro hi
    exact hearly (Call.api_eq_init hi ▸ hc)

end TaskStubs.Tools

namespace TaskStubs.Tools.Roctx

open Stub

variable (library : Library) (runtime : Runtime)

/-- ROCTX has no counters. -/
def heard (c : Call Pointer) : Option (Call Pointer) :=
  if c.api = .sampleValue then none else some (visible runtime c)

lemma hears (c : Call Pointer) : Hears (session library) runtime (heard runtime) c := by
  by_cases hc : InSession c
  · exact hears_visible _ _ hc (if_neg hc.2.2)
  rw [InSession] at hc
  intro s r h
  cases c with
  | init => exact .some (h.grow_mark ((session library).doMarker _ _ trivial) rfl)
  | finalize => exact .some (h.grow_mark ((session library).doMarker _ _ trivial) rfl)
  | sampleValue name value => exact .some h
  | _ => exact absurd (by simp [Call.api]) hc

theorem display_is_record (env : Linker) {object : Provider} (hone : SuppliedBy env object)
    (calls : List (Call Pointer)) :
    display (vendor library) runtime (fun log => log) env [] calls =
      (recorded runtime ((fromInitialize calls).filterMap (heard runtime))).map
        (List.map (Event.render createText)) := by
  rw [display_observed runtime _ hone]
  apply observed_of_rel (session library)
  exact callbacks_heard _ runtime _ (fun c _ => hears library runtime c) (start_records library)

def twoSessions : List (Call Pointer) :=
  [.commandStart (some "unheard"), .init, .create null (some "task") 1 none 0, .sampleValue none 7, .start 1 none,
    .finalize, .init, .stop 1, .start 1 none, .destroy 1]

theorem display_is_record_two_sessions :
    display (vendor freshLibrary) noSymbols (fun log => log) completeLibrary [] twoSessions =
        (recorded noSymbols ((fromInitialize twoSessions).filterMap (heard noSymbols))).map
          (List.map (Event.render createText)) ∧
      recorded noSymbols ((fromInitialize twoSessions).filterMap (heard noSymbols)) =
        some [.marker "TaskStubs Initialize", .created "task", .opened "task", .marker "TaskStubs Finalize",
          .marker "TaskStubs Initialize", .closed 1, .opened "task", .marker "Timer Destroy"] := by
  refine ⟨?_, by decide +kernel⟩
  exact display_is_record freshLibrary noSymbols completeLibrary completeLibrary_supplied twoSessions

end TaskStubs.Tools.Roctx

namespace TaskStubs.Tools.Nvtx

open Stub

variable (library : Library) (runtime : Runtime)

/-- A sample shows as a marker with its name; its value is a payload. -/
def heard : Call Pointer → Option (Call Pointer)
  | .sampleValue name _ => some (.mark name)
  | c => some (visible runtime c)

lemma sampleValue_records {s : ToolState State EventAttributes} {r : ToolState (List Event) Unit}
    (h : Records (session library) s r) (name : Option String) (value : UInt64) :
    Option.Rel (Records (session library)) (callback (vendor library) runtime s (.sampleValue name value))
      (callback recorder runtime r (.mark name)) := by
  cases name with
  | none => exact .none
  | some name =>
    obtain ⟨hr, hm⟩ := registerString_steps library h.ok name
    have hmark := doMarker_steps library hr.ok name name
      { version := library.version, size := library.structSize, messageType := .registered
        message := (registerString library name s.vendor).2, payloadType := .double, payload := value }
      (Or.inr ⟨library.version_ne_zero, rfl, hm⟩)
    exact .some (h.grow_mark (hr.trans hmark) rfl)

lemma hears (c : Call Pointer) (hinit : c.api ≠ .init) (hfinal : c.api ≠ .finalize) :
    Hears (session library) runtime (heard runtime) c := by
  cases c with
  | init => exact absurd rfl hinit
  | finalize => exact absurd rfl hfinal
  | sampleValue name value =>
    intro s r h
    exact sampleValue_records library runtime h name value
  | _ => exact hears_visible _ _ (by simp [InSession, Call.api]) rfl

lemma callbacks_heard_single (body : List (Call Pointer)) (hinit : .init ∉ body) (hfinal : .finalize ∉ body)
    (finished : Bool) : Option.Rel (Records (session library))
      (callbacks (vendor library) runtime { vendor := {} } (singleSession body finished))
      (callbacks recorder runtime { vendor := [] } ((singleSession body finished).filterMap (heard runtime))) := by
  have hbody : (singleSession body finished).filterMap (heard runtime) =
      singleSession (body.filterMap (heard runtime)) finished := by
    cases finished <;> simp [singleSession, heard, visible]
  have hhears : ∀ c ∈ body, Hears (session library) runtime (heard runtime) c := by
    intro c hc
    refine hears library runtime c ?_ ?_
    · intro hi
      exact hinit (Call.api_eq_init hi ▸ hc)
    · intro hf
      exact hfinal (Call.api_eq_finalize hf ▸ hc)
  have hrel := callbacks_heard (session library) runtime body hhears (initialize_records library)
  rw [hbody, callbacks_singleSession, callbacks_singleSession]
  change Option.Rel _ ((callbacks (vendor library) runtime { vendor := initializeTool library {} } body).bind _)
    ((callbacks recorder runtime { vendor := [.marker "TaskStubs Initialize"] }
      (body.filterMap (heard runtime))).bind _)
  generalize callbacks (vendor library) runtime { vendor := initializeTool library {} } body = x at hrel
  generalize callbacks recorder runtime _ (body.filterMap (heard runtime)) = y at hrel
  cases hrel with
  | none => exact .none
  | some h =>
    cases finished with
    | false => exact .some h
    | true => exact .some (h.grow_mark ((session library).finalizeTool _ h.ok) rfl)

theorem session_display_is_record (env : Linker) {object : Provider} (hone : SuppliedBy env object)
    (early body : List (Call Pointer)) (hearly : .init ∉ early) (hinit : .init ∉ body)
    (hfinal : .finalize ∉ body) (finished : Bool) :
    display (vendor library) runtime (fun s => entries s.log) env {} (early ++ singleSession body finished) =
      (recorded runtime ((singleSession body finished).filterMap (heard runtime))).map
        (List.map (Event.render id)) := by
  rw [display_observed runtime _ hone, fromInitialize_single hearly]
  apply observed_of_rel (session library)
  exact callbacks_heard_single library runtime body hinit hfinal finished

def loadedTask : List (Call Pointer) :=
  [.create null (some "task") 1 none 0, .start 1 none, .sampleValue (some "load") 7, .stop 1]

theorem session_display_is_record_loadedTask :
    display (vendor freshLibrary) noSymbols (fun s => entries s.log) completeLibrary {}
          ([.mark none] ++ singleSession loadedTask true) =
        (recorded noSymbols ((singleSession loadedTask true).filterMap (heard noSymbols))).map
          (List.map (Event.render id)) ∧
      recorded noSymbols ((singleSession loadedTask true).filterMap (heard noSymbols)) =
        some [.marker "TaskStubs Initialize", .created "task", .opened "task", .marker "load", .closed 1,
          .marker "TaskStubs Finalize"] := by
  refine ⟨?_, by decide +kernel⟩
  exact session_display_is_record freshLibrary noSymbols completeLibrary completeLibrary_supplied [.mark none]
    loadedTask (by decide) (by decide) (by decide) true

end TaskStubs.Tools.Nvtx
