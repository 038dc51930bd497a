import TaskStubs.Tools.NvtxTool
import TaskStubs.Tools.RoctxTool

/-! The two tools against each other. -/

namespace TaskStubs.Tools

open Stub Function

def creations (events : List Event) : ℕ := events.countP (fun e => e matches .created _)

lemma creations_append (first second : List Event) :
    creations (first ++ second) = creations first + creations second :=
  List.countP_append

variable (runtime : Runtime)

section Steps

variable {r r' : ToolState (List Event) Unit}

lemma creations_newTimer (name : String) (guid : UInt64) (doCreate : Bool) :
    creations (newTimer recorder name guid doCreate r).1.vendor =
      creations r.vendor + if doCreate then 1 else 0 := by
  cases doCreate with
  | false => rfl
  | true => exact creations_append _ _

lemma creations_openRange {p : Pointer} (h : openRange recorder p r = some r') :
    creations r'.vendor = creations r.vendor := by
  obtain ⟨t, -, ⟨-, rfl⟩ | ⟨-, rfl⟩⟩ := openRange_cases h
  · exact creations_append _ _
  · rfl

lemma creations_closeRange {p : Pointer} (h : closeRange recorder p r = some r') :
    creations r'.vendor = creations r.vendor := by
  obtain ⟨t, -, ⟨-, rfl⟩ | ⟨-, rfl⟩⟩ := closeRange_cases h
  · exact creations_append _ _
  · rfl

lemma creations_deleteTimer {p : Pointer} (h : deleteTimer recorder p r = some r') :
    creations r'.vendor = creations r.vendor := by
  obtain ⟨-, rfl⟩ | ⟨-, timer, -, rfl⟩ := deleteTimer_cases h
  · rfl
  · cases timer.doDestroy with
    | false => rfl
    | true => exact creations_append _ _

lemma creations_mark (text : String) :
    creations (mark recorder text r).vendor = creations r.vendor :=
  creations_append _ _

lemma creations_pushTimer {name : String} {guid : UInt64}
    (h : pushTimer recorder name guid r = some r') : creations r'.vendor = creations r.vendor := by
  rw [pushTimer] at h
  exact (creations_openRange h).trans (creations_newTimer name guid false)

lemma creations_popTimer (h : popTimer recorder r = some r') :
    creations r'.vendor = creations r.vendor := by
  obtain ⟨p, rest, -, hclose⟩ := popTimer_cases h
  have hc := creations_closeRange hclose
  exact hc

lemma creations_callback {c : Call Pointer} (h : callback recorder runtime r c = some r') :
    creations r'.vendor = creations r.vendor + if c.api = .create then 1 else 0 := by
  cases c with
  | init =>
    obtain rfl := Option.some.inj h
    exact creations_append _ _
  | finalize =>
    obtain rfl := Option.some.inj h
    exact creations_append _ _
  | create address name guid parents count =>
    obtain rfl := Option.some.inj h
    exact creations_newTimer _ _ true
  | schedule timer arguments count =>
    obtain rfl := schedule_cases h
    exact creations_mark _
  | start timer resource => exact creations_openRange h
  | yield timer => exact creations_closeRange h
  | resume timer resource => exact creations_openRange h
  | stop timer => exact creations_closeRange h
  | destroy timer => exact creations_deleteTimer h
  | addParents timer parents count =>
    obtain rfl := Option.some.inj h
    exact creations_mark _
  | addChildren timer children count =>
    obtain rfl := Option.some.inj h
    exact creations_mark _
  | dataTransferStart guid source sourceName sourcePtr dest destName destPtr =>
    obtain ⟨_, _, -, -, hp⟩ := dataTransferStart_cases h
    exact creations_pushTimer hp
  | dataTransferStop guid => exact creations_popTimer h
  | commandStart name =>
    obtain ⟨_, -, hp⟩ := commandStart_cases h
    exact creations_pushTimer hp
  | commandStop => exact creations_popTimer h
  | sampleValue name value =>
    obtain rfl := Option.some.inj h
    rfl
  | mark label =>
    obtain ⟨_, -, rfl⟩ := mark_cases h
    exact creations_mark _

end Steps

lemma creations_callbacks (calls : List (Call Pointer)) {r r' : ToolState (List Event) Unit}
    (h : callbacks recorder runtime r calls = some r') :
    creations r'.vendor = creations r.vendor + calls.countP (fun c => c.api = .create) := by
  induction calls generalizing r with
  | nil =>
    obtain rfl := Option.some.inj h
    rfl
  | cons c calls ih =>
    obtain ⟨r₁, hr, h⟩ := callbacks_cons.mp h
    rw [ih h, creations_callback runtime hr, List.countP_cons]
    simp only [decide_eq_true_eq]
    omega

lemma createText_ne (name : String) : name ≠ Roctx.createText name := by
  intro h
  have hl := congrArg String.length h
  rw [Roctx.createText, String.length_append, String.length_append] at hl
  have hc : "Timer Create".length = 12 := by decide
  omega

lemma render_eq_iff (events : List Event) :
    events.map (Event.render id) = events.map (Event.render Roctx.createText) ↔
      creations events = 0 := by
  rw [List.map_inj_left, creations, List.countP_eq_zero]
  refine forall_congr' fun e => imp_congr_right fun _ => ?_
  cases e with
  | created name => simpa [Event.render] using createText_ne name
  | _ => simp [Event.render]

theorem tools_agree_iff (nvtx : Nvtx.Library) (roctx : Roctx.Library) (body : List (Call Pointer))
    (hbody : ∀ c ∈ body, InSession c) (finished : Bool) :
    let calls := singleSession body finished
    ((Nvtx.observed nvtx runtime calls).isSome ↔ (Roctx.observed roctx runtime calls).isSome) ∧
      ((Roctx.observed roctx runtime calls).isSome →
        (Nvtx.observed nvtx runtime calls = Roctx.observed roctx runtime calls ↔
          ∀ c ∈ body, c.api ≠ .create)) := by
  intro calls
  have hn : Nvtx.observed nvtx runtime calls =
      (recorded runtime calls).map (List.map (Event.render id)) :=
    session_observed (v := {}) (Nvtx.session nvtx) runtime (Nvtx.initialize_records nvtx) body hbody
      finished
  have hr : Roctx.observed roctx runtime calls =
      (recorded runtime calls).map (List.map (Event.render Roctx.createText)) :=
    session_observed (v := []) (Roctx.session roctx) runtime (Roctx.initialize_records roctx) body
      hbody finished
  rw [hn, hr, recorded]
  cases he : callbacks recorder runtime { vendor := [] } calls with
  | none => simp
  | some r =>
    have hc := creations_callbacks runtime calls he
    have hb : calls.countP (fun c => c.api = .create) = body.countP (fun c => c.api = .create) := by
      cases finished <;> simp [calls, singleSession, Call.api]
    have hz : creations r.vendor = 0 ↔ ∀ c ∈ body, c.api ≠ .create := by
      rw [hc, hb, show creations [] = 0 from rfl, Nat.zero_add, List.countP_eq_zero]
      simp
    refine ⟨iff_of_true rfl rfl, fun _ => ?_⟩
    change some (r.vendor.map _) = some (r.vendor.map _) ↔ _
    rw [Option.some.injEq, render_eq_iff, hz]

theorem tools_agree_iff_command :
    let body : List (Call Pointer) := [.commandStart (some "kernel"), .commandStop]
    let calls := singleSession body true
    (∀ c ∈ body, InSession c) ∧
      ((Nvtx.observed Nvtx.freshLibrary noSymbols calls).isSome ↔
          (Roctx.observed Roctx.freshLibrary noSymbols calls).isSome) ∧
        ((Roctx.observed Roctx.freshLibrary noSymbols calls).isSome →
          (Nvtx.observed Nvtx.freshLibrary noSymbols calls =
              Roctx.observed Roctx.freshLibrary noSymbols calls ↔ ∀ c ∈ body, c.api ≠ .create)) :=
  have hbody : ∀ c ∈ ([.commandStart (some "kernel"), .commandStop] : List (Call Pointer)),
      InSession c := by
    simp [InSession, Call.api]
  ⟨hbody, tools_agree_iff noSymbols Nvtx.freshLibrary Roctx.freshLibrary _ hbody true⟩

theorem creation_disagrees :
    Nvtx.observed Nvtx.freshLibrary noSymbols (singleSession [.create null (some "a") 1 none 0] true) =
        some [.mark (some "TaskStubs Initialize"), .mark (some "a"), .mark (some "TaskStubs Finalize")] ∧
      Roctx.observed Roctx.freshLibrary noSymbols
          (singleSession [.create null (some "a") 1 none 0] true) =
        some [.mark (some "TaskStubs Initialize"), .mark (some "Timer Create:a"),
          .mark (some "TaskStubs Finalize")] := by
  decide

end TaskStubs.Tools
