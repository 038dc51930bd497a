import TaskStubs.Tools.TimerTool

/-! The texts that the callbacks of a tool are to show, one for each marker and each range. -/

namespace TaskStubs.Tools

open Stub Function

variable {V A : Type} (vendor : Vendor V A) (runtime : Runtime)

def rangeText (s : ToolState V A) (p : Pointer) : List String :=
  match s.timers p with
  | some timer => if timer.rangeId = 0 then [timer.name] else []
  | none => []

def destroyText (s : ToolState V A) (p : Pointer) : List String :=
  if p = null then []
  else
    match s.timers p with
    | some timer => if timer.doDestroy then ["Timer Destroy"] else []
    | none => []

/-- The texts that a callback is to show. The marker of a new timer carries the timer's own text. -/
def shown (s : ToolState V A) : Call Pointer → List String
  | .init => ["TaskStubs Initialize"]
  | .finalize => ["TaskStubs Finalize"]
  | .create address name _ _ _ => [runtime.timerName address name]
  | .schedule .. => ["Timer Schedule"]
  | .start timer _ => rangeText s timer
  | .yield _ => []
  | .resume timer _ => rangeText s timer
  | .stop _ => []
  | .destroy timer => destroyText s timer
  | .addParents .. => ["Timer Add Parents"]
  | .addChildren .. => ["Timer Add Children"]
  | .dataTransferStart _ (some source) _ _ (some dest) _ _ =>
    ["Data Transfer " ++ getSpace source ++ " -> " ++ getSpace dest]
  | .dataTransferStart .. => []
  | .dataTransferStop _ => []
  | .commandStart typeName => typeName.toList
  | .commandStop => []
  | .sampleValue name _ => name.toList
  | .mark label => label.toList

def texts (s : ToolState V A) : List (Call Pointer) → List String
  | [] => []
  | c :: calls =>
    shown runtime s c ++ ((callback vendor runtime s c).map (fun s => texts s calls)).getD []

lemma texts_append {s s' : ToolState V A} {first : List (Call Pointer)}
    (h : callbacks vendor runtime s first = some s') (second : List (Call Pointer)) :
    texts vendor runtime s (first ++ second) =
      texts vendor runtime s first ++ texts vendor runtime s' second := by
  induction first generalizing s with
  | nil =>
    cases h
    rfl
  | cons c first ih =>
    obtain ⟨t, ht, h⟩ := callbacks_cons.mp h
    rw [List.cons_append, texts, texts, ht]
    simp only [Option.map_some, Option.getD_some]
    rw [ih h, List.append_assoc]

/-- `Shows v v' texts`: the operations that lead from `v` to `v'` show `texts`, where the attributes
they get were made for their names. -/
structure Captions (Ok : V → Prop) (Carries : V → String → A → Prop)
    (Shows : V → V → List String → Prop) : Prop where
  refl : ∀ v, Ok v → Shows v v []
  trans : ∀ u v w first second, Shows u v first → Shows v w second → Shows u w (first ++ second)
  ok : ∀ v v' texts, Shows v v' texts → Ok v'
  carries : ∀ v v' texts name attributes, Shows v v' texts → Carries v name attributes →
    Carries v' name attributes
  construct : ∀ v name guid, Ok v → Shows v (vendor.construct name guid v).1 [] ∧
    Carries (vendor.construct name guid v).1 name (vendor.construct name guid v).2
  markCreate : ∀ v name attributes, Ok v → Carries v name attributes →
    Shows v (vendor.markCreate name attributes v) [name]
  doMarker : ∀ v text, Ok v → Shows v (vendor.doMarker text v) [text]
  rangeStart : ∀ v name attributes, Ok v → Carries v name attributes →
    Shows v (vendor.rangeStart name attributes v).1 [name]
  rangeStop : ∀ v id, Ok v → Shows v (vendor.rangeStop id v) []
  sampleValue : ∀ v v' name value, Ok v → vendor.sampleValue name value v = some v' →
    Shows v v' name.toList

structure Labelled (Ok : V → Prop) (Carries : V → String → A → Prop) (s : ToolState V A) : Prop where
  ok : Ok s.vendor
  carries : ∀ p timer, s.timers p = some timer → Carries s.vendor timer.name timer.attributes

section Callbacks

variable {vendor} {s s' : ToolState V A} {Ok : V → Prop} {Carries : V → String → A → Prop}
  {Shows : V → V → List String → Prop}

lemma Labelled.step (h : Captions vendor Ok Carries Shows)
    (hs : Labelled Ok Carries s) {v : V} {new : List String} (hv : Shows s.vendor v new) :
    Labelled Ok Carries { s with vendor := v } := by
  refine ⟨h.ok _ _ _ hv, ?_⟩
  intro p timer hp
  exact h.carries _ _ _ _ _ hv (hs.carries p timer hp)

lemma Labelled.set (hs : Labelled Ok Carries s) (p : Pointer)
    {timer : Option (Timer A)}
    (ht : ∀ t, timer = some t → Carries s.vendor t.name t.attributes) :
    Labelled Ok Carries { s with timers := update s.timers p timer } := by
  refine ⟨hs.ok, ?_⟩
  intro q t hq
  change update s.timers p timer q = some t at hq
  by_cases h : q = p
  · subst h
    rw [update_self] at hq
    exact ht t hq
  · rw [update_of_ne h] at hq
    exact hs.carries q t hq

lemma Labelled.stack (hs : Labelled Ok Carries s) (stack : List Pointer) :
    Labelled Ok Carries { s with timerStack := stack } := ⟨hs.ok, hs.carries⟩

variable (h : Captions vendor Ok Carries Shows)
include h

lemma newTimer_shows (hs : Labelled Ok Carries s) (name : String) (guid : UInt64)
    (doCreate : Bool) :
    Shows s.vendor (newTimer vendor name guid doCreate s).1.vendor (if doCreate then [name] else []) ∧
      Labelled Ok Carries (newTimer vendor name guid doCreate s).1 := by
  obtain ⟨hc, ha⟩ := h.construct s.vendor name guid hs.ok
  have hm : Shows s.vendor (newTimer vendor name guid doCreate s).1.vendor
        (if doCreate then [name] else []) ∧
      Carries (newTimer vendor name guid doCreate s).1.vendor name
        (vendor.construct name guid s.vendor).2 := by
    cases doCreate with
    | false => exact ⟨hc, ha⟩
    | true =>
      have hmark := h.markCreate _ name _ (h.ok _ _ _ hc) ha
      exact ⟨h.trans _ _ _ _ _ hc hmark, h.carries _ _ _ _ _ hmark ha⟩
  have ht (t : Timer A) (heq : some ⟨name, guid, (vendor.construct name guid s.vendor).2, 0, doCreate⟩ =
      some t) : Carries (newTimer vendor name guid doCreate s).1.vendor t.name t.attributes := by
    cases heq
    exact hm.2
  have hl := (hs.step h hm.1).set s.nextTimer ht
  exact ⟨hm.1, hl.ok, hl.carries⟩

lemma mark_shows (hs : Labelled Ok Carries s) (text : String) :
    Shows s.vendor (mark vendor text s).vendor [text] ∧ Labelled Ok Carries (mark vendor text s) := by
  have hm := h.doMarker s.vendor text hs.ok
  exact ⟨hm, hs.step h hm⟩

lemma openRange_shows (hs : Labelled Ok Carries s) {p : Pointer}
    (hopen : openRange vendor p s = some s') :
    Shows s.vendor s'.vendor (rangeText s p) ∧ Labelled Ok Carries s' := by
  obtain ⟨t, ht, ⟨hz, rfl⟩ | ⟨hz, rfl⟩⟩ := openRange_cases hopen
  · have hr := h.rangeStart s.vendor t.name t.attributes hs.ok (hs.carries p t ht)
    refine ⟨by simpa only [rangeText, ht, if_pos hz] using hr, (hs.step h hr).set p ?_⟩
    rintro _ ⟨⟩
    exact h.carries _ _ _ _ _ hr (hs.carries p t ht)
  · exact ⟨by simpa only [rangeText, ht, if_neg hz] using h.refl _ hs.ok, hs⟩

lemma closeRange_shows (hs : Labelled Ok Carries s) {p : Pointer}
    (hclose : closeRange vendor p s = some s') :
    Shows s.vendor s'.vendor [] ∧ Labelled Ok Carries s' := by
  obtain ⟨t, ht, ⟨-, rfl⟩ | ⟨-, rfl⟩⟩ := closeRange_cases hclose
  · have hr := h.rangeStop s.vendor t.rangeId hs.ok
    refine ⟨hr, (hs.step h hr).set p ?_⟩
    rintro _ ⟨⟩
    exact h.carries _ _ _ _ _ hr (hs.carries p t ht)
  · exact ⟨h.refl _ hs.ok, hs⟩

lemma deleteTimer_shows (hs : Labelled Ok Carries s) {p : Pointer}
    (hdelete : deleteTimer vendor p s = some s') :
    Shows s.vendor s'.vendor (destroyText s p) ∧ Labelled Ok Carries s' := by
  obtain ⟨hp, rfl⟩ | ⟨hp, t, ht, rfl⟩ := deleteTimer_cases hdelete
  · exact ⟨by simpa only [destroyText, if_pos hp] using h.refl _ hs.ok, hs⟩
  · have hm : Shows s.vendor (if t.doDestroy then vendor.doMarker "Timer Destroy" s.vendor
        else s.vendor) (if t.doDestroy then ["Timer Destroy"] else []) := by
      split_ifs
      · exact h.doMarker _ _ hs.ok
      · exact h.refl _ hs.ok
    refine ⟨by simpa only [destroyText, if_neg hp, ht] using hm, (hs.step h hm).set p ?_⟩
    rintro _ ⟨⟩

lemma pushTimer_shows (hs : Labelled Ok Carries s) {name : String} {guid : UInt64}
    (hpush : pushTimer vendor name guid s = some s') :
    Shows s.vendor s'.vendor [name] ∧ Labelled Ok Carries s' := by
  obtain ⟨hn, hl⟩ := newTimer_shows h hs name guid false
  obtain ⟨ho, hs'⟩ := openRange_shows h (hl.stack (s.nextTimer :: s.timerStack)) hpush
  have htext : rangeText { (newTimer vendor name guid false s).1 with
      timerStack := s.nextTimer :: s.timerStack } s.nextTimer = [name] := by
    simp [rangeText, newTimer]
  rw [htext] at ho
  exact ⟨h.trans _ _ _ _ _ hn ho, hs'⟩

lemma popTimer_shows (hs : Labelled Ok Carries s) (hpop : popTimer vendor s = some s') :
    Shows s.vendor s'.vendor [] ∧ Labelled Ok Carries s' := by
  obtain ⟨p, rest, -, hclose⟩ := popTimer_cases hpop
  have hc := closeRange_shows h (hs.stack rest) hclose
  exact hc

lemma callback_shows {c : Call Pointer}
    (hinit : c = .init → Shows s.vendor (vendor.initializeTool s.vendor) ["TaskStubs Initialize"])
    (hfinal : c = .finalize → Shows s.vendor (vendor.finalizeTool s.vendor) ["TaskStubs Finalize"])
    (hs : Labelled Ok Carries s) (hcall : callback vendor runtime s c = some s') :
    Shows s.vendor s'.vendor (shown runtime s c) ∧ Labelled Ok Carries s' := by
  cases c with
  | init =>
    cases hcall
    exact ⟨hinit rfl, hs.step h (hinit rfl)⟩
  | finalize =>
    cases hcall
    exact ⟨hfinal rfl, hs.step h (hfinal rfl)⟩
  | create address name id _ _ =>
    cases hcall
    exact newTimer_shows h hs _ id true
  | schedule timer arguments count =>
    obtain rfl := schedule_cases hcall
    exact mark_shows h hs _
  | start timer resource => exact openRange_shows h hs hcall
  | yield timer => exact closeRange_shows h hs hcall
  | resume timer resource => exact openRange_shows h hs hcall
  | stop timer => exact closeRange_shows h hs hcall
  | destroy timer => exact deleteTimer_shows h hs hcall
  | addParents | addChildren =>
    cases hcall
    exact mark_shows h hs _
  | dataTransferStart guid source _ _ dest _ _ =>
    obtain ⟨source, dest, rfl, rfl, hp⟩ := dataTransferStart_cases hcall
    exact pushTimer_shows h hs hp
  | dataTransferStop guid => exact popTimer_shows h hs hcall
  | commandStart name =>
    obtain ⟨name, rfl, hp⟩ := commandStart_cases hcall
    exact pushTimer_shows h hs hp
  | commandStop => exact popTimer_shows h hs hcall
  | sampleValue name value =>
    obtain ⟨v, hv, rfl⟩ := Option.map_eq_some_iff.mp hcall
    have hm := h.sampleValue _ _ _ _ hs.ok hv
    exact ⟨hm, hs.step h hm⟩
  | mark label =>
    obtain ⟨text, rfl, rfl⟩ := mark_cases hcall
    exact mark_shows h hs text

lemma callbacks_shows {calls : List (Call Pointer)}
    (hinit : .init ∈ calls → ∀ v, Ok v →
      Shows v (vendor.initializeTool v) ["TaskStubs Initialize"])
    (hfinal : .finalize ∈ calls → ∀ v, Ok v →
      Shows v (vendor.finalizeTool v) ["TaskStubs Finalize"])
    (hs : Labelled Ok Carries s) (hrun : callbacks vendor runtime s calls = some s') :
    Shows s.vendor s'.vendor (texts vendor runtime s calls) ∧ Labelled Ok Carries s' := by
  induction calls generalizing s with
  | nil =>
    cases hrun
    exact ⟨h.refl _ hs.ok, hs⟩
  | cons c calls ih =>
    obtain ⟨t, ht, hrun⟩ := callbacks_cons.mp hrun
    obtain ⟨hfirst, hl⟩ := callback_shows runtime h
      (fun hc => hinit (hc ▸ List.mem_cons_self) _ hs.ok)
      (fun hc => hfinal (hc ▸ List.mem_cons_self) _ hs.ok) hs ht
    obtain ⟨hrest, hl'⟩ := ih (fun hi => hinit (List.mem_cons_of_mem _ hi))
      (fun hf => hfinal (List.mem_cons_of_mem _ hf)) hl hrun
    refine ⟨?_, hl'⟩
    rw [texts, ht]
    exact h.trans _ _ _ _ _ hfirst hrest

end Callbacks

end TaskStubs.Tools
