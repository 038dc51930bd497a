import TaskStubs.Library.Machines
import TaskStubs.Tools.Observations

/-! What a tool is for: a record of what happens to its timers, where every range knows which opening
it is. A vendor's library that keeps to its documentation turns the tool into this recorder. -/

namespace TaskStubs.Tools

open Stub Function Library.Machines

inductive Event where
  | created (name : String)
  | marker (text : String)
  | opened (text : String)
  | closed (opening : ℕ)
  deriving DecidableEq

def openings (events : List Event) : ℕ := events.countP (fun e => e matches .opened _)

/-- The vendor that only takes notes: the id of a range is the number of its opening. -/
def recorder : Vendor (List Event) Unit where
  initializeTool events := events ++ [.marker "TaskStubs Initialize"]
  finalizeTool events := events ++ [.marker "TaskStubs Finalize"]
  construct _ _ events := (events, ())
  markCreate name _ events := events ++ [.created name]
  doMarker text events := events ++ [.marker text]
  rangeStart name _ events := (events ++ [.opened name], openings events + 1)
  rangeStop opening events := events ++ [.closed opening]
  sampleValue _ _ events := some events

def Event.render (createText : String → String) : Event → Observation
  | .created name => .mark (some (createText name))
  | .marker text => .mark (some text)
  | .opened text => .rangeStart (some text)
  | .closed opening => .rangeEnd (some opening)

structure Grows {V A : Type} (entries : V → List Entry) (Ok : V → Prop) (Carries : V → String → A → Prop)
    (v v' : V) (new : List Entry) : Prop where
  ok : Ok v'
  entries_eq : entries v' = entries v ++ new
  carries : ∀ name attributes, Carries v name attributes → Carries v' name attributes

lemma Grows.trans {V A : Type} {entries : V → List Entry} {Ok : V → Prop}
    {Carries : V → String → A → Prop} {u v w : V} {first second : List Entry}
    (h : Grows entries Ok Carries u v first) (h' : Grows entries Ok Carries v w second) :
    Grows entries Ok Carries u w (first ++ second) :=
  ⟨h'.ok, by rw [h'.entries_eq, h.entries_eq, List.append_assoc],
    fun name attributes hc => h'.carries name attributes (h.carries name attributes hc)⟩

/-- A vendor within a session: attributes carry the name they were made for, and the id of a new range
is not 0 and not the id of an open range. -/
structure Session {V A : Type} (vendor : Vendor V A) (createText : String → String) where
  entries : V → List Entry
  Ok : V → Prop
  Carries : V → String → A → Prop
  construct : ∀ v name guid, Ok v →
    Grows entries Ok Carries v (vendor.construct name guid v).1 [] ∧
      Carries (vendor.construct name guid v).1 name (vendor.construct name guid v).2
  markCreate : ∀ v name attributes, Ok v → Carries v name attributes →
    Grows entries Ok Carries v (vendor.markCreate name attributes v) [.mark (some (createText name))]
  doMarker : ∀ v text, Ok v →
    Grows entries Ok Carries v (vendor.doMarker text v) [.mark (some text)]
  rangeStart : ∀ v name attributes, Ok v → Carries v name attributes →
    Grows entries Ok Carries v (vendor.rangeStart name attributes v).1
        [.rangeStart (some name) (vendor.rangeStart name attributes v).2] ∧
      (vendor.rangeStart name attributes v).2 ≠ 0 ∧
      ∀ range ∈ (Reading.of (entries v)).openRanges,
        range.1 ≠ (vendor.rangeStart name attributes v).2
  rangeStop : ∀ v id, Ok v → Grows entries Ok Carries v (vendor.rangeStop id v) [.rangeStop id]
  finalizeTool : ∀ v, Ok v →
    Grows entries Ok Carries v (vendor.finalizeTool v) [.mark (some "TaskStubs Finalize")]

section Simulation

variable {V A : Type} {vendor : Vendor V A} {createText : String → String}
  (session : Session vendor createText)

def Session.reading (v : V) : Reading := Reading.of (session.entries v)

structure SameTimer (v : V) (timer : Timer A) (record : Timer Unit) : Prop where
  name_eq : timer.name = record.name
  doDestroy_eq : timer.doDestroy = record.doDestroy
  carries : session.Carries v timer.name timer.attributes
  range : timer.rangeId = 0 ∧ record.rangeId = 0 ∨
    timer.rangeId ≠ 0 ∧ record.rangeId ≠ 0 ∧
      (session.reading v).openRanges.lookup timer.rangeId = some record.rangeId

structure Records (s : ToolState V A) (r : ToolState (List Event) Unit) : Prop where
  ok : session.Ok s.vendor
  observations_eq : (session.reading s.vendor).observations = r.vendor.map (Event.render createText)
  opened_eq : (session.reading s.vendor).opened = openings r.vendor
  next_eq : s.nextTimer = r.nextTimer
  stack_eq : s.timerStack = r.timerStack
  timers : ∀ p, Option.Rel (SameTimer session s.vendor) (s.timers p) (r.timers p)
  exclusive : ∀ p q t u, s.timers p = some t → s.timers q = some u → t.rangeId ≠ 0 →
    t.rangeId = u.rangeId → p = q

lemma reading_grows {v v' : V} {new : List Entry}
    (h : Grows session.entries session.Ok session.Carries v v' new) :
    session.reading v' = new.foldl Reading.read (session.reading v) := by
  rw [Session.reading, h.entries_eq, Reading.of_append]
  rfl

variable {session} {s : ToolState V A} {r : ToolState (List Event) Unit}

lemma Records.timer_cases (h : Records session s r) (p : Pointer) :
    s.timers p = none ∧ r.timers p = none ∨
      ∃ t u, s.timers p = some t ∧ r.timers p = some u ∧ SameTimer session s.vendor t u := by
  have ht := h.timers p
  generalize s.timers p = timer at ht
  generalize r.timers p = record at ht
  cases ht with
  | none => exact Or.inl ⟨rfl, rfl⟩
  | some ht => exact Or.inr ⟨_, _, rfl, rfl, ht⟩

lemma Records.grow (h : Records session s r) (events : List Event) {v : V} {new : List Entry}
    (hg : Grows session.entries session.Ok session.Carries s.vendor v new)
    (hobs : (session.reading v).observations = events.map (Event.render createText))
    (hopened : (session.reading v).opened = openings events)
    (hlookup : ∀ p t, s.timers p = some t → t.rangeId ≠ 0 →
      (session.reading v).openRanges.lookup t.rangeId =
        (session.reading s.vendor).openRanges.lookup t.rangeId) :
    Records session { s with vendor := v } { r with vendor := events } := by
  refine ⟨hg.ok, hobs, hopened, h.next_eq, h.stack_eq, ?_, h.exclusive⟩
  intro p
  change Option.Rel (SameTimer session v) (s.timers p) (r.timers p)
  obtain ⟨hs, hr⟩ | ⟨t, u, hs, hr, ht⟩ := h.timer_cases p
  · rw [hs, hr]
    exact .none
  · rw [hs, hr]
    refine .some ⟨ht.name_eq, ht.doDestroy_eq, hg.carries _ _ ht.carries, ?_⟩
    obtain hz | ⟨hn, hm, hl⟩ := ht.range
    · exact Or.inl hz
    · exact Or.inr ⟨hn, hm, (hlookup p t hs hn).trans hl⟩

lemma Records.set (h : Records session s r) (p : Pointer) {t : Option (Timer A)}
    {u : Option (Timer Unit)} (htu : Option.Rel (SameTimer session s.vendor) t u)
    (hx : ∀ t', t = some t' → t'.rangeId ≠ 0 → ∀ q u', q ≠ p → s.timers q = some u' →
      t'.rangeId ≠ u'.rangeId) :
    Records session { s with timers := update s.timers p t } { r with timers := update r.timers p u } := by
  refine ⟨h.ok, h.observations_eq, h.opened_eq, h.next_eq, h.stack_eq, ?_, ?_⟩
  · intro q
    by_cases hq : q = p
    · subst hq
      simpa only [update_self] using htu
    · simpa only [update_of_ne hq] using h.timers q
  · intro a b t' u' ha hb hne heq
    change update s.timers p t a = some t' at ha
    change update s.timers p t b = some u' at hb
    by_cases hap : a = p <;> by_cases hbp : b = p
    · rw [hap, hbp]
    · subst hap
      rw [update_self] at ha
      rw [update_of_ne hbp] at hb
      exact absurd heq (hx t' ha hne b u' hbp hb)
    · subst hbp
      rw [update_self] at hb
      rw [update_of_ne hap] at ha
      exact absurd heq.symm (hx u' hb (by rwa [← heq]) a t' hap ha)
    · rw [update_of_ne hap] at ha
      rw [update_of_ne hbp] at hb
      exact h.exclusive a b t' u' ha hb hne heq

lemma Records.grow_mark (h : Records session s r) {v : V} {e : Event} {text : String}
    (hg : Grows session.entries session.Ok session.Carries s.vendor v [.mark (some text)])
    (he : e.render createText = .mark (some text)) :
    Records session { s with vendor := v } { r with vendor := r.vendor ++ [e] } := by
  have hr := reading_grows session hg
  apply h.grow _ hg
  · rw [hr, List.map_append, ← h.observations_eq, List.map_singleton, he]
    rfl
  · rw [hr, openings, List.countP_append]
    refine h.opened_eq.trans ?_
    cases e <;> first | rfl | cases he
  · intro p t _ _
    rw [hr]
    rfl

lemma records_mark (h : Records session s r) (text : String) :
    Records session (mark vendor text s) (mark recorder text r) :=
  h.grow_mark (session.doMarker s.vendor text h.ok) rfl

lemma Records.next (h : Records session s r) :
    Records session { s with nextTimer := s.nextTimer + 1 } { r with nextTimer := r.nextTimer + 1 } :=
  ⟨h.ok, h.observations_eq, h.opened_eq, congrArg Nat.succ h.next_eq, h.stack_eq, h.timers,
    h.exclusive⟩

lemma Records.stack (h : Records session s r) (stack : List Pointer) :
    Records session { s with timerStack := stack } { r with timerStack := stack } :=
  ⟨h.ok, h.observations_eq, h.opened_eq, h.next_eq, rfl, h.timers, h.exclusive⟩

lemma Records.add (h : Records session s r) {name : String} {guid : UInt64} {attributes : A}
    {doCreate : Bool} (hc : session.Carries s.vendor name attributes) :
    Records session
      { s with timers := update s.timers s.nextTimer (some ⟨name, guid, attributes, 0, doCreate⟩)
               nextTimer := s.nextTimer + 1 }
      { r with timers := update r.timers r.nextTimer (some ⟨name, guid, (), 0, doCreate⟩)
               nextTimer := r.nextTimer + 1 } := by
  rw [← h.next_eq]
  have hs := h.set s.nextTimer (t := some ⟨name, guid, attributes, 0, doCreate⟩)
    (u := some ⟨name, guid, (), 0, doCreate⟩) (.some ⟨rfl, rfl, hc, Or.inl ⟨rfl, rfl⟩⟩) (by
      intro t' ht' ht
      obtain rfl := Option.some.inj ht'
      exact absurd rfl ht)
  have hn := hs.next
  rwa [← h.next_eq] at hn

lemma records_newTimer (h : Records session s r) (name : String) (guid : UInt64) (doCreate : Bool) :
    Records session (newTimer vendor name guid doCreate s).1
      (newTimer recorder name guid doCreate r).1 := by
  obtain ⟨hg, hc⟩ := session.construct s.vendor name guid h.ok
  have hr := reading_grows session hg
  have h₁ : Records session { s with vendor := (vendor.construct name guid s.vendor).1 } r :=
    h.grow _ hg (by rw [hr]; exact h.observations_eq) (by rw [hr]; exact h.opened_eq)
      (fun _ _ _ _ => by rw [hr]; rfl)
  cases doCreate with
  | false => exact h₁.add hc
  | true =>
    have hm := session.markCreate _ name _ hg.ok hc
    have h₂ := h₁.grow_mark hm (e := .created name) rfl
    exact h₂.add (hm.carries _ _ hc)

lemma records_deleteTimer (h : Records session s r) (p : Pointer) :
    Option.Rel (Records session) (deleteTimer vendor p s) (deleteTimer recorder p r) := by
  rw [deleteTimer, deleteTimer]
  by_cases hp : p = null
  · rw [if_pos hp, if_pos hp]
    exact .some h
  · rw [if_neg hp, if_neg hp]
    obtain ⟨hs, hr⟩ | ⟨t, u, hs, hr, ht⟩ := h.timer_cases p
    · rw [hs, hr]
      exact .none
    · simp only [hs, hr, ht.doDestroy_eq]
      refine .some ?_
      cases u.doDestroy with
      | false => exact h.set p .none (by simp)
      | true => exact (records_mark h "Timer Destroy").set p .none (by simp)

lemma records_openRange (h : Records session s r) (p : Pointer) :
    Option.Rel (Records session) (openRange vendor p s) (openRange recorder p r) := by
  rw [openRange, openRange]
  obtain ⟨hs, hr⟩ | ⟨t, u, hs, hr, ht⟩ := h.timer_cases p
  · rw [hs, hr]
    exact .none
  simp only [hs, hr]
  obtain ⟨htz, huz⟩ | ⟨htn, hun, -⟩ := ht.range
  · rw [if_pos htz, if_pos huz]
    obtain ⟨hg, hid, hfresh⟩ := session.rangeStart s.vendor t.name t.attributes h.ok ht.carries
    have hread := reading_grows session hg
    -- the ranges of the other timers are open, so the new id is not theirs
    have hopen : ∀ q t', s.timers q = some t' → t'.rangeId ≠ 0 →
        (vendor.rangeStart t.name t.attributes s.vendor).2 ≠ t'.rangeId := by
      intro q t' hq hn heq
      obtain ⟨hq', -⟩ | ⟨t'', u', hq', -, hu⟩ := h.timer_cases q
      · rw [hq] at hq'
        cases hq'
      · rw [hq] at hq'
        obtain rfl := Option.some.inj hq'
        obtain ⟨hz, -⟩ | ⟨-, -, hl⟩ := hu.range
        · exact hn hz
        · exact hfresh _ (Reading.mem_of_lookup hl) heq.symm
    have h₁ := h.grow (r.vendor ++ [.opened u.name]) hg (by
        rw [hread, List.map_append, ← h.observations_eq, ht.name_eq]
        rfl) (by
        rw [hread, openings, List.countP_append]
        exact congrArg Nat.succ h.opened_eq) (by
        intro q t' hq hn
        have hb := beq_false_of_ne (hopen q t' hq hn).symm
        rw [hread]
        change List.lookup _ (_ :: _) = _
        rw [List.lookup_cons, hb])
    refine .some (h₁.set p (.some ⟨ht.name_eq, ht.doDestroy_eq, hg.carries _ _ ht.carries, ?_⟩) ?_)
    · refine Or.inr ⟨hid, Nat.succ_ne_zero _, ?_⟩
      change (session.reading _).openRanges.lookup _ = some (openings r.vendor + 1)
      rw [hread, ← h.opened_eq]
      exact List.lookup_cons_self
    · intro t' ht' _ q u' _ hq
      obtain rfl := Option.some.inj ht'
      by_cases hn : u'.rangeId = 0
      · rw [hn]
        exact hid
      · exact hopen q u' hq hn
  · rw [if_neg htn, if_neg hun]
    exact .some h

lemma records_closeRange (h : Records session s r) (p : Pointer) :
    Option.Rel (Records session) (closeRange vendor p s) (closeRange recorder p r) := by
  rw [closeRange, closeRange]
  obtain ⟨hs, hr⟩ | ⟨t, u, hs, hr, ht⟩ := h.timer_cases p
  · rw [hs, hr]
    exact .none
  simp only [hs, hr]
  obtain ⟨htz, huz⟩ | ⟨htn, hun, hl⟩ := ht.range
  · rw [if_neg (by omega), if_neg (by omega)]
    exact .some h
  · rw [if_pos (Nat.pos_of_ne_zero htn), if_pos (Nat.pos_of_ne_zero hun)]
    -- the timer lets go of its range first, so that no timer is left with the id that ends
    have h₁ := h.set p (t := some { t with rangeId := 0 }) (u := some { u with rangeId := 0 })
      (.some ⟨ht.name_eq, ht.doDestroy_eq, ht.carries, Or.inl ⟨rfl, rfl⟩⟩) (by
        intro t' ht' hz
        obtain rfl := Option.some.inj ht'
        exact absurd rfl hz)
    have hg := session.rangeStop s.vendor t.rangeId h.ok
    have hread := reading_grows session hg
    refine .some (h₁.grow (r.vendor ++ [.closed u.rangeId]) hg ?_ ?_ ?_)
    · rw [hread, List.map_append, ← h.observations_eq, List.map_singleton, Event.render, ← hl]
      rfl
    · rw [hread, openings, List.countP_append]
      exact h.opened_eq
    · intro q t' hq hn
      rw [hread]
      apply Reading.lookup_filter_ne
      intro heq
      change update s.timers p _ q = some t' at hq
      by_cases hqp : q = p
      · subst hqp
        rw [update_self] at hq
        obtain rfl := Option.some.inj hq
        exact hn rfl
      · rw [update_of_ne hqp] at hq
        exact hqp (h.exclusive q p t' t hq hs hn heq)

lemma records_pushTimer (h : Records session s r) (name : String) (guid : UInt64) :
    Option.Rel (Records session) (pushTimer vendor name guid s) (pushTimer recorder name guid r) := by
  have hn := records_newTimer h name guid false
  have hs := records_openRange (hn.stack (s.nextTimer :: s.timerStack)) s.nextTimer
  rw [pushTimer, pushTimer]
  change Option.Rel _ _ (openRange recorder r.nextTimer
    { (newTimer recorder name guid false r).1 with timerStack := r.nextTimer :: r.timerStack })
  rw [← h.next_eq, ← h.stack_eq]
  exact hs

lemma records_popTimer (h : Records session s r) :
    Option.Rel (Records session) (popTimer vendor s) (popTimer recorder r) := by
  rw [popTimer, popTimer, ← h.stack_eq]
  cases s.timerStack with
  | nil => exact .none
  | cons p rest => exact records_closeRange (h.stack rest) p

end Simulation

section Runs

variable {V A : Type} {vendor : Vendor V A} {createText : String → String}
  (session : Session vendor createText) (runtime : Runtime)

def InSession (c : Call Pointer) : Prop :=
  c.api ≠ .init ∧ c.api ≠ .finalize ∧ c.api ≠ .sampleValue

lemma callback_records {s : ToolState V A} {r : ToolState (List Event) Unit}
    (h : Records session s r) (c : Call Pointer) (hc : InSession c) :
    Option.Rel (Records session) (callback vendor runtime s c) (callback recorder runtime r c) := by
  obtain ⟨hi, hf, hv⟩ := hc
  cases c with
  | init => exact absurd rfl hi
  | finalize => exact absurd rfl hf
  | sampleValue name value => exact absurd rfl hv
  | create address name guid parents count => exact .some (records_newTimer h _ _ _)
  | schedule timer arguments count =>
    rw [callback, callback, tasktimerScheduleImpl, tasktimerScheduleImpl, Timer.schedule,
      Timer.schedule]
    obtain ⟨hs, hr⟩ | ⟨t, u, hs, hr, -⟩ := h.timer_cases timer
    · rw [hs, hr]
      exact .none
    · rw [hs, hr]
      exact .some (records_mark h _)
  | start timer resource => exact records_openRange h timer
  | yield timer => exact records_closeRange h timer
  | resume timer resource => exact records_openRange h timer
  | stop timer => exact records_closeRange h timer
  | destroy timer => exact records_deleteTimer h timer
  | addParents timer parents count => exact .some (records_mark h _)
  | addChildren timer children count => exact .some (records_mark h _)
  | dataTransferStart guid source _ _ dest _ _ =>
    cases source with
    | none => exact .none
    | some source =>
      cases dest with
      | none => exact .none
      | some dest => exact records_pushTimer h _ _
  | dataTransferStop guid => exact records_popTimer h
  | commandStart name =>
    cases name with
    | none => exact .none
    | some name => exact records_pushTimer h _ _
  | commandStop => exact records_popTimer h
  | mark label =>
    cases label with
    | none => exact .none
    | some label => exact .some (records_mark h _)

theorem callbacks_record (calls : List (Call Pointer)) (hc : ∀ c ∈ calls, InSession c)
    {s : ToolState V A} {r : ToolState (List Event) Unit} (h : Records session s r) :
    Option.Rel (Records session) (callbacks vendor runtime s calls) (callbacks recorder runtime r calls) :=
  stuck_together (Records session) calls
    (fun c hm _ _ hr => callback_records session runtime hr c (hc c hm)) h

lemma records_new {v : V} {events : List Event} (hok : session.Ok v)
    (hobs : (session.reading v).observations = events.map (Event.render createText))
    (hopened : (session.reading v).opened = openings events) :
    Records session { vendor := v } { vendor := events } :=
  ⟨hok, hobs, hopened, rfl, rfl, fun _ => .none, fun _ _ _ _ h => by cases h⟩

variable (vendor)

def observed (entries : V → List Entry) (s : ToolState V A) (calls : List (Call Pointer)) :
    Option (List Observation) :=
  (callbacks vendor runtime s calls).map (fun t => (Reading.of (entries t.vendor)).observations)

def recorded (calls : List (Call Pointer)) : Option (List Event) :=
  (callbacks recorder runtime { vendor := [] } calls).map (fun r => r.vendor)

def singleSession (body : List (Call Pointer)) (finished : Bool) : List (Call Pointer) :=
  .init :: body ++ if finished then [.finalize] else []

lemma callbacks_singleSession (s : ToolState V A) (body : List (Call Pointer)) (finished : Bool) :
    callbacks vendor runtime s (singleSession body finished) =
      (callbacks vendor runtime (tasktimerInitializeImpl vendor s) body).bind
        (fun t => callbacks vendor runtime t (if finished then [.finalize] else [])) := by
  change callbacks vendor runtime (tasktimerInitializeImpl vendor s) (body ++ _) = _
  rw [callbacks, List.foldlM_append]
  rfl

variable {vendor}

lemma observed_of_rel {s : Option (ToolState V A)} {r : Option (ToolState (List Event) Unit)}
    (h : Option.Rel (Records session) s r) :
    s.map (fun t => (Reading.of (session.entries t.vendor)).observations) =
      (r.map (fun r => r.vendor)).map (List.map (Event.render createText)) := by
  cases h with
  | none => rfl
  | some h => exact congrArg some h.observations_eq

theorem session_observed {v : V} (h : Records session { vendor := vendor.initializeTool v }
      { vendor := [.marker "TaskStubs Initialize"] })
    (body : List (Call Pointer)) (hbody : ∀ c ∈ body, InSession c) (finished : Bool) :
    observed vendor runtime session.entries { vendor := v } (singleSession body finished) =
      (recorded runtime (singleSession body finished)).map (List.map (Event.render createText)) := by
  apply observed_of_rel session
  rw [callbacks_singleSession, callbacks_singleSession]
  have hrel := callbacks_record session runtime body hbody h
  change Option.Rel _
    ((callbacks vendor runtime { vendor := vendor.initializeTool v } body).bind _)
    ((callbacks recorder runtime { vendor := [.marker "TaskStubs Initialize"] } body).bind _)
  generalize callbacks vendor runtime { vendor := vendor.initializeTool v } body = x at hrel
  generalize callbacks recorder runtime { vendor := [.marker "TaskStubs Initialize"] } body = y at hrel
  cases hrel with
  | none => exact .none
  | some hs =>
    cases finished with
    | false => exact .some hs
    | true => exact .some (hs.grow_mark (session.finalizeTool _ hs.ok) rfl)

end Runs

end TaskStubs.Tools
