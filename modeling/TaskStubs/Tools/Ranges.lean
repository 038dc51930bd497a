import TaskStubs.Library.Lifo
import TaskStubs.Tools.NvtxTool
import TaskStubs.Tools.RoctxTool

/-! Data transfers and commands. Both tools keep their timers on one stack, so a stop ends the range of
the last start that is still open, whatever it names. -/

namespace TaskStubs.Tools

open Stub Function Library Library.Lifo Library.Machines

/-- The calls that push and pop; spaces and the name of a command are not NULL. -/
inductive RangeCall where
  | transferStart (guid : UInt64) (source : ExecutionSpace) (sourceName : Option String)
      (sourcePtr : Pointer) (dest : ExecutionSpace) (destName : Option String) (destPtr : Pointer)
  | transferStop (guid : UInt64)
  | commandStart (typeName : String)
  | commandStop
  deriving DecidableEq

namespace RangeCall

def call : RangeCall → Call Pointer
  | .transferStart guid source sourceName sourcePtr dest destName destPtr =>
    .dataTransferStart guid (some source) sourceName sourcePtr (some dest) destName destPtr
  | .transferStop guid => .dataTransferStop guid
  | .commandStart typeName => .commandStart (some typeName)
  | .commandStop => .commandStop

def bracket : RangeCall → Bracket
  | .transferStart .. => .opening
  | .transferStop _ => .closing
  | .commandStart _ => .opening
  | .commandStop => .closing

def transfer : RangeCall → Option UInt64
  | .transferStart guid .. => some guid
  | .transferStop guid => some guid
  | .commandStart _ => none
  | .commandStop => none

lemma inSession (c : RangeCall) : InSession c.call := by
  cases c <;> simp [InSession, call, Call.api]

end RangeCall

def Holds (timers : Pointer → Option (Timer Unit)) (p : Pointer) (k : ℕ) : Prop :=
  k ≠ 0 ∧ ∃ t, timers p = some t ∧ t.rangeId = k

structure Stacked (r : ToolState (List Event) Unit) (n : Numbered) : Prop where
  opened_eq : openings r.vendor = n.opened
  ranges : List.Forall₂ (Holds r.timers) r.timerStack n.stack
  nodup : r.timerStack.Nodup
  below : ∀ p ∈ r.timerStack, p < r.nextTimer

lemma holds_frame {timers timers' : Pointer → Option (Timer Unit)} {stack : List Pointer}
    {ranges : List ℕ} (h : List.Forall₂ (Holds timers) stack ranges)
    (hframe : ∀ p ∈ stack, timers' p = timers p) : List.Forall₂ (Holds timers') stack ranges := by
  induction h with
  | nil => exact .nil
  | cons hp _ ih =>
    refine .cons ?_ (ih (fun p hm => hframe p (List.mem_cons_of_mem _ hm)))
    rwa [Holds, hframe _ List.mem_cons_self]

variable {r : ToolState (List Event) Unit} {n : Numbered}

lemma pushTimer_stacked (h : Stacked r n) (name : String) (guid : UInt64) :
    ∃ r', pushTimer recorder name guid r = some r' ∧ r'.vendor = r.vendor ++ [.opened name] ∧
      Stacked r' ⟨n.opened + 1, (n.opened + 1) :: n.stack⟩ := by
  have hnew : r.nextTimer ∉ r.timerStack := fun hm => lt_irrefl _ (h.below _ hm)
  have hpush : pushTimer recorder name guid r = some
      { vendor := r.vendor ++ [.opened name]
        timers := update r.timers r.nextTimer
          (some ⟨name, guid, (), openings r.vendor + 1, false⟩)
        nextTimer := r.nextTimer + 1
        timerStack := r.nextTimer :: r.timerStack } := by
    simp [pushTimer, newTimer, Timer.start, openRange, recorder]
  refine ⟨_, hpush, rfl, ?_, ?_, List.nodup_cons.mpr ⟨hnew, h.nodup⟩, ?_⟩
  · rw [openings, List.countP_append]
    exact congrArg Nat.succ h.opened_eq
  · refine .cons ⟨Nat.succ_ne_zero _, _, update_self _ _ _, congrArg Nat.succ h.opened_eq⟩ ?_
    apply holds_frame h.ranges
    intro p hp
    exact update_of_ne (ne_of_mem_of_not_mem hp hnew) _ _
  · intro p hp
    obtain rfl | hp := List.mem_cons.mp hp
    · exact Nat.lt_succ_self _
    · exact Nat.lt_succ_of_lt (h.below p hp)

lemma popTimer_stacked (h : Stacked r n) {k : ℕ} {rest : List ℕ} (hs : n.stack = k :: rest) :
    ∃ r', popTimer recorder r = some r' ∧ r'.vendor = r.vendor ++ [.closed k] ∧
      Stacked r' { n with stack := rest } := by
  have hr := h.ranges
  have hn := h.nodup
  have hb := h.below
  rw [hs] at hr
  cases hst : r.timerStack with
  | nil =>
    rw [hst] at hr
    cases hr
  | cons p stack =>
    rw [hst] at hr hn hb
    obtain ⟨hnp, hn⟩ := List.nodup_cons.mp hn
    cases hr with
    | cons hp hr =>
      obtain ⟨hk, t, ht, rfl⟩ := hp
      have hpop : popTimer recorder r = some
          { r with
            vendor := r.vendor ++ [.closed t.rangeId]
            timers := update r.timers p (some { t with rangeId := 0 })
            timerStack := stack } := by
        simp [popTimer, hst, Timer.stop, closeRange, ht, Nat.pos_of_ne_zero hk, recorder]
      refine ⟨_, hpop, rfl, ?_, ?_, hn, fun q hq => hb q (List.mem_cons_of_mem p hq)⟩
      · rw [openings, List.countP_append]
        exact h.opened_eq
      · apply holds_frame hr
        intro q hq
        exact update_of_ne (ne_of_mem_of_not_mem hq hnp) _ _

variable (runtime : Runtime)

lemma start_stacked (h : Stacked r n) {c : RangeCall} (hc : c.bracket = .opening) :
    ∃ r' name, callback recorder runtime r c.call = some r' ∧
      r'.vendor = r.vendor ++ [.opened name] ∧
      Stacked r' ⟨n.opened + 1, (n.opened + 1) :: n.stack⟩ := by
  cases c with
  | transferStart guid source _ _ dest _ _ =>
    obtain ⟨r', hr, hv, hs⟩ := pushTimer_stacked h
      ("Data Transfer " ++ getSpace source ++ " -> " ++ getSpace dest) guid
    exact ⟨r', _, hr, hv, hs⟩
  | commandStart name =>
    obtain ⟨r', hr, hv, hs⟩ := pushTimer_stacked h name 0
    exact ⟨r', name, hr, hv, hs⟩
  | transferStop guid => cases hc
  | commandStop => cases hc

lemma stop_call (r : ToolState (List Event) Unit) {c : RangeCall} (hc : c.bracket = .closing) :
    callback recorder runtime r c.call = popTimer recorder r := by
  cases c with
  | transferStart guid source _ _ dest _ _ => cases hc
  | commandStart name => cases hc
  | transferStop guid => rfl
  | commandStop => rfl

lemma popTimer_empty (h : Stacked r n) (hs : n.stack = []) : popTimer recorder r = none := by
  have hr := h.ranges
  rw [hs] at hr
  rw [popTimer, List.forall₂_nil_right_iff.mp hr]

lemma callback_stacked (h : Stacked r n) (c : RangeCall) :
    Option.Rel Stacked (callback recorder runtime r c.call) (Lifo.step n c.bracket) := by
  cases hc : c.bracket with
  | opening =>
    obtain ⟨r', _, hr, -, hs⟩ := start_stacked runtime h hc
    rw [hr]
    exact .some hs
  | closing =>
    rw [stop_call runtime r hc, Lifo.step]
    cases hn : n.stack with
    | nil =>
      rw [popTimer_empty h hn]
      exact .none
    | cons k rest =>
      obtain ⟨r', hr, -, hs⟩ := popTimer_stacked h hn
      rw [hr]
      exact .some hs

lemma callbacks_stacked (w : List RangeCall) :
    Option.Rel Stacked (callbacks recorder runtime { vendor := [] } (w.map RangeCall.call))
      (after {} (w.map RangeCall.bracket)) := by
  rw [callbacks, after, List.foldlM_map, List.foldlM_map]
  exact stuck_together Stacked w (fun c _ _ _ hs => callback_stacked runtime hs c)
    ⟨rfl, .nil, List.nodup_nil, by simp⟩

def top (w : List RangeCall) : Option ℕ :=
  (after {} (w.map RangeCall.bracket)).bind (fun n => n.stack.head?)

lemma recorded_stop (w : List RangeCall) {stop : RangeCall} (hstop : stop.bracket = .closing) :
    recorded runtime ((w ++ [stop]).map RangeCall.call) =
      (recorded runtime (w.map RangeCall.call)).bind
        (fun events => (top w).map (fun k => events ++ [.closed k])) := by
  have hw := callbacks_stacked runtime w
  have hstep : callbacks recorder runtime { vendor := [] } ((w ++ [stop]).map RangeCall.call) =
      (callbacks recorder runtime { vendor := [] } (w.map RangeCall.call)).bind (popTimer recorder) := by
    rw [List.map_append, callbacks, List.foldlM_append]
    exact congrArg _ (funext fun r => (bind_pure _).trans (stop_call runtime r hstop))
  rw [recorded, recorded, hstep, top]
  generalize callbacks recorder runtime { vendor := [] } (w.map RangeCall.call) = x at hw
  generalize after {} (w.map RangeCall.bracket) = y at hw
  cases hw with
  | none => rfl
  | @some r n hs =>
    cases hn : n.stack with
    | nil => simp [hn, popTimer_empty hs hn]
    | cons j rest =>
      obtain ⟨r', hr, hv, -⟩ := popTimer_stacked hs hn
      simp [hn, hr, hv]

lemma recorded_openings (w : List RangeCall) {events : List Event}
    (h : recorded runtime (w.map RangeCall.call) = some events) :
    openings events = (w.map RangeCall.bracket).count .opening := by
  have hw := callbacks_stacked runtime w
  obtain ⟨r, hr, rfl⟩ := Option.map_eq_some_iff.mp h
  rw [hr] at hw
  generalize ha : after {} (w.map RangeCall.bracket) = y at hw
  cases hw with
  | some hs => rw [hs.opened_eq, after_opened ha, Nat.zero_add]

lemma recorded_isSome_iff (w : List RangeCall) :
    (recorded runtime (w.map RangeCall.call)).isSome ↔ NoUnderflow (w.map RangeCall.bracket) := by
  have hw := callbacks_stacked runtime w
  have ha : (after {} (w.map RangeCall.bracket)).isSome ↔ (depth 0 (w.map RangeCall.bracket)).isSome :=
    after_isSome_iff _ {}
  rw [recorded, Option.isSome_map, NoUnderflow, ← ha]
  generalize callbacks recorder runtime { vendor := [] } (w.map RangeCall.call) = x at hw
  generalize after {} (w.map RangeCall.bracket) = y at hw
  cases hw <;> simp

def rangeStarts (observations : List Observation) : ℕ :=
  observations.countP (fun o => o matches .rangeStart _)

/-- After `u`, `start` and `v`, the call `stop` ends the range that `start` opened, and does nothing
else; `observed` is what shows of a sequence of calls. -/
def EndsItsRange (observed : List (Call Pointer) → Option (List Observation)) (u : List RangeCall)
    (start : RangeCall) (v : List RangeCall) (stop : RangeCall) : Prop :=
  ∃ before during, observed (u.map RangeCall.call) = some before ∧
    observed ((u ++ start :: v).map RangeCall.call) = some during ∧
      observed ((u ++ start :: v ++ [stop]).map RangeCall.call) =
        some (during ++ [.rangeEnd (some (rangeStarts before + 1))])

lemma not_endsItsRange {observed : List (Call Pointer) → Option (List Observation)}
    {u v : List RangeCall} {start stop : RangeCall} {b d : List Observation} {k : ℕ}
    (hu : observed (u.map RangeCall.call) = some b)
    (hv : observed ((u ++ start :: v).map RangeCall.call) = some d)
    (hstop : observed ((u ++ start :: v ++ [stop]).map RangeCall.call) =
      some (d ++ [.rangeEnd (some k)])) (hk : k ≠ rangeStarts b + 1) :
    ¬ EndsItsRange observed u start v stop := by
  rintro ⟨before, during, hb, hd, he⟩
  obtain rfl := Option.some.inj (hu.symm.trans hb)
  obtain rfl := Option.some.inj (hv.symm.trans hd)
  have heq := List.append_cancel_left (Option.some.inj (hstop.symm.trans he))
  simp only [List.cons.injEq, Observation.rangeEnd.injEq, Option.some.injEq, and_true] at heq
  exact hk heq

lemma rangeStarts_render (createText : String → String) (events : List Event) :
    rangeStarts (events.map (Event.render createText)) = openings events := by
  rw [rangeStarts, openings, List.countP_map]
  congr 1
  funext e
  cases e <;> rfl

theorem ends_its_range_iff {observed : List (Call Pointer) → Option (List Observation)}
    {createText : String → String}
    (hobs : ∀ w : List RangeCall, observed (w.map RangeCall.call) =
      (recorded runtime (w.map RangeCall.call)).map (List.map (Event.render createText)))
    (u v : List RangeCall) {start stop : RangeCall} (hstart : start.bracket = .opening)
    (hstop : stop.bracket = .closing) :
    EndsItsRange observed u start v stop ↔
      NoUnderflow (u.map RangeCall.bracket) ∧ Balanced (v.map RangeCall.bracket) := by
  have htop : top (u ++ start :: v) = some ((u.map RangeCall.bracket).count .opening + 1) ↔
      NoUnderflow (u.map RangeCall.bracket) ∧ Balanced (v.map RangeCall.bracket) := by
    rw [top, Option.bind_eq_some_iff, List.map_append, List.map_cons, hstart, takes_opening_iff]
  rw [EndsItsRange, hobs, hobs, hobs, recorded_stop runtime _ hstop]
  refine ⟨?_, ?_⟩
  · rintro ⟨before, during, hb, hd, he⟩
    obtain ⟨eu, hu, rfl⟩ := Option.map_eq_some_iff.mp hb
    obtain ⟨ed, hed, rfl⟩ := Option.map_eq_some_iff.mp hd
    rw [rangeStarts_render, recorded_openings runtime u hu, hed] at he
    obtain ⟨e, hs, he⟩ := Option.map_eq_some_iff.mp he
    obtain ⟨k, hk, rfl⟩ := Option.map_eq_some_iff.mp hs
    rw [List.map_append, List.append_cancel_left_eq] at he
    simp only [List.map_cons, List.map_nil, Event.render, List.cons.injEq, and_true,
      Observation.rangeEnd.injEq] at he
    exact htop.mp (hk.trans he)
  · intro h
    obtain ⟨eu, hu⟩ := Option.isSome_iff_exists.mp ((recorded_isSome_iff runtime u).mpr h.1)
    have hk := htop.mpr h
    obtain ⟨n, hn, -⟩ := Option.bind_eq_some_iff.mp hk
    have hnu : NoUnderflow ((u ++ start :: v).map RangeCall.bracket) :=
      (after_isSome_iff _ {}).mp (by rw [hn]; rfl)
    obtain ⟨ed, hed⟩ := Option.isSome_iff_exists.mp ((recorded_isSome_iff runtime _).mpr hnu)
    refine ⟨_, _, congrArg _ hu, congrArg _ hed, ?_⟩
    rw [rangeStarts_render, recorded_openings runtime u hu, hed, hk]
    simp [Event.render]

lemma observed_rangeCalls {V A : Type} {vendor : Vendor V A} {createText : String → String}
    (session : Session vendor createText) {v : V}
    (h : Records session { vendor := v } { vendor := [] }) (w : List RangeCall) :
    observed vendor runtime session.entries { vendor := v } (w.map RangeCall.call) =
      (recorded runtime (w.map RangeCall.call)).map (List.map (Event.render createText)) := by
  apply observed_of_rel session
  apply callbacks_record session runtime _ _ h
  intro c hc
  obtain ⟨d, -, rfl⟩ := List.mem_map.mp hc
  exact d.inSession

lemma nvtx_observed (library : Nvtx.Library) (w : List RangeCall) :
    Nvtx.observed library runtime (w.map RangeCall.call) =
      (recorded runtime (w.map RangeCall.call)).map (List.map (Event.render id)) :=
  observed_rangeCalls runtime (Nvtx.session library) (Nvtx.start_records library) w

lemma roctx_observed (library : Roctx.Library) (w : List RangeCall) :
    Roctx.observed library runtime (w.map RangeCall.call) =
      (recorded runtime (w.map RangeCall.call)).map (List.map (Event.render Roctx.createText)) :=
  observed_rangeCalls runtime (Roctx.session library) (Roctx.start_records library) w

end TaskStubs.Tools
