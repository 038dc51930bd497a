import TaskStubs.Library.Handles
import TaskStubs.Library.Insertion
import TaskStubs.Tools.NvtxTool
import TaskStubs.Tools.RoctxTool

/-! The ranges of the timers: which timer opens and closes which id of the vendor's library. -/

namespace TaskStubs.Tools

open Stub Function Library.Handles Library.Insertion Library.Machines

/-- The callbacks that neither begin nor end the use of the library, nor touch the stack of timers. -/
def OnTimers (c : Call Pointer) : Prop :=
  c.api ∉ [.init, .finalize, .dataTransferStart, .dataTransferStop, .commandStart, .commandStop]

instance (c : Call Pointer) : Decidable (OnTimers c) := inferInstanceAs (Decidable (¬ _))

def rangeTimer : Call Pointer → Option Pointer
  | .start timer _ => some timer
  | .yield timer => some timer
  | .resume timer _ => some timer
  | .stop timer => some timer
  | _ => none

def LastOpens (p : Pointer) (calls : List (Call Pointer)) : Prop :=
  ∃ c, lastOf rangeTimer (some p) calls = some c ∧ (c.api = .start ∨ c.api = .resume)

def Entry.act : Entry → Option (Act ℕ)
  | .mark _ => none
  | .rangeStart _ id => some (.opened id)
  | .rangeStop id => some (.closed id)

section Vendors

variable {V A : Type}

def Quiet (entries : V → List Entry) (v v' : V) : Prop :=
  ∃ new, entries v' = entries v ++ new ∧ new.filterMap Entry.act = []

/-- What a tool's vendor writes to its log: only `rangeStart` and `rangeStop` touch a range, and the
id of a new range is not 0 and not the id of an open range. -/
structure KeepsLog (vendor : Vendor V A) (entries : V → List Entry) : Prop where
  construct : ∀ name guid v, Quiet entries v (vendor.construct name guid v).1
  markCreate : ∀ name attributes v, Quiet entries v (vendor.markCreate name attributes v)
  doMarker : ∀ text v, Quiet entries v (vendor.doMarker text v)
  sampleValue : ∀ name value v v', vendor.sampleValue name value v = some v' → Quiet entries v v'
  rangeStart : ∀ name attributes v,
    (∃ text, entries (vendor.rangeStart name attributes v).1 =
      entries v ++ [.rangeStart text (vendor.rangeStart name attributes v).2]) ∧
    (vendor.rangeStart name attributes v).2 ≠ 0 ∧
    ∀ range ∈ (Reading.of (entries v)).openRanges, range.1 ≠ (vendor.rangeStart name attributes v).2
  rangeStop : ∀ id v, entries (vendor.rangeStop id v) = entries v ++ [.rangeStop id]

variable (vendor : Vendor V A) (runtime : Runtime) (entries : V → List Entry)

def rangeActs (s : ToolState V A) (c : Call Pointer) (s' : ToolState V A) : List (Option Pointer × Act ℕ) :=
  (((entries s'.vendor).drop (entries s.vendor).length).filterMap Entry.act).map (fun act => (c.timer, act))

def timerRanges (s : ToolState V A) (calls : List (Call Pointer)) : List (Option Pointer × Act ℕ) :=
  along (callback vendor runtime) (rangeActs entries) s calls

variable {entries}

lemma Quiet.refl (v : V) : Quiet entries v v := ⟨[], by simp, rfl⟩

lemma Quiet.trans {u v w : V} (h : Quiet entries u v) (h' : Quiet entries v w) : Quiet entries u w := by
  obtain ⟨new, hv, hn⟩ := h
  obtain ⟨new', hw, hn'⟩ := h'
  refine ⟨new ++ new', by rw [hw, hv, List.append_assoc], ?_⟩
  rw [List.filterMap_append, hn, hn', List.append_nil]

lemma openRanges_grow {v v' : V} {new : List Entry} (h : entries v' = entries v ++ new) :
    (Reading.of (entries v')).openRanges = (new.foldl Reading.read (Reading.of (entries v))).openRanges := by
  rw [h, Reading.of_append]

lemma Quiet.openRanges {v v' : V} (h : Quiet entries v v') :
    (Reading.of (entries v')).openRanges = (Reading.of (entries v)).openRanges := by
  obtain ⟨new, hnew, hact⟩ := h
  rw [openRanges_grow hnew]
  clear hnew
  generalize Reading.of (entries v) = r
  induction new generalizing r with
  | nil => rfl
  | cons e new ih =>
    cases e with
    | mark text => exact ih (by simpa [Entry.act] using hact) _
    | rangeStart text id => simp [Entry.act] at hact
    | rangeStop id => simp [Entry.act] at hact

lemma rangeActs_grow {s : ToolState V A} (s' : ToolState V A) {c : Call Pointer} {new : List Entry}
    (h : entries s'.vendor = entries s.vendor ++ new) :
    rangeActs entries s c s' = (new.filterMap Entry.act).map (fun act => (c.timer, act)) := by
  rw [rangeActs, h, List.drop_left]

structure QuietStep (entries : V → List Entry) (s s' : ToolState V A) : Prop where
  quiet : Quiet entries s.vendor s'.vendor
  timers : ∀ p t, s'.timers p = some t →
    s.timers p = some t ∨ (p = s.nextTimer ∧ p < s'.nextTimer ∧ t.rangeId = 0)
  next_le : s.nextTimer ≤ s'.nextTimer

variable {vendor} {runtime} {s s' : ToolState V A} {c : Call Pointer}

lemma quietStep_vendor {v : V} (h : Quiet entries s.vendor v) :
    QuietStep entries s { s with vendor := v } :=
  ⟨h, fun _ _ ht => Or.inl ht, le_rfl⟩

lemma quiet_callback (hv : KeepsLog vendor entries) (hc : OnTimers c) (hr : rangeTimer c = none)
    (h : callback vendor runtime s c = some s') : QuietStep entries s s' := by
  cases c with
  | create address name guid parents count =>
    cases h
    refine ⟨(hv.construct _ _ _).trans (hv.markCreate _ _ _), ?_, Nat.le_succ _⟩
    intro p t ht
    change update s.timers s.nextTimer _ p = some t at ht
    by_cases hp : p = s.nextTimer
    · subst hp
      rw [update_self] at ht
      cases ht
      exact Or.inr ⟨rfl, Nat.lt_succ_self _, rfl⟩
    · rw [update_of_ne hp] at ht
      exact Or.inl ht
  | destroy timer =>
    rcases deleteTimer_cases h with ⟨-, rfl⟩ | ⟨-, t, -, rfl⟩
    · exact quietStep_vendor (Quiet.refl _)
    · refine ⟨?_, ?_, le_rfl⟩
      · change Quiet entries s.vendor (if t.doDestroy then _ else _)
        split_ifs
        · exact hv.doMarker _ _
        · exact Quiet.refl _
      · intro p t' ht
        change update s.timers timer none p = some t' at ht
        by_cases hp : p = timer
        · subst hp
          rw [update_self] at ht
          cases ht
        · rw [update_of_ne hp] at ht
          exact Or.inl ht
  | schedule timer arguments count =>
    obtain rfl := schedule_cases h
    exact quietStep_vendor (hv.doMarker _ _)
  | addParents timer parents count =>
    cases h
    exact quietStep_vendor (hv.doMarker _ _)
  | addChildren timer children count =>
    cases h
    exact quietStep_vendor (hv.doMarker _ _)
  | sampleValue name value =>
    obtain ⟨v, hsample, rfl⟩ := Option.map_eq_some_iff.mp h
    exact quietStep_vendor (hv.sampleValue _ _ _ _ hsample)
  | mark label =>
    obtain ⟨_, -, rfl⟩ := mark_cases h
    exact quietStep_vendor (hv.doMarker _ _)
  | start | yield | resume | stop => cases hr
  | init | finalize | dataTransferStart | dataTransferStop | commandStart | commandStop =>
    exact absurd hc (by simp [OnTimers, Call.api])

structure Tracks (entries : V → List Entry) (s : ToolState V A) (calls : List (Call Pointer))
    (acts : List (Option Pointer × Act ℕ)) : Prop where
  protocol : Protocol acts
  next_pos : null < s.nextTimer
  unused : ∀ p, p = null ∨ s.nextTimer ≤ p → s.timers p = none
  live : ∀ p t id, s.timers p = some t → ((some p, id) ∈ held acts ↔ t.rangeId = id ∧ id ≠ 0)
  owned : ∀ owner id, (owner, id) ∈ held acts → ∃ p < s.nextTimer, owner = some p
  known : ∀ owner id, (owner, id) ∈ held acts →
    ∃ range ∈ (Reading.of (entries s.vendor)).openRanges, range.1 = id
  last : ∀ p, (∃ id, (some p, id) ∈ held acts) ↔ LastOpens p calls

lemma lastOpens_skip {p : Pointer} {calls : List (Call Pointer)} (h : rangeTimer c ≠ some p) :
    LastOpens p (calls ++ [c]) ↔ LastOpens p calls := by
  simp [LastOpens, h]

lemma lastOpens_self {p : Pointer} {calls : List (Call Pointer)} (h : rangeTimer c = some p) :
    LastOpens p (calls ++ [c]) ↔ c.api = .start ∨ c.api = .resume := by
  simp [LastOpens, h]

variable {calls : List (Call Pointer)} {acts : List (Option Pointer × Act ℕ)}

lemma tracks_start (v : V) : Tracks entries ({ vendor := v } : ToolState V A) [] [] where
  protocol := protocol_nil
  next_pos := Nat.zero_lt_one
  unused _ _ := rfl
  live p t id h := by cases h
  owned owner id h := by cases h
  known owner id h := by cases h
  last p := by simp [held, LastOpens, lastOf]

lemma Tracks.quiet (h : Tracks entries s calls acts) (hq : QuietStep entries s s')
    (hr : rangeTimer c = none) : Tracks entries s' (calls ++ [c]) acts := by
  refine ⟨h.protocol, lt_of_lt_of_le h.next_pos hq.next_le, ?_, ?_, ?_, ?_, ?_⟩
  · intro p hp
    by_contra hs
    obtain ⟨t, ht⟩ := Option.ne_none_iff_exists'.mp hs
    rcases hq.timers p t ht with ht | ⟨rfl, hlt, -⟩
    · rw [h.unused p (hp.imp_right hq.next_le.trans)] at ht
      cases ht
    · rcases hp with hp | hp
      · exact absurd hp h.next_pos.ne'
      · exact absurd hp (not_le_of_gt hlt)
  · intro p t id ht
    rcases hq.timers p t ht with ht | ⟨rfl, -, hz⟩
    · exact h.live p t id ht
    · refine ⟨?_, ?_⟩
      · intro hm
        obtain ⟨q, hq, he⟩ := h.owned _ _ hm
        cases he
        exact absurd hq (lt_irrefl _)
      · rintro ⟨hid, hne⟩
        exact absurd (hid.symm.trans hz) hne
  · intro owner id hm
    obtain ⟨p, hp, ho⟩ := h.owned owner id hm
    exact ⟨p, lt_of_lt_of_le hp hq.next_le, ho⟩
  · rw [hq.quiet.openRanges]
    exact h.known
  · intro p
    rw [lastOpens_skip (by rw [hr]; simp)]
    exact h.last p

lemma rangeActs_self (s : ToolState V A) (c : Call Pointer) : rangeActs entries s c s = [] := by
  simp [rangeActs]

lemma timer_eq {p : Pointer} (h : rangeTimer c = some p) : c.timer = some p := by
  cases c <;> first | exact h | cases h

/-- One timer's range changes to `id`, where 0 stands for none. -/
lemma Tracks.set (h : Tracks entries s calls acts) {p : Pointer} {t : Timer A} (ht : s.timers p = some t)
    (hr : rangeTimer c = some p) {v : V} {id : ℕ} {acts' : List (Option Pointer × Act ℕ)}
    (hprotocol : Protocol acts') (hself : ∀ k, (some p, k) ∈ held acts' ↔ id = k ∧ k ≠ 0)
    (hother : ∀ owner k, owner ≠ some p → ((owner, k) ∈ held acts' ↔ (owner, k) ∈ held acts))
    (hknown : ∀ owner k, (owner, k) ∈ held acts' → ∃ range ∈ (Reading.of (entries v)).openRanges, range.1 = k)
    (hopens : id ≠ 0 ↔ c.api = .start ∨ c.api = .resume) :
    Tracks entries { s with vendor := v, timers := update s.timers p (some { t with rangeId := id }) }
      (calls ++ [c]) acts' := by
  have hp : p ≠ null ∧ p < s.nextTimer := by
    by_contra hn
    rw [h.unused p (by simpa only [not_and_or, not_not, not_lt] using hn)] at ht
    cases ht
  refine ⟨hprotocol, h.next_pos, ?_, ?_, ?_, hknown, ?_⟩
  · intro q hq
    have hne : q ≠ p := by
      rintro rfl
      rcases hq with hq | hq
      · exact hp.1 hq
      · exact absurd hp.2 (not_lt_of_ge hq)
    change update s.timers p _ q = none
    rw [update_of_ne hne]
    exact h.unused q hq
  · intro q t' k hq
    change update s.timers p _ q = some t' at hq
    by_cases hne : q = p
    · subst hne
      rw [update_self] at hq
      cases hq
      exact hself k
    · rw [update_of_ne hne] at hq
      rw [hother (some q) k (by simpa using hne)]
      exact h.live q t' k hq
  · intro owner k hm
    by_cases ho : owner = some p
    · exact ⟨p, hp.2, ho⟩
    · exact h.owned owner k ((hother owner k ho).mp hm)
  · intro q
    by_cases hne : q = p
    · subst hne
      rw [lastOpens_self hr, ← hopens]
      simp only [hself, exists_eq_left']
    · have hq : some q ≠ some p := by simpa using hne
      rw [lastOpens_skip (by rw [hr]; exact hq.symm)]
      simp only [hother _ _ hq]
      exact h.last q

lemma Tracks.idle (h : Tracks entries s calls acts) {p : Pointer} {t : Timer A} (ht : s.timers p = some t)
    (hr : rangeTimer c = some p) (hopens : t.rangeId ≠ 0 ↔ c.api = .start ∨ c.api = .resume) :
    Tracks entries s (calls ++ [c]) (acts ++ rangeActs entries s c s) := by
  rw [rangeActs_self, List.append_nil]
  have hset := h.set ht hr h.protocol (fun k => h.live p t k ht) (fun _ _ _ => Iff.rfl) h.known hopens
  rwa [update_eq_self_iff.mpr ht.symm] at hset

lemma Tracks.openRange (hv : KeepsLog vendor entries) (h : Tracks entries s calls acts) {p : Pointer}
    (hr : rangeTimer c = some p) (hc : c.api = .start ∨ c.api = .resume)
    (hs : openRange vendor p s = some s') :
    Tracks entries s' (calls ++ [c]) (acts ++ rangeActs entries s c s') := by
  obtain ⟨t, ht, ⟨hz, rfl⟩ | ⟨hz, rfl⟩⟩ := openRange_cases hs
  · obtain ⟨⟨text, hgrow⟩, hid, hfresh⟩ := hv.rangeStart t.name t.attributes s.vendor
    generalize vendor.rangeStart t.name t.attributes s.vendor = started at hgrow hid hfresh
    obtain ⟨v, id⟩ := started
    rw [rangeActs_grow { s with vendor := v, timers := _ } hgrow, timer_eq hr]
    have hnone : ∀ k, (some p, k) ∉ held acts := by
      intro k hk
      obtain ⟨hk, hne⟩ := (h.live p t k ht).mp hk
      exact hne (hk.symm.trans hz)
    have hnew : ∀ owner, (owner, id) ∉ held acts := by
      intro owner hm
      obtain ⟨range, hrange, he⟩ := h.known owner id hm
      exact hfresh range hrange he
    change Tracks entries _ _ (acts ++ [(some p, .opened id)])
    apply h.set ht hr (h.protocol.opened hnone hnew)
    · intro k
      rw [held_opened, List.mem_cons, or_iff_left (hnone k), Prod.mk.injEq, and_iff_right rfl]
      refine ⟨?_, fun hk => hk.1.symm⟩
      rintro rfl
      exact ⟨rfl, hid⟩
    · intro owner k ho
      rw [held_opened, List.mem_cons, or_iff_right (by simp [ho])]
    · intro owner k hm
      rw [openRanges_grow hgrow]
      rw [held_opened, List.mem_cons] at hm
      rcases hm with hm | hm
      · cases hm
        exact ⟨_, List.mem_cons_self, rfl⟩
      · obtain ⟨range, hrange, he⟩ := h.known owner k hm
        exact ⟨range, List.mem_cons_of_mem _ hrange, he⟩
    · exact iff_of_true hid hc
  · exact h.idle ht hr (iff_of_true hz hc)

lemma Tracks.closeRange (hv : KeepsLog vendor entries) (h : Tracks entries s calls acts) {p : Pointer}
    (hr : rangeTimer c = some p) (hc : ¬ (c.api = .start ∨ c.api = .resume))
    (hs : closeRange vendor p s = some s') :
    Tracks entries s' (calls ++ [c]) (acts ++ rangeActs entries s c s') := by
  obtain ⟨t, ht, ⟨hz, rfl⟩ | ⟨hz, rfl⟩⟩ := closeRange_cases hs
  · have hgrow := hv.rangeStop t.rangeId s.vendor
    have hown : (some p, t.rangeId) ∈ held acts := (h.live p t t.rangeId ht).mpr ⟨rfl, hz⟩
    rw [rangeActs_grow { s with vendor := vendor.rangeStop t.rangeId s.vendor, timers := _ } hgrow,
      timer_eq hr]
    change Tracks entries _ _ (acts ++ [(some p, .closed t.rangeId)])
    have hheld : ∀ owner k, (owner, k) ∈ held (acts ++ [(some p, .closed t.rangeId)]) ↔
        (owner, k) ∈ held acts ∧ k ≠ t.rangeId := by
      intro owner k
      rw [held_closed, List.mem_filter, decide_eq_true_eq]
    apply h.set ht hr (h.protocol.closed hown)
    · intro k
      rw [hheld]
      refine ⟨?_, fun hk => (hk.2 hk.1.symm).elim⟩
      rintro ⟨hm, hk⟩
      exact (hk (h.protocol.same_handle hm hown)).elim
    · intro owner k ho
      rw [hheld, and_iff_left_iff_imp]
      rintro hm rfl
      exact ho (h.protocol.same_owner hm hown)
    · intro owner k hm
      obtain ⟨hm, hk⟩ := (hheld owner k).mp hm
      obtain ⟨range, hrange, rfl⟩ := h.known owner k hm
      rw [openRanges_grow hgrow]
      exact ⟨range, List.mem_filter.mpr ⟨hrange, by simpa using hk⟩, rfl⟩
    · exact iff_of_false (fun hn => hn rfl) hc
  · exact h.idle ht hr (iff_of_false (not_not.mpr hz) hc)

lemma Tracks.callback (hv : KeepsLog vendor entries) (h : Tracks entries s calls acts) (hc : OnTimers c)
    (hs : callback vendor runtime s c = some s') :
    Tracks entries s' (calls ++ [c]) (acts ++ rangeActs entries s c s') := by
  cases hr : rangeTimer c with
  | none =>
    have hq := quiet_callback hv hc hr hs
    obtain ⟨new, hgrow, hacts⟩ := hq.quiet
    rw [rangeActs_grow _ hgrow, hacts, List.map_nil, List.append_nil]
    exact h.quiet hq hr
  | some p =>
    cases c with
    | start timer resource =>
      cases hr
      exact h.openRange hv rfl (Or.inl rfl) hs
    | resume timer resource =>
      cases hr
      exact h.openRange hv rfl (Or.inr rfl) hs
    | yield timer =>
      cases hr
      exact h.closeRange hv rfl (by simp [Call.api]) hs
    | stop timer =>
      cases hr
      exact h.closeRange hv rfl (by simp [Call.api]) hs
    | _ => cases hr

lemma callbacks_tracks (hv : KeepsLog vendor entries) {v : V} (hcalls : ∀ c ∈ calls, OnTimers c)
    (hs : callbacks vendor runtime { vendor := v } calls = some s) :
    Tracks entries s calls (timerRanges vendor runtime entries { vendor := v } calls) := by
  refine reached_invariant (fun s calls => (∀ c ∈ calls, OnTimers c) →
    Tracks entries s calls (timerRanges vendor runtime entries { vendor := v } calls)) ?_ ?_ hs hcalls
  · exact fun _ => tracks_start v
  · intro calls t c u ht ih hc hcalls
    rw [timerRanges, along_concat _ ht hc]
    exact (ih (fun d hd => hcalls d (List.mem_append_left _ hd))).callback hv (hcalls c (by simp)) hc

def SameLive (s s' : ToolState V A) : Prop := ∀ p, (s'.timers p).isSome = (s.timers p).isSome

lemma sameLive_set {p : Pointer} {t : Timer A} (ht : s.timers p = some t) (v : V) (id : ℕ) :
    SameLive s { s with vendor := v, timers := update s.timers p (some { t with rangeId := id }) } := by
  intro q
  by_cases hq : q = p
  · subst hq
    change (update s.timers q _ q).isSome = _
    rw [update_self, ht]
    rfl
  · exact congrArg Option.isSome (update_of_ne hq _ _)

lemma openRange_returns {p : Pointer} (hp : (s.timers p).isSome) :
    ∃ s', openRange vendor p s = some s' ∧ SameLive s s' := by
  obtain ⟨t, ht⟩ := Option.isSome_iff_exists.mp hp
  simp only [openRange, ht]
  split_ifs
  · exact ⟨_, rfl, sameLive_set ht _ _⟩
  · exact ⟨s, rfl, fun _ => rfl⟩

lemma closeRange_returns {p : Pointer} (hp : (s.timers p).isSome) :
    ∃ s', closeRange vendor p s = some s' ∧ SameLive s s' := by
  obtain ⟨t, ht⟩ := Option.isSome_iff_exists.mp hp
  simp only [closeRange, ht]
  split_ifs
  · exact ⟨_, rfl, sameLive_set ht _ _⟩
  · exact ⟨s, rfl, fun _ => rfl⟩

/-- On a live timer the four range calls have a result, whatever was called before. -/
lemma range_returns {p : Pointer} (hr : rangeTimer c = some p) (hp : (s.timers p).isSome) :
    ∃ s', callback vendor runtime s c = some s' ∧ SameLive s s' := by
  cases c with
  | start | resume =>
    cases hr
    exact openRange_returns hp
  | yield | stop =>
    cases hr
    exact closeRange_returns hp
  | _ => cases hr

lemma ranges_return (calls : List (Call Pointer))
    (h : ∀ c ∈ calls, ∃ p, rangeTimer c = some p ∧ (s.timers p).isSome) :
    ∃ s', callbacks vendor runtime s calls = some s' := by
  induction calls generalizing s with
  | nil => exact ⟨s, rfl⟩
  | cons c calls ih =>
    obtain ⟨p, hr, hp⟩ := h c List.mem_cons_self
    obtain ⟨t, ht, hlive⟩ : ∃ t, callback vendor runtime s c = some t ∧ SameLive s t := range_returns hr hp
    have hrest : ∀ d ∈ calls, ∃ p, rangeTimer d = some p ∧ (t.timers p).isSome := by
      intro d hd
      obtain ⟨q, hq, hlq⟩ := h d (List.mem_cons_of_mem c hd)
      exact ⟨q, hq, (hlive q).trans hlq⟩
    obtain ⟨s', hs'⟩ := ih hrest
    exact ⟨s', callbacks_cons.mpr ⟨t, ht, hs'⟩⟩

/-- At most one range a timer; only the timer that opened an id closes it, and once; a range is open
exactly if the last call on its timer opens one. -/
structure KeepsRanges (acts : List (Option Pointer × Act ℕ)) (calls : List (Call Pointer)) : Prop where
  protocol : Protocol acts
  closed_once : ∀ first owner id second other third,
    acts = first ++ (owner, .closed id) :: (second ++ (other, .closed id) :: third) →
      (other, .opened id) ∈ second
  open_iff : ∀ p, (∃ id, (some p, id) ∈ held acts) ↔ LastOpens p calls

lemma Tracks.keepsRanges (h : Tracks entries s calls acts) : KeepsRanges acts calls where
  protocol := h.protocol
  closed_once _ _ _ _ _ _ hsplit := h.protocol.reopened hsplit
  open_iff := h.last

end Vendors

lemma quiet_registerString (library : Nvtx.Library) (text : String) (s : Nvtx.State) :
    Quiet (fun s : Nvtx.State => Nvtx.entries s.log) s (Nvtx.registerString library text s).1 := by
  rw [Nvtx.registerString]
  cases s.registeredStrings text with
  | none => exact ⟨[], Nvtx.entries_concat s.log _, rfl⟩
  | some message => exact Quiet.refl s

lemma quiet_doMarker (library : Nvtx.Library) (text : String) (attributes : Nvtx.EventAttributes)
    (s : Nvtx.State) :
    Quiet (fun s : Nvtx.State => Nvtx.entries s.log) s (Nvtx.doMarker library text attributes s) := by
  apply (quiet_registerString library text s).trans
  exact ⟨_, Nvtx.entries_concat _ _, rfl⟩

lemma nvtx_keepsLog (library : Nvtx.Library) :
    KeepsLog (Nvtx.vendor library) (fun s => Nvtx.entries s.log) where
  construct name _ v := quiet_registerString library name v
  markCreate _ _ v := quiet_doMarker library _ _ v
  doMarker _ v := quiet_doMarker library _ _ v
  sampleValue name value v v' h := by
    obtain ⟨text, -, rfl⟩ := Option.map_eq_some_iff.mp h
    exact (quiet_registerString library text v).trans (quiet_doMarker library _ _ _)
  rangeStart _ _ v :=
    ⟨⟨_, Nvtx.entries_concat v.log _⟩, library.startRange_ne_zero _ _ _, library.startRange_not_open _ _ _⟩
  rangeStop _ v := Nvtx.entries_concat v.log _

lemma roctx_keepsLog (library : Roctx.Library) : KeepsLog (Roctx.vendor library) (fun log => log) where
  construct _ _ v := Quiet.refl v
  markCreate _ _ _ := ⟨_, rfl, rfl⟩
  doMarker _ _ := ⟨_, rfl, rfl⟩
  sampleValue _ _ v v' h := by
    cases h
    exact Quiet.refl v
  rangeStart _ _ _ := ⟨⟨_, rfl⟩, library.startRange_ne_zero _ _, library.startRange_not_open _ _⟩
  rangeStop _ _ := rfl

variable (runtime : Runtime) (nvtx : Nvtx.Library) (roctx : Roctx.Library)

def nvtxRanges (v : Nvtx.State) (calls : List (Call Pointer)) : List (Option Pointer × Act ℕ) :=
  timerRanges (Nvtx.vendor nvtx) runtime (fun s => Nvtx.entries s.log) { vendor := v } calls

def roctxRanges (v : Roctx.State) (calls : List (Call Pointer)) : List (Option Pointer × Act ℕ) :=
  timerRanges (Roctx.vendor roctx) runtime (fun log => log) { vendor := v } calls

theorem ranges_kept (calls : List (Call Pointer)) (hcalls : ∀ c ∈ calls, OnTimers c) :
    (∀ v s, callbacks (Nvtx.vendor nvtx) runtime { vendor := v } calls = some s →
      KeepsRanges (nvtxRanges runtime nvtx v calls) calls) ∧
    ∀ v s, callbacks (Roctx.vendor roctx) runtime { vendor := v } calls = some s →
      KeepsRanges (roctxRanges runtime roctx v calls) calls := by
  refine ⟨?_, ?_⟩
  · intro v s hs
    exact (callbacks_tracks (nvtx_keepsLog nvtx) hcalls hs).keepsRanges
  · intro v s hs
    exact (callbacks_tracks (roctx_keepsLog roctx) hcalls hs).keepsRanges

def interleaved : List (Call Pointer) :=
  [.create null (some "a") 1 none 0, .create null (some "b") 2 none 0, .resume 1 none, .start 2 none,
    .start 1 none, .yield 2, .stop 2, .stop 1, .start 2 none, .resume 1 none]

theorem ranges_kept_interleaved :
    (∃ s, callbacks (Nvtx.vendor Nvtx.freshLibrary) noSymbols { vendor := {} } interleaved = some s ∧
      KeepsRanges (nvtxRanges noSymbols Nvtx.freshLibrary {} interleaved) interleaved) ∧
    ∃ s, callbacks (Roctx.vendor Roctx.freshLibrary) noSymbols { vendor := [] } interleaved = some s ∧
      KeepsRanges (roctxRanges noSymbols Roctx.freshLibrary [] interleaved) interleaved := by
  obtain ⟨hn, hr⟩ := ranges_kept noSymbols Nvtx.freshLibrary Roctx.freshLibrary interleaved (by decide)
  obtain ⟨s, hs⟩ := Option.isSome_iff_exists.mp (by decide +kernel : (callbacks
    (Nvtx.vendor Nvtx.freshLibrary) noSymbols { vendor := {} } interleaved).isSome)
  obtain ⟨t, ht⟩ := Option.isSome_iff_exists.mp (by decide +kernel : (callbacks
    (Roctx.vendor Roctx.freshLibrary) noSymbols { vendor := [] } interleaved).isSome)
  exact ⟨⟨s, hs, hn _ s hs⟩, t, ht, hr _ t ht⟩

end TaskStubs.Tools
