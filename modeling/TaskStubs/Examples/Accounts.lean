import TaskStubs.Examples.Transcripts

/-! Which ranges of a record are closed, and which are held by a timer: none twice, whatever the calls. -/

namespace TaskStubs.Examples

open Stub Tools Function

structure Accounted (events : List Event) (timers : Pointer → Option (Timer Unit)) : Prop where
  once : (closings events).Nodup
  opened : ∀ k ∈ closings events, k ≠ 0 ∧ k ≤ openings events
  held : ∀ p timer, timers p = some timer → timer.rangeId ≠ 0 →
    timer.rangeId ≤ openings events ∧ timer.rangeId ∉ closings events
  exclusive : ∀ p q timer other, timers p = some timer → timers q = some other → timer.rangeId ≠ 0 →
    timer.rangeId = other.rangeId → p = q

section Accounts

variable {events : List Event} {timers : Pointer → Option (Timer Unit)} {p : Pointer}
  {r r' : ToolState (List Event) Unit}

lemma accounted_start : Accounted [.marker "TaskStubs Initialize"] (fun _ => none) := by
  refine ⟨List.nodup_nil, ?_, ?_, ?_⟩ <;> simp [closings]

lemma Accounted.shows (h : Accounted events timers) {new : List Event} (ho : openings new = 0)
    (hc : closings new = []) : Accounted (events ++ new) timers := by
  have hopened : openings (events ++ new) = openings events := by rw [openings_append, ho, Nat.add_zero]
  have hclosed : closings (events ++ new) = closings events := by rw [closings_append, hc, List.append_nil]
  refine ⟨?_, ?_, ?_, h.exclusive⟩
  · rw [hclosed]
    exact h.once
  · rw [hclosed, hopened]
    exact h.opened
  · rw [hclosed, hopened]
    exact h.held

lemma Accounted.silence (h : Accounted events timers) (p : Pointer) {new : Option (Timer Unit)}
    (hn : ∀ timer, new = some timer → timer.rangeId = 0) : Accounted events (update timers p new) := by
  have hkept : ∀ q timer, update timers p new q = some timer → timer.rangeId ≠ 0 → timers q = some timer := by
    intro q timer hq hz
    by_cases hqp : q = p
    · subst hqp
      rw [update_self] at hq
      exact absurd (hn timer hq) hz
    · rwa [update_of_ne hqp] at hq
  refine ⟨h.once, h.opened, fun q timer hq hz => h.held q timer (hkept q timer hq hz) hz, ?_⟩
  intro q q' timer other hq hq' hz he
  exact h.exclusive q q' timer other (hkept q timer hq hz) (hkept q' other hq' (he ▸ hz)) hz he

lemma accounted_openRange (h : Accounted r.vendor r.timers) (hs : openRange recorder p r = some r') :
    Accounted r'.vendor r'.timers := by
  obtain ⟨t, -, ⟨-, rfl⟩ | ⟨-, rfl⟩⟩ := openRange_cases hs
  swap
  · exact h
  have hopened : openings (r.vendor ++ [.opened t.name]) = openings r.vendor + 1 := openings_append _ _
  have hclosed : closings (r.vendor ++ [.opened t.name]) = closings r.vendor := by simp [closings]
  have hnew : ∀ q timer, r.timers q = some timer → timer.rangeId ≠ 0 → timer.rangeId ≠ openings r.vendor + 1 := by
    intro q timer hq hne he
    exact absurd (h.held q timer hq hne).1 (by omega)
  change Accounted (r.vendor ++ [.opened t.name])
    (update r.timers p (some { t with rangeId := openings r.vendor + 1 }))
  refine ⟨?_, ?_, ?_, ?_⟩
  · rw [hclosed]
    exact h.once
  · rw [hclosed, hopened]
    exact fun k hk => ⟨(h.opened k hk).1, Nat.le_succ_of_le (h.opened k hk).2⟩
  · rw [hclosed, hopened]
    intro q timer hq hz
    by_cases hqp : q = p
    · subst hqp
      rw [update_self] at hq
      cases hq
      exact ⟨le_rfl, fun hm => absurd (h.opened _ hm).2 (Nat.not_succ_le_self _)⟩
    · rw [update_of_ne hqp] at hq
      exact ⟨Nat.le_succ_of_le (h.held q timer hq hz).1, (h.held q timer hq hz).2⟩
  · intro q q' timer other hq hq' hz he
    by_cases hqp : q = p <;> by_cases hqp' : q' = p
    · rw [hqp, hqp']
    · subst hqp
      rw [update_self] at hq
      rw [update_of_ne hqp'] at hq'
      cases hq
      exact absurd he.symm (hnew q' other hq' (he ▸ hz))
    · subst hqp'
      rw [update_self] at hq'
      rw [update_of_ne hqp] at hq
      cases hq'
      exact absurd he (hnew q timer hq hz)
    · rw [update_of_ne hqp] at hq
      rw [update_of_ne hqp'] at hq'
      exact h.exclusive q q' timer other hq hq' hz he

lemma accounted_closeRange (h : Accounted r.vendor r.timers) (hs : closeRange recorder p r = some r') :
    Accounted r'.vendor r'.timers := by
  obtain ⟨t, ht, ⟨hz, rfl⟩ | ⟨-, rfl⟩⟩ := closeRange_cases hs
  swap
  · exact h
  obtain ⟨hle, hfresh⟩ := h.held p t ht hz
  have hquiet : Accounted r.vendor (update r.timers p (some { t with rangeId := 0 })) := by
    apply h.silence p
    rintro _ ⟨⟩
    rfl
  have hopened : openings (r.vendor ++ [.closed t.rangeId]) = openings r.vendor := openings_append _ _
  have hclosed : closings (r.vendor ++ [.closed t.rangeId]) = closings r.vendor ++ [t.rangeId] := closings_append _ _
  change Accounted (r.vendor ++ [.closed t.rangeId]) (update r.timers p (some { t with rangeId := 0 }))
  refine ⟨?_, ?_, ?_, hquiet.exclusive⟩
  · rw [hclosed]
    refine List.nodup_append.mpr ⟨h.once, List.nodup_singleton _, ?_⟩
    rintro k hk _ hm rfl
    exact hfresh (List.mem_singleton.mp hm ▸ hk)
  · rw [hclosed, hopened]
    intro k hk
    rcases List.mem_append.mp hk with hk | hk
    · exact h.opened k hk
    · obtain rfl := List.mem_singleton.mp hk
      exact ⟨hz, hle⟩
  · rw [hclosed, hopened]
    intro q timer hq hne
    obtain ⟨hbound, hopen⟩ := hquiet.held q timer hq hne
    refine ⟨hbound, ?_⟩
    by_cases hqp : q = p
    · subst hqp
      rw [update_self] at hq
      cases hq
      exact absurd rfl hne
    · rw [update_of_ne hqp] at hq
      have hother : timer.rangeId ≠ t.rangeId := fun he => hqp (h.exclusive q p timer t hq ht hne he)
      simpa using ⟨hopen, hother⟩

lemma accounted_newTimer (h : Accounted r.vendor r.timers) (name : String) (guid : UInt64) (doCreate : Bool) :
    Accounted (newTimer recorder name guid doCreate r).1.vendor
      (newTimer recorder name guid doCreate r).1.timers := by
  have hshown : Accounted (newTimer recorder name guid doCreate r).1.vendor r.timers := by
    cases doCreate
    · exact h
    · exact h.shows rfl rfl
  apply hshown.silence r.nextTimer
  rintro _ ⟨⟩
  rfl

lemma accounted_pushTimer (h : Accounted r.vendor r.timers) {name : String} {guid : UInt64}
    (hs : pushTimer recorder name guid r = some r') : Accounted r'.vendor r'.timers := by
  have hnew := accounted_newTimer h name guid false
  exact accounted_openRange (r := { (newTimer recorder name guid false r).1 with
    timerStack := r.nextTimer :: r.timerStack }) hnew hs

lemma accounted_popTimer (h : Accounted r.vendor r.timers) (hs : popTimer recorder r = some r') :
    Accounted r'.vendor r'.timers := by
  obtain ⟨p, rest, -, hclose⟩ := popTimer_cases hs
  exact accounted_closeRange (r := { r with timerStack := rest }) h hclose

theorem accounted_callback (runtime : Runtime) (h : Accounted r.vendor r.timers) {c : Call Pointer}
    (hs : callback recorder runtime r c = some r') : Accounted r'.vendor r'.timers := by
  cases c with
  | create address name guid _ _ =>
    cases hs
    exact accounted_newTimer h _ guid true
  | schedule timer _ _ =>
    obtain rfl := schedule_cases hs
    exact h.shows rfl rfl
  | start timer _ | resume timer _ => exact accounted_openRange h hs
  | yield timer | stop timer => exact accounted_closeRange h hs
  | destroy timer =>
    obtain ⟨-, rfl⟩ | ⟨-, t, -, rfl⟩ := deleteTimer_cases hs
    · exact h
    · have hshown : Accounted (if t.doDestroy then recorder.doMarker "Timer Destroy" r.vendor else r.vendor)
          r.timers := by
        split_ifs
        · exact h.shows rfl rfl
        · exact h
      apply hshown.silence timer
      rintro _ ⟨⟩
  | dataTransferStart guid _ _ _ _ _ _ =>
    obtain ⟨source, dest, -, -, hpush⟩ := dataTransferStart_cases hs
    exact accounted_pushTimer h hpush
  | commandStart typeName =>
    obtain ⟨name, -, hpush⟩ := commandStart_cases hs
    exact accounted_pushTimer h hpush
  | dataTransferStop _ | commandStop => exact accounted_popTimer h hs
  | sampleValue name value =>
    cases hs
    exact h
  | mark label =>
    obtain ⟨text, -, rfl⟩ := mark_cases hs
    exact h.shows rfl rfl
  | init | finalize | addParents | addChildren =>
    cases hs
    exact h.shows rfl rfl

end Accounts

end TaskStubs.Examples
