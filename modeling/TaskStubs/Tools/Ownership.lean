import Mathlib.Data.Set.Card
import TaskStubs.Tools.EmptyStack

/-! Which timer objects exist, and who answers for them: the application for those that `create` has
returned to it, the stack for those of transfers and commands. -/

namespace TaskStubs.Tools

open Stub Function Library.Lifo Library.Machines

/-- The timer objects: all that are constructed and not deleted, the application's, and the stack's. -/
structure Ledger where
  objects : Finset Pointer := ∅
  held : Finset Pointer := ∅
  stack : List Pointer := []
  next : Pointer := 1

inductive Deed where
  | create
  | destroy (p : Pointer)
  | push
  | pop
  | pass
  deriving DecidableEq

namespace Ledger

/-- What becomes of the objects. To pop one is not to delete it. -/
def step (l : Ledger) : Deed → Option Ledger
  | .create => some { l with objects := insert l.next l.objects
                             held := insert l.next l.held
                             next := l.next + 1 }
  | .destroy p =>
    if p = null then some l
    else if p ∈ l.objects then some { l with objects := l.objects.erase p, held := l.held.erase p }
    else none
  | .push => some { l with objects := insert l.next l.objects
                           stack := l.next :: l.stack
                           next := l.next + 1 }
  | .pop =>
    match l.stack with
    | [] => none
    | _ :: rest => some { l with stack := rest }
  | .pass => some l

def Owned (l : Ledger) : Prop := ∀ p, p ∈ l.objects ↔ p ∈ l.held ∨ p ∈ l.stack

structure Sane (l : Ledger) : Prop where
  next_pos : null < l.next
  objects_lt : ∀ p ∈ l.objects, p < l.next
  held_lt : ∀ p ∈ l.held, p ≠ null ∧ p < l.next
  stack_lt : ∀ p ∈ l.stack, p ≠ null ∧ p < l.next
  stack_nodup : l.stack.Nodup
  apart : ∀ p ∈ l.held, p ∉ l.stack

lemma sane_start : Sane {} := by
  refine ⟨Nat.zero_lt_one, ?_, ?_, ?_, List.nodup_nil, ?_⟩ <;> simp

variable {l l' : Ledger} {d : Deed}

lemma pop_cases (h : l.step .pop = some l') :
    ∃ p rest, l.stack = p :: rest ∧ l' = { l with stack := rest } := by
  rw [step] at h
  cases hs : l.stack with
  | nil => simp [hs] at h
  | cons p rest =>
    simp only [hs, Option.some.injEq] at h
    exact ⟨p, rest, rfl, h.symm⟩

lemma destroy_cases {p : Pointer} (h : l.step (.destroy p) = some l') :
    p = null ∧ l' = l ∨
      p ∈ l.objects ∧ l' = { l with objects := l.objects.erase p, held := l.held.erase p } := by
  rw [step] at h
  split_ifs at h with hp hm
  · exact Or.inl ⟨hp, (Option.some.inj h).symm⟩
  · exact Or.inr ⟨hm, (Option.some.inj h).symm⟩

lemma Sane.objects_lt_succ (hs : l.Sane) : ∀ p ∈ insert l.next l.objects, p < l.next + 1 := by
  intro p hp
  rcases Finset.mem_insert.mp hp with rfl | hp
  · exact Nat.lt_succ_self _
  · exact Nat.lt_succ_of_lt (hs.objects_lt p hp)

lemma Sane.fresh (hs : l.Sane) : l.next ∉ l.objects ∧ l.next ∉ l.held ∧ l.next ∉ l.stack :=
  ⟨fun h => lt_irrefl _ (hs.objects_lt _ h), fun h => lt_irrefl _ (hs.held_lt _ h).2,
    fun h => lt_irrefl _ (hs.stack_lt _ h).2⟩

lemma Sane.step (hs : l.Sane) (h : l.step d = some l') : l'.Sane := by
  have hnew : l.next ≠ null ∧ l.next < l.next + 1 := ⟨hs.next_pos.ne', Nat.lt_succ_self _⟩
  have hheld : ∀ p ∈ l.held, p ≠ null ∧ p < l.next + 1 :=
    fun p hp => ⟨(hs.held_lt p hp).1, Nat.lt_succ_of_lt (hs.held_lt p hp).2⟩
  have hstack : ∀ p ∈ l.stack, p ≠ null ∧ p < l.next + 1 :=
    fun p hp => ⟨(hs.stack_lt p hp).1, Nat.lt_succ_of_lt (hs.stack_lt p hp).2⟩
  cases d with
  | create =>
    cases h
    refine ⟨Nat.succ_pos _, hs.objects_lt_succ, ?_, hstack, hs.stack_nodup, ?_⟩
    · exact Finset.forall_mem_insert _ _ _ |>.mpr ⟨hnew, hheld⟩
    · exact Finset.forall_mem_insert _ _ _ |>.mpr ⟨hs.fresh.2.2, hs.apart⟩
  | destroy p =>
    rcases destroy_cases h with ⟨-, rfl⟩ | ⟨-, rfl⟩
    · exact hs
    · refine ⟨hs.next_pos, ?_, ?_, hs.stack_lt, hs.stack_nodup, ?_⟩
      · exact fun q hq => hs.objects_lt q (Finset.mem_of_mem_erase hq)
      · exact fun q hq => hs.held_lt q (Finset.mem_of_mem_erase hq)
      · exact fun q hq => hs.apart q (Finset.mem_of_mem_erase hq)
  | push =>
    cases h
    refine ⟨Nat.succ_pos _, hs.objects_lt_succ, hheld, ?_, ?_, ?_⟩
    · exact List.forall_mem_cons.mpr ⟨hnew, hstack⟩
    · exact List.nodup_cons.mpr ⟨hs.fresh.2.2, hs.stack_nodup⟩
    · intro p hp
      rw [List.mem_cons, not_or]
      exact ⟨fun he => hs.fresh.2.1 (he ▸ hp), hs.apart p hp⟩
  | pop =>
    obtain ⟨p, rest, hstack, rfl⟩ := pop_cases h
    have hsub : rest ⊆ l.stack := hstack ▸ List.subset_cons_self p rest
    refine ⟨hs.next_pos, hs.objects_lt, hs.held_lt, fun q hq => hs.stack_lt q (hsub hq), ?_, ?_⟩
    · exact (List.nodup_cons.mp (hstack ▸ hs.stack_nodup)).2
    · exact fun q hq hm => hs.apart q hq (hsub hm)
  | pass =>
    cases h
    exact hs

lemma Sane.owned_iff (hs : l.Sane) (ho : l.Owned) (h : l.step d = some l') :
    l'.Owned ↔ d ≠ .pop ∧ ∀ p, d = .destroy p → p ∉ l.stack := by
  cases d with
  | create =>
    cases h
    refine iff_of_true ?_ (by simp)
    intro p
    simp only [Finset.mem_insert, ho p, or_assoc]
  | destroy p =>
    rcases destroy_cases h with ⟨rfl, rfl⟩ | ⟨hp, rfl⟩
    · refine iff_of_true ho ⟨by simp, ?_⟩
      rintro _ ⟨⟩ hm
      exact (hs.stack_lt _ hm).1 rfl
    · simp only [ne_eq, reduceCtorEq, not_false_eq_true, true_and, Deed.destroy.injEq, forall_eq']
      refine ⟨?_, ?_⟩
      · intro hown hm
        exact Finset.notMem_erase p l.objects ((hown p).mpr (Or.inr hm))
      · intro hm q
        change q ∈ l.objects.erase p ↔ q ∈ l.held.erase p ∨ q ∈ l.stack
        rw [Finset.mem_erase, Finset.mem_erase, ho q]
        refine ⟨?_, ?_⟩
        · rintro ⟨hq, hheld | hstack⟩
          · exact Or.inl ⟨hq, hheld⟩
          · exact Or.inr hstack
        · rintro (⟨hq, hheld⟩ | hstack)
          · exact ⟨hq, Or.inl hheld⟩
          · exact ⟨fun he => hm (he ▸ hstack), Or.inr hstack⟩
  | push =>
    cases h
    refine iff_of_true ?_ (by simp)
    intro p
    simp only [Finset.mem_insert, List.mem_cons, ho p]
    exact or_left_comm
  | pop =>
    obtain ⟨p, rest, hstack, rfl⟩ := pop_cases h
    refine iff_of_false ?_ (by simp)
    intro hown
    -- the popped object is left to nobody
    have hp : p ∈ l.stack := hstack ▸ List.mem_cons_self
    rcases (hown p).mp ((ho p).mpr (Or.inr hp)) with hheld | hrest
    · exact hs.apart p hheld hp
    · exact (List.nodup_cons.mp (hstack ▸ hs.stack_nodup)).1 hrest
  | pass =>
    cases h
    exact iff_of_true ho (by simp)

end Ledger

def deed : Call Pointer → Deed
  | .create .. => .create
  | .destroy timer => .destroy timer
  | .dataTransferStart .. => .push
  | .dataTransferStop _ => .pop
  | .commandStart _ => .push
  | .commandStop => .pop
  | _ => .pass

def entered (l : Ledger) (c : Call Pointer) : Option Ledger := l.step (deed c)

def ledger (calls : List (Call Pointer)) : Option Ledger := calls.foldlM entered {}

section Refinement

variable {V A : Type} {vendor : Vendor V A} {runtime : Runtime} {s s' : ToolState V A} {l : Ledger}

def objects (s : ToolState V A) : Set Pointer := {p | (s.timers p).isSome}

structure Enters (s : ToolState V A) (l : Ledger) : Prop where
  objects_eq : objects s = l.objects
  stack_eq : s.timerStack = l.stack
  next_eq : s.nextTimer = l.next

lemma objects_update {p : Pointer} {t : Timer A} (h : s'.timers = update s.timers p (some t)) :
    objects s' = insert p (objects s) := by
  ext q
  by_cases hq : q = p <;> simp [objects, h, hq]

lemma objects_set {p : Pointer} {t u : Timer A} (hp : s.timers p = some t)
    (h : s'.timers = update s.timers p (some u)) : objects s' = objects s := by
  rw [objects_update h]
  exact Set.insert_eq_of_mem (by simp [objects, hp])

lemma objects_erase {p : Pointer} (h : s'.timers = update s.timers p none) :
    objects s' = objects s \ {p} := by
  ext q
  by_cases hq : q = p <;> simp [objects, h, hq]

lemma openRange_objects {p : Pointer} (h : openRange vendor p s = some s') :
    objects s' = objects s ∧ s'.timerStack = s.timerStack ∧ s'.nextTimer = s.nextTimer := by
  obtain ⟨t, ht, ⟨-, rfl⟩ | ⟨-, rfl⟩⟩ := openRange_cases h
  · exact ⟨objects_set ht rfl, rfl, rfl⟩
  · exact ⟨rfl, rfl, rfl⟩

lemma closeRange_objects {p : Pointer} (h : closeRange vendor p s = some s') :
    objects s' = objects s ∧ s'.timerStack = s.timerStack ∧ s'.nextTimer = s.nextTimer := by
  obtain ⟨t, ht, ⟨-, rfl⟩ | ⟨-, rfl⟩⟩ := closeRange_cases h
  · exact ⟨objects_set ht rfl, rfl, rfl⟩
  · exact ⟨rfl, rfl, rfl⟩

lemma newTimer_objects (h : Enters s l) (name : String) (guid : UInt64) (doCreate : Bool) :
    objects (newTimer vendor name guid doCreate s).1 = (insert l.next l.objects : Finset Pointer) := by
  rw [Finset.coe_insert, ← h.objects_eq, ← h.next_eq]
  exact objects_update rfl

lemma pushTimer_enters (h : Enters s l) {name : String} {guid : UInt64}
    (hp : pushTimer vendor name guid s = some s') : ∃ l', l.step .push = some l' ∧ Enters s' l' := by
  obtain ⟨ho, hs, hn⟩ := openRange_objects hp
  refine ⟨_, rfl, ?_, ?_, ?_⟩
  · have hnew : objects (newTimer vendor name guid false s).1 = _ := newTimer_objects h name guid false
    exact ho.trans hnew
  · rw [hs, ← h.next_eq, ← h.stack_eq]
  · rw [hn, ← h.next_eq]

lemma popTimer_enters (h : Enters s l) (hp : popTimer vendor s = some s') :
    ∃ l', l.step .pop = some l' ∧ Enters s' l' := by
  obtain ⟨p, rest, hstack, hclose⟩ := popTimer_cases hp
  obtain ⟨ho, hs, hn⟩ := closeRange_objects hclose
  refine ⟨{ l with stack := rest }, ?_, ho.trans h.objects_eq, hs, hn.trans h.next_eq⟩
  rw [Ledger.step, ← h.stack_eq, hstack]

lemma deleteTimer_enters (h : Enters s l) {p : Pointer} (hp : deleteTimer vendor p s = some s') :
    ∃ l', l.step (.destroy p) = some l' ∧ Enters s' l' := by
  rcases deleteTimer_cases hp with ⟨rfl, rfl⟩ | ⟨hne, t, ht, rfl⟩
  · refine ⟨l, ?_, h⟩
    rw [Ledger.step, if_pos rfl]
  · have hm : p ∈ l.objects := by
      rw [← Finset.mem_coe, ← h.objects_eq]
      simp [objects, ht]
    refine ⟨{ l with objects := l.objects.erase p, held := l.held.erase p }, ?_, ?_, h.stack_eq, h.next_eq⟩
    · rw [Ledger.step, if_neg hne, if_pos hm]
    · rw [Finset.coe_erase, ← h.objects_eq]
      exact objects_erase rfl

lemma Enters.same (h : Enters s l)
    (hs : objects s' = objects s ∧ s'.timerStack = s.timerStack ∧ s'.nextTimer = s.nextTimer) :
    ∃ l', l.step .pass = some l' ∧ Enters s' l' :=
  ⟨l, rfl, hs.1.trans h.objects_eq, hs.2.1.trans h.stack_eq, hs.2.2.trans h.next_eq⟩

lemma callback_enters (h : Enters s l) {c : Call Pointer} (hc : callback vendor runtime s c = some s') :
    ∃ l', entered l c = some l' ∧ Enters s' l' := by
  cases c with
  | create address name guid parents count =>
    cases hc
    refine ⟨_, rfl, ?_, h.stack_eq, ?_⟩
    · exact newTimer_objects h _ _ _
    · rw [← h.next_eq]
      rfl
  | destroy timer => exact deleteTimer_enters h hc
  | dataTransferStart guid source sourceName sourcePtr dest destName destPtr =>
    obtain ⟨_, _, -, -, hp⟩ := dataTransferStart_cases hc
    exact pushTimer_enters h hp
  | commandStart name =>
    obtain ⟨_, -, hp⟩ := commandStart_cases hc
    exact pushTimer_enters h hp
  | dataTransferStop guid => exact popTimer_enters h hc
  | commandStop => exact popTimer_enters h hc
  | start timer resource => exact h.same (openRange_objects hc)
  | resume timer resource => exact h.same (openRange_objects hc)
  | yield timer => exact h.same (closeRange_objects hc)
  | stop timer => exact h.same (closeRange_objects hc)
  | schedule timer arguments count =>
    obtain rfl := schedule_cases hc
    exact h.same ⟨rfl, rfl, rfl⟩
  | sampleValue name value =>
    obtain ⟨v, _, rfl⟩ := Option.map_eq_some_iff.mp hc
    exact h.same ⟨rfl, rfl, rfl⟩
  | mark label =>
    obtain ⟨_, -, rfl⟩ := mark_cases hc
    exact h.same ⟨rfl, rfl, rfl⟩
  | init | finalize | addParents | addChildren =>
    cases hc
    exact h.same ⟨rfl, rfl, rfl⟩

lemma callbacks_enter (h : Enters s l) {calls : List (Call Pointer)}
    (hc : callbacks vendor runtime s calls = some s') :
    ∃ l', calls.foldlM entered l = some l' ∧ Enters s' l' := by
  induction calls generalizing s l with
  | nil =>
    cases hc
    exact ⟨l, rfl, h⟩
  | cons c calls ih =>
    obtain ⟨t, ht, hc⟩ := callbacks_cons.mp hc
    obtain ⟨l₁, hl₁, h₁⟩ := callback_enters h ht
    obtain ⟨l', hl', h'⟩ := ih h₁ hc
    exact ⟨l', foldlM_cons_some.mpr ⟨l₁, hl₁, hl'⟩, h'⟩

lemma enters_start (v : V) : Enters ({ vendor := v } : ToolState V A) {} := by
  refine ⟨?_, rfl, rfl⟩
  simp [objects]

end Refinement

def NoOrphans {V A : Type} (vendor : Vendor V A) (runtime : Runtime) (v : V)
    (calls : List (Call Pointer)) : Prop :=
  ∀ pre post s, calls = pre ++ post → callbacks vendor runtime { vendor := v } pre = some s →
    ∃ l, ledger pre = some l ∧ objects s = {p | p ∈ l.held ∨ p ∈ s.timerStack}

def KeepsOwners (calls : List (Call Pointer)) : Prop :=
  ∀ pre c post l, calls = pre ++ c :: post → ledger pre = some l →
    rangeBracket c ≠ some .closing ∧ ∀ p, c = .destroy p → p ∉ l.stack

lemma deed_pop_iff (c : Call Pointer) : deed c = .pop ↔ rangeBracket c = some .closing := by
  cases c with
  | dataTransferStop => exact iff_of_true rfl rfl
  | commandStop => exact iff_of_true rfl rfl
  | _ => exact iff_of_false (fun h => by cases h) (fun h => by cases h)

lemma deed_destroy_iff (c : Call Pointer) (p : Pointer) : deed c = .destroy p ↔ c = .destroy p := by
  refine ⟨?_, ?_⟩
  · intro h
    cases c with
    | destroy timer =>
      cases h
      rfl
    | _ => cases h
  · rintro rfl
    rfl

lemma keepsOwners_of_create {calls : List (Call Pointer)} (h : ∀ c ∈ calls, c.api = .create) :
    KeepsOwners calls := by
  intro pre c post l hsplit _
  have hc : c.api = .create := h c (by rw [hsplit]; simp)
  refine ⟨?_, ?_⟩
  · intro hclosing
    cases c with
    | create => cases hclosing
    | _ => cases hc
  · rintro p rfl
    cases hc

section Runs

variable {V A : Type} {vendor : Vendor V A} {runtime : Runtime} {v : V} {s s' : ToolState V A}
  {calls : List (Call Pointer)}

lemma Enters.owned_iff {l : Ledger} (h : Enters s l) :
    l.Owned ↔ objects s = {p | p ∈ l.held ∨ p ∈ s.timerStack} := by
  rw [h.objects_eq, h.stack_eq, Set.ext_iff]
  rfl

lemma ledger_sane {l : Ledger} (h : ledger calls = some l) : l.Sane :=
  reached_invariant (fun l _ => l.Sane) Ledger.sane_start (fun _ _ _ _ _ hs h => hs.step h) h

lemma noOrphans_iff (hs : callbacks vendor runtime { vendor := v } calls = some s) :
    NoOrphans vendor runtime v calls ↔ KeepsOwners calls := by
  obtain ⟨final, hfinal, -⟩ := callbacks_enter (enters_start v) hs
  have hiff := good_iff_keeps Ledger.Owned
    (fun l c => rangeBracket c ≠ some .closing ∧ ∀ p, c = .destroy p → p ∉ l.stack) Ledger.Sane
    ⟨Ledger.sane_start, by simp [Ledger.Owned]⟩ (fun _ _ _ hi ht => hi.step ht)
    (fun t c u hi ho hu => by
      have howned := hi.owned_iff ho hu
      simpa only [ne_eq, deed_pop_iff, deed_destroy_iff] using howned) hfinal
  refine Iff.trans ?_ hiff
  refine ⟨?_, ?_⟩
  · intro h pre post l hsplit hl
    obtain ⟨t, ht, -⟩ := callbacks_append.mp (hsplit ▸ hs)
    obtain ⟨l₁, hl₁, henters⟩ := callbacks_enter (enters_start v) ht
    obtain ⟨l₂, hl₂, hobjects⟩ := h pre post t hsplit ht
    obtain rfl := Option.some.inj (hl.symm.trans hl₁)
    obtain rfl := Option.some.inj (hl.symm.trans hl₂)
    exact henters.owned_iff.mpr hobjects
  · intro h pre post t hsplit ht
    obtain ⟨l, hl, henters⟩ := callbacks_enter (enters_start v) ht
    exact ⟨l, hl, henters.owned_iff.mp (h pre post l hsplit hl)⟩

lemma rangeBracket_cases {c : Call Pointer} (h : (rangeBracket c).isSome) :
    deed c = .push ∧ rangeBracket c = some .opening ∨ deed c = .pop ∧ rangeBracket c = some .closing := by
  cases c with
  | dataTransferStart => exact Or.inl ⟨rfl, rfl⟩
  | commandStart => exact Or.inl ⟨rfl, rfl⟩
  | dataTransferStop => exact Or.inr ⟨rfl, rfl⟩
  | commandStop => exact Or.inr ⟨rfl, rfl⟩
  | _ => cases h

lemma ledger_grow {l l' : Ledger} (hl : l.Sane) {w : List (Call Pointer)} (hw : ∀ c ∈ w, (rangeBracket c).isSome)
    (h : w.foldlM entered l = some l') :
    l'.objects.card = l.objects.card + (rangeBrackets w).count .opening := by
  induction w generalizing l with
  | nil =>
    cases h
    rfl
  | cons c w ih =>
    obtain ⟨l₁, hl₁, h⟩ := foldlM_cons_some.mp h
    rw [ih (hl.step hl₁) (fun d hd => hw d (List.mem_cons_of_mem c hd)) h]
    rw [entered] at hl₁
    rcases rangeBracket_cases (hw c List.mem_cons_self) with ⟨hd, hb⟩ | ⟨hd, hb⟩
    · rw [hd] at hl₁
      cases hl₁
      have hcons : rangeBrackets (c :: w) = .opening :: rangeBrackets w := List.filterMap_cons_some hb
      rw [hcons, List.count_cons_self, Finset.card_insert_of_notMem hl.fresh.1]
      exact Nat.add_right_comm _ _ _
    · rw [hd] at hl₁
      obtain ⟨p, rest, -, rfl⟩ := Ledger.pop_cases hl₁
      have hcons : rangeBrackets (c :: w) = .closing :: rangeBrackets w := List.filterMap_cons_some hb
      rw [hcons, List.count_cons_of_ne (by decide)]

lemma balanced_of_no_opening {w : List Bracket} (h : Balanced w) (hw : w.count .opening = 0) : w = [] := by
  cases w with
  | nil => rfl
  | cons b w =>
    cases b with
    | opening => simp at hw
    | closing => cases h

lemma objects_grow (hs : callbacks vendor runtime { vendor := v } calls = some s) {w : List (Call Pointer)}
    (hw : ∀ c ∈ w, (rangeBracket c).isSome) (hbal : Balanced (rangeBrackets w))
    (hs' : callbacks vendor runtime s w = some s') :
    (objects s').ncard ≤ (objects s).ncard ↔ w = [] := by
  obtain ⟨l, hl, henters⟩ := callbacks_enter (enters_start v) hs
  obtain ⟨l', hl', henters'⟩ := callbacks_enter henters hs'
  have hcard := ledger_grow (ledger_sane hl) hw hl'
  rw [henters.objects_eq, henters'.objects_eq, Set.ncard_coe_finset, Set.ncard_coe_finset, hcard]
  refine ⟨?_, ?_⟩
  · intro hle
    have hnil := balanced_of_no_opening hbal (by omega)
    rw [rangeBrackets, List.filterMap_eq_nil_iff] at hnil
    cases w with
    | nil => rfl
    | cons c w =>
      have hc := hw c List.mem_cons_self
      rw [hnil c List.mem_cons_self] at hc
      cases hc
  · rintro rfl
    exact le_rfl

end Runs

theorem no_orphans_iff (runtime : Runtime) (nvtx : Nvtx.Library) (roctx : Roctx.Library)
    (calls : List (Call Pointer)) :
    (∀ v s, callbacks (Nvtx.vendor nvtx) runtime { vendor := v } calls = some s →
      (NoOrphans (Nvtx.vendor nvtx) runtime v calls ↔ KeepsOwners calls) ∧
        ∀ w s', (∀ c ∈ w, (rangeBracket c).isSome) → Balanced (rangeBrackets w) →
          callbacks (Nvtx.vendor nvtx) runtime s w = some s' →
            ((objects s').ncard ≤ (objects s).ncard ↔ w = [])) ∧
    ∀ v s, callbacks (Roctx.vendor roctx) runtime { vendor := v } calls = some s →
      (NoOrphans (Roctx.vendor roctx) runtime v calls ↔ KeepsOwners calls) ∧
        ∀ w s', (∀ c ∈ w, (rangeBracket c).isSome) → Balanced (rangeBrackets w) →
          callbacks (Roctx.vendor roctx) runtime s w = some s' →
            ((objects s').ncard ≤ (objects s).ncard ↔ w = []) := by
  refine ⟨?_, ?_⟩
  · intro v s hs
    exact ⟨noOrphans_iff hs, fun w s' hw hbal hs' => objects_grow hs hw hbal hs'⟩
  · intro v s hs
    exact ⟨noOrphans_iff hs, fun w s' hw hbal hs' => objects_grow hs hw hbal hs'⟩

def commandRun : List (Call Pointer) := [.commandStart (some "a"), .commandStop]

theorem no_orphans_iff_nested :
    ∃ s s', callbacks (Nvtx.vendor Nvtx.freshLibrary) noSymbols { vendor := {} }
        [.create null (some "b") 1 none 0] = some s ∧
      NoOrphans (Nvtx.vendor Nvtx.freshLibrary) noSymbols {} [.create null (some "b") 1 none 0] ∧
      callbacks (Nvtx.vendor Nvtx.freshLibrary) noSymbols s commandRun = some s' ∧
      ¬ (objects s').ncard ≤ (objects s).ncard := by
  obtain ⟨s', hall⟩ := Option.isSome_iff_exists.mp (by decide +kernel : (callbacks
    (Nvtx.vendor Nvtx.freshLibrary) noSymbols { vendor := {} }
      ([.create null (some "b") 1 none 0] ++ commandRun)).isSome)
  obtain ⟨s, hs, hs'⟩ := callbacks_append.mp hall
  obtain ⟨howners, hnested⟩ :=
    (no_orphans_iff noSymbols Nvtx.freshLibrary Roctx.freshLibrary _).1 {} s hs
  refine ⟨s, s', hs, howners.mpr (keepsOwners_of_create (by decide)), hs', ?_⟩
  rw [hnested commandRun s' (by decide) (by decide) hs']
  decide

theorem command_orphaned :
    ((callbacks (Nvtx.vendor Nvtx.freshLibrary) noSymbols { vendor := {} } commandRun).map
        (fun s => ((s.timers 1).isSome, s.timerStack)) = some (true, []) ∧
      ¬ NoOrphans (Nvtx.vendor Nvtx.freshLibrary) noSymbols {} commandRun) ∧
    (callbacks (Roctx.vendor Roctx.freshLibrary) noSymbols { vendor := [] } commandRun).map
        (fun s => ((s.timers 1).isSome, s.timerStack)) = some (true, []) ∧
      ¬ NoOrphans (Roctx.vendor Roctx.freshLibrary) noSymbols [] commandRun := by
  have hleak : ¬ KeepsOwners commandRun := by
    intro h
    exact (h [.commandStart (some "a")] .commandStop [] _ rfl rfl).1 rfl
  refine ⟨⟨by decide +kernel, ?_⟩, by decide +kernel, ?_⟩
  · intro h
    obtain ⟨s, hs⟩ := Option.isSome_iff_exists.mp (by decide +kernel : (callbacks
      (Nvtx.vendor Nvtx.freshLibrary) noSymbols { vendor := {} } commandRun).isSome)
    exact hleak ((noOrphans_iff hs).mp h)
  · intro h
    obtain ⟨s, hs⟩ := Option.isSome_iff_exists.mp (by decide +kernel : (callbacks
      (Roctx.vendor Roctx.freshLibrary) noSymbols { vendor := [] } commandRun).isSome)
    exact hleak ((noOrphans_iff hs).mp h)

end TaskStubs.Tools
