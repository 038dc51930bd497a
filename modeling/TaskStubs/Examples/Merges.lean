import TaskStubs.Examples.Scripts

/-! What several threads show together: the moves of their scripts, shuffled. The ranges are numbered anew,
and a command or a transfer of one thread may close the range that another has pushed. -/

namespace TaskStubs.Examples

open Stub Tools Function Library.Lifo

/-- The number in the process of a thread's `k`-th range; 0 stays 0. -/
def place (ranges : List ℕ) : ℕ → ℕ
  | 0 => 0
  | k + 1 => ranges.getD k 0

lemma place_append {ranges : List ℕ} {k : ℕ} (h : k ≤ ranges.length) (n : ℕ) :
    place (ranges ++ [n]) k = place ranges k := by
  cases k with
  | zero => rfl
  | succ k => rw [place, place, List.getD_eq_getElem?_getD, List.getElem?_append_left h, List.getD_eq_getElem?_getD]

lemma place_new (ranges : List ℕ) (n : ℕ) : place (ranges ++ [n]) (ranges.length + 1) = n := by
  simp [place]

lemma place_eq_zero {ranges : List ℕ} (h : 0 ∉ ranges) {k : ℕ} (hk : k ≤ ranges.length) :
    place ranges k = 0 ↔ k = 0 := by
  cases k with
  | zero => exact iff_of_true rfl rfl
  | succ k =>
    refine iff_of_false ?_ (Nat.succ_ne_zero k)
    rw [place, List.getD_eq_getElem?_getD, List.getElem?_eq_getElem hk]
    exact fun hz => h (hz ▸ List.getElem_mem hk)

structure Merge (τ : Type) where
  shown : List Event := []
  ranges : τ → List ℕ := fun _ => []
  stack : List ℕ := []

variable {τ : Type} [DecidableEq τ]

def Merge.opens (m : Merge τ) (t : τ) (text : String) : Merge τ :=
  { m with shown := m.shown ++ [.opened text]
           ranges := update m.ranges t (m.ranges t ++ [openings m.shown + 1]) }

def Merge.shows (m : Merge τ) (events : List Event) : Merge τ := { m with shown := m.shown ++ events }

def Merge.push (m : Merge τ) (opening : ℕ) : Merge τ := { m with stack := opening :: m.stack }

def Merge.pop (m : Merge τ) : Merge τ := { m with stack := m.stack.tail }

/-- A task closes its own range. What is popped is whatever was pushed last. -/
def Merge.add (m : Merge τ) : τ × Move → Merge τ
  | (_, .shown e) => m.shows [e]
  | (t, .opened text) => m.opens t text
  | (t, .closed k) => m.shows [.closed (place (m.ranges t) k)]
  | (t, .pushed text) => (m.opens t text).push (openings m.shown + 1)
  | (_, .popped _) => (m.shows [.closed (m.stack.headD 0)]).pop

def merged (log : List (τ × Move)) : Merge τ := log.foldl Merge.add {}

def Merge.addAll (m : Merge τ) (t : τ) (moves : List Move) : Merge τ :=
  (moves.map (fun move => (t, move))).foldl Merge.add m

lemma merged_append (log : List (τ × Move)) (t : τ) (moves : List Move) :
    merged (log ++ moves.map (fun move => (t, move))) = (merged log).addAll t moves :=
  List.foldl_append

lemma opens_ranges (m : Merge τ) (t : τ) (text : String) :
    (m.opens t text).ranges t = m.ranges t ++ [openings m.shown + 1] :=
  update_self _ _ _

lemma opens_ranges_of_ne (m : Merge τ) {t u : τ} (h : u ≠ t) (text : String) :
    (m.opens t text).ranges u = m.ranges u :=
  update_of_ne h _ _

lemma addAll_shown (m : Merge τ) (t : τ) (events : List Event) :
    m.addAll t (events.map .shown) = m.shows events := by
  induction events generalizing m with
  | nil => simp [Merge.addAll, Merge.shows]
  | cons e events ih =>
    change (m.shows [e]).addAll t (events.map .shown) = _
    rw [ih]
    simp [Merge.shows]

structure Numbers (ranges : List ℕ) (v : View) : Prop where
  length_eq : ranges.length = v.opened
  positive : 0 ∉ ranges
  tasks_le : ∀ task ∈ v.tasks, task.2 ≤ v.opened
  pushed_le : ∀ k ∈ v.pushed, k ≤ v.opened

variable {v : View} {ranges : List ℕ} {name : String} {current : ℕ}

lemma Numbers.enter (h : Numbers ranges v) (name : String) (hc : current ≤ v.opened) :
    Numbers ranges (v.enter name current) :=
  ⟨h.length_eq, h.positive, List.forall_mem_cons.mpr ⟨hc, h.tasks_le⟩, h.pushed_le⟩

lemma Numbers.leave (h : Numbers ranges (v.enter name current)) : Numbers ranges v :=
  ⟨h.length_eq, h.positive, (List.forall_mem_cons.mp h.tasks_le).2, h.pushed_le⟩

lemma Numbers.opens (h : Numbers ranges v) (n : ℕ) : Numbers (ranges ++ [n + 1]) v.opens := by
  refine ⟨?_, ?_, fun task ht => Nat.le_succ_of_le (h.tasks_le task ht), fun k hk =>
    Nat.le_succ_of_le (h.pushed_le k hk)⟩
  · rw [List.length_append, h.length_eq]
    rfl
  · simp [h.positive]

lemma Numbers.push (h : Numbers ranges v) {k : ℕ} (hk : k ≤ v.opened) : Numbers ranges (v.push k) :=
  ⟨h.length_eq, h.positive, h.tasks_le, List.forall_mem_cons.mpr ⟨hk, h.pushed_le⟩⟩

lemma Numbers.pop {k : ℕ} (h : Numbers ranges (v.push k)) : Numbers ranges v :=
  ⟨h.length_eq, h.positive, h.tasks_le, (List.forall_mem_cons.mp h.pushed_le).2⟩

lemma Numbers.current_le (h : Numbers ranges (v.enter name current)) : current ≤ ranges.length :=
  (List.forall_mem_cons.mp h.tasks_le).1.trans_eq h.length_eq.symm

lemma addAll_closing (m : Merge τ) (t : τ) (h : Numbers (m.ranges t) (v.enter name current)) :
    m.addAll t (closingMoves current) = m.shows (closing (place (m.ranges t) current)) := by
  rw [closingMoves, closing]
  by_cases hc : current = 0
  · rw [if_pos hc, if_pos ((place_eq_zero h.positive h.current_le).mpr hc)]
    simp [Merge.addAll, Merge.shows]
  · rw [if_neg hc, if_neg (fun hz => hc ((place_eq_zero h.positive h.current_le).mp hz))]
    rfl

structure Apart {ι : Type} (lists : ι → List Pointer) (next : Pointer) : Prop where
  nodup : ∀ i, (lists i).Nodup
  disjoint : ∀ i j p, p ∈ lists i → p ∈ lists j → i = j
  below : ∀ i, ∀ p ∈ lists i, p < next

lemma Apart.sublist {ι : Type} {lists lists' : ι → List Pointer} {next next' : Pointer} (h : Apart lists next)
    (hs : ∀ i, (lists' i).Sublist (lists i)) (hn : next ≤ next') : Apart lists' next' where
  nodup i := (h.nodup i).sublist (hs i)
  disjoint i j p hi hj := h.disjoint i j p ((hs i).subset hi) ((hs j).subset hj)
  below i p hp := (h.below i p ((hs i).subset hp)).trans_le hn

lemma Apart.cons {ι : Type} [DecidableEq ι] {lists : ι → List Pointer} {next : Pointer} (h : Apart lists next)
    (i : ι) : Apart (update lists i (next :: lists i)) (next + 1) := by
  have hmem : ∀ j p, p ∈ update lists i (next :: lists i) j → p ∈ lists j ∨ p = next ∧ j = i := by
    intro j p hp
    by_cases hj : j = i
    · subst hj
      rw [update_self] at hp
      exact (List.mem_cons.mp hp).symm.imp id (fun he => ⟨he, rfl⟩)
    · rw [update_of_ne hj] at hp
      exact Or.inl hp
  have hnew : ∀ j, next ∉ lists j := fun j hm => lt_irrefl _ (h.below j next hm)
  refine ⟨?_, ?_, ?_⟩
  · intro j
    by_cases hj : j = i
    · subst hj
      rw [update_self]
      exact List.nodup_cons.mpr ⟨hnew j, h.nodup j⟩
    · rw [update_of_ne hj]
      exact h.nodup j
  · intro j k p hj hk
    rcases hmem j p hj with hpj | ⟨rfl, rfl⟩ <;> rcases hmem k _ hk with hpk | ⟨he, rfl⟩
    · exact h.disjoint j k p hpj hpk
    · exact absurd (he ▸ hpj) (hnew j)
    · exact absurd hpk (hnew k)
    · rfl
  · intro j p hp
    rcases hmem j p hp with hp | ⟨rfl, -⟩
    · exact Nat.lt_succ_of_lt (h.below j p hp)
    · exact Nat.lt_succ_self _

def pool (timers : τ → List Pointer) (stack : List Pointer) : Option τ → List Pointer
  | none => stack
  | some t => timers t

lemma pool_update (timers : τ → List Pointer) (stack ps : List Pointer) (t : τ) :
    pool (update timers t ps) stack = update (pool timers stack) (some t) ps := by
  funext i
  cases i with
  | none => rfl
  | some u =>
    by_cases hu : u = t
    · subst hu
      simp [pool]
    · simp [pool, hu]

lemma pool_stack (timers : τ → List Pointer) (stack ps : List Pointer) :
    pool timers ps = update (pool timers stack) none ps := by
  funext i
  cases i <;> simp [pool]

lemma forall₂_mem {A B : Type} {R S : A → B → Prop} {xs : List A} {ys : List B} (h : List.Forall₂ R xs ys)
    (hs : ∀ x ∈ xs, ∀ y ∈ ys, R x y → S x y) : List.Forall₂ S xs ys := by
  induction h with
  | nil => exact .nil
  | cons hxy _ ih =>
    refine .cons (hs _ List.mem_cons_self _ List.mem_cons_self hxy) (ih ?_)
    exact fun x hx y hy => hs x (List.mem_cons_of_mem _ hx) y (List.mem_cons_of_mem _ hy)

def HoldsTask (r : ToolState (List Event) Unit) (ranges : List ℕ) (p : Pointer) (task : String × ℕ) : Prop :=
  Examples.Holds r p task.1 (place ranges task.2)

def HoldsPushed (r : ToolState (List Event) Unit) (p : Pointer) (k : ℕ) : Prop :=
  k ≠ 0 ∧ ∃ name, Examples.Holds r p name k

structure Together (timers : τ → List Pointer) (views : τ → View) (m : Merge τ)
    (r : ToolState (List Event) Unit) : Prop where
  vendor_eq : r.vendor = .marker "TaskStubs Initialize" :: m.shown
  tasks : ∀ t, List.Forall₂ (HoldsTask r (m.ranges t)) (timers t) (views t).tasks
  stack : List.Forall₂ (HoldsPushed r) r.timerStack m.stack
  numbers : ∀ t, Numbers (m.ranges t) (views t)
  apart : Apart (pool timers r.timerStack) r.nextTimer

section Effects

variable {timers : τ → List Pointer} {views : τ → View} {m m' : Merge τ} {r r' : ToolState (List Event) Unit} {t : τ}
  {p : Pointer} {ps : List Pointer}

lemma holds_frame {text : String} {k : ℕ} (h : Examples.Holds r p text k) (he : r'.timers p = r.timers p) :
    Examples.Holds r' p text k := by
  obtain ⟨timer, ht, hnamed⟩ := h
  exact ⟨timer, he.trans ht, hnamed⟩

lemma tasks_frame {tasks : List (String × ℕ)} (h : List.Forall₂ (HoldsTask r ranges) ps tasks)
    (he : ∀ q ∈ ps, r'.timers q = r.timers q) : List.Forall₂ (HoldsTask r' ranges) ps tasks :=
  forall₂_mem h (fun q hq _ _ hold => holds_frame hold (he q hq))

lemma stack_frame {opened : List ℕ} (h : List.Forall₂ (HoldsPushed r) ps opened)
    (he : ∀ q ∈ ps, r'.timers q = r.timers q) : List.Forall₂ (HoldsPushed r') ps opened := by
  apply forall₂_mem h
  rintro q hq k - ⟨hk, text, hold⟩
  exact ⟨hk, text, holds_frame hold (he q hq)⟩

omit [DecidableEq τ] in
lemma Together.openings_eq (h : Together timers views m r) : openings r.vendor = openings m.shown := by
  rw [h.vendor_eq]
  simp [openings]

omit [DecidableEq τ] in
lemma Together.shows (h : Together timers views m r) (events : List Event) :
    Together timers views (m.shows events) { r with vendor := r.vendor ++ events } where
  vendor_eq := by
    rw [h.vendor_eq]
    rfl
  tasks := h.tasks
  stack := h.stack
  numbers := h.numbers
  apart := h.apart

lemma Together.create (h : Together timers views m r) (t : τ) (name : String) (guid : UInt64) :
    Together (update timers t (r.nextTimer :: timers t)) (update views t ((views t).enter name 0))
      (m.shows [.created name]) (newTimer recorder name guid true r).1 := by
  have hframe : ∀ q, q < r.nextTimer → (newTimer recorder name guid true r).1.timers q = r.timers q :=
    fun q hq => update_of_ne hq.ne _ _
  have htasks : ∀ u, List.Forall₂ (HoldsTask (newTimer recorder name guid true r).1 (m.ranges u)) (timers u)
      (views u).tasks := by
    intro u
    exact tasks_frame (h.tasks u) (fun q hq => hframe q (h.apart.below (some u) q hq))
  refine ⟨?_, ?_, ?_, ?_, ?_⟩
  · exact (h.shows [.created name]).vendor_eq
  · intro u
    by_cases hu : u = t
    · subst hu
      rw [update_self, update_self]
      exact .cons ⟨_, update_self _ _ _, rfl, rfl⟩ (htasks u)
    · rw [update_of_ne hu, update_of_ne hu]
      exact htasks u
  · exact stack_frame h.stack (fun q hq => hframe q (h.apart.below none q hq))
  · intro u
    by_cases hu : u = t
    · subst hu
      rw [update_self]
      exact (h.numbers u).enter name (Nat.zero_le _)
    · rw [update_of_ne hu]
      exact h.numbers u
  · rw [pool_update]
    exact h.apart.cons (some t)

lemma Together.top (h : Together timers views m r) (ht : timers t = p :: ps) {v w : View} {current' : ℕ}
    {events : List Event} (hv : views t = v.enter name current)
    (hwithin : Within p name (place (m.ranges t) current) (place (m'.ranges t) current') r r' events)
    (hshown : m'.shown = m.shown ++ events) (hstack : m'.stack = m.stack)
    (hranges : ∀ u, u ≠ t → m'.ranges u = m.ranges u)
    (hplace : ∀ k ≤ (views t).opened, place (m'.ranges t) k = place (m.ranges t) k) (hw : w.tasks = v.tasks)
    (hnumbers : Numbers (m'.ranges t) (w.enter name current')) :
    Together timers (update views t (w.enter name current')) m' r' := by
  have hframe : ∀ i, ∀ q ∈ pool timers r.timerStack i, q ≠ p → r'.timers q = r.timers q :=
    fun i q hq hne => hwithin.others q hne (h.apart.below i q hq)
  have hp : p ∈ timers t := ht ▸ List.mem_cons_self
  have hne : ∀ i, i ≠ some t → ∀ q ∈ pool timers r.timerStack i, q ≠ p := by
    rintro i hi q hq rfl
    exact hi (h.apart.disjoint i (some t) q hq hp)
  refine ⟨?_, ?_, ?_, ?_, ?_⟩
  · rw [hwithin.vendor_eq, h.vendor_eq, hshown, List.cons_append]
  · intro u
    have htasks := h.tasks u
    by_cases hu : u = t
    · subst hu
      have hnodup := h.apart.nodup (some u)
      change (timers u).Nodup at hnodup
      have hbound := (h.numbers u).tasks_le
      rw [ht] at htasks hnodup
      rw [hv] at htasks hbound
      rw [ht, update_self]
      cases htasks with
      | cons hhead htail =>
        refine .cons (hwithin.own hhead) ?_
        rw [hw]
        refine forall₂_mem htail ?_
        intro q hq task htask hold
        have hqp : q ≠ p := ne_of_mem_of_not_mem hq (List.nodup_cons.mp hnodup).1
        have hmem : q ∈ timers u := by
          rw [ht]
          exact List.mem_cons_of_mem p hq
        have hold' := holds_frame hold (hframe (some u) q hmem hqp)
        rwa [HoldsTask, hplace _ (by rw [hv]; exact hbound task (List.mem_cons_of_mem _ htask))]
    · rw [update_of_ne hu, hranges u hu]
      have hi : some u ≠ some t := fun he => hu (Option.some.inj he)
      exact tasks_frame htasks (fun q hq => hframe (some u) q hq (hne _ hi q hq))
  · rw [hwithin.stack_eq, hstack]
    have hi : none ≠ some t := (Option.some_ne_none t).symm
    exact stack_frame h.stack (fun q hq => hframe none q hq (hne _ hi q hq))
  · intro u
    by_cases hu : u = t
    · subst hu
      rwa [update_self]
    · rw [update_of_ne hu, hranges u hu]
      exact h.numbers u
  · rw [hwithin.stack_eq]
    exact h.apart.sublist (fun _ => List.Sublist.refl _) hwithin.next_le

omit [DecidableEq τ] in
lemma Together.head (h : Together timers views m r) {v : View} (hv : views t = v.enter name current) :
    ∃ p ps, timers t = p :: ps ∧ Examples.Holds r p name (place (m.ranges t) current) := by
  have htasks := h.tasks t
  rw [hv] at htasks
  cases ht : timers t with
  | nil =>
    rw [ht] at htasks
    cases htasks
  | cons p ps =>
    rw [ht] at htasks
    cases htasks with
    | cons hhead _ => exact ⟨p, ps, rfl, hhead⟩

lemma Together.opened (h : Together timers views m r) {v : View} (hv : views t = v.enter name 0) :
    ∃ r', openRange recorder ((timers t).headD null) r = some r' ∧
      Together timers (update views t (v.opens.enter name (v.opened + 1))) (m.opens t name) r' := by
  obtain ⟨p, ps, ht, hold⟩ := h.head hv
  obtain ⟨r', hopen, hw⟩ := within_open hold
  rw [place, if_pos rfl, if_pos rfl, h.openings_eq] at hw
  have hnumbers := h.numbers t
  rw [hv] at hnumbers
  have hnew : place ((m.opens t name).ranges t) (v.opened + 1) = openings m.shown + 1 := by
    have hlength : (m.ranges t).length = v.opened := hnumbers.length_eq
    rw [opens_ranges, ← hlength, place_new]
  rw [← hnew] at hw
  refine ⟨r', ?_, ?_⟩
  · rw [ht]
    exact hopen
  · refine h.top ht hv hw rfl rfl (fun u hu => opens_ranges_of_ne m hu name) ?_ rfl ?_
    · intro k hk
      rw [opens_ranges, place_append (hk.trans_eq (h.numbers t).length_eq.symm)]
    · rw [opens_ranges]
      exact (hnumbers.leave.opens _).enter name le_rfl

lemma Together.closed (h : Together timers views m r) {v : View} (hv : views t = v.enter name current) :
    ∃ r', closeRange recorder ((timers t).headD null) r = some r' ∧
      Together timers (update views t (v.enter name 0)) (m.addAll t (closingMoves current)) r' := by
  obtain ⟨p, ps, ht, hold⟩ := h.head hv
  obtain ⟨r', hclose, hw⟩ := within_close hold
  have hnumbers := h.numbers t
  rw [hv] at hnumbers
  rw [addAll_closing m t hnumbers]
  refine ⟨r', ?_, ?_⟩
  · rw [ht]
    exact hclose
  · exact h.top ht hv hw rfl rfl (fun _ _ => rfl) (fun _ _ => rfl) rfl (hnumbers.leave.enter name (Nat.zero_le _))

lemma Together.leave (h : Together timers views m r) {v : View} (hv : views t = v.enter name current) :
    Together (update timers t (timers t).tail) (update views t v) m r := by
  have htasks := h.tasks t
  rw [hv] at htasks
  refine ⟨h.vendor_eq, ?_, h.stack, ?_, ?_⟩
  · intro u
    by_cases hu : u = t
    · subst hu
      rw [update_self, update_self]
      generalize timers u = ps at htasks
      cases htasks with
      | cons _ htail => exact htail
    · rw [update_of_ne hu, update_of_ne hu]
      exact h.tasks u
  · intro u
    by_cases hu : u = t
    · subst hu
      rw [update_self]
      exact (hv ▸ h.numbers u).leave
    · rw [update_of_ne hu]
      exact h.numbers u
  · refine h.apart.sublist ?_ le_rfl
    intro i
    rw [pool_update]
    by_cases hi : i = some t
    · subst hi
      rw [update_self]
      exact List.tail_sublist _
    · rw [update_of_ne hi]

lemma Together.push (h : Together timers views m r) (t : τ) (text : String) (guid : UInt64) :
    Together timers (update views t ((views t).opens.push ((views t).opened + 1)))
      ((m.opens t text).push (openings m.shown + 1)) (afterPush text guid r) := by
  have hframe : ∀ q, q < r.nextTimer → (afterPush text guid r).timers q = r.timers q :=
    fun q hq => update_of_ne hq.ne _ _
  refine ⟨(h.shows [.opened text]).vendor_eq, ?_, ?_, ?_, ?_⟩
  · intro u
    change List.Forall₂ (HoldsTask (afterPush text guid r) ((m.opens t text).ranges u)) (timers u) _
    by_cases hu : u = t
    · subst hu
      rw [update_self, opens_ranges]
      refine forall₂_mem (h.tasks u) ?_
      intro q hq task htask hold
      have hbound := ((h.numbers u).tasks_le task htask).trans_eq (h.numbers u).length_eq.symm
      rw [HoldsTask, place_append hbound]
      exact holds_frame hold (hframe q (h.apart.below (some u) q hq))
    · rw [update_of_ne hu, opens_ranges_of_ne m hu]
      exact tasks_frame (h.tasks u) (fun q hq => hframe q (h.apart.below (some u) q hq))
  · refine .cons ⟨Nat.succ_ne_zero _, text, ⟨_, update_self _ _ _, rfl, congrArg Nat.succ h.openings_eq⟩⟩ ?_
    exact stack_frame h.stack (fun q hq => hframe q (h.apart.below none q hq))
  · intro u
    change Numbers ((m.opens t text).ranges u) _
    by_cases hu : u = t
    · subst hu
      rw [update_self, opens_ranges]
      exact ((h.numbers u).opens _).push le_rfl
    · rw [update_of_ne hu, opens_ranges_of_ne m hu]
      exact h.numbers u
  · change Apart (pool timers (r.nextTimer :: r.timerStack)) _
    rw [pool_stack timers r.timerStack]
    exact h.apart.cons none

omit [DecidableEq τ] in
lemma Together.stack_head (h : Together timers views m r) (hm : m.stack ≠ []) :
    ∃ q rest opening stack, r.timerStack = q :: rest ∧ m.stack = opening :: stack ∧ HoldsPushed r q opening ∧
      List.Forall₂ (HoldsPushed r) rest stack := by
  have hstack := h.stack
  obtain ⟨opening, stack, hms⟩ := List.exists_cons_of_ne_nil hm
  rw [hms] at hstack
  generalize r.timerStack = qs at hstack
  cases hstack with
  | cons hhead htail => exact ⟨_, _, opening, stack, rfl, hms, hhead, htail⟩

lemma Together.pop (h : Together timers views m r) {v : View} {k : ℕ} (hv : views t = v.push k)
    (hm : m.stack ≠ []) : ∃ r', popTimer recorder r = some r' ∧
      Together timers (update views t v) (m.shows [.closed (m.stack.headD 0)]).pop r' := by
  obtain ⟨q, rest, opening, stack, hrs, hms, ⟨hne, text, hold⟩, htail⟩ := h.stack_head hm
  have hold' : Examples.Holds { r with timerStack := rest } q text opening := hold
  obtain ⟨r', hclose, hw⟩ := within_close hold'
  rw [closing, if_neg hne] at hw
  have hframe : ∀ i, ∀ p ∈ pool timers r.timerStack i, p ≠ q → r'.timers p = r.timers p :=
    fun i p hp hpq => hw.others p hpq (h.apart.below i p hp)
  have hmem : ∀ p ∈ q :: rest, p ∈ pool timers r.timerStack none := by
    intro p hp
    rw [← hrs] at hp
    exact hp
  have hnodup : (q :: rest).Nodup := hrs ▸ h.apart.nodup none
  refine ⟨r', ?_, ?_, ?_, ?_, ?_, ?_⟩
  · rw [popTimer, hrs]
    exact hclose
  · rw [hw.vendor_eq, h.vendor_eq, hms]
    rfl
  · intro u
    have hviews : (update views t v u).tasks = (views u).tasks := by
      by_cases hu : u = t
      · subst hu
        rw [update_self, hv]
        rfl
      · rw [update_of_ne hu]
    rw [hviews]
    refine tasks_frame (h.tasks u) (fun p hp => hframe (some u) p hp ?_)
    rintro rfl
    have hsame := h.apart.disjoint (some u) none p hp (hmem p List.mem_cons_self)
    exact absurd hsame (Option.some_ne_none u)
  · rw [hw.stack_eq]
    change List.Forall₂ _ rest m.stack.tail
    rw [hms]
    apply stack_frame htail
    intro p hp
    apply hframe none p (hmem p (List.mem_cons_of_mem q hp))
    exact ne_of_mem_of_not_mem hp (List.nodup_cons.mp hnodup).1
  · intro u
    by_cases hu : u = t
    · subst hu
      rw [update_self]
      exact (hv ▸ h.numbers u).pop
    · rw [update_of_ne hu]
      exact h.numbers u
  · apply h.apart.sublist _ hw.next_le
    intro i
    cases i with
    | none =>
      change r'.timerStack.Sublist r.timerStack
      rw [hw.stack_eq, hrs]
      exact List.sublist_cons_self q rest
    | some u => exact List.Sublist.refl _

end Effects

end TaskStubs.Examples
