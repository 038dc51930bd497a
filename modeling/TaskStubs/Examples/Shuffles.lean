import TaskStubs.Examples.Accounts
import TaskStubs.Examples.Merges

/-! Any number of instrumented programs in the threads of one process, whatever the order of their calls. -/

namespace TaskStubs.Examples

open Stub Tools Function Library.Lifo

variable {τ : Type} [DecidableEq τ] {V A : Type} {vendor : Vendor V A} {createText : String → String}
  {session : Session vendor createText} {runtime : Runtime} {env : Linker} {sample : String → List Event}

variable (runtime) in
lemma call_push {c : RangeCall} {text : String} (h : rangeText c = some text) :
    ∃ guid, ∀ r, callback recorder runtime r c.call = pushTimer recorder text guid r := by
  cases c with
  | transferStart guid source _ _ dest _ _ =>
    cases h
    exact ⟨guid, fun _ => rfl⟩
  | commandStart typeName =>
    cases h
    exact ⟨0, fun _ => rfl⟩
  | transferStop | commandStop => cases h

lemma call_pop {c : RangeCall} (h : rangeText c = none) (r : ToolState (List Event) Unit) :
    callback recorder runtime r c.call = popTimer recorder r := by
  cases c with
  | transferStart | commandStart => cases h
  | transferStop | commandStop => rfl

section Turn

variable {timers : τ → List Pointer} {views : τ → View} {m : Merge τ} {r r' : ToolState (List Event) Unit}
  {a : App (Option (ToolState V A))} {t : τ}

variable (session env) in
structure Joint (a : App (Option (ToolState V A))) (timers : τ → List Pointer) (views : τ → View) (m : Merge τ)
    (r : ToolState (List Event) Unit) : Prop where
  live : Live session env a r
  together : Together timers views m r
  accounted : Accounted r.vendor r.timers

variable {object : Provider} (hone : SuppliedBy env object)

include hone

omit [DecidableEq τ] in
lemma joint_notify (h : Joint session env a timers views m r) {c : Call Pointer} (hc : InSession c)
    (hr : callback recorder runtime r c = some r') {timers' : τ → List Pointer} {views' : τ → View} {m' : Merge τ}
    (ht : Together timers' views' m' r') :
    Joint session env (notify env (vendorTool vendor runtime) c a).2 timers' views' m' r' :=
  ⟨notify_recorded hone h.live hc hr, ht, accounted_callback runtime h.accounted hr⟩

theorem joint_execute (hsample : Samples session runtime sample)
    (hquiet : ∀ name, openings (sample name) = 0 ∧ closings (sample name) = [])
    (h : Joint session env a timers views m r) {i : Instruction} {moves : List Move} {w : View}
    (hs : Step runtime sample i (views t) moves w) (hpop : ∀ k, moves = [.popped k] → m.stack ≠ []) {f : Frames}
    (hf : f.timers = timers t) :
    ∃ r', Joint session env (i.execute env (vendorTool vendor runtime) f a).2
      (update timers t (i.execute env (vendorTool vendor runtime) f a).1.timers) (update views t w)
      (m.addAll t moves) r' := by
  have hsame : update timers t f.timers = timers := by rw [hf, update_eq_self]
  have htimer : f.timer = (timers t).headD null := by rw [Frames.timer, hf]
  have hcalled : ∀ {c : Call Pointer} {r' : ToolState (List Event) Unit} {views' : τ → View} {m' : Merge τ},
      InSession c → callback recorder runtime r c = some r' → Together timers views' m' r' →
        Joint session env (notify env (vendorTool vendor runtime) c a).2 (update timers t f.timers) views' m' r' := by
    intro c r' views' m' hc hr ht
    rw [hsame]
    exact joint_notify hone h hc hr ht
  generalize hv : views t = v at hs
  cases hs with
  | newGuid =>
    refine ⟨r, h.live, ?_, h.accounted⟩
    change Together (update timers t f.timers) _ m _
    rw [hsame, ← hv, update_eq_self]
    exact h.together
  | create address name parents =>
    obtain ⟨hresult, hlive⟩ := create_live hone h.live address name (f.guids.headD 0)
      (parents.map (List.map (fun i => f.guids.tail.getD i 0))) (.ofNat (parents.getD []).length)
    refine ⟨_, hlive, ?_, accounted_newTimer h.accounted _ _ true⟩
    change Together (update timers t ((create _ _ _ _ _ _ a).1 :: f.timers)) _ _ _
    rw [hresult, hf, ← hv]
    exact h.together.create t _ _
  | schedule arguments count v name current =>
    obtain ⟨p, ps, ht, timer, htimers, -⟩ := h.together.head hv
    have hcall : callback recorder runtime r (.schedule f.timer arguments count) =
        some { r with vendor := r.vendor ++ [.marker "Timer Schedule"] } := by
      rw [htimer, ht]
      simp [callback, tasktimerScheduleImpl, Timer.schedule, htimers, Tools.mark, recorder]
    rw [← hv, update_eq_self]
    exact ⟨_, hcalled (by simp [InSession, Call.api]) hcall (h.together.shows _)⟩
  | start resource v name =>
    obtain ⟨r', hopen, ht⟩ := h.together.opened hv
    rw [← htimer] at hopen
    have hcall : callback recorder runtime r (.start f.timer resource) = some r' := hopen
    exact ⟨r', hcalled (by simp [InSession, Call.api]) hcall ht⟩
  | resume resource v name =>
    obtain ⟨r', hopen, ht⟩ := h.together.opened hv
    rw [← htimer] at hopen
    have hcall : callback recorder runtime r (.resume f.timer resource) = some r' := hopen
    exact ⟨r', hcalled (by simp [InSession, Call.api]) hcall ht⟩
  | running resource v name current hc =>
    obtain ⟨p, ps, ht, timer, htimers, -, hrange⟩ := h.together.head hv
    have hnumbers := h.together.numbers t
    rw [hv] at hnumbers
    have hopen : timer.rangeId ≠ 0 := by
      rw [hrange]
      exact fun hz => hc ((place_eq_zero hnumbers.positive hnumbers.current_le).mp hz)
    have hcall : callback recorder runtime r (.resume f.timer resource) = some r := by
      rw [htimer, ht]
      simp [callback, tasktimerResumeImpl, Timer.resume, openRange, htimers, hopen]
    rw [← hv, update_eq_self]
    exact ⟨r, hcalled (by simp [InSession, Call.api]) hcall h.together⟩
  | yield v name current =>
    obtain ⟨r', hclose, ht⟩ := h.together.closed hv
    rw [← htimer] at hclose
    have hcall : callback recorder runtime r (.yield f.timer) = some r' := hclose
    exact ⟨r', hcalled (by simp [InSession, Call.api]) hcall ht⟩
  | stop v name current =>
    obtain ⟨r', hclose, ht⟩ := h.together.closed hv
    rw [← htimer] at hclose
    have hcall : callback recorder runtime r (.stop f.timer) = some r' := hclose
    have hleft := ht.leave (t := t) (update_self _ _ _)
    rw [update_idem] at hleft
    refine ⟨r', joint_notify hone h (by simp [InSession, Call.api]) hcall ?_⟩
    change Together (update timers t f.timers.tail) _ _ _
    rw [hf]
    exact hleft
  | push c text v hc =>
    obtain ⟨guid, hpush⟩ := call_push runtime hc
    have hpushed := h.together.push t text guid
    rw [hv] at hpushed
    exact ⟨_, hcalled c.inSession ((hpush r).trans (pushTimer_recorder text guid)) hpushed⟩
  | pop c v k hc =>
    obtain ⟨r', hpopped, ht⟩ := h.together.pop hv (hpop k rfl)
    exact ⟨r', hcalled c.inSession ((call_pop hc r).trans hpopped) ht⟩
  | mark label =>
    have hcall : callback recorder runtime r (.mark (some label)) =
        some { r with vendor := r.vendor ++ [.marker label] } := rfl
    rw [← hv, update_eq_self]
    exact ⟨_, hcalled (by simp [InSession, Call.api]) hcall (h.together.shows _)⟩
  | sampleValue name value =>
    refine ⟨_, notify_live hone h.live (fun s hrec => hsample s r name value hrec), ?_,
      h.accounted.shows (hquiet name).1 (hquiet name).2⟩
    change Together (update timers t f.timers) _ _ _
    rw [hsame, ← hv, update_eq_self, addAll_shown]
    exact h.together.shows _

end Turn

variable (runtime sample) in
structure Pursues (work : Work) (thread : Thread) (view : View) (shown : List Move) : Prop where
  code : thread.code <:+ work.code
  script : ∃ rest last, Steps runtime sample thread.code view rest last ∧
    shown ++ rest = (script runtime sample work "" 0 0).1
  depth : depth 0 (shown.filterMap Move.bracket) = some view.pushed.length

lemma pursues_start (hquiet : ∀ name, openings (sample name) = 0) {work : Work} (h : work.closed = true) :
    Pursues runtime sample work ⟨work.code, {}⟩ {} [] :=
  ⟨List.suffix_refl _, ⟨_, _, scripted hquiet work {} (fun _ => h), rfl⟩, rfl⟩

lemma Step.depth {i : Instruction} {v w : View} {moves : List Move} (h : Step runtime sample i v moves w) :
    depth v.pushed.length (moves.filterMap Move.bracket) = some w.pushed.length := by
  have hclosing (k : ℕ) : (closingMoves k).filterMap Move.bracket = [] := by
    rw [closingMoves]
    split_ifs <;> rfl
  cases h with
  | yield v name current | stop v name current =>
    rw [hclosing]
    rfl
  | sampleValue name value v =>
    have hshown : ((sample name).map Move.shown).filterMap Move.bracket = [] := by
      simp [List.filterMap_map, Function.comp_def, Move.bracket]
    rw [hshown]
    rfl
  | _ => rfl

lemma Pursues.next {work : Work} {i : Instruction} {code : List Instruction} {f : Frames} {view : View}
    {shown : List Move} (h : Pursues runtime sample work ⟨i :: code, f⟩ view shown) :
    ∃ moves w, Step runtime sample i view moves w ∧
      ∀ f', Pursues runtime sample work ⟨code, f'⟩ w (shown ++ moves) := by
  obtain ⟨rest, last, hsteps, hscript⟩ := h.script
  cases hsteps with
  | cons hstep hrest =>
    refine ⟨_, _, hstep, fun f' => ⟨?_, ⟨_, last, hrest, ?_⟩, ?_⟩⟩
    · exact (List.suffix_cons i code).trans h.code
    · rw [List.append_assoc]
      exact hscript
    · rw [List.filterMap_append, depth_append, h.depth]
      exact hstep.depth

lemma stack_depth {log : List (τ × Move)} {m : Merge τ} {d : ℕ}
    (h : depth m.stack.length ((log.map Prod.snd).filterMap Move.bracket) = some d) :
    (log.foldl Merge.add m).stack.length = d := by
  induction log generalizing m with
  | nil => exact Option.some.inj h
  | cons c log ih =>
    obtain ⟨t, move⟩ := c
    cases move with
    | shown e | opened text | closed k => exact ih h
    | pushed text => exact ih h
    | popped k =>
      apply ih
      change depth m.stack.length (.closing :: (log.map Prod.snd).filterMap Move.bracket) = some d at h
      rw [depth_cons] at h
      cases hs : m.stack with
      | nil =>
        rw [hs] at h
        cases h
      | cons opening stack =>
        rw [hs] at h
        change depth m.stack.tail.length _ = _
        rw [hs]
        exact h

lemma stack_ne_nil {log : List (τ × Move)} {t : τ} {k : ℕ}
    (h : ∀ u, NoUnderflow ((share u (log ++ [(t, .popped k)])).filterMap Move.bracket)) :
    (merged log).stack ≠ [] := by
  have hmerge := noUnderflow_merge
    ((log ++ [(t, Move.popped k)]).filterMap (fun c => c.2.bracket.map (fun b => (c.1, b))))
    (fun u => by rw [projection_filterMap]; exact h u)
  have hbrackets : ((log ++ [(t, Move.popped k)]).filterMap (fun c => c.2.bracket.map (fun b => (c.1, b)))).map
      Prod.snd = ((log.map Prod.snd).filterMap Move.bracket) ++ [.closing] := by
    simp [List.map_filterMap, List.filterMap_map, Function.comp_def, Move.bracket]
  rw [hbrackets, NoUnderflow, depth_concat] at hmerge
  obtain ⟨d, hd⟩ := Option.isSome_iff_exists.mp hmerge
  obtain ⟨n, hn, hstep⟩ := Option.bind_eq_some_iff.mp hd
  have hlength : (merged log).stack.length = n := stack_depth hn
  rintro hs
  rw [hs] at hlength
  subst hlength
  cases hstep

def Work.offStack (work : Work) : Prop := ∀ c, .range c ∉ work.code

/-- `n` is `m` as it would be with every range in its task. -/
structure Own (v : View) (t : τ) (m n : Merge τ) : Prop where
  shown_eq : n.shown = m.shown
  ranges_eq : n.ranges = m.ranges
  stack_eq : m.stack = v.pushed.map (place (m.ranges t))

section Own

variable {t t₀ : τ} {v w : View} {m n : Merge τ}

omit [DecidableEq τ] in
lemma Own.shows (h : Own v t₀ m n) (events : List Event) : Own v t₀ (m.shows events) (n.shows events) :=
  ⟨congrArg (fun shown => shown ++ events) h.shown_eq, h.ranges_eq, h.stack_eq⟩

lemma Own.opens (h : Own v t₀ m n) (hnumbers : Numbers (m.ranges t₀) v) (t : τ) (text : String) :
    Own v t₀ (m.opens t text) (n.opens t text) := by
  refine ⟨?_, ?_, ?_⟩
  · rw [Merge.opens, Merge.opens, h.shown_eq]
  · rw [Merge.opens, Merge.opens, h.shown_eq, h.ranges_eq]
  · change m.stack = _
    rw [h.stack_eq]
    apply List.map_congr_left
    intro k hk
    by_cases ht : t₀ = t
    · subst ht
      rw [opens_ranges, place_append ((hnumbers.pushed_le k hk).trans_eq hnumbers.length_eq.symm)]
    · rw [opens_ranges_of_ne m ht]

omit [DecidableEq τ] in
lemma Own.look (h : Own v t₀ m n) (hw : w.pushed = v.pushed) : Own w t₀ m n :=
  ⟨h.shown_eq, h.ranges_eq, by rw [hw]; exact h.stack_eq⟩

theorem own_step {views : τ → View} (h : Own (views t₀) t₀ m n) (hnumbers : ∀ t, Numbers (m.ranges t) (views t))
    {i : Instruction} {moves : List Move} (hs : Step runtime sample i (views t) moves w)
    (ht : t ≠ t₀ → ∀ c, i ≠ .range c) :
    Own (update views t w t₀) t₀ (m.addAll t moves) (n.addAll t (moves.map Move.offStack)) := by
  generalize hv : views t = v at hs
  have hkeep : ∀ {m n : Merge τ}, Own (views t₀) t₀ m n → w.pushed = v.pushed → Own (update views t w t₀) t₀ m n := by
    intro m n h hw
    apply h.look
    by_cases ht₀ : t₀ = t
    · subst ht₀
      rw [update_self, hw, hv]
    · rw [update_of_ne ht₀]
  have hclosing : ∀ {v : View} {name : String} {current : ℕ}, views t = v.enter name current →
      Own (views t₀) t₀ (m.addAll t (closingMoves current))
        (n.addAll t ((closingMoves current).map Move.offStack)) := by
    intro v name current hv
    have hnum := hnumbers t
    rw [hv] at hnum
    have hmap : (closingMoves current).map Move.offStack = closingMoves current := by
      rw [closingMoves]
      split_ifs <;> rfl
    rw [hmap, addAll_closing m t hnum, addAll_closing n t (by rwa [h.ranges_eq]), h.ranges_eq]
    exact h.shows _
  cases hs with
  | newGuid | running => exact hkeep h rfl
  | create | schedule | mark => exact hkeep (h.shows _) rfl
  | start resource v name | resume resource v name => exact hkeep (h.opens (hnumbers t₀) t name) rfl
  | yield v name current | stop v name current => exact hkeep (hclosing hv) rfl
  | sampleValue name value =>
    have hmap : ((sample name).map Move.shown).map Move.offStack = (sample name).map .shown := by
      simp [Function.comp_def, Move.offStack]
    rw [hmap, addAll_shown, addAll_shown]
    exact hkeep (h.shows _) rfl
  | push c text v hc =>
    obtain rfl : t = t₀ := not_imp_comm.mp (fun hne => ht hne c) (fun hn => hn rfl)
    have hopened := h.opens (hnumbers t) t text
    have hlength := (hnumbers t).length_eq
    have hnew : place ((m.opens t text).ranges t) (v.opened + 1) = openings m.shown + 1 := by
      rw [opens_ranges, ← hv, ← hlength, place_new]
    have hstack := hopened.stack_eq
    rw [hv] at hstack
    rw [update_self]
    exact ⟨hopened.shown_eq, hopened.ranges_eq, congrArg₂ List.cons hnew.symm hstack⟩
  | pop c v k hc =>
    obtain rfl : t = t₀ := not_imp_comm.mp (fun hne => ht hne c) (fun hn => hn rfl)
    have hstack := h.stack_eq
    rw [hv] at hstack
    rw [update_self]
    refine ⟨?_, h.ranges_eq, ?_⟩
    · change n.shown ++ [.closed (place (n.ranges t) k)] = m.shown ++ [.closed (m.stack.headD 0)]
      rw [h.shown_eq, h.ranges_eq, hstack]
      rfl
    · change m.stack.tail = _
      rw [hstack]
      rfl

end Own

section Run

variable {works : τ → Work} {threads : τ → Thread} {a : App (Option (ToolState V A))} {log : List (τ × Move)}
  {views : τ → View} {r : ToolState (List Event) Unit}

def offStack (log : List (τ × Move)) : List (τ × Move) := log.map (fun c => (c.1, c.2.offStack))

variable (session runtime env sample) in
structure Progress (works : τ → Work) (threads : τ → Thread) (a : App (Option (ToolState V A)))
    (log : List (τ × Move)) (views : τ → View) (r : ToolState (List Event) Unit) : Prop where
  joint : Joint session env a (fun t => (threads t).frames.timers) views (merged log) r
  pursues : ∀ t, Pursues runtime sample (works t) (threads t) (views t) (share t log)
  own : ∀ t₀, (∀ t, t ≠ t₀ → (works t).offStack) → Own (views t₀) t₀ (merged log) (merged (offStack log))

variable {object : Provider} (hone : SuppliedBy env object)

include hone

lemma turn_progress (hsample : Samples session runtime sample)
    (hquiet : ∀ name, openings (sample name) = 0 ∧ closings (sample name) = [])
    (h : Progress session runtime env sample works threads a log views r) (t : τ) :
    ∃ log' views' r', Progress session runtime env sample works
      (turn env (vendorTool vendor runtime) threads t a).1 (turn env (vendorTool vendor runtime) threads t a).2
      log' views' r' := by
  cases hthread : threads t with
  | mk code f =>
    cases code with
    | nil =>
      rw [turn_done hthread]
      exact ⟨log, views, r, h⟩
    | cons i code =>
      rw [turn_next hthread]
      have hpursue := h.pursues t
      rw [hthread] at hpursue
      obtain ⟨moves, w, hstep, hnext⟩ := hpursue.next
      have hpursues : ∀ f' u, Pursues runtime sample (works u) (update threads t ⟨code, f'⟩ u)
          (update views t w u) (share u (log ++ moves.map (fun move => (t, move)))) := by
        intro f' u
        rw [share_append]
        by_cases hu : u = t
        · subst hu
          rw [update_self, update_self, share_own]
          exact hnext f'
        · rw [update_of_ne hu, update_of_ne hu, share_other hu, List.append_nil]
          exact h.pursues u
      have hpop : ∀ k, moves = [.popped k] → (merged log).stack ≠ [] := by
        rintro k rfl
        apply stack_ne_nil (t := t) (k := k)
        intro u
        exact Option.isSome_iff_exists.mpr ⟨_, (hpursues f u).depth⟩
      obtain ⟨r', hjoint⟩ := joint_execute hone hsample hquiet h.joint hstep hpop (f := f) (by rw [hthread])
      refine ⟨_, update views t w, r', ?_, hpursues _, ?_⟩
      · rw [merged_append]
        change Joint session env _ ((fun thread : Thread => thread.frames.timers) ∘ update threads t _) _ _ _
        rw [comp_update]
        exact hjoint
      · intro t₀ hoff
        have hown := own_step (h.own t₀ hoff) h.joint.together.numbers hstep (by
          rintro hne c rfl
          exact hoff t hne c (hpursue.code.mem List.mem_cons_self))
        have hmap : offStack (log ++ moves.map (fun move => (t, move))) =
            offStack log ++ (moves.map Move.offStack).map (fun move => (t, move)) := by
          simp [offStack]
        rw [hmap, merged_append, merged_append]
        exact hown

lemma run_progress (hsample : Samples session runtime sample)
    (hquiet : ∀ name, openings (sample name) = 0 ∧ closings (sample name) = []) (schedule : List τ)
    (h : Progress session runtime env sample works threads a log views r) :
    ∃ log' views' r', Progress session runtime env sample works
      (schedule.foldlM (turn env (vendorTool vendor runtime)) threads a).1
      (schedule.foldlM (turn env (vendorTool vendor runtime)) threads a).2 log' views' r' := by
  induction schedule generalizing threads a log views r with
  | nil => exact ⟨log, views, r, h⟩
  | cons t schedule ih =>
    obtain ⟨log', views', r', h'⟩ := turn_progress hone hsample hquiet h t
    rw [List.foldlM_cons]
    exact ih h'

lemma start_progress (hquiet : ∀ name, openings (sample name) = 0) (hclosed : ∀ t, (works t).closed = true) {v : V}
    (h : Records session { vendor := vendor.initializeTool v } { vendor := [.marker "TaskStubs Initialize"] }) :
    Progress session runtime env sample works (fun t => ⟨(works t).code, {}⟩)
      (notify env (vendorTool vendor runtime) .init ⟨Process.start (some { vendor := v }), 0⟩).2 [] (fun _ => {})
      { vendor := [.marker "TaskStubs Initialize"] } where
  joint := by
    refine ⟨init_live hone h, ⟨rfl, fun _ => .nil, .nil, fun _ => ?_, ?_⟩, accounted_start⟩
    · exact ⟨rfl, List.not_mem_nil, by simp, by simp⟩
    · have hpool : ∀ i, pool (fun _ : τ => []) [] i = [] := fun i => by cases i <;> rfl
      refine ⟨fun i => ?_, fun i j p hp => ?_, fun i p hp => ?_⟩
      · rw [hpool]
        exact List.nodup_nil
      · exact absurd hp (by rw [hpool]; exact List.not_mem_nil)
      · exact absurd hp (by rw [hpool]; exact List.not_mem_nil)
  pursues t := pursues_start hquiet (hclosed t)
  own _ _ := ⟨rfl, rfl, rfl⟩

end Run

lemma closings_length (events : List Event) :
    (closings events).length = events.countP (fun e => e matches .closed _) := by
  induction events with
  | nil => rfl
  | cons e events ih => cases e <;> simpa [closings] using ih

lemma add_counts (m : Merge τ) (c : τ × Move) :
    openings (m.add c).shown = openings m.shown + openings [c.2.event] ∧
      (closings (m.add c).shown).length = (closings m.shown).length + (closings [c.2.event]).length := by
  obtain ⟨e, he, ho, hc⟩ : ∃ e, (m.add c).shown = m.shown ++ [e] ∧ openings [e] = openings [c.2.event] ∧
      (closings [e]).length = (closings [c.2.event]).length := by
    obtain ⟨t, move⟩ := c
    cases move <;> exact ⟨_, rfl, rfl, rfl⟩
  rw [he, openings_append, closings_append, List.length_append, ho, hc]
  exact ⟨rfl, rfl⟩

lemma merged_counts (log : List (τ × Move)) (m : Merge τ) :
    openings (log.foldl Merge.add m).shown = openings m.shown + openings (log.map (fun c => c.2.event)) ∧
      (closings (log.foldl Merge.add m).shown).length =
        (closings m.shown).length + (closings (log.map (fun c => c.2.event))).length := by
  induction log generalizing m with
  | nil => exact ⟨rfl, rfl⟩
  | cons c log ih =>
    have hcons : (c :: log).map (fun c => c.2.event) = [c.2.event] ++ log.map (fun c => c.2.event) := rfl
    rw [List.foldl_cons, (ih _).1, (ih _).2, (add_counts m c).1, (add_counts m c).2, hcons, openings_append,
      closings_append, List.length_append, Nat.add_assoc, Nat.add_assoc]
    exact ⟨rfl, rfl⟩

lemma script_counts (hquiet : ∀ name, openings (sample name) = 0 ∧ closings (sample name) = []) {work : Work}
    (h : work.closed = true) :
    openings ((script runtime sample work "" 0 0).1.map Move.event) =
      (closings ((script runtime sample work "" 0 0).1.map Move.event)).length := by
  have hsettled : Settled 0 0 (transcript runtime sample work "" 0 0).2 (transcript runtime sample work "" 0 0).1 :=
    transcript_settled hquiet work "" 0 0
  rw [← script_transcript, Settled, script_closed h, openRanges, if_pos rfl, List.append_nil] at hsettled
  rw [hsettled.length_eq, List.nil_append, List.length_range']

lemma all_closed (hquiet : ∀ name, openings (sample name) = 0 ∧ closings (sample name) = []) {works : τ → Work}
    (hclosed : ∀ t, (works t).closed = true) {log : List (τ × Move)}
    (h : ∀ t, share t log = (script runtime sample (works t) "" 0 0).1) :
    openings (merged log).shown = (closings (merged log).shown).length := by
  have hmem : ∀ c ∈ log, c.1 ∈ (log.map Prod.fst).toFinset :=
    fun c hc => List.mem_toFinset.mpr (List.mem_map_of_mem hc)
  have hmap : log.map (fun c => c.2.event) = (log.map Prod.snd).map Move.event := by simp [Function.comp_def]
  have hopened : openings (log.map (fun c => c.2.event)) =
      ∑ t ∈ (log.map Prod.fst).toFinset, openings ((share t log).map Move.event) := by
    rw [hmap, openings, List.countP_map, countP_share _ log hmem]
    exact Finset.sum_congr rfl (fun t _ => List.countP_map.symm)
  have hclosings : (closings (log.map (fun c => c.2.event))).length =
      ∑ t ∈ (log.map Prod.fst).toFinset, (closings ((share t log).map Move.event)).length := by
    rw [hmap, closings_length, List.countP_map, countP_share _ log hmem]
    refine Finset.sum_congr rfl (fun t _ => ?_)
    rw [closings_length, List.countP_map]
  rw [merged, (merged_counts log {}).1, (merged_counts log {}).2, hopened, hclosings]
  refine congrArg₂ _ rfl (Finset.sum_congr rfl fun t _ => ?_)
  rw [h t]
  exact script_counts hquiet (hclosed t)

structure Shuffle (runtime : Runtime) (sample : String → List Event) (works : τ → Work) (threads : τ → Thread)
    (log : List (τ × Move)) : Prop where
  prefixes : ∀ t, share t log <+: (script runtime sample (works t) "" 0 0).1
  finished : ∀ t, (threads t).code = [] → share t log = (script runtime sample (works t) "" 0 0).1
  once : (closings (merged log).shown).Nodup
  opened : ∀ k ∈ closings (merged log).shown, k ≠ 0 ∧ k ≤ openings (merged log).shown
  closed : (∀ t, (threads t).code = []) →
    (closings (merged log).shown).Perm (List.range' 1 (openings (merged log).shown))
  own : ∀ t₀, (∀ t, t ≠ t₀ → (works t).offStack) → (merged (offStack log)).shown = (merged log).shown

lemma pursues_done {work : Work} {thread : Thread} {view : View} {shown : List Move}
    (h : Pursues runtime sample work thread view shown) (hdone : thread.code = []) :
    shown = (script runtime sample work "" 0 0).1 := by
  obtain ⟨rest, last, hsteps, hscript⟩ := h.script
  rw [hdone] at hsteps
  cases hsteps
  rwa [List.append_nil] at hscript

lemma Progress.shuffle (hquiet : ∀ name, openings (sample name) = 0 ∧ closings (sample name) = []) {works : τ → Work}
    (hclosed : ∀ t, (works t).closed = true) {threads : τ → Thread} {a : App (Option (ToolState V A))}
    {log : List (τ × Move)} {views : τ → View} {r : ToolState (List Event) Unit}
    (h : Progress session runtime env sample works threads a log views r) :
    Shuffle runtime sample works threads log := by
  have haccounted := h.joint.accounted
  rw [h.joint.together.vendor_eq] at haccounted
  have hopened : openings (.marker "TaskStubs Initialize" :: (merged log).shown) = openings (merged log).shown := by
    simp [openings]
  have honce : (closings (merged log).shown).Nodup := haccounted.once
  have hbound : ∀ k ∈ closings (merged log).shown, k ≠ 0 ∧ k ≤ openings (merged log).shown := by
    intro k hk
    rw [← hopened]
    exact haccounted.opened k hk
  refine ⟨?_, fun t => pursues_done (h.pursues t), honce, hbound, ?_, fun t₀ hoff => (h.own t₀ hoff).shown_eq⟩
  · intro t
    obtain ⟨rest, _, _, hscript⟩ := (h.pursues t).script
    exact ⟨rest, hscript⟩
  · intro hdone
    have hlength := all_closed hquiet hclosed (fun t => pursues_done (h.pursues t) (hdone t))
    apply (List.subperm_of_subset honce _).perm_of_length_le
    · rw [List.length_range', hlength]
    · intro k hk
      obtain ⟨hne, hle⟩ := hbound k hk
      exact List.mem_range'_1.mpr ⟨Nat.one_le_iff_ne_zero.mpr hne, by omega⟩

variable (vendor runtime env) in
/-- The threads, and the vendor's library unless a callback had no result. -/
def afterThreads (v : V) (works : τ → Work) (schedule : List τ) : (τ → Thread) × Option V :=
  let (threads, a) := concurrently env (vendorTool vendor runtime) works schedule
    ⟨Process.start (some { vendor := v }), 0⟩
  (threads, a.process.tool.map (fun s => s.vendor))

theorem threads_record {object : Provider} (hone : SuppliedBy env object)
    (hsample : Samples session runtime sample)
    (hquiet : ∀ name, openings (sample name) = 0 ∧ closings (sample name) = []) {v : V}
    (h : Records session { vendor := vendor.initializeTool v } { vendor := [.marker "TaskStubs Initialize"] })
    (works : τ → Work) (hclosed : ∀ t, (works t).closed = true) (schedule : List τ) :
    ∃ log, Shuffle runtime sample works (afterThreads vendor runtime env v works schedule).1 log ∧
      ∃ w, (afterThreads vendor runtime env v works schedule).2 = some w ∧
        (session.reading w).observations = (.marker "TaskStubs Initialize" :: ((merged log).shown ++
          [.marker "TaskStubs Finalize"])).map (Event.render createText) := by
  have hstart : Progress session runtime env sample works _ _ _ _ _ :=
    start_progress hone (fun name => (hquiet name).1) hclosed h
  obtain ⟨log, views, r, hrun⟩ := run_progress hone hsample hquiet schedule hstart
  obtain ⟨s, f, ht, -, -, hrec⟩ := finalize_live hone hrun.joint.live
  refine ⟨log, hrun.shuffle hquiet hclosed, s.vendor, ?_, ?_⟩
  · exact congrArg (Option.map (fun s => s.vendor)) ht
  · rw [hrec.observations_eq, hrun.joint.together.vendor_eq]
    rfl

theorem threads_shown (nvtx : Nvtx.Library) (roctx : Roctx.Library) {object : Provider}
    (hone : SuppliedBy env object) (works : τ → Work) (hclosed : ∀ t, (works t).closed = true) (schedule : List τ) :
    (∃ log, Shuffle runtime sampleMarker works
          (afterThreads (Nvtx.vendor nvtx) runtime env {} works schedule).1 log ∧
        (afterThreads (Nvtx.vendor nvtx) runtime env {} works schedule).2.map
            (fun s => (Reading.of (Nvtx.entries s.log)).observations) =
          some ((.marker "TaskStubs Initialize" :: ((merged log).shown ++
            [.marker "TaskStubs Finalize"])).map (Event.render id))) ∧
      ∃ log, Shuffle runtime noSample works
          (afterThreads (Roctx.vendor roctx) runtime env [] works schedule).1 log ∧
        (afterThreads (Roctx.vendor roctx) runtime env [] works schedule).2.map
            (fun log => (Reading.of log).observations) =
          some ((.marker "TaskStubs Initialize" :: ((merged log).shown ++
            [.marker "TaskStubs Finalize"])).map (Event.render Roctx.createText)) := by
  refine ⟨?_, ?_⟩
  · obtain ⟨log, hshuffle, w, hw, hobs⟩ := threads_record hone (nvtx_samples nvtx runtime)
      (fun _ => ⟨rfl, rfl⟩) (v := {}) (Nvtx.initialize_records nvtx) works hclosed schedule
    refine ⟨log, hshuffle, ?_⟩
    rw [hw]
    exact congrArg some hobs
  · obtain ⟨log, hshuffle, w, hw, hobs⟩ := threads_record hone (roctx_samples roctx runtime)
      (fun _ => ⟨rfl, rfl⟩) (v := []) (Roctx.initialize_records roctx) works hclosed schedule
    refine ⟨log, hshuffle, ?_⟩
    rw [hw]
    exact congrArg some hobs

def twoThreads (t : Bool) : Work :=
  .task null (some (if t then "b" else "a")) none null 0 none (.command (if t then "scan" else "sort") .nothing)

/-- The first thread stops its command while that of the second is on top of the stack. -/
def overlap : List Bool :=
  List.replicate 5 false ++ List.replicate 5 true ++ List.replicate 2 false ++ List.replicate 2 true

theorem threads_shown_two :
    (∃ log, Shuffle noSymbols noSample twoThreads
        (afterThreads (Roctx.vendor Roctx.freshLibrary) noSymbols completeLibrary [] twoThreads overlap).1 log ∧
      (afterThreads (Roctx.vendor Roctx.freshLibrary) noSymbols completeLibrary [] twoThreads overlap).2.map
          (fun log => (Reading.of log).observations) =
        some ((.marker "TaskStubs Initialize" :: ((merged log).shown ++
          [.marker "TaskStubs Finalize"])).map (Event.render Roctx.createText))) ∧
      (afterThreads (Roctx.vendor Roctx.freshLibrary) noSymbols completeLibrary [] twoThreads overlap).2.map
          (fun log => (Reading.of log).observations) =
        some ([Event.marker "TaskStubs Initialize", .created "a", .marker "Timer Schedule", .opened "a",
          .opened "sort", .created "b", .marker "Timer Schedule", .opened "b", .opened "scan", .closed 4, .closed 1,
          .closed 2, .closed 3, .marker "TaskStubs Finalize"].map (Event.render Roctx.createText)) := by
  refine ⟨?_, by decide +kernel⟩
  exact (threads_shown Nvtx.freshLibrary Roctx.freshLibrary completeLibrary_supplied twoThreads (by decide) overlap).2

end TaskStubs.Examples
