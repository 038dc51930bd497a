import TaskStubs.Tools.MyTool

/-! Which fields of a timer have been written when a callback of `my_tool.c` reads them. -/

namespace TaskStubs.Tools.MyTool

open Stub Function Library.Loops

def Fault.Unwritten : Fault → Prop
  | .uninitialised _ => True
  | .outOfBounds _ => True
  | _ => False

structure MyTimer.Initialised (t : MyTimer) : Prop where
  named : t.hasName = some 1 ∧ ∃ name, t.mName = some name
  identified : ∃ id, t.mID = some id
  parents : ∃ stored entries, t.mParentCount = some stored ∧ Holds MAX_PARENTS t.mParents stored entries
  children : t.mChildCount = none

variable {platform : Platform} {t : MyTimer}

lemma readField_some {α : Type} {field : String} {o : Option α} {a : α} (h : o = some a) :
    readField field o = .ok a := by
  rw [h]
  rfl

lemma label_of_named {name : String} (h : t.hasName = some 1) (hname : t.mName = some name) :
    label platform t = .ok (t, name) := by
  rw [label, h, hname]
  rfl

lemma label_of_nameless {address : Pointer} (h : t.hasName = some 0) (haddress : t.mAddress = some address) :
    label platform t = match platform.dladdr address with
      | some dliSname => (text dliSname).map (fun symbol =>
          ({ t with mName := some symbol, hasName := some 1 }, symbol))
      | none => (readField "mName" t.mName).map (fun name => (t, name)) := by
  rw [label, bind_ok (readField_some h), if_neg (by decide), bind_ok (readField_some haddress)]
  rcases platform.dladdr address with _ | _ | symbol <;> rfl

lemma Holds.prints {set : GuidSet} {stored count : UInt64} {entries : List UInt64}
    (h : Holds MAX_PARENTS set stored entries) (hle : count ≤ stored) : ∃ shown, printSet set count = .ok shown := by
  have hle : count.toNat ≤ entries.length := (UInt64.le_iff_toNat_le.mp hle).trans_eq h.count
  have hlen : (entries.take count.toNat).length = count.toNat := List.length_take_of_le hle
  exact printSet_fits hlen (h.take_eq hle) (hlen.trans_le (hle.trans h.length_le))

lemma Holds.overruns {set : GuidSet} {stored count : UInt64} {entries : List UInt64}
    (h : Holds MAX_PARENTS set stored entries) (hfull : entries.length = 32) (hcount : 32 < count.toNat) :
    printSet set count = .error (.outOfBounds 32) := by
  have hset : set = entries.map some := by
    rw [← h.cells, hfull]
    exact (List.take_of_length_le h.size.le).symm
  rw [hset, printSet_outOfBounds hfull.le (hfull.trans_lt hcount), hfull]

def knownName (platform : Platform) (address : Pointer) (name : Option String) : Except Fault String :=
  match name.filter (fun name => name.length > 0), platform.dladdr address with
  | some name, _ => .ok name
  | none, some dliSname => text dliSname
  | none, none => .error (.uninitialised "mName")

def Nameable (platform : Platform) (address : Pointer) (name : Option String) : Prop :=
  name.filter (fun name => name.length > 0) ≠ none ∨ platform.dladdr address ≠ none

section Create

variable {address : Pointer} {name : Option String} {id : UInt64} {parents : List UInt64} {count : UInt64}

lemma nameable_of_known {known : String} (h : knownName platform address name = .ok known) :
    Nameable platform address name := by
  by_contra hn
  rw [Nameable, not_or, not_not, not_not] at hn
  rw [knownName, hn.1, hn.2] at h
  cases h

lemma unwritten_iff {f : Fault} (h : knownName platform address name = .error f) :
    f.Unwritten ↔ ¬ Nameable platform address name := by
  rw [Nameable, not_or, not_not, not_not]
  rw [knownName] at h
  cases hname : name.filter (fun name => name.length > 0) with
  | some known =>
    rw [hname] at h
    cases h
  | none =>
    rw [hname] at h
    cases hd : platform.dladdr address with
    | none =>
      rw [hd] at h
      cases h
      exact iff_of_true trivial ⟨rfl, rfl⟩
    | some dliSname =>
      rw [hd] at h
      cases dliSname with
      | none =>
        cases h
        exact iff_of_false id (by simp)
      | some symbol => cases h

lemma nameTimer_of_known {known : String} (h : name.filter (fun name => name.length > 0) = some known) :
    nameTimer name t = { t with mName := some known, hasName := some 1 } := by
  obtain ⟨rfl, hpos⟩ := Option.filter_eq_some_iff.mp h
  rw [nameTimer, if_pos (of_decide_eq_true hpos)]

lemma nameTimer_of_unknown (h : name.filter (fun name => name.length > 0) = none) :
    nameTimer name t = { t with hasName := some 0 } := by
  cases name with
  | none => rfl
  | some name =>
    have hpos := Option.filter_eq_none_iff.mp h name rfl
    rw [nameTimer, if_neg (by simpa using hpos)]

lemma createMytimer_eq (hlen : parents.length = count.toNat) :
    ∃ (set : GuidSet) (stored : UInt64) (line : String → String), Holds MAX_PARENTS set stored (parents.take 32) ∧
      createMytimer platform address name id parents count =
        (label platform { nameTimer name { mAddress := some address } with
            mID := some id, mParents := set, mParentCount := some stored }).map (fun r => (r.1, line r.2)) := by
  obtain rfl : count = .ofNat parents.length := by
    rw [hlen, UInt64.ofNat_toNat]
  obtain ⟨set, stored, hcall, hholds⟩ := createCall_holds (hlen.trans_lt (UInt64.toNat_lt _))
  obtain ⟨shown, hshown⟩ := hholds.prints (UInt64.le_refl stored)
  refine ⟨set, stored, fun name => "Created timer " ++ name ++ " with ID " ++ String.ofList (printedGuid id) ++
    " and parents " ++ String.ofList shown, hholds, ?_⟩
  rw [createMytimer, bind_ok hcall]
  simp only [hshown]
  generalize label platform _ = named
  cases named <;> rfl

lemma createMytimer_cases (hlen : parents.length = count.toNat) :
    (∃ f, knownName platform address name = .error f ∧
      createMytimer platform address name id parents count = .error f) ∨
    ∃ known timer line, knownName platform address name = .ok known ∧
      createMytimer platform address name id parents count = .ok (timer, line) ∧ timer.Initialised := by
  obtain ⟨set, stored, line, hholds, hcreate⟩ := createMytimer_eq hlen
  rw [hcreate, knownName]
  cases hname : name.filter (fun name => name.length > 0) with
  | some known =>
    rw [nameTimer_of_known hname, label_of_named rfl rfl]
    refine Or.inr ⟨known, _, _, rfl, rfl, ?_⟩
    exact ⟨⟨rfl, known, rfl⟩, ⟨id, rfl⟩, ⟨stored, _, rfl, hholds⟩, rfl⟩
  | none =>
    rw [nameTimer_of_unknown hname, label_of_nameless rfl rfl]
    cases platform.dladdr address with
    | none => exact Or.inl ⟨_, rfl, rfl⟩
    | some dliSname =>
      cases dliSname with
      | none => exact Or.inl ⟨_, rfl, rfl⟩
      | some symbol =>
        refine Or.inr ⟨symbol, _, _, rfl, rfl, ?_⟩
        exact ⟨⟨rfl, symbol, rfl⟩, ⟨id, rfl⟩, ⟨stored, _, rfl, hholds⟩, rfl⟩

end Create

section Callbacks

variable {parents : List UInt64} {count : UInt64}

lemma announce_ok (h : t.Initialised) (event : String) : ∃ line, announce platform event t = .ok (t, line) := by
  obtain ⟨hnamed, name, hname⟩ := h.named
  obtain ⟨id, hid⟩ := h.identified
  refine ⟨event ++ " timer " ++ name ++ " with ID " ++ String.ofList (printedGuid id), ?_⟩
  rw [announce, bind_ok (label_of_named hnamed hname)]
  dsimp only
  rw [bind_ok (readField_some hid)]
  rfl

lemma addParents_cases (h : t.Initialised) (hlen : parents.length = count.toNat) :
    (count ≤ MAX_PARENTS ∧ ∃ t' line, addParents platform parents count t = .ok (t', line) ∧ t'.Initialised) ∨
      ¬ count ≤ MAX_PARENTS ∧ addParents platform parents count t = .error (.outOfBounds 32) := by
  obtain rfl : count = .ofNat parents.length := by
    rw [hlen, UInt64.ofNat_toNat]
  obtain ⟨hnamed, name, hname⟩ := h.named
  obtain ⟨stored, entries, hstored, hholds⟩ := h.parents
  obtain ⟨set', stored', hcall, hholds'⟩ := hholds.addCall_holds (hlen.trans_lt (UInt64.toNat_lt _))
  have hlabel : label platform { t with mParents := set', mParentCount := some stored' } = .ok (_, name) :=
    label_of_named hnamed hname
  have htotal : stored'.toNat = min 32 (entries.length + parents.length) := by
    rw [hholds'.count, List.length_take, List.length_append]
    rfl
  rw [addParents, bind_ok (readField_some hstored), addParentsCall, bind_ok hcall]
  dsimp only
  rw [bind_ok hlabel]
  by_cases hle : UInt64.ofNat parents.length ≤ MAX_PARENTS
  · have hcount : (UInt64.ofNat parents.length).toNat ≤ 32 := UInt64.le_iff_toNat_le.mp hle
    have hstored' : UInt64.ofNat parents.length ≤ stored' := UInt64.le_iff_toNat_le.mpr (by omega)
    obtain ⟨shown, hshown⟩ := hholds'.prints hstored'
    refine Or.inl ⟨hle, _, _, bind_ok hshown, ?_⟩
    exact ⟨⟨hnamed, name, hname⟩, h.identified, ⟨stored', _, rfl, hholds'⟩, h.children⟩
  · have hcount : ¬ (UInt64.ofNat parents.length).toNat ≤ 32 := fun h => hle (UInt64.le_iff_toNat_le.mpr h)
    have hfull := hholds'.count
    exact Or.inr ⟨hle, bind_error (hholds'.overruns (by omega) (by omega))⟩

lemma addChildren_unwritten {children : List UInt64} (h : t.Initialised) :
    addChildren platform children count t = .error (.uninitialised "mChildCount") := by
  have hread : readField "mChildCount" t.mChildCount = .error (.uninitialised "mChildCount") := by
    rw [h.children]
    rfl
  rw [addChildren, bind_error hread]

end Callbacks

section Steps

def State.Initialised (s : State) : Prop := ∀ p t, s.timers p = some t → t.Initialised

def Complete : Call Pointer → Prop
  | .create _ _ _ parents count => (parents.getD []).length = count.toNat
  | .addParents _ parents count => (parents.getD []).length = count.toNat
  | .addChildren _ children count => (children.getD []).length = count.toNat
  | _ => True

def Prepared (platform : Platform) (s : State) : Call Pointer → Prop
  | .create address name _ _ _ => name.filter (fun name => name.length > 0) ≠ none ∨ platform.dladdr address ≠ none
  | .addParents timer _ count => (s.timers timer).isSome → count ≤ MAX_PARENTS
  | .addChildren timer _ _ => s.timers timer = none
  | _ => True

def Outcome (prepared : Prop) (r : Except Fault State) : Prop :=
  (∃ f, r = .error f ∧ (f.Unwritten ↔ ¬ prepared)) ∨ ∃ s, r = .ok s ∧ s.Initialised ∧ prepared

variable {s : State}

lemma initialised_start : State.Initialised {} := by
  intro p t h
  cases h

lemma State.Initialised.update (hs : s.Initialised) {cell : Option MyTimer}
    (hcell : ∀ t, cell = some t → t.Initialised) (p next : Pointer) (printed : List String) :
    State.Initialised ⟨Function.update s.timers p cell, next, printed⟩ := by
  intro q t ht
  change Function.update s.timers p cell q = some t at ht
  by_cases hq : q = p
  · subst hq
    rw [update_self] at ht
    exact hcell t ht
  · rw [update_of_ne hq] at ht
    exact hs q t ht

lemma State.Initialised.updateSome (hs : s.Initialised) (ht : t.Initialised) (p next : Pointer)
    (printed : List String) : State.Initialised ⟨Function.update s.timers p (some t), next, printed⟩ := by
  apply hs.update
  rintro u ⟨⟩
  exact ht

lemma outcome_print (hs : s.Initialised) (line : String) : Outcome True (.ok (print line s)) :=
  Or.inr ⟨_, rfl, hs, trivial⟩

lemma outcome_text (hs : s.Initialised) (name : Option String) (line : String → String) :
    Outcome True ((text name).map (fun name => print (line name) s)) := by
  cases name with
  | none => exact Or.inl ⟨_, rfl, iff_of_false id (not_not_intro trivial)⟩
  | some name => exact outcome_print hs _

lemma outcome_withTimer (hs : s.Initialised) (p : Pointer)
    {callback : MyTimer → Except Fault (MyTimer × String)} {allowed : Prop}
    (hcallback : ∀ t, t.Initialised → (allowed ∧ ∃ t' line, callback t = .ok (t', line) ∧ t'.Initialised) ∨
      ¬ allowed ∧ ∃ f, callback t = .error f ∧ f.Unwritten) :
    Outcome ((s.timers p).isSome → allowed) (withTimer p callback s) := by
  rw [withTimer]
  cases ht : s.timers p with
  | none => exact Or.inl ⟨_, rfl, iff_of_false id (by simp)⟩
  | some t =>
    dsimp only
    rcases hcallback t (hs p t ht) with ⟨hall, t', line, ht', hinit⟩ | ⟨hall, f, hf, hunwritten⟩
    · rw [bind_ok ht']
      exact Or.inr ⟨_, rfl, hs.updateSome hinit p _ _, fun _ => hall⟩
    · rw [bind_error hf]
      exact Or.inl ⟨f, rfl, iff_of_true hunwritten (fun h => hall (h rfl))⟩

lemma outcome_create (hs : s.Initialised) {address : Pointer} {name : Option String} {id : UInt64}
    {parents : List UInt64} {count : UInt64} (hlen : parents.length = count.toNat) :
    Outcome (Nameable platform address name) (create platform address name id parents count s) := by
  rw [create]
  rcases createMytimer_cases hlen with ⟨f, hf, hcreate⟩ | ⟨known, timer, line, hknown, hcreate, hinit⟩
  · rw [bind_error hcreate]
    exact Or.inl ⟨f, rfl, unwritten_iff hf⟩
  · rw [bind_ok hcreate]
    exact Or.inr ⟨_, rfl, hs.updateSome hinit _ _ _, nameable_of_known hknown⟩

lemma outcome_destroy (hs : s.Initialised) (p : Pointer) : Outcome True (destroy p s) := by
  rw [destroy]
  split_ifs with hp hlive
  · exact Or.inr ⟨s, rfl, hs, trivial⟩
  · refine Or.inr ⟨_, rfl, hs.update ?_ p _ _, trivial⟩
    rintro t ⟨⟩
  · exact Or.inl ⟨_, rfl, iff_of_false id (not_not_intro trivial)⟩

lemma step_outcome (hs : s.Initialised) {call : Call Pointer} (hcall : Complete call) :
    Outcome (Prepared platform s call) (step platform s call) := by
  have hannounce : ∀ (p : Pointer) (event : String), Outcome True (withTimer p (announce platform event) s) := by
    intro p event
    have hallowed : Outcome ((s.timers p).isSome → True) (withTimer p (announce platform event) s) := by
      apply outcome_withTimer hs
      intro t ht
      obtain ⟨line, hline⟩ := announce_ok ht event
      exact Or.inl ⟨trivial, t, line, hline, ht⟩
    simpa using hallowed
  cases call with
  | init => exact outcome_print hs _
  | finalize => exact outcome_print hs _
  | create address name id parents count => exact outcome_create hs hcall
  | schedule timer => exact hannounce timer _
  | start timer => exact hannounce timer _
  | yield timer => exact hannounce timer _
  | resume timer => exact hannounce timer _
  | stop timer => exact hannounce timer _
  | destroy timer => exact outcome_destroy hs timer
  | addParents timer parents count =>
    apply outcome_withTimer hs
    intro t ht
    rcases addParents_cases ht hcall with h | ⟨hmany, hfault⟩
    · exact Or.inl h
    · exact Or.inr ⟨hmany, _, hfault, trivial⟩
  | addChildren timer children count =>
    have hnone : Outcome ((s.timers timer).isSome → False)
        (withTimer timer (addChildren platform (children.getD []) count) s) := by
      apply outcome_withTimer hs
      intro t ht
      exact Or.inr ⟨id, _, addChildren_unwritten ht, trivial⟩
    simpa [Prepared, step] using hnone
  | dataTransferStart => exact outcome_print hs _
  | dataTransferStop => exact outcome_print hs _
  | commandStart typeName => exact outcome_text hs typeName _
  | commandStop => exact outcome_print hs _
  | sampleValue name value => exact outcome_text hs name _
  | mark label => exact outcome_text hs label _

end Steps

section Runs

def run (s : State) (inputs : List (Platform × Call Pointer)) : Except Fault State :=
  inputs.foldlM (fun s input => step input.1 s input.2) s

/-- `P` holds of every step that a run reaches, one that fails included. -/
def EveryStep (P : Platform → State → Call Pointer → Prop) (inputs : List (Platform × Call Pointer)) : Prop :=
  ∀ pre input post s, inputs = pre ++ input :: post → run {} pre = .ok s → P input.1 s input.2

def State.Bounded (s : State) : Prop :=
  ∀ p t, s.timers p = some t → (∃ count, t.mParentCount = some count ∧ count ≤ MAX_PARENTS) ∧
    ∀ count, t.mChildCount = some count → count ≤ MAX_CHILDREN

def Sound (platform : Platform) (s : State) (call : Call Pointer) : Prop :=
  (∀ f, step platform s call = .error f → ¬ f.Unwritten) ∧ ∀ s', step platform s call = .ok s' → s'.Bounded

variable {inputs : List (Platform × Call Pointer)} {s : State}

lemma run_initialised (hinputs : ∀ input ∈ inputs, Complete input.2) (h : run {} inputs = .ok s) :
    s.Initialised := by
  rw [run] at h
  refine foldlM_returns (fun (pre : List (Platform × Call Pointer)) (s : State) =>
    (∀ input ∈ pre, Complete input.2) → s.Initialised) ?_ inputs [] {} s (fun _ => initialised_start) h hinputs
  intro pre input s t hs ht hpre
  rcases step_outcome (hs (fun a ha => hpre a (List.mem_append_left _ ha)))
    (hpre input (by simp)) with ⟨f, hf, -⟩ | ⟨t', ht', hinit, -⟩
  · rw [hf] at ht
    cases ht
  · obtain rfl := Except.ok.inj (ht'.symm.trans ht)
    exact hinit

lemma State.Initialised.bounded (h : s.Initialised) : s.Bounded := by
  intro p t ht
  obtain ⟨stored, entries, hstored, hholds⟩ := (h p t ht).parents
  refine ⟨⟨stored, hstored, ?_⟩, ?_⟩
  · apply UInt64.le_iff_toNat_le.mpr
    rw [hholds.count]
    exact hholds.length_le
  · intro count hcount
    rw [(h p t ht).children] at hcount
    cases hcount

lemma sound_iff (hs : s.Initialised) {platform : Platform} {call : Call Pointer} (hcall : Complete call) :
    Sound platform s call ↔ Prepared platform s call := by
  rw [Sound]
  rcases step_outcome hs hcall with ⟨f, hf, hiff⟩ | ⟨s', hs', hinit, hprepared⟩
  · rw [hf]
    refine ⟨?_, ?_⟩
    · intro h
      by_contra hn
      exact h.1 f rfl (hiff.mpr hn)
    · intro hprepared
      refine ⟨?_, ?_⟩
      · rintro g ⟨⟩ hunwritten
        exact hiff.mp hunwritten hprepared
      · rintro s' ⟨⟩
  · rw [hs']
    refine iff_of_true ⟨?_, ?_⟩ hprepared
    · rintro f ⟨⟩
    · rintro t ⟨⟩
      exact hinit.bounded

end Runs

theorem fields_written_iff (inputs : List (Platform × Call Pointer)) (hinputs : ∀ input ∈ inputs, Complete input.2) :
    (EveryStep Sound inputs ↔ EveryStep Prepared inputs) ∧
      ∀ s, run {} inputs = .ok s →
        s.Bounded ∧ ∀ p t, s.timers p = some t → t.mChildCount = none := by
  refine ⟨?_, ?_⟩
  · refine forall₄_congr ?_
    intro pre input post s
    refine forall_congr' ?_
    rintro rfl
    refine forall_congr' ?_
    intro hs
    apply sound_iff
    · apply run_initialised _ hs
      intro a ha
      exact hinputs a (List.mem_append_left _ ha)
    · exact hinputs input (by simp)
  · intro s hs
    have hinit := run_initialised hinputs hs
    exact ⟨hinit.bounded, fun p t ht => (hinit p t ht).children⟩

def strippedPlatform : Platform := ⟨fun _ => none, fun _ => ""⟩

theorem fields_written_iff_parents :
    EveryStep Sound [(strippedPlatform, .create 7 (some "a") 1 (some [2, 3]) 2),
      (strippedPlatform, .addParents 1 (some [4]) 1)] := by
  refine (fields_written_iff _ ?_).1.mpr ?_
  · rintro input (_ | ⟨_, _ | ⟨_, ⟨⟩⟩⟩) <;> rfl
  · intro pre input post s hsplit _
    rcases pre with _ | ⟨first, _ | ⟨second, rest⟩⟩
    · obtain ⟨rfl, -⟩ := List.cons.inj hsplit
      exact Or.inl (by simp)
    · obtain ⟨rfl, -⟩ := List.cons.inj (List.cons.inj hsplit).2
      exact fun _ => by decide
    · simp at hsplit

theorem unwritten_field_read :
    ¬ EveryStep Sound [(strippedPlatform, .create 7 none 1 none 0)] ∧
    ¬ EveryStep Sound [(strippedPlatform, .create 7 (some "a") 1 none 0),
      (strippedPlatform, .addParents 1 (some (List.replicate 33 2)) 33)] ∧
    ¬ EveryStep Sound [(strippedPlatform, .create 7 (some "a") 1 none 0),
      (strippedPlatform, .addChildren 1 (some [2]) 1)] := by
  refine ⟨?_, ?_, ?_⟩
  · intro h
    exact (h [] _ [] {} rfl rfl).1 (.uninitialised "mName") rfl trivial
  · intro h
    exact (h [_] _ [] _ rfl rfl).1 (.outOfBounds 32) rfl trivial
  · intro h
    exact (h [_] _ [] _ rfl rfl).1 (.uninitialised "mChildCount") rfl trivial

end TaskStubs.Tools.MyTool
