import TaskStubs.Stub.Lifecycle
import TaskStubs.Tools.Captions
import TaskStubs.Tools.NvtxTool

/-! The strings of an NVTX domain. They end with the domain, while the tool's cache of them stays. -/

namespace TaskStubs.Tools.Nvtx

open Stub Function

/-- The strings of a domain after one more call. A string registered in a domain that has been destroyed
would stay in the table; in a run of sessions none is. -/
def NvtxCall.strings (domain : Pointer) (table : List (String × Pointer)) :
    NvtxCall → List (String × Pointer)
  | .domainCreate _ d => if d = domain then [] else table
  | .domainDestroy d => if d = domain then [] else table
  | .domainRegisterString d text handle => if d = domain then (text, handle) :: table else table
  | _ => table

def strings (log : List NvtxCall) (domain : Pointer) : List (String × Pointer) :=
  log.foldl (NvtxCall.strings domain) []

structure Use where
  strings : List (String × Pointer)
  attributes : EventAttributes

def NvtxCall.use (seen : List NvtxCall) : NvtxCall → Option Use
  | .domainMarkEx domain attributes => some ⟨Nvtx.strings seen domain, attributes⟩
  | .domainRangeStartEx domain attributes _ => some ⟨Nvtx.strings seen domain, attributes⟩
  | _ => none

def usesAfter (seen : List NvtxCall) : List NvtxCall → List Use
  | [] => []
  | call :: log => (call.use seen).toList ++ usesAfter (seen ++ [call]) log

def uses (log : List NvtxCall) : List Use := usesAfter [] log

def Use.Names (use : Use) (text : String) : Prop :=
  use.attributes.messageType = .registered ∧ (text, use.attributes.message) ∈ use.strings

def RegisteredOnce (log : List NvtxCall) : Prop :=
  ∀ seen domain text handle rest, log = seen ++ .domainRegisterString domain text handle :: rest →
    ∀ other, (text, other) ∉ strings seen domain

lemma strings_concat (log : List NvtxCall) (call : NvtxCall) (domain : Pointer) :
    strings (log ++ [call]) domain = call.strings domain (strings log domain) := by
  rw [strings, List.foldl_append]
  rfl

lemma usesAfter_append (seen first second : List NvtxCall) :
    usesAfter seen (first ++ second) = usesAfter seen first ++ usesAfter (seen ++ first) second := by
  induction first generalizing seen with
  | nil => rw [List.append_nil]; rfl
  | cons call first ih =>
    rw [List.cons_append, usesAfter, usesAfter, ih, List.append_assoc, List.append_assoc]
    rfl

lemma uses_concat (log : List NvtxCall) (call : NvtxCall) :
    uses (log ++ [call]) = uses log ++ (call.use log).toList := by
  rw [uses, usesAfter_append, List.nil_append, usesAfter, usesAfter, List.append_nil]
  rfl

variable (library : Library)

def Carried (Holds : State → String → Pointer → Prop) (s : State) (name : String)
    (attributes : EventAttributes) : Prop :=
  attributes.version ≠ 0 ∧ attributes.messageType = .registered ∧ Holds s name attributes.message

/-- The rule for the vendor's operations, from its three kinds of calls: a string that is looked up, a
marker or a range with a handle for its text, and the end of a range. -/
structure Handles (Ok : State → Prop) (Holds : State → String → Pointer → Prop)
    (Shows : State → State → List String → Prop) : Prop where
  refl : ∀ s, Ok s → Shows s s []
  trans : ∀ s t u first second, Shows s t first → Shows t u second → Shows s u (first ++ second)
  ok : ∀ s s' texts, Shows s s' texts → Ok s'
  holds : ∀ s s' texts text handle, Shows s s' texts → Holds s text handle → Holds s' text handle
  registerString : ∀ s text, Ok s → Shows s (registerString library text s).1 [] ∧
    Holds (registerString library text s).1 text (registerString library text s).2
  markEx : ∀ s text attributes, Ok s → attributes.messageType = .registered →
    Holds s text attributes.message → Shows s (s.call (.domainMarkEx s.tsDomain attributes)) [text]
  rangeStartEx : ∀ s text attributes id, Ok s → attributes.messageType = .registered →
    Holds s text attributes.message →
      Shows s (s.call (.domainRangeStartEx s.tsDomain attributes id)) [text]
  rangeEnd : ∀ s id, Ok s → Shows s (s.call (.domainRangeEnd s.tsDomain id)) []

section Operations

variable {library} {Ok : State → Prop} {Holds : State → String → Pointer → Prop}
  {Shows : State → State → List String → Prop} (h : Handles library Ok Holds Shows)
include h

lemma doMarker_shows {s : State} (hs : Ok s) (name text : String) (eventAttrib : EventAttributes)
    (ha : eventAttrib.version = 0 ∧ text = name ∨ Carried Holds s text eventAttrib) :
    Shows s (doMarker library name eventAttrib s) [text] := by
  obtain ⟨hr, hm⟩ := h.registerString s name hs
  have hs' := h.ok _ _ _ hr
  rw [doMarker]
  obtain ⟨hz, rfl⟩ | ⟨hv, ht, hh⟩ := ha
  · simp only [if_pos hz]
    exact h.trans _ _ _ _ _ hr (h.markEx _ _ _ hs' rfl hm)
  · simp only [if_neg hv]
    exact h.trans _ _ _ _ _ hr (h.markEx _ _ _ hs' ht (h.holds _ _ _ _ _ hr hh))

lemma sampleValue_shows {s s' : State} (hs : Ok s) (name : Option String) (value : UInt64)
    (hv : sampleValue library name value s = some s') : Shows s s' name.toList := by
  cases name with
  | none => cases hv
  | some name =>
    cases hv
    obtain ⟨hr, hm⟩ := h.registerString s name hs
    exact h.trans _ _ _ _ _ hr (doMarker_shows h (h.ok _ _ _ hr) name name _
      (Or.inr ⟨library.version_ne_zero, rfl, hm⟩))

lemma Handles.captions : Captions (vendor library) Ok (Carried Holds) Shows where
  refl := h.refl
  trans := h.trans
  ok := h.ok
  carries := by
    intro s s' texts name attributes hs ⟨hv, ht, hh⟩
    exact ⟨hv, ht, h.holds _ _ _ _ _ hs hh⟩
  construct := by
    intro s name guid hs
    obtain ⟨hr, hm⟩ := h.registerString s name hs
    exact ⟨hr, library.version_ne_zero, rfl, hm⟩
  markCreate := by
    intro s name attributes hs hc
    exact doMarker_shows h hs _ name attributes (Or.inr hc)
  doMarker := by
    intro s text hs
    exact doMarker_shows h hs text text {} (Or.inl ⟨rfl, rfl⟩)
  rangeStart := by
    intro s name attributes hs ⟨_, ht, hh⟩
    exact h.rangeStartEx s name attributes _ hs ht hh
  rangeStop := by
    intro s id hs
    exact h.rangeEnd s id hs
  sampleValue := by
    intro s s' name value hs hv
    exact sampleValue_shows h hs name value hv

end Operations

structure Kept (P : State → Prop) : Prop where
  registerString : ∀ s text, P s → P (registerString library text s).1
  call : ∀ s call, (∀ domain text handle, call ≠ .domainRegisterString domain text handle) →
    P s → P (s.call call)
  tsDomain : ∀ s domain, P s → P { s with tsDomain := domain }

section Kept

variable {library} {P : State → Prop} (h : Kept library P)
include h

lemma Kept.handles : Handles library P (fun _ _ _ => True) (fun _ s' _ => P s') where
  refl _ hs := hs
  trans _ _ _ _ _ _ hs := hs
  ok _ _ _ hs := hs
  holds _ _ _ _ _ _ _ := trivial
  registerString s text hs := ⟨h.registerString s text hs, trivial⟩
  markEx s _ _ hs _ _ := h.call s _ (by simp) hs
  rangeStartEx s _ _ _ hs _ _ := h.call s _ (by simp) hs
  rangeEnd s _ hs := h.call s _ (by simp) hs

lemma Kept.initializeTool {s : State} (hs : P s) : P (initializeTool library s) :=
  doMarker_shows h.handles (h.tsDomain _ _ (h.call s _ (by simp) hs)) _ _ {} (Or.inl ⟨rfl, rfl⟩)

lemma Kept.finalizeTool {s : State} (hs : P s) : P (finalizeTool library s) :=
  h.call _ _ (by simp) (doMarker_shows h.handles hs _ _ {} (Or.inl ⟨rfl, rfl⟩))

abbrev Keeps (P : State → Prop) : ToolState State EventAttributes → Prop :=
  Labelled P (Carried (fun _ _ _ => True))

lemma Kept.callbacks (runtime : Runtime) {s s' : ToolState State EventAttributes}
    {calls : List (Call Pointer)} (hs : Keeps P s)
    (hrun : callbacks (vendor library) runtime s calls = some s') : Keeps P s' :=
  (callbacks_shows runtime h.handles.captions (fun _ _ => h.initializeTool)
    (fun _ _ => h.finalizeTool) hs hrun).2

end Kept

lemma cached_kept (text : String) : Kept library (fun s => (s.registeredStrings text).isSome) where
  registerString := by
    intro s other hs
    rw [registerString]
    cases ho : s.registeredStrings other with
    | some handle => exact hs
    | none =>
      change (update s.registeredStrings other _ text).isSome
      rw [update_apply]
      split_ifs
      · rfl
      · exact hs
  call _ _ _ hs := hs
  tsDomain _ _ hs := hs

lemma use_kept (use : Use) : Kept library (fun s => use ∈ uses s.log) where
  registerString := by
    intro s text hs
    rw [registerString]
    cases s.registeredStrings text with
    | some handle => exact hs
    | none =>
      change use ∈ uses (s.log ++ [_])
      rw [uses_concat]
      exact List.mem_append_left _ hs
  call := by
    intro s call _ hs
    change use ∈ uses (s.log ++ [call])
    rw [uses_concat]
    exact List.mem_append_left _ hs
  tsDomain _ _ hs := hs

structure Remembers (s : State) : Prop where
  once : RegisteredOnce s.log
  cached : ∀ domain text handle, NvtxCall.domainRegisterString domain text handle ∈ s.log →
    (s.registeredStrings text).isSome

lemma mem_of_mem_strings {log : List NvtxCall} {domain : Pointer} {text : String} {handle : Pointer}
    (h : (text, handle) ∈ strings log domain) :
    NvtxCall.domainRegisterString domain text handle ∈ log := by
  induction log using List.reverseRecOn with
  | nil => cases h
  | append_singleton log call ih =>
    rw [strings_concat] at h
    rw [List.mem_append, List.mem_singleton]
    cases call with
    | domainCreate _ d | domainDestroy d =>
      rw [NvtxCall.strings] at h
      split_ifs at h
      · cases h
      · exact Or.inl (ih h)
    | domainRegisterString d t g =>
      rw [NvtxCall.strings] at h
      split_ifs at h with hd
      · obtain he | h := List.mem_cons.mp h
        · cases he
          exact Or.inr (by rw [hd])
        · exact Or.inl (ih h)
      · exact Or.inl (ih h)
    | domainMarkEx | domainRangeStartEx | domainRangeEnd => exact Or.inl (ih h)

lemma registeredOnce_concat {log : List NvtxCall} (h : RegisteredOnce log) {call : NvtxCall}
    (hc : ∀ domain text handle, call = .domainRegisterString domain text handle →
      ∀ other, (text, other) ∉ strings log domain) : RegisteredOnce (log ++ [call]) := by
  intro seen domain text handle rest heq
  rcases rest.eq_nil_or_concat' with rfl | ⟨rest, last, rfl⟩
  · obtain ⟨rfl, hcall⟩ := List.append_inj' heq rfl
    exact hc domain text handle (List.singleton_inj.mp hcall)
  · rw [← List.cons_append, ← List.append_assoc] at heq
    exact h seen domain text handle rest (List.append_inj' heq rfl).1

lemma remembers_kept : Kept library Remembers where
  registerString := by
    intro s text hs
    rw [registerString]
    cases ht : s.registeredStrings text with
    | some handle => exact hs
    | none =>
      refine ⟨registeredOnce_concat hs.once ?_, ?_⟩
      · rintro domain other handle ⟨⟩ g hg
        have hm := hs.cached _ _ _ (mem_of_mem_strings hg)
        rw [ht] at hm
        cases hm
      · intro domain other handle hm
        change (update s.registeredStrings text _ other).isSome
        rw [update_apply]
        split_ifs with ho
        · rfl
        · obtain hm | hm := List.mem_append.mp hm
          · exact hs.cached _ _ _ hm
          · cases List.mem_singleton.mp hm
            exact absurd rfl ho
  call := by
    intro s call hc hs
    refine ⟨registeredOnce_concat hs.once (fun _ _ _ he => absurd he (hc _ _ _)), ?_⟩
    intro domain text handle hm
    obtain hm | hm := List.mem_append.mp hm
    · exact hs.cached _ _ _ hm
    · exact absurd (List.mem_singleton.mp hm).symm (hc _ _ _)
  tsDomain s _ hs := ⟨hs.once, hs.cached⟩

def Registered (s : State) (text : String) (handle : Pointer) : Prop :=
  (text, handle) ∈ strings s.log s.tsDomain

def CacheValid (s : State) : Prop :=
  ∀ text handle, s.registeredStrings text = some handle → Registered s text handle

structure Proper (s s' : State) (texts : List String) : Prop where
  valid : CacheValid s'
  registered : ∀ text handle, Registered s text handle → Registered s' text handle
  named : ∃ new, uses s'.log = uses s.log ++ new ∧ List.Forall₂ Use.Names new texts

lemma Proper.trans {s t u : State} {first second : List String} (h : Proper s t first)
    (h' : Proper t u second) : Proper s u (first ++ second) := by
  refine ⟨h'.valid, fun text handle hr => h'.registered text handle (h.registered text handle hr), ?_⟩
  obtain ⟨new, hn, hnames⟩ := h.named
  obtain ⟨new', hn', hnames'⟩ := h'.named
  exact ⟨new ++ new', by rw [hn', hn, List.append_assoc], List.rel_append hnames hnames'⟩

lemma registerString_proper {s : State} (hs : CacheValid s) (text : String) :
    Proper s (registerString library text s).1 [] ∧
      Registered (registerString library text s).1 text (registerString library text s).2 := by
  rw [registerString]
  cases ht : s.registeredStrings text with
  | some handle =>
    exact ⟨⟨hs, fun _ _ h => h, [], (List.append_nil _).symm, .nil⟩, hs text handle ht⟩
  | none =>
    have hstrings (handle : Pointer) : strings (s.log ++
        [.domainRegisterString s.tsDomain text handle]) s.tsDomain =
        (text, handle) :: strings s.log s.tsDomain := by
      rw [strings_concat, NvtxCall.strings, if_pos rfl]
    have hnew (other : String) (handle g : Pointer) (h : (other, handle) = (text, g) ∨
        Registered s other handle) : (other, handle) ∈ strings (s.log ++
          [.domainRegisterString s.tsDomain text g]) s.tsDomain := by
      rw [hstrings]
      exact List.mem_cons.mpr h
    refine ⟨⟨?_, ?_, [], uses_concat _ _, .nil⟩, hnew _ _ _ (Or.inl rfl)⟩
    · intro other handle h
      apply hnew
      change update s.registeredStrings text _ other = some handle at h
      rw [update_apply] at h
      split_ifs at h with ho
      · obtain rfl := Option.some.inj h
        exact Or.inl (by rw [ho])
      · exact Or.inr (hs other handle h)
    · intro other handle h
      exact hnew _ _ _ (Or.inr h)

lemma call_proper {s : State} (hs : CacheValid s) {call : NvtxCall} {texts : List String}
    (hc : ∀ table, call.strings s.tsDomain table = table)
    (ht : List.Forall₂ Use.Names (call.use s.log).toList texts) : Proper s (s.call call) texts := by
  have hr (text : String) (handle : Pointer) (h : Registered s text handle) :
      Registered (s.call call) text handle := by
    change (text, handle) ∈ strings (s.log ++ [call]) s.tsDomain
    rwa [strings_concat, hc]
  exact ⟨fun text handle h => hr text handle (hs text handle h), hr, _, uses_concat _ _, ht⟩

lemma proper_handles : Handles library CacheValid Registered Proper where
  refl _ hs := ⟨hs, fun _ _ h => h, [], (List.append_nil _).symm, .nil⟩
  trans _ _ _ _ _ h h' := h.trans h'
  ok _ _ _ h := h.valid
  holds _ _ _ text handle h hr := h.registered text handle hr
  registerString _ text hs := registerString_proper library hs text
  markEx _ _ _ hs ht hr := call_proper hs (fun _ => rfl) (.cons ⟨ht, hr⟩ .nil)
  rangeStartEx _ _ _ _ hs ht hr := call_proper hs (fun _ => rfl) (.cons ⟨ht, hr⟩ .nil)
  rangeEnd _ _ hs := call_proper hs (fun _ => rfl) .nil

lemma initializeTool_named : CacheValid (initializeTool library {}) ∧
    List.Forall₂ Use.Names (uses (initializeTool library {}).log) ["TaskStubs Initialize"] := by
  have h := doMarker_shows (proper_handles library) (s := { State.call {} (.domainCreate "ts"
      (library.createDomain [] "ts")) with tsDomain := library.createDomain [] "ts" })
    (by rintro text handle ⟨⟩) "TaskStubs Initialize" _ {} (Or.inl ⟨rfl, rfl⟩)
  obtain ⟨new, hn, hnames⟩ := h.named
  refine ⟨h.valid, ?_⟩
  rw [initializeTool, hn]
  exact hnames

lemma finalizeTool_named {s : State} (hs : CacheValid s) : ∃ new,
    uses (finalizeTool library s).log = uses s.log ++ new ∧
      List.Forall₂ Use.Names new ["TaskStubs Finalize"] := by
  obtain ⟨new, hn, hnames⟩ := (doMarker_shows (proper_handles library) hs "TaskStubs Finalize" _ {}
    (Or.inl ⟨rfl, rfl⟩)).named
  refine ⟨new, ?_, hnames⟩
  rw [← hn]
  exact (uses_concat _ _).trans (List.append_nil _)

variable (runtime : Runtime)

/-- The handles that the tool passes are right: each was registered for the text, in its domain. -/
def HandlesNamed (calls : List (Call Pointer)) (s : ToolState State EventAttributes) : Prop :=
  List.Forall₂ Use.Names (uses s.vendor.log) (texts (vendor library) runtime { vendor := {} } calls)

lemma session_named {body : List (Call Pointer)} (hinit : .init ∉ body) (hfinal : .finalize ∉ body)
    {s : ToolState State EventAttributes}
    (hrun : callbacks (vendor library) runtime { vendor := {} } (.init :: body) = some s) :
    HandlesNamed library runtime (.init :: body) s ∧ CacheValid s.vendor := by
  obtain ⟨hvalid, hfirst⟩ := initializeTool_named library
  obtain ⟨t, ht, hrun⟩ := callbacks_cons.mp hrun
  cases ht
  obtain ⟨hp, -⟩ := callbacks_shows runtime (proper_handles library).captions
    (fun h => absurd h hinit) (fun h => absurd h hfinal)
    (s := tasktimerInitializeImpl (vendor library) { vendor := {} })
    ⟨hvalid, by rintro p timer ⟨⟩⟩ hrun
  obtain ⟨new, hn, hnames⟩ := hp.named
  refine ⟨?_, hp.valid⟩
  rw [HandlesNamed, hn]
  exact List.rel_append hfirst hnames

lemma finalized_named {body : List (Call Pointer)} (hinit : .init ∉ body) (hfinal : .finalize ∉ body)
    {s : ToolState State EventAttributes}
    (hrun : callbacks (vendor library) runtime { vendor := {} } (.init :: body ++ [.finalize]) = some s) :
    HandlesNamed library runtime (.init :: body ++ [.finalize]) s := by
  obtain ⟨t, ht, hrun⟩ := callbacks_append.mp hrun
  cases hrun
  obtain ⟨hnamed, hvalid⟩ := session_named library runtime hinit hfinal ht
  obtain ⟨new, hn, hnames⟩ := finalizeTool_named library hvalid
  rw [HandlesNamed, texts_append _ _ ht]
  change List.Forall₂ Use.Names (uses (finalizeTool library t.vendor).log) _
  rw [hn]
  exact List.rel_append hnamed hnames

lemma initializeTool_stale {s : State} (hs : (s.registeredStrings "TaskStubs Initialize").isSome) :
    ∃ attributes, ⟨[], attributes⟩ ∈ uses (initializeTool library s).log := by
  obtain ⟨handle, hm⟩ := Option.isSome_iff_exists.mp hs
  have hnone : strings (s.log ++ [.domainCreate "ts" (library.createDomain s.log "ts")])
      (library.createDomain s.log "ts") = [] := by
    rw [strings_concat, NvtxCall.strings, if_pos rfl]
  refine ⟨{ version := library.version, size := library.structSize, messageType := .registered,
            message := handle }, ?_⟩
  simp only [initializeTool, doMarker, registerString, State.call, hm, if_true]
  rw [uses_concat, NvtxCall.use, hnone]
  exact List.mem_append_right _ List.mem_cons_self

lemma not_named {log : List NvtxCall} {attributes : EventAttributes} (h : ⟨[], attributes⟩ ∈ uses log)
    (texts : List String) : ¬ List.Forall₂ Use.Names (uses log) texts := by
  intro hnames
  have hstrings : List.Forall₂ (fun use text => use.strings ≠ [] ∧ Use.Names use text)
      (uses log) texts := hnames.imp (fun use text hn => ⟨List.ne_nil_of_mem hn.2, hn⟩)
  exact ((List.forall₂_and_left _ _).mp hstrings).1 _ h rfl

lemma start_keeps {P : State → Prop} (h : P {}) :
    Keeps P ({ vendor := {} } : ToolState State EventAttributes) := ⟨h, by rintro p timer ⟨⟩⟩

lemma second_session_stale {mid rest : List (Call Pointer)} {s : ToolState State EventAttributes}
    (hrun : callbacks (vendor library) runtime { vendor := {} } (.init :: mid ++ .init :: rest) = some s) :
    ∃ attributes, ⟨[], attributes⟩ ∈ uses s.vendor.log := by
  obtain ⟨t, ht, hrun⟩ := callbacks_append.mp hrun
  obtain ⟨u, hu, ht⟩ := callbacks_cons.mp ht
  obtain ⟨w, hw, hrun⟩ := callbacks_cons.mp hrun
  cases hu
  cases hw
  -- the cache still has the first marker's text at the second initialize
  have hcached : Keeps (fun s => (s.registeredStrings "TaskStubs Initialize").isSome) t := by
    refine (cached_kept library "TaskStubs Initialize").callbacks runtime ⟨?_, ?_⟩ ht
    · simp [tasktimerInitializeImpl, vendor, initializeTool, doMarker, registerString, State.call]
    · rintro p timer ⟨⟩
  obtain ⟨attributes, hstale⟩ := initializeTool_stale library hcached.ok
  have hkept := (use_kept library ⟨[], attributes⟩).callbacks runtime
    (s := tasktimerInitializeImpl (vendor library) t) ⟨hstale, hcached.carries⟩ hrun
  exact ⟨attributes, hkept.ok⟩

theorem handles_of_live_domain_iff (calls : List (Call Pointer)) (s : ToolState State EventAttributes)
    (hsessions : Sessions (calls.map Call.api))
    (hrun : callbacks (vendor library) runtime { vendor := {} } calls = some s) :
    HandlesNamed library runtime calls s ∧ RegisteredOnce s.vendor.log ↔ calls.count .init ≤ 1 := by
  have honce : RegisteredOnce s.vendor.log := by
    refine ((remembers_kept library).callbacks runtime (start_keeps ⟨?_, ?_⟩) hrun).ok.once
    · intro seen domain text handle rest heq
      cases seen <;> cases heq
    · intro domain text handle hm
      cases hm
  rw [and_iff_left honce]
  obtain rfl | ⟨rest, rfl, hrest⟩ := sessions_cons hsessions
  · cases hrun
    exact iff_of_true .nil (Nat.zero_le _)
  by_cases hinit : .init ∈ rest
  · obtain ⟨mid, later, rfl⟩ := List.append_of_mem hinit
    obtain ⟨attributes, hstale⟩ := second_session_stale library runtime hrun
    apply iff_of_false (not_named hstale _)
    have hpos : 0 < (mid ++ .init :: later).count .init := List.count_pos_iff.mpr hinit
    rw [List.count_cons_self]
    omega
  · refine iff_of_true ?_ (by rw [List.count_cons_self, List.count_eq_zero_of_not_mem hinit])
    obtain ⟨body, hi, hf, rfl | rfl⟩ := session_cases hrest hinit
    · exact (session_named library runtime hi hf hrun).1
    · exact finalized_named library runtime hi hf hrun

def oneSession : List (Call Pointer) :=
  [.init, .create null (some "task") 1 none 0, .start 1 none, .sampleValue (some "load") 7, .stop 1,
    .destroy 1, .finalize]

theorem handles_of_live_domain_iff_one_session :
    ∃ s, callbacks (vendor freshLibrary) noSymbols { vendor := {} } oneSession = some s ∧
      HandlesNamed freshLibrary noSymbols oneSession s ∧ RegisteredOnce s.vendor.log := by
  obtain ⟨s, hs⟩ := Option.isSome_iff_exists.mp
    (by decide : (callbacks (vendor freshLibrary) noSymbols { vendor := {} } oneSession).isSome = true)
  refine ⟨s, hs, ?_⟩
  exact (handles_of_live_domain_iff freshLibrary noSymbols oneSession s (by decide) hs).mpr (by decide)

theorem second_session_passes_stale_handle :
    Sessions (([.init, .finalize, .init] : List (Call Pointer)).map Call.api) ∧
      ∃ s, callbacks (vendor freshLibrary) noSymbols { vendor := {} } [.init, .finalize, .init] = some s ∧
        NvtxCall.domainCreate "ts" 1 ∈ s.vendor.log ∧ s.vendor.tsDomain = 7 ∧
        strings s.vendor.log 7 = [] ∧
        ¬ (HandlesNamed freshLibrary noSymbols [.init, .finalize, .init] s ∧
          RegisteredOnce s.vendor.log) := by
  refine ⟨by decide, _, rfl, List.mem_cons_self, rfl, rfl, ?_⟩
  rintro ⟨hnamed, -⟩
  have hrun : callbacks (vendor freshLibrary) noSymbols { vendor := {} }
      (.init :: [.finalize] ++ .init :: []) = some _ := rfl
  obtain ⟨attributes, hstale⟩ := second_session_stale freshLibrary noSymbols hrun
  exact not_named hstale _ hnamed

end TaskStubs.Tools.Nvtx
