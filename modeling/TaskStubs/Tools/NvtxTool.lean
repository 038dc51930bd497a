import TaskStubs.Tools.Recorder

/-! `nvtx_tool.cpp`: texts are registered with the domain, through a cache, and markers and ranges
carry attributes that refer to a registered string. -/

namespace TaskStubs.Tools.Nvtx

open Stub Function

inductive MessageType where
  | unknown
  | registered
  deriving DecidableEq

inductive ColorType where
  | unknown
  | argb
  deriving DecidableEq

inductive PayloadType where
  | unknown
  | double
  deriving DecidableEq

/-- `nvtxEventAttributes_t`, by default the value of `{0}`. -/
structure EventAttributes where
  version : UInt16 := 0
  size : UInt16 := 0
  colorType : ColorType := .unknown
  color : UInt32 := 0
  payloadType : PayloadType := .unknown
  payload : UInt64 := 0
  messageType : MessageType := .unknown
  message : Pointer := null
  deriving DecidableEq

inductive NvtxCall where
  | domainCreate (name : String) (domain : Pointer)
  | domainDestroy (domain : Pointer)
  | domainRegisterString (domain : Pointer) (text : String) (handle : Pointer)
  | domainMarkEx (domain : Pointer) (attributes : EventAttributes)
  | domainRangeStartEx (domain : Pointer) (attributes : EventAttributes) (id : ℕ)
  | domainRangeEnd (domain : Pointer) (id : ℕ)
  deriving DecidableEq

def NvtxCall.registers (domain handle : Pointer) : NvtxCall → Option String
  | .domainRegisterString d text h => if d = domain ∧ h = handle then some text else none
  | _ => none

def messageText (log : List NvtxCall) (domain : Pointer) (attributes : EventAttributes) :
    Option String :=
  if attributes.messageType = .registered then
    log.findSome? (NvtxCall.registers domain attributes.message)
  else none

def entry (log : List NvtxCall) : NvtxCall → List Entry
  | .domainMarkEx domain attributes => [.mark (messageText log domain attributes)]
  | .domainRangeStartEx domain attributes id => [.rangeStart (messageText log domain attributes) id]
  | .domainRangeEnd _ id => [.rangeStop id]
  | _ => []

def entries (log : List NvtxCall) : List Entry :=
  (log.foldl (fun seen call => (seen.1 ++ [call], seen.2 ++ entry seen.1 call))
    (([], []) : List NvtxCall × List Entry)).2

lemma entries_concat (log : List NvtxCall) (call : NvtxCall) :
    entries (log ++ [call]) = entries log ++ entry log call := by
  have hseen (log : List NvtxCall) : (log.foldl
      (fun seen call => (seen.1 ++ [call], seen.2 ++ entry seen.1 call))
      (([], []) : List NvtxCall × List Entry)).1 = log := by
    induction log using List.reverseRecOn with
    | nil => rfl
    | append_singleton log call ih => rw [List.foldl_append, List.foldl_cons, ih, List.foldl_nil]
  rw [entries, List.foldl_append, List.foldl_cons, hseen]
  rfl

/-- The library's answers, and what its documentation says of them: in one domain different strings
have different handles, and the id of a range is not 0 and not the id of an open range. -/
structure Library where
  version : UInt16
  structSize : UInt16
  createDomain : List NvtxCall → String → Pointer
  registerString : List NvtxCall → Pointer → String → Pointer
  startRange : List NvtxCall → Pointer → EventAttributes → ℕ
  version_ne_zero : version ≠ 0
  registerString_unique : ∀ log domain text other,
    NvtxCall.domainRegisterString domain other (registerString log domain text) ∈ log → other = text
  startRange_ne_zero : ∀ log domain attributes, startRange log domain attributes ≠ 0
  startRange_not_open : ∀ log domain attributes, ∀ range ∈ (Reading.of (entries log)).openRanges,
    range.1 ≠ startRange log domain attributes

def NvtxCall.handle : NvtxCall → Pointer
  | .domainRegisterString _ _ handle => handle
  | _ => null

def freshLibrary : Library where
  version := 3
  structSize := 48
  createDomain log _ := log.length + 1
  registerString log _ _ := (log.map NvtxCall.handle).sum + 1
  startRange log _ _ := ((Reading.of (entries log)).openRanges.map Prod.fst).sum + 1
  version_ne_zero := by decide
  registerString_unique := by
    intro log domain text other h
    have hle := List.le_sum_of_mem (List.mem_map_of_mem (f := NvtxCall.handle) h)
    exact absurd hle (Nat.not_succ_le_self _)
  startRange_ne_zero _ _ _ := Nat.succ_ne_zero _
  startRange_not_open := by
    intro log domain attributes range h
    have hle := List.le_sum_of_mem (List.mem_map_of_mem (f := Prod.fst) h)
    omega

structure State where
  tsDomain : Pointer := null
  registeredStrings : String → Option Pointer := fun _ => none
  log : List NvtxCall := []

def State.call (s : State) (call : NvtxCall) : State := { s with log := s.log ++ [call] }

variable (library : Library)

def registerString (tmpstr : String) (s : State) : State × Pointer :=
  match s.registeredStrings tmpstr with
  | none =>
    let message := library.registerString s.log s.tsDomain tmpstr
    ({ s.call (.domainRegisterString s.tsDomain tmpstr message) with
        registeredStrings := update s.registeredStrings tmpstr (some message) }, message)
  | some message => (s, message)

def doMarker (name : String) (eventAttrib : EventAttributes) (s : State) : State :=
  let (s, message) := registerString library name s
  let eventAttrib :=
    if eventAttrib.version = 0 then
      { eventAttrib with
        version := library.version
        size := library.structSize
        messageType := .registered
        message := message }
    else eventAttrib -- keeps its own message, whatever `name` is
  s.call (.domainMarkEx s.tsDomain eventAttrib)

def doMarker₂ (name name2 : String) (eventAttrib : EventAttributes) (s : State) : State :=
  doMarker library (name ++ (":" ++ name2)) eventAttrib s

def colors : List UInt32 :=
  [0xff00ff00, 0xff0000ff, 0xffffff00, 0xffff00ff, 0xff00ffff, 0xffff0000, 0xffffffff]

def construct (name : String) (id : UInt64) (s : State) : State × EventAttributes :=
  let (s, message) := registerString library name s
  (s, { version := library.version
        size := library.structSize
        messageType := .registered
        message := message
        colorType := .argb
        color := colors.getD (id.toNat % colors.length) 0 })

def initializeTool (s : State) : State :=
  let domain := library.createDomain s.log "ts"
  doMarker library "TaskStubs Initialize" {}
    { s.call (.domainCreate "ts" domain) with tsDomain := domain }

def finalizeTool (s : State) : State :=
  let s := doMarker library "TaskStubs Finalize" {} s
  s.call (.domainDestroy s.tsDomain)

def rangeStart (eventAttrib : EventAttributes) (s : State) : State × ℕ :=
  let id := library.startRange s.log s.tsDomain eventAttrib
  (s.call (.domainRangeStartEx s.tsDomain eventAttrib id), id)

def rangeStop (id : ℕ) (s : State) : State := s.call (.domainRangeEnd s.tsDomain id)

def sampleValue (name : Option String) (value : UInt64) (s : State) : Option State :=
  name.map (fun name =>
    let (s, message) := registerString library name s
    doMarker library name
      { version := library.version
        size := library.structSize
        messageType := .registered
        message := message
        payloadType := .double
        payload := value } s)

def vendor : Vendor State EventAttributes where
  initializeTool := initializeTool library
  finalizeTool := finalizeTool library
  construct := construct library
  markCreate name eventAttrib := doMarker₂ library "Timer Create" name eventAttrib
  doMarker name := doMarker library name {}
  rangeStart _ eventAttrib := rangeStart library eventAttrib
  rangeStop := rangeStop
  sampleValue := sampleValue library

structure Sound (s : State) : Prop where
  cached : ∀ text handle, s.registeredStrings text = some handle →
    NvtxCall.domainRegisterString s.tsDomain text handle ∈ s.log
  unique : ∀ domain text other handle,
    NvtxCall.domainRegisterString domain text handle ∈ s.log →
      NvtxCall.domainRegisterString domain other handle ∈ s.log → text = other

structure Carries (s : State) (name : String) (attributes : EventAttributes) : Prop where
  version_ne_zero : attributes.version ≠ 0
  messageType_eq : attributes.messageType = .registered
  registered : NvtxCall.domainRegisterString s.tsDomain name attributes.message ∈ s.log

lemma registers_eq_some {domain handle : Pointer} {call : NvtxCall} {text : String}
    (h : call.registers domain handle = some text) :
    call = .domainRegisterString domain text handle := by
  cases call with
  | domainRegisterString d t g =>
    rw [NvtxCall.registers] at h
    split_ifs at h with hd
    obtain ⟨rfl, rfl⟩ := hd
    rw [Option.some.inj h]
  | _ => cases h

lemma messageText_carries {s : State} (hs : Sound s) {name : String} {attributes : EventAttributes}
    (h : Carries s name attributes) : messageText s.log s.tsDomain attributes = some name := by
  rw [messageText, if_pos h.messageType_eq]
  have hsome : (s.log.findSome? (NvtxCall.registers s.tsDomain attributes.message)).isSome := by
    rw [List.findSome?_isSome_iff]
    exact ⟨_, h.registered, by simp [NvtxCall.registers]⟩
  obtain ⟨text, ht⟩ := Option.isSome_iff_exists.mp hsome
  obtain ⟨call, hc, hr⟩ := List.exists_of_findSome?_eq_some ht
  obtain rfl := registers_eq_some hr
  rw [ht, hs.unique _ _ _ _ hc h.registered]

abbrev Steps := Grows (fun s : State => entries s.log) Sound Carries

lemma steps_call {s : State} (hs : Sound s) (call : NvtxCall)
    (hc : ∀ domain text handle, call ≠ .domainRegisterString domain text handle) :
    Steps s (s.call call) (entry s.log call) := by
  refine ⟨⟨?_, ?_⟩, entries_concat s.log call, ?_⟩
  · intro text handle h
    exact List.mem_append_left _ (hs.cached text handle h)
  · intro domain text other handle ht ho
    obtain ht | ht := List.mem_append.mp ht
    · obtain ho | ho := List.mem_append.mp ho
      · exact hs.unique domain text other handle ht ho
      · exact absurd (List.mem_singleton.mp ho).symm (hc _ _ _)
    · exact absurd (List.mem_singleton.mp ht).symm (hc _ _ _)
  · intro name attributes h
    exact ⟨h.version_ne_zero, h.messageType_eq, List.mem_append_left _ h.registered⟩

lemma registerString_steps {s : State} (hs : Sound s) (tmpstr : String) :
    Steps s (registerString library tmpstr s).1 [] ∧
      NvtxCall.domainRegisterString (registerString library tmpstr s).1.tsDomain tmpstr
        (registerString library tmpstr s).2 ∈ (registerString library tmpstr s).1.log := by
  rw [registerString]
  cases hm : s.registeredStrings tmpstr with
  | some message =>
    refine ⟨⟨hs, (List.append_nil _).symm, fun _ _ h => h⟩, hs.cached tmpstr message hm⟩
  | none =>
    have hnew : NvtxCall.domainRegisterString s.tsDomain tmpstr
        (library.registerString s.log s.tsDomain tmpstr) ∈ s.log ++ [NvtxCall.domainRegisterString
          s.tsDomain tmpstr (library.registerString s.log s.tsDomain tmpstr)] :=
      List.mem_append_right _ (List.mem_singleton_self _)
    refine ⟨⟨⟨?_, ?_⟩, entries_concat s.log _, ?_⟩, hnew⟩
    · intro text handle h
      change update s.registeredStrings tmpstr _ text = some handle at h
      by_cases ht : text = tmpstr
      · subst ht
        rw [update_self] at h
        obtain rfl := Option.some.inj h
        exact hnew
      · rw [update_of_ne ht] at h
        exact List.mem_append_left _ (hs.cached text handle h)
    · intro domain text other handle ht ho
      obtain ht₁ | ht₁ := List.mem_append.mp ht <;> obtain ho₁ | ho₁ := List.mem_append.mp ho
      · exact hs.unique domain text other handle ht₁ ho₁
      · obtain ⟨rfl, rfl, rfl⟩ := NvtxCall.domainRegisterString.inj (List.mem_singleton.mp ho₁)
        exact library.registerString_unique _ _ _ _ ht₁
      · obtain ⟨rfl, rfl, rfl⟩ := NvtxCall.domainRegisterString.inj (List.mem_singleton.mp ht₁)
        exact (library.registerString_unique _ _ _ _ ho₁).symm
      · obtain ⟨-, rfl, -⟩ := NvtxCall.domainRegisterString.inj (List.mem_singleton.mp ht₁)
        obtain ⟨-, rfl, -⟩ := NvtxCall.domainRegisterString.inj (List.mem_singleton.mp ho₁)
        rfl
    · intro name attributes h
      exact ⟨h.version_ne_zero, h.messageType_eq, List.mem_append_left _ h.registered⟩

lemma doMarker_steps {s : State} (hs : Sound s) (name shown : String) (eventAttrib : EventAttributes)
    (h : eventAttrib.version = 0 ∧ shown = name ∨ Carries s shown eventAttrib) :
    Steps s (doMarker library name eventAttrib s) [.mark (some shown)] := by
  obtain ⟨hr, hm⟩ := registerString_steps library hs name
  have hstep (attributes : EventAttributes)
      (hc : Carries (registerString library name s).1 shown attributes) :
      Steps s ((registerString library name s).1.call
        (.domainMarkEx (registerString library name s).1.tsDomain attributes)) [.mark (some shown)] := by
    have hd := steps_call hr.ok
      (.domainMarkEx (registerString library name s).1.tsDomain attributes) (by simp)
    rw [entry, messageText_carries hr.ok hc] at hd
    exact hr.trans hd
  obtain ⟨hz, rfl⟩ | hc := h
  · apply hstep
    rw [if_pos hz]
    exact ⟨library.version_ne_zero, rfl, hm⟩
  · apply hstep
    rw [if_neg hc.version_ne_zero]
    exact hr.carries _ _ hc

def session : Session (vendor library) id where
  entries s := entries s.log
  Ok := Sound
  Carries := Carries
  construct := by
    intro s name guid hs
    obtain ⟨hr, hm⟩ := registerString_steps library hs name
    exact ⟨hr, library.version_ne_zero, rfl, hm⟩
  markCreate := by
    intro s name attributes hs hc
    exact doMarker_steps library hs _ name attributes (Or.inr hc)
  doMarker := by
    intro s text hs
    exact doMarker_steps library hs text text {} (Or.inl ⟨rfl, rfl⟩)
  rangeStart := by
    intro s name attributes hs hc
    refine ⟨?_, library.startRange_ne_zero _ _ _, library.startRange_not_open _ _ _⟩
    have hd := steps_call hs (.domainRangeStartEx s.tsDomain attributes
      (library.startRange s.log s.tsDomain attributes)) (by simp)
    rwa [entry, messageText_carries hs hc] at hd
  rangeStop := by
    intro s id hs
    exact steps_call hs _ (by simp)
  finalizeTool := by
    intro s hs
    have hm := doMarker_steps library hs "TaskStubs Finalize" "TaskStubs Finalize" {}
      (Or.inl ⟨rfl, rfl⟩)
    exact hm.trans (steps_call hm.ok (.domainDestroy _) (by simp))

lemma start_records : Records (session library) { vendor := {} } { vendor := [] } :=
  records_new _ ⟨by simp, by simp⟩ rfl rfl

lemma initialize_records : Records (session library) { vendor := initializeTool library {} }
    { vendor := [.marker "TaskStubs Initialize"] } := by
  have hg := doMarker_steps library (s := { State.call {} (.domainCreate "ts"
      (library.createDomain [] "ts")) with tsDomain := library.createDomain [] "ts" })
    ⟨by simp [State.call], by simp [State.call]⟩ "TaskStubs Initialize" "TaskStubs Initialize" {}
    (Or.inl ⟨rfl, rfl⟩)
  have hr := reading_grows (session library) hg
  refine records_new _ hg.ok ?_ ?_
  · exact congrArg Reading.observations hr
  · exact congrArg Reading.opened hr

variable (runtime : Runtime)

def observed (calls : List (Call Pointer)) : Option (List Observation) :=
  Tools.observed (vendor library) runtime (fun s => entries s.log) { vendor := {} } calls

end TaskStubs.Tools.Nvtx
