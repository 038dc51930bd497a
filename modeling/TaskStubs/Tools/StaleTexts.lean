import TaskStubs.Tools.Domains

/-! The texts of a process with several sessions: a text is registered once for all of them, and shows
in the session of its registration only. -/

namespace TaskStubs.Tools.Nvtx

open Stub Function

def NvtxCall.boundary : NvtxCall → Bool
  | .domainCreate .. => true
  | .domainDestroy _ => true
  | _ => false

def era (log : List NvtxCall) : ℕ := log.countP NvtxCall.boundary

def NvtxCall.text : NvtxCall → Option String
  | .domainRegisterString _ text _ => some text
  | _ => none

def notesAfter {B : Type} (note : List NvtxCall → NvtxCall → Option B) (seen : List NvtxCall) :
    List NvtxCall → List B
  | [] => []
  | call :: log => (note seen call).toList ++ notesAfter note (seen ++ [call]) log

def registrations (log : List NvtxCall) : List (String × ℕ) :=
  notesAfter (fun seen call => call.text.map (fun text => (text, era seen))) [] log

def dated (log : List NvtxCall) : List (ℕ × Use) :=
  notesAfter (fun seen call => (call.use seen).map (fun use => (era seen, use))) [] log

/-- The text was registered by then, and the handle stands for it if that was in the same era. -/
def Timely (registered : List (String × ℕ)) (use : ℕ × Use) (text : String) : Prop :=
  (∃ k ≤ use.1, (text, k) ∈ registered) ∧ (use.2.Names text ↔ (text, use.1) ∈ registered)

section Notes

variable {B : Type} (note : List NvtxCall → NvtxCall → Option B)

end Notes

lemma Timely.mono {registered later : List (String × ℕ)} {use : ℕ × Use} {text : String}
    (h : Timely registered use text) (hsub : ∀ r ∈ registered, r ∈ later)
    (hnodup : (later.map Prod.fst).Nodup) : Timely later use text := by
  obtain ⟨⟨k, hle, hk⟩, hnames⟩ := h
  refine ⟨⟨k, hle, hsub _ hk⟩, ?_⟩
  rw [hnames]
  refine ⟨hsub _, ?_⟩
  intro hu
  -- there is one registration of the text, and it is among the first already
  have hinj := List.inj_on_of_nodup_map hnodup
  cases hinj (hsub _ hk) hu rfl
  exact hk

structure Dated (s : State) : Prop where
  once : ((registrations s.log).map Prod.fst).Nodup
  past : ∀ text k, (text, k) ∈ registrations s.log → k ≤ era s.log
  cached : ∀ text, (s.registeredStrings text).isSome ↔ ∃ k, (text, k) ∈ registrations s.log
  live : ∀ text handle, Registered s text handle ↔
    s.registeredStrings text = some handle ∧ (text, era s.log) ∈ registrations s.log

def Cached (s : State) (text : String) (handle : Pointer) : Prop := s.registeredStrings text = some handle

structure Shows (s s' : State) (texts : List String) : Prop where
  dated : Dated s'
  cached : ∀ text handle, Cached s text handle → Cached s' text handle
  registered : ∀ r ∈ registrations s.log, r ∈ registrations s'.log
  timely : ∃ new, Nvtx.dated s'.log = Nvtx.dated s.log ++ new ∧
    List.Forall₂ (Timely (registrations s'.log)) new texts

lemma Shows.refl {s : State} (hs : Dated s) : Shows s s [] :=
  ⟨hs, fun _ _ h => h, fun _ h => h, [], (List.append_nil _).symm, .nil⟩

lemma Shows.trans {s t u : State} {first second : List String} (h : Shows s t first)
    (h' : Shows t u second) : Shows s u (first ++ second) := by
  obtain ⟨new, hn, htimely⟩ := h.timely
  obtain ⟨new', hn', htimely'⟩ := h'.timely
  refine ⟨h'.dated, ?_, ?_, new ++ new', ?_, ?_⟩
  · intro text handle hc
    exact h'.cached _ _ (h.cached _ _ hc)
  · intro r hr
    exact h'.registered r (h.registered r hr)
  · rw [hn', hn, List.append_assoc]
  · refine List.rel_append (htimely.imp ?_) htimely'
    intro use text ht
    exact ht.mono h'.registered h'.dated.once

variable (library : Library)

variable (runtime : Runtime)

def twoSessions : List (Call Pointer) :=
  [.init, .create null (some "task") 1 none 0, .mark (some "phase"), .finalize, .init, .start 1 none,
    .mark (some "phase"), .mark (some "end"), .stop 1, .finalize]

end TaskStubs.Tools.Nvtx
