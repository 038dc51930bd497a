import TaskStubs.Analysis.TraceContents

/-! `firstCreate` is the first creation time read and `lastDestroy` the last destruction time read;
they bound the lifetime of the tasks only where the trace reads these events in a fitting order. -/

namespace TaskStubs.Analysis

open Library.Loops

/-- The first creation that is read is an earliest one, the last destruction that is read a latest one. -/
def BoundsReadInPlace (events : List TraceEvent) : Prop :=
  (∃ first later, creations events = first :: later ∧ ∀ ts ∈ later, first ≤ ts) ∧
    ∃ earlier last, destructions events = earlier ++ [last] ∧ ∀ ts ∈ earlier, ts ≤ last

section Extrema

variable {retain : ℤ → Bool} {events : List TraceEvent} {s : ReadState}

lemma firstCreate_least_iff (hr : Reads retain events s) (hne : creations events ≠ [])
    (hpos : ∀ ts ∈ creations events, 0 < ts) :
    IsLeast {ts | ts ∈ creations events} s.firstCreate ↔
      ∃ first later, creations events = first :: later ∧ ∀ ts ∈ later, first ≤ ts := by
  obtain ⟨first, later, hsplit⟩ := List.exists_cons_of_ne_nil hne
  have hfirst : s.firstCreate = first := by
    have h₀ : first ≠ 0 := (hpos first (by rw [hsplit]; simp)).ne'
    rw [hr.firstCreate, hsplit]
    simp [h₀]
  rw [hfirst]
  refine ⟨?_, ?_⟩
  · exact fun h => ⟨first, later, hsplit, fun ts hts => h.2 (by rw [hsplit]; simp [hts])⟩
  · rintro ⟨first', later', hsplit', hle⟩
    obtain ⟨rfl, rfl⟩ := List.cons.inj (hsplit.symm.trans hsplit')
    rw [hsplit]
    refine ⟨by simp, ?_⟩
    rintro ts hts
    rcases List.mem_cons.mp hts with rfl | hts
    · exact le_rfl
    · exact hle ts hts

lemma lastDestroy_greatest_iff (hr : Reads retain events s) (hne : destructions events ≠ []) :
    IsGreatest {ts | ts ∈ destructions events} s.lastDestroy ↔
      ∃ earlier last, destructions events = earlier ++ [last] ∧ ∀ ts ∈ earlier, ts ≤ last := by
  have hlast : s.lastDestroy = (destructions events).getLast hne := by
    rw [hr.lastDestroy, List.getLast?_eq_some_getLast hne]
    rfl
  have hsplit := List.dropLast_append_getLast hne
  rw [hlast]
  refine ⟨?_, ?_⟩
  · intro h
    refine ⟨_, _, hsplit.symm, ?_⟩
    exact fun ts hts => h.2 (List.mem_of_mem_dropLast hts)
  · rintro ⟨earlier, last, hsplit', hle⟩
    have hend : (destructions events).getLast hne = last := by simp [hsplit']
    rw [hend, hsplit']
    refine ⟨by simp, ?_⟩
    rintro ts hts
    rcases List.mem_append.mp hts with hts | hts
    · exact hle ts hts
    · rw [List.mem_singleton.mp hts]

end Extrema

lemma bounds_agree {retain : ℤ → Bool} {files files' : List TraceFile} {s s' : ReadState}
    (hs : readFiles retain files = .ok s) (hs' : readFiles retain files' = .ok s')
    (hcreated : creations (eventsRead files) ≠ []) (hdestroyed : destructions (eventsRead files) ≠ [])
    (hpos : ∀ ts ∈ creations (eventsRead files), 0 < ts)
    (hperm : (files.flatMap TraceFile.events).Perm (files'.flatMap TraceFile.events))
    (h : BoundsReadInPlace (eventsRead files)) (h' : BoundsReadInPlace (eventsRead files')) :
    s.firstCreate = s'.firstCreate ∧ s.lastDestroy = s'.lastDestroy := by
  have hevents := (eventsRead_perm files).trans (hperm.trans (eventsRead_perm files').symm)
  have hc : (creations (eventsRead files)).Perm (creations (eventsRead files')) := hevents.filterMap _
  have hd : (destructions (eventsRead files)).Perm (destructions (eventsRead files')) := hevents.filterMap _
  have hfirst := (firstCreate_least_iff (readFiles_reads hs) hcreated hpos).mpr h.1
  have hlast := (lastDestroy_greatest_iff (readFiles_reads hs) hdestroyed).mpr h.2
  have hcreated' : creations (eventsRead files') ≠ [] := by
    intro he
    rw [he] at hc
    exact hcreated hc.eq_nil
  have hdestroyed' : destructions (eventsRead files') ≠ [] := by
    intro he
    rw [he] at hd
    exact hdestroyed hd.eq_nil
  have hpos' : ∀ ts ∈ creations (eventsRead files'), 0 < ts := fun ts hts => hpos ts (hc.mem_iff.mpr hts)
  have hfirst' := (firstCreate_least_iff (readFiles_reads hs') hcreated' hpos').mpr h'.1
  have hlast' := (lastDestroy_greatest_iff (readFiles_reads hs') hdestroyed').mpr h'.2
  simp only [← hc.mem_iff] at hfirst'
  simp only [← hd.mem_iff] at hlast'
  exact ⟨hfirst.unique hfirst', hlast.unique hlast'⟩

theorem lifetime_extrema_iff (mainTask : ℤ) (files : List TraceFile) (s : ReadState)
    (hs : readFiles (fun P => mainTask ≤ P) files = .ok s)
    (hcreated : creations (eventsRead files) ≠ []) (hdestroyed : destructions (eventsRead files) ≠ [])
    (hpos : ∀ ts ∈ creations (eventsRead files), 0 < ts) :
    (IsLeast {ts | ts ∈ creations (eventsRead files)} s.firstCreate ∧
        IsGreatest {ts | ts ∈ destructions (eventsRead files)} s.lastDestroy ↔
      BoundsReadInPlace (eventsRead files)) ∧
    (BoundsReadInPlace (eventsRead files) → ∀ files' s', readFiles (fun P => mainTask ≤ P) files' = .ok s' →
      (files.flatMap TraceFile.events).Perm (files'.flatMap TraceFile.events) →
      BoundsReadInPlace (eventsRead files') →
      s.firstCreate = s'.firstCreate ∧ s.lastDestroy = s'.lastDestroy) := by
  have hr := readFiles_reads hs
  refine ⟨and_congr (firstCreate_least_iff hr hcreated hpos) (lastDestroy_greatest_iff hr hdestroyed), ?_⟩
  intro h files' s' hs' hperm h'
  exact bounds_agree hs hs' hcreated hdestroyed hpos hperm h h'

def record (text : String) (ts : ℚ) : TraceEvent where
  ph := some "R"
  name := some text
  ts := some ts

def sortedTrace : List TraceFile :=
  [⟨"trace_events.0.json.gz", some [record "Task Creation" 10, record "Task Destroy" 60]⟩]

theorem lifetime_extrema_iff_sortedTrace :
    ∃ s, readFiles (fun P => 0 ≤ P) sortedTrace = .ok s ∧
      IsLeast {ts | ts ∈ creations (eventsRead sortedTrace)} s.firstCreate ∧
        IsGreatest {ts | ts ∈ destructions (eventsRead sortedTrace)} s.lastDestroy := by
  have hrun : (readFiles (fun P => 0 ≤ P) sortedTrace).toOption.isSome := by decide +kernel
  obtain ⟨s, hs⟩ := ok_of_isSome hrun
  have hbounds : BoundsReadInPlace (eventsRead sortedTrace) :=
    ⟨⟨10, [], by decide +kernel, by simp⟩, [], 60, by decide +kernel, by simp⟩
  exact ⟨s, hs, (lifetime_extrema_iff 0 sortedTrace s hs (by decide +kernel) (by decide +kernel)
    (by decide +kernel)).1.mpr hbounds⟩

def twoThreads : List TraceFile :=
  [⟨"trace_events.2.json.gz", some [record "Task Creation" 10, record "Task Destroy" 60]⟩,
    ⟨"trace_events.10.json.gz", some [record "Task Creation" 50, record "Task Destroy" 90]⟩]

theorem first_file_decides :
    ∃ s, readFiles (fun P => 0 ≤ P) twoThreads = .ok s ∧ s.firstCreate = 50 ∧ s.lastDestroy = 60 ∧
      (10 : ℚ) ∈ creations (eventsRead twoThreads) ∧ (90 : ℚ) ∈ destructions (eventsRead twoThreads) := by
  have hrun : (readFiles (fun P => 0 ≤ P) twoThreads).toOption.map
      (fun s => (s.firstCreate, s.lastDestroy)) = some (50, 60) := by
    decide +kernel
  obtain ⟨s, hs, hfields⟩ := toOption_map_eq_some hrun
  obtain ⟨hf, hl⟩ := Prod.mk.inj hfields
  exact ⟨s, hs, hf, hl, by decide +kernel, by decide +kernel⟩

end TaskStubs.Analysis
