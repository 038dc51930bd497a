import TaskStubs.Analysis.TraceContents

/-! The segments of one task: their parents accumulate, but only the last one leaves its times. -/

namespace TaskStubs.Analysis

open Library.Insertion Library.Loops

def segments (xs : List Execution) (guid : ℤ) : List Execution := xs.filter (fun x => x.guid = guid)

def lostDuration (earlier : List Execution) (last : Execution) : ℚ :=
  (earlier.map Execution.dur).sum + (last.dur - last.duration)

lemma exists_last_segment {xs : List Execution} {guid : ℤ} (h : ∃ x ∈ xs, x.guid = guid) :
    ∃ earlier last, segments xs guid = earlier ++ [last] ∧ lastOf Execution.guid guid xs = some last := by
  obtain ⟨x, hx, hg⟩ := h
  obtain ⟨last, hlast⟩ := exists_lastOf hx hg
  obtain ⟨earlier, hsplit⟩ := List.getLast?_eq_some_iff.mp hlast
  exact ⟨earlier, last, hsplit, hlast⟩

lemma earliest_iff (earlier : List Execution) (last : Execution) :
    IsLeast {ts | ∃ x ∈ earlier ++ [last], x.ts = ts} last.ts ↔ ∀ x ∈ earlier, last.ts ≤ x.ts := by
  refine ⟨?_, ?_⟩
  · exact fun h x hx => h.2 ⟨x, List.mem_append_left _ hx, rfl⟩
  · intro h
    refine ⟨⟨last, by simp, rfl⟩, ?_⟩
    rintro ts ⟨x, hx, rfl⟩
    rcases List.mem_append.mp hx with hx | hx
    · exact h x hx
    · rw [List.mem_singleton.mp hx]

theorem segments_kept_iff (mainTask : ℤ) (files : List TraceFile) (t : TraceGraph)
    (ht : readGraph mainTask files = .ok t) (guid : ℤ)
    (hguid : ∃ x ∈ executions (eventsRead files), x.guid = guid) :
    (∀ p, t.graph.Edge p guid ↔
      ∃ x ∈ segments (executions (eventsRead files)) guid, p ∈ x.pguid.parents ∧ mainTask ≤ p) ∧
    ∃ earlier last, segments (executions (eventsRead files)) guid = earlier ++ [last] ∧
      (((t.graph.attr guid).duration =
            some ((segments (executions (eventsRead files)) guid).map Execution.dur).sum ∧
          ∃ ts, (t.graph.attr guid).ts = some ts ∧
            IsLeast {ts | ∃ x ∈ segments (executions (eventsRead files)) guid, x.ts = ts} ts) ↔
        lostDuration earlier last = 0 ∧ ∀ x ∈ earlier, last.ts ≤ x.ts) := by
  obtain ⟨_, _, _, _, hc⟩ := readGraph_contents ht
  obtain ⟨earlier, last, hsplit, hlast⟩ := exists_last_segment hguid
  refine ⟨?_, earlier, last, hsplit, ?_⟩
  · intro p
    rw [hc.edge]
    simp [segments, and_assoc]
  · rw [hc.attr_last guid last hlast, hsplit]
    refine and_congr ?_ ?_
    · -- the last segment is in the sum and in the node
      simp only [Execution.attrs, Option.some.injEq, List.map_append, List.map_cons, List.map_nil,
        List.sum_append, List.sum_singleton, lostDuration]
      constructor <;> intro h <;> linarith
    · rw [← earliest_iff]
      simp [Execution.attrs]

def resumed : List TraceFile :=
  [⟨"trace_events.0.json.gz", some [
    .span "int apex_preload_main(int, char**, char**)" 1 0 0 90, .span "task" 2 1 10 20,
    .span "task" 2 1 50 5]⟩]

theorem segments_kept_iff_resumed :
    ∃ t, readGraph 0 resumed = .ok t ∧
      (∀ p, t.graph.Edge p 2 ↔
        ∃ x ∈ segments (executions (eventsRead resumed)) 2, p ∈ x.pguid.parents ∧ 0 ≤ p) ∧
      ∃ earlier last, segments (executions (eventsRead resumed)) 2 = earlier ++ [last] ∧
        (((t.graph.attr 2).duration =
              some ((segments (executions (eventsRead resumed)) 2).map Execution.dur).sum ∧
            ∃ ts, (t.graph.attr 2).ts = some ts ∧
              IsLeast {ts | ∃ x ∈ segments (executions (eventsRead resumed)) 2, x.ts = ts} ts) ↔
          lostDuration earlier last = 0 ∧ ∀ x ∈ earlier, last.ts ≤ x.ts) := by
  have hrun : (readGraph 0 resumed).toOption.isSome := by decide +kernel
  obtain ⟨t, ht⟩ := ok_of_isSome hrun
  exact ⟨t, ht, segments_kept_iff 0 resumed t ht 2 (by decide +kernel)⟩

theorem first_segment_lost :
    ∃ t, readGraph 0 resumed = .ok t ∧ (t.graph.attr 2).duration = some 5 ∧
      (t.graph.attr 2).ts = some 50 ∧
      (segments (executions (eventsRead resumed)) 2).map (fun x => (x.dur, x.ts)) = [(20, 10), (5, 50)] := by
  have hrun : (readGraph 0 resumed).toOption.map
      (fun t => ((t.graph.attr 2).duration, (t.graph.attr 2).ts)) = some (some 5, some 50) := by
    decide +kernel
  obtain ⟨t, ht, hfields⟩ := toOption_map_eq_some hrun
  obtain ⟨hd, hts⟩ := Prod.mk.inj hfields
  exact ⟨t, ht, hd, hts, by decide +kernel⟩

end TaskStubs.Analysis
