import TaskStubs.Tools.TimerTool

/-! What can be seen of a tool: markers, openings of ranges, and closings that name the opening they
close. The entries of a vendor's log name a range by its id; `Reading` pairs the ids up. -/

namespace TaskStubs.Tools

/-- A call of the vendor's library that shows; a text is none where the library cannot know it. -/
inductive Entry where
  | mark (text : Option String)
  | rangeStart (text : Option String) (id : ℕ)
  | rangeStop (id : ℕ)
  deriving DecidableEq

/-- Openings are numbered 1, 2, 3, …; a closing names none if no range with its id is open. -/
inductive Observation where
  | mark (text : Option String)
  | rangeStart (text : Option String)
  | rangeEnd (opening : Option ℕ)
  deriving DecidableEq

structure Reading where
  opened : ℕ := 0
  openRanges : List (ℕ × ℕ) := [] -- ids with their openings, latest first
  observations : List Observation := []

namespace Reading

def read (r : Reading) : Entry → Reading
  | .mark text => { r with observations := r.observations ++ [.mark text] }
  | .rangeStart text id =>
    { opened := r.opened + 1, openRanges := (id, r.opened + 1) :: r.openRanges
      observations := r.observations ++ [.rangeStart text] }
  | .rangeStop id =>
    { r with openRanges := r.openRanges.filter (fun range => range.1 ≠ id)
             observations := r.observations ++ [.rangeEnd (r.openRanges.lookup id)] }

def of (entries : List Entry) : Reading := entries.foldl read {}

lemma of_append (first second : List Entry) :
    of (first ++ second) = second.foldl read (of first) :=
  List.foldl_append

lemma lookup_filter_ne {ranges : List (ℕ × ℕ)} {i j : ℕ} (h : j ≠ i) :
    (ranges.filter (fun range => range.1 ≠ i)).lookup j = ranges.lookup j := by
  induction ranges with
  | nil => rfl
  | cons range ranges ih =>
    obtain ⟨id, k⟩ := range
    by_cases hi : id = i
    · subst hi
      have hb : (j == id) = false := by simpa using h
      rw [List.filter_cons_of_neg (by simp), ih, List.lookup_cons, hb]
    · rw [List.filter_cons_of_pos (by simpa using hi), List.lookup_cons, List.lookup_cons, ih]

lemma mem_of_lookup {ranges : List (ℕ × ℕ)} {i k : ℕ} (h : ranges.lookup i = some k) :
    (i, k) ∈ ranges := by
  induction ranges with
  | nil => cases h
  | cons range ranges ih =>
    obtain ⟨id, j⟩ := range
    rw [List.lookup_cons] at h
    by_cases hi : i = id
    · subst hi
      simp only [beq_self_eq_true] at h
      obtain rfl := Option.some.inj h
      exact List.mem_cons_self
    · have hb : (i == id) = false := by simpa using hi
      rw [hb] at h
      exact List.mem_cons_of_mem _ (ih h)

end Reading

end TaskStubs.Tools
