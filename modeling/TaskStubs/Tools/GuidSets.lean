import TaskStubs.Library.Cells
import TaskStubs.Library.Loops

/-! The sets of parents and children of `my_tool.c`: arrays of a fixed size that `merge_set` appends to.
What it prints to stderr at the capacity is left out. -/

namespace TaskStubs.Tools.MyTool

open Library.Cells Library.Loops

/-- What the C standard leaves undefined. -/
inductive Fault where
  | uninitialised (field : String)
  | outOfBounds (index : ℕ)
  | argument -- an array argument that is NULL or too short
  | nullString
  | bufferOverflow
  | notLive -- a timer that was never created, or that is destroyed
  deriving DecidableEq

abbrev GuidSet := List (Option UInt64)

def MAX_PARENTS : UInt64 := 32

def MAX_CHILDREN : UInt64 := 128

def argumentAt (newSet : List UInt64) (i : UInt64) : Except Fault UInt64 :=
  match newSet[i.toNat]? with
  | some guid => .ok guid
  | none => .error .argument

def store (oldSet : GuidSet) (i guid : UInt64) : Except Fault GuidSet :=
  if i.toNat < oldSet.length then .ok (oldSet.set i.toNat (some guid)) else .error (.outOfBounds i.toNat)

/-- The loop of `merge_set` with `n` more rounds to go, that is `i + n = new_count`. -/
def mergeLoop (oldCount : UInt64) (newSet : List UInt64) (newCount maxCount : UInt64) :
    ℕ → UInt64 → GuidSet → Except Fault (GuidSet × UInt64)
  | 0, _, oldSet => .ok (oldSet, oldCount + newCount)
  | n + 1, i, oldSet =>
    if oldCount + i ≥ maxCount then .ok (oldSet, oldCount + i)
    else do
      let guid ← argumentAt newSet i
      let oldSet ← store oldSet (oldCount + i) guid
      mergeLoop oldCount newSet newCount maxCount n (i + 1) oldSet

def mergeSet (oldSet : GuidSet) (oldCount : UInt64) (newSet : List UInt64) (newCount maxCount : UInt64) :
    Except Fault (GuidSet × UInt64) :=
  if newCount > 0 then mergeLoop oldCount newSet newCount maxCount newCount.toNat 0 oldSet
  else .ok (oldSet, oldCount + newCount)

section Merge

variable {oldSet : GuidSet} {oldCount maxCount newCount : UInt64} {newSet : List UInt64}

def room (oldCount maxCount : UInt64) (newSet : List UInt64) : List UInt64 :=
  newSet.take (maxCount.toNat - oldCount.toNat)

lemma toNat_add_of_le {a b c : UInt64} (h : a.toNat + b.toNat ≤ c.toNat) :
    (a + b).toNat = a.toNat + b.toNat := by
  rw [UInt64.toNat_add, Nat.mod_eq_of_lt (h.trans_lt c.toNat_lt)]

lemma mergeLoop_eq (hcap : maxCount.toNat ≤ oldSet.length) (hnew : newCount.toNat = newSet.length)
    (n : ℕ) (i : UInt64) (hn : i.toNat + n = newSet.length) (hi : oldCount.toNat + i.toNat ≤ maxCount.toNat) :
    ∃ count, mergeLoop oldCount newSet newCount maxCount n i
        (splice oldSet oldCount.toNat (newSet.take i.toNat)) =
      .ok (splice oldSet oldCount.toNat (room oldCount maxCount newSet), count) ∧
      count.toNat = oldCount.toNat + (room oldCount maxCount newSet).length := by
  induction n generalizing i with
  | zero =>
    have hall : room oldCount maxCount newSet = newSet := List.take_of_length_le (by omega)
    have htake : newSet.take i.toNat = newSet := List.take_of_length_le (by omega)
    refine ⟨oldCount + newCount, ?_, ?_⟩
    · rw [mergeLoop, hall, htake]
    · rw [hall, toNat_add_of_le (c := maxCount) (by omega), hnew]
  | succ n ih =>
    rw [mergeLoop]
    have hsum := toNat_add_of_le hi
    by_cases hfull : oldCount + i ≥ maxCount
    · rw [if_pos hfull]
      have hfull := UInt64.le_iff_toNat_le.mp hfull
      have htake : newSet.take i.toNat = room oldCount maxCount newSet := by
        rw [room]
        congr 1
        omega
      refine ⟨oldCount + i, by rw [htake], ?_⟩
      rw [hsum, ← htake, List.length_take]
      omega
    · rw [if_neg hfull]
      have hfull : (oldCount + i).toNat < maxCount.toNat := by
        rw [ge_iff_le, UInt64.le_iff_toNat_le] at hfull
        omega
      have hlt : i.toNat < newSet.length := by omega
      have hlen : (newSet.take i.toNat).length = i.toNat := List.length_take_of_le hlt.le
      have harg : argumentAt newSet i = .ok newSet[i.toNat] := by
        rw [argumentAt, List.getElem?_eq_getElem hlt]
      have hstore : store (splice oldSet oldCount.toNat (newSet.take i.toNat)) (oldCount + i) newSet[i.toNat] =
          .ok (splice oldSet oldCount.toNat (newSet.take (i.toNat + 1))) := by
        have hset : (splice oldSet oldCount.toNat (newSet.take i.toNat)).set
            (oldCount.toNat + (newSet.take i.toNat).length) (some newSet[i.toNat]) = _ :=
          set_splice (by omega) _
        rw [hlen, ← List.take_succ_eq_append_getElem hlt, ← hsum] at hset
        rw [store, length_splice (by omega), if_pos (by omega), hset]
      have hsucc : (i + 1).toNat = i.toNat + 1 := toNat_add_of_le (c := newCount) (by
        rw [hnew]
        exact hlt)
      have hnext := ih (i + 1) (by omega) (by omega)
      rw [bind_ok harg, bind_ok hstore]
      rwa [hsucc] at hnext

lemma mergeSet_eq (hcap : maxCount.toNat ≤ oldSet.length) (hold : oldCount ≤ maxCount)
    (hnew : newCount.toNat = newSet.length) :
    ∃ count, mergeSet oldSet oldCount newSet newCount maxCount =
        .ok (splice oldSet oldCount.toNat (room oldCount maxCount newSet), count) ∧
      count.toNat = oldCount.toNat + (room oldCount maxCount newSet).length := by
  have hold := UInt64.le_iff_toNat_le.mp hold
  rw [mergeSet]
  split_ifs with hpos
  · have hloop := mergeLoop_eq hcap hnew newCount.toNat 0 (by simp [hnew]) (by simpa using hold)
    simpa using hloop
  · have hzero : newCount.toNat = 0 := by
      rw [gt_iff_lt, UInt64.lt_iff_toNat_lt, UInt64.toNat_zero] at hpos
      omega
    obtain rfl := List.length_eq_zero_iff.mp (hnew.symm.trans hzero)
    refine ⟨oldCount + newCount, by simp [room], ?_⟩
    rw [toNat_add_of_le (c := maxCount) (by omega), hzero]
    simp [room]

lemma length_room : (room oldCount maxCount newSet).length =
    min (maxCount.toNat - oldCount.toNat) newSet.length :=
  List.length_take

lemma room_append (chunk rest : List UInt64) {count : UInt64}
    (hcount : count.toNat = oldCount.toNat + (room oldCount maxCount chunk).length) :
    room oldCount maxCount (chunk ++ rest) =
      room oldCount maxCount chunk ++ room count maxCount rest := by
  rw [length_room] at hcount
  rw [room, List.take_append, room, room, hcount]
  congr 1
  by_cases hfull : maxCount.toNat - oldCount.toNat ≤ chunk.length
  · rw [Nat.min_eq_left hfull]
    congr 1
    omega
  · rw [Nat.min_eq_right (not_le.mp hfull).le]
    congr 1
    omega

def mergeChunks (maxCount : UInt64) (s : GuidSet × UInt64) (chunks : List (List UInt64)) :
    Except Fault (GuidSet × UInt64) :=
  chunks.foldlM (fun s chunk => mergeSet s.1 s.2 chunk (.ofNat chunk.length) maxCount) s

lemma mergeChunks_eq (hcap : maxCount.toNat ≤ oldSet.length) (hold : oldCount ≤ maxCount)
    (chunks : List (List UInt64)) (hlen : chunks.flatten.length < UInt64.size) :
    ∃ count, mergeChunks maxCount (oldSet, oldCount) chunks =
        .ok (splice oldSet oldCount.toNat (room oldCount maxCount chunks.flatten), count) ∧
      count.toNat = oldCount.toNat + (room oldCount maxCount chunks.flatten).length := by
  induction chunks generalizing oldSet oldCount with
  | nil =>
    refine ⟨oldCount, ?_, by simp [room]⟩
    simp only [room, List.flatten_nil, List.take_nil, splice_nil]
    rfl
  | cons chunk chunks ih =>
    rw [List.flatten_cons, List.length_append] at hlen
    have hchunk : (UInt64.ofNat chunk.length).toNat = chunk.length := UInt64.toNat_ofNat_of_lt' (by omega)
    obtain ⟨count, hmerge, hcount⟩ := mergeSet_eq hcap hold hchunk
    have hroom : (room oldCount maxCount chunk).length = min _ chunk.length := length_room
    have hle := UInt64.le_iff_toNat_le.mp hold
    have hspliced : (splice oldSet oldCount.toNat (room oldCount maxCount chunk)).length = oldSet.length :=
      length_splice (by omega)
    obtain ⟨final, hrest, hfinal⟩ := ih (hspliced ▸ hcap)
      (UInt64.le_iff_toNat_le.mpr (by omega : count.toNat ≤ maxCount.toNat)) (by omega)
    refine ⟨final, ?_, ?_⟩
    · rw [mergeChunks, List.foldlM_cons, bind_ok hmerge]
      refine hrest.trans ?_
      rw [hcount, splice_splice (by omega), List.flatten_cons, room_append _ _ hcount]
    · rw [hfinal, hcount, List.flatten_cons, room_append _ _ hcount, List.length_append, Nat.add_assoc]

end Merge

theorem merge_set_capped (oldSet : GuidSet) (oldCount maxCount : UInt64) (newSet : List UInt64)
    (hcap : maxCount.toNat ≤ oldSet.length) (hold : oldCount ≤ maxCount)
    (hnew : newSet.length < UInt64.size) :
    ∃ set count, mergeSet oldSet oldCount newSet (.ofNat newSet.length) maxCount = .ok (set, count) ∧
      set.length = oldSet.length ∧
      (∀ j, j < oldCount.toNat ∨ maxCount.toNat ≤ j → set[j]? = oldSet[j]?) ∧
      count.toNat = min (oldCount.toNat + newSet.length) maxCount.toNat ∧
      set.take count.toNat = (oldSet.take oldCount.toNat ++ newSet.map some).take maxCount.toNat ∧
      ∀ chunks : List (List UInt64), chunks.flatten = newSet →
        mergeChunks maxCount (oldSet, oldCount) chunks = .ok (set, count) := by
  have hle := UInt64.le_iff_toNat_le.mp hold
  obtain ⟨count, hmerge, hcount⟩ := mergeSet_eq hcap hold (UInt64.toNat_ofNat_of_lt' hnew)
  have hroom : (room oldCount maxCount newSet).length = min _ newSet.length := length_room
  have hfits : oldCount.toNat + (room oldCount maxCount newSet).length ≤ oldSet.length := by omega
  refine ⟨_, count, hmerge, length_splice hfits, ?_, by omega, ?_, ?_⟩
  · intro j hj
    exact getElem?_splice hfits (by omega)
  · have hlen : (oldSet.take oldCount.toNat).length = oldCount.toNat := List.length_take_of_le (by omega)
    rw [hcount, take_splice (by omega), List.take_append, List.take_of_length_le (hlen.trans_le hle), hlen,
      ← List.map_take]
    rfl
  · rintro chunks rfl
    obtain ⟨count', hchunks, hcount'⟩ := mergeChunks_eq hcap hold chunks hnew
    obtain rfl : count' = count := UInt64.toNat_inj.mp (hcount'.trans hcount.symm)
    exact hchunks

theorem merge_set_capped_straddling :
    ∃ set count, mergeSet [some 1, none, none, none] 1 [2, 3, 4, 5] 4 3 = .ok (set, count) ∧
      count.toNat = 3 ∧ mergeChunks 3 ([some 1, none, none, none], 1) [[2], [3, 4], [5]] = .ok (set, count) := by
  obtain ⟨set, count, hmerge, -, -, hcount, -, hchunks⟩ :=
    merge_set_capped [some 1, none, none, none] 1 3 [2, 3, 4, 5] (by decide) (by decide) (by decide)
  exact ⟨set, count, hmerge, hcount, hchunks _ rfl⟩

end TaskStubs.Tools.MyTool
