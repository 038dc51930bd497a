import TaskStubs.Tools.PrintSet

/-! The calls of `printSet`: the set that is printed, the count that is stored beside it, and the count that
is passed. -/

namespace TaskStubs.Tools.MyTool

open Library.Cells Library.Loops

structure Holds (capacity : UInt64) (set : GuidSet) (stored : UInt64) (entries : List UInt64) : Prop where
  size : set.length = capacity.toNat
  count : stored.toNat = entries.length
  cells : set.take entries.length = entries.map some

structure PrintCall where
  inSet : GuidSet
  stored : UInt64
  count : UInt64

/-- The call reads stored entries only, stays in its buffers and writes the first `n` entries of the set. -/
def PrintCall.Shows (call : PrintCall) (n : ℕ) : Prop :=
  (∀ i < call.count, i < call.stored) ∧
    ∃ guids : List UInt64, guids.length = n ∧ call.inSet.take n = guids.map some ∧
      printSet call.inSet call.count = .ok (setText guids)

def createCall (parents : List UInt64) (count : UInt64) : Except Fault PrintCall := do
  let (mParents, mParentCount) ← mergeSet (List.replicate MAX_PARENTS.toNat none) 0 parents count MAX_PARENTS
  return ⟨mParents, mParentCount, mParentCount⟩

/-- `add_parents` and `add_children` print as many entries as were passed to them. -/
def addCall (capacity : UInt64) (oldSet : GuidSet) (oldCount : UInt64) (newSet : List UInt64) (count : UInt64) :
    Except Fault PrintCall := do
  let (set, stored) ← mergeSet oldSet oldCount newSet count capacity
  return ⟨set, stored, count⟩

def addParentsCall := addCall MAX_PARENTS

def addChildrenCall := addCall MAX_CHILDREN

section Calls

variable {capacity : UInt64} {set : GuidSet} {stored : UInt64} {entries : List UInt64}

lemma Holds.length_le (h : Holds capacity set stored entries) : entries.length ≤ capacity.toNat := by
  have hlen := congrArg List.length h.cells
  rw [List.length_take, List.length_map, h.size] at hlen
  omega

lemma Holds.take_eq (h : Holds capacity set stored entries) {n : ℕ} (hn : n ≤ entries.length) :
    set.take n = (entries.take n).map some := by
  rw [List.map_take, ← h.cells, List.take_take, Nat.min_eq_left hn]

lemma Holds.merge (h : Holds capacity set stored entries) {new : List UInt64} (hnew : new.length < UInt64.size) :
    ∃ set' stored', mergeSet set stored new (.ofNat new.length) capacity = .ok (set', stored') ∧
      Holds capacity set' stored' ((entries ++ new).take capacity.toNat) := by
  have hlen := h.length_le
  have hle : stored ≤ capacity := UInt64.le_iff_toNat_le.mpr (h.count.trans_le hlen)
  obtain ⟨stored', hmerge, hstored⟩ := mergeSet_eq h.size.ge hle (UInt64.toNat_ofNat_of_lt' hnew)
  have hroom : (room stored capacity new).length = min _ new.length := length_room
  have htake : (entries ++ new).take capacity.toNat = entries ++ room stored capacity new := by
    rw [List.take_append, List.take_of_length_le hlen, room, h.count]
  have hcount := h.count
  refine ⟨_, stored', hmerge, ?_⟩
  rw [htake]
  refine ⟨?_, ?_, ?_⟩
  · rw [length_splice (by rw [h.size]; omega), h.size]
  · rw [hstored, hcount, List.length_append]
  · rw [List.length_append, hcount, take_splice (by rw [h.size]; exact hlen), h.cells, List.map_append]

lemma Holds.shows_iff (h : Holds capacity set stored entries) {count : UInt64} {n : ℕ} (hn : n ≤ entries.length) :
    PrintCall.Shows ⟨set, stored, count⟩ n ↔
      n = count.toNat ∧ count ≤ stored ∧ Small (entries.take n) ∧ textLength (entries.take n) < 1024 := by
  have hinj : Function.Injective (List.map (some : UInt64 → Option UInt64)) :=
    List.map_injective_iff.mpr (Option.some_injective _)
  have hbelow : (∀ i < count, i < stored) ↔ count ≤ stored := by
    refine ⟨?_, fun h i hi => UInt64.lt_of_lt_of_le hi h⟩
    intro h
    apply UInt64.not_lt.mp
    intro hlt
    exact UInt64.lt_irrefl _ (h _ hlt)
  rw [PrintCall.Shows, hbelow]
  refine ⟨?_, ?_⟩
  · rintro ⟨hle, guids, hlen, hguids, hprint⟩
    obtain ⟨guids', hlen', hguids', htext, hlt⟩ := printSet_ok_iff.mp hprint
    have hcount : count.toNat ≤ entries.length := (UInt64.le_iff_toNat_le.mp hle).trans_eq h.count
    obtain rfl : entries.take n = guids := hinj ((h.take_eq hn).symm.trans hguids)
    obtain rfl : entries.take count.toNat = guids' := hinj ((h.take_eq hcount).symm.trans hguids')
    have hsmall := small_of_printed_eq htext.symm
    rw [printed_eq_of_small hsmall] at htext
    have hlength := congrArg List.length htext
    rw [length_setText, length_setText] at hlength
    obtain rfl := textLength_take_inj hn hcount hlength
    rw [length_setText] at hlt
    exact ⟨rfl, hle, hsmall, hlt⟩
  · rintro ⟨rfl, hle, hsmall, hlt⟩
    have hlen : (entries.take count.toNat).length = count.toNat := List.length_take_of_le hn
    refine ⟨hle, _, hlen, h.take_eq hn, ?_⟩
    apply printSet_ok_iff.mpr
    refine ⟨_, hlen, h.take_eq hn, (printed_eq_of_small hsmall).symm, ?_⟩
    rwa [length_setText]

lemma holds_nil (capacity : UInt64) : Holds capacity (List.replicate capacity.toNat none) 0 [] :=
  ⟨List.length_replicate, rfl, rfl⟩

lemma PrintCall.Shows.count_le {call : PrintCall} {n : ℕ} (h : call.Shows n) : call.count ≤ call.stored := by
  apply UInt64.not_lt.mp
  intro hlt
  exact UInt64.lt_irrefl _ (h.1 _ hlt)

lemma createCall_holds {parents : List UInt64} (hlen : parents.length < UInt64.size) :
    ∃ set stored, createCall parents (.ofNat parents.length) = .ok ⟨set, stored, stored⟩ ∧
      Holds MAX_PARENTS set stored (parents.take 32) := by
  obtain ⟨set, stored, hmerge, hholds⟩ := (holds_nil MAX_PARENTS).merge hlen
  refine ⟨set, stored, ?_, hholds⟩
  rw [createCall, bind_ok hmerge]
  rfl

lemma Holds.addCall_holds (h : Holds capacity set stored entries) {new : List UInt64}
    (hnew : new.length < UInt64.size) :
    ∃ set' stored', addCall capacity set stored new (.ofNat new.length) = .ok ⟨set', stored', .ofNat new.length⟩ ∧
      Holds capacity set' stored' ((entries ++ new).take capacity.toNat) := by
  obtain ⟨set', stored', hmerge, hholds⟩ := h.merge hnew
  refine ⟨set', stored', ?_, hholds⟩
  rw [addCall, bind_ok hmerge]
  rfl

lemma Holds.addCall_shows_iff (h : Holds capacity set stored entries) {new : List UInt64}
    (hnew : new.length < UInt64.size) :
    ∃ call, addCall capacity set stored new (.ofNat new.length) = .ok call ∧
      (call.Shows call.count.toNat ↔ new.length ≤ capacity.toNat ∧
        Small ((entries ++ new).take new.length) ∧ textLength ((entries ++ new).take new.length) < 1024) ∧
      (call.Shows call.stored.toNat ↔ (entries = [] ∨ new.length = capacity.toNat) ∧
        call.Shows call.count.toNat) := by
  obtain ⟨set', stored', hadd, hholds⟩ := h.addCall_holds hnew
  have hcount : (UInt64.ofNat new.length).toNat = new.length := UInt64.toNat_ofNat_of_lt' hnew
  have hlen : ((entries ++ new).take capacity.toNat).length =
      min capacity.toNat (entries.length + new.length) := by
    rw [List.length_take, List.length_append]
  have hstored := hholds.count
  refine ⟨_, hadd, ?_⟩
  dsimp only
  have hbound : ∀ n, PrintCall.Shows ⟨set', stored', .ofNat new.length⟩ n → new.length ≤ stored'.toNat := by
    intro n hshows
    rw [← hcount]
    exact UInt64.le_iff_toNat_le.mp hshows.count_le
  refine ⟨?_, ?_⟩
  · by_cases hle : new.length ≤ capacity.toNat
    · rw [hholds.shows_iff (by omega), UInt64.le_iff_toNat_le, hcount, List.take_take, Nat.min_eq_left hle]
      refine ⟨fun h => ⟨hle, h.2.2⟩, fun h => ⟨rfl, by omega, h.2⟩⟩
    · refine iff_of_false ?_ (fun h => hle h.1)
      intro hshows
      have := hbound _ hshows
      omega
  · have heq : stored'.toNat = (UInt64.ofNat new.length).toNat ↔
        (entries = [] ∨ new.length = capacity.toNat) ∧ new.length ≤ capacity.toNat := by
      rw [hcount, ← List.length_eq_zero_iff]
      have := h.length_le
      omega
    refine ⟨?_, ?_⟩
    · intro hshows
      have hn := ((hholds.shows_iff hstored.le).mp hshows).1
      exact ⟨(heq.mp hn).1, hn ▸ hshows⟩
    · rintro ⟨hor, hshows⟩
      have := hbound _ hshows
      have hn := heq.mpr ⟨hor, by omega⟩
      rwa [hn]

end Calls

theorem shown_in_full_iff (mParents mChildren : GuidSet) (mParentCount mChildCount : UInt64)
    (parents children new : List UInt64) (hparents : Holds MAX_PARENTS mParents mParentCount parents)
    (hchildren : Holds MAX_CHILDREN mChildren mChildCount children) (hnew : new.length < UInt64.size) :
    (∃ call, createCall new (.ofNat new.length) = .ok call ∧ call.count = call.stored ∧
      (call.Shows call.count.toNat ↔ Small (new.take 32))) ∧
    (∃ call, addParentsCall mParents mParentCount new (.ofNat new.length) = .ok call ∧
      (call.Shows call.count.toNat ↔ new.length ≤ 32 ∧ Small ((parents ++ new).take new.length)) ∧
      (call.Shows call.stored.toNat ↔ (parents = [] ∨ new.length = 32) ∧
        new.length ≤ 32 ∧ Small ((parents ++ new).take new.length))) ∧
    ∃ call, addChildrenCall mChildren mChildCount new (.ofNat new.length) = .ok call ∧
      (call.Shows call.count.toNat ↔ new.length ≤ 128 ∧ Small ((children ++ new).take new.length) ∧
        textLength ((children ++ new).take new.length) < 1024) ∧
      (call.Shows call.stored.toNat ↔ (children = [] ∨ new.length = 128) ∧
        new.length ≤ 128 ∧ Small ((children ++ new).take new.length) ∧
        textLength ((children ++ new).take new.length) < 1024) := by
  refine ⟨?_, ?_, ?_⟩
  · obtain ⟨set, stored, hcreate, hholds⟩ := createCall_holds hnew
    have hlen : (new.take 32).length ≤ 32 := List.length_take_le 32 new
    refine ⟨_, hcreate, rfl, ?_⟩
    dsimp only
    rw [hholds.shows_iff hholds.count.le, hholds.count, List.take_length]
    refine ⟨fun h => h.2.2.1, ?_⟩
    intro hsmall
    exact ⟨rfl, UInt64.le_refl _, hsmall, textLength_le hsmall hlen⟩
  · obtain ⟨call, hadd, hcount, hstored⟩ := hparents.addCall_shows_iff hnew
    have hfits : call.Shows call.count.toNat ↔
        new.length ≤ 32 ∧ Small ((parents ++ new).take new.length) := by
      rw [hcount]
      refine ⟨fun h => ⟨h.1, h.2.1⟩, ?_⟩
      rintro ⟨hle, hsmall⟩
      exact ⟨hle, hsmall, textLength_le hsmall ((List.length_take_le _ _).trans hle)⟩
    refine ⟨call, hadd, hfits, ?_⟩
    rw [hstored, hfits]
    rfl
  · obtain ⟨call, hadd, hcount, hstored⟩ := hchildren.addCall_shows_iff hnew
    refine ⟨call, hadd, hcount, ?_⟩
    rw [hstored, hcount]
    rfl

theorem shown_in_full_iff_added :
    ∃ call, addParentsCall (some 5 :: List.replicate 31 none) 1 [7] 1 = .ok call ∧
      call.Shows call.count.toNat ∧ ¬ call.Shows call.stored.toNat := by
  obtain ⟨-, ⟨call, hadd, hcount, hstored⟩, -⟩ := shown_in_full_iff (some 5 :: List.replicate 31 none)
    (List.replicate MAX_CHILDREN.toNat none) 1 0 [5] [] [7] ⟨rfl, rfl, rfl⟩ (holds_nil MAX_CHILDREN) (by decide)
  have hsmall : Small [5] := List.forall_mem_singleton.mpr (by decide)
  refine ⟨call, hadd, hcount.mpr ⟨by decide, hsmall⟩, ?_⟩
  · intro h
    exact absurd (hstored.mp h).1 (by decide)

/-- A GUID from 2 ^ 63 on is printed as a negative number; with 33 parents the entry at index 32 is read; the
text of 128 children of ten digits each overflows the buffer. -/
theorem printed_beyond_buffers :
    (∃ call, createCall [9223372036854775808] 1 = .ok call ∧ ¬ call.Shows call.count.toNat) ∧
    (∃ call, addParentsCall (List.replicate 32 none) 0 (List.replicate 33 1) 33 = .ok call ∧
      ¬ call.Shows call.count.toNat) ∧
    ∃ call, addChildrenCall (List.replicate 128 none) 0 (List.replicate 128 1000000000) 128 = .ok call ∧
      ¬ call.Shows call.count.toNat := by
  refine ⟨?_, ?_, ?_⟩
  · obtain ⟨set, stored, hcreate, hholds⟩ :=
      createCall_holds (by decide : [(9223372036854775808 : UInt64)].length < _)
    refine ⟨_, hcreate, ?_⟩
    rw [hholds.shows_iff hholds.count.le, hholds.count]
    rintro ⟨-, -, hsmall, -⟩
    exact absurd (hsmall 9223372036854775808 List.mem_cons_self) (by decide)
  · have hlen : (List.replicate 33 (1 : UInt64)).length = 33 := List.length_replicate
    obtain ⟨call, hadd, hcount, -⟩ := (holds_nil MAX_PARENTS).addCall_shows_iff (hlen.trans_lt (by decide))
    rw [hlen] at hadd hcount
    refine ⟨call, hadd, ?_⟩
    intro h
    exact absurd (hcount.mp h).1 (by decide)
  · have hlen : (List.replicate 128 (1000000000 : UInt64)).length = 128 := List.length_replicate
    obtain ⟨call, hadd, hcount, -⟩ := (holds_nil MAX_CHILDREN).addCall_shows_iff (hlen.trans_lt (by decide))
    rw [hlen, List.nil_append, List.take_of_length_le hlen.le] at hcount
    rw [hlen] at hadd
    refine ⟨call, hadd, ?_⟩
    intro h
    have hten : (decimal 1000000000).length = 10 := by decide
    have htext := (hcount.mp h).2.2
    rw [textLength_replicate, hten] at htext
    omega

end TaskStubs.Tools.MyTool
