import TaskStubs.Tools.GuidSets

/-! `printSet` of `my_tool.c`, which writes the text of a set into a buffer of 1024 characters. -/

namespace TaskStubs.Tools.MyTool

open Library.Loops

/-- `"%" PRId64`: the conversion of a signed number, though a GUID is none. -/
def printedGuid (guid : UInt64) : List Char := guid.toInt64.toInt.repr.toList

def decimal (guid : UInt64) : List Char := guid.toNat.repr.toList

def strlen (s : List Char) : UInt64 := .ofNat s.length

/-- `strcat` to a buffer of 1024 characters, with the terminator. -/
def strcat (ss extra : List Char) : Except Fault (List Char) :=
  if ss.length + extra.length + 1 ≤ 1024 then .ok (ss ++ extra) else .error .bufferOverflow

def strncat (ss extra : List Char) (n : UInt64) : Except Fault (List Char) := strcat ss (extra.take n.toNat)

def entryAt (inSet : GuidSet) (i : UInt64) : Except Fault UInt64 :=
  match inSet[i.toNat]? with
  | some (some guid) => .ok guid
  | some none => .error (.uninitialised "inSet[i]")
  | none => .error (.outOfBounds i.toNat)

def myMin (a b : UInt64) : UInt64 := if a < b then a else b

def appendComma (first : Bool) (ss : List Char) : Except Fault (List Char) :=
  if first then .ok ss else strcat ss [',']

def printEntry (inSet : GuidSet) (i : UInt64) (first : Bool) (ss : List Char) : Except Fault (List Char) := do
  let ss ← appendComma first ss
  let guid ← entryAt inSet i
  let tmp := printedGuid guid
  let minlen := myMin (1024 - strlen ss) (strlen tmp)
  strncat ss tmp minlen

/-- The loop of `printSet` with `n` more rounds to go, that is `i + n = count`. -/
def printLoop (inSet : GuidSet) : ℕ → UInt64 → Bool → List Char → Except Fault (List Char)
  | 0, _, _, ss => .ok ss
  | n + 1, i, first, ss => do
    let ss ← printEntry inSet i first ss
    printLoop inSet n (i + 1) false ss

def printSet (inSet : GuidSet) (count : UInt64) : Except Fault (List Char) := do
  let ss ← printLoop inSet count.toNat 0 true ['[']
  strcat ss [']']

example : printSet [some 12, some 7, none] 2 = .ok "[12,7]".toList := by decide

def separated (write : UInt64 → List Char) : Bool → List UInt64 → List Char
  | _, [] => []
  | first, guid :: guids => (if first then [] else [',']) ++ (write guid ++ separated write false guids)

def setText (guids : List UInt64) : List Char := '[' :: ([','].intercalate (guids.map decimal) ++ [']'])

def textLength (guids : List UInt64) : ℕ :=
  (guids.map (fun guid => (decimal guid).length)).sum + max guids.length 1 + 1

lemma strcat_ok_iff {ss extra t : List Char} :
    strcat ss extra = .ok t ↔ t = ss ++ extra ∧ t.length < 1024 := by
  rw [strcat]
  split_ifs with h
  · rw [Except.ok.injEq]
    refine ⟨?_, fun h => h.1.symm⟩
    rintro rfl
    exact ⟨rfl, by simpa using h⟩
  · refine iff_of_false (by simp) ?_
    rintro ⟨rfl, hl⟩
    exact h (by simpa using hl)

lemma entryAt_ok_iff {inSet : GuidSet} {i guid : UInt64} :
    entryAt inSet i = .ok guid ↔ inSet[i.toNat]? = some (some guid) := by
  rw [entryAt]
  rcases inSet[i.toNat]? with _ | _ | g <;> simp

lemma strlen_toNat {s : List Char} (h : s.length < 1024) : (strlen s).toNat = s.length :=
  UInt64.toNat_ofNat_of_lt' (h.trans (by decide))

lemma minlen_toNat {ss tmp : List Char} (hss : ss.length < 1024) (htmp : tmp.length < 1024) :
    (myMin (1024 - strlen ss) (strlen tmp)).toNat = min (1024 - ss.length) tmp.length := by
  have hsub : (1024 - strlen ss).toNat = 1024 - ss.length := by
    rw [UInt64.toNat_sub_of_le, strlen_toNat hss]
    · rfl
    · rw [UInt64.le_iff_toNat_le, strlen_toNat hss]
      exact hss.le
  rw [myMin, ← hsub, ← strlen_toNat htmp]
  split_ifs with h
  · exact (Nat.min_eq_left (UInt64.lt_iff_toNat_lt.mp h).le).symm
  · exact (Nat.min_eq_right (UInt64.le_iff_toNat_le.mp (UInt64.not_lt.mp h))).symm

lemma strncat_ok_iff {ss tmp t : List Char} (hss : ss.length < 1024) (htmp : tmp.length < 1024) :
    strncat ss tmp (myMin (1024 - strlen ss) (strlen tmp)) = .ok t ↔ t = ss ++ tmp ∧ t.length < 1024 := by
  rw [strncat, minlen_toNat hss htmp, strcat_ok_iff]
  by_cases hfits : tmp.length < 1024 - ss.length
  · rw [Nat.min_eq_right hfits.le, List.take_length]
  · rw [Nat.min_eq_left (not_lt.mp hfits)]
    refine iff_of_false ?_ ?_
    · rintro ⟨rfl, hl⟩
      rw [List.length_append, List.length_take] at hl
      omega
    · rintro ⟨rfl, hl⟩
      rw [List.length_append] at hl
      omega

lemma signed_eq (guid : UInt64) :
    guid.toInt64.toInt = if guid.toNat < 2 ^ 63 then (guid.toNat : ℤ) else guid.toNat - 2 ^ 64 := by
  change guid.toBitVec.toInt = _
  rw [BitVec.toInt_eq_toNat_cond]
  change (if 2 * guid.toNat < 2 ^ 64 then (guid.toNat : ℤ) else guid.toNat - (2 ^ 64 : ℕ)) = _
  split_ifs <;> first | rfl | omega

lemma printedGuid_small {guid : UInt64} (h : guid.toNat < 2 ^ 63) : printedGuid guid = decimal guid := by
  rw [printedGuid, signed_eq, if_pos h]
  rfl

lemma printedGuid_large {guid : UInt64} (h : ¬ guid.toNat < 2 ^ 63) :
    printedGuid guid = '-' :: (2 ^ 64 - guid.toNat).repr.toList := by
  have hlt := guid.toNat_lt
  rw [printedGuid, signed_eq, if_neg h, Int.repr_eq_if, if_neg (by omega)]
  have hneg : (-((guid.toNat : ℤ) - 2 ^ 64)).toNat = 2 ^ 64 - guid.toNat := by omega
  rw [hneg, String.toList_append]
  rfl

lemma length_decimal_le {guid : UInt64} (h : guid.toNat < 2 ^ 63) : (decimal guid).length ≤ 19 :=
  (Nat.length_repr_le_iff (by decide)).mpr (h.trans (by decide))

lemma length_printedGuid (guid : UInt64) : (printedGuid guid).length ≤ 20 := by
  by_cases h : guid.toNat < 2 ^ 63
  · rw [printedGuid_small h]
    exact (length_decimal_le h).trans (by decide)
  · rw [printedGuid_large h, List.length_cons]
    exact Nat.succ_le_succ ((Nat.length_repr_le_iff (by decide)).mpr (by omega))

lemma printEntry_ok_iff {inSet : GuidSet} {i : UInt64} {first : Bool} {ss t : List Char} (hss : ss.length < 1024) :
    printEntry inSet i first ss = .ok t ↔ ∃ guid, inSet[i.toNat]? = some (some guid) ∧
      t = ss ++ ((if first then [] else [',']) ++ printedGuid guid) ∧ t.length < 1024 := by
  have htmp : ∀ guid, (printedGuid guid).length < 1024 := by
    intro guid
    exact (length_printedGuid guid).trans_lt (by decide)
  have hsep : ∀ u, appendComma first ss = .ok u ↔
      u = ss ++ (if first then [] else [',']) ∧ u.length < 1024 := by
    intro u
    cases first with
    | true =>
      rw [appendComma, if_pos rfl, if_pos rfl, List.append_nil, Except.ok.injEq]
      refine ⟨?_, fun h => h.1.symm⟩
      rintro rfl
      exact ⟨rfl, hss⟩
    | false => exact strcat_ok_iff
  rw [printEntry, bind_ok_iff]
  simp only [bind_ok_iff, entryAt_ok_iff]
  refine ⟨?_, ?_⟩
  · rintro ⟨u, hu, guid, hguid, ht⟩
    obtain ⟨rfl, hl⟩ := (hsep u).mp hu
    obtain ⟨rfl, hlt⟩ := (strncat_ok_iff hl (htmp guid)).mp ht
    exact ⟨guid, hguid, List.append_assoc .., hlt⟩
  · rintro ⟨guid, hguid, rfl, hlt⟩
    have hl : (ss ++ if first then [] else [',']).length < 1024 := by
      rw [← List.append_assoc, List.length_append] at hlt
      omega
    refine ⟨_, (hsep _).mpr ⟨rfl, hl⟩, guid, hguid, (strncat_ok_iff hl (htmp guid)).mpr ⟨?_, hlt⟩⟩
    rw [List.append_assoc]

lemma toNat_succ {i : UInt64} (h : i.toNat + 1 < 2 ^ 64) : (i + 1).toNat = i.toNat + 1 := by
  rw [UInt64.toNat_add, UInt64.toNat_one]
  exact Nat.mod_eq_of_lt h

lemma take_drop_cons {l : GuidSet} {i n : ℕ} {a : Option UInt64} {rest : GuidSet} :
    (l.drop i).take (n + 1) = a :: rest ↔ l[i]? = some a ∧ (l.drop (i + 1)).take n = rest := by
  by_cases hi : i < l.length
  · rw [List.drop_eq_getElem_cons hi, List.take_succ_cons, List.cons.injEq, List.getElem?_eq_getElem hi,
      Option.some.injEq]
  · rw [List.drop_eq_nil_of_le (not_lt.mp hi), List.getElem?_eq_none (not_lt.mp hi)]
    simp

lemma printLoop_ok_iff {inSet : GuidSet} (n : ℕ) (i : UInt64) (hn : i.toNat + n < 2 ^ 64) (first : Bool)
    {ss t : List Char} (hss : ss.length < 1024) :
    printLoop inSet n i first ss = .ok t ↔ ∃ guids : List UInt64, guids.length = n ∧
      (inSet.drop i.toNat).take n = guids.map some ∧
      t = ss ++ separated printedGuid first guids ∧ t.length < 1024 := by
  induction n generalizing i first ss with
  | zero =>
    rw [printLoop, Except.ok.injEq]
    refine ⟨?_, ?_⟩
    · rintro rfl
      exact ⟨[], rfl, by simp, by simp [separated], hss⟩
    · rintro ⟨guids, hlen, -, rfl, -⟩
      obtain rfl := List.length_eq_zero_iff.mp hlen
      simp [separated]
  | succ n ih =>
    have hsucc := toNat_succ (by omega : i.toNat + 1 < 2 ^ 64)
    rw [printLoop, bind_ok_iff]
    refine ⟨?_, ?_⟩
    · rintro ⟨u, hu, ht⟩
      obtain ⟨guid, hguid, rfl, hl⟩ := (printEntry_ok_iff hss).mp hu
      obtain ⟨guids, hlen, hset, rfl, hlt⟩ := (ih (i + 1) (by omega) false hl).mp ht
      rw [hsucc] at hset
      refine ⟨guid :: guids, by rw [List.length_cons, hlen], ?_, ?_, hlt⟩
      · exact take_drop_cons.mpr ⟨hguid, hset⟩
      · simp only [separated, List.append_assoc]
    · rintro ⟨guids, hlen, hset, rfl, hlt⟩
      cases guids with
      | nil => cases hlen
      | cons guid guids =>
        obtain ⟨hguid, hset⟩ := take_drop_cons.mp hset
        have happ : ss ++ separated printedGuid first (guid :: guids) =
            ss ++ ((if first then [] else [',']) ++ printedGuid guid) ++ separated printedGuid false guids := by
          simp only [separated, List.append_assoc]
        have hl : (ss ++ ((if first then [] else [',']) ++ printedGuid guid)).length < 1024 := by
          rw [happ, List.length_append] at hlt
          omega
        refine ⟨_, (printEntry_ok_iff hss).mpr ⟨guid, hguid, rfl, hl⟩, ?_⟩
        refine (ih (i + 1) (by omega) false hl).mpr ⟨guids, Nat.succ.inj hlen, ?_, happ, hlt⟩
        rwa [hsucc]

lemma printSet_ok_iff {inSet : GuidSet} {count : UInt64} {t : List Char} :
    printSet inSet count = .ok t ↔ ∃ guids : List UInt64, guids.length = count.toNat ∧
      inSet.take count.toNat = guids.map some ∧
      t = '[' :: (separated printedGuid true guids ++ [']']) ∧ t.length < 1024 := by
  have hcount := count.toNat_lt
  rw [printSet, bind_ok_iff]
  simp only [printLoop_ok_iff count.toNat 0 (by simpa using hcount) true (by decide : ['['].length < 1024),
    strcat_ok_iff, UInt64.toNat_zero, List.drop_zero]
  refine ⟨?_, ?_⟩
  · rintro ⟨u, ⟨guids, hlen, hset, rfl, -⟩, rfl, hlt⟩
    exact ⟨guids, hlen, hset, rfl, hlt⟩
  · rintro ⟨guids, hlen, hset, rfl, hlt⟩
    refine ⟨_, ⟨guids, hlen, hset, rfl, ?_⟩, rfl, hlt⟩
    simp only [List.length_cons, List.length_append] at hlt ⊢
    omega

lemma printLoop_outOfBounds {inSet : GuidSet} (guids : List UInt64) (n : ℕ) (i : UInt64)
    (hn : i.toNat + n < 2 ^ 64) (first : Bool) {ss : List Char} (hset : inSet.drop i.toNat = guids.map some)
    (hlt : guids.length < n) (hfits : ss.length + 21 * guids.length + 1 < 1024) :
    printLoop inSet n i first ss = .error (.outOfBounds (i.toNat + guids.length)) := by
  obtain ⟨m, rfl⟩ : ∃ m, n = m + 1 := ⟨n - 1, by omega⟩
  rw [printLoop]
  induction guids generalizing m i first ss with
  | nil =>
    have hend : inSet[i.toNat]? = none := List.getElem?_eq_none (List.drop_eq_nil_iff.mp hset)
    have hentry : entryAt inSet i = .error (.outOfBounds i.toNat) := by
      rw [entryAt, hend]
    obtain ⟨u, hu⟩ : ∃ u, appendComma first ss = .ok u := by
      cases first with
      | true => exact ⟨ss, rfl⟩
      | false => exact ⟨_, strcat_ok_iff.mpr ⟨rfl, by simpa using hfits⟩⟩
    rw [printEntry, bind_ok hu, hentry]
    rfl
  | cons guid guids ih =>
    rw [List.length_cons] at hlt hfits
    have hsucc := toNat_succ (by omega : i.toNat + 1 < 2 ^ 64)
    have hguid := length_printedGuid guid
    have hsep : (if first then [] else [',']).length ≤ 1 := by
      cases first <;> decide
    have hi : i.toNat < inSet.length := by
      by_contra h
      rw [List.drop_eq_nil_of_le (not_lt.mp h)] at hset
      cases hset
    rw [List.drop_eq_getElem_cons hi, List.map_cons, List.cons.injEq] at hset
    have hentry : inSet[i.toNat]? = some (some guid) := by
      rw [List.getElem?_eq_getElem hi, hset.1]
    have hlen : (ss ++ ((if first then [] else [',']) ++ printedGuid guid)).length ≤ ss.length + 21 := by
      rw [List.length_append, List.length_append]
      omega
    obtain ⟨m, rfl⟩ : ∃ k, m = k + 1 := ⟨m - 1, by omega⟩
    rw [bind_ok ((printEntry_ok_iff (by omega)).mpr ⟨guid, hentry, rfl, by omega⟩), printLoop,
      ih (i + 1) false (by rw [hsucc]; exact hset.2) (by omega) m (by omega) (by omega), hsucc]
    congr 2
    rw [List.length_cons]
    omega

lemma separated_eq (write : UInt64 → List Char) (guids : List UInt64) :
    separated write true guids = [','].intercalate (guids.map write) := by
  induction guids with
  | nil => rfl
  | cons guid guids ih =>
    cases guids with
    | nil => simp [separated]
    | cons next guids =>
      rw [List.map_cons, List.map_cons, List.intercalate_cons_cons, ← List.map_cons, ← ih]
      simp [separated]

lemma mem_separated {write : UInt64 → List Char} {c : Char} (hc : c ≠ ',') (first : Bool) (guids : List UInt64) :
    c ∈ separated write first guids ↔ ∃ guid ∈ guids, c ∈ write guid := by
  induction guids generalizing first with
  | nil => simp [separated]
  | cons guid guids ih =>
    rw [separated, List.mem_append, List.mem_append, ih false]
    cases first <;> simp [hc]

lemma length_separated (write : UInt64 → List Char) (guids : List UInt64) :
    (separated write true guids).length + 1 =
      (guids.map (fun guid => (write guid).length)).sum + max guids.length 1 := by
  have hrest : ∀ guids : List UInt64, (separated write false guids).length =
      (guids.map (fun guid => (write guid).length)).sum + guids.length := by
    intro guids
    induction guids with
    | nil => rfl
    | cons guid guids ih =>
      simp only [separated, Bool.false_eq_true, if_false, List.length_append, List.length_cons, List.length_nil,
        List.map_cons, List.sum_cons, ih]
      omega
  cases guids with
  | nil => rfl
  | cons guid guids =>
    simp only [separated, if_true, List.length_append, List.length_nil, hrest, List.map_cons, List.sum_cons,
      List.length_cons]
    omega

lemma sum_length_le {write : UInt64 → List Char} {guids : List UInt64} {bound : ℕ}
    (h : ∀ guid ∈ guids, (write guid).length ≤ bound) :
    (guids.map (fun guid => (write guid).length)).sum ≤ guids.length * bound := by
  rw [← List.length_map (fun guid => (write guid).length), ← smul_eq_mul]
  apply List.sum_le_card_nsmul
  intro l hl
  obtain ⟨guid, hg, rfl⟩ := List.mem_map.mp hl
  exact h guid hg

lemma minus_not_mem_decimal (guid : UInt64) : '-' ∉ decimal guid := by
  intro h
  rw [decimal, Nat.toList_repr] at h
  have hdigit : '-'.isDigit := Nat.isDigit_of_mem_toDigits (by decide) (by decide) h
  exact absurd hdigit (by decide)

lemma length_decimal_pos (guid : UInt64) : 0 < (decimal guid).length := by
  rw [decimal, Nat.toList_repr]
  exact Nat.length_toDigits_pos

lemma setText_eq (guids : List UInt64) : setText guids = '[' :: (separated decimal true guids ++ [']']) := by
  rw [setText, separated_eq]

lemma length_setText (guids : List UInt64) : (setText guids).length = textLength guids := by
  have hlen := length_separated decimal guids
  simp only [setText_eq, textLength, List.length_cons, List.length_append, List.length_nil]
  omega

lemma separated_congr {write write' : UInt64 → List Char} (first : Bool) {guids : List UInt64}
    (h : ∀ guid ∈ guids, write guid = write' guid) :
    separated write first guids = separated write' first guids := by
  induction guids generalizing first with
  | nil => rfl
  | cons guid guids ih =>
    rw [separated, separated, h guid List.mem_cons_self, ih false]
    intro g hg
    exact h g (List.mem_cons_of_mem _ hg)

def Small (guids : List UInt64) : Prop := ∀ guid ∈ guids, guid.toNat < 2 ^ 63

lemma printed_eq_of_small {guids : List UInt64} (h : Small guids) :
    '[' :: (separated printedGuid true guids ++ [']']) = setText guids := by
  rw [setText_eq, separated_congr true (fun guid hg => printedGuid_small (h guid hg))]

lemma small_of_printed_eq {guids guids' : List UInt64}
    (h : '[' :: (separated printedGuid true guids ++ [']']) = setText guids') : Small guids := by
  intro guid hg
  by_contra hlarge
  have hsign : '-' ∈ separated printedGuid true guids := by
    apply (mem_separated (by decide) true guids).mpr
    refine ⟨guid, hg, ?_⟩
    rw [printedGuid_large hlarge]
    exact List.mem_cons_self
  have htext : '-' ∈ setText guids' := by
    rw [← h]
    exact List.mem_cons_of_mem _ (List.mem_append_left _ hsign)
  rw [setText_eq, List.mem_cons, List.mem_append] at htext
  rcases htext with h | h | h
  · exact absurd h (by decide)
  · obtain ⟨g, -, h⟩ := (mem_separated (by decide) true guids').mp h
    exact minus_not_mem_decimal g h
  · exact absurd h (by decide)

lemma textLength_replicate (n : ℕ) (guid : UInt64) :
    textLength (List.replicate n guid) = n * (decimal guid).length + max n 1 + 1 := by
  simp [textLength]

lemma textLength_lt (guids : List UInt64) (guid : UInt64) (rest : List UInt64) :
    textLength guids < textLength (guids ++ guid :: rest) := by
  have hpos := length_decimal_pos guid
  simp only [textLength, List.map_append, List.map_cons, List.sum_append, List.sum_cons, List.length_append,
    List.length_cons]
  omega

lemma textLength_take_lt {guids : List UInt64} {m n : ℕ} (hm : m < n) (hn : n ≤ guids.length) :
    textLength (guids.take m) < textLength (guids.take n) := by
  have hsplit : guids.take n = guids.take m ++ guids[m] :: (guids.take n).drop (m + 1) := by
    conv_lhs => rw [← List.take_append_drop m (guids.take n), List.take_take, Nat.min_eq_left hm.le]
    rw [List.drop_eq_getElem_cons (by rw [List.length_take]; omega), List.getElem_take]
  rw [hsplit]
  exact textLength_lt _ _ _

lemma textLength_take_inj {guids : List UInt64} {m n : ℕ} (hm : m ≤ guids.length) (hn : n ≤ guids.length)
    (h : textLength (guids.take m) = textLength (guids.take n)) : m = n := by
  rcases lt_trichotomy m n with hlt | rfl | hlt
  · exact absurd h (textLength_take_lt hlt hn).ne
  · rfl
  · exact absurd h (textLength_take_lt hlt hm).ne'

lemma textLength_le {guids : List UInt64} (hsmall : Small guids) (hlen : guids.length ≤ 32) :
    textLength guids < 1024 := by
  have hsum := sum_length_le (fun guid hg => length_decimal_le (hsmall guid hg))
  rw [textLength]
  omega

lemma printSet_outOfBounds {guids : List UInt64} {count : UInt64} (hlen : guids.length ≤ 32)
    (hcount : guids.length < count.toNat) :
    printSet (guids.map some) count = .error (.outOfBounds guids.length) := by
  have hbound := count.toNat_lt
  rw [printSet, printLoop_outOfBounds guids count.toNat 0 (by simpa using hbound) true rfl hcount
    (by rw [List.length_singleton]; omega)]
  simp [bind, Except.bind]

lemma printSet_fits {inSet : GuidSet} {guids : List UInt64} {count : UInt64} (hlen : guids.length = count.toNat)
    (hset : inSet.take count.toNat = guids.map some) (hle : guids.length ≤ 32) :
    ∃ text, printSet inSet count = .ok text := by
  have hsum : (guids.map (fun guid => (printedGuid guid).length)).sum ≤ guids.length * 20 :=
    sum_length_le (fun guid _ => length_printedGuid guid)
  have hsep := length_separated printedGuid guids
  refine ⟨_, printSet_ok_iff.mpr ⟨guids, hlen, hset, rfl, ?_⟩⟩
  rw [List.length_cons, List.length_append, List.length_singleton]
  omega

end TaskStubs.Tools.MyTool
