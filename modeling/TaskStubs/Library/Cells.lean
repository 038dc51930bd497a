import Mathlib.Tactic

/-! Arrays whose cells are written one after another; a cell is none until it is written. -/

namespace TaskStubs.Library.Cells

variable {α : Type*}

def splice (cells : List (Option α)) (i : ℕ) (xs : List α) : List (Option α) :=
  cells.take i ++ (xs.map some ++ cells.drop (i + xs.length))

variable {cells : List (Option α)} {i : ℕ} {xs : List α}

@[simp] lemma splice_nil (cells : List (Option α)) (i : ℕ) : splice cells i [] = cells := by
  simp [splice]

lemma length_splice (h : i + xs.length ≤ cells.length) : (splice cells i xs).length = cells.length := by
  simp only [splice, List.length_append, List.length_take, List.length_map, List.length_drop]
  omega

lemma take_splice (h : i ≤ cells.length) :
    (splice cells i xs).take (i + xs.length) = cells.take i ++ xs.map some := by
  have hlen : (cells.take i ++ xs.map some).length = i + xs.length := by
    simp [Nat.min_eq_left h]
  rw [splice, ← List.append_assoc, ← hlen, List.take_left]

lemma splice_splice (h : i ≤ cells.length) (ys : List α) :
    splice (splice cells i xs) (i + xs.length) ys = splice cells i (xs ++ ys) := by
  have hlen : (cells.take i ++ xs.map some).length = i + xs.length := by
    simp [Nat.min_eq_left h]
  have hdrop : (splice cells i xs).drop (i + xs.length + ys.length) =
      cells.drop (i + (xs ++ ys).length) := by
    rw [← List.drop_drop, splice, ← List.append_assoc, ← hlen, List.drop_left, hlen, List.drop_drop,
      List.length_append, Nat.add_assoc]
  rw [splice, take_splice h, hdrop, splice, List.map_append, List.append_assoc, List.append_assoc]

lemma set_eq_splice {j : ℕ} (h : j < cells.length) (a : α) : cells.set j (some a) = splice cells j [a] := by
  rw [List.set_eq_take_append_cons_drop, if_pos h]
  rfl

lemma set_splice (h : i + xs.length < cells.length) (a : α) :
    (splice cells i xs).set (i + xs.length) (some a) = splice cells i (xs ++ [a]) := by
  have hlt : i + xs.length < (splice cells i xs).length := by rwa [length_splice h.le]
  rw [set_eq_splice hlt, splice_splice (by omega)]

lemma getElem?_splice (h : i + xs.length ≤ cells.length) {j : ℕ} (hj : j < i ∨ i + xs.length ≤ j) :
    (splice cells i xs)[j]? = cells[j]? := by
  have htake : (cells.take i).length = i := by
    rw [List.length_take]
    omega
  rw [splice]
  rcases hj with hj | hj
  · rw [List.getElem?_append_left (by omega), List.getElem?_take_of_lt hj]
  · rw [List.getElem?_append_right (by omega), List.getElem?_append_right (by rw [List.length_map]; omega),
      List.getElem?_drop, List.length_map]
    congr 1
    omega

end TaskStubs.Library.Cells
