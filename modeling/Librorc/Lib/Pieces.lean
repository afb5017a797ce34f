import Mathlib.Algebra.BigOperators.Group.List.Basic
import Mathlib.Data.List.Basic
import Mathlib.Tactic.Common

/-!
# Sequences in marked pieces

A list is cut in pieces of at most `k` elements, the last of them marked.
Lists that are cut one after the other can be told apart again by the marks
alone.
-/

namespace Librorc.Lib

variable {α : Type*}

/-- Some elements, and whether the sequence ends with them. -/
structure Piece (α : Type*) where
  items : List α
  ends : Bool

/-- Cut a list in pieces of `k`. -/
def pieces (k : ℕ) (l : List α) : List (Piece α) :=
  if 0 < k ∧ k < l.length then ⟨l.take k, false⟩ :: pieces k (l.drop k) else [⟨l, true⟩]
termination_by l.length
decreasing_by
  rw [List.length_drop]
  omega

/-- Collect the items of the pieces; a mark closes a list. -/
def joinPieces : List α → List (Piece α) → List (List α)
  | _, [] => []
  | front, piece :: rest =>
      if piece.ends then (front ++ piece.items) :: joinPieces [] rest
      else joinPieces (front ++ piece.items) rest

theorem joinPieces_cons (front items : List α) (ends : Bool) (rest : List (Piece α)) :
    joinPieces front (⟨items, ends⟩ :: rest) =
      if ends then (front ++ items) :: joinPieces [] rest else joinPieces (front ++ items) rest :=
  rfl

variable {k : ℕ}

theorem pieces_of_le {l : List α} (short : l.length ≤ k) : pieces k l = [⟨l, true⟩] := by
  rw [pieces, if_neg (by omega)]

theorem pieces_of_lt (pos : 0 < k) {l : List α} (long : k < l.length) :
    pieces k l = ⟨l.take k, false⟩ :: pieces k (l.drop k) := by
  rw [pieces, if_pos ⟨pos, long⟩]

/-- Induction along the cutting. -/
theorem pieces_induction (pos : 0 < k) {P : List α → Prop}
    (short : ∀ l, l.length ≤ k → P l) (long : ∀ l, k < l.length → P (l.drop k) → P l)
    (l : List α) : P l := by
  induction size : l.length using Nat.strongRecOn generalizing l with
  | ind n ih =>
      rcases Nat.lt_or_ge k l.length with more | less
      · refine long l more (ih _ ?_ (l.drop k) rfl)
        rw [List.length_drop]
        omega
      · exact short l less

theorem joinPieces_pieces_append (pos : 0 < k) (front l : List α) (rest : List (Piece α)) :
    joinPieces front (pieces k l ++ rest) = (front ++ l) :: joinPieces [] rest := by
  induction l using pieces_induction pos generalizing front with
  | short l less =>
      rw [pieces_of_le less]
      rfl
  | long l more ih =>
      rw [pieces_of_lt pos more]
      show joinPieces (front ++ l.take k) (pieces k (l.drop k) ++ rest) = _
      rw [ih, List.append_assoc, List.take_append_drop]

/-- Joining undoes cutting. -/
theorem joinPieces_flatMap_pieces (pos : 0 < k) (lists : List (List α)) :
    joinPieces [] (lists.flatMap (pieces k)) = lists := by
  induction lists with
  | nil => rfl
  | cons l rest ih =>
      rw [List.flatMap_cons, joinPieces_pieces_append pos, ih]
      rfl

theorem length_pieces (pos : 0 < k) {l : List α} (nonempty : l ≠ []) :
    (pieces k l).length = (l.length + (k - 1)) / k := by
  induction l using pieces_induction pos with
  | short l less =>
      have some := List.length_pos_iff.mpr nonempty
      rw [pieces_of_le less]
      symm
      rw [List.length_singleton]
      refine Nat.div_eq_of_lt_le ?_ ?_
      · omega
      · omega
  | long l more ih =>
      have left : l.drop k ≠ [] := by
        rw [ne_eq, List.drop_eq_nil_iff]
        omega
      rw [pieces_of_lt pos more, List.length_cons, ih left, List.length_drop,
        show l.length + (k - 1) = (l.length - k + (k - 1)) + k by omega, Nat.add_div_right _ pos]

theorem length_pieces_pos (pos : 0 < k) (l : List α) : 0 < (pieces k l).length := by
  rcases Nat.lt_or_ge k l.length with more | less
  · rw [pieces_of_lt pos more]
    exact Nat.succ_pos _
  · rw [pieces_of_le less]
    exact Nat.one_pos

/-- Only the last piece of a list is marked. -/
theorem pieces_ends_iff (pos : 0 < k) (l : List α) (j : ℕ) (inRange : j < (pieces k l).length) :
    (pieces k l)[j].ends = true ↔ j + 1 = (pieces k l).length := by
  induction l using pieces_induction pos generalizing j with
  | short l less =>
      simp only [pieces_of_le less, List.length_singleton] at inRange ⊢
      obtain rfl := Nat.lt_one_iff.mp inRange
      exact iff_of_true rfl rfl
  | long l more ih =>
      simp only [pieces_of_lt pos more, List.length_cons] at inRange ⊢
      cases j with
      | zero =>
          refine iff_of_false Bool.false_ne_true ?_
          intro only
          have some := length_pieces_pos pos (l.drop k)
          omega
      | succ j =>
          refine (ih j (by omega)).trans ?_
          omega

/-- In a series of lists the marks are where a list ends. -/
theorem flatMap_pieces_ends_iff (pos : 0 < k) (lists : List (List α)) (j : ℕ)
    (inRange : j < (lists.flatMap (pieces k)).length) :
    (lists.flatMap (pieces k))[j].ends = true ↔
      ∃ m < lists.length, j + 1 = ((lists.take (m + 1)).flatMap (pieces k)).length := by
  induction lists generalizing j with
  | nil => cases inRange
  | cons l rest ih =>
      simp only [List.flatMap_cons, List.length_append] at inRange ⊢
      rcases Nat.lt_or_ge j (pieces k l).length with here | there
      · rw [List.getElem_append_left here, pieces_ends_iff pos l j here]
        constructor
        · intro last
          exact ⟨0, Nat.succ_pos _, by simpa using last⟩
        · rintro ⟨m, -, place⟩
          rw [List.take_succ_cons, List.flatMap_cons, List.length_append] at place
          omega
      · rw [List.getElem_append_right there, ih _ (by omega)]
        constructor
        · rintro ⟨m, less, place⟩
          refine ⟨m + 1, Nat.succ_lt_succ less, ?_⟩
          rw [List.take_succ_cons, List.flatMap_cons, List.length_append]
          omega
        · rintro ⟨m, less, place⟩
          rw [List.take_succ_cons, List.flatMap_cons, List.length_append] at place
          cases m with
          | zero =>
              simp only [List.take_zero, List.flatMap_nil, List.length_nil] at place
              omega
          | succ m => exact ⟨m, Nat.lt_of_succ_lt_succ less, by omega⟩

end Librorc.Lib
