import Mathlib.Data.List.MinMax
import Mathlib.Tactic.Common

/-!
# Searching with a best value so far

`keepLess` is the body of the loop "if the value is below the best so far, take
it". Started at a bound it finds the first least element below the bound, and
nothing when no element is below it: what lies exactly on the bound is passed
over.
-/

namespace Librorc.Lib

variable {α κ : Type*} [LinearOrder κ] {key : α → κ} {bound : κ} {xs : List α}

/-- The body of the loop: the best value so far and the element it is of. -/
def keepLess (key : α → κ) (best : κ × Option α) (x : α) : κ × Option α :=
  if key x < best.1 then (key x, some x) else best

/-- What the loop finds. -/
def leastBelow (key : α → κ) (bound : κ) (xs : List α) : Option α :=
  (xs.filter fun x => decide (key x < bound)).argmin key

theorem leastBelow_concat (key : α → κ) (bound : κ) (xs : List α) (x : α) :
    leastBelow key bound (xs ++ [x]) =
      if key x < (leastBelow key bound xs).elim bound key then some x
      else leastBelow key bound xs := by
  unfold leastBelow
  rw [List.filter_append]
  by_cases below : key x < bound
  · have kept : [x].filter (fun x => decide (key x < bound)) = [x] := by simp [below]
    rw [kept, List.argmin_concat]
    cases (xs.filter fun x => decide (key x < bound)).argmin key with
    | none => simp [below]
    | some best => by_cases less : key x < key best <;> simp [less]
  · have passed : [x].filter (fun x => decide (key x < bound)) = [] := by simp [below]
    rw [passed, List.append_nil]
    cases found : (xs.filter fun x => decide (key x < bound)).argmin key with
    | none => simp [below]
    | some best =>
        -- the best so far is below the bound, and `x` is not
        have mem := List.argmin_mem (Option.mem_def.mpr found)
        have bestBelow : key best < bound := by simpa using (List.mem_filter.mp mem).2
        have above : ¬ key x < key best := fun lt => below (lt.trans bestBelow)
        simp [above]

theorem foldl_keepLess (key : α → κ) (bound : κ) (xs : List α) :
    xs.foldl (keepLess key) (bound, none) =
      ((leastBelow key bound xs).elim bound key, leastBelow key bound xs) := by
  induction xs using List.reverseRecOn with
  | nil => rfl
  | append_singleton xs x ih =>
      rw [List.foldl_append, ih, leastBelow_concat]
      simp only [List.foldl_cons, List.foldl_nil, keepLess]
      split <;> rfl

theorem leastBelow_eq_none :
    leastBelow key bound xs = none ↔ ∀ x ∈ xs, bound ≤ key x := by
  simp [leastBelow, List.argmin_eq_none, List.filter_eq_nil_iff]

/-- What is found is below the bound and least, and in a list in order the
first of those that are least. -/
theorem leastBelow_spec [DecidableEq α] {r : α → α → Prop} (ordered : xs.Pairwise r) {x : α}
    (found : leastBelow key bound xs = some x) :
    x ∈ xs ∧ key x < bound ∧ (∀ y ∈ xs, key x ≤ key y) ∧
      ∀ y ∈ xs, key y = key x → y = x ∨ r x y := by
  obtain ⟨mem, least, first⟩ := List.argmin_eq_some_iff.mp found
  obtain ⟨memXs, below⟩ := List.mem_filter.mp mem
  have below : key x < bound := by simpa using below
  refine ⟨memXs, below, fun y memY => ?_, fun y memY same => ?_⟩
  · by_cases belowY : key y < bound
    · exact least y (List.mem_filter.mpr ⟨memY, by simpa using belowY⟩)
    · exact below.le.trans (not_lt.mp belowY)
  · have memFilter : y ∈ xs.filter fun x => decide (key x < bound) :=
      List.mem_filter.mpr ⟨memY, by simpa [same] using below⟩
    have index := first y memFilter same.le
    have sorted := ordered.filter fun x => decide (key x < bound)
    rcases eq_or_lt_of_le index with eq | lt
    · exact Or.inl ((List.idxOf_inj memFilter).mp eq.symm)
    · right
      have hx := List.getElem_idxOf (List.idxOf_lt_length_of_mem mem)
      have hy := List.getElem_idxOf (List.idxOf_lt_length_of_mem memFilter)
      have rel := List.pairwise_iff_getElem.mp sorted _ _ (List.idxOf_lt_length_of_mem mem)
        (List.idxOf_lt_length_of_mem memFilter) lt
      rwa [hx, hy] at rel

end Librorc.Lib
