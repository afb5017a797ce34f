import Librorc.Lib.Throwing
import Mathlib.Algebra.Group.Nat.Defs
import Mathlib.Data.List.Range
import Mathlib.Data.Nat.Notation

/-!
# Loops up to and including a bound

`for (i = first; i <= last; i++)`, with a counter as wide as the bound. The
counter passes every bound but the greatest one, from which it starts over.
-/

namespace Librorc.Lib

variable {w : ℕ} {ε σ α : Type}

/-- The values from `first` up to `last`. -/
def inclusiveRange (first last : BitVec w) : List (BitVec w) :=
  (List.range (last.toNat + 1 - first.toNat)).map fun i => first + BitVec.ofNat w i

theorem inclusiveRange_of_lt {first last : BitVec w} (past : last < first) :
    inclusiveRange first last = [] := by
  have none : last.toNat + 1 - first.toNat = 0 := Nat.sub_eq_zero_of_le past
  rw [inclusiveRange, none]
  rfl

/-- The counter after one turn, as long as it does not start over. -/
theorem toNat_add_one {first last : BitVec w} (le : first ≤ last)
    (below : last.toNat + 1 < 2 ^ w) : (first + 1).toNat = first.toNat + 1 := by
  have bound : first.toNat ≤ last.toNat := le
  have one : (1 : BitVec w).toNat = 1 := by
    refine (BitVec.toNat_ofNat 1 w).trans (Nat.mod_eq_of_lt ?_)
    omega
  rw [BitVec.toNat_add, one]
  exact Nat.mod_eq_of_lt (by omega)

theorem inclusiveRange_of_le {first last : BitVec w} (le : first ≤ last)
    (below : last.toNat + 1 < 2 ^ w) :
    inclusiveRange first last = first :: inclusiveRange (first + 1) last := by
  have bound : first.toNat ≤ last.toNat := le
  have next := toNat_add_one le below
  have count : last.toNat + 1 - first.toNat = last.toNat + 1 - (first + 1).toNat + 1 := by omega
  rw [inclusiveRange, inclusiveRange, count, List.range_succ_eq_map, List.map_cons, List.map_map]
  congr 1
  · exact BitVec.add_zero first
  · apply List.map_congr_left
    intro i _
    show first + BitVec.ofNat w (i + 1) = first + 1 + BitVec.ofNat w i
    rw [BitVec.add_assoc, BitVec.ofNat_add, BitVec.add_comm (BitVec.ofNat w i)]
    rfl

/-- Collects what `read` returns for each value of the counter; `none` when the
loop is still running after `turns` turns. -/
def collect (read : BitVec w → Throwing ε σ α) (last : BitVec w) :
    ℕ → BitVec w → List α → Throwing ε σ (Option (List α))
  | 0, _, _ => pure none
  | turns + 1, i, readout =>
      if i ≤ last then do
        let data ← read i
        collect read last turns (i + 1) (readout ++ [data])
      else pure (some readout)

variable {read : BitVec w → Throwing ε σ α} {last : BitVec w}

/-- The first turn reads. -/
theorem collect_of_le {first : BitVec w} (le : first ≤ last) (turns : ℕ) (readout : List α) :
    collect read last (turns + 1) first readout =
      read first >>= fun data => collect read last turns (first + 1) (readout ++ [data]) :=
  if_pos le

theorem collect_of_lt {first : BitVec w} (past : last < first) (turns : ℕ) (readout : List α) :
    collect read last (turns + 1) first readout = pure (some readout) :=
  if_neg (BitVec.not_le.mpr past)

/-- A `read` that always returns, in terms of what has been read so far. -/
def ReadsAll (read : BitVec w → Throwing ε σ α) (value : BitVec w → α)
    (After : List (BitVec w) → σ → Prop) : Prop :=
  ∀ i done s, After done s →
    ∃ s', (read i).run.run s = (.ok (value i), s') ∧ After (done ++ [i]) s'

variable {value : BitVec w → α} {After : List (BitVec w) → σ → Prop}

/-- Below the greatest bound, the loop reads once for each value and ends. -/
theorem collect_returns (reads : ReadsAll read value After) (below : last.toNat + 1 < 2 ^ w)
    {turns : ℕ} {first : BitVec w} (enough : last.toNat + 1 - first.toNat < turns)
    (readout : List α) {done : List (BitVec w)} {s : σ} (start : After done s) :
    ∃ s', (collect read last turns first readout).run.run s =
        (.ok (some (readout ++ (inclusiveRange first last).map value)), s') ∧
      After (done ++ inclusiveRange first last) s' := by
  induction turns generalizing first readout done s with
  | zero => exact absurd enough (Nat.not_lt_zero _)
  | succ turns ih =>
      by_cases le : first ≤ last
      · obtain ⟨s₁, returned, after⟩ := reads first done s start
        have bound : first.toNat ≤ last.toNat := le
        have next := toNat_add_one le below
        have fewer : last.toNat + 1 - (first + 1).toNat < turns := by omega
        obtain ⟨s', later, ended⟩ := ih fewer (readout ++ [value first]) after
        refine ⟨s', ?_, ?_⟩
        · rw [collect_of_le le, run_bind_ok returned, later, inclusiveRange_of_le le below,
            List.map_cons, List.append_assoc, List.singleton_append]
        · rwa [inclusiveRange_of_le le below, ← List.singleton_append, ← List.append_assoc]
      · have past : last < first := BitVec.not_le.mp le
        refine ⟨s, ?_, ?_⟩
        · rw [collect_of_lt past, inclusiveRange_of_lt past, List.map_nil, List.append_nil]
          rfl
        · rwa [inclusiveRange_of_lt past, List.append_nil]

/-- With the greatest bound the loop never ends. -/
theorem collect_runs_on (reads : ReadsAll read value After) (greatest : last.toNat + 1 = 2 ^ w)
    (turns : ℕ) (first : BitVec w) (readout : List α) {done : List (BitVec w)} {s : σ}
    (start : After done s) :
    ∃ s', (collect read last turns first readout).run.run s = (.ok none, s') := by
  induction turns generalizing first readout done s with
  | zero => exact ⟨s, rfl⟩
  | succ turns ih =>
      have le : first ≤ last := by
        have bound := first.isLt
        rw [BitVec.le_def]
        omega
      obtain ⟨s₁, returned, after⟩ := reads first done s start
      rw [collect_of_le le, run_bind_ok returned]
      exact ih (first + 1) (readout ++ [value first]) after

/-- A loop whose first read throws does not return. -/
theorem collect_throws {first : BitVec w} (le : first ≤ last) {s s' : σ} {e : ε}
    (threw : (read first).run.run s = (.error e, s')) (turns : ℕ) (readout : List α) :
    (collect read last turns first readout).run.run s = (.ok none, s) ∨
      (collect read last turns first readout).run.run s = (.error e, s') := by
  cases turns with
  | zero => exact .inl rfl
  | succ turns =>
      right
      rw [collect_of_le le, run_bind_error threw]

end Librorc.Lib
