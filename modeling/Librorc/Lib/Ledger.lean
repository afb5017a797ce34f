import Mathlib.Data.Finset.Lattice.Fold
import Mathlib.Data.Finset.Sort
import Mathlib.Data.Set.Finite.Basic
import Mathlib.Tactic.Common

/-!
# Delivery in order, return in any order

The bookkeeping behind a ring buffer whose reader may give items back out of
order: items are numbered in the order they are written, delivered in that
order, and returned in any. Storage is reclaimed up to the *frontier*, the
first number not returned yet, and at most `n - 1` numbers from the frontier
on are in use.
-/

namespace Librorc.Lib

/-- The first number missing from a finite set. -/
def firstMissing (s : Finset ℕ) : ℕ := Nat.find (Infinite.exists_notMem_finset s)

theorem firstMissing_notMem (s : Finset ℕ) : firstMissing s ∉ s :=
  Nat.find_spec (Infinite.exists_notMem_finset s)

theorem mem_of_lt_firstMissing {s : Finset ℕ} {k : ℕ} (below : k < firstMissing s) : k ∈ s :=
  not_not.mp (Nat.find_min (Infinite.exists_notMem_finset s) below)

theorem firstMissing_le {s : Finset ℕ} {k : ℕ} (missing : k ∉ s) : firstMissing s ≤ k :=
  Nat.find_min' (Infinite.exists_notMem_finset s) missing

@[simp] theorem firstMissing_empty : firstMissing ∅ = 0 :=
  Nat.le_zero.mp (firstMissing_le (by simp))

theorem firstMissing_mono {s t : Finset ℕ} (subset : s ⊆ t) : firstMissing s ≤ firstMissing t :=
  Nat.not_lt.mp fun below => firstMissing_notMem t (subset (mem_of_lt_firstMissing below))

/-- What was written, how much of it was delivered, and which deliveries came
back, for a ring of `n` slots. -/
@[ext] structure Ledger (α : Type*) (n : ℕ) where
  written : List α
  delivered : ℕ
  returned : Finset ℕ
  delivered_le : delivered ≤ written.length
  returned_lt : ∀ k ∈ returned, k < delivered
  bounded : written.length < firstMissing returned + n

namespace Ledger

variable {α : Type*} {n : ℕ}

/-- The oldest number not returned yet. -/
def frontier (L : Ledger α n) : ℕ := firstMissing L.returned

theorem frontier_le (L : Ledger α n) : L.frontier ≤ L.delivered :=
  firstMissing_le fun mem => Nat.lt_irrefl _ (L.returned_lt _ mem)

theorem frontier_notMem (L : Ledger α n) : L.frontier ∉ L.returned := firstMissing_notMem _

theorem mem_of_lt_frontier {L : Ledger α n} {k : ℕ} (below : k < L.frontier) : k ∈ L.returned :=
  mem_of_lt_firstMissing below

theorem frontier_le_of_notMem {L : Ledger α n} {k : ℕ} (out : k ∉ L.returned) : L.frontier ≤ k :=
  firstMissing_le out

theorem lt_frontier_add (L : Ledger α n) : L.written.length < L.frontier + n := L.bounded

/-- Nothing written, in a ring with at least one slot. -/
def empty (positive : 0 < n) : Ledger α n where
  written := []
  delivered := 0
  returned := ∅
  delivered_le := Nat.le_refl _
  returned_lt := by simp
  bounded := by simpa using positive

/-- The writer appends an item; one slot always stays free. -/
def write (L : Ledger α n) (a : α) (room : L.written.length + 1 < L.frontier + n) :
    Ledger α n where
  written := L.written ++ [a]
  delivered := L.delivered
  returned := L.returned
  delivered_le := by
    rw [List.length_append]
    exact Nat.le_add_right_of_le L.delivered_le
  returned_lt := L.returned_lt
  bounded := by
    rw [List.length_append]
    exact room

/-- The reader takes the next item. -/
def deliver (L : Ledger α n) (more : L.delivered < L.written.length) : Ledger α n where
  written := L.written
  delivered := L.delivered + 1
  returned := L.returned
  delivered_le := more
  returned_lt k mem := Nat.lt_succ_of_lt (L.returned_lt k mem)
  bounded := L.bounded

/-- Delivery number `k` comes back. -/
def giveBack (L : Ledger α n) (k : ℕ) (taken : k < L.delivered) : Ledger α n where
  written := L.written
  delivered := L.delivered
  returned := insert k L.returned
  delivered_le := L.delivered_le
  returned_lt j mem := by
    rcases Finset.mem_insert.mp mem with rfl | mem
    · exact taken
    · exact L.returned_lt j mem
  bounded := by
    have advanced := firstMissing_mono (Finset.subset_insert k L.returned)
    have bounded := L.bounded
    omega

end Ledger
end Librorc.Lib
