import Mathlib.Logic.Function.Basic
import Mathlib.Data.List.Basic
import Mathlib.Tactic.Common

/-!
# Terminated tables in a word-addressed memory

A table is a run of consecutive cells ended by a terminator. `readTable` is
what a reader finds, `storeFrom` what a writer leaves behind, and
`readTable_storeFrom` is the round trip.
-/

namespace Librorc.Lib

variable {E : Type*}

/-- The entries from `addr` up to the first terminator; `none` if `fuel`
cells hold none. -/
def readTable (stop : E → Bool) (mem : ℕ → E) : ℕ → ℕ → Option (List E)
  | 0, _ => none
  | fuel + 1, addr =>
      if stop (mem addr) then some []
      else (readTable stop mem fuel (addr + 1)).map (mem addr :: ·)

/-- `entries` written to consecutive cells from `addr` on. -/
def storeFrom (mem : ℕ → E) (addr : ℕ) : List E → ℕ → E
  | [] => mem
  | e :: rest => storeFrom (Function.update mem addr e) (addr + 1) rest

theorem storeFrom_of_lt (mem : ℕ → E) {addr a : ℕ} (entries : List E) (before : a < addr) :
    storeFrom mem addr entries a = mem a := by
  induction entries generalizing mem addr with
  | nil => rfl
  | cons e rest ih =>
      rw [storeFrom, ih _ (by omega), Function.update_of_ne (by omega)]

theorem storeFrom_cons_self (mem : ℕ → E) (addr : ℕ) (e : E) (rest : List E) :
    storeFrom mem addr (e :: rest) addr = e := by
  rw [storeFrom, storeFrom_of_lt _ _ (Nat.lt_succ_self addr), Function.update_self]

/-- A written table reads back, given cells for its entries and the
terminator. -/
theorem readTable_storeFrom (stop : E → Bool) (mem : ℕ → E) {fuel addr : ℕ} {entries : List E}
    {terminator : E} (fits : entries.length < fuel) (ends : stop terminator = true)
    (proper : ∀ e ∈ entries, stop e = false) :
    readTable stop (storeFrom mem addr (entries ++ [terminator])) fuel addr = some entries := by
  induction entries generalizing mem fuel addr with
  | nil =>
      obtain ⟨fuel, rfl⟩ : ∃ n, fuel = n + 1 := ⟨fuel - 1, by simp at fits; omega⟩
      rw [readTable, List.nil_append, storeFrom_cons_self, if_pos ends]
  | cons e rest ih =>
      obtain ⟨fuel, rfl⟩ : ∃ n, fuel = n + 1 := ⟨fuel - 1, by simp at fits; omega⟩
      simp only [List.length_cons, Nat.add_lt_add_iff_right] at fits
      rw [readTable, List.cons_append, storeFrom_cons_self, proper e List.mem_cons_self,
        if_neg Bool.false_ne_true, storeFrom,
        ih _ fits fun e' member => proper e' (List.mem_cons_of_mem _ member)]
      rfl

end Librorc.Lib
