import Librorc.Lib.Cyclic

/-!
# A ring of cells written in order

Cell number `k` of an unbounded tape is kept in cell `k % n` of a ring, as in
`Cyclic`. A writer puts lists of items behind one another on the tape
(`ringStore`), a reader takes `len` items from any number on (`ringLoad`). What
lies at most `n` cells behind the end of a write is not touched by it; how far
the writer may go before it meets the reader's mark is `ringRoom`.
-/

namespace Librorc.Lib

variable {α : Type*} {n : ℕ}

/-- The items of `data` in the cells of the numbers from `pos` on. -/
def ringStore (n : ℕ) (mem : ℕ → α) (pos : ℕ) : List α → ℕ → α
  | [] => mem
  | a :: rest => ringStore n (Function.update mem (pos % n) a) (pos + 1) rest

/-- The items in the cells of `len` numbers from `pos` on. -/
def ringLoad (n : ℕ) (mem : ℕ → α) (pos len : ℕ) : List α :=
  (List.range len).map fun i => mem ((pos + i) % n)

@[simp] theorem length_ringLoad (mem : ℕ → α) (pos len : ℕ) :
    (ringLoad n mem pos len).length = len := by
  rw [ringLoad, List.length_map, List.length_range]

@[simp] theorem ringLoad_zero (mem : ℕ → α) (pos : ℕ) : ringLoad n mem pos 0 = [] := rfl

theorem ringLoad_succ (mem : ℕ → α) (pos len : ℕ) :
    ringLoad n mem pos (len + 1) = mem (pos % n) :: ringLoad n mem (pos + 1) len := by
  rw [ringLoad, List.range_succ_eq_map, List.map_cons, List.map_map, ringLoad, Nat.add_zero]
  congr 1
  refine List.map_congr_left ?_
  intro i _
  rw [Function.comp_apply, Nat.succ_eq_add_one, Nat.add_assoc, Nat.add_comm 1 i]

theorem ringLoad_add (mem : ℕ → α) (pos len more : ℕ) :
    ringLoad n mem pos (len + more) =
      ringLoad n mem pos len ++ ringLoad n mem (pos + len) more := by
  induction len generalizing pos with
  | zero => rw [Nat.zero_add, ringLoad_zero, List.nil_append, Nat.add_zero]
  | succ len ih =>
      rw [Nat.succ_add, ringLoad_succ, ih, ringLoad_succ, List.cons_append, Nat.add_assoc pos,
        Nat.add_comm 1 len]

/-- Where on the tape one starts is of no account beyond the cell. -/
theorem ringLoad_mod (mem : ℕ → α) (pos len : ℕ) :
    ringLoad n mem (pos % n) len = ringLoad n mem pos len := by
  refine List.map_congr_left ?_
  intro i _
  rw [Nat.mod_add_mod]

theorem ringLoad_congr {mem mem' : ℕ → α} {pos len : ℕ}
    (same : ∀ i < len, mem ((pos + i) % n) = mem' ((pos + i) % n)) :
    ringLoad n mem pos len = ringLoad n mem' pos len :=
  List.map_congr_left fun i mem => same i (List.mem_range.mp mem)

/-- A write does not reach a number that is less than a ring behind its end. -/
theorem ringStore_of_behind (mem : ℕ → α) {pos k : ℕ} {data : List α} (behind : k < pos)
    (near : pos + data.length ≤ k + n) : ringStore n mem pos data (k % n) = mem (k % n) := by
  induction data generalizing mem pos with
  | nil => rfl
  | cons a rest ih =>
      rw [List.length_cons] at near
      rw [ringStore, ih _ (by omega) (by omega), Function.update_of_ne]
      intro same
      have := eq_of_window same (Nat.le_refl k) (by omega) (Nat.le_of_lt behind) (by omega)
      omega

/-- A write to cells that are the same leaves the same cells. -/
theorem ringStore_congr {mem mem' : ℕ → α} (same : ∀ i < n, mem i = mem' i) (pos : ℕ)
    (data : List α) {i : ℕ} (inside : i < n) :
    ringStore n mem pos data i = ringStore n mem' pos data i := by
  induction data generalizing mem mem' pos with
  | nil => exact same i inside
  | cons a rest ih =>
      refine ih ?_ (pos + 1)
      intro j insideJ
      rw [Function.update_apply, Function.update_apply, same j insideJ]

/-- So what was stored before can still be loaded. -/
theorem ringLoad_ringStore_of_behind (mem : ℕ → α) {pos start len : ℕ} {data : List α}
    (behind : start + len ≤ pos) (near : pos + data.length ≤ start + n) :
    ringLoad n (ringStore n mem pos data) start len = ringLoad n mem start len :=
  ringLoad_congr fun i inside => ringStore_of_behind mem (by omega) (by omega)

/-- What is stored is loaded again. -/
theorem ringLoad_ringStore_self (mem : ℕ → α) (pos : ℕ) {data : List α}
    (fits : data.length ≤ n) :
    ringLoad n (ringStore n mem pos data) pos data.length = data := by
  induction data generalizing mem pos with
  | nil => rfl
  | cons a rest ih =>
      rw [List.length_cons] at fits
      have first : ringStore n (Function.update mem (pos % n) a) (pos + 1) rest (pos % n) = a := by
        rw [ringStore_of_behind _ (Nat.lt_succ_self pos) (by omega), Function.update_self]
      rw [List.length_cons, ringLoad_succ, ringStore, first, ih _ _ (by omega)]

/-- A second write behind the first. -/
theorem ringLoad_ringStore_append (mem : ℕ → α) {start : ℕ} {front data : List α}
    (loaded : ringLoad n mem start front.length = front)
    (fits : front.length + data.length ≤ n) :
    ringLoad n (ringStore n mem (start + front.length) data) start (front ++ data).length =
      front ++ data := by
  rw [List.length_append, ringLoad_add,
    ringLoad_ringStore_of_behind mem (Nat.le_refl _) (by omega), loaded,
    ringLoad_ringStore_self mem _ (by omega)]

/-! ## Room -/

/-- The cells from the writer's cell on up to the mark, which is not among them.
No room is left when they are the same. -/
def ringRoom (n mark pos : ℕ) : ℕ := (mark + (n - pos)) % n

/-- A writer that uses the room there is stays behind the number of the mark,
when it has been there and less than a ring away. -/
theorem add_ringRoom_le {limit pos : ℕ} (positive : 0 < n) (low : pos ≤ limit)
    (high : limit ≤ pos + n) : pos + ringRoom n (limit % n) (pos % n) ≤ limit := by
  have bound := Nat.mod_lt pos positive
  obtain ⟨d, rfl⟩ := Nat.exists_eq_add_of_le low
  have room : ringRoom n ((pos + d) % n) (pos % n) = d % n := by
    have whole : pos + (n - pos % n) = n * (pos / n + 1) := by
      have split := Nat.div_add_mod pos n
      rw [Nat.mul_add]
      omega
    rw [ringRoom, Nat.mod_add_mod, Nat.add_right_comm, whole, Nat.mul_add_mod]
  have le := Nat.mod_le d n
  omega

end Librorc.Lib
