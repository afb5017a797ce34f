import Librorc.Lib.RingStore
import Mathlib.Data.List.Nodup

/-!
# A ring of scattered cells

The cells of a ring need not be next to one another: an `AddressedRing` lists
their addresses in some memory, each of them once. A write of the ring
(`AddressedRing.store`) goes to these addresses, and somebody who has the cells
mapped in their order (`AddressedRing.view`) sees it as a `ringStore`. What is
not in the list is left alone, other rings included.
-/

namespace Librorc.Lib

variable {A α : Type*}

/-- The addresses of the cells, in their order. -/
structure AddressedRing (A : Type*) where
  cells : List A
  nonempty : 0 < cells.length
  nodup : cells.Nodup

namespace AddressedRing

variable (ring : AddressedRing A)

def size : ℕ := ring.cells.length

/-- The address of the cell of number `k`. -/
def address (k : ℕ) : A := ring.cells.get ⟨k % ring.size, Nat.mod_lt k ring.nonempty⟩

theorem getElem?_cells (k : ℕ) : ring.cells[k % ring.size]? = some (ring.address k) :=
  List.getElem?_eq_getElem _

theorem address_mem (k : ℕ) : ring.address k ∈ ring.cells := List.getElem_mem _

theorem address_mod (k : ℕ) : ring.address (k % ring.size) = ring.address k := by
  unfold address
  congr 1
  exact Fin.ext (Nat.mod_mod k _)

/-- Two numbers with one address are in one cell. -/
theorem mod_eq_of_address_eq {j k : ℕ} (same : ring.address j = ring.address k) :
    j % ring.size = k % ring.size :=
  (List.Nodup.getElem_inj_iff ring.nodup).mp same

/-- What the one who has the cells mapped sees in the cell of number `k`. -/
def view (mem : A → α) (k : ℕ) : α := mem (ring.address k)

theorem view_mod (mem : A → α) (k : ℕ) : ring.view mem (k % ring.size) = ring.view mem k :=
  congrArg mem (ring.address_mod k)

variable [DecidableEq A]

/-- The items of `data` at the addresses of the numbers from `pos` on. -/
def store (mem : A → α) (pos : ℕ) : List α → A → α
  | [] => mem
  | a :: rest => store (Function.update mem (ring.address pos) a) (pos + 1) rest

/-- A write stays in the cells. -/
theorem store_of_notMem (mem : A → α) (pos : ℕ) (data : List α) {p : A}
    (outside : p ∉ ring.cells) : ring.store mem pos data p = mem p := by
  induction data generalizing mem pos with
  | nil => rfl
  | cons a rest ih =>
      have apart : p ≠ ring.address pos := fun same => outside (same ▸ ring.address_mem pos)
      rw [store, ih, Function.update_of_ne apart]

/-- A ring that has no cell in common does not see it. -/
theorem view_store_of_disjoint {other : AddressedRing A}
    (apart : ∀ p ∈ other.cells, p ∉ ring.cells) (mem : A → α) (pos : ℕ) (data : List α) :
    other.view (ring.store mem pos data) = other.view mem := by
  funext k
  exact ring.store_of_notMem mem pos data (apart _ (other.address_mem k))

theorem view_update (mem : A → α) (pos k : ℕ) (a : α) :
    ring.view (Function.update mem (ring.address pos) a) k =
      Function.update (ring.view mem) (pos % ring.size) a (k % ring.size) := by
  by_cases same : k % ring.size = pos % ring.size
  · rw [same, Function.update_self, ← view_mod, same, view_mod, view, Function.update_self]
  · have apart : ring.address k ≠ ring.address pos := mt ring.mod_eq_of_address_eq same
    rw [Function.update_of_ne same, view_mod, view, Function.update_of_ne apart, view]

/-- The write as the mapping shows it. -/
theorem view_store (mem : A → α) (pos : ℕ) (data : List α) (k : ℕ) :
    ring.view (ring.store mem pos data) k =
      ringStore ring.size (ring.view mem) pos data (k % ring.size) := by
  induction data generalizing mem pos with
  | nil => exact (ring.view_mod mem k).symm
  | cons a rest ih =>
      rw [store, ih, ringStore]
      refine ringStore_congr ?_ _ _ (Nat.mod_lt k ring.nonempty)
      intro i (inside : i < ring.size)
      rw [view_update, Nat.mod_eq_of_lt inside]

end AddressedRing

end Librorc.Lib
