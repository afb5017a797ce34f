import Mathlib.Algebra.BigOperators.Group.List.Basic
import Mathlib.Data.Nat.Cast.Basic
import Mathlib.Tactic.Common

/-!
# Segment lists as address maps

A list of segments describes a memory that is contiguous to its user and
scattered in some other address space: byte `o` of the user's view lives at
the `o`-th address of `segBytes`. Addresses come from any type with `+` and
natural-number steps; wrapping ones (machine words) included.

* `locate` looks an offset up and reports how far the segment still reaches;
* `CyclicSlice` says that a list of addresses is a window of the map, read
  cyclically, and composes window by window.
-/

namespace Librorc.Lib

/-- `len` consecutive addresses from `base` on. -/
structure Seg (A : Type*) where
  base : A
  len : ℕ

variable {A : Type*} [AddMonoidWithOne A]

/-- The addresses a segment covers, in order. -/
def Seg.bytes (s : Seg A) : List A :=
  (List.range s.len).map fun k : ℕ => s.base + (k : A)

/-- The addresses a segment list covers, in order. -/
def segBytes (l : List (Seg A)) : List A := l.flatMap Seg.bytes

/-- Number of bytes a segment list describes. -/
def segTotal {A : Type*} (l : List (Seg A)) : ℕ := (l.map Seg.len).sum

@[simp] theorem Seg.length_bytes (s : Seg A) : s.bytes.length = s.len := by
  simp [Seg.bytes]

@[simp] theorem segBytes_nil : segBytes ([] : List (Seg A)) = [] := rfl

@[simp] theorem segBytes_cons (s : Seg A) (l : List (Seg A)) :
    segBytes (s :: l) = s.bytes ++ segBytes l := rfl

@[simp] theorem segBytes_append (l l' : List (Seg A)) :
    segBytes (l ++ l') = segBytes l ++ segBytes l' := by
  simp [segBytes]

omit [AddMonoidWithOne A] in
@[simp] theorem segTotal_nil : segTotal ([] : List (Seg A)) = 0 := rfl

omit [AddMonoidWithOne A] in
@[simp] theorem segTotal_cons (s : Seg A) (l : List (Seg A)) :
    segTotal (s :: l) = s.len + segTotal l := by
  simp [segTotal]

@[simp] theorem length_segBytes (l : List (Seg A)) : (segBytes l).length = segTotal l := by
  induction l with
  | nil => rfl
  | cons s rest ih => simp [ih]

theorem Seg.getElem?_bytes (s : Seg A) {k : ℕ} (hk : k < s.len) :
    s.bytes[k]? = some (s.base + (k : A)) := by
  simp [Seg.bytes, hk]

/-- Cutting a segment in two keeps its bytes. -/
theorem Seg.bytes_split (base : A) (m n : ℕ) :
    Seg.bytes ⟨base, m + n⟩ = Seg.bytes ⟨base, m⟩ ++ Seg.bytes ⟨base + (m : A), n⟩ := by
  simp [Seg.bytes, List.range_add, Function.comp_def, add_assoc]

/-! ## Looking an offset up -/

/-- The address of offset `o` and the number of bytes its segment has left
from there. -/
def locate : List (Seg A) → ℕ → Option (A × ℕ)
  | [], _ => none
  | s :: rest, o =>
      if o < s.len then some (s.base + (o : A), s.len - o) else locate rest (o - s.len)

theorem locate_eq_none_iff {l : List (Seg A)} {o : ℕ} :
    locate l o = none ↔ segTotal l ≤ o := by
  induction l generalizing o with
  | nil => simp [locate]
  | cons s rest ih =>
      by_cases inside : o < s.len
      · simp [locate, inside]
        omega
      · simp only [locate, if_neg inside, ih, segTotal_cons]
        omega

/-- A located offset lies in one segment, together with everything the
lookup says is left of it. -/
theorem locate_within {l : List (Seg A)} {o r : ℕ} {a : A} (found : locate l o = some (a, r)) :
    0 < r ∧ ∃ s ∈ l, ∃ j : ℕ, a = s.base + (j : A) ∧ j + r = s.len := by
  induction l generalizing o with
  | nil => simp [locate] at found
  | cons s rest ih =>
      by_cases inside : o < s.len
      · simp only [locate, if_pos inside, Option.some.injEq, Prod.mk.injEq] at found
        obtain ⟨rfl, rfl⟩ := found
        exact ⟨by omega, s, List.mem_cons_self, o, rfl, by omega⟩
      · simp only [locate, if_neg inside] at found
        obtain ⟨positive, seg, member, j, base, fits⟩ := ih found
        exact ⟨positive, seg, List.mem_cons_of_mem _ member, j, base, fits⟩

/-- The bytes from a located offset on are consecutive addresses, as far as
the lookup says. -/
theorem locate_bytes {l : List (Seg A)} {o r : ℕ} {a : A} (found : locate l o = some (a, r))
    {k : ℕ} (hk : k < r) : (segBytes l)[o + k]? = some (a + (k : A)) := by
  induction l generalizing o with
  | nil => simp [locate] at found
  | cons s rest ih =>
      by_cases inside : o < s.len
      · simp only [locate, if_pos inside, Option.some.injEq, Prod.mk.injEq] at found
        obtain ⟨rfl, rfl⟩ := found
        rw [segBytes_cons, List.getElem?_append_left (by simp; omega),
          Seg.getElem?_bytes s (by omega)]
        simp [add_assoc]
      · simp only [locate, if_neg inside] at found
        rw [segBytes_cons, List.getElem?_append_right (by simp; omega), Seg.length_bytes,
          show o + k - s.len = o - s.len + k by omega]
        exact ih found

/-- The address part of a lookup is the address map. -/
theorem locate_fst (l : List (Seg A)) (o : ℕ) :
    (locate l o).map Prod.fst = (segBytes l)[o]? := by
  cases found : locate l o with
  | none =>
      rw [Option.map_none, eq_comm, List.getElem?_eq_none_iff, length_segBytes]
      exact locate_eq_none_iff.mp found
  | some p =>
      have byte := locate_bytes found (locate_within found).1
      rw [Nat.add_zero] at byte
      rw [byte, Option.map_some, Nat.cast_zero, add_zero]

/-- Inside the located run the map stays inside the list. -/
theorem locate_le_total {l : List (Seg A)} {o r : ℕ} {a : A}
    (found : locate l o = some (a, r)) : o + r ≤ segTotal l := by
  induction l generalizing o with
  | nil => simp [locate] at found
  | cons s rest ih =>
      by_cases inside : o < s.len
      · simp only [locate, if_pos inside, Option.some.injEq, Prod.mk.injEq] at found
        obtain ⟨rfl, rfl⟩ := found
        simp only [segTotal_cons]
        omega
      · simp only [locate, if_neg inside] at found
        have := ih found
        simp only [segTotal_cons]
        omega

/-! ## Cyclic windows -/

/-- `ys` is what one reads from `xs` at positions `o, o+1, …`, taken modulo
its length. -/
def CyclicSlice {B : Type*} (xs : List B) (o : ℕ) (ys : List B) : Prop :=
  ∀ i < ys.length, ys[i]? = xs[(o + i) % xs.length]?

section CyclicSlice

variable {B : Type*} {xs ys zs : List B} {o : ℕ}

theorem CyclicSlice.nil : CyclicSlice xs o [] := by
  intro i hi
  simp at hi

/-- Two windows join where the second starts at the end of the first. -/
theorem CyclicSlice.append (first : CyclicSlice xs o ys)
    (second : CyclicSlice xs ((o + ys.length) % xs.length) zs) :
    CyclicSlice xs o (ys ++ zs) := by
  intro i hi
  by_cases left : i < ys.length
  · rw [List.getElem?_append_left left]
    exact first i left
  · rw [List.getElem?_append_right (by omega)]
    have hlt : i - ys.length < zs.length := by
      simp only [List.length_append] at hi
      omega
    rw [second _ hlt, Nat.mod_add_mod, show o + ys.length + (i - ys.length) = o + i by omega]

/-- A window without wrap-around. -/
theorem CyclicSlice.of_getElem? (fits : o + ys.length ≤ xs.length)
    (agree : ∀ i < ys.length, ys[i]? = xs[o + i]?) : CyclicSlice xs o ys := by
  intro i hi
  rw [Nat.mod_eq_of_lt (by omega), agree i hi]

end CyclicSlice

/-- The first `n` bytes of a located run are a window of the map. -/
theorem locate_cyclicSlice {l : List (Seg A)} {o r n : ℕ} {a : A}
    (found : locate l o = some (a, r)) (hn : n ≤ r) :
    CyclicSlice (segBytes l) o (Seg.bytes ⟨a, n⟩) := by
  have fits := locate_le_total found
  refine CyclicSlice.of_getElem? (by simp; omega) ?_
  intro i hi
  have hi : i < n := by simpa using hi
  rw [Seg.getElem?_bytes _ hi, locate_bytes found (by omega)]

end Librorc.Lib
