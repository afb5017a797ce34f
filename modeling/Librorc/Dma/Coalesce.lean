import Librorc.Dma.EntryCount
import Mathlib.Data.List.Forall2

/-!
# Joining the kernel's list (sysfs build)

`initializeSglist` walks the mapped kernel list with one index: the inner loop
advances it while it grows an entry, the outer loop puts the entry away.
`coalesceLoop` is that walk, reads by index included; it never leaves the list
and computes `coalesce` (`coalesceLoop_eq`). What the joined entries are worth
is then said about `coalesceFrom`, one kernel entry at a time.
-/

namespace Librorc

open Librorc.Lib

/-! ## The loops, by index -/

/-- The inner loop, at index `i`; `none` when it reads past the list or is
still running after `fuel` turns. -/
def joinLoop (sglist : List Scatter) :
    Nat → ScatterGatherEntry → Nat → Option (ScatterGatherEntry × Nat)
  | 0, _, _ => none
  | fuel + 1, entry, i =>
      if i < sglist.length - 1 then
        match sglist[i]?, sglist[i + 1]? with
        | some last, some next =>
            if joins entry last next then
              joinLoop sglist fuel
                { entry with length := entry.length + next.length.setWidth 64 } (i + 1)
            else some (entry, i)
        | _, _ => none
      else some (entry, i)

/-- The outer loop, at index `i` with `vector` pushed so far. -/
def coalesceLoop (sglist : List Scatter) :
    Nat → Nat → List ScatterGatherEntry → Option (List ScatterGatherEntry)
  | 0, _, _ => none
  | fuel + 1, i, vector =>
      if i < sglist.length then
        match sglist[i]? with
        | none => none
        | some first =>
            match joinLoop sglist sglist.length
                ⟨first.dmaAddress, first.length.setWidth 64⟩ i with
            | none => none
            | some (entry, i') => coalesceLoop sglist fuel (i' + 1) (vector ++ [entry])
      else some vector

/-- The inner loop stops inside the list, with the entry `coalesceFrom` puts
away first. Induction on the fuel; the index grows with every turn. -/
theorem joinLoop_spec {sglist : List Scatter} (fuel : ℕ) (entry : ScatterGatherEntry) {i : ℕ}
    {last : Scatter} {rest : List Scatter} (here : sglist.drop i = last :: rest)
    (enough : rest.length < fuel) :
    ∃ entry' i', joinLoop sglist fuel entry i = some (entry', i') ∧
      i ≤ i' ∧ i' < sglist.length ∧
      coalesceFrom entry last rest = entry' :: coalesce (sglist.drop (i' + 1)) := by
  induction fuel generalizing entry i last rest with
  | zero => exact absurd enough (Nat.not_lt_zero _)
  | succ fuel ih =>
      have size : sglist.length - i = rest.length + 1 := by
        rw [← List.length_drop, here, List.length_cons]
      have later : sglist.drop (i + 1) = rest := by
        rw [← List.drop_drop, here, List.drop_one, List.tail_cons]
      have atI : sglist[i]? = some last := by
        rw [← Nat.add_zero i, ← List.getElem?_drop, here, List.getElem?_cons_zero]
      cases rest with
      | nil =>
          have stop : ¬i < sglist.length - 1 := by simp only [List.length_nil] at size; omega
          refine ⟨entry, i, by rw [joinLoop, if_neg stop], Nat.le_refl i, by omega, ?_⟩
          rw [later]
          rfl
      | cons next rest =>
          have go : i < sglist.length - 1 := by simp only [List.length_cons] at size; omega
          have atNext : sglist[i + 1]? = some next := by
            rw [← Nat.add_zero (i + 1), ← List.getElem?_drop, later, List.getElem?_cons_zero]
          rw [joinLoop, if_pos go, atI, atNext, coalesceFrom]
          by_cases join : joins entry last next = true
          · obtain ⟨entry', i', found, low, high, same⟩ :=
              ih { entry with length := entry.length + next.length.setWidth 64 } later
                (by simpa using enough)
            exact ⟨entry', i', by simp only [if_pos join, found], by omega, high,
              by rw [if_pos join, same]⟩
          · refine ⟨entry, i, by simp only [if_neg join], Nat.le_refl i, by omega, ?_⟩
            rw [if_neg join, later]
            rfl

/-- The outer loop from any index on. -/
theorem coalesceLoop_drop {sglist : List Scatter} (fuel i : ℕ)
    (enough : sglist.length - i < fuel) (vector : List ScatterGatherEntry) :
    coalesceLoop sglist fuel i vector = some (vector ++ coalesce (sglist.drop i)) := by
  induction fuel generalizing i vector with
  | zero => exact absurd enough (Nat.not_lt_zero _)
  | succ fuel ih =>
      rw [coalesceLoop]
      by_cases inside : i < sglist.length
      · rw [if_pos inside, List.getElem?_eq_getElem inside]
        have here := List.drop_eq_getElem_cons inside
        obtain ⟨entry', i', found, low, high, same⟩ :=
          joinLoop_spec sglist.length
            ⟨sglist[i].dmaAddress, sglist[i].length.setWidth 64⟩ here
            (by rw [List.length_drop]; omega)
        simp only [found]
        rw [ih (i' + 1) (by omega), here, coalesce, same, List.append_assoc]
        rfl
      · rw [if_neg inside, List.drop_eq_nil_of_le (Nat.not_lt.mp inside)]
        simp [coalesce]

/-- The indexed loops end, read inside the list only, and compute
`coalesce`. -/
theorem coalesceLoop_eq (sglist : List Scatter) :
    coalesceLoop sglist (sglist.length + 1) 0 [] = some (coalesce sglist) := by
  rw [coalesceLoop_drop _ _ (by omega), List.drop_zero, List.nil_append]

/-! ## What the entries are made of -/

/-- The segment a kernel entry describes. -/
def Scatter.seg (s : Scatter) : Seg Word64 := ⟨s.dmaAddress, s.length.toNat⟩

/-- The address map of the kernel's list. -/
def scatterSegs (l : List Scatter) : List (Seg Word64) := l.map Scatter.seg

theorem scatterSegs_append (l l' : List Scatter) :
    scatterSegs (l ++ l') = scatterSegs l ++ scatterSegs l' := by
  simp [scatterSegs]

/-- `e` covers what the kernel entries of `group` cover, in their order. -/
structure Joined (group : List Scatter) (e : ScatterGatherEntry) : Prop where
  nonempty : group ≠ []
  bytes : e.seg.bytes = segBytes (scatterSegs group)

namespace Joined

variable {group : List Scatter} {entry : ScatterGatherEntry} {last next : Scatter}

theorem single (s : Scatter) : Joined [s] ⟨s.dmaAddress, s.length.setWidth 64⟩ where
  nonempty := List.cons_ne_nil _ _
  bytes := by
    simp only [ScatterGatherEntry.seg, setWidth_length_toNat]
    simp [scatterSegs, Scatter.seg]

/-- What passes the loop's test continues the entry without a gap, and the
sum of the lengths is far from 64 bits. -/
theorem join (joined : Joined group entry) (small : entry.length.toNat < 2 ^ 33)
    (test : joins entry last next = true) :
    Joined (group ++ [next]) { entry with length := entry.length + next.length.setWidth 64 } where
  nonempty := by simp
  bytes := by
    have adjoining : entry.pointer + entry.length = next.dmaAddress := by
      simp only [joins, Bool.and_eq_true, beq_iff_eq] at test
      exact test.1
    simp only [ScatterGatherEntry.seg, length_add_toNat small]
    rw [Seg.bytes_split, natCast_toNat, adjoining, scatterSegs_append, segBytes_append,
      ← joined.bytes]
    simp [scatterSegs, Scatter.seg, ScatterGatherEntry.seg]

/-- The test keeps a joined length below 2^33. -/
theorem small_of_joins (small : entry.length.toNat < 2 ^ 33)
    (test : joins entry last next = true) :
    (entry.length + next.length.setWidth 64).toNat < 2 ^ 33 := by
  simp only [joins, Bool.and_eq_true, decide_eq_true_eq, BitVec.lt_def,
    length_add_toNat small] at test
  have bound := test.2
  have nextLt := next.length.isLt
  rw [length_add_toNat small]
  simp only [BitVec.reduceToNat] at bound
  omega

theorem length_eq (joined : Joined group entry) :
    entry.length.toNat = segTotal (scatterSegs group) := by
  have same := congrArg List.length joined.bytes
  simpa [ScatterGatherEntry.seg] using same

end Joined

/-- Every entry is joined from a run of the kernel's list, and the runs in
their order are the list. `group` is what the entry under construction holds
already. -/
theorem coalesceFrom_groups {group : List Scatter} {entry : ScatterGatherEntry}
    (joined : Joined group entry) (small : entry.length.toNat < 2 ^ 33) (last : Scatter)
    (rest : List Scatter) :
    ∃ groups, groups.flatten = group ++ rest ∧
      List.Forall₂ Joined groups (coalesceFrom entry last rest) := by
  induction rest generalizing group entry last with
  | nil => exact ⟨[group], by simp, .cons joined .nil⟩
  | cons next rest ih =>
      rw [coalesceFrom]
      by_cases test : joins entry last next = true
      · rw [if_pos test]
        obtain ⟨groups, all, each⟩ :=
          ih (joined.join small test) (Joined.small_of_joins small test) next
        exact ⟨groups, by simpa using all, each⟩
      · rw [if_neg test]
        obtain ⟨groups, all, each⟩ := ih (Joined.single next)
          (by rw [setWidth_length_toNat]; have := next.length.isLt; omega) next
        exact ⟨group :: groups, by simpa using all, .cons joined each⟩

theorem coalesce_groups (sglist : List Scatter) :
    ∃ groups, groups.flatten = sglist ∧ List.Forall₂ Joined groups (coalesce sglist) := by
  cases sglist with
  | nil => exact ⟨[], rfl, .nil⟩
  | cons first rest =>
      obtain ⟨groups, all, each⟩ := coalesceFrom_groups (Joined.single first)
        (by rw [setWidth_length_toNat]; have := first.length.isLt; omega) first rest
      exact ⟨groups, by simpa using all, each⟩

/-- Entries joined run by run cover what the runs cover. -/
theorem sgBytes_of_groups {groups : List (List Scatter)} {entries : List ScatterGatherEntry}
    (each : List.Forall₂ Joined groups entries) :
    sgBytes entries = segBytes (scatterSegs groups.flatten) := by
  induction each with
  | nil => rfl
  | cons joined _ ih =>
      rw [sgBytes_cons, joined.bytes, ih, List.flatten_cons, scatterSegs_append, segBytes_append]

theorem coalesce_bytes (sglist : List Scatter) :
    sgBytes (coalesce sglist) = segBytes (scatterSegs sglist) := by
  obtain ⟨groups, all, each⟩ := coalesce_groups sglist
  rw [sgBytes_of_groups each, all]

/-- Runs of non-empty kernel entries make non-empty entries. -/
theorem Joined.length_ne_zero {group : List Scatter} {entry : ScatterGatherEntry}
    (joined : Joined group entry) (nonempty : ∀ s ∈ group, s.length ≠ 0) : entry.length ≠ 0 := by
  intro zero
  obtain ⟨s, rest, rfl⟩ := List.exists_cons_of_ne_nil joined.nonempty
  have total := joined.length_eq
  rw [zero, scatterSegs, List.map_cons, segTotal_cons] at total
  have empty : s.length.toNat = 0 := by
    simp only [Scatter.seg, BitVec.ofNat_eq_ofNat, BitVec.toNat_ofNat, Nat.zero_mod] at total
    omega
  exact nonempty s List.mem_cons_self (BitVec.eq_of_toNat_eq (by simpa using empty))

theorem nonempty_of_groups {groups : List (List Scatter)} {entries : List ScatterGatherEntry}
    (each : List.Forall₂ Joined groups entries) (nonempty : ∀ s ∈ groups.flatten, s.length ≠ 0) :
    ∀ e ∈ entries, e.length ≠ 0 := by
  induction each with
  | nil => simp
  | cons joined _ ih =>
      rw [List.flatten_cons, List.forall_mem_append] at nonempty
      exact List.forall_mem_cons.mpr ⟨joined.length_ne_zero nonempty.1, ih nonempty.2⟩

theorem coalesce_nonempty {sglist : List Scatter} (nonempty : ∀ s ∈ sglist, s.length ≠ 0) :
    ∀ e ∈ coalesce sglist, e.length ≠ 0 := by
  obtain ⟨groups, rfl, each⟩ := coalesce_groups sglist
  exact nonempty_of_groups each nonempty

/-! ## What `initializeSglist` leaves behind -/

/-- A successful read of the kernel's list. -/
theorem initializeSglist_sysfs {b : Buffer} {sglist : List Scatter}
    (mapped : b.source = .sysfs (some sglist)) :
    b.initializeSglist.1 = 0 ∧ b.initializeSglist.2.sglistVector = coalesce sglist := by
  have read : b.source.read = some (coalesce sglist) := by rw [mapped]; rfl
  rw [Buffer.initializeSglist]
  split
  · rename_i failed
    rw [read] at failed
    exact absurd failed (by simp)
  · rename_i list found
    exact ⟨rfl, Option.some.inj (found.symm.trans read)⟩

/-- **Joining.** The loops end inside the kernel's list; the vector they leave
maps every offset where the kernel's list maps it, and its entries are the
runs of the list, one after the other and none of them empty. -/
theorem initializeSglist_joins (b : Buffer) (sglist : List Scatter)
    (mapped : b.source = .sysfs (some sglist)) (nonempty : ∀ s ∈ sglist, s.length ≠ 0) :
    let vector := b.initializeSglist.2.sglistVector
    b.initializeSglist.1 = 0 ∧
      coalesceLoop sglist (sglist.length + 1) 0 [] = some vector ∧
      (∀ o, (locate (sgSegs vector) o).map Prod.fst =
        (locate (scatterSegs sglist) o).map Prod.fst) ∧
      sgTotal vector = segTotal (scatterSegs sglist) ∧
      (∀ e ∈ vector, e.length ≠ 0) ∧
      ∃ groups, groups.flatten = sglist ∧ List.Forall₂ Joined groups vector := by
  obtain ⟨done, vector⟩ := initializeSglist_sysfs mapped
  have bytes := coalesce_bytes sglist
  simp only [vector]
  refine ⟨done, coalesceLoop_eq sglist, ?_, ?_, coalesce_nonempty nonempty,
    coalesce_groups sglist⟩
  · intro o
    rw [locate_fst, locate_fst, ← bytes, sgBytes]
  · rw [← length_sgBytes, bytes, length_segBytes]

/-- Two neighbours and one on its own. -/
theorem initializeSglist_joins_threeEntries :
    let sglist : List Scatter := [⟨0x1000, 0x10000⟩, ⟨0x2000, 0x11000⟩, ⟨0x1000, 0x40000⟩]
    let vector := (Buffer.connect (.sysfs (some sglist)) 0x4000).initializeSglist.2.sglistVector
    (Buffer.connect (.sysfs (some sglist)) 0x4000).initializeSglist.1 = 0 ∧
      coalesceLoop sglist (sglist.length + 1) 0 [] = some vector ∧
      (∀ o, (locate (sgSegs vector) o).map Prod.fst =
        (locate (scatterSegs sglist) o).map Prod.fst) ∧
      sgTotal vector = segTotal (scatterSegs sglist) ∧
      (∀ e ∈ vector, e.length ≠ 0) ∧
      ∃ groups, groups.flatten = sglist ∧ List.Forall₂ Joined groups vector :=
  initializeSglist_joins _ _ rfl (by decide)

/-! ## Lengths -/

/-- **Joined lengths.** The entries all fit 32 bits exactly when no turn of
the loop takes an entry that makes the joined length leave them: the test
looks at `sglist[i]`, the sum grows by `sglist[i+1]`. -/
theorem initializeSglist_lengths_fit_iff (sglist : List Scatter) (size : Word64) :
    (∀ e ∈ (Buffer.connect (.sysfs (some sglist)) size).initializeSglist.2.sglistVector,
      e.length.toNat < 2 ^ 32) ↔ (SgSource.sysfs (some sglist)).StaysShort := by
  have source : (Buffer.connect (.sysfs (some sglist)) size).source = .sysfs (some sglist) := rfl
  rw [(initializeSglist_sysfs source).2, ← source, ← readList_short_iff,
    Buffer.readList_of_read (show _ = some (coalesce sglist) from rfl)]

/-- A page and, right behind it, a kernel entry of 4 GiB less a page. -/
theorem initializeSglist_lengths_overflow :
    ¬ ∀ (sglist : List Scatter) (size : Word64),
      ∀ e ∈ (Buffer.connect (.sysfs (some sglist)) size).initializeSglist.2.sglistVector,
        e.length.toNat < 2 ^ 32 := by
  intro fits
  have entry : (⟨0x10000000, 0x100000000⟩ : ScatterGatherEntry) ∈
      (Buffer.connect (.sysfs (some [⟨0x1000, 0x10000000⟩, ⟨0xfffff000, 0x10001000⟩]))
        0x100000000).initializeSglist.2.sglistVector := by decide
  exact absurd (fits _ _ _ entry) (by decide)

end Librorc
