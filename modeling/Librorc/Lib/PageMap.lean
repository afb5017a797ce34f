import Mathlib.Data.List.Basic
import Mathlib.Logic.Function.Basic
import Mathlib.Tactic.Common

/-!
# Pages with owners

A map of pages, as an address space is one. Each owner has a range of pages or
none, and the ranges do not meet; what nobody owns is as it was at the start.
Mapping at free pages gives an owner a range, and unmapping takes it away. To
unmap pages for which there is no owner does no harm as long as they are free.
-/

namespace Librorc.Lib

/-- What is at each page; `none` where nothing is mapped. -/
abbrev PageMap (α : Type*) := ℕ → Option α

/-- Pages from `start` on; page `k` of them shows `content k`. -/
structure PageRange (α : Type*) where
  start : ℕ
  pages : ℕ
  content : ℕ → α

/-- The page is one of the range. -/
def PageRange.Holds {α : Type*} (r : PageRange α) (p : ℕ) : Prop :=
  r.start ≤ p ∧ p < r.start + r.pages

namespace PageMap

variable {α : Type*} (m : PageMap α)

def map (r : PageRange α) : PageMap α := fun p =>
  if r.start ≤ p ∧ p < r.start + r.pages then some (r.content (p - r.start)) else m p

def unmap (start pages : ℕ) : PageMap α := fun p =>
  if start ≤ p ∧ p < start + pages then none else m p

/-- Nothing is mapped at the pages. -/
def Free (start pages : ℕ) : Prop := ∀ k < pages, m (start + k) = none

instance [DecidableEq α] (start pages : ℕ) : Decidable (m.Free start pages) :=
  inferInstanceAs (Decidable (∀ k < pages, _ = none))

variable {m}

theorem Free.eq_none {start pages p : ℕ} (free : m.Free start pages)
    (inside : start ≤ p ∧ p < start + pages) : m p = none := by
  have page := free (p - start) (by omega)
  rwa [Nat.add_sub_cancel' inside.1] at page

theorem map_of_holds {r : PageRange α} {p : ℕ} (inside : r.Holds p) :
    m.map r p = some (r.content (p - r.start)) := if_pos inside

theorem map_of_not_holds {r : PageRange α} {p : ℕ} (outside : ¬r.Holds p) : m.map r p = m p :=
  if_neg outside

theorem unmap_of_inside {start pages p : ℕ} (inside : start ≤ p ∧ p < start + pages) :
    m.unmap start pages p = none := if_pos inside

theorem unmap_of_outside {start pages p : ℕ} (outside : ¬(start ≤ p ∧ p < start + pages)) :
    m.unmap start pages p = m p := if_neg outside

/-- Unmapping what is free does nothing. -/
theorem unmap_of_free {start pages : ℕ} (free : m.Free start pages) :
    m.unmap start pages = m := by
  funext p
  by_cases inside : start ≤ p ∧ p < start + pages
  · rw [unmap_of_inside inside, free.eq_none inside]
  · exact unmap_of_outside inside

/-- A range that is mapped for a while. -/
theorem unmap_map {r : PageRange α} (free : m.Free r.start r.pages) :
    (m.map r).unmap r.start r.pages = m := by
  funext p
  by_cases inside : r.Holds p
  · rw [unmap_of_inside inside, free.eq_none inside]
  · rw [unmap_of_outside inside, map_of_not_holds inside]

end PageMap

/-- The owners have their ranges, and all else is as in `base`. -/
structure Tiled {ι α : Type*} (base m : PageMap α) (owned : ι → Option (PageRange α)) : Prop where
  shows : ∀ i r, owned i = some r → ∀ p, r.Holds p → m p = some (r.content (p - r.start))
  apart : ∀ i j r r', i ≠ j → owned i = some r → owned j = some r' → ∀ p, r.Holds p → ¬r'.Holds p
  rest : ∀ p, (∀ i r, owned i = some r → ¬r.Holds p) → m p = base p
  fresh : ∀ i r, owned i = some r → ∀ p, r.Holds p → base p = none

namespace Tiled

variable {ι α : Type*} {base m : PageMap α} {owned : ι → Option (PageRange α)}

theorem empty (m : PageMap α) : Tiled m m fun _ : ι => none where
  shows _ _ own := nomatch own
  apart _ _ _ _ _ own := nomatch own
  rest _ _ := rfl
  fresh _ _ own := nomatch own

/-- Without owners everything is as it was. -/
theorem eq_base (tiled : Tiled base m owned) (none : ∀ i, owned i = none) : m = base := by
  funext p
  refine tiled.rest p fun i r own => ?_
  rw [none i] at own
  cases own

/-- A free page has no owner. -/
theorem not_holds_of_none (tiled : Tiled base m owned) {i : ι} {r : PageRange α}
    (own : owned i = some r) {p : ℕ} (free : m p = none) : ¬r.Holds p := by
  intro inside
  rw [tiled.shows i r own p inside] at free
  cases free

variable [DecidableEq ι]

/-- An owner without a range gets one where nothing is mapped. -/
theorem map (tiled : Tiled base m owned) {i : ι} (none : owned i = none) {r : PageRange α}
    (free : m.Free r.start r.pages) :
    Tiled base (m.map r) (Function.update owned i (some r)) := by
  have outside {j : ι} {r' : PageRange α} (own : owned j = some r') {p : ℕ} (inside : r.Holds p) :
      ¬r'.Holds p := tiled.not_holds_of_none own (free.eq_none inside)
  constructor
  -- the new owner sees its pages, the others what they saw
  · intro j r' own p inside
    by_cases same : j = i
    · subst same
      rw [Function.update_self] at own
      cases own
      exact PageMap.map_of_holds inside
    · rw [Function.update_of_ne same] at own
      rw [PageMap.map_of_not_holds fun here => outside own here inside]
      exact tiled.shows j r' own p inside
  -- its range is apart from every other, as it was free
  · intro j k r₁ r₂ ne own own' p inside inside'
    by_cases first : j = i
    · subst first
      rw [Function.update_self] at own
      rw [Function.update_of_ne (Ne.symm ne)] at own'
      cases own
      exact outside own' inside inside'
    · rw [Function.update_of_ne first] at own
      by_cases second : k = i
      · subst second
        rw [Function.update_self] at own'
        cases own'
        exact outside own inside' inside
      · rw [Function.update_of_ne second] at own'
        exact tiled.apart j k r₁ r₂ ne own own' p inside inside'
  -- outside all ranges nothing has changed
  · intro p free'
    rw [PageMap.map_of_not_holds (free' i r (Function.update_self ..))]
    refine tiled.rest p fun j r' own => ?_
    have ne : j ≠ i := by
      rintro rfl
      rw [none] at own
      cases own
    exact free' j r' ((Function.update_of_ne ne ..).trans own)
  -- and the range was free in `base` as well
  · intro j r' own p inside
    by_cases same : j = i
    · subst same
      rw [Function.update_self] at own
      cases own
      rw [← tiled.rest p fun k r' own' => outside own' inside]
      exact free.eq_none inside
    · rw [Function.update_of_ne same] at own
      exact tiled.fresh j r' own p inside

/-- An owner gives its range back. -/
theorem unmap (tiled : Tiled base m owned) {i : ι} {r : PageRange α} (own : owned i = some r) :
    Tiled base (m.unmap r.start r.pages) (Function.update owned i none) := by
  have others {j : ι} {r' : PageRange α} (own' : Function.update owned i none j = some r') :
      j ≠ i ∧ owned j = some r' := by
    by_cases same : j = i
    · rw [same, Function.update_self] at own'
      cases own'
    · exact ⟨same, (Function.update_of_ne same ..).symm.trans own'⟩
  constructor
  · intro j r' own' p inside
    obtain ⟨ne, own'⟩ := others own'
    rw [PageMap.unmap_of_outside (tiled.apart j i r' r ne own' own p inside)]
    exact tiled.shows j r' own' p inside
  · intro j k r₁ r₂ ne own₁ own₂
    exact tiled.apart j k r₁ r₂ ne (others own₁).2 (others own₂).2
  · intro p free
    by_cases inside : r.Holds p
    · rw [PageMap.unmap_of_inside inside, tiled.fresh i r own p inside]
    · rw [PageMap.unmap_of_outside inside]
      refine tiled.rest p fun j r' own' => ?_
      by_cases same : j = i
      · rw [same, own] at own'
        cases own'
        exact inside
      · exact free j r' ((Function.update_of_ne same ..).trans own')
  · intro j r' own'
    exact tiled.fresh j r' (others own').2

/-- Several owners give their ranges back, one after the other. -/
theorem unmapAll (tiled : Tiled base m owned) {is : List ι} (nodup : is.Nodup) :
    Tiled base
      (is.foldl (fun m i => (owned i).elim m fun r => m.unmap r.start r.pages) m)
      fun i => if i ∈ is then none else owned i := by
  induction is generalizing m owned with
  | nil => simpa using tiled
  | cons i rest ih =>
      obtain ⟨notIn, later⟩ := List.nodup_cons.mp nodup
      have first : Tiled base ((owned i).elim m fun r => m.unmap r.start r.pages)
          (Function.update owned i none) := by
        cases own : owned i with
        | none =>
            have unchanged : Function.update owned i none = owned := by
              rw [← own, Function.update_eq_self]
            rw [unchanged]
            exact tiled
        | some r => exact tiled.unmap own
      have others : ∀ j ∈ rest, Function.update owned i none j = owned j := by
        intro j mem
        have ne : j ≠ i := fun same => notIn (same ▸ mem)
        exact Function.update_of_ne ne ..
      have all := ih first later
      rw [List.foldl_ext _ (fun m j => (owned j).elim m fun r => m.unmap r.start r.pages) _
        fun m j mem => by rw [others j mem]] at all
      refine Eq.mp (congrArg (Tiled base _) (funext fun j => ?_)) all
      by_cases same : j = i
      · simp [same]
      · simp [same, Function.update_of_ne]

omit [DecidableEq ι] in
/-- Unmapping that is for no owner is harmless just where nothing is mapped. -/
theorem unmap_iff (tiled : Tiled base m owned) (start pages : ℕ) :
    Tiled base (m.unmap start pages) owned ↔ m.Free start pages := by
  constructor
  · intro kept k small
    have gone : m.unmap start pages (start + k) = none :=
      PageMap.unmap_of_inside ⟨Nat.le_add_right .., by omega⟩
    -- the page has no owner now, and did not have one before
    have nobody : ∀ i r, owned i = some r → ¬r.Holds (start + k) := fun i r own =>
      kept.not_holds_of_none own gone
    rw [tiled.rest _ nobody, ← kept.rest _ nobody, gone]
  · intro free
    rwa [PageMap.unmap_of_free free]

end Tiled

end Librorc.Lib
