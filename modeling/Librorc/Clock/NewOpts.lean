import Librorc.Lib.Least
import Mathlib.Data.Rat.Floor
import Mathlib.Algebra.Order.Field.Rat
import Mathlib.Data.List.Range
import Mathlib.Tactic.NormNum
import Mathlib.Tactic.Linarith
import Mathlib.Tactic.Ring
import Mathlib.Tactic.FieldSimp

/-!
# `refclk::calcNewOpts`: the divider settings for a new frequency

A search over N1 and HS_DIV for the lowest fDCO in 4.85…5.67 GHz, on rational
numbers in place of `double`. Fields that the source leaves uninitialised are
`none` until they are assigned.
-/

namespace Librorc

open Librorc.Lib

namespace Refclk

/-- `uint64_t(trunc(value*(1<<28)))`. -/
def float2hex (value : ℚ) : BitVec 64 :=
  BitVec.ofInt 64 (if 0 ≤ value then ⌊value * 2 ^ 28⌋ else ⌈value * 2 ^ 28⌉)

/-- The `refclkopts` under construction. -/
structure NewOpts where
  hsDiv : Option ℕ
  n1 : Option ℕ
  rfreqInt : Option (BitVec 64)
  rfreqFloat : Option ℚ
  fdco : Option ℚ
  fxtal : ℚ
deriving DecidableEq

/-- `LIBRORC_REFCLK_ERROR_INVALID_PARAMETER` is the only error. -/
inductive CalcError
  | invalidParameter
deriving DecidableEq

/-- The local variables of the search. -/
structure Search where
  vcoFound : Bool
  lastfDCO : ℚ
  opts : NewOpts

/-- The body of the inner loop. -/
def tryDividers (newFreq fxtal : ℚ) (n h : ℕ) (s : Search) : Search :=
  if h = 8 ∨ h = 10 then s
  else
    let fDCONew := newFreq * h * n
    if 4850 ≤ fDCONew ∧ fDCONew ≤ 5670 then
      let s := { s with vcoFound := true }
      if fDCONew < s.lastfDCO then
        { s with
          opts :=
            { s.opts with
              hsDiv := some h
              n1 := some n
              fdco := some fDCONew
              rfreqFloat := some (fDCONew / fxtal)
              rfreqInt := some (float2hex (fDCONew / fxtal)) }
          lastfDCO := fDCONew }
      else s
    else s

/-- The inner loop: `h` from 11 down to 4. -/
def tryN1 (newFreq fxtal : ℚ) (s : Search) (n : ℕ) : Search :=
  if n ≠ 1 ∧ n % 2 = 1 then s
  else [11, 10, 9, 8, 7, 6, 5, 4].foldl (fun s h => tryDividers newFreq fxtal n h s) s

def calcNewOpts (newFreq fxtal : ℚ) : Except CalcError NewOpts :=
  let s := (List.range' 1 128).foldl (tryN1 newFreq fxtal)
    { vcoFound := false
      lastfDCO := 5670
      opts :=
        { hsDiv := none, n1 := none, rfreqInt := none, rfreqFloat := none, fdco := none,
          fxtal := fxtal } }
  if s.vcoFound then .ok s.opts else .error .invalidParameter

/-! ## The divider settings -/

/-- A setting of HS_DIV and N1. -/
structure Dividers where
  hsDiv : ℕ
  n1 : ℕ
deriving DecidableEq

/-- HS_DIV is 4, 5, 6, 7, 9 or 11; N1 is 1 or even, up to 128. -/
def Dividers.Valid (d : Dividers) : Prop :=
  d.hsDiv ∈ [4, 5, 6, 7, 9, 11] ∧ (d.n1 = 1 ∨ 0 < d.n1 ∧ d.n1 % 2 = 0 ∧ d.n1 ≤ 128)

instance (d : Dividers) : Decidable d.Valid := by
  unfold Dividers.Valid; infer_instance

def Dividers.fdco (newFreq : ℚ) (d : Dividers) : ℚ := newFreq * d.hsDiv * d.n1

/-- fDCO is in the range of 4.85…5.67 GHz. -/
def Dividers.InRange (newFreq : ℚ) (d : Dividers) : Prop :=
  4850 ≤ d.fdco newFreq ∧ d.fdco newFreq ≤ 5670

instance (newFreq : ℚ) (d : Dividers) : Decidable (d.InRange newFreq) := by
  unfold Dividers.InRange; infer_instance

/-- The settings in the order in which the loops meet them. -/
def dividers : List Dividers :=
  ((List.range' 1 128).filter fun n => decide ¬ (n ≠ 1 ∧ n % 2 = 1)).flatMap fun n =>
    [11, 9, 7, 6, 5, 4].map fun h => ⟨h, n⟩

theorem mem_dividers {d : Dividers} : d ∈ dividers ↔ d.Valid := by
  obtain ⟨h, n⟩ := d
  simp only [dividers, Dividers.Valid, List.mem_flatMap, List.mem_filter, List.mem_range'_1,
    List.mem_map, Dividers.mk.injEq, decide_eq_true_eq, List.mem_cons, List.not_mem_nil, or_false]
  constructor
  · rintro ⟨n', ⟨range, even⟩, h', mem, rfl, rfl⟩
    exact ⟨by omega, by omega⟩
  · rintro ⟨mem, even⟩
    exact ⟨n, ⟨by omega, by omega⟩, h, by omega, rfl, rfl⟩

theorem dividers_ordered : dividers.Pairwise fun d e => d.n1 ≤ e.n1 := by
  unfold dividers
  rw [List.pairwise_flatMap]
  constructor
  · intro n _
    simp
  · refine List.Pairwise.filter _ (List.Pairwise.imp ?_ (List.pairwise_lt_range' 1))
    intro m n lt d hd e he
    obtain ⟨_, _, rfl⟩ := List.mem_map.mp hd
    obtain ⟨_, _, rfl⟩ := List.mem_map.mp he
    exact lt.le

/-! ## The search -/

/-- The search over a list of settings. -/
def search (newFreq fxtal : ℚ) (ds : List Dividers) (s : Search) : Search :=
  ds.foldl (fun s d => tryDividers newFreq fxtal d.n1 d.hsDiv s) s

/-- The options while `best` is the best setting so far. -/
def optsOf (newFreq fxtal : ℚ) (best : Option Dividers) : NewOpts where
  hsDiv := best.map (·.hsDiv)
  n1 := best.map (·.n1)
  rfreqInt := best.map fun d => float2hex (d.fdco newFreq / fxtal)
  rfreqFloat := best.map fun d => d.fdco newFreq / fxtal
  fdco := best.map fun d => d.fdco newFreq
  fxtal := fxtal

/-- The local variables for a best value and setting so far. -/
def searchOf (newFreq fxtal : ℚ) (found : Bool) (best : ℚ × Option Dividers) : Search where
  vcoFound := found
  lastfDCO := best.1
  opts := optsOf newFreq fxtal best.2

theorem tryN1_eq (newFreq fxtal : ℚ) (s : Search) (n : ℕ) :
    tryN1 newFreq fxtal s n =
      if n ≠ 1 ∧ n % 2 = 1 then s
      else search newFreq fxtal ([11, 9, 7, 6, 5, 4].map fun h => ⟨h, n⟩) s := by
  unfold tryN1 search
  simp [tryDividers]

theorem foldl_tryN1 (newFreq fxtal : ℚ) (s : Search) :
    (List.range' 1 128).foldl (tryN1 newFreq fxtal) s = search newFreq fxtal dividers s := by
  unfold search dividers
  rw [List.foldl_flatMap, List.foldl_filter]
  congr 1
  funext s n
  rw [tryN1_eq]
  by_cases skipped : n ≠ 1 ∧ n % 2 = 1
  · simp [skipped]
  · simp [skipped, search]

theorem tryDividers_inRange {newFreq fxtal : ℚ} {d : Dividers} (valid : d.Valid)
    (inRange : d.InRange newFreq) (found : Bool) (best : ℚ × Option Dividers) :
    tryDividers newFreq fxtal d.n1 d.hsDiv (searchOf newFreq fxtal found best) =
      searchOf newFreq fxtal true (keepLess (Dividers.fdco newFreq) best d) := by
  have supported : ¬ (d.hsDiv = 8 ∨ d.hsDiv = 10) := by
    have mem := valid.1
    simp only [List.mem_cons, List.not_mem_nil, or_false] at mem
    omega
  unfold tryDividers
  rw [if_neg supported]
  by_cases less : d.fdco newFreq < best.1
  · have kept : keepLess (Dividers.fdco newFreq) best d = (d.fdco newFreq, some d) := if_pos less
    rw [kept]
    exact (if_pos inRange).trans (if_pos less)
  · have kept : keepLess (Dividers.fdco newFreq) best d = best := if_neg less
    rw [kept]
    exact (if_pos inRange).trans (if_neg less)

theorem tryDividers_outOfRange {newFreq fxtal : ℚ} {d : Dividers}
    (outOfRange : ¬ d.InRange newFreq) (s : Search) :
    tryDividers newFreq fxtal d.n1 d.hsDiv s = s := by
  unfold tryDividers
  split
  · rfl
  · exact if_neg outOfRange

theorem search_eq (newFreq fxtal : ℚ) {ds : List Dividers} (valid : ∀ d ∈ ds, d.Valid)
    (found : Bool) (best : ℚ × Option Dividers) :
    search newFreq fxtal ds (searchOf newFreq fxtal found best) =
      searchOf newFreq fxtal (found || ds.any fun d => decide (d.InRange newFreq))
        ((ds.filter fun d => decide (d.InRange newFreq)).foldl
          (keepLess (Dividers.fdco newFreq)) best) := by
  unfold search
  induction ds generalizing found best with
  | nil => simp
  | cons d ds ih =>
      have later := fun e mem => valid e (List.mem_cons_of_mem d mem)
      rw [List.foldl_cons]
      by_cases inRange : d.InRange newFreq
      · rw [tryDividers_inRange (valid d List.mem_cons_self) inRange, ih later]
        simp [inRange]
      · rw [tryDividers_outOfRange inRange, ih later]
        simp [inRange]

/-- The setting the search ends with. -/
def bestDividers (newFreq : ℚ) : Option Dividers :=
  leastBelow (Dividers.fdco newFreq) 5670
    (dividers.filter fun d => decide (d.InRange newFreq))

theorem calcNewOpts_eq (newFreq fxtal : ℚ) :
    calcNewOpts newFreq fxtal =
      if dividers.any (fun d => decide (d.InRange newFreq)) then
        .ok (optsOf newFreq fxtal (bestDividers newFreq))
      else .error .invalidParameter := by
  have searched := search_eq newFreq fxtal (fun d mem => mem_dividers.mp mem) false (5670, none)
  rw [foldl_keepLess, Bool.false_or] at searched
  have unfolded : calcNewOpts newFreq fxtal =
      let s := search newFreq fxtal dividers (searchOf newFreq fxtal false (5670, none))
      if s.vcoFound then .ok s.opts else .error .invalidParameter := by
    rw [← foldl_tryN1]
    rfl
  rw [unfolded, searched]
  rfl

theorem any_inRange {newFreq : ℚ} :
    (dividers.any fun d => decide (d.InRange newFreq)) = true ↔
      ∃ d : Dividers, d.Valid ∧ d.InRange newFreq := by
  simp [mem_dividers]

theorem calcNewOpts_error {newFreq fxtal : ℚ} :
    calcNewOpts newFreq fxtal = .error .invalidParameter ↔
      ¬ ∃ d : Dividers, d.Valid ∧ d.InRange newFreq := by
  rw [calcNewOpts_eq, ← any_inRange]
  split <;> simp_all

theorem calcNewOpts_ok {newFreq fxtal : ℚ} {opts : NewOpts} :
    calcNewOpts newFreq fxtal = .ok opts ↔
      (∃ d : Dividers, d.Valid ∧ d.InRange newFreq) ∧
        opts = optsOf newFreq fxtal (bestDividers newFreq) := by
  rw [calcNewOpts_eq, ← any_inRange]
  split
  · next found => simp only [Except.ok.injEq, found, true_and, eq_comm]
  · next none => simp only [reduceCtorEq, none, false_and]

/-- Nothing is found exactly when every setting in range lies on its upper end. -/
theorem bestDividers_eq_none {newFreq : ℚ} :
    bestDividers newFreq = none ↔
      ∀ d : Dividers, d.Valid → d.InRange newFreq → d.fdco newFreq = 5670 := by
  rw [bestDividers, leastBelow_eq_none]
  constructor
  · intro above d valid inRange
    refine le_antisymm inRange.2 (above d (List.mem_filter.mpr ⟨mem_dividers.mpr valid, ?_⟩))
    simpa using inRange
  · intro onEdge d mem
    obtain ⟨mem, inRange⟩ := List.mem_filter.mp mem
    exact (onEdge d (mem_dividers.mp mem) (by simpa using inRange)).ge

/-- What is found is in range, least, and of the settings that are least the
one with the smallest N1. -/
theorem bestDividers_spec {newFreq : ℚ} {d : Dividers} (found : bestDividers newFreq = some d) :
    d.Valid ∧ d.InRange newFreq ∧
      ∀ e : Dividers, e.Valid → e.InRange newFreq →
        d.fdco newFreq ≤ e.fdco newFreq ∧ (e.fdco newFreq = d.fdco newFreq → d.n1 ≤ e.n1) := by
  obtain ⟨mem, -, least, first⟩ := leastBelow_spec (dividers_ordered.filter _) found
  obtain ⟨mem, inRange⟩ := List.mem_filter.mp mem
  refine ⟨mem_dividers.mp mem, by simpa using inRange, fun e valid inRange => ?_⟩
  have candidate : e ∈ dividers.filter fun d => decide (d.InRange newFreq) :=
    List.mem_filter.mpr ⟨mem_dividers.mpr valid, by simpa using inRange⟩
  refine ⟨least e candidate, fun same => ?_⟩
  rcases first e candidate same with rfl | le
  · exact le_rfl
  · exact le

/-! ## Found and assigned -/

/-- `opts` are the options for `newFreq` with the lowest fDCO, at the smallest
N1 that reaches it. -/
structure OptsFor (newFreq fxtal : ℚ) (d : Dividers) (opts : NewOpts) : Prop where
  valid : d.Valid
  inRange : 4850 ≤ newFreq * d.hsDiv * d.n1 ∧ newFreq * d.hsDiv * d.n1 ≤ 5670
  hsDiv : opts.hsDiv = some d.hsDiv
  n1 : opts.n1 = some d.n1
  fdco : opts.fdco = some (newFreq * d.hsDiv * d.n1)
  rfreqFloat : opts.rfreqFloat = some (newFreq * d.hsDiv * d.n1 / fxtal)
  rfreqInt : opts.rfreqInt = some (float2hex (newFreq * d.hsDiv * d.n1 / fxtal))
  fxtal : opts.fxtal = fxtal
  least : ∀ e : Dividers, e.Valid → e.InRange newFreq →
    d.fdco newFreq ≤ e.fdco newFreq ∧ (e.fdco newFreq = d.fdco newFreq → d.n1 ≤ e.n1)

/-- The call fails exactly when no setting is in range, and else returns
options with every field set. -/
def FindsOpts (newFreq fxtal : ℚ) : Prop :=
  (calcNewOpts newFreq fxtal = .error .invalidParameter ↔
    ¬ ∃ d : Dividers, d.Valid ∧ d.InRange newFreq) ∧
  ∀ opts, calcNewOpts newFreq fxtal = .ok opts → ∃ d, OptsFor newFreq fxtal d opts

theorem optsFor_of_found {newFreq fxtal : ℚ} {d : Dividers}
    (found : bestDividers newFreq = some d) :
    OptsFor newFreq fxtal d (optsOf newFreq fxtal (bestDividers newFreq)) := by
  obtain ⟨valid, inRange, least⟩ := bestDividers_spec found
  rw [found]
  exact
    { valid, inRange, least, hsDiv := rfl, n1 := rfl, fdco := rfl, rfreqFloat := rfl,
      rfreqInt := rfl, fxtal := rfl }

/-- When the only settings in range lie on its upper end, the options that
come back have no dividers. -/
theorem not_findsOpts_of_edge {newFreq fxtal : ℚ} {d : Dividers} (valid : d.Valid)
    (inRange : d.InRange newFreq)
    (onEdge : ∀ e : Dividers, e.Valid → e.InRange newFreq → e.fdco newFreq = 5670) :
    ¬ FindsOpts newFreq fxtal := by
  rintro ⟨-, returned⟩
  obtain ⟨best, meets⟩ := returned _ (calcNewOpts_ok.mpr ⟨⟨d, valid, inRange⟩, rfl⟩)
  have unset := meets.hsDiv
  rw [bestDividers_eq_none.mpr onEdge] at unset
  exact absurd unset (by simp [optsOf])

/-- `calcNewOpts` finds the options unless 5670 is the only value in range:
the range includes its upper end, and the comparison with the lowest value so
far does not. -/
theorem findsOpts_iff (newFreq fxtal : ℚ) :
    FindsOpts newFreq fxtal ↔
      (∃ d : Dividers, d.Valid ∧ 4850 ≤ d.fdco newFreq ∧ d.fdco newFreq < 5670) ∨
        ¬ ∃ d : Dividers, d.Valid ∧ d.fdco newFreq = 5670 := by
  constructor
  · intro finds
    by_contra edge
    push Not at edge
    obtain ⟨noneBelow, d, valid, atEdge⟩ := edge
    have inRange : d.InRange newFreq := ⟨by rw [atEdge]; norm_num, atEdge.le⟩
    refine not_findsOpts_of_edge valid inRange (fun e valid inRange => ?_) finds
    exact le_antisymm inRange.2 (noneBelow e valid inRange.1)
  · intro condition
    refine ⟨calcNewOpts_error, fun opts returned => ?_⟩
    obtain ⟨⟨d, valid, inRange⟩, rfl⟩ := calcNewOpts_ok.mp returned
    cases found : bestDividers newFreq with
    | some best =>
        rw [← found]
        exact ⟨best, optsFor_of_found found⟩
    | none =>
        have onEdge := bestDividers_eq_none.mp found
        rcases condition with ⟨e, validE, low, below⟩ | noEdge
        · exact absurd (onEdge e validE ⟨low, below.le⟩) below.ne
        · exact absurd ⟨d, valid, onEdge d valid inRange⟩ noEdge

/-- At 1417.5 MHz HS_DIV = 4 and N1 = 1 give 5670, and any other setting more. -/
theorem not_findsOpts_edge : ¬ FindsOpts (2835 / 2) (22857 / 200) := by
  refine not_findsOpts_of_edge (d := ⟨4, 1⟩) (by decide) ?_ ?_
  · constructor <;> norm_num [Dividers.fdco]
  · intro e valid inRange
    refine le_antisymm inRange.2 ?_
    obtain ⟨mem, n1⟩ := valid
    have hsDiv : 4 ≤ e.hsDiv := by
      simp only [List.mem_cons, List.not_mem_nil, or_false] at mem
      omega
    have product : (4 : ℚ) ≤ e.hsDiv * e.n1 := by
      exact_mod_cast Nat.mul_le_mul hsDiv (show 1 ≤ e.n1 by omega)
    calc (5670 : ℚ) = 2835 / 2 * 4 := by norm_num
      _ ≤ 2835 / 2 * (e.hsDiv * e.n1) := by gcongr
      _ = e.fdco (2835 / 2) := by rw [Dividers.fdco, mul_assoc]

end Refclk

end Librorc
