import Librorc.Lib.BitField
import Mathlib.Data.List.Pairwise
import Mathlib.Logic.Function.Basic

/-!
# Fields of a register file

A field has an address and a place in the register there. Setting a list of
fields that do not overlap leaves each with its own value, in whatever order,
and every other bit as it was. With names for the fields (`RegLayout`) a field
may be set over and over, and the last value counts. The fields of a single word
(`FieldLayout`) are those of a file of one register.
-/

namespace Librorc.Lib

/-- The `width` bits from `low` on, of the register at `addr`. -/
structure RegField (α : Type*) where
  addr : α
  low : ℕ
  width : ℕ
deriving DecidableEq

namespace RegField

variable {α : Type*} {n : ℕ}

/-- The field holds bit `i` of register `a`. -/
def Covers (f : RegField α) (a : α) (i : ℕ) : Prop :=
  f.addr = a ∧ f.low ≤ i ∧ i < f.low + f.width

instance [DecidableEq α] (f : RegField α) (a : α) (i : ℕ) : Decidable (f.Covers a i) :=
  inferInstanceAs (Decidable (_ ∧ _))

/-- No bit is in both fields. -/
def Apart (f g : RegField α) : Prop :=
  f.addr ≠ g.addr ∨ f.low + f.width ≤ g.low ∨ g.low + g.width ≤ f.low

theorem apart_symm {f g : RegField α} (apart : f.Apart g) : g.Apart f := by
  rcases apart with differ | below | above
  · exact .inl (Ne.symm differ)
  · exact .inr (.inr below)
  · exact .inr (.inl above)

instance [DecidableEq α] (f g : RegField α) : Decidable (f.Apart g) :=
  inferInstanceAs (Decidable (_ ∨ _))

def get (f : RegField α) (regs : α → BitVec n) : BitVec n :=
  getField (regs f.addr) f.low f.width

variable [DecidableEq α]

def set (f : RegField α) (v : BitVec n) (regs : α → BitVec n) : α → BitVec n :=
  Function.update regs f.addr (setField (regs f.addr) v f.low f.width)

/-- Sets the fields one after the other. -/
def setAll (entries : List (RegField α × BitVec n)) (regs : α → BitVec n) : α → BitVec n :=
  entries.foldl (fun regs entry => entry.1.set entry.2 regs) regs

@[simp] theorem setAll_cons (entry : RegField α × BitVec n)
    (entries : List (RegField α × BitVec n)) (regs : α → BitVec n) :
    setAll (entry :: entries) regs = setAll entries (entry.1.set entry.2 regs) := rfl

/-! ## One field -/

theorem get_set_self (f : RegField α) (v : BitVec n) (regs : α → BitVec n)
    (fits : f.low + f.width ≤ n) : f.get (f.set v regs) = getField v 0 f.width := by
  rw [get, set, Function.update_self, getField_setField_self _ _ fits]

theorem get_set_of_apart {f g : RegField α} (apart : f.Apart g) (v : BitVec n)
    (regs : α → BitVec n) (fits : f.low + f.width ≤ n) : f.get (g.set v regs) = f.get regs := by
  rw [get, get, set]
  by_cases same : f.addr = g.addr
  · rw [same, Function.update_self]
    exact getField_setField_of_apart _ _ fits (apart.resolve_left (fun differ => differ same))
  · rw [Function.update_of_ne same]

theorem set_update (f : RegField α) (v w : BitVec n) (regs : α → BitVec n) :
    f.set v (Function.update regs f.addr w) =
      Function.update regs f.addr (setField w v f.low f.width) := by
  rw [set, Function.update_self, Function.update_idem]

/-- Setting a field changes the bits it covers only. -/
theorem getLsbD_set_of_not_covers {f : RegField α} {a : α} {i : ℕ} (free : ¬ f.Covers a i)
    (v : BitVec n) (regs : α → BitVec n) : (f.set v regs a).getLsbD i = (regs a).getLsbD i := by
  rw [set]
  by_cases same : a = f.addr
  · rw [same, Function.update_self]
    exact getLsbD_setField_of_outside _ _ fun covered => free ⟨same.symm, covered⟩
  · rw [Function.update_of_ne same]

/-! ## A list of fields -/

theorem get_setAll_of_apart {f : RegField α} {entries : List (RegField α × BitVec n)}
    (apart : ∀ entry ∈ entries, f.Apart entry.1) (regs : α → BitVec n)
    (fits : f.low + f.width ≤ n) : f.get (setAll entries regs) = f.get regs := by
  induction entries generalizing regs with
  | nil => rfl
  | cons entry entries ih =>
      rw [setAll_cons, ih (fun e member => apart e (List.mem_cons_of_mem _ member)),
        get_set_of_apart (apart entry List.mem_cons_self) _ _ fits]

/-- Each field of the list ends with its own value. -/
theorem get_setAll {entries : List (RegField α × BitVec n)}
    (apart : entries.Pairwise fun e e' => e.1.Apart e'.1) {f : RegField α} {v : BitVec n}
    (member : (f, v) ∈ entries) (regs : α → BitVec n) (fits : f.low + f.width ≤ n) :
    f.get (setAll entries regs) = getField v 0 f.width := by
  induction entries generalizing regs with
  | nil => cases member
  | cons entry entries ih =>
      obtain ⟨headApart, tailApart⟩ := List.pairwise_cons.mp apart
      rw [setAll_cons]
      rcases List.mem_cons.mp member with rfl | later
      -- the fields that are set later leave this one alone
      · rw [get_setAll_of_apart headApart _ fits, get_set_self f v regs fits]
      · exact ih tailApart later _

/-- Every bit no field of the list covers stays. -/
theorem getLsbD_setAll {entries : List (RegField α × BitVec n)} {a : α} {i : ℕ}
    (free : ∀ entry ∈ entries, ¬ entry.1.Covers a i) (regs : α → BitVec n) :
    (setAll entries regs a).getLsbD i = (regs a).getLsbD i := by
  induction entries generalizing regs with
  | nil => rfl
  | cons entry entries ih =>
      rw [setAll_cons, ih (fun e member => free e (List.mem_cons_of_mem _ member)),
        getLsbD_set_of_not_covers (free entry List.mem_cons_self)]

end RegField

/-! ## A file of named fields -/

/-- The value that a list of settings gives to `f` last. -/
def lastValue {ι β : Type*} [DecidableEq ι] (f : ι) (given : List (ι × β)) : Option β :=
  (given.filter fun e => e.1 = f).getLast?.map Prod.snd

section LastValue

variable {ι β : Type*} [DecidableEq ι]

theorem lastValue_cons_self (f : ι) (v : β) (rest : List (ι × β)) :
    lastValue f ((f, v) :: rest) = some ((lastValue f rest).getD v) := by
  unfold lastValue
  rw [List.filter_cons_of_pos (by simp), List.getLast?_cons]
  cases (rest.filter fun e => e.1 = f).getLast? <;> rfl

theorem lastValue_cons_of_ne {f g : ι} (ne : g ≠ f) (v : β) (rest : List (ι × β)) :
    lastValue f ((g, v) :: rest) = lastValue f rest := by
  unfold lastValue
  rw [List.filter_cons_of_neg (by simpa using ne)]

/-- When each call sets a field at most once, the last call that does decides. -/
theorem lastValue_flatMap {κ : Type*} {gives : κ → List (ι × β)} {f : ι} (sets : κ → Bool)
    (value : κ → β)
    (once : ∀ c, (gives c).filter (fun e => e.1 = f) = if sets c then [(f, value c)] else [])
    (calls : List κ) :
    lastValue f (calls.flatMap gives) = (calls.filter sets).getLast?.map value := by
  have given : (calls.flatMap gives).filter (fun e => e.1 = f) =
      (calls.filter sets).map fun c => (f, value c) := by
    induction calls with
    | nil => rfl
    | cons c rest ih =>
        rw [List.flatMap_cons, List.filter_append, ih, once, List.filter_cons]
        cases sets c <;> rfl
  rw [lastValue, given, List.getLast?_map, Option.map_map]
  rfl

/-- Values changed one by one, as the field they are for has it. -/
theorem lastValue_map {γ : Type*} (change : ι → β → γ) (f : ι) (given : List (ι × β)) :
    lastValue f (given.map fun e => (e.1, change e.1 e.2)) =
      (lastValue f given).map (change f) := by
  induction given with
  | nil => rfl
  | cons e rest ih =>
      obtain ⟨g, v⟩ := e
      rw [List.map_cons]
      by_cases same : g = f
      · rw [same, lastValue_cons_self, lastValue_cons_self, ih, Option.map_some]
        cases lastValue f rest <;> rfl
      · rw [lastValue_cons_of_ne same, lastValue_cons_of_ne same, ih]

end LastValue

/-- Named fields of a register file, none of which overlap. -/
structure RegLayout (ι α : Type*) (n : ℕ) where
  place : ι → RegField α
  fits : ∀ f, (place f).low + (place f).width ≤ n
  apart : ∀ f g, f ≠ g → (place f).Apart (place g)

namespace RegLayout

variable {ι α : Type*} {n : ℕ}

/-- It is enough to look at a list of the fields once. -/
theorem apart_of_pairwise {place : ι → RegField α} {all : List ι} (complete : ∀ f, f ∈ all)
    (apart : all.Pairwise fun f g => (place f).Apart (place g)) {f g : ι} (ne : f ≠ g) :
    (place f).Apart (place g) :=
  have : Std.Symm fun f g => (place f).Apart (place g) := ⟨fun _ _ => RegField.apart_symm⟩
  apart.forall (complete f) (complete g) ne

/-- The same fields in a file where the registers have other addresses. -/
def mapAddr {β : Type*} (L : RegLayout ι α n) (address : α → β)
    (injective : Function.Injective address) : RegLayout ι β n where
  place f := ⟨address (L.place f).addr, (L.place f).low, (L.place f).width⟩
  fits := L.fits
  apart f g ne := (L.apart f g ne).imp_left injective.ne

variable [DecidableEq α] (L : RegLayout ι α n)

/-- Gives fields values, one after the other. -/
def setAll (given : List (ι × BitVec n)) (regs : α → BitVec n) : α → BitVec n :=
  given.foldl (fun regs e => (L.place e.1).set e.2 regs) regs

theorem setAll_cons (e : ι × BitVec n) (given : List (ι × BitVec n)) (regs : α → BitVec n) :
    L.setAll (e :: given) regs = L.setAll given ((L.place e.1).set e.2 regs) := rfl

theorem setAll_single (f : ι) (v : BitVec n) (regs : α → BitVec n) :
    L.setAll [(f, v)] regs = Function.update regs (L.place f).addr
      (setField (regs (L.place f).addr) v (L.place f).low (L.place f).width) := rfl

theorem setAll_append (given given' : List (ι × BitVec n)) (regs : α → BitVec n) :
    L.setAll (given ++ given') regs = L.setAll given' (L.setAll given regs) := List.foldl_append

/-- A sequence of calls that each set fields, under an invariant they keep. -/
theorem foldl_words {σ κ : Type*} (words : σ → α → BitVec n) (Inv : σ → Prop) {run : σ → κ → σ}
    {does : κ → List (ι × BitVec n)}
    (step : ∀ s c, Inv s → words (run s c) = L.setAll (does c) (words s) ∧ Inv (run s c))
    {s : σ} (start : Inv s) (calls : List κ) :
    words (calls.foldl run s) = L.setAll (calls.flatMap does) (words s) := by
  induction calls generalizing s with
  | nil => rfl
  | cons c rest ih =>
      obtain ⟨set, kept⟩ := step s c start
      rw [List.foldl_cons, ih kept, set, List.flatMap_cons, setAll_append]

/-- No field has bit `i` of register `a`. -/
def Free (a : α) (i : ℕ) : Prop := ∀ f, ¬(L.place f).Covers a i

omit [DecidableEq α] in
theorem free_mapAddr {β : Type*} {L : RegLayout ι α n} {address : α → β}
    (injective : Function.Injective address) {a : α} {i : ℕ} (free : L.Free a i) :
    (L.mapAddr address injective).Free (address a) i :=
  fun f covers => free f ⟨injective covers.1, covers.2⟩

theorem getLsbD_setAll {a : α} {i : ℕ} (free : L.Free a i) (given : List (ι × BitVec n))
    (regs : α → BitVec n) : (L.setAll given regs a).getLsbD i = (regs a).getLsbD i := by
  induction given generalizing regs with
  | nil => rfl
  | cons e rest ih =>
      rw [setAll_cons, ih, RegField.getLsbD_set_of_not_covers (free e.1)]

/-- A register without fields is left alone … -/
theorem setAll_of_addr_ne {a : α} (free : ∀ f, (L.place f).addr ≠ a)
    (given : List (ι × BitVec n)) (regs : α → BitVec n) : L.setAll given regs a = regs a := by
  induction given generalizing regs with
  | nil => rfl
  | cons e rest ih =>
      rw [setAll_cons, ih, RegField.set, Function.update_of_ne (Ne.symm (free e.1))]

/-- … and what is put into one depends on that register only. -/
theorem setAll_congr {a : α} {regs regs' : α → BitVec n} (same : regs a = regs' a)
    (given : List (ι × BitVec n)) : L.setAll given regs a = L.setAll given regs' a := by
  induction given generalizing regs regs' with
  | nil => exact same
  | cons e rest ih =>
      refine ih ?_
      show (L.place e.1).set e.2 regs a = (L.place e.1).set e.2 regs' a
      unfold RegField.set
      by_cases here : a = (L.place e.1).addr
      · rw [here, Function.update_self, Function.update_self, ← here, same]
      · rw [Function.update_of_ne here, Function.update_of_ne here, same]

/-- Each field ends with the value it was given last, cut to the field. -/
theorem get_setAll [DecidableEq ι] (f : ι) (given : List (ι × BitVec n)) (regs : α → BitVec n) :
    (L.place f).get (L.setAll given regs) =
      (lastValue f given).elim ((L.place f).get regs) fun v => getField v 0 (L.place f).width := by
  induction given generalizing regs with
  | nil => rfl
  | cons e rest ih =>
      obtain ⟨g, v⟩ := e
      rw [setAll_cons, ih]
      by_cases same : g = f
      · rw [same, lastValue_cons_self, RegField.get_set_self _ _ _ (L.fits f)]
        cases lastValue f rest <;> rfl
      · rw [lastValue_cons_of_ne same,
          RegField.get_set_of_apart (L.apart f g (Ne.symm same)) _ _ (L.fits f)]

end RegLayout

/-! ## A word of named fields -/

/-- Named fields of a word, none of which overlap. -/
abbrev FieldLayout (ι : Type*) (n : ℕ) := RegLayout ι Unit n

namespace FieldLayout

variable {ι : Type*} {n : ℕ} (L : FieldLayout ι n)

def get (f : ι) (w : BitVec n) : BitVec n := (L.place f).get fun _ => w

/-- Gives fields of the word values, one after the other. -/
def setAll (given : List (ι × BitVec n)) (w : BitVec n) : BitVec n :=
  RegLayout.setAll L given (fun _ => w) ()

/-- No field has bit `i`. -/
def Free (i : ℕ) : Prop := RegLayout.Free L () i

/-- The value the list gives to `f` last, cut to the field; `init` if it gives
none. -/
def lastGiven [DecidableEq ι] (f : ι) (given : List (ι × BitVec n)) (init : BitVec n) : BitVec n :=
  (lastValue f given).elim init fun v => getField v 0 (L.place f).width

theorem setAll_append (given given' : List (ι × BitVec n)) (w : BitVec n) :
    L.setAll (given ++ given') w = L.setAll given' (L.setAll given w) :=
  congrFun (RegLayout.setAll_append L given given' fun _ => w) ()

theorem getLsbD_setAll {i : ℕ} (free : L.Free i) (given : List (ι × BitVec n)) (w : BitVec n) :
    (L.setAll given w).getLsbD i = w.getLsbD i :=
  RegLayout.getLsbD_setAll L free given fun _ => w

/-- Each field ends with the value it was given last. -/
theorem get_setAll [DecidableEq ι] (f : ι) (given : List (ι × BitVec n)) (w : BitVec n) :
    L.get f (L.setAll given w) = L.lastGiven f given (L.get f w) :=
  RegLayout.get_setAll L f given fun _ => w

end FieldLayout

end Librorc.Lib
