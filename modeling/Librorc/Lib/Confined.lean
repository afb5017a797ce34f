import Librorc.Lib.Poll
import Librorc.Lib.RegFile
import Mathlib.Data.Set.Basic

/-!
# Calls confined to a window

`cells s` is the memory in state `s`. A call is confined to a window of
addresses when it leaves the memory outside alone and when neither its result
nor what it leaves inside depends on the memory outside. When several parties
make calls, each in its own window, the order in which they come is of no
account: every party gets and has what its own calls alone give it.
-/

namespace Librorc.Lib

variable {σ A α β γ κ ι : Type*}

/-- The memories agree in the window. -/
def AgreeOn (cells : σ → A → α) (window : Set A) (s s' : σ) : Prop :=
  ∀ a ∈ window, cells s a = cells s' a

/-- What a caller makes of the end of a polling loop. -/
def PollOutcome.finish (ready timeout : β → γ) : PollOutcome β σ → γ × σ
  | .ready word s => (ready word, s)
  | .timeout word s => (timeout word, s)

/-- A call that has to do with the memory in the window only. -/
structure Confined (cells : σ → A → α) (window : Set A) (call : σ → β × σ) : Prop where
  outside : ∀ s, ∀ a ∉ window, cells (call s).2 a = cells s a
  result : ∀ s s', AgreeOn cells window s s' → (call s).1 = (call s').1
  inside : ∀ s s', AgreeOn cells window s s' → AgreeOn cells window (call s).2 (call s').2

namespace Confined

variable {cells : σ → A → α} {window : Set A}

/-- A call that only looks at the window. -/
theorem of_read {call : σ → β × σ} (kept : ∀ s, cells (call s).2 = cells s)
    (result : ∀ s s', AgreeOn cells window s s' → (call s).1 = (call s').1) :
    Confined cells window call where
  outside s a _ := congrFun (kept s) a
  result := result
  inside s s' agree a member := by
    rw [kept, kept]
    exact agree a member

/-- One call after the other. -/
theorem bind {first : σ → β × σ} {second : β → σ → γ × σ}
    (firstly : Confined cells window first) (secondly : ∀ b, Confined cells window (second b)) :
    Confined cells window fun s => second (first s).1 (first s).2 where
  outside s a free := ((secondly _).outside _ a free).trans (firstly.outside s a free)
  result s s' agree := by
    rw [firstly.result s s' agree]
    exact (secondly _).result _ _ (firstly.inside s s' agree)
  inside s s' agree := by
    rw [firstly.result s s' agree]
    exact (secondly _).inside _ _ (firstly.inside s s' agree)

/-- The same for calls that return nothing of interest. -/
theorem comp {f g : σ → σ} {r : β} (firstly : Confined cells window fun s => (r, f s))
    (secondly : Confined cells window fun s => (r, g s)) :
    Confined cells window fun s => (r, g (f s)) :=
  firstly.bind fun _ => secondly

/-- What is returned does not matter to the memory. -/
theorem map (f : β → γ) {call : σ → β × σ} (confined : Confined cells window call) :
    Confined cells window fun s => (f (call s).1, (call s).2) where
  outside := confined.outside
  result s s' agree := congrArg f (confined.result s s' agree)
  inside := confined.inside

/-- A call that branches on what is known before. -/
theorem ite {p : Prop} [Decidable p] {yes no : σ → β × σ} (ifYes : Confined cells window yes)
    (ifNo : Confined cells window no) :
    Confined cells window fun s => if p then yes s else no s := by
  split
  · exact ifYes
  · exact ifNo

theorem pure (b : β) : Confined cells window fun s => (b, s) :=
  ⟨fun _ _ _ => rfl, fun _ _ _ => rfl, fun _ _ agree => agree⟩

/-- A read over and over is confined as one is. -/
theorem pollWhile {read : σ → β × σ} (confined : Confined cells window read) (busy : β → Bool)
    (ready timeout : β → γ) (budget : ℕ) (word : β) :
    Confined cells window fun s =>
      (pollWhile read busy budget word s).finish ready timeout := by
  induction budget generalizing word with
  | zero => exact pure (timeout word)
  | succ budget ih =>
      cases again : busy word with
      | false =>
          simp only [Lib.pollWhile, again, Bool.false_eq_true, if_false]
          exact pure (ready word)
      | true =>
          simp only [Lib.pollWhile, again, if_true]
          exact confined.bind ih

theorem poll {read : σ → β × σ} (confined : Confined cells window read) (busy : β → Bool)
    (budget : ℕ) (ready timeout : β → γ) :
    Confined cells window fun s => (poll read busy budget s).finish ready timeout :=
  confined.bind fun word => confined.pollWhile busy ready timeout budget word

/-- A call that sets fields of registers in the window, to values it may take from
the window. -/
theorem of_setAll {n : ℕ} {cells : σ → A → BitVec n} [DecidableEq A] {L : RegLayout κ A n}
    {call : σ → β × σ} {sets : σ → List (κ × BitVec n)}
    (set : ∀ s, cells (call s).2 = L.setAll (sets s) (cells s))
    (within : ∀ f, (L.place f).addr ∈ window)
    (taken : ∀ s s', AgreeOn cells window s s' → sets s = sets s')
    (result : ∀ s s', AgreeOn cells window s s' → (call s).1 = (call s').1) :
    Confined cells window call where
  outside s a free := by
    have none : ∀ f, (L.place f).addr ≠ a := by
      rintro f rfl
      exact free (within f)
    rw [set, L.setAll_of_addr_ne none]
  result := result
  inside s s' agree a member := by
    rw [set, set, taken s s' agree]
    exact L.setAll_congr (agree a member) _

end Confined

/-! ## Several parties -/

/-- Runs calls one after the other, and lists what they return. -/
def runAll (run : κ → σ → β × σ) : List κ → σ → List (κ × β) × σ
  | [], s => ([], s)
  | c :: rest, s =>
      let (results, s') := runAll run rest (run c s).2
      ((c, (run c s).1) :: results, s')

variable {cells : σ → A → α} {window : ι → Set A} {run : κ → σ → β × σ} {owner : κ → ι}

/-- The results of a party and its window, from states that agree there. -/
theorem runAll_own [DecidableEq ι] {i : ι} {calls : List κ}
    (confined : ∀ c ∈ calls, Confined cells (window (owner c)) (run c))
    (apart : ∀ c ∈ calls, owner c ≠ i → ∀ a ∈ window i, a ∉ window (owner c)) {s s' : σ}
    (agree : AgreeOn cells (window i) s s') :
    ((runAll run calls s).1.filter fun r => owner r.1 = i) =
        (runAll run (calls.filter fun c => owner c = i) s').1 ∧
      AgreeOn cells (window i) (runAll run calls s).2
        (runAll run (calls.filter fun c => owner c = i) s').2 := by
  induction calls generalizing s s' with
  | nil => exact ⟨rfl, agree⟩
  | cons c rest ih =>
      obtain ⟨here, later⟩ := List.forall_mem_cons.mp confined
      obtain ⟨apartHere, apartLater⟩ := List.forall_mem_cons.mp apart
      by_cases own : owner c = i
      · subst own
        obtain ⟨results, ends⟩ := ih later apartLater (here.inside s s' agree)
        rw [List.filter_cons_of_pos (by simp)]
        refine ⟨?_, ends⟩
        rw [runAll, runAll, List.filter_cons_of_pos (by simp), results, here.result s s' agree]
      · -- a call of another party is not seen in the window
        have unseen : AgreeOn cells (window i) (run c s).2 s' := by
          intro a member
          rw [here.outside s a (apartHere own a member)]
          exact agree a member
        obtain ⟨results, ends⟩ := ih later apartLater unseen
        rw [List.filter_cons_of_neg (by simpa using own)]
        refine ⟨?_, ends⟩
        rw [runAll, List.filter_cons_of_neg (by simpa using own)]
        exact results

/-- What no party has in its window stays. -/
theorem runAll_outside {calls : List κ}
    (confined : ∀ c ∈ calls, Confined cells (window (owner c)) (run c)) {a : A}
    (free : ∀ c ∈ calls, a ∉ window (owner c)) (s : σ) :
    cells (runAll run calls s).2 a = cells s a := by
  induction calls generalizing s with
  | nil => rfl
  | cons c rest ih =>
      obtain ⟨here, later⟩ := List.forall_mem_cons.mp confined
      obtain ⟨freeHere, freeLater⟩ := List.forall_mem_cons.mp free
      exact (ih later freeLater _).trans (here.outside s a freeHere)

end Librorc.Lib
