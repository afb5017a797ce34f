import Mathlib.Logic.Basic
import Mathlib.Tactic.Common

/-!
# Accesses that may throw

A computation whose state survives an exception, on a device that counts the
accesses made to it. `throwing k` says that access number `k` throws; it then
has no effect. `Ends` is a condition on both ways a computation may end, and
`Straight` describes a computation that makes a fixed number of accesses.
-/

namespace Librorc.Lib

variable {ε σ α β : Type}

/-- What returns has returned from its first part. -/
theorem ok_of_bind_ok {x : Except ε α} {f : α → Except ε β} {b : β} (ok : x >>= f = .ok b) :
    ∃ a, x = .ok a ∧ f a = .ok b := by
  cases x with
  | error e => cases ok
  | ok a => exact ⟨a, rfl, ok⟩

/-- Computations whose state survives an exception. -/
abbrev Throwing (ε σ α : Type) := ExceptT ε (StateM σ) α

/-- A condition on the result and the state, by how the computation ends. -/
def Ends (m : Throwing ε σ α) (s : σ) (returns : α → σ → Prop) (throws : ε → σ → Prop) : Prop :=
  (∃ a s', m.run.run s = (.ok a, s') ∧ returns a s') ∨
    ∃ e s', m.run.run s = (.error e, s') ∧ throws e s'

theorem run_bind_ok {m : Throwing ε σ α} {f : α → Throwing ε σ β} {s s' : σ} {a : α}
    (run : m.run.run s = (.ok a, s')) : (m >>= f).run.run s = (f a).run.run s' := by
  rw [ExceptT.run_bind, StateT.run_bind]
  simp only [run]
  rfl

theorem run_bind_error {m : Throwing ε σ α} {f : α → Throwing ε σ β} {s s' : σ} {e : ε}
    (run : m.run.run s = (.error e, s')) : (m >>= f).run.run s = (.error e, s') := by
  rw [ExceptT.run_bind, StateT.run_bind]
  simp only [run]
  rfl

/-! The operations of the monad, on a state. -/

theorem run_get (s : σ) : (get : Throwing ε σ σ).run.run s = (.ok s, s) := rfl

theorem run_modify (f : σ → σ) (s : σ) :
    (modify f : Throwing ε σ Unit).run.run s = (.ok (), f s) := rfl

theorem run_modifyGet (f : σ → α × σ) (s : σ) :
    (modifyGet f : Throwing ε σ α).run.run s = (.ok (f s).1, (f s).2) := rfl

theorem run_pure (a : α) (s : σ) : (pure a : Throwing ε σ α).run.run s = (.ok a, s) := rfl

theorem run_throw (e : ε) (s : σ) : (throw e : Throwing ε σ α).run.run s = (.error e, s) := rfl

namespace Ends

variable {m : Throwing ε σ α} {f : α → Throwing ε σ β} {s s' : σ}
  {returns returns' : α → σ → Prop} {throws throws' : ε → σ → Prop} {later : β → σ → Prop}

theorem pure {a : α} (holds : returns a s) : Ends (Pure.pure a) s returns throws :=
  Or.inl ⟨a, s, rfl, holds⟩

theorem mono (ends : Ends m s returns throws) (onReturn : ∀ a s', returns a s' → returns' a s')
    (onThrow : ∀ e s', throws e s' → throws' e s') : Ends m s returns' throws' := by
  rcases ends with ⟨a, s', run, holds⟩ | ⟨e, s', run, holds⟩
  · exact Or.inl ⟨a, s', run, onReturn a s' holds⟩
  · exact Or.inr ⟨e, s', run, onThrow e s' holds⟩

theorem bind (first : Ends m s returns throws)
    (rest : ∀ a s', returns a s' → Ends (f a) s' later throws) :
    Ends (m >>= f) s later throws := by
  rcases first with ⟨a, s', run, holds⟩ | ⟨e, s', run, holds⟩
  · have continued := rest a s' holds
    unfold Ends
    rwa [run_bind_ok run]
  · exact Or.inr ⟨e, s', run_bind_error run, holds⟩

theorem of_throws (ends : Ends m s returns throws) {e : ε} (run : m.run.run s = (.error e, s')) :
    throws e s' := by
  rcases ends with ⟨a, s₁, returned, -⟩ | ⟨e₁, s₁, threw, holds⟩
  · rw [run] at returned
    exact absurd (congrArg Prod.fst returned) (by simp)
  · rw [run] at threw
    cases threw
    exact holds

end Ends

/-! ## Devices that count accesses -/

/-- A device and the number of accesses made to it. -/
structure Metered (σ : Type) where
  device : σ
  accesses : ℕ

/-- Make the next access, or throw. -/
def attempt (throwing : ℕ → Bool) (e : ε) (access : σ → α × σ) : Throwing ε (Metered σ) α :=
  ExceptT.mk fun s =>
    if throwing s.accesses then (.error e, s)
    else (.ok (access s.device).1, ⟨(access s.device).2, s.accesses + 1⟩)

/-- None of the accesses from `first` up to `last` throws. -/
def Quiet (throwing : ℕ → Bool) (first last : ℕ) : Prop :=
  ∀ k, first ≤ k → k < last → throwing k = false

theorem Quiet.append {throwing : ℕ → Bool} {first middle last : ℕ}
    (early : Quiet throwing first middle) (late : Quiet throwing middle last) :
    Quiet throwing first last := by
  intro k low high
  rcases Nat.lt_or_ge k middle with before | after
  · exact early k low before
  · exact late k after high

/-- The computation was stopped by the first access from `first` on that
throws, with the device as `stopped` says. -/
def StoppedIn (throwing : ℕ → Bool) (first : ℕ) (stopped : Metered σ → Prop)
    (s : Metered σ) : Prop :=
  first ≤ s.accesses ∧ throwing s.accesses = true ∧ Quiet throwing first s.accesses ∧ stopped s

/-- From `s` the computation makes `count` accesses, returns `a` and leaves
the device as `device`, or is stopped by one of them. -/
def Straight (throwing : ℕ → Bool) (m : Throwing ε (Metered σ) α) (s : Metered σ) (count : ℕ)
    (a : α) (device : σ) (stopped : Metered σ → Prop) : Prop :=
  Ends m s
    (fun a' s' => a' = a ∧ s' = ⟨device, s.accesses + count⟩ ∧
      Quiet throwing s.accesses (s.accesses + count))
    (fun _ s' => s'.accesses < s.accesses + count ∧ StoppedIn throwing s.accesses stopped s')

namespace Straight

variable {throwing : ℕ → Bool} {m : Throwing ε (Metered σ) α} {f : α → Throwing ε (Metered σ) β}
  {s : Metered σ} {count count' : ℕ} {a : α} {b : β} {device device' : σ}
  {stopped stopped' : Metered σ → Prop}

theorem attempt (throwing : ℕ → Bool) (e : ε) (access : σ → α × σ) (s : Metered σ) :
    Straight throwing (attempt throwing e access) s 1 (access s.device).1 (access s.device).2
      (· = s) := by
  cases throws : throwing s.accesses with
  | true =>
      refine Or.inr ⟨e, s, if_pos throws, Nat.lt_succ_self _, Nat.le_refl _, throws,
        fun k low high => ?_, rfl⟩
      omega
  | false =>
      refine Or.inl ⟨(access s.device).1, ⟨(access s.device).2, s.accesses + 1⟩, ?_, rfl, rfl,
        fun k low high => ?_⟩
      · exact if_neg (by rw [throws]; exact Bool.false_ne_true)
      · rwa [show k = s.accesses by omega]

theorem mono (straight : Straight throwing m s count a device stopped)
    (weaker : ∀ s' : Metered σ, s.accesses ≤ s'.accesses → s'.accesses < s.accesses + count →
      stopped s' → stopped' s') :
    Straight throwing m s count a device stopped' :=
  Ends.mono straight (fun _ _ holds => holds) fun _ s' ⟨high, low, throws, quiet, stop⟩ =>
    ⟨high, low, throws, quiet, weaker s' low high stop⟩

theorem bind (first : Straight throwing m s count a device stopped)
    (rest : Straight throwing (f a) ⟨device, s.accesses + count⟩ count' b device' stopped) :
    Straight throwing (m >>= f) s (count + count') b device' stopped := by
  refine Ends.bind (Ends.mono first (fun _ _ holds => holds) fun _ s' ⟨high, stop⟩ =>
    ⟨by omega, stop⟩) ?_
  rintro _ _ ⟨rfl, rfl, quiet⟩
  refine Ends.mono rest ?_ ?_
  · rintro b' s' ⟨result, same, later⟩
    exact ⟨result, by rw [same, Nat.add_assoc], by
      rw [← Nat.add_assoc]
      exact quiet.append later⟩
  · rintro _ s' ⟨high, low, throws, later, stop⟩
    exact ⟨by simp only at high; omega, by simp only at low; omega, throws, quiet.append later,
      stop⟩

theorem andThen {m' : Throwing ε (Metered σ) β}
    (first : Straight throwing m s count a device stopped)
    (rest : Straight throwing m' ⟨device, s.accesses + count⟩ count' b device' stopped) :
    Straight throwing (m >>= fun _ => m') s (count + count') b device' stopped :=
  first.bind (f := fun _ => m') rest

theorem pure (a : α) (s : Metered σ) (stopped : Metered σ → Prop) :
    Straight throwing (Pure.pure a : Throwing ε (Metered σ) α) s 0 a s.device stopped :=
  Ends.pure ⟨rfl, rfl, fun k low high => by omega⟩

/-- A loop of single accesses, with what each of them preserves. -/
theorem forM {ι : Type} {f : ι → Throwing ε (Metered σ) Unit} {step : ι → σ → σ} {P : σ → Prop}
    {is : List ι}
    (each : ∀ i (s : Metered σ), P s.device →
      Straight throwing (f i) s 1 () (step i s.device) fun s' => P s'.device)
    (kept : ∀ i ∈ is, ∀ d, P d → P (step i d)) {s : Metered σ} (start : P s.device) :
    Straight throwing (is.forM f) s is.length () (is.foldl (fun d i => step i d) s.device)
      fun s' => P s'.device := by
  induction is generalizing s with
  | nil => exact Straight.pure () s _
  | cons i is ih =>
      have later := ih (fun j mem => kept j (List.mem_cons_of_mem i mem))
        (s := ⟨step i s.device, s.accesses + 1⟩) (kept i List.mem_cons_self _ start)
      rw [List.length_cons, Nat.add_comm]
      exact (each i s start).andThen later

/-- Without an exception the computation returns. -/
theorem run_of_quiet (straight : Straight throwing m s count a device stopped)
    (quiet : Quiet throwing s.accesses (s.accesses + count)) :
    m.run.run s = (.ok a, ⟨device, s.accesses + count⟩) := by
  rcases straight with ⟨_, _, run, rfl, rfl, -⟩ | ⟨_, s', -, high, low, throws, -⟩
  · exact run
  · rw [quiet _ low high] at throws
    exact absurd throws Bool.false_ne_true

end Straight

end Librorc.Lib
