import Mathlib.Data.List.Basic
import Mathlib.Tactic.Common

/-!
# Readers of a word stream

A reader takes words from a source; `none` means that it blocks. `Shows s
words` says what a source has to offer, and `Consumes` that a reader takes
exactly the given words off every source that offers them first. Sequencing
readers appends what they consume.
-/

namespace Librorc.Lib

universe u v w

variable {σ α β : Type u} {W : Type v} {ι : Type w}

/-- From every source that shows `words` first, the reader takes exactly these
and returns `a`. -/
def Consumes (Shows : σ → List W → Prop) (p : StateT σ Option α) (words : List W) (a : α) : Prop :=
  ∀ s rest, Shows s (words ++ rest) → ∃ s', p.run s = some (a, s') ∧ Shows s' rest

/-- Run a reader over and over. -/
def readMany (p : StateT σ Option α) : ℕ → StateT σ Option (List α)
  | 0 => pure []
  | n + 1 => do
      let a ← p
      let rest ← readMany p n
      pure (a :: rest)

/-- Run a reader once for every input, each time on what it returned before. -/
def readScan {κ : Type w} (p : κ → α → StateT σ Option α) :
    List κ → α → StateT σ Option (List α)
  | [], _ => pure []
  | k :: inputs, a => do
      let b ← p k a
      let rest ← readScan p inputs b
      pure (b :: rest)

variable {Shows : σ → List W → Prop}

theorem Consumes.pure (a : α) : Consumes Shows (Pure.pure a) [] a := by
  intro s rest shows_
  exact ⟨s, rfl, shows_⟩

theorem Consumes.bind {p : StateT σ Option α} {f : α → StateT σ Option β} {xs ys : List W} {a : α}
    {b : β} (first : Consumes Shows p xs a) (second : Consumes Shows (f a) ys b) :
    Consumes Shows (p >>= f) (xs ++ ys) b := by
  intro s rest offered
  rw [List.append_assoc] at offered
  obtain ⟨s₁, ran, offered⟩ := first s _ offered
  obtain ⟨s₂, ran', offered⟩ := second s₁ _ offered
  refine ⟨s₂, ?_, offered⟩
  rw [StateT.run_bind, ran]
  exact ran'

/-- One word, and then the rest. -/
theorem Consumes.cons {p : StateT σ Option α} {f : α → StateT σ Option β} {x : W} {ys : List W}
    {a : α} {b : β} (first : Consumes Shows p [x] a) (second : Consumes Shows (f a) ys b) :
    Consumes Shows (p >>= f) (x :: ys) b :=
  first.bind second

/-- A continuation that reads nothing more. -/
theorem Consumes.map {p : StateT σ Option α} {xs : List W} {a : α}
    (first : Consumes Shows p xs a) (f : α → β) :
    Consumes Shows (p >>= fun a => Pure.pure (f a)) xs (f a) := by
  have both := first.bind (f := fun a => Pure.pure (f a)) (Consumes.pure (f a))
  rwa [List.append_nil] at both

/-- A list of messages is read message by message. -/
theorem Consumes.readMany {p : StateT σ Option α} {encode : ι → List W} {value : ι → α}
    {messages : List ι}
    (each : ∀ m ∈ messages, Consumes Shows p (encode m) (value m)) :
    Consumes Shows (Lib.readMany p messages.length) (messages.flatMap encode)
      (messages.map value) := by
  induction messages with
  | nil => exact Consumes.pure []
  | cons m rest ih =>
      rw [List.flatMap_cons]
      refine (each m List.mem_cons_self).bind ?_
      exact (ih fun n later => each n (List.mem_cons_of_mem m later)).map _

/-- Words are read one by one. -/
theorem Consumes.words {V : Type u} {Shows : σ → List V → Prop} {read : StateT σ Option V}
    (one : ∀ w, Consumes Shows read [w] w) (words : List V) :
    Consumes Shows (Lib.readMany read words.length) words words := by
  have many : Consumes Shows (Lib.readMany read words.length) (words.flatMap fun w => [w])
      (words.map fun w => w) := Consumes.readMany fun w _ => one w
  rwa [List.flatMap_singleton', List.map_id'] at many

/-- A list of messages is read message by message, when every message leaves
the reader in a state that suits it. -/
theorem Consumes.readScan {κ : Type*} {p : κ → α → StateT σ Option α} {input : ι → κ}
    {encode : ι → List W} {R : ι → α → Prop} {messages : List ι}
    (each : ∀ m ∈ messages, ∀ a, ∃ b, Consumes Shows (p (input m) a) (encode m) b ∧ R m b)
    (a : α) :
    ∃ states, Consumes Shows (Lib.readScan p (messages.map input) a) (messages.flatMap encode)
        states ∧ List.Forall₂ R messages states := by
  induction messages generalizing a with
  | nil => exact ⟨[], Consumes.pure [], .nil⟩
  | cons m rest ih =>
      obtain ⟨b, reads, suits⟩ := each m List.mem_cons_self a
      obtain ⟨states, later, all⟩ := ih (fun n mem => each n (List.mem_cons_of_mem m mem)) b
      rw [List.flatMap_cons]
      exact ⟨b :: states, reads.bind (later.map _), .cons suits all⟩

/-! ## Lists of words -/

/-- Take the first word of a list. -/
def takeWord {V : Type u} : StateT (List V) Option V
  | [] => none
  | w :: rest => some (w, rest)

theorem takeWord_consumes {V : Type u} (w : V) : Consumes Eq takeWord [w] w := by
  rintro s rest rfl
  exact ⟨rest, rfl, rfl⟩

/-- On a list a reader that consumes it leaves what follows. -/
theorem Consumes.run_list {V : Type u} {p : StateT (List V) Option α} {words : List V} {a : α}
    (consumes : Consumes Eq p words a) (rest : List V) :
    p.run (words ++ rest) = some (a, rest) := by
  obtain ⟨s', ran, rfl⟩ := consumes _ rest rfl
  exact ran

end Librorc.Lib
