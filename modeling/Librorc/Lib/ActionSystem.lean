import Mathlib.Logic.Relation
import Mathlib.Tactic.Common

/-!
# Labelled systems and guarded runs

A system moves by actions; `step s a = none` says that the environment never
takes action `a` in state `s`. A *discipline* is a predicate on (state, action)
pairs that the users of the system promise to keep. `Reached` collects the
states of the disciplined runs, and `Reached.invariant` is the one induction
over runs the rest of the development needs.
-/

namespace Librorc.Lib

/-- A state machine driven by actions, with a set of initial states. -/
structure ActionSystem (σ α : Type*) where
  init : σ → Prop
  step : σ → α → Option σ

namespace ActionSystem

/-- States reached from an initial state by steps that all keep the
discipline `ok`. -/
inductive Reached {σ α : Type*} (M : ActionSystem σ α) (ok : σ → α → Prop) : σ → Prop
  | init {s : σ} : M.init s → Reached M ok s
  | step {s : σ} {a : α} {s' : σ} :
      Reached M ok s → ok s a → M.step s a = some s' → Reached M ok s'

variable {σ α : Type*} {M : ActionSystem σ α} {ok ok' : σ → α → Prop} {s s' : σ}

/-- A property of the initial states that every disciplined step preserves
holds in every reached state. -/
theorem Reached.invariant {Inv : σ → Prop} (base : ∀ s, M.init s → Inv s)
    (step : ∀ s a s', Inv s → ok s a → M.step s a = some s' → Inv s')
    (reached : Reached M ok s) : Inv s := by
  induction reached with
  | init start => exact base _ start
  | step _ allowed taken ih => exact step _ _ _ ih allowed taken

/-- A stricter discipline reaches fewer states. -/
theorem Reached.mono (weaker : ∀ s a, ok s a → ok' s a) (reached : Reached M ok s) :
    Reached M ok' s := by
  induction reached with
  | init start => exact .init start
  | step _ allowed taken ih => exact .step ih (weaker _ _ allowed) taken

/-- A system that another one simulates only reaches states whose images the
other reaches: every disciplined step is a disciplined step of the other one,
or not seen there. -/
theorem Reached.map {τ β : Type*} {N : ActionSystem τ β} {okN : τ → β → Prop} {f : σ → τ}
    (base : ∀ s, M.init s → N.init (f s))
    (step : ∀ s a s', ok s a → M.step s a = some s' →
      f s' = f s ∨ ∃ b, okN (f s) b ∧ N.step (f s) b = some (f s'))
    (reached : Reached M ok s) : Reached N okN (f s) := by
  induction reached with
  | init start => exact .init (base _ start)
  | step _ allowed taken ih =>
      rcases step _ _ _ allowed taken with same | ⟨b, kept, image⟩
      · rw [same]
        exact ih
      · exact ih.step kept image

/-- One state leads to another by disciplined steps. -/
def Leads (M : ActionSystem σ α) (ok : σ → α → Prop) : σ → σ → Prop :=
  Relation.ReflTransGen fun s s' => ∃ a, ok s a ∧ M.step s a = some s'

/-- A disciplined step, and then more. -/
theorem Leads.head {a : α} {s'' : σ} (taken : M.step s a = some s') (allowed : ok s a)
    (more : M.Leads ok s' s'') : M.Leads ok s s'' :=
  Relation.ReflTransGen.head ⟨a, allowed, taken⟩ more

/-- Execute a list of actions, failing where the environment refuses one. -/
def run (M : ActionSystem σ α) : σ → List α → Option σ
  | s, [] => some s
  | s, a :: rest =>
      match M.step s a with
      | some next => M.run next rest
      | none => none

/-- Every step of the run keeps the discipline. -/
def Keeps (M : ActionSystem σ α) (ok : σ → α → Prop) : σ → List α → Prop
  | _, [] => True
  | s, a :: rest => ok s a ∧ ∀ next, M.step s a = some next → M.Keeps ok next rest

/-- Whether a list of actions keeps a discipline can be tried out. -/
instance decidableKeeps [∀ s a, Decidable (ok s a)] :
    (s : σ) → (acts : List α) → Decidable (M.Keeps ok s acts)
  | _, [] => isTrue trivial
  | s, a :: rest =>
      have later : Decidable (∀ next, M.step s a = some next → M.Keeps ok next rest) :=
        match taken : M.step s a with
        | none => isTrue fun _ refused => absurd refused (by simp)
        | some next =>
            have := decidableKeeps next rest
            decidable_of_iff (M.Keeps ok next rest) (by simp)
      inferInstanceAs (Decidable (ok s a ∧ _))

/-- Actions that are allowed everywhere keep the discipline. -/
theorem keeps_of_forall {acts : List α} (all : ∀ a ∈ acts, ∀ s, ok s a) : M.Keeps ok s acts := by
  induction acts generalizing s with
  | nil => trivial
  | cons a rest ih =>
      exact ⟨all a List.mem_cons_self s, fun next _ =>
        ih fun b later => all b (List.mem_cons_of_mem a later)⟩

/-- Where the discipline says exactly which steps keep a property, a run keeps the
discipline just if every state on its way has the property. -/
theorem keeps_iff_invariant {Inv : σ → Prop}
    (exact : ∀ s a s', Inv s → M.step s a = some s' → (Inv s' ↔ ok s a))
    (refused : ∀ s a, M.step s a = none → ok s a) {acts : List α} (start : Inv s) :
    M.Keeps ok s acts ↔
      ∀ first, first <+: acts → ∀ s', M.run s first = some s' → Inv s' := by
  induction acts generalizing s with
  | nil =>
      refine ⟨fun _ first isPrefix s' ran => ?_, fun _ => trivial⟩
      obtain rfl := List.prefix_nil.mp isPrefix
      cases ran
      exact start
  | cons a rest ih =>
      cases taken : M.step s a with
      | none =>
          refine ⟨fun _ first isPrefix s' ran => ?_, fun _ => ?_⟩
          · rcases List.prefix_cons_iff.mp isPrefix with rfl | ⟨later, rfl, -⟩
            · cases ran
              exact start
            · simp [ActionSystem.run, taken] at ran
          · exact ⟨refused s a taken, fun next goes => by simp [taken] at goes⟩
      | some next =>
          constructor
          · rintro ⟨allowed, later⟩ first isPrefix s' ran
            rcases List.prefix_cons_iff.mp isPrefix with rfl | ⟨after, rfl, within⟩
            · cases ran
              exact start
            · have kept := (exact s a next start taken).mpr allowed
              simp only [ActionSystem.run, taken] at ran
              exact (ih kept).mp (later next taken) after within s' ran
          · intro all
            have kept : Inv next :=
              all [a] ⟨rest, rfl⟩ next (by simp [ActionSystem.run, taken])
            refine ⟨(exact s a next start taken).mp kept, ?_⟩
            rintro next' goes
            cases taken.symm.trans goes
            refine (ih kept).mpr fun first isPrefix s' ran => ?_
            refine all (a :: first) (List.cons_prefix_cons.mpr ⟨rfl, isPrefix⟩) s' ?_
            simp only [ActionSystem.run, taken, ran]

/-- A disciplined execution from a reached state stays reached. -/
theorem Reached.run {acts : List α} (reached : Reached M ok s) (keeps : M.Keeps ok s acts)
    (ran : M.run s acts = some s') : Reached M ok s' := by
  induction acts generalizing s with
  | nil =>
      simp only [ActionSystem.run, Option.some.injEq] at ran
      exact ran ▸ reached
  | cons a rest ih =>
      simp only [ActionSystem.run] at ran
      cases taken : M.step s a with
      | none => simp [taken] at ran
      | some next =>
          simp only [taken] at ran
          exact ih (reached.step keeps.1 taken) (keeps.2 next taken) ran

/-- A system that refuses no action runs through. -/
theorem exists_run (total : ∀ s a, ∃ s', M.step s a = some s') (s : σ) (acts : List α) :
    ∃ s', M.run s acts = some s' := by
  induction acts generalizing s with
  | nil => exact ⟨s, rfl⟩
  | cons a rest ih =>
      obtain ⟨next, taken⟩ := total s a
      obtain ⟨s', ran⟩ := ih next
      refine ⟨s', ?_⟩
      simp only [ActionSystem.run, taken, ran]

/-- A system that follows every step of another one follows its runs. -/
theorem run_follows {τ : Type*} {N : ActionSystem τ α} {R : τ → σ → Prop} {allowed : α → Prop}
    (step : ∀ t s a t', R t s → allowed a → N.step t a = some t' →
      ∃ s', M.step s a = some s' ∧ R t' s')
    {acts : List α} (all : ∀ a ∈ acts, allowed a) {t t' : τ} (related : R t s)
    (ran : N.run t acts = some t') : ∃ s', M.run s acts = some s' ∧ R t' s' := by
  induction acts generalizing t s with
  | nil =>
      simp only [ActionSystem.run, Option.some.injEq] at ran
      exact ⟨s, rfl, ran ▸ related⟩
  | cons a rest ih =>
      obtain ⟨here, later⟩ := List.forall_mem_cons.mp all
      simp only [ActionSystem.run] at ran
      cases taken : N.step t a with
      | none => simp [taken] at ran
      | some next =>
          simp only [taken] at ran
          obtain ⟨s₁, follows, related⟩ := step _ _ _ _ related here taken
          obtain ⟨s', ends, matched⟩ := ih later related ran
          refine ⟨s', ?_, matched⟩
          simp only [ActionSystem.run, follows, ends]

end ActionSystem
end Librorc.Lib
