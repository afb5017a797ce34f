import Mathlib.Logic.Basic
import Mathlib.Tactic.Common

/-!
# Bounded polling

`pollWhile` is the loop "while the last word says busy: read again, count
down, give up at zero". Seen from the sequence of words that reading over and
over would return, it stops at the first word that is not busy, or at the last
one the budget allows. The word read when the budget runs out is not looked at
any more.
-/

namespace Librorc.Lib

/-- How a polling loop ended, with the word read last and the state then. -/
inductive PollOutcome (W σ : Type*)
  | ready (word : W) (s : σ)
  | timeout (word : W) (s : σ)

variable {W σ : Type*}

/-- A condition on the word read last, by how the loop ended. -/
def PollOutcome.Ends (accept expire : W → Prop) : PollOutcome W σ → Prop
  | .ready word _ => accept word
  | .timeout word _ => expire word

/-- The word that ended the polling, if it did not time out. -/
def PollOutcome.readyWord : PollOutcome W σ → Option W
  | .ready word _ => some word
  | .timeout _ _ => none

/-- The polling loop, entered with a word already read. -/
def pollWhile (read : σ → W × σ) (busy : W → Bool) : ℕ → W → σ → PollOutcome W σ
  | 0, word, s => .timeout word s
  | budget + 1, word, s =>
      if busy word then pollWhile read busy budget (read s).1 (read s).2 else .ready word s

/-- Read once, then poll. -/
def poll (read : σ → W × σ) (busy : W → Bool) (budget : ℕ) (s : σ) : PollOutcome W σ :=
  pollWhile read busy budget (read s).1 (read s).2

/-- The state after `n` reads, and the word the read after them returns. -/
def readState (read : σ → W × σ) (s : σ) : ℕ → σ
  | 0 => s
  | n + 1 => readState read (read s).2 n

def readWord (read : σ → W × σ) (s : σ) (n : ℕ) : W := (read (readState read s n)).1

variable {read : σ → W × σ} {busy : W → Bool}

/-- What reading preserves holds at every read. -/
theorem readState_invariant {P : σ → Prop} (kept : ∀ s, P s → P (read s).2) {s : σ} (start : P s)
    (n : ℕ) : P (readState read s n) := by
  induction n generalizing s with
  | zero => exact start
  | succ n ih => exact ih (kept s start)

/-- Either the loop stops at the first word that is not busy, or the words are
busy to the end of the budget. -/
theorem poll_spec (read : σ → W × σ) (busy : W → Bool) (budget : ℕ) (s : σ) :
    (∃ i < budget, busy (readWord read s i) = false ∧ (∀ j < i, busy (readWord read s j) = true) ∧
      poll read busy budget s = .ready (readWord read s i) (readState read s (i + 1))) ∨
    ((∀ i < budget, busy (readWord read s i) = true) ∧
      poll read busy budget s =
        .timeout (readWord read s budget) (readState read s (budget + 1))) := by
  unfold poll
  induction budget generalizing s with
  | zero =>
      right
      exact ⟨fun i none => absurd none (Nat.not_lt_zero i), rfl⟩
  | succ budget ih =>
      rw [pollWhile]
      cases first : busy (read s).1 with
      | false =>
          left
          exact ⟨0, Nat.succ_pos budget, first, fun j none => absurd none (Nat.not_lt_zero j), rfl⟩
      | true =>
          rw [if_pos rfl]
          rcases ih (read s).2 with ⟨i, below, ready, before, ended⟩ | ⟨all, ended⟩
          · left
            refine ⟨i + 1, by omega, ready, ?_, ended⟩
            intro j smaller
            cases j with
            | zero => exact first
            | succ j => exact before j (by omega)
          · right
            refine ⟨?_, ended⟩
            intro i below
            cases i with
            | zero => exact first
            | succ i => exact all i (by omega)

/-- A condition on the polled words: the first one that is not busy, if it
comes within the budget, satisfies `accept`; the last one of a timeout
satisfies `expire`. -/
def PolledWords (busy : W → Bool) (budget : ℕ) (accept expire : W → Prop) (words : ℕ → W) : Prop :=
  (∀ i < budget, busy (words i) = false → (∀ j < i, busy (words j) = true) → accept (words i)) ∧
    ((∀ i < budget, busy (words i) = true) → expire (words budget))

/-- The condition on the words decides what the loop ends with. -/
theorem polledWords_iff (busy : W → Bool) (budget : ℕ) (accept expire : W → Prop) (s : σ) :
    PolledWords busy budget accept expire (readWord read s) ↔
      (poll read busy budget s).Ends accept expire := by
  rcases poll_spec read busy budget s with ⟨i, below, ready, before, ended⟩ | ⟨all, ended⟩
  · rw [ended]
    constructor
    · rintro ⟨accepts, -⟩
      exact accepts i below ready before
    · intro accepted
      constructor
      · intro k inBudget readyK beforeK
        -- the first word that is not busy is unique
        rcases Nat.lt_trichotomy k i with earlier | rfl | later
        · rw [before k earlier] at readyK
          cases readyK
        · exact accepted
        · rw [beforeK i later] at ready
          cases ready
      · intro all
        rw [all i below] at ready
        cases ready
  · rw [ended]
    constructor
    · rintro ⟨-, expires⟩
      exact expires all
    · intro expired
      constructor
      · intro k inBudget readyK _
        rw [all k inBudget] at readyK
        cases readyK
      · intro _
        exact expired

/-- A word that is not busy at once ends the loop. -/
theorem poll_of_ready {budget : ℕ} {s : σ} (some : 0 < budget) (ready : busy (read s).1 = false) :
    poll read busy budget s = .ready (read s).1 (read s).2 := by
  obtain ⟨budget, rfl⟩ := Nat.exists_eq_succ_of_ne_zero (Nat.ne_of_gt some)
  unfold poll
  rw [pollWhile, ready]
  rfl

/-- A source that is busy for fewer reads than the budget, and then ready. -/
theorem poll_countdown {budget : ℕ} (states : ℕ → σ) {busyWord word : W} {s' : σ}
    (ticks : ∀ k, read (states (k + 1)) = (busyWord, states k)) (isBusy : busy busyWord = true)
    (last : read (states 0) = (word, s')) (isReady : busy word = false) {k : ℕ}
    (below : k < budget) : poll read busy budget (states k) = .ready word s' := by
  induction k generalizing budget with
  | zero =>
      rw [poll_of_ready below (by rw [last]; exact isReady), last]
  | succ k ih =>
      obtain ⟨budget, rfl⟩ := Nat.exists_eq_succ_of_ne_zero (Nat.ne_zero_of_lt below)
      have later := ih (Nat.lt_of_succ_lt_succ below)
      unfold poll at later ⊢
      rw [ticks, pollWhile, isBusy, if_pos rfl]
      exact later

/-- Word number `i` is the first that is not busy, and comes in time. -/
structure FirstReady (busy : W → Bool) (budget : ℕ) (words : ℕ → W) (i : ℕ) : Prop where
  inTime : i < budget
  ready : busy (words i) = false
  before : ∀ j < i, busy (words j) = true

theorem FirstReady.unique {budget : ℕ} {words : ℕ → W} {i j : ℕ}
    (first : FirstReady busy budget words i) (first' : FirstReady busy budget words j) : i = j := by
  rcases Nat.lt_trichotomy i j with earlier | same | later
  · exact absurd (first'.before i earlier) (by rw [first.ready]; decide)
  · exact same
  · exact absurd (first.before j later) (by rw [first'.ready]; decide)

/-- Words that are all busy have no first ready one. -/
theorem FirstReady.not_late {budget : ℕ} {words : ℕ → W} {i : ℕ}
    (first : FirstReady busy budget words i) (late : ∀ k < budget, busy (words k) = true) :
    False := by
  have ready := first.ready
  rw [late i first.inTime] at ready
  cases ready

section Numbered

variable {states : ℕ → σ} {words : ℕ → W}
  (numbered : ∀ n, read (states n) = (words n, states (n + 1)))
include numbered

theorem readState_numbered (k n : ℕ) : readState read (states n) k = states (n + k) := by
  induction k generalizing n with
  | zero => rfl
  | succ k ih => rw [readState, numbered, ih, Nat.add_right_comm, Nat.add_assoc]

theorem readWord_numbered (k n : ℕ) : readWord read (states n) k = words (n + k) := by
  rw [readWord, readState_numbered numbered, numbered]

/-- A source that answers with the words of a sequence, one after the other. -/
theorem poll_numbered (busy : W → Bool) (budget n : ℕ) :
    (∃ i, FirstReady busy budget (fun k => words (n + k)) i ∧
      poll read busy budget (states n) = .ready (words (n + i)) (states (n + i + 1))) ∨
    ((∀ i < budget, busy (words (n + i)) = true) ∧
      poll read busy budget (states n) =
        .timeout (words (n + budget)) (states (n + budget + 1))) := by
  have state (k : ℕ) := readState_numbered numbered k n
  have word (k : ℕ) := readWord_numbered numbered k n
  rcases poll_spec read busy budget (states n) with ⟨i, below, ready, before, ended⟩ | ⟨all, ended⟩
  · left
    rw [word, state] at ended
    rw [word] at ready
    exact ⟨i, ⟨below, ready, fun j smaller => word j ▸ before j smaller⟩, ended⟩
  · right
    rw [word, state] at ended
    exact ⟨fun i below => word i ▸ all i below, ended⟩

end Numbered

/-- A loop that ends ready ends with a word that is not busy. -/
theorem poll_ready {budget : ℕ} {s s' : σ} {word : W}
    (ended : poll read busy budget s = .ready word s') : busy word = false := by
  rcases poll_spec read busy budget s with ⟨i, -, ready, -, spec⟩ | ⟨-, spec⟩
  · rw [ended] at spec
    obtain ⟨rfl, -⟩ := PollOutcome.ready.inj spec
    exact ready
  · rw [ended] at spec
    cases spec

/-! ## Readiness at the last read -/

/-- The loop ended before the budget ran out. -/
def PollOutcome.isReady : PollOutcome W σ → Bool
  | .ready _ _ => true
  | .timeout _ _ => false

/-- A word that the loop reads shows readiness. It stops at the first one that
does, and reads a last one with the budget used up. -/
def SeesReady (busy : W → Bool) (budget : ℕ) (words : ℕ → W) : Prop :=
  ∃ i ≤ budget, busy (words i) = false

/-- The last word is the first that shows it. -/
structure LateReady (busy : W → Bool) (budget : ℕ) (words : ℕ → W) : Prop where
  ready : busy (words budget) = false
  before : ∀ i < budget, busy (words i) = true

theorem LateReady.sees {budget : ℕ} {words : ℕ → W} (late : LateReady busy budget words) :
    SeesReady busy budget words :=
  ⟨budget, Nat.le_refl budget, late.ready⟩

/-- The loop ends ready if it sees readiness before the last word. -/
theorem isReady_poll_iff (read : σ → W × σ) (busy : W → Bool) (budget : ℕ) (s : σ) :
    (poll read busy budget s).isReady = true ↔
      SeesReady busy budget (readWord read s) ∧ ¬LateReady busy budget (readWord read s) := by
  rcases poll_spec read busy budget s with ⟨i, below, ready, -, ended⟩ | ⟨all, ended⟩
  · rw [ended]
    refine ⟨fun _ => ⟨⟨i, Nat.le_of_lt below, ready⟩, ?_⟩, fun _ => rfl⟩
    intro late
    rw [late.before i below] at ready
    cases ready
  · rw [ended]
    refine ⟨nofun, ?_⟩
    rintro ⟨⟨i, inTime, ready⟩, notLate⟩
    rcases Nat.lt_or_eq_of_le inTime with below | rfl
    · rw [all i below] at ready
      cases ready
    · exact absurd ⟨ready, all⟩ notLate

/-- What the loop sees and how it ends agree, but for the last word. -/
theorem isReady_iff_seesReady_iff (read : σ → W × σ) (busy : W → Bool) (budget : ℕ) (s : σ) :
    ((poll read busy budget s).isReady = true ↔ SeesReady busy budget (readWord read s)) ↔
      ¬LateReady busy budget (readWord read s) := by
  rw [isReady_poll_iff]
  constructor
  · intro agree late
    exact (agree.mpr late.sees).2 late
  · intro notLate
    exact and_iff_left notLate

end Librorc.Lib
