import Librorc.Diu.Prepare
import Librorc.Link.Gtx

/-!
# Waiting for readiness

`waitForGTXDomain`, `waitForLinkUp` and the attempts of `rxInitialize` poll
until a condition holds or a counter is down to zero, and then look at the
counter alone. The last poll comes after the counter reached zero; readiness
seen there for the first time counts as a timeout.
-/

namespace Librorc

open Librorc.Lib

variable {σ : Type}

/-! ## The loops -/

/-- `LIBRORC_LINK_WAITFORGTX_TIMEOUT`. -/
def linkWaitforgtxTimeout : Nat := 10000

/-- Outside of simulations, which do not count down. -/
def Link.waitForGTXDomain (l : Link) (dev : BarDevice σ) (s : σ) : Int × σ :=
  match poll (l.isGtxDomainReady dev) (!·) linkWaitforgtxTimeout s with
  | .ready _ s => (0, s)
  | .timeout _ s => (-1, s)

namespace Gtx

variable (l : Link) (dev : BarDevice σ)

def gtxRxinitRetryLimit : Nat := 5
def gtxRxinitAlignTimeout : Nat := 10000

def pulseRxReset (s : σ) : σ := setRxReset l dev 0 (setRxReset l dev 1 s)

/-- One turn of the outer loop. -/
def rxAttempt (s : σ) : Bool × σ :=
  match poll (isLinkUp l dev) (!·) gtxRxinitAlignTimeout (pulseRxReset l dev s) with
  | .ready _ s => (true, s)
  | .timeout _ s => (false, s)

/-- The outer loop, after `retryCount` attempts. -/
def rxRetry (retryCount : Nat) (s : σ) : Int × σ :=
  let rxInitDone := (rxAttempt l dev s).1
  let s := (rxAttempt l dev s).2
  if rxInitDone then (Int.ofNat retryCount, clearErrorCounters l dev s)
  else if retryCount + 1 < gtxRxinitRetryLimit then rxRetry (retryCount + 1) s
  else (-1, s)
termination_by gtxRxinitRetryLimit - retryCount

def rxInitialize (s : σ) : Int × σ := rxRetry l dev 0 s

end Gtx

/-! ## What they are to decide -/

/-- A wait returns 0 if a poll saw readiness, and -1 otherwise. -/
def WaitDecides (result : Int) (saw : Prop) : Prop :=
  result = 0 ∧ saw ∨ result = -1 ∧ ¬saw

namespace Gtx

variable (l : Link) (dev : BarDevice σ) (s : σ)

/-- The state before attempt `k`, and whether the code counts it as successful. -/
def beforeAttempt (k : Nat) : σ := readState (rxAttempt l dev) s k

def countsAttempt (k : Nat) : Bool := readWord (rxAttempt l dev) s k

/-- The words that the polls of attempt `k` read. -/
def attemptWords (k : Nat) : Nat → Bool :=
  readWord (isLinkUp l dev) (pulseRxReset l dev (beforeAttempt l dev s k))

def AttemptSees (k : Nat) : Prop :=
  SeesReady (!·) gtxRxinitAlignTimeout (attemptWords l dev s k)

def AttemptLate (k : Nat) : Prop :=
  LateReady (!·) gtxRxinitAlignTimeout (attemptWords l dev s k)

/-- There is an attempt `k`. -/
def Attempted (k : Nat) : Prop :=
  k < gtxRxinitRetryLimit ∧ ∀ j < k, countsAttempt l dev s j = false

/-- Each attempt counts by what its polls saw. The call returns the number of
attempts before the first one that saw the link, and -1 after the fifth one if
none did. -/
structure RxInitializes : Prop where
  counts : ∀ k, Attempted l dev s k → (countsAttempt l dev s k = true ↔ AttemptSees l dev s k)
  succeeds : ∀ k < gtxRxinitRetryLimit, (∀ j < k, ¬AttemptSees l dev s j) →
    AttemptSees l dev s k →
      rxInitialize l dev s = (Int.ofNat k, clearErrorCounters l dev (beforeAttempt l dev s (k + 1)))
  fails : (∀ k < gtxRxinitRetryLimit, ¬AttemptSees l dev s k) →
    rxInitialize l dev s = (-1, beforeAttempt l dev s gtxRxinitRetryLimit)

end Gtx

/-! ## The waits -/

/-- A result that is by how the polling ended. -/
theorem waitDecides_iff (read : σ → Bool × σ) (timeout : Nat) (s : σ) :
    WaitDecides (if (poll read (!·) timeout s).isReady = true then 0 else -1)
        (SeesReady (!·) timeout (readWord read s)) ↔
      ¬LateReady (!·) timeout (readWord read s) := by
  rw [← isReady_iff_seesReady_iff]
  unfold WaitDecides
  split
  · rename_i ready
    simp [ready]
  · rename_i expired
    simp [expired]

theorem Link.waitForGTXDomain_fst (l : Link) (dev : BarDevice σ) (s : σ) :
    (l.waitForGTXDomain dev s).1 =
      if (poll (l.isGtxDomainReady dev) (!·) linkWaitforgtxTimeout s).isReady = true
      then 0 else -1 := by
  unfold waitForGTXDomain
  cases poll (l.isGtxDomainReady dev) (!·) linkWaitforgtxTimeout s <;> rfl

theorem DiuChannel.waitForLinkUp_eq (env : DiuEnv) (c : DiuChannel) :
    (c.waitForLinkUp env).1 =
      if (poll (linkUp env) (!·) diuTimeout c).isReady = true then 0 else -1 := by
  unfold waitForLinkUp
  cases poll (linkUp env) (!·) diuTimeout c <;> rfl

/-! ## The attempts -/

namespace Gtx

variable (l : Link) (dev : BarDevice σ) (s : σ)

theorem countsAttempt_iff (k : Nat) :
    countsAttempt l dev s k = true ↔ AttemptSees l dev s k ∧ ¬AttemptLate l dev s k := by
  have ends (s : σ) : (rxAttempt l dev s).1 =
      (poll (isLinkUp l dev) (!·) gtxRxinitAlignTimeout (pulseRxReset l dev s)).isReady := by
    unfold rxAttempt
    cases poll (isLinkUp l dev) (!·) gtxRxinitAlignTimeout (pulseRxReset l dev s) <;> rfl
  unfold countsAttempt readWord
  rw [ends]
  exact isReady_poll_iff ..

theorem rxRetry_of_done {retryCount : Nat} (done : (rxAttempt l dev s).1 = true) :
    rxRetry l dev retryCount s =
      (Int.ofNat retryCount, clearErrorCounters l dev (rxAttempt l dev s).2) := by
  rw [rxRetry]
  exact if_pos done

theorem rxRetry_of_failed {retryCount : Nat} (failed : (rxAttempt l dev s).1 = false) :
    rxRetry l dev retryCount s =
      if retryCount + 1 < gtxRxinitRetryLimit then
        rxRetry l dev (retryCount + 1) (rxAttempt l dev s).2
      else (-1, (rxAttempt l dev s).2) := by
  rw [rxRetry]
  exact if_neg (by rw [failed]; exact Bool.false_ne_true)

/-- With `left + 1` attempts left, the loop ends with the first that counts. -/
theorem rxRetry_spec (retryCount left : Nat)
    (limit : retryCount + left + 1 = gtxRxinitRetryLimit) :
    (∃ k ≤ left, (∀ j < k, countsAttempt l dev s j = false) ∧ countsAttempt l dev s k = true ∧
      rxRetry l dev retryCount s = (Int.ofNat (retryCount + k),
        clearErrorCounters l dev (beforeAttempt l dev s (k + 1)))) ∨
    (∀ k ≤ left, countsAttempt l dev s k = false) ∧
      rxRetry l dev retryCount s = (-1, beforeAttempt l dev s (left + 1)) := by
  induction left generalizing retryCount s with
  | zero =>
      cases first : (rxAttempt l dev s).1 with
      | true =>
          left
          exact ⟨0, Nat.le_refl 0, nofun, first, rxRetry_of_done l dev s first⟩
      | false =>
          right
          constructor
          · intro k le
            rw [Nat.le_zero.mp le]
            exact first
          · rw [rxRetry_of_failed l dev s first, if_neg (by omega)]
            rfl
  | succ left ih =>
      cases first : (rxAttempt l dev s).1 with
      | true =>
          left
          exact ⟨0, Nat.zero_le _, nofun, first, rxRetry_of_done l dev s first⟩
      | false =>
          rw [rxRetry_of_failed l dev s first, if_pos (by omega)]
          have limit' : retryCount + 1 + left + 1 = gtxRxinitRetryLimit := by omega
          rcases ih (rxAttempt l dev s).2 _ limit' with
            ⟨k, le, before, counts, ended⟩ | ⟨all, ended⟩
          · left
            refine ⟨k + 1, by omega, ?_, counts, ?_⟩
            · intro j below
              cases j with
              | zero => exact first
              | succ j => exact before j (by omega)
            · rw [ended, Nat.add_right_comm, Nat.add_assoc]
              rfl
          · right
            refine ⟨?_, ended⟩
            intro k le
            cases k with
            | zero => exact first
            | succ k => exact all k (by omega)

/-- The call decides right exactly when no attempt first sees the link at its
last poll. -/
theorem rxInitializes_iff :
    RxInitializes l dev s ↔ ∀ k, Attempted l dev s k → ¬AttemptLate l dev s k := by
  constructor
  · intro initializes k attempted late
    have counted := (initializes.counts k attempted).mpr late.sees
    exact ((countsAttempt_iff l dev s k).mp counted).2 late
  · intro inTime
    have counts : ∀ k, Attempted l dev s k →
        (countsAttempt l dev s k = true ↔ AttemptSees l dev s k) := by
      intro k attempted
      rw [countsAttempt_iff]
      exact and_iff_left (inTime k attempted)
    -- attempts that see nothing fail, and are all made
    have fail : ∀ k, (∀ j < k, ¬AttemptSees l dev s j) →
        ∀ j < k, countsAttempt l dev s j = false := by
      intro k unseen j below
      rw [Bool.eq_false_iff]
      intro counted
      exact unseen j below ((countsAttempt_iff l dev s j).mp counted).1
    have spec := rxRetry_spec l dev s 0 4 rfl
    refine ⟨counts, ?_, ?_⟩
    · intro k below unseen sees
      have failed := fail k unseen
      have counted := (counts k ⟨below, failed⟩).mpr sees
      rcases spec with ⟨m, le, before, first, ended⟩ | ⟨all, -⟩
      · have same : m = k := by
          rcases Nat.lt_trichotomy m k with earlier | same | later
          · exact absurd ((failed m earlier).symm.trans first) Bool.false_ne_true
          · exact same
          · exact absurd ((before k later).symm.trans counted) Bool.false_ne_true
        rw [rxInitialize, ended, same, Nat.zero_add]
      · have last : k ≤ 4 := Nat.le_of_lt_succ below
        exact absurd ((all k last).symm.trans counted) Bool.false_ne_true
    · intro unseen
      have failed := fail gtxRxinitRetryLimit unseen
      rcases spec with ⟨m, le, -, first, -⟩ | ⟨-, ended⟩
      · have below : m < gtxRxinitRetryLimit := Nat.lt_succ_of_le le
        exact absurd ((failed m below).symm.trans first) Bool.false_ne_true
      · exact ended

end Gtx

/-- **Bounded polling.** For every device, both waits return 0 exactly if a
poll saw readiness, and the receiver's initialization counts its attempts so,
exactly when no polling sees readiness for the first time at its last poll. -/
theorem readiness_decided_iff (l : Link) (dev : BarDevice σ) (s : σ) (env : DiuEnv)
    (c : DiuChannel) :
    (WaitDecides (l.waitForGTXDomain dev s).1
        (SeesReady (!·) linkWaitforgtxTimeout (readWord (l.isGtxDomainReady dev) s)) ↔
      ¬LateReady (!·) linkWaitforgtxTimeout (readWord (l.isGtxDomainReady dev) s)) ∧
    (WaitDecides (c.waitForLinkUp env).1
        (SeesReady (!·) diuTimeout (readWord (DiuChannel.linkUp env) c)) ↔
      ¬LateReady (!·) diuTimeout (readWord (DiuChannel.linkUp env) c)) ∧
    (Gtx.RxInitializes l dev s ↔
      ∀ k, Gtx.Attempted l dev s k → ¬Gtx.AttemptLate l dev s k) := by
  refine ⟨?_, ?_, Gtx.rxInitializes_iff l dev s⟩
  · rw [Link.waitForGTXDomain_fst]
    exact waitDecides_iff ..
  · rw [DiuChannel.waitForLinkUp_eq]
    exact waitDecides_iff ..

/-- A GTX domain that is ready from poll 10000 on. -/
theorem not_waitDecides_lastPoll :
    let l : Link := ⟨0⟩
    let dev : BarDevice Nat := ⟨fun _ n => (if n < 10000 then 0 else 0x34, n + 1), fun _ _ n => n⟩
    (l.waitForGTXDomain dev 0).1 = -1 ∧ ¬WaitDecides (l.waitForGTXDomain dev 0).1
      (SeesReady (!·) linkWaitforgtxTimeout (readWord (l.isGtxDomainReady dev) 0)) := by
  intro l dev
  have numbered : ∀ n, l.isGtxDomainReady dev n = (decide (10000 ≤ n), n + 1) := by
    intro n
    show (((if n < 10000 then 0 else 0x34 : Word32) &&& _) == _, n + 1) = _
    by_cases early : n < 10000
    · rw [if_pos early, decide_eq_false (Nat.not_le.mpr early)]
      rfl
    · rw [if_neg early, decide_eq_true (Nat.le_of_not_lt early)]
      rfl
  have word (n : Nat) : readWord (l.isGtxDomainReady dev) 0 n = decide (10000 ≤ 0 + n) :=
    @readWord_numbered Bool Nat (l.isGtxDomainReady dev) (fun n => n) _ numbered n 0
  have late : LateReady (!·) linkWaitforgtxTimeout (readWord (l.isGtxDomainReady dev) 0) := by
    refine ⟨?_, fun i below => ?_⟩
    · rw [word]
      rfl
    · have early : ¬10000 ≤ 0 + i := by
        unfold linkWaitforgtxTimeout at below
        omega
      rw [word, decide_eq_false early]
      rfl
  have expired := mt (isReady_poll_iff ..).mp fun both => both.2 late
  refine ⟨?_, ?_⟩
  · rw [Link.waitForGTXDomain_fst, if_neg expired]
  · rw [Link.waitForGTXDomain_fst]
    exact mt (waitDecides_iff ..).mp (not_not_intro late)

end Librorc
