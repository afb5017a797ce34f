import Librorc.Clock.Refclk
import Librorc.Lib.Throwing

/-!
# `refclk::writeOptsToDevice` when the I2C bus fails

Every access to the oscillator may throw `LIBRORC_SYSMON_ERROR_I2C_RXACK` and
then has no effect; nothing catches the exception. `throwing k` says that
access number `k` of the call throws. Storing the frequency in the firmware at
the end is no I2C access, and left out.
-/

namespace Librorc

open Librorc.Lib

/-- `LIBRORC_SYSMON_ERROR_I2C_RXACK`. -/
inductive I2cError
  | rxack

/-- Calls that access the oscillator. -/
abbrev I2c (α : Type) := Throwing I2cError (Metered Si570) α

namespace Refclk.OnI2c

variable (throwing : ℕ → Bool)

def refclkRead (addr : Word8) : I2c Word8 :=
  attempt throwing .rxack fun s => s.read addr

def refclkWrite (addr value : Word8) : I2c Unit :=
  attempt throwing .rxack fun s => ((), s.write addr value)

/-- `i2c_write_mem_dual`: both bytes in one access. -/
def i2cWriteMemDual (addr0 value0 addr1 value1 : Word8) : I2c Unit :=
  attempt throwing .rxack fun s => ((), s.writeDual addr0 value0 addr1 value1)

def setFreezeDCO : I2c Unit := do
  let val ← refclkRead throwing 137
  refclkWrite throwing 137 (val ||| freezeDco)

def releaseDCO : I2c Unit := do
  let freezeVal ← refclkRead throwing 137
  i2cWriteMemDual throwing 137 (freezeVal &&& 0xef) 135 mNewfreq

/-- The loop, entered with `reg135`. `false` is a loop that is still running
after `turns` reads. -/
def clearanceLoop (flag : Word8) : ℕ → Word8 → I2c Bool
  | 0, reg135 => pure (reg135 &&& flag == 0)
  | turns + 1, reg135 =>
      if reg135 &&& flag = 0 then pure true
      else do
        let reg135 ← refclkRead throwing 135
        clearanceLoop flag turns reg135

def waitForClearance (turns : ℕ) (flag : Word8) : I2c Bool :=
  clearanceLoop throwing flag turns flag

/-- The registers that hold the settings. -/
def writeSettings (opts : RefclkOpts) : I2c Unit := do
  refclkWrite throwing 13 (dividerByte opts)
  refclkWrite throwing 14 (splitByte opts)
  (List.range 4).forM fun i =>
    refclkWrite throwing (15 + BitVec.ofNat 8 i) (rfreqByte opts i)

def writeOptsToDevice (turns : ℕ) (opts : RefclkOpts) : I2c Bool := do
  setFreezeDCO throwing
  writeSettings throwing opts
  releaseDCO throwing
  waitForClearance throwing turns mNewfreq

/-! ## What an exception leaves behind -/

/-- Reading register 137, and then one access that writes. -/
theorem readFreeze_straight (s : Metered Si570) (access : Word8 → Si570 → Si570) :
    Straight throwing
      (refclkRead throwing 137 >>= fun val =>
        attempt throwing I2cError.rxack fun d => ((), access val d))
      s 2 () (access (s.device.regs 137) s.device) fun s' => s'.device = s.device := by
  have read := Straight.attempt throwing I2cError.rxack (fun d : Si570 => d.read 137) s
  rw [s.device.read_of_ne (by decide)] at read
  have write := Straight.attempt throwing I2cError.rxack
    (fun d : Si570 => ((), access (s.device.regs 137) d)) ⟨s.device, s.accesses + 1⟩
  have readStops : Straight throwing (refclkRead throwing 137) s 1 (s.device.regs 137) s.device
      fun s' => s'.device = s.device := read.mono fun s' _ _ same => by rw [same]
  refine readStops.bind (f := fun val => attempt throwing .rxack fun d => ((), access val d))
    (write.mono fun s' _ _ same => ?_)
  rw [same]

theorem setFreezeDCO_straight (s : Metered Si570) :
    Straight throwing (setFreezeDCO throwing) s 2 ()
      (s.device.write 137 (s.device.regs 137 ||| freezeDco)) fun s' => s'.device = s.device :=
  readFreeze_straight throwing s fun val d => d.write 137 (val ||| freezeDco)

theorem releaseDCO_straight (s : Metered Si570) :
    Straight throwing (releaseDCO throwing) s 2 ()
      (s.device.writeDual 137 (s.device.regs 137 &&& 0xef) 135 mNewfreq)
      fun s' => s'.device = s.device :=
  readFreeze_straight throwing s fun freezeVal d =>
    d.writeDual 137 (freezeVal &&& 0xef) 135 mNewfreq

/-- A write to another register keeps the freeze bit. -/
theorem refclkWrite_straight (s : Metered Si570) (addr value : Word8) {freeze : Word8}
    (held : s.device.regs 137 = freeze) :
    Straight throwing (refclkWrite throwing addr value) s 1 () (s.device.write addr value)
      fun s' => s'.device.regs 137 = freeze :=
  (Straight.attempt throwing I2cError.rxack (fun d : Si570 => ((), d.write addr value)) s).mono
    fun s' _ _ same => by rw [same, held]

theorem write_keeps {d : Si570} {addr freeze : Word8} (other : addr ≠ 137) (value : Word8)
    (held : d.regs 137 = freeze) : (d.write addr value).regs 137 = freeze :=
  (Function.update_of_ne other.symm _ _).trans held

theorem writeSettings_straight (opts : RefclkOpts) (s : Metered Si570) {freeze : Word8}
    (held : s.device.regs 137 = freeze) :
    Straight throwing (writeSettings throwing opts) s 6 () (Refclk.writeSettings opts s.device)
      fun s' => s'.device.regs 137 = freeze := by
  have divider := write_keeps (show (13 : Word8) ≠ 137 by decide) (dividerByte opts) held
  have split := write_keeps (show (14 : Word8) ≠ 137 by decide) (splitByte opts) divider
  have others : ∀ i ∈ List.range 4, (15 + BitVec.ofNat 8 i : Word8) ≠ 137 := by decide
  have rfreq := Straight.forM (P := fun d : Si570 => d.regs 137 = freeze)
    (fun i (s : Metered Si570) held =>
      refclkWrite_straight throwing s (15 + BitVec.ofNat 8 i) (rfreqByte opts i) held)
    (fun i mem d held => write_keeps (others i mem) (rfreqByte opts i) held)
    (s := ⟨_, s.accesses + 1 + 1⟩) split
  have second := refclkWrite_straight throwing
    ⟨s.device.write 13 (dividerByte opts), s.accesses + 1⟩ 14 (splitByte opts) divider
  exact (refclkWrite_straight throwing s 13 (dividerByte opts) held).andThen (second.andThen rfreq)

theorem read135_keeps (s : Si570) :
    (s.read 135).2.written = s.written ∧
      ∀ addr, addr ≠ 135 → (s.read 135).2.regs addr = s.regs addr := by
  unfold Si570.read
  rw [if_pos rfl]
  cases s.pending with
  | none => exact ⟨rfl, fun _ _ => rfl⟩
  | some k =>
      cases k with
      | zero => exact ⟨rfl, fun addr other => Function.update_of_ne other _ _⟩
      | succ k => exact ⟨rfl, fun _ _ => rfl⟩

/-- Waiting touches no other register than 135. -/
theorem clearanceLoop_ends (flag : Word8) (turns : ℕ) (reg135 : Word8) (s : Metered Si570) :
    Ends (clearanceLoop throwing flag turns reg135) s (fun _ _ => True) fun _ s' =>
      s'.device.written = s.device.written ∧
        ∀ addr, addr ≠ 135 → s'.device.regs addr = s.device.regs addr := by
  induction turns generalizing reg135 s with
  | zero => exact Ends.pure trivial
  | succ turns ih =>
      unfold clearanceLoop
      split
      · exact Ends.pure trivial
      · have read := Straight.attempt throwing I2cError.rxack (fun d : Si570 => d.read 135) s
        refine Ends.bind (Ends.mono read (fun _ _ holds => holds) ?_) ?_
        · rintro _ s' ⟨-, -, -, -, rfl⟩
          exact ⟨rfl, fun _ _ => rfl⟩
        · rintro _ _ ⟨rfl, rfl, -⟩
          obtain ⟨written, same⟩ := read135_keeps s.device
          refine Ends.mono (ih _ _) (fun _ _ _ => trivial) ?_
          rintro _ s' ⟨writtenLater, sameLater⟩
          exact ⟨writtenLater.trans written, fun addr other =>
            (sameLater addr other).trans (same addr other)⟩

/-- The settings are all written, and the oscillator runs. -/
structure Released (opts : RefclkOpts) (s s' : Si570) : Prop where
  written : s'.written = s.written ++ writtenRegs
  divider : s'.regs 13 = dividerByte opts
  split : s'.regs 14 = splitByte opts
  rfreq : ∀ i < 4, s'.regs (15 + BitVec.ofNat 8 i) = rfreqByte opts i
  thawed : (s'.regs 137).getLsbD 4 = false

theorem Released.of_same {opts : RefclkOpts} {s s₁ s₂ : Si570} (released : Released opts s s₁)
    (written : s₂.written = s₁.written)
    (same : ∀ addr, addr ≠ 135 → s₂.regs addr = s₁.regs addr) : Released opts s s₂ where
  written := written.trans released.written
  divider := (same 13 (by decide)).trans released.divider
  split := (same 14 (by decide)).trans released.split
  rfreq i small := by
    have other : (15 + BitVec.ofNat 8 i : Word8) ≠ 135 := by bv_omega
    rw [same _ other, released.rfreq i small]
  thawed := by rw [same 137 (by decide), released.thawed]

theorem released_update (opts : RefclkOpts) (s : Si570) :
    Released opts s (Refclk.releaseDCO (Refclk.writeSettings opts (Refclk.setFreezeDCO s))) := by
  rw [released_eq]
  constructor
  · simp [writeSettings_eq, Si570.write, writtenRegs]
  · simp [writeSettings_eq, Si570.write]
  · simp [writeSettings_eq, Si570.write]
  · intro i small
    interval_cases i <;> simp [writeSettings_eq, Si570.write]
  · simp [Si570.write]

theorem setFreezeDCO_eq (s : Si570) :
    Refclk.setFreezeDCO s = s.write 137 (s.regs 137 ||| freezeDco) := by
  unfold Refclk.setFreezeDCO
  rw [s.read_of_ne (by decide)]

theorem releaseDCO_eq (s : Si570) :
    Refclk.releaseDCO s = s.writeDual 137 (s.regs 137 &&& 0xef) 135 mNewfreq := by
  unfold Refclk.releaseDCO
  rw [s.read_of_ne (by decide)]

/-- Freezing, writing and releasing make ten accesses; the oscillator is frozen
from the third of them on. -/
theorem update_straight (opts : RefclkOpts) (s : Si570) :
    Straight throwing
      (do setFreezeDCO throwing; writeSettings throwing opts; releaseDCO throwing)
      ⟨s, 0⟩ 10 ()
      (Refclk.releaseDCO (Refclk.writeSettings opts (Refclk.setFreezeDCO s))) fun s' =>
        (s'.accesses < 2 → s'.device = s) ∧
          (2 ≤ s'.accesses → s'.device.regs 137 = s.regs 137 ||| freezeDco) := by
  have held : (s.write 137 (s.regs 137 ||| freezeDco)).regs 137 = s.regs 137 ||| freezeDco :=
    s.write_regs_self ..
  have freeze := setFreezeDCO_straight throwing ⟨s, 0⟩
  have settings := writeSettings_straight throwing opts
    ⟨s.write 137 (s.regs 137 ||| freezeDco), 2⟩ held
  have release := releaseDCO_straight throwing
    ⟨Refclk.writeSettings opts (s.write 137 (s.regs 137 ||| freezeDco)), 8⟩
  have heldStill : (Refclk.writeSettings opts (s.write 137 (s.regs 137 ||| freezeDco))).regs 137 =
      s.regs 137 ||| freezeDco := by
    simp [writeSettings_eq, Si570.write]
  rw [releaseDCO_eq, setFreezeDCO_eq]
  refine (freeze.mono ?_).andThen ((settings.mono ?_).andThen (release.mono ?_))
  · rintro s' - high same
    exact ⟨fun _ => same, fun low => absurd low (Nat.not_le.mpr high)⟩
  · rintro s' low - same
    exact ⟨fun high => absurd low (Nat.not_le.mpr high), fun _ => same⟩
  · rintro s' low - same
    refine ⟨fun high => ?_, fun _ => ?_⟩
    · simp only at low
      omega
    · rw [same, heldStill]

variable {throwing}

theorem writeOptsToDevice_assoc (turns : ℕ) (opts : RefclkOpts) :
    writeOptsToDevice throwing turns opts =
      (do setFreezeDCO throwing; writeSettings throwing opts; releaseDCO throwing) >>= fun _ =>
        waitForClearance throwing turns mNewfreq := by
  simp only [writeOptsToDevice, bind_assoc]

/-- How the call ends: an access among the first ten throws, or the settings
are released. -/
theorem writeOptsToDevice_ends (turns : ℕ) (opts : RefclkOpts) (s : Si570) :
    Ends (writeOptsToDevice throwing turns opts) ⟨s, 0⟩ (fun _ _ => Quiet throwing 0 10)
      fun _ s' =>
        (s'.accesses < 10 ∧ StoppedIn throwing 0 (fun s' =>
          (s'.accesses < 2 → s'.device = s) ∧
            (2 ≤ s'.accesses → s'.device.regs 137 = s.regs 137 ||| freezeDco)) s') ∨
        Quiet throwing 0 10 ∧ Released opts s s'.device := by
  rw [writeOptsToDevice_assoc]
  refine Ends.bind (Ends.mono (update_straight throwing opts s) (fun _ _ holds => holds) ?_) ?_
  · rintro _ s' ⟨high, stop⟩
    exact Or.inl ⟨by simpa using high, stop⟩
  · rintro _ _ ⟨-, rfl, quiet⟩
    refine Ends.mono (clearanceLoop_ends throwing mNewfreq turns mNewfreq _) (fun _ _ _ => quiet) ?_
    rintro _ s' ⟨written, same⟩
    exact Or.inr ⟨quiet, (released_update opts s).of_same written same⟩

/-- The loop, when no access throws. -/
theorem clearanceLoop_quiet {flag : Word8} {turns : ℕ} {reg135 word : Word8} {s s' : Si570}
    (polled : pollWhile (fun s : Si570 => s.read 135) (fun reg135 => reg135 &&& flag ≠ 0) turns
      reg135 s = .ready word s') (n : ℕ) :
    ∃ n', (clearanceLoop (fun _ => false) flag turns reg135).run.run ⟨s, n⟩ =
      (.ok true, ⟨s', n'⟩) := by
  induction turns generalizing reg135 s n with
  | zero => exact absurd polled (by simp [pollWhile])
  | succ turns ih =>
      rw [pollWhile] at polled
      unfold clearanceLoop
      by_cases clear : reg135 &&& flag = 0
      · simp only [clear, ne_eq, not_true_eq_false, decide_false, Bool.false_eq_true,
          if_false] at polled
        cases polled
        exact ⟨n, by rw [if_pos clear]; rfl⟩
      · simp only [clear, ne_eq, not_false_eq_true, decide_true, if_true] at polled
        obtain ⟨n', run⟩ := ih polled (n + 1)
        exact ⟨n', by rw [if_neg clear]; exact (run_bind_ok rfl).trans run⟩

/-- Without an exception the call does what the one without exceptions does. -/
theorem writeOptsToDevice_quiet {turns : ℕ} {opts : RefclkOpts} {s s' : Si570}
    (returned : Refclk.writeOptsToDevice turns opts s = some s') :
    ∃ n, (writeOptsToDevice (fun _ => false) (turns + 1) opts).run.run ⟨s, 0⟩ =
      (.ok true, ⟨s', n⟩) := by
  have update := (update_straight (fun _ => false) opts s).run_of_quiet fun _ _ _ => rfl
  unfold Refclk.writeOptsToDevice Refclk.waitForClearance at returned
  cases polled : poll (fun s : Si570 => s.read 135) (fun reg135 => reg135 &&& mNewfreq ≠ 0) turns
      (Refclk.releaseDCO (Refclk.writeSettings opts (Refclk.setFreezeDCO s))) with
  | timeout word s₁ =>
      rw [polled] at returned
      exact absurd returned (by simp)
  | ready word s₁ =>
      rw [polled] at returned
      cases returned
      obtain ⟨n, run⟩ := clearanceLoop_quiet polled 11
      refine ⟨n, ?_⟩
      rw [writeOptsToDevice_assoc, run_bind_ok update]
      -- the first turn reads: the local copy of register 135 starts as the flag
      exact (run_bind_ok rfl).trans run

/-- After an exception the freeze bit is what it was, or the settings are
written and released. -/
def NeverLeftFrozen (throwing : ℕ → Bool) (opts : RefclkOpts) (s : Si570) : Prop :=
  ∀ turns e s', (writeOptsToDevice throwing turns opts).run.run ⟨s, 0⟩ = (.error e, s') →
    (s'.device.regs 137).getLsbD 4 = (s.regs 137).getLsbD 4 ∨ Released opts s s'.device

/-- Accesses 2 to 9 are made with the oscillator frozen, and nothing thaws it
when one of them throws. -/
theorem neverLeftFrozen_iff (throwing : ℕ → Bool) (opts : RefclkOpts) (s : Si570) :
    NeverLeftFrozen throwing opts s ↔
      (s.regs 137).getLsbD 4 = true ∨ throwing 0 = true ∨ throwing 1 = true ∨
        ∀ k, 2 ≤ k → k < 10 → throwing k = false := by
  have frozen : (s.regs 137 ||| freezeDco).getLsbD 4 = true := by simp [freezeDco]
  constructor
  · intro safe
    by_contra otherwise
    push Not at otherwise
    obtain ⟨clear, first, second, k, low, high, throws⟩ := otherwise
    have loud : ¬ Quiet throwing 0 10 := fun quiet =>
      throws (quiet k (Nat.zero_le k) high)
    rcases writeOptsToDevice_ends 0 opts s with
      ⟨_, _, -, quiet⟩ | ⟨e, s', threw, ⟨-, -, throwsAt, -, -, late⟩ | ⟨quiet, -⟩⟩
    · exact loud quiet
    · have after : 2 ≤ s'.accesses := by
        by_contra early
        have zeroOrOne : s'.accesses = 0 ∨ s'.accesses = 1 := by omega
        rcases zeroOrOne with zero | one
        · exact first (zero ▸ throwsAt)
        · exact second (one ▸ throwsAt)
      rcases safe 0 e s' threw with kept | released
      · rw [late after, frozen] at kept
        exact clear kept.symm
      · have thawed := released.thawed
        rw [late after, frozen] at thawed
        exact absurd thawed (by decide)
    · exact loud quiet
  · intro condition turns e s' threw
    rcases (writeOptsToDevice_ends turns opts s).of_throws threw with
      ⟨high, -, throws, quiet, early, late⟩ | ⟨-, released⟩
    · left
      rcases Nat.lt_or_ge s'.accesses 2 with before | after
      · rw [early before]
      · rw [late after, frozen]
        rcases condition with set | first | second | none
        · exact set.symm
        · exact absurd (quiet 0 (Nat.zero_le 0) (by omega)) (by rw [first]; decide)
        · exact absurd (quiet 1 (Nat.zero_le 1) (by omega)) (by rw [second]; decide)
        · exact absurd (none _ after high) (by rw [throws]; decide)
    · exact Or.inr released

/-- The write of register 13 throws, and the oscillator stays frozen. -/
theorem not_neverLeftFrozen_write13 :
    ¬ NeverLeftFrozen (fun k => k == 2) ⟨4, 6, 0x2ca012474⟩ ⟨fun _ => 0, [], 2, none⟩ := by
  intro safe
  rcases safe 0 .rxack ⟨(⟨fun _ => 0, [], 2, none⟩ : Si570).write 137 0x10, 2⟩ rfl with
    kept | released
  · exact absurd kept (by decide)
  · exact absurd released.thawed (by decide)

end Refclk.OnI2c

end Librorc
