import Librorc.Clock.RefclkFault
import Librorc.Sysmon.I2cCore

/-!
# `refclk` on the I2C chains of the board

The oscillator is one device on chain 4. What `refclk` does through the registers
of the I2C master is what it does on the oscillator, with the accesses that throw;
the other devices are left alone, and their clients leave the oscillator alone.
-/

namespace Librorc

open Librorc.Lib

instance : RegDevice Word8 Word8 Si570 where
  read := Si570.read
  write := Si570.write

namespace Refclk

namespace OnBus

/-! ## The driver -/

/-- `LIBRORC_REFCLK_I2C_CHAIN`, `LIBRORC_REFCLK_I2C_SLAVE` -/
def oscillator : I2cSlave := ⟨4, 0x55⟩

def refclkRead (addr : Word8) : I2cClient Word8 := .read oscillator addr .done

def refclkWrite (addr value : Word8) : I2cClient Unit :=
  .write oscillator addr value none (.done ())

def i2cWriteMemDual (addr0 value0 addr1 value1 : Word8) : I2cClient Unit :=
  .write oscillator addr0 value0 (some (addr1, value1)) (.done ())

def setFreezeDCO : I2cClient Unit := do
  let val ← refclkRead 137
  refclkWrite 137 (val ||| freezeDco)

def releaseDCO : I2cClient Unit := do
  let freezeVal ← refclkRead 137
  i2cWriteMemDual 137 (freezeVal &&& 0xef) 135 mNewfreq

/-- The loop, entered with `reg135`. `false` is a loop that is still running
after `turns` reads. -/
def clearanceLoop (flag : Word8) : ℕ → Word8 → I2cClient Bool
  | 0, reg135 => pure (reg135 &&& flag == 0)
  | turns + 1, reg135 =>
      if reg135 &&& flag = 0 then pure true
      else do
        let reg135 ← refclkRead 135
        clearanceLoop flag turns reg135

def waitForClearance (turns : ℕ) (flag : Word8) : I2cClient Bool := clearanceLoop flag turns flag

def writeSettings (opts : RefclkOpts) : I2cClient Unit := do
  refclkWrite 13 (dividerByte opts)
  refclkWrite 14 (splitByte opts)
  (List.range 4).forM fun i => refclkWrite (15 + BitVec.ofNat 8 i) (rfreqByte opts i)

/-- Without the frequency that is stored in the firmware at the end. -/
def writeOptsToDevice (turns : ℕ) (opts : RefclkOpts) : I2cClient Bool := do
  setFreezeDCO
  writeSettings opts
  releaseDCO
  waitForClearance turns mNewfreq

def getCurrentOpts : I2cClient RefclkOpts := do
  let value ← refclkRead 13
  let hsDiv := hsdivReg2val (((value >>> 5) &&& 0x07).setWidth 32)
  let n1 := (value &&& 0x1f).setWidth 32 <<< 2
  let value ← refclkRead 14
  let n1 := n1 + ((value >>> 6) &&& 0x03).setWidth 32
  let rfreqInt := (value &&& 0x3f).setWidth 64 <<< 32
  let rfreqInt ← (List.range 4).foldlM (fun r i => do
    let value ← refclkRead (BitVec.ofNat 8 i + 15)
    pure (r ||| value.setWidth 64 <<< ((3 - i) * 8))) rfreqInt
  pure ⟨hsDiv, n1Reg2val n1, rfreqInt⟩

/-! ## On the oscillator -/

/-- Reading the settings back is the same on either. -/
theorem exec_getCurrentOpts (s : Si570) : getCurrentOpts.exec s = Refclk.getCurrentOpts s := rfl

section OnDevice

variable (throwing : ℕ → Bool)

theorem runOn_refclkRead (addr : Word8) :
    (refclkRead addr).runOn throwing I2cError.rxack = OnI2c.refclkRead throwing addr :=
  bind_pure _

theorem runOn_refclkWrite (addr value : Word8) :
    (refclkWrite addr value).runOn throwing I2cError.rxack =
      OnI2c.refclkWrite throwing addr value :=
  bind_pure _

theorem runOn_i2cWriteMemDual (addr0 value0 addr1 value1 : Word8) :
    (i2cWriteMemDual addr0 value0 addr1 value1).runOn throwing I2cError.rxack =
      OnI2c.i2cWriteMemDual throwing addr0 value0 addr1 value1 :=
  bind_pure _

theorem runOn_clearanceLoop (flag : Word8) (turns : ℕ) (reg135 : Word8) :
    (clearanceLoop flag turns reg135).runOn throwing I2cError.rxack =
      OnI2c.clearanceLoop throwing flag turns reg135 := by
  induction turns generalizing reg135 with
  | zero => rfl
  | succ turns ih =>
      unfold clearanceLoop OnI2c.clearanceLoop
      split_ifs
      · rfl
      · rw [BusClient.runOn_bind, runOn_refclkRead]
        exact congrArg _ (funext ih)

theorem runOn_writeOptsToDevice (turns : ℕ) (opts : RefclkOpts) :
    (writeOptsToDevice turns opts).runOn throwing I2cError.rxack =
      OnI2c.writeOptsToDevice throwing turns opts := by
  have freeze : setFreezeDCO.runOn throwing I2cError.rxack = OnI2c.setFreezeDCO throwing := by
    rw [setFreezeDCO, BusClient.runOn_bind, runOn_refclkRead]
    exact congrArg _ (funext fun _ => runOn_refclkWrite ..)
  have settings : (writeSettings opts).runOn throwing I2cError.rxack =
      OnI2c.writeSettings throwing opts := by
    simp only [writeSettings, OnI2c.writeSettings, BusClient.runOn_bind, BusClient.runOn_forM,
      runOn_refclkWrite]
  have release : releaseDCO.runOn throwing I2cError.rxack = OnI2c.releaseDCO throwing := by
    rw [releaseDCO, BusClient.runOn_bind, runOn_refclkRead]
    exact congrArg _ (funext fun _ => runOn_i2cWriteMemDual ..)
  simp only [writeOptsToDevice, OnI2c.writeOptsToDevice, BusClient.runOn_bind, freeze, settings,
    release, waitForClearance, OnI2c.waitForClearance, runOn_clearanceLoop]

end OnDevice

/-! ## On the board -/

theorem addresses_clearanceLoop (flag : Word8) (turns : ℕ) (reg135 : Word8) :
    (clearanceLoop flag turns reg135).Addresses (· = oscillator) := by
  induction turns generalizing reg135 with
  | zero => trivial
  | succ turns ih =>
      unfold clearanceLoop
      split_ifs
      · trivial
      · exact ⟨rfl, ih⟩

theorem addresses_writeOptsToDevice (turns : ℕ) (opts : RefclkOpts) :
    (writeOptsToDevice turns opts).Addresses (· = oscillator) := by
  have settings : (writeSettings opts).Addresses (· = oscillator) :=
    ⟨rfl, rfl, rfl, rfl, rfl, rfl, trivial⟩
  refine BusClient.addresses_bind ⟨rfl, fun _ => ⟨rfl, trivial⟩⟩ fun _ => ?_
  refine BusClient.addresses_bind settings fun _ => ?_
  refine BusClient.addresses_bind ⟨rfl, fun _ => ⟨rfl, trivial⟩⟩ fun _ => ?_
  exact addresses_clearanceLoop mNewfreq turns mNewfreq

theorem addresses_getCurrentOpts : getCurrentOpts.Addresses (· = oscillator) :=
  ⟨rfl, fun _ => ⟨rfl, fun _ => ⟨rfl, fun _ => ⟨rfl, fun _ => ⟨rfl, fun _ => ⟨rfl, fun _ =>
    trivial⟩⟩⟩⟩⟩⟩

theorem oscillator_valid : ¬5 < oscillator.chain := by decide

/-- The six bytes that the oscillator is given are read back when it has settled. -/
theorem writeOptsToDevice_settles {opts : RefclkOpts} (valid : opts.Valid) {s : Si570} {turns : ℕ}
    (enough : s.settle < turns) :
    ∃ s', Refclk.writeOptsToDevice turns opts s = some s' ∧
      Refclk.getCurrentOpts s' = (opts, s') := by
  have released := released_eq opts s
  refine ⟨_, waitForClearance_newfreq ?_ ?_ enough, ?_⟩
  · rw [released]
    exact Si570.write_regs_self ..
  · rw [released]
    rfl
  · rw [released]
    refine getCurrentOpts_of_settings valid ?_ ?_ ?_ ?_ ?_ ?_ <;>
      simp [writeSettings_eq, Si570.write, Si570.settled]

section Board

variable {δ α : Type} [RegDevice Word8 Word8 δ] {core : I2cCore (Si570 ⊕ δ)} {s : Si570}

/-- A client of the oscillator, on the board. -/
theorem session_of_oscillator (session : I2cSession α)
    (only : session.client.Addresses (· = oscillator))
    (found : core.devices oscillator.select = .inl s) :
    let alone := (session.client.runOn (session.answers.throwing oscillator)
      I2cError.rxack).run.run ⟨s, 0⟩
    (session.run core).1 = alone.1.mapError (fun _ => .i2cRxack) ∧
      (session.run core).2.devices oscillator.select = .inl alone.2.device ∧
      ∀ i : I2cSlave, ¬5 < i.chain → i ≠ oscillator →
        (session.run core).2.devices i.select = core.devices i.select := by
  obtain ⟨result, device, others⟩ := session.run_of_addresses oscillator_valid only core
  have error : oscillator.error = .i2cRxack := rfl
  have mapped : (session.client.runOn (session.answers.throwing oscillator)
      SysmonError.i2cRxack).run.run ⟨s, 0⟩ = _ :=
    BusClient.runOn_mapError _ (fun _ : I2cError => SysmonError.i2cRxack) .rxack _ _
  rw [found, BusClient.runOn_inl, error, mapped] at result device
  exact ⟨result, device, others⟩

end Board

end OnBus

/-- **The oscillator on the board.** However the devices answer, through the
registers of the I2C master `writeOptsToDevice` ends as it does on the oscillator
alone when the same accesses throw, leaves the oscillator as it does there, and
no other device is changed. -/
theorem writeOptsToDevice_over_i2c {δ : Type} [RegDevice Word8 Word8 δ]
    {core : I2cCore (Si570 ⊕ δ)} {s : Si570}
    (found : core.devices OnBus.oscillator.select = .inl s) (sysmon : Sysmon)
    (answers : I2cAnswers) (turns : ℕ) (opts : RefclkOpts) :
    let session : I2cSession Bool := ⟨sysmon, answers, OnBus.writeOptsToDevice turns opts⟩
    let alone := (OnI2c.writeOptsToDevice (answers.throwing OnBus.oscillator) turns opts).run.run
      ⟨s, 0⟩
    (session.run core).1 = alone.1.mapError (fun _ => .i2cRxack) ∧
      (session.run core).2.devices OnBus.oscillator.select = .inl alone.2.device ∧
      ∀ i : I2cSlave, ¬5 < i.chain → i ≠ OnBus.oscillator →
        (session.run core).2.devices i.select = core.devices i.select := by
  rw [← OnBus.runOn_writeOptsToDevice]
  exact OnBus.session_of_oscillator ⟨sysmon, answers, OnBus.writeOptsToDevice turns opts⟩
    (OnBus.addresses_writeOptsToDevice turns opts) found

/-- A board with memories for the other devices. -/
def clockCore : I2cCore (Si570 ⊕ (Word8 → Word8)) where
  devices i := if i = OnBus.oscillator.select then .inl someSi570 else .inr fun _ => 0
  accesses := 0
  operation := 0
  flags := 0
  pending := 0

theorem clockCore_oscillator :
    clockCore.devices OnBus.oscillator.select = .inl someSi570 := by
  simp [clockCore]

/-- The access after four others is not acknowledged. -/
def fifthAccessFails : I2cAnswers := ⟨fun _ k => if k = 4 then 2 else 0, fun k => k⟩

theorem writeOptsToDevice_over_i2c_fifthAccess :
    let sysmon : Sysmon := ⟨1, by decide⟩
    let session : I2cSession Bool :=
      ⟨sysmon, fifthAccessFails, OnBus.writeOptsToDevice 4 refclkDefault⟩
    let alone := (OnI2c.writeOptsToDevice (fifthAccessFails.throwing OnBus.oscillator) 4
      refclkDefault).run.run ⟨someSi570, 0⟩
    (session.run clockCore).1 = alone.1.mapError (fun _ => .i2cRxack) ∧
      (session.run clockCore).2.devices OnBus.oscillator.select = .inl alone.2.device ∧
      ∀ i : I2cSlave, ¬5 < i.chain → i ≠ OnBus.oscillator →
        (session.run clockCore).2.devices i.select = clockCore.devices i.select :=
  writeOptsToDevice_over_i2c clockCore_oscillator _ _ _ _

/-- **Settings over I2C.** Settings that were written to an oscillator that
acknowledges are read back, whatever clients of the other devices have done in
between, with whatever exceptions. -/
theorem refclk_roundtrip_over_i2c {δ β : Type} [RegDevice Word8 Word8 δ] {opts : RefclkOpts}
    (valid : opts.Valid) {core : I2cCore (Si570 ⊕ δ)} {s : Si570}
    (found : core.devices OnBus.oscillator.select = .inl s) {turns : ℕ} (enough : s.settle < turns)
    (sysmon sysmon' : Sysmon) {answers answers' : I2cAnswers}
    (quiet : ∀ k, answers.flags OnBus.oscillator.select k = 0)
    (quiet' : ∀ k, answers'.flags OnBus.oscillator.select k = 0)
    {between : List (I2cSession β)}
    (apart : ∀ session ∈ between, session.client.Addresses (· ≠ OnBus.oscillator)) :
    let write : I2cSession Bool := ⟨sysmon, answers, OnBus.writeOptsToDevice (turns + 1) opts⟩
    let read : I2cSession RefclkOpts := ⟨sysmon', answers', OnBus.getCurrentOpts⟩
    (write.run core).1 = .ok true ∧
      (read.run (callAll I2cSession.run between (write.run core).2).2).1 = .ok opts := by
  intro write read
  have silent {answers : I2cAnswers} (quiet : ∀ k, answers.flags OnBus.oscillator.select k = 0) :
      answers.throwing OnBus.oscillator = fun _ => false := by
    funext k
    rw [Bool.eq_false_iff, Ne, I2cAnswers.throwing_iff, not_or, not_not]
    exact ⟨OnBus.oscillator_valid, quiet k⟩
  obtain ⟨s', settled, readsBack⟩ := OnBus.writeOptsToDevice_settles valid enough
  obtain ⟨n, run⟩ := OnI2c.writeOptsToDevice_quiet settled
  have written := OnBus.session_of_oscillator write
    (OnBus.addresses_writeOptsToDevice (turns + 1) opts) found
  rw [OnBus.runOn_writeOptsToDevice, silent quiet, run] at written
  obtain ⟨result, device, -⟩ := written
  refine ⟨result, ?_⟩
  -- no session in between addresses the oscillator, which stays as it has settled
  have kept : (callAll I2cSession.run between (write.run core).2).2.devices
      OnBus.oscillator.select = .inl s' := by
    refine callAll_keeps (fun core : I2cCore (Si570 ⊕ δ) =>
      core.devices OnBus.oscillator.select = .inl s') (fun session mem core held => ?_) device
    exact (session.run_device_of_addresses (apart session mem) OnBus.oscillator_valid
      (not_not_intro rfl) core).trans held
  obtain ⟨result', -, -⟩ := OnBus.session_of_oscillator read OnBus.addresses_getCurrentOpts kept
  obtain ⟨n', exec⟩ := BusClient.runOn_quiet (fun _ => rfl) I2cError.rxack OnBus.getCurrentOpts
    ⟨s', 0⟩
  rw [silent quiet', exec, OnBus.exec_getCurrentOpts, readsBack] at result'
  exact result'

/-- In between the first chain is tried, with and without success. -/
theorem refclk_roundtrip_over_i2c_default :
    let sysmon : Sysmon := ⟨0, by decide⟩
    let answers : I2cAnswers := ⟨fun _ _ => 0, fun k => k⟩
    let between : List (I2cSession Word8) :=
      [⟨sysmon, firstChainSilent, .read ⟨0, 0x50⟩ 127 .done⟩,
        ⟨sysmon, answers, .write ⟨0, 0x50⟩ 127 0 none (.read ⟨0, 0x50⟩ 148 .done)⟩]
    let write : I2cSession Bool := ⟨sysmon, answers, OnBus.writeOptsToDevice 4 refclkDefault⟩
    let read : I2cSession RefclkOpts := ⟨sysmon, answers, OnBus.getCurrentOpts⟩
    (write.run clockCore).1 = .ok true ∧
      (read.run (callAll I2cSession.run between (write.run clockCore).2).2).1 =
        .ok refclkDefault := by
  intro sysmon answers between
  have apart : ∀ session ∈ between, session.client.Addresses (· ≠ OnBus.oscillator) := by
    intro session mem
    rcases List.mem_cons.mp mem with rfl | mem
    · exact ⟨by decide, fun _ => trivial⟩
    · rw [List.mem_singleton.mp mem]
      exact ⟨by decide, by decide, fun _ => trivial⟩
  exact refclk_roundtrip_over_i2c ⟨by decide, by decide, by decide, by decide⟩
    clockCore_oscillator (show 2 < 3 by omega) sysmon sysmon (fun _ => rfl) (fun _ => rfl) apart

end Refclk

end Librorc
