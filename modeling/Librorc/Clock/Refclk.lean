import Librorc.Dma.Device
import Librorc.Lib.BitField
import Librorc.Lib.Poll
import Mathlib.Logic.Function.Basic
import Mathlib.Tactic.IntervalCases
import Mathlib.Tactic.Ring

/-!
# `refclk`: the registers of the Si570

`writeOptsToDevice` packs the divider settings into registers 13 to 18 while
the oscillator is frozen; `getCurrentOpts` unpacks them. What is computed in
floating point from the settings is left out.
-/

namespace Librorc

open Librorc.Lib

/-- `M_NEWFREQ`, in register 135. -/
def mNewfreq : Word8 := 1#8 <<< 6

/-- `FREEZE_DCO`, in register 137. -/
def freezeDco : Word8 := 1#8 <<< 4

/-- The integer settings of `refclkopts`. -/
structure RefclkOpts where
  hsDiv : Word32
  n1 : Word32
  rfreqInt : Word64
deriving DecidableEq

/-! ## The oscillator -/

/-- An oscillator that stores what is written, and clears NewFreq by itself:
`pending` is the number of reads of register 135 that will still find it set,
and `settle` what that number is when NewFreq is written. `written` lists the
registers written so far. -/
structure Si570 where
  regs : Word8 → Word8
  written : List Word8
  settle : Nat
  pending : Option Nat

namespace Si570

/-- `i2c_write_mem`. -/
def write (s : Si570) (addr value : Word8) : Si570 :=
  { s with
    regs := Function.update s.regs addr value
    written := s.written ++ [addr]
    pending :=
      if addr = 135 then if value &&& mNewfreq ≠ 0 then some s.settle else none
      else s.pending }

/-- `i2c_read_mem`. -/
def read (s : Si570) (addr : Word8) : Word8 × Si570 :=
  if addr = 135 then
    match s.pending with
    | none => (s.regs 135, s)
    | some 0 =>
        let cleared := s.regs 135 &&& ~~~mNewfreq
        (cleared, { s with regs := Function.update s.regs 135 cleared, pending := none })
    | some (k + 1) => (s.regs 135, { s with pending := some k })
  else (s.regs addr, s)

/-- `i2c_write_mem_dual`. -/
def writeDual (s : Si570) (addr0 value0 addr1 value1 : Word8) : Si570 :=
  (s.write addr0 value0).write addr1 value1

end Si570

/-! ## The driver -/

namespace Refclk

def hsdivReg2val (hsReg : Word32) : Word32 := hsReg + 4
def hsdivVal2reg (hsVal : Word32) : Word32 := hsVal - 4
def n1Reg2val (n1Reg : Word32) : Word32 := n1Reg + 1
def n1Val2reg (n1Val : Word32) : Word32 := n1Val - 1

def setFreezeDCO (s : Si570) : Si570 :=
  let (val, s) := s.read 137
  s.write 137 (val ||| freezeDco)

def releaseDCO (s : Si570) : Si570 :=
  let (freezeVal, s) := s.read 137
  s.writeDual 137 (freezeVal &&& 0xef) 135 mNewfreq

/-- At most `turns` reads. -/
def waitForClearance (turns : Nat) (flag : Word8) (s : Si570) : Option Si570 :=
  match poll (fun s : Si570 => s.read 135) (fun reg135 => reg135 &&& flag ≠ 0) turns s with
  | .ready _ s => some s
  | .timeout _ _ => none

/-- Register 13: HS_DIV[2:0], N1[6:2]. -/
def dividerByte (opts : RefclkOpts) : Word8 :=
  ((hsdivVal2reg opts.hsDiv <<< 5) ||| (n1Val2reg opts.n1).sshiftRight 2).setWidth 8

/-- Register 14: N1[1:0], RFREQ[37:32]. -/
def splitByte (opts : RefclkOpts) : Word8 :=
  ((((n1Val2reg opts.n1 &&& 0x03) <<< 6).signExtend 64) ||| (opts.rfreqInt >>> 32)).setWidth 8

/-- Registers 15 to 18: RFREQ[31:0]. -/
def rfreqByte (opts : RefclkOpts) (i : Nat) : Word8 :=
  ((opts.rfreqInt >>> ((3 - i) * 8)) &&& 0xff).setWidth 8

/-- The registers that hold the settings. -/
def writeSettings (opts : RefclkOpts) (s : Si570) : Si570 :=
  let s := s.write 13 (dividerByte opts)
  let s := s.write 14 (splitByte opts)
  (List.range 4).foldl (fun s i => s.write (15 + BitVec.ofNat 8 i) (rfreqByte opts i)) s

/-- `turns` bounds the reads of the last loop. The frequency that is stored in
the firmware at the end is left out. -/
def writeOptsToDevice (turns : Nat) (opts : RefclkOpts) (s : Si570) : Option Si570 :=
  waitForClearance turns mNewfreq (releaseDCO (writeSettings opts (setFreezeDCO s)))

def getCurrentOpts (s : Si570) : RefclkOpts × Si570 :=
  let (value, s) := s.read 13
  let hsDiv := hsdivReg2val (((value >>> 5) &&& 0x07).setWidth 32)
  let n1 := (value &&& 0x1f).setWidth 32 <<< 2
  let (value, s) := s.read 14
  let n1 := n1 + ((value >>> 6) &&& 0x03).setWidth 32
  let rfreqInt := (value &&& 0x3f).setWidth 64 <<< 32
  let (rfreqInt, s) := (List.range 4).foldl (fun (r, s) i =>
    let (value, s) := s.read (BitVec.ofNat 8 i + 15)
    (r ||| value.setWidth 64 <<< ((3 - i) * 8), s)) (rfreqInt, s)
  (⟨hsDiv, n1Reg2val n1, rfreqInt⟩, s)

end Refclk

/-- Settings the oscillator knows. -/
def RefclkOpts.Valid (opts : RefclkOpts) : Prop :=
  opts.hsDiv.toNat ∈ [4, 5, 6, 7, 9, 11] ∧ 1 ≤ opts.n1.toNat ∧ opts.n1.toNat ≤ 128 ∧
    opts.rfreqInt.toNat < 2 ^ 38

/-! ## What the bytes hold -/

namespace RefclkOpts

variable {opts : RefclkOpts}

namespace Valid

theorem hsReg_toNat (valid : opts.Valid) :
    (Refclk.hsdivVal2reg opts.hsDiv).toNat = opts.hsDiv.toNat - 4 ∧
      opts.hsDiv.toNat - 4 < 8 ∧ 4 ≤ opts.hsDiv.toNat := by
  have known := valid.1
  simp only [List.mem_cons, List.not_mem_nil, or_false] at known
  unfold Refclk.hsdivVal2reg
  refine ⟨?_, by omega, by omega⟩
  bv_omega

theorem n1Reg_toNat (valid : opts.Valid) :
    (Refclk.n1Val2reg opts.n1).toNat = opts.n1.toNat - 1 ∧ opts.n1.toNat - 1 < 128 := by
  obtain ⟨-, low, high, -⟩ := valid
  unfold Refclk.n1Val2reg
  refine ⟨?_, by omega⟩
  bv_omega

theorem dividerByte_toNat (valid : opts.Valid) :
    (Refclk.dividerByte opts).toNat =
      (opts.hsDiv.toNat - 4) * 32 + (opts.n1.toNat - 1) / 4 := by
  obtain ⟨hs, hsSmall, -⟩ := valid.hsReg_toNat
  obtain ⟨n1, n1Small⟩ := valid.n1Reg_toNat
  have positive : (Refclk.n1Val2reg opts.n1).msb = false :=
    BitVec.msb_eq_false_iff_two_mul_lt.mpr (by omega)
  have shifted : (Refclk.n1Val2reg opts.n1 >>> 2).toNat = (opts.n1.toNat - 1) / 4 := by
    rw [BitVec.toNat_ushiftRight, n1, Nat.shiftRight_eq_div_pow]
  unfold Refclk.dividerByte
  rw [BitVec.toNat_setWidth, BitVec.sshiftRight_eq_of_msb_false positive,
    toNat_shiftLeft_or (by omega) (by omega), hs, shifted]
  omega

theorem splitByte_toNat (valid : opts.Valid) :
    (Refclk.splitByte opts).toNat =
      (opts.n1.toNat - 1) % 4 * 64 + opts.rfreqInt.toNat / 2 ^ 32 := by
  obtain ⟨n1, n1Small⟩ := valid.n1Reg_toNat
  obtain ⟨-, -, -, rfreqSmall⟩ := valid
  have low : (Refclk.n1Val2reg opts.n1 &&& 0x03).toNat = (opts.n1.toNat - 1) % 2 ^ 2 := by
    rw [← n1]
    exact @toNat_and_low 32 _ 2 (by omega)
  have moved : ((Refclk.n1Val2reg opts.n1 &&& 0x03) <<< 6).toNat =
      (opts.n1.toNat - 1) % 4 * 64 := by
    rw [BitVec.toNat_shiftLeft, low, Nat.shiftLeft_eq]
    omega
  have positive : ((Refclk.n1Val2reg opts.n1 &&& 0x03) <<< 6).msb = false :=
    BitVec.msb_eq_false_iff_two_mul_lt.mpr (by omega)
  have wide : (((Refclk.n1Val2reg opts.n1 &&& 0x03) <<< 6).setWidth 64 : Word64).toNat =
      (opts.n1.toNat - 1) % 4 * 64 := by
    rw [BitVec.toNat_setWidth, moved]
    omega
  have high : (opts.rfreqInt >>> 32).toNat = opts.rfreqInt.toNat / 2 ^ 32 := by
    rw [BitVec.toNat_ushiftRight, Nat.shiftRight_eq_div_pow]
  have zeros : 2 ^ 6 ∣
      (((Refclk.n1Val2reg opts.n1 &&& 0x03) <<< 6).setWidth 64 : Word64).toNat := by
    rw [wide]
    exact Nat.dvd_mul_left ..
  unfold Refclk.splitByte
  rw [BitVec.toNat_setWidth, BitVec.signExtend_eq_setWidth_of_msb_false positive,
    toNat_or_of_dvd zeros (by omega), wide, high]
  omega

end Valid

theorem rfreqByte_toNat (opts : RefclkOpts) (i : Nat) :
    (Refclk.rfreqByte opts i).toNat = opts.rfreqInt.toNat / 2 ^ ((3 - i) * 8) % 2 ^ 8 := by
  have field : ((opts.rfreqInt >>> ((3 - i) * 8)) &&& 0xff).toNat =
      opts.rfreqInt.toNat / 2 ^ ((3 - i) * 8) % 2 ^ 8 :=
    @toNat_field 64 opts.rfreqInt _ 8 (by omega)
  unfold Refclk.rfreqByte
  rw [BitVec.toNat_setWidth, field, Nat.mod_mod]

end RefclkOpts

/-! ## Reading back -/

namespace Si570

/-- The oscillator when it has cleared NewFreq. -/
def settled (s : Si570) : Si570 :=
  { s with regs := Function.update s.regs 135 0, pending := none }

theorem write_regs_self (s : Si570) (addr value : Word8) : (s.write addr value).regs addr = value :=
  Function.update_self ..

theorem read_of_ne (s : Si570) {addr : Word8} (other : addr ≠ 135) :
    s.read addr = (s.regs addr, s) :=
  if_neg other

end Si570

namespace Refclk

/-- The settings are read from registers 13 to 18. -/
theorem getCurrentOpts_eq (s : Si570) :
    getCurrentOpts s =
      (⟨hsdivReg2val (((s.regs 13 >>> 5) &&& 0x07).setWidth 32),
        n1Reg2val (((s.regs 13 &&& 0x1f).setWidth 32 <<< 2) +
          ((s.regs 14 >>> 6) &&& 0x03).setWidth 32),
        ((s.regs 14 &&& 0x3f).setWidth 64 <<< 32) ||| ((s.regs 15).setWidth 64 <<< 24) |||
          ((s.regs 16).setWidth 64 <<< 16) ||| ((s.regs 17).setWidth 64 <<< 8) |||
            ((s.regs 18).setWidth 64 <<< 0)⟩, s) := by
  have all : List.range 4 = [0, 1, 2, 3] := rfl
  unfold getCurrentOpts
  rw [s.read_of_ne (show (13 : Word8) ≠ 135 by decide)]
  simp only [s.read_of_ne (show (14 : Word8) ≠ 135 by decide), all, List.foldl_cons,
    List.foldl_nil, s.read_of_ne (show BitVec.ofNat 8 0 + 15 ≠ (135 : Word8) by decide),
    s.read_of_ne (show BitVec.ofNat 8 1 + 15 ≠ (135 : Word8) by decide),
    s.read_of_ne (show BitVec.ofNat 8 2 + 15 ≠ (135 : Word8) by decide),
    s.read_of_ne (show BitVec.ofNat 8 3 + 15 ≠ (135 : Word8) by decide)]
  rfl

/-- A byte of RFREQ in its place. -/
theorem placed_toNat (b : Word8) {place : Nat} (fits : place ≤ 32) :
    (b.setWidth 64 <<< place : Word64).toNat = b.toNat * 2 ^ place := by
  have byte := b.isLt
  have bound : 2 ^ place ≤ 2 ^ 32 := Nat.pow_le_pow_right (by omega) fits
  have product : b.toNat * 2 ^ place < 2 ^ 8 * 2 ^ 32 :=
    Nat.mul_lt_mul_of_lt_of_le byte bound (by omega)
  have same : b.toNat % 2 ^ 64 = b.toNat := Nat.mod_eq_of_lt (by omega)
  rw [BitVec.toNat_shiftLeft, BitVec.toNat_setWidth, Nat.shiftLeft_eq, same]
  exact Nat.mod_eq_of_lt (by omega)

/-- The next byte of a number, behind those above it. -/
theorem or_placed_toNat {x : Word64} {b : Word8} {r place : Nat} (fits : place ≤ 32)
    (above : x.toNat = r / 2 ^ (place + 8) * 2 ^ (place + 8))
    (next : b.toNat = r / 2 ^ place % 2 ^ 8) :
    (x ||| (b.setWidth 64 <<< place)).toNat = r / 2 ^ place * 2 ^ place := by
  have value := placed_toNat b fits
  have small : (b.setWidth 64 <<< place : Word64).toNat < 2 ^ (place + 8) := by
    rw [value, Nat.pow_add, Nat.mul_comm]
    exact Nat.mul_lt_mul_of_pos_left b.isLt (Nat.pow_pos (by omega))
  rw [toNat_or_of_dvd (above ▸ Nat.dvd_mul_left ..) small, value, above, next, Nat.pow_add,
    ← Nat.div_div_eq_div_mul]
  have split := Nat.div_add_mod (r / 2 ^ place) (2 ^ 8)
  calc r / 2 ^ place / 2 ^ 8 * (2 ^ place * 2 ^ 8) + r / 2 ^ place % 2 ^ 8 * 2 ^ place
      = (2 ^ 8 * (r / 2 ^ place / 2 ^ 8) + r / 2 ^ place % 2 ^ 8) * 2 ^ place := by ring
    _ = r / 2 ^ place * 2 ^ place := by rw [split]

theorem hsDiv_read {opts : RefclkOpts} (valid : opts.Valid) :
    ((dividerByte opts >>> 5) &&& 0x07).setWidth 32 = hsdivVal2reg opts.hsDiv := by
  obtain ⟨hs, hsSmall, -⟩ := valid.hsReg_toNat
  obtain ⟨-, n1Small⟩ := valid.n1Reg_toNat
  refine setWidth_field_eq 5 3 (by omega) ?_
  rw [valid.dividerByte_toNat, hs]
  omega

/-- Both parts of N1 are put together again. -/
theorem n1_read {opts : RefclkOpts} (valid : opts.Valid) :
    ((dividerByte opts &&& 0x1f).setWidth 32 <<< 2) +
      ((splitByte opts >>> 6) &&& 0x03).setWidth 32 = n1Val2reg opts.n1 := by
  obtain ⟨-, hsSmall, -⟩ := valid.hsReg_toNat
  obtain ⟨n1, n1Small⟩ := valid.n1Reg_toNat
  have rfreqSmall : opts.rfreqInt.toNat < 2 ^ 38 := valid.2.2.2
  have upper : ((dividerByte opts &&& 0x1f).setWidth 32 : Word32).toNat =
      (opts.n1.toNat - 1) / 4 := by
    have low : (dividerByte opts &&& 0x1f).toNat = (dividerByte opts).toNat % 2 ^ 5 :=
      @toNat_and_low 8 _ 5 (by omega)
    rw [BitVec.toNat_setWidth, low, valid.dividerByte_toNat]
    omega
  have lower : (((splitByte opts >>> 6) &&& 0x03).setWidth 32 : Word32).toNat =
      (opts.n1.toNat - 1) % 4 := by
    have field : ((splitByte opts >>> 6) &&& 0x03).toNat = (splitByte opts).toNat / 2 ^ 6 % 2 ^ 2 :=
      @toNat_field 8 _ 6 2 (by omega)
    rw [BitVec.toNat_setWidth, field, valid.splitByte_toNat]
    omega
  apply BitVec.eq_of_toNat_eq
  rw [BitVec.toNat_add, BitVec.toNat_shiftLeft, upper, lower, n1, Nat.shiftLeft_eq]
  omega

/-- The five parts of RFREQ are put together again. -/
theorem rfreq_read {opts : RefclkOpts} (valid : opts.Valid) :
    ((splitByte opts &&& 0x3f).setWidth 64 <<< 32) |||
      ((rfreqByte opts 0).setWidth 64 <<< 24) ||| ((rfreqByte opts 1).setWidth 64 <<< 16) |||
        ((rfreqByte opts 2).setWidth 64 <<< 8) ||| ((rfreqByte opts 3).setWidth 64 <<< 0) =
          opts.rfreqInt := by
  obtain ⟨-, n1Small⟩ := valid.n1Reg_toNat
  have rfreqSmall : opts.rfreqInt.toNat < 2 ^ 38 := valid.2.2.2
  have top : ((splitByte opts &&& 0x3f).setWidth 64 <<< 32 : Word64).toNat =
      opts.rfreqInt.toNat / 2 ^ 32 * 2 ^ 32 := by
    have low : (splitByte opts &&& 0x3f).toNat = (splitByte opts).toNat % 2 ^ 6 :=
      @toNat_and_low 8 _ 6 (by omega)
    rw [placed_toNat _ (by omega), low, valid.splitByte_toNat]
    omega
  -- each byte goes behind those above it
  have first := or_placed_toNat (show 24 ≤ 32 by omega) top (opts.rfreqByte_toNat 0)
  have second := or_placed_toNat (show 16 ≤ 32 by omega) first (opts.rfreqByte_toNat 1)
  have third := or_placed_toNat (show 8 ≤ 32 by omega) second (opts.rfreqByte_toNat 2)
  have fourth := or_placed_toNat (show 0 ≤ 32 by omega) third (opts.rfreqByte_toNat 3)
  apply BitVec.eq_of_toNat_eq
  rw [fourth, Nat.pow_zero, Nat.div_one, Nat.mul_one]

/-- The six bytes that `writeSettings` writes are read back as the settings. -/
theorem getCurrentOpts_of_settings {opts : RefclkOpts} (valid : opts.Valid) {s : Si570}
    (divider : s.regs 13 = dividerByte opts) (split : s.regs 14 = splitByte opts)
    (b0 : s.regs 15 = rfreqByte opts 0) (b1 : s.regs 16 = rfreqByte opts 1)
    (b2 : s.regs 17 = rfreqByte opts 2) (b3 : s.regs 18 = rfreqByte opts 3) :
    getCurrentOpts s = (opts, s) := by
  rw [getCurrentOpts_eq, divider, split, b0, b1, b2, b3, hsDiv_read valid, n1_read valid,
    rfreq_read valid]
  unfold hsdivReg2val hsdivVal2reg n1Reg2val n1Val2reg
  rw [BitVec.sub_add_cancel, BitVec.sub_add_cancel]

/-! ## Writing -/

/-- The loop ends with the first read that finds NewFreq cleared. -/
theorem waitForClearance_newfreq {turns k : Nat} {s : Si570} (flag : s.regs 135 = mNewfreq)
    (pending : s.pending = some k) (enough : k < turns) :
    waitForClearance turns mNewfreq s = some s.settled := by
  have waits (k : Nat) : ({ s with pending := some (k + 1) } : Si570).read 135 =
      (mNewfreq, { s with pending := some k }) := by
    show (s.regs 135, _) = _
    rw [flag]
  have clears : ({ s with pending := some 0 } : Si570).read 135 = (0, s.settled) := by
    have cleared : s.regs 135 &&& ~~~mNewfreq = 0 := by
      rw [flag]
      decide
    show (s.regs 135 &&& ~~~mNewfreq, ({ s with
      regs := Function.update s.regs 135 (s.regs 135 &&& ~~~mNewfreq)
      pending := none } : Si570)) = _
    rw [cleared]
    rfl
  have polled : poll (fun s : Si570 => s.read 135) (fun reg135 => reg135 &&& mNewfreq ≠ 0) turns
      { s with pending := some k } = .ready 0 s.settled :=
    poll_countdown (fun k => { s with pending := some k }) waits (by decide) clears (by decide)
      enough
  unfold waitForClearance
  rw [← pending] at polled
  rw [polled]

/-- All registers are written before the oscillator is released. -/
theorem writeSettings_eq (opts : RefclkOpts) (s : Si570) :
    writeSettings opts s =
      (((((s.write 13 (dividerByte opts)).write 14 (splitByte opts)).write 15
        (rfreqByte opts 0)).write 16 (rfreqByte opts 1)).write 17 (rfreqByte opts 2)).write 18
          (rfreqByte opts 3) := rfl

/-- The registers that `writeOptsToDevice` writes, in order. -/
def writtenRegs : List Word8 := [137, 13, 14, 15, 16, 17, 18, 137, 135]

/-- The oscillator with new settings, when NewFreq has been written. -/
theorem released_eq (opts : RefclkOpts) (s : Si570) :
    releaseDCO (writeSettings opts (setFreezeDCO s)) =
      ((writeSettings opts (s.write 137 (s.regs 137 ||| freezeDco))).write 137
        ((s.regs 137 ||| freezeDco) &&& 0xef)).write 135 mNewfreq := by
  have frozen : setFreezeDCO s = s.write 137 (s.regs 137 ||| freezeDco) := by
    unfold setFreezeDCO
    rw [s.read_of_ne (by decide)]
  have kept : (writeSettings opts (s.write 137 (s.regs 137 ||| freezeDco))).regs 137 =
      s.regs 137 ||| freezeDco := by
    simp [writeSettings_eq, Si570.write]
  unfold releaseDCO Si570.writeDual
  rw [frozen, Si570.read_of_ne _ (by decide), kept]

/-- Freezing and releasing clears the freeze bit and no other. -/
theorem thawed_getLsbD (w : Word8) (i : Nat) :
    ((w ||| freezeDco) &&& 0xef).getLsbD i = (w.getLsbD i && i != 4) := by
  by_cases inside : i < 8
  · interval_cases i <;> simp [freezeDco]
  · rw [BitVec.getLsbD_of_ge _ _ (by omega), BitVec.getLsbD_of_ge _ _ (by omega)]
    rfl

end Refclk

/-- **The oscillator round trip.** Valid settings that are written are read back,
if the code waits longer than the oscillator takes to settle. The freeze bit is
clear again, and registers that are not written are as before. -/
theorem refclk_roundtrip {opts : RefclkOpts} (valid : opts.Valid) (s : Si570) :
    ∃ s', (∀ turns, s.settle < turns → Refclk.writeOptsToDevice turns opts s = some s') ∧
      Refclk.getCurrentOpts s' = (opts, s') ∧
      (∀ i, (s'.regs 137).getLsbD i = ((s.regs 137).getLsbD i && i != 4)) ∧
      s'.written = s.written ++ Refclk.writtenRegs ∧
      ∀ addr, addr ∉ Refclk.writtenRegs → s'.regs addr = s.regs addr := by
  have released := Refclk.released_eq opts s
  refine ⟨(Refclk.releaseDCO (Refclk.writeSettings opts (Refclk.setFreezeDCO s))).settled,
    fun turns enough => ?_, ?_, ?_, ?_, ?_⟩
  · refine Refclk.waitForClearance_newfreq ?_ ?_ enough
    · rw [released]
      exact Si570.write_regs_self ..
    · rw [released]
      rfl
  · rw [released]
    refine Refclk.getCurrentOpts_of_settings valid ?_ ?_ ?_ ?_ ?_ ?_ <;>
      simp [Refclk.writeSettings_eq, Si570.write, Si570.settled]
  -- bit 4 is the freeze bit
  · intro i
    rw [released, ← Refclk.thawed_getLsbD]
    simp [Si570.write, Si570.settled]
  · rw [released]
    simp [Refclk.writeSettings_eq, Si570.write, Si570.settled, Refclk.writtenRegs]
  · intro addr other
    simp only [Refclk.writtenRegs, List.mem_cons, List.not_mem_nil, or_false, not_or] at other
    obtain ⟨ne137, ne13, ne14, ne15, ne16, ne17, ne18, -, ne135⟩ := other
    rw [released]
    simp only [Refclk.writeSettings_eq, Si570.write, Si570.settled, Function.update_of_ne ne137,
      Function.update_of_ne ne13, Function.update_of_ne ne14, Function.update_of_ne ne15,
      Function.update_of_ne ne16, Function.update_of_ne ne17, Function.update_of_ne ne18,
      Function.update_of_ne ne135]

/-- An oscillator whose registers hold 0x3c each. -/
def someSi570 : Si570 := ⟨fun _ => 0x3c, [], 2, none⟩

/-- Settings for 212.5 MHz: 5.1 GHz, divided by 4 and by 6. -/
def refclkDefault : RefclkOpts := ⟨4, 6, 0x2ca012474⟩

theorem refclk_roundtrip_default :
    ∃ s', (∀ turns, 2 < turns → Refclk.writeOptsToDevice turns refclkDefault someSi570 = some s') ∧
      Refclk.getCurrentOpts s' = (refclkDefault, s') ∧
      (∀ i, (s'.regs 137).getLsbD i = ((0x3c : Word8).getLsbD i && i != 4)) ∧
      s'.written = [] ++ Refclk.writtenRegs ∧
      ∀ addr, addr ∉ Refclk.writtenRegs → s'.regs addr = 0x3c :=
  refclk_roundtrip ⟨by decide, by decide, by decide, by decide⟩ someSi570

end Librorc
