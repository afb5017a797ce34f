import Librorc.Dma.Configure
import Mathlib.Algebra.Order.Field.Rat
import Mathlib.Tactic.NormNum

/-!
# The event rate limiter

The limiter waits a number of clock cycles between two events. The number is the
clock frequency divided by the rate and rounded down, so the rate the limiter
lets through is rounded up.
-/

namespace Librorc

namespace Reg

def dmaRateLimiterWaittime : Nat := 27

end Reg

namespace DmaChannel

/-- `clk_freq`. -/
def clkFreq (pcieGen : Word32) : Word32 := if pcieGen = 2 then 250000000 else 125000000

def setRateLimit (ch : DmaChannel) (rate pcieGen : Word32) : DmaChannel :=
  let waittime := if rate ≠ 0 then clkFreq pcieGen / rate else 0
  ch.setPciReg Reg.dmaRateLimiterWaittime waittime

/-- The cycles the limiter waits; 0 turns it off. -/
def waittime (ch : DmaChannel) : Word32 := ch.pciReg Reg.dmaRateLimiterWaittime

def rateLimit (ch : DmaChannel) (pcieGen : Word32) : Word32 :=
  if ch.waittime ≠ 0 then clkFreq pcieGen / ch.waittime else 0

/-- The rate is not exceeded, and the limiter is on unless it was 0. -/
structure LimitsTo (ch : DmaChannel) (rate pcieGen : Word32) : Prop where
  effective : ch.waittime ≠ 0 →
    ((clkFreq pcieGen).toNat : ℚ) / (ch.waittime.toNat : ℚ) ≤ (rate.toNat : ℚ)
  reported : (ch.rateLimit pcieGen).toNat ≤ rate.toNat
  off : ch.waittime = 0 → rate = 0

theorem clkFreq_pos (pcieGen : Word32) : 0 < (clkFreq pcieGen).toNat := by
  unfold clkFreq
  split <;> decide

theorem waittime_setRateLimit (ch : DmaChannel) {rate : Word32} (pcieGen : Word32)
    (nonzero : rate ≠ 0) : (ch.setRateLimit rate pcieGen).waittime = clkFreq pcieGen / rate := by
  have written : (ch.setRateLimit rate pcieGen).waittime =
      if rate ≠ 0 then clkFreq pcieGen / rate else 0 :=
    ch.device.setPciReg_reg_self _ (show Reg.dmaRateLimiterWaittime ≠ Reg.sgentryCtrl by decide)
      (by decide) (by decide)
  rw [written, if_pos nonzero]

/-- **The rate limit.** It is an upper limit exactly for the rates that divide
the clock frequency. -/
theorem setRateLimit_limits_iff (ch : DmaChannel) {rate : Word32} (pcieGen : Word32)
    (positive : 0 < rate) :
    (ch.setRateLimit rate pcieGen).LimitsTo rate pcieGen ↔
      rate.toNat ∣ (clkFreq pcieGen).toNat := by
  have nonzero : rate ≠ 0 := by
    rintro rfl
    exact absurd positive (by decide)
  have waits := ch.waittime_setRateLimit pcieGen nonzero
  have cycles : (ch.setRateLimit rate pcieGen).waittime.toNat =
      (clkFreq pcieGen).toNat / rate.toNat := by
    rw [waits, BitVec.toNat_udiv]
  have some : 0 < rate.toNat := positive
  constructor
  · intro limits
    have on : (ch.setRateLimit rate pcieGen).waittime ≠ 0 :=
      fun off => nonzero (limits.off off)
    have cyclesPos : 0 < (ch.setRateLimit rate pcieGen).waittime.toNat :=
      Nat.pos_of_ne_zero (BitVec.toNat_ne.mp on)
    have effective := limits.effective on
    rw [div_le_iff₀ (by exact_mod_cast cyclesPos)] at effective
    -- the waiting time was rounded down, so both sides are equal
    have le : (clkFreq pcieGen).toNat ≤
        rate.toNat * (ch.setRateLimit rate pcieGen).waittime.toNat := by exact_mod_cast effective
    rw [cycles] at le
    exact ⟨_, Nat.le_antisymm le (Nat.mul_div_le _ _)⟩
  · rintro ⟨k, product⟩
    have clock := clkFreq_pos pcieGen
    have kPos : 0 < k := by
      rw [product] at clock
      exact Nat.pos_of_mul_pos_left clock
    have quotient : (ch.setRateLimit rate pcieGen).waittime.toNat = k := by
      rw [cycles, product, Nat.mul_div_cancel_left k some]
    have on : (ch.setRateLimit rate pcieGen).waittime ≠ 0 := by
      rw [BitVec.toNat_ne, quotient]
      exact kPos.ne'
    refine ⟨fun _ => ?_, ?_, fun off => absurd off on⟩
    · rw [quotient, product, Nat.cast_mul, mul_div_cancel_right₀ _ (by exact_mod_cast kPos.ne')]
    · rw [rateLimit, if_pos on, BitVec.toNat_udiv, quotient, product,
        Nat.mul_div_cancel _ kPos]

theorem setRateLimit_limits_iff_40000 :
    (sixteenEntryChannel.setRateLimit 40000 2).LimitsTo 40000 2 ↔
      (40000 : Word32).toNat ∣ (clkFreq 2).toNat :=
  setRateLimit_limits_iff sixteenEntryChannel 2 (by decide)

/-- 30 kHz are limited to 30001 Hz, and 300 MHz not at all. -/
theorem not_limits_30000 :
    (sixteenEntryChannel.setRateLimit 30000 2).rateLimit 2 = 30001 ∧
      ¬(sixteenEntryChannel.setRateLimit 30000 2).LimitsTo 30000 2 ∧
      (sixteenEntryChannel.setRateLimit 300000000 2).waittime = 0 ∧
      ¬(sixteenEntryChannel.setRateLimit 300000000 2).LimitsTo 300000000 2 := by
  refine ⟨by decide, fun limits => ?_, by decide, fun limits => ?_⟩
  · exact absurd limits.reported (by decide)
  · exact absurd (limits.off (by decide)) (by decide)

end DmaChannel

end Librorc
