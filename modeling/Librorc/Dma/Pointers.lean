import Librorc.Dma.Configure

/-!
# The software read pointers

What the pointer registers hold after a publish and after `configure`. A
publish overwrites all of the previous one, so only the last one counts.
-/

namespace Librorc
namespace DmaChannel

/-- The two halves make the pointer again. -/
theorem highWord_add_lowWord (x : Word64) :
    ((highWord x).setWidth 64 <<< 32) + (lowWord x).setWidth 64 = x := by
  have bound := x.isLt
  apply BitVec.eq_of_toNat_eq
  simp only [highWord, lowWord, BitVec.toNat_add, BitVec.toNat_shiftLeft, BitVec.toNat_setWidth,
    BitVec.toNat_ushiftRight, Nat.shiftLeft_eq, Nat.shiftRight_eq_div_pow]
  omega

/-- Two registers that hold the halves of a value. -/
theorem recombine {high low : Word32} {x : Word64} (isHigh : high = highWord x)
    (isLow : low = lowWord x) : (high.setWidth 64 <<< 32) + low.setWidth 64 = x := by
  rw [isHigh, isLow, highWord_add_lowWord]

variable (ch : DmaChannel) (eboffset rboffset eboffset' rboffset' : Word64)

theorem getRBOffset_setBufferOffsetsOnDevice :
    (ch.setBufferOffsetsOnDevice eboffset rboffset).getRBOffset = rboffset :=
  recombine rfl rfl

theorem getEBOffset_setBufferOffsetsOnDevice :
    (ch.setBufferOffsetsOnDevice eboffset rboffset).getEBOffset = eboffset :=
  recombine rfl rfl

/-- Of two publishes the second one stays. -/
theorem setBufferOffsetsOnDevice_twice :
    (ch.setBufferOffsetsOnDevice eboffset rboffset).setBufferOffsetsOnDevice eboffset' rboffset' =
      ch.setBufferOffsetsOnDevice eboffset' rboffset' := by
  simp only [setBufferOffsetsOnDevice, setDmaConfig, setPciReg, memcopy, ChannelDevice.memcopy,
    publishWord, pciTag, DmaChannel.mk.injEq, and_true]
  simp (disch := decide) only [ChannelDevice.setPciReg_of_plain, ChannelDevice.mk.injEq, and_true]
  funext addr
  simp only [Function.update_apply]
  split_ifs <;> rfl

/-- The register block starts the report buffer pointer one descriptor before
the end. -/
theorem getRBOffset_configureDmaChannelRegisters (eb rb : Buffer) (pciePacketSize : Word32) :
    (ch.configureDmaChannelRegisters eb rb pciePacketSize).1.enable.getRBOffset =
      rb.size - BitVec.ofNat 64 sizeofEventDescriptor :=
  recombine rfl rfl

/-- So does a successful `configure`. -/
theorem getRBOffset_configure {page : PageSize} {eb rb : Buffer} {dir : EventStreamDirection}
    {pciePacketSize : Word32}
    (done : (ch.configure page (some eb) (some rb) dir pciePacketSize).1 = 0) :
    (ch.configure page (some eb) (some rb) dir pciePacketSize).2.enable.getRBOffset =
      rb.size - BitVec.ofNat 64 sizeofEventDescriptor := by
  have refused : efbig ≠ 0 := by decide
  have size : rb.sgList.2.size = rb.size := rb.sgList_snd_size
  cases dir with
  | toHost =>
      rw [configure_toHost] at done ⊢
      simp only at done ⊢
      split_ifs at done ⊢
      · rw [getRBOffset_configureDmaChannelRegisters, size]
      · exact absurd done refused
      · exact absurd done refused
  | toDevice =>
      rw [configure_toDevice] at done ⊢
      simp only at done ⊢
      split_ifs at done ⊢
      · rw [getRBOffset_configureDmaChannelRegisters, size]
      · exact absurd done refused

end DmaChannel
end Librorc
