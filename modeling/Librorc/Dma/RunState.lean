import Librorc.Dma.Configure

/-!
# The run state in `DMA_CTRL`

`runState` reads the bits that decide whether a channel moves data. Each
method of the channel is summarised by what it does to the control word; the
methods that read, modify and write keep the bits they are not about, and
`setBufferOffsetsOnDevice` writes a word composed from scratch.
-/

namespace Librorc

/-- The enable, EBDM-enable, RBDM-enable and suspend bits. -/
structure RunState where
  enabled : Bool
  ebdm : Bool
  rbdm : Bool
  suspended : Bool
deriving DecidableEq

namespace RunState

def ofWord (w : Word32) : RunState where
  enabled := w.getLsbD dmactrlEnableBit
  ebdm := w.getLsbD dmactrlEbdmEnableBit
  rbdm := w.getLsbD dmactrlRbdmEnableBit
  suspended := w.getLsbD dmactrlSuspendBit

/-- The engine runs: enabled and not suspended. -/
def active (r : RunState) : Bool := r.enabled && !r.suspended

/-- Nothing is on in `after` that was off in `before`. -/
structure NoRise (before after : RunState) : Prop where
  active : after.active = true → before.active = true
  enabled : after.enabled = true → before.enabled = true
  ebdm : after.ebdm = true → before.ebdm = true
  rbdm : after.rbdm = true → before.rbdm = true

theorem NoRise.refl (r : RunState) : NoRise r r := ⟨id, id, id, id⟩

theorem NoRise.trans {r r' r'' : RunState} (first : NoRise r r') (second : NoRise r' r'') :
    NoRise r r'' where
  active := first.active ∘ second.active
  enabled := first.enabled ∘ second.enabled
  ebdm := first.ebdm ∘ second.ebdm
  rbdm := first.rbdm ∘ second.rbdm

theorem NoRise.of_off {r r' : RunState} (enabled : r'.enabled = false) (ebdm : r'.ebdm = false)
    (rbdm : r'.rbdm = false) : NoRise r r' := by
  refine ⟨?_, ?_, ?_, ?_⟩ <;> simp [RunState.active, enabled, ebdm, rbdm]

end RunState

/-- The bits of `DMA_CTRL` software writes and reads back: all but the status
bits 4 to 7, the flags 11 to 13 that writing a one clears, and the sync
strobe. -/
def softwareBits : Word32 := ~~~0x800038f0#32

/-- Two control words agree, up to the bits the device drives and the sync
strobe. -/
def KeepsControl (before after : Word32) : Prop :=
  after &&& softwareBits = before &&& softwareBits

instance (before after : Word32) : Decidable (KeepsControl before after) :=
  inferInstanceAs (Decidable (_ = _))

theorem KeepsControl.getLsbD {before after : Word32} (keeps : KeepsControl before after) {i : Nat}
    (owned : softwareBits.getLsbD i = true) : after.getLsbD i = before.getLsbD i := by
  have bit := congrArg (fun w : Word32 => w.getLsbD i) keeps
  simpa [owned] using bit

/-- The run state is part of what software owns. -/
theorem KeepsControl.runState {before after : Word32} (keeps : KeepsControl before after) :
    RunState.ofWord after = RunState.ofWord before := by
  simp only [RunState.ofWord, RunState.mk.injEq]
  exact ⟨keeps.getLsbD (by decide), keeps.getLsbD (by decide), keeps.getLsbD (by decide),
    keeps.getLsbD (by decide)⟩

namespace DmaChannel

def runState (ch : DmaChannel) : RunState := RunState.ofWord ch.dmaConfig

/-- What `setBufferOffsetsOnDevice` takes for granted: engine and descriptor
managers on, no suspend, no FIFO reset, the channel's tag in place. -/
def Running (ch : DmaChannel) : Prop :=
  ch.dmaConfig &&& softwareBits = (ch.pciTag ||| 0x0000000d#32) &&& softwareBits

/-! ## The control word after each method -/

variable (ch : DmaChannel)

@[simp] theorem dmaConfig_setDmaConfig (w : Word32) : (ch.setDmaConfig w).dmaConfig = w := by
  show (ch.device.setPciReg Reg.dmaCtrl w).reg Reg.dmaCtrl = w
  exact ChannelDevice.setPciReg_reg_self _ _ (by decide) (by decide) (by decide)

/-- Writes of other registers leave the control word alone. -/
theorem dmaConfig_setPciReg {addr : Nat} (data : Word32) (other : Reg.dmaCtrl ≠ addr) :
    (ch.setPciReg addr data).dmaConfig = ch.dmaConfig :=
  ChannelDevice.setPciReg_reg_of_ne _ _ other

theorem dmaConfig_memcopy {target : Nat} {words : List Word32}
    (before : target + words.length ≤ Reg.dmaCtrl) :
    (ch.memcopy target words).dmaConfig = ch.dmaConfig := by
  unfold memcopy dmaConfig pciReg
  induction words generalizing target ch with
  | nil => rfl
  | cons word rest ih =>
      rw [List.length_cons] at before
      show (((ch.device.setPciReg target word).memcopy (target + 1) rest).reg Reg.dmaCtrl) = _
      refine (ih { ch with device := ch.device.setPciReg target word } (by omega)).trans ?_
      exact ChannelDevice.setPciReg_reg_of_ne _ _ (by omega)

theorem dmaConfig_setBufferOffsetsOnDevice (eboffset rboffset : Word64) :
    (ch.setBufferOffsetsOnDevice eboffset rboffset).dmaConfig = ch.publishWord :=
  dmaConfig_setDmaConfig _ _

/-- A publish keeps the control word exactly when the channel is running. -/
theorem publish_keeps_iff (eboffset rboffset : Word64) :
    KeepsControl ch.dmaConfig (ch.setBufferOffsetsOnDevice eboffset rboffset).dmaConfig ↔
      ch.Running := by
  have bits : (1#32 <<< dmactrlEbdmEnableBit) ||| (1#32 <<< dmactrlRbdmEnableBit) |||
      (1#32 <<< dmactrlEnableBit) = 0x0000000d#32 := by decide
  have strobe : (1#32 <<< dmactrlSyncSwrdptrsBit) &&& softwareBits = 0#32 := by decide
  have word : ch.publishWord &&& softwareBits =
      (ch.pciTag ||| 0x0000000d#32) &&& softwareBits := by
    rw [publishWord, BitVec.or_assoc, BitVec.or_assoc, BitVec.or_assoc,
      ← BitVec.or_assoc (1#32 <<< dmactrlEbdmEnableBit), bits, BitVec.and_or_distrib_right, strobe,
      BitVec.zero_or]
  rw [dmaConfig_setBufferOffsetsOnDevice, KeepsControl, word, Running]
  exact eq_comm

/-- `getEnable` reads the enable bit. -/
theorem getEnable_ne_zero_iff : ch.getEnable ≠ 0 ↔ ch.runState.enabled = true := by
  have bit : ch.getEnable = if ch.dmaConfig.getLsbD 0 then 1#32 else 0#32 := by
    unfold getEnable dmactrlEnableBit
    rw [show (1 : Word32) = BitVec.twoPow 32 0 from rfl, BitVec.and_twoPow,
      BitVec.getLsbD_ushiftRight]
    rfl
  show ch.getEnable ≠ 0 ↔ ch.dmaConfig.getLsbD 0 = true
  rw [bit]
  cases ch.dmaConfig.getLsbD 0 with
  | false => simp
  | true => simp

/-! ## The run state after each method -/

theorem runState_of_dmaConfig {ch ch' : DmaChannel} (same : ch'.dmaConfig = ch.dmaConfig) :
    ch'.runState = ch.runState := by
  rw [runState, runState, same]

theorem runState_setDmaConfig (w : Word32) :
    (ch.setDmaConfig w).runState = RunState.ofWord w := by
  rw [runState, dmaConfig_setDmaConfig]

/-- Setting other bits keeps the run state. -/
theorem runState_or (w : Word32) (off : RunState.ofWord w = ⟨false, false, false, false⟩) :
    (ch.setDmaConfig (ch.dmaConfig ||| w)).runState = ch.runState := by
  rw [runState_setDmaConfig, runState]
  simp only [RunState.ofWord, RunState.mk.injEq] at off ⊢
  simp [off]

theorem runState_setEBOffset (offset : Word64) :
    (ch.setEBOffset offset).runState = ch.runState := by
  refine (runState_or _ _ (by decide)).trans (runState_of_dmaConfig ?_)
  exact dmaConfig_memcopy ch (by simp [Reg.ebdmSwReadPointerL, Reg.dmaCtrl])

theorem runState_setRBOffset (offset : Word64) :
    (ch.setRBOffset offset).runState = ch.runState := by
  refine (runState_or _ _ (by decide)).trans (runState_of_dmaConfig ?_)
  exact dmaConfig_memcopy ch (by simp [Reg.rbdmSwReadPointerL, Reg.dmaCtrl])

theorem runState_readAndClearPtrStallFlags :
    ch.readAndClearPtrStallFlags.2.runState = ch.runState := by
  simp only [readAndClearPtrStallFlags]
  split
  · exact runState_or ch _ (by decide)
  · rfl

theorem runState_clearFifoUnderrunFlag : ch.clearFifoUnderrunFlag.runState = ch.runState :=
  runState_or ch _ (by decide)

theorem runState_setPciePacketSize (packetSize : Word32) :
    (ch.setPciePacketSize packetSize).runState = ch.runState :=
  runState_of_dmaConfig (dmaConfig_setPciReg ch _ (by decide))

theorem SgFrame.runState {ch ch' : DmaChannel} (frame : SgFrame ch ch') :
    ch'.runState = ch.runState :=
  runState_of_dmaConfig (frame.reg Reg.dmaCtrl (by decide))

theorem announceEvent_frame (entries : List ScatterGatherEntry) :
    SgFrame ch (ch.announceEvent entries) := by
  induction entries generalizing ch with
  | nil => exact SgFrame.refl ch
  | cons e rest ih => exact (pushSglistEntryToRAM_frame _ _ _ _).trans (ih _)

theorem enabled_enable : ch.enable.runState.enabled = true := by
  unfold enable
  rw [runState_setDmaConfig]
  simp [RunState.ofWord, dmactrlEnableBit, dmactrlEbdmEnableBit, dmactrlRbdmEnableBit]

theorem enabled_setBufferOffsetsOnDevice (eboffset rboffset : Word64) :
    (ch.setBufferOffsetsOnDevice eboffset rboffset).runState.enabled = true := by
  rw [runState, dmaConfig_setBufferOffsetsOnDevice]
  simp [RunState.ofWord, publishWord, pciTag, dmactrlSyncSwrdptrsBit, dmactrlEnableBit,
    dmactrlEbdmEnableBit, dmactrlRbdmEnableBit]

/-- `disable` leaves everything off. -/
theorem runState_disable (busy : Nat → Bool) :
    (ch.disable busy).2.runState = ⟨false, false, false, false⟩ := by
  unfold disable
  exact (runState_setDmaConfig _ _).trans (by decide)

theorem runState_lastOffsets (ebdm rbdm : Word64) :
    DmaChannel.runState { ch with lastRbdmOffset := rbdm, lastEbdmOffset := ebdm } =
      ch.runState := rfl

/-- So does the register block of `configure`. -/
theorem runState_configureDmaChannelRegisters (eb rb : Buffer) (pciePacketSize : Word32) :
    (ch.configureDmaChannelRegisters eb rb pciePacketSize).1.runState =
      ⟨false, false, false, false⟩ := by
  unfold configureDmaChannelRegisters
  rw [runState_lastOffsets, runState_setPciePacketSize, runState_setDmaConfig]
  simp [RunState.ofWord, pciTag, dmactrlSyncSwrdptrsBit, dmactrlEnableBit,
    dmactrlEbdmEnableBit, dmactrlRbdmEnableBit, dmactrlSuspendBit]

/-- A refused `configure` leaves the engine as it was; another one leaves
everything off. -/
theorem runState_configure (page : PageSize) (eventBuffer reportBuffer : Option Buffer)
    (esDir : EventStreamDirection) (pciePacketSize : Word32) :
    let r := ch.configure page eventBuffer reportBuffer esDir pciePacketSize
    (r.1 ≠ 0 ∧ r.2.runState = ch.runState) ∨
      (r.1 = 0 ∧ r.2.runState = ⟨false, false, false, false⟩) := by
  obtain ⟨noBuffer, tooMany⟩ : enodev ≠ 0 ∧ efbig ≠ 0 := by decide
  cases eventBuffer with
  | none => exact .inl ⟨noBuffer, rfl⟩
  | some eb =>
      cases reportBuffer with
      | none => exact .inl ⟨noBuffer, rfl⟩
      | some rb =>
          cases esDir with
          | toHost =>
              rw [configure_toHost]
              simp only
              split_ifs
              · exact .inr ⟨rfl, runState_configureDmaChannelRegisters _ _ _ _⟩
              · exact .inl ⟨tooMany, (stage_frame page ch false eb.readList).runState⟩
              · exact .inl ⟨tooMany, rfl⟩
          | toDevice =>
              rw [configure_toDevice]
              simp only
              split_ifs
              · exact .inr ⟨rfl, runState_configureDmaChannelRegisters _ _ _ _⟩
              · exact .inl ⟨tooMany, rfl⟩

theorem runState_configure_of_refused {page : PageSize} {eventBuffer reportBuffer : Option Buffer}
    {esDir : EventStreamDirection} {pciePacketSize : Word32}
    (refused : (ch.configure page eventBuffer reportBuffer esDir pciePacketSize).1 ≠ 0) :
    (ch.configure page eventBuffer reportBuffer esDir pciePacketSize).2.runState =
      ch.runState := by
  rcases runState_configure ch page eventBuffer reportBuffer esDir pciePacketSize with
    ⟨-, same⟩ | ⟨done, -⟩
  · exact same
  · exact absurd done refused

/-- `configure` never turns anything on. -/
theorem noRise_configure (page : PageSize) (eventBuffer reportBuffer : Option Buffer)
    (esDir : EventStreamDirection) (pciePacketSize : Word32) :
    RunState.NoRise ch.runState
      (ch.configure page eventBuffer reportBuffer esDir pciePacketSize).2.runState := by
  rcases runState_configure ch page eventBuffer reportBuffer esDir pciePacketSize with
    ⟨-, same⟩ | ⟨-, off⟩
  · rw [same]
    exact .refl _
  · rw [off]
    exact .of_off rfl rfl rfl

end DmaChannel
end Librorc
