import Librorc.Dma.Device
import Librorc.Lib.BitField
import Librorc.Lib.InclusiveLoop

/-!
# Strings from I2C devices

`ddr3SpdReadString` and `qsfp_i2c_string_readout` read a range of addresses of an
I2C device, one byte each, through the operation and configuration registers of
the I2C master. Both count with a `uint8_t` up to and including a `uint8_t`.
-/

namespace Librorc

open Librorc.Lib

/-- The `LIBRORC_SYSMON_ERROR_*` the I2C functions throw. -/
inductive SysmonError
  | i2cRxack
  | i2cInvalidParam

def qsfpI2cSlvaddr : Word8 := 0x50
def ddr3SpdSlvaddr : Word8 := 0x50

def i2cRead : Word8 := 1#8 <<< 1
def i2cWrite : Word8 := 1#8 <<< 2

/-! ## The I2C master -/

/-- A byte behind the master: the chain as the bit that selects it, the device
and the address there. -/
structure I2cAccess where
  chainSelect : Word8
  slvaddr : Word8
  memaddr : Word8

/-- The master, with devices that acknowledge every access. `pending` is the
number of reads of the configuration register that will still find it busy;
access number `k` keeps it busy for `latency k` of them. -/
structure I2cMaster where
  content : I2cAccess → Word8
  operation : Word32
  pending : Nat
  latency : Nat → Nat
  reads : List I2cAccess

namespace I2cMaster

/-- `set32(RORC_REG_I2C_OPERATION, …)`: bits 7 to 0 are the address. -/
def setOperation (s : I2cMaster) (opdata : Word32) : I2cMaster := { s with operation := opdata }

/-- What a command reads. -/
def access (s : I2cMaster) (cfgcmd : Word32) : I2cAccess :=
  ⟨(cfgcmd >>> 24).setWidth 8, (cfgcmd >>> 8).setWidth 8, s.operation.setWidth 8⟩

/-- `set32(RORC_REG_I2C_CONFIG, …)` of a read command: the byte gets to bits 15
to 8 of the operation register. -/
def setConfig (s : I2cMaster) (cfgcmd : Word32) : I2cMaster :=
  { s with
    operation := ((s.content (s.access cfgcmd)).setWidth 32 <<< 8) ||| (s.operation &&& 0xff)
    pending := s.latency s.reads.length
    reads := s.reads ++ [s.access cfgcmd] }

/-- `get32(RORC_REG_I2C_CONFIG)`: bit 0 is set when the access is complete. -/
def config (s : I2cMaster) : Word32 × I2cMaster :=
  match s.pending with
  | 0 => (1, s)
  | k + 1 => (0, { s with pending := k })

theorem config_of_idle {s : I2cMaster} (idle : s.pending = 0) : s.config = (1, s) := by
  rw [config, idle]

theorem config_of_pending {s : I2cMaster} {k : Nat} (left : s.pending = k + 1) :
    s.config = (0, { s with pending := k }) := by
  rw [config, left]

/-- Only a master with an access pending is busy. -/
theorem pending_of_busy {s : I2cMaster} (busy : s.config.1 &&& 0x1 = 0) :
    s.config.2.pending < s.pending := by
  cases left : s.pending with
  | zero =>
      rw [config_of_idle left] at busy
      exact absurd busy (show ¬(1 : Word32) &&& 0x1 = 0 by decide)
  | succ k =>
      rw [config_of_pending left]
      exact Nat.lt_succ_self k

end I2cMaster

/-- `librorc::sysmon`, with its `m_i2c_hsmode`; `i2c_set_mode` lets no other
values in. -/
structure Sysmon where
  i2cHsmode : Word8
  i2cHsmode_le : i2cHsmode ≤ 1

/-- Calls that use the master. -/
abbrev I2cCall (α : Type) := Throwing SysmonError I2cMaster α

/-! ## The driver -/

namespace Sysmon

/-- The command word of `i2c_module_start`. -/
def cfgcmd (chainSelect slvaddr cmd mode byteEnable : Word8) : Word32 :=
  (chainSelect.setWidth 32 <<< 24) ||| (slvaddr.setWidth 32 <<< 8) |||
    (mode.setWidth 32 <<< 5) ||| (byteEnable.setWidth 32 <<< 3) ||| cmd.setWidth 32

def i2cModuleStart (chain slvaddr cmd mode byteEnable : Word8) : I2cCall Unit :=
  if 5 < chain ∨ 3 < byteEnable ∨ (cmd ≠ i2cRead ∧ cmd ≠ i2cWrite) ∨ 1 < mode then
    throw .i2cInvalidParam
  else
    let chainSelect := 1#8 <<< chain.toNat
    modify (·.setConfig (cfgcmd chainSelect slvaddr cmd mode byteEnable))

/-- The loop has no other end. -/
def waitLoop (s : I2cMaster) : Word32 × I2cMaster :=
  if _busy : s.config.1 &&& 0x1 = 0 then waitLoop s.config.2 else s.config
termination_by s.pending
decreasing_by exact I2cMaster.pending_of_busy _busy

/-- Bits 6 and 7 are error flags. -/
def i2cWaitForCmpl : I2cCall Word32 := do
  let s ← get
  let (status, s) := waitLoop s
  set s
  if status &&& 0xc0 ≠ 0 then throw .i2cRxack else pure status

variable (sysmon : Sysmon)

def i2cReadMem (chain slvaddr memaddr : Word8) : I2cCall Word8 := do
  modify (·.setOperation (memaddr.setWidth 32))
  i2cModuleStart chain slvaddr i2cRead sysmon.i2cHsmode 1
  let _status ← i2cWaitForCmpl
  let s ← get
  pure (((s.operation >>> 8) &&& 0xff).setWidth 8)

/-- The modules are on chain 3. -/
def ddr3SpdRead (module address : Word8) : I2cCall Word8 :=
  sysmon.i2cReadMem 3 (ddr3SpdSlvaddr + (module &&& 1)) address

/-- `none` is a loop that is still running after `turns` turns. -/
def ddr3SpdReadString (module startAddress endAddress : Word8) (turns : Nat) :
    I2cCall (Option (List Word8)) :=
  collect (sysmon.ddr3SpdRead module) endAddress turns startAddress []

def qsfpI2cStringReadout (index start stop : Word8) (turns : Nat) :
    I2cCall (Option (List Word8)) :=
  collect (sysmon.i2cReadMem index qsfpI2cSlvaddr) stop turns start []

/-- The call returns the bytes of the accesses after some number of turns, and
makes each of them once. -/
def ReturnsBytes (call : Nat → I2cCall (Option (List Word8))) (accesses : List I2cAccess)
    (s : I2cMaster) : Prop :=
  ∃ turns s', (call turns).run.run s = (.ok (some (accesses.map s.content)), s') ∧
    s'.reads = s.reads ++ accesses

/-! ## One byte -/

theorem waitLoop_eq (s : I2cMaster) : waitLoop s = (1, { s with pending := 0 }) := by
  induction left : s.pending generalizing s with
  | zero =>
      have done : ¬(1 : Word32) &&& 0x1 = 0 := by decide
      rw [waitLoop, I2cMaster.config_of_idle left, dif_neg done, ← left]
  | succ k ih =>
      have waits : (0 : Word32) &&& 0x1 = 0 := by decide
      rw [waitLoop, I2cMaster.config_of_pending left, dif_pos waits, ih _ rfl]

/-- Mode, byte enable and command stay below bit 8. -/
theorem flags_lt {mode : Word8} (small : mode ≤ 1) :
    ((mode.setWidth 32 <<< 5 : Word32) ||| (((1 : Word8).setWidth 32 <<< 3) |||
      i2cRead.setWidth 32)).toNat < 2 ^ 8 := by
  have modes : mode = 0 ∨ mode = 1 := by bv_omega
  rcases modes with rfl | rfl
  · decide
  · decide

/-- The fields of a command word. -/
theorem access_cfgcmd (s : I2cMaster) (chainSelect slvaddr memaddr : Word8) {mode : Word8}
    (small : mode ≤ 1) :
    (s.setOperation (memaddr.setWidth 32)).access (cfgcmd chainSelect slvaddr i2cRead mode 1) =
      ⟨chainSelect, slvaddr, memaddr⟩ := by
  have low := flags_lt small
  rw [cfgcmd, BitVec.or_assoc, BitVec.or_assoc]
  generalize ((mode.setWidth 32 <<< 5 : Word32) ||| (((1 : Word8).setWidth 32 <<< 3) |||
    i2cRead.setWidth 32)) = flags at low ⊢
  have clear (j : Nat) (high : 8 ≤ j) : flags.getLsbD j = false :=
    Nat.testBit_lt_two_pow (Nat.lt_of_lt_of_le low (Nat.pow_le_pow_right (by omega) high))
  unfold I2cMaster.access I2cMaster.setOperation
  congr 1
  · apply BitVec.eq_of_getLsbD_eq
    intro i inside
    have wide : 24 + i < 32 := by omega
    have slvaddr : slvaddr.getLsbD (24 + i - 8) = false :=
      BitVec.getLsbD_of_ge _ _ (by omega)
    simp only [BitVec.getLsbD_setWidth, BitVec.getLsbD_ushiftRight, BitVec.getLsbD_or,
      BitVec.getLsbD_shiftLeft, clear (24 + i) (by omega), slvaddr, inside, wide,
      Nat.add_sub_cancel_left, decide_true, Bool.true_and, Bool.and_false, Bool.or_false]
    rw [decide_eq_false (by omega), decide_eq_true (by omega), Bool.not_false, Bool.true_and,
      Bool.true_and]
  · apply BitVec.eq_of_getLsbD_eq
    intro i inside
    have wide : 8 + i < 32 := by omega
    have under : 8 + i < 24 := by omega
    simp only [BitVec.getLsbD_setWidth, BitVec.getLsbD_ushiftRight, BitVec.getLsbD_or,
      BitVec.getLsbD_shiftLeft, clear (8 + i) (by omega), inside, wide, under,
      Nat.add_sub_cancel_left, decide_true, Bool.not_true, Bool.true_and, Bool.false_and,
      Bool.and_false, Bool.or_false, Bool.false_or]
    rw [decide_eq_false (by omega), decide_eq_true (by omega), Bool.not_false, Bool.true_and,
      Bool.true_and]
  · apply BitVec.eq_of_getLsbD_eq
    intro i inside
    simp [inside]

/-- The byte of an access, as `i2c_read_mem` takes it from the register. -/
theorem setConfig_byte (s : I2cMaster) (cmd : Word32) :
    (((s.setConfig cmd).operation >>> 8) &&& 0xff).setWidth 8 = s.content (s.access cmd) := by
  have operation : (s.setConfig cmd).operation =
      ((s.content (s.access cmd)).setWidth 32 <<< 8) ||| (s.operation &&& 0xff) := rfl
  have mask : (0xff : Word32) = BitVec.ofNat 32 (2 ^ 8 - 1) := rfl
  have low := toNat_and_low s.operation (m := 8) (by omega)
  have small := (s.content (s.access cmd)).isLt
  rw [operation, mask]
  apply setWidth_field_eq 8 8 (by omega)
  rw [toNat_shiftLeft_or, low, BitVec.toNat_setWidth]
  · omega
  · rw [BitVec.toNat_setWidth]
    omega
  · rw [low]
    exact Nat.mod_lt _ (by omega)

/-- The parameters of a read are accepted for six chains. -/
theorem i2cModuleStart_eq {chain mode : Word8} (valid : chain ≤ 5) (small : mode ≤ 1)
    (slvaddr : Word8) :
    i2cModuleStart chain slvaddr i2cRead mode 1 =
      modify (·.setConfig (cfgcmd (1#8 <<< chain.toNat) slvaddr i2cRead mode 1)) := by
  refine if_neg ?_
  rintro (chain | byteEnable | ⟨cmd, -⟩ | mode)
  · exact absurd valid (BitVec.not_le.mpr chain)
  · exact absurd byteEnable (by decide)
  · exact cmd rfl
  · exact absurd small (BitVec.not_le.mpr mode)

theorem i2cWaitForCmpl_run (s : I2cMaster) :
    i2cWaitForCmpl.run.run s = (.ok 1, { s with pending := 0 }) := by
  have wait : i2cWaitForCmpl.run.run s =
      (if (waitLoop s).1 &&& 0xc0 ≠ 0 then throw SysmonError.i2cRxack
        else pure (waitLoop s).1 : I2cCall Word32).run.run (waitLoop s).2 := rfl
  have noError : ¬(1 : Word32) &&& 0xc0 ≠ 0 := by decide
  rw [wait, waitLoop_eq, if_neg noError, run_pure]

/-- One read, and one access. -/
theorem i2cReadMem_run {chain : Word8} (valid : chain ≤ 5) (slvaddr memaddr : Word8)
    (s : I2cMaster) :
    ∃ s', (sysmon.i2cReadMem chain slvaddr memaddr).run.run s =
        (.ok (s.content ⟨1#8 <<< chain.toNat, slvaddr, memaddr⟩), s') ∧
      s'.content = s.content ∧
      s'.reads = s.reads ++ [⟨1#8 <<< chain.toNat, slvaddr, memaddr⟩] := by
  have access := access_cfgcmd s (1#8 <<< chain.toNat) slvaddr memaddr sysmon.i2cHsmode_le
  have byte := setConfig_byte (s.setOperation (memaddr.setWidth 32))
    (cfgcmd (1#8 <<< chain.toNat) slvaddr i2cRead sysmon.i2cHsmode 1)
  rw [access] at byte
  unfold i2cReadMem
  rw [i2cModuleStart_eq valid sysmon.i2cHsmode_le, run_bind_ok (run_modify _ _),
    run_bind_ok (run_modify _ _), run_bind_ok (i2cWaitForCmpl_run _), run_bind_ok (run_get _),
    run_pure]
  refine ⟨_, congrArg (fun byte => (Except.ok byte, _)) byte, rfl, ?_⟩
  rw [← access]
  rfl

/-- There is no seventh chain. -/
theorem i2cReadMem_invalid {chain : Word8} (invalid : 5 < chain) (slvaddr memaddr : Word8)
    (s : I2cMaster) :
    (sysmon.i2cReadMem chain slvaddr memaddr).run.run s =
      (.error .i2cInvalidParam, s.setOperation (memaddr.setWidth 32)) := by
  have refused : i2cModuleStart chain slvaddr i2cRead sysmon.i2cHsmode 1 =
      throw .i2cInvalidParam := if_pos (.inl invalid)
  unfold i2cReadMem
  rw [refused, run_bind_ok (run_modify _ _), run_bind_error (run_throw _ _)]

/-! ## A range of bytes -/

/-- The accesses to a range of addresses. -/
def accesses (chain slvaddr first last : Word8) : List I2cAccess :=
  (inclusiveRange first last).map fun memaddr => ⟨1#8 <<< chain.toNat, slvaddr, memaddr⟩

theorem i2cReadMem_readsAll {chain : Word8} (valid : chain ≤ 5) (slvaddr : Word8)
    (s : I2cMaster) :
    ReadsAll (sysmon.i2cReadMem chain slvaddr)
      (fun memaddr => s.content ⟨1#8 <<< chain.toNat, slvaddr, memaddr⟩)
      fun done s' => s'.content = s.content ∧
        s'.reads = s.reads ++ done.map fun memaddr => ⟨1#8 <<< chain.toNat, slvaddr, memaddr⟩ := by
  rintro memaddr done s₁ ⟨content, reads⟩
  obtain ⟨s', run, content', reads'⟩ := sysmon.i2cReadMem_run valid slvaddr memaddr s₁
  rw [content] at run content'
  refine ⟨s', run, content', ?_⟩
  rw [reads', reads, List.map_append, List.append_assoc]
  rfl

theorem greatest_bound : (0xff : Word8).toNat + 1 = 2 ^ 8 := by decide

/-- On an existing chain the readout returns exactly when its bound is not the
greatest. -/
theorem collect_returnsBytes_iff {chain : Word8} (valid : chain ≤ 5) (slvaddr first last : Word8)
    (s : I2cMaster) :
    ReturnsBytes (fun turns => collect (sysmon.i2cReadMem chain slvaddr) last turns first [])
      (accesses chain slvaddr first last) s ↔ last ≠ 0xff := by
  have reads := sysmon.i2cReadMem_readsAll valid slvaddr s
  have start : s.content = s.content ∧ s.reads = s.reads ++ ([] : List Word8).map
      fun memaddr => ⟨1#8 <<< chain.toNat, slvaddr, memaddr⟩ :=
    ⟨rfl, (List.append_nil _).symm⟩
  constructor
  · rintro ⟨turns, s', returned, -⟩ rfl
    obtain ⟨s₁, running⟩ := collect_runs_on reads greatest_bound turns first [] start
    rw [running] at returned
    cases returned
  · intro below
    have bound : last.toNat + 1 < 2 ^ 8 := by bv_omega
    obtain ⟨s', returned, -, made⟩ := collect_returns reads bound
      (Nat.lt_succ_self (last.toNat + 1 - first.toNat)) [] start
    refine ⟨_, s', returned.trans ?_, made⟩
    rw [accesses, List.map_map]
    rfl

/-- Without a chain only an empty range can be read. -/
theorem collect_returnsBytes_iff_of_invalid {chain : Word8} (invalid : 5 < chain)
    (slvaddr first last : Word8) (s : I2cMaster) :
    ReturnsBytes (fun turns => collect (sysmon.i2cReadMem chain slvaddr) last turns first [])
      (accesses chain slvaddr first last) s ↔ last < first := by
  constructor
  · rintro ⟨turns, s', returned, -⟩
    by_contra le
    have threw := sysmon.i2cReadMem_invalid invalid slvaddr first s
    rcases collect_throws (BitVec.not_lt.mp le) threw turns [] with running | failed
    · rw [running] at returned
      cases returned
    · rw [failed] at returned
      cases returned
  · intro past
    refine ⟨1, s, ?_, ?_⟩
    · show (collect (sysmon.i2cReadMem chain slvaddr) last (0 + 1) first []).run.run s = _
      rw [collect_of_lt past, accesses, inclusiveRange_of_lt past, run_pure]
      rfl
    · rw [accesses, inclusiveRange_of_lt past, List.map_nil, List.append_nil]

/-- **String readouts.** For every content of the devices, both functions return
the bytes of the range, each read once, exactly when the end address is not 255,
and for a QSFP index without a chain only if the range is empty. -/
theorem stringReadout_returns_iff (sysmon : Sysmon) (s : I2cMaster) (first last : Word8) :
    (∀ module : Word8, ReturnsBytes (sysmon.ddr3SpdReadString module first last)
      (accesses 3 (ddr3SpdSlvaddr + (module &&& 1)) first last) s ↔ last ≠ 0xff) ∧
    ∀ index : Word8, ReturnsBytes (sysmon.qsfpI2cStringReadout index first last)
      (accesses index qsfpI2cSlvaddr first last) s ↔
        last ≠ 0xff ∧ (index ≤ 5 ∨ last < first) := by
  refine ⟨fun module => sysmon.collect_returnsBytes_iff (by decide) _ first last s, ?_⟩
  intro index
  by_cases valid : index ≤ 5
  · rw [and_iff_left (Or.inl valid)]
    exact sysmon.collect_returnsBytes_iff valid _ first last s
  · have empty := sysmon.collect_returnsBytes_iff_of_invalid (BitVec.not_le.mp valid)
      qsfpI2cSlvaddr first last s
    refine empty.trans ⟨fun past => ⟨?_, .inr past⟩, fun both => both.2.resolve_left valid⟩
    bv_omega

/-- The last byte of a module: the loop is running after any number of turns. -/
theorem not_returnsBytes_lastAddress :
    let sysmon : Sysmon := ⟨0, by decide⟩
    let s : I2cMaster := ⟨fun _ => 0, 0, 0, fun _ => 0, []⟩
    ¬ReturnsBytes (sysmon.ddr3SpdReadString 0 0xff 0xff)
      [⟨1#8 <<< 3, ddr3SpdSlvaddr, 0xff⟩] s := by
  intro sysmon s
  rintro ⟨turns, s', returned, -⟩
  have valid : (3 : Word8) ≤ 5 := by decide
  have reads := sysmon.i2cReadMem_readsAll valid ddr3SpdSlvaddr s
  have start : s.content = s.content ∧ s.reads = s.reads ++ ([] : List Word8).map
      fun memaddr => ⟨1#8 <<< (3 : Word8).toNat, ddr3SpdSlvaddr, memaddr⟩ := ⟨rfl, rfl⟩
  obtain ⟨s₁, running⟩ := collect_runs_on reads greatest_bound turns 0xff [] start
  have same : sysmon.ddr3SpdReadString 0 0xff 0xff turns =
      collect (sysmon.i2cReadMem 3 ddr3SpdSlvaddr) 0xff turns 0xff [] := rfl
  rw [same, running] at returned
  cases returned

end Sysmon

end Librorc
