import Librorc.Lib.DeviceBus
import Librorc.Sysmon.StringReadout

/-!
# The I2C master of the board

`sysmon` makes an access to an I2C device with two registers of the board: it
writes addresses and data to the operation register and a command to the
configuration register, and polls that until the access is complete. Below these
registers are six chains of devices, each of which answers or not. A client of
the sysmon functions does through the registers what it does on the devices.
-/

namespace Librorc

open Librorc.Lib

/-- A device as the driver names it. -/
structure I2cSlave where
  chain : Word8
  slvaddr : Word8
deriving DecidableEq

/-- What calls the sysmon functions, and catches no exception. -/
abbrev I2cClient (α : Type) := BusClient I2cSlave Word8 Word8 α

/-- A device as a command selects it: the chain by its bit. -/
structure I2cSelect where
  chainSelect : Word8
  slvaddr : Word8
deriving DecidableEq

def I2cSlave.select (i : I2cSlave) : I2cSelect := ⟨1#8 <<< i.chain.toNat, i.slvaddr⟩

/-- How the devices answer, by the accesses that have been answered before. -/
structure I2cAnswers where
  /-- The error flags, which are clear when the device acknowledges. -/
  flags : I2cSelect → ℕ → BitVec 2
  /-- The reads of the configuration register that find the access in progress. -/
  latency : ℕ → ℕ

/-- The master with the devices behind it. -/
structure I2cCore (δ : Type) where
  devices : I2cSelect → δ
  accesses : ℕ
  operation : Word32
  flags : BitVec 2
  pending : ℕ

namespace I2cCore

variable {δ : Type} [RegDevice Word8 Word8 δ] (answers : I2cAnswers)

/-- `set32(RORC_REG_I2C_OPERATION, …)`: two addresses, each with its data above. -/
def setOperation (opdata : Word32) (s : I2cCore δ) : I2cCore δ := { s with operation := opdata }

def select (cfgcmd : Word32) : I2cSelect :=
  ⟨(cfgcmd >>> 24).setWidth 8, (cfgcmd >>> 8).setWidth 8⟩

/-- Data is written as bits 3 and 4 of a command enable it. -/
def writeEnabled (cfgcmd operation : Word32) (d : δ) : δ :=
  let d :=
    if cfgcmd.getLsbD 3 then
      RegDevice.write d (operation.setWidth 8) ((operation >>> 8).setWidth 8)
    else d
  if cfgcmd.getLsbD 4 then
    RegDevice.write d ((operation >>> 16).setWidth 8) ((operation >>> 24).setWidth 8)
  else d

/-- What the device that is selected does. Bit 2 is a write; a byte that is read
gets to bits 15 to 8. -/
def execute (cfgcmd : Word32) (s : I2cCore δ) : I2cCore δ :=
  let i := select cfgcmd
  if cfgcmd.getLsbD 2 then
    { s with
      devices := Function.update s.devices i (writeEnabled cfgcmd s.operation (s.devices i))
      accesses := s.accesses + 1 }
  else
    let (byte, d) := RegDevice.read (s.devices i) (s.operation.setWidth 8)
    { s with
      devices := Function.update s.devices i d
      accesses := s.accesses + 1
      operation := (byte.setWidth 32 <<< 8) ||| (s.operation &&& 0xff) }

/-- `set32(RORC_REG_I2C_CONFIG, …)` -/
def setConfig (cfgcmd : Word32) (s : I2cCore δ) : I2cCore δ :=
  let flags := answers.flags (select cfgcmd) s.accesses
  let s' := if flags = 0 then s.execute cfgcmd else s
  { s' with flags := flags, pending := answers.latency s.accesses }

/-- `get32(RORC_REG_I2C_CONFIG)`: bit 0 is set when the access is complete, with
the error flags in bits 6 and 7. -/
def config (s : I2cCore δ) : Word32 × I2cCore δ :=
  match s.pending with
  | 0 => ((s.flags.setWidth 32 <<< 6) ||| 1, s)
  | k + 1 => (0, { s with pending := k })

omit [RegDevice Word8 Word8 δ]

theorem config_of_idle {s : I2cCore δ} (idle : s.pending = 0) :
    s.config = ((s.flags.setWidth 32 <<< 6) ||| 1, s) := by
  rw [config, idle]

theorem config_of_pending {s : I2cCore δ} {k : ℕ} (left : s.pending = k + 1) :
    s.config = (0, { s with pending := k }) := by
  rw [config, left]

theorem done_ne_zero (flags : BitVec 2) :
    ((flags.setWidth 32 <<< 6) ||| 1 : Word32) &&& 0x1 ≠ 0 := by
  revert flags
  decide

theorem pending_of_busy {s : I2cCore δ} (busy : s.config.1 &&& 0x1 = 0) :
    s.config.2.pending < s.pending := by
  cases left : s.pending with
  | zero =>
      rw [config_of_idle left] at busy
      exact absurd busy (done_ne_zero s.flags)
  | succ k =>
      rw [config_of_pending left]
      exact Nat.lt_succ_self k

end I2cCore

/-! ## The driver -/

/-- Calls of `sysmon` on the master. -/
abbrev I2cCoreCall (δ α : Type) := Throwing SysmonError (I2cCore δ) α

namespace I2cCore

variable {δ : Type}

/-- The loop of `i2c_wait_for_cmpl`. -/
def waitLoop (s : I2cCore δ) : Word32 × I2cCore δ :=
  if _busy : s.config.1 &&& 0x1 = 0 then waitLoop s.config.2 else s.config
termination_by s.pending
decreasing_by exact pending_of_busy _busy

def i2cWaitForCmpl : I2cCoreCall δ Word32 := do
  let s ← get
  let (status, s) := waitLoop s
  set s
  if status &&& 0xc0 ≠ 0 then throw .i2cRxack else pure status

variable [RegDevice Word8 Word8 δ] (answers : I2cAnswers)

def i2cModuleStart (chain slvaddr cmd mode byteEnable : Word8) : I2cCoreCall δ Unit :=
  if 5 < chain ∨ 3 < byteEnable ∨ (cmd ≠ i2cRead ∧ cmd ≠ i2cWrite) ∨ 1 < mode then
    throw .i2cInvalidParam
  else
    let chainSelect := 1#8 <<< chain.toNat
    modify (setConfig answers (Sysmon.cfgcmd chainSelect slvaddr cmd mode byteEnable))

variable (sysmon : Sysmon)

def i2cReadMem (chain slvaddr memaddr : Word8) : I2cCoreCall δ Word8 := do
  modify (setOperation (memaddr.setWidth 32))
  i2cModuleStart answers chain slvaddr i2cRead sysmon.i2cHsmode 1
  let _status ← i2cWaitForCmpl
  let s ← get
  pure (((s.operation >>> 8) &&& 0xff).setWidth 8)

def i2cWriteMem (chain slvaddr memaddr data : Word8) : I2cCoreCall δ Unit := do
  modify (setOperation ((data.setWidth 32 <<< 8) ||| memaddr.setWidth 32))
  i2cModuleStart answers chain slvaddr i2cWrite sysmon.i2cHsmode 1
  let _status ← i2cWaitForCmpl

def i2cWriteMemDual (chain slvaddr memaddr0 data0 memaddr1 data1 : Word8) :
    I2cCoreCall δ Unit := do
  modify (setOperation ((data1.setWidth 32 <<< 24) ||| (memaddr1.setWidth 32 <<< 16) |||
    (data0.setWidth 32 <<< 8) ||| memaddr0.setWidth 32))
  i2cModuleStart answers chain slvaddr i2cWrite sysmon.i2cHsmode 3
  let _status ← i2cWaitForCmpl

/-! ## One command -/

section Fields

variable {mode byteEnable cmd : Word8}

/-- The bits of a command below its addresses. -/
def flagsWord (cmd mode byteEnable : Word8) : Word32 :=
  (mode.setWidth 32 <<< 5) ||| ((byteEnable.setWidth 32 <<< 3) ||| cmd.setWidth 32)

theorem cfgcmd_toNat (chainSelect slvaddr : Word8)
    (small : (flagsWord cmd mode byteEnable).toNat < 2 ^ 8) :
    (Sysmon.cfgcmd chainSelect slvaddr cmd mode byteEnable).toNat =
      chainSelect.toNat * 2 ^ 24 +
        (slvaddr.toNat * 2 ^ 8 + (flagsWord cmd mode byteEnable).toNat) := by
  have chainBound := chainSelect.isLt
  have slvaddrBound := slvaddr.isLt
  have word : Sysmon.cfgcmd chainSelect slvaddr cmd mode byteEnable =
      (chainSelect.setWidth 32 <<< 24) ||| ((slvaddr.setWidth 32 <<< 8) |||
        flagsWord cmd mode byteEnable) := by
    simp only [Sysmon.cfgcmd, flagsWord, BitVec.or_assoc]
  have wide (b : Word8) : (b.setWidth 32).toNat = b.toNat :=
    (BitVec.toNat_setWidth ..).trans (Nat.mod_eq_of_lt (by omega))
  have low : ((slvaddr.setWidth 32 <<< 8) ||| flagsWord cmd mode byteEnable).toNat =
      slvaddr.toNat * 2 ^ 8 + (flagsWord cmd mode byteEnable).toNat := by
    rw [toNat_shiftLeft_or (by rw [wide]; omega) small, wide]
  rw [word, toNat_shiftLeft_or (by rw [wide]; omega) (by rw [low]; omega), wide, low]

theorem select_cfgcmd (chainSelect slvaddr : Word8)
    (small : (flagsWord cmd mode byteEnable).toNat < 2 ^ 8) :
    select (Sysmon.cfgcmd chainSelect slvaddr cmd mode byteEnable) = ⟨chainSelect, slvaddr⟩ := by
  have word := cfgcmd_toNat chainSelect slvaddr small
  have chainBound := chainSelect.isLt
  have slvaddrBound := slvaddr.isLt
  unfold select
  congr 1
  · apply BitVec.eq_of_toNat_eq
    rw [BitVec.toNat_setWidth, BitVec.toNat_ushiftRight, Nat.shiftRight_eq_div_pow, word]
    omega
  · apply BitVec.eq_of_toNat_eq
    rw [BitVec.toNat_setWidth, BitVec.toNat_ushiftRight, Nat.shiftRight_eq_div_pow, word]
    omega

theorem getLsbD_cfgcmd (chainSelect slvaddr : Word8) {k : ℕ} (low : k < 8) :
    (Sysmon.cfgcmd chainSelect slvaddr cmd mode byteEnable).getLsbD k =
      (flagsWord cmd mode byteEnable).getLsbD k := by
  have below : k < 24 := by omega
  simp only [Sysmon.cfgcmd, flagsWord, BitVec.getLsbD_or, BitVec.getLsbD_shiftLeft, below, low,
    decide_true, Bool.not_true, Bool.and_false, Bool.false_and, Bool.false_or, Bool.or_assoc]

end Fields

/-- The bits of the three commands, in either mode. -/
theorem flagsWord_bits {mode : Word8} (small : mode ≤ 1) :
    ((flagsWord i2cRead mode 1).toNat < 2 ^ 8 ∧ (flagsWord i2cRead mode 1).getLsbD 2 = false) ∧
    ((flagsWord i2cWrite mode 1).toNat < 2 ^ 8 ∧ (flagsWord i2cWrite mode 1).getLsbD 2 = true ∧
      (flagsWord i2cWrite mode 1).getLsbD 3 = true ∧
      (flagsWord i2cWrite mode 1).getLsbD 4 = false) ∧
    (flagsWord i2cWrite mode 3).toNat < 2 ^ 8 ∧ (flagsWord i2cWrite mode 3).getLsbD 2 = true ∧
      (flagsWord i2cWrite mode 3).getLsbD 3 = true ∧
      (flagsWord i2cWrite mode 3).getLsbD 4 = true := by
  have modes : mode = 0 ∨ mode = 1 := by bv_omega
  rcases modes with rfl | rfl
  · decide
  · decide

/-- A byte is found where it was put, with other bytes above and below. -/
theorem setWidth_ushiftRight_eq {w : Word32} {b : Word8} (low : ℕ)
    (placed : w.toNat / 2 ^ low % 2 ^ 8 = b.toNat) : (w >>> low).setWidth 8 = b := by
  apply BitVec.eq_of_toNat_eq
  rw [BitVec.toNat_setWidth, BitVec.toNat_ushiftRight, Nat.shiftRight_eq_div_pow, placed]

theorem setWidth_eq_of_toNat {w : Word32} {b : Word8} (placed : w.toNat % 2 ^ 8 = b.toNat) :
    w.setWidth 8 = b := by
  apply BitVec.eq_of_toNat_eq
  rw [BitVec.toNat_setWidth, placed]

theorem setWidth_byte (b : Word8) : (b.setWidth 32).setWidth 8 = b :=
  BitVec.setWidth_setWidth_of_le b (by omega)

/-- `opdata` of one address, and of two. -/
theorem opdata_toNat (data memaddr : Word8) :
    ((data.setWidth 32 <<< 8) ||| memaddr.setWidth 32 : Word32).toNat =
      data.toNat * 2 ^ 8 + memaddr.toNat := by
  have dataBound := data.isLt
  have addrBound := memaddr.isLt
  have wide (b : Word8) : (b.setWidth 32).toNat = b.toNat :=
    (BitVec.toNat_setWidth ..).trans (Nat.mod_eq_of_lt (by omega))
  rw [toNat_shiftLeft_or (by rw [wide]; omega) (by rw [wide]; omega), wide, wide]

theorem opdataDual_toNat (data1 memaddr1 data0 memaddr0 : Word8) :
    ((data1.setWidth 32 <<< 24) ||| (memaddr1.setWidth 32 <<< 16) ||| (data0.setWidth 32 <<< 8) |||
      memaddr0.setWidth 32 : Word32).toNat =
      data1.toNat * 2 ^ 24 +
        (memaddr1.toNat * 2 ^ 16 + (data0.toNat * 2 ^ 8 + memaddr0.toNat)) := by
  have bound1 := data1.isLt
  have bound2 := memaddr1.isLt
  have bound3 := data0.isLt
  have bound4 := memaddr0.isLt
  have wide (b : Word8) : (b.setWidth 32).toNat = b.toNat :=
    (BitVec.toNat_setWidth ..).trans (Nat.mod_eq_of_lt (by omega))
  have low := opdata_toNat data0 memaddr0
  have middle : ((memaddr1.setWidth 32 <<< 16) ||| ((data0.setWidth 32 <<< 8) |||
      memaddr0.setWidth 32) : Word32).toNat =
      memaddr1.toNat * 2 ^ 16 + (data0.toNat * 2 ^ 8 + memaddr0.toNat) := by
    rw [toNat_shiftLeft_or (by rw [wide]; omega) (by rw [low]; omega), wide, low]
  rw [BitVec.or_assoc, BitVec.or_assoc,
    toNat_shiftLeft_or (by rw [wide]; omega) (by rw [middle]; omega), wide, middle]

section Execute

variable {δ : Type} [RegDevice Word8 Word8 δ] (s : I2cCore δ) {mode : Word8}
  (chainSelect slvaddr : Word8)

theorem execute_read (small : mode ≤ 1) (memaddr : Word8) :
    let access := RegDevice.read (s.devices ⟨chainSelect, slvaddr⟩) memaddr
    let s' := (s.setOperation (memaddr.setWidth 32)).execute
      (Sysmon.cfgcmd chainSelect slvaddr i2cRead mode 1)
    s'.devices = Function.update s.devices ⟨chainSelect, slvaddr⟩ access.2 ∧
      s'.accesses = s.accesses + 1 ∧ ((s'.operation >>> 8) &&& 0xff).setWidth 8 = access.1 := by
  obtain ⟨⟨fits, bit2⟩, -, -⟩ := flagsWord_bits small
  have select := select_cfgcmd chainSelect slvaddr fits
  have reads : (Sysmon.cfgcmd chainSelect slvaddr i2cRead mode 1).getLsbD 2 = false :=
    (getLsbD_cfgcmd chainSelect slvaddr (by omega)).trans bit2
  simp only [execute, reads, select, setOperation, setWidth_byte]
  refine ⟨rfl, rfl, ?_⟩
  generalize RegDevice.read (s.devices ⟨chainSelect, slvaddr⟩) memaddr = access
  have mask : (0xff : Word32) = BitVec.ofNat 32 (2 ^ 8 - 1) := rfl
  have low := toNat_and_low (memaddr.setWidth 32 : Word32) (m := 8) (by omega)
  have byte := access.1.isLt
  have wide : (access.1.setWidth 32 : Word32).toNat = access.1.toNat :=
    (BitVec.toNat_setWidth ..).trans (Nat.mod_eq_of_lt (by omega))
  rw [if_neg Bool.false_ne_true, mask]
  apply setWidth_field_eq 8 8 (by omega)
  rw [toNat_shiftLeft_or (by rw [wide]; omega) (by rw [low]; omega), low, wide]
  omega

/-- A write command gives its device the bytes that it enables. -/
theorem execute_of_write {byteEnable : Word8} (operation : Word32)
    (fits : (flagsWord i2cWrite mode byteEnable).toNat < 2 ^ 8)
    (bit2 : (flagsWord i2cWrite mode byteEnable).getLsbD 2 = true)
    (bit3 : (flagsWord i2cWrite mode byteEnable).getLsbD 3 = true) :
    let s' := (s.setOperation operation).execute
      (Sysmon.cfgcmd chainSelect slvaddr i2cWrite mode byteEnable)
    s'.devices = Function.update s.devices ⟨chainSelect, slvaddr⟩
        (RegDevice.writeBoth (s.devices ⟨chainSelect, slvaddr⟩) (operation.setWidth 8)
          ((operation >>> 8).setWidth 8)
          (if (flagsWord i2cWrite mode byteEnable).getLsbD 4 then
            some ((operation >>> 16).setWidth 8, (operation >>> 24).setWidth 8) else none)) ∧
      s'.accesses = s.accesses + 1 := by
  have select := select_cfgcmd chainSelect slvaddr fits
  have bit {k : ℕ} (low : k < 8) :=
    @getLsbD_cfgcmd mode byteEnable i2cWrite chainSelect slvaddr k low
  simp only [execute, select, setOperation, writeEnabled, bit (show 2 < 8 by omega),
    bit (show 3 < 8 by omega), bit (show 4 < 8 by omega), bit2, bit3, if_true]
  cases (flagsWord i2cWrite mode byteEnable).getLsbD 4 with
  | true => exact ⟨rfl, trivial⟩
  | false => exact ⟨rfl, trivial⟩

theorem execute_write (small : mode ≤ 1) (memaddr data : Word8) :
    let s' := (s.setOperation ((data.setWidth 32 <<< 8) ||| memaddr.setWidth 32)).execute
      (Sysmon.cfgcmd chainSelect slvaddr i2cWrite mode 1)
    s'.devices = Function.update s.devices ⟨chainSelect, slvaddr⟩
        (RegDevice.writeBoth (s.devices ⟨chainSelect, slvaddr⟩) memaddr data none) ∧
      s'.accesses = s.accesses + 1 := by
  obtain ⟨-, ⟨fits, bit2, bit3, bit4⟩, -⟩ := flagsWord_bits small
  have opdata := opdata_toNat data memaddr
  have addrBound := memaddr.isLt
  have dataBound := data.isLt
  have written := execute_of_write s chainSelect slvaddr
    ((data.setWidth 32 <<< 8) ||| memaddr.setWidth 32) fits bit2 bit3
  rw [bit4, if_neg Bool.false_ne_true, setWidth_eq_of_toNat (b := memaddr) (by omega),
    setWidth_ushiftRight_eq (b := data) 8 (by omega)] at written
  exact written

theorem execute_writeDual (small : mode ≤ 1) (memaddr0 data0 memaddr1 data1 : Word8) :
    let opdata := (data1.setWidth 32 <<< 24) ||| (memaddr1.setWidth 32 <<< 16) |||
      (data0.setWidth 32 <<< 8) ||| memaddr0.setWidth 32
    let s' := (s.setOperation opdata).execute
      (Sysmon.cfgcmd chainSelect slvaddr i2cWrite mode 3)
    s'.devices = Function.update s.devices ⟨chainSelect, slvaddr⟩
        (RegDevice.writeBoth (s.devices ⟨chainSelect, slvaddr⟩) memaddr0 data0
          (some (memaddr1, data1))) ∧
      s'.accesses = s.accesses + 1 := by
  obtain ⟨-, -, fits, bit2, bit3, bit4⟩ := flagsWord_bits small
  intro opdata
  have word : opdata.toNat = _ := opdataDual_toNat data1 memaddr1 data0 memaddr0
  have addrBound := memaddr0.isLt
  have dataBound := data0.isLt
  have addrBound' := memaddr1.isLt
  have dataBound' := data1.isLt
  have written := execute_of_write s chainSelect slvaddr opdata fits bit2 bit3
  rw [bit4, if_pos rfl, setWidth_eq_of_toNat (b := memaddr0) (by omega),
    setWidth_ushiftRight_eq (b := data0) 8 (by omega),
    setWidth_ushiftRight_eq (b := memaddr1) 16 (by omega),
    setWidth_ushiftRight_eq (b := data1) 24 (by omega)] at written
  exact written

end Execute

/-! ## One access -/

section Access

variable {δ : Type}

/-- The loop ends with the flags of the access. -/
theorem waitLoop_eq (s : I2cCore δ) :
    waitLoop s = ((s.flags.setWidth 32 <<< 6) ||| 1, { s with pending := 0 }) := by
  induction left : s.pending generalizing s with
  | zero => rw [waitLoop, config_of_idle left, dif_neg (done_ne_zero s.flags), ← left]
  | succ k ih =>
      have waits : (0 : Word32) &&& 0x1 = 0 := by decide
      rw [waitLoop, config_of_pending left, dif_pos waits, ih _ rfl]

theorem errors_iff (flags : BitVec 2) :
    ((flags.setWidth 32 <<< 6) ||| 1 : Word32) &&& 0xc0 ≠ 0 ↔ flags ≠ 0 := by
  revert flags
  decide

theorem i2cWaitForCmpl_run (s : I2cCore δ) :
    i2cWaitForCmpl.run.run s =
      (if s.flags ≠ 0 then .error .i2cRxack else .ok ((s.flags.setWidth 32 <<< 6) ||| 1),
        { s with pending := 0 }) := by
  have wait : i2cWaitForCmpl.run.run s =
      (if (waitLoop s).1 &&& 0xc0 ≠ 0 then throw SysmonError.i2cRxack
        else pure (waitLoop s).1 : I2cCoreCall δ Word32).run.run (waitLoop s).2 := rfl
  rw [wait, waitLoop_eq]
  simp only [errors_iff]
  split_ifs
  · rw [run_throw]
  · rw [run_pure]

variable [RegDevice Word8 Word8 δ] (answers : I2cAnswers)

/-- What every access does before it looks at the data. -/
def transact (operation : Word32) (chain slvaddr cmd mode byteEnable : Word8) :
    I2cCoreCall δ Word32 := do
  modify (setOperation operation)
  i2cModuleStart answers chain slvaddr cmd mode byteEnable
  i2cWaitForCmpl

theorem transact_invalid {operation : Word32} {chain slvaddr cmd mode byteEnable : Word8}
    (invalid : 5 < chain) (s : I2cCore δ) :
    (transact answers operation chain slvaddr cmd mode byteEnable).run.run s =
      (.error .i2cInvalidParam, s.setOperation operation) := by
  have start : i2cModuleStart (δ := δ) answers chain slvaddr cmd mode byteEnable =
      throw .i2cInvalidParam := if_pos (.inl invalid)
  unfold transact
  rw [run_bind_ok (run_modify _ _), start]
  exact run_bind_error (run_throw _ _)

theorem transact_run {operation : Word32} {chain slvaddr cmd mode byteEnable : Word8}
    (valid : ¬5 < chain) (enable : byteEnable ≤ 3) (command : cmd = i2cRead ∨ cmd = i2cWrite)
    (small : mode ≤ 1) (s : I2cCore δ) :
    let cfgcmd := Sysmon.cfgcmd (1#8 <<< chain.toNat) slvaddr cmd mode byteEnable
    let started := (s.setOperation operation).setConfig answers cfgcmd
    (transact answers operation chain slvaddr cmd mode byteEnable).run.run s =
      (if started.flags ≠ 0 then .error .i2cRxack
        else .ok ((started.flags.setWidth 32 <<< 6) ||| 1), { started with pending := 0 }) := by
  have start : i2cModuleStart (δ := δ) answers chain slvaddr cmd mode byteEnable =
      modify (setConfig answers (Sysmon.cfgcmd (1#8 <<< chain.toNat) slvaddr cmd mode
        byteEnable)) := by
    refine if_neg ?_
    rintro (chain | enabled | ⟨notRead, notWrite⟩ | mode)
    · exact valid chain
    · exact absurd enable (BitVec.not_le.mpr enabled)
    · exact command.elim notRead notWrite
    · exact absurd small (BitVec.not_le.mpr mode)
  unfold transact
  rw [run_bind_ok (run_modify _ _), start, run_bind_ok (run_modify _ _)]
  exact i2cWaitForCmpl_run _

end Access

end I2cCore

/-! ## The devices as the callers see them -/

/-- An access throws, for its chain or because it is not acknowledged. -/
def I2cAnswers.throwing (answers : I2cAnswers) (i : I2cSlave) (k : ℕ) : Bool :=
  decide (5 < i.chain) || decide (answers.flags i.select k ≠ 0)

theorem I2cAnswers.throwing_iff {answers : I2cAnswers} {i : I2cSlave} {k : ℕ} :
    answers.throwing i k = true ↔ 5 < i.chain ∨ answers.flags i.select k ≠ 0 := by
  rw [throwing, Bool.or_eq_true, decide_eq_true_iff, decide_eq_true_iff]

def I2cSlave.error (i : I2cSlave) : SysmonError :=
  if 5 < i.chain then .i2cInvalidParam else .i2cRxack

/-- Calls on the devices. -/
abbrev I2cBusCall (δ α : Type) := Throwing SysmonError (Metered (I2cSlave → δ)) α

/-- The devices on one chain are told from those on another. -/
theorem I2cSlave.eq_of_select {i j : I2cSlave} (valid : ¬5 < i.chain) (valid' : ¬5 < j.chain)
    (same : i.select = j.select) : i = j := by
  have bound {chain : Word8} (valid : ¬5 < chain) : chain.toNat < 8 := by
    have le : chain.toNat ≤ 5 := Nat.not_lt.mp valid
    omega
  have power {chain : Word8} (valid : ¬5 < chain) :
      (1#8 <<< chain.toNat).toNat = 2 ^ chain.toNat := by
    have small : 2 ^ chain.toNat < 2 ^ 8 := Nat.pow_lt_pow_right (by omega) (bound valid)
    rw [BitVec.toNat_shiftLeft, Nat.shiftLeft_eq]
    exact (congrArg (· % 2 ^ 8) (Nat.one_mul _)).trans (Nat.mod_eq_of_lt small)
  obtain ⟨bits, slvaddr⟩ := I2cSelect.mk.inj same
  have values := congrArg BitVec.toNat bits
  rw [power valid, power valid'] at values
  have chain := BitVec.eq_of_toNat_eq (Nat.pow_right_injective (Nat.le_refl 2) values)
  cases i
  cases j
  exact congrArg₂ I2cSlave.mk chain slvaddr

namespace I2cCore

variable {δ α β : Type}

/-- The six chains show the devices of a bus. -/
structure Shows (core : I2cCore δ) (bus : Metered (I2cSlave → δ)) : Prop where
  devices : ∀ i : I2cSlave, ¬5 < i.chain → core.devices i.select = bus.device i
  accesses : core.accesses = bus.accesses

def ShowsDevices (core : I2cCore δ) (devices : I2cSlave → δ) : Prop :=
  ∀ i : I2cSlave, ¬5 < i.chain → core.devices i.select = devices i

/-- An access changes its device on both sides. -/
theorem Shows.update {core core' : I2cCore δ} {bus : Metered (I2cSlave → δ)} {i : I2cSlave} {d : δ}
    (shows : core.Shows bus) (valid : ¬5 < i.chain)
    (devices : core'.devices = Function.update core.devices i.select d)
    (accesses : core'.accesses = core.accesses + 1) :
    core'.Shows ⟨Function.update bus.device i d, bus.accesses + 1⟩ where
  devices j valid' := by
    show core'.devices j.select = Function.update bus.device i d j
    rw [devices]
    by_cases same : j = i
    · rw [same, Function.update_self, Function.update_self]
    · have other : j.select ≠ i.select := fun bits => same (I2cSlave.eq_of_select valid' valid bits)
      rw [Function.update_of_ne other, Function.update_of_ne same, shows.devices j valid']
  accesses := by rw [accesses, shows.accesses]

/-- Through the registers a call ends as on the bus. -/
def Simulates (call : I2cCoreCall δ α) (m : I2cBusCall δ α) : Prop :=
  ∀ (core : I2cCore δ) (bus : Metered (I2cSlave → δ)), core.Shows bus →
    (call.run.run core).1 = (m.run.run bus).1 ∧ (call.run.run core).2.Shows (m.run.run bus).2

theorem Simulates.pure (a : α) : Simulates (δ := δ) (Pure.pure a) (Pure.pure a) :=
  fun _ _ shows => ⟨rfl, shows⟩

theorem Simulates.bind {call : I2cCoreCall δ α} {m : I2cBusCall δ α} {f : α → I2cCoreCall δ β}
    {g : α → I2cBusCall δ β} (first : Simulates call m) (rest : ∀ a, Simulates (f a) (g a)) :
    Simulates (call >>= f) (m >>= g) := by
  intro core bus shows
  obtain ⟨same, shows'⟩ := first core bus shows
  cases ended : call.run.run core with
  | mk result core' =>
      cases onBus : m.run.run bus with
      | mk result' bus' =>
          rw [ended, onBus] at same shows'
          cases (show result = result' from same)
          cases result with
          | error e =>
              rw [run_bind_error ended, run_bind_error onBus]
              exact ⟨rfl, shows'⟩
          | ok a =>
              rw [run_bind_ok ended, run_bind_ok onBus]
              exact rest a core' bus' shows'

variable [RegDevice Word8 Word8 δ] (answers : I2cAnswers) (sysmon : Sysmon)

/-- One access: `effect` is what the selected device does, and `value` what is
taken from the operation register. -/
theorem simulates_transact {i : I2cSlave} {operation : Word32} {cmd byteEnable : Word8}
    (effect : δ → α × δ) (value : Word32 → α) (enable : byteEnable ≤ 3)
    (command : cmd = i2cRead ∨ cmd = i2cWrite)
    (fits : (flagsWord cmd sysmon.i2cHsmode byteEnable).toNat < 2 ^ 8)
    (executes : ∀ s : I2cCore δ,
      let s' := (s.setOperation operation).execute
        (Sysmon.cfgcmd (1#8 <<< i.chain.toNat) i.slvaddr cmd sysmon.i2cHsmode byteEnable)
      s'.devices = Function.update s.devices i.select (effect (s.devices i.select)).2 ∧
        s'.accesses = s.accesses + 1 ∧ value s'.operation = (effect (s.devices i.select)).1) :
    Simulates
      (transact answers operation i.chain i.slvaddr cmd sysmon.i2cHsmode byteEnable >>= fun _ => do
        let s ← get
        Pure.pure (value s.operation))
      (attempt (answers.throwing i) i.error (BusClient.accessAt i effect)) := by
  intro core bus shows
  -- a chain that does not exist throws before a register is written
  by_cases invalid : 5 < i.chain
  · have throws : answers.throwing i bus.accesses = true :=
      I2cAnswers.throwing_iff.mpr (.inl invalid)
    rw [run_bind_error (transact_invalid answers invalid core), BusClient.attempt_error _ throws,
      I2cSlave.error, if_pos invalid]
    exact ⟨rfl, shows.devices, shows.accesses⟩
  · have selected := select_cfgcmd (1#8 <<< i.chain.toNat) i.slvaddr fits
    have run := @transact_run δ _ answers operation i.chain i.slvaddr cmd sysmon.i2cHsmode
      byteEnable invalid enable command sysmon.i2cHsmode_le core
    obtain ⟨devices, accesses, taken⟩ := executes core
    have slave : (⟨1#8 <<< i.chain.toNat, i.slvaddr⟩ : I2cSelect) = i.select := rfl
    have counted : (core.setOperation operation).accesses = bus.accesses := shows.accesses
    simp only [setConfig, selected, slave, counted] at run
    -- the access is over, and the flags tell whether the device took it
    by_cases acknowledged : answers.flags i.select bus.accesses = 0
    · have quiet : answers.throwing i bus.accesses = false := by
        rw [Bool.eq_false_iff, Ne, I2cAnswers.throwing_iff, not_or, not_not]
        exact ⟨invalid, acknowledged⟩
      rw [acknowledged, if_neg (not_not_intro rfl), if_pos rfl] at run
      rw [run_bind_ok run, run_bind_ok (run_get _), BusClient.attempt_ok _ quiet]
      rw [shows.devices i invalid] at devices taken
      exact ⟨congrArg Except.ok taken, shows.update invalid devices accesses⟩
    · have throws : answers.throwing i bus.accesses = true :=
        I2cAnswers.throwing_iff.mpr (.inr acknowledged)
      rw [if_pos acknowledged, if_neg acknowledged] at run
      rw [run_bind_error run, BusClient.attempt_error _ throws, I2cSlave.error, if_neg invalid]
      exact ⟨rfl, shows.devices, shows.accesses⟩

theorem simulates_i2cReadMem (i : I2cSlave) (memaddr : Word8) :
    Simulates (δ := δ) (i2cReadMem answers sysmon i.chain i.slvaddr memaddr)
      (attempt (answers.throwing i) i.error
        (BusClient.accessAt i fun d : δ => RegDevice.read d memaddr)) := by
  have fits := (flagsWord_bits sysmon.i2cHsmode_le).1.1
  have simulates := simulates_transact answers sysmon (i := i)
    (fun d : δ => RegDevice.read d memaddr)
    (fun operation => ((operation >>> 8) &&& 0xff).setWidth 8) (by decide) (.inl rfl) fits
    fun s => execute_read s _ _ sysmon.i2cHsmode_le memaddr
  unfold transact at simulates
  simp only [bind_assoc] at simulates
  exact simulates

/-- Both ways of writing. -/
def i2cWrites (i : I2cSlave) (addr value : Word8) : Option (Word8 × Word8) → I2cCoreCall δ Unit
  | none => i2cWriteMem answers sysmon i.chain i.slvaddr addr value
  | some (addr1, value1) =>
      i2cWriteMemDual answers sysmon i.chain i.slvaddr addr value addr1 value1

theorem simulates_i2cWrites (i : I2cSlave) (addr value : Word8) (second : Option (Word8 × Word8)) :
    Simulates (δ := δ) (i2cWrites answers sysmon i addr value second)
      (attempt (answers.throwing i) i.error
        (BusClient.accessAt i fun d : δ => ((), RegDevice.writeBoth d addr value second))) := by
  obtain ⟨-, ⟨single, -⟩, dual, -⟩ := flagsWord_bits sysmon.i2cHsmode_le
  have noValue : (do let _ ← get; Pure.pure () : I2cCoreCall δ Unit) = Pure.pure () := rfl
  cases second with
  | none =>
      have simulates := simulates_transact answers sysmon (i := i)
        (fun d : δ => ((), RegDevice.writeBoth d addr value none)) (fun _ => ()) (by decide)
        (.inr rfl) single fun s =>
          have written := execute_write s _ _ sysmon.i2cHsmode_le addr value
          ⟨written.1, written.2, rfl⟩
      unfold transact at simulates
      simp only [bind_assoc, noValue] at simulates
      exact simulates
  | some other =>
      obtain ⟨addr1, value1⟩ := other
      have simulates := simulates_transact answers sysmon (i := i)
        (fun d : δ => ((), RegDevice.writeBoth d addr value (some (addr1, value1)))) (fun _ => ())
        (by decide) (.inr rfl) dual fun s =>
          have written := execute_writeDual s _ _ sysmon.i2cHsmode_le addr value addr1 value1
          ⟨written.1, written.2, rfl⟩
      unfold transact at simulates
      simp only [bind_assoc, noValue] at simulates
      exact simulates

/-- A client through the registers. -/
def runThrough : I2cClient α → I2cCoreCall δ α
  | .done a => Pure.pure a
  | .read i addr next => do
      let value ← i2cReadMem answers sysmon i.chain i.slvaddr addr
      runThrough (next value)
  | .write i addr value second next => do
      i2cWrites answers sysmon i addr value second
      runThrough next

theorem simulates_runThrough (client : I2cClient α) :
    Simulates (δ := δ) (runThrough answers sysmon client)
      (client.run answers.throwing I2cSlave.error) := by
  induction client with
  | done a => exact Simulates.pure a
  | read i addr next ih => exact (simulates_i2cReadMem answers sysmon i addr).bind ih
  | write i addr value second next ih =>
      exact (simulates_i2cWrites answers sysmon i addr value second).bind fun _ => ih

end I2cCore

/-! ## One client after the other -/

/-- A client, and how the devices answer it. -/
structure I2cSession (α : Type) where
  sysmon : Sysmon
  answers : I2cAnswers
  client : I2cClient α

namespace I2cSession

variable {δ α : Type} [RegDevice Word8 Word8 δ]

/-- Through the registers. -/
def run (session : I2cSession α) (core : I2cCore δ) : Except SysmonError α × I2cCore δ :=
  (I2cCore.runThrough session.answers session.sysmon session.client).run.run
    { core with accesses := 0 }

/-- On the devices. -/
def runOnDevices (session : I2cSession α) (devices : I2cSlave → δ) :
    Except SysmonError α × (I2cSlave → δ) :=
  let ended := (session.client.run session.answers.throwing I2cSlave.error).run.run ⟨devices, 0⟩
  (ended.1, ended.2.device)

theorem run_simulates (session : I2cSession α) {core : I2cCore δ} {devices : I2cSlave → δ}
    (same : core.ShowsDevices devices) :
    (session.run core).1 = (session.runOnDevices devices).1 ∧
      (session.run core).2.ShowsDevices (session.runOnDevices devices).2 := by
  obtain ⟨result, shows⟩ := I2cCore.simulates_runThrough session.answers session.sysmon
    session.client { core with accesses := 0 } ⟨devices, 0⟩ ⟨same, rfl⟩
  exact ⟨result, shows.devices⟩

/-- A client of one device. -/
theorem run_of_addresses (session : I2cSession α) {i : I2cSlave} (valid : ¬5 < i.chain)
    (only : session.client.Addresses (· = i)) (core : I2cCore δ) :
    let alone := (session.client.runOn (session.answers.throwing i) i.error).run.run
      ⟨core.devices i.select, 0⟩
    (session.run core).1 = alone.1 ∧ (session.run core).2.devices i.select = alone.2.device ∧
      ∀ j : I2cSlave, ¬5 < j.chain → j ≠ i →
        (session.run core).2.devices j.select = core.devices j.select := by
  have shown : core.ShowsDevices fun i => core.devices i.select := fun _ _ => rfl
  obtain ⟨result, same⟩ := session.run_simulates shown
  have onBus : (session.client.run session.answers.throwing I2cSlave.error).run.run
      ⟨fun i => core.devices i.select, 0⟩ = _ := BusClient.run_of_addresses only _ 0
  simp only [runOnDevices, onBus] at result same
  refine ⟨result, (same i valid).trans (Function.update_self ..), fun j valid' other => ?_⟩
  exact (same j valid').trans (Function.update_of_ne other _ _)

/-- A client leaves alone what it does not address. -/
theorem run_device_of_addresses (session : I2cSession α) {P : I2cSlave → Prop}
    (only : session.client.Addresses P) {i : I2cSlave} (valid : ¬5 < i.chain) (other : ¬P i)
    (core : I2cCore δ) : (session.run core).2.devices i.select = core.devices i.select := by
  have shown : core.ShowsDevices fun i => core.devices i.select := fun _ _ => rfl
  obtain ⟨-, same⟩ := session.run_simulates shown
  exact (same i valid).trans (BusClient.run_device_of_addresses only other _)

end I2cSession

/-- **The I2C master.** Clients that are run one after the other through the two
registers, whatever they do with what they read, and however late the devices
answer or whether they do, return or throw what they return or throw on the
devices themselves, and leave the devices the same. -/
theorem i2c_sessions_refine {δ α : Type} [RegDevice Word8 Word8 δ] (sessions : List (I2cSession α))
    {core : I2cCore δ} {devices : I2cSlave → δ} (same : core.ShowsDevices devices) :
    (callAll I2cSession.run sessions core).1 =
        (callAll I2cSession.runOnDevices sessions devices).1 ∧
      (callAll I2cSession.run sessions core).2.ShowsDevices
        (callAll I2cSession.runOnDevices sessions devices).2 :=
  callAll_simulates (fun session _ _ same => session.run_simulates same) sessions same

/-- Memories that hold 0x3c everywhere; the first chain does not acknowledge. -/
def memoryCore : I2cCore (Word8 → Word8) := ⟨fun _ _ => 0x3c, 0, 0, 0, 0⟩

def firstChainSilent : I2cAnswers where
  flags i _ := if i.chainSelect = 1 then 1 else 0
  latency k := k + 2

/-- A dual write that is read back, a device that is not there, and a chain that
does not exist. -/
theorem i2c_sessions_refine_writeThenRead :
    let slow : Sysmon := ⟨0, by decide⟩
    let fast : Sysmon := ⟨1, by decide⟩
    let sessions : List (I2cSession Word8) :=
      [⟨fast, firstChainSilent, .write ⟨4, 0x55⟩ 137 0x10 (some (135, 0x40))
          (.read ⟨4, 0x55⟩ 135 .done)⟩,
        ⟨slow, firstChainSilent, .read ⟨0, 0x50⟩ 148 .done⟩,
        ⟨slow, firstChainSilent, .read ⟨6, 0x50⟩ 148 .done⟩]
    let devices : I2cSlave → Word8 → Word8 := fun _ _ => 0x3c
    (callAll I2cSession.run sessions memoryCore).1 =
        (callAll I2cSession.runOnDevices sessions devices).1 ∧
      (callAll I2cSession.run sessions memoryCore).2.ShowsDevices
        (callAll I2cSession.runOnDevices sessions devices).2 :=
  i2c_sessions_refine _ fun _ _ => rfl

end Librorc
