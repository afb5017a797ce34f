import Librorc.Dma.Device
import Librorc.Lib.RegFile

/-!
# `gtx`: the PLL settings behind the DRP port

`drpSetPllConfig` encodes the settings and merges them into thirteen fields of
the transceiver's registers, reading each register first and writing it only
when it changes. `drpGetPllConfig` decodes the transmitter's fields. The
reference clock of the settings is a floating point number that neither
function looks at, and is left out.
-/

namespace Librorc

open Librorc.Lib

/-- `gtxpll_settings`, but for `refclk`. -/
@[ext] structure PllSettings where
  clk25Div : Word8
  n1 : Word8
  n2 : Word8
  d : Word8
  m : Word8
  txTdccCfg : Word8
  cpCfg : Word8
deriving DecidableEq

/-- Settings the PLL knows. -/
structure PllSettings.Valid (pll : PllSettings) : Prop where
  n1 : pll.n1 = 4 ∨ pll.n1 = 5
  n2 : pll.n2 = 2 ∨ pll.n2 = 4 ∨ pll.n2 = 5
  d : pll.d = 1 ∨ pll.d = 2 ∨ pll.d = 4
  m : pll.m = 1 ∨ pll.m = 2
  clk25Div : 1 ≤ pll.clk25Div.toNat ∧ pll.clk25Div.toNat ≤ 32
  txTdccCfg : pll.txTdccCfg.toNat ≤ 3

/-- `gtxpll_supported_cfgs`. -/
def gtxpllSupportedCfgs : List PllSettings :=
  [⟨9, 5, 2, 2, 1, 0, 0x0d⟩, ⟨10, 4, 2, 1, 1, 3, 0x0d⟩, ⟨9, 5, 2, 1, 1, 3, 0x0d⟩,
    ⟨9, 5, 5, 1, 2, 3, 0x07⟩, ⟨7, 5, 2, 1, 1, 3, 0x0d⟩]

theorem gtxpllSupportedCfgs_valid {pll : PllSettings} (supported : pll ∈ gtxpllSupportedCfgs) :
    pll.Valid := by
  simp only [gtxpllSupportedCfgs, List.mem_cons, List.not_mem_nil, or_false] at supported
  rcases supported with rfl | rfl | rfl | rfl | rfl <;> constructor <;> decide

/-! ## The port -/

/-- The registers of the transceiver behind the port. `pending` is the number
of reads of the control register that will still find it busy; command number
`k` keeps it busy for `latency k` of them. -/
structure GtxDrp where
  drp : Word8 → Word16
  result : Word16
  pending : Nat
  latency : Nat → Nat
  issued : Nat

namespace GtxDrp

/-- `setPciReg(RORC_REG_GTX_DRP_CTRL, …)`: bit 24 is write, bits 23 to 16 the
address, bits 15 to 0 the data. -/
def setDrpCtrl (s : GtxDrp) (cmd : Word32) : GtxDrp :=
  let addr : Word8 := (cmd >>> 16).setWidth 8
  let drp := if cmd.getLsbD 24 then Function.update s.drp addr (cmd.setWidth 16) else s.drp
  { s with drp, result := drp addr, pending := s.latency s.issued, issued := s.issued + 1 }

/-- `pciReg(RORC_REG_GTX_DRP_CTRL)`: bit 31 is busy. -/
def drpCtrl (s : GtxDrp) : Word32 × GtxDrp :=
  match s.pending with
  | 0 => (s.result.setWidth 32, s)
  | k + 1 => (((1 : Word32) <<< 31) ||| s.result.setWidth 32, { s with pending := k })

theorem drpCtrl_of_idle {s : GtxDrp} (idle : s.pending = 0) :
    s.drpCtrl = (s.result.setWidth 32, s) := by
  rw [drpCtrl, idle]

theorem drpCtrl_of_pending {s : GtxDrp} {k : Nat} (busy : s.pending = k + 1) :
    s.drpCtrl = (((1 : Word32) <<< 31) ||| s.result.setWidth 32, { s with pending := k }) := by
  rw [drpCtrl, busy]

/-- Only a port with a command pending says busy. -/
theorem pending_of_busy {s : GtxDrp} (busy : s.drpCtrl.1.getLsbD 31 = true) :
    s.drpCtrl.2.pending < s.pending := by
  cases left : s.pending with
  | zero =>
      rw [drpCtrl_of_idle left, BitVec.getLsbD_setWidth, BitVec.getLsbD_of_ge _ 31 (by omega)]
        at busy
      cases busy
  | succ k =>
      rw [drpCtrl_of_pending left]
      exact Nat.lt_succ_self k

end GtxDrp

/-! ## The driver -/

namespace Gtx

/-- The loop has no other end. -/
def waitForDrpDenToDeassert (s : GtxDrp) : Word32 × GtxDrp :=
  if _busy : s.drpCtrl.1.getLsbD 31 = true then waitForDrpDenToDeassert s.drpCtrl.2
  else s.drpCtrl
termination_by s.pending
decreasing_by exact GtxDrp.pending_of_busy _busy

def drpRead (drpAddr : Word8) (s : GtxDrp) : Word16 × GtxDrp :=
  let drpCmd : Word32 := ((0 : Word32) <<< 24) ||| (drpAddr.setWidth 32 <<< 16) ||| 0x00
  let (drpStatus, s) := waitForDrpDenToDeassert (s.setDrpCtrl drpCmd)
  ((drpStatus &&& 0xffff).setWidth 16, s)

def drpWrite (drpAddr : Word8) (drpData : Word16) (s : GtxDrp) : GtxDrp :=
  let drpCmd : Word32 :=
    ((1 : Word32) <<< 24) ||| (drpAddr.setWidth 32 <<< 16) ||| drpData.setWidth 32
  (waitForDrpDenToDeassert (s.setDrpCtrl drpCmd)).2

def drpUpdateField (drpAddr : Word8) (fieldData : Word16) (fieldBit fieldWidth : Nat)
    (s : GtxDrp) : GtxDrp :=
  let (drpDataOrig, s) := drpRead drpAddr s
  let bitmask : Word16 := (((1 : Word32) <<< fieldWidth) - 1).setWidth 16
  let cleared : Word16 :=
    (drpDataOrig.setWidth 32 &&& ~~~(bitmask.setWidth 32 <<< fieldBit)).setWidth 16
  let drpDataNew : Word16 :=
    (cleared.setWidth 32 ||| ((fieldData &&& bitmask).setWidth 32 <<< fieldBit)).setWidth 16
  if drpDataOrig ≠ drpDataNew then (drpRead 0 (drpWrite drpAddr drpDataNew s)).2 else s

def divseloutReg2val (reg : Word8) : Word8 :=
  let ret := if reg = 0 then 1 else 4
  if reg = 1 then 2 else ret

def divseloutVal2reg (val : Word8) : Word8 :=
  let ret := if val = 1 then 0 else 2
  if val = 2 then 1 else ret

def divselfbReg2val (reg : Word8) : Word8 :=
  let ret := if reg = 0 then 2 else 5
  if reg = 2 then 4 else ret

def divselfbVal2reg (val : Word8) : Word8 :=
  let ret := if val = 2 then 0 else 3
  if val = 4 then 2 else ret

def divselfb45Reg2val (reg : Word8) : Word8 := if reg = 1 then 5 else 4
def divselfb45Val2reg (val : Word8) : Word8 := if val = 5 then 1 else 0
def clk25divReg2val (reg : Word8) : Word8 := reg + 1
def clk25divVal2reg (val : Word8) : Word8 := val - 1
def divselrefReg2val (reg : Word8) : Word8 := if reg = 16 then 1 else 2
def divselrefVal2reg (val : Word8) : Word8 := if val = 1 then 16 else 0

def drpGetPllConfig (s : GtxDrp) : PllSettings × GtxDrp :=
  let (drpdata, s) := drpRead 0x1f s
  let n1 := divselfb45Reg2val (((drpdata >>> 6) &&& 0x1).setWidth 8)
  let n2 := divselfbReg2val (((drpdata >>> 1) &&& 0x1f).setWidth 8)
  let d := divseloutReg2val (((drpdata >>> 14) &&& 0x3).setWidth 8)
  let (drpdata, s) := drpRead 0x20 s
  let m := divselrefReg2val (((drpdata >>> 1) &&& 0x1f).setWidth 8)
  let (drpdata, s) := drpRead 0x23 s
  let clk25Div := clk25divReg2val (((drpdata >>> 10) &&& 0x1f).setWidth 8)
  let (drpdata, s) := drpRead 0x39 s
  let txTdccCfg := ((drpdata >>> 14) &&& 0x03).setWidth 8
  let (drpdata, s) := drpRead 0x1e s
  let cpCfg := ((drpdata >>> 8) &&& 0xff).setWidth 8
  ({ clk25Div, n1, n2, d, m, txTdccCfg, cpCfg }, s)

def drpSetPllConfig (pll : PllSettings) (s : GtxDrp) : GtxDrp :=
  let n1Reg := (divselfb45Val2reg pll.n1).setWidth 16
  let n2Reg := (divselfbVal2reg pll.n2).setWidth 16
  let dReg := (divseloutVal2reg pll.d).setWidth 16
  let mReg := (divselrefVal2reg pll.m).setWidth 16
  let clkdiv := (clk25divVal2reg pll.clk25Div).setWidth 16
  -- TXPLL
  let s := drpUpdateField 0x1f n1Reg 6 1 s
  let s := drpUpdateField 0x1f n2Reg 1 5 s
  let s := drpUpdateField 0x1f dReg 14 2 s
  let s := drpUpdateField 0x20 mReg 1 5 s
  let s := drpUpdateField 0x23 clkdiv 10 5 s
  let s := drpUpdateField 0x1e (pll.cpCfg.setWidth 16) 8 8 s
  -- RXPLL
  let s := drpUpdateField 0x1b n1Reg 6 1 s
  let s := drpUpdateField 0x1b n2Reg 1 5 s
  let s := drpUpdateField 0x1b dReg 14 2 s
  let s := drpUpdateField 0x1c mReg 1 5 s
  let s := drpUpdateField 0x17 clkdiv 5 5 s
  let s := drpUpdateField 0x1a (pll.cpCfg.setWidth 16) 8 8 s
  -- Common
  drpUpdateField 0x39 (pll.txTdccCfg.setWidth 16) 14 2 s

/-! ## What a command does -/

theorem waitForDrpDenToDeassert_eq (s : GtxDrp) :
    waitForDrpDenToDeassert s = (s.result.setWidth 32, { s with pending := 0 }) := by
  induction left : s.pending generalizing s with
  | zero =>
      have idle : ¬ (s.result.setWidth 32).getLsbD 31 = true := by
        rw [BitVec.getLsbD_setWidth, BitVec.getLsbD_of_ge _ 31 (by omega)]
        decide
      rw [waitForDrpDenToDeassert, GtxDrp.drpCtrl_of_idle left, dif_neg idle, ← left]
  | succ k ih =>
      have busy : (((1 : Word32) <<< 31) ||| s.result.setWidth 32).getLsbD 31 = true := by
        rw [BitVec.getLsbD_or]
        exact Bool.or_eq_true_iff.mpr (Or.inl (by decide))
      rw [waitForDrpDenToDeassert, GtxDrp.drpCtrl_of_pending left, dif_pos busy, ih _ rfl]

/-- The address of a command, whatever its flag. -/
theorem drpCmd_addr (flag : Word32) (addr : Word8) (data : Word32) (small : data.toNat < 2 ^ 16) :
    (((flag <<< 24) ||| (addr.setWidth 32 <<< 16) ||| data) >>> 16).setWidth 8 = addr := by
  apply BitVec.eq_of_getLsbD_eq
  intro i inside
  have under : 16 + i < 24 := by omega
  have wide : 16 + i < 32 := by omega
  have notLow : ¬ 16 + i < 16 := by omega
  have noData : data.getLsbD (16 + i) = false := by
    refine Nat.testBit_lt_two_pow (lt_of_lt_of_le small ?_)
    exact Nat.pow_le_pow_right (by omega) (Nat.le_add_right 16 i)
  simp only [BitVec.getLsbD_setWidth, BitVec.getLsbD_ushiftRight, BitVec.getLsbD_or,
    BitVec.getLsbD_shiftLeft, noData, inside, under, wide, notLow, Nat.add_sub_cancel_left,
    decide_true, decide_false, Bool.not_true, Bool.not_false, Bool.true_and, Bool.false_and,
    Bool.and_false, Bool.false_or, Bool.or_false]
  rw [decide_eq_true (by omega), Bool.true_and]

/-- The data of a command. -/
theorem drpCmd_data (flag : Word32) (addr : Word8) (data : Word16) :
    ((flag <<< 24) ||| (addr.setWidth 32 <<< 16) ||| data.setWidth 32).setWidth 16 = data := by
  apply BitVec.eq_of_getLsbD_eq
  intro i inside
  simp [inside]

theorem setDrpCtrl_read (addr : Word8) (s : GtxDrp) :
    s.setDrpCtrl (((0 : Word32) <<< 24) ||| (addr.setWidth 32 <<< 16) ||| 0x00) =
      { s with result := s.drp addr, pending := s.latency s.issued, issued := s.issued + 1 } := by
  have noWrite : (((0 : Word32) <<< 24) ||| (addr.setWidth 32 <<< 16) |||
      0x00).getLsbD 24 = false := by
    simp
  rw [GtxDrp.setDrpCtrl, noWrite, drpCmd_addr 0 addr 0x00 (by decide)]
  rfl

theorem setDrpCtrl_write_drp (addr : Word8) (data : Word16) (s : GtxDrp) :
    (s.setDrpCtrl (((1 : Word32) <<< 24) ||| (addr.setWidth 32 <<< 16) ||| data.setWidth 32)).drp =
      Function.update s.drp addr data := by
  have isWrite : (((1 : Word32) <<< 24) ||| (addr.setWidth 32 <<< 16) |||
      data.setWidth 32).getLsbD 24 = true := by
    simp
  have small : (data.setWidth 32 : Word32).toNat < 2 ^ 16 := by
    rw [BitVec.toNat_setWidth]
    exact Nat.lt_of_le_of_lt (Nat.mod_le ..) data.isLt
  rw [GtxDrp.setDrpCtrl, isWrite, drpCmd_addr 1 addr _ small, drpCmd_data, if_pos rfl]

@[simp] theorem drpRead_fst (addr : Word8) (s : GtxDrp) : (drpRead addr s).1 = s.drp addr := by
  simp only [drpRead, setDrpCtrl_read, waitForDrpDenToDeassert_eq]
  have cut : (s.drp addr).toNat < 2 ^ 16 := (s.drp addr).isLt
  apply setWidth_low_eq 16 (by omega)
  rw [BitVec.toNat_setWidth]
  omega

@[simp] theorem drpRead_drp (addr : Word8) (s : GtxDrp) : (drpRead addr s).2.drp = s.drp := by
  simp only [drpRead, setDrpCtrl_read, waitForDrpDenToDeassert_eq]

@[simp] theorem drpWrite_drp (addr : Word8) (data : Word16) (s : GtxDrp) :
    (drpWrite addr data s).drp = Function.update s.drp addr data := by
  simp only [drpWrite, waitForDrpDenToDeassert_eq, setDrpCtrl_write_drp]

/-! ## Updating a field -/

/-- Clearing and merging is done in 32 bits, and cut. -/
theorem merge_eq (orig data mask : Word16) (bit : Nat) :
    (((orig.setWidth 32 &&& ~~~(mask.setWidth 32 <<< bit)).setWidth 16 : Word16).setWidth 32 |||
        ((data &&& mask).setWidth 32 <<< bit) : Word32).setWidth 16 =
      (orig &&& ~~~(mask <<< bit)) ||| ((data &&& mask) <<< bit) := by
  apply BitVec.eq_of_getLsbD_eq
  intro i inside
  simp [inside]

/-- Skipped or not, the field is set. -/
theorem drpUpdateField_drp (addr : Word8) (data : Word16) (bit : Nat) {width : Nat}
    (fits : width ≤ 16) (s : GtxDrp) :
    (drpUpdateField addr data bit width s).drp = RegField.set ⟨addr, bit, width⟩ data s.drp := by
  have mask : ((((1 : Word32) <<< width) - 1).setWidth 16 : Word16) =
      BitVec.ofNat 16 (2 ^ width - 1) :=
    (congrArg (BitVec.setWidth 16) (one_shiftLeft_sub_one (by omega))).trans
      (BitVec.setWidth_ofNat_of_le (by omega) _)
  simp only [drpUpdateField, drpRead_fst, merge_eq, mask]
  change GtxDrp.drp (if s.drp addr ≠ setField (s.drp addr) data bit width then _ else _) = _
  split
  · rw [drpRead_drp, drpWrite_drp, drpRead_drp]
    rfl
  -- the register held the value already
  · rename_i same
    rw [drpRead_drp, RegField.set, ← not_not.mp same, Function.update_eq_self]

end Gtx

/-! ## The thirteen fields -/

namespace PllField

def txN1 : RegField Word8 := ⟨0x1f, 6, 1⟩
def txN2 : RegField Word8 := ⟨0x1f, 1, 5⟩
def txD : RegField Word8 := ⟨0x1f, 14, 2⟩
def txM : RegField Word8 := ⟨0x20, 1, 5⟩
def txClk25 : RegField Word8 := ⟨0x23, 10, 5⟩
def txCp : RegField Word8 := ⟨0x1e, 8, 8⟩
def rxN1 : RegField Word8 := ⟨0x1b, 6, 1⟩
def rxN2 : RegField Word8 := ⟨0x1b, 1, 5⟩
def rxD : RegField Word8 := ⟨0x1b, 14, 2⟩
def rxM : RegField Word8 := ⟨0x1c, 1, 5⟩
def rxClk25 : RegField Word8 := ⟨0x17, 5, 5⟩
def rxCp : RegField Word8 := ⟨0x1a, 8, 8⟩
def txTdcc : RegField Word8 := ⟨0x39, 14, 2⟩

/-- All of them, in the order they are set. -/
def all : List (RegField Word8) :=
  [txN1, txN2, txD, txM, txClk25, txCp, rxN1, rxN2, rxD, rxM, rxClk25, rxCp, txTdcc]

/-- The receiver's fields, each with the transmitter's. -/
def pairs : List (RegField Word8 × RegField Word8) :=
  [(rxN1, txN1), (rxN2, txN2), (rxD, txD), (rxM, txM), (rxClk25, txClk25), (rxCp, txCp)]

end PllField

namespace PllSettings

open Gtx PllField

/-- What each field is set to. -/
def entries (pll : PllSettings) : List (RegField Word8 × Word16) :=
  let n1Reg := (divselfb45Val2reg pll.n1).setWidth 16
  let n2Reg := (divselfbVal2reg pll.n2).setWidth 16
  let dReg := (divseloutVal2reg pll.d).setWidth 16
  let mReg := (divselrefVal2reg pll.m).setWidth 16
  let clkdiv := (clk25divVal2reg pll.clk25Div).setWidth 16
  let cpCfg := pll.cpCfg.setWidth 16
  [(txN1, n1Reg), (txN2, n2Reg), (txD, dReg), (txM, mReg), (txClk25, clkdiv), (txCp, cpCfg),
    (rxN1, n1Reg), (rxN2, n2Reg), (rxD, dReg), (rxM, mReg), (rxClk25, clkdiv), (rxCp, cpCfg),
    (txTdcc, pll.txTdccCfg.setWidth 16)]

theorem entries_fields (pll : PllSettings) : pll.entries.map Prod.fst = all := rfl

theorem entries_apart (pll : PllSettings) :
    pll.entries.Pairwise fun e e' => e.1.Apart e'.1 := by
  have apart : all.Pairwise RegField.Apart := by decide
  rw [← entries_fields pll, List.pairwise_map] at apart
  exact apart

theorem fits_of_mem {f : RegField Word8} (member : f ∈ all) : f.low + f.width ≤ 16 := by
  have fit : ∀ f ∈ all, f.low + f.width ≤ 16 := by decide
  exact fit f member

end PllSettings

namespace Gtx

open PllField

/-- The thirteen updates, seen at the registers. -/
theorem drpSetPllConfig_drp (pll : PllSettings) (s : GtxDrp) :
    (drpSetPllConfig pll s).drp = RegField.setAll pll.entries s.drp := by
  simp only [drpSetPllConfig]
  iterate 13 rw [drpUpdateField_drp _ _ _ (by omega)]
  rfl

/-- Each field then shows the low bits of its encoding. -/
theorem get_drpSetPllConfig {pll : PllSettings} {f : RegField Word8} {v : Word16}
    (member : (f, v) ∈ pll.entries) (s : GtxDrp) :
    f.get (drpSetPllConfig pll s).drp = getField v 0 f.width := by
  have listed : f ∈ all := pll.entries_fields ▸ List.mem_map_of_mem (f := Prod.fst) member
  rw [drpSetPllConfig_drp]
  exact RegField.get_setAll pll.entries_apart member _ (PllSettings.fits_of_mem listed)

/-- The transmitter's fields, decoded. -/
theorem drpGetPllConfig_fst (s : GtxDrp) :
    (drpGetPllConfig s).1 =
      { clk25Div := clk25divReg2val ((txClk25.get s.drp).setWidth 8)
        n1 := divselfb45Reg2val ((txN1.get s.drp).setWidth 8)
        n2 := divselfbReg2val ((txN2.get s.drp).setWidth 8)
        d := divseloutReg2val ((txD.get s.drp).setWidth 8)
        m := divselrefReg2val ((txM.get s.drp).setWidth 8)
        txTdccCfg := (txTdcc.get s.drp).setWidth 8
        cpCfg := (txCp.get s.drp).setWidth 8 } := by
  simp only [drpGetPllConfig, drpRead_fst, drpRead_drp]
  rfl

/-! ## Decoding what was encoded -/

/-- A byte survives a field that is wide enough. -/
theorem setWidth_getField_of_lt {v : Word8} {width : Nat} (fits : width ≤ 16)
    (small : v.toNat < 2 ^ width) : (getField (v.setWidth 16) 0 width).setWidth 8 = v := by
  have wide : (v.setWidth 16 : Word16).toNat = v.toNat := by
    rw [BitVec.toNat_setWidth]
    exact Nat.mod_eq_of_lt (by omega)
  apply setWidth_field_eq 0 width fits
  rw [wide, Nat.pow_zero, Nat.div_one, Nat.mod_eq_of_lt small, Nat.mod_eq_of_lt v.isLt]

theorem divselfb45_roundtrip {v : Word8} (known : v = 4 ∨ v = 5) :
    divselfb45Reg2val ((getField ((divselfb45Val2reg v).setWidth 16) 0 1).setWidth 8) = v := by
  rcases known with rfl | rfl <;> rfl

theorem divselfb_roundtrip {v : Word8} (known : v = 2 ∨ v = 4 ∨ v = 5) :
    divselfbReg2val ((getField ((divselfbVal2reg v).setWidth 16) 0 5).setWidth 8) = v := by
  rcases known with rfl | rfl | rfl <;> rfl

theorem divselout_roundtrip {v : Word8} (known : v = 1 ∨ v = 2 ∨ v = 4) :
    divseloutReg2val ((getField ((divseloutVal2reg v).setWidth 16) 0 2).setWidth 8) = v := by
  rcases known with rfl | rfl | rfl <;> rfl

theorem divselref_roundtrip {v : Word8} (known : v = 1 ∨ v = 2) :
    divselrefReg2val ((getField ((divselrefVal2reg v).setWidth 16) 0 5).setWidth 8) = v := by
  rcases known with rfl | rfl <;> rfl

theorem clk25div_roundtrip {v : Word8} (known : 1 ≤ v.toNat ∧ v.toNat ≤ 32) :
    clk25divReg2val ((getField ((clk25divVal2reg v).setWidth 16) 0 5).setWidth 8) = v := by
  have small : (clk25divVal2reg v).toNat < 2 ^ 5 := by
    rw [clk25divVal2reg]
    bv_omega
  rw [setWidth_getField_of_lt (by omega) small, clk25divReg2val, clk25divVal2reg]
  exact BitVec.sub_add_cancel v 1

/-! ## The round trip -/

/-- The settings come back. -/
theorem drpGetPllConfig_drpSetPllConfig {pll : PllSettings} (valid : pll.Valid) (s : GtxDrp) :
    (drpGetPllConfig (drpSetPllConfig pll s)).1 = pll := by
  have shows {f : RegField Word8} {v : Word16} (member : (f, v) ∈ pll.entries) :=
    get_drpSetPllConfig member s
  rw [drpGetPllConfig_fst]
  apply PllSettings.ext
  case clk25Div =>
    rw [shows (List.mem_of_getElem? (i := 4) rfl)]
    exact clk25div_roundtrip valid.clk25Div
  case n1 =>
    rw [shows (List.mem_of_getElem? (i := 0) rfl)]
    exact divselfb45_roundtrip valid.n1
  case n2 =>
    rw [shows (List.mem_of_getElem? (i := 1) rfl)]
    exact divselfb_roundtrip valid.n2
  case d =>
    rw [shows (List.mem_of_getElem? (i := 2) rfl)]
    exact divselout_roundtrip valid.d
  case m =>
    rw [shows (List.mem_of_getElem? (i := 3) rfl)]
    exact divselref_roundtrip valid.m
  case txTdccCfg =>
    rw [shows (List.mem_of_getElem? (i := 12) rfl)]
    exact setWidth_getField_of_lt (by decide) (Nat.lt_succ_of_le valid.txTdccCfg)
  case cpCfg =>
    rw [shows (List.mem_of_getElem? (i := 5) rfl)]
    exact setWidth_getField_of_lt (by decide) pll.cpCfg.isLt

/-- The receiver is set like the transmitter. -/
theorem pairs_drpSetPllConfig (pll : PllSettings) (s : GtxDrp) {rx tx : RegField Word8}
    (paired : (rx, tx) ∈ pairs) :
    rx.get (drpSetPllConfig pll s).drp = tx.get (drpSetPllConfig pll s).drp := by
  have shows {f : RegField Word8} {v : Word16} (member : (f, v) ∈ pll.entries) :=
    get_drpSetPllConfig member s
  -- both fields of a pair have one encoding and one width
  have common : ∃ v, (rx, v) ∈ pll.entries ∧ (tx, v) ∈ pll.entries ∧ rx.width = tx.width := by
    simp only [pairs, List.mem_cons, Prod.mk.injEq, List.not_mem_nil, or_false] at paired
    rcases paired with ⟨rfl, rfl⟩ | ⟨rfl, rfl⟩ | ⟨rfl, rfl⟩ | ⟨rfl, rfl⟩ | ⟨rfl, rfl⟩ | ⟨rfl, rfl⟩
    · exact ⟨_, List.mem_of_getElem? (i := 6) rfl, List.mem_of_getElem? (i := 0) rfl, rfl⟩
    · exact ⟨_, List.mem_of_getElem? (i := 7) rfl, List.mem_of_getElem? (i := 1) rfl, rfl⟩
    · exact ⟨_, List.mem_of_getElem? (i := 8) rfl, List.mem_of_getElem? (i := 2) rfl, rfl⟩
    · exact ⟨_, List.mem_of_getElem? (i := 9) rfl, List.mem_of_getElem? (i := 3) rfl, rfl⟩
    · exact ⟨_, List.mem_of_getElem? (i := 10) rfl, List.mem_of_getElem? (i := 4) rfl, rfl⟩
    · exact ⟨_, List.mem_of_getElem? (i := 11) rfl, List.mem_of_getElem? (i := 5) rfl, rfl⟩
  obtain ⟨v, rxEntry, txEntry, width⟩ := common
  rw [shows rxEntry, shows txEntry, width]

/-- What no field covers stays. -/
theorem getLsbD_drpSetPllConfig (pll : PllSettings) (s : GtxDrp) {addr : Word8} {i : Nat}
    (free : ∀ f ∈ all, ¬ f.Covers addr i) :
    ((drpSetPllConfig pll s).drp addr).getLsbD i = (s.drp addr).getLsbD i := by
  rw [drpSetPllConfig_drp]
  apply RegField.getLsbD_setAll
  intro entry member
  exact free entry.1 (pll.entries_fields ▸ List.mem_map_of_mem member)

/-- Whatever the registers held, setting the PLL and reading it back returns
the settings, sets the receiver like the transmitter, and leaves every bit
outside the thirteen fields as it was. -/
theorem pll_roundtrip {pll : PllSettings} (valid : pll.Valid) (s : GtxDrp) :
    (drpGetPllConfig (drpSetPllConfig pll s)).1 = pll ∧
      (∀ rx tx, (rx, tx) ∈ PllField.pairs →
        rx.get (drpSetPllConfig pll s).drp = tx.get (drpSetPllConfig pll s).drp) ∧
      ∀ addr i, (∀ f ∈ PllField.all, ¬ f.Covers addr i) →
        ((drpSetPllConfig pll s).drp addr).getLsbD i = (s.drp addr).getLsbD i :=
  ⟨drpGetPllConfig_drpSetPllConfig valid s,
    fun _ _ paired => pairs_drpSetPllConfig pll s paired,
    fun _ _ free => getLsbD_drpSetPllConfig pll s free⟩

/-- A supported configuration, written to registers full of ones. -/
theorem pll_roundtrip_ones :
    let pll : PllSettings := ⟨9, 5, 5, 1, 2, 3, 0x07⟩
    let s := drpSetPllConfig pll ⟨fun _ => 0xffff, 0, 0, fun _ => 3, 0⟩
    (drpGetPllConfig s).1 = pll ∧ rxN2.get s.drp = txN2.get s.drp ∧
      (s.drp 0x1f).getLsbD 0 = true := by
  have valid := gtxpllSupportedCfgs_valid (List.mem_of_getElem? (i := 3) rfl)
  obtain ⟨returned, paired, rest⟩ := pll_roundtrip valid ⟨fun _ => 0xffff, 0, 0, fun _ => 3, 0⟩
  refine ⟨returned, paired _ _ (List.mem_of_getElem? (i := 1) rfl), (rest _ _ ?_).trans rfl⟩
  intro f member covers
  have outside : ∀ f ∈ PllField.all, ¬ (f.addr = 0x1f ∧ f.low ≤ 0) := by decide
  exact outside f member ⟨covers.1, covers.2.1⟩

end Gtx

end Librorc
