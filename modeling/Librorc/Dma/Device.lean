import Mathlib.Data.BitVec
import Mathlib.Logic.Function.Basic
import Mathlib.Tactic.Common

/-!
# The register window of one DMA channel

What `link::setPciReg`, `link::pciReg` and `link::memcopy` reach: the PCI
register file of the channel and, behind the `SGENTRY` registers, the two
buffer descriptor RAMs. The registers are plain storage except where the
library relies on more: a write of `SGENTRY_CTRL` with the write-enable bit
stores the latched entry into the RAM selected by bit 30, and the upper half
of the two `N_SG_CONFIG` registers (the firmware's capacity) is read-only.
-/

namespace Librorc

abbrev Word8 := BitVec 8
abbrev Word16 := BitVec 16
abbrev Word32 := BitVec 32
abbrev Word64 := BitVec 64

/-- `sysconf(_SC_PAGESIZE)`: a power of two below 4 GiB. -/
structure PageSize where
  shift : Nat
  shift_lt : shift < 32

namespace PageSize

def bytes (page : PageSize) : Nat := 2 ^ page.shift

/-- `PAGE_SIZE` as the `uint64_t` it is converted to. -/
def word (page : PageSize) : Word64 := BitVec.ofNat 64 page.bytes

theorem bytes_pos (page : PageSize) : 0 < page.bytes := Nat.two_pow_pos _

theorem bytes_le (page : PageSize) : page.bytes ≤ 2 ^ 31 :=
  Nat.pow_le_pow_right (by omega) (by have := page.shift_lt; omega)

theorem bytes_dvd (page : PageSize) : page.bytes ∣ 2 ^ 32 :=
  Nat.pow_dvd_pow 2 (by have := page.shift_lt; omega)

@[simp] theorem word_toNat (page : PageSize) : page.word.toNat = page.bytes := by
  have := page.bytes_le
  simp only [word, BitVec.toNat_ofNat]
  exact Nat.mod_eq_of_lt (by omega)

/-- 4 GiB less a page, the longest piece the library cuts. -/
theorem fourGiB_sub_word_toNat (page : PageSize) :
    ((1#64 <<< 32) - page.word).toNat = 2 ^ 32 - page.bytes := by
  have le := page.bytes_le
  have big : (1#64 <<< 32).toNat = 2 ^ 32 := by decide
  rw [BitVec.toNat_sub_of_le (by rw [BitVec.le_def, big, word_toNat]; omega), big, word_toNat]

/-- The 4 KiB pages of the hosts the cards are plugged into. -/
def fourKiB : PageSize := ⟨12, by decide⟩

end PageSize

theorem natCast_toNat (x : Word64) : ((x.toNat : ℕ) : Word64) = x := by
  rw [BitVec.natCast_eq_ofNat, BitVec.ofNat_toNat, BitVec.setWidth_eq]

/-- The tests `x >> 32` of the library. -/
theorem shiftRight_32_eq_zero_iff (x : Word64) : x >>> 32 = 0 ↔ x.toNat < 2 ^ 32 := by
  rw [← BitVec.toNat_inj, BitVec.toNat_ushiftRight, Nat.shiftRight_eq_div_pow]
  simp only [BitVec.ofNat_eq_ofNat, BitVec.toNat_ofNat, Nat.zero_mod,
    Nat.div_eq_zero_iff]
  omega

/-! ## Register numbers of the channel's PCI register file -/

namespace Reg

def ebdmNSgConfig : Nat := 0
def ebdmBufferSizeL : Nat := 1
def ebdmBufferSizeH : Nat := 2
def rbdmNSgConfig : Nat := 3
def rbdmBufferSizeL : Nat := 4
def rbdmBufferSizeH : Nat := 5
def ebdmSwReadPointerL : Nat := 6
def ebdmSwReadPointerH : Nat := 7
def rbdmSwReadPointerL : Nat := 8
def rbdmSwReadPointerH : Nat := 9
def dmaCtrl : Nat := 10
-- the write pointer of the event buffer has its halves the other way round
def ebdmFpgaWritePointerH : Nat := 12
def ebdmFpgaWritePointerL : Nat := 13
def rbdmFpgaWritePointerL : Nat := 14
def rbdmFpgaWritePointerH : Nat := 15
def sgentryAddrLow : Nat := 16
def sgentryAddrHigh : Nat := 17
def sgentryLen : Nat := 18
def sgentryCtrl : Nat := 19
def dmaPktSize : Nat := 23

end Reg

/-- `SGCTRL_WRITE_ENABLE` and `SGCTRL_TARGET_RBDMRAM`, `SGCTRL_EOE_FLAG`. -/
def sgctrlWriteEnable : Word32 := 1#32 <<< 31
def sgctrlTargetEbdmRam : Word32 := 0#32 <<< 30
def sgctrlTargetRbdmRam : Word32 := 1#32 <<< 30
def sgctrlEoeFlag : Word32 := 1#32 <<< 0

/-- One entry of a buffer descriptor RAM. -/
structure RamEntry where
  addr : Word64
  len : Word32
deriving DecidableEq

/-- One entry pushed through `SGENTRY_CTRL`, with the control word that
pushed it. -/
structure SgWrite where
  entry : RamEntry
  ctrl : Word32
deriving DecidableEq

namespace SgWrite

/-- Bit 30 of the control word: the report buffer RAM is the target. -/
def toRbdm (w : SgWrite) : Bool := w.ctrl.getLsbD 30

/-- Bits 29..0 of the control word. -/
def ramAddr (w : SgWrite) : Nat := (w.ctrl &&& 0x3fffffff#32).toNat

/-- The end-of-event flag, when the entry goes to the HLT-OUT FIFO. -/
def eoe (w : SgWrite) : Bool := w.ctrl.getLsbD 0

end SgWrite

/-- The two descriptor RAMs (`false`: event buffer, `true`: report buffer),
with the history of pushed entries, oldest first. -/
structure DescriptorRams where
  ram : Bool → Nat → RamEntry
  sgWrites : List SgWrite

/-- Effect of an accepted push. -/
def DescriptorRams.store (r : DescriptorRams) (w : SgWrite) : DescriptorRams where
  ram := Function.update r.ram w.toRbdm
    (Function.update (r.ram w.toRbdm) w.ramAddr w.entry)
  sgWrites := r.sgWrites ++ [w]

/-- The channel as the bus shows it. -/
structure ChannelDevice where
  reg : Nat → Word32
  rams : DescriptorRams

namespace ChannelDevice

/-- The entry latched in the `SGENTRY` registers. -/
def latched (d : ChannelDevice) : RamEntry :=
  ⟨d.reg Reg.sgentryAddrHigh ++ d.reg Reg.sgentryAddrLow, d.reg Reg.sgentryLen⟩

/-- `link::setPciReg` on this channel. -/
def setPciReg (d : ChannelDevice) (addr : Nat) (data : Word32) : ChannelDevice :=
  if addr = Reg.sgentryCtrl then
    { reg := Function.update d.reg addr data
      rams := if data.getLsbD 31 then d.rams.store ⟨d.latched, data⟩ else d.rams }
  else if addr = Reg.ebdmNSgConfig ∨ addr = Reg.rbdmNSgConfig then
    -- the firmware's capacity in the upper half cannot be overwritten
    let merged := (d.reg addr &&& 0xffff0000#32) ||| (data &&& 0x0000ffff#32)
    { d with reg := Function.update d.reg addr merged }
  else
    { d with reg := Function.update d.reg addr data }

/-- `link::memcopy`: consecutive registers in ascending order. -/
def memcopy (d : ChannelDevice) (target : Nat) : List Word32 → ChannelDevice
  | [] => d
  | word :: rest => (d.setPciReg target word).memcopy (target + 1) rest

/-! ## What a register write touches -/

variable (d : ChannelDevice) {addr a : Nat} (data : Word32)

/-- A write leaves every other register alone. -/
theorem setPciReg_reg_of_ne (h : addr ≠ a) : (d.setPciReg a data).reg addr = d.reg addr := by
  unfold setPciReg
  split_ifs <;> simp [Function.update_of_ne h]

/-- Plain registers hold what was written. -/
theorem setPciReg_reg_self (ctrl : a ≠ Reg.sgentryCtrl) (eb : a ≠ Reg.ebdmNSgConfig)
    (rb : a ≠ Reg.rbdmNSgConfig) : (d.setPciReg a data).reg a = data := by
  simp [setPciReg, ctrl, eb, rb]

theorem setPciReg_of_plain (ctrl : a ≠ Reg.sgentryCtrl) (eb : a ≠ Reg.ebdmNSgConfig)
    (rb : a ≠ Reg.rbdmNSgConfig) :
    d.setPciReg a data = { d with reg := Function.update d.reg a data } := by
  simp [setPciReg, ctrl, eb, rb]

/-- Only `SGENTRY_CTRL` reaches the descriptor RAMs. -/
theorem setPciReg_rams (h : a ≠ Reg.sgentryCtrl) : (d.setPciReg a data).rams = d.rams := by
  unfold setPciReg
  rw [if_neg h]
  split_ifs <;> rfl

theorem memcopy_rams {target : Nat} {words : List Word32}
    (below : target + words.length ≤ Reg.sgentryCtrl) : (d.memcopy target words).rams = d.rams := by
  induction words generalizing d target with
  | nil => rfl
  | cons word rest ih =>
      rw [List.length_cons] at below
      rw [memcopy, ih _ (by omega), setPciReg_rams _ _ (by omega)]

/-- A write of `SGENTRY_CTRL` with the write-enable bit is one push. -/
theorem setPciReg_sgentryCtrl_rams (h : data.getLsbD 31 = true) :
    (d.setPciReg Reg.sgentryCtrl data).rams = d.rams.store ⟨d.latched, data⟩ := by
  simp [setPciReg, h]

end ChannelDevice
end Librorc
