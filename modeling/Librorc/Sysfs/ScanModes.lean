import Librorc.Lib.Listing
import Librorc.Sysfs.Scan

/-!
# Which board a handler is for

PCI mode and UIO mode index different listings, so they name the same board
for every index exactly when one of the two listings continues the other.
-/

namespace Librorc

open Librorc.Lib

/-! ## The constructor -/

section Constructor

variable (kernel : NewId) (modelsim : Bool) (fs : Sysfs)

/-- The device in the slot is bound, or the kernel binds it when asked to. -/
def CanBind (slot : String) : Prop := (bindPciDevice kernel modelsim (handlerOf slot) fs).1 = 0

/-- The constructor succeeds with the board in the slot. -/
def Selects (result : Except DeviceError SysfsHandler × Sysfs) (slot : String) : Prop :=
  ∃ h, result.1 = .ok h ∧ h.pciSlot = slot

def Fails (result : Except DeviceError SysfsHandler × Sysfs) : Prop := ∃ e, result.1 = .error e

variable {kernel modelsim fs}

/-- A result that is a failure if no slot satisfies `P`, and else the handler
for one. -/
def SelectsOrFails (result : Except DeviceError SysfsHandler × Sysfs) (P : String → Prop) : Prop :=
  Fails result ∧ (∀ slot, ¬P slot) ∨ ∃ slot, result.1 = .ok (handlerOf slot) ∧ P slot

theorem SelectsOrFails.fails_iff {result : Except DeviceError SysfsHandler × Sysfs}
    {P : String → Prop} (spec : SelectsOrFails result P) : Fails result ↔ ∀ slot, ¬P slot := by
  rcases spec with ⟨failed, none⟩ | ⟨slot, ok, holds⟩
  · exact iff_of_true failed none
  · refine iff_of_false ?_ (fun none => none slot holds)
    rintro ⟨e, failed⟩
    rw [ok] at failed
    cases failed

theorem SelectsOrFails.selects_iff {result : Except DeviceError SysfsHandler × Sysfs}
    {P : String → Prop} (spec : SelectsOrFails result P)
    (unique : ∀ {slot other}, P slot → P other → slot = other) (slot : String) :
    Selects result slot ↔ P slot := by
  rcases spec with ⟨⟨e, failed⟩, none⟩ | ⟨chosen, ok, holds⟩
  · refine iff_of_false ?_ (none slot)
    rintro ⟨h, ok, -⟩
    rw [failed] at ok
    cases ok
  · constructor
    · rintro ⟨h, same, rfl⟩
      rw [ok] at same
      cases same
      exact holds
    · intro other
      exact ⟨handlerOf chosen, ok, unique holds other⟩

/-- PCI mode can select the slot. -/
def PciChoice (kernel : NewId) (modelsim : Bool) (fs : Sysfs) (deviceId : Word32) (slot : String) :
    Prop :=
  fs.moduleLoaded ∧ (fs.boards modelsim)[deviceId.toNat]? = some slot ∧
    CanBind kernel modelsim fs slot

/-- UIO mode can select the slot. -/
def UioChoice (fs : Sysfs) (deviceId : Word32) (slot : String) : Prop :=
  fs.moduleLoaded ∧ fs.boundSlots[deviceId.toNat]? = some slot

theorem sysfsHandler_pci (deviceId : Word32) :
    SelectsOrFails (sysfsHandler kernel modelsim deviceId .pci fs)
      (PciChoice kernel modelsim fs deviceId) := by
  unfold sysfsHandler
  by_cases loaded : fs.moduleLoaded
  · rw [if_neg (not_not.mpr loaded), findPciDeviceById]
    rcases findDevice_spec (visitPci_counts modelsim deviceId) fs.devices with
      ⟨board, found⟩ | ⟨slot, board, found⟩
    · refine .inl ⟨⟨.pdadevFailed, ?_⟩, ?_⟩
      · simp [found]
      · rintro slot ⟨-, chosen, -⟩
        cases board.symm.trans chosen
    · by_cases bound : (bindPciDevice kernel modelsim (handlerOf slot) fs).1 = 0
      · refine .inr ⟨slot, ?_, loaded, board, bound⟩
        simp [found, bound]
      · refine .inl ⟨⟨.pdadopFailed, ?_⟩, ?_⟩
        · simp [found, bound]
        · rintro other ⟨-, chosen, binds⟩
          cases board.symm.trans chosen
          exact bound binds
  · rw [if_pos loaded]
    exact .inl ⟨⟨_, rfl⟩, fun slot choice => loaded choice.1⟩

theorem sysfsHandler_uio (deviceId : Word32) :
    SelectsOrFails (sysfsHandler kernel modelsim deviceId .uio fs) (UioChoice fs deviceId) := by
  unfold sysfsHandler
  by_cases loaded : fs.moduleLoaded
  · rw [if_neg (not_not.mpr loaded), findUioDeviceById]
    rcases findDevice_spec (visitUio_counts deviceId) fs.driver with
      ⟨device, found⟩ | ⟨slot, device, found⟩
    · refine .inl ⟨⟨.pdadevFailed, ?_⟩, ?_⟩
      · simp [found]
      · rintro slot ⟨-, chosen⟩
        cases device.symm.trans chosen
    · refine .inr ⟨slot, ?_, loaded, device⟩
      simp [found]
  · rw [if_pos loaded]
    exact .inl ⟨⟨_, rfl⟩, fun slot choice => loaded choice.1⟩

theorem selects_pci_iff (deviceId : Word32) (slot : String) :
    Selects (sysfsHandler kernel modelsim deviceId .pci fs) slot ↔
      PciChoice kernel modelsim fs deviceId slot := by
  refine (sysfsHandler_pci deviceId).selects_iff ?_ slot
  intro slot other choice choice'
  exact Option.some.inj (choice.2.1.symm.trans choice'.2.1)

theorem selects_uio_iff (deviceId : Word32) (slot : String) :
    Selects (sysfsHandler kernel modelsim deviceId .uio fs) slot ↔ UioChoice fs deviceId slot := by
  refine (sysfsHandler_uio deviceId).selects_iff ?_ slot
  intro slot other choice choice'
  exact Option.some.inj (choice.2.symm.trans choice'.2)

end Constructor

/-! ## The same board -/

/-- Wherever both modes succeed they have the same board. The handlers need
not be made at the same time. -/
def SameBoard (kernel : NewId) (modelsim : Bool) (fs fs' : Sysfs) : Prop :=
  ∀ (deviceId : Word32) (board device : String),
    Selects (sysfsHandler kernel modelsim deviceId .pci fs) board →
      Selects (sysfsHandler kernel modelsim deviceId .uio fs') device → board = device

theorem sameBoard_iff {kernel : NewId} {modelsim : Bool} {fs fs' : Sysfs}
    (loaded : fs.moduleLoaded) (loaded' : fs'.moduleLoaded)
    (binds : ∀ slot ∈ fs.boards modelsim, CanBind kernel modelsim fs slot) :
    SameBoard kernel modelsim fs fs' ↔
      Continues ((fs.boards modelsim).take (2 ^ 32)) (fs'.boundSlots.take (2 ^ 32)) := by
  rw [continues_take_iff]
  constructor
  · intro same k below board device atBoard atDevice
    have index : (BitVec.ofNat 32 k).toNat = k := Nat.mod_eq_of_lt below
    refine same (BitVec.ofNat 32 k) board device ?_ ?_
    · rw [selects_pci_iff, PciChoice, index]
      exact ⟨loaded, atBoard, binds board (List.mem_of_getElem? atBoard)⟩
    · rw [selects_uio_iff, UioChoice, index]
      exact ⟨loaded', atDevice⟩
  · intro agree deviceId board device pci uio
    obtain ⟨-, atBoard, -⟩ := (selects_pci_iff deviceId board).mp pci
    obtain ⟨-, atDevice⟩ := (selects_uio_iff deviceId device).mp uio
    exact agree deviceId.toNat deviceId.isLt board device atBoard atDevice

/-- **Board selection.** PCI mode selects the board at the index, in the order
of the PCI directory, UIO mode the bound device, in the order of the driver's.
Each fails when its own listing is too short, PCI mode also when the board
cannot be bound. They have the same board for every index exactly when one of
the listings continues the other. -/
theorem scanModes_select (kernel : NewId) (modelsim : Bool) (fs fs' : Sysfs) :
    (∀ (deviceId : Word32) (slot : String),
      Selects (sysfsHandler kernel modelsim deviceId .pci fs) slot ↔
        fs.moduleLoaded ∧ (fs.boards modelsim)[deviceId.toNat]? = some slot ∧
          CanBind kernel modelsim fs slot) ∧
    (∀ deviceId : Word32, Fails (sysfsHandler kernel modelsim deviceId .pci fs) ↔
      ¬fs.moduleLoaded ∨ (fs.boards modelsim).length < deviceId.toNat + 1 ∨
        ∃ slot, (fs.boards modelsim)[deviceId.toNat]? = some slot ∧
          ¬CanBind kernel modelsim fs slot) ∧
    (∀ (deviceId : Word32) (slot : String),
      Selects (sysfsHandler kernel modelsim deviceId .uio fs') slot ↔
        fs'.moduleLoaded ∧ fs'.boundSlots[deviceId.toNat]? = some slot) ∧
    (∀ deviceId : Word32, Fails (sysfsHandler kernel modelsim deviceId .uio fs') ↔
      ¬fs'.moduleLoaded ∨ fs'.boundSlots.length < deviceId.toNat + 1) ∧
    (fs.moduleLoaded → fs'.moduleLoaded →
      (∀ slot ∈ fs.boards modelsim, CanBind kernel modelsim fs slot) →
        (SameBoard kernel modelsim fs fs' ↔
          Continues ((fs.boards modelsim).take (2 ^ 32)) (fs'.boundSlots.take (2 ^ 32)))) := by
  refine ⟨selects_pci_iff, ?_, selects_uio_iff, ?_, sameBoard_iff⟩
  · intro deviceId
    rw [(sysfsHandler_pci deviceId).fails_iff, Nat.lt_succ_iff, ← List.getElem?_eq_none_iff]
    unfold PciChoice
    cases (fs.boards modelsim)[deviceId.toNat]? with
    | none => simp
    | some board =>
        by_cases loaded : fs.moduleLoaded
        · simp [loaded]
        · simp [loaded]
  · intro deviceId
    rw [(sysfsHandler_uio deviceId).fails_iff, Nat.lt_succ_iff, ← List.getElem?_eq_none_iff]
    unfold UioChoice
    cases fs'.boundSlots[deviceId.toNat]? with
    | none => simp
    | some device => simp

/-! ## Different boards -/

/-- Three boards, the first of them not bound: index 1 is the second board in
PCI mode and the third in UIO mode. -/
theorem scanModes_disagree :
    ¬∀ (kernel : NewId) (modelsim : Bool) (devices bound : List PciDevice),
      (devices.map PciDevice.slot).Nodup → bound.Nodup → (∀ d ∈ bound, d ∈ devices) →
        SameBoard kernel modelsim (Sysfs.ofDevices devices bound [])
          (Sysfs.ofDevices devices bound []) := by
  intro same
  let board (slot : String) : PciDevice := ⟨slot, 0x10dc, 0x01a0⟩
  let bound := [board "0000:02:00.0", board "0000:03:00.0"]
  let fs := Sysfs.ofDevices (board "0000:01:00.0" :: bound) bound []
  have boards : fs.boards false = ["0000:01:00.0", "0000:02:00.0", "0000:03:00.0"] :=
    Sysfs.boards_ofDevices ..
  have slots : fs.boundSlots = ["0000:02:00.0", "0000:03:00.0"] :=
    Sysfs.boundSlots_ofDevices _ _ (fun e none => nomatch none)
  have binds : CanBind (fun _ fs => some fs) false fs "0000:02:00.0" := by
    have there : fs.attributeExists (handlerOf "0000:02:00.0").deviceBase :=
      ⟨_, List.mem_cons_self, rfl, rfl⟩
    rw [CanBind, bindPciDevice, if_pos there]
  have equal : "0000:02:00.0" = "0000:03:00.0" := by
    refine same (fun _ fs => some fs) false (board "0000:01:00.0" :: bound) bound (by decide)
      (by decide) (fun d mem => List.mem_cons_of_mem _ mem) 1 _ _ ?_ ?_
    · rw [selects_pci_iff]
      exact ⟨rfl, by rw [boards]; rfl, binds⟩
    · rw [selects_uio_iff]
      exact ⟨rfl, by rw [slots]; rfl⟩
  exact absurd equal (by decide)

end Librorc
