import Librorc.Sysfs.Handler
import Mathlib.Data.List.TakeWhile

/-!
# The directory scans

Both scans pass over the entries that do not count and take the `device_id`-th
that does. What counts differs: the boards in the PCI directory, the bound
devices in the driver's.
-/

namespace Librorc

/-! ## What the scans count -/

/-- The IDs as the PCI scan reads them. -/
def DirEntry.id (e : DirEntry) : PciId :=
  ⟨BitVec.ofInt 16 (e.vendor.getCharAttr 6), BitVec.ofInt 16 (e.device.getCharAttr 6)⟩

def DirEntry.isBoard (modelsim : Bool) (e : DirEntry) : Bool :=
  e.isLink && e.vendor.attributeExists && e.device.attributeExists && e.id ∈ pciIds modelsim

def DirEntry.isBound (e : DirEntry) : Bool := e.isLink && e.device.attributeExists

/-- The slots of the boards, as the PCI directory lists them. -/
def Sysfs.boards (modelsim : Bool) (fs : Sysfs) : List String :=
  ((fs.devices.getD []).filter (DirEntry.isBoard modelsim)).map DirEntry.name

/-- The slots of the bound devices, as the driver's directory lists them. -/
def Sysfs.boundSlots (fs : Sysfs) : List String :=
  ((fs.driver.getD []).filter DirEntry.isBound).map DirEntry.name

/-- A visit counts what `p` says and takes the `k`-th. -/
def Counts (p : DirEntry → Bool) (k : Nat) (visit : DirEntry → ScanState → ScanState) : Prop :=
  ∀ (e : DirEntry) (s : ScanState), visit e s =
    if ¬p e then s
    else if s.index = k then { s with slot := e.name, found := true }
    else { s with index := s.index + 1 }

theorem visitUio_counts (deviceId : Word32) :
    Counts DirEntry.isBound deviceId.toNat (visitUio deviceId) := by
  intro e s
  unfold visitUio
  congr 1
  simp only [DirEntry.isBound, Bool.and_eq_true, not_and_or]

/-- An ID that is in the table once is counted once. -/
theorem matchIds_eq {deviceId : Word32} {name : String} {id : PciId} {table : List PciId}
    (nodup : table.Nodup) (s : ScanState) :
    matchIds deviceId name id table s =
      if id ∉ table then s
      else if s.index = deviceId.toNat then { s with slot := name, found := true }
      else { s with index := s.index + 1 } := by
  induction table generalizing s with
  | nil => rfl
  | cons known rest ih =>
      obtain ⟨once, others⟩ := List.nodup_cons.mp nodup
      rw [matchIds]
      by_cases same : id = known
      · subst same
        -- the rest of the table does not hold it again
        rw [if_pos rfl, ih others, if_pos once, if_neg (not_not.mpr List.mem_cons_self)]
      · have later : id ∉ known :: rest ↔ id ∉ rest := by
          rw [List.mem_cons, or_iff_right same]
        rw [if_neg same, ih others]
        exact (if_congr later rfl rfl).symm

theorem visitPci_counts (modelsim : Bool) (deviceId : Word32) :
    Counts (DirEntry.isBoard modelsim) deviceId.toNat (visitPci modelsim deviceId) := by
  have nodup : (pciIds modelsim).Nodup := by cases modelsim <;> decide
  intro e s
  unfold visitPci
  by_cases attributes : ¬e.isLink ∨ ¬e.vendor.attributeExists ∨ ¬e.device.attributeExists
  · have other : ¬e.isBoard modelsim := by
      simp only [DirEntry.isBoard, Bool.and_eq_true]
      tauto
    rw [if_pos attributes, if_pos other]
  · have board : e.isBoard modelsim ↔ e.id ∈ pciIds modelsim := by
      simp only [DirEntry.isBoard, Bool.and_eq_true, decide_eq_true_eq]
      tauto
    rw [if_neg attributes]
    simp only [board]
    exact matchIds_eq nodup s

/-! ## The scans -/

/-- The scan takes the entry at the index it still has to count to. -/
theorem scan_spec {p : DirEntry → Bool} {k : ℕ} {visit : DirEntry → ScanState → ScanState}
    (counts : Counts p k visit) (listing : List DirEntry) {i : ℕ} (slot : String) (below : i ≤ k) :
    match (listing.filter p)[k - i]? with
    | some e => scan visit listing ⟨i, slot, false⟩ = ⟨k, e.name, true⟩
    | none => (scan visit listing ⟨i, slot, false⟩).found = false := by
  induction listing generalizing i with
  | nil => rfl
  | cons e rest ih =>
      rw [scan, if_neg Bool.false_ne_true, counts]
      by_cases eligible : p e
      · rw [if_neg (not_not.mpr eligible), List.filter_cons_of_pos eligible]
        by_cases here : i = k
        · subst here
          rw [if_pos rfl, Nat.sub_self, List.getElem?_cons_zero]
          cases rest <;> rfl
        · obtain ⟨left, more⟩ : ∃ left, k - i = left + 1 := ⟨k - i - 1, by omega⟩
          have next : left = k - (i + 1) := by omega
          rw [if_neg here, more, List.getElem?_cons_succ, next]
          exact ih (by omega)
      · rw [if_pos eligible, List.filter_cons_of_neg eligible]
        exact ih below

/-- The handler for a slot. -/
def handlerOf (slot : String) : SysfsHandler := ⟨true, sysfsModBase ++ slot ++ "/", slot⟩

theorem findDevice_spec {p : DirEntry → Bool} {k : ℕ} {visit : DirEntry → ScanState → ScanState}
    (counts : Counts p k visit) (directory : Option (List DirEntry)) :
    ((((directory.getD []).filter p).map DirEntry.name)[k]? = none ∧
        (findDevice visit directory).1 = -1) ∨
      ∃ slot, (((directory.getD []).filter p).map DirEntry.name)[k]? = some slot ∧
        findDevice visit directory = (0, handlerOf slot) := by
  cases directory with
  | none => exact .inl ⟨rfl, rfl⟩
  | some listing =>
      have taken := scan_spec counts listing "" (Nat.zero_le k)
      rw [Nat.sub_zero] at taken
      rw [Option.getD_some, List.getElem?_map]
      cases entry : (listing.filter p)[k]? with
      | none =>
          rw [entry] at taken
          refine .inl ⟨rfl, ?_⟩
          simp only [findDevice, taken, Bool.false_eq_true, if_false]
      | some e =>
          rw [entry] at taken
          refine .inr ⟨e.name, rfl, ?_⟩
          simp only [findDevice, taken, if_true, handlerOf]

/-! ## The listings of a set of devices -/

structure PciDevice where
  slot : String
  id : PciId
deriving DecidableEq

def hexDigit (n : Nat) : Char := Char.ofNat (if n < 10 then 48 + n else 87 + n)

/-- How the kernel writes an ID: `0x%04x` and a newline. -/
def hexText (w : Word16) : List Char :=
  ['0', 'x', hexDigit (w.toNat / 4096), hexDigit (w.toNat / 256 % 16), hexDigit (w.toNat / 16 % 16),
    hexDigit (w.toNat % 16), Char.ofNat 10]

/-- The link to a device, as either directory lists it. -/
def PciDevice.entry (d : PciDevice) : DirEntry :=
  ⟨d.slot, true, true, .text (hexText d.id.vendorId), .text (hexText d.id.deviceId)⟩

theorem digitValue_hexDigit {n : ℕ} (digit : n < 16) : digitValue (hexDigit n) = n := by
  have all : ∀ n : Fin 16, digitValue (hexDigit n) = n := by decide
  exact all ⟨n, digit⟩

theorem readDigits_hex {digits : List ℕ} (small : ∀ n ∈ digits, n < 16) :
    readDigits 16 (digits.map hexDigit) = digits.foldl (fun n d => n * 16 + d) 0 := by
  have values : ∀ n ∈ digits, digitValue (hexDigit n) = n := by
    intro n mem
    exact digitValue_hexDigit (small n mem)
  have kept : (digits.map hexDigit).takeWhile (digitValue · < 16) = digits.map hexDigit := by
    refine List.takeWhile_eq_self_iff.mpr ?_
    intro c written
    obtain ⟨n, mem, rfl⟩ := List.mem_map.mp written
    rw [values n mem]
    exact decide_eq_true (small n mem)
  rw [readDigits, kept, List.foldl_map]
  refine List.foldl_ext _ _ _ ?_
  intro n d mem
  rw [values d mem]

/-- Six characters are the whole number. -/
theorem getCharAttr_hexText (w : Word16) : (Attr.text (hexText w)).getCharAttr 6 = w.toNat := by
  have digits : readDigits 16 ([w.toNat / 4096, w.toNat / 256 % 16, w.toNat / 16 % 16,
      w.toNat % 16].map hexDigit) = w.toNat := by
    have bound : w.toNat < 65536 := w.isLt
    rw [readDigits_hex]
    · simp only [List.foldl_cons, List.foldl_nil]
      omega
    · simp only [List.mem_cons, List.not_mem_nil, or_false]
      omega
  have text : (Attr.text (hexText w)).getCharAttr 6 = min (2 ^ 63 - 1) (readDigits 16
      ([w.toNat / 4096, w.toNat / 256 % 16, w.toNat / 16 % 16, w.toNat % 16].map hexDigit) : ℤ) :=
    rfl
  rw [text, digits]
  omega

theorem PciDevice.entry_id (d : PciDevice) : d.entry.id = d.id := by
  unfold DirEntry.id PciDevice.entry
  simp only [getCharAttr_hexText, BitVec.ofInt_natCast, BitVec.ofNat_toNat, BitVec.setWidth_eq]

/-- Sysfs with some PCI devices, some of them bound; `others` are what else the
driver's directory holds. -/
def Sysfs.ofDevices (devices bound : List PciDevice) (others : List DirEntry) : Sysfs :=
  ⟨true, some (devices.map PciDevice.entry), some (others ++ bound.map PciDevice.entry), true⟩

/-- The boards are the devices with a known ID. -/
theorem Sysfs.boards_ofDevices (modelsim : Bool) (devices bound : List PciDevice)
    (others : List DirEntry) :
    (Sysfs.ofDevices devices bound others).boards modelsim =
      (devices.filter (·.id ∈ pciIds modelsim)).map PciDevice.slot := by
  have board : DirEntry.isBoard modelsim ∘ PciDevice.entry =
      fun d => decide (d.id ∈ pciIds modelsim) := by
    funext d
    rw [Function.comp_apply, DirEntry.isBoard, d.entry_id]
    exact Bool.true_and _
  unfold Sysfs.boards Sysfs.ofDevices
  rw [Option.getD_some, List.filter_map, board, List.map_map]
  rfl

theorem Sysfs.boundSlots_ofDevices (devices bound : List PciDevice) {others : List DirEntry}
    (none : ∀ e ∈ others, e.isBound = false) :
    (Sysfs.ofDevices devices bound others).boundSlots = bound.map PciDevice.slot := by
  have link : ∀ d ∈ bound, (DirEntry.isBound ∘ PciDevice.entry) d = true := fun d _ => rfl
  unfold Sysfs.boundSlots Sysfs.ofDevices
  rw [Option.getD_some, List.filter_append, List.filter_eq_nil_iff.mpr (by simpa using none),
    List.nil_append, List.filter_map, List.filter_eq_self.mpr link, List.map_map]
  rfl

end Librorc
