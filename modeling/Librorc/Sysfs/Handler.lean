import Librorc.Dma.Device

/-!
# Finding a board in sysfs

A handler is made for the `device_id`-th board. In PCI mode the boards are the
PCI devices with one of the known IDs, and the chosen one is bound to the
kernel module; in UIO mode they are the devices bound already. Either way a
directory is read in the order the kernel lists it.
-/

namespace Librorc

/-! ## Attributes -/

/-- A file below a device's directory. -/
inductive Attr
  | absent
  /-- `stat` finds it, `open` or `read` fails. -/
  | unreadable
  | text (content : List Char)

/-- The value of a digit; 36 for what is none. -/
def digitValue (c : Char) : Nat :=
  if 48 ≤ c.toNat ∧ c.toNat ≤ 57 then c.toNat - 48
  else if 97 ≤ c.toNat ∧ c.toNat ≤ 122 then c.toNat - 87
  else if 65 ≤ c.toNat ∧ c.toNat ≤ 90 then c.toNat - 55
  else 36

def readDigits (base : Nat) (text : List Char) : Nat :=
  (text.takeWhile (digitValue · < base)).foldl (fun n c => n * base + digitValue c) 0

/-- With base 0 the text shows its base. -/
def readMagnitude : List Char → Nat
  | '0' :: 'x' :: rest => readDigits 16 rest
  | '0' :: 'X' :: rest => readDigits 16 rest
  | '0' :: rest => readDigits 8 rest
  | text => readDigits 10 text

/-- `strtoll(text, NULL, 0)`. -/
def strtoll (text : List Char) : Int :=
  match text.dropWhile (fun c => c.toNat = 32 ∨ 9 ≤ c.toNat ∧ c.toNat ≤ 13) with
  | '-' :: rest => max (-2 ^ 63) (-readMagnitude rest)
  | '+' :: rest => min (2 ^ 63 - 1) (readMagnitude rest)
  | text => min (2 ^ 63 - 1) (readMagnitude text)

namespace Attr

/-- `__attribute_exists` -/
def attributeExists : Attr → Bool
  | absent => false
  | _ => true

/-- `__get_char_attr` -/
def getCharAttr (nbytes : Nat) : Attr → Int
  | text content => strtoll (content.take nbytes)
  | _ => -1

end Attr

/-! ## The directories -/

/-- An entry of one of the two directories, with what the scans look at. -/
structure DirEntry where
  name : String
  /-- `lstat` says it is a symbolic link. -/
  isLink : Bool
  /-- It leads to a directory. -/
  isDir : Bool
  vendor : Attr
  device : Attr

structure PciId where
  vendorId : Word16
  deviceId : Word16
deriving DecidableEq

/-- The table has two more entries in a simulation build. -/
def pciIds (modelsim : Bool) : List PciId :=
  ⟨0x10dc, 0x01a0⟩ :: if modelsim then [⟨0x17aa, 0x1e22⟩, ⟨0x8086, 0x1e22⟩] else []

def sysfsModBase : String := "/sys/bus/pci/drivers/uio_pci_dma/"

/-- The part of sysfs a handler reads and writes. A directory that cannot be
opened is `none`. -/
structure Sysfs where
  /-- `stat` finds `SYSFS_MOD_BASE`. -/
  moduleLoaded : Bool
  /-- `SYSFS_PCI_BASE` -/
  devices : Option (List DirEntry)
  /-- `SYSFS_MOD_BASE` -/
  driver : Option (List DirEntry)
  /-- The attribute `new_id` of the driver can be opened for writing. -/
  newId : Bool

/-- A path below the driver's directory exists. -/
def Sysfs.attributeExists (fs : Sysfs) (path : String) : Prop :=
  ∃ e ∈ fs.driver.getD [], e.isDir ∧ sysfsModBase ++ e.name ++ "/" = path

instance (fs : Sysfs) (path : String) : Decidable (fs.attributeExists path) :=
  inferInstanceAs (Decidable (∃ e ∈ fs.driver.getD [], _))

/-! ## The scans -/

/-- The locals of a scan. -/
structure ScanState where
  index : Nat
  slot : String
  found : Bool

/-- `while (readdir && !found)`: the loop of both scans. -/
def scan (visit : DirEntry → ScanState → ScanState) : List DirEntry → ScanState → ScanState
  | [], s => s
  | e :: rest, s => if s.found then s else scan visit rest (visit e s)

/-- The inner loop of the PCI scan: it goes on to the next ID after a match
that is not the `device_id`-th. -/
def matchIds (deviceId : Word32) (name : String) (id : PciId) : List PciId → ScanState → ScanState
  | [], s => s
  | known :: rest, s =>
      if id = known then
        if s.index = deviceId.toNat then { s with slot := name, found := true }
        else matchIds deviceId name id rest { s with index := s.index + 1 }
      else matchIds deviceId name id rest s

def visitPci (modelsim : Bool) (deviceId : Word32) (e : DirEntry) (s : ScanState) : ScanState :=
  if ¬e.isLink ∨ ¬e.vendor.attributeExists ∨ ¬e.device.attributeExists then s
  else
    let vendor := BitVec.ofInt 16 (e.vendor.getCharAttr 6)
    let device := BitVec.ofInt 16 (e.device.getCharAttr 6)
    matchIds deviceId e.name ⟨vendor, device⟩ (pciIds modelsim) s

def visitUio (deviceId : Word32) (e : DirEntry) (s : ScanState) : ScanState :=
  if ¬e.isLink ∨ ¬e.device.attributeExists then s
  else if s.index = deviceId.toNat then { s with slot := e.name, found := true }
  else { s with index := s.index + 1 }

structure SysfsHandler where
  deviceIdFound : Bool
  deviceBase : String
  pciSlot : String

/-- A handler before its scan. -/
def freshHandler : SysfsHandler := ⟨false, "", ""⟩

/-- What both scans do around their loop. -/
def findDevice (visit : DirEntry → ScanState → ScanState) :
    Option (List DirEntry) → Int × SysfsHandler
  | none => (-1, freshHandler)
  | some directory =>
      let s := scan visit directory ⟨0, "", false⟩
      (if s.found then 0 else -1, ⟨s.found, sysfsModBase ++ s.slot ++ "/", s.slot⟩)

def findPciDeviceById (modelsim : Bool) (deviceId : Word32) (fs : Sysfs) : Int × SysfsHandler :=
  findDevice (visitPci modelsim deviceId) fs.devices

def findUioDeviceById (deviceId : Word32) (fs : Sysfs) : Int × SysfsHandler :=
  findDevice (visitUio deviceId) fs.driver

/-! ## Binding -/

/-- What the kernel does with an ID written to `new_id`; `none` if the write
fails. -/
abbrev NewId := PciId → Sysfs → Option Sysfs

def writeIds (kernel : NewId) : List PciId → Sysfs → Int × Sysfs
  | [], fs => (0, fs)
  | id :: rest, fs =>
      match kernel id fs with
      | none => (-1, fs)
      | some fs => writeIds kernel rest fs

def writeIdsToKernelModule (kernel : NewId) (modelsim : Bool) (fs : Sysfs) : Int × Sysfs :=
  if fs.newId then writeIds kernel (pciIds modelsim) fs else (-1, fs)

def bindPciDevice (kernel : NewId) (modelsim : Bool) (h : SysfsHandler) (fs : Sysfs) :
    Int × Sysfs :=
  if fs.attributeExists h.deviceBase then (0, fs)
  else
    -- not bound: bind all
    let (written, fs) := writeIdsToKernelModule kernel modelsim fs
    if written ≠ 0 then (-1, fs)
    else if fs.attributeExists h.deviceBase then (0, fs)
    else (-1, fs)

/-! ## The constructor -/

inductive ScanMode
  /-- `LIBRORC_SCANMODE_PCI` -/
  | pci
  /-- `LIBRORC_SCANMODE_UIO` -/
  | uio

/-- `LIBRORC_DEVICE_ERROR_*` -/
inductive DeviceError
  | pdaKmodMismatch
  | pdadopFailed
  | pdadevFailed
deriving DecidableEq

/-- `sysfs_handler::sysfs_handler` -/
def sysfsHandler (kernel : NewId) (modelsim : Bool) (deviceId : Word32) (scanmode : ScanMode)
    (fs : Sysfs) : Except DeviceError SysfsHandler × Sysfs :=
  if ¬fs.moduleLoaded then (.error .pdaKmodMismatch, fs)
  else
    match scanmode with
    | .pci =>
        let (found, h) := findPciDeviceById modelsim deviceId fs
        if found ≠ 0 then (.error .pdadevFailed, fs)
        else
          let (bound, fs) := bindPciDevice kernel modelsim h fs
          if bound ≠ 0 then (.error .pdadopFailed, fs) else (.ok h, fs)
    | .uio =>
        let (found, h) := findUioDeviceById deviceId fs
        if found ≠ 0 then (.error .pdadevFailed, fs) else (.ok h, fs)

end Librorc
