import Librorc.Sysfs.Handler
import Mathlib.Data.List.TakeWhile

/-!
# The names of buffers in sysfs

A buffer is registered with the kernel under a name that is printed from its id,
and its files are in the directory of that name. `allocate_buffer` and
`deallocate_buffer` print the id with `%ld`, as a signed number; the accessors
print it as an unsigned one; `list_all_buffers` reads either back with
`strtoul`. The two names are the same below 2^63.
-/

namespace Librorc

/-! ## Numbers and text -/

/-- `%ld` -/
def formatLd (value : Int) : List Char :=
  match value with
  | .ofNat n => Nat.toDigits 10 n
  | .negSucc n => '-' :: Nat.toDigits 10 (n + 1)

/-- `snprintf` to a buffer of `size` bytes, without the zero at the end. -/
def snprintf (size : Nat) (text : List Char) : List Char := text.take (size - 1)

/-- `ss << id` -/
def idToStr (id : Word64) : List Char := Nat.toDigits 10 id.toNat

/-- The base a number shows, and its digits. A `0x` without a digit behind it is
the number 0. -/
def readBase : List Char → Nat × List Char
  | '0' :: x :: d :: rest =>
      if (x = 'x' ∨ x = 'X') ∧ digitValue d < 16 then (16, d :: rest)
      else (8, '0' :: x :: d :: rest)
  | '0' :: rest => (8, '0' :: rest)
  | text => (10, text)

/-- The sign, and what is behind it. -/
def readSign : List Char → Bool × List Char
  | '-' :: rest => (true, rest)
  | '+' :: rest => (false, rest)
  | text => (false, text)

/-- `strtoul(text, &endptr, 0)`, with the text from `endptr` on. A value that is
too large is `ULONG_MAX`; the others are negated in 64 bits. -/
def strtoul (text : List Char) : Word64 × List Char :=
  let (negative, number) :=
    readSign (text.dropWhile fun c => c.toNat = 32 ∨ 9 ≤ c.toNat ∧ c.toNat ≤ 13)
  let (base, digits) := readBase number
  let magnitude := readDigits base digits
  if digits.takeWhile (digitValue · < base) = [] then (0, text)
  else
    (if 2 ^ 64 ≤ magnitude then BitVec.allOnes 64
      else if negative then -BitVec.ofNat 64 magnitude
      else BitVec.ofNat 64 magnitude,
      digits.dropWhile (digitValue · < base))

/-! ## The files -/

def sysfsAttrDmaRequest : List Char := "dma/request".toList
def sysfsAttrDmaFree : List Char := "dma/free".toList
def sysfsAttrBufDir : List Char := "dma/".toList
def sysfsAttrDmaMap : List Char := "map".toList
def sysfsAttrDmaSg : List Char := "sg".toList
def sysfsAttrNumaNode : List Char := "numa_node".toList

inductive FileStatus
  | regular (size : Nat)
  | directory
  | other
deriving DecidableEq

/-- The files by their paths, as the calls of the handler find them. -/
structure SysfsFiles where
  /-- `none` if `stat` fails. -/
  stat : List Char → Option FileStatus
  opens : List Char → Bool
  /-- `write` takes some bytes. -/
  writes : List Char → Bool
  maps : List Char → Bool
  attr : List Char → Attr
  /-- The entries of a directory that can be opened. -/
  readdir : List Char → Option (List (List Char))

/-- The members of a `uio_pci_dma_private` that the library sets. -/
structure UioPciDmaPrivate where
  name : List Char
  size : Word64
  numaNode : Word32
  start : Word64

/-- What is mapped. -/
structure FileMapping where
  file : List Char
  size : Word64
  writable : Bool

def getBufferAttributeName (id : Word64) (name : List Char) : List Char :=
  sysfsAttrBufDir ++ idToStr id ++ ['/'] ++ name

/-! ## The handler -/

namespace SysfsHandler

variable (h : SysfsHandler) (fs : SysfsFiles)

/-- `m_sysfs_device_base + attr` -/
def path (attr : List Char) : List Char := h.deviceBase.toList ++ attr

def getCharAttr (attr : List Char) (nbytes : Nat) : Int :=
  (fs.attr (h.path attr)).getCharAttr nbytes

def getAttributeSize (attrName : List Char) : Int :=
  match fs.stat (h.path attrName) with
  | some (.regular size) => size
  | _ => -1

def attributeExists (attrName : List Char) : Bool := (fs.stat (h.path attrName)).isSome

/-- `none` is a result of -1. -/
def mmapFile (attr : List Char) (size : Word64) (writable : Bool) : Option FileMapping :=
  if fs.opens (h.path attr) = true ∧ fs.maps (h.path attr) = true then
    some ⟨h.path attr, size, writable⟩
  else none

/-- The result, with the request the kernel gets. -/
def allocateBuffer (id size : Word64) : Int × Option UioPciDmaPrivate :=
  if size = 0 then (-1, none)
  else
    let request : UioPciDmaPrivate :=
      { name := snprintf 1024 (formatLd id.toInt)
        size := size
        numaNode := BitVec.ofInt 32 (h.getCharAttr fs sysfsAttrNumaNode 255)
        start := 0 }
    let fname := h.path sysfsAttrDmaRequest
    if fs.opens fname = false then (-1, none)
    else if fs.writes fname = false then (-1, none)
    else (0, some request)

/-- The result, with the name the kernel gets. -/
def deallocateBuffer (id : Word64) : Int × Option (List Char) :=
  let fname := h.path sysfsAttrDmaFree
  if fs.opens fname = false then (-1, none)
  else
    let bufferName := snprintf 1024 (formatLd id.toInt)
    if fs.writes fname = false then (-1, none) else (0, some bufferName)

def getBufferSize (id : Word64) : Int :=
  h.getAttributeSize fs (getBufferAttributeName id sysfsAttrDmaMap)

def bufferExists (id : Word64) : Bool :=
  h.attributeExists fs (getBufferAttributeName id sysfsAttrDmaMap)

def mmapBuffer (id size : Word64) (wrapMap : Bool) : Option FileMapping :=
  let mappingSize := if wrapMap then size * 2 else size
  h.mmapFile fs (getBufferAttributeName id sysfsAttrDmaMap) mappingSize true

def mmapSglist (id size : Word64) : Option FileMapping :=
  h.mmapFile fs (getBufferAttributeName id sysfsAttrDmaSg) size false

def getSglistSize (id : Word64) : Int :=
  h.getAttributeSize fs (getBufferAttributeName id sysfsAttrDmaSg)

/-- The id of a directory, if all of its name is a number. -/
def bufferId (name : List Char) : Option Word64 :=
  let (bufid, rest) := strtoul name
  if name ≠ [] ∧ rest = [] then some bufid else none

def listAllBuffers : List Word64 :=
  let dname := h.path sysfsAttrBufDir
  match fs.readdir dname with
  | none => []
  | some names =>
      names.filterMap fun name =>
        if fs.stat (dname ++ name) = some .directory then bufferId name else none

end SysfsHandler

/-! ## One name for a buffer -/

/-- An attribute in the directory of a name. -/
def directoryAttr (name attr : List Char) : List Char := sysfsAttrBufDir ++ name ++ ['/'] ++ attr

namespace SysfsHandler

/-- The kernel gets the buffer under the name. -/
def RegistersAs (id : Word64) (name : List Char) : Prop :=
  ∀ (h : SysfsHandler) fs size request,
    (h.allocateBuffer fs id size).2 = some request → request.name = name

def FreesAs (id : Word64) (name : List Char) : Prop :=
  ∀ (h : SysfsHandler) fs name', (h.deallocateBuffer fs id).2 = some name' → name' = name

/-- The accessors look for the buffer in the directory of the name. -/
structure UsesDirectory (id : Word64) (name : List Char) : Prop where
  bufferExists : ∀ (h : SysfsHandler) fs,
    h.bufferExists fs id = h.attributeExists fs (directoryAttr name sysfsAttrDmaMap)
  bufferSize : ∀ (h : SysfsHandler) fs,
    h.getBufferSize fs id = h.getAttributeSize fs (directoryAttr name sysfsAttrDmaMap)
  buffer : ∀ (h : SysfsHandler) fs size wrapMap, h.mmapBuffer fs id size wrapMap =
    h.mmapFile fs (directoryAttr name sysfsAttrDmaMap) (if wrapMap then size * 2 else size) true
  sglistSize : ∀ (h : SysfsHandler) fs,
    h.getSglistSize fs id = h.getAttributeSize fs (directoryAttr name sysfsAttrDmaSg)
  sglist : ∀ (h : SysfsHandler) fs size,
    h.mmapSglist fs id size = h.mmapFile fs (directoryAttr name sysfsAttrDmaSg) size false

/-- The name of the buffer, in each use that is made of it. -/
structure NamesBuffer (id : Word64) (name : List Char) : Prop where
  registers : RegistersAs id name
  frees : FreesAs id name
  uses : UsesDirectory id name
  distinct : ∀ other, RegistersAs other name ∨ FreesAs other name ∨ UsesDirectory other name →
    other = id
  listed : bufferId name = some id

end SysfsHandler

/-! ## Decimal numbers -/

theorem toNat_of_isDigit {c : Char} (digit : c.isDigit = true) : 48 ≤ c.toNat ∧ c.toNat ≤ 57 := by
  simpa [Char.isDigit, UInt32.le_iff_toNat_le] using digit

/-- What is printed is read as a decimal digit. -/
theorem digitValue_of_mem_toDigits {n : Nat} {c : Char} (mem : c ∈ Nat.toDigits 10 n) :
    digitValue c = c.toNat - 48 ∧ digitValue c < 10 := by
  have range := toNat_of_isDigit (Nat.isDigit_of_mem_toDigits (by omega) (by omega) mem)
  rw [digitValue, if_pos range]
  omega

/-- A number starts with a digit, and only zero with a zero. -/
theorem exists_toDigits (n : Nat) :
    ∃ c rest, Nat.toDigits 10 n = c :: rest ∧ c.isDigit = true ∧ (c = '0' → n = 0) := by
  induction n using Nat.strongRecOn with
  | ind n ih =>
      by_cases small : n < 10
      · have digits := Nat.toDigits_of_lt_base small
        have mem : n.digitChar ∈ Nat.toDigits 10 n := digits ▸ List.mem_singleton_self _
        refine ⟨n.digitChar, [], digits, ?_, ?_⟩
        · exact Nat.isDigit_of_mem_toDigits (by omega) (by omega) mem
        · intro zero
          have value := Nat.toNat_digitChar_sub_48_of_lt_ten small
          rw [zero] at value
          exact value.symm
      · obtain ⟨c, rest, digits, digit, zero⟩ := ih (n / 10) (by omega)
        refine ⟨c, rest ++ [(n % 10).digitChar], ?_, digit, ?_⟩
        · rw [Nat.toDigits_of_base_le (by omega) (by omega), digits, List.cons_append]
        · intro first
          have none := zero first
          omega

/-! ## Reading what was printed -/

theorem takeWhile_toDigits (n : Nat) :
    (Nat.toDigits 10 n).takeWhile (digitValue · < 10) = Nat.toDigits 10 n :=
  List.takeWhile_eq_self_iff.mpr fun _ mem => decide_eq_true (digitValue_of_mem_toDigits mem).2

theorem dropWhile_toDigits (n : Nat) :
    (Nat.toDigits 10 n).dropWhile (digitValue · < 10) = [] :=
  List.dropWhile_eq_nil_iff.mpr fun _ mem => decide_eq_true (digitValue_of_mem_toDigits mem).2

theorem readDigits_toDigits (n : Nat) : readDigits 10 (Nat.toDigits 10 n) = n := by
  rw [readDigits, takeWhile_toDigits]
  calc (Nat.toDigits 10 n).foldl (fun n c => n * 10 + digitValue c) 0
      = Nat.ofDigitChars 10 (Nat.toDigits 10 n) 0 := by
        rw [Nat.ofDigitChars_eq_foldl]
        refine List.foldl_ext _ _ _ ?_
        intro value c mem
        rw [(digitValue_of_mem_toDigits mem).1, Nat.mul_comm]
        rfl
    _ = n := Nat.ofDigitChars_ten_toDigits

/-- But for zero, which is octal, a number is read in the base it is printed in. -/
theorem readBase_toDigits {n : Nat} (nonzero : n ≠ 0) :
    readBase (Nat.toDigits 10 n) = (10, Nat.toDigits 10 n) := by
  obtain ⟨c, rest, digits, -, zero⟩ := exists_toDigits n
  have first : c ≠ '0' := mt zero nonzero
  rw [digits]
  unfold readBase
  split
  · rename_i same
    exact absurd (List.cons.inj same).1 first
  · rename_i same
    exact absurd (List.cons.inj same).1 first
  · rfl

/-- A number starts with neither space nor sign. -/
theorem readSign_toDigits (n : Nat) :
    readSign ((Nat.toDigits 10 n).dropWhile fun c => c.toNat = 32 ∨ 9 ≤ c.toNat ∧ c.toNat ≤ 13) =
      (false, Nat.toDigits 10 n) := by
  obtain ⟨c, rest, digits, digit, -⟩ := exists_toDigits n
  have range := toNat_of_isDigit digit
  have space : ¬(c.toNat = 32 ∨ 9 ≤ c.toNat ∧ c.toNat ≤ 13) := by omega
  rw [digits, List.dropWhile_cons_of_neg (by simpa using space)]
  unfold readSign
  split
  · rename_i same
    rw [(List.cons.inj same).1] at range
    exact absurd range (by decide)
  · rename_i same
    rw [(List.cons.inj same).1] at range
    exact absurd range (by decide)
  · rfl

/-- What `strtoul` makes of a number behind a sign. -/
theorem strtoul_of_sign {text : List Char} {negative : Bool} {n : Nat} (nonzero : n ≠ 0)
    (fits : n < 2 ^ 64)
    (sign : readSign (text.dropWhile fun c => c.toNat = 32 ∨ 9 ≤ c.toNat ∧ c.toNat ≤ 13) =
      (negative, Nat.toDigits 10 n)) :
    strtoul text = (if negative then -BitVec.ofNat 64 n else BitVec.ofNat 64 n, []) := by
  rw [strtoul, sign]
  simp only [readBase_toDigits nonzero, takeWhile_toDigits, dropWhile_toDigits,
    readDigits_toDigits]
  rw [if_neg Nat.toDigits_ne_nil, if_neg (Nat.not_le.mpr fits)]

theorem strtoul_toDigits {n : Nat} (fits : n < 2 ^ 64) :
    strtoul (Nat.toDigits 10 n) = (BitVec.ofNat 64 n, []) := by
  by_cases zero : n = 0
  · rw [zero]
    decide
  · exact strtoul_of_sign zero fits (readSign_toDigits n)

theorem strtoul_minus_toDigits {n : Nat} (nonzero : n ≠ 0) (fits : n < 2 ^ 64) :
    strtoul ('-' :: Nat.toDigits 10 n) = (-BitVec.ofNat 64 n, []) :=
  @strtoul_of_sign _ true n nonzero fits rfl

/-! ## The two names of an id -/

theorem formatLd_of_lt {id : Word64} (small : id.toNat < 2 ^ 63) :
    formatLd id.toInt = idToStr id := by
  have value : id.toInt = Int.ofNat id.toNat := by
    rw [BitVec.toInt_eq_toNat_of_lt (by omega)]
    rfl
  rw [value]
  rfl

theorem formatLd_of_ge {id : Word64} (large : 2 ^ 63 ≤ id.toNat) :
    formatLd id.toInt = '-' :: Nat.toDigits 10 (2 ^ 64 - id.toNat) := by
  have bound := id.isLt
  have value : id.toInt = Int.negSucc (2 ^ 64 - id.toNat - 1) := by
    rw [BitVec.toInt_eq_toNat_cond, if_neg (by omega)]
    omega
  have next : 2 ^ 64 - id.toNat - 1 + 1 = 2 ^ 64 - id.toNat := by omega
  rw [value, formatLd, next]

/-- From 2^63 on the sign tells them apart. -/
theorem formatLd_ne_idToStr {id : Word64} (large : 2 ^ 63 ≤ id.toNat) :
    formatLd id.toInt ≠ idToStr id := by
  intro same
  obtain ⟨c, rest, digits, digit, -⟩ := exists_toDigits id.toNat
  rw [formatLd_of_ge large, idToStr, digits] at same
  rw [← (List.cons.inj same).1] at digit
  exact absurd digit (by decide)

/-- Nothing is cut off. -/
theorem snprintf_formatLd (id : Word64) :
    snprintf 1024 (formatLd id.toInt) = formatLd id.toInt := by
  have bound := id.isLt
  have digits {n : Nat} (fits : n < 2 ^ 64) : (Nat.toDigits 10 n).length ≤ 20 :=
    (Nat.length_toDigits_le_iff (by omega) (by omega)).mpr (by omega)
  refine List.take_of_length_le ?_
  by_cases small : id.toNat < 2 ^ 63
  · rw [formatLd_of_lt small]
    exact (digits bound).trans (by omega)
  · have len := digits (n := 2 ^ 64 - id.toNat) (by omega)
    rw [formatLd_of_ge (Nat.le_of_not_lt small), List.length_cons]
    omega

namespace SysfsHandler

/-- Either name is read back. -/
theorem bufferId_idToStr (id : Word64) : bufferId (idToStr id) = some id := by
  have read := strtoul_toDigits id.isLt
  rw [BitVec.ofNat_toNat, BitVec.setWidth_eq] at read
  rw [bufferId, idToStr, read]
  exact if_pos ⟨Nat.toDigits_ne_nil, rfl⟩

theorem bufferId_formatLd (id : Word64) : bufferId (formatLd id.toInt) = some id := by
  have bound := id.isLt
  by_cases small : id.toNat < 2 ^ 63
  · rw [formatLd_of_lt small]
    exact bufferId_idToStr id
  · have negated : -BitVec.ofNat 64 (2 ^ 64 - id.toNat) = id := by
      apply BitVec.eq_of_toNat_eq
      rw [BitVec.toNat_neg, BitVec.toNat_ofNat]
      omega
    rw [formatLd_of_ge (Nat.le_of_not_lt small), bufferId,
      strtoul_minus_toDigits (by omega) (by omega), negated]
    exact if_pos ⟨List.cons_ne_nil _ _, rfl⟩

/-! ## The names in use -/

/-- A driver that takes every request, with the files of one path. -/
def filesAt (path : List Char) : SysfsFiles where
  stat p := if p = path then some (.regular 0) else none
  opens _ := true
  writes _ := true
  maps _ := true
  attr _ := .absent
  readdir _ := none

theorem attributeExists_filesAt {h : SysfsHandler} {path attrName : List Char} :
    h.attributeExists (filesAt path) attrName = true ↔ h.path attrName = path := by
  show (if h.path attrName = path then some (FileStatus.regular 0) else none).isSome = true ↔ _
  split
  · rename_i same
    exact iff_of_true rfl same
  · rename_i differ
    exact iff_of_false (by decide) differ

theorem registersAs_iff {id : Word64} {name : List Char} :
    RegistersAs id name ↔ name = formatLd id.toInt := by
  constructor
  · intro registers
    have request := registers freshHandler (filesAt []) 1 _ rfl
    rw [← request]
    exact snprintf_formatLd id
  · intro same h fs size request sent
    simp only [allocateBuffer] at sent
    split_ifs at sent
    rw [← Option.some.inj sent, same]
    exact snprintf_formatLd id

theorem freesAs_iff {id : Word64} {name : List Char} :
    FreesAs id name ↔ name = formatLd id.toInt := by
  constructor
  · intro frees
    have freed := frees freshHandler (filesAt []) _ rfl
    rw [← freed]
    exact snprintf_formatLd id
  · intro same h fs name' sent
    simp only [deallocateBuffer] at sent
    split_ifs at sent
    rw [← Option.some.inj sent, same]
    exact snprintf_formatLd id

theorem usesDirectory_iff {id : Word64} {name : List Char} :
    UsesDirectory id name ↔ name = idToStr id := by
  constructor
  · intro uses
    have found := uses.bufferExists freshHandler
      (filesAt (freshHandler.path (getBufferAttributeName id sysfsAttrDmaMap)))
    rw [bufferExists, attributeExists_filesAt.mpr rfl] at found
    have directory := List.append_cancel_left (attributeExists_filesAt.mp found.symm)
    exact List.append_cancel_left (List.append_cancel_right (List.append_cancel_right directory))
  · rintro rfl
    exact ⟨fun _ _ => rfl, fun _ _ => rfl, fun _ _ _ _ => rfl, fun _ _ => rfl, fun _ _ _ => rfl⟩

/-- **Buffer names.** An id has one name for all uses exactly below 2^63. -/
theorem namesBuffer_iff (id : Word64) : (∃ name, NamesBuffer id name) ↔ id.toNat < 2 ^ 63 := by
  constructor
  · rintro ⟨name, names⟩
    by_contra large
    have signed := registersAs_iff.mp names.registers
    have unsigned := usesDirectory_iff.mp names.uses
    exact formatLd_ne_idToStr (Nat.le_of_not_lt large) (signed.symm.trans unsigned)
  · intro small
    have same := formatLd_of_lt small
    refine ⟨idToStr id, registersAs_iff.mpr same.symm, freesAs_iff.mpr same.symm,
      usesDirectory_iff.mpr rfl, ?_, bufferId_idToStr id⟩
    intro other shared
    have read : bufferId (idToStr id) = some other := by
      rcases shared with registers | frees | uses
      · rw [registersAs_iff.mp registers]
        exact bufferId_formatLd other
      · rw [freesAs_iff.mp frees]
        exact bufferId_formatLd other
      · rw [usesDirectory_iff.mp uses]
        exact bufferId_idToStr other
    exact Option.some.inj (read.symm.trans (bufferId_idToStr id))

/-- The first id that is printed as a negative number. -/
theorem not_namesBuffer_signed :
    formatLd (0x8000000000000000#64).toInt = "-9223372036854775808".toList ∧
      idToStr 0x8000000000000000 = "9223372036854775808".toList ∧
      ¬∃ name, NamesBuffer 0x8000000000000000 name := by
  refine ⟨by decide +kernel, by decide +kernel, ?_⟩
  rintro ⟨name, names⟩
  have signed := registersAs_iff.mp names.registers
  have unsigned := usesDirectory_iff.mp names.uses
  exact formatLd_ne_idToStr (by decide) (signed.symm.trans unsigned)

/-! ## Listing -/

/-- Every registered buffer is listed by its id, next to entries that are no
directories or have no number for a name. -/
theorem listAllBuffers_eq {h : SysfsHandler} {fs : SysfsFiles} {ids : List Word64}
    {others : List (List Char)}
    (listing : fs.readdir (h.path sysfsAttrBufDir) =
      some (others ++ ids.map fun id => formatLd id.toInt))
    (directories : ∀ id ∈ ids,
      fs.stat (h.path sysfsAttrBufDir ++ formatLd id.toInt) = some .directory)
    (noBuffers : ∀ name ∈ others,
      fs.stat (h.path sysfsAttrBufDir ++ name) = some .directory → bufferId name = none) :
    h.listAllBuffers fs = ids := by
  have skipped : ∀ name ∈ others,
      (if fs.stat (h.path sysfsAttrBufDir ++ name) = some .directory then bufferId name
        else none) = none := by
    intro name mem
    split
    · rename_i directory
      exact noBuffers name mem directory
    · rfl
  have listed : ∀ id ∈ ids,
      (if fs.stat (h.path sysfsAttrBufDir ++ formatLd id.toInt) = some .directory
        then bufferId (formatLd id.toInt) else none) = some id := by
    intro id mem
    rw [if_pos (directories id mem), bufferId_formatLd]
  simp only [listAllBuffers, listing]
  rw [List.filterMap_append, List.filterMap_eq_nil_iff.mpr skipped, List.nil_append,
    List.filterMap_map]
  exact (List.filterMap_congr listed).trans List.filterMap_some

end SysfsHandler

end Librorc
