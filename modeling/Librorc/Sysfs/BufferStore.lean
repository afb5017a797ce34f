import Librorc.Event.Setup
import Librorc.Sysfs.BufferNames
import Mathlib.Logic.Function.Basic

/-!
# The buffers of a board as a store

The driver keeps the buffers of a board under their names, for every process
that opens the board. Seen through the handler they are a store by id: calls
change the buffer they name and no other, and the listing is the store's
domain. Only the accessors miss the buffers from 2^63 on, which are kept under
the signed name.
-/

namespace Librorc

/-- The driver: what it keeps, and the files it shows of it. -/
structure UioPciDma (δ : Type) where
  /-- The files as a call finds them. A write may be refused for the buffer it names. -/
  files : δ → Option Word64 → SysfsFiles
  /-- The names that are registered, with the size of their mapping. -/
  size : δ → List Char → Option ℕ
  register : δ → UioPciDmaPrivate → δ
  release : δ → List Char → δ
  /-- The size of the mapping for a request. -/
  granted : Word64 → ℕ

namespace UioPciDma

variable {δ : Type} (kernel : UioPciDma δ) (h : SysfsHandler)

/-! ## The calls -/

def allocateBuffer (id size : Word64) (d : δ) : Int × δ :=
  let (result, request) := h.allocateBuffer (kernel.files d (some id)) id size
  (result, request.elim d (kernel.register d))

def deallocateBuffer (id : Word64) (d : δ) : Int × δ :=
  let (result, name) := h.deallocateBuffer (kernel.files d (some id)) id
  (result, name.elim d (kernel.release d))

/-- `device::deleteAllBuffers`, which drops the results. -/
def deleteAllBuffers (d : δ) : δ :=
  (h.listAllBuffers (kernel.files d none)).foldl (fun d id => (kernel.deallocateBuffer h id d).2) d

/-- `buffer::connect` -/
def connect (id size : Word64) (overmap : Bool) (d : δ) : Except Int FileMapping :=
  match h.mmapBuffer (kernel.files d (some id)) id size overmap with
  | none => .error bufferErrorGetmapFailed
  | some mapping => .ok mapping

/-- The constructor, from where it allocates. -/
def allocateAndConnect (id size : Word64) (overmap : Bool) (d : δ) : Except Int FileMapping × δ :=
  let (allocated, d) := kernel.allocateBuffer h id size d
  if allocated < 0 then (.error bufferErrorAllocFailed, d)
  else (kernel.connect h id size overmap d, d)

/-- `buffer(dev, size, id, overmap)` -/
def newBuffer (id size : Word64) (overmap : Bool) (d : δ) : Except Int FileMapping × δ :=
  let fs := kernel.files d (some id)
  let found := if h.bufferExists fs id then h.getBufferSize fs id else 0
  if 0 < found then
    if found ≠ size.toInt then
      let (freed, d) := kernel.deallocateBuffer h id d
      if freed < 0 then (.error bufferErrorDeleteFailed, d)
      else kernel.allocateAndConnect h id size overmap d
    else (kernel.connect h id size overmap d, d)
  else kernel.allocateAndConnect h id size overmap d

end UioPciDma

inductive BufferCall
  | allocateBuffer (id size : Word64)
  | deallocateBuffer (id : Word64)
  | newBuffer (id size : Word64) (overmap : Bool)
  | deleteAllBuffers

namespace UioPciDma

variable {δ : Type} (kernel : UioPciDma δ) (h : SysfsHandler)

/-- The result is what is returned or thrown. -/
def call (d : δ) : BufferCall → Int × δ
  | .allocateBuffer id size => kernel.allocateBuffer h id size d
  | .deallocateBuffer id => kernel.deallocateBuffer h id d
  | .newBuffer id size overmap =>
      let (result, d) := kernel.newBuffer h id size overmap d
      (match result with | .error code => code | .ok _ => 0, d)
  | .deleteAllBuffers => (0, kernel.deleteAllBuffers h d)

/-- The calls with their results. -/
def runCalls (d : δ) : List BufferCall → List (BufferCall × Int) × δ
  | [] => ([], d)
  | c :: rest =>
      let (result, d) := kernel.call h d c
      let (results, d) := runCalls d rest
      ((c, result) :: results, d)

/-! ## What the driver does -/

/-- The driver as documented. A buffer is a directory below `dma/` with its
mapping in it; no two have one name, and what is not registered cannot be
opened. -/
structure Documented : Prop where
  mapFile : ∀ d about name, SysfsHandler.bufferId name ≠ none →
    (kernel.files d about).stat (h.path (directoryAttr name sysfsAttrDmaMap)) =
      (kernel.size d name).map .regular
  noFile : ∀ d about name, SysfsHandler.bufferId name ≠ none → kernel.size d name = none →
    (kernel.files d about).opens (h.path (directoryAttr name sysfsAttrDmaMap)) = false
  directories : ∀ d about, ∃ entries,
    (kernel.files d about).readdir (h.path sysfsAttrBufDir) = some entries ∧ entries.Nodup ∧
    ∀ name, SysfsHandler.bufferId name ≠ none →
      (name ∈ entries ∧
          (kernel.files d about).stat (h.path sysfsAttrBufDir ++ name) = some .directory ↔
        kernel.size d name ≠ none)
  refuses : ∀ d (id : Word64), kernel.size d (formatLd id.toInt) ≠ none →
    (kernel.files d (some id)).writes (h.path sysfsAttrDmaRequest) = false
  registers : ∀ d (id : Word64) request, request.name = formatLd id.toInt →
    kernel.size (kernel.register d request) =
      Function.update (kernel.size d) (formatLd id.toInt) (some (kernel.granted request.size))
  releases : ∀ d name,
    kernel.size (kernel.release d name) = Function.update (kernel.size d) name none
  covers : ∀ size, size.toNat ≤ kernel.granted size

/-- No release is turned down. -/
def TakesReleases : Prop :=
  ∀ d id, (kernel.files d (some id)).opens (h.path sysfsAttrDmaFree) = true ∧
    (kernel.files d (some id)).writes (h.path sysfsAttrDmaFree) = true

end UioPciDma

/-! ## The store -/

/-- The buffers by id, with their size. -/
abbrev BufferStore := Word64 → Option ℕ

/-- What is registered are the buffers of the store, under their signed names. -/
structure UioPciDma.Holds {δ : Type} (kernel : UioPciDma δ) (d : δ) (store : BufferStore) :
    Prop where
  size : ∀ id, kernel.size d (formatLd id.toInt) = store id
  named : ∀ name, kernel.size d name ≠ none → ∃ id : Word64, name = formatLd id.toInt

/-- What a call does to the store. A constructor that fails may have freed or
replaced the buffer. -/
def StoreStep (granted : Word64 → ℕ) (takes : Prop) (store store' : BufferStore) :
    BufferCall → Int → Prop
  | .allocateBuffer id size, result =>
      result = 0 ∧ size ≠ 0 ∧ store id = none ∧
          store' = Function.update store id (some (granted size)) ∨
        result = -1 ∧ store' = store
  | .deallocateBuffer id, result =>
      result = 0 ∧ store' = Function.update store id none ∨
        result = -1 ∧ store' = store ∧ ¬takes
  | .newBuffer id size _, result =>
      (∀ other, other ≠ id → store' other = store other) ∧
      (store' id = store id ∨ store' id = none ∨ store' id = some (granted size)) ∧
      (result = 0 → id.toNat < 2 ^ 63 ∧ ∃ bytes, store' id = some bytes ∧ size.toNat ≤ bytes) ∧
      (0 < size.toInt → id.toNat < 2 ^ 63 → store id = some size.toNat → store' = store)
  | .deleteAllBuffers, _ =>
      (∀ id, store' id = store id ∨ store' id = none) ∧ (takes → ∀ id, store' id = none)

/-- What a constructor takes for the size of a buffer. -/
def BufferStore.found (store : BufferStore) (id : Word64) : Int :=
  if id.toNat < 2 ^ 63 then (store id).elim 0 Int.ofNat else 0

/-- One step for each call. -/
inductive StoreSteps (granted : Word64 → ℕ) (takes : Prop) :
    BufferStore → List (BufferCall × Int) → BufferStore → Prop
  | nil (store) : StoreSteps granted takes store [] store
  | cons {store store' store'' c result rest} :
      StoreStep granted takes store store' c result →
      StoreSteps granted takes store' rest store'' →
      StoreSteps granted takes store ((c, result) :: rest) store''

/-- What the accessors and the listing say. -/
structure Shows (h : SysfsHandler) (fs : SysfsFiles) (store : BufferStore) : Prop where
  bufferExists : ∀ id, h.bufferExists fs id = true ↔ id.toNat < 2 ^ 63 ∧ store id ≠ none
  bufferSize : ∀ id : Word64, h.getBufferSize fs id =
    if id.toNat < 2 ^ 63 then (store id).elim (-1) Int.ofNat else -1
  nodup : (h.listAllBuffers fs).Nodup
  listed : ∀ id, id ∈ h.listAllBuffers fs ↔ store id ≠ none

/-! ## Names -/

theorem formatLd_injective : Function.Injective fun id : Word64 => formatLd id.toInt := by
  intro id other same
  have read := congrArg SysfsHandler.bufferId same
  simp only [SysfsHandler.bufferId_formatLd] at read
  exact Option.some.inj read

/-! ## What reaches the kernel -/

namespace SysfsHandler

variable (h : SysfsHandler) (fs : SysfsFiles)

theorem allocateBuffer_cases (id size : Word64) :
    h.allocateBuffer fs id size = (-1, none) ∨
      size ≠ 0 ∧ fs.writes (h.path sysfsAttrDmaRequest) ≠ false ∧
        ∃ request, h.allocateBuffer fs id size = (0, some request) ∧
          request.name = formatLd id.toInt ∧ request.size = size := by
  simp only [allocateBuffer]
  split_ifs with zero opens writes
  · exact .inl rfl
  · exact .inl rfl
  · exact .inl rfl
  · exact .inr ⟨zero, writes, _, rfl, snprintf_formatLd id, rfl⟩

theorem deallocateBuffer_cases (id : Word64) :
    h.deallocateBuffer fs id = (-1, none) ∧
        (fs.opens (h.path sysfsAttrDmaFree) = false ∨
          fs.writes (h.path sysfsAttrDmaFree) = false) ∨
      h.deallocateBuffer fs id = (0, some (formatLd id.toInt)) := by
  simp only [deallocateBuffer, snprintf_formatLd]
  split_ifs with opens writes
  · exact .inl ⟨rfl, .inl opens⟩
  · exact .inl ⟨rfl, .inr writes⟩
  · exact .inr rfl

theorem opens_of_mmapFile {attr : List Char} {size : Word64} {writable : Bool}
    {mapping : FileMapping} (mapped : h.mmapFile fs attr size writable = some mapping) :
    fs.opens (h.path attr) = true := by
  rw [mmapFile] at mapped
  split_ifs at mapped with possible
  exact possible.1

end SysfsHandler

namespace UioPciDma.Holds

variable {δ : Type} {kernel : UioPciDma δ} {h : SysfsHandler} {d : δ} {store : BufferStore}

/-- A name that is read as an id is registered for this id or not at all. -/
theorem size_of_bufferId (holds : kernel.Holds d store) {name : List Char} {id : Word64}
    (read : SysfsHandler.bufferId name = some id) (registered : kernel.size d name ≠ none) :
    name = formatLd id.toInt := by
  obtain ⟨other, same⟩ := holds.named name registered
  rw [same, SysfsHandler.bufferId_formatLd] at read
  rw [same, Option.some.inj read]

theorem size_idToStr (holds : kernel.Holds d store) (id : Word64) :
    kernel.size d (idToStr id) = if id.toNat < 2 ^ 63 then store id else none := by
  by_cases small : id.toNat < 2 ^ 63
  · rw [if_pos small, ← formatLd_of_lt small, holds.size]
  · rw [if_neg small]
    by_contra registered
    have same := holds.size_of_bufferId (SysfsHandler.bufferId_idToStr id) registered
    exact formatLd_ne_idToStr (Nat.le_of_not_lt small) same.symm

/-- Registering and releasing change the buffer of the name. -/
theorem update (holds : kernel.Holds d store) {d' : δ} {id : Word64} {bytes : Option ℕ}
    (changed : kernel.size d' = Function.update (kernel.size d) (formatLd id.toInt) bytes) :
    kernel.Holds d' (Function.update store id bytes) where
  size other := by
    have before : (fun id : Word64 => kernel.size d (formatLd id.toInt)) = store :=
      funext holds.size
    rw [changed, ← before]
    exact congrFun (Function.update_comp_eq_of_injective _ formatLd_injective id bytes) other
  named name registered := by
    by_cases same : name = formatLd id.toInt
    · exact ⟨id, same⟩
    · rw [changed, Function.update_of_ne same] at registered
      exact holds.named name registered

/-! ## The accessors and the listing -/

variable (documented : kernel.Documented h)
include documented

theorem stat_map (holds : kernel.Holds d store) (about : Option Word64) (id : Word64) :
    (kernel.files d about).stat (h.path (getBufferAttributeName id sysfsAttrDmaMap)) =
      (if id.toNat < 2 ^ 63 then store id else none).map .regular := by
  have read : SysfsHandler.bufferId (idToStr id) ≠ none := by
    rw [SysfsHandler.bufferId_idToStr]
    exact Option.some_ne_none id
  rw [← holds.size_idToStr id]
  exact documented.mapFile d about (idToStr id) read

theorem bufferExists (holds : kernel.Holds d store) (about : Option Word64) (id : Word64) :
    h.bufferExists (kernel.files d about) id = true ↔ id.toNat < 2 ^ 63 ∧ store id ≠ none := by
  rw [SysfsHandler.bufferExists, SysfsHandler.attributeExists, holds.stat_map documented]
  by_cases small : id.toNat < 2 ^ 63
  · rw [if_pos small, Option.isSome_map, Option.isSome_iff_ne_none, and_iff_right small]
  · rw [if_neg small]
    exact iff_of_false Bool.false_ne_true fun known => small known.1

theorem bufferSize (holds : kernel.Holds d store) (about : Option Word64) (id : Word64) :
    h.getBufferSize (kernel.files d about) id =
      if id.toNat < 2 ^ 63 then (store id).elim (-1) Int.ofNat else -1 := by
  rw [SysfsHandler.getBufferSize, SysfsHandler.getAttributeSize, holds.stat_map documented]
  by_cases small : id.toNat < 2 ^ 63
  · rw [if_pos small, if_pos small]
    cases store id with
    | none => rfl
    | some bytes => rfl
  · rw [if_neg small, if_neg small]
    rfl

/-- Each buffer is found under one of the entries, and no other has its id. -/
theorem listAllBuffers (holds : kernel.Holds d store) (about : Option Word64) :
    (h.listAllBuffers (kernel.files d about)).Nodup ∧
      ∀ id, id ∈ h.listAllBuffers (kernel.files d about) ↔ store id ≠ none := by
  obtain ⟨entries, listing, nodup, directory⟩ := documented.directories d about
  simp only [SysfsHandler.listAllBuffers, listing]
  -- an entry that is listed is the name of a registered buffer
  have registered {name : List Char} {id : Word64} (mem : name ∈ entries)
      (listed : (if (kernel.files d about).stat (h.path sysfsAttrBufDir ++ name) = some .directory
        then SysfsHandler.bufferId name else none) = some id) :
      name = formatLd id.toInt ∧ store id ≠ none := by
    split_ifs at listed with isDirectory
    have known := (directory name (by rw [listed]; exact Option.some_ne_none id)).mp
      ⟨mem, isDirectory⟩
    have same := holds.size_of_bufferId listed known
    rw [same, holds.size] at known
    exact ⟨same, known⟩
  constructor
  · rw [List.Nodup, List.pairwise_filterMap]
    refine nodup.imp_of_mem ?_
    rintro name other mem memOther differ id listed id' listed' rfl
    exact differ ((registered mem listed).1.trans (registered memOther listed').1.symm)
  · intro id
    rw [List.mem_filterMap]
    constructor
    · rintro ⟨name, mem, listed⟩
      exact (registered mem listed).2
    · intro known
      rw [← holds.size] at known
      have read := SysfsHandler.bufferId_formatLd id
      obtain ⟨mem, isDirectory⟩ := (directory (formatLd id.toInt)
        (by rw [read]; exact Option.some_ne_none id)).mpr known
      exact ⟨formatLd id.toInt, mem, by rw [if_pos isDirectory, read]⟩

theorem shows (holds : kernel.Holds d store) (about : Option Word64) :
    Shows h (kernel.files d about) store where
  bufferExists := holds.bufferExists documented about
  bufferSize := holds.bufferSize documented about
  nodup := (holds.listAllBuffers documented about).1
  listed := (holds.listAllBuffers documented about).2

/-! ## One call -/

theorem allocateBuffer (holds : kernel.Holds d store) (id size : Word64) :
    ∃ store', kernel.Holds (kernel.allocateBuffer h id size d).2 store' ∧
      StoreStep kernel.granted (kernel.TakesReleases h) store store' (.allocateBuffer id size)
        (kernel.allocateBuffer h id size d).1 := by
  unfold UioPciDma.allocateBuffer
  rcases h.allocateBuffer_cases (kernel.files d (some id)) id size with
    failed | ⟨nonzero, taken, request, sent, name, rfl⟩
  · rw [failed]
    exact ⟨store, holds, .inr ⟨rfl, rfl⟩⟩
  · have free : store id = none := by
      by_contra known
      rw [← holds.size] at known
      exact taken (documented.refuses d id known)
    rw [sent]
    have registered := documented.registers d id request name
    exact ⟨_, holds.update registered, .inl ⟨rfl, nonzero, free, rfl⟩⟩

theorem deallocateBuffer (holds : kernel.Holds d store) (id : Word64) :
    ∃ store', kernel.Holds (kernel.deallocateBuffer h id d).2 store' ∧
      StoreStep kernel.granted (kernel.TakesReleases h) store store' (.deallocateBuffer id)
        (kernel.deallocateBuffer h id d).1 := by
  unfold UioPciDma.deallocateBuffer
  rcases h.deallocateBuffer_cases (kernel.files d (some id)) id with ⟨failed, refused⟩ | sent
  · rw [failed]
    refine ⟨store, holds, .inr ⟨rfl, rfl, fun takes => ?_⟩⟩
    obtain ⟨opens, writes⟩ := takes d id
    rw [opens, writes] at refused
    exact absurd refused (by decide)
  · rw [sent]
    exact ⟨_, holds.update (documented.releases d _), .inl ⟨rfl, rfl⟩⟩

/-- The loop frees buffers of the store only, and where nothing is turned down
each that it comes to. -/
theorem deallocateAll (ids : List Word64) (holds : kernel.Holds d store) :
    ∃ store', kernel.Holds (ids.foldl (fun d id => (kernel.deallocateBuffer h id d).2) d) store' ∧
      (∀ id, store' id = store id ∨ store' id = none) ∧
      (kernel.TakesReleases h → ∀ id ∈ ids, store' id = none) := by
  induction ids generalizing d store with
  | nil => exact ⟨store, holds, fun _ => .inl rfl, fun _ _ mem => absurd mem List.not_mem_nil⟩
  | cons id ids ih =>
      obtain ⟨freed, holdsFreed, step⟩ := holds.deallocateBuffer documented id
      obtain ⟨store', holds', fewer, emptied⟩ := ih holdsFreed
      -- what the first release can have done
      have frees (other : Word64) : freed other = store other ∨ freed other = none := by
        rcases step with ⟨-, rfl⟩ | ⟨-, rfl, -⟩
        · by_cases same : other = id
          · exact .inr (by rw [same, Function.update_self])
          · exact .inl (Function.update_of_ne same _ _)
        · exact .inl rfl
      refine ⟨store', holds', fun other => ?_, fun takes other mem => ?_⟩
      · rcases fewer other with kept | gone
        · rw [kept]
          exact frees other
        · exact .inr gone
      · rcases List.mem_cons.mp mem with rfl | mem
        · rcases step with ⟨-, rfl⟩ | ⟨-, -, refused⟩
          · rcases fewer other with kept | gone
            · rw [kept, Function.update_self]
            · exact gone
          · exact absurd takes refused
        · exact emptied takes other mem

/-- The listing leaves no buffer out. -/
theorem deleteAllBuffers (holds : kernel.Holds d store) :
    ∃ store', kernel.Holds (kernel.deleteAllBuffers h d) store' ∧
      StoreStep kernel.granted (kernel.TakesReleases h) store store' .deleteAllBuffers 0 := by
  obtain ⟨store', holds', fewer, emptied⟩ :=
    holds.deallocateAll documented (h.listAllBuffers (kernel.files d none))
  refine ⟨store', holds', fewer, fun takes id => ?_⟩
  rcases fewer id with kept | gone
  · by_contra known
    have mem := ((holds.listAllBuffers documented none).2 id).mpr (kept ▸ known)
    exact known (emptied takes id mem)
  · exact gone

/-! ## The constructor -/

/-- A mapping is one of a buffer that the accessors find. -/
theorem connect (holds : kernel.Holds d store) {id size : Word64} {overmap : Bool}
    {mapping : FileMapping} (connected : kernel.connect h id size overmap d = .ok mapping) :
    id.toNat < 2 ^ 63 ∧ store id ≠ none := by
  have opens : (kernel.files d (some id)).opens
      (h.path (getBufferAttributeName id sysfsAttrDmaMap)) = true := by
    unfold UioPciDma.connect at connected
    split at connected
    · cases connected
    · rename_i mapped
      exact SysfsHandler.opens_of_mmapFile h _ mapped
  have registered : kernel.size d (idToStr id) ≠ none := by
    intro unknown
    have closed := documented.noFile d (some id) (idToStr id)
      (by rw [SysfsHandler.bufferId_idToStr]; exact Option.some_ne_none id) unknown
    exact absurd (opens.symm.trans closed) (by decide)
  rw [holds.size_idToStr] at registered
  by_cases small : id.toNat < 2 ^ 63
  · rw [if_pos small] at registered
    exact ⟨small, registered⟩
  · exact absurd (if_neg small) registered

end UioPciDma.Holds

/-- The constructor finds a buffer of its size exactly where one is that the
accessors see. -/
theorem BufferStore.found_eq_iff (store : BufferStore) {size : Word64} (positive : 0 < size.toInt)
    (id : Word64) :
    store.found id = size.toInt ↔ id.toNat < 2 ^ 63 ∧ store id = some size.toNat := by
  have value : size.toInt = size.toNat := by
    rw [BitVec.toInt_eq_toNat_cond] at positive ⊢
    split_ifs at positive ⊢ with low
    · rfl
    · omega
  rw [value] at positive ⊢
  rw [found]
  by_cases small : id.toNat < 2 ^ 63
  · rw [if_pos small, and_iff_right small]
    cases store id with
    | none => exact iff_of_false (Int.ne_of_lt positive) (Option.some_ne_none _).symm
    | some bytes => exact Int.ofNat_inj.trans Option.some_inj.symm
  · rw [if_neg small]
    exact iff_of_false (Int.ne_of_lt positive) fun entry => small entry.1

/-- What a constructor does to the store, but for the buffer it can reuse. -/
structure Constructs (granted : Word64 → ℕ) (store store' : BufferStore) (id size : Word64)
    (result : Except Int FileMapping) : Prop where
  others : ∀ other, other ≠ id → store' other = store other
  own : store' id = store id ∨ store' id = none ∨ store' id = some (granted size)
  mapped : ∀ mapping, result = .ok mapping →
    id.toNat < 2 ^ 63 ∧ ∃ bytes, store' id = some bytes ∧ size.toNat ≤ bytes
  failed : result ≠ .error 0

/-- The old buffer may be freed first. -/
theorem Constructs.of_freed {granted : Word64 → ℕ} {store store' : BufferStore}
    {id size : Word64} {result : Except Int FileMapping}
    (constructs : Constructs granted (Function.update store id none) store' id size result) :
    Constructs granted store store' id size result where
  others other differ := by
    rw [constructs.others other differ, Function.update_of_ne differ]
  own := by
    rcases constructs.own with kept | changed
    · rw [kept, Function.update_self]
      exact .inr (.inl rfl)
    · exact .inr changed
  mapped := constructs.mapped
  failed := constructs.failed

namespace UioPciDma

variable {δ : Type} {kernel : UioPciDma δ} {h : SysfsHandler} {d : δ} {store : BufferStore}

theorem connect_ne_error (id size : Word64) (overmap : Bool) :
    kernel.connect h id size overmap d ≠ .error 0 := by
  unfold connect
  split
  · exact fun same => absurd (Except.error.inj same) (by decide)
  · exact fun same => nomatch same

namespace Holds

variable (documented : kernel.Documented h)
include documented

theorem allocateAndConnect (holds : kernel.Holds d store) (id size : Word64) (overmap : Bool) :
    ∃ store', kernel.Holds (kernel.allocateAndConnect h id size overmap d).2 store' ∧
      Constructs kernel.granted store store' id size
        (kernel.allocateAndConnect h id size overmap d).1 := by
  obtain ⟨store', holds', step⟩ := holds.allocateBuffer documented id size
  refine ⟨store', ?_⟩
  unfold UioPciDma.allocateAndConnect
  generalize kernel.allocateBuffer h id size d = allocated at holds' step
  obtain ⟨result, d'⟩ := allocated
  rcases step with ⟨rfl, -, -, rfl⟩ | ⟨rfl, rfl⟩
  · refine ⟨holds', ?_, ?_, ?_, connect_ne_error id size overmap⟩
    · exact fun other differ => Function.update_of_ne differ _ _
    · exact .inr (.inr (Function.update_self ..))
    · intro mapping connected
      have small := (holds'.connect documented connected).1
      exact ⟨small, _, Function.update_self .., documented.covers size⟩
  · have notOk (mapping : FileMapping) :
        (.error bufferErrorAllocFailed : Except Int FileMapping) ≠ .ok mapping := nofun
    refine ⟨holds', fun _ _ => rfl, .inl rfl, fun mapping same => absurd same (notOk mapping), ?_⟩
    exact fun same => absurd (Except.error.inj same) (by decide)

theorem found (holds : kernel.Holds d store) (id : Word64) :
    (if h.bufferExists (kernel.files d (some id)) id
      then h.getBufferSize (kernel.files d (some id)) id else 0) = store.found id := by
  have known := holds.bufferExists documented (some id) id
  rw [holds.bufferSize documented, BufferStore.found]
  by_cases small : id.toNat < 2 ^ 63
  · rw [and_iff_right small] at known
    rw [if_pos small, if_pos small]
    cases entry : store id with
    | none => exact if_neg fun present => known.mp present entry
    | some bytes => exact if_pos (known.mpr (by rw [entry]; exact Option.some_ne_none bytes))
  · rw [if_neg small, if_neg small]
    exact if_neg fun present => small (known.mp present).1

/-- A buffer of the right size is not touched. -/
theorem newBuffer (holds : kernel.Holds d store) (id size : Word64) (overmap : Bool) :
    ∃ store', kernel.Holds (kernel.newBuffer h id size overmap d).2 store' ∧
      Constructs kernel.granted store store' id size
        (kernel.newBuffer h id size overmap d).1 ∧
      (0 < size.toInt → id.toNat < 2 ^ 63 → store id = some size.toNat → store' = store) := by
  unfold UioPciDma.newBuffer
  simp only [holds.found documented id]
  by_cases present : 0 < store.found id
  · rw [if_pos present]
    -- the buffer is used as it is, or freed and allocated with the other size
    by_cases same : store.found id = size.toInt
    · rw [if_neg (not_not.mpr same)]
      obtain ⟨small, entry⟩ := (store.found_eq_iff (same ▸ present) id).mp same
      refine ⟨store, holds, ⟨fun _ _ => rfl, .inl rfl, fun _ _ => ?_, ?_⟩, fun _ _ _ => rfl⟩
      · exact ⟨small, _, entry, Nat.le_refl _⟩
      · exact connect_ne_error id size overmap
    · have other (positive : 0 < size.toInt) (small : id.toNat < 2 ^ 63) :
          store id ≠ some size.toNat :=
        fun entry => same ((store.found_eq_iff positive id).mpr ⟨small, entry⟩)
      obtain ⟨freed, holdsFreed, step⟩ := holds.deallocateBuffer documented id
      rw [if_pos same]
      generalize kernel.deallocateBuffer h id d = deallocated at holdsFreed step
      obtain ⟨result, d'⟩ := deallocated
      rcases step with ⟨rfl, rfl⟩ | ⟨rfl, rfl, -⟩
      · obtain ⟨store', holds', constructs⟩ :=
          holdsFreed.allocateAndConnect documented id size overmap
        exact ⟨store', holds', constructs.of_freed, fun p s e => absurd e (other p s)⟩
      · have notOk (mapping : FileMapping) :
            (.error bufferErrorDeleteFailed : Except Int FileMapping) ≠ .ok mapping := nofun
        refine ⟨freed, holdsFreed, ⟨fun _ _ => rfl, .inl rfl, ?_, ?_⟩, fun _ _ _ => rfl⟩
        · exact fun mapping same => absurd same (notOk mapping)
        · exact fun same => absurd (Except.error.inj same) (by decide)
  · obtain ⟨store', holds', constructs⟩ := holds.allocateAndConnect documented id size overmap
    rw [if_neg present]
    refine ⟨store', holds', constructs, fun positive small entry => absurd ?_ present⟩
    rw [(store.found_eq_iff positive id).mpr ⟨small, entry⟩]
    exact positive

/-! ## Whole runs -/

theorem call (holds : kernel.Holds d store) (c : BufferCall) :
    ∃ store', kernel.Holds (kernel.call h d c).2 store' ∧
      StoreStep kernel.granted (kernel.TakesReleases h) store store' c (kernel.call h d c).1 := by
  cases c with
  | allocateBuffer id size => exact holds.allocateBuffer documented id size
  | deallocateBuffer id => exact holds.deallocateBuffer documented id
  | deleteAllBuffers => exact holds.deleteAllBuffers documented
  | newBuffer id size overmap =>
      obtain ⟨store', holds', constructs, reuses⟩ := holds.newBuffer documented id size overmap
      refine ⟨store', holds', constructs.others, constructs.own, fun success => ?_, reuses⟩
      simp only [UioPciDma.call] at success
      split at success
      · rename_i code thrown
        exact absurd (thrown.trans (congrArg Except.error success)) constructs.failed
      · rename_i mapping connected
        exact constructs.mapped mapping connected

end Holds

end UioPciDma

/-- **Buffers of a board.** Whatever is called and whatever of it the driver
turns down, the buffers stay a store by id: each call makes its step on it, and
the accessors and the listing show what the steps have left. -/
theorem buffers_are_store {δ : Type} {kernel : UioPciDma δ} {h : SysfsHandler}
    (documented : kernel.Documented h) {d : δ} {store : BufferStore} (holds : kernel.Holds d store)
    (calls : List BufferCall) :
    ∃ store', kernel.Holds (kernel.runCalls h d calls).2 store' ∧
      StoreSteps kernel.granted (kernel.TakesReleases h) store (kernel.runCalls h d calls).1
        store' ∧
      ∀ about, Shows h (kernel.files (kernel.runCalls h d calls).2 about) store' := by
  induction calls generalizing d store with
  | nil => exact ⟨store, holds, .nil store, holds.shows documented⟩
  | cons c rest ih =>
      obtain ⟨between, holdsBetween, step⟩ := holds.call documented c
      obtain ⟨store', holds', steps, showing⟩ := ih holdsBetween
      exact ⟨store', holds', .cons step steps, showing⟩

/-! ## A driver that turns nothing down -/

/-- The entry of a name in a list of buffers. -/
def lookupName (d : List (Word64 × ℕ)) (name : List Char) : Option ℕ :=
  (d.find? fun e => name = formatLd e.1.toInt).map (·.2)

/-- It keeps whole pages. -/
def pageDriver (h : SysfsHandler) : UioPciDma (List (Word64 × ℕ)) where
  files d about :=
    { stat := fun p =>
        if ∃ e ∈ d, p = h.path sysfsAttrBufDir ++ formatLd e.1.toInt then some .directory
        else (d.find? fun e =>
          p = h.path (directoryAttr (formatLd e.1.toInt) sysfsAttrDmaMap)).map (.regular ·.2)
      opens := fun p =>
        p = h.path sysfsAttrDmaRequest ∨ p = h.path sysfsAttrDmaFree ∨
          ∃ e ∈ d, p = h.path (directoryAttr (formatLd e.1.toInt) sysfsAttrDmaMap)
      writes := fun p =>
        p = h.path sysfsAttrDmaRequest →
          about.all fun id => lookupName d (formatLd id.toInt) = none
      maps := fun _ => true
      attr := fun _ => .absent
      readdir := fun _ => some (d.map fun e => formatLd e.1.toInt).dedup }
  size := lookupName
  register d request :=
    match SysfsHandler.bufferId request.name with
    | none => d
    | some id => (id, (request.size.toNat + 4095) / 4096 * 4096) :: d
  release d name := d.filter fun e => name ≠ formatLd e.1.toInt
  granted size := (size.toNat + 4095) / 4096 * 4096

theorem lookupName_cons (id : Word64) (bytes : ℕ) (d : List (Word64 × ℕ)) :
    lookupName ((id, bytes) :: d) =
      Function.update (lookupName d) (formatLd id.toInt) (some bytes) := by
  funext name
  rw [lookupName, List.find?_cons, Function.update_apply]
  by_cases same : name = formatLd id.toInt
  · simp [same]
  · simp [same, lookupName]

theorem lookupName_filter (d : List (Word64 × ℕ)) (name : List Char) :
    lookupName (d.filter fun e => name ≠ formatLd e.1.toInt) =
      Function.update (lookupName d) name none := by
  funext other
  rw [lookupName, List.find?_filter, Function.update_apply]
  by_cases same : other = name
  · rw [if_pos same, List.find?_eq_none.mpr (by simp [same])]
    rfl
  · have kept : (fun e : Word64 × ℕ => decide (decide (name ≠ formatLd e.1.toInt) = true ∧
        decide (other = formatLd e.1.toInt) = true)) =
        fun e => decide (other = formatLd e.1.toInt) := by
      funext e
      refine decide_eq_decide.mpr ⟨fun both => of_decide_eq_true both.2, fun found => ?_⟩
      exact ⟨decide_eq_true fun named => same (found.trans named.symm), decide_eq_true found⟩
    rw [if_neg same, kept, lookupName]

/-- The buffers are found by their names. -/
theorem lookupName_eq_none_iff {d : List (Word64 × ℕ)} {name : List Char} :
    lookupName d name = none ↔ name ∉ d.map fun e => formatLd e.1.toInt := by
  rw [lookupName, Option.map_eq_none_iff, List.find?_eq_none, List.mem_map]
  constructor
  · rintro absent ⟨e, mem, named⟩
    exact absent e mem (decide_eq_true named.symm)
  · intro absent e mem named
    exact absent ⟨e, mem, (of_decide_eq_true named).symm⟩

theorem mem_formatLd {value : Int} {c : Char} (mem : c ∈ formatLd value) :
    c = '-' ∨ c.isDigit = true := by
  cases value with
  | ofNat n => exact .inr (Nat.isDigit_of_mem_toDigits (by omega) (by omega) mem)
  | negSucc n =>
      rcases List.mem_cons.mp mem with minus | digit
      · exact .inl minus
      · exact .inr (Nat.isDigit_of_mem_toDigits (by omega) (by omega) digit)

theorem path_injective (h : SysfsHandler) : Function.Injective h.path :=
  fun _ _ same => List.append_cancel_left same

theorem directoryAttr_injective (attr : List Char) :
    Function.Injective fun name => directoryAttr name attr := by
  intro name other same
  simp only [directoryAttr, List.append_assoc] at same
  exact List.append_cancel_right (List.append_cancel_left same)

/-- A file below a directory is no directory of a buffer. -/
theorem directoryAttr_ne (name : List Char) (value : Int) :
    directoryAttr name sysfsAttrDmaMap ≠ sysfsAttrBufDir ++ formatLd value := by
  intro same
  rw [directoryAttr, List.append_assoc, List.append_assoc] at same
  have slash : '/' ∈ formatLd value := by
    rw [← List.append_cancel_left same]
    simp
  exact absurd (mem_formatLd slash) (by decide)

theorem directoryAttr_ne_request (name : List Char) :
    directoryAttr name sysfsAttrDmaMap ≠ sysfsAttrDmaRequest ∧
      directoryAttr name sysfsAttrDmaMap ≠ sysfsAttrDmaFree := by
  have last : (directoryAttr name sysfsAttrDmaMap).getLast? = some 'p' := by
    simp [directoryAttr, sysfsAttrDmaMap]
  constructor
  · intro same
    rw [same] at last
    exact absurd last (by decide)
  · intro same
    rw [same] at last
    exact absurd last (by decide)

theorem pageDriver_documented (h : SysfsHandler) : (pageDriver h).Documented h where
  mapFile d about name _ := by
    -- a file in the directory of a buffer is not itself such a directory
    have noDirectory : ¬∃ e ∈ d, h.path (directoryAttr name sysfsAttrDmaMap) =
        h.path sysfsAttrBufDir ++ formatLd e.1.toInt := by
      rintro ⟨e, -, same⟩
      rw [SysfsHandler.path, SysfsHandler.path, List.append_assoc] at same
      exact directoryAttr_ne name _ (List.append_cancel_left same)
    simp only [pageDriver, if_neg noDirectory, lookupName, Option.map_map,
      (path_injective h).eq_iff, (directoryAttr_injective _).eq_iff]
    rfl
  noFile d about name _ unregistered := by
    have other := directoryAttr_ne_request name
    have absent : ¬∃ e ∈ d, h.path (directoryAttr name sysfsAttrDmaMap) =
        h.path (directoryAttr (formatLd e.1.toInt) sysfsAttrDmaMap) := by
      rintro ⟨e, mem, same⟩
      rw [(path_injective h).eq_iff, (directoryAttr_injective _).eq_iff] at same
      exact lookupName_eq_none_iff.mp unregistered (List.mem_map.mpr ⟨e, mem, same.symm⟩)
    refine decide_eq_false ?_
    rw [(path_injective h).eq_iff, (path_injective h).eq_iff]
    exact not_or.mpr ⟨other.1, not_or.mpr ⟨other.2, absent⟩⟩
  directories d about := by
    refine ⟨_, rfl, List.nodup_dedup _, fun name _ => ?_⟩
    rw [List.mem_dedup, Ne, show (pageDriver h).size d name = lookupName d name from rfl,
      lookupName_eq_none_iff, not_not]
    refine and_iff_left_of_imp fun listed => if_pos ?_
    obtain ⟨e, mem, named⟩ := List.mem_map.mp listed
    exact ⟨e, mem, by rw [named]⟩
  refuses d id registered := by
    refine decide_eq_false fun taken => registered ?_
    exact of_decide_eq_true (taken rfl)
  registers d id request named := by
    have read := SysfsHandler.bufferId_formatLd id
    rw [← named] at read
    simp only [pageDriver, read]
    exact lookupName_cons id _ d
  releases d name := lookupName_filter d name
  covers size := by
    show size.toNat ≤ (size.toNat + 4095) / 4096 * 4096
    omega

/-- Both buffers of a channel are made, the first a second time with another
size, and all are deleted. -/
theorem buffers_are_store_deleteAll :
    let calls : List BufferCall := [.newBuffer 0 0x2000 true, .newBuffer 1 0x1000 true,
      .newBuffer 0 0x4000 true, .deleteAllBuffers]
    let kernel := pageDriver freshHandler
    let run := kernel.runCalls freshHandler [] calls
    run.1.map Prod.snd = [0, 0, 0, 0] ∧
      ∃ store', kernel.Holds run.2 store' ∧
        StoreSteps kernel.granted (kernel.TakesReleases freshHandler) (fun _ => none) run.1
          store' ∧
        ∀ about, Shows freshHandler (kernel.files run.2 about) store' :=
  ⟨by decide +kernel, buffers_are_store (pageDriver_documented freshHandler)
    ⟨fun _ => rfl, fun _ registered => absurd rfl registered⟩ _⟩

end Librorc
