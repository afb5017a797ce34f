import Librorc.Lib.ActionSystem
import Librorc.Lib.PageMap
import Librorc.Sysfs.BufferStore

/-!
# What a process has mapped

A `device` maps each BAR once, when it is first asked for, and a `buffer` maps its
memory when it is constructed; the destructors unmap. `buffer::deallocate` unmaps
too, but keeps the pointer, so that the destructor unmaps the same addresses
again. Everything mapped stays in place exactly as long as that second unmapping
finds nothing there.
-/

namespace Librorc

open Librorc.Lib

/-- `LIBRORC_MAX_BARS` -/
abbrev maxBars : Nat := 6

def sysfsAttrBar : List Char := "bar".toList

/-- `LIBRORC_BAR_ERROR_CONSTRUCTOR_FAILED` -/
def barErrorConstructorFailed : Int := 0x2001

/-- `attr_name` of `getBarMap`, with room for one digit. -/
def barAttrName (n : Fin maxBars) : List Char :=
  snprintf (sysfsAttrBar.length + 2) (sysfsAttrBar ++ formatLd n)

/-- A page of a file. -/
abbrev FilePage := List Char × Nat

def pageSize : Nat := 4096

/-- The pages of a mapping. -/
def pages (size : Word64) : Nat := (size.toNat + (pageSize - 1)) / pageSize

/-- Where a mapping goes, and what is seen there. -/
def FileMapping.range (m : FileMapping) (start : Nat) : PageRange FilePage :=
  ⟨start, pages m.size, fun k => (m.file, k)⟩

/-! ## The process -/

/-- A `buffer`, with the page `m_mem` points to. -/
structure ConnectedBuffer where
  id : Word64
  size : Word64
  wrapmap : Bool
  mem : Nat
  /-- No member: `deallocate` has been called. -/
  released : Bool

/-- `mapping_size` of `mmap_buffer` and `munmap_buffer`. -/
def ConnectedBuffer.mappingSize (b : ConnectedBuffer) : Word64 :=
  if b.wrapmap then b.size * 2 else b.size

/-- A process with a `device` and the buffers it has constructed on it; a NULL in
`m_bar_map` is `none`. -/
structure Process (δ : Type) where
  driver : δ
  space : PageMap FilePage
  barMap : Fin maxBars → Option Nat
  barSize : Fin maxBars → Int
  buffers : Nat → Option ConnectedBuffer

/-- The calls that map or unmap, and what other processes do to the driver. -/
inductive MappingCall (δ : Type)
  | getBarMap (n : Fin maxBars)
  | newBar (n : Fin maxBars)
  | newBuffer (i : Nat) (id size : Word64) (overmap : Bool)
  | attachBuffer (i : Nat) (id : Word64) (overmap : Bool)
  | initializeSglist (i : Nat)
  | deallocate (i : Nat)
  | deleteBuffer (i : Nat)
  | others (driver : δ)

/-- Where `mmap` puts a number of pages; `none` where it fails. -/
abbrev Placement := PageMap FilePage → Nat → Option Nat

/-- "The kernel chooses the address": one where nothing is mapped. -/
def Placement.Free (place : Placement) : Prop :=
  ∀ space count start, place space count = some start → space.Free start count

namespace Process

variable {δ : Type} (kernel : UioPciDma δ) (place : Placement) (h : SysfsHandler)

def mmap (m : FileMapping) (p : Process δ) : Option (Nat × Process δ) :=
  (place p.space (pages m.size)).map fun start =>
    (start, { p with space := p.space.map (m.range start) })

def munmap (start : Nat) (size : Word64) (p : Process δ) : Process δ :=
  { p with space := p.space.unmap start (pages size) }

/-! ### The device -/

def getBarMap (n : Fin maxBars) (p : Process δ) : Option Nat × Process δ :=
  match p.barMap n with
  | some map => (some map, p)
  | none =>
      let fs := kernel.files p.driver none
      let size := h.getAttributeSize fs (barAttrName n)
      let p := { p with barSize := Function.update p.barSize n size }
      if size < 0 then (none, p)
      else
        match (h.mmapFile fs (barAttrName n) (BitVec.ofInt 64 size) true).bind (p.mmap place) with
        | none => (none, p)
        | some (start, p) =>
            (some start, { p with barMap := Function.update p.barMap n (some start) })

def getBarSize (n : Fin maxBars) (p : Process δ) : Word64 := BitVec.ofInt 64 (p.barSize n)

/-- `bar_impl_hw(dev, n)`: its `m_bar` and `m_size`. -/
def newBar (n : Fin maxBars) (p : Process δ) : Except Int (Nat × Word64) × Process δ :=
  match p.getBarMap kernel place h n with
  | (none, p) => (.error barErrorConstructorFailed, p)
  | (some bar, p) => (.ok (bar, p.getBarSize n), p)

/-- `~device` -/
def deleteDevice (p : Process δ) : Process δ :=
  { p with
    space := (List.finRange maxBars).foldl (fun space n =>
      match p.barMap n with
      | none => space
      | some start => space.unmap start (pages (p.getBarSize n))) p.space }

/-! ### The buffers -/

/-- What the constructors do with the result of `connect`. -/
def construct (i : Nat) (id size : Word64) (overmap : Bool) (mapping : Except Int FileMapping)
    (p : Process δ) : Except Int Nat × Process δ :=
  match mapping with
  | .error code => (.error code, p)
  | .ok m =>
      match p.mmap place m with
      | none => (.error bufferErrorGetmapFailed, p)
      | some (start, p) =>
          (.ok start, { p with
            buffers := Function.update p.buffers i (some ⟨id, size, overmap, start, false⟩) })

/-- `buffer(dev, size, id, overmap)` -/
def newBuffer (i : Nat) (id size : Word64) (overmap : Bool) (p : Process δ) :
    Except Int Nat × Process δ :=
  let (mapping, driver) := kernel.newBuffer h id size overmap p.driver
  construct place i id size overmap mapping { p with driver := driver }

/-- `buffer(dev, id, overmap)`, with the size found. -/
def attachBuffer (i : Nat) (id : Word64) (overmap : Bool) (p : Process δ) :
    Except Int Nat × Process δ :=
  let size := BitVec.ofInt 64 (h.getBufferSize (kernel.files p.driver (some id)) id)
  construct place i id size overmap (kernel.connect h id size overmap p.driver) p

/-- The list is mapped to be read, and unmapped. -/
def initializeSglist (b : ConnectedBuffer) (p : Process δ) : Int × Process δ :=
  let fs := kernel.files p.driver (some b.id)
  let sgmapsize := h.getSglistSize fs b.id
  if sgmapsize < 0 then (-1, p)
  else
    match (h.mmapSglist fs b.id (BitVec.ofInt 64 sgmapsize)).bind (p.mmap place) with
    | none => (-1, p)
    | some (sglist, p) => (0, p.munmap sglist (BitVec.ofInt 64 sgmapsize))

/-- The pointer and the size stay. -/
def deallocate (i : Nat) (b : ConnectedBuffer) (p : Process δ) : Int × Process δ :=
  let p := p.munmap b.mem b.mappingSize
  let (result, driver) := kernel.deallocateBuffer h b.id p.driver
  (result, { p with
    driver := driver
    buffers := Function.update p.buffers i (some { b with released := true }) })

/-- `~buffer` -/
def deleteBuffer (i : Nat) (b : ConnectedBuffer) (p : Process δ) : Process δ :=
  let p := p.munmap b.mem b.mappingSize
  { p with buffers := Function.update p.buffers i none }

/-! ## Runs -/

/-- A call; a buffer is constructed where there is none, and used where there is
one. -/
def call (p : Process δ) : MappingCall δ → Option (Process δ)
  | .getBarMap n => some (p.getBarMap kernel place h n).2
  | .newBar n => some (p.newBar kernel place h n).2
  | .newBuffer i id size overmap =>
      if p.buffers i = none then some (p.newBuffer kernel place h i id size overmap).2 else none
  | .attachBuffer i id overmap =>
      if p.buffers i = none then some (p.attachBuffer kernel place h i id overmap).2 else none
  | .initializeSglist i => (p.buffers i).map fun b => (p.initializeSglist kernel place h b).2
  | .deallocate i => (p.buffers i).map fun b => (p.deallocate kernel h i b).2
  | .deleteBuffer i => (p.buffers i).map fun b => p.deleteBuffer i b
  | .others driver => some { p with driver := driver }

/-- The calls, with these files and this placement. -/
def mappings : ActionSystem (Process δ) (MappingCall δ) where
  init p := (∀ n, p.barMap n = none) ∧ ∀ i, p.buffers i = none
  step := call kernel place h

/-- Memory that is unmapped a second time holds nothing new. -/
def Tidy (p : Process δ) : MappingCall δ → Prop
  | .deallocate i | .deleteBuffer i =>
      ∀ b, p.buffers i = some b → b.released = true → p.space.Free b.mem (pages b.mappingSize)
  | _ => True

end Process

/-! ## Who owns what -/

inductive MappingOwner
  | bar (n : Fin maxBars)
  | buffer (i : Nat)
deriving DecidableEq

/-- The mapping of a buffer. -/
def ConnectedBuffer.mapping (b : ConnectedBuffer) (h : SysfsHandler) : FileMapping :=
  ⟨h.path (getBufferAttributeName b.id sysfsAttrDmaMap), b.mappingSize, true⟩

namespace Process

variable {δ : Type}

/-- The mapping of a BAR. -/
def barMapping (p : Process δ) (h : SysfsHandler) (n : Fin maxBars) : FileMapping :=
  ⟨h.path (barAttrName n), p.getBarSize n, true⟩

/-- A pointer into the BAR or into the memory of the buffer has these pages behind
it; a deallocated buffer has none. -/
def owned (p : Process δ) (h : SysfsHandler) : MappingOwner → Option (PageRange FilePage)
  | .bar n => (p.barMap n).map (p.barMapping h n).range
  | .buffer i => (p.buffers i).bind fun b =>
      if b.released then none else some ((b.mapping h).range b.mem)

/-- Every pointer sees its own file, page by page, and the rest of the address
space is as it was. -/
def Intact (base : PageMap FilePage) (h : SysfsHandler) (p : Process δ) : Prop :=
  Tiled base p.space (p.owned h)

variable {base : PageMap FilePage} {h : SysfsHandler} {p p' : Process δ}

theorem Intact.congr (intact : p.Intact base h) (space : p'.space = p.space)
    (owned : p'.owned h = p.owned h) : p'.Intact base h := by
  rw [Intact, space, owned]
  exact intact

/-- What the owners have depends on the pointers and sizes. -/
theorem owned_congr (bars : ∀ n, p'.barMap n = p.barMap n)
    (sizes : ∀ n, p.barMap n ≠ none → p'.barSize n = p.barSize n)
    (buffers : p'.buffers = p.buffers) : p'.owned h = p.owned h := by
  funext o
  cases o with
  | bar n =>
      cases map : p.barMap n with
      | none => simp only [owned, bars, map, Option.map_none]
      | some start =>
          have size := sizes n (by simp [map])
          simp only [owned, bars, map, barMapping, getBarSize, size]
  | buffer i => simp only [owned, buffers]

/-- A BAR gets its pointer. -/
theorem owned_updateBar (n : Fin maxBars) (start : Nat)
    (bars : p'.barMap = Function.update p.barMap n (some start)) (sizes : p'.barSize = p.barSize)
    (buffers : p'.buffers = p.buffers) :
    p'.owned h = Function.update (p.owned h) (.bar n) (some ((p.barMapping h n).range start)) := by
  funext o
  cases o with
  | bar k =>
      simp only [owned, bars, barMapping, getBarSize, sizes]
      by_cases same : k = n
      · rw [same, Function.update_self, Function.update_self]
        rfl
      · rw [Function.update_of_ne same, Function.update_of_ne (by simpa using same)]
        rfl
  | buffer i =>
      rw [Function.update_of_ne (by simp)]
      simp only [owned, buffers]

/-- A buffer is constructed, released or deleted. -/
theorem owned_updateBuffer (i : Nat) (b : Option ConnectedBuffer)
    (bars : ∀ n, p'.barMap n = p.barMap n) (sizes : p'.barSize = p.barSize)
    (buffers : p'.buffers = Function.update p.buffers i b) :
    p'.owned h = Function.update (p.owned h) (.buffer i)
      (b.bind fun b => if b.released then none else some ((b.mapping h).range b.mem)) := by
  funext o
  cases o with
  | bar n =>
      rw [Function.update_of_ne (by simp)]
      simp only [owned, bars, barMapping, getBarSize, sizes]
  | buffer j =>
      simp only [owned, buffers]
      by_cases same : j = i
      · rw [same, Function.update_self, Function.update_self]
      · rw [Function.update_of_ne same, Function.update_of_ne (by simpa using same)]
        rfl

/-! ### `mmap` -/

theorem mmapFile_eq {fs : SysfsFiles} {attr : List Char} {size : Word64} {writable : Bool}
    {m : FileMapping} (mapped : h.mmapFile fs attr size writable = some m) :
    m = ⟨h.path attr, size, writable⟩ := by
  unfold SysfsHandler.mmapFile at mapped
  split at mapped
  · exact (Option.some.inj mapped).symm
  · cases mapped

variable {kernel : UioPciDma δ}

theorem connect_eq {id size : Word64} {overmap : Bool} {d : δ} {m : FileMapping}
    (connected : kernel.connect h id size overmap d = .ok m) (mem : Nat) (released : Bool) :
    m = (ConnectedBuffer.mk id size overmap mem released).mapping h := by
  unfold UioPciDma.connect at connected
  cases mapped : h.mmapBuffer (kernel.files d (some id)) id size overmap with
  | none => simp [mapped] at connected
  | some m' =>
      simp only [mapped, Except.ok.injEq] at connected
      exact connected ▸ mmapFile_eq mapped

/-- Whichever way the constructor goes, it ends in `connect`. -/
theorem newBuffer_eq {id size : Word64} {overmap : Bool} {d : δ} {m : FileMapping}
    (made : (kernel.newBuffer h id size overmap d).1 = .ok m) (mem : Nat) (released : Bool) :
    m = (ConnectedBuffer.mk id size overmap mem released).mapping h := by
  have connect : ∃ d', kernel.connect h id size overmap d' = .ok m := by
    have allocated {d : δ} (made : (kernel.allocateAndConnect h id size overmap d).1 = .ok m) :
        ∃ d', kernel.connect h id size overmap d' = .ok m := by
      simp only [UioPciDma.allocateAndConnect] at made
      split_ifs at made
      exact ⟨_, made⟩
    unfold UioPciDma.newBuffer at made
    dsimp only at made
    generalize (if h.bufferExists (kernel.files d (some id)) id then
      h.getBufferSize (kernel.files d (some id)) id else 0) = found at made
    split_ifs at made
    · exact allocated made
    · exact ⟨_, made⟩
    · exact allocated made
  obtain ⟨d', connected⟩ := connect
  exact connect_eq connected mem released

variable {place : Placement}

theorem mmap_eq {m : FileMapping} {start : Nat} (placed : place.Free)
    (mapped : p.mmap place m = some (start, p')) :
    p' = { p with space := p.space.map (m.range start) } ∧ p.space.Free start (pages m.size) := by
  obtain ⟨start', put, same⟩ := Option.map_eq_some_iff.mp mapped
  cases same
  exact ⟨rfl, placed _ _ _ put⟩

theorem bind_mmap_eq {fs : SysfsFiles} {attr : List Char} {size : Word64} {writable : Bool}
    {start : Nat} (placed : place.Free)
    (mapped : (h.mmapFile fs attr size writable).bind (fun m => p.mmap place m) =
      some (start, p')) :
    p' = { p with
        space := p.space.map (FileMapping.range ⟨h.path attr, size, writable⟩ start) } ∧
      p.space.Free start (pages size) := by
  obtain ⟨m, opened, put⟩ := Option.bind_eq_some_iff.mp mapped
  obtain rfl := mmapFile_eq opened
  exact mmap_eq placed put

/-- A pointer that was NULL gets a mapping. -/
theorem Intact.mmap (intact : p.Intact base h) {o : MappingOwner} (none : p.owned h o = none)
    {m : FileMapping} {start : Nat} (free : p.space.Free start (pages m.size)) :
    Tiled base (p.space.map (m.range start))
      (Function.update (p.owned h) o (some (m.range start))) :=
  Tiled.map intact none free

/-! ### What each call does -/

/-- The device asks for a BAR once. -/
theorem Intact.getBarMap (placed : place.Free) (intact : p.Intact base h) (n : Fin maxBars) :
    (p.getBarMap kernel place h n).2.Intact base h := by
  unfold Process.getBarMap
  cases unmapped : p.barMap n with
  | some start => exact intact
  | none =>
      dsimp only
      generalize h.getAttributeSize (kernel.files p.driver none) (barAttrName n) = size
      generalize sized : ({ p with barSize := Function.update p.barSize n size } : Process δ) = p₁
      -- there is no pointer yet that goes with the size
      have same : p₁.owned h = p.owned h := by
        subst sized
        refine owned_congr (fun _ => rfl) (fun k pointer => ?_) rfl
        have ne : k ≠ n := by
          rintro rfl
          exact pointer unmapped
        exact Function.update_of_ne ne ..
      have intact₁ : p₁.Intact base h := intact.congr (by rw [← sized]) same
      split_ifs with negative
      · exact intact₁
      · split
        · exact intact₁
        · rename_i start p₂ mapped
          obtain ⟨rfl, free⟩ := bind_mmap_eq placed mapped
          have none : p₁.owned h (.bar n) = none := by
            rw [same]
            simp only [owned, unmapped, Option.map_none]
          have size₁ : p₁.getBarSize n = BitVec.ofInt 64 size := by
            rw [getBarSize, ← sized]
            exact congrArg (BitVec.ofInt 64) (Function.update_self ..)
          have tiled := Intact.mmap intact₁ none (m := p₁.barMapping h n)
            (by rwa [barMapping, size₁])
          have after : ({ p₁ with barMap := Function.update p₁.barMap n (some start) } :
              Process δ).owned h = _ := owned_updateBar n start rfl rfl rfl
          rw [← after, barMapping, size₁] at tiled
          exact tiled

theorem newBar_snd (n : Fin maxBars) :
    (p.newBar kernel place h n).2 = (p.getBarMap kernel place h n).2 := by
  unfold newBar
  split
  · rename_i found
    rw [found]
  · rename_i found
    rw [found]

/-- Only what belongs to BAR `n` changes, and nothing once it has its pointer. -/
theorem getBarMap_frame (n : Fin maxBars) :
    (p.getBarMap kernel place h n).2.buffers = p.buffers ∧
      (p.barMap n ≠ none → (p.getBarMap kernel place h n).2 = p) ∧
      ∀ k, k ≠ n → (p.getBarMap kernel place h n).2.barMap k = p.barMap k ∧
        (p.getBarMap kernel place h n).2.barSize k = p.barSize k := by
  unfold Process.getBarMap
  cases unmapped : p.barMap n with
  | some start => exact ⟨rfl, fun _ => rfl, fun k _ => ⟨rfl, rfl⟩⟩
  | none =>
      have size (v : Int) {k : Fin maxBars} (ne : k ≠ n) :
          Function.update p.barSize n v k = p.barSize k := Function.update_of_ne ne ..
      dsimp only
      split_ifs with negative
      · exact ⟨rfl, fun pointer => absurd rfl pointer, fun k ne => ⟨rfl, size _ ne⟩⟩
      · split
        · exact ⟨rfl, fun pointer => absurd rfl pointer, fun k ne => ⟨rfl, size _ ne⟩⟩
        · rename_i start p₁ mapped
          obtain ⟨m, -, put⟩ := Option.bind_eq_some_iff.mp mapped
          obtain ⟨_, -, same⟩ := Option.map_eq_some_iff.mp put
          cases same
          exact ⟨rfl, fun pointer => absurd rfl pointer,
            fun k ne => ⟨Function.update_of_ne ne .., size _ ne⟩⟩

theorem owned_others (driver : δ) :
    ({ p with driver := driver } : Process δ).owned h = p.owned h :=
  owned_congr (fun _ => rfl) (fun _ _ => rfl) rfl

/-- A constructor that returns leaves a buffer with memory, one that throws nothing. -/
theorem construct_frame (place : Placement) (p : Process δ) (i : Nat) (id size : Word64)
    (overmap : Bool) (mapping : Except Int FileMapping) :
    (p.construct place i id size overmap mapping).2 = p ∨
      ∃ space start, (p.construct place i id size overmap mapping).2 = { p with
        space := space
        buffers := Function.update p.buffers i (some ⟨id, size, overmap, start, false⟩) } := by
  unfold Process.construct
  cases mapping with
  | error code => exact .inl rfl
  | ok m =>
      dsimp only
      cases put : p.mmap place m with
      | none => exact .inl rfl
      | some result =>
          obtain ⟨start, -, rfl⟩ := Option.map_eq_some_iff.mp put
          exact .inr ⟨_, start, rfl⟩

theorem Intact.construct (placed : place.Free) (intact : p.Intact base h) {i : Nat}
    (unused : p.buffers i = none) {id size : Word64} {overmap : Bool}
    {mapping : Except Int FileMapping}
    (own : ∀ m, mapping = .ok m → ∀ mem released,
      m = (ConnectedBuffer.mk id size overmap mem released).mapping h) :
    (p.construct place i id size overmap mapping).2.Intact base h := by
  unfold Process.construct
  cases mapping with
  | error code => exact intact
  | ok m =>
      dsimp only
      cases put : p.mmap place m with
      | none => exact intact
      | some result =>
          obtain ⟨start, p₁⟩ := result
          obtain ⟨rfl, free⟩ := mmap_eq placed put
          -- the place of the new buffer is free, and owns nothing so far
          have none : p.owned h (.buffer i) = none := by
            simp only [owned, unused, Option.bind_none]
          have after : ({ p with
              space := p.space.map (m.range start)
              buffers := Function.update p.buffers i (some ⟨id, size, overmap, start, false⟩) } :
                Process δ).owned h =
              Function.update (p.owned h) (.buffer i) (some (m.range start)) := by
            rw [own m rfl start false]
            exact owned_updateBuffer (p := p) i (some ⟨id, size, overmap, start, false⟩)
              (fun _ => rfl) rfl rfl
          rw [Intact, after]
          exact Intact.mmap intact none free

/-- The list is gone again. -/
theorem initializeSglist_snd (placed : place.Free) (b : ConnectedBuffer) :
    (p.initializeSglist kernel place h b).2 = p := by
  unfold initializeSglist
  dsimp only
  split_ifs with negative
  · rfl
  · split
    · rfl
    · rename_i start p₁ mapped
      obtain ⟨rfl, free⟩ := bind_mmap_eq placed mapped
      refine congrArg (fun space => ({ p with space := space } : Process δ)) ?_
      exact PageMap.unmap_map free

/-- Memory that is unmapped for the first time is that of the buffer. -/
theorem Intact.munmap (intact : p.Intact base h) {i : Nat} {b : ConnectedBuffer}
    (live : p.buffers i = some b) {b' : Option ConnectedBuffer}
    (gone : ∀ b ∈ b', b.released = true) (driver : δ) :
    ({ p.munmap b.mem b.mappingSize with
        driver := driver
        buffers := Function.update p.buffers i b' } : Process δ).Intact base h ↔
      (b.released = true → p.space.Free b.mem (pages b.mappingSize)) := by
  -- a deallocated buffer owns as little as a deleted one
  have nothing : (b'.bind fun b =>
      if b.released then none else some ((b.mapping h).range b.mem)) = none := by
    cases b' with
    | none => rfl
    | some b' => exact if_pos (gone b' rfl)
  have after : ({ p.munmap b.mem b.mappingSize with
      driver := driver
      buffers := Function.update p.buffers i b' } : Process δ).owned h =
        Function.update (p.owned h) (.buffer i) none := by
    rw [← nothing]
    exact owned_updateBuffer (p := p) i b' (fun _ => rfl) rfl rfl
  rw [Intact, after]
  cases released : b.released with
  | false =>
      have own : p.owned h (.buffer i) = some ((b.mapping h).range b.mem) := by
        simp only [owned, live, Option.bind_some, released, Bool.false_eq_true, if_false]
      have tiled := Tiled.unmap intact own
      exact iff_of_true tiled (by simp)
  | true =>
      have own : p.owned h (.buffer i) = none := by
        simp only [owned, live, Option.bind_some, released, if_true]
      rw [← own, Function.update_eq_self]
      exact (Tiled.unmap_iff intact _ _).trans ⟨fun free _ => free, fun free => free rfl⟩

theorem tidy_iff {i : Nat} {b : ConnectedBuffer} (live : p.buffers i = some b) :
    (b.released = true → p.space.Free b.mem (pages b.mappingSize)) ↔
      ∀ b, p.buffers i = some b → b.released = true →
        p.space.Free b.mem (pages b.mappingSize) := by
  rw [live]
  exact ⟨fun free b' same => Option.some.inj same ▸ free, fun all => all b rfl⟩

instance (p : Process δ) : DecidablePred p.Tidy
  | .deallocate i | .deleteBuffer i =>
      match live : p.buffers i with
      | none => isTrue fun b found => by simp [live] at found
      | some _ => decidable_of_iff _ (tidy_iff live)
  | .getBarMap _ | .newBar _ | .newBuffer .. | .attachBuffer .. | .initializeSglist _
  | .others _ => isTrue trivial

/-- What is not done does no harm. -/
theorem tidy_of_refused {c : MappingCall δ} (refused : p.call kernel place h c = none) :
    p.Tidy c := by
  cases c with
  | deallocate i | deleteBuffer i =>
      intro b live
      simp [call, live] at refused
  | _ => trivial

/-- All a call can do. What unmaps the memory of a buffer is its own case; every
other call is tidy. -/
theorem call_cases (placed : place.Free) {c : MappingCall δ}
    (taken : p.call kernel place h c = some p') :
    (p.Tidy c ∧ ∃ n, p' = (p.getBarMap kernel place h n).2) ∨
    (p.Tidy c ∧ ∃ i id size overmap mapping driver, p.buffers i = none ∧
      (∀ m, mapping = .ok m → ∀ mem released,
        m = (ConnectedBuffer.mk id size overmap mem released).mapping h) ∧
      p' = (({ p with driver := driver } : Process δ).construct place i id size overmap
        mapping).2) ∨
    (p.Tidy c ∧ ∃ driver, p' = { p with driver := driver }) ∨
    (∃ i b b' driver, p.buffers i = some b ∧
      (c = .deallocate i ∧ b' = some { b with released := true } ∨
        c = .deleteBuffer i ∧ b' = none) ∧
      p' = { p.munmap b.mem b.mappingSize with
        driver := driver
        buffers := Function.update p.buffers i b' }) := by
  cases c with
  | getBarMap n =>
      cases taken
      exact .inl ⟨trivial, n, rfl⟩
  | newBar n =>
      cases taken
      exact .inl ⟨trivial, n, newBar_snd n⟩
  | newBuffer i id size overmap =>
      simp only [call] at taken
      split_ifs at taken with unused
      cases taken
      exact .inr (.inl ⟨trivial, i, id, size, overmap, _, _, unused,
        fun _ made mem released => newBuffer_eq made mem released, rfl⟩)
  | attachBuffer i id overmap =>
      simp only [call] at taken
      split_ifs at taken with unused
      cases taken
      exact .inr (.inl ⟨trivial, i, id, _, overmap, _, p.driver, unused,
        fun _ made mem released => connect_eq made mem released, rfl⟩)
  | initializeSglist i =>
      obtain ⟨b, -, rfl⟩ := Option.map_eq_some_iff.mp taken
      exact .inr (.inr (.inl ⟨trivial, p.driver, initializeSglist_snd placed b⟩))
  | deallocate i =>
      obtain ⟨b, live, rfl⟩ := Option.map_eq_some_iff.mp taken
      exact .inr (.inr (.inr ⟨i, b, _, _, live, .inl ⟨rfl, rfl⟩, rfl⟩))
  | deleteBuffer i =>
      obtain ⟨b, live, rfl⟩ := Option.map_eq_some_iff.mp taken
      exact .inr (.inr (.inr ⟨i, b, _, p.driver, live, .inr ⟨rfl, rfl⟩, rfl⟩))
  | others driver =>
      cases taken
      exact .inr (.inr (.inl ⟨trivial, driver, rfl⟩))

/-- A call leaves everything in place exactly if it is tidy. -/
theorem intact_iff_tidy (placed : place.Free) {c : MappingCall δ} (intact : p.Intact base h)
    (taken : p.call kernel place h c = some p') : p'.Intact base h ↔ p.Tidy c := by
  rcases call_cases placed taken with ⟨tidy, n, rfl⟩ |
    ⟨tidy, i, id, size, overmap, mapping, driver, unused, own, rfl⟩ | ⟨tidy, driver, rfl⟩ |
    ⟨i, b, b', driver, live, which, rfl⟩
  · exact iff_of_true (intact.getBarMap placed n) tidy
  · have before : ({ p with driver := driver } : Process δ).Intact base h :=
      intact.congr rfl (owned_others driver)
    exact iff_of_true (before.construct placed unused own) tidy
  · exact iff_of_true (intact.congr rfl (owned_others driver)) tidy
  · have gone : ∀ b ∈ b', b.released = true := by
      rcases which with ⟨-, rfl⟩ | ⟨-, rfl⟩
      · rintro b' ⟨⟩
        rfl
      · rintro b' ⟨⟩
    refine (intact.munmap live gone driver).trans ((tidy_iff live).trans ?_)
    rcases which with ⟨rfl, -⟩ | ⟨rfl, -⟩
    · exact Iff.rfl
    · exact Iff.rfl

/-! ### The end of the device -/

/-- Without buffers nothing of the process is left. -/
theorem deleteDevice_space (intact : p.Intact base h) (noBuffers : ∀ i, p.buffers i = none) :
    p.deleteDevice.space = base := by
  have nodup : ((List.finRange maxBars).map MappingOwner.bar).Nodup :=
    (List.nodup_finRange maxBars).map fun _ _ same => MappingOwner.bar.inj same
  have unmapped := Tiled.unmapAll intact nodup
  have space : ((List.finRange maxBars).map MappingOwner.bar).foldl
      (fun m o => (p.owned h o).elim m fun r => m.unmap r.start r.pages) p.space =
      p.deleteDevice.space := by
    rw [List.foldl_map]
    unfold deleteDevice
    dsimp only
    refine List.foldl_ext _ _ _ fun space n _ => ?_
    simp only [owned]
    cases p.barMap n <;> rfl
  rw [space] at unmapped
  -- the BARs have given their pages back, and there are no buffers
  refine unmapped.eq_base fun o => ?_
  cases o with
  | bar n => exact if_pos (List.mem_map_of_mem (List.mem_finRange n))
  | buffer i => simp [owned, noBuffers]

/-! ### What a BAR pointer is worth -/

/-- The pointer of `p` is still that of `p'`. -/
def KeepsBar (n : Fin maxBars) (p p' : Process δ) : Prop :=
  ∀ start, p.barMap n = some start → p'.barMap n = some start ∧ p'.getBarSize n = p.getBarSize n

theorem keepsBar_of_eq {n : Fin maxBars} (bars : p'.barMap = p.barMap)
    (sizes : p'.barSize = p.barSize) : KeepsBar n p p' := by
  intro start pointer
  rw [getBarSize, getBarSize, bars, sizes]
  exact ⟨pointer, rfl⟩

theorem keepsBar_getBarMap (k n : Fin maxBars) :
    KeepsBar n p (p.getBarMap kernel place h k).2 := by
  obtain ⟨-, again, apart⟩ := getBarMap_frame k (p := p)
  intro start pointer
  by_cases same : n = k
  · subst same
    rw [again (by simp [pointer])]
    exact ⟨pointer, rfl⟩
  · obtain ⟨map, size⟩ := apart n same
    exact ⟨map.trans pointer, congrArg (BitVec.ofInt 64) size⟩

theorem keepsBar_call (placed : place.Free) {c : MappingCall δ}
    (taken : p.call kernel place h c = some p') (n : Fin maxBars) : KeepsBar n p p' := by
  rcases call_cases placed taken with ⟨-, k, rfl⟩ |
    ⟨-, i, id, size, overmap, mapping, driver, -, -, rfl⟩ | ⟨-, driver, rfl⟩ |
    ⟨i, b, b', driver, -, -, rfl⟩
  · exact keepsBar_getBarMap k n
  · rcases construct_frame place { p with driver := driver } i id size overmap mapping with
      same | ⟨space, start, same⟩
    · rw [same]
      exact keepsBar_of_eq rfl rfl
    · rw [same]
      exact keepsBar_of_eq rfl rfl
  · exact keepsBar_of_eq rfl rfl
  · exact keepsBar_of_eq rfl rfl

theorem keepsBar_run (placed : place.Free) {calls : List (MappingCall δ)}
    (ran : (mappings kernel place h).run p calls = some p') (n : Fin maxBars) :
    KeepsBar n p p' := by
  induction calls generalizing p with
  | nil =>
      cases ran
      exact keepsBar_of_eq rfl rfl
  | cons c rest ih =>
      cases taken : (mappings kernel place h).step p c with
      | none => simp [ActionSystem.run, taken] at ran
      | some next =>
          simp only [ActionSystem.run, taken] at ran
          intro start pointer
          obtain ⟨pointer', size⟩ := keepsBar_call placed taken n start pointer
          obtain ⟨pointer'', size'⟩ := ih ran start pointer'
          exact ⟨pointer'', size'.trans size⟩

/-! ### Without `deallocate` -/

/-- Nothing has been unmapped ahead of its destructor. -/
def NoneReleased (p : Process δ) : Prop := ∀ i b, p.buffers i = some b → b.released = false

theorem NoneReleased.tidy (held : p.NoneReleased) (c : MappingCall δ) : p.Tidy c := by
  cases c with
  | deallocate i | deleteBuffer i =>
      intro b live released
      rw [held i b live] at released
      cases released
  | _ => trivial

theorem NoneReleased.update (held : p.NoneReleased) {i : Nat} {b' : Option ConnectedBuffer}
    (kept : ∀ b ∈ b', b.released = false) (buffers : p'.buffers = Function.update p.buffers i b') :
    p'.NoneReleased := by
  intro j b live
  rw [buffers] at live
  by_cases same : j = i
  · rw [same, Function.update_self] at live
    exact kept b live
  · rw [Function.update_of_ne same] at live
    exact held j b live

theorem NoneReleased.call (placed : place.Free) (held : p.NoneReleased) {c : MappingCall δ}
    (other : ∀ i, c ≠ .deallocate i) (taken : p.call kernel place h c = some p') :
    p'.NoneReleased := by
  rcases call_cases placed taken with ⟨-, n, rfl⟩ |
    ⟨-, i, id, size, overmap, mapping, driver, -, -, rfl⟩ | ⟨-, driver, rfl⟩ |
    ⟨i, b, b', driver, -, which, rfl⟩
  · rw [NoneReleased, (getBarMap_frame n).1]
    exact held
  · rcases construct_frame place { p with driver := driver } i id size overmap mapping with
      same | ⟨space, start, same⟩
    · rw [same]
      exact held
    · rw [same]
      refine held.update (i := i) (fun b new => ?_) rfl
      cases new
      rfl
  · exact held
  · rcases which with ⟨rfl, -⟩ | ⟨-, rfl⟩
    · exact absurd rfl (other i)
    · exact held.update (i := i) (by simp) rfl

theorem NoneReleased.keeps (placed : place.Free) (held : p.NoneReleased)
    {calls : List (MappingCall δ)} (without : ∀ i, .deallocate i ∉ calls) :
    (mappings kernel place h).Keeps Tidy p calls := by
  induction calls generalizing p with
  | nil => trivial
  | cons c rest ih =>
      refine ⟨held.tidy c, fun next taken => ?_⟩
      refine ih (held.call placed ?_ taken) fun i mem => without i (List.mem_cons_of_mem c mem)
      rintro i rfl
      exact without i List.mem_cons_self

end Process

open Process in
/-- **Everything mapped stays in place.** Wherever `mmap` puts the mappings, and
whatever the driver and other processes do: in every state of a run each pointer
has the pages of its own file behind it, and nothing else of the address space has
changed, exactly if no memory is unmapped a second time after something else has
been mapped there. This holds of every run without `buffer::deallocate`. A BAR that
has been mapped keeps its pointer and size, and after the last buffer `~device`
leaves the address space as the process found it. -/
theorem mappings_intact {δ : Type} {kernel : UioPciDma δ} {place : Placement} {h : SysfsHandler}
    (placed : place.Free) {p : Process δ} (fresh : (mappings kernel place h).init p)
    (calls : List (MappingCall δ)) :
    ((mappings kernel place h).Keeps Tidy p calls ↔
        ∀ first, first <+: calls → ∀ p', (mappings kernel place h).run p first = some p' →
          p'.Intact p.space h) ∧
      ((∀ i, .deallocate i ∉ calls) → (mappings kernel place h).Keeps Tidy p calls) ∧
      (∀ first second, calls = first ++ second → ∀ p₁ p₂,
        (mappings kernel place h).run p first = some p₁ →
          (mappings kernel place h).run p₁ second = some p₂ → ∀ n, KeepsBar n p₁ p₂) ∧
      ((mappings kernel place h).Keeps Tidy p calls →
        ∀ p', (mappings kernel place h).run p calls = some p' → (∀ i, p'.buffers i = none) →
          p'.deleteDevice.space = p.space) := by
  obtain ⟨noBars, noBuffers⟩ := fresh
  -- before the first call there is no pointer to look behind
  have start : p.Intact p.space h := by
    have nothing : p.owned h = fun _ => none := by
      funext o
      cases o with
      | bar n => simp [owned, noBars]
      | buffer i => simp [owned, noBuffers]
    rw [Intact, nothing]
    exact Tiled.empty p.space
  have exactly : (mappings kernel place h).Keeps Tidy p calls ↔
      ∀ first, first <+: calls → ∀ p', (mappings kernel place h).run p first = some p' →
        p'.Intact p.space h :=
    ActionSystem.keeps_iff_invariant
      (fun _ _ _ intact taken => intact_iff_tidy placed intact taken)
      (fun _ _ refused => tidy_of_refused refused) start
  refine ⟨exactly, ?_, ?_, ?_⟩
  · intro without
    refine NoneReleased.keeps placed (fun i b live => ?_) without
    rw [noBuffers] at live
    cases live
  · intro first second _ p₁ p₂ _ ran
    exact keepsBar_run placed ran
  · intro tidy p' ran last
    exact deleteDevice_space (exactly.mp tidy calls (List.prefix_refl calls) p' ran) last

/-! ## A process that deallocates -/

/-- The lowest of the first pages that fits. -/
def firstFit : Placement := fun space count =>
  (List.range 64).find? fun start => space.Free start count

theorem firstFit_free : firstFit.Free := by
  intro space count start found
  have free := List.find?_some (p := fun start => decide (space.Free start count)) found
  exact of_decide_eq_true free

/-- Every file is there and has one page. -/
def onePageFiles : UioPciDma Unit where
  files _ _ :=
    { stat := fun _ => some (.regular pageSize)
      opens := fun _ => true
      writes := fun _ => true
      maps := fun _ => true
      attr := fun _ => .absent
      readdir := fun _ => none }
  size _ _ := some pageSize
  register d _ := d
  release d _ := d
  granted _ := pageSize

def newProcess : Process Unit where
  driver := ()
  space _ := none
  barMap _ := none
  barSize _ := 0
  buffers _ := none

open Process in
/-- The second buffer gets the place of the first, whose destructor then takes it
away. -/
theorem mappings_intact_staleDestructor :
    let calls : List (MappingCall Unit) := [.getBarMap 1, .newBuffer 0 7 4096 false,
      .deallocate 0, .newBuffer 1 8 4096 false, .deleteBuffer 0]
    ¬∀ first, first <+: calls → ∀ p',
      (mappings onePageFiles firstFit freshHandler).run newProcess first = some p' →
        p'.Intact newProcess.space freshHandler := by
  intro calls
  have fresh : (mappings onePageFiles firstFit freshHandler).init newProcess :=
    ⟨fun _ => rfl, fun _ => rfl⟩
  have stale : ¬(mappings onePageFiles firstFit freshHandler).Keeps Tidy newProcess calls := by
    decide +kernel
  exact fun all => stale ((mappings_intact firstFit_free fresh calls).1.mpr all)

end Librorc
