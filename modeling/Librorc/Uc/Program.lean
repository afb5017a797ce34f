import Librorc.Flash.Write
import Librorc.Lib.Listing
import Librorc.Uc.Spi

/-!
# `microcontroller::programFromFile`

The file is read page by page and programmed as it is read. The result of
`read()` goes into an unsigned variable, where a failure is a large number of
bytes, and the word address of a page is or-ed into the command as it is, where
it has 16 bits.
-/

namespace Librorc

open Librorc.Lib

/-- The file, as `open`, `fstat` and `read` show it. -/
structure FirmwareFile where
  opens : Bool
  stats : Bool
  content : List Word8
  reads : List ReadResult

/-- `UC_SPI_PAGESIZE<<1`. -/
def ucPageBytes : Nat := 2 * ucSpiPagesize

/-- Full pages and a last part are read, up to the end of the file or a failure. -/
def ReadsPages : Nat → List ReadResult → Prop
  | left, [] => left = 0
  | _, .failed :: _ => True
  | left, .bytes count :: rest =>
      0 < left ∧ count = min ucPageBytes left ∧ ReadsPages (left - count) rest

/-- The result in a `uint32_t`. -/
def ReadResult.nbytes : ReadResult → Word32
  | .failed => -1
  | .bytes count => BitVec.ofNat 32 count

/-! ## The function -/

namespace Microcontroller

/-- Loads `count` words from word `i` on. The array ends behind the page. -/
def loadWords (page : Nat → Word8) : Nat → Nat → UcCall Unit
  | 0, _ => pure ()
  | count + 1, i => do
      if i < ucSpiPagesize then loadMemPage (BitVec.ofNat 32 i) (bufferWord page i)
      else throw .outOfBounds
      loadWords page count (i + 1)

/-- The loop over the pages, with the bytes of the file that are left. The zero
of the end of the file ends the sequence of reads. -/
def programPages : List ReadResult → List Word8 → Word32 → (Nat → Word8) → UcCall Unit
  | [], _, _, _ => pure ()
  | result :: rest, left, addr, page =>
      if 0 < result.nbytes then do
        let page := result.fill left 0 page
        loadWords page (result.nbytes >>> 1).toNat 0
        progMemPage addr
        programPages rest (left.drop result.count) (addr + BitVec.ofNat 32 ucSpiPagesize) page
      else pure ()

/-- `page` is the array before it is read into. -/
def programFromFile (file : FirmwareFile) (page : Nat → Word8) : UcCall Unit :=
  if file.opens = false then throw (.thrown .fileError)
  else if file.stats = false then throw (.thrown .fileError)
  else if file.content.length % 2 = 1 then throw (.thrown .fileError)
  else do
    configureSpi
    earseChip
    setReset 1
    enterProgMode
    loadExtendedAddr 0
    programPages file.reads file.content 0 page
    setReset 0

end Microcontroller

/-! ## What it is to do -/

/-- The commands that load a page buffer. -/
def pageLoads (bytes : List Word8) : List SpiCommand :=
  (List.range (bytes.length / 2)).flatMap fun i =>
    [.progLow i (bytes.getD (2 * i) 0), .progHigh i (bytes.getD (2 * i + 1) 0)]

/-- The commands that program bytes from the word address `addr` on. -/
def pagePrograms (addr : Nat) (bytes : List Word8) : List SpiCommand :=
  if _none : bytes = [] then []
  else
    pageLoads (bytes.take ucPageBytes) ++ .writePage addr ::
      pagePrograms (addr + ucSpiPagesize) (bytes.drop ucPageBytes)
termination_by bytes.length
decreasing_by
  have some := List.length_pos_of_ne_nil _none
  rw [List.length_drop]
  unfold ucPageBytes ucSpiPagesize
  omega

/-- All commands to program `bytes`. -/
def intendedCommands (bytes : List Word8) : List SpiCommand :=
  [.progEnable, .eraseChip, .progEnable, .extAddr 0] ++ pagePrograms 0 bytes

/-- The number of bytes read before the first failure. -/
def bytesRead : List ReadResult → Nat
  | .bytes count :: rest => count + bytesRead rest
  | _ => 0

/-- The device decoded what was sent between `s` and `s'` as `commands`. -/
def Commanded (commands : List SpiCommand) (s s' : UcSpi) : Prop :=
  ∃ cmds, s'.sent = s.sent ++ cmds ∧ cmds.map SpiCommand.decode = commands.map some

/-- The call returns, with the commands for the whole file sent, and each word of
the file is read back. -/
structure ProgramsAll (file : FirmwareFile) (s : UcSpi) (run : Except UcStop Unit × UcSpi) :
    Prop where
  returned : run.1 = .ok ()
  commands : Commanded (intendedCommands file.content) s run.2
  readBack : ∀ a < file.content.length / 2,
    ((Microcontroller.readMemPage (BitVec.ofNat 32 a)).run.run run.2).1 =
      .ok (bufferWord (fun k => file.content.getD k 0) a)

/-- The call throws, with nothing programmed but what had been read. -/
structure StopsAtFailure (file : FirmwareFile) (s : UcSpi) (run : Except UcStop Unit × UcSpi) :
    Prop where
  threw : ∃ e, run.1 = .error (.thrown e)
  commands : Commanded (intendedCommands (file.content.take (bytesRead file.reads))) s run.2

/-- What the call is to do, by whether a read fails. -/
def ProgramsFile (file : FirmwareFile) (s : UcSpi) (run : Except UcStop Unit × UcSpi) : Prop :=
  (.failed ∉ file.reads → ProgramsAll file s run) ∧
    (.failed ∈ file.reads → StopsAtFailure file s run)

/-! ## What is sent -/

namespace Microcontroller

/-- The call returns; if `fits`, the device decodes what is sent as `commands`. -/
def SendsCommands (m : UcCall Unit) (fits : Prop) (commands : List SpiCommand) : Prop :=
  ∃ cmds, Sends m cmds ∧ (fits → cmds.map SpiCommand.decode = commands.map some)

namespace SendsCommands

variable {m m' : UcCall Unit} {fits fits' : Prop} {commands commands' : List SpiCommand}

theorem pure : SendsCommands (Pure.pure ()) fits [] := ⟨[], Sends.pure, fun _ => rfl⟩

theorem andThen (first : SendsCommands m fits commands) (second : SendsCommands m' fits commands') :
    SendsCommands (m >>= fun _ => m') fits (commands ++ commands') := by
  obtain ⟨cmds, sends, decoded⟩ := first
  obtain ⟨cmds', sends', decoded'⟩ := second
  refine ⟨cmds ++ cmds', sends.andThen sends', fun fit => ?_⟩
  rw [List.map_append, List.map_append, decoded fit, decoded' fit]

theorem mono (sends : SendsCommands m fits commands) (weaker : fits' → fits) :
    SendsCommands m fits' commands := by
  obtain ⟨cmds, sends, decoded⟩ := sends
  exact ⟨cmds, sends, fun fit => decoded (weaker fit)⟩

end SendsCommands

/-- On an idle device the call reads past the end of its array. -/
def ReadsOutside (m : UcCall Unit) : Prop :=
  ∀ s : UcSpi, s.pending = 0 → ∃ s', m.run.run s = (.error .outOfBounds, s')

theorem ReadsOutside.andThen {m : UcCall Unit} (outside : ReadsOutside m)
    (rest : Unit → UcCall Unit) : ReadsOutside (m >>= rest) := by
  intro s idle
  obtain ⟨s', run⟩ := outside s idle
  exact ⟨s', run_bind_error run⟩

theorem Sends.thenReadsOutside {m m' : UcCall Unit} {cmds : List Word32} (first : Sends m cmds)
    (outside : ReadsOutside m') : ReadsOutside (m >>= fun _ => m') := by
  intro s idle
  obtain ⟨s₁, run, received⟩ := first s idle
  obtain ⟨s', run'⟩ := outside s₁ received.idle
  exact ⟨s', (run_bind_ok run).trans run'⟩

/-- The halves of a word of the page. -/
theorem bufferWord_low (page : Nat → Word8) (i : Nat) :
    (((bufferWord page i).setWidth 32 &&& 0xff : Word32)).setWidth 8 = page (2 * i) := by
  have ones : (0xff : Word32) = BitVec.ofNat 32 (2 ^ 8 - 1) := rfl
  apply BitVec.eq_of_getLsbD_eq
  intro k inside
  have wide : k < 32 := by omega
  rw [BitVec.getLsbD_setWidth, ones, BitVec.getLsbD_and, getLsbD_ones, BitVec.getLsbD_setWidth,
    bufferWord, BitVec.getLsbD_append, if_pos inside]
  simp only [inside, wide, decide_true, Bool.true_and, Bool.and_true]

theorem bufferWord_high (page : Nat → Word8) (i : Nat) :
    ((((bufferWord page i).setWidth 32 >>> 8) &&& 0xff : Word32)).setWidth 8 =
      page (2 * i + 1) := by
  have ones : (0xff : Word32) = BitVec.ofNat 32 (2 ^ 8 - 1) := rfl
  apply BitVec.eq_of_getLsbD_eq
  intro k inside
  have wide : k < 32 := by omega
  have high : 8 + k < 32 := by omega
  rw [BitVec.getLsbD_setWidth, ones, BitVec.getLsbD_and, getLsbD_ones, BitVec.getLsbD_ushiftRight,
    BitVec.getLsbD_setWidth, bufferWord, BitVec.getLsbD_append, if_neg (by omega),
    Nat.add_sub_cancel_left]
  simp only [inside, wide, high, decide_true, Bool.true_and, Bool.and_true]

theorem sendsCommands_loadMemPage (page : Nat → Word8) {i : Nat} (inPage : i < ucSpiPagesize) :
    SendsCommands (loadMemPage (BitVec.ofNat 32 i) (bufferWord page i)) True
      [.progLow i (page (2 * i)), .progHigh i (page (2 * i + 1))] := by
  have bound : i < 64 := inPage
  have addr : (BitVec.ofNat 32 i).toNat = i := Nat.mod_eq_of_lt (by omega)
  have addrFits : (BitVec.ofNat 32 i).toNat < 2 ^ 16 := by omega
  have byte (w : Word32) : (w &&& 0xff).toNat < 2 ^ 8 := by
    refine (@toNat_and_low 32 w 8 (by omega)).trans_lt ?_
    exact Nat.mod_lt _ (by omega)
  refine ⟨_, sends_loadMemPage _ _, fun _ => ?_⟩
  rw [List.map_cons, List.map_cons, SpiCommand.decode_progLow addrFits (byte _),
    SpiCommand.decode_progHigh addrFits (byte _), bufferWord_low, bufferWord_high, addr]
  rfl

/-- Inside the array the loop loads word after word. -/
theorem sendsCommands_loadWords (page : Nat → Word8) {count i : Nat}
    (inPage : i + count ≤ ucSpiPagesize) :
    SendsCommands (loadWords page count i) True
      ((List.range' i count).flatMap fun j =>
        [.progLow j (page (2 * j)), .progHigh j (page (2 * j + 1))]) := by
  induction count generalizing i with
  | zero => exact SendsCommands.pure
  | succ count ih =>
      have inside : i < ucSpiPagesize := by omega
      rw [loadWords, if_pos inside, List.range'_succ, List.flatMap_cons]
      exact (sendsCommands_loadMemPage page inside).andThen (ih (by omega))

/-- Past the array it stops. -/
theorem readsOutside_loadWords (page : Nat → Word8) {count i : Nat} (inPage : i ≤ ucSpiPagesize)
    (past : ucSpiPagesize < i + count) : ReadsOutside (loadWords page count i) := by
  induction count generalizing i with
  | zero => omega
  | succ count ih =>
      rw [loadWords]
      by_cases inside : i < ucSpiPagesize
      · obtain ⟨cmds, sends, -⟩ := sendsCommands_loadMemPage page inside
        rw [if_pos inside]
        exact sends.thenReadsOutside (ih inside (by omega))
      · rw [if_neg inside]
        exact fun s _ => ⟨s, run_bind_error (run_throw _ _)⟩

theorem sendsCommands_progMemPage (addr : Nat) :
    SendsCommands (progMemPage (BitVec.ofNat 32 addr)) (addr < 65536) [.writePage addr] := by
  refine ⟨_, sends_progMemPage _, fun fits => ?_⟩
  have same : (BitVec.ofNat 32 addr).toNat = addr := Nat.mod_eq_of_lt (by omega)
  rw [List.map_cons, SpiCommand.decode_writePage (by omega), same]
  rfl

/-- The loop over the words of a page that holds `bytes`. -/
theorem sendsCommands_loadPage {page : Nat → Word8} {bytes : List Word8}
    (inPage : bytes.length ≤ ucPageBytes) (holds : ∀ k < bytes.length, page k = bytes.getD k 0) :
    SendsCommands (loadWords page (bytes.length / 2) 0) True (pageLoads bytes) := by
  have inArray : 0 + bytes.length / 2 ≤ ucSpiPagesize := by
    unfold ucPageBytes at inPage
    omega
  have same : pageLoads bytes = (List.range' 0 (bytes.length / 2)).flatMap fun j =>
      [.progLow j (page (2 * j)), .progHigh j (page (2 * j + 1))] := by
    rw [pageLoads, List.range_eq_range']
    refine List.flatMap_congr fun j inside => ?_
    have inside := (List.mem_range'_1.mp inside).2
    rw [holds (2 * j) (by omega), holds (2 * j + 1) (by omega)]
  rw [same]
  exact sendsCommands_loadWords page inArray

/-- One turn of the loop over the pages programs what it has read. -/
theorem sendsCommands_loadRead {left : List Word8} (page : Nat → Word8) {count : Nat}
    (read : count = min ucPageBytes left.length) :
    SendsCommands
      (loadWords ((ReadResult.bytes count).fill left 0 page)
        ((ReadResult.bytes count).nbytes >>> 1).toNat 0)
      True (pageLoads (left.take ucPageBytes)) := by
  have len : (left.take ucPageBytes).length = count := by rw [List.length_take, read]
  have small : count ≤ 128 := read.trans_le (Nat.min_le_left _ _)
  have words : ((ReadResult.bytes count).nbytes >>> 1).toNat =
      (left.take ucPageBytes).length / 2 := by
    rw [len, BitVec.toNat_ushiftRight, Nat.shiftRight_eq_div_pow, pow_one]
    exact congrArg (· / 2) (Nat.mod_eq_of_lt (by omega))
  rw [words]
  refine sendsCommands_loadPage (len.trans_le small) fun k inside => ?_
  have inRead : k < count := inside.trans_eq len
  have inPage : k < ucPageBytes := inRead.trans_le small
  show (if k < count then left.getD (0 + k) 0 else page k) = _
  rw [if_pos inRead, Nat.zero_add, getD_take 0 inPage]

/-- The unsigned result of a read that got something. -/
theorem nbytes_pos {left count : Nat} (some : 0 < left) (read : count = min ucPageBytes left) :
    0 < (ReadResult.bytes count).nbytes := by
  have bounds : 0 < count ∧ count ≤ 128 := by
    rw [read]
    exact ⟨Nat.lt_min.mpr ⟨by decide, some⟩, Nat.min_le_left _ _⟩
  show 0 < (BitVec.ofNat 32 count).toNat
  rw [BitVec.toNat_ofNat, Nat.mod_eq_of_lt (by omega)]
  exact bounds.1

/-- Nothing is left after a short read. -/
theorem drop_read {left : List Word8} {count : Nat} (read : count = min ucPageBytes left.length) :
    left.drop count = left.drop ucPageBytes := by
  rcases Nat.le_total ucPageBytes left.length with full | short
  · rw [read, Nat.min_eq_left full]
  · rw [read, Nat.min_eq_right short, List.drop_length, List.drop_eq_nil_of_le short]

/-- The loop over the pages, when no read fails. The commands are right up to the
last page that an address of 16 bits reaches. -/
theorem sendsCommands_programPages {reads : List ReadResult} {left : List Word8} (addr : Nat)
    (page : Nat → Word8) (reading : ReadsPages left.length reads) (sound : .failed ∉ reads) :
    SendsCommands (programPages reads left (BitVec.ofNat 32 addr) page)
      (left.length = 0 ∨ 2 * addr + left.length ≤ 131072) (pagePrograms addr left) := by
  induction reads generalizing left addr page with
  | nil =>
      have none : left = [] := List.length_eq_zero_iff.mp reading
      rw [none, pagePrograms, dif_pos rfl]
      exact SendsCommands.pure
  | cons result rest ih =>
      cases result with
      | failed => exact absurd List.mem_cons_self sound
      | bytes count =>
          obtain ⟨some, read, reading⟩ := reading
          have next : left.drop count = left.drop ucPageBytes := drop_read read
          have len : (left.drop ucPageBytes).length = left.length - 128 := List.length_drop
          rw [← List.length_drop, next] at reading
          have others : .failed ∉ rest := fun failure => sound (List.mem_cons_of_mem _ failure)
          have further := ih (addr + ucSpiPagesize) ((ReadResult.bytes count).fill left 0 page)
            reading others
          have step : addr + ucSpiPagesize = addr + 64 := rfl
          rw [programPages, if_pos (nbytes_pos some read), pagePrograms,
            dif_neg (List.ne_nil_of_length_pos some), ← BitVec.ofNat_add, ReadResult.count, next]
          refine ((sendsCommands_loadRead page read).mono fun _ => trivial).andThen ?_
          refine ((sendsCommands_progMemPage addr).mono (by omega)).andThen ?_
          exact further.mono (by omega)

/-- A failed read takes the loop past the array. -/
theorem readsOutside_programPages {reads : List ReadResult} {left : List Word8} (addr : Word32)
    (page : Nat → Word8) (reading : ReadsPages left.length reads) (failure : .failed ∈ reads) :
    ReadsOutside (programPages reads left addr page) := by
  induction reads generalizing left addr page with
  | nil => cases failure
  | cons result rest ih =>
      cases result with
      | failed =>
          have some : 0 < ReadResult.failed.nbytes := by decide
          have past : ucSpiPagesize < 0 + (ReadResult.failed.nbytes >>> 1).toNat := by decide
          rw [programPages, if_pos some]
          exact (readsOutside_loadWords _ (Nat.zero_le _) past).andThen _
      | bytes count =>
          obtain ⟨some, read, reading⟩ := reading
          have later : .failed ∈ rest := (List.mem_cons.mp failure).resolve_left nofun
          obtain ⟨cmds, loads, -⟩ := sendsCommands_loadRead page read
          rw [← List.length_drop] at reading
          rw [programPages, if_pos (nbytes_pos some read)]
          exact loads.thenReadsOutside <|
            (sends_progMemPage addr).thenReadsOutside (ih _ _ reading later)

end Microcontroller

/-! ## What the device holds afterwards -/

/-- The first `count` words of `bytes` are loaded between `d` and `d'`. -/
structure Loaded (bytes : List Word8) (count : Nat) (d d' : SpiDevice) : Prop where
  buffer : ∀ k < 2 * count, d'.buffer k = bytes.getD k 0
  flash : d'.flash = d.flash
  extAddr : d'.extAddr = d.extAddr

/-- Word after word. -/
theorem loaded_foldl (bytes : List Word8) (d : SpiDevice) {count : Nat}
    (inPage : count ≤ ucSpiPagesize) :
    Loaded bytes count d (((List.range count).flatMap fun i =>
      [SpiCommand.progLow i (bytes.getD (2 * i) 0),
        SpiCommand.progHigh i (bytes.getD (2 * i + 1) 0)]).foldl SpiCommand.effect d) := by
  induction count with
  | zero => exact ⟨fun k inside => absurd inside (by omega), rfl, rfl⟩
  | succ count ih =>
      obtain ⟨buffer, flash, extAddr⟩ := ih (by omega)
      have own : count % ucSpiPagesize = count := Nat.mod_eq_of_lt inPage
      rw [List.range_succ, List.flatMap_append, List.foldl_append]
      refine ⟨fun k inside => ?_, flash, extAddr⟩
      show Function.update (Function.update _ (2 * (count % ucSpiPagesize)) _)
        (2 * (count % ucSpiPagesize) + 1) _ k = _
      rw [own]
      by_cases high : k = 2 * count + 1
      · rw [high, Function.update_self]
      · rw [Function.update_of_ne high]
        by_cases low : k = 2 * count
        · rw [low, Function.update_self]
        · rw [Function.update_of_ne low]
          exact buffer k (by omega)

/-- Between `d` and `d'` the flash got `bytes` from the word address `addr` on. -/
structure Programmed (addr : Nat) (bytes : List Word8) (d d' : SpiDevice) : Prop where
  written : ∀ k < bytes.length, d'.flash (2 * addr + k) = bytes.getD k 0
  below : ∀ k < 2 * addr, d'.flash k = d.flash k
  extAddr : d'.extAddr = 0

theorem SpiDevice.extAddr_writePage (d : SpiDevice) (addr : Nat) :
    (d.writePage addr).extAddr = d.extAddr := by
  have shape : d.writePage addr = { d with flash := (d.writePage addr).flash } := rfl
  rw [shape]

section WritePage

variable {d : SpiDevice} {addr : Nat} (first : d.extAddr = 0) (aligned : addr % ucSpiPagesize = 0)
include first aligned

theorem pageBase : 2 * (d.wordAddr addr / ucSpiPagesize * ucSpiPagesize) = 2 * addr := by
  rw [SpiDevice.wordAddr, first, Nat.zero_mul, Nat.zero_add,
    Nat.div_mul_cancel (Nat.dvd_of_mod_eq_zero aligned)]

theorem flash_writePage {k : Nat} (inPage : k < ucPageBytes) :
    (d.writePage addr).flash (2 * addr + k) = d.buffer k := by
  have inside : 2 * addr ≤ 2 * addr + k ∧ 2 * addr + k < 2 * addr + 2 * ucSpiPagesize :=
    ⟨Nat.le_add_right _ _, Nat.add_lt_add_left inPage _⟩
  unfold SpiDevice.writePage
  rw [pageBase first aligned]
  exact (if_pos inside).trans (congrArg d.buffer (Nat.add_sub_cancel_left _ _))

theorem flash_writePage_below {k : Nat} (below : k < 2 * addr) :
    (d.writePage addr).flash k = d.flash k := by
  unfold SpiDevice.writePage
  rw [pageBase first aligned]
  exact if_neg (by omega)

end WritePage

/-- Page after page: what follows leaves the pages before it alone. -/
theorem programmed_foldl {addr : Nat} {bytes : List Word8} (even : bytes.length % 2 = 0)
    (aligned : addr % ucSpiPagesize = 0) {d : SpiDevice} (first : d.extAddr = 0) :
    Programmed addr bytes d ((pagePrograms addr bytes).foldl SpiCommand.effect d) := by
  fun_induction pagePrograms addr bytes generalizing d with
  | case1 addr => exact ⟨nofun, fun _ _ => rfl, first⟩
  | case2 addr bytes some ih =>
      have pageSize : ucPageBytes = 128 := rfl
      have step : addr + ucSpiPagesize = addr + 64 := rfl
      have len : (bytes.take ucPageBytes).length = min 128 bytes.length := List.length_take
      have rest : (bytes.drop ucPageBytes).length = bytes.length - 128 := List.length_drop
      have words : (bytes.take ucPageBytes).length / 2 ≤ ucSpiPagesize := by
        show _ ≤ 64
        omega
      have load := loaded_foldl (bytes.take ucPageBytes) d words
      rw [List.foldl_append, List.foldl_cons, pageLoads]
      generalize (List.flatMap _ _).foldl SpiCommand.effect d = loaded at load
      have page := load.extAddr.trans first
      have effect : SpiCommand.effect loaded (.writePage addr) = loaded.writePage addr := rfl
      rw [effect]
      obtain ⟨written, below, extAddr⟩ := @ih (by omega)
        ((Nat.add_mod_right _ _).trans aligned) (loaded.writePage addr)
          ((loaded.extAddr_writePage addr).trans page)
      refine ⟨fun k inside => ?_, fun k inside => ?_, extAddr⟩
      · by_cases inPage : k < ucPageBytes
        · refine (below _ (by omega)).trans ((flash_writePage page aligned inPage).trans ?_)
          rw [load.buffer k (by omega), getD_take 0 inPage]
        · have behind : ucPageBytes ≤ k := Nat.le_of_not_lt inPage
          have later : 2 * addr + k = 2 * (addr + ucSpiPagesize) + (k - ucPageBytes) := by omega
          rw [later, ← getD_drop 0 behind]
          exact written _ (by omega)
      · exact (below _ (by omega)).trans
          ((flash_writePage_below page aligned inside).trans (congrFun load.flash k))

/-- Commands that are decoded have their effects. -/
theorem SpiDevice.foldl_receive (d : SpiDevice) {cmds : List Word32} {commands : List SpiCommand}
    (decoded : cmds.map SpiCommand.decode = commands.map some) :
    cmds.foldl receive d = commands.foldl SpiCommand.effect d := by
  induction cmds generalizing commands d with
  | nil =>
      rw [List.map_eq_nil_iff.mp decoded.symm]
      rfl
  | cons cmd cmds ih =>
      obtain ⟨command, rest, rfl, first, others⟩ := List.map_eq_cons_iff.mp decoded.symm
      have effect : d.receive cmd = command.effect d := by
        unfold receive
        rw [← first]
      rw [List.foldl_cons, List.foldl_cons, effect]
      exact ih _ others.symm

/-! ## Reading back -/

/-- The last byte of an answer. -/
theorem SpiDevice.response_and (d : SpiDevice) {cmd : Word32} {command : SpiCommand}
    (decoded : SpiCommand.decode cmd = some command) :
    d.response cmd &&& 0xff = (command.output d).setWidth 32 := by
  have ones : (0xff : Word32) = BitVec.ofNat 32 (2 ^ 8 - 1) := rfl
  unfold response
  rw [decoded]
  apply BitVec.eq_of_getLsbD_eq
  intro k inside
  rw [ones, BitVec.getLsbD_and, getLsbD_ones, BitVec.getLsbD_or, BitVec.getLsbD_setWidth,
    BitVec.getLsbD_shiftLeft]
  by_cases low : k < 8
  · simp only [inside, low, decide_true, Bool.not_true, Bool.and_false, Bool.false_and,
      Bool.false_or, Bool.true_and, Bool.and_true]
  · have above : (command.output d).getLsbD k = false :=
      BitVec.getLsbD_of_ge _ _ (Nat.le_of_not_lt low)
    simp only [low, above, decide_false, Bool.and_false]

theorem word_of_bytes (page : Nat → Word8) (i : Nat) :
    (((page (2 * i)).setWidth 32 ||| ((page (2 * i + 1)).setWidth 32 <<< 8) : Word32)).setWidth 16 =
      bufferWord page i := by
  apply BitVec.eq_of_getLsbD_eq
  intro k inside
  have wide : k < 32 := by omega
  rw [BitVec.getLsbD_setWidth, BitVec.getLsbD_or, BitVec.getLsbD_setWidth,
    BitVec.getLsbD_shiftLeft, BitVec.getLsbD_setWidth, bufferWord, BitVec.getLsbD_append]
  by_cases low : k < 8
  · simp only [inside, wide, low, decide_true, Bool.not_true, Bool.and_false, Bool.false_and,
      Bool.or_false, Bool.true_and, if_true]
  · have above : (page (2 * i)).getLsbD k = false :=
      BitVec.getLsbD_of_ge _ _ (Nat.le_of_not_lt low)
    have wide' : k - 8 < 32 := by omega
    simp only [inside, wide, wide', low, above, decide_true, decide_false, Bool.not_false,
      Bool.and_false, Bool.false_or, Bool.true_and, if_false]

namespace Microcontroller

/-- A word of the first 64K is read as the flash has it. -/
theorem readMemPage_run {s : UcSpi} (first : s.device.extAddr = 0) {a : Nat} (fits : a < 65536) :
    ((readMemPage (BitVec.ofNat 32 a)).run.run s).1 = .ok (bufferWord s.device.flash a) := by
  have same : (BitVec.ofNat 32 a).toNat = a := Nat.mod_eq_of_lt (by omega)
  have low := @SpiCommand.decode_readLow (BitVec.ofNat 32 a) (by omega)
  have high := @SpiCommand.decode_readHigh (BitVec.ofNat 32 a) (by omega)
  rw [same] at low high
  have kept : s.device.receive (ucSpiReadLow ||| (BitVec.ofNat 32 a <<< 8)) = s.device := by
    unfold SpiDevice.receive
    rw [low]
    rfl
  have place : s.device.wordAddr a = a := by
    rw [SpiDevice.wordAddr, first, Nat.zero_mul, Nat.zero_add]
  unfold readMemPage
  rw [run_bind_ok (sendCommand_run _ _), run_bind_ok (sendCommand_run _ _), run_pure]
  show Except.ok (BitVec.setWidth 16 ((s.device.response _ &&& (0xff : Word32)) |||
    (((s.device.receive _).response _ &&& (0xff : Word32)) <<< 8))) = _
  rw [kept, s.device.response_and low, s.device.response_and high, ← word_of_bytes,
    SpiCommand.output, SpiCommand.output, place]

section ProgramFromFile

variable {file : FirmwareFile} {page : Nat → Word8}

/-- Past its checks the function is a sequence of calls. -/
theorem programFromFile_eq (opens : file.opens = true) (stats : file.stats = true)
    (even : file.content.length % 2 = 0) :
    programFromFile file page = (do
      configureSpi
      earseChip
      setReset 1
      enterProgMode
      loadExtendedAddr 0
      programPages file.reads file.content 0 page
      setReset 0) := by
  unfold programFromFile
  rw [if_neg (by rw [opens]; decide), if_neg (by rw [stats]; decide), if_neg (by omega)]

theorem sendsCommands_programFromFile (opens : file.opens = true) (stats : file.stats = true)
    (even : file.content.length % 2 = 0) (reading : ReadsPages file.content.length file.reads)
    (sound : .failed ∉ file.reads) :
    SendsCommands (programFromFile file page) (file.content.length ≤ 131072)
      (intendedCommands file.content) := by
  have unconditional : file.content.length ≤ 131072 → True := fun _ => trivial
  have configure : SendsCommands configureSpi True [] := ⟨_, sends_configureSpi, fun _ => rfl⟩
  have reset (rstval : Word32) : SendsCommands (setReset rstval) True [] :=
    ⟨_, sends_setReset rstval, fun _ => rfl⟩
  have erase : SendsCommands earseChip True [.progEnable, .eraseChip] :=
    ⟨_, sends_earseChip, fun _ => by decide⟩
  have enter : SendsCommands enterProgMode True [.progEnable] :=
    ⟨_, sends_enterProgMode, fun _ => by decide⟩
  have extended : SendsCommands (loadExtendedAddr 0) True [.extAddr 0] :=
    ⟨_, sends_loadExtendedAddr 0, fun _ => by decide⟩
  have pages : SendsCommands (programPages file.reads file.content 0 page)
      (file.content.length ≤ 131072) (pagePrograms 0 file.content) :=
    (sendsCommands_programPages 0 page reading sound).mono fun fits => .inr (by omega)
  have all := (configure.mono unconditional).andThen <| (erase.mono unconditional).andThen <|
    ((reset 1).mono unconditional).andThen <| (enter.mono unconditional).andThen <|
      (extended.mono unconditional).andThen <| pages.andThen ((reset 0).mono unconditional)
  rw [List.append_nil] at all
  rw [programFromFile_eq opens stats even]
  exact all

theorem readsOutside_programFromFile (opens : file.opens = true) (stats : file.stats = true)
    (even : file.content.length % 2 = 0) (reading : ReadsPages file.content.length file.reads)
    (failure : .failed ∈ file.reads) : ReadsOutside (programFromFile file page) := by
  rw [programFromFile_eq opens stats even]
  exact sends_configureSpi.thenReadsOutside <| sends_earseChip.thenReadsOutside <|
    (sends_setReset 1).thenReadsOutside <| sends_enterProgMode.thenReadsOutside <|
      (sends_loadExtendedAddr 0).thenReadsOutside <|
        (readsOutside_programPages 0 page reading failure).andThen _

/-- A page behind the first 64K words is among the intended ones. -/
theorem writePage_mem {addr j : Nat} {bytes : List Word8} (inside : 128 * j < bytes.length) :
    .writePage (addr + 64 * j) ∈ pagePrograms addr bytes := by
  fun_induction pagePrograms addr bytes generalizing j with
  | case1 addr => cases inside
  | case2 addr bytes some ih =>
      refine List.mem_append_right _ ?_
      cases j with
      | zero => exact List.mem_cons_self
      | succ j =>
          have rest : (bytes.drop ucPageBytes).length = bytes.length - 128 := List.length_drop
          have page : addr + 64 * (j + 1) = addr + ucSpiPagesize + 64 * j := by
            show _ = addr + 64 + 64 * j
            omega
          rw [page]
          exact List.mem_cons_of_mem _ (ih (by omega))

/-- No commands program more than the 16 bits of an address reach. -/
theorem length_le_of_commanded {bytes : List Word8} {s s' : UcSpi}
    (commanded : Commanded (intendedCommands bytes) s s') : bytes.length ≤ 131072 := by
  by_contra long
  obtain ⟨cmds, -, decoded⟩ := commanded
  have intended : SpiCommand.writePage 65536 ∈ intendedCommands bytes :=
    List.mem_append_right _ (@writePage_mem 0 1024 bytes (by omega))
  have sent := List.mem_map_of_mem (f := some) intended
  rw [← decoded] at sent
  obtain ⟨cmd, -, decoded⟩ := List.mem_map.mp sent
  exact absurd (SpiCommand.decode_writePage_lt decoded) (by decide)

/-- The setup erases the device and leaves the extended address at zero. -/
theorem programmed_intendedCommands {bytes : List Word8} (even : bytes.length % 2 = 0)
    (d : SpiDevice) :
    Programmed 0 bytes { d with flash := fun _ => 0xff, extAddr := 0 }
      ((intendedCommands bytes).foldl SpiCommand.effect d) := by
  unfold intendedCommands
  rw [List.foldl_append]
  exact programmed_foldl even rfl rfl

/-- The whole of `programFromFile`. -/
theorem programFromFile_programsAll (opens : file.opens = true) (stats : file.stats = true)
    (even : file.content.length % 2 = 0) (reading : ReadsPages file.content.length file.reads)
    (sound : .failed ∉ file.reads) (fits : file.content.length ≤ 131072) {s : UcSpi}
    (idle : s.pending = 0) : ProgramsAll file s ((programFromFile file page).run.run s) := by
  obtain ⟨cmds, sends, decoded⟩ :=
    @sendsCommands_programFromFile file page opens stats even reading sound
  obtain ⟨s', run, received⟩ := sends s idle
  have device := received.device.trans (s.device.foldl_receive (decoded fits))
  obtain ⟨written, -, extAddr⟩ := programmed_intendedCommands even s.device
  rw [← device] at written extAddr
  rw [run]
  refine ⟨rfl, ⟨cmds, received.sent, decoded fits⟩, fun a inside => ?_⟩
  have holds (k : Nat) (inFile : k < file.content.length) :
      s'.device.flash k = file.content.getD k 0 := by
    rw [← written k inFile, Nat.mul_zero, Nat.zero_add]
  rw [readMemPage_run extAddr (by omega), bufferWord, bufferWord, holds _ (by omega),
    holds _ (by omega)]

/-- The call does what it is to do exactly if no read fails and the file has at most
64K words. -/
theorem programFromFile_programs_iff (opens : file.opens = true) (stats : file.stats = true)
    (even : file.content.length % 2 = 0) (reading : ReadsPages file.content.length file.reads)
    {s : UcSpi} (idle : s.pending = 0) :
    ProgramsFile file s ((programFromFile file page).run.run s) ↔
      .failed ∉ file.reads ∧ file.content.length ≤ 131072 := by
  constructor
  · rintro ⟨whole, stops⟩
    have sound : .failed ∉ file.reads := by
      intro failure
      obtain ⟨s', run⟩ :=
        @readsOutside_programFromFile file page opens stats even reading failure s idle
      obtain ⟨e, threw⟩ := (stops failure).threw
      rw [run] at threw
      cases threw
    exact ⟨sound, length_le_of_commanded (whole sound).commands⟩
  · rintro ⟨sound, fits⟩
    exact ⟨fun _ => programFromFile_programsAll opens stats even reading sound fits idle,
      fun failure => absurd failure sound⟩

end ProgramFromFile

/-- A device that was used before, with commands of several lengths. -/
def usedSpi : UcSpi where
  device := { buffer := fun _ => 0x55, flash := fun _ => 0, extAddr := 3 }
  ctrl := ucSpiPrescaler
  data := 0
  pending := 0
  sent := []
  latency := fun k => k % 4
  latency_le := fun k => by omega

/-- 200 bytes: a full page and 72 bytes. -/
def twoPages : FirmwareFile where
  opens := true
  stats := true
  content := (List.range 200).map (BitVec.ofNat 8)
  reads := [.bytes 128, .bytes 72]

theorem programFromFile_programs_twoPages :
    ProgramsFile twoPages usedSpi ((programFromFile twoPages fun _ => 0).run.run usedSpi) := by
  have length : twoPages.content.length = 200 := by
    rw [twoPages, List.length_map, List.length_range]
  have reading : ReadsPages twoPages.content.length twoPages.reads := by
    rw [length]
    exact ⟨by decide, by decide, by decide, by decide, rfl⟩
  exact (@programFromFile_programs_iff twoPages _ rfl rfl (by rw [length]) reading usedSpi rfl).mpr
    ⟨by decide, by rw [length]; decide⟩

/-- A file of one word. -/
def oneWord (reads : List ReadResult) : FirmwareFile where
  opens := true
  stats := true
  content := [0x34, 0x12]
  reads := reads

/-- A failed read is no end of the file. -/
theorem programFromFile_failedRead :
    ReadsPages (oneWord [.failed]).content.length (oneWord [.failed]).reads ∧
      ¬ProgramsFile (oneWord [.failed]) usedSpi
        ((programFromFile (oneWord [.failed]) fun _ => 0).run.run usedSpi) := by
  refine ⟨trivial, fun programs => ?_⟩
  obtain ⟨s', run⟩ := @readsOutside_programFromFile (oneWord [.failed]) (fun _ => 0) rfl rfl rfl
    trivial List.mem_cons_self usedSpi rfl
  obtain ⟨e, threw⟩ := (programs.2 List.mem_cons_self).threw
  rw [run] at threw
  cases threw

end Microcontroller

end Librorc
