import Librorc.Sim.SockMonitor

/-!
# `flisock.c`: `trn_monitor`

Once per rising clock edge `trn_monitor` looks at the 128-bit TRN interface,
collects the words of a DMA write beat by beat and sends the message when the
packet ends. `Renders` says which beats make up a well-formed packet.
-/

namespace Librorc

open Librorc.Lib

/-- The signals at one clock edge; `sof`, `eof` and the ready signals are the
active-low ones turned round. `msgid` is the global that `sockreader` sets. -/
structure TrnBeat where
  td : TrnHeader
  sof : Bool
  eof : Bool
  rem : Word32
  srcRdy : Bool
  dstRdy : Bool
  wrDone : Bool
  cmplDone : Bool
  msgid : Word32

/-- `rx_dvld`, `rx_ndw`, and the buffer: what has been copied to it so far, and
the bytes it has been allocated for. -/
structure RxState where
  dvld : Bool
  ndw : ℤ
  buffer : List Word32
  bufferSize : ℕ

/-- What one clock edge puts on the socket or on the transcript. -/
inductive TrnOutput
  | message (words : List Word32)
  | protocolError
deriving DecidableEq

namespace TrnBeat

variable (b : TrnBeat)

/-- Something is transferred. -/
def valid : Bool := b.srcRdy && b.dstRdy

/-- `rx_data & 0xffffffff` and `rx_data >> 32`, of both quad words. -/
def dataWords : List Word32 :=
  [(byteReorder b.td.high &&& 0xffffffff).setWidth 32, (byteReorder b.td.high >>> 32).setWidth 32,
    (byteReorder b.td.low &&& 0xffffffff).setWidth 32, (byteReorder b.td.low >>> 32).setWidth 32]

/-- How many data words the beat carries. -/
def dataCount : ℕ :=
  if b.rem ≠ 0 ∧ b.eof then
    if b.rem = 1 then 3 else if b.rem = 2 then 2 else if b.rem = 3 then 1 else 0
  else 4

end TrnBeat

namespace Flisock

/-- `FMT_MASK`. -/
def fmtMask : Word64 := 0x7f00000000000000

def fmtMwr64 : Word64 := 0x6000000000000000
def fmtMwr32 : Word64 := 0x4000000000000000
def fmtMrd64 : Word64 := 0x2000000000000000
def fmtMrd32 : Word64 := 0x0000000000000000
def fmtCmplD : Word64 := 0x4a00000000000000

/-- A beat while `rx_dvld` is set. -/
def dataBeat (s : RxState) (b : TrnBeat) : RxState × List TrnOutput :=
  let ndw := s.ndw - b.dataCount
  let buffer := s.buffer ++ b.dataWords.take b.dataCount
  if (ndw = 0 ∧ b.eof = false) ∨ (ndw ≠ 0 ∧ b.eof = true) ∨ ndw < 0 then
    ({ s with dvld := false, ndw := ndw, buffer := [] }, [.protocolError])
  else if b.eof then
    (⟨false, 0, [], 0⟩, [.message (buffer.take (s.bufferSize / 4))])
  else ({ s with ndw := ndw, buffer := buffer }, [])

/-- A beat that starts a packet. -/
def headerBeat (s : RxState) (b : TrnBeat) : RxState × List TrnOutput :=
  let ndw := b.td.rxNdw
  let format := b.td.high &&& fmtMask
  if format = fmtMwr64 then
    (⟨true, ndw.toNat,
      [messageHeader (ndw + 4) cmdWriteToHost, b.msgid, (b.td.low >>> 32).setWidth 32,
        (b.td.low &&& 0xffffffff).setWidth 32], (ndw.toNat + 4) * 4⟩, [])
  else if format = fmtMwr32 then
    (⟨true, ndw.toNat - 1,
      [messageHeader (ndw + 4) cmdWriteToHost, b.msgid, 0, (b.td.low >>> 32).setWidth 32,
        (byteReorder b.td.low >>> 32).setWidth 32], (ndw.toNat + 4) * 4⟩, [])
  else if format = fmtMrd64 then
    ({ s with ndw := ndw.toNat, buffer := [], bufferSize := 24 },
      [.message (sent b.msgid (.mrd64 b.td))])
  else if format = fmtMrd32 then
    ({ s with ndw := ndw.toNat, buffer := [], bufferSize := 24 },
      [.message (sent b.msgid (.mrd32 b.td))])
  else if format = fmtCmplD then
    ({ s with ndw := ndw.toNat }, [.message (sent b.msgid (.cmplD b.td))])
  else ({ s with ndw := ndw.toNat }, [])

/-- What is done with a beat that is transferred. A beat that ends a packet with
an error may start the next one. -/
def receive (s : RxState) (b : TrnBeat) : RxState × List TrnOutput :=
  let data := if s.dvld then dataBeat s b else (s, [])
  let header := if b.sof && !data.1.dvld then headerBeat data.1 b else (data.1, [])
  (header.1, data.2 ++ header.2)

/-- `wr_done` and `cmpl_done`. -/
def acknowledge (b : TrnBeat) : List TrnOutput :=
  (if b.wrDone then [.message (sent b.msgid .ackWrite)] else []) ++
    if b.cmplDone then [.message (sent b.msgid .ackCmpl)] else []

def trnMonitor (s : RxState) (b : TrnBeat) : RxState × List TrnOutput :=
  let received := if b.valid then receive s b else (s, [])
  (received.1, received.2 ++ acknowledge b)

/-- A run, with all that is put out. -/
def trnMonitors : RxState → List TrnBeat → RxState × List TrnOutput
  | s, [] => (s, [])
  | s, b :: beats =>
      let rest := trnMonitors (trnMonitor s b).1 beats
      (rest.1, (trnMonitor s b).2 ++ rest.2)

end Flisock

/-! ## Packets -/

/-- A memory write, 64-bit or 32-bit addressed. -/
structure DmaWrite where
  wide : Bool
  addr : Word64
  data : List Word32

namespace TrnHeader

/-- The 32-bit words of a beat, the first of them in `td[127:96]`. -/
def dwords (h : TrnHeader) : List Word32 :=
  [(h.high >>> 32).setWidth 32, h.high.setWidth 32, (h.low >>> 32).setWidth 32, h.low.setWidth 32]

end TrnHeader

/-- A word whose most significant byte comes first in memory. -/
def bigEndian (w : Word32) : Word32 :=
  BitVec.ofNat 32 (w.toNat / 2 ^ 24 % 256 + w.toNat / 2 ^ 16 % 256 * 2 ^ 8 +
    w.toNat / 2 ^ 8 % 256 * 2 ^ 16 + w.toNat % 256 * 2 ^ 24)

/-- The data words in a beat. -/
def TrnBeat.payload (b : TrnBeat) : List Word32 := b.td.dwords.map bigEndian

/-- The data beats of a packet: four words each, and one to four in the last. -/
inductive DataBeats : List Word32 → List TrnBeat → Prop
  | last {b : TrnBeat} {count : ℕ} (transferred : b.valid = true) (noSof : b.sof = false)
      (eof : b.eof = true) (some : 1 ≤ count) (most : count ≤ 4)
      (rem : b.rem = BitVec.ofNat 32 (4 - count)) : DataBeats (b.payload.take count) [b]
  | more {b : TrnBeat} {data : List Word32} {beats : List TrnBeat} (transferred : b.valid = true)
      (noSof : b.sof = false) (noEof : b.eof = false) (rest : DataBeats data beats) :
      DataBeats (b.payload ++ data) (b :: beats)

/-- The beats of a well-formed packet. -/
inductive Renders : DmaWrite → List TrnBeat → Prop
  /-- Four words of header, and then the data. -/
  | wide {h : TrnBeat} {data : List Word32} {beats : List TrnBeat} (transferred : h.valid = true)
      (sof : h.sof = true) (noEof : h.eof = false)
      (format : h.td.high &&& Flisock.fmtMask = Flisock.fmtMwr64)
      (length : h.td.rxNdw.toNat = data.length) (rest : DataBeats data beats) :
      Renders ⟨true, h.td.low, data⟩ (h :: beats)
  /-- Three words of header and the first word of the data, and then the others. -/
  | narrow {h : TrnBeat} {first : Word32} {data : List Word32} {beats : List TrnBeat}
      (transferred : h.valid = true) (sof : h.sof = true) (noEof : h.eof = false)
      (format : h.td.high &&& Flisock.fmtMask = Flisock.fmtMwr32)
      (length : h.td.rxNdw.toNat = data.length + 1)
      (inHeader : first = bigEndian (h.td.low.setWidth 32)) (rest : DataBeats data beats) :
      Renders ⟨false, h.td.low >>> 32, first :: data⟩ (h :: beats)
  /-- Three words of header and the only word of the data. -/
  | single {h : TrnBeat} {first : Word32} (transferred : h.valid = true) (sof : h.sof = true)
      (eof : h.eof = true) (rem : h.rem = 0)
      (format : h.td.high &&& Flisock.fmtMask = Flisock.fmtMwr32)
      (length : h.td.rxNdw.toNat = 1) (inHeader : first = bigEndian (h.td.low.setWidth 32)) :
      Renders ⟨false, h.td.low >>> 32, [first]⟩ [h]

/-! ## Byte order -/

/-- Byte `i` of a quad word, the least significant first. -/
def byteAt (q : Word64) (i : ℕ) : ℕ := q.toNat / 2 ^ (8 * i) % 256

theorem byteAt_lt (q : Word64) (i : ℕ) : byteAt q i < 256 := Nat.mod_lt _ (by omega)

theorem byteReorder_toNat (q : Word64) :
    (byteReorder q).toNat =
      byteAt q 0 * 2 ^ 56 + byteAt q 1 * 2 ^ 48 + byteAt q 2 * 2 ^ 40 + byteAt q 3 * 2 ^ 32 +
        byteAt q 4 * 2 ^ 24 + byteAt q 5 * 2 ^ 16 + byteAt q 6 * 2 ^ 8 + byteAt q 7 := by
  have moved (i : ℕ) (inside : i < 8) :
      (((q >>> (8 * i)) &&& 0xff) <<< (56 - 8 * i)).toNat = byteAt q i * 2 ^ (56 - 8 * i) := by
    have field : ((q >>> (8 * i)) &&& 0xff).toNat = byteAt q i :=
      @toNat_field 64 q (8 * i) 8 (by omega)
    have most : 2 ^ (56 - 8 * i) ≤ 2 ^ 56 := Nat.pow_le_pow_right (by omega) (by omega)
    rw [BitVec.toNat_shiftLeft, field, Nat.shiftLeft_eq]
    refine Nat.mod_eq_of_lt ?_
    calc byteAt q i * 2 ^ (56 - 8 * i)
        < 2 ^ 8 * 2 ^ (56 - 8 * i) :=
          Nat.mul_lt_mul_of_pos_right (byteAt_lt q i) (Nat.pow_pos (by omega))
      _ ≤ 2 ^ 8 * 2 ^ 56 := Nat.mul_le_mul_left _ most
  have all : List.range 8 = [0, 1, 2, 3, 4, 5, 6, 7] := rfl
  have zero : (0 : Word64).toNat = 0 := rfl
  have small := byteAt_lt q
  have b0 := small 0
  have b1 := small 1
  have b2 := small 2
  have b3 := small 3
  have b4 := small 4
  have b5 := small 5
  have b6 := small 6
  have b7 := small 7
  unfold byteReorder
  rw [all]
  simp only [List.foldl_cons, List.foldl_nil, BitVec.toNat_add, zero, moved 0 (by omega),
    moved 1 (by omega), moved 2 (by omega), moved 3 (by omega), moved 4 (by omega),
    moved 5 (by omega), moved 6 (by omega), moved 7 (by omega), Nat.mod_add_mod]
  omega

/-- The bytes of half a quad word, turned round. -/
theorem bigEndian_toNat {w : Word32} {q : Word64} {low : ℕ}
    (half : w.toNat = q.toNat / 2 ^ (8 * low) % 2 ^ 32) :
    (bigEndian w).toNat = byteAt q low * 2 ^ 24 + byteAt q (low + 1) * 2 ^ 16 +
      byteAt q (low + 2) * 2 ^ 8 + byteAt q (low + 3) := by
  have byte (i : ℕ) (inside : i < 4) : w.toNat / 2 ^ (8 * i) % 2 ^ 8 = byteAt q (low + i) := by
    have split : 2 ^ 32 = 2 ^ (8 * i) * (2 ^ 8 * 2 ^ (24 - 8 * i)) := by
      rw [← Nat.pow_add, ← Nat.pow_add]
      congr 1
      omega
    rw [half, split, Nat.mod_mul_right_div_self, Nat.div_div_eq_div_mul, ← Nat.pow_add,
      Nat.mod_mul_right_mod, ← Nat.mul_add]
    rfl
  have b0 : w.toNat % 256 = byteAt q low := by
    rw [← Nat.div_one w.toNat]
    exact byte 0 (by omega)
  have b1 : w.toNat / 2 ^ 8 % 256 = byteAt q (low + 1) := byte 1 (by omega)
  have b2 : w.toNat / 2 ^ 16 % 256 = byteAt q (low + 2) := byte 2 (by omega)
  have b3 : w.toNat / 2 ^ 24 % 256 = byteAt q (low + 3) := byte 3 (by omega)
  unfold bigEndian
  rw [BitVec.toNat_ofNat, b0, b1, b2, b3]
  have small := byteAt_lt q
  have s0 := small low
  have s1 := small (low + 1)
  have s2 := small (low + 2)
  have s3 := small (low + 3)
  omega

/-- The two words trade places. -/
theorem byteReorder_words (q : Word64) :
    (byteReorder q).toNat =
      (bigEndian (q.setWidth 32)).toNat * 2 ^ 32 + (bigEndian ((q >>> 32).setWidth 32)).toNat := by
  have first : (bigEndian (q.setWidth 32)).toNat =
      byteAt q 0 * 2 ^ 24 + byteAt q 1 * 2 ^ 16 + byteAt q 2 * 2 ^ 8 + byteAt q 3 := by
    refine bigEndian_toNat ?_
    rw [BitVec.toNat_setWidth, Nat.mul_zero, Nat.pow_zero, Nat.div_one]
  have second : (bigEndian ((q >>> 32).setWidth 32)).toNat =
      byteAt q 4 * 2 ^ 24 + byteAt q 5 * 2 ^ 16 + byteAt q 6 * 2 ^ 8 + byteAt q 7 := by
    refine bigEndian_toNat ?_
    rw [BitVec.toNat_setWidth, BitVec.toNat_ushiftRight, Nat.shiftRight_eq_div_pow]
  rw [byteReorder_toNat, first, second]
  omega

theorem byteReorder_low (q : Word64) :
    (byteReorder q &&& 0xffffffff).setWidth 32 = bigEndian ((q >>> 32).setWidth 32) := by
  have low : (byteReorder q &&& 0xffffffff).toNat = (byteReorder q).toNat % 2 ^ 32 :=
    @toNat_and_low 64 _ 32 (by omega)
  have bound := (bigEndian ((q >>> 32).setWidth 32)).isLt
  apply BitVec.eq_of_toNat_eq
  rw [BitVec.toNat_setWidth, low, byteReorder_words]
  omega

theorem byteReorder_high (q : Word64) :
    (byteReorder q >>> 32).setWidth 32 = bigEndian (q.setWidth 32) := by
  have bound := (bigEndian (q.setWidth 32)).isLt
  have bound' := (bigEndian ((q >>> 32).setWidth 32)).isLt
  apply BitVec.eq_of_toNat_eq
  rw [BitVec.toNat_setWidth, BitVec.toNat_ushiftRight, Nat.shiftRight_eq_div_pow,
    byteReorder_words]
  omega

/-- The words that are copied are those of the packet. -/
theorem TrnBeat.dataWords_eq (b : TrnBeat) : b.dataWords = b.payload := by
  unfold TrnBeat.dataWords TrnBeat.payload TrnHeader.dwords
  simp only [byteReorder_low, byteReorder_high, List.map_cons, List.map_nil]

theorem TrnBeat.length_payload (b : TrnBeat) : b.payload.length = 4 := rfl

/-! ## What is sent -/

/-- The message for a packet. -/
def DmaWrite.message (p : DmaWrite) (msgid : Word32) : List Word32 :=
  messageHeader (BitVec.ofNat 32 p.data.length + 4) Flisock.cmdWriteToHost :: msgid ::
    (p.addr >>> 32).setWidth 32 :: p.addr.setWidth 32 :: p.data

/-- All the data comes in the header beat. -/
def DmaWrite.inHeader (p : DmaWrite) : Bool := !p.wide && p.data.length == 1

/-- The packets, in order, with beats that transfer nothing anywhere between
theirs. -/
def RendersAll (packets : List DmaWrite) (beats : List TrnBeat) : Prop :=
  ∃ parts, List.Forall₂ Renders packets parts ∧ beats.filter TrnBeat.valid = parts.flatten

/-- A `CMD_WRITE_TO_HOST`, or an error. -/
def TrnOutput.ofWrite : TrnOutput → Bool
  | .message words => (words.headD 0 &&& 0xffff).setWidth 16 == Flisock.cmdWriteToHost
  | .protocolError => true

/-- Sent to the host, as opposed to an error. -/
def TrnOutput.isMessage : TrnOutput → Bool
  | .message _ => true
  | .protocolError => false

namespace Flisock

/-- A run over beats that are all transferred, but for the acknowledgements. -/
def receives : RxState → List TrnBeat → RxState × List TrnOutput
  | s, [] => (s, [])
  | s, b :: beats =>
      let rest := receives (receive s b).1 beats
      (rest.1, (receive s b).2 ++ rest.2)

theorem receives_append (s : RxState) (front back : List TrnBeat) :
    receives s (front ++ back) =
      ((receives (receives s front).1 back).1,
        (receives s front).2 ++ (receives (receives s front).1 back).2) := by
  induction front generalizing s with
  | nil => rfl
  | cons b front ih =>
      simp only [List.cons_append, receives, ih, List.append_assoc]

theorem acknowledge_ofWrite (b : TrnBeat) : (acknowledge b).filter TrnOutput.ofWrite = [] := by
  have write : TrnOutput.ofWrite (.message (sent b.msgid .ackWrite)) = false :=
    (by decide : ((messageHeader 2 cmdAckWrite &&& 0xffff).setWidth 16 == cmdWriteToHost) = false)
  have cmpl : TrnOutput.ofWrite (.message (sent b.msgid .ackCmpl)) = false :=
    (by decide : ((messageHeader 2 cmdAckCmpl &&& 0xffff).setWidth 16 == cmdWriteToHost) = false)
  unfold acknowledge
  cases b.wrDone <;> cases b.cmplDone <;> simp [write, cmpl]

/-- Beats that transfer nothing can be left out. -/
theorem trnMonitors_eq (s : RxState) (beats : List TrnBeat) :
    (trnMonitors s beats).2.filter TrnOutput.ofWrite =
      (receives s (beats.filter TrnBeat.valid)).2.filter TrnOutput.ofWrite := by
  induction beats generalizing s with
  | nil => rfl
  | cons b beats ih =>
      cases transferred : b.valid with
      | true =>
          have step : trnMonitor s b = ((receive s b).1, (receive s b).2 ++ acknowledge b) := by
            simp [trnMonitor, transferred]
          rw [List.filter_cons_of_pos transferred]
          simp only [trnMonitors, receives, step, List.filter_append, acknowledge_ofWrite,
            List.append_nil, ih]
      | false =>
          have step : trnMonitor s b = (s, acknowledge b) := by
            simp [trnMonitor, transferred]
          rw [List.filter_cons_of_neg (by simp [transferred])]
          simp only [trnMonitors, step, List.filter_append, acknowledge_ofWrite, List.nil_append,
            ih]

/-! ## Data beats -/

/-- The buffer holds `front`, and `left` words are still to come. -/
structure Collecting (s : RxState) (front : List Word32) (left : ℕ) : Prop where
  dvld : s.dvld = true
  ndw : s.ndw = left
  buffer : s.buffer = front
  bufferSize : s.bufferSize = 4 * (front.length + left)

theorem dataCount_last {b : TrnBeat} {count : ℕ} (eof : b.eof = true) (some : 1 ≤ count)
    (most : count ≤ 4) (rem : b.rem = BitVec.ofNat 32 (4 - count)) : b.dataCount = count := by
  unfold TrnBeat.dataCount
  rw [rem, eof]
  obtain rfl | rfl | rfl | rfl : count = 1 ∨ count = 2 ∨ count = 3 ∨ count = 4 := by omega
  all_goals rfl

theorem dataCount_full {b : TrnBeat} (full : b.eof = false ∨ b.rem = 0) : b.dataCount = 4 := by
  unfold TrnBeat.dataCount
  refine if_neg ?_
  rintro ⟨some, eof⟩
  rcases full with noEof | none
  · rw [noEof] at eof
    exact Bool.false_ne_true eof
  · exact some none

theorem dataCount_pos {b : TrnBeat} (full : b.eof = false ∨ b.rem = 0) : 0 < b.dataCount := by
  rw [dataCount_full full]
  omega

/-- The last beat completes the message. -/
theorem dataBeat_last {s : RxState} {b : TrnBeat} {front : List Word32} {count : ℕ}
    (collecting : Collecting s front count) (eof : b.eof = true) (some : 1 ≤ count)
    (most : count ≤ 4) (rem : b.rem = BitVec.ofNat 32 (4 - count)) :
    dataBeat s b = (⟨false, 0, [], 0⟩, [.message (front ++ b.payload.take count)]) := by
  have counted := dataCount_last eof some most rem
  have none : s.ndw - (count : ℤ) = 0 := by
    rw [collecting.ndw, Int.sub_self]
  have length : (front ++ b.payload.take count).length = front.length + count := by
    rw [List.length_append, List.length_take, b.length_payload, Nat.min_eq_left most]
  have whole : (front ++ b.payload.take count).take (s.bufferSize / 4) =
      front ++ b.payload.take count := by
    rw [collecting.bufferSize, Nat.mul_div_cancel_left _ (by omega), ← length, List.take_length]
  unfold dataBeat
  simp only [counted, none, eof, collecting.buffer, b.dataWords_eq, whole]
  simp

/-- A beat in the middle adds its four words. -/
theorem dataBeat_more {s : RxState} {b : TrnBeat} {front : List Word32} {left : ℕ}
    (collecting : Collecting s front (4 + left)) (noEof : b.eof = false) (some : 0 < left) :
    Collecting (dataBeat s b).1 (front ++ b.payload) left ∧ (dataBeat s b).2 = [] := by
  have counted := dataCount_full (Or.inl noEof : b.eof = false ∨ b.rem = 0)
  have ndw : s.ndw - ((4 : ℕ) : ℤ) = left := by
    rw [collecting.ndw]
    omega
  have whole : b.payload.take 4 = b.payload := List.take_of_length_le b.length_payload.le
  have fine : ¬ (((left : ℤ) = 0 ∧ b.eof = false) ∨ ((left : ℤ) ≠ 0 ∧ b.eof = true) ∨
      (left : ℤ) < 0) := by
    rw [noEof]
    simp only [Bool.false_eq_true, and_false, false_or, and_true]
    omega
  have step : dataBeat s b =
      ({ s with ndw := left, buffer := front ++ b.payload }, []) := by
    unfold dataBeat
    simp only [counted, ndw, collecting.buffer, b.dataWords_eq, whole]
    rw [if_neg fine, noEof]
    rfl
  rw [step]
  refine ⟨⟨collecting.dvld, rfl, rfl, ?_⟩, rfl⟩
  show s.bufferSize = _
  rw [collecting.bufferSize, List.length_append, b.length_payload]
  omega

theorem receive_data {s : RxState} {b : TrnBeat} (dvld : s.dvld = true) (noSof : b.sof = false) :
    receive s b = dataBeat s b := by
  simp [receive, dvld, noSof]

end Flisock

theorem DataBeats.length_pos {data : List Word32} {beats : List TrnBeat}
    (rendered : DataBeats data beats) : 0 < data.length := by
  cases rendered with
  | last _ _ _ some _ _ =>
      rw [List.length_take, TrnBeat.length_payload]
      omega
  | more _ _ _ _ =>
      rw [List.length_append, TrnBeat.length_payload]
      omega

namespace Flisock

/-- The data beats of a packet complete its message. -/
theorem receives_data {data : List Word32} {beats : List TrnBeat} (rendered : DataBeats data beats)
    {s : RxState} {front : List Word32} (collecting : Collecting s front data.length) :
    receives s beats = (⟨false, 0, [], 0⟩, [.message (front ++ data)]) := by
  induction rendered generalizing s front with
  | @last b count _ noSof eof some most rem =>
      have length : (b.payload.take count).length = count := by
        rw [List.length_take, b.length_payload, Nat.min_eq_left most]
      rw [length] at collecting
      simp only [receives, receive_data collecting.dvld noSof,
        dataBeat_last collecting eof some most rem, List.append_nil]
  | @more b data beats _ noSof noEof rest ih =>
      rw [List.length_append, b.length_payload] at collecting
      obtain ⟨later, silent⟩ := dataBeat_more collecting noEof rest.length_pos
      simp only [receives, receive_data collecting.dvld noSof, silent, ih later, List.nil_append,
        List.append_assoc]

/-! ## Header beats -/

/-- No words are missing: no packet is being received, or one that came with its
header beat. -/
def Between (s : RxState) : Prop := s.dvld = true → s.ndw = 0

/-- What the next header beat reports. -/
def overdue (s : RxState) : List TrnOutput := if s.dvld then [.protocolError] else []

/-- A header beat starts a packet whatever came before it. -/
theorem receive_header {s : RxState} (between : Between s) {h : TrnBeat} (sof : h.sof = true)
    (some : 0 < h.dataCount) :
    ∃ s₀ : RxState, s₀.dvld = false ∧
      receive s h = ((headerBeat s₀ h).1, overdue s ++ (headerBeat s₀ h).2) := by
  cases dvld : s.dvld with
  | false => exact ⟨s, dvld, by simp [receive, overdue, dvld, sof]⟩
  | true =>
      have early : s.ndw - (h.dataCount : ℤ) < 0 := by
        rw [between dvld]
        omega
      have failed : dataBeat s h =
          ({ s with dvld := false, ndw := s.ndw - (h.dataCount : ℤ), buffer := [] },
            [.protocolError]) := by
        unfold dataBeat
        exact if_pos (Or.inr (Or.inr early))
      exact ⟨{ s with dvld := false, ndw := s.ndw - (h.dataCount : ℤ), buffer := [] }, rfl, by
        simp [receive, overdue, dvld, sof, failed]⟩

theorem headerBeat_wide {h : TrnBeat} (s₀ : RxState)
    (format : h.td.high &&& fmtMask = fmtMwr64) :
    Collecting (headerBeat s₀ h).1
        [messageHeader (h.td.rxNdw + 4) cmdWriteToHost, h.msgid, (h.td.low >>> 32).setWidth 32,
          (h.td.low &&& 0xffffffff).setWidth 32] h.td.rxNdw.toNat ∧
      (headerBeat s₀ h).2 = [] := by
  unfold headerBeat
  simp only [format, if_true]
  refine ⟨⟨rfl, rfl, rfl, ?_⟩, trivial⟩
  simp only [List.length_cons, List.length_nil]
  omega

theorem headerBeat_narrow {h : TrnBeat} (s₀ : RxState)
    (format : h.td.high &&& fmtMask = fmtMwr32) {left : ℕ}
    (length : h.td.rxNdw.toNat = left + 1) :
    Collecting (headerBeat s₀ h).1
        [messageHeader (h.td.rxNdw + 4) cmdWriteToHost, h.msgid, 0,
          (h.td.low >>> 32).setWidth 32, bigEndian (h.td.low.setWidth 32)] left ∧
      (headerBeat s₀ h).2 = [] := by
  have other : ¬ fmtMwr32 = fmtMwr64 := by decide
  unfold headerBeat
  simp only [format, if_true, other, if_false, length, byteReorder_high]
  refine ⟨⟨rfl, ?_, rfl, ?_⟩, trivial⟩
  · show ((left + 1 : ℕ) : ℤ) - 1 = left
    omega
  · simp only [List.length_cons, List.length_nil]
    omega

/-- The header of a message counts the words behind the message ID and address. -/
theorem rxNdw_eq {h : TrnHeader} {count : ℕ} (length : h.rxNdw.toNat = count) :
    h.rxNdw + 4 = BitVec.ofNat 32 count + 4 := by
  rw [← length, BitVec.ofNat_toNat, BitVec.setWidth_eq]

theorem low_half (q : Word64) : (q &&& 0xffffffff).setWidth 32 = (q.setWidth 32 : Word32) :=
  setWidth_low_eq 32 (by omega) (by rw [BitVec.toNat_setWidth, Nat.mod_mod])

/-- A 32-bit address has no upper half. -/
theorem narrow_addr (q : Word64) :
    ((q >>> 32) >>> 32).setWidth 32 = (0 : Word32) := by
  apply BitVec.eq_of_toNat_eq
  have bound := q.isLt
  rw [BitVec.toNat_setWidth, BitVec.toNat_ushiftRight, BitVec.toNat_ushiftRight,
    Nat.shiftRight_eq_div_pow, Nat.shiftRight_eq_div_pow]
  show _ = 0
  omega

/-- The messages are those that the host takes from the wire. -/
theorem sent_mwr64 {h : TrnHeader} {data : List Word32} (complete : data.length = h.rxNdw.toNat)
    (msgid : Word32) :
    sent msgid (.mwr64 h data complete) = DmaWrite.message ⟨true, h.low, data⟩ msgid := by
  unfold DmaWrite.message
  rw [← rxNdw_eq complete.symm, ← low_half h.low]
  rfl

theorem sent_mwr32 {h : TrnHeader} {data : List Word32}
    (complete : data.length + 1 = h.rxNdw.toNat) (msgid : Word32) :
    sent msgid (.mwr32 h data complete) =
      DmaWrite.message ⟨false, h.low >>> 32, bigEndian (h.low.setWidth 32) :: data⟩ msgid := by
  unfold DmaWrite.message
  rw [List.length_cons, ← rxNdw_eq complete.symm, narrow_addr, ← byteReorder_high]
  rfl

/-- What a packet makes of the state, and what it puts out. -/
theorem receives_packet {p : DmaWrite} {beats : List TrnBeat} (renders : Renders p beats)
    {s : RxState} (between : Between s) :
    ∃ msgid, Between (receives s beats).1 ∧ (receives s beats).1.dvld = p.inHeader ∧
      (receives s beats).2 =
        overdue s ++ if p.inHeader then [] else [.message (p.message msgid)] := by
  cases renders with
  | @wide h data beats _ sof noEof format length rest =>
      obtain ⟨s₀, -, step⟩ := receive_header between sof (dataCount_pos (Or.inl noEof))
      obtain ⟨collecting, silent⟩ := headerBeat_wide s₀ format
      rw [length] at collecting
      have run : receives s (h :: beats) = (⟨false, 0, [], 0⟩, overdue s ++
          [.message (DmaWrite.message ⟨true, h.td.low, data⟩ h.msgid)]) := by
        simp only [receives, step, silent, List.append_nil, receives_data rest collecting]
        rw [low_half, rxNdw_eq length]
        rfl
      rw [run]
      exact ⟨h.msgid, fun dvld => absurd dvld Bool.false_ne_true, rfl, rfl⟩
  | @narrow h first data beats _ sof noEof format length inHeader rest =>
      obtain ⟨s₀, -, step⟩ := receive_header between sof (dataCount_pos (Or.inl noEof))
      obtain ⟨collecting, silent⟩ := headerBeat_narrow s₀ format length
      have run : receives s (h :: beats) = (⟨false, 0, [], 0⟩, overdue s ++
          [.message (DmaWrite.message ⟨false, h.td.low >>> 32, first :: data⟩ h.msgid)]) := by
        simp only [receives, step, silent, List.append_nil, receives_data rest collecting]
        unfold DmaWrite.message
        rw [rxNdw_eq length, narrow_addr, inHeader]
        rfl
      have some : DmaWrite.inHeader ⟨false, h.td.low >>> 32, first :: data⟩ = false := by
        have pos := rest.length_pos
        simp only [DmaWrite.inHeader, List.length_cons, Bool.not_false, Bool.true_and,
          beq_eq_false_iff_ne]
        omega
      rw [run, some]
      exact ⟨h.msgid, fun dvld => absurd dvld Bool.false_ne_true, rfl, rfl⟩
  | @single h first _ sof eof rem format length inHeader =>
      obtain ⟨s₀, -, step⟩ := receive_header between sof (dataCount_pos (Or.inr rem))
      obtain ⟨collecting, silent⟩ := headerBeat_narrow s₀ format length
      have run : receives s [h] = ((headerBeat s₀ h).1, overdue s) := by
        simp only [receives, step, silent, List.append_nil]
      -- all words have come, and the end of the packet has not been looked at
      rw [run]
      exact ⟨0, fun _ => collecting.ndw, collecting.dvld, (List.append_nil _).symm⟩

theorem rxNdw_lt (h : TrnHeader) : h.rxNdw.toNat < 1024 := by
  rw [h.rxNdw_toNat]
  omega

theorem message_ofWrite {p : DmaWrite} {beats : List TrnBeat} (renders : Renders p beats)
    (msgid : Word32) : TrnOutput.ofWrite (.message (p.message msgid)) = true := by
  have short : p.data.length < 1024 := by
    cases renders with
    | wide _ _ _ _ length _ => exact length ▸ rxNdw_lt _
    | @narrow h first data beats _ _ _ _ length _ _ =>
        have bound := rxNdw_lt h.td
        rwa [length] at bound
    | single _ _ _ _ _ _ _ => exact (by decide : 1 < 1024)
  have size : (BitVec.ofNat 32 p.data.length + 4).toNat < 65536 := by
    rw [BitVec.toNat_add, BitVec.toNat_ofNat]
    show (p.data.length % 2 ^ 32 + 4) % 2 ^ 32 < _
    omega
  exact beq_iff_eq.mpr (messageHeader_fields size cmdWriteToHost).1

/-- Between packets that do not come with their header beat, every packet is
sent, and nothing else. -/
theorem receives_packets {packets : List DmaWrite} {parts : List (List TrnBeat)}
    (renders : List.Forall₂ Renders packets parts)
    (behind : ∀ p ∈ packets, p.inHeader = false) {s : RxState} (idle : s.dvld = false) :
    List.Forall₂ (fun p o => ∃ msgid, o = .message (p.message msgid)) packets
        (receives s parts.flatten).2 ∧
      ∀ o ∈ (receives s parts.flatten).2, o.ofWrite = true := by
  induction renders generalizing s with
  | nil => exact ⟨.nil, by simp [receives]⟩
  | @cons p beats packets parts renders _ ih =>
      have between : Between s := fun dvld => absurd (idle.symm.trans dvld) Bool.false_ne_true
      obtain ⟨msgid, -, idleAfter, out⟩ := receives_packet renders between
      have notInHeader := behind p List.mem_cons_self
      rw [notInHeader] at idleAfter
      have single : (receives s beats).2 = [.message (p.message msgid)] := by
        rw [out, notInHeader]
        simp [overdue, idle]
      obtain ⟨sent, writes⟩ := ih (fun q mem => behind q (List.mem_cons_of_mem p mem)) idleAfter
      rw [List.flatten_cons, receives_append, single]
      refine ⟨.cons ⟨msgid, rfl⟩ sent, fun o mem => ?_⟩
      rcases List.mem_cons.mp mem with rfl | later
      · exact message_ofWrite renders msgid
      · exact writes o later

/-- A packet that comes with its header beat is never sent. -/
theorem receives_count {packets : List DmaWrite} {parts : List (List TrnBeat)}
    (renders : List.Forall₂ Renders packets parts) {s : RxState} (between : Between s) :
    (receives s parts.flatten).2.countP TrnOutput.isMessage =
      packets.countP fun p => !p.inHeader := by
  induction renders generalizing s with
  | nil => rfl
  | @cons p beats packets parts renders _ ih =>
      obtain ⟨msgid, betweenAfter, -, out⟩ := receives_packet renders between
      have error : (overdue s).countP TrnOutput.isMessage = 0 := by
        unfold overdue
        split <;> rfl
      rw [List.flatten_cons, receives_append, List.countP_append, ih betweenAfter, out,
        List.countP_append, error, List.countP_cons]
      cases p.inHeader with
      | false => simp [TrnOutput.isMessage, Nat.add_comm]
      | true => simp

/-- As many messages as packets. -/
theorem countP_of_sent {packets : List DmaWrite} {outs : List TrnOutput}
    (sent : List.Forall₂ (fun p o => ∃ msgid, o = .message (p.message msgid)) packets outs) :
    outs.countP TrnOutput.isMessage = packets.length := by
  induction sent with
  | nil => rfl
  | cons head _ ih =>
      obtain ⟨msgid, rfl⟩ := head
      rw [List.countP_cons_of_pos rfl, ih, List.length_cons]

end Flisock

/-- Every packet is sent to the host once and in order, without an error, unless
one comes with its header beat: the end of the packet is looked at in data
beats only. -/
theorem trnMonitor_reassembles_iff {packets : List DmaWrite} {beats : List TrnBeat}
    (renders : RendersAll packets beats) {s : RxState} (idle : s.dvld = false) :
    List.Forall₂ (fun p o => ∃ msgid, o = .message (p.message msgid)) packets
        ((Flisock.trnMonitors s beats).2.filter TrnOutput.ofWrite) ↔
      ∀ p ∈ packets, ¬ (p.wide = false ∧ p.data.length = 1) := by
  have flag (p : DmaWrite) : p.inHeader = false ↔ ¬ (p.wide = false ∧ p.data.length = 1) := by
    unfold DmaWrite.inHeader
    cases p.wide <;> simp
  obtain ⟨parts, each, joined⟩ := renders
  rw [Flisock.trnMonitors_eq, joined]
  constructor
  · intro sent p mem
    have between : Flisock.Between s := fun dvld =>
      absurd (idle.symm.trans dvld) Bool.false_ne_true
    have all := Flisock.countP_of_sent sent
    have most := (List.filter_sublist (p := TrnOutput.ofWrite)
      (l := (Flisock.receives s parts.flatten).2)).countP_le (p := TrnOutput.isMessage)
    rw [all, Flisock.receives_count each between] at most
    have every := List.countP_eq_length.mp (le_antisymm List.countP_le_length most)
    exact (flag p).mp (by simpa using every p mem)
  · intro condition
    obtain ⟨sent, writes⟩ := Flisock.receives_packets each
      (fun p mem => (flag p).mpr (condition p mem)) idle
    rwa [List.filter_eq_self.mpr writes]

/-- A beat that is transferred, with message ID 7. -/
def someBeat (high low : Word64) (sof eof : Bool) (rem : Word32) : TrnBeat :=
  ⟨⟨high, low⟩, sof, eof, rem, true, true, false, false, 7⟩

/-- Two words to address 0x1000: one with the header, and one with the end. -/
def headerOfTwo : TrnBeat := someBeat 0x4000000200000000 0x0000100011000000 true false 0
def lastOfTwo : TrnBeat := someBeat 0x2200000000000000 0 false true 3

/-- Six words to address 0x123456789000, behind four words of header. -/
def headerOfSix : TrnBeat := someBeat 0x6000000600000000 0x0000123456789000 true false 0
def fourOfSix : TrnBeat := someBeat 0x0100000002000000 0x0300000004000000 false false 0
def lastOfSix : TrnBeat := someBeat 0x0500000006000000 0 false true 2

/-- Five words to address 0x2000, the last four in a full beat. -/
def headerOfFive : TrnBeat := someBeat 0x4000000500000000 0x0000200010000000 true false 0
def lastOfFive : TrnBeat := someBeat 0x1100000012000000 0x1300000014000000 false true 0

/-- Nothing is transferred; a write of the host is acknowledged. -/
def idleBeat : TrnBeat := { someBeat 0 0 false false 0 with srcRdy := false, wrDone := true }

theorem trnMonitor_reassembles_three :
    List.Forall₂ (fun (p : DmaWrite) o => ∃ msgid, o = .message (p.message msgid))
      [⟨false, 0x1000, [0x11, 0x22]⟩, ⟨true, 0x123456789000, [1, 2, 3, 4, 5, 6]⟩,
        ⟨false, 0x2000, [0x10, 0x11, 0x12, 0x13, 0x14]⟩]
      ((Flisock.trnMonitors ⟨false, 0, [], 0⟩ [headerOfTwo, idleBeat, lastOfTwo, idleBeat,
        headerOfSix, fourOfSix, idleBeat, lastOfSix, headerOfFive, lastOfFive]).2.filter
          TrnOutput.ofWrite) := by
  have endOfTwo : DataBeats [0x22] [lastOfTwo] :=
    (by decide : lastOfTwo.payload.take 1 = [0x22]) ▸
      DataBeats.last (b := lastOfTwo) rfl rfl rfl (by decide) (by decide) rfl
  have endOfSix : DataBeats [5, 6] [lastOfSix] :=
    (by decide : lastOfSix.payload.take 2 = [5, 6]) ▸
      DataBeats.last (b := lastOfSix) rfl rfl rfl (by decide) (by decide) rfl
  have sixWords : DataBeats [1, 2, 3, 4, 5, 6] [fourOfSix, lastOfSix] :=
    (by decide : fourOfSix.payload ++ [5, 6] = [1, 2, 3, 4, 5, 6]) ▸
      DataBeats.more (b := fourOfSix) rfl rfl rfl endOfSix
  have endOfFive : DataBeats [0x11, 0x12, 0x13, 0x14] [lastOfFive] :=
    (by decide : lastOfFive.payload.take 4 = [0x11, 0x12, 0x13, 0x14]) ▸
      DataBeats.last (b := lastOfFive) rfl rfl rfl (by decide) (by decide) rfl
  have two : Renders ⟨false, 0x1000, [0x11, 0x22]⟩ [headerOfTwo, lastOfTwo] :=
    Renders.narrow (h := headerOfTwo) rfl rfl rfl (by decide) (by decide) (by decide) endOfTwo
  have six : Renders ⟨true, 0x123456789000, [1, 2, 3, 4, 5, 6]⟩
      [headerOfSix, fourOfSix, lastOfSix] :=
    Renders.wide (h := headerOfSix) rfl rfl rfl (by decide) (by decide) sixWords
  have five : Renders ⟨false, 0x2000, [0x10, 0x11, 0x12, 0x13, 0x14]⟩
      [headerOfFive, lastOfFive] :=
    Renders.narrow (h := headerOfFive) rfl rfl rfl (by decide) (by decide) (by decide) endOfFive
  exact (trnMonitor_reassembles_iff ⟨_, .cons two (.cons six (.cons five .nil)), rfl⟩ rfl).mpr
    (by decide)

/-- One word to address 0x1000, in a single beat. -/
def singleWord : TrnBeat := someBeat 0x4000000100000000 0x0000100011000000 true true 0

/-- It is not sent. -/
theorem trnMonitor_drops_single :
    RendersAll [⟨false, 0x1000, [0x11]⟩] [singleWord] ∧
      ¬ List.Forall₂ (fun (p : DmaWrite) o => ∃ msgid, o = .message (p.message msgid))
        [⟨false, 0x1000, [0x11]⟩]
        ((Flisock.trnMonitors ⟨false, 0, [], 0⟩ [singleWord]).2.filter TrnOutput.ofWrite) := by
  have packet : Renders ⟨false, 0x1000, [0x11]⟩ [singleWord] :=
    Renders.single (h := singleWord) rfl rfl rfl rfl (by decide) (by decide) (by decide)
  refine ⟨⟨[[singleWord]], .cons packet .nil, rfl⟩, fun sent => ?_⟩
  have none : (Flisock.trnMonitors ⟨false, 0, [], 0⟩ [singleWord]).2 = [] := by decide
  rw [none] at sent
  cases sent

end Librorc
