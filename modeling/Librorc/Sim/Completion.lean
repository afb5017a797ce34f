import Librorc.Sim.Flisock
import Librorc.Sim.SockMonitor

/-!
# `bar_impl_sim::cmplHandler`: read requests in completions

A request of the device is answered in completions of at most
`m_max_packet_size` bytes. The model is of the loop over one request, with
every write to the socket taken and acknowledged; `Splits` says what the device
has to be sent.
-/

namespace Librorc

open Librorc.Lib

/-- A `t_read_req` in the pipe, but for the buffer it selects. -/
structure PipedReq where
  rdreq : ReadReq
  offset : Word64

namespace BarImplSim

/-- The bytes that the next completion carries. -/
def cmplLength (maxPacketSize : Word32) (rdreq : ReadReq) : Word32 :=
  if maxPacketSize < rdreq.length.setWidth 32 then maxPacketSize else rdreq.length.setWidth 32

/-- `memcpy` of `length` bytes from `mem+(offset>>2)`: `memory` holds the words
at the byte addresses of the host, `mem` is where the buffer is mapped. -/
def copyWords (memory : Word64 → Word32) (mem offset : Word64) (length : Word32) : List Word32 :=
  (List.range (length.toNat / 4)).map fun i =>
    memory (mem + (offset >>> 2) * 4 + BitVec.ofNat 64 (4 * i))

/-- The request behind a completion of `length` bytes. -/
def advance (length : Word32) (r : PipedReq) : PipedReq where
  rdreq :=
    { r.rdreq with
      length := r.rdreq.length - length.setWidth 16
      lowerAddr := (r.rdreq.lowerAddr + length.setWidth 8) &&& 0x7f }
  offset := r.offset + length.setWidth 64

/-- `while ( rdreq.length )`, for at most `turns` turns. -/
def cmplHandler (maxPacketSize : Word32) (memory : Word64 → Word32) (mem : Word64) :
    ℕ → PipedReq → Option (List HostCall)
  | 0, r => if r.rdreq.length = 0 then some [] else none
  | turns + 1, r =>
      if r.rdreq.length = 0 then some []
      else
        let length := cmplLength maxPacketSize r.rdreq
        let call := HostCall.completion r.rdreq (copyWords memory mem r.offset length)
        (cmplHandler maxPacketSize memory mem turns (advance length r)).map (call :: ·)

theorem sent_completion (number : Word8) (msgid : Word32) (rdreq : ReadReq)
    (payload : List Word32) :
    sent number msgid (.completion rdreq payload) =
      messageHeader (BitVec.ofNat 32 (16 + 4 * payload.length) >>> 2) cmdCmplToDevice :: msgid ::
        rdreq.requesterId :: completionParams rdreq :: payload := rfl

end BarImplSim

/-! ## What the device is to be sent -/

/-- A read request of the device, as `doReadFromHost` takes it from the socket,
and the offset of its address in the buffer that is mapped at `mem`. -/
structure DeviceRequest where
  addr : Word64
  requesterId : Word32
  param : Word32
  offset : Word64
  mem : Word64

namespace DeviceRequest

variable (r : DeviceRequest)

/-- The length in bytes. -/
def length : ℕ := 4 * (r.param >>> 16).toNat

def tag : Word8 := ((r.param >>> 8) &&& 0xff).setWidth 8

/-- The words asked for, from byte `first` on. -/
def wordsFrom (memory : Word64 → Word32) (first count : ℕ) : List Word32 :=
  (List.range count).map fun i => memory (r.mem + r.offset + BitVec.ofNat 64 (first + 4 * i))

def piped : PipedReq := ⟨BarImplSim.rdreqOf r.addr r.requesterId r.param, r.offset⟩

/-- A completion for what comes after the first `before` bytes: the words of the
message, and what the signals of the simulator become when it has read them. -/
structure Completes (maxPacketSize before : ℕ) (rdreq : ReadReq) (payload : List Word32) :
    Prop where
  some : payload ≠ []
  size : 4 * payload.length ≤ maxPacketSize
  told : ∀ (number : Word8) (msgid : Word32) (s : FliState), ∃ header param,
    BarImplSim.sent number msgid (.completion rdreq payload) =
      header :: msgid :: r.requesterId :: param :: payload ∧
    ∃ d, d = s.driveCompletion r.requesterId param (((header >>> 16) &&& 0xffff).setWidth 16) ∧
      d.wrLen.toNat = payload.length ∧ d.bytecount.toNat = r.length - before ∧
      d.lowerAddr.toNat = (r.addr.toNat + before) % 128 ∧ d.tag = r.tag

/-- The completions answer what comes after the first `before` bytes, and only
the last of them may be short. -/
inductive Splits (maxPacketSize : ℕ) : ℕ → List HostCall → Prop
  | done : Splits maxPacketSize r.length []
  | completion {before : ℕ} {rdreq : ReadReq} {payload : List Word32} {rest : List HostCall}
      (completes : r.Completes maxPacketSize before rdreq payload)
      (full : rest ≠ [] → 4 * payload.length = maxPacketSize)
      (later : Splits maxPacketSize (before + 4 * payload.length) rest) :
      Splits maxPacketSize before (.completion rdreq payload :: rest)

/-- The request, when `before` bytes of it have been answered. -/
structure Answered (before : ℕ) (p : PipedReq) : Prop where
  within : before ≤ r.length
  aligned : 4 ∣ before
  left : p.rdreq.length.toNat = r.length - before
  offset : p.offset = r.offset + BitVec.ofNat 64 before
  lowerAddr : p.rdreq.lowerAddr.toNat % 128 = (r.addr.toNat + before) % 128
  tag : p.rdreq.tag = r.tag
  requesterId : p.rdreq.requesterId = r.requesterId

variable {r : DeviceRequest}

/-- What `doReadFromHost` puts into the pipe. -/
theorem piped_answered (short : (r.param >>> 16).toNat ≤ 1023) : r.Answered 0 r.piped where
  within := Nat.zero_le _
  aligned := Nat.dvd_zero 4
  left := by
    show (((r.param >>> 16) <<< 2).setWidth 16).toNat = 4 * (r.param >>> 16).toNat - 0
    rw [BitVec.toNat_setWidth, BitVec.toNat_shiftLeft, Nat.shiftLeft_eq]
    omega
  offset := (BitVec.add_zero r.offset).symm
  lowerAddr := by
    have low : (r.addr &&& 0xff).toNat = r.addr.toNat % 2 ^ 8 :=
      @toNat_and_low 64 r.addr 8 (by omega)
    show ((r.addr &&& 0xff).setWidth 8).toNat % 128 = _
    rw [BitVec.toNat_setWidth, low]
    omega
  tag := rfl
  requesterId := rfl

theorem cmplLength_toNat (maxPacketSize : Word32) (rdreq : ReadReq) :
    (BarImplSim.cmplLength maxPacketSize rdreq).toNat =
      min maxPacketSize.toNat rdreq.length.toNat := by
  have narrow : (rdreq.length.setWidth 32).toNat = rdreq.length.toNat := by
    have bound := rdreq.length.isLt
    rw [BitVec.toNat_setWidth]
    omega
  unfold BarImplSim.cmplLength
  split
  · next more =>
      have more : maxPacketSize.toNat < (rdreq.length.setWidth 32).toNat := more
      omega
  · next less =>
      have less : ¬ maxPacketSize.toNat < (rdreq.length.setWidth 32).toNat := less
      rw [narrow]
      omega

/-- One completion answers as many bytes as it carries. -/
theorem Answered.advance {before : ℕ} {p : PipedReq} (answered : r.Answered before p)
    {length : Word32} (fits : length.toNat ≤ p.rdreq.length.toNat) (aligned : 4 ∣ length.toNat) :
    r.Answered (before + length.toNat) (BarImplSim.advance length p) where
  within := by
    have left := answered.left
    have within := answered.within
    omega
  aligned := Nat.dvd_add answered.aligned aligned
  left := by
    have left := answered.left
    have bound := p.rdreq.length.isLt
    show (p.rdreq.length - length.setWidth 16).toNat = _
    rw [BitVec.toNat_sub, BitVec.toNat_setWidth]
    omega
  offset := by
    show p.offset + length.setWidth 64 = _
    rw [answered.offset, BitVec.add_assoc]
    congr 1
    apply BitVec.eq_of_toNat_eq
    rw [BitVec.toNat_add, BitVec.toNat_setWidth, BitVec.toNat_ofNat, BitVec.toNat_ofNat]
    omega
  lowerAddr := by
    have low := answered.lowerAddr
    have masked : ((p.rdreq.lowerAddr + length.setWidth 8) &&& 0x7f).toNat =
        (p.rdreq.lowerAddr + length.setWidth 8).toNat % 2 ^ 7 :=
      @toNat_and_low 8 _ 7 (by omega)
    show ((p.rdreq.lowerAddr + length.setWidth 8) &&& 0x7f).toNat % 128 = _
    rw [masked, BitVec.toNat_add, BitVec.toNat_setWidth]
    omega
  tag := answered.tag
  requesterId := answered.requesterId

/-- The words that are copied are those asked for next. -/
theorem Answered.copyWords {before : ℕ} {p : PipedReq} (answered : r.Answered before p)
    (start : 4 ∣ r.offset.toNat) (memory : Word64 → Word32) (length : Word32) :
    BarImplSim.copyWords memory r.mem p.offset length =
      r.wordsFrom memory before (length.toNat / 4) := by
  have aligned := answered.aligned
  have whole : (p.offset >>> 2) * 4 = p.offset := by
    apply BitVec.eq_of_toNat_eq
    have four : (4 : Word64).toNat = 4 := rfl
    have multiple : 4 ∣ p.offset.toNat := by
      rw [answered.offset, BitVec.toNat_add, BitVec.toNat_ofNat]
      omega
    have bound := p.offset.isLt
    rw [BitVec.toNat_mul, BitVec.toNat_ushiftRight, Nat.shiftRight_eq_div_pow, four]
    omega
  unfold BarImplSim.copyWords wordsFrom
  refine List.map_congr_left fun i _ => ?_
  rw [whole, answered.offset]
  congr 1
  apply BitVec.eq_of_toNat_eq
  simp only [BitVec.toNat_add, BitVec.toNat_ofNat]
  omega

/-- What is asked for is cut where a completion ends. -/
theorem wordsFrom_add (memory : Word64 → Word32) (first count count' : ℕ) :
    r.wordsFrom memory first (count + count') =
      r.wordsFrom memory first count ++ r.wordsFrom memory (first + 4 * count) count' := by
  unfold wordsFrom
  rw [List.range_add, List.map_append, List.map_map]
  congr 1
  refine List.map_congr_left fun i _ => ?_
  simp only [Function.comp_apply]
  rw [Nat.mul_add, Nat.add_assoc]

theorem length_wordsFrom (memory : Word64 → Word32) (first count : ℕ) :
    (r.wordsFrom memory first count).length = count := by
  simp [wordsFrom]

/-- The message of a completion, read back. -/
theorem Answered.completes {before : ℕ} {p : PipedReq} (answered : r.Answered before p)
    (short : r.length < 4096) {payload : List Word32} (some : payload ≠ []) {maxPacketSize : ℕ}
    (size : 4 * payload.length ≤ maxPacketSize) (within : 4 * payload.length ≤ r.length) :
    r.Completes maxPacketSize before p.rdreq payload where
  some := some
  size := size
  told number msgid s := by
    have left := answered.left
    have small : p.rdreq.length.toNat < 4096 := by omega
    obtain ⟨-, count, tag, lower⟩ := BarImplSim.completionParams_fields p.rdreq small
    have size : (BitVec.ofNat 32 payload.length + 4).toNat = payload.length + 4 := by
      rw [BitVec.toNat_add, BitVec.toNat_ofNat]
      show (payload.length % 2 ^ 32 + 4) % 2 ^ 32 = _
      omega
    have fits : (BitVec.ofNat 32 payload.length + 4).toNat < 65536 := by omega
    have header := (messageHeader_fields fits BarImplSim.cmdCmplToDevice).2
    refine ⟨messageHeader (BitVec.ofNat 32 payload.length + 4) BarImplSim.cmdCmplToDevice,
      BarImplSim.completionParams p.rdreq, ?_, _, rfl, ?_, count.trans left, ?_,
      tag.trans answered.tag⟩
    · rw [BarImplSim.sent_completion, BarImplSim.completion_msgsize (by omega),
        answered.requesterId]
    · rw [header]
      show (((BitVec.ofNat 32 payload.length + 4).setWidth 16 - 4 : Word16).setWidth 10).toNat = _
      bv_omega
    · have low := answered.lowerAddr
      refine (congrArg BitVec.toNat lower).trans ?_
      rw [BitVec.toNat_setWidth]
      exact low

/-- One turn, and the request behind it. -/
theorem Answered.turn {before : ℕ} {p : PipedReq} (answered : r.Answered before p)
    (short : r.length < 4096) (start : 4 ∣ r.offset.toNat) {maxPacketSize : Word32}
    (pos : 0 < maxPacketSize.toNat) (words : 4 ∣ maxPacketSize.toNat) (more : before < r.length)
    (memory : Word64 → Word32) :
    ∃ count, 0 < count ∧ 4 * count = min maxPacketSize.toNat (r.length - before) ∧
      r.Completes maxPacketSize.toNat before p.rdreq (r.wordsFrom memory before count) ∧
      BarImplSim.copyWords memory r.mem p.offset (BarImplSim.cmplLength maxPacketSize p.rdreq) =
        r.wordsFrom memory before count ∧
      r.Answered (before + 4 * count)
        (BarImplSim.advance (BarImplSim.cmplLength maxPacketSize p.rdreq) p) := by
  have length := cmplLength_toNat maxPacketSize p.rdreq
  rw [answered.left] at length
  have aligned := answered.aligned
  have whole : 4 ∣ r.length := Nat.dvd_mul_right 4 _
  obtain ⟨count, counted⟩ : 4 ∣ (BarImplSim.cmplLength maxPacketSize p.rdreq).toNat := by
    rw [length]
    omega
  have later := answered.advance (by rw [length, answered.left]; omega) ⟨count, counted⟩
  rw [counted] at later
  have copied := answered.copyWords start memory (BarImplSim.cmplLength maxPacketSize p.rdreq)
  rw [counted, Nat.mul_div_cancel_left _ (by omega)] at copied
  have carried := r.length_wordsFrom memory before count
  refine ⟨count, by omega, by omega, answered.completes short ?_ ?_ ?_, copied, later⟩
  · intro none
    rw [none] at carried
    simp only [List.length_nil] at carried
    omega
  · omega
  · omega

end DeviceRequest

/-- The words a completion carries. -/
def HostCall.carried : HostCall → List Word32
  | .completion _ payload => payload
  | _ => []

namespace DeviceRequest

variable {r : DeviceRequest}

theorem Splits.carried_ne_nil {maxPacketSize before : ℕ} {calls : List HostCall}
    (splits : r.Splits maxPacketSize before calls) (unfinished : calls ≠ []) :
    calls.flatMap HostCall.carried ≠ [] := by
  cases splits with
  | done => exact absurd rfl unfinished
  | completion completes _ _ =>
      intro nothing
      exact completes.some (List.append_eq_nil_iff.mp nothing).1

/-- Nothing more is sent when all is answered. -/
theorem Answered.run_done {p : PipedReq} (answered : r.Answered r.length p)
    (maxPacketSize : Word32) (memory : Word64 → Word32) (turns : ℕ) :
    BarImplSim.cmplHandler maxPacketSize memory r.mem turns p = some [] := by
  have none : p.rdreq.length = 0 := by
    apply BitVec.eq_of_toNat_eq
    rw [answered.left, Nat.sub_self]
    rfl
  cases turns <;> exact if_pos none

theorem Answered.run {before : ℕ} {p : PipedReq} (answered : r.Answered before p)
    (short : r.length < 4096) (start : 4 ∣ r.offset.toNat) {maxPacketSize : Word32}
    (pos : 0 < maxPacketSize.toNat) (words : 4 ∣ maxPacketSize.toNat)
    (memory : Word64 → Word32) {left : ℕ} (enough : r.length - before ≤ 4 * left) :
    ∃ calls, (∀ turns, left ≤ turns →
        BarImplSim.cmplHandler maxPacketSize memory r.mem turns p = some calls) ∧
      r.Splits maxPacketSize.toNat before calls ∧
      calls.flatMap HostCall.carried = r.wordsFrom memory before ((r.length - before) / 4) := by
  induction left generalizing before p with
  | zero =>
      have within := answered.within
      obtain rfl : before = r.length := by omega
      refine ⟨[], fun turns _ => answered.run_done maxPacketSize memory turns, .done, ?_⟩
      rw [Nat.sub_self]
      rfl
  | succ left ih =>
      rcases answered.within.eq_or_lt with rfl | more
      · refine ⟨[], fun turns _ => answered.run_done maxPacketSize memory turns, .done, ?_⟩
        rw [Nat.sub_self]
        rfl
      · obtain ⟨count, some, size, completes, copied, later⟩ :=
          answered.turn short start pos words more memory
        obtain ⟨rest, runs, splits, carried⟩ := ih later (by omega)
        have length := r.length_wordsFrom memory before count
        refine ⟨.completion p.rdreq (r.wordsFrom memory before count) :: rest, ?_, ?_, ?_⟩
        · intro turns enough
          obtain ⟨turns, rfl⟩ : ∃ turns', turns = turns' + 1 := ⟨turns - 1, by omega⟩
          have asked : ¬ p.rdreq.length = 0 := by
            intro none
            have left := answered.left
            rw [none] at left
            have zero : (0 : Word16).toNat = 0 := rfl
            omega
          unfold BarImplSim.cmplHandler
          rw [if_neg asked]
          simp only
          rw [copied, runs turns (by omega)]
          rfl
        · refine .completion completes (fun unfinished => ?_) (by rwa [length])
          -- a short completion is the last one
          by_contra short
          have last : before + 4 * count = r.length := by omega
          rw [last, Nat.sub_self] at carried
          exact splits.carried_ne_nil unfinished carried
        · rw [List.flatMap_cons, carried]
          show r.wordsFrom memory before count ++ _ = _
          rw [← wordsFrom_add]
          congr 1
          have aligned := answered.aligned
          have whole : 4 ∣ r.length := Nat.dvd_mul_right 4 _
          omega

end DeviceRequest

/-- A request is answered with exactly the bytes asked for, in completions that
say what is still to come. -/
theorem cmplHandler_splits (r : DeviceRequest) (short : (r.param >>> 16).toNat ≤ 1023)
    (start : 4 ∣ r.offset.toNat) (maxPacketSize : Word32) (pos : 0 < maxPacketSize.toNat)
    (words : 4 ∣ maxPacketSize.toNat) (memory : Word64 → Word32) :
    ∃ calls, (∀ turns, r.length ≤ turns →
        BarImplSim.cmplHandler maxPacketSize memory r.mem turns r.piped = some calls) ∧
      r.Splits maxPacketSize.toNat 0 calls ∧
      calls.flatMap HostCall.carried = r.wordsFrom memory 0 (r.length / 4) := by
  have length : r.length = 4 * (r.param >>> 16).toNat := rfl
  exact (DeviceRequest.piped_answered short).run (by omega) start pos words memory
    (show r.length - 0 ≤ 4 * r.length by omega)

/-- A request for 12 bytes from the top of a 128-byte line, in packets of 8. -/
theorem cmplHandler_splits_twelve :
    ∃ calls, (∀ turns, 12 ≤ turns →
        BarImplSim.cmplHandler 8 (fun a => a.setWidth 32) 0x1000 turns
          (DeviceRequest.piped ⟨0xfffc, 0x0100, 0x000307ff, 0x1c, 0x1000⟩) = some calls) ∧
      DeviceRequest.Splits ⟨0xfffc, 0x0100, 0x000307ff, 0x1c, 0x1000⟩ 8 0 calls ∧
      calls.flatMap HostCall.carried = [0x101c, 0x1020, 0x1024] :=
  cmplHandler_splits ⟨0xfffc, 0x0100, 0x000307ff, 0x1c, 0x1000⟩ (by decide) (by decide) 8
    (by decide) (by decide) fun a => a.setWidth 32

end Librorc
