import Librorc.Lib.ActionSystem
import Librorc.Lib.ByteMem
import Librorc.Sim.Completion
import Librorc.Sim.GetOffset
import Librorc.Sim.Wire

/-!
# Simulated DMA is DMA

The simulated device writes to the memory of the host, and reads from it, by
packets with bus addresses. The monitor thread of `bar_impl_sim` looks for the
buffer an address lies in and accesses its mapping there; read requests go
through a pipe to the thread that sends the completions. `busSystem` is what the
device believes to be connected to: one memory behind the bus. The two threads
show it just that, in whatever order they and the device act.
-/

namespace Librorc

open Librorc.Lib

/-! ## The host as a memory behind the bus -/

/-- A packet of the device. -/
inductive BusEvent
  | write (addr : Word64) (data : List Word32)
  | read (addr : Word64) (requesterId : Word16) (tag : Word8) (words : ℕ)
  | other

namespace FliEvent

def bus : FliEvent → BusEvent
  | .mwr64 h payload _ => .write h.low payload
  | .mwr32 h payload _ => .write h.addr32 (Flisock.firstWord h :: payload)
  | .mrd64 h => .read h.low (h.high.extractLsb' 16 16) (h.high.extractLsb' 8 8) h.rxNdw.toNat
  | .mrd32 h => .read h.addr32 (h.high.extractLsb' 16 16) (h.high.extractLsb' 8 8) h.rxNdw.toNat
  | _ => .other

end FliEvent

/-- A read request, `answered` bytes of which have been completed. -/
structure BusRead where
  addr : Word64
  requesterId : Word16
  tag : Word8
  length : ℕ
  answered : ℕ

/-- The memory, the packets on their way to it, the requests that are not
completed yet, and the completions. -/
structure BusHost where
  packets : List (Word32 × FliEvent)
  memory : Word64 → Word8
  reads : List BusRead
  completions : List DeviceMessage

/-- What the device and the two threads do. The simulator sends a packet with
the message ID it has. -/
inductive DmaAction
  | device (msgid : Word32) (event : FliEvent)
  | monitor
  | cmplHandler

namespace BusHost

variable (t : BusHost)

/-- The bytes from `addr` on. -/
def bytesFrom (addr : Word64) : ByteMem := fun k => t.memory (addr + BitVec.ofNat 64 k)

/-- `size` bytes are written from `addr` on. -/
def busStore (memory : Word64 → Word8) (addr : Word64) (size : ℕ) (byte : ℕ → Word8) :
    Word64 → Word8 := fun p =>
  if (p - addr).toNat < size then byte (p - addr).toNat else memory p

/-- A packet has arrived. -/
def receive : BusEvent → BusHost
  | .write addr data =>
      { t with memory := busStore t.memory addr (4 * data.length) (wordsByte data) }
  | .read addr requesterId tag words =>
      { t with reads := t.reads ++ [⟨addr, requesterId, tag, 4 * words, 0⟩] }
  | .other => t

/-- The next completion of a request, of at most `maxPacket` bytes. -/
def completion (maxPacket : ℕ) (r : BusRead) : DeviceMessage :=
  .completion r.requesterId (r.length - r.answered) r.tag
    (BitVec.ofNat 7 (r.addr.toNat + r.answered))
    ((List.range (min maxPacket (r.length - r.answered) / 4)).map fun i =>
      (t.bytesFrom r.addr).load32 (r.answered + 4 * i))

/-- The first request is completed further, or has been completed. -/
def complete (maxPacket : ℕ) : BusHost :=
  match t.reads with
  | [] => t
  | r :: rest =>
      if r.answered = r.length then { t with reads := rest }
      else
        { t with
          reads :=
            { r with answered := r.answered + min maxPacket (r.length - r.answered) } :: rest
          completions := t.completions ++ [t.completion maxPacket r] }

end BusHost

/-- The memory behind the bus. -/
def busSystem (maxPacket : ℕ) : ActionSystem BusHost DmaAction where
  init t := t.packets = [] ∧ t.reads = [] ∧ t.completions = []
  step t
    | .device msgid event => some { t with packets := t.packets ++ [(msgid, event)] }
    | .monitor =>
        match t.packets with
        | [] => some t
        | m :: rest => some ({ t with packets := rest }.receive m.2.bus)
    | .cmplHandler => some (t.complete maxPacket)

/-! ## The host with its threads -/

/-- The words on the socket, the memory of every buffer, the pipe and what
`cmplHandler` has sent. The request it works on is the first of the pipe. -/
structure SimHost where
  toHost : List Word32
  contents : Word64 → ByteMem
  pipe : List (Word64 × PipedReq)
  sent : List HostCall

namespace SimHost

variable (hosts : List HostBuffer) (s : SimHost)

/-- The handlers; `none` where they abort. -/
def handle : HostEvent → Option SimHost
  | .writeToHost _ addr msgBuffer =>
      match BarImplSim.getOffset addr (hosts.map HostBuffer.sysfs) with
      | none => none
      | some (bufferId, offset) =>
          -- `memcpy(mem+(offset>>2), msg_buffer, msgsize*sizeof(uint32_t))`
          let mem := (s.contents bufferId).storeAll (4 * (offset >>> 2).toNat)
            (4 * msgBuffer.length) (wordsByte msgBuffer)
          some { s with contents := Function.update s.contents bufferId mem }
  | .readFromHost _ addr rdreq =>
      match BarImplSim.getOffset addr (hosts.map HostBuffer.sysfs) with
      | none => none
      | some (bufferId, offset) => some { s with pipe := s.pipe ++ [(bufferId, ⟨rdreq, offset⟩)] }
  | _ => some s

/-- A turn of `sockMonitor`, which waits where there is nothing to read. -/
def monitor : Option SimHost :=
  match (BarImplSim.sockMonitorTurn takeWord).run s.toHost with
  | some (some event, rest) => { s with toHost := rest }.handle hosts event
  | _ => some s

/-- A turn of the loop of `cmplHandler`, or the step to the next request. It also
waits for an acknowledgement behind every completion: that only leaves out some
of the orders. -/
def cmplTurn (maxPacketSize : Word32) : SimHost :=
  match s.pipe with
  | [] => s
  | (bufferId, r) :: rest =>
      if r.rdreq.length = 0 then { s with pipe := rest }
      else
        let length := BarImplSim.cmplLength maxPacketSize r.rdreq
        let memory (a : Word64) := (s.contents bufferId).load32 a.toNat
        { s with
          pipe := (bufferId, BarImplSim.advance length r) :: rest
          sent := s.sent ++
            [.completion r.rdreq (BarImplSim.copyWords memory 0 r.offset length)] }

end SimHost

/-- The host, with the buffers that the driver has allocated. -/
def dmaSystem (hosts : List HostBuffer) (maxPacketSize : Word32) :
    ActionSystem SimHost DmaAction where
  init s := s.toHost = [] ∧ s.pipe = [] ∧ s.sent = []
  step s
    | .device msgid event => some { s with toHost := s.toHost ++ Flisock.sent msgid event }
    | .monitor => s.monitor hosts
    | .cmplHandler => some (s.cmplTurn maxPacketSize)

/-! ## Addresses in the buffers -/

/-- So many bytes from an address on are those of buffer `h` from offset `o` on,
a word boundary. -/
structure InBuffer (hosts : List HostBuffer) (addr : Word64) (size : ℕ) (h : HostBuffer) (o : ℕ) :
    Prop where
  mem : h ∈ hosts
  pos : 0 < size
  aligned : 4 ∣ o
  bytes : ∀ k < size, (sgBytes h.sglist)[o + k]? = some (addr + BitVec.ofNat 64 k)

theorem InBuffer.first {hosts : List HostBuffer} {addr : Word64} {size : ℕ} {h : HostBuffer}
    {o : ℕ} (place : InBuffer hosts addr size h o) : (sgBytes h.sglist)[o]? = some addr := by
  have byte := place.bytes 0 place.pos
  rwa [Nat.add_zero, BitVec.add_zero] at byte

/-- The mappings show the memory at the addresses of the buffers. -/
def Mirrors (hosts : List HostBuffer) (memory : Word64 → Word8) (contents : Word64 → ByteMem) :
    Prop :=
  ∀ h ∈ hosts, ∀ (o : ℕ) (p : Word64), (sgBytes h.sglist)[o]? = some p →
    contents h.bufferId o = memory p

theorem add_offset (addr p : Word64) : addr + BitVec.ofNat 64 (p - addr).toNat = p := by
  rw [BitVec.ofNat_toNat, BitVec.setWidth_eq, BitVec.add_comm, BitVec.sub_add_cancel]

theorem offset_toNat {addr : Word64} {k : ℕ} (small : k < 2 ^ 64) :
    (addr + BitVec.ofNat 64 k - addr).toNat = k := by
  rw [BitVec.add_comm, BitVec.add_sub_cancel, BitVec.toNat_ofNat, Nat.mod_eq_of_lt small]

section Addresses

variable {hosts : List HostBuffer} (ok : Translatable (hosts.flatMap HostBuffer.sglist))

include ok

theorem HostBuffer.offset_lt {h : HostBuffer} (mem : h ∈ hosts) {o : ℕ} {p : Word64}
    (byte : (sgBytes h.sglist)[o]? = some p) : o < 2 ^ 64 :=
  Nat.lt_trans (Buffer.lt_sgTotal_of_byte byte) (HostBuffer.translatable ok mem).sgTotal_lt

/-- `getOffset` finds every byte of every buffer. -/
theorem getOffset_of_byte {h : HostBuffer} (mem : h ∈ hosts) {o : ℕ} {p : Word64}
    (byte : (sgBytes h.sglist)[o]? = some p) :
    BarImplSim.getOffset p (hosts.map HostBuffer.sysfs) =
      some (h.bufferId, BitVec.ofNat 64 o) := by
  have small := HostBuffer.offset_lt ok mem byte
  have okList := HostBuffer.translatable ok mem
  obtain ⟨e, inList, covered⟩ := okList.mem_sgBytes_iff.mp (List.mem_of_getElem? byte)
  have at_offset : (BitVec.ofNat 64 o).toNat = o := by
    rw [BitVec.toNat_ofNat, Nat.mod_eq_of_lt small]
  have found := Buffer.searchPhysAddr_of_byte okList
    (show (sgBytes h.sglist)[(BitVec.ofNat 64 o).toNat]? = some p by rwa [at_offset])
  rw [BarImplSim.getOffset_eq, HostBuffer.findSome_of_mem ok mem inList covered
    fun l okL => Buffer.searchPhysAddr_eq_none_iff okL p 0, found]
  rfl

/-- No address is in two places. -/
theorem HostBuffer.place_unique {h h' : HostBuffer} (mem : h ∈ hosts) (mem' : h' ∈ hosts)
    {o o' : ℕ} {p : Word64} (byte : (sgBytes h.sglist)[o]? = some p)
    (byte' : (sgBytes h'.sglist)[o']? = some p) : h.bufferId = h'.bufferId ∧ o = o' := by
  have small := HostBuffer.offset_lt ok mem byte
  have small' := HostBuffer.offset_lt ok mem' byte'
  have same := (getOffset_of_byte ok mem byte).symm.trans (getOffset_of_byte ok mem' byte')
  obtain ⟨ids, offsets⟩ := Prod.mk.inj (Option.some.inj same)
  refine ⟨ids, ?_⟩
  have values := congrArg BitVec.toNat offsets
  rwa [BitVec.toNat_ofNat, BitVec.toNat_ofNat, Nat.mod_eq_of_lt small,
    Nat.mod_eq_of_lt small'] at values

/-- A packet changes the mapping of its buffer as it changes the memory. -/
theorem Mirrors.write (ids : (hosts.map HostBuffer.bufferId).Nodup) {memory : Word64 → Word8}
    {contents : Word64 → ByteMem} (mirrors : Mirrors hosts memory contents) {addr : Word64}
    {size : ℕ} {h : HostBuffer} {o : ℕ} (place : InBuffer hosts addr size h o)
    (byte : ℕ → Word8) :
    Mirrors hosts (BusHost.busStore memory addr size byte)
      (Function.update contents h.bufferId ((contents h.bufferId).storeAll o size byte)) := by
  intro h' mem' o' p at_p
  unfold BusHost.busStore
  by_cases inside : (p - addr).toNat < size
  · have at_place := place.bytes _ inside
    rw [add_offset] at at_place
    obtain ⟨id, rfl⟩ := HostBuffer.place_unique ok place.mem mem' at_place at_p
    rw [if_pos inside, ← id, Function.update_self]
    refine (if_pos ⟨Nat.le_add_right _ _, Nat.add_lt_add_left inside o, rfl⟩).trans ?_
    rw [Nat.add_sub_cancel_left]
  · rw [if_neg inside]
    by_cases same : h'.bufferId = h.bufferId
    · obtain rfl : h' = h := List.inj_on_of_nodup_map ids mem' place.mem same
      rw [Function.update_self]
      refine (ByteMem.store_of_outside ?_ _ _).trans (mirrors h' mem' o' p at_p)
      -- a byte of the buffer in the range written would have an address in the packet
      rintro ⟨low, high⟩
      have small := HostBuffer.offset_lt ok mem' at_p
      have at_place := place.bytes (o' - o) (by omega)
      rw [Nat.add_sub_cancel' low, at_p, Option.some.injEq] at at_place
      rw [at_place, offset_toNat (by omega)] at inside
      omega
    · rw [Function.update_of_ne same]
      exact mirrors h' mem' o' p at_p

end Addresses

/-! ## Packets on the socket -/

/-- A request that has just come from the device: what the handler makes of it,
with the buffer and offset that `getOffset` finds. -/
structure DeviceRequest.Of (addr : Word64) (requesterId : Word16) (tag : Word8) (length : ℕ)
    (offset : Word64) (d : DeviceRequest) : Prop where
  addr : d.addr = addr
  requesterId : d.requesterId.setWidth 16 = requesterId
  tag : d.tag = tag
  length : d.length = length
  offset : d.offset = offset
  mem : d.mem = 0

namespace TrnHeader

variable (h : TrnHeader)

theorem rxNdw_le : h.rxNdw.toNat ≤ 1023 := by
  rw [h.rxNdw_toNat]
  omega

/-- The read request of a packet. -/
theorem request_of (addr offset : Word64) :
    ∃ d : DeviceRequest, d.Of addr (h.high.extractLsb' 16 16) (h.high.extractLsb' 8 8)
      (4 * h.rxNdw.toNat) offset ∧ d.Answered 0 ⟨h.rdreq addr, offset⟩ := by
  let param : Word32 := (h.rxNdw <<< 16) + (h.high &&& 0xffff).setWidth 32
  let reqid : Word32 := ((h.high >>> 16) &&& 0xffff).setWidth 32
  have packed : BarImplSim.rdreqOf addr reqid param = h.rdreq addr := h.rdreqOf_eq addr
  have short := h.rxNdw_le
  have low : (h.high &&& 0xffff).toNat = h.high.toNat % 2 ^ 16 :=
    @toNat_and_low 64 h.high 16 (by omega)
  have count : (param >>> 16).toNat = h.rxNdw.toNat := by
    rw [BitVec.toNat_ushiftRight, Nat.shiftRight_eq_div_pow, BitVec.toNat_add,
      BitVec.toNat_shiftLeft, BitVec.toNat_setWidth, low, Nat.shiftLeft_eq]
    omega
  refine ⟨⟨addr, reqid, param, offset, 0⟩, ⟨rfl, ?_, congrArg ReadReq.tag packed, ?_, rfl, rfl⟩, ?_⟩
  · have id : reqid = (h.high.extractLsb' 16 16).setWidth 32 := congrArg ReadReq.requesterId packed
    show reqid.setWidth 16 = _
    rw [id, BitVec.setWidth_setWidth_of_le _ (by omega), BitVec.setWidth_eq]
  · show 4 * (param >>> 16).toNat = _
    rw [count]
  · rw [← packed]
    exact DeviceRequest.piped_answered (count.trans_le short)

end TrnHeader

namespace FliEvent

variable {e : FliEvent} {addr : Word64}

theorem message_write {data : List Word32} (packet : e.bus = .write addr data) :
    ∃ msgsize, e.message = .writeToHost msgsize addr data := by
  cases e with
  | mwr64 h payload complete =>
      cases packet
      exact ⟨_, rfl⟩
  | mwr32 h payload complete =>
      cases packet
      exact ⟨_, rfl⟩
  | mrd64 h => cases packet
  | mrd32 h => cases packet
  | cmplD h => cases packet
  | ackTime time => cases packet
  | ackWrite => cases packet
  | ackCmpl => cases packet

theorem message_read {requesterId : Word16} {tag : Word8} {words : ℕ}
    (packet : e.bus = .read addr requesterId tag words) :
    words ≤ 1023 ∧ ∃ msgsize rdreq, e.message = .readFromHost msgsize addr rdreq ∧
      ∀ offset, ∃ d : DeviceRequest, d.Of addr requesterId tag (4 * words) offset ∧
        d.Answered 0 ⟨rdreq, offset⟩ := by
  cases e with
  | mrd64 h =>
      cases packet
      exact ⟨h.rxNdw_le, _, _, rfl, h.request_of h.low⟩
  | mrd32 h =>
      cases packet
      exact ⟨h.rxNdw_le, _, _, rfl, h.request_of h.addr32⟩
  | mwr64 h payload complete => cases packet
  | mwr32 h payload complete => cases packet
  | cmplD h => cases packet
  | ackTime time => cases packet
  | ackWrite => cases packet
  | ackCmpl => cases packet

/-- All other messages leave the buffers and the pipe alone. -/
theorem handle_other (packet : e.bus = .other) (hosts : List HostBuffer) (s : SimHost) :
    s.handle hosts e.message = some s := by
  cases e with
  | mwr64 h payload complete => cases packet
  | mwr32 h payload complete => cases packet
  | mrd64 h => cases packet
  | mrd32 h => cases packet
  | cmplD h => rfl
  | ackTime time => rfl
  | ackWrite => rfl
  | ackCmpl => rfl

end FliEvent

namespace BusEvent

/-- A packet for one of the buffers. -/
def Arrives (hosts : List HostBuffer) : BusEvent → Prop
  | .write addr data => ∃ h o, InBuffer hosts addr (4 * data.length) h o
  | .read addr _ _ words => ∃ h o, InBuffer hosts addr (4 * words) h o
  | .other => True

end BusEvent

/-! ## The host follows the memory behind the bus -/

/-- The request in the pipe is the one of the device, as far as it has been
answered. -/
structure Serves (hosts : List HostBuffer) (r : BusRead) (q : Word64 × PipedReq) (h : HostBuffer)
    (o : ℕ) (d : DeviceRequest) : Prop where
  place : InBuffer hosts r.addr r.length h o
  buffer : q.1 = h.bufferId
  short : r.length < 4096
  request : d.Of r.addr r.requesterId r.tag r.length (BitVec.ofNat 64 o)
  answered : d.Answered r.answered q.2

namespace Serves

variable {hosts : List HostBuffer} {r : BusRead} {q : Word64 × PipedReq} {h : HostBuffer} {o : ℕ}
  {d : DeviceRequest}

theorem left (serves : Serves hosts r q h o d) :
    q.2.rdreq.length.toNat = r.length - r.answered := by
  have left := serves.answered.left
  rwa [serves.request.length] at left

theorem answered_le (serves : Serves hosts r q h o d) : r.answered ≤ r.length := by
  have within := serves.answered.within
  rwa [serves.request.length] at within

/-- `rdreq.length` counts down to the end of the request. -/
theorem done_iff (serves : Serves hosts r q h o d) :
    q.2.rdreq.length = 0 ↔ r.answered = r.length := by
  have left := serves.left
  have within := serves.answered_le
  constructor
  · intro none
    have zero : (0 : Word16).toNat = 0 := rfl
    rw [none, zero] at left
    omega
  · intro done
    apply BitVec.eq_of_toNat_eq
    rw [left, done, Nat.sub_self]
    rfl

/-- The handler copies whole words, which needs the offset on a word. -/
theorem aligned (serves : Serves hosts r q h o d)
    (ok : Translatable (hosts.flatMap HostBuffer.sglist)) : 4 ∣ d.offset.toNat := by
  have small := HostBuffer.offset_lt ok serves.place.mem serves.place.first
  rw [serves.request.offset, BitVec.toNat_ofNat, Nat.mod_eq_of_lt small]
  exact serves.place.aligned

/-- What the simulator reads of the next completion. -/
theorem message (serves : Serves hosts r q h o d) (number : Word8) {t : BusHost}
    {maxPacket count : ℕ} {payload : List Word32}
    (carried : payload =
      (List.range count).map fun i => (t.bytesFrom r.addr).load32 (r.answered + 4 * i))
    (size : 4 * count = min maxPacket (r.length - r.answered)) :
    HostCall.message number (.completion q.2.rdreq payload) = t.completion maxPacket r := by
  have lower := serves.answered.lowerAddr
  rw [serves.request.addr] at lower
  rw [HostCall.message, BusHost.completion, serves.answered.requesterId,
    serves.request.requesterId, serves.answered.tag, serves.request.tag, serves.left, carried,
    ← size, Nat.mul_div_cancel_left _ (by omega)]
  congr 1
  apply BitVec.eq_of_toNat_eq
  rw [BitVec.toNat_setWidth, BitVec.toNat_ofNat]
  exact lower

end Serves

/-- The state of the host, when the device has seen the memory behind the bus. -/
structure Follows (hosts : List HostBuffer) (number : Word8) (t : BusHost) (s : SimHost) :
    Prop where
  packets : s.toHost = t.packets.flatMap fun m => Flisock.sent m.1 m.2
  arrive : ∀ m ∈ t.packets, m.2.bus.Arrives hosts
  memory : Mirrors hosts t.memory s.contents
  reads : List.Forall₂ (fun r q => ∃ h o d, Serves hosts r q h o d) t.reads s.pipe
  completions : t.completions = s.sent.map (HostCall.message number)
  fits : ∀ c ∈ s.sent, c.Fits

namespace Follows

variable {hosts : List HostBuffer} {number : Word8} {t : BusHost} {s : SimHost}

/-- The device sends a packet. -/
theorem device (follows : Follows hosts number t s) (msgid : Word32) {event : FliEvent}
    (arrives : event.bus.Arrives hosts) :
    Follows hosts number { t with packets := t.packets ++ [(msgid, event)] }
      { s with toHost := s.toHost ++ Flisock.sent msgid event } where
  packets := by
    rw [follows.packets, List.flatMap_append, List.flatMap_singleton]
  arrive := by
    intro m member
    rcases List.mem_append.mp member with before | last
    · exact follows.arrive m before
    · rw [List.mem_singleton.mp last]
      exact arrives
  memory := follows.memory
  reads := follows.reads
  completions := follows.completions
  fits := follows.fits

/-- A packet is handled as it changes the memory. -/
theorem receive (ok : Translatable (hosts.flatMap HostBuffer.sglist))
    (ids : (hosts.map HostBuffer.bufferId).Nodup) (follows : Follows hosts number t s)
    {event : FliEvent} (arrives : event.bus.Arrives hosts) :
    ∃ s', s.handle hosts event.message = some s' ∧
      Follows hosts number (t.receive event.bus) s' := by
  cases packet : event.bus with
  | write addr data =>
      rw [packet] at arrives
      obtain ⟨h, o, place⟩ := arrives
      obtain ⟨msgsize, message⟩ := FliEvent.message_write packet
      have small := HostBuffer.offset_lt ok place.mem place.first
      -- `mem+(offset>>2)` counts in words
      have whole : 4 * (BitVec.ofNat 64 o >>> 2).toNat = o := by
        have aligned := place.aligned
        rw [BitVec.toNat_ushiftRight, BitVec.toNat_ofNat, Nat.mod_eq_of_lt small,
          Nat.shiftRight_eq_div_pow]
        omega
      let mem := (s.contents h.bufferId).storeAll o (4 * data.length) (wordsByte data)
      refine ⟨{ s with contents := Function.update s.contents h.bufferId mem }, ?_,
        ⟨follows.packets, follows.arrive, follows.memory.write ok ids place (wordsByte data),
          follows.reads, follows.completions, follows.fits⟩⟩
      rw [message, SimHost.handle, getOffset_of_byte ok place.mem place.first]
      simp only [whole]
      rfl
  | read addr requesterId tag words =>
      rw [packet] at arrives
      obtain ⟨h, o, place⟩ := arrives
      obtain ⟨short, msgsize, rdreq, message, request⟩ := FliEvent.message_read packet
      obtain ⟨d, asked, answered⟩ := request (BitVec.ofNat 64 o)
      refine ⟨{ s with pipe := s.pipe ++ [(h.bufferId, ⟨rdreq, BitVec.ofNat 64 o⟩)] }, ?_,
        ⟨follows.packets, follows.arrive, follows.memory, ?_, follows.completions, follows.fits⟩⟩
      · rw [message, SimHost.handle, getOffset_of_byte ok place.mem place.first]
      · exact List.rel_append follows.reads
          (.cons ⟨h, o, d, place, rfl, show 4 * words < 4096 by omega, asked, answered⟩ .nil)
  | other => exact ⟨s, FliEvent.handle_other packet hosts s, follows⟩

/-- A turn of the monitor thread. -/
theorem monitor (ok : Translatable (hosts.flatMap HostBuffer.sglist))
    (ids : (hosts.map HostBuffer.bufferId).Nodup) (follows : Follows hosts number t s)
    (maxPacket : ℕ) {t' : BusHost} (taken : (busSystem maxPacket).step t .monitor = some t') :
    ∃ s', s.monitor hosts = some s' ∧ Follows hosts number t' s' := by
  obtain ⟨packets, memory, reads, completions⟩ := t
  cases packets with
  | nil =>
      cases taken
      have empty : s.toHost = [] := follows.packets
      refine ⟨s, ?_, follows⟩
      rw [SimHost.monitor, empty]
      rfl
  | cons m rest =>
      cases taken
      obtain ⟨here, later⟩ := List.forall_mem_cons.mp follows.arrive
      have words : s.toHost =
          Flisock.sent m.1 m.2 ++ rest.flatMap fun m => Flisock.sent m.1 m.2 :=
        follows.packets.trans List.flatMap_cons
      have turn := (BarImplSim.sockMonitorTurn_sent takeWord_consumes m.1 m.2).run_list
        (rest.flatMap fun m => Flisock.sent m.1 m.2)
      have read : Follows hosts number ⟨rest, memory, reads, completions⟩
          { s with toHost := rest.flatMap fun m => Flisock.sent m.1 m.2 } :=
        ⟨rfl, later, follows.memory, follows.reads, follows.completions, follows.fits⟩
      obtain ⟨s', handled, ends⟩ := read.receive ok ids here
      refine ⟨s', ?_, ends⟩
      rw [SimHost.monitor, words, turn]
      exact handled

/-- The words of a completion are those of the memory. -/
theorem copied (follows : Follows hosts number t s)
    (ok : Translatable (hosts.flatMap HostBuffer.sglist)) {r : BusRead} {q : Word64 × PipedReq}
    {h : HostBuffer} {o : ℕ} {d : DeviceRequest} (serves : Serves hosts r q h o d) {count : ℕ}
    (within : r.answered + 4 * count ≤ r.length) :
    d.wordsFrom (fun a => (s.contents q.1).load32 a.toNat) r.answered count =
      (List.range count).map fun i => (t.bytesFrom r.addr).load32 (r.answered + 4 * i) := by
  unfold DeviceRequest.wordsFrom
  refine List.map_congr_left fun i member => ?_
  have inside := List.mem_range.mp member
  have byte (k : ℕ) (low : k < 4) := serves.place.bytes (r.answered + 4 * i + k) (by omega)
  have small := HostBuffer.offset_lt ok serves.place.mem (byte 3 (by omega))
  have place : (d.mem + d.offset + BitVec.ofNat 64 (r.answered + 4 * i)).toNat =
      o + (r.answered + 4 * i) := by
    have start : (0 : Word64) + BitVec.ofNat 64 o = BitVec.ofNat 64 o := BitVec.zero_add _
    rw [serves.request.mem, serves.request.offset, start, BitVec.toNat_add, BitVec.toNat_ofNat,
      BitVec.toNat_ofNat]
    omega
  simp only [place, serves.buffer]
  refine ByteMem.load32_congr fun k low => ?_
  rw [Nat.add_assoc]
  exact follows.memory h serves.place.mem _ _ (byte k low)

/-- A turn of the thread that sends the completions. -/
theorem cmplHandler (follows : Follows hosts number t s)
    (ok : Translatable (hosts.flatMap HostBuffer.sglist)) {maxPacketSize : Word32}
    (pos : 0 < maxPacketSize.toNat) (words : 4 ∣ maxPacketSize.toNat)
    (room : maxPacketSize.toNat ≤ Flisock.maxPayloadBytes) :
    Follows hosts number (t.complete maxPacketSize.toNat) (s.cmplTurn maxPacketSize) := by
  obtain ⟨packets, memory, reads, completions⟩ := t
  obtain ⟨toHost, contents, pipe, sent⟩ := s
  have related := follows.reads
  cases related with
  | nil => exact follows
  | @cons r q rest pipe serves later =>
      obtain ⟨h, o, d, serves⟩ := serves
      -- a request that has been answered leaves the pipe, else the next part is sent
      by_cases done : r.answered = r.length
      · rw [BusHost.complete, SimHost.cmplTurn]
        simp only [done, serves.done_iff.mpr done, if_true]
        exact ⟨follows.packets, follows.arrive, follows.memory, later, follows.completions,
          follows.fits⟩
      · have more : r.answered < r.length := Nat.lt_of_le_of_ne serves.answered_le done
        have asked : ¬q.2.rdreq.length = 0 := fun none => done (serves.done_iff.mp none)
        obtain ⟨count, some, size, -, copied, answered⟩ := serves.answered.turn
          (by rw [serves.request.length]; exact serves.short) (serves.aligned ok) pos words
          (by rw [serves.request.length]; exact more)
          fun a => (contents q.1).load32 a.toNat
        rw [serves.request.length] at size
        have carried := follows.copied ok serves (show r.answered + 4 * count ≤ r.length by omega)
        have told := serves.message number carried size
        have length : (d.wordsFrom (fun a => (contents q.1).load32 a.toNat) r.answered
            count).length = count := d.length_wordsFrom _ _ _
        rw [serves.request.mem] at copied
        rw [BusHost.complete, SimHost.cmplTurn]
        simp only [done, asked, if_false, copied]
        refine ⟨follows.packets, follows.arrive, follows.memory,
          .cons ⟨h, o, d, serves.place, serves.buffer, serves.short, serves.request, ?_⟩ later,
          ?_, ?_⟩
        · rw [← size]
          exact answered
        · have before : completions = sent.map (HostCall.message number) := follows.completions
          show completions ++ [_] = (sent ++ [_]).map (HostCall.message number)
          rw [List.map_append, List.map_singleton, before]
          exact congrArg (fun c => sent.map (HostCall.message number) ++ [c]) told.symm
        · intro c member
          rcases List.mem_append.mp member with before | last
          · exact follows.fits c before
          · rw [List.mem_singleton.mp last]
            have short := serves.short
            have left := serves.left
            refine ⟨by omega, by omega, ?_⟩
            rw [length]
            show count ≤ Flisock.maxPayloadBytes / 4
            omega

end Follows

theorem busSystem_total (maxPacket : ℕ) (t : BusHost) (a : DmaAction) :
    ∃ t', (busSystem maxPacket).step t a = some t' := by
  cases a with
  | device msgid event => exact ⟨_, rfl⟩
  | monitor =>
      obtain ⟨packets, memory, reads, completions⟩ := t
      cases packets with
      | nil => exact ⟨_, rfl⟩
      | cons m rest => exact ⟨_, rfl⟩
  | cmplHandler => exact ⟨_, rfl⟩

/-- The packets that the device sends are for the buffers of the host. -/
def DmaAction.Arrives (hosts : List HostBuffer) : DmaAction → Prop
  | .device _ event => event.bus.Arrives hosts
  | _ => True

/-- From a state that follows the memory behind the bus, every run follows it. -/
theorem Follows.run {hosts : List HostBuffer} {number : Word8} {t : BusHost} {s : SimHost}
    (ok : Translatable (hosts.flatMap HostBuffer.sglist))
    (ids : (hosts.map HostBuffer.bufferId).Nodup) {maxPacketSize : Word32}
    (pos : 0 < maxPacketSize.toNat) (words : 4 ∣ maxPacketSize.toNat)
    (room : maxPacketSize.toNat ≤ Flisock.maxPayloadBytes) (start : Follows hosts number t s)
    {acts : List DmaAction} (arrive : ∀ a ∈ acts, a.Arrives hosts) :
    ∃ s' t', (dmaSystem hosts maxPacketSize).run s acts = some s' ∧
      (busSystem maxPacketSize.toNat).run t acts = some t' ∧ Follows hosts number t' s' := by
  obtain ⟨t', ran⟩ := ActionSystem.exists_run (busSystem_total maxPacketSize.toNat) t acts
  obtain ⟨s', follows, ends⟩ := ActionSystem.run_follows (M := dmaSystem hosts maxPacketSize)
    (R := Follows hosts number) (fun t s a t' related allowed taken => by
      cases a with
      | device msgid event =>
          cases taken
          exact ⟨_, rfl, related.device msgid allowed⟩
      | monitor => exact related.monitor ok ids maxPacketSize.toNat taken
      | cmplHandler =>
          cases taken
          exact ⟨_, rfl, related.cmplHandler ok pos words room⟩) arrive start ran
  exact ⟨s', t', follows, ran, ends⟩

/-- **Simulated DMA is DMA.** In whatever order the device sends packets for the
buffers of the host and the two threads act, no thread aborts, the buffers have
what a memory behind the bus has, and the completions are those of this memory,
as the simulator will read them. -/
theorem simulated_dma_refines {hosts : List HostBuffer}
    (ok : Translatable (hosts.flatMap HostBuffer.sglist))
    (ids : (hosts.map HostBuffer.bufferId).Nodup) (number : Word8) {maxPacketSize : Word32}
    (pos : 0 < maxPacketSize.toNat) (words : 4 ∣ maxPacketSize.toNat)
    (room : maxPacketSize.toNat ≤ Flisock.maxPayloadBytes) {acts : List DmaAction}
    (arrive : ∀ a ∈ acts, a.Arrives hosts) {memory : Word64 → Word8}
    {contents : Word64 → ByteMem} (mirrors : Mirrors hosts memory contents) :
    ∃ s t, (dmaSystem hosts maxPacketSize).run ⟨[], contents, [], []⟩ acts = some s ∧
      (busSystem maxPacketSize.toNat).run ⟨[], memory, [], []⟩ acts = some t ∧
      Mirrors hosts t.memory s.contents ∧
      s.sent.map (HostCall.message number) = t.completions ∧
      ∀ (messages : List HostMessage) (fli : FliState), messages.map HostMessage.call = s.sent →
        ∃ states, (Flisock.sockreaders (messages.map HostMessage.time) fli).run
            (messages.flatMap fun m => BarImplSim.sent number m.msgid m.call) =
              some (states, []) ∧
          List.Forall₂ (fun m fli => fli.Presents m.time m.msgid (m.call.message number))
            messages states := by
  have start : Follows hosts number ⟨[], memory, [], []⟩ ⟨[], contents, [], []⟩ :=
    ⟨rfl, fun _ none => absurd none List.not_mem_nil, mirrors, .nil, rfl,
      fun _ none => absurd none List.not_mem_nil⟩
  obtain ⟨s, t, follows, ran, ends⟩ := start.run ok ids pos words room arrive
  refine ⟨s, t, follows, ran, ends.memory, ends.completions.symm, ?_⟩
  intro messages fli calls
  have fits : ∀ m ∈ messages, m.call.Fits := fun m member =>
    ends.fits m.call (calls ▸ List.mem_map_of_mem member)
  obtain ⟨states, reads, presented⟩ := sockreaders_sent number fli messages fits
  have run := reads.run_list []
  rw [List.append_nil] at run
  exact ⟨states, run, presented⟩

theorem twoSegments_translatable : Translatable ([twoSegments].flatMap HostBuffer.sglist) where
  noWrap := by decide
  disjoint := by
    show List.Pairwise _ [(⟨0x1000, 8⟩ : ScatterGatherEntry), ⟨0x2000, 8⟩]
    simp only [ScatterGatherEntry.Covers, List.pairwise_cons, List.forall_mem_cons]
    simp
    omega

theorem twoSegments_second : InBuffer [twoSegments] 0x2000 8 twoSegments 8 :=
  ⟨List.mem_singleton_self _, by decide, by decide, by decide⟩

/-- Two words are written to the second segment of a buffer and read back. -/
def writeThenRead : List DmaAction :=
  [.device 1 (.mwr64 ⟨0x200000000, 0x2000⟩ [0x11223344, 0x55667788] rfl), .monitor,
    .device 2 (.mrd64 ⟨0x201000300, 0x2000⟩), .monitor, .cmplHandler]

theorem simulated_dma_refines_writeThenRead :
    ∃ s, (dmaSystem [twoSegments] 128).run ⟨[], fun _ _ => 0, [], []⟩ writeThenRead = some s ∧
      s.sent.map (HostCall.message 1) = [.completion 0x100 8 3 0 [0x11223344, 0x55667788]] := by
  have arrive : ∀ a ∈ writeThenRead, a.Arrives [twoSegments] := by
    intro a member
    simp only [writeThenRead, List.mem_cons, List.not_mem_nil, or_false] at member
    rcases member with rfl | rfl | rfl | rfl | rfl
    · exact ⟨twoSegments, 8, twoSegments_second⟩
    · trivial
    · exact ⟨twoSegments, 8, twoSegments_second⟩
    · trivial
    · trivial
  have mirrors : Mirrors [twoSegments] (fun _ => 0) fun _ _ => 0 := fun _ _ _ _ _ => rfl
  obtain ⟨s, t, follows, ran, -, sent, -⟩ := simulated_dma_refines twoSegments_translatable
    (List.nodup_singleton _) 1 (show 0 < (128 : Word32).toNat by decide) (by decide) (by decide)
    arrive mirrors
  refine ⟨s, follows, sent.trans ?_⟩
  have done : ((busSystem (128 : Word32).toNat).run ⟨[], fun _ => 0, [], []⟩ writeThenRead).map
      BusHost.completions = some [.completion 0x100 8 3 0 [0x11223344, 0x55667788]] := rfl
  rw [ran] at done
  exact Option.some.inj done

end Librorc
