import Librorc.Dma.Device
import Librorc.Lib.BitField

/-!
# The simulation wire protocol: what is sent

The host library and the simulator's FLI module exchange messages of 32-bit
words over a socket. Both programs keep their own command constants; every
message is composed here as the sending program composes it.
-/

namespace Librorc

open Librorc.Lib

/-! ## Commands -/

/-- `[msgsize, cmd]`. -/
def messageHeader (msgsize : Word32) (cmd : Word16) : Word32 :=
  (msgsize <<< 16) + cmd.setWidth 32

namespace BarImplSim

/-! `CMD_*` of `bar_impl_sim.hh`. -/

def cmdReadFromDevice : Word16 := 1
def cmdWriteToDevice : Word16 := 2
def cmdGetTime : Word16 := 3
def cmdCmplToDevice : Word16 := 4
def cmdReadFromHost : Word16 := 5
def cmdWriteToHost : Word16 := 6
def cmdCmplToHost : Word16 := 7
def cmdAckTime : Word16 := 8
def cmdAckWrite : Word16 := 9
def cmdAckCmpl : Word16 := 10

end BarImplSim

namespace Flisock

/-! `CMD_*` of `flisock.h`. -/

def cmdReadFromDevice : Word16 := 1
def cmdWriteToDevice : Word16 := 2
def cmdGetTime : Word16 := 3
def cmdCmplToDevice : Word16 := 4
def cmdReadFromHost : Word16 := 5
def cmdWriteToHost : Word16 := 6
def cmdCmplToHost : Word16 := 7
def cmdAckTime : Word16 := 8
def cmdAckWrite : Word16 := 9
def cmdAckCmpl : Word16 := 10

/-- `ADDR_OFFSET`. -/
def addrOffset : Word32 := 0xfa000000

/-- `MAX_PAYLOAD_BYTES`. -/
def maxPayloadBytes : Nat := 512

end Flisock

/-! ## Messages of the host -/

/-- The part of a `t_read_req` that goes over the wire. -/
structure ReadReq where
  length : Word16
  tag : Word8
  lowerAddr : Word8
  byteEnable : Word8
  requesterId : Word32
deriving DecidableEq

/-- The calls that make the host send a message, with what they send. -/
inductive HostCall
  | memcopy (target : Word64) (source : List Word32)
  | get32 (address : Word64)
  | get16 (address : Word64)
  | set32 (address : Word64) (data : Word32)
  | set16 (address : Word64) (data : Word16)
  | gettime
  /-- One turn of `cmplHandler`: `payload` is what `memcpy` takes from the
  buffer. -/
  | completion (rdreq : ReadReq) (payload : List Word32)

namespace BarImplSim

/-- `{BAR, BE, length}`. -/
def deviceParams (number : Word8) (byteEnable length : Word32) : Word32 :=
  (number.setWidth 32 <<< 24) + (byteEnable <<< 16) + length

/-- Byte enable of a 16-bit access. -/
def narrowEnable (address : Word64) : Word32 := if address &&& 1 ≠ 0 then 0x0c else 0x03

/-- Byte address of a 16-bit access. -/
def narrowAddr (address : Word64) : Word32 := ((address <<< 1) &&& ~~~3#64).setWidth 32

/-- `{cmpl_status, remaining byte count, tag, lower address}`. -/
def completionParams (rdreq : ReadReq) : Word32 :=
  ((0 : Word32) <<< 29) + (rdreq.length.setWidth 32 <<< 16) + (rdreq.tag.setWidth 32 <<< 8) +
    rdreq.lowerAddr.setWidth 32

/-- What is written to the socket on a BAR with number `number`. -/
def sent (number : Word8) (msgid : Word32) : HostCall → List Word32
  | .memcopy target source =>
      let ndw := BitVec.ofNat 32 source.length
      messageHeader (ndw + 4) cmdWriteToDevice :: msgid :: (target <<< 2).setWidth 32 ::
        deviceParams number (if 1 < source.length then 0xff else 0x0f) ndw :: source
  | .get32 address =>
      [messageHeader 4 cmdReadFromDevice, msgid, (address <<< 2).setWidth 32,
        deviceParams number 0x0f 1]
  | .get16 address =>
      [messageHeader 4 cmdReadFromDevice, msgid, narrowAddr address,
        deviceParams number (narrowEnable address) 1]
  | .set32 address data =>
      [messageHeader 5 cmdWriteToDevice, msgid, (address <<< 2).setWidth 32,
        deviceParams number 0x0f 1, data]
  | .set16 address data =>
      [messageHeader 5 cmdWriteToDevice, msgid, narrowAddr address,
        deviceParams number (narrowEnable address) 1, (data.setWidth 32 <<< 16) + data.setWidth 32]
  | .gettime => [messageHeader 2 cmdGetTime, msgid]
  | .completion rdreq payload =>
      let buffersize := BitVec.ofNat 32 (16 + 4 * payload.length)
      messageHeader (buffersize >>> 2) cmdCmplToDevice :: msgid :: rdreq.requesterId ::
        completionParams rdreq :: payload

end BarImplSim

/-! ## Messages of the simulator -/

/-- The first beat of a TRN packet: `trn_td[127:64]` and `trn_td[63:0]`. -/
structure TrnHeader where
  high : Word64
  low : Word64

namespace TrnHeader

/-- `rx_ndw`, from `td[41:32]`. -/
def rxNdw (h : TrnHeader) : Word32 := ((h.high >>> 32) &&& 0x3ff).setWidth 32

end TrnHeader

/-- The byte order of a TRN word turned round. -/
def byteReorder (qw : Word64) : Word64 :=
  (List.range 8).foldl (fun ret i => ret + (((qw >>> (8 * i)) &&& 0xff) <<< (56 - 8 * i))) 0

/-- What makes the simulator send a message. The packets that are collected
over several beats have been collected: `payload` is what they carry behind the
header beat. A packet whose length is not that of its header is not sent. -/
inductive FliEvent
  | mwr64 (h : TrnHeader) (payload : List Word32) (complete : payload.length = h.rxNdw.toNat)
  | mwr32 (h : TrnHeader) (payload : List Word32) (complete : payload.length + 1 = h.rxNdw.toNat)
  | mrd64 (h : TrnHeader)
  | mrd32 (h : TrnHeader)
  | cmplD (h : TrnHeader)
  /-- The answer to `CMD_GET_TIME`. -/
  | ackTime (time : Word64)
  | ackWrite
  | ackCmpl

namespace Flisock

/-- The first data word, when it comes in the header beat. -/
def firstWord (h : TrnHeader) : Word32 := (byteReorder h.low >>> 32).setWidth 32

/-- `{requester ID}` and `{length, tag, byte enable}` of a read request. -/
def readParams (h : TrnHeader) : List Word32 :=
  [((h.high >>> 16) &&& 0xffff).setWidth 32, (h.rxNdw <<< 16) + (h.high &&& 0xffff).setWidth 32]

/-- The words sent to the host. -/
def sent (msgid : Word32) : FliEvent → List Word32
  | .mwr64 h payload _ =>
      messageHeader (h.rxNdw + 4) cmdWriteToHost :: msgid :: (h.low >>> 32).setWidth 32 ::
        (h.low &&& 0xffffffff).setWidth 32 :: payload
  | .mwr32 h payload _ =>
      messageHeader (h.rxNdw + 4) cmdWriteToHost :: msgid :: 0 :: (h.low >>> 32).setWidth 32 ::
        firstWord h :: payload
  | .mrd64 h =>
      messageHeader 6 cmdReadFromHost :: msgid :: (h.low >>> 32).setWidth 32 ::
        (h.low &&& 0xffffffff).setWidth 32 :: readParams h
  | .mrd32 h =>
      messageHeader 6 cmdReadFromHost :: msgid :: 0 ::
        ((h.low >>> 32) &&& 0xffffffff).setWidth 32 :: readParams h
  | .cmplD h =>
      [messageHeader 4 cmdCmplToHost, msgid,
        (((h.high &&& 0xffff) <<< 16) + ((h.low >>> 32) &&& 0xffff)).setWidth 32,
        firstWord h]
  | .ackTime time =>
      [messageHeader 4 cmdAckTime, msgid, ((time >>> 32) &&& 0xffffffff).setWidth 32,
        (time &&& 0xffffffff).setWidth 32]
  | .ackWrite => [messageHeader 2 cmdAckWrite, msgid]
  | .ackCmpl => [messageHeader 2 cmdAckCmpl, msgid]

end Flisock

/-! ## Headers -/

/-- Both halves of a header can be read back. -/
theorem messageHeader_fields {msgsize : Word32} (fits : msgsize.toNat < 65536) (cmd : Word16) :
    (messageHeader msgsize cmd &&& 0xffff).setWidth 16 = cmd ∧
      ((messageHeader msgsize cmd >>> 16) &&& 0xffff).setWidth 16 = msgsize.setWidth 16 := by
  have low := cmd.isLt
  have value : (messageHeader msgsize cmd).toNat = msgsize.toNat * 65536 + cmd.toNat := by
    unfold messageHeader
    rw [BitVec.toNat_add, BitVec.toNat_shiftLeft, BitVec.toNat_setWidth, Nat.shiftLeft_eq]
    omega
  refine ⟨setWidth_low_eq 16 (by omega) ?_, setWidth_field_eq 16 16 (by omega) ?_⟩
  · rw [value]
    omega
  · rw [value, BitVec.toNat_setWidth]
    omega

theorem messageHeader_ne_zero {msgsize : Word32} (fits : msgsize.toNat < 65536) {cmd : Word16}
    (command : cmd ≠ 0) : messageHeader msgsize cmd ≠ 0 := by
  intro zero
  have kind := (messageHeader_fields fits cmd).1
  rw [zero] at kind
  exact command (kind.symm.trans (by decide))

end Librorc
