import Librorc.Lib.Reader
import Librorc.Sim.Protocol

/-!
# `flisock.c`: `sockreader`

One call of `sockreader` takes one message from the socket, drives the signals
of the simulated device and raises the enable of the request. `Presents` says
what the device then sees.
-/

namespace Librorc

open Librorc.Lib

/-- The entries of `ip->pWrData`. -/
def pWrDataSize : Nat := Flisock.maxPayloadBytes / 4

/-- The signals `sockreader` drives, and the globals `msgid` and
`trn_rd_busy`. -/
structure FliState where
  msgid : Word32
  trnRdBusy : Bool
  rdEn : Bool
  wrEn : Bool
  cmplEn : Bool
  id : Word32
  addr : Word32
  /-- The argument of `set_bar`. -/
  bar : Word8
  byteEnable : Word8
  tag : Word8
  wrLen : BitVec 10
  pWrData : Nat → Word32
  /-- An entry behind the end of `pWrData` has been driven. -/
  overrun : Bool
  cmplStatus : BitVec 3
  bytecount : BitVec 12
  lowerAddr : BitVec 7
  requesterId : Word16
  /-- What the call has sent back. -/
  reply : List Word32

namespace FliState

variable (s : FliState)

/-- `set_slv` on `pWrData[i]`. -/
def setPWrData (i : Nat) (w : Word32) : FliState :=
  if i < pWrDataSize then { s with pWrData := Function.update s.pWrData i w }
  -- behind the end of the array
  else { s with overrun := true }

/-- The request has been served: `done_monitor` and `trn_monitor` take back the
enable. -/
def served : FliState :=
  { s with
    trnRdBusy := false, rdEn := false, wrEn := false, cmplEn := false, overrun := false,
    reply := [] }

/-- Address, byte enable, tag and BAR of a request. -/
def driveRequest (addr param : Word32) : FliState :=
  { s with
    addr := addr + Flisock.addrOffset
    byteEnable := ((param >>> 16) &&& 0xff).setWidth 8
    tag := (s.msgid &&& 0xff).setWidth 8
    bar := ((param >>> 24) &&& 0xff).setWidth 8 }

/-- The header of a completion. -/
def driveCompletion (requesterId param : Word32) (msgsize : Word16) : FliState :=
  { s with
    cmplStatus := ((param >>> 29) &&& 0x7).setWidth 3
    bytecount := ((param >>> 16) &&& 0xfff).setWidth 12
    tag := ((param >>> 8) &&& 0xff).setWidth 8
    lowerAddr := (param &&& 0x7f).setWidth 7
    wrLen := (msgsize - 4).setWidth 10
    requesterId := requesterId.setWidth 16 }

/-- The payload the device sees. -/
def payload : List Word32 := (List.range s.wrLen.toNat).map s.pWrData

end FliState

namespace Flisock

variable {σ : Type} (readDWfromSock : StateT σ Option Word32)

/-- The loop over the payload. -/
def drivePayload : Nat → Nat → FliState → StateT σ Option FliState
  | 0, _, s => pure s
  | left + 1, i, s => do
      let tmpvar ← readDWfromSock
      drivePayload left (i + 1) (s.setPWrData i tmpvar)

/-- `CMD_READ_FROM_DEVICE`. -/
def readFromDevice (s : FliState) : StateT σ Option FliState := do
  let addr ← readDWfromSock
  let param ← readDWfromSock
  pure { s.driveRequest addr param with rdEn := true, trnRdBusy := true }

/-- `CMD_WRITE_TO_DEVICE`. -/
def writeToDevice (msgsize : Word16) (s : FliState) : StateT σ Option FliState := do
  let addr ← readDWfromSock
  let param ← readDWfromSock
  let s ← drivePayload readDWfromSock (msgsize - 4).toNat 0
    { s.driveRequest addr param with id := s.msgid }
  pure { s with wrEn := true, wrLen := (param &&& 0xffff).setWidth 10, trnRdBusy := true }

/-- `CMD_CMPL_TO_DEVICE`. -/
def cmplToDevice (msgsize : Word16) (s : FliState) : StateT σ Option FliState := do
  let requesterId ← readDWfromSock
  let param ← readDWfromSock
  let s ← drivePayload readDWfromSock (msgsize - 4).toNat 0
    (s.driveCompletion requesterId param msgsize)
  pure { s with cmplEn := true, trnRdBusy := true }

/-- The `switch` over the command. A message size that does not suit the command
is reported and makes no other difference. -/
def command (time : Word64) (cmd msgsize : Word16) (s : FliState) : StateT σ Option FliState :=
  if cmd = cmdReadFromDevice then readFromDevice readDWfromSock s
  else if cmd = cmdWriteToDevice then writeToDevice readDWfromSock msgsize s
  else if cmd = cmdGetTime then pure { s with reply := sent s.msgid (.ackTime time) }
  else if cmd = cmdCmplToDevice then cmplToDevice readDWfromSock msgsize s
  else pure s

/-- `sockreader` at a rising clock edge, with `time` the simulation time. -/
def sockreader (time : Word64) (s : FliState) : StateT σ Option FliState :=
  -- the request before has not been served yet
  if s.trnRdBusy then pure s
  else do
    let tmpvar ← readDWfromSock
    let cmd := (tmpvar &&& 0xffff).setWidth 16
    let msgsize := ((tmpvar >>> 16) &&& 0xffff).setWidth 16
    let msgid ← readDWfromSock
    command readDWfromSock time cmd msgsize { s with msgid := msgid, id := msgid }

end Flisock

/-! ## What the device is told -/

/-- A request to the simulated device. -/
inductive DeviceMessage
  | read (addr : Nat) (bar byteEnable : Word8)
  | write (addr : Nat) (bar byteEnable : Word8) (payload : List Word32)
  | getTime
  | completion (requesterId : Word16) (byteCount : Nat) (tag : Word8) (lowerAddr : BitVec 7)
      (payload : List Word32)

/-- `rd_en`, `wr_en` and `cmpl_en`. -/
def FliState.enables (s : FliState) : Bool × Bool × Bool := (s.rdEn, s.wrEn, s.cmplEn)

/-- The device sees this request with this message ID, and no other, and nothing
has been overwritten. -/
def FliState.Presents (time : Word64) (s : FliState) (msgid : Word32) : DeviceMessage → Prop
  | .read addr bar byteEnable =>
      s.enables = (true, false, false) ∧ s.overrun = false ∧ s.reply = [] ∧ s.id = msgid ∧
        s.tag = msgid.setWidth 8 ∧ (s.addr - Flisock.addrOffset).toNat = addr ∧ s.bar = bar ∧
        s.byteEnable = byteEnable
  | .write addr bar byteEnable payload =>
      s.enables = (false, true, false) ∧ s.overrun = false ∧ s.reply = [] ∧ s.id = msgid ∧
        s.tag = msgid.setWidth 8 ∧ (s.addr - Flisock.addrOffset).toNat = addr ∧ s.bar = bar ∧
        s.byteEnable = byteEnable ∧ s.payload = payload
  | .getTime =>
      s.enables = (false, false, false) ∧ s.overrun = false ∧
        s.reply = Flisock.sent msgid (.ackTime time) ∧ s.id = msgid
  | .completion requesterId byteCount tag lowerAddr payload =>
      s.enables = (false, false, true) ∧ s.overrun = false ∧ s.reply = [] ∧ s.id = msgid ∧
        s.cmplStatus = 0 ∧ s.requesterId = requesterId ∧ s.bytecount.toNat = byteCount ∧
        s.tag = tag ∧ s.lowerAddr = lowerAddr ∧ s.payload = payload

namespace HostCall

/-- What a call asks of the device. Addresses are in bytes; the second 16-bit
half of a word has the upper byte enables. -/
def message (number : Word8) : HostCall → DeviceMessage
  | .memcopy target source =>
      .write (4 * target.toNat) number (if 1 < source.length then 0xff else 0x0f) source
  | .get32 address => .read (4 * address.toNat) number 0x0f
  | .get16 address =>
      .read (4 * (address.toNat / 2)) number (if address.toNat % 2 = 1 then 0x0c else 0x03)
  | .set32 address data => .write (4 * address.toNat) number 0x0f [data]
  | .set16 address data =>
      .write (4 * (address.toNat / 2)) number (if address.toNat % 2 = 1 then 0x0c else 0x03)
        [data ++ data]
  | .gettime => .getTime
  | .completion rdreq payload =>
      .completion (rdreq.requesterId.setWidth 16) rdreq.length.toNat rdreq.tag
        (rdreq.lowerAddr.setWidth 7) payload

/-- The address is one of the first 2^32 bytes, and the payload has from one to
128 words. The remaining byte count of a completion is one the simulator can
have asked for. -/
def Fits : HostCall → Prop
  | .memcopy target source =>
      4 * target.toNat < 2 ^ 32 ∧ 0 < source.length ∧ source.length ≤ pWrDataSize
  | .get32 address | .set32 address _ => 4 * address.toNat < 2 ^ 32
  | .get16 address | .set16 address _ => 2 * address.toNat < 2 ^ 32
  | .gettime => True
  | .completion rdreq payload =>
      rdreq.length.toNat < 4096 ∧ 0 < payload.length ∧ payload.length ≤ pWrDataSize

end HostCall

/-! ## What is packed -/

/-- `msgid & 0xff`. -/
theorem tag_of_msgid (msgid : Word32) :
    (msgid &&& 0xff).setWidth 8 = (msgid.setWidth 8 : Word8) := by
  refine setWidth_low_eq 8 (by omega) ?_
  rw [BitVec.toNat_setWidth, Nat.mod_mod]

namespace BarImplSim

theorem deviceParams_fields (number : Word8) {byteEnable length : Word32}
    (enable : byteEnable.toNat < 256) (short : length.toNat < 65536) :
    ((deviceParams number byteEnable length >>> 24) &&& 0xff).setWidth 8 = number ∧
      ((deviceParams number byteEnable length >>> 16) &&& 0xff).setWidth 8 =
        (byteEnable.setWidth 8 : Word8) ∧
      (deviceParams number byteEnable length &&& 0xffff).setWidth 10 =
        (length.setWidth 10 : BitVec 10) := by
  have bar := number.isLt
  have value : (deviceParams number byteEnable length).toNat =
      number.toNat * 2 ^ 24 + byteEnable.toNat * 2 ^ 16 + length.toNat := by
    unfold deviceParams
    rw [BitVec.toNat_add, BitVec.toNat_add, BitVec.toNat_shiftLeft, BitVec.toNat_shiftLeft,
      BitVec.toNat_setWidth, Nat.shiftLeft_eq, Nat.shiftLeft_eq]
    omega
  refine ⟨setWidth_field_eq 24 8 (by omega) ?_, setWidth_field_eq 16 8 (by omega) ?_,
    setWidth_low_eq 16 (by omega) ?_⟩
  · rw [value]
    omega
  · rw [value, BitVec.toNat_setWidth]
    omega
  · rw [value, BitVec.toNat_setWidth]
    omega

/-- The byte address of a 32-bit access. -/
theorem wordAddr_toNat {address : Word64} (below : 4 * address.toNat < 2 ^ 32) :
    ((address <<< 2).setWidth 32 : Word32).toNat = 4 * address.toNat := by
  rw [BitVec.toNat_setWidth, BitVec.toNat_shiftLeft, Nat.shiftLeft_eq]
  omega

/-- The byte address of a 16-bit access is that of its word. -/
theorem narrowAddr_toNat {address : Word64} (below : 2 * address.toNat < 2 ^ 32) :
    (narrowAddr address).toNat = 4 * (address.toNat / 2) := by
  have rounded : (address <<< 1) &&& ~~~3#64 = (address <<< 1) >>> 2 <<< 2 :=
    (BitVec.shiftLeft_ushiftRight (n := 2)).symm
  unfold narrowAddr
  rw [rounded, BitVec.toNat_setWidth, BitVec.toNat_shiftLeft, BitVec.toNat_ushiftRight,
    BitVec.toNat_shiftLeft, Nat.shiftLeft_eq, Nat.shiftLeft_eq, Nat.shiftRight_eq_div_pow]
  omega

theorem narrowEnable_eq (address : Word64) :
    (narrowEnable address).toNat < 256 ∧
      (narrowEnable address).setWidth 8 =
        if address.toNat % 2 = 1 then (0x0c : Word8) else 0x03 := by
  have odd : address &&& 1 ≠ 0 ↔ address.toNat % 2 = 1 := by
    have low : (address &&& 1).toNat = address.toNat % 2 ^ 1 :=
      @toNat_and_low 64 address 1 (by omega)
    rw [Ne, ← BitVec.toNat_inj, low]
    exact Nat.mod_two_ne_zero
  unfold narrowEnable
  simp only [odd]
  split <;> decide

/-- A 16-bit value in both halves of a word. -/
theorem twice_eq (data : Word16) :
    (data.setWidth 32 <<< 16) + data.setWidth 32 = (data ++ data : Word32) := by
  have bound := data.isLt
  apply BitVec.eq_of_toNat_eq
  rw [BitVec.toNat_add, BitVec.toNat_shiftLeft, BitVec.toNat_setWidth, BitVec.toNat_append,
    ← Nat.shiftLeft_add_eq_or_of_lt bound, Nat.shiftLeft_eq, Nat.shiftLeft_eq]
  omega

/-- The header of a completion of `n` words counts `n + 4` words. -/
theorem completion_msgsize {payload : List Word32} (room : payload.length < 2 ^ 28) :
    BitVec.ofNat 32 (16 + 4 * payload.length) >>> 2 = BitVec.ofNat 32 payload.length + 4 := by
  apply BitVec.eq_of_toNat_eq
  rw [BitVec.toNat_ushiftRight, Nat.shiftRight_eq_div_pow]
  bv_omega

theorem completionParams_fields (rdreq : ReadReq) (short : rdreq.length.toNat < 4096) :
    ((completionParams rdreq >>> 29) &&& 0x7).setWidth 3 = (0 : BitVec 3) ∧
      (((completionParams rdreq >>> 16) &&& 0xfff).setWidth 12 : BitVec 12).toNat =
        rdreq.length.toNat ∧
      ((completionParams rdreq >>> 8) &&& 0xff).setWidth 8 = rdreq.tag ∧
      (completionParams rdreq &&& 0x7f).setWidth 7 =
        (rdreq.lowerAddr.setWidth 7 : BitVec 7) := by
  have tag := rdreq.tag.isLt
  have lower := rdreq.lowerAddr.isLt
  have value : (completionParams rdreq).toNat =
      rdreq.length.toNat * 2 ^ 16 + rdreq.tag.toNat * 2 ^ 8 + rdreq.lowerAddr.toNat := by
    have status : ((0 : Word32) <<< 29).toNat = 0 := by decide
    unfold completionParams
    rw [BitVec.toNat_add, BitVec.toNat_add, BitVec.toNat_add, status, BitVec.toNat_shiftLeft,
      BitVec.toNat_shiftLeft, BitVec.toNat_setWidth, BitVec.toNat_setWidth, BitVec.toNat_setWidth,
      Nat.shiftLeft_eq, Nat.shiftLeft_eq]
    omega
  have count := @toNat_field 32 (completionParams rdreq) 16 12 (by omega)
  refine ⟨setWidth_field_eq 29 3 (by omega) ?_, ?_, setWidth_field_eq 8 8 (by omega) ?_,
    setWidth_low_eq 7 (by omega) ?_⟩
  · rw [value]
    exact Nat.mod_eq_zero_of_dvd (by omega)
  · rw [BitVec.toNat_setWidth]
    refine (congrArg (· % 2 ^ 12) count).trans ?_
    rw [value]
    omega
  · rw [value]
    omega
  · rw [value, BitVec.toNat_setWidth]
    omega

end BarImplSim

/-! ## The payload -/

namespace FliState

/-- `set_slv` on one entry of `pWrData` after the other. -/
def drive : FliState → Nat → List Word32 → FliState
  | s, _, [] => s
  | s, i, w :: words => (s.setPWrData i w).drive (i + 1) words

/-- Only the entries `i..` change while there is room. -/
theorem drive_of_fits (s : FliState) (words : List Word32) (i : Nat)
    (room : i + words.length ≤ pWrDataSize) :
    ∃ data, s.drive i words = { s with pWrData := data } ∧ (∀ j < i, data j = s.pWrData j) ∧
      (List.range words.length).map (fun j => data (i + j)) = words := by
  induction words generalizing s i with
  | nil => exact ⟨s.pWrData, rfl, fun _ _ => rfl, rfl⟩
  | cons w words ih =>
      rw [List.length_cons] at room
      have here : s.setPWrData i w = { s with pWrData := Function.update s.pWrData i w } :=
        if_pos (by omega)
      obtain ⟨data, driven, before, behind⟩ := ih (s.setPWrData i w) (i + 1) (by omega)
      rw [here] at driven before
      refine ⟨data, ?_, ?_, ?_⟩
      · rw [drive, here, driven]
      · intro j earlier
        rw [before j (by omega)]
        exact Function.update_of_ne (Nat.ne_of_lt earlier) _ _
      · have first : data i = w := by
          rw [before i (by omega)]
          exact Function.update_self _ _ _
        have shift : (fun j => data (i + Nat.succ j)) = fun j => data (i + 1 + j) := by
          funext j
          congr 1
          omega
        rw [List.length_cons, List.range_succ_eq_map, List.map_cons, List.map_map]
        exact congrArg₂ List.cons first ((congrArg (List.map · _) shift).trans behind)

theorem setPWrData_overrun (s : FliState) (i : Nat) (w : Word32) (late : s.overrun = true) :
    (s.setPWrData i w).overrun = true := by
  unfold setPWrData
  split
  · exact late
  · rfl

theorem drive_overrun (s : FliState) (words : List Word32) (i : Nat) (late : s.overrun = true) :
    (s.drive i words).overrun = true := by
  induction words generalizing s i with
  | nil => exact late
  | cons w words ih => exact ih _ (i + 1) (s.setPWrData_overrun i w late)

/-- A payload that does not fit is driven behind the end. -/
theorem drive_overruns (s : FliState) (words : List Word32) (i : Nat) (inside : i ≤ pWrDataSize)
    (long : pWrDataSize < i + words.length) : (s.drive i words).overrun = true := by
  induction words generalizing s i with
  | nil => exact absurd long (Nat.not_lt.mpr inside)
  | cons w words ih =>
      rw [List.length_cons] at long
      by_cases last : i = pWrDataSize
      · refine drive_overrun _ words (i + 1) ?_
        unfold setPWrData
        rw [if_neg (by omega)]
      · exact ih _ (i + 1) (by omega) (by omega)

end FliState

section
variable {σ : Type} {Shows : σ → List Word32 → Prop} {readDWfromSock : StateT σ Option Word32}

namespace Flisock

theorem drivePayload_consumes (one : ∀ w, Consumes Shows readDWfromSock [w] w) {n : Nat}
    {words : List Word32} (count : n = words.length) (i : Nat) (s : FliState) :
    Consumes Shows (drivePayload readDWfromSock n i s) words (s.drive i words) := by
  subst count
  induction words generalizing s i with
  | nil => exact Consumes.pure s
  | cons w words ih => exact (one w).cons (ih (i + 1) (s.setPWrData i w))

/-- A payload there is room for is what the device sees. -/
theorem drivePayload_shows (one : ∀ w, Consumes Shows readDWfromSock [w] w) {n : Nat}
    {payload : List Word32} (count : n = payload.length) (room : payload.length ≤ pWrDataSize)
    (s : FliState) :
    ∃ data, Consumes Shows (drivePayload readDWfromSock n 0 s) payload { s with pWrData := data } ∧
      (List.range payload.length).map data = payload := by
  obtain ⟨data, driven, -, shown⟩ := s.drive_of_fits payload 0 (by omega)
  have loop := drivePayload_consumes one count 0 s
  rw [driven] at loop
  refine ⟨data, loop, ?_⟩
  simpa only [Nat.zero_add] using shown

/-- Header and message ID, and then what the command reads. -/
theorem sockreader_of_command (one : ∀ w, Consumes Shows readDWfromSock [w] w) {time : Word64}
    {s s' : FliState} {msgsize msgid : Word32} {cmd : Word16} {words : List Word32}
    (fits : msgsize.toNat < 65536)
    (body : Consumes Shows (command readDWfromSock time cmd (msgsize.setWidth 16)
      { s.served with msgid := msgid, id := msgid }) words s') :
    Consumes Shows (sockreader readDWfromSock time s.served)
      (messageHeader msgsize cmd :: msgid :: words) s' := by
  obtain ⟨kind, size⟩ := messageHeader_fields fits cmd
  refine (one _).cons ((one msgid).cons ?_)
  rw [kind, size]
  exact body

/-- A read request, whatever call it comes from. -/
theorem sockreader_read (one : ∀ w, Consumes Shows readDWfromSock [w] w) (time : Word64)
    (s : FliState) (msgid addr : Word32) (number : Word8) {byteEnable : Word32}
    (enable : byteEnable.toNat < 256) :
    ∃ s', Consumes Shows (sockreader readDWfromSock time s.served)
        [messageHeader 4 cmdReadFromDevice, msgid, addr,
          BarImplSim.deviceParams number byteEnable 1] s' ∧
      s'.Presents time msgid (.read addr.toNat number (byteEnable.setWidth 8)) := by
  obtain ⟨bar, be, -⟩ := BarImplSim.deviceParams_fields number enable
    (show (1 : Word32).toNat < 65536 by decide)
  refine ⟨_, sockreader_of_command one (by decide) ((one addr).cons ((one _).map _)),
    rfl, rfl, rfl, rfl, tag_of_msgid msgid, ?_, bar, be⟩
  exact congrArg BitVec.toNat (BitVec.add_sub_cancel addr addrOffset)

/-- The header counts itself, the message ID and two more words. -/
theorem msgsize_toNat {payload : List Word32} (room : payload.length ≤ pWrDataSize) :
    (BitVec.ofNat 32 payload.length + 4).toNat = payload.length + 4 := by
  have bound : payload.length ≤ 128 := room
  bv_omega

/-- The number of words the loop over the payload reads. -/
theorem payload_length {payload : List Word32} (room : payload.length ≤ pWrDataSize) :
    ((BitVec.ofNat 32 payload.length + 4).setWidth 16 - 4 : Word16).toNat = payload.length := by
  have bound : payload.length ≤ 128 := room
  have size := msgsize_toNat room
  bv_omega

/-- A write request of up to 128 words, whatever call it comes from. -/
theorem sockreader_write (one : ∀ w, Consumes Shows readDWfromSock [w] w) (time : Word64)
    (s : FliState) (msgid addr : Word32) (number : Word8) {byteEnable : Word32}
    (enable : byteEnable.toNat < 256) {payload : List Word32}
    (room : payload.length ≤ pWrDataSize) :
    ∃ s', Consumes Shows (sockreader readDWfromSock time s.served)
        (messageHeader (BitVec.ofNat 32 payload.length + 4) cmdWriteToDevice :: msgid :: addr ::
          BarImplSim.deviceParams number byteEnable (BitVec.ofNat 32 payload.length) ::
            payload) s' ∧
      s'.Presents time msgid (.write addr.toNat number (byteEnable.setWidth 8) payload) := by
  have bound : payload.length ≤ 128 := room
  have ndw : (BitVec.ofNat 32 payload.length).toNat = payload.length := by
    rw [BitVec.toNat_ofNat]
    omega
  obtain ⟨bar, be, len⟩ := BarImplSim.deviceParams_fields number enable
    (show (BitVec.ofNat 32 payload.length).toNat < 65536 by omega)
  have header : (BitVec.ofNat 32 payload.length + 4).toNat < 65536 := by
    rw [msgsize_toNat room]
    omega
  -- the signals before the payload
  obtain ⟨s₀, from_⟩ : ∃ s₀ : FliState, s₀ =
      { ({ s.served with msgid := msgid, id := msgid } : FliState).driveRequest addr
          (BarImplSim.deviceParams number byteEnable (BitVec.ofNat 32 payload.length)) with
        id := msgid } := ⟨_, rfl⟩
  obtain ⟨data, loop, shown⟩ := drivePayload_shows one (payload_length room) room s₀
  subst from_
  refine ⟨_, sockreader_of_command one header ((one addr).cons ((one _).cons (loop.map _))),
    rfl, rfl, rfl, rfl, tag_of_msgid msgid, ?_, bar, be, ?_⟩
  · exact congrArg BitVec.toNat (BitVec.add_sub_cancel addr addrOffset)
  · unfold FliState.payload
    rw [len, BitVec.toNat_setWidth, ndw, Nat.mod_eq_of_lt (by omega)]
    exact shown

/-- A completion of up to 128 words. -/
theorem sockreader_completion (one : ∀ w, Consumes Shows readDWfromSock [w] w) (time : Word64)
    (s : FliState) (msgid : Word32) (rdreq : ReadReq) (short : rdreq.length.toNat < 4096)
    {payload : List Word32} (room : payload.length ≤ pWrDataSize) :
    ∃ s', Consumes Shows (sockreader readDWfromSock time s.served)
        (messageHeader (BitVec.ofNat 32 payload.length + 4) cmdCmplToDevice :: msgid ::
          rdreq.requesterId :: BarImplSim.completionParams rdreq :: payload) s' ∧
      s'.Presents time msgid (.completion (rdreq.requesterId.setWidth 16) rdreq.length.toNat
        rdreq.tag (rdreq.lowerAddr.setWidth 7) payload) := by
  have bound : payload.length ≤ 128 := room
  have header : (BitVec.ofNat 32 payload.length + 4).toNat < 65536 := by
    rw [msgsize_toNat room]
    omega
  obtain ⟨status, count, tag, lower⟩ := BarImplSim.completionParams_fields rdreq short
  have ndw := payload_length room
  -- the signals before the payload
  obtain ⟨s₀, from_⟩ : ∃ s₀ : FliState, s₀ =
      ({ s.served with msgid := msgid, id := msgid } : FliState).driveCompletion
        rdreq.requesterId (BarImplSim.completionParams rdreq)
        ((BitVec.ofNat 32 payload.length + 4).setWidth 16) := ⟨_, rfl⟩
  obtain ⟨data, loop, shown⟩ := drivePayload_shows one ndw room s₀
  subst from_
  refine ⟨_, sockreader_of_command one header ((one _).cons ((one _).cons (loop.map _))),
    rfl, rfl, rfl, rfl, status, rfl, count, tag, lower, ?_⟩
  unfold FliState.payload FliState.driveCompletion
  rw [BitVec.toNat_setWidth, ndw, Nat.mod_eq_of_lt (by omega)]
  exact shown

/-- A completion of more than 128 words is taken whole too, but driven behind
the end of `pWrData`. -/
theorem sockreader_overruns (one : ∀ w, Consumes Shows readDWfromSock [w] w) (time : Word64)
    (s : FliState) (number : Word8) (msgid : Word32) (rdreq : ReadReq) {payload : List Word32}
    (long : pWrDataSize < payload.length) (fits : payload.length + 4 < 65536) :
    ∃ s', Consumes Shows (sockreader readDWfromSock time s.served)
        (BarImplSim.sent number msgid (.completion rdreq payload)) s' ∧ s'.overrun = true := by
  have size : (BitVec.ofNat 32 (16 + 4 * payload.length) >>> 2).toNat = payload.length + 4 := by
    rw [BitVec.toNat_ushiftRight, BitVec.toNat_ofNat, Nat.shiftRight_eq_div_pow]
    omega
  have ndw : ((BitVec.ofNat 32 (16 + 4 * payload.length) >>> 2).setWidth 16 - 4 : Word16).toNat =
      payload.length := by
    bv_omega
  have loop := drivePayload_consumes one ndw 0
  refine ⟨_, sockreader_of_command one (by omega) ((one _).cons ((one _).cons ((loop _).map _))),
    ?_⟩
  exact FliState.drive_overruns _ payload 0 (Nat.zero_le _) (by omega)

/-- Every message of the host is taken whole, and the device is told what the
call asks for. -/
theorem sockreader_sent (one : ∀ w, Consumes Shows readDWfromSock [w] w) (time : Word64)
    (s : FliState) (number : Word8) (msgid : Word32) {call : HostCall} (fits : call.Fits) :
    ∃ s', Consumes Shows (sockreader readDWfromSock time s.served)
        (BarImplSim.sent number msgid call) s' ∧
      s'.Presents time msgid (call.message number) := by
  cases call with
  | memcopy target source =>
      obtain ⟨below, -, room⟩ := fits
      have enable : (if 1 < source.length then 0xff else 0x0f : Word32).toNat < 256 ∧
          (if 1 < source.length then 0xff else 0x0f : Word32).setWidth 8 =
            if 1 < source.length then (0xff : Word8) else 0x0f := by
        split <;> decide
      have message := sockreader_write one time s msgid ((target <<< 2).setWidth 32) number
        enable.1 room
      rwa [BarImplSim.wordAddr_toNat below, enable.2] at message
  | get32 address =>
      have message := sockreader_read one time s msgid ((address <<< 2).setWidth 32) number
        (show (0x0f : Word32).toNat < 256 by decide)
      rwa [BarImplSim.wordAddr_toNat fits] at message
  | get16 address =>
      obtain ⟨short, enable⟩ := BarImplSim.narrowEnable_eq address
      have message := sockreader_read one time s msgid (BarImplSim.narrowAddr address) number short
      rwa [BarImplSim.narrowAddr_toNat fits, enable] at message
  | set32 address data =>
      have room : [data].length ≤ pWrDataSize := (by decide : 1 ≤ pWrDataSize)
      have message := sockreader_write one time s msgid ((address <<< 2).setWidth 32) number
        (show (0x0f : Word32).toNat < 256 by decide) room
      rwa [BarImplSim.wordAddr_toNat fits] at message
  | set16 address data =>
      obtain ⟨short, enable⟩ := BarImplSim.narrowEnable_eq address
      have room : [(data.setWidth 32 <<< 16) + data.setWidth 32].length ≤ pWrDataSize :=
        (by decide : 1 ≤ pWrDataSize)
      obtain ⟨s', reads, shown⟩ := sockreader_write one time s msgid
        (BarImplSim.narrowAddr address) number short room
      rw [BarImplSim.narrowAddr_toNat fits, enable, BarImplSim.twice_eq data] at shown
      exact ⟨s', reads, shown⟩
  | gettime =>
      refine ⟨_, sockreader_of_command one (by decide) (Consumes.pure _), rfl, rfl, rfl, rfl⟩
  | completion rdreq payload =>
      obtain ⟨short, -, room⟩ := fits
      have message := sockreader_completion one time s msgid rdreq short room
      have small : payload.length ≤ 128 := room
      rwa [← BarImplSim.completion_msgsize (by omega)] at message

end Flisock

end

end Librorc
