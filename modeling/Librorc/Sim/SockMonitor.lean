import Librorc.Lib.Reader
import Librorc.Sim.Protocol

/-!
# `bar_impl_sim`: `sockMonitor`

The monitor thread reads a header, drops the message ID and calls the handler
of the command. The handlers read what is left of the message from the socket.
-/

namespace Librorc

open Librorc.Lib

/-- A handler that has been called, with its argument and what it has read. -/
inductive HostEvent
  | completeToHost (msgsize : Word16) (data : Word32)
  | writeToHost (msgsize : Word16) (addr : Word64) (payload : List Word32)
  | readFromHost (msgsize : Word16) (addr : Word64) (rdreq : ReadReq)
  | acknowledgeCompletion (msgsize : Word16)
  | acknowledgeWrite (msgsize : Word16)
  | acknowledgeTime (msgsize : Word16) (data : Word64)
  /-- No handler has the command. -/
  | ignored
deriving DecidableEq

namespace BarImplSim

variable {σ : Type} (readDWfromSock : StateT σ Option Word32)

def doCompleteToHost (msgsize : Word16) : StateT σ Option HostEvent := do
  -- the parameter word is dropped
  let _ ← readDWfromSock
  let data ← readDWfromSock
  pure (.completeToHost msgsize data)

def doWriteToHost (msgsize : Word16) : StateT σ Option HostEvent := do
  let high ← readDWfromSock
  let low ← readDWfromSock
  let payload ← readMany readDWfromSock (msgsize - 4).toNat
  pure (.writeToHost msgsize ((high.setWidth 64 <<< 32) + low.setWidth 64) payload)

/-- The part of `rdreq` that does not depend on the buffers of the device. -/
def rdreqOf (addr : Word64) (reqid param : Word32) : ReadReq where
  length := ((param >>> 16) <<< 2).setWidth 16
  tag := ((param >>> 8) &&& 0xff).setWidth 8
  lowerAddr := (addr &&& 0xff).setWidth 8
  byteEnable := (param &&& 0xff).setWidth 8
  requesterId := reqid

def doReadFromHost (msgsize : Word16) : StateT σ Option HostEvent := do
  let high ← readDWfromSock
  let low ← readDWfromSock
  let reqid ← readDWfromSock
  let param ← readDWfromSock
  let addr := (high.setWidth 64 <<< 32) + low.setWidth 64
  pure (.readFromHost msgsize addr (rdreqOf addr reqid param))

def doAcknowledgeTime (msgsize : Word16) : StateT σ Option HostEvent := do
  let high ← readDWfromSock
  let low ← readDWfromSock
  pure (.acknowledgeTime msgsize ((high.setWidth 64 <<< 32) + low.setWidth 64))

/-- The `switch` over the command. -/
def handler (cmd msgsize : Word16) : StateT σ Option HostEvent :=
  if cmd = cmdCmplToHost then doCompleteToHost readDWfromSock msgsize
  else if cmd = cmdWriteToHost then doWriteToHost readDWfromSock msgsize
  else if cmd = cmdReadFromHost then doReadFromHost readDWfromSock msgsize
  else if cmd = cmdAckCmpl then pure (.acknowledgeCompletion msgsize)
  else if cmd = cmdAckWrite then pure (.acknowledgeWrite msgsize)
  else if cmd = cmdAckTime then doAcknowledgeTime readDWfromSock msgsize
  else pure .ignored

/-- One turn of the loop: nothing when it ends. -/
def sockMonitorTurn : StateT σ Option (Option HostEvent) := do
  let tmpvar ← readDWfromSock
  if tmpvar = 0 then pure none
  else do
    let msgsize := ((tmpvar >>> 16) &&& 0xffff).setWidth 16
    -- and so is the message ID
    let _ ← readDWfromSock
    let event ← handler readDWfromSock ((tmpvar &&& 0xffff).setWidth 16) msgsize
    pure (some event)

/-- At most so many turns of `sockMonitor`: the handlers called, and whether the
loop has ended. -/
def sockMonitor : Nat → StateT σ Option (List HostEvent × Bool)
  | 0 => pure ([], false)
  | turns + 1 => do
      match ← sockMonitorTurn readDWfromSock with
      | none => pure ([], true)
      | some event => do
          let (events, ended) ← sockMonitor turns
          pure (event :: events, ended)

end BarImplSim

/-! ## Turns of the loop -/

namespace BarImplSim

variable {σ : Type} {readDWfromSock : StateT σ Option Word32}

/-- Calls that come before those of a run. -/
def before (events : List HostEvent) (r : (List HostEvent × Bool) × σ) :
    (List HostEvent × Bool) × σ :=
  ((events ++ r.1.1, r.1.2), r.2)

/-- The first turn, and then the others. -/
theorem sockMonitor_succ (turns : Nat) (s : σ) :
    (sockMonitor readDWfromSock (turns + 1)).run s =
      ((sockMonitorTurn readDWfromSock).run s).bind fun r =>
        match r.1 with
        | none => some (([], true), r.2)
        | some event => ((sockMonitor readDWfromSock turns).run r.2).map (before [event]) := by
  rw [sockMonitor, StateT.run_bind]
  refine congrArg _ (funext fun r => ?_)
  obtain ⟨called, s₁⟩ := r
  cases called with
  | none => rfl
  | some event =>
      show ((sockMonitor readDWfromSock turns).run s₁).bind _ = _
      cases (sockMonitor readDWfromSock turns).run s₁ with
      | none => rfl
      | some later => rfl

/-- Turns that do not end the loop are followed by the others. -/
theorem sockMonitor_add {turns : Nat} {s s₁ : σ} {events : List HostEvent}
    (goes : (sockMonitor readDWfromSock turns).run s = some ((events, false), s₁)) (more : Nat) :
    (sockMonitor readDWfromSock (turns + more)).run s =
      ((sockMonitor readDWfromSock more).run s₁).map (before events) := by
  induction turns generalizing s events with
  | zero =>
      obtain ⟨rfl, rfl⟩ : events = [] ∧ s₁ = s := by
        cases goes
        exact ⟨rfl, rfl⟩
      rw [Nat.zero_add]
      exact Option.map_id'.symm
  | succ turns ih =>
      rw [Nat.add_right_comm, sockMonitor_succ]
      rw [sockMonitor_succ] at goes
      obtain ⟨⟨called, s₂⟩, turn, goes⟩ := Option.bind_eq_some_iff.mp goes
      rw [turn]
      cases called with
      | none => cases goes
      | some event =>
          obtain ⟨⟨⟨later, ended⟩, s₃⟩, others, prepended⟩ := Option.map_eq_some_iff.mp goes
          cases prepended
          show ((sockMonitor readDWfromSock (turns + more)).run s₂).map (before [event]) = _
          rw [ih others, Option.map_map]
          rfl

/-- Once the loop has ended there are no more turns. -/
theorem sockMonitor_ended {turns : Nat} {s s₁ : σ} {events : List HostEvent}
    (ended : (sockMonitor readDWfromSock turns).run s = some ((events, true), s₁)) (more : Nat) :
    (sockMonitor readDWfromSock (turns + more)).run s = some ((events, true), s₁) := by
  induction turns generalizing s events with
  | zero => cases ended
  | succ turns ih =>
      rw [Nat.add_right_comm, sockMonitor_succ]
      rw [sockMonitor_succ] at ended
      obtain ⟨⟨called, s₂⟩, turn, ended⟩ := Option.bind_eq_some_iff.mp ended
      rw [turn]
      cases called with
      | none => exact ended
      | some event =>
          obtain ⟨⟨⟨later, final⟩, s₃⟩, others, prepended⟩ := Option.map_eq_some_iff.mp ended
          cases prepended
          show ((sockMonitor readDWfromSock (turns + more)).run s₂).map (before [event]) = _
          rw [ih others]
          rfl

end BarImplSim

/-! ## What the host is told -/

namespace TrnHeader

variable (h : TrnHeader)

/-- The address of a packet with a short header. -/
def addr32 : Word64 := (h.low.extractLsb' 32 32).setWidth 64

/-- The read request of a packet: its length is in bytes. -/
def rdreq (addr : Word64) : ReadReq where
  length := (h.high.extractLsb' 32 10).setWidth 16 * 4
  tag := h.high.extractLsb' 8 8
  lowerAddr := addr.extractLsb' 0 8
  byteEnable := h.high.extractLsb' 0 8
  requesterId := (h.high.extractLsb' 16 16).setWidth 32

end TrnHeader

/-- What a message of the simulator makes the host do. -/
def FliEvent.message : FliEvent → HostEvent
  | .mwr64 h payload _ => .writeToHost (h.rxNdw.setWidth 16 + 4) h.low payload
  | .mwr32 h payload _ =>
      .writeToHost (h.rxNdw.setWidth 16 + 4) h.addr32 (Flisock.firstWord h :: payload)
  | .mrd64 h => .readFromHost 6 h.low (h.rdreq h.low)
  | .mrd32 h => .readFromHost 6 h.addr32 (h.rdreq h.addr32)
  | .cmplD h => .completeToHost 4 (Flisock.firstWord h)
  | .ackTime time => .acknowledgeTime 4 time
  | .ackWrite => .acknowledgeWrite 2
  | .ackCmpl => .acknowledgeCompletion 2

/-! ## The fields -/

/-- Both halves of a 64-bit value are put together again. -/
theorem halves_eq (w : Word64) :
    (((w >>> 32).setWidth 32 : Word32).setWidth 64 <<< 32) +
      ((w &&& 0xffffffff).setWidth 32 : Word32).setWidth 64 = w := by
  have bound := w.isLt
  have low : (w &&& 0xffffffff).toNat = w.toNat % 2 ^ 32 := @toNat_and_low 64 w 32 (by omega)
  apply BitVec.eq_of_toNat_eq
  rw [BitVec.toNat_add, BitVec.toNat_shiftLeft, BitVec.toNat_setWidth, BitVec.toNat_setWidth,
    BitVec.toNat_setWidth, BitVec.toNat_setWidth, low, BitVec.toNat_ushiftRight, Nat.shiftLeft_eq,
    Nat.shiftRight_eq_div_pow]
  omega

/-- The mask makes no difference to the upper half. -/
theorem upperHalf_and (w : Word64) : (w >>> 32) &&& (0xffffffff : Word64) = w >>> 32 := by
  have bound := w.isLt
  have masked : ((w >>> 32) &&& 0xffffffff).toNat = w.toNat / 2 ^ 32 % 2 ^ 32 :=
    @toNat_field 64 w 32 32 (by omega)
  apply BitVec.eq_of_toNat_eq
  rw [masked, BitVec.toNat_ushiftRight, Nat.shiftRight_eq_div_pow]
  omega

/-- An address with nothing in its upper half. -/
theorem lowHalf_eq (w : Word64) :
    ((0 : Word32).setWidth 64 <<< 32) + ((w >>> 32).setWidth 32 : Word32).setWidth 64 =
      (w.extractLsb' 32 32).setWidth 64 := by
  have bound := w.isLt
  have high : ((0 : Word32).setWidth 64 <<< 32 : Word64) = 0#64 := by decide
  apply BitVec.eq_of_toNat_eq
  rw [high, BitVec.zero_add, BitVec.toNat_setWidth, BitVec.toNat_setWidth, BitVec.toNat_setWidth,
    BitVec.extractLsb'_toNat, BitVec.toNat_ushiftRight, Nat.shiftRight_eq_div_pow]

namespace TrnHeader

theorem rxNdw_toNat (h : TrnHeader) : h.rxNdw.toNat = h.high.toNat / 2 ^ 32 % 2 ^ 10 := by
  have field : ((h.high >>> 32) &&& 0x3ff).toNat = h.high.toNat / 2 ^ 32 % 2 ^ 10 :=
    @toNat_field 64 h.high 32 10 (by omega)
  unfold rxNdw
  rw [BitVec.toNat_setWidth, field]
  omega

/-- The request the host makes of what the simulator has packed. -/
theorem rdreqOf_eq (h : TrnHeader) (addr : Word64) :
    BarImplSim.rdreqOf addr (((h.high >>> 16) &&& 0xffff).setWidth 32)
      ((h.rxNdw <<< 16) + (h.high &&& 0xffff).setWidth 32) = h.rdreq addr := by
  have ndw := h.rxNdw_toNat
  have low : (h.high &&& 0xffff).toNat = h.high.toNat % 2 ^ 16 :=
    @toNat_and_low 64 h.high 16 (by omega)
  have param : ((h.rxNdw <<< 16) + (h.high &&& 0xffff).setWidth 32).toNat =
      h.high.toNat / 2 ^ 32 % 2 ^ 10 * 2 ^ 16 + h.high.toNat % 2 ^ 16 := by
    rw [BitVec.toNat_add, BitVec.toNat_shiftLeft, BitVec.toNat_setWidth, ndw, low,
      Nat.shiftLeft_eq]
    omega
  unfold BarImplSim.rdreqOf rdreq
  rw [ReadReq.mk.injEq]
  refine ⟨?_, setWidth_field_eq 8 8 (by omega) ?_, setWidth_low_eq 8 (by omega) ?_,
    setWidth_low_eq 8 (by omega) ?_, setWidth_field_eq 16 16 (by omega) ?_⟩
  · apply BitVec.eq_of_toNat_eq
    rw [BitVec.toNat_setWidth, BitVec.toNat_shiftLeft, BitVec.toNat_ushiftRight, param,
      BitVec.toNat_mul, BitVec.toNat_setWidth, BitVec.extractLsb'_toNat, Nat.shiftLeft_eq,
      Nat.shiftRight_eq_div_pow, Nat.shiftRight_eq_div_pow]
    bv_omega
  · rw [param, BitVec.extractLsb'_toNat, Nat.shiftRight_eq_div_pow]
    omega
  · rw [BitVec.extractLsb'_toNat, Nat.shiftRight_zero, Nat.mod_mod]
  · rw [param, BitVec.extractLsb'_toNat, Nat.shiftRight_eq_div_pow]
    omega
  · rw [BitVec.toNat_setWidth, BitVec.extractLsb'_toNat, Nat.shiftRight_eq_div_pow]

end TrnHeader

/-! ## Message by message -/

namespace BarImplSim

variable {σ : Type} {Shows : σ → List Word32 → Prop} {readDWfromSock : StateT σ Option Word32}

theorem doWriteToHost_consumes (one : ∀ w, Consumes Shows readDWfromSock [w] w)
    (msgsize : Word16) (high low : Word32) {payload : List Word32}
    (length : payload.length = (msgsize - 4).toNat) :
    Consumes Shows (doWriteToHost readDWfromSock msgsize) (high :: low :: payload)
      (.writeToHost msgsize ((high.setWidth 64 <<< 32) + low.setWidth 64) payload) := by
  have words := Consumes.words one payload
  rw [length] at words
  exact (one high).cons ((one low).cons (words.map _))

theorem doReadFromHost_consumes (one : ∀ w, Consumes Shows readDWfromSock [w] w)
    (msgsize : Word16) (high low reqid param : Word32) :
    Consumes Shows (doReadFromHost readDWfromSock msgsize) [high, low, reqid, param]
      (.readFromHost msgsize ((high.setWidth 64 <<< 32) + low.setWidth 64)
        (rdreqOf ((high.setWidth 64 <<< 32) + low.setWidth 64) reqid param)) :=
  (one high).cons ((one low).cons ((one reqid).cons ((one param).map _)))

theorem doAcknowledgeTime_consumes (one : ∀ w, Consumes Shows readDWfromSock [w] w)
    (msgsize : Word16) (high low : Word32) :
    Consumes Shows (doAcknowledgeTime readDWfromSock msgsize) [high, low]
      (.acknowledgeTime msgsize ((high.setWidth 64 <<< 32) + low.setWidth 64)) :=
  (one high).cons ((one low).map _)

/-- Header and message ID, and then what the handler reads. -/
theorem sockMonitorTurn_of_handler (one : ∀ w, Consumes Shows readDWfromSock [w] w)
    {msgsize msgid : Word32} {cmd : Word16} {words : List Word32} {event : HostEvent}
    (fits : msgsize.toNat < 65536) (known : cmd ≠ 0)
    (body : Consumes Shows (handler readDWfromSock cmd (msgsize.setWidth 16)) words event) :
    Consumes Shows (sockMonitorTurn readDWfromSock) (messageHeader msgsize cmd :: msgid :: words)
      (some event) := by
  obtain ⟨kind, size⟩ := messageHeader_fields fits cmd
  refine (one _).cons ?_
  rw [if_neg (messageHeader_ne_zero fits known), kind, size]
  exact (one msgid).cons (body.map some)

/-- A write of as many words as the header of the packet says. -/
theorem sockMonitorTurn_write (one : ∀ w, Consumes Shows readDWfromSock [w] w) (msgid : Word32)
    (h : TrnHeader) (high low : Word32) {payload : List Word32}
    (complete : payload.length = h.rxNdw.toNat) :
    Consumes Shows (sockMonitorTurn readDWfromSock)
      (messageHeader (h.rxNdw + 4) Flisock.cmdWriteToHost :: msgid :: high :: low :: payload)
      (some (.writeToHost (h.rxNdw.setWidth 16 + 4) ((high.setWidth 64 <<< 32) + low.setWidth 64)
        payload)) := by
  have ndw := h.rxNdw_toNat
  have fits : (h.rxNdw + 4).toNat < 65536 := by bv_omega
  have size : ((h.rxNdw + 4).setWidth 16 : Word16) = h.rxNdw.setWidth 16 + 4 :=
    BitVec.setWidth_add _ _ (by omega)
  have length : payload.length = (h.rxNdw.setWidth 16 + 4 - 4 : Word16).toNat := by
    rw [BitVec.add_sub_cancel, BitVec.toNat_setWidth, complete]
    omega
  have body := doWriteToHost_consumes one (h.rxNdw.setWidth 16 + 4) high low length
  rw [← size] at body ⊢
  exact sockMonitorTurn_of_handler one fits (by decide) body

/-- Every message of the simulator is taken whole, and its handler is called
with what the simulator has sent. -/
theorem sockMonitorTurn_sent (one : ∀ w, Consumes Shows readDWfromSock [w] w) (msgid : Word32)
    (event : FliEvent) :
    Consumes Shows (sockMonitorTurn readDWfromSock) (Flisock.sent msgid event)
      (some event.message) := by
  cases event with
  | mwr64 h payload complete =>
      have turn := sockMonitorTurn_write one msgid h ((h.low >>> 32).setWidth 32)
        ((h.low &&& 0xffffffff).setWidth 32) complete
      rwa [halves_eq] at turn
  | mwr32 h payload complete =>
      have turn := sockMonitorTurn_write one msgid h 0 ((h.low >>> 32).setWidth 32)
        (show (Flisock.firstWord h :: payload).length = h.rxNdw.toNat from complete)
      rwa [lowHalf_eq] at turn
  | mrd64 h =>
      have body := doReadFromHost_consumes one 6 ((h.low >>> 32).setWidth 32)
        ((h.low &&& 0xffffffff).setWidth 32) (((h.high >>> 16) &&& 0xffff).setWidth 32)
        ((h.rxNdw <<< 16) + (h.high &&& 0xffff).setWidth 32)
      rw [halves_eq, h.rdreqOf_eq] at body
      exact sockMonitorTurn_of_handler one (by decide) (by decide) body
  | mrd32 h =>
      have body := doReadFromHost_consumes one 6 0 ((h.low >>> 32).setWidth 32)
        (((h.high >>> 16) &&& 0xffff).setWidth 32)
        ((h.rxNdw <<< 16) + (h.high &&& 0xffff).setWidth 32)
      rw [lowHalf_eq, h.rdreqOf_eq, ← upperHalf_and h.low] at body
      exact sockMonitorTurn_of_handler one (by decide) (by decide) body
  | cmplD h =>
      exact sockMonitorTurn_of_handler one (by decide) (by decide) ((one _).cons ((one _).map _))
  | ackTime time =>
      have body := doAcknowledgeTime_consumes one 4 ((time >>> 32).setWidth 32)
        ((time &&& 0xffffffff).setWidth 32)
      rw [halves_eq, ← upperHalf_and time] at body
      exact sockMonitorTurn_of_handler one (by decide) (by decide) body
  | ackWrite =>
      exact sockMonitorTurn_of_handler one (by decide) (by decide) (Consumes.pure _)
  | ackCmpl =>
      exact sockMonitorTurn_of_handler one (by decide) (by decide) (Consumes.pure _)

/-- The monitor stays in step with the simulator. -/
theorem sockMonitor_sent (one : ∀ w, Consumes Shows readDWfromSock [w] w)
    (messages : List (Word32 × FliEvent)) :
    Consumes Shows (sockMonitor readDWfromSock messages.length)
      (messages.flatMap fun m => Flisock.sent m.1 m.2)
      (messages.map fun m => m.2.message, false) := by
  induction messages with
  | nil => exact Consumes.pure _
  | cons m rest ih =>
      rw [List.flatMap_cons]
      exact (sockMonitorTurn_sent one m.1 m.2).bind (ih.map _)

end BarImplSim

end Librorc
