import Librorc.Sim.Flisock
import Librorc.Sim.SockMonitor

/-!
# Both directions of the wire

Both parsers stay in step with what the other program sends, and recover what
it has put into the messages. The host drops the message ID, and with it the
parameters of a completion; the simulator has room for 128 words of payload and
twelve bits of byte count.
-/

namespace Librorc

open Librorc.Lib

/-- A message of the host, and the simulation time at which it is read. -/
structure HostMessage where
  time : Word64
  msgid : Word32
  call : HostCall

/-- What the simulator makes of as many messages as there are times: the signals
after each. Every request is served before the next message is read. -/
def Flisock.sockreaders (times : List Word64) (s : FliState) :
    StateT (List Word32) Option (List FliState) :=
  readScan (fun time s => sockreader takeWord time s.served) times s

/-- The simulator stays in step with the host. -/
theorem sockreaders_sent (number : Word8) (s : FliState) (calls : List HostMessage)
    (fits : ∀ m ∈ calls, m.call.Fits) :
    ∃ states, Consumes Eq (Flisock.sockreaders (calls.map HostMessage.time) s)
        (calls.flatMap fun m => BarImplSim.sent number m.msgid m.call) states ∧
      List.Forall₂ (fun m s => s.Presents m.time m.msgid (m.call.message number)) calls states :=
  Consumes.readScan (fun m mem s => Flisock.sockreader_sent takeWord_consumes m.time s number
    m.msgid (fits m mem)) s

/-- **Host and simulator in step.** Whatever messages that fit the host sends, the
simulator takes each whole and presents what it was called with; whatever the
simulator sends, the monitor calls the handlers with it. Neither side reads
behind the last message. -/
theorem wire_in_step (number : Word8) (s : FliState) (calls : List HostMessage)
    (fits : ∀ m ∈ calls, m.call.Fits) (events : List (Word32 × FliEvent)) (rest : List Word32) :
    (∃ states, (Flisock.sockreaders (calls.map HostMessage.time) s).run
        ((calls.flatMap fun m => BarImplSim.sent number m.msgid m.call) ++ rest) =
          some (states, rest) ∧
      List.Forall₂ (fun m s => s.Presents m.time m.msgid (m.call.message number)) calls states) ∧
    (BarImplSim.sockMonitor takeWord events.length).run
        ((events.flatMap fun m => Flisock.sent m.1 m.2) ++ rest) =
      some ((events.map fun m => m.2.message, false), rest) := by
  constructor
  · obtain ⟨states, reads, told⟩ := sockreaders_sent number s calls fits
    exact ⟨states, reads.run_list rest, told⟩
  · exact (BarImplSim.sockMonitor_sent takeWord_consumes events).run_list rest

/-- A simulator that has just been started. -/
def FliState.idle : FliState where
  msgid := 0
  trnRdBusy := false
  rdEn := false
  wrEn := false
  cmplEn := false
  id := 0
  addr := 0
  bar := 0
  byteEnable := 0
  tag := 0
  wrLen := 0
  pWrData := fun _ => 0
  overrun := false
  cmplStatus := 0
  bytecount := 0
  lowerAddr := 0
  requesterId := 0
  reply := []

/-- A request for 516 bytes with tag 3. -/
def oversizeRequest : ReadReq := ⟨516, 3, 0, 0xff, 0⟩

/-- A register write and a full completion. -/
def writeAndComplete : List HostMessage :=
  [⟨1000, 7, .set32 0x10 0xcafe⟩, ⟨2000, 8, .completion oversizeRequest (List.replicate 128 5)⟩]

theorem wire_in_step_two :
    (∃ states, (Flisock.sockreaders (writeAndComplete.map HostMessage.time) .idle).run
        ((writeAndComplete.flatMap fun m => BarImplSim.sent 1 m.msgid m.call) ++ []) =
          some (states, []) ∧
      List.Forall₂ (fun m s => s.Presents m.time m.msgid (m.call.message 1)) writeAndComplete
        states) ∧
    (BarImplSim.sockMonitor takeWord 2).run
        (([(7, .ackWrite), (8, .ackCmpl)] : List (Word32 × FliEvent)).flatMap
          (fun m => Flisock.sent m.1 m.2) ++ []) =
      some (([.acknowledgeWrite 2, .acknowledgeCompletion 2], false), []) := by
  have fits : ∀ m ∈ writeAndComplete, m.call.Fits := by
    intro m mem
    rcases List.mem_pair.mp mem with rfl | rfl
    · show 4 * (0x10 : Word64).toNat < 2 ^ 32
      decide
    · have length : (List.replicate 128 (5 : Word32)).length = 128 := List.length_replicate
      refine ⟨by decide, ?_, ?_⟩
      · rw [length]
        decide
      · rw [length]
        decide
  exact wire_in_step 1 .idle writeAndComplete fits [(7, .ackWrite), (8, .ackCmpl)] []

/-- A completion of 129 words is driven behind the end of the payload array, and
from two acknowledgements, or two completions with different tags, the host
cannot tell which is which. -/
theorem wire_loses :
    (∀ s', (Flisock.sockreader takeWord 0 FliState.idle).run
        (BarImplSim.sent 1 7 (.completion oversizeRequest (List.replicate 129 5))) =
          some (s', []) →
      ¬ s'.Presents 0 7
        ((HostCall.completion oversizeRequest (List.replicate 129 5)).message 1)) ∧
    (BarImplSim.sockMonitorTurn takeWord).run (Flisock.sent 1 .ackWrite) =
      (BarImplSim.sockMonitorTurn takeWord).run (Flisock.sent 2 .ackWrite) ∧
    (BarImplSim.sockMonitorTurn takeWord).run (Flisock.sent 1 (.cmplD ⟨0, 0⟩)) =
      (BarImplSim.sockMonitorTurn takeWord).run
        (Flisock.sent 1 (.cmplD ⟨0, 0x10000000000⟩)) := by
  refine ⟨?_, ?_, ?_⟩
  · intro s' ran presents
    have length : (List.replicate 129 (5 : Word32)).length = 129 := List.length_replicate
    have long : pWrDataSize < (List.replicate 129 (5 : Word32)).length := by
      rw [length]
      decide
    obtain ⟨s₁, reads, overran⟩ := Flisock.sockreader_overruns takeWord_consumes 0 .idle 1 7
      oversizeRequest long (by omega)
    have ran₁ := reads.run_list []
    rw [List.append_nil] at ran₁
    obtain ⟨rfl⟩ : s₁ = s' := by
      have same := ran₁.symm.trans ran
      exact congrArg Prod.fst (Option.some.inj same)
    obtain ⟨-, fine, -⟩ := presents
    rw [overran] at fine
    exact Bool.noConfusion fine
  · decide
  · decide

end Librorc
