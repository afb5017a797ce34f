import Librorc.Sim.DmaRefines
import Librorc.Sim.TrnMonitor

/-!
# From the beats to the memory

`trn_monitor` turns the beats of the TRN interface into messages, and the threads
of `bar_impl_sim` turn the messages into accesses to the buffers. Put together
they carry every packet of the device to the memory, but for a write that comes
whole in its header beat, which `trn_monitor` loses.
-/

namespace Librorc

open Librorc.Lib

/-! ## Packets of the device -/

/-- A packet on the TRN interface, with its header. -/
inductive TrnPacket
  | write (p : DmaWrite)
  | read (h : TrnHeader) (wide : Bool)
  | completion (h : TrnHeader)

/-- The beats of a packet. Requests and completions are a beat of their own, with
three words, or four where the address is wide or a data word comes behind. -/
inductive Carries : TrnPacket → List TrnBeat → Prop
  | write {p : DmaWrite} {beats : List TrnBeat} (renders : Renders p beats) :
      Carries (.write p) beats
  | read {b : TrnBeat} {wide : Bool} (transferred : b.valid = true) (sof : b.sof = true)
      (eof : b.eof = true)
      (format : b.td.high &&& Flisock.fmtMask = if wide then Flisock.fmtMrd64 else Flisock.fmtMrd32)
      (rem : b.rem = if wide then 0 else 1) : Carries (.read b.td wide) [b]
  | completion {b : TrnBeat} (transferred : b.valid = true) (sof : b.sof = true)
      (eof : b.eof = true) (format : b.td.high &&& Flisock.fmtMask = Flisock.fmtCmplD)
      (rem : b.rem = 0) : Carries (.completion b.td) [b]

/-- The packets, in order, with beats that transfer nothing anywhere between
theirs. -/
def CarriesAll (packets : List TrnPacket) (beats : List TrnBeat) : Prop :=
  ∃ parts, List.Forall₂ Carries packets parts ∧ beats.filter TrnBeat.valid = parts.flatten

/-- What a message is for the memory: nothing, unless it is a packet for it. -/
def FliEvent.transfers (e : FliEvent) : List BusEvent :=
  match e.bus with
  | .other => []
  | b => [b]

/-- What is to reach the memory; a write in its header beat is lost. -/
def TrnPacket.transfers : TrnPacket → List BusEvent
  | .write p => if p.inHeader then [] else [.write p.addr p.data]
  | .read h wide => if wide then (FliEvent.mrd64 h).transfers else (FliEvent.mrd32 h).transfers
  | .completion _ => []

/-- What is put on the socket. -/
def TrnOutput.words : TrnOutput → List Word32
  | .message words => words
  | .protocolError => []

/-! ## What the outputs tell -/

/-- The messages among the outputs have these packets for the memory. -/
inductive Tells : List TrnOutput → List BusEvent → Prop
  | nil : Tells [] []
  | error {outs : List TrnOutput} {transfers : List BusEvent} (rest : Tells outs transfers) :
      Tells (.protocolError :: outs) transfers
  | message {outs : List TrnOutput} {transfers : List BusEvent} (msgid : Word32) (e : FliEvent)
      (rest : Tells outs transfers) :
      Tells (.message (Flisock.sent msgid e) :: outs) (e.transfers ++ transfers)

namespace Tells

variable {front back : List TrnOutput} {transfers transfers' : List BusEvent}

theorem single (msgid : Word32) (e : FliEvent) :
    Tells [.message (Flisock.sent msgid e)] e.transfers := by
  have one := Tells.nil.message msgid e
  rwa [List.append_nil] at one

theorem append (first : Tells front transfers) (second : Tells back transfers') :
    Tells (front ++ back) (transfers ++ transfers') := by
  induction first with
  | nil => exact second
  | error _ ih => exact ih.error
  | message msgid e _ ih =>
      rw [List.append_assoc]
      exact ih.message msgid e

/-- Outputs one after the other tell one thing after the other. -/
theorem split (both : Tells (front ++ back) transfers) :
    ∃ t t', transfers = t ++ t' ∧ Tells front t ∧ Tells back t' := by
  induction front generalizing transfers with
  | nil => exact ⟨[], transfers, rfl, .nil, both⟩
  | cons out front ih =>
      cases both with
      | error rest =>
          obtain ⟨t, t', same, first, second⟩ := ih rest
          exact ⟨t, t', same, first.error, second⟩
      | message msgid e rest =>
          obtain ⟨t, t', rfl, first, second⟩ := ih rest
          exact ⟨e.transfers ++ t, t', (List.append_assoc ..).symm, first.message msgid e, second⟩

/-- The words on the socket are those of messages of the simulator. -/
theorem exists_events (told : Tells front transfers) :
    ∃ events : List (Word32 × FliEvent),
      front.flatMap TrnOutput.words = events.flatMap (fun m => Flisock.sent m.1 m.2) ∧
        events.flatMap (fun m => m.2.transfers) = transfers := by
  induction told with
  | nil => exact ⟨[], rfl, rfl⟩
  | error _ ih => exact ih
  | message msgid e _ ih =>
      obtain ⟨events, words, same⟩ := ih
      refine ⟨(msgid, e) :: events, ?_, ?_⟩
      · rw [List.flatMap_cons, List.flatMap_cons, words]
        rfl
      · rw [List.flatMap_cons, same]

end Tells

/-! ## What `trn_monitor` tells -/

namespace Flisock

theorem tells_acknowledge (b : TrnBeat) : Tells (acknowledge b) [] := by
  have write : Tells (if b.wrDone then [.message (sent b.msgid .ackWrite)] else []) [] := by
    cases b.wrDone with
    | false => exact .nil
    | true => exact .single b.msgid .ackWrite
  have cmpl : Tells (if b.cmplDone then [.message (sent b.msgid .ackCmpl)] else []) [] := by
    cases b.cmplDone with
    | false => exact .nil
    | true => exact .single b.msgid .ackCmpl
  exact write.append cmpl

/-- Beats that transfer nothing, and acknowledgements, tell nothing more. -/
theorem tells_trnMonitors {s : RxState} {beats : List TrnBeat} {transfers : List BusEvent}
    (told : Tells (receives s (beats.filter TrnBeat.valid)).2 transfers) :
    Tells (trnMonitors s beats).2 transfers := by
  induction beats generalizing s transfers with
  | nil => exact told
  | cons b beats ih =>
      cases transferred : b.valid with
      | true =>
          have step : trnMonitor s b = ((receive s b).1, (receive s b).2 ++ acknowledge b) := by
            simp [trnMonitor, transferred]
          rw [List.filter_cons_of_pos transferred] at told
          obtain ⟨t, t', rfl, here, later⟩ := told.split
          have said := (here.append (tells_acknowledge b)).append (ih later)
          rw [List.append_nil] at said
          simp only [trnMonitors, step]
          exact said
      | false =>
          have step : trnMonitor s b = (s, acknowledge b) := by
            simp [trnMonitor, transferred]
          rw [List.filter_cons_of_neg (by simp [transferred])] at told
          simp only [trnMonitors, step]
          exact (tells_acknowledge b).append (ih told)

theorem tells_overdue (s : RxState) : Tells (overdue s) [] := by
  unfold overdue
  cases s.dvld with
  | false => exact .nil
  | true => exact Tells.nil.error

end Flisock

theorem TrnHeader.addr32_eq (h : TrnHeader) : h.addr32 = h.low >>> 32 := by
  have bound := h.low.isLt
  apply BitVec.eq_of_toNat_eq
  rw [addr32, BitVec.toNat_setWidth, BitVec.extractLsb'_toNat, BitVec.toNat_ushiftRight,
    Nat.shiftRight_eq_div_pow]
  omega

/-- A write that is not lost is the message of a packet with its words. -/
theorem Renders.exists_event {p : DmaWrite} {beats : List TrnBeat} (renders : Renders p beats)
    (behind : p.inHeader = false) :
    ∃ e : FliEvent, e.transfers = [.write p.addr p.data] ∧
      ∀ msgid, Flisock.sent msgid e = p.message msgid := by
  cases renders with
  | @wide h data beats _ _ _ _ length _ =>
      exact ⟨.mwr64 h.td data length.symm, rfl, Flisock.sent_mwr64 length.symm⟩
  | @narrow h first data beats _ _ _ _ length inHeader _ =>
      have word : Flisock.firstWord h.td = first := by
        rw [inHeader]
        exact byteReorder_high h.td.low
      refine ⟨.mwr32 h.td data length.symm, ?_, fun msgid => ?_⟩
      · rw [← h.td.addr32_eq, ← word]
        rfl
      · rw [inHeader]
        exact Flisock.sent_mwr32 length.symm msgid
  | single => cases behind

namespace Flisock

/-- A packet of one beat is answered at once, and collects nothing. -/
theorem receives_request {s : RxState} (between : Between s) {b : TrnBeat} (sof : b.sof = true)
    (some : 0 < b.dataCount) {e : FliEvent}
    (header : ∀ s₀ : RxState, (headerBeat s₀ b).1.dvld = s₀.dvld ∧
      (headerBeat s₀ b).2 = [.message (sent b.msgid e)]) :
    Between (receives s [b]).1 ∧ Tells (receives s [b]).2 e.transfers := by
  obtain ⟨s₀, idle, step⟩ := receive_header between sof some
  obtain ⟨dvld, out⟩ := header s₀
  have run : receives s [b] = ((headerBeat s₀ b).1, overdue s ++ [.message (sent b.msgid e)]) := by
    simp only [receives, step, out, List.append_nil]
  rw [run]
  constructor
  · intro collecting
    exact absurd ((dvld.trans idle).symm.trans collecting) Bool.false_ne_true
  · exact (tells_overdue s).append (.single b.msgid e)

/-- What a packet tells, whatever came before it. -/
theorem receives_carries {packet : TrnPacket} {beats : List TrnBeat}
    (carries : Carries packet beats) {s : RxState} (between : Between s) :
    Between (receives s beats).1 ∧ Tells (receives s beats).2 packet.transfers := by
  cases carries with
  | @write p beats renders =>
      obtain ⟨msgid, after, -, out⟩ := receives_packet renders between
      refine ⟨after, ?_⟩
      rw [out, TrnPacket.transfers]
      cases behind : p.inHeader with
      | true => exact (tells_overdue s).append .nil
      | false =>
          obtain ⟨e, transfers, message⟩ := renders.exists_event behind
          rw [← message msgid]
          have said := (tells_overdue s).append (.single msgid e)
          rwa [transfers] at said
  | @read b wide _ sof eof format rem =>
      cases wide with
      | false =>
          have some : 0 < b.dataCount := by
            simp [TrnBeat.dataCount, eof, rem]
          refine receives_request between sof some (e := .mrd32 b.td) fun s₀ => ?_
          have plain : fmtMrd32 ≠ fmtMwr64 ∧ fmtMrd32 ≠ fmtMwr32 ∧ fmtMrd32 ≠ fmtMrd64 := by decide
          simp [headerBeat, format, plain]
      | true =>
          have some : 0 < b.dataCount := dataCount_pos (Or.inr rem)
          refine receives_request between sof some (e := .mrd64 b.td) fun s₀ => ?_
          have plain : fmtMrd64 ≠ fmtMwr64 ∧ fmtMrd64 ≠ fmtMwr32 := by decide
          simp [headerBeat, format, plain]
  | @completion b _ sof eof format rem =>
      have some : 0 < b.dataCount := dataCount_pos (Or.inr rem)
      refine receives_request between sof some (e := .cmplD b.td) fun s₀ => ?_
      have plain : fmtCmplD ≠ fmtMwr64 ∧ fmtCmplD ≠ fmtMwr32 ∧ fmtCmplD ≠ fmtMrd64 ∧
          fmtCmplD ≠ fmtMrd32 := by decide
      simp [headerBeat, format, plain]

theorem tells_packets {packets : List TrnPacket} {parts : List (List TrnBeat)}
    (carried : List.Forall₂ Carries packets parts) {s : RxState} (between : Between s) :
    Tells (receives s parts.flatten).2 (packets.flatMap TrnPacket.transfers) := by
  induction carried generalizing s with
  | nil => exact .nil
  | cons carries _ ih =>
      obtain ⟨after, said⟩ := receives_carries carries between
      rw [List.flatten_cons, receives_append, List.flatMap_cons]
      exact said.append (ih after)

end Flisock

/-! ## What the memory gets -/

namespace BusHost

variable (t : BusHost)

theorem foldl_transfers (e : FliEvent) : e.transfers.foldl receive t = t.receive e.bus := by
  unfold FliEvent.transfers
  cases e.bus with
  | write addr data => rfl
  | read addr requesterId tag words => rfl
  | other => rfl

theorem packets_receive (b : BusEvent) (packets : List (Word32 × FliEvent)) :
    ({ t with packets := packets } : BusHost).receive b =
      { t.receive b with packets := packets } := by
  cases b <;> rfl

theorem packets_foldl (transfers : List BusEvent) :
    (transfers.foldl receive t).packets = t.packets := by
  induction transfers generalizing t with
  | nil => rfl
  | cons b rest ih =>
      rw [List.foldl_cons, ih]
      cases b <;> rfl

/-- One turn of the monitor for each packet. -/
theorem run_monitor (maxPacket : ℕ) (events : List (Word32 × FliEvent)) :
    (busSystem maxPacket).run { t with packets := events }
        (List.replicate events.length .monitor) =
      some ((events.flatMap fun m => m.2.transfers).foldl receive { t with packets := [] }) := by
  induction events generalizing t with
  | nil => rfl
  | cons m rest ih =>
      have turn : (busSystem maxPacket).step { t with packets := m :: rest } .monitor =
          some { t.receive m.2.bus with packets := rest } :=
        congrArg some (t.packets_receive m.2.bus rest)
      rw [List.length_cons, List.replicate_succ, ActionSystem.run, turn, List.flatMap_cons,
        List.foldl_append, foldl_transfers, t.packets_receive m.2.bus []]
      exact ih (t.receive m.2.bus)

end BusHost

/-- Two words to address 0x2000 with an acknowledgement between their beats, one
word in a single beat, and a request for the two words. -/
def writesAndRequest : List TrnBeat :=
  [someBeat 0x4000000200000000 0x0000200011000000 true false 0,
    { someBeat 0 0 false false 0 with srcRdy := false, wrDone := true }, lastOfTwo, singleWord,
    someBeat 0x2000000201000300 0x2000 true true 0]

end Librorc
