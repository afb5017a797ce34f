import Librorc.Sim.SockMonitor

/-!
# `bar_impl_sim`: `readDWfromSock`

Every word is read by one `read()` into a variable that has not been
initialised, whatever `read()` returns. The monitor sees the words of the
stream when no `read()` returns less than a word. Behind the end of the stream
it goes on with what the variable happens to hold: it calls no handler there
exactly when it finds a zero before the command of one.
-/

namespace Librorc

open Librorc.Lib

/-- What one `read()` of four bytes returns while there is something to read. -/
structure Chunk where
  bytes : List Word8
  nonempty : bytes ≠ []
  short : bytes.length ≤ 4

/-- The socket as the monitor thread sees it: the peer closes it behind the
chunks. -/
structure Sock where
  chunks : List Chunk
  /-- What `buffer` holds before the `read()` of this call and of the later
  ones. -/
  buffer : Nat → Word32

namespace Sock

/-- What is to be read. -/
def bytes (s : Sock) : List Word8 := s.chunks.flatMap Chunk.bytes

end Sock

/-- The bytes of a word in memory. -/
def littleEndian (w : Word32) : List Word8 :=
  [w.extractLsb' 0 8, w.extractLsb' 8 8, w.extractLsb' 16 8, w.extractLsb' 24 8]

/-- Bytes written over the first ones of a word. -/
def overwrite : List Word8 → Word32 → Word32
  | [], w => w
  | b :: bytes, w => (overwrite bytes (w >>> 8) <<< 8) + b.setWidth 32

namespace BarImplSim

/-- `read()`, and the word in `buffer` after it. At the end of the stream, and
on the socket that is closed then, nothing is written there. -/
def readDWfromSock : StateT Sock Option Word32 := fun s =>
  let later := fun n => s.buffer (n + 1)
  match s.chunks with
  | [] => some (s.buffer 0, ⟨[], later⟩)
  | c :: rest => some (overwrite c.bytes (s.buffer 0), ⟨rest, later⟩)

end BarImplSim

/-- `sockMonitor` calls exactly these handlers and returns. A message for which
there is no handler is passed over. -/
def Sock.Dispatches (s : Sock) (events : List HostEvent) : Prop :=
  ∃ turns called s', (BarImplSim.sockMonitor BarImplSim.readDWfromSock turns).run s =
    some ((called, true), s') ∧ called.filter (· ≠ .ignored) = events

namespace BarImplSim

/-- No handler has the command of this header. -/
def Unhandled (header : Word32) : Prop :=
  (header &&& 0xffff).setWidth 16 ∉
    [cmdCmplToHost, cmdWriteToHost, cmdReadFromHost, cmdAckCmpl, cmdAckWrite, cmdAckTime]

instance (header : Word32) : Decidable (Unhandled header) := inferInstanceAs (Decidable (_ ∉ _))

/-- Of what `buffer` holds for the headers behind the stream, none has the command
of a handler before one is zero. Every second word is dropped for a message ID. -/
def EndsQuietly (stale : Nat → Word32) : Prop :=
  ∃ m, stale (2 * m) = 0 ∧ ∀ j < m, Unhandled (stale (2 * j))

end BarImplSim

/-- The messages as they are written to the socket. -/
def wireBytes (messages : List (Word32 × FliEvent)) : List Word8 :=
  (messages.flatMap fun m => Flisock.sent m.1 m.2).flatMap littleEndian

/-- One byte, and what the others make of the rest. -/
theorem overwrite_cons_toNat (b : Word8) (bytes : List Word8) (w : Word32) :
    (overwrite (b :: bytes) w).toNat =
      b.toNat + 256 * ((overwrite bytes (w >>> 8)).toNat % 2 ^ 24) := by
  have byte := b.isLt
  rw [overwrite, BitVec.toNat_add, BitVec.toNat_shiftLeft, BitVec.toNat_setWidth, Nat.shiftLeft_eq]
  omega

/-- Four bytes leave nothing of what was there. -/
theorem overwrite_littleEndian (w old : Word32) : overwrite (littleEndian w) old = w := by
  have bound := w.isLt
  apply BitVec.eq_of_toNat_eq
  unfold littleEndian
  rw [overwrite_cons_toNat, overwrite_cons_toNat, overwrite_cons_toNat, overwrite_cons_toNat,
    BitVec.extractLsb'_toNat, BitVec.extractLsb'_toNat, BitVec.extractLsb'_toNat,
    BitVec.extractLsb'_toNat, Nat.shiftRight_eq_div_pow, Nat.shiftRight_eq_div_pow,
    Nat.shiftRight_eq_div_pow, Nat.shiftRight_eq_div_pow]
  omega

/-- The words are to be read one by one, and `buffer` holds `stale` behind them. -/
structure Sock.Shows (stale : Nat → Word32) (s : Sock) (words : List Word32) : Prop where
  stream : s.bytes = words.flatMap littleEndian
  whole : ∀ c ∈ s.chunks, c.bytes.length = 4
  behind : ∀ k, s.buffer (s.chunks.length + k) = stale k

namespace BarImplSim

/-- A `read()` that returns four bytes reads a word. -/
theorem readDWfromSock_consumes (stale : Nat → Word32) (w : Word32) :
    Consumes (Sock.Shows stale) readDWfromSock [w] w := by
  rintro ⟨chunks, buffer⟩ rest ⟨stream, whole, behind⟩
  cases chunks with
  | nil => exact absurd stream.symm (List.cons_ne_nil _ _)
  | cons c later =>
      have four : c.bytes.length = 4 := whole c List.mem_cons_self
      have split : c.bytes ++ later.flatMap Chunk.bytes =
          littleEndian w ++ rest.flatMap littleEndian := stream
      obtain ⟨here, stream⟩ := List.append_inj split four
      refine ⟨⟨later, fun n => buffer (n + 1)⟩, ?_, stream, ?_, ?_⟩
      · show some (overwrite c.bytes (buffer 0), _) = _
        rw [here, overwrite_littleEndian]
      · exact fun d mem => whole d (List.mem_cons_of_mem c mem)
      · intro k
        rw [← behind k, List.length_cons, Nat.add_right_comm]

end BarImplSim

/-! ## Behind the stream -/

/-- Nothing more is to be read. -/
def Sock.atEnd (stale : Nat → Word32) : Sock := ⟨[], stale⟩

theorem Sock.Shows.eq_atEnd {stale : Nat → Word32} {s : Sock} (shows_ : s.Shows stale []) :
    s = Sock.atEnd stale := by
  obtain ⟨chunks, buffer⟩ := s
  cases chunks with
  | nil =>
      have same : buffer = stale := funext fun k => by
        rw [← shows_.behind k, List.length_nil, Nat.zero_add]
      rw [same, Sock.atEnd]
  | cons c later =>
      have empty : c.bytes ++ later.flatMap Chunk.bytes = [] := shows_.stream
      exact absurd (List.append_eq_nil_iff.mp empty).1 c.nonempty

namespace BarImplSim

section Handler

variable {σ : Type} {read : StateT σ Option Word32} {header : Word32} {msgsize : Word16}

theorem handler_of_unhandled (unhandled : Unhandled header) :
    handler read ((header &&& 0xffff).setWidth 16) msgsize = pure .ignored := by
  simp only [Unhandled, List.mem_cons, List.not_mem_nil, or_false, not_or] at unhandled
  obtain ⟨cmpl, write, request, ackCmpl, ackWrite, ackTime⟩ := unhandled
  rw [handler, if_neg cmpl, if_neg write, if_neg request, if_neg ackCmpl, if_neg ackWrite,
    if_neg ackTime]

/-- A handler is called for every command that has one. -/
theorem unhandled_of_ignored {s s' : σ}
    (ran : (handler read ((header &&& 0xffff).setWidth 16) msgsize).run s =
      some (.ignored, s')) : Unhandled header := by
  unfold handler at ran
  unfold Unhandled
  split_ifs at ran with cmpl write request ackCmpl ackWrite ackTime
  · simp [doCompleteToHost, Option.bind_eq_some_iff] at ran
  · simp [doWriteToHost, Option.bind_eq_some_iff] at ran
  · simp [doReadFromHost, Option.bind_eq_some_iff] at ran
  · simp at ran
  · simp at ran
  · simp [doAcknowledgeTime, Option.bind_eq_some_iff] at ran
  · simp only [List.mem_cons, List.not_mem_nil, or_false, not_or]
    exact ⟨cmpl, write, request, ackCmpl, ackWrite, ackTime⟩

end Handler

variable {stale : Nat → Word32}

/-- A turn behind the stream. -/
theorem sockMonitorTurn_atEnd :
    (sockMonitorTurn readDWfromSock).run (Sock.atEnd stale) =
      if stale 0 = 0 then some (none, Sock.atEnd fun n => stale (n + 1))
      else ((handler readDWfromSock ((stale 0 &&& 0xffff).setWidth 16)
        (((stale 0 >>> 16) &&& 0xffff).setWidth 16)).run
          (Sock.atEnd fun n => stale (n + 2))).map fun r => (some r.1, r.2) := by
  have turn : (sockMonitorTurn readDWfromSock).run (Sock.atEnd stale) =
      StateT.run (if stale 0 = 0 then pure none else do
        let _ ← readDWfromSock
        let event ← handler readDWfromSock ((stale 0 &&& 0xffff).setWidth 16)
          (((stale 0 >>> 16) &&& 0xffff).setWidth 16)
        pure (some event)) (Sock.atEnd fun n => stale (n + 1)) := rfl
  rw [turn]
  split
  · rfl
  · show ((handler readDWfromSock ((stale 0 &&& 0xffff).setWidth 16)
      (((stale 0 >>> 16) &&& 0xffff).setWidth 16)).run
        (Sock.atEnd fun n => stale (n + 2))).bind (fun r => some (some r.1, r.2)) = _
    rw [Option.map_eq_bind]
    rfl

theorem endsQuietly_of_zero (zero : stale 0 = 0) : EndsQuietly stale :=
  ⟨0, zero, fun j none => absurd none (Nat.not_lt_zero j)⟩

theorem endsQuietly_of_unhandled (unhandled : Unhandled (stale 0))
    (later : EndsQuietly fun n => stale (n + 2)) : EndsQuietly stale := by
  obtain ⟨m, zero, before⟩ := later
  refine ⟨m + 1, zero, fun j small => ?_⟩
  cases j with
  | zero => exact unhandled
  | succ j => exact before j (by omega)

theorem dispatches_atEnd_of_zero (zero : stale 0 = 0) : (Sock.atEnd stale).Dispatches [] := by
  refine ⟨1, [], Sock.atEnd fun n => stale (n + 1), ?_, rfl⟩
  rw [sockMonitor_succ, sockMonitorTurn_atEnd, if_pos zero]
  rfl

/-- After the peer has closed the connection no handler is called, exactly when
a zero is found before the command of one. -/
theorem dispatches_atEnd_iff : (Sock.atEnd stale).Dispatches [] ↔ EndsQuietly stale := by
  constructor
  · rintro ⟨turns, called, s', ran, silent⟩
    induction turns generalizing stale called with
    | zero => cases ran
    | succ turns ih =>
        by_cases zero : stale 0 = 0
        · exact endsQuietly_of_zero zero
        rw [sockMonitor_succ, sockMonitorTurn_atEnd, if_neg zero] at ran
        obtain ⟨_, turn, ran⟩ := Option.bind_eq_some_iff.mp ran
        obtain ⟨⟨event, s₁⟩, handled, rfl⟩ := Option.map_eq_some_iff.mp turn
        obtain ⟨⟨⟨later, ended⟩, s₂⟩, others, prepended⟩ := Option.map_eq_some_iff.mp ran
        cases prepended
        -- an event of a handler would be among those called
        have ignored : event = .ignored := by
          by_contra kept
          rw [List.singleton_append, List.filter_cons_of_pos (by simpa using kept)] at silent
          exact List.cons_ne_nil _ _ silent
        subst ignored
        have unhandled := unhandled_of_ignored handled
        rw [handler_of_unhandled unhandled] at handled
        cases handled
        exact endsQuietly_of_unhandled unhandled (ih later others silent)
  · rintro ⟨m, zero, before⟩
    induction m generalizing stale with
    | zero => exact dispatches_atEnd_of_zero zero
    | succ m ih =>
        by_cases now : stale 0 = 0
        · exact dispatches_atEnd_of_zero now
        obtain ⟨turns, called, s', ran, silent⟩ :=
          @ih (fun n => stale (n + 2)) zero fun j small => before (j + 1) (by omega)
        refine ⟨turns + 1, .ignored :: called, s', ?_, silent⟩
        rw [sockMonitor_succ, sockMonitorTurn_atEnd, if_neg now,
          handler_of_unhandled (before 0 m.succ_pos)]
        exact congrArg (Option.map (BarImplSim.before [.ignored])) ran

end BarImplSim

/-- The handlers that are called are determined. -/
theorem Sock.Dispatches.unique {s : Sock} {events others : List HostEvent}
    (one : s.Dispatches events) (other : s.Dispatches others) : events = others := by
  obtain ⟨n, called, s₁, one, rfl⟩ := one
  obtain ⟨m, called', s₂, other, rfl⟩ := other
  have onward := BarImplSim.sockMonitor_ended one m
  rw [Nat.add_comm, BarImplSim.sockMonitor_ended other n] at onward
  cases onward
  rfl

theorem FliEvent.message_ne_ignored (event : FliEvent) : event.message ≠ .ignored := by
  cases event <;> exact HostEvent.noConfusion

/-- **Whole reads.** When every `read()` before the end of the stream returns a
word, the handlers called are those of the messages, and none behind the end,
exactly when the uninitialised variable is zero there before it has a command. -/
theorem dispatches_iff_of_whole (messages : List (Word32 × FliEvent)) (s : Sock)
    (stream : s.bytes = wireBytes messages) (whole : ∀ c ∈ s.chunks, c.bytes.length = 4) :
    s.Dispatches (messages.map fun m => m.2.message) ↔
      BarImplSim.EndsQuietly fun k => s.buffer (s.chunks.length + k) := by
  obtain ⟨s₁, goes, left⟩ := BarImplSim.sockMonitor_sent
    (BarImplSim.readDWfromSock_consumes fun k => s.buffer (s.chunks.length + k)) messages s []
    ⟨by rw [List.append_nil]; exact stream, whole, fun _ => rfl⟩
  have sent : (messages.map fun m => m.2.message).filter (· ≠ .ignored) =
      messages.map fun m => m.2.message := by
    rw [List.filter_eq_self]
    intro event member
    obtain ⟨m, -, rfl⟩ := List.mem_map.mp member
    exact decide_eq_true m.2.message_ne_ignored
  rw [← BarImplSim.dispatches_atEnd_iff, ← left.eq_atEnd]
  constructor
  · rintro ⟨turns, called, s', ended, heard⟩
    have onward := BarImplSim.sockMonitor_ended ended messages.length
    rw [Nat.add_comm, BarImplSim.sockMonitor_add goes] at onward
    obtain ⟨⟨⟨more, final⟩, s₂⟩, others, joined⟩ := Option.map_eq_some_iff.mp onward
    cases joined
    rw [List.filter_append, sent] at heard
    exact ⟨turns, more, _, others, List.append_right_eq_self.mp heard⟩
  · rintro ⟨turns, more, s', ended, silent⟩
    refine ⟨messages.length + turns, (messages.map fun m => m.2.message) ++ more, s', ?_, ?_⟩
    · rw [BarImplSim.sockMonitor_add goes, ended]
      rfl
    · rw [List.filter_append, sent, silent, List.append_nil]

/-- The peer has closed the connection behind an acknowledgement and the time.
`buffer` is left with a header that has no handler, an ID, and a zero. -/
def acknowledged : Sock where
  chunks := [⟨[0x09, 0x00, 0x02, 0x00], by decide, by decide⟩,
    ⟨[0x07, 0x00, 0x00, 0x00], by decide, by decide⟩,
    ⟨[0x08, 0x00, 0x04, 0x00], by decide, by decide⟩,
    ⟨[0x08, 0x00, 0x00, 0x00], by decide, by decide⟩,
    ⟨[0x01, 0x00, 0x00, 0x00], by decide, by decide⟩,
    ⟨[0x02, 0x00, 0x00, 0x00], by decide, by decide⟩]
  buffer := fun n => if n = 6 then 0x0002000b else if n = 7 then 9 else 0

theorem dispatches_acknowledged :
    acknowledged.Dispatches [.acknowledgeWrite 2, .acknowledgeTime 4 0x100000002] :=
  (dispatches_iff_of_whole [(7, .ackWrite), (8, .ackTime 0x100000002)] acknowledged (by decide)
    (by decide)).mpr ⟨1, rfl, by decide⟩

/-- An acknowledgement, its first word in two halves. -/
def acknowledgedInHalves : Sock where
  chunks := [⟨[0x09, 0x00], by decide, by decide⟩, ⟨[0x02, 0x00], by decide, by decide⟩,
    ⟨[0x07, 0x00, 0x00, 0x00], by decide, by decide⟩]
  buffer := fun _ => 0

/-- Nothing is to be read, and `buffer` holds the header of an acknowledgement. -/
def closed : Sock where
  chunks := []
  buffer := fun n => if n = 0 then 9 else 0

/-- In halves, an acknowledgement with message ID 7 also makes the monitor
deliver a completion; and a handler is called after the end of the stream. -/
theorem segmentation_matters :
    acknowledgedInHalves.bytes = wireBytes [(7, .ackWrite)] ∧
      ¬ acknowledgedInHalves.Dispatches [.acknowledgeWrite 2] ∧
      acknowledgedInHalves.Dispatches [.acknowledgeWrite 0, .completeToHost 0 0] ∧
      closed.bytes = wireBytes [] ∧ ¬ closed.Dispatches [] ∧
      closed.Dispatches [.acknowledgeWrite 0] := by
  have halves : acknowledgedInHalves.Dispatches [.acknowledgeWrite 0, .completeToHost 0 0] :=
    ⟨3, _, _, rfl, rfl⟩
  have stale : closed.Dispatches [.acknowledgeWrite 0] := ⟨2, _, _, rfl, rfl⟩
  refine ⟨by decide, ?_, halves, rfl, ?_, stale⟩
  · intro whole
    cases whole.unique halves
  · intro stops
    cases stops.unique stale

end Librorc
