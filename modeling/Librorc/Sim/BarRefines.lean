import Librorc.Sim.Flisock
import Librorc.Sim.HardwareBar
import Librorc.Sim.LockDiscipline
import Librorc.Sim.SockMonitor
import Librorc.Sim.TrnMonitor
import Librorc.Sim.Wire

/-!
# A simulated BAR is a BAR

The library is built on `bar_impl_hw` or on `bar_impl_sim`. A call of the latter
goes through the socket to the simulator, to the simulated board, and its answer
comes back through the monitor thread. With a board that stores what it is
given, the calls of one thread return what they return on the hardware and
leave the same memory.
-/

namespace Librorc

open Librorc.Lib

/-! ## The board -/

/-- `byte_enable` of a request: four bits for the first word and four for the
last. -/
def byteEnabled (enable : Word8) (words k : ℕ) : Bool :=
  if k < 4 then enable.getLsbD k
  else if k < 4 * (words - 1) then true
  else enable.getLsbD (4 + k % 4)

/-- A board with memory behind a BAR: the packets its reads are completed with.
In the bytes that are not enabled there may be anything. -/
structure SimBoard where
  number : Word8
  completion : FliState → Word32 → TrnHeader
  carries : ∀ s w, ∀ k < 4, s.byteEnable.getLsbD k = true →
    byteOf (Flisock.firstWord (completion s w)) k = byteOf w k

namespace SimBoard

variable (board : SimBoard)

/-- The board serves the request on the signals. -/
def serve (s : FliState) (bar : ByteMem) : Option (FliEvent × ByteMem) :=
  let addr := (s.addr - Flisock.addrOffset).toNat
  if s.bar ≠ board.number then none
  else if s.wrEn then
    let words := s.wrLen.toNat
    some (.ackWrite,
      bar.store addr (4 * words) (byteEnabled s.byteEnable words) (wordsByte s.payload))
  else if s.rdEn then some (.cmplD (board.completion s (bar.load32 addr)), bar)
  else none

end SimBoard

/-! ## A session -/

/-- The host with its mutex and socket, the simulator and the memory of the
board. -/
structure SimSession where
  host : SimMutex
  fli : FliState
  bar : ByteMem

namespace BarCall

/-- The call of a `bar_impl_sim`. -/
def simulated (number : Word8) (env : CallEnv) : BarCall → BarImplSim.SimM (List Word32)
  | .memcopy target source => do
      BarImplSim.memcopyTo number env target source
      pure []
  | .get32 address => do
      let data ← BarImplSim.get32 number env address
      pure [data]
  | .get16 address => do
      let data ← BarImplSim.get16 number env address
      pure [data.setWidth 32]
  | .set32 address data => do
      BarImplSim.set32 number env address data
      pure []
  | .set16 address data => do
      BarImplSim.set16 number env address data
      pure []

def isGet16 : BarCall → Bool
  | .get16 _ => true
  | _ => false

/-- The data behind the loop of the call, once the monitor thread has handled
`event`: reads wait for `m_read_from_dev_done`, writes for
`m_write_to_dev_done`. -/
def reply : BarCall → HostEvent → Option Word64
  | .get32 _, .completeToHost _ data | .get16 _, .completeToHost _ data => some (data.setWidth 64)
  | .memcopy _ _, .acknowledgeWrite _ | .set32 _ _, .acknowledgeWrite _
  | .set16 _ _, .acknowledgeWrite _ => some 0
  | _, _ => none

/-- What the call has written to the socket when it waits for its reply. -/
def message (number : Word8) (c : BarCall) (host : SimMutex) : List Word32 :=
  ((c.simulated number ⟨true, none⟩).run.run host).2.socket.drop host.socket.length

end BarCall

namespace SimSession

variable (board : SimBoard) (time : Word64)

/-- The simulator reads a message, the board serves the request, and the monitor
thread handles the answer. -/
def answer (message : List Word32) (s : SimSession) : Option (HostEvent × SimSession) := do
  let (fli, _) ← (Flisock.sockreader takeWord time s.fli.served).run message
  let (event, bar) ← board.serve fli s.bar
  let (handled, _) ← (BarImplSim.sockMonitorTurn takeWord).run (Flisock.sent fli.msgid event)
  let handled ← handled
  some (handled, { s with fli := fli, bar := bar })

/-- A call, `none` when it never returns. -/
def call (c : BarCall) (s : SimSession) : Option (List Word32 × SimSession) := do
  let (event, answered) ← s.answer board time (c.message board.number s.host)
  match (c.simulated board.number ⟨true, c.reply event⟩).run.run s.host with
  | (.ok result, host) => some (result, { answered with host := host })
  | (.error _, _) => none

/-- A sequence of calls. -/
def run : List BarCall → SimSession → Option (List (List Word32) × SimSession)
  | [], s => some ([], s)
  | c :: calls, s => do
      let (result, s) ← s.call board time c
      let (later, s) ← run calls s
      some (result :: later, s)

end SimSession

/-! ## One call on the host -/

namespace BarCall

variable (number : Word8) (c : BarCall)

/-- The message of the call. -/
def sent : BarCall → HostCall
  | .memcopy target source => .memcopy target source
  | .get32 address => .get32 address
  | .get16 address => .get16 address
  | .set32 address data => .set32 address data
  | .set16 address data => .set16 address data

/-- What the call returns of its reply. -/
def returned (data : Word64) : BarCall → List Word32
  | .get32 _ => [data.setWidth 32]
  | .get16 _ => [(data.setWidth 16 : Word16).setWidth 32]
  | _ => []

theorem message_eq {host : SimMutex} (free : host.locked = false) :
    c.message number host = BarImplSim.sent number host.msgid c.sent := by
  obtain ⟨locked, msgid, socket⟩ := host
  obtain rfl : locked = false := free
  have written : ((c.simulated number ⟨true, none⟩).run.run ⟨false, msgid, socket⟩).2.socket =
      socket ++ BarImplSim.sent number msgid c.sent := by
    cases c <;> rfl
  rw [message, written, List.drop_left]

theorem simulated_returns {host : SimMutex} (free : host.locked = false) (data : Word64) :
    (c.simulated number ⟨true, some data⟩).run.run host =
      (.ok (c.returned data),
        ⟨c.isGet16, host.msgid + 1, host.socket ++ BarImplSim.sent number host.msgid c.sent⟩) := by
  obtain ⟨locked, msgid, socket⟩ := host
  obtain rfl : locked = false := free
  cases c <;> rfl

/-- A call that finds the mutex taken has written nothing. -/
theorem message_locked {host : SimMutex} (locked : host.locked = true) :
    c.message number host = [] := by
  obtain ⟨held, msgid, socket⟩ := host
  obtain rfl : held = true := locked
  have written : ((c.simulated number ⟨true, none⟩).run.run ⟨true, msgid, socket⟩).2.socket =
      socket := by
    cases c <;> rfl
  rw [message, written]
  exact List.drop_length

end BarCall

/-! ## One request on the board -/

namespace SimBoard

variable (board : SimBoard) {time : Word64} {s : FliState} {msgid : Word32} {addr : ℕ}
  {enable : Word8} {payload : List Word32}

theorem serve_read (presents : s.Presents time msgid (.read addr board.number enable))
    (bar : ByteMem) :
    board.serve s bar = some (.cmplD (board.completion s (bar.load32 addr)), bar) := by
  obtain ⟨enables, -, -, -, -, at_addr, number, -⟩ := presents
  obtain ⟨read, write, -⟩ : s.rdEn = true ∧ s.wrEn = false ∧ s.cmplEn = false := by
    simpa [FliState.enables] using enables
  simp [serve, number, read, write, at_addr]

theorem serve_write (presents : s.Presents time msgid (.write addr board.number enable payload))
    (bar : ByteMem) :
    board.serve s bar = some (.ackWrite, bar.store addr (4 * payload.length)
      (byteEnabled enable payload.length) (wordsByte payload)) := by
  obtain ⟨enables, -, -, -, -, at_addr, number, enabled, carried⟩ := presents
  obtain ⟨-, write, -⟩ : s.rdEn = false ∧ s.wrEn = true ∧ s.cmplEn = false := by
    simpa [FliState.enables] using enables
  have length : s.wrLen.toNat = payload.length := by
    rw [← carried, FliState.payload, List.length_map, List.length_range]
  simp [serve, number, write, at_addr, enabled, carried, length]

end SimBoard

namespace SimSession

variable (board : SimBoard) (time : Word64)

/-- A message goes to the board, and its answer comes back. -/
theorem answer_eq (s : SimSession) (msgid : Word32) {c : HostCall} (fits : c.Fits)
    {Served : FliEvent → ByteMem → Prop}
    (serves : ∀ fli, fli.Presents time msgid (c.message board.number) →
      ∃ event bar, board.serve fli s.bar = some (event, bar) ∧ Served event bar) :
    ∃ event fli bar, Served event bar ∧
      s.answer board time (BarImplSim.sent board.number msgid c) =
        some (event.message, ⟨s.host, fli, bar⟩) := by
  obtain ⟨fli, reads, presents⟩ :=
    Flisock.sockreader_sent takeWord_consumes time s.fli board.number msgid fits
  obtain ⟨event, bar, served, holds⟩ := serves fli presents
  have read := reads.run_list []
  have handled := (BarImplSim.sockMonitorTurn_sent takeWord_consumes fli.msgid event).run_list []
  rw [List.append_nil] at read handled
  refine ⟨event, fli, bar, holds, ?_⟩
  simp only [answer, read, served, handled, Option.bind_eq_bind, Option.bind_some]

end SimSession

/-! ## Both BARs -/

/-- The four bytes of a single word, or all of several. -/
theorem byteEnabled_whole {words k : ℕ} (inside : k < 4 * words) :
    byteEnabled (if 1 < words then 0xff else 0x0f) words k = true := by
  have all : ∀ j < 8, (0xff : Word8).getLsbD j = true := by decide
  have first : ∀ j < 4, (0x0f : Word8).getLsbD j = true := by decide
  unfold byteEnabled
  rcases Nat.lt_or_ge 1 words with several | single
  · rw [if_pos several]
    split
    · exact all k (by omega)
    · split
      · rfl
      · exact all _ (by omega)
  · rw [if_neg (show ¬ 1 < words by omega), if_pos (show k < 4 by omega)]
    exact first k (by omega)

/-- The two bytes of one half of a word. -/
theorem byteEnabled_half (odd : Bool) {k : ℕ} (inside : k < 4) :
    byteEnabled (if odd then 0x0c else 0x03) 1 k = true ↔
      2 * odd.toNat ≤ k ∧ k < 2 * odd.toNat + 2 := by
  rw [byteEnabled, if_pos inside]
  revert k
  cases odd <;> decide

theorem wordsByte_twice (data : Word16) (odd : Bool) {k : ℕ} (inside : k < 2) :
    wordsByte [(data ++ data : Word32)] (2 * odd.toNat + k) = byteOf data k := by
  have low := odd.toNat_le
  rw [wordsByte_singleton _ (by omega)]
  cases odd with
  | false =>
      rw [show 2 * false.toNat + k = k from Nat.zero_add k]
      exact byteOf_append_low _ _ (by omega)
  | true => exact byteOf_append_high (s := 2) data data k rfl

/-- An index of a BAR as a byte address. -/
theorem shifted {address size : Word64} {n k : ℕ} (scale : 2 ^ n = k)
    (within : k * address.toNat < size.toNat) :
    address <<< n < size ∧ (address <<< n).toNat = k * address.toNat := by
  have bound := size.isLt
  have place : (address <<< n).toNat = k * address.toNat := by
    rw [BitVec.toNat_shiftLeft, Nat.shiftLeft_eq, scale, Nat.mul_comm, Nat.mod_eq_of_lt (by omega)]
  refine ⟨?_, place⟩
  rw [BitVec.lt_def, place]
  exact within

namespace BarCall

/-- What the simulator has room for, and the one half-word that `get16` takes
from the place where the simulator has it. -/
def Sendable : BarCall → Prop
  | .memcopy _ source => 0 < source.length ∧ source.length ≤ pWrDataSize
  | .get16 address => address.toNat % 2 = 0
  | _ => True

instance : DecidablePred Sendable
  | .memcopy _ _ => inferInstanceAs (Decidable (_ ∧ _))
  | .get16 _ => inferInstanceAs (Decidable (_ = _))
  | .get32 _ | .set32 _ _ | .set16 _ _ => inferInstanceAs (Decidable True)

variable {c : BarCall} {size : Word64}

theorem sent_fits (within : c.Within size) (small : size.toNat ≤ 2 ^ 32) (sendable : c.Sendable) :
    c.sent.Fits := by
  cases c with
  | memcopy target source =>
      obtain ⟨some, room⟩ := sendable
      have within : 4 * target.toNat + 4 * source.length ≤ size.toNat := within
      exact ⟨by omega, some, room⟩
  | get32 address =>
      have within : 4 * address.toNat + 4 ≤ size.toNat := within
      exact Nat.lt_of_lt_of_le (by omega) small
  | get16 address =>
      have within : 2 * address.toNat + 2 ≤ size.toNat := within
      exact Nat.lt_of_lt_of_le (by omega) small
  | set32 address data =>
      have within : 4 * address.toNat + 4 ≤ size.toNat := within
      exact Nat.lt_of_lt_of_le (by omega) small
  | set16 address data =>
      have within : 2 * address.toNat + 2 ≤ size.toNat := within
      exact Nat.lt_of_lt_of_le (by omega) small

end BarCall

namespace BarImplHw

variable (b : BarImplHw) {address target : Word64}

theorem get32_within (within : 4 * address.toNat + 4 ≤ b.size.toNat) :
    b.get32 address = b.bar.load32 (4 * address.toNat) := by
  obtain ⟨inside, place⟩ :=
    shifted (n := 2) (k := 4) rfl (show 4 * address.toNat < b.size.toNat by omega)
  rw [get32, if_pos inside, place]

theorem get16_within (within : 2 * address.toNat + 2 ≤ b.size.toNat) :
    b.get16 address = b.bar.load16 (2 * address.toNat) := by
  obtain ⟨inside, place⟩ :=
    shifted (n := 1) (k := 2) rfl (show 2 * address.toNat < b.size.toNat by omega)
  rw [get16, if_pos inside, place]

theorem set32_within (within : 4 * address.toNat + 4 ≤ b.size.toNat) (data : Word32) :
    b.set32 address data = ⟨b.size, b.bar.storeAll (4 * address.toNat) 4 (byteOf data)⟩ := by
  obtain ⟨inside, place⟩ :=
    shifted (n := 2) (k := 4) rfl (show 4 * address.toNat < b.size.toNat by omega)
  rw [set32, if_pos inside, place]

theorem set16_within (within : 2 * address.toNat + 2 ≤ b.size.toNat) (data : Word16) :
    b.set16 address data = ⟨b.size, b.bar.storeAll (2 * address.toNat) 2 (byteOf data)⟩ := by
  obtain ⟨inside, place⟩ :=
    shifted (n := 1) (k := 2) rfl (show 2 * address.toNat < b.size.toNat by omega)
  rw [set16, if_pos inside, place]

theorem memcopy_within {source : List Word32}
    (within : 4 * target.toNat + 4 * source.length ≤ b.size.toNat) (some : 0 < source.length) :
    b.memcopy target source =
      ⟨b.size, b.bar.storeAll (4 * target.toNat) (4 * source.length) (wordsByte source)⟩ := by
  obtain ⟨-, place⟩ :=
    shifted (n := 2) (k := 4) rfl (show 4 * target.toNat < b.size.toNat by omega)
  rw [memcopy, place]

theorem size_call (c : BarCall) : (b.call c).2.size = b.size := by
  cases c with
  | memcopy target source => rfl
  | get32 address => rfl
  | get16 address => rfl
  | set32 address data =>
      show (b.set32 address data).size = b.size
      unfold set32
      split <;> rfl
  | set16 address data =>
      show (b.set16 address data).size = b.size
      unfold set16
      split <;> rfl

end BarImplHw

namespace SimSession

variable (board : SimBoard) (time : Word64) {c : BarCall} {size : Word64} {s : SimSession}

/-- The answer makes the call return what it returns on the hardware, and the
memory is what the hardware would have. -/
structure Answers (size : Word64) (c : BarCall) (bar : ByteMem) (event : FliEvent)
    (bar' : ByteMem) : Prop where
  memory : bar' = ((⟨size, bar⟩ : BarImplHw).call c).2.bar
  reply : ∃ data, c.reply event.message = some data ∧
    c.returned data = ((⟨size, bar⟩ : BarImplHw).call c).1

theorem served (within : c.Within size) (sendable : c.Sendable) (msgid : Word32) {fli : FliState}
    (presents : fli.Presents time msgid (c.sent.message board.number)) (bar : ByteMem) :
    ∃ event bar', board.serve fli bar = some (event, bar') ∧ Answers size c bar event bar' := by
  cases c with
  | memcopy target source =>
      -- a single word has the byte enables of one word, more have all eight
      have whole : bar.store (4 * target.toNat) (4 * source.length)
          (byteEnabled (if 1 < source.length then 0xff else 0x0f) source.length)
          (wordsByte source) =
            bar.storeAll (4 * target.toNat) (4 * source.length) (wordsByte source) :=
        ByteMem.store_congr fun k inside => ⟨byteEnabled_whole inside, rfl⟩
      refine ⟨_, _, board.serve_write presents bar, ⟨whole.trans ?_, 0, rfl, rfl⟩⟩
      exact (congrArg BarImplHw.bar
        (BarImplHw.memcopy_within ⟨size, bar⟩ within sendable.1)).symm
  | get32 address =>
      have enable : fli.byteEnable = 0x0f := presents.2.2.2.2.2.2.2
      have all : ∀ k < 4, (0x0f : Word8).getLsbD k = true := by decide
      refine ⟨_, _, board.serve_read presents bar, ⟨rfl, _, rfl, ?_⟩⟩
      show [_] = [(⟨size, bar⟩ : BarImplHw).get32 address]
      rw [BarImplHw.get32_within ⟨size, bar⟩ within, BitVec.setWidth_setWidth_of_le _ (by omega),
        BitVec.setWidth_eq]
      -- the board's word may differ only in bytes that are not asked for
      refine congrArg (fun w => [w]) (bar.eq_load32 fun k inside => ?_)
      rw [board.carries fli _ k inside (enable ▸ all k inside), bar.byteOf_load32 _ inside]
  | get16 address =>
      -- of an odd address the low half would be returned, which has not been asked for
      have even : address.toNat % 2 = 0 := sendable
      have enable : fli.byteEnable = 0x03 := by
        have told := presents.2.2.2.2.2.2.2
        rwa [if_neg (by omega)] at told
      have low : ∀ k < 2, (0x03 : Word8).getLsbD k = true := by decide
      have place : 4 * (address.toNat / 2) = 2 * address.toNat := by omega
      refine ⟨_, _, board.serve_read presents bar, ⟨rfl, _, rfl, ?_⟩⟩
      show [_] = [((⟨size, bar⟩ : BarImplHw).get16 address).setWidth 32]
      rw [BarImplHw.get16_within ⟨size, bar⟩ within, place]
      refine congrArg (fun h : Word16 => [h.setWidth 32])
        ((BitVec.setWidth_setWidth_of_le _ (by omega)).trans (bar.low_eq_load16 fun k inside => ?_))
      rw [board.carries fli _ k (by omega) (enable ▸ low k inside),
        bar.byteOf_load32 _ (by omega)]
  | set32 address data =>
      have whole : bar.store (4 * address.toNat) 4 (byteEnabled 0x0f 1) (wordsByte [data]) =
          bar.storeAll (4 * address.toNat) 4 (byteOf data) :=
        ByteMem.store_congr fun k inside =>
          ⟨@byteEnabled_whole 1 k inside, wordsByte_singleton data inside⟩
      refine ⟨_, _, board.serve_write presents bar, ⟨whole.trans ?_, 0, rfl, rfl⟩⟩
      exact (congrArg BarImplHw.bar (BarImplHw.set32_within ⟨size, bar⟩ within data)).symm
  | set16 address data =>
      -- which half of the word
      obtain ⟨odd, half⟩ : ∃ odd : Bool, address.toNat % 2 = odd.toNat := by
        rcases Nat.mod_two_eq_zero_or_one address.toNat with even | odd
        · exact ⟨false, even⟩
        · exact ⟨true, odd⟩
      have enable : (if address.toNat % 2 = 1 then 0x0c else 0x03 : Word8) =
          if odd then 0x0c else 0x03 := by
        rw [half]
        cases odd <;> rfl
      have place : 4 * (address.toNat / 2) + 2 * odd.toNat = 2 * address.toNat := by omega
      have low := odd.toNat_le
      -- the half is sent twice, and the byte enables choose the copy
      have window : bar.store (4 * (address.toNat / 2)) 4
          (byteEnabled (if odd then 0x0c else 0x03) 1) (wordsByte [(data ++ data : Word32)]) =
            bar.storeAll (2 * address.toNat) 2 (byteOf data) := by
        rw [← place]
        exact ByteMem.store_window (by omega) (fun k inside => byteEnabled_half odd inside)
          fun k inside => wordsByte_twice data odd inside
      refine ⟨_, _, board.serve_write presents bar, ⟨?_, 0, rfl, rfl⟩⟩
      rw [enable]
      exact window.trans
        (congrArg BarImplHw.bar (BarImplHw.set16_within ⟨size, bar⟩ within data)).symm

/-- A call does what it does on the hardware, and leaves the mutex free unless it
is a `get16`. -/
theorem call_refines (free : s.host.locked = false) (within : c.Within size)
    (small : size.toNat ≤ 2 ^ 32) (sendable : c.Sendable) :
    ∃ s', s.call board time c = some (((⟨size, s.bar⟩ : BarImplHw).call c).1, s') ∧
      s'.bar = ((⟨size, s.bar⟩ : BarImplHw).call c).2.bar ∧ s'.host.locked = c.isGet16 := by
  obtain ⟨event, fli, bar, ⟨memory, data, replied, result⟩, answered⟩ :=
    s.answer_eq board time s.host.msgid (BarCall.sent_fits within small sendable)
      fun fli presents => served board time within sendable s.host.msgid presents s.bar
  rw [← c.message_eq board.number free] at answered
  refine ⟨⟨⟨c.isGet16, s.host.msgid + 1,
    s.host.socket ++ BarImplSim.sent board.number s.host.msgid c.sent⟩, fli, bar⟩, ?_, memory, rfl⟩
  simp only [call, answered, replied, c.simulated_returns board.number free, result,
    Option.bind_eq_bind, Option.bind_some]

/-- Behind a `get16` no call returns. -/
theorem call_locked (locked : s.host.locked = true) : s.call board time c = none := by
  have nothing : s.answer board time [] = none := rfl
  rw [call, c.message_locked board.number locked, nothing]
  rfl

theorem run_cons {r : List Word32} {s' : SimSession} (called : s.call board time c = some (r, s'))
    (calls : List BarCall) :
    s.run board time (c :: calls) = (s'.run board time calls).map fun l => (r :: l.1, l.2) := by
  rw [run, called]
  show (s'.run board time calls).bind _ = _
  cases s'.run board time calls with
  | none => rfl
  | some later => rfl

/-- The calls return when no `get16` comes before another call. -/
theorem run_refines (small : size.toNat ≤ 2 ^ 32) {calls : List BarCall}
    (within : ∀ c ∈ calls, c.Within size ∧ c.Sendable)
    (last : ∀ c ∈ calls.dropLast, c.isGet16 = false) (free : s.host.locked = false) :
    ∃ s', s.run board time calls = some ((BarImplHw.run calls ⟨size, s.bar⟩).1, s') ∧
      s'.bar = (BarImplHw.run calls ⟨size, s.bar⟩).2.bar := by
  induction calls generalizing s with
  | nil => exact ⟨s, rfl, rfl⟩
  | cons c calls ih =>
      obtain ⟨here, later⟩ := List.forall_mem_cons.mp within
      obtain ⟨s₁, called, memory, locked⟩ := call_refines board time free here.1 small here.2
      have same : (⟨size, s₁.bar⟩ : BarImplHw) = ((⟨size, s.bar⟩ : BarImplHw).call c).2 := by
        rw [memory]
        exact congrArg (BarImplHw.mk · _) (BarImplHw.size_call ⟨size, s.bar⟩ c).symm
      cases calls with
      | nil => exact ⟨s₁, by rw [run_cons board time called]; rfl, memory⟩
      | cons d calls =>
          rw [List.dropLast_cons_cons, List.forall_mem_cons] at last
          obtain ⟨s', ran, ends⟩ := ih later last.2 (locked.trans last.1)
          rw [same] at ran ends
          refine ⟨s', ?_, ends⟩
          rw [run_cons board time called, ran]
          rfl

/-- They do not when one does. -/
theorem run_blocked (small : size.toNat ≤ 2 ^ 32) {calls : List BarCall}
    (within : ∀ c ∈ calls, c.Within size ∧ c.Sendable)
    (before : ∃ c ∈ calls.dropLast, c.isGet16 = true) (free : s.host.locked = false) :
    s.run board time calls = none := by
  induction calls generalizing s with
  | nil => exact absurd before (by simp)
  | cons c calls ih =>
      obtain ⟨here, later⟩ := List.forall_mem_cons.mp within
      obtain ⟨s₁, called, -, locked⟩ := call_refines board time free here.1 small here.2
      rw [run_cons board time called]
      cases calls with
      | nil => exact absurd before (by simp)
      | cons d calls =>
          -- either this call leaves the mutex locked for the next, or one behind it does
          cases keeps : c.isGet16 with
          | true =>
              rw [run, call_locked board time (locked.trans keeps)]
              rfl
          | false =>
              obtain ⟨e, member, reads⟩ := before
              rw [List.dropLast_cons_cons, List.mem_cons] at member
              rcases member with rfl | member
              · exact absurd reads (by rw [keeps]; exact Bool.false_ne_true)
              · rw [ih later ⟨e, member, reads⟩ (locked.trans keeps)]
                rfl

end SimSession

/-! ## Any sequence of calls -/

/-- **A simulated BAR is a BAR.** Calls inside the BAR, a `get16` at most as the
last of them, all return what they return on the hardware, and leave the memory
that the hardware has. Behind a `get16` the next call never returns. -/
theorem simulated_bar_refines (board : SimBoard) (time : Word64) {size : Word64}
    (small : size.toNat ≤ 2 ^ 32) {calls : List BarCall}
    (within : ∀ c ∈ calls, c.Within size ∧ c.Sendable) {s : SimSession}
    (free : s.host.locked = false) :
    ((∀ c ∈ calls.dropLast, c.isGet16 = false) →
      ∃ s', s.run board time calls = some ((BarImplHw.run calls ⟨size, s.bar⟩).1, s') ∧
        s'.bar = (BarImplHw.run calls ⟨size, s.bar⟩).2.bar) ∧
    ((∃ c ∈ calls.dropLast, c.isGet16 = true) → s.run board time calls = none) :=
  ⟨fun last => SimSession.run_refines board time small within last free,
    fun before => SimSession.run_blocked board time small within before free⟩

theorem bigEndian_of_bytes {w : Word32} {b₀ b₁ b₂ b₃ : ℕ}
    (bytes : b₀ < 256 ∧ b₁ < 256 ∧ b₂ < 256 ∧ b₃ < 256)
    (value : w.toNat = b₀ + b₁ * 2 ^ 8 + b₂ * 2 ^ 16 + b₃ * 2 ^ 24) :
    (bigEndian w).toNat = b₃ + b₂ * 2 ^ 8 + b₁ * 2 ^ 16 + b₀ * 2 ^ 24 := by
  have byte₀ : w.toNat % 256 = b₀ := by omega
  have byte₁ : w.toNat / 2 ^ 8 % 256 = b₁ := by omega
  have byte₂ : w.toNat / 2 ^ 16 % 256 = b₂ := by omega
  have byte₃ : w.toNat / 2 ^ 24 % 256 = b₃ := by omega
  rw [bigEndian, byte₀, byte₁, byte₂, byte₃, BitVec.toNat_ofNat, Nat.mod_eq_of_lt (by omega)]

theorem bigEndian_bigEndian (w : Word32) : bigEndian (bigEndian w) = w := by
  have bound := w.isLt
  obtain ⟨b₀, b₁, b₂, b₃, bytes, value⟩ : ∃ b₀ b₁ b₂ b₃,
      (b₀ < 256 ∧ b₁ < 256 ∧ b₂ < 256 ∧ b₃ < 256) ∧
        w.toNat = b₀ + b₁ * 2 ^ 8 + b₂ * 2 ^ 16 + b₃ * 2 ^ 24 :=
    ⟨w.toNat % 256, w.toNat / 2 ^ 8 % 256, w.toNat / 2 ^ 16 % 256, w.toNat / 2 ^ 24, by omega,
      by omega⟩
  apply BitVec.eq_of_toNat_eq
  rw [value]
  exact bigEndian_of_bytes ⟨bytes.2.2.2, bytes.2.2.1, bytes.2.1, bytes.1⟩
    (bigEndian_of_bytes bytes value)

/-- A board that completes a read with the whole word. -/
def wholeWordBoard (number : Word8) : SimBoard where
  number := number
  completion _ w := ⟨0, (bigEndian w).setWidth 64⟩
  carries := by
    intro s w k _ _
    rw [Flisock.firstWord, byteReorder_high, BitVec.setWidth_setWidth_of_le _ (by omega),
      BitVec.setWidth_eq, bigEndian_bigEndian]

/-- A register block is written, then half a word of it, and both are read. -/
def writeAndRead : List BarCall :=
  [.memcopy 4 [0x11223344, 0x55667788], .set16 9 0xabcd, .get32 4, .get16 10]

theorem simulated_bar_refines_writeAndRead :
    ∃ s', (SimSession.mk ⟨false, 0, []⟩ .idle fun _ => 0).run (wholeWordBoard 1) 0 writeAndRead =
      some ([[], [], [0xabcd3344], [0x7788]], s') := by
  have read : (BarImplHw.run writeAndRead ⟨64, fun _ => 0⟩).1 =
      [[], [], [0xabcd3344], [0x7788]] := by decide
  have within : ∀ c ∈ writeAndRead, c.Within 64 ∧ c.Sendable := by decide
  obtain ⟨s', ran, -⟩ := (simulated_bar_refines (wholeWordBoard 1) 0
    (show (64 : Word64).toNat ≤ 2 ^ 32 by decide) within
    (s := ⟨⟨false, 0, []⟩, .idle, fun _ => 0⟩) rfl).1 (by decide)
  exact ⟨s', ran.trans (congrArg (fun r => some (r, s')) read)⟩

end Librorc
