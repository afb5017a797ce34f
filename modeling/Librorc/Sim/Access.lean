import Librorc.Lib.Mailbox
import Librorc.Sim.Flisock
import Librorc.Sim.SockMonitor

/-!
# `bar_impl_sim`: `get32` and `set32` of several threads

`accessSystem` interleaves the threads that access registers, the simulator and
the monitor thread. The mutex covers the sending half of a call only. The other
half waits for one of two flags, which every caller and the monitor share.
-/

namespace Librorc

open Librorc.Lib

inductive AccessKind
  | read
  | write
deriving DecidableEq

inductive Access
  | get32 (address : Word64)
  | set32 (address : Word64) (data : Word32)

namespace Access

def kind : Access → AccessKind
  | get32 _ => .read
  | set32 _ _ => .write

/-- The call that sends the message. -/
def call : Access → HostCall
  | get32 address => .get32 address
  | set32 address data => .set32 address data

end Access

/-- A request on the socket. The ticket is the number of the message, and
`m_msgid` what fits into 32 bits of it. -/
structure Request where
  ticket : Nat
  access : Access

/-- What the simulator answers. -/
inductive Answer
  | completion (h : TrnHeader)
  | acknowledge

/-- An answer on the socket, with the message ID of the request. -/
structure Reply where
  ticket : Nat
  answer : Answer

/-- `m_msgid` of a message. -/
def msgidOf (ticket : Nat) : Word32 := BitVec.ofNat 32 ticket

def Request.words (number : Word8) (r : Request) : List Word32 :=
  BarImplSim.sent number (msgidOf r.ticket) r.access.call

def Answer.event : Answer → FliEvent
  | completion h => .cmplD h
  | acknowledge => .ackWrite

def Answer.kind : Answer → AccessKind
  | completion _ => .read
  | acknowledge => .write

def Reply.words (r : Reply) : List Word32 := Flisock.sent (msgidOf r.ticket) r.answer.event

/-- The answer to an access, `h` being the completion packet of a read. -/
def Access.answer (h : TrnHeader) : Access → Answer
  | get32 _ => .completion h
  | set32 _ _ => .acknowledge

/-- How far a thread has come. -/
inductive CallPhase
  | idle
  /-- In the loop on the flag. -/
  | waiting (kind : AccessKind) (ticket : Nat)
  /-- Behind the loop: the flag has been set by the reply to `saw`. -/
  | seen (kind : AccessKind) (ticket saw : Nat)
  /-- `data` has been read: it comes from the reply to `source`. -/
  | taken (ticket saw : Nat) (data : Word32) (source : Nat)

/-- A call that has returned. A `get32` returns data, from the reply to a
ticket. -/
structure Return where
  kind : AccessKind
  ticket : Nat
  saw : Nat
  result : Option (Word32 × Nat)
deriving DecidableEq

/-- The members of a `bar_impl_sim`, the two directions of its socket and the
threads that use it. -/
structure SimBar (ι : Type*) where
  /-- The messages sent so far. -/
  sends : Nat
  toDevice : List Request
  toHost : List Reply
  /-- The monitor is between `m_read_from_dev_data` and `m_read_from_dev_done`. -/
  delivering : Option Nat
  readFromDevData : Word32
  /-- The reply `m_read_from_dev_data` comes from. -/
  dataSource : Nat
  /-- `m_read_from_dev_done`, with the reply that has set it. -/
  readFromDevDone : Option Nat
  /-- `m_write_to_dev_done`, with the reply that has set it. -/
  writeToDevDone : Option Nat
  phase : ι → CallPhase
  /-- The data the simulator has sent, with the tickets of the requests. -/
  replied : List (Nat × Word32)
  returned : List Return

inductive AccessAction (ι : Type*)
  /-- The half under the mutex: the message is written. -/
  | send (thread : ι) (access : Access)
  | poll (thread : ι)
  /-- `data = m_read_from_dev_data`. -/
  | take (thread : ι)
  | clear (thread : ι)
  /-- The simulator answers the first request. -/
  | serve (h : TrnHeader)
  /-- The monitor reads the first answer. -/
  | receive
  /-- `m_read_from_dev_done = 1`. -/
  | deliver

namespace SimBar

variable {ι : Type*} [DecidableEq ι]

def setPhase (s : SimBar ι) (thread : ι) (phase : CallPhase) : SimBar ι :=
  { s with phase := Function.update s.phase thread phase }

def done (s : SimBar ι) : AccessKind → Option Nat
  | .read => s.readFromDevDone
  | .write => s.writeToDevDone

/-- A message is written to the socket. -/
def request (s : SimBar ι) (access : Access) : SimBar ι :=
  { s with sends := s.sends + 1, toDevice := s.toDevice ++ [⟨s.sends, access⟩] }

/-- The flag is cleared, and the call returns. -/
def finish (s : SimBar ι) (r : Return) : SimBar ι :=
  match r.kind with
  | .read => { s with readFromDevDone := none, returned := s.returned ++ [r] }
  | .write => { s with writeToDevDone := none, returned := s.returned ++ [r] }

/-- What the simulator has answered to a `get32`. -/
def logged (ticket : Nat) : Answer → List (Nat × Word32)
  | .completion h => [(ticket, Flisock.firstWord h)]
  | .acknowledge => []

/-- `doCompleteToHost` up to the data, or `doAcknowledgeWrite`. -/
def receive (s : SimBar ι) (ticket : Nat) : Answer → SimBar ι
  | .completion h =>
      { s with
        readFromDevData := Flisock.firstWord h
        dataSource := ticket
        delivering := some ticket }
  | .acknowledge => { s with writeToDevDone := some ticket }

/-- One step of a thread, the simulator or the monitor. -/
def step (s : SimBar ι) : AccessAction ι → Option (SimBar ι)
  | .send thread access =>
      match s.phase thread with
      | .idle => some ((s.request access).setPhase thread (.waiting access.kind s.sends))
      | _ => none
  | .poll thread =>
      match s.phase thread with
      | .waiting kind ticket =>
          match s.done kind with
          -- once more round the loop
          | none => some s
          | some saw => some (s.setPhase thread (.seen kind ticket saw))
      | _ => none
  | .take thread =>
      match s.phase thread with
      | .seen .read ticket saw =>
          some (s.setPhase thread (.taken ticket saw s.readFromDevData s.dataSource))
      | _ => none
  | .clear thread =>
      match s.phase thread with
      | .seen .write ticket saw =>
          some ((s.finish ⟨.write, ticket, saw, none⟩).setPhase thread .idle)
      | .taken ticket saw data source =>
          some ((s.finish ⟨.read, ticket, saw, some (data, source)⟩).setPhase thread .idle)
      | _ => none
  | .serve h =>
      match s.toDevice with
      | [] => none
      | r :: later =>
          some { s with
            toDevice := later
            toHost := s.toHost ++ [⟨r.ticket, r.access.answer h⟩]
            replied := s.replied ++ logged r.ticket (r.access.answer h) }
  | .receive =>
      match s.delivering, s.toHost with
      | none, r :: later => some ({ s with toHost := later }.receive r.ticket r.answer)
      | _, _ => none
  | .deliver =>
      match s.delivering with
      | none => none
      | some ticket => some { s with delivering := none, readFromDevDone := some ticket }

/-- The steps that can be taken, one for each way through a turn of a loop. -/
inductive Moves (s : SimBar ι) : AccessAction ι → SimBar ι → Prop
  | send {thread : ι} (access : Access) (idle : s.phase thread = .idle) :
      Moves s (.send thread access)
        ((s.request access).setPhase thread (.waiting access.kind s.sends))
  | wait (thread : ι) : Moves s (.poll thread) s
  | see {thread : ι} {kind : AccessKind} {ticket saw : Nat}
      (waiting : s.phase thread = .waiting kind ticket) (full : s.done kind = some saw) :
      Moves s (.poll thread) (s.setPhase thread (.seen kind ticket saw))
  | take {thread : ι} {ticket saw : Nat} (seen : s.phase thread = .seen .read ticket saw) :
      Moves s (.take thread)
        (s.setPhase thread (.taken ticket saw s.readFromDevData s.dataSource))
  | written {thread : ι} {ticket saw : Nat} (seen : s.phase thread = .seen .write ticket saw) :
      Moves s (.clear thread) ((s.finish ⟨.write, ticket, saw, none⟩).setPhase thread .idle)
  | read {thread : ι} {ticket saw source : Nat} {data : Word32}
      (taken : s.phase thread = .taken ticket saw data source) :
      Moves s (.clear thread)
        ((s.finish ⟨.read, ticket, saw, some (data, source)⟩).setPhase thread .idle)
  | serve (h : TrnHeader) {r : Request} {later : List Request} (queue : s.toDevice = r :: later) :
      Moves s (.serve h) { s with
        toDevice := later
        toHost := s.toHost ++ [⟨r.ticket, r.access.answer h⟩]
        replied := s.replied ++ logged r.ticket (r.access.answer h) }
  | receive {r : Reply} {later : List Reply} (free : s.delivering = none)
      (queue : s.toHost = r :: later) :
      Moves s .receive (({ s with toHost := later } : SimBar ι).receive r.ticket r.answer)
  | deliver {ticket : Nat} (delivering : s.delivering = some ticket) :
      Moves s .deliver { s with delivering := none, readFromDevDone := some ticket }

theorem step_moves {s s' : SimBar ι} {a : AccessAction ι} (taken : s.step a = some s') :
    s.Moves a s' := by
  unfold step at taken
  split at taken
  case h_1 thread access =>
    split at taken
    · rename_i idle
      exact Option.some.inj taken ▸ .send access idle
    · cases taken
  case h_2 thread =>
    split at taken
    · rename_i waiting
      split at taken
      · exact Option.some.inj taken ▸ .wait thread
      · rename_i full
        exact Option.some.inj taken ▸ .see waiting full
    · cases taken
  case h_3 thread =>
    split at taken
    · rename_i seen
      exact Option.some.inj taken ▸ .take seen
    · cases taken
  case h_4 thread =>
    split at taken
    · rename_i seen
      exact Option.some.inj taken ▸ .written seen
    · rename_i has
      exact Option.some.inj taken ▸ .read has
    · cases taken
  case h_5 h =>
    split at taken
    · cases taken
    · rename_i queue
      exact Option.some.inj taken ▸ .serve h queue
  case h_6 =>
    split at taken
    · rename_i free queue
      exact Option.some.inj taken ▸ .receive free queue
    · cases taken
  case h_7 =>
    split at taken
    · cases taken
    · rename_i delivering
      exact Option.some.inj taken ▸ .deliver delivering

/-- No call is in progress. -/
structure Initial (s : SimBar ι) : Prop where
  phase : ∀ thread, s.phase thread = .idle
  toDevice : s.toDevice = []
  toHost : s.toHost = []
  delivering : s.delivering = none
  done : ∀ kind, s.done kind = none
  returned : s.returned = []

end SimBar

def CallPhase.kind : CallPhase → Option AccessKind
  | .idle => none
  | .waiting kind _ | .seen kind _ _ => some kind
  | .taken _ _ _ _ => some .read

namespace SimBar

variable {ι : Type*} [DecidableEq ι]

/-- No `get32` is sent while another one has not returned, and no `set32` while
another one has not. -/
def Apart (s : SimBar ι) : AccessAction ι → Prop
  | .send _ access => ∀ other, (s.phase other).kind ≠ some access.kind
  | _ => True

/-- The tickets of one kind among requests that have not been answered. -/
def asked (kind : AccessKind) (queue : List Request) : List Nat :=
  queue.filterMap fun r => if r.access.kind = kind then some r.ticket else none

/-- The tickets of one kind among answers that have not been read. -/
def answered (kind : AccessKind) (queue : List Reply) : List Nat :=
  queue.filterMap fun r => if r.answer.kind = kind then some r.ticket else none

/-- The reply that the monitor has read, but not announced. -/
def inHand (s : SimBar ι) : AccessKind → List Nat
  | .read => s.delivering.toList
  | .write => []

/-- The replies of one kind that are on their way, in the order they arrive. -/
def transit (s : SimBar ι) (kind : AccessKind) : List Nat :=
  s.inHand kind ++ (answered kind s.toHost ++ asked kind s.toDevice)

/-- Every call that has returned has waited for its own reply, and every
`get32` has returned the data of that reply. No reply has been used twice, and
that of a waiting call has not been lost. -/
structure OwnReplies (s : SimBar ι) : Prop where
  own : ∀ r ∈ s.returned, r.saw = r.ticket
  data : ∀ r ∈ s.returned, r.kind = .read →
    ∃ data, r.result = some (data, r.ticket) ∧ (r.ticket, data) ∈ s.replied
  once : ∀ kind, ((s.returned.filter fun r => r.kind = kind).map Return.ticket).Nodup
  kept : ∀ thread kind ticket, s.phase thread = .waiting kind ticket →
    s.done kind = some ticket ∨ ticket ∈ s.transit kind

end SimBar

/-- Any number of threads on one `bar_impl_sim`, in any order of steps. -/
def accessSystem (ι : Type*) [DecidableEq ι] : ActionSystem (SimBar ι) (AccessAction ι) where
  init := SimBar.Initial
  step := SimBar.step

/-! ## The messages on the wire -/

section

variable {σ : Type} {Shows : σ → List Word32 → Prop} {readDWfromSock : StateT σ Option Word32}

/-- The simulator is told what the thread asks for. -/
theorem Request.presented (one : ∀ w, Consumes Shows readDWfromSock [w] w) (time : Word64)
    (s : FliState) (number : Word8) {r : Request} (fits : r.access.call.Fits) :
    ∃ s', Consumes Shows (Flisock.sockreader readDWfromSock time s.served) (r.words number) s' ∧
      s'.Presents time (msgidOf r.ticket) (r.access.call.message number) :=
  Flisock.sockreader_sent one time s number (msgidOf r.ticket) fits

/-- The monitor calls the handler that `receive` stands for. -/
theorem Reply.handled (one : ∀ w, Consumes Shows readDWfromSock [w] w) (r : Reply) :
    Consumes Shows (BarImplSim.sockMonitorTurn readDWfromSock) r.words
      (some (match r.answer with
        | .completion h => .completeToHost 4 (Flisock.firstWord h)
        | .acknowledge => .acknowledgeWrite 2)) := by
  have turn := BarImplSim.sockMonitorTurn_sent one (msgidOf r.ticket) r.answer.event
  obtain ⟨ticket, answer⟩ := r
  cases answer with
  | completion h => exact turn
  | acknowledge => exact turn

end

end Librorc
