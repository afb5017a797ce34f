import Librorc.Lib.Throwing
import Librorc.Sim.Protocol

/-!
# `bar_impl_sim`: who holds `m_mtx`

The calls of one `bar_impl_sim`, one after the other. Each takes the mutex to
write its message, and most then wait for a reply. A call that never returns
waits for the mutex or for its reply.
-/

namespace Librorc

open Librorc.Lib

/-- What a call waits for. -/
inductive Stuck
  | onMutex
  | onReply
deriving DecidableEq

/-- The mutex, `m_msgid`, and what has been written to the socket. -/
structure SimMutex where
  locked : Bool
  msgid : Word32
  socket : List Word32

/-- What happens to a call: whether its write to the socket succeeds, and the
data its loop on the flag ends with, if it ever ends. -/
structure CallEnv where
  written : Bool
  reply : Option Word64

namespace BarImplSim

/-- A call of a `bar_impl_sim`. -/
abbrev SimM (α : Type) := Throwing Stuck SimMutex α

def mutexLock : SimM Unit :=
  ExceptT.mk fun s =>
    if s.locked then (.error .onMutex, s) else (.ok (), { s with locked := true })

def mutexUnlock : SimM Unit :=
  ExceptT.mk fun s => (.ok (), { s with locked := false })

variable (number : Word8) (env : CallEnv)

/-- `write`, and `m_msgid++`: whether all has been written. -/
def writeMessage (call : HostCall) : SimM Bool :=
  ExceptT.mk fun s =>
    (.ok env.written,
      { s with
        msgid := s.msgid + 1
        socket := if env.written then s.socket ++ sent number s.msgid call else s.socket })

/-- The loop on one of the flags, and the data behind it. -/
def waitReply : SimM Word64 :=
  match env.reply with
  | some data => pure data
  | none => throw .onReply

/-- `memcopy` to the device, `set32`, `set16`. -/
def writeAccess (call : HostCall) : SimM Unit := do
  mutexLock
  let result ← writeMessage number env call
  mutexUnlock
  if result then discard (waitReply env)

def memcopyTo (target : Word64) (source : List Word32) : SimM Unit :=
  writeAccess number env (.memcopy target source)

/-- `memcopy` from the device. -/
def memcopyFrom : SimM Unit := do
  mutexLock
  mutexUnlock

def get32 (address : Word64) : SimM Word32 := do
  mutexLock
  let result ← writeMessage number env (.get32 address)
  mutexUnlock
  if result then
    let data ← waitReply env
    return data.setWidth 32
  else return 0

/-- `get16`: the mutex is not unlocked. -/
def get16 (address : Word64) : SimM Word16 := do
  mutexLock
  let result ← writeMessage number env (.get16 address)
  if result then
    let data ← waitReply env
    return data.setWidth 16
  else return 0

def set32 (address : Word64) (data : Word32) : SimM Unit :=
  writeAccess number env (.set32 address data)

def set16 (address : Word64) (data : Word16) : SimM Unit :=
  writeAccess number env (.set16 address data)

/-- `gettime`: seconds and microseconds. It waits whether or not the request has
been written. -/
def gettime : SimM (Word64 × Word64) := do
  mutexLock
  discard (writeMessage number env .gettime)
  mutexUnlock
  let data ← waitReply env
  return (data / 1000 / 1000 / 1000, (data / 1000) % 1000000)

end BarImplSim

/-- The operations. -/
inductive SimOp
  | memcopyTo (target : Word64) (source : List Word32)
  | memcopyFrom
  | get32 (address : Word64)
  | get16 (address : Word64)
  | set32 (address : Word64) (data : Word32)
  | set16 (address : Word64) (data : Word16)
  | gettime

/-- An operation, and what happens to it. -/
structure SimCall where
  op : SimOp
  env : CallEnv

namespace SimCall

open BarImplSim in
/-- The call, without what it returns. -/
def run (number : Word8) (c : SimCall) : SimM Unit :=
  match c.op with
  | .memcopyTo target source => memcopyTo number c.env target source
  | .memcopyFrom => memcopyFrom
  | .get32 address => discard (get32 number c.env address)
  | .get16 address => discard (get16 number c.env address)
  | .set32 address data => set32 number c.env address data
  | .set16 address data => set16 number c.env address data
  | .gettime => discard (gettime number c.env)

/-- The call does not wait for a reply that never comes. -/
def returns (c : SimCall) : Bool :=
  match c.op with
  | .memcopyFrom => true
  | .gettime => c.env.reply.isSome
  | _ => !c.env.written || c.env.reply.isSome

def isGet16 (c : SimCall) : Bool :=
  match c.op with
  | .get16 _ => true
  | _ => false

/-- No call waits for the mutex, and it is free whenever one returns. -/
def Disciplined (number : Word8) : SimMutex → List SimCall → Prop
  | _, [] => True
  | s, c :: calls => ∀ result s', (c.run number).run.run s = (result, s') →
      result ≠ .error .onMutex ∧
        (result = .ok () → s'.locked = false ∧ Disciplined number s' calls)

/-- How a call ends that finds the mutex free: `get16` alone keeps it. -/
theorem run_of_free (number : Word8) (c : SimCall) {s : SimMutex} (free : s.locked = false) :
    ∃ s', (c.run number).run.run s =
        (if c.returns then .ok () else .error .onReply, s') ∧
      (c.returns = true → s'.locked = c.isGet16) := by
  obtain ⟨op, ⟨written, reply⟩⟩ := c
  obtain ⟨locked, msgid, socket⟩ := s
  obtain rfl : locked = false := free
  cases op <;> cases written <;> cases reply <;> exact ⟨_, rfl, by simp [returns, isGet16]⟩

/-- The first call of a sequence, and the rest. -/
theorem disciplined_cons (number : Word8) (c : SimCall) (calls : List SimCall) {s : SimMutex}
    (free : s.locked = false) :
    ∃ s' : SimMutex, s'.locked = (c.returns && c.isGet16) ∧
      (Disciplined number s (c :: calls) ↔
        (c.returns = true → c.isGet16 = false ∧ Disciplined number s' calls)) := by
  obtain ⟨s', ended, kept⟩ := c.run_of_free number free
  cases returns : c.returns with
  | false =>
      refine ⟨s, free, iff_of_true ?_ (fun returned => absurd returned Bool.false_ne_true)⟩
      intro result s₁ ran
      rw [ended, returns] at ran
      cases ran
      exact ⟨by decide, fun returned => absurd returned (by decide)⟩
  | true =>
      rw [returns] at ended
      refine ⟨s', (kept returns).trans (Bool.true_and _).symm, ?_⟩
      constructor
      · intro disciplined _
        obtain ⟨-, later⟩ := disciplined _ s' ended
        obtain ⟨freeAfter, rest⟩ := later rfl
        exact ⟨(kept returns).symm.trans freeAfter, rest⟩
      · intro condition result s₁ ran
        obtain ⟨notGet16, rest⟩ := condition rfl
        rw [ended] at ran
        cases ran
        exact ⟨by decide, fun _ => ⟨(kept returns).trans notGet16, rest⟩⟩

end SimCall

/-- The mutex is free after every call, and no call waits for it, exactly when
no `get16` returns. -/
theorem disciplined_iff (number : Word8) (calls : List SimCall) {s : SimMutex}
    (free : s.locked = false) :
    SimCall.Disciplined number s calls ↔
      ∀ c ∈ calls.takeWhile SimCall.returns, c.isGet16 = false := by
  induction calls generalizing s with
  | nil => exact iff_of_true trivial (fun c mem => absurd mem List.not_mem_nil)
  | cons c calls ih =>
      obtain ⟨s', kept, first⟩ := c.disciplined_cons number calls free
      rw [first]
      cases returns : c.returns with
      | false =>
          rw [List.takeWhile_cons_of_neg (by rw [returns]; decide)]
          exact iff_of_true (fun returned => absurd returned Bool.false_ne_true)
            fun c mem => absurd mem List.not_mem_nil
      | true =>
          rw [List.takeWhile_cons_of_pos returns, List.forall_mem_cons, forall_prop_of_true rfl]
          refine and_congr_right fun notGet16 => ih ?_
          rw [kept, returns, notGet16]
          rfl

/-- Two register writes, the second of which fails, and a `gettime`. -/
def lockFriendly : List SimCall :=
  [⟨.set32 0x10 1, ⟨true, some 0⟩⟩, ⟨.set16 0x11 2, ⟨false, none⟩⟩, ⟨.gettime, ⟨true, some 5000⟩⟩]

theorem disciplined_iff_lockFriendly :
    SimCall.Disciplined 1 ⟨false, 0, []⟩ lockFriendly ↔
      ∀ c ∈ lockFriendly.takeWhile SimCall.returns, c.isGet16 = false :=
  disciplined_iff 1 lockFriendly rfl

/-- A `get16` returns with the mutex locked, and the next call waits for it. -/
theorem get16_keeps_mutex :
    (SimCall.run 1 ⟨.get16 0, ⟨true, some 7⟩⟩).run.run ⟨false, 0, []⟩ =
        (.ok (), ⟨true, 1, BarImplSim.sent 1 0 (.get16 0)⟩) ∧
      ¬ SimCall.Disciplined 1 ⟨false, 0, []⟩
        [⟨.get16 0, ⟨true, some 7⟩⟩, ⟨.get32 0, ⟨true, some 7⟩⟩] := by
  have ran : (SimCall.run 1 ⟨.get16 0, ⟨true, some 7⟩⟩).run.run ⟨false, 0, []⟩ =
      (.ok (), ⟨true, 1, BarImplSim.sent 1 0 (.get16 0)⟩) := rfl
  refine ⟨ran, fun disciplined => ?_⟩
  have freeAfter := ((disciplined _ _ ran).2 rfl).1
  exact absurd freeAfter (by decide)

end Librorc
