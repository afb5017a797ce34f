import Librorc.Dma.RunState
import Librorc.Event.Delivery

/-!
# Publishing and the run state

`channelSystem` runs the stream's channel through every call that writes
`DMA_CTRL`, in any order and from any process, with the device moving the bits
that are its own. A call that publishes read pointers keeps the control word
exactly when the channel is running; in runs that keep to that, a channel that
is off stays off until one of the four enabling calls.
-/

namespace Librorc

open Librorc.Lib

variable {ring : ReportRing}

inductive ChannelCall
  | enable
  | disable (busy : Nat → Bool)
  | setEbdmEnable (enable : Word32)
  | setRbdmEnable (enable : Word32)
  | setSuspend (value : Word32)
  | setEBOffset (offset : Word64)
  | setRBOffset (offset : Word64)
  | readAndClearPtrStallFlags
  | clearFifoUnderrunFlag
  | setPciePacketSize (packetSize : Word32)
  | announceEvent (entries : List ScatterGatherEntry)
  | configure (page : PageSize) (eventBuffer reportBuffer : Option Buffer)
      (esDir : EventStreamDirection) (pciePacketSize : Word32)
  | setBufferOffsetsOnDevice (eboffset rboffset : Word64)
  | getNextEvent
  | releaseEvent (reference : Nat)
  | deviceWrite (slot : Nat) (d : EventDescriptor)
  | deviceStatus (control : Word32)

namespace ChannelCall

/-- The four calls that may turn a channel on. -/
def enables : ChannelCall → Bool
  | .enable | .setEbdmEnable _ | .setRbdmEnable _ | .setSuspend _ => true
  | _ => false

end ChannelCall

namespace EventStream

/-- The call reaches the publish at the end of `updateBufferOffsets`. -/
def Publishes (s : EventStream ring) (reference : Nat) : Prop :=
  reference < ring.maxRbEntries ∧
    (reference = s.releaseIndex ∨ s.releaseMap s.releaseIndex = true)

/-- A call on the channel object. -/
def onChannel (s : EventStream ring) (f : DmaChannel → DmaChannel) : EventStream ring :=
  { s with channel := f s.channel }

/-- One call, or one step of the device, which leaves the run state alone. -/
def call (s : EventStream ring) : ChannelCall → Option (EventStream ring)
  | .enable => some (s.onChannel .enable)
  | .disable busy => some (s.onChannel fun ch => (ch.disable busy).2)
  | .setEbdmEnable enable => some (s.onChannel (·.setEbdmEnable enable))
  | .setRbdmEnable enable => some (s.onChannel (·.setRbdmEnable enable))
  | .setSuspend value => some (s.onChannel (·.setSuspend value))
  | .setEBOffset offset => some (s.onChannel (·.setEBOffset offset))
  | .setRBOffset offset => some (s.onChannel (·.setRBOffset offset))
  | .readAndClearPtrStallFlags => some (s.onChannel fun ch => ch.readAndClearPtrStallFlags.2)
  | .clearFifoUnderrunFlag => some (s.onChannel .clearFifoUnderrunFlag)
  | .setPciePacketSize packetSize => some (s.onChannel (·.setPciePacketSize packetSize))
  | .announceEvent entries => some (s.onChannel (·.announceEvent entries))
  | .configure page eventBuffer reportBuffer esDir pciePacketSize =>
      some (s.onChannel fun ch =>
        (ch.configure page eventBuffer reportBuffer esDir pciePacketSize).2)
  | .setBufferOffsetsOnDevice eboffset rboffset =>
      some (s.onChannel (·.setBufferOffsetsOnDevice eboffset rboffset))
  | .getNextEvent => some s.getNextEvent.2
  | .releaseEvent reference => some (s.releaseEvent reference).2
  | .deviceWrite slot d => some { s with reports := Function.update s.reports slot d }
  | .deviceStatus control =>
      if RunState.ofWord control = s.channel.runState then
        some (s.onChannel (·.setDmaConfig control))
      else none

/-- The condition on the state before a publishing call. -/
def PublishesRunning (s : EventStream ring) : ChannelCall → Prop
  | .setBufferOffsetsOnDevice _ _ => s.channel.Running
  | .releaseEvent reference => s.Publishes reference → s.channel.Running
  | _ => True

/-- The calls that publish keep the control word. -/
def KeepsOnPublish (s s' : EventStream ring) : ChannelCall → Prop
  | .setBufferOffsetsOnDevice _ _ | .releaseEvent _ =>
      KeepsControl s.channel.dmaConfig s'.channel.dmaConfig
  | _ => True

end EventStream

/-- The stream with everything that writes its channel's control word. -/
def channelSystem (ring : ReportRing) : ActionSystem (EventStream ring) ChannelCall where
  init s := ∃ start : RingRun ring, start.Initial ∧ start.stream = s
  step := EventStream.call

namespace EventStream

theorem updateBufferOffsets_idle {s : EventStream ring}
    (unmarked : s.releaseMap s.releaseIndex ≠ true) : s.updateBufferOffsets = s :=
  if_pos unmarked

theorem updateBufferOffsets_publishes {s : EventStream ring}
    (marked : s.releaseMap s.releaseIndex = true) : ∃ eboffset rboffset,
    s.updateBufferOffsets.channel = s.channel.setBufferOffsetsOnDevice eboffset rboffset := by
  unfold updateBufferOffsets
  rw [if_neg (not_not.mpr marked)]
  exact ⟨_, _, rfl⟩

/-- A release either leaves the channel alone or publishes. -/
theorem releaseEvent_channel (s : EventStream ring) (reference : Nat) :
    (¬s.Publishes reference ∧ (s.releaseEvent reference).2.channel = s.channel) ∨
    (s.Publishes reference ∧ ∃ eboffset rboffset,
      (s.releaseEvent reference).2.channel =
        s.channel.setBufferOffsetsOnDevice eboffset rboffset) := by
  have mark : Function.update s.releaseMap reference true s.releaseIndex = true ↔
      reference = s.releaseIndex ∨ s.releaseMap s.releaseIndex = true := by
    by_cases same : s.releaseIndex = reference
    · subst same
      simp
    · rw [Function.update_of_ne same]
      exact (or_iff_right (Ne.symm same)).symm
  by_cases outside : ring.maxRbEntries ≤ reference
  · left
    rw [releaseEvent_of_le s outside]
    refine ⟨?_, rfl⟩
    rintro ⟨inside, -⟩
    omega
  · have accepted : (s.releaseEvent reference).2 = updateBufferOffsets
        { s with releaseMap := Function.update s.releaseMap reference true } := by
      rw [releaseEvent, if_neg outside]
    rw [accepted]
    by_cases marked : Function.update s.releaseMap reference true s.releaseIndex = true
    · right
      exact ⟨⟨Nat.not_le.mp outside, mark.mp marked⟩, updateBufferOffsets_publishes marked⟩
    · left
      rw [updateBufferOffsets_idle marked]
      refine ⟨?_, rfl⟩
      rintro ⟨-, moves⟩
      exact marked (mark.mpr moves)

theorem getNextEvent_channel (s : EventStream ring) :
    s.getNextEvent.2.channel = s.channel := by
  simp only [getNextEvent]
  split <;> rfl

/-- A publishing call keeps the control word exactly under its condition. -/
theorem keepsOnPublish_iff {s s' : EventStream ring} {c : ChannelCall}
    (called : s.call c = some s') : s.KeepsOnPublish s' c ↔ s.PublishesRunning c := by
  cases c with
  | setBufferOffsetsOnDevice eboffset rboffset =>
      obtain rfl := Option.some.inj called
      exact s.channel.publish_keeps_iff eboffset rboffset
  | releaseEvent reference =>
      obtain rfl := Option.some.inj called
      show KeepsControl _ _ ↔ (s.Publishes reference → s.channel.Running)
      rcases s.releaseEvent_channel reference with ⟨quiet, same⟩ | ⟨publishes, eb, rb, channel⟩
      · rw [same]
        exact iff_of_true rfl fun publishes => absurd publishes quiet
      · rw [channel, DmaChannel.publish_keeps_iff]
        exact ⟨fun running _ => running, fun running => running publishes⟩
  | _ => exact Iff.rfl

/-- A call that is not an enabling one turns nothing on. -/
theorem noRise_call {s s' : EventStream ring} {c : ChannelCall} (called : s.call c = some s')
    (allowed : s.PublishesRunning c) (quiet : c.enables = false) :
    RunState.NoRise s.channel.runState s'.channel.runState := by
  have same {ch : DmaChannel} (h : ch.runState = s.channel.runState) :
      RunState.NoRise s.channel.runState ch.runState := by
    rw [h]
    exact .refl _
  have keeps := (keepsOnPublish_iff called).mpr allowed
  cases c with
  | enable => exact absurd quiet (by decide)
  | setEbdmEnable => exact absurd quiet (by simp [ChannelCall.enables])
  | setRbdmEnable => exact absurd quiet (by simp [ChannelCall.enables])
  | setSuspend => exact absurd quiet (by simp [ChannelCall.enables])
  | deviceStatus control =>
      simp only [call] at called
      split at called
      · rename_i own
        obtain rfl := Option.some.inj called
        exact same ((s.channel.runState_setDmaConfig control).trans own)
      · exact absurd called (by simp)
  | disable busy =>
      obtain rfl := Option.some.inj called
      show RunState.NoRise _ (s.channel.disable busy).2.runState
      rw [DmaChannel.runState_disable]
      exact .of_off rfl rfl rfl
  | configure page eventBuffer reportBuffer esDir pciePacketSize =>
      obtain rfl := Option.some.inj called
      exact s.channel.noRise_configure page eventBuffer reportBuffer esDir pciePacketSize
  | setBufferOffsetsOnDevice eboffset rboffset => exact same (KeepsControl.runState keeps)
  | releaseEvent reference => exact same (KeepsControl.runState keeps)
  | setEBOffset offset =>
      obtain rfl := Option.some.inj called
      exact same (s.channel.runState_setEBOffset offset)
  | setRBOffset offset =>
      obtain rfl := Option.some.inj called
      exact same (s.channel.runState_setRBOffset offset)
  | readAndClearPtrStallFlags =>
      obtain rfl := Option.some.inj called
      exact same s.channel.runState_readAndClearPtrStallFlags
  | clearFifoUnderrunFlag =>
      obtain rfl := Option.some.inj called
      exact same s.channel.runState_clearFifoUnderrunFlag
  | setPciePacketSize packetSize =>
      obtain rfl := Option.some.inj called
      exact same (s.channel.runState_setPciePacketSize packetSize)
  | announceEvent entries =>
      obtain rfl := Option.some.inj called
      exact same (s.channel.announceEvent_frame entries).runState
  | getNextEvent =>
      obtain rfl := Option.some.inj called
      exact same (by rw [s.getNextEvent_channel])
  | deviceWrite slot d =>
      obtain rfl := Option.some.inj called
      exact same rfl

/-- Over a whole run, nothing comes on without an enabling call. -/
theorem noRise_run {s s' : EventStream ring} {calls : List ChannelCall}
    (keeps : (channelSystem ring).Keeps PublishesRunning s calls)
    (ran : (channelSystem ring).run s calls = some s')
    (quiet : ∀ c ∈ calls, c.enables = false) :
    RunState.NoRise s.channel.runState s'.channel.runState := by
  induction calls generalizing s with
  | nil =>
      obtain rfl := Option.some.inj ran
      exact .refl _
  | cons c rest ih =>
      simp only [ActionSystem.run] at ran
      obtain ⟨allowed, later⟩ := keeps
      cases called : (channelSystem ring).step s c with
      | none =>
          rw [called] at ran
          exact absurd ran (by simp)
      | some next =>
          rw [called] at ran
          have first := noRise_call called allowed (quiet c List.mem_cons_self)
          exact first.trans
            (ih (later next called) ran fun c' mem => quiet c' (List.mem_cons_of_mem _ mem))

end EventStream

/-- **Publishing and the run state.** In every state, a publishing call keeps
the control word (run state included) exactly when the channel is running, or
when the release publishes nothing. In every run whose publishing calls meet
that condition, each of them keeps the run state, and a channel that is
disabled or suspended is enabled again only by one of the enabling calls. -/
theorem publish_keeps_runState :
    (∀ (s s' : EventStream ring) (c : ChannelCall), s.call c = some s' →
      (s.KeepsOnPublish s' c ↔ s.PublishesRunning c)) ∧
    (∀ (s s' : EventStream ring) (calls : List ChannelCall),
      (channelSystem ring).Keeps EventStream.PublishesRunning s calls →
      (channelSystem ring).run s calls = some s' →
      (∀ c next, s'.PublishesRunning c → s'.call c = some next → s'.KeepsOnPublish next c) ∧
      ((∀ c ∈ calls, c.enables = false) →
        RunState.NoRise s.channel.runState s'.channel.runState)) := by
  constructor
  · intro s s' c called
    exact EventStream.keepsOnPublish_iff called
  · intro s s' calls keeps ran
    constructor
    · intro c next allowed called
      exact (EventStream.keepsOnPublish_iff called).mpr allowed
    · intro quiet
      exact EventStream.noRise_run keeps ran quiet

/-- An event is fetched, then the channel is disabled. -/
def fetchThenDisable : List ChannelCall :=
  [.deviceWrite 0 (descriptorOf 0x100 16), .getNextEvent, .disable fun _ => false]

/-- Releasing that event switches the disabled channel on. -/
theorem release_reenables :
    ¬∀ (ring : ReportRing) (s s' : EventStream ring) (reference : Nat),
      (channelSystem ring).Reached (fun _ _ => True) s →
      s.call (.releaseEvent reference) = some s' →
      s'.channel.runState = s.channel.runState := by
  intro keeps
  obtain ⟨s, ran⟩ := Option.isSome_iff_exists.mp
    (show ((channelSystem fourSlotRing).run fourSlotStart.stream fetchThenDisable).isSome = true
      by decide)
  have states : ((channelSystem fourSlotRing).run fourSlotStart.stream fetchThenDisable).map
      (fun s => (s.channel.runState, (s.releaseEvent 0).2.channel.runState)) =
        some (⟨false, false, false, false⟩, ⟨true, true, true, false⟩) := by decide
  rw [ran] at states
  obtain ⟨off, on⟩ := Prod.mk.inj (Option.some.inj states)
  have start : (channelSystem fourSlotRing).Reached (fun _ _ => True) fourSlotStart.stream :=
    .init ⟨fourSlotStart, fourSlotStart_initial, rfl⟩
  have free : (channelSystem fourSlotRing).Keeps (fun _ _ => True) fourSlotStart.stream
      fetchThenDisable := ⟨trivial, fun _ _ => ⟨trivial, fun _ _ => ⟨trivial, fun _ _ => trivial⟩⟩⟩
  have same := keeps fourSlotRing s _ 0 (start.run free ran) rfl
  rw [off, on] at same
  exact absurd same (by decide)

end Librorc
