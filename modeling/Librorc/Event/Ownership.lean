import Librorc.Dma.RunState
import Librorc.Event.Delivery

/-!
# Who owns a channel

`ownershipSystem` interleaves the lifecycles of any number of clients of one
channel. The busy flag a constructor tests is the enable bit, which is set at
the end of `initializeDma` and cleared by every destructor. In between a client
is invisible to the constructors of the others.
-/

namespace Librorc

open Librorc.Lib

/-- How far an `event_stream` has come. -/
inductive ClientPhase
  | absent
  | constructed
  /-- In `initializeDmaChannel`, between `configure` and `enable`. -/
  | configured
  /-- `initializeDma` has returned zero. -/
  | initialized
deriving DecidableEq

/-- The clients of a channel. The members the channel objects cache are not
read by these calls, so one object stands for all of them. -/
structure Ownership (ι : Type*) where
  channel : DmaChannel
  phase : ι → ClientPhase

inductive ClientAction (ι : Type*)
  /-- `compatible` is the outcome of the constructor's other checks. -/
  | construct (client : ι) (compatible : Bool)
  | configure (client : ι) (page : PageSize) (eventBuffer reportBuffer : Option Buffer)
      (esType : EventStreamDirection) (pciePacketSize : Word32)
  | enable (client : ι)
  | use (client : ι) (eboffset rboffset : Word64)
  | destroy (client : ι) (busy : Nat → Bool)

namespace Ownership

variable {ι : Type*} [DecidableEq ι]

def setPhase (s : Ownership ι) (client : ι) (phase : ClientPhase) : Ownership ι :=
  { s with phase := Function.update s.phase client phase }

/-- One step of one client. -/
def step (s : Ownership ι) : ClientAction ι → Option (Ownership ι)
  | .construct client compatible =>
      if s.phase client = .absent then
        -- `LIBRORC_EVENT_STREAM_ERROR_CHANNEL_BUSY`, or another exception: no object
        if s.channel.getEnable ≠ 0 ∨ compatible = false then some s
        else some (s.setPhase client .constructed)
      else none
  | .configure client page eventBuffer reportBuffer esType pciePacketSize =>
      -- `initializeDma` may be called again
      if s.phase client = .constructed ∨ s.phase client = .initialized then
        let (ret, channel) :=
          s.channel.configure page eventBuffer reportBuffer esType pciePacketSize
        let s := { s with channel := channel }
        if ret ≠ 0 then some s else some (s.setPhase client .configured)
      else none
  | .enable client =>
      if s.phase client = .configured then
        some ({ s with channel := s.channel.enable }.setPhase client .initialized)
      else none
  | .use client eboffset rboffset =>
      if s.phase client = .initialized then
        some { s with channel := s.channel.setBufferOffsetsOnDevice eboffset rboffset }
      else none
  | .destroy client busy =>
      if s.phase client = .constructed ∨ s.phase client = .initialized then
        some ({ s with channel := (s.channel.disable busy).2 }.setPhase client .absent)
      else none

/-- No client yet; the channel may be in any state. -/
def Initial (s : Ownership ι) : Prop := ∀ client, s.phase client = .absent

/-- The step switches a channel off that another live client has switched
on. -/
def DisablesOther (s s' : Ownership ι) (client : ι) : Prop :=
  ∃ other, other ≠ client ∧ s.phase other = .initialized ∧ s'.channel.getEnable = 0

/-- One client at most has completed `initializeDma`, and no destructor takes
the channel from another. -/
structure Exclusive (s : Ownership ι) : Prop where
  single : ∀ i j, s.phase i = .initialized → s.phase j = .initialized → i = j
  destructors : ∀ client busy s', s.step (.destroy client busy) = some s' →
    ¬DisablesOther s s' client

/-- No object is made while another client is between its own constructor and
the end of its `initializeDma`. Constructors that throw may run at any time. -/
def Undisturbed (s : Ownership ι) : ClientAction ι → Prop
  | .construct client compatible =>
      s.channel.getEnable = 0 → compatible = true →
        ∀ other, other ≠ client → s.phase other = .absent ∨ s.phase other = .initialized
  | _ => True

end Ownership

/-- The clients of one channel, in any order of steps. -/
def ownershipSystem (ι : Type*) [DecidableEq ι] : ActionSystem (Ownership ι) (ClientAction ι) where
  init := Ownership.Initial
  step := Ownership.step

namespace Ownership

variable {ι : Type*} [DecidableEq ι]

@[simp] theorem setPhase_self (s : Ownership ι) (client : ι) (phase : ClientPhase) :
    (s.setPhase client phase).phase client = phase :=
  Function.update_self ..

theorem setPhase_of_ne (s : Ownership ι) {client other : ι} (phase : ClientPhase)
    (ne : other ≠ client) : (s.setPhase client phase).phase other = s.phase other :=
  Function.update_of_ne ne ..

omit [DecidableEq ι] in
theorem live_of_object {s : Ownership ι} {client : ι}
    (object : s.phase client = .constructed ∨ s.phase client = .initialized) :
    s.phase client ≠ .absent := by
  intro absent
  rw [absent] at object
  rcases object with h | h
  · cases h
  · cases h

/-- At most one client is live, and if it is initialized the enable bit is
set. -/
structure OneClient (s : Ownership ι) : Prop where
  single : ∀ i j, s.phase i ≠ .absent → s.phase j ≠ .absent → i = j
  enabled : ∀ i, s.phase i = .initialized → s.channel.runState.enabled = true

namespace OneClient

variable {s : Ownership ι} {client : ι}

/-- Nobody else is live. -/
theorem of_others (others : ∀ other, other ≠ client → s.phase other = .absent)
    (channel : DmaChannel) {phase : ClientPhase}
    (enabled : phase = .initialized → channel.runState.enabled = true) :
    OneClient ({ s with channel := channel }.setPhase client phase) := by
  have alone {other : ι}
      (some : ({ s with channel := channel }.setPhase client phase).phase other ≠ .absent) :
      other = client := by
    by_contra ne
    rw [setPhase_of_ne _ _ ne] at some
    exact some (others other ne)
  constructor
  · intro i j liveI liveJ
    rw [alone liveI, alone liveJ]
  · intro i initialized
    obtain rfl : i = client := by
      apply alone
      rw [initialized]
      intro absurdity
      cases absurdity
    rw [setPhase_self] at initialized
    exact enabled initialized

/-- The only client that was live moves on. -/
theorem advance (one : OneClient s) (live : s.phase client ≠ .absent) (channel : DmaChannel)
    {phase : ClientPhase} (enabled : phase = .initialized → channel.runState.enabled = true) :
    OneClient ({ s with channel := channel }.setPhase client phase) := by
  refine of_others ?_ channel enabled
  intro other ne
  by_contra also
  exact ne (one.single _ _ also live)

omit [DecidableEq ι] in
/-- A step that only touches the channel. -/
theorem onChannel (one : OneClient s) {channel : DmaChannel}
    (enabled : ∀ i, s.phase i = .initialized → channel.runState.enabled = true) :
    OneClient { s with channel := channel } :=
  ⟨one.single, enabled⟩

/-- A constructor that finds the channel free and disturbs nobody finds nobody. -/
theorem construct (one : OneClient s)
    (undisturbed : ∀ other, other ≠ client →
      s.phase other = .absent ∨ s.phase other = .initialized)
    (free : s.channel.getEnable = 0) : OneClient (s.setPhase client .constructed) := by
  refine of_others ?_ s.channel ?_
  · intro other ne
    rcases undisturbed other ne with gone | initialized
    · exact gone
    · have busy := (DmaChannel.getEnable_ne_zero_iff _).mpr (one.enabled other initialized)
      exact absurd free busy
  · intro absurdity
    cases absurdity

theorem step (one : OneClient s) {a : ClientAction ι} {s' : Ownership ι}
    (allowed : s.Undisturbed a) (taken : s.step a = some s') : OneClient s' := by
  cases a with
  | construct client compatible =>
      simp only [Ownership.step] at taken
      split at taken
      · split at taken
        · obtain rfl := Option.some.inj taken
          exact one
        · rename_i passed
          obtain ⟨notBusy, accepted⟩ := not_or.mp passed
          obtain rfl := Option.some.inj taken
          have free : s.channel.getEnable = 0 := not_not.mp notBusy
          exact one.construct (allowed free (Bool.eq_true_of_not_eq_false accepted)) free
      · cases taken
  | configure client page eventBuffer reportBuffer esType pciePacketSize =>
      simp only [Ownership.step] at taken
      split at taken
      · rename_i object
        split at taken
        · rename_i refused
          obtain rfl := Option.some.inj taken
          refine one.onChannel ?_
          intro i initialized
          rw [DmaChannel.runState_configure_of_refused _ refused]
          exact one.enabled i initialized
        · obtain rfl := Option.some.inj taken
          refine one.advance (live_of_object object) _ ?_
          intro absurdity
          cases absurdity
      · cases taken
  | enable client =>
      simp only [Ownership.step] at taken
      split at taken
      · rename_i configured
        obtain rfl := Option.some.inj taken
        refine one.advance (by rw [configured]; intro h; cases h) _ ?_
        intro _
        exact s.channel.enabled_enable
      · cases taken
  | use client eboffset rboffset =>
      simp only [Ownership.step] at taken
      split at taken
      · obtain rfl := Option.some.inj taken
        refine one.onChannel ?_
        intro _ _
        exact s.channel.enabled_setBufferOffsetsOnDevice eboffset rboffset
      · cases taken
  | destroy client busy =>
      simp only [Ownership.step] at taken
      split at taken
      · rename_i object
        obtain rfl := Option.some.inj taken
        refine one.advance (live_of_object object) _ ?_
        intro absurdity
        cases absurdity
      · cases taken

theorem exclusive (one : OneClient s) : s.Exclusive := by
  constructor
  · intro i j initializedI initializedJ
    exact one.single i j (live_of_object (.inr initializedI)) (live_of_object (.inr initializedJ))
  · rintro client busy s' taken ⟨other, ne, initialized, -⟩
    simp only [Ownership.step] at taken
    split at taken
    · rename_i object
      exact ne (one.single other client (live_of_object (.inr initialized))
        (live_of_object object))
    · cases taken

end OneClient
end Ownership

/-- As long as no constructor makes an object between another client's
constructor and the end of its `initializeDma`, the channel has one owner. -/
theorem undisturbed_ownership_exclusive {ι : Type*} [DecidableEq ι] {s : Ownership ι}
    (reached : (ownershipSystem ι).Reached Ownership.Undisturbed s) : s.Exclusive := by
  refine Ownership.OneClient.exclusive (reached.invariant ?_ ?_)
  · intro start initial
    constructor
    · intro i j live
      exact absurd (initial i) live
    · intro i initialized
      rw [initial i] at initialized
      cases initialized
  · intro before a after one allowed taken
    exact one.step allowed taken

namespace Ownership

/-- A free channel with no client. -/
def free : Ownership Bool := ⟨sixteenEntryChannel, fun _ => .absent⟩

theorem free_initial : (ownershipSystem Bool).init free := fun _ => rfl

/-- The call of `configure` for a client whose buffers are one segment each. -/
def configureOneSegment (client : Bool) : ClientAction Bool :=
  .configure client .fourKiB (some (oneSegmentBuffer 0x10000 0x2000))
    (some (oneSegmentBuffer 0x40000 0x1000)) .toHost 256

/-- The second client's constructor throws while the first client initializes the
channel, for its other checks, and afterwards, for the channel is busy. -/
def oneAfterTheOther : List (ClientAction Bool) :=
  [.construct false true, .construct true false, configureOneSegment false, .enable false,
    .construct true true]

/-- Both constructors run before either client enables the channel. -/
def bothConstructed : List (ClientAction Bool) := [.construct false true, .construct true true]

end Ownership

open Ownership in
theorem undisturbed_ownership_exclusive_oneAfterTheOther :
    ∃ s, (ownershipSystem Bool).run free oneAfterTheOther = some s ∧ s.Exclusive := by
  have keeps : (ownershipSystem Bool).Keeps Undisturbed free oneAfterTheOther := by
    refine ⟨fun _ _ _ _ => .inl rfl, ?_⟩
    intro constructed taken
    obtain rfl := Option.some.inj taken
    refine ⟨fun _ accepted => absurd accepted Bool.false_ne_true, ?_⟩
    intro refused taken
    obtain rfl := Option.some.inj taken
    refine ⟨trivial, ?_⟩
    intro configured taken
    obtain rfl := Option.some.inj taken
    refine ⟨trivial, ?_⟩
    intro enabled taken
    obtain rfl := Option.some.inj taken
    refine ⟨?_, fun _ _ => trivial⟩
    intro free _ other ne
    cases other with
    | false => exact .inr rfl
    | true => exact absurd rfl ne
  exact ⟨_, rfl, undisturbed_ownership_exclusive
    ((ActionSystem.Reached.init free_initial).run keeps rfl)⟩

open Ownership in
/-- Two clients initialize the channel, and a client that never did takes it
from one that has. -/
theorem ownership_shared :
    (¬∀ s, (ownershipSystem Bool).Reached (fun _ _ => True) s →
      ∀ i j, s.phase i = .initialized → s.phase j = .initialized → i = j) ∧
    ¬∀ s, (ownershipSystem Bool).Reached (fun _ _ => True) s →
      ∀ client busy s', s.step (.destroy client busy) = some s' → ¬DisablesOther s s' client := by
  have reached (acts : List (ClientAction Bool)) {s : Ownership Bool}
      (ran : (ownershipSystem Bool).run free acts = some s) :
      (ownershipSystem Bool).Reached (fun _ _ => True) s :=
    (ActionSystem.Reached.init free_initial).run
      (ActionSystem.keeps_of_forall fun _ _ _ => trivial) ran
  constructor
  · intro single
    have both := single _ (reached (bothConstructed ++
      [configureOneSegment false, .enable false, configureOneSegment true, .enable true]) rfl)
      false true rfl rfl
    cases both
  · intro keeps
    refine keeps _ (reached (bothConstructed ++
      [configureOneSegment false, .enable false]) rfl) true (fun _ => false) _ rfl
      ⟨false, Bool.false_ne_true, rfl, ?_⟩
    decide

end Librorc
