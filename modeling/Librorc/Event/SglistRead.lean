import Librorc.Dma.RunState
import Librorc.Event.Stream

/-!
# Lists that cannot be read

`initializeSglist` says when the kernel's list cannot be read;
`offsetToPhysAddr` listens, `sgList` and `getnSGEntries` do not. To `configure`
such a buffer has an empty list, which fits into any descriptor RAM with room
for the terminator.
-/

namespace Librorc

open Librorc.Lib

/-- `LIBRORC_EVENT_STREAM_ERROR_INV_BUFFER_ID`. -/
def errorInvBufferId : Int := 0x3005

/-- `initializeDmaBuffers`: the result and the two buffers. A constructor ends
with a buffer or with the `int` it throws. -/
def initializeDmaBuffers (eventBufferId : Word64) (eventBuffer reportBuffer : Except Int Buffer) :
    Int × Option Buffer × Option Buffer :=
  -- only even IDs: the report buffer has the next one
  if eventBufferId &&& 1 ≠ 0 then (errorInvBufferId, none, none)
  else
    match eventBuffer with
    | .error e => (e, none, none)
    | .ok eventBuffer =>
        match reportBuffer with
        | .error e => (e, some eventBuffer, none)
        | .ok reportBuffer => (0, some eventBuffer, some reportBuffer)

def initializeDma (page : PageSize) (channel : DmaChannel) (bufferId : Word64)
    (eventBuffer reportBuffer : Except Int Buffer) (esType : EventStreamDirection)
    (pciePacketSize : Word32) : Int × DmaChannel :=
  let (result, eventBuffer, reportBuffer) :=
    initializeDmaBuffers bufferId eventBuffer reportBuffer
  if result ≠ 0 then (result, channel)
  else initializeDmaChannel page channel eventBuffer reportBuffer esType pciePacketSize

/-- Both lists could be read. -/
def ListsRead (eb rb : Buffer) : Prop :=
  eb.source.read.isSome = true ∧ rb.source.read.isSome = true

/-- The RAM starts with the terminator. -/
def TerminatorAlone (ram : Nat → RamEntry) : Prop := (ram 0).len = 0

/-- What the kernel lists for a buffer that is not empty: segments, none of them
empty. -/
def KernelLists (b : Buffer) : Prop :=
  ∀ l, b.source.read = some l → b.size ≠ 0 → l ≠ [] ∧ ∀ e ∈ l, e.length ≠ 0

/-- Success means that both lists were read: the return value is zero, or the
engine is started, only then, and no RAM is loaded with the terminator alone for
a buffer that is not empty. -/
structure SucceedsOnLists (eb rb : Buffer) (dir : EventStreamDirection) (before : DmaChannel)
    (r : Int × DmaChannel) : Prop where
  read : r.1 = 0 → ListsRead eb rb
  started : before.getEnable = 0 → r.2.getEnable ≠ 0 → ListsRead eb rb
  eventRam : r.1 = 0 → dir = .toHost → eb.size ≠ 0 →
    ¬TerminatorAlone (r.2.device.rams.ram false)
  reportRam : r.1 = 0 → rb.size ≠ 0 → ¬TerminatorAlone (r.2.device.rams.ram true)

namespace DmaChannel

variable {page : PageSize} {ch : DmaChannel} {eb rb : Buffer} {dir : EventStreamDirection}

/-- A list that is to be loaded does not fit. A list that cannot be read counts
as empty. -/
def Refuses (page : PageSize) (ch : DmaChannel) (eb rb : Buffer) (dir : EventStreamDirection) :
    Prop :=
  (dir = .toHost ∧ ch.maxNumSg false ≤ (prepareSgList page eb.readList).length) ∨
    ch.maxNumSg true ≤ (prepareSgList page rb.readList).length

theorem configure_done_iff (pciePacketSize : Word32) :
    (ch.configure page (some eb) (some rb) dir pciePacketSize).1 = 0 ↔
      ¬Refuses page ch eb rb dir := by
  have refused : efbig ≠ 0 := by decide
  unfold Refuses
  cases dir with
  | toHost =>
      rw [configure_toHost]
      by_cases ebFits : (prepareSgList page eb.readList).length < ch.maxNumSg false
      · by_cases rbFits : (prepareSgList page rb.readList).length < ch.maxNumSg true
        · simp [ebFits, rbFits]
        · simp [ebFits, rbFits, refused, Nat.not_lt.mp rbFits]
      · simp [ebFits, refused, Nat.not_lt.mp ebFits]
  | toDevice =>
      rw [configure_toDevice]
      by_cases rbFits : (prepareSgList page rb.readList).length < ch.maxNumSg true
      · simp [rbFits]
      · simp [rbFits, refused, Nat.not_lt.mp rbFits]

/-- A RAM that describes a byte does not start with the terminator. -/
theorem not_terminatorAlone {targetRam : Bool} {maxNumSg : Nat} {l : List ScatterGatherEntry}
    {writes : List SgWrite} {ram : Nat → RamEntry}
    (loaded : LoadedRam targetRam maxNumSg (sgBytes l) writes ram) (some : l ≠ [])
    (nonempty : ∀ e ∈ l, e.length ≠ 0) : ¬TerminatorAlone ram := by
  intro alone
  obtain ⟨entries, found, bytes⟩ := loaded.describes
  have none : entries = [] := by
    cases maxNumSg with
    | zero => cases found
    | succ fuel =>
        have stop : (fun e : RamEntry => e.len == 0) (ram 0) = true := beq_iff_eq.mpr alone
        rw [readRam, readTable, if_pos stop] at found
        exact (Option.some.inj found).symm
  have total := congrArg List.length bytes
  rw [none, length_sgBytes] at total
  cases l with
  | nil => exact some rfl
  | cons e rest =>
      have first := nonempty e List.mem_cons_self
      rw [sgTotal_cons] at total
      have zero : e.length.toNat = 0 := by
        simp only [List.map_nil, segBytes_nil, List.length_nil] at total
        omega
      exact first (BitVec.eq_of_toNat_eq zero)

/-- The RAMs of a configuration that succeeds with lists that were read. -/
theorem configure_loads (ebKernel : KernelLists eb) (rbKernel : KernelLists rb)
    (read : ListsRead eb rb) (pciePacketSize : Word32)
    (done : (ch.configure page (some eb) (some rb) dir pciePacketSize).1 = 0) :
    let rams := (ch.configure page (some eb) (some rb) dir pciePacketSize).2.device.rams
    (dir = .toHost → eb.size ≠ 0 → ¬TerminatorAlone (rams.ram false)) ∧
      (rb.size ≠ 0 → ¬TerminatorAlone (rams.ram true)) := by
  obtain ⟨ebRead, rbRead⟩ := read
  obtain ⟨el, hasEb⟩ := Option.isSome_iff_exists.mp ebRead
  obtain ⟨rl, hasRb⟩ := Option.isSome_iff_exists.mp rbRead
  have fits := (configure_done_iff pciePacketSize).mp done
  unfold Refuses at fits
  rw [Buffer.readList_of_read hasEb, Buffer.readList_of_read hasRb] at fits
  obtain ⟨ebFits, rbFits⟩ := not_or.mp fits
  replace rbFits := Nat.not_le.mp rbFits
  have rbAimed := (stageWrites_aimed true (maxNumSg_lt ch true) rbFits).1
  cases dir with
  | toHost =>
      replace ebFits : (prepareSgList page el).length < ch.maxNumSg false := by
        by_contra tooMany
        exact ebFits ⟨rfl, Nat.not_lt.mp tooMany⟩
      rw [configure_toHost, Buffer.readList_of_read hasEb, Buffer.readList_of_read hasRb]
      simp only [if_pos ebFits, if_pos rbFits, configureDmaChannelRegisters_rams, stage_rams]
      constructor
      · intro _ size
        obtain ⟨some, nonempty⟩ := ebKernel el hasEb size
        -- the second stage leaves the event buffer RAM alone
        rw [DescriptorRams.foldl_store_ram_of_ne _ rbAimed Bool.noConfusion]
        exact not_terminatorAlone (stage_loads (maxNumSg_lt ch false) ebFits nonempty _) some
          nonempty
      · intro size
        obtain ⟨some, nonempty⟩ := rbKernel rl hasRb size
        exact not_terminatorAlone (stage_loads (maxNumSg_lt ch true) rbFits nonempty _) some
          nonempty
  | toDevice =>
      rw [configure_toDevice, Buffer.readList_of_read hasRb]
      simp only [if_pos rbFits, configureDmaChannelRegisters_rams, stage_rams]
      constructor
      · intro toHost
        cases toHost
      · intro size
        obtain ⟨some, nonempty⟩ := rbKernel rl hasRb size
        exact not_terminatorAlone (stage_loads (maxNumSg_lt ch true) rbFits nonempty _) some
          nonempty

/-- `configure` never starts the engine. -/
theorem configure_not_started (pciePacketSize : Word32) (off : ch.getEnable = 0) :
    (ch.configure page (some eb) (some rb) dir pciePacketSize).2.getEnable = 0 := by
  by_contra started
  have rise := (noRise_configure ch page (some eb) (some rb) dir pciePacketSize).enabled
  exact ch.getEnable_ne_zero_iff.mpr (rise ((getEnable_ne_zero_iff _).mp started)) off

theorem configure_succeedsOnLists_iff (ebKernel : KernelLists eb) (rbKernel : KernelLists rb)
    (pciePacketSize : Word32) :
    SucceedsOnLists eb rb dir ch
        (ch.configure page (some eb) (some rb) dir pciePacketSize) ↔
      ListsRead eb rb ∨ Refuses page ch eb rb dir := by
  have done : (ch.configure page (some eb) (some rb) dir pciePacketSize).1 = 0 ↔
      ¬Refuses page ch eb rb dir := configure_done_iff pciePacketSize
  constructor
  · intro succeeds
    by_cases refuses : Refuses page ch eb rb dir
    · exact .inr refuses
    · exact .inl (succeeds.read (done.mpr refuses))
  · intro condition
    have read : (ch.configure page (some eb) (some rb) dir pciePacketSize).1 = 0 →
        ListsRead eb rb := by
      intro zero
      exact condition.resolve_right (done.mp zero)
    exact
      { read := read
        started := by
          intro off started
          exact absurd (configure_not_started pciePacketSize off) started
        eventRam := by
          intro zero
          exact (configure_loads ebKernel rbKernel (read zero) pciePacketSize zero).1
        reportRam := by
          intro zero
          exact (configure_loads ebKernel rbKernel (read zero) pciePacketSize zero).2 }

/-- Starting the engine leaves the RAMs alone. -/
theorem enable_rams (ch : DmaChannel) : ch.enable.device.rams = ch.device.rams :=
  ChannelDevice.setPciReg_rams _ _ (by decide)

end DmaChannel

/-- `initializeDmaChannel` starts the engine exactly when `configure` returns
zero. -/
theorem initializeDmaChannel_eq (page : PageSize) (ch : DmaChannel) (eb rb : Buffer)
    (dir : EventStreamDirection) (pciePacketSize : Word32) :
    let r := ch.configure page (some eb) (some rb) dir pciePacketSize
    let r' := initializeDmaChannel page ch (some eb) (some rb) dir pciePacketSize
    (r.1 = 0 ∧ r' = (0, r.2.enable)) ∨ (r.1 ≠ 0 ∧ r'.1 ≠ 0 ∧ r'.2 = r.2) := by
  have errors : errorBufferNotInitialized ≠ 0 ∧ errorBufferSglistExceeded ≠ 0 ∧
      errorDmaConfigFailed ≠ 0 := by decide
  obtain ⟨notInitialized, exceeded, failed⟩ := errors
  by_cases done : (ch.configure page (some eb) (some rb) dir pciePacketSize).1 = 0
  · left
    simp [initializeDmaChannel, done]
  · right
    refine ⟨done, ?_⟩
    simp only [initializeDmaChannel, Option.isNone_some, Bool.false_eq_true, or_self, if_false,
      ne_eq, done, not_false_eq_true, if_true]
    split_ifs
    · exact ⟨notInitialized, rfl⟩
    · exact ⟨exceeded, rfl⟩
    · exact ⟨failed, rfl⟩

open DmaChannel in
theorem initializeDmaChannel_succeedsOnLists_iff (page : PageSize) (ch : DmaChannel)
    (eb rb : Buffer) (dir : EventStreamDirection) (pciePacketSize : Word32) :
    SucceedsOnLists eb rb dir ch
        (initializeDmaChannel page ch (some eb) (some rb) dir pciePacketSize) ↔
      SucceedsOnLists eb rb dir ch
        (ch.configure page (some eb) (some rb) dir pciePacketSize) := by
  rcases initializeDmaChannel_eq page ch eb rb dir pciePacketSize with
    ⟨done, same⟩ | ⟨failed, failed', same⟩
  · rw [same]
    constructor
    · intro succeeds
      exact
        { read := by
            intro _
            exact succeeds.read rfl
          started := by
            intro off started
            exact absurd (configure_not_started pciePacketSize off) started
          eventRam := by
            intro _
            have ram := succeeds.eventRam rfl
            rwa [enable_rams] at ram
          reportRam := by
            intro _
            have ram := succeeds.reportRam rfl
            rwa [enable_rams] at ram }
    · intro succeeds
      exact
        { read := by
            intro _
            exact succeeds.read done
          started := by
            intro _ _
            exact succeeds.read done
          eventRam := by
            intro _
            rw [enable_rams]
            exact succeeds.eventRam done
          reportRam := by
            intro _
            rw [enable_rams]
            exact succeeds.reportRam done }
  · constructor
    · intro succeeds
      refine ⟨fun zero => absurd zero failed, ?_, fun zero => absurd zero failed,
        fun zero => absurd zero failed⟩
      rw [← same]
      exact succeeds.started
    · intro succeeds
      refine ⟨fun zero => absurd zero failed', ?_, fun zero => absurd zero failed',
        fun zero => absurd zero failed'⟩
      rw [same]
      exact succeeds.started

/-- With both buffers constructed, `initializeDma` checks the ID and goes on. -/
theorem initializeDma_eq (page : PageSize) (ch : DmaChannel) (bufferId : Word64) (eb rb : Buffer)
    (dir : EventStreamDirection) (pciePacketSize : Word32) :
    initializeDma page ch bufferId (.ok eb) (.ok rb) dir pciePacketSize =
      if bufferId &&& 1 ≠ 0 then (errorInvBufferId, ch)
      else initializeDmaChannel page ch (some eb) (some rb) dir pciePacketSize := by
  unfold initializeDma initializeDmaBuffers
  split_ifs
  · rfl
  · rfl

/-- A call that failed before it reached the channel promises nothing. -/
theorem SucceedsOnLists.of_failed {eb rb : Buffer} {dir : EventStreamDirection} {ch : DmaChannel}
    {result : Int} (failed : result ≠ 0) : SucceedsOnLists eb rb dir ch (result, ch) where
  read zero := absurd zero failed
  started off on := absurd off on
  eventRam zero := absurd zero failed
  reportRam zero := absurd zero failed

/-- A buffer whose list the kernel does not show. -/
def unreadableBuffer (size : Word64) : Buffer := Buffer.connect (.sysfs none) size

end Librorc
