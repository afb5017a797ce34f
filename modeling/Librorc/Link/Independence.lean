import Librorc.Lib.Confined
import Librorc.Link.DdlFile
import Librorc.Link.GtxControl
import Librorc.Link.GtxDfe
import Librorc.Link.Readiness

/-!
# The links are independent

All links of a board are behind one BAR, and the calls of several links come in
any order. Every call stays in the window of its link: it writes nothing
elsewhere, and neither what it returns nor what it writes depends on anything
elsewhere. So the calls of one link have the results and leave the registers
that they would have without the others.
-/

namespace Librorc

open Librorc.Lib

deriving instance DecidableEq for Link

namespace Link

variable (l : Link)

/-- The window as a set. -/
def window : Set Word64 := {a | l.InWindow a}

theorem pciAddr_mem (addr : Word32) (small : addr.toNat < 0x2000) : l.pciAddr addr ∈ l.window := by
  obtain ⟨k, aligned, inRange⟩ := l.base_aligned
  have value : (l.pciAddr addr).toNat = l.base.toNat + addr.toNat := by
    rw [pciAddr, BitVec.toNat_setWidth, BitVec.toNat_add]
    omega
  show _ ≤ _ ∧ _ < _
  omega

theorem gtxAddr_mem (addr : Word32) (small : addr.toNat < 0x2000) : l.gtxAddr addr ∈ l.window := by
  obtain ⟨k, aligned, inRange⟩ := l.base_aligned
  have value : (l.gtxAddr addr).toNat = l.base.toNat + 0x2000 + addr.toNat := by
    rw [gtxAddr, BitVec.toNat_setWidth, BitVec.toNat_add, BitVec.toNat_add]
    show ((l.base.toNat + 0x2000) % 2 ^ 32 + addr.toNat) % 2 ^ 32 % 2 ^ 64 = _
    omega
  show _ ≤ _ ∧ _ < _
  omega

theorem ddlAddr_mem (addr : Word32) (small : addr.toNat < 0x4000) : l.ddlAddr addr ∈ l.window :=
  l.ddlAddr_inWindow small

/-- Different links have different windows. -/
theorem window_disjoint {l other : Link} (small : l.linkNumber.toNat < 2 ^ 17)
    (small' : other.linkNumber.toNat < 2 ^ 17) (ne : l ≠ other) :
    ∀ a ∈ other.window, a ∉ l.window := by
  have numbers : l.linkNumber ≠ other.linkNumber := by
    intro same
    cases l
    cases other
    exact ne (congrArg Link.mk same)
  intro a there here
  exact not_inWindow (base_ne small small' numbers) here there

end Link

/-! ## Calls -/

/-- The calls of `link` and of the classes that work on one, the accessors of its
three register files among them. -/
inductive LinkCall
  | ddl (op : DdlOp)
  | readDdl (f : DdlField)
  | gtx (op : Gtx.ControlOp)
  | readGtx (f : Gtx.ControlField)
  | setDfeTaps (taps : GtxdfeTaps)
  | dfeTaps
  | clearErrorCounters
  | isGtxDomainReady
  | isGtxLinkUp
  | waitForGTXDomain
  | rxInitialize
  | pciReg (addr : Word32)
  | setPciReg (addr data : Word32)
  | gtxReg (addr : Word32)
  | setGtxReg (addr data : Word32)
  | ddlReg (addr : Word32)
  | setDdlReg (addr data : Word32)

namespace LinkCall

/-- The address is one of the file. -/
def InFile : LinkCall → Prop
  | .pciReg addr | .setPciReg addr _ | .gtxReg addr | .setGtxReg addr _ => addr.toNat < 0x2000
  | .ddlReg addr | .setDdlReg addr _ => addr.toNat < 0x4000
  | _ => True

instance : (c : LinkCall) → Decidable c.InFile
  | .pciReg _ | .setPciReg _ _ | .gtxReg _ | .setGtxReg _ _ | .ddlReg _ | .setDdlReg _ _ =>
      inferInstanceAs (Decidable (_ < _))
  | .ddl _ | .readDdl _ | .gtx _ | .readGtx _ | .setDfeTaps _ | .dfeTaps | .clearErrorCounters
  | .isGtxDomainReady | .isGtxLinkUp | .waitForGTXDomain | .rxInitialize => isTrue trivial

/-- A call with what it returns. -/
def run (l : Link) : LinkCall → Bar → List Int × Bar
  | .ddl op, b => ([], op.run l b)
  | .readDdl f, b => ([(f.read l b).toNat], b)
  | .gtx op, b => ([], op.run l b)
  | .readGtx f, b => ([(f.read l b).toNat], b)
  | .setDfeTaps taps, b => ([], Gtx.setDfeTaps l Bar.storage taps b)
  | .dfeTaps, b =>
      let (taps, b) := Gtx.dfeTaps l Bar.storage b
      ([taps.tap1, taps.tap2, taps.tap3, taps.tap4], b)
  | .clearErrorCounters, b => ([], Gtx.clearErrorCounters l Bar.storage b)
  | .isGtxDomainReady, b =>
      let (ready, b) := l.isGtxDomainReady Bar.storage b
      ([ready.toInt], b)
  | .isGtxLinkUp, b =>
      let (up, b) := l.isGtxLinkUp Bar.storage b
      ([up.toInt], b)
  | .waitForGTXDomain, b =>
      let (ret, b) := l.waitForGTXDomain Bar.storage b
      ([ret], b)
  | .rxInitialize, b =>
      let (ret, b) := Gtx.rxInitialize l Bar.storage b
      ([ret], b)
  | .pciReg addr, b =>
      let (word, b) := l.pciReg Bar.storage addr b
      ([word.toNat], b)
  | .setPciReg addr data, b => ([], l.setPciReg Bar.storage addr data b)
  | .gtxReg addr, b =>
      let (word, b) := l.gtxReg Bar.storage addr b
      ([word.toNat], b)
  | .setGtxReg addr data, b => ([], l.setGtxReg Bar.storage addr data b)
  | .ddlReg addr, b =>
      let (word, b) := l.ddlReg addr b
      ([word.toNat], b)
  | .setDdlReg addr data, b => ([], l.setDdlReg addr data b)

end LinkCall

/-! ## Every call stays in the window -/

namespace Bar

variable {window : Set Word64} {address : Word64}

theorem get32_confined (member : address ∈ window) :
    Confined words window (Bar.get32 address) :=
  .of_read (fun _ => rfl) fun _ _ agree => agree address member

theorem set32_confined (member : address ∈ window) (data : Word32) :
    Confined words window fun b => ((), b.set32 address data) where
  outside b a free := by
    have ne : a ≠ address := fun same => free (same ▸ member)
    exact Function.update_of_ne ne _ _
  result _ _ _ := rfl
  inside b b' agree a inside := by
    show Function.update b.words address data a = Function.update b'.words address data a
    rw [Function.update_apply, Function.update_apply, agree a inside]

end Bar

variable (l : Link)

theorem DdlField.addr_lt (f : DdlField) : f.place.addr.toNat < 0x4000 := by
  have all : ∀ f ∈ DdlField.all, f.place.addr.toNat < 0x4000 := by decide
  exact all f f.mem_all

/-- Read a register, change it, write it back. -/
theorem update_confined {address : Word64} (member : address ∈ l.window)
    (change : Word32 → Word32) :
    Confined Bar.words l.window fun b =>
      ((), (b.get32 address).2.set32 address (change (b.get32 address).1)) :=
  (Bar.get32_confined member).bind fun word => Bar.set32_confined member (change word)

theorem DdlOp.confined (op : DdlOp) :
    Confined Bar.words l.window fun b => (([] : List Int), op.run l b) :=
  .of_setAll (op.run_words l) (fun f => l.ddlAddr_mem _ f.addr_lt) (fun _ _ _ => rfl)
    fun _ _ _ => rfl

theorem DdlField.read_confined (f : DdlField) :
    Confined Bar.words l.window fun b => ([((f.read l b).toNat : Int)], b) := by
  refine .of_read (fun _ => rfl) ?_
  intro b b' agree
  have word : f.read l b = f.read l b' := by
    rw [f.read_eq, f.read_eq]
    exact congrArg (fun w => getField w _ _) (agree _ (l.ddlAddr_mem _ f.addr_lt))
  rw [word]

namespace Link

variable {addr : Word32}

theorem pciReg_confined (small : addr.toNat < 0x2000) :
    Confined Bar.words l.window (l.pciReg Bar.storage addr) :=
  Bar.get32_confined (l.pciAddr_mem addr small)

theorem setPciReg_confined (small : addr.toNat < 0x2000) (data : Word32) :
    Confined Bar.words l.window fun b => ((), l.setPciReg Bar.storage addr data b) :=
  Bar.set32_confined (l.pciAddr_mem addr small) data

theorem gtxReg_confined (small : addr.toNat < 0x2000) :
    Confined Bar.words l.window (l.gtxReg Bar.storage addr) :=
  Bar.get32_confined (l.gtxAddr_mem addr small)

theorem setGtxReg_confined (small : addr.toNat < 0x2000) (data : Word32) :
    Confined Bar.words l.window fun b => ((), l.setGtxReg Bar.storage addr data b) :=
  Bar.set32_confined (l.gtxAddr_mem addr small) data

theorem isGtxDomainReady_confined :
    Confined Bar.words l.window (l.isGtxDomainReady Bar.storage) := by
  refine .of_read (fun _ => rfl) ?_
  intro b b' agree
  have word := (l.pciReg_confined (show Reg.gtxAsyncCfg.toNat < 0x2000 by decide)).result b b' agree
  simp only [isGtxDomainReady, word]

theorem isGtxLinkUp_confined : Confined Bar.words l.window (l.isGtxLinkUp Bar.storage) := by
  refine .of_read (fun _ => rfl) ?_
  intro b b' agree
  have word := (l.gtxReg_confined (show Reg.gtxCtrl.toNat < 0x2000 by decide)).result b b' agree
  simp only [isGtxLinkUp, word]

theorem waitForGTXDomain_confined :
    Confined Bar.words l.window (l.waitForGTXDomain Bar.storage) := by
  have ends : l.waitForGTXDomain Bar.storage = fun b =>
      (poll (l.isGtxDomainReady Bar.storage) (!·) linkWaitforgtxTimeout b).finish (fun _ => 0)
        fun _ => -1 := by
    funext b
    unfold waitForGTXDomain
    cases poll (l.isGtxDomainReady Bar.storage) (!·) linkWaitforgtxTimeout b <;> rfl
  rw [ends]
  exact l.isGtxDomainReady_confined.poll _ _ _ _

end Link

namespace Gtx

theorem ControlReg.addr_mem (r : ControlReg) : r.addr l ∈ l.window := by
  cases r with
  | asyncCfg => exact l.pciAddr_mem Reg.gtxAsyncCfg (by decide)
  | ctrl => exact l.gtxAddr_mem Reg.gtxCtrl (by decide)

theorem ControlOp.confined (op : ControlOp) :
    Confined Bar.words l.window fun b => (([] : List Int), op.run l b) := by
  refine .of_setAll (run_words l op) (fun f => ControlReg.addr_mem l _) ?_ fun _ _ _ => rfl
  intro b b' agree
  rw [agree _ (l.gtxAddr_mem Reg.gtxCtrl (by decide))]

theorem ControlField.read_confined (f : ControlField) :
    Confined Bar.words l.window fun b => ([((f.read l b).toNat : Int)], b) := by
  refine .of_read (fun _ => rfl) ?_
  intro b b' agree
  have word : f.read l b = f.read l b' := by
    rw [read_eq, read_eq, agree _ (ControlReg.addr_mem l _)]
  rw [word]

theorem setDfeTaps_confined (taps : GtxdfeTaps) :
    Confined Bar.words l.window fun b => ((), setDfeTaps l Bar.storage taps b) :=
  update_confined l (l.gtxAddr_mem Reg.gtxRxdfe (by decide)) _

theorem dfeTaps_confined : Confined Bar.words l.window (dfeTaps l Bar.storage) := by
  refine .of_read (fun _ => rfl) ?_
  intro b b' agree
  rw [dfeTaps_eq, dfeTaps_eq, agree _ (l.gtxAddr_mem Reg.gtxRxdfe (by decide))]

theorem setRxReset_confined (value : Word32) :
    Confined Bar.words l.window fun b => ((), setRxReset l Bar.storage value b) :=
  update_confined l (l.pciAddr_mem Reg.gtxAsyncCfg (by decide)) _

/-- Three registers, one after the other. -/
theorem clearErrorCounters_confined :
    Confined Bar.words l.window fun b => ((), clearErrorCounters l Bar.storage b) := by
  have realign := l.setGtxReg_confined (show Reg.gtxDisperrRealignCnt.toNat < 0x2000 by decide) 0
  have rxlos := l.setGtxReg_confined (show Reg.gtxRxnitRxlosCnt.toNat < 0x2000 by decide) 0
  have errors := l.setGtxReg_confined (show Reg.gtxErrorCnt.toNat < 0x2000 by decide) 0
  unfold clearErrorCounters
  exact (realign.comp rxlos).comp errors

theorem rxAttempt_confined : Confined Bar.words l.window (rxAttempt l Bar.storage) := by
  have ends : rxAttempt l Bar.storage = fun b =>
      (poll (l.isGtxLinkUp Bar.storage) (!·) gtxRxinitAlignTimeout
        (setRxReset l Bar.storage 0 (setRxReset l Bar.storage 1 b))).finish (fun _ => true)
          fun _ => false := by
    funext b
    unfold rxAttempt pulseRxReset isLinkUp
    cases poll (l.isGtxLinkUp Bar.storage) (!·) gtxRxinitAlignTimeout
      (setRxReset l Bar.storage 0 (setRxReset l Bar.storage 1 b)) <;> rfl
  rw [ends]
  exact (setRxReset_confined l 1).bind fun _ => (setRxReset_confined l 0).bind fun _ =>
    l.isGtxLinkUp_confined.poll _ _ _ _

/-- One turn of the loop. -/
def rxTurn (retryCount : Nat) (rxInitDone : Bool) (b : Bar) : Int × Bar :=
  if rxInitDone then (Int.ofNat retryCount, clearErrorCounters l Bar.storage b)
  else if retryCount + 1 < gtxRxinitRetryLimit then rxRetry l Bar.storage (retryCount + 1) b
  else (-1, b)

theorem rxRetry_eq (retryCount : Nat) :
    rxRetry l Bar.storage retryCount = fun b =>
      rxTurn l retryCount (rxAttempt l Bar.storage b).1 (rxAttempt l Bar.storage b).2 := by
  funext b
  rw [rxRetry]
  rfl

/-- By the attempts that are left. -/
theorem rxRetry_confined (retryCount : Nat) :
    Confined Bar.words l.window (rxRetry l Bar.storage retryCount) := by
  induction left : gtxRxinitRetryLimit - retryCount using Nat.strong_induction_on
    generalizing retryCount with
  | h n ih =>
      rw [rxRetry_eq]
      refine (rxAttempt_confined l).bind fun done => ?_
      refine .ite ((clearErrorCounters_confined l).map fun _ => Int.ofNat retryCount) ?_
      by_cases more : retryCount + 1 < gtxRxinitRetryLimit
      · simp only [if_pos more]
        exact ih _ (by omega) (retryCount + 1) rfl
      · simp only [if_neg more]
        exact .pure (-1)

end Gtx

namespace LinkCall

theorem confined {c : LinkCall} (inFile : c.InFile) :
    Confined Bar.words l.window (c.run l) := by
  cases c with
  | ddl op => exact op.confined l
  | readDdl f => exact f.read_confined l
  | gtx op => exact op.confined l
  | readGtx f => exact f.read_confined l
  | setDfeTaps taps => exact (Gtx.setDfeTaps_confined l taps).map fun _ => []
  | dfeTaps =>
      exact (Gtx.dfeTaps_confined l).map fun taps => [taps.tap1, taps.tap2, taps.tap3, taps.tap4]
  | clearErrorCounters => exact (Gtx.clearErrorCounters_confined l).map fun _ => []
  | isGtxDomainReady => exact l.isGtxDomainReady_confined.map fun ready => [ready.toInt]
  | isGtxLinkUp => exact l.isGtxLinkUp_confined.map fun up => [up.toInt]
  | waitForGTXDomain => exact l.waitForGTXDomain_confined.map fun ret => [ret]
  | rxInitialize => exact (Gtx.rxRetry_confined l 0).map fun ret => [ret]
  | pciReg addr => exact (l.pciReg_confined inFile).map fun word => [(word.toNat : Int)]
  | setPciReg addr data => exact (l.setPciReg_confined inFile data).map fun _ => []
  | gtxReg addr => exact (l.gtxReg_confined inFile).map fun word => [(word.toNat : Int)]
  | setGtxReg addr data => exact (l.setGtxReg_confined inFile data).map fun _ => []
  | ddlReg addr =>
      exact (Bar.get32_confined (l.ddlAddr_mem addr inFile)).map fun word => [(word.toNat : Int)]
  | setDdlReg addr data =>
      exact (Bar.set32_confined (l.ddlAddr_mem addr inFile) data).map fun _ => []

end LinkCall

/-! ## Calls of several links -/

/-- The calls of one link. -/
def callsOf (l : Link) (calls : List (Link × LinkCall)) : List (Link × LinkCall) :=
  calls.filter fun c => c.1 = l

/-- Runs calls of all links in their order. -/
def runLinks (calls : List (Link × LinkCall)) (b : Bar) :
    List ((Link × LinkCall) × List Int) × Bar :=
  runAll (fun c => c.2.run c.1) calls b

/-- The link numbers of a board, and registers that are there. -/
def WellAddressed (calls : List (Link × LinkCall)) : Prop :=
  ∀ c ∈ calls, c.1.linkNumber.toNat < 2 ^ 17 ∧ c.2.InFile

instance (calls : List (Link × LinkCall)) : Decidable (WellAddressed calls) :=
  inferInstanceAs (Decidable (∀ c ∈ calls, _ ∧ _))

/-- A link has what its own calls give it. -/
theorem runLinks_own {calls : List (Link × LinkCall)} (valid : WellAddressed calls) {l : Link}
    (small : l.linkNumber.toNat < 2 ^ 17) (b : Bar) :
    ((runLinks calls b).1.filter fun r => r.1.1 = l) = (runLinks (callsOf l calls) b).1 ∧
      AgreeOn Bar.words l.window (runLinks calls b).2 (runLinks (callsOf l calls) b).2 :=
  runAll_own (fun c member => LinkCall.confined c.1 (valid c member).2)
    (fun c member other => Link.window_disjoint (valid c member).1 small other)
    fun _ _ => rfl

/-- **Independent links.** Whatever the order in which the calls of several links
come, and whichever calls the other links make: the same calls of a link return
the same and leave the same registers in its window. Nothing is written outside
the windows of the links that are called. -/
theorem links_independent {calls calls' : List (Link × LinkCall)} (valid : WellAddressed calls)
    (valid' : WellAddressed calls') (b : Bar) :
    (∀ l : Link, l.linkNumber.toNat < 2 ^ 17 → callsOf l calls = callsOf l calls' →
      ((runLinks calls b).1.filter fun r => r.1.1 = l) =
        ((runLinks calls' b).1.filter fun r => r.1.1 = l) ∧
      ∀ a, l.InWindow a → (runLinks calls b).2.words a = (runLinks calls' b).2.words a) ∧
    ∀ a, (∀ c ∈ calls, ¬c.1.InWindow a) → (runLinks calls b).2.words a = b.words a := by
  constructor
  · intro l small same
    obtain ⟨results, ends⟩ := runLinks_own valid small b
    obtain ⟨results', ends'⟩ := runLinks_own valid' small b
    rw [results, results', ← same]
    refine ⟨rfl, ?_⟩
    intro a inside
    rw [ends a inside, ends' a inside, ← same]
  · intro a free
    exact runAll_outside (fun c member => LinkCall.confined c.1 (valid c member).2) free b

/-- Two links, and their calls in two orders. -/
theorem links_independent_twoOrders :
    let first : List (Link × LinkCall) :=
      [(⟨0⟩, .ddl (.link (.setChannelActive 1))), (⟨1⟩, .ddl (.setFilterMask 0xff)),
        (⟨0⟩, .readDdl (.ctrl .active))]
    let second : List (Link × LinkCall) :=
      [(⟨1⟩, .rxInitialize), (⟨0⟩, .ddl (.link (.setChannelActive 1))),
        (⟨0⟩, .readDdl (.ctrl .active)), (⟨1⟩, .setPciReg 3 5)]
    ((runLinks first ⟨fun _ => 0, []⟩).1.filter fun r => r.1.1 = ⟨0⟩) =
      ((runLinks second ⟨fun _ => 0, []⟩).1.filter fun r => r.1.1 = ⟨0⟩) := by
  intro first second
  have valid : WellAddressed first := by decide
  have valid' : WellAddressed second := by decide
  exact ((links_independent valid valid' ⟨fun _ => 0, []⟩).1 ⟨0⟩ (by decide) rfl).1

end Librorc
