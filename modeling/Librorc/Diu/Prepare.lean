import Librorc.Diu.Freshness
import Librorc.Link.DdlCtrl

/-!
# Preparing the link for SIU data

`prepareForSiuData` toggles the DDL reset, resets the SIU and toggles again,
and tests each step with `< 0`. The toggles return an `int`; the SIU reset
returns its `int` as `uint32_t`, and that test never holds.
-/

namespace Librorc

open Librorc.Lib

/-- What happens outside the driver, by bus access: the words posted before it
and whether the link is up. -/
structure DiuEnv where
  remote : Nat → List Post
  linkUp : Nat → Bool

/-- The unit with its DDL_CTRL, as far as the driver writes it. -/
structure DiuChannel where
  unit : Diu
  ddlCtrl : Word32

namespace DiuChannel

variable (env : DiuEnv) (c : DiuChannel)

/-! ## The steps -/

/-- `ddlReg(RORC_REG_DDL_CTRL)`: bit 5 shows the link. -/
def readDdlCtrl : Word32 × DiuChannel :=
  (Link.putBit 5 (if env.linkUp c.unit.clock then 1 else 0) c.ddlCtrl,
    { c with unit := c.unit.arrive env.remote })

def writeDdlCtrl (data : Word32) : DiuChannel := ⟨c.unit.arrive env.remote, data⟩

def setReset (value : Word32) : DiuChannel :=
  let (ddlctrl, c) := c.readDdlCtrl env
  c.writeDdlCtrl env (Link.putBit 31 value ddlctrl)

def getReset : Word32 × DiuChannel :=
  let (ddlctrl, c) := c.readDdlCtrl env
  (ddlctrl >>> 31, c)

def linkUp : Bool × DiuChannel :=
  let (ddlctrl, c) := c.readDdlCtrl env
  (ddlctrl &&& (1#32 <<< 5) != 0, c)

/-- A link that comes up at the last read, with no time left, counts as a
timeout. -/
def waitForLinkUp : Int × DiuChannel :=
  match poll (linkUp env) (!·) diuTimeout c with
  | .ready _ c => (0, c)
  | .timeout _ c => (-1, c)

def toggleDdlReset : Int × DiuChannel :=
  let c := c.setReset env 1
  let c := (c.getReset env).2
  let c := c.setReset env 0
  let c := (c.getReset env).2
  c.waitForLinkUp env

def sendSiuResetCmd : DiuReport × DiuChannel :=
  let (report, unit) := c.unit.sendSiuResetCmd env.remote
  (report, { c with unit })

def prepareForSiuData : Int × DiuChannel :=
  let (toggled, c) := c.toggleDdlReset env
  if toggled < 0 then (-1, c)
  else
    let (reset, c) := c.sendSiuResetCmd env
    -- compared as the uint32_t it is
    if (reset.result.toNat : Int) < 0 then (-1, c)
    else
      let (toggled, c) := c.toggleDdlReset env
      if toggled < 0 then (-1, c) else (0, c)

/-! ## What the steps are to report -/

/-- A toggle that starts in `c` sees the link come up: four writes and reads
of the reset bit take six accesses, then the polls follow. -/
def SeesLinkUp : Prop := ∃ i < diuTimeout, env.linkUp (c.unit.clock + 6 + i) = true

/-- The transmission status word of an SIU reset sent from `c` arrives before
the timeout. Clearing and sending are two accesses. -/
def SiuAcknowledges : Prop :=
  ∃ i ≤ diuTimeout, ∃ p ∈ env.remote (c.unit.clock + 2 + i), p.reg = .ctstw ∧ p.word ≠ noStatusWord

/-- Where the SIU reset starts, and where the second toggle does. -/
def afterToggle : DiuChannel := (c.toggleDdlReset env).2

def afterReset : DiuChannel := ((c.afterToggle env).sendSiuResetCmd env).2

/-- All three steps did what they are for. -/
def Prepared : Prop :=
  c.SeesLinkUp env ∧ (c.afterToggle env).SiuAcknowledges env ∧ (c.afterReset env).SeesLinkUp env

/-- The call returns 0 if they did, and -1 otherwise. -/
def ReportsFailures : Prop :=
  (c.prepareForSiuData env).1 = 0 ∧ c.Prepared env ∨
    (c.prepareForSiuData env).1 = -1 ∧ ¬c.Prepared env

variable {env c}

/-! ## The toggles -/

theorem linkUp_fst : (c.linkUp env).1 = env.linkUp c.unit.clock := by
  unfold linkUp readDdlCtrl
  have shown (v w : Word32) : Link.putBit 5 v w &&& (1#32 <<< 5) = (v &&& 1) <<< 5 := by
    unfold Link.putBit
    apply BitVec.eq_of_getLsbD_eq
    intro i inRange
    have one : (1 : Word32) = 1#32 := rfl
    simp only [one, BitVec.getLsbD_and, BitVec.getLsbD_or, BitVec.getLsbD_not,
      BitVec.getLsbD_shiftLeft, BitVec.getLsbD_one, inRange, decide_true, Bool.true_and]
    by_cases bit : i = 5
    · subst bit
      simp
    · have other : ¬(i - 5 = 0 ∧ ¬i < 5) := by omega
      by_cases low : i < 5
      · simp [low]
      · have high : i - 5 ≠ 0 := by omega
        simp [high]
  cases env.linkUp c.unit.clock with
  | false => simp only [Bool.false_eq_true, if_false, shown]; rfl
  | true => simp only [if_true, shown]; rfl

/-- The `i`-th poll of the link is access `clock + i`. -/
theorem readState_linkUp_clock (i : ℕ) :
    (readState (linkUp env) c i).unit.clock = c.unit.clock + i := by
  induction i generalizing c with
  | zero => rfl
  | succ i ih =>
      rw [readState, ih]
      show c.unit.clock + 1 + i = _
      omega

theorem waitForLinkUp_fst :
    (c.waitForLinkUp env).1 = 0 ∧ (∃ i < diuTimeout, env.linkUp (c.unit.clock + i) = true) ∨
      (c.waitForLinkUp env).1 = -1 ∧ ¬∃ i < diuTimeout, env.linkUp (c.unit.clock + i) = true := by
  have word (i : ℕ) : readWord (linkUp env) c i = env.linkUp (c.unit.clock + i) := by
    rw [readWord, linkUp_fst, readState_linkUp_clock]
  unfold waitForLinkUp
  rcases poll_spec (linkUp env) (!·) diuTimeout c with ⟨i, below, ready, -, ended⟩ | ⟨all, ended⟩
  · rw [ended]
    rw [word, Bool.not_eq_false'] at ready
    exact .inl ⟨rfl, i, below, ready⟩
  · rw [ended]
    refine .inr ⟨rfl, ?_⟩
    rintro ⟨i, below, up⟩
    have down := all i below
    rw [word, up] at down
    cases down

theorem toggleDdlReset_fst (env : DiuEnv) (c : DiuChannel) :
    (c.toggleDdlReset env).1 = 0 ∧ c.SeesLinkUp env ∨
      (c.toggleDdlReset env).1 = -1 ∧ ¬c.SeesLinkUp env :=
  waitForLinkUp_fst (c := ((((c.setReset env 1).getReset env).2.setReset env 0).getReset env).2)

/-! ## The SIU reset -/

theorem foldl_post_empty {posts : List Post} {r : StatusReg} {status : StatusReg → StatusWord}
    (none : ∀ p ∈ posts, p.reg = r → p.word = noStatusWord)
    (empty : (status r).word = noStatusWord) :
    (posts.foldl Diu.post status r).word = noStatusWord := by
  induction posts generalizing status with
  | nil => exact empty
  | cons p rest ih =>
      refine ih (fun q later => none q (List.mem_cons_of_mem p later)) ?_
      by_cases same : p.reg = r
      · rw [Diu.post, ← same, Function.update_self]
        exact none p List.mem_cons_self same
      · rw [Diu.post, Function.update_of_ne (Ne.symm same)]
        exact empty

/-- An empty register stays empty to the `n`-th read if nothing is posted. -/
theorem readWord_empty {remote : Nat → List Post} {r : StatusReg} {n : ℕ} {s : Diu}
    (empty : (s.status r).word = noStatusWord)
    (silent : ∀ i ≤ n, ∀ p ∈ remote (s.clock + i), p.reg = r → p.word = noStatusWord) :
    (readWord (fun s : Diu => s.ddlReg remote r) s n).word = noStatusWord := by
  have first : ((s.arrive remote).status r).word = noStatusWord :=
    foldl_post_empty (silent 0 (Nat.zero_le n)) empty
  induction n generalizing s with
  | zero => exact first
  | succ n ih =>
      have later : ∀ i ≤ n, ∀ p ∈ remote ((s.arrive remote).clock + i),
          p.reg = r → p.word = noStatusWord := by
        intro i inTime p posted
        refine silent (i + 1) (by omega) p ?_
        have clock : (s.arrive remote).clock + i = s.clock + (i + 1) := Nat.succ_add_eq_add_succ ..
        rw [← clock]
        exact posted
      exact ih first later (foldl_post_empty (later 0 (Nat.zero_le n)) first)

/-- The reset itself does report its timeout, unless an older word stands in
the register. -/
theorem sendSiuResetCmd_timeout
    (empty : ((DiuCommand.sendSiuResetCmd.sent env.remote c.unit).status .ctstw).word =
      noStatusWord) (silent : ¬c.SiuAcknowledges env) :
    (c.sendSiuResetCmd env).1.result = noStatusWord := by
  have word (n : ℕ) (inTime : n ≤ diuTimeout) :
      (readWord (fun s : Diu => s.ddlReg env.remote .ctstw)
        (DiuCommand.sendSiuResetCmd.sent env.remote c.unit) n).word = noStatusWord := by
    refine readWord_empty empty ?_
    intro i before p posted same
    by_contra word
    exact silent ⟨i, by omega, p, posted, same, word⟩
  apply (DiuCommand.call_timeout_iff env.remote c.unit .sendSiuResetCmd).mpr
  rw [DiuCommand.call_status]
  unfold Diu.waitForStatusWord
  rcases poll_spec (fun s : Diu => s.ddlReg env.remote .ctstw)
    (fun status => status.word == noStatusWord) diuTimeout
    (DiuCommand.sendSiuResetCmd.sent env.remote c.unit) with
    ⟨i, below, -, -, ended⟩ | ⟨-, ended⟩
  · rw [DiuCommand.awaits, ended]
    exact word i (by omega)
  · rw [DiuCommand.awaits, ended]
    exact word diuTimeout (by omega)

/-! ## The whole preparation -/

/-- The second test never holds. -/
theorem prepareForSiuData_eq :
    (c.prepareForSiuData env).1 =
      if (c.toggleDdlReset env).1 < 0 then -1
      else if ((c.afterReset env).toggleDdlReset env).1 < 0 then -1 else 0 := by
  have unsigned (w : Word32) : ¬(w.toNat : Int) < 0 := by omega
  unfold prepareForSiuData
  simp only [if_neg (unsigned _)]
  split
  · rfl
  · show (if ((c.afterReset env).toggleDdlReset env).1 < 0 then ((-1 : Int), _) else (0, _)).1 = _
    split <;> rfl

/-- The result depends on the toggles alone. -/
theorem prepareForSiuData_fst (env : DiuEnv) (c : DiuChannel) :
    (c.prepareForSiuData env).1 = 0 ∧ c.SeesLinkUp env ∧ (c.afterReset env).SeesLinkUp env ∨
      (c.prepareForSiuData env).1 = -1 ∧
        ¬(c.SeesLinkUp env ∧ (c.afterReset env).SeesLinkUp env) := by
  rw [prepareForSiuData_eq]
  rcases toggleDdlReset_fst env c with ⟨first, up⟩ | ⟨first, down⟩
  · rw [first, if_neg (by omega)]
    rcases toggleDdlReset_fst env (c.afterReset env) with ⟨second, up'⟩ | ⟨second, down⟩
    · rw [second, if_neg (by omega)]
      exact .inl ⟨rfl, up, up'⟩
    · rw [second, if_pos (by omega)]
      exact .inr ⟨rfl, fun both => down both.2⟩
  · rw [first, if_pos (by omega)]
    exact .inr ⟨rfl, fun both => down both.1⟩

/-- Only a timeout of the SIU reset goes unseen, and only if both toggles see
the link. The reset itself reports it (`sendSiuResetCmd_timeout`). -/
theorem prepareForSiuData_reports_iff (env : DiuEnv) (c : DiuChannel) :
    c.ReportsFailures env ↔
      (c.SeesLinkUp env → (c.afterReset env).SeesLinkUp env →
        (c.afterToggle env).SiuAcknowledges env) := by
  unfold ReportsFailures Prepared
  rcases prepareForSiuData_fst env c with ⟨result, up, up'⟩ | ⟨result, down⟩
  · rw [result]
    constructor
    · rintro (⟨-, -, acknowledged, -⟩ | ⟨wrong, -⟩) - -
      · exact acknowledged
      · omega
    · intro acknowledges
      exact .inl ⟨rfl, up, acknowledges up up', up'⟩
  · rw [result]
    constructor
    · intro _ first second
      exact absurd ⟨first, second⟩ down
    · intro _
      exact .inr ⟨rfl, fun prepared => down ⟨prepared.1, prepared.2.2⟩⟩

/-- The link is always up and the SIU never answers: the call returns 0. -/
theorem prepareForSiuData_ignoresTimeout :
    ¬∀ (env : DiuEnv) (c : DiuChannel), c.ReportsFailures env := by
  intro reports
  let env : DiuEnv := ⟨fun _ => [], fun _ => true⟩
  let c : DiuChannel := ⟨idleDiu, 0⟩
  have seen (c : DiuChannel) : c.SeesLinkUp env := ⟨0, by unfold diuTimeout; omega, rfl⟩
  have silent : ¬(c.afterToggle env).SiuAcknowledges env := by
    rintro ⟨i, -, p, posted, -⟩
    cases posted
  rcases reports env c with ⟨-, -, acknowledged, -⟩ | ⟨failed, -⟩
  · exact silent acknowledged
  · rcases prepareForSiuData_fst env c with ⟨result, -⟩ | ⟨-, down⟩
    · omega
    · exact down ⟨seen _, seen _⟩

end DiuChannel

end Librorc
