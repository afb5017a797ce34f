import Librorc.Diu.Command

/-!
# Which command a report belongs to

A report is fresh when it is the timeout value or comes from a word posted
after the command was sent. `freshness_iff` says when: the register the command
waits on must be empty when the command is sent, or be written before it is
read. The SIU reset clears a register it does not wait on.
-/

namespace Librorc

open Librorc.Lib

/-- The timeout value, or derived from a word posted after the command. -/
def DiuReport.Fresh (report : DiuReport) : Prop :=
  report.result = noStatusWord ∨ report.status.sinceCommand = true

namespace DiuCommand

def clears : DiuCommand → StatusReg
  | .sendFeeEndOfBlockTransferCmd | .sendFeeReadyToReceiveCmd => .ctstw
  | .readRemoteHwVersion _ => .festw
  | _ => .ifstw

def awaits : DiuCommand → StatusReg
  | .sendFeeEndOfBlockTransferCmd | .sendFeeReadyToReceiveCmd | .sendSiuResetCmd => .ctstw
  | .readRemoteHwVersion _ => .festw
  | _ => .ifstw

def word : DiuCommand → Word32
  | .sendFeeEndOfBlockTransferCmd => diucmdSiuEobtr
  | .sendFeeReadyToReceiveCmd => diucmdSiuRdyrx
  | .readAndClearDiuInterfaceStatus => diucmdDiuRcifstw
  | .readAndClearSiuInterfaceStatus => diucmdSiuRcifstw
  | .sendSiuResetCmd => diucmdSiuRst
  | .sendDiuLinkInitializationCmd => diucmdDiuDiuinit
  | .sendDiuLinkResetCmd => diucmdDiuDiurst
  | .readRemoteHwVersion addr => diucmdRemoteHwvers ||| (addr.setWidth 32 <<< 12)

variable (remote : Nat → List Post) (s : Diu) (c : DiuCommand)

/-- The unit right after the command has been sent. -/
def sent : Diu := (s.clearStatusWord remote c.clears).sendCommand remote c.word

/-- Nothing stands in the register the command waits on when it is sent, or a
word is posted there before the first read. -/
def Unspoiled : Prop :=
  ((c.sent remote s).status c.awaits).word = noStatusWord ∨
    ∃ p ∈ remote (c.sent remote s).clock, p.reg = c.awaits

/-- Every command of the sequence is unspoiled where it is called. -/
def AllUnspoiled (remote : Nat → List Post) : Diu → List DiuCommand → Prop
  | _, [] => True
  | s, c :: rest => c.Unspoiled remote s ∧ AllUnspoiled remote (c.call remote s).2 rest

theorem call_status :
    (c.call remote s).1.status = ((c.sent remote s).waitForStatusWord remote c.awaits).1 := by
  cases c with
  | sendFeeEndOfBlockTransferCmd => rfl
  | sendFeeReadyToReceiveCmd => rfl
  | readAndClearDiuInterfaceStatus => rfl
  | readAndClearSiuInterfaceStatus => rfl
  | sendSiuResetCmd => rfl
  | sendDiuLinkInitializationCmd => rfl
  | sendDiuLinkResetCmd => rfl
  | readRemoteHwVersion addr => rfl

/-- The result is the timeout value exactly when no word was seen. -/
theorem call_timeout_iff :
    (c.call remote s).1.result = noStatusWord ↔
      (c.call remote s).1.status.word = noStatusWord := by
  have transmission (s : Diu) :
      (s.waitForCommandTransmissionStatusWord remote).1.result = noStatusWord ↔
        (s.waitForCommandTransmissionStatusWord remote).1.status.word = noStatusWord := by
    simp only [Diu.waitForCommandTransmissionStatusWord]
    split
    · rename_i none
      exact iff_of_true (by decide) none
    · rename_i some
      exact iff_of_false (by decide) some
  cases c with
  | sendFeeEndOfBlockTransferCmd => exact transmission _
  | sendFeeReadyToReceiveCmd => exact transmission _
  | readAndClearDiuInterfaceStatus => rfl
  | readAndClearSiuInterfaceStatus => rfl
  | sendSiuResetCmd => exact transmission _
  | sendDiuLinkInitializationCmd => rfl
  | sendDiuLinkResetCmd => rfl
  | readRemoteHwVersion addr => rfl

end DiuCommand

/-! ## Posts -/

namespace Diu

theorem foldl_post_quiet {posts : List Post} {r : StatusReg} (quiet : ∀ p ∈ posts, p.reg ≠ r)
    (status : StatusReg → StatusWord) : posts.foldl post status r = status r := by
  induction posts generalizing status with
  | nil => rfl
  | cons p rest ih =>
      rw [List.foldl_cons, ih (fun q later => quiet q (List.mem_cons_of_mem p later))]
      exact Function.update_of_ne (quiet p List.mem_cons_self).symm ..

theorem foldl_post_posted {posts : List Post} {r : StatusReg} (posted : ∃ p ∈ posts, p.reg = r)
    (status : StatusReg → StatusWord) : (posts.foldl post status r).sinceCommand = true := by
  induction posts generalizing status with
  | nil =>
      obtain ⟨p, none, -⟩ := posted
      cases none
  | cons p rest ih =>
      rw [List.foldl_cons]
      by_cases later : ∃ q ∈ rest, q.reg = r
      · exact ih later _
      · have quiet : ∀ q ∈ rest, q.reg ≠ r := by
          intro q mem same
          exact later ⟨q, mem, same⟩
        obtain ⟨q, mem, same⟩ := posted
        rcases List.mem_cons.mp mem with rfl | mem
        · rw [foldl_post_quiet quiet, ← same, post, Function.update_self]
        · exact absurd same (quiet q mem)

variable {remote : Nat → List Post} {s : Diu} {r : StatusReg}

theorem arrive_quiet (quiet : ∀ p ∈ remote s.clock, p.reg ≠ r) :
    (s.arrive remote).status r = s.status r :=
  foldl_post_quiet quiet s.status

@[simp] theorem clearStatusWord_self :
    (s.clearStatusWord remote r).status r = ⟨noStatusWord, false⟩ :=
  Function.update_self ..

theorem clearStatusWord_of_ne {other : StatusReg} (ne : other ≠ r) :
    (s.clearStatusWord remote r).status other = (s.arrive remote).status other :=
  Function.update_of_ne ne ..

theorem sendCommand_word (command : Word32) :
    ((s.sendCommand remote command).status r).word = ((s.arrive remote).status r).word := rfl

/-- The register holds nothing older than the last command. -/
def Settled (r : StatusReg) (s : Diu) : Prop :=
  (s.status r).word = noStatusWord ∨ (s.status r).sinceCommand = true

theorem settled_arrive (s : Diu) :
    (s.arrive remote).Settled r ↔ s.Settled r ∨ ∃ p ∈ remote s.clock, p.reg = r := by
  by_cases posted : ∃ p ∈ remote s.clock, p.reg = r
  · exact iff_of_true (.inr (foldl_post_posted posted s.status)) (.inr posted)
  · have quiet : ∀ p ∈ remote s.clock, p.reg ≠ r := by
      intro p mem same
      exact posted ⟨p, mem, same⟩
    rw [or_iff_left posted, Settled, arrive_quiet quiet, Settled]

/-- Polling a register returns a word older than the last command exactly when
the first read finds one. -/
theorem waitForStatusWord_settled_iff :
    ((s.waitForStatusWord remote r).1.word = noStatusWord ∨
        (s.waitForStatusWord remote r).1.sinceCommand = true) ↔
      (s.arrive remote).Settled r := by
  constructor
  · intro derived
    by_contra stale
    obtain ⟨some, old⟩ := not_or.mp stale
    -- the loop ends with the first word it reads
    have ready : ((s.ddlReg remote r).1.word == noStatusWord) = false := beq_false_of_ne some
    have first : poll (fun s => s.ddlReg remote r) (fun status => status.word == noStatusWord)
        diuTimeout s = .ready (s.ddlReg remote r).1 (s.ddlReg remote r).2 :=
      poll_of_ready (by decide) ready
    rw [waitForStatusWord, first] at derived
    exact stale derived
  · intro settled
    -- whatever is posted meanwhile is newer than the command
    have kept (n : Nat) :
        ((readState (fun s => s.ddlReg remote r) s n).arrive remote).Settled r := by
      refine readState_invariant (P := fun s => (arrive remote s).Settled r) ?_ settled n
      intro s settled
      exact (settled_arrive _).mpr (.inl settled)
    have words := poll_spec (fun s => s.ddlReg remote r)
      (fun status => status.word == noStatusWord) diuTimeout s
    unfold waitForStatusWord
    rcases words with ⟨i, -, -, -, ended⟩ | ⟨-, ended⟩
    · rw [ended]
      exact kept i
    · rw [ended]
      exact kept diuTimeout

end Diu
/-! ## Reports -/

namespace DiuCommand

variable {remote : Nat → List Post}

theorem call_fresh_iff (s : Diu) (c : DiuCommand) :
    (c.call remote s).1.Fresh ↔ c.Unspoiled remote s := by
  rw [DiuReport.Fresh, call_timeout_iff, call_status, Diu.waitForStatusWord_settled_iff,
    Diu.settled_arrive, Unspoiled]
  -- right after the send no word is a new one
  have old : ((c.sent remote s).status c.awaits).sinceCommand ≠ true := Bool.false_ne_true
  rw [Diu.Settled, or_iff_left old]

/-- A command that clears the register it waits on is spoiled only by a word
that comes between the two writes. -/
theorem unspoiled_of_clears {s : Diu} {c : DiuCommand} (own : c.clears = c.awaits)
    (quiet : ∀ p ∈ remote (s.clock + 1), p.reg ≠ c.awaits) : c.Unspoiled remote s := by
  left
  have word : ((c.sent remote s).status c.awaits).word =
      ((s.clearStatusWord remote c.clears).status c.awaits).word := by
    rw [sent, Diu.sendCommand_word, Diu.arrive_quiet quiet]
  rw [word, own, Diu.clearStatusWord_self]

/-- If no word comes before the first read, the SIU reset depends on what an
earlier command left in the register. -/
theorem sendSiuResetCmd_unspoiled_iff {s : Diu}
    (quiet : ∀ n < 3, ∀ p ∈ remote (s.clock + n), p.reg ≠ .ctstw) :
    DiuCommand.sendSiuResetCmd.Unspoiled remote s ↔ (s.status .ctstw).word = noStatusWord := by
  have sent : ((DiuCommand.sendSiuResetCmd.sent remote s).status .ctstw).word =
      (s.status .ctstw).word := by
    have apart : StatusReg.ctstw ≠ .ifstw := by decide
    have clear : (s.clearStatusWord remote .ifstw).status .ctstw = s.status .ctstw := by
      rw [Diu.clearStatusWord_of_ne apart, Diu.arrive_quiet (quiet 0 (by omega))]
    rw [← clear, DiuCommand.sent, Diu.sendCommand_word]
    exact congrArg StatusWord.word (Diu.arrive_quiet (quiet 1 (by omega)))
  have first : ¬∃ p ∈ remote (DiuCommand.sendSiuResetCmd.sent remote s).clock, p.reg = .ctstw := by
    rintro ⟨p, mem, same⟩
    exact quiet 2 (by omega) p mem same
  unfold Unspoiled
  rw [show DiuCommand.sendSiuResetCmd.awaits = .ctstw from rfl, sent, or_iff_left first]

end DiuCommand

/-- **Fresh reports.** For every behaviour of the remote units and every
sequence of commands, the reports are all fresh exactly when each command finds
the register it waits on empty as it is sent, or written before it is read. -/
theorem diu_freshness_iff (remote : Nat → List Post) (s : Diu) (commands : List DiuCommand) :
    (∀ report ∈ DiuCommand.reports remote s commands, report.Fresh) ↔
      DiuCommand.AllUnspoiled remote s commands := by
  induction commands generalizing s with
  | nil =>
      refine iff_of_true ?_ trivial
      intro report none
      cases none
  | cons c rest ih =>
      rw [DiuCommand.reports, List.forall_mem_cons, DiuCommand.call_fresh_iff, ih,
        DiuCommand.AllUnspoiled]

/-- All status registers are empty. -/
def idleDiu : Diu := ⟨fun _ => ⟨noStatusWord, false⟩, 0, 0⟩

/-- One transmission status word, for the first command. -/
def answerFirst : Nat → List Post
  | 2 => [⟨.ctstw, 0x00000002⟩]
  | _ => []

/-- The reset reports the answer to the command before it. -/
theorem siuReset_reports_stale_word :
    ¬∀ (remote : Nat → List Post) (s : Diu) (commands : List DiuCommand),
      ∀ report ∈ DiuCommand.reports remote s commands, report.Fresh := by
  intro fresh
  have reset := fresh answerFirst idleDiu [.sendFeeEndOfBlockTransferCmd, .sendSiuResetCmd]
    ⟨0, ⟨0x00000002, false⟩⟩ (.tail _ (.head _))
  rcases reset with timeout | posted
  · cases timeout
  · cases posted

end Librorc
