import Librorc.Flash.Chip

/-!
# What the flash operations report

Callers test the return value for `< 0`. A polling timeout returns the negated
status, which is negative unless the status is zero; a block operation that
ends ready returns zero whatever the error bits say. `ReportsTruly` is the
promise, and for each operation the words polled decide whether it is kept.
-/

namespace Librorc

open Librorc.Lib

/-- SR.5, SR.4, SR.3 and SR.1. -/
def statusErrors : Word16 := 0x003a

def noError (status : Word16) : Bool := status &&& statusErrors == 0

/-- Ready, and no error bit set. -/
def statusGood (status : Word16) : Bool := !statusBusy status && noError status

/-- A return value tells the truth about the wait that came last: it is
negative, or it is zero and the wait ended with a good status. -/
def ReportsTruly (ret : Int) (readyStatus : Option Word16) : Prop :=
  ret < 0 ∨ (ret = 0 ∧ readyStatus.any statusGood = true)

instance (ret : Int) (readyStatus : Option Word16) : Decidable (ReportsTruly ret readyStatus) :=
  inferInstanceAs (Decidable (_ ∨ _))

theorem negStatus_neg_iff (status : Word16) : negStatus status < 0 ↔ status ≠ 0 := by
  unfold negStatus
  rw [ne_eq, ← BitVec.toNat_inj]
  show -(status.toNat : Int) < 0 ↔ ¬status.toNat = 0
  omega

/-- After a timeout only a negative value is true. -/
theorem reportsTruly_none_iff (ret : Int) : ReportsTruly ret none ↔ ret < 0 := by
  simp [ReportsTruly]

/-- A negated status reports a timeout unless it is zero. -/
theorem negStatus_timeout_iff (status : Word16) :
    ReportsTruly (negStatus status) none ↔ status ≠ 0 :=
  (reportsTruly_none_iff _).trans (negStatus_neg_iff status)

/-! ## Block operations -/

namespace Flash

variable {σ : Type*} (f : Flash σ)

theorem finishBlock_reportsTruly_iff (blkaddr : Word32) (clear : Bool)
    (outcome : PollOutcome Word16 σ) :
    ReportsTruly (f.finishBlock blkaddr clear outcome).1 outcome.readyWord ↔
      outcome.Ends (statusGood · = true) (· ≠ 0) := by
  cases outcome with
  | ready status s =>
      show ReportsTruly 0 (some status) ↔ statusGood status = true
      unfold ReportsTruly
      constructor
      · rintro (negative | ⟨-, good⟩)
        · exact absurd negative (Int.lt_irrefl 0)
        · exact good
      · intro good
        exact .inr ⟨rfl, good⟩
  | timeout status s => exact negStatus_timeout_iff status

/-- The word that ends the polling has no error bit set; if the polling times
out, the word read last is not zero. -/
def EndsWell (busy : Word16 → Bool) (words : ℕ → Word16) : Prop :=
  PolledWords busy cfgFlashTimeout (noError · = true) (· ≠ 0) words

/-- A block operation reports truly exactly when its polling ends well. -/
theorem blockOperation_reportsTruly_iff {read : σ → Word16 × σ} {busy : Word16 → Bool}
    (implies : ∀ status, busy status = false → statusBusy status = false) (blkaddr : Word32)
    (clear : Bool) (s : σ) :
    ReportsTruly (f.finishBlock blkaddr clear (poll read busy cfgFlashTimeout s)).1
        (poll read busy cfgFlashTimeout s).readyWord ↔
      EndsWell busy (readWord read s) := by
  unfold EndsWell
  rw [finishBlock_reportsTruly_iff, polledWords_iff]
  cases ended : poll read busy cfgFlashTimeout s with
  | ready status s' =>
      have ready := implies status (poll_ready ended)
      show statusGood status = true ↔ noError status = true
      simp [statusGood, ready]
  | timeout status s' => exact Iff.rfl

theorem statusBusy_of_eraseBusy (status : Word16) (ready : eraseBusy status = false) :
    statusBusy status = false := by
  unfold eraseBusy at ready
  exact (Bool.or_eq_false_iff.mp ready).1

theorem eraseBlock_reportsTruly_iff (blkaddr : Word32) (s : σ) :
    ReportsTruly (f.eraseBlock blkaddr s).1 (f.erasePoll blkaddr s).readyWord ↔
      EndsWell eraseBusy (readWord (f.get blkaddr) (f.eraseStart blkaddr s)) :=
  f.blockOperation_reportsTruly_iff statusBusy_of_eraseBusy blkaddr false _

theorem lockPoll_reportsTruly_iff (confirm : Word16) (blkaddr : Word32) (s : σ) :
    ReportsTruly (f.finishBlock blkaddr true (f.lockPoll confirm blkaddr s)).1
        (f.lockPoll confirm blkaddr s).readyWord ↔
      EndsWell statusBusy
        (readWord (f.getStatusRegister blkaddr) (f.lockStart confirm blkaddr s)) :=
  f.blockOperation_reportsTruly_iff (fun _ ready => ready) blkaddr true _

/-! ## Programming -/

/-- No timeout ends with a zero status. -/
def NoSilentTimeout (words : ℕ → Word16) : Prop :=
  (∀ i < cfgFlashTimeout, statusBusy (words i) = true) → words cfgFlashTimeout ≠ 0

theorem noSilentTimeout_iff (read : σ → Word16 × σ) (s : σ) :
    NoSilentTimeout (readWord read s) ↔
      (poll read statusBusy cfgFlashTimeout s).Ends (fun _ => True) (· ≠ 0) := by
  rw [← polledWords_iff]
  unfold PolledWords NoSilentTimeout
  constructor
  · intro quiet
    exact ⟨fun _ _ _ _ => trivial, quiet⟩
  · intro polled
    exact polled.2

theorem finishProgram_reportsTruly_iff {read : σ → Word16 × σ} (blkaddr : Word32) (s : σ) :
    ReportsTruly (f.finishProgram blkaddr (poll read statusBusy cfgFlashTimeout s)).1.ret
        (f.finishProgram blkaddr (poll read statusBusy cfgFlashTimeout s)).1.readyStatus ↔
      NoSilentTimeout (readWord read s) := by
  rw [noSilentTimeout_iff]
  cases ended : poll read statusBusy cfgFlashTimeout s with
  | timeout status s' => exact negStatus_timeout_iff status
  | ready status s' =>
      -- whatever the status, it carries the ready bit
      have ready := poll_ready ended
      refine iff_of_true ?_ trivial
      by_cases clean : status = flashPecBusy
      · have ended : f.finishProgram blkaddr (.ready status s') =
            (.programmed status, (f.resetBlock blkaddr s').2) := if_neg (not_not_intro clean)
        rw [ended, clean]
        show ReportsTruly 0 (some flashPecBusy)
        decide
      · have ended : f.finishProgram blkaddr (.ready status s') =
            (.sequenceError status, s') := if_pos clean
        rw [ended]
        left
        apply (negStatus_neg_iff status).mpr
        intro zero
        rw [zero] at ready
        cases ready

/-- Neither wait, as far as it is reached, times out with a zero status. -/
def WaitsSpeak (addr : Word32) (length : Word16) (data : Nat → Word16) (blkaddr : Word32)
    (s : σ) : Prop :=
  NoSilentTimeout (readWord (f.get addr) s) ∧
    ∀ status s', poll (f.get addr) statusBusy cfgFlashTimeout s = .ready status s' →
      NoSilentTimeout (readWord (f.get blkaddr) (f.fillBuffer addr length data blkaddr s'))

theorem programPoll_reportsTruly_iff (addr : Word32) (length : Word16) (data : Nat → Word16)
    (blkaddr : Word32) (s : σ) :
    ReportsTruly (f.programPoll addr length data blkaddr s).1.ret
        (f.programPoll addr length data blkaddr s).1.readyStatus ↔
      f.WaitsSpeak addr length data blkaddr s := by
  unfold programPoll WaitsSpeak
  rw [noSilentTimeout_iff]
  cases buffer : poll (f.get addr) statusBusy cfgFlashTimeout s with
  | timeout status s' =>
      refine (negStatus_timeout_iff status).trans (and_iff_left ?_).symm
      intro status' s'' ready
      cases ready
  | ready status s' =>
      refine (f.finishProgram_reportsTruly_iff blkaddr _).trans ?_
      constructor
      · intro quiet
        refine ⟨trivial, ?_⟩
        intro status' s'' same
        obtain ⟨-, rfl⟩ := PollOutcome.ready.inj same
        exact quiet
      · intro both
        exact both.2 status s' rfl

/-- The early exits return a negative value. -/
theorem programSetup_error_neg {addr : Word32} {s s' : σ} {outcome : ProgramOutcome}
    (failed : f.programSetup addr s = (.error outcome, s')) : outcome.ret < 0 := by
  unfold programSetup at failed
  cases found : getFlashArchitecture addr with
  | none =>
      rw [found] at failed
      obtain ⟨same, -⟩ := Prod.mk.inj failed
      obtain rfl := Except.error.inj same
      decide
  | some arch =>
      simp only [found] at failed
      split at failed
      · rename_i negative
        obtain ⟨same, -⟩ := Prod.mk.inj failed
        obtain rfl := Except.error.inj same
        exact negative
      · cases failed

/-- What the waits of `programBuffer` must not do, when the setup gets to
them. -/
def ProgramPollsSpeak (addr : Word32) (length : Word16) (data : Nat → Word16) (s : σ) : Prop :=
  ∀ arch s', f.programSetup addr s = (.ok arch, s') →
    f.WaitsSpeak addr length data arch.blkaddr s'

theorem programBuffer_reportsTruly_iff (addr : Word32) (length : Word16) (data : Nat → Word16)
    (s : σ) :
    ReportsTruly (f.programBuffer addr length data s).1.ret
        (f.programBuffer addr length data s).1.readyStatus ↔
      f.ProgramPollsSpeak addr length data s := by
  unfold programBuffer ProgramPollsSpeak
  rcases setup : f.programSetup addr s with ⟨outcome | arch, s'⟩
  · -- an early exit
    refine iff_of_true (.inl (f.programSetup_error_neg setup)) ?_
    intro arch s'' reached
    cases reached
  · refine (f.programPoll_reportsTruly_iff addr length data arch.blkaddr s').trans ?_
    constructor
    · intro speak arch' s'' same
      obtain ⟨sameArch, rfl⟩ := Prod.mk.inj same
      obtain rfl := Except.ok.inj sameArch
      exact speak
    · intro all
      exact all arch s' rfl

/-! ## Resetting the chip -/

/-- The statuses of a series of blocks, each reset in turn. -/
def blockStatuses : List Word32 → σ → List Word16
  | [], _ => []
  | blkaddr :: rest, s =>
      (f.resetBlock blkaddr s).1 :: blockStatuses rest (f.resetBlock blkaddr s).2

/-- `resetChip` stops at the first busy block. -/
theorem resetChipFrom_eq {fuel : Nat} {blkaddr : Word32} {blocks : List Word32}
    (walk : blockAddrsFrom fuel blkaddr = some blocks) (s : σ) :
    ∃ s', f.resetChipFrom fuel blkaddr s =
      some (((f.blockStatuses blocks s).find? statusBusy).getD 0, s') := by
  induction fuel generalizing blkaddr blocks s with
  | zero => exact absurd walk (by simp [blockAddrsFrom])
  | succ fuel ih =>
      unfold blockAddrsFrom at walk
      unfold resetChipFrom
      cases found : getFlashArchitecture blkaddr with
      | none =>
          simp only [found, Option.some.injEq] at walk
          subst walk
          exact ⟨s, rfl⟩
      | some arch =>
          simp only [found] at walk
          obtain ⟨rest, later, rfl⟩ := Option.map_eq_some_iff.mp walk
          cases status : statusBusy (f.resetBlock blkaddr s).1 with
          | true =>
              refine ⟨(f.resetBlock blkaddr s).2, ?_⟩
              simp only [status, if_true, blockStatuses, List.find?_cons_of_pos,
                Option.getD_some]
          | false =>
              obtain ⟨s', ended⟩ := ih later (f.resetBlock blkaddr s).2
              refine ⟨s', ?_⟩
              simp only [status, Bool.false_eq_true, if_false, blockStatuses]
              rw [List.find?_cons_of_neg (by simp [status])]
              exact ended

theorem resetChip_eq (s : σ) : ∃ s', f.resetChip s =
    some (((f.blockStatuses flashBlocks s).find? statusBusy).getD 0, s') :=
  f.resetChipFrom_eq flashBlocks_walk s

/-- `resetChip` returns, and its zero means that no block was busy, exactly
when the first busy block, if there is one, does not show a zero status. -/
theorem resetChip_reportsTruly_iff (s : σ) :
    (∃ status s', f.resetChip s = some (status, s') ∧
      (status = 0 → ∀ w ∈ f.blockStatuses flashBlocks s, statusBusy w = false)) ↔
    (f.blockStatuses flashBlocks s).find? statusBusy ≠ some 0 := by
  obtain ⟨s', ended⟩ := f.resetChip_eq s
  rw [ended]
  cases first : (f.blockStatuses flashBlocks s).find? statusBusy with
  | none =>
      have none := List.find?_eq_none.mp first
      refine iff_of_true ⟨_, s', rfl, ?_⟩ (by simp)
      intro _ w mem
      simpa using none w mem
  | some status =>
      have busy := List.find?_some first
      have mem := List.mem_of_find?_eq_some first
      constructor
      · rintro ⟨status', s'', same, truly⟩ zero
        obtain ⟨rfl, -⟩ := Prod.mk.inj (Option.some.inj same)
        obtain rfl := Option.some.inj zero
        have ready := truly rfl 0 mem
        rw [busy] at ready
        cases ready
      · intro nonzero
        refine ⟨status, s', rfl, ?_⟩
        rintro rfl
        exact absurd rfl nonzero

/-! ## All operations -/

/-- Which answers of the chip make each operation report truly. -/
theorem flash_reportsTruly_iff (s : σ) :
    (∀ addr length data,
      ReportsTruly (f.programBuffer addr length data s).1.ret
          (f.programBuffer addr length data s).1.readyStatus ↔
        f.ProgramPollsSpeak addr length data s) ∧
    (∀ blkaddr,
      ReportsTruly (f.eraseBlock blkaddr s).1 (f.erasePoll blkaddr s).readyWord ↔
        EndsWell eraseBusy (readWord (f.get blkaddr) (f.eraseStart blkaddr s))) ∧
    (∀ blkaddr,
      ReportsTruly (f.lockBlock blkaddr s).1
          (f.lockPoll flashCmdBlockLockConfirm blkaddr s).readyWord ↔
        EndsWell statusBusy (readWord (f.getStatusRegister blkaddr)
          (f.lockStart flashCmdBlockLockConfirm blkaddr s))) ∧
    (∀ blkaddr,
      ReportsTruly (f.unlockBlock blkaddr s).1 (f.lockPoll flashCmdConfirm blkaddr s).readyWord ↔
        EndsWell statusBusy (readWord (f.getStatusRegister blkaddr)
          (f.lockStart flashCmdConfirm blkaddr s))) ∧
    ((∃ status s', f.resetChip s = some (status, s') ∧
      (status = 0 → ∀ w ∈ f.blockStatuses flashBlocks s, statusBusy w = false)) ↔
        (f.blockStatuses flashBlocks s).find? statusBusy ≠ some 0) := by
  refine ⟨?_, ?_, ?_, ?_, f.resetChip_reportsTruly_iff s⟩
  · intro addr length data
    exact f.programBuffer_reportsTruly_iff addr length data s
  · intro blkaddr
    exact f.eraseBlock_reportsTruly_iff blkaddr s
  · intro blkaddr
    exact f.lockPoll_reportsTruly_iff flashCmdBlockLockConfirm blkaddr s
  · intro blkaddr
    exact f.lockPoll_reportsTruly_iff flashCmdConfirm blkaddr s

end Flash

theorem not_endsWell_zero {busy : Word16 → Bool} (busyZero : busy 0 = true) :
    ¬Flash.EndsWell busy fun _ => 0 := by
  rintro ⟨-, expires⟩
  exact expires (fun _ _ => busyZero) rfl

/-- A chip that is busy forever and shows a zero status: every operation
reports success, and so does an erase that ends with SR.5 set. -/
theorem flash_zero_status_reports_success :
    (¬ReportsTruly ((constantFlash 0).programBuffer 0 1 (fun _ => 0) ()).1.ret
      ((constantFlash 0).programBuffer 0 1 (fun _ => 0) ()).1.readyStatus) ∧
    (¬ReportsTruly ((constantFlash 0).eraseBlock 0 ()).1
      ((constantFlash 0).erasePoll 0 ()).readyWord) ∧
    (¬ReportsTruly ((constantFlash 0).lockBlock 0 ()).1
      ((constantFlash 0).lockPoll flashCmdBlockLockConfirm 0 ()).readyWord) ∧
    (¬ReportsTruly ((constantFlash 0).unlockBlock 0 ()).1
      ((constantFlash 0).lockPoll flashCmdConfirm 0 ()).readyWord) ∧
    (¬∃ status s', (constantFlash 0).resetChip () = some (status, s') ∧
      (status = 0 →
        ∀ w ∈ (constantFlash 0).blockStatuses Flash.flashBlocks (), statusBusy w = false)) ∧
    (¬ReportsTruly ((constantFlash 0x00a0).eraseBlock 0 ()).1
      ((constantFlash 0x00a0).erasePoll 0 ()).readyWord) := by
  refine ⟨?_, ?_, ?_, ?_, ?_, ?_⟩
  · rw [Flash.programBuffer_reportsTruly_iff]
    intro speak
    obtain ⟨quiet, -⟩ := speak _ _ rfl
    have busy : statusBusy 0 = true := by decide
    exact quiet (fun _ _ => busy) rfl
  · rw [Flash.eraseBlock_reportsTruly_iff]
    exact not_endsWell_zero (by decide)
  · refine mt ((constantFlash 0).lockPoll_reportsTruly_iff _ 0 ()).mp ?_
    exact not_endsWell_zero (by decide)
  · refine mt ((constantFlash 0).lockPoll_reportsTruly_iff _ 0 ()).mp ?_
    exact not_endsWell_zero (by decide)
  · rw [Flash.resetChip_reportsTruly_iff]
    have busy :
        ((constantFlash 0).blockStatuses Flash.flashBlocks ()).find? statusBusy = some 0 := by
      decide +kernel
    exact not_not_intro busy
  · rw [Flash.eraseBlock_reportsTruly_iff]
    rintro ⟨accepts, -⟩
    have clean := accepts 0 (by decide) (by decide) (fun j none => absurd none (Nat.not_lt_zero j))
    exact absurd clean (by decide)

end Librorc
