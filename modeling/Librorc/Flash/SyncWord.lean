import Librorc.Flash.RoundTrip

/-!
# Searching for the FPGA synchronisation word

`findFpgaSyncWord` shifts the flash content through a 32-bit window, half a
word at a time. When the window holds the synchronisation word the cursor
stands behind its second half, and one half back is where the function says it
begins.
-/

namespace Librorc

/-- `FPGA_SYNCWORD`. -/
def fpgaSyncWord : Word32 := 0x5599aa66

namespace Flash

variable {σ : Type*} (f : Flash σ)

/-- The search loop: the window and the offset it ends with; `none` when it is
still running after `fuel` tests. -/
def syncLoop (endOffset : Word32) : Nat → Word32 → Word32 → σ → Option ((Word32 × Word32) × σ)
  | 0, _, _, _ => none
  | fuel + 1, curWord, offset, s =>
      if curWord ≠ fpgaSyncWord ∧ offset < endOffset then
        let (w, s) := f.get (offset >>> 1) s
        syncLoop endOffset fuel ((curWord <<< 16) + w.setWidth 32) (offset + 2) s
      else some ((curWord, offset), s)

/-- `findFpgaSyncWord`. The cursor moves by two bytes a turn. -/
def findFpgaSyncWord (startOffset searchLength : Word32) (s : σ) : Option (Int × σ) :=
  let offset := startOffset &&& ~~~1#32
  let endOffset := startOffset + (searchLength &&& ~~~1#32)
  match f.syncLoop endOffset (endOffset.toNat + 1) 0 offset s with
  | none => none
  | some ((curWord, offset), s) =>
      if curWord = fpgaSyncWord then some ((offset - 2).toInt, s) else some (-1, s)

end Flash

/-! ## The word in the content -/

/-- The two halves of the synchronisation word at byte offset `o` of the
content, both at even offsets from `first` to below `last`. -/
def SyncWordAt (mem : Nat → Word16) (first last o : Nat) : Prop :=
  o % 2 = 0 ∧ first ≤ o ∧ o + 2 < last ∧ mem (o / 2) = 0x5599 ∧ mem (o / 2 + 1) = 0xaa66

/-- What the header promises: the offset of the beginning of the first
synchronisation word, -1 if there is none. -/
def FindsSyncWord (mem : Nat → Word16) (first last : Nat) (ret : Int) : Prop :=
  (∀ o : ℕ, SyncWordAt mem first last o → (∀ o' < o, ¬SyncWordAt mem first last o') → ret = o) ∧
    ((∀ o, ¬SyncWordAt mem first last o) → ret = -1)

/-- The half words that have gone through the window of a search from byte
offset `first`, the two zeros it starts with included. -/
def halfWord (mem : Nat → Word16) (first : Nat) : Nat → Word16
  | 0 => 0
  | 1 => 0
  | n + 2 => mem (first / 2 + n)

/-- The window after `n` reads. -/
def syncWindow (mem : Nat → Word16) (first n : Nat) : Word32 :=
  ((halfWord mem first n).setWidth 32 <<< 16) + (halfWord mem first (n + 1)).setWidth 32

theorem syncWindow_zero (mem : Nat → Word16) (first : Nat) : syncWindow mem first 0 = 0 := by
  simp [syncWindow, halfWord]

/-- What is two half words back falls out of the window. -/
theorem shiftLeft_window (high low : Word32) :
    ((high <<< 16) + low) <<< 16 = low <<< 16 := by
  rw [BitVec.shiftLeft_add_distrib, ← BitVec.shiftLeft_add, BitVec.shiftLeft_eq_zero (by omega),
    BitVec.zero_add]

/-- A read shifts the window by a half word. -/
theorem syncWindow_succ (mem : Nat → Word16) (first n : Nat) :
    (syncWindow mem first n <<< 16) + (mem (first / 2 + n)).setWidth 32 =
      syncWindow mem first (n + 1) := by
  rw [syncWindow, shiftLeft_window]
  rfl

/-- The window holds the synchronisation word when its halves went through
last. -/
theorem syncWindow_eq_iff (mem : Nat → Word16) (first n : Nat) :
    syncWindow mem first n = fpgaSyncWord ↔
      halfWord mem first n = 0x5599 ∧ halfWord mem first (n + 1) = 0xaa66 := by
  rw [syncWindow]
  generalize halfWord mem first n = high
  generalize halfWord mem first (n + 1) = low
  have highLt := high.isLt
  have lowLt := low.isLt
  have value : fpgaSyncWord.toNat = 0x5599 * 0x10000 + 0xaa66 := by decide
  rw [← BitVec.toNat_inj, ← BitVec.toNat_inj, ← BitVec.toNat_inj, value]
  simp only [BitVec.toNat_shiftLeft, BitVec.toNat_add, BitVec.toNat_setWidth, Nat.shiftLeft_eq,
    BitVec.ofNat_eq_ofNat, BitVec.toNat_ofNat]
  omega

/-- After two reads at least, with the word two half words back. -/
theorem syncWindow_eq_iff_at {mem : Nat → Word16} {first n : Nat} (last : Nat)
    (even : first % 2 = 0) (lastRead : first + 2 * n < last + 2) :
    syncWindow mem first n = fpgaSyncWord ↔
      2 ≤ n ∧ SyncWordAt mem first last (first + 2 * n - 4) := by
  rw [syncWindow_eq_iff, SyncWordAt]
  match n with
  | 0 => simp [halfWord]
  | 1 => simp [halfWord]
  | n + 2 =>
      have place : (first + 2 * (n + 2) - 4) / 2 = first / 2 + n := by omega
      rw [halfWord, halfWord, place, Nat.add_assoc]
      constructor
      · rintro ⟨high, low⟩
        exact ⟨by omega, by omega, by omega, by omega, high, low⟩
      · rintro ⟨-, -, -, -, high, low⟩
        exact ⟨high, low⟩

/-- An occurrence shows in the window two reads later. -/
theorem SyncWordAt.inWindow {mem : Nat → Word16} {first last o : Nat} (even : first % 2 = 0)
    (found : SyncWordAt mem first last o) :
    syncWindow mem first ((o - first) / 2 + 2) = fpgaSyncWord := by
  obtain ⟨evenO, low, high, -⟩ := id found
  refine (syncWindow_eq_iff_at last even (by omega)).mpr ⟨by omega, ?_⟩
  rwa [show first + 2 * ((o - first) / 2 + 2) - 4 = o by omega]

/-- Two bytes before the cursor is two bytes behind the word. -/
theorem cursor_toInt {n : Nat} (behind : 4 ≤ n) (small : n ≤ 0x1000002) :
    (BitVec.ofNat 32 n - 2).toInt = ((n - 4 : ℕ) : Int) + 2 := by
  have value : (BitVec.ofNat 32 n - 2).toNat = n - 2 := by
    rw [BitVec.toNat_sub]
    show (2 ^ 32 - 2 + n % 2 ^ 32) % 2 ^ 32 = _
    omega
  rw [BitVec.toInt_eq_toNat_of_lt (by rw [value]; omega), value]
  omega

/-! ## The search -/

namespace Flash

section Search

variable (timing : ChipTiming) (select : Fin 2) (s : FlashDevice) (mem : Nat → Word16)
  (locked : Nat → Bool) (errors : Word16) (started : Nat)

/-- The loop from the `n`-th half word on stops at the first window that holds
the word, or at the end of the range. -/
theorem syncLoop_resting {first last fuel : ℕ} {endOffset offset : Word32} (n : ℕ)
    (even : first % 2 = 0) (ends : endOffset.toNat = last) (inChip : last ≤ 2 * chipWords)
    (place : offset.toNat = first + 2 * n) (turns : 0 < fuel)
    (enough : last < fuel + offset.toNat) :
    ∃ n', (idealFlash timing select).syncLoop endOffset fuel (syncWindow mem first n) offset
        (s.withChip select (.resting mem locked errors started)) =
          some ((syncWindow mem first n', BitVec.ofNat 32 (first + 2 * n')),
            s.withChip select (.resting mem locked errors started)) ∧
      n ≤ n' ∧
      (∀ j, n ≤ j → j < n' → syncWindow mem first j ≠ fpgaSyncWord ∧ first + 2 * j < last) ∧
      (syncWindow mem first n' = fpgaSyncWord ∨ last ≤ first + 2 * n') := by
  have small : 2 * chipWords = 16777216 := rfl
  induction fuel generalizing n offset with
  | zero => exact absurd turns (Nat.lt_irrefl 0)
  | succ fuel ih =>
      rw [syncLoop]
      by_cases go : syncWindow mem first n ≠ fpgaSyncWord ∧ offset < endOffset
      · rw [if_pos go]
        have before : offset.toNat < last := by rw [← ends]; exact go.2
        have half : (offset >>> 1).toNat = first / 2 + n := by
          rw [BitVec.toNat_ushiftRight, Nat.shiftRight_eq_div_pow]
          omega
        have next : (offset + 2).toNat = first + 2 * (n + 1) := by
          rw [BitVec.toNat_add]
          show (offset.toNat + 2) % 2 ^ 32 = _
          omega
        simp only [get_resting timing select s mem locked errors started
          (show (offset >>> 1).toNat < chipWords by omega)]
        rw [half, syncWindow_succ]
        obtain ⟨n', ran, later, passed, stop⟩ := ih (n + 1) next (by omega) (by omega)
        refine ⟨n', ran, by omega, fun j low high => ?_, stop⟩
        rcases Nat.lt_or_eq_of_le low with above | same
        · exact passed j above high
        · exact same ▸ ⟨go.1, by omega⟩
      · rw [if_neg go]
        refine ⟨n, ?_, Nat.le_refl n, fun j low high => absurd high (by omega), ?_⟩
        · rw [← place, BitVec.ofNat_toNat, BitVec.setWidth_eq]
        · rw [← ends, ← place, ← Nat.not_lt]
          exact (not_and_or.mp go).imp_left not_not.mp

/-- The range of a search: even offsets from the start rounded down, up to the
start plus the length rounded down. -/
theorem search_range {startOffset searchLength : Word32}
    (inChip : startOffset.toNat + searchLength.toNat ≤ 2 * chipWords) :
    (startOffset &&& ~~~1#32).toNat = 2 * (startOffset.toNat / 2) ∧
      (startOffset + (searchLength &&& ~~~1#32)).toNat =
        startOffset.toNat + 2 * (searchLength.toNat / 2) := by
  have mask : ~~~1#32 = BitVec.allOnes 32 <<< 1 := by decide
  have roundDown (x : Word32) : (x &&& ~~~1#32).toNat = 2 * (x.toNat / 2) := by
    rw [mask, and_highBits_toNat, Nat.pow_one, Nat.mul_comm]
  unfold chipWords at inChip
  refine ⟨roundDown _, ?_⟩
  rw [BitVec.toNat_add, roundDown]
  omega

/-- The result is two bytes behind the beginning of the first occurrence, and
-1 without one. -/
theorem findFpgaSyncWord_result {startOffset searchLength : Word32}
    (inChip : startOffset.toNat + searchLength.toNat ≤ 2 * chipWords) :
    let first := 2 * (startOffset.toNat / 2)
    let last := startOffset.toNat + 2 * (searchLength.toNat / 2)
    ∃ ret, (idealFlash timing select).findFpgaSyncWord startOffset searchLength
        (s.withChip select (.resting mem locked errors started)) =
          some (ret, s.withChip select (.resting mem locked errors started)) ∧
      ((ret = -1 ∧ ∀ o, ¬SyncWordAt mem first last o) ∨
        ∃ o : ℕ, SyncWordAt mem first last o ∧ (∀ o' < o, ¬SyncWordAt mem first last o') ∧
          ret = o + 2) := by
  intro first last
  have small : 2 * chipWords = 16777216 := rfl
  obtain ⟨firstEq, lastEq⟩ := search_range inChip
  have even : first % 2 = 0 := Nat.mul_mod_right 2 _
  have lastLe : last ≤ 2 * chipWords := by omega
  obtain ⟨n, ran, -, passed, stop⟩ := syncLoop_resting timing select s mem locked errors started 0
    even lastEq lastLe firstEq (Nat.succ_pos last) (by omega)
  rw [syncWindow_zero] at ran
  unfold findFpgaSyncWord
  simp only [lastEq]
  rw [ran]
  by_cases found : syncWindow mem first n = fpgaSyncWord
  · have nonzero : n ≠ 0 := by
      rintro rfl
      rw [syncWindow_zero] at found
      exact absurd found (by decide)
    have before := (passed (n - 1) (by omega) (by omega)).2
    obtain ⟨two, word⟩ := (syncWindow_eq_iff_at last even (by omega)).mp found
    have cursor := cursor_toInt (n := first + 2 * n) (by omega) (by omega)
    refine ⟨_, by simp only [if_pos found], .inr ⟨first + 2 * n - 4, word, ?_, cursor⟩⟩
    intro o' earlier other
    have low := other.2.1
    exact (passed ((o' - first) / 2 + 2) (Nat.zero_le _) (by omega)).1 (other.inWindow even)
  · refine ⟨-1, by simp only [if_neg found], .inl ⟨rfl, ?_⟩⟩
    intro o other
    have range := stop.resolve_left found
    obtain ⟨-, low, high, -⟩ := id other
    rcases Nat.lt_or_ge ((o - first) / 2 + 2) n with earlier | last
    · exact (passed _ (Nat.zero_le _) earlier).1 (other.inWindow even)
    · exact found ((show (o - first) / 2 + 2 = n by omega) ▸ other.inWindow even)

end Search

/-- **Synchronisation word.** Within the chip the search returns what the
header promises exactly when there is nothing to find. -/
theorem findFpgaSyncWord_finds_iff (timing : ChipTiming) (select : Fin 2) (s : FlashDevice)
    (mem : Nat → Word16) (locked : Nat → Bool) (errors : Word16) (started : Nat)
    (startOffset searchLength : Word32)
    (inChip : startOffset.toNat + searchLength.toNat ≤ 2 * chipWords) :
    let first := 2 * (startOffset.toNat / 2)
    let last := startOffset.toNat + 2 * (searchLength.toNat / 2)
    ∃ ret, (idealFlash timing select).findFpgaSyncWord startOffset searchLength
        (s.withChip select (.resting mem locked errors started)) =
          some (ret, s.withChip select (.resting mem locked errors started)) ∧
      (FindsSyncWord mem first last ret ↔ ∀ o, ¬SyncWordAt mem first last o) := by
  intro first last
  obtain ⟨ret, ran, ⟨rfl, nowhere⟩ | ⟨o, word, isFirst, rfl⟩⟩ :=
    findFpgaSyncWord_result timing select s mem locked errors started inChip
  · refine ⟨-1, ran, iff_of_true ⟨fun o word => absurd word (nowhere o), fun _ => rfl⟩ nowhere⟩
  · refine ⟨_, ran, iff_of_false (fun finds => ?_) fun nowhere => nowhere o word⟩
    have same := finds.1 o word isFirst
    omega

theorem findFpgaSyncWord_finds_iff_blank :
    let s := lockedDevice.withChip 1 (.resting (fun _ => 0xffff) (fun _ => false) 0 0)
    let first := 2 * ((0x101 : Word32).toNat / 2)
    let last := (0x101 : Word32).toNat + 2 * ((0x1000 : Word32).toNat / 2)
    ∃ ret, (idealFlash threePolls 1).findFpgaSyncWord 0x101 0x1000 s = some (ret, s) ∧
      (FindsSyncWord (fun _ => 0xffff) first last ret ↔
        ∀ o, ¬SyncWordAt (fun _ => 0xffff) first last o) :=
  findFpgaSyncWord_finds_iff threePolls 1 lockedDevice (fun _ => 0xffff) (fun _ => false) 0 0
    0x101 0x1000 (by decide)

/-- A flash that starts with the synchronisation word. -/
def syncFirst (a : Nat) : Word16 := if a = 0 then 0x5599 else if a = 1 then 0xaa66 else 0xffff

/-- The word at byte 0 is reported at byte 2. -/
theorem findFpgaSyncWord_misplaces :
    ¬ ∀ (timing : ChipTiming) (select : Fin 2) (s : FlashDevice) (mem : Nat → Word16)
      (locked : Nat → Bool) (errors : Word16) (started : Nat) (startOffset searchLength : Word32),
      startOffset.toNat + searchLength.toNat ≤ 2 * chipWords →
        ∃ ret, (idealFlash timing select).findFpgaSyncWord startOffset searchLength
            (s.withChip select (.resting mem locked errors started)) =
              some (ret, s.withChip select (.resting mem locked errors started)) ∧
          FindsSyncWord mem (2 * (startOffset.toNat / 2))
            (startOffset.toNat + 2 * (searchLength.toNat / 2)) ret := by
  intro finds
  have inChip : (0 : Word32).toNat + (4 : Word32).toNat ≤ 2 * chipWords := by decide
  have atZero : SyncWordAt syncFirst (2 * ((0 : Word32).toNat / 2))
      ((0 : Word32).toNat + 2 * ((4 : Word32).toNat / 2)) 0 :=
    ⟨rfl, by decide, by decide, rfl, rfl⟩
  obtain ⟨ret, ran, promised, -⟩ := finds threePolls 1 lockedDevice syncFirst (fun _ => false) 0 0
    0 4 inChip
  obtain ⟨ret', ran', result⟩ := findFpgaSyncWord_result threePolls 1 lockedDevice syncFirst
    (fun _ => false) 0 0 inChip
  obtain ⟨rfl, -⟩ := Prod.mk.inj (Option.some.inj (ran'.symm.trans ran))
  have zero := promised 0 atZero fun o' below => absurd below (Nat.not_lt_zero o')
  rcases result with ⟨-, nowhere⟩ | ⟨o, -, -, place⟩
  · exact nowhere 0 atZero
  · omega

end Flash
end Librorc
