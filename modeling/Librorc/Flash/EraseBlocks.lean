import Librorc.Flash.IdealChip

/-!
# `erase`, block by block

Whatever the chip answers, `erase` walks the blocks that start before byte
`byte_count` in address order, unlocks and erases each, and stops at the first
negative status. The count goes down in bytes and the address up in words; the
run lemma keeps `byteCount = total - 2 * addr` at the start of every block.
-/

namespace Librorc

namespace Flash

/-! ## The blocks in question -/

/-- The blocks that start before byte `byteCount`. -/
def blocksBelow (blocks : List Word32) (byteCount : Int) : List Word32 :=
  blocks.filter fun blkaddr => 2 * (blkaddr.toNat : Int) < byteCount

theorem getFlashArchitecture_none {addr : Word32} (past : chipWords ≤ addr.toNat) :
    getFlashArchitecture addr = none := by
  unfold chipWords at past
  have low : ¬addr ≤ 0x7effff#32 := by
    rw [BitVec.le_def]
    show ¬addr.toNat ≤ 0x7effff
    omega
  have high : ¬addr ≤ 0x7fffff#32 := by
    rw [BitVec.le_def]
    show ¬addr.toNat ≤ 0x7fffff
    omega
  exact (if_neg low).trans (if_neg high)

/-- The walk over the blocks visits the block starts from `addr` on, each one
once and in address order. -/
theorem mem_blockAddrsFrom {fuel : ℕ} {addr : Word32} {blocks : List Word32}
    (walk : blockAddrsFrom fuel addr = some blocks) (start : sectorOf addr.toNat = addr.toNat) :
    blocks.Pairwise (· < ·) ∧ ∀ b : Word32,
      b ∈ blocks ↔ addr.toNat ≤ b.toNat ∧ b.toNat < chipWords ∧ sectorOf b.toNat = b.toNat := by
  induction fuel generalizing addr blocks with
  | zero => exact absurd walk (by simp [blockAddrsFrom])
  | succ fuel ih =>
      rw [blockAddrsFrom] at walk
      rcases Nat.lt_or_ge addr.toNat chipWords with inChip | past
      · obtain ⟨next, arch, block⟩ := blockStep start inChip
        simp only [block.found, block.goesOn] at walk
        obtain ⟨rest, later, rfl⟩ := Option.map_eq_some_iff.mp walk
        obtain ⟨sorted, each⟩ := ih later block.nextStart
        have positive : 0 < sectorWords addr.toNat := by
          unfold sectorWords
          split <;> omega
        rw [block.nextNat] at each
        refine ⟨List.pairwise_cons.mpr ⟨?_, sorted⟩, fun b => ?_⟩
        · intro b member
          rw [BitVec.lt_def]
          have := ((each b).mp member).1
          omega
        · rw [List.mem_cons, each]
          constructor
          · rintro (rfl | ⟨low, high⟩)
            · exact ⟨Nat.le_refl _, inChip, start⟩
            · exact ⟨by omega, high⟩
          · rintro ⟨low, high, startB⟩
            rcases Nat.lt_or_eq_of_le low with above | same
            · exact .inr ⟨sectorWords_le start startB above, high, startB⟩
            · exact .inl (BitVec.eq_of_toNat_eq same.symm)
      · rw [getFlashArchitecture_none past] at walk
        obtain rfl := Option.some.inj walk
        simp only [List.Pairwise.nil, List.not_mem_nil, false_iff, true_and]
        intro b
        omega

/-! ## Erasing a list of blocks -/

variable {σ : Type*} (f : Flash σ)

/-- Each block of the list is unlocked, if locked, and erased, one after the
other. -/
inductive ErasesAll : List Word32 → σ → σ → Prop
  | nil (s : σ) : ErasesAll [] s s
  | cons {blkaddr : Word32} {rest : List Word32} {s s₁ s₂ s' : σ} {unlocked erased : Int}
      (unlock : f.ensureUnlocked blkaddr s = (unlocked, s₁)) (unlockOk : 0 ≤ unlocked)
      (erase : f.eraseBlock blkaddr s₁ = (erased, s₂)) (eraseOk : 0 ≤ erased)
      (later : ErasesAll rest s₂ s') : ErasesAll (blkaddr :: rest) s s'

/-- Unlocking or erasing the block reports the negative status `ret`. -/
inductive FailsAt (blkaddr : Word32) (s : σ) (ret : Int) (s' : σ) : Prop
  | unlock (failed : f.ensureUnlocked blkaddr s = (ret, s')) (negative : ret < 0)
  | erase {s₁ : σ} {unlocked : Int} (unlock : f.ensureUnlocked blkaddr s = (unlocked, s₁))
      (unlockOk : 0 ≤ unlocked) (failed : f.eraseBlock blkaddr s₁ = (ret, s')) (negative : ret < 0)

/-- How a run over `blocks` ends: all of them are erased and `ret` is
`allDone`, or the first ones are and the next one fails with `ret`. -/
def ErasesUntil (blocks : List Word32) (allDone : Int) (s : σ) (ret : Int) (s' : σ) : Prop :=
  (f.ErasesAll blocks s s' ∧ ret = allDone) ∨
    ∃ done blkaddr rest s₁, blocks = done ++ blkaddr :: rest ∧ f.ErasesAll done s s₁ ∧
      f.FailsAt blkaddr s₁ ret s'

variable {f}

/-- A block in front. -/
theorem ErasesUntil.cons {blkaddr : Word32} {blocks : List Word32} {allDone ret : Int}
    {s s₁ s₂ s' : σ} {unlocked erased : Int}
    (unlock : f.ensureUnlocked blkaddr s = (unlocked, s₁)) (unlockOk : 0 ≤ unlocked)
    (erase : f.eraseBlock blkaddr s₁ = (erased, s₂)) (eraseOk : 0 ≤ erased)
    (later : f.ErasesUntil blocks allDone s₂ ret s') :
    f.ErasesUntil (blkaddr :: blocks) allDone s ret s' := by
  rcases later with ⟨all, same⟩ | ⟨done, next, rest, s₃, rfl, first, fails⟩
  · exact .inl ⟨.cons unlock unlockOk erase eraseOk all, same⟩
  · exact .inr ⟨blkaddr :: done, next, rest, s₃, rfl,
      .cons unlock unlockOk erase eraseOk first, fails⟩

theorem ErasesUntil.stop {blkaddr : Word32} {blocks : List Word32} {allDone ret : Int} {s s' : σ}
    (fails : f.FailsAt blkaddr s ret s') : f.ErasesUntil (blkaddr :: blocks) allDone s ret s' :=
  .inr ⟨[], blkaddr, blocks, s, rfl, .nil s, fails⟩

variable (f)

/-- Past the block `addr` with `total` bytes to erase in all. -/
theorem eraseFrom_blocks {fuel : ℕ} {addr : Word32} {blocks : List Word32}
    (walk : blockAddrsFrom fuel addr = some blocks) (start : sectorOf addr.toNat = addr.toNat)
    (inRange : addr.toNat ≤ chipWords) (total : Int) (s : σ) :
    ∃ ret s', f.eraseFrom fuel addr (total - 2 * addr.toNat) s = some (ret, s') ∧
      f.ErasesUntil (blocksBelow blocks total) (if 2 * (chipWords : Int) < total then -1 else 0)
        s ret s' := by
  induction fuel generalizing addr blocks s with
  | zero => exact absurd walk (by simp [blockAddrsFrom])
  | succ fuel ih =>
      obtain ⟨-, each⟩ := mem_blockAddrsFrom walk start
      rw [blockAddrsFrom] at walk
      rw [eraseFrom]
      by_cases left : (0 : Int) < total - 2 * addr.toNat
      · rw [if_pos left]
        rcases Nat.lt_or_ge addr.toNat chipWords with inChip | past
        · obtain ⟨next, arch, block⟩ := blockStep start inChip
          simp only [block.found, block.goesOn] at walk
          obtain ⟨rest, later, rfl⟩ := Option.map_eq_some_iff.mp walk
          have below : blocksBelow (addr :: rest) total = addr :: blocksBelow rest total := by
            rw [blocksBelow, List.filter_cons_of_pos (by simpa using by omega), blocksBelow]
          rw [below]
          simp only [block.found, block.blkaddr, block.goesOn, block.left]
          rcases unlock : f.ensureUnlocked addr s with ⟨unlocked, s₁⟩
          by_cases unlockFailed : unlocked < 0
          · simp only [if_pos unlockFailed]
            exact ⟨unlocked, s₁, rfl, .stop (.unlock unlock unlockFailed)⟩
          · simp only [if_neg unlockFailed]
            rcases erase : f.eraseBlock addr s₁ with ⟨erased, s₂⟩
            by_cases eraseFailed : erased < 0
            · simp only [if_pos eraseFailed]
              exact ⟨erased, s₂, rfl, .stop (.erase unlock (by omega) erase eraseFailed)⟩
            · simp only [if_neg eraseFailed]
              obtain ⟨ret, s', ran, ended⟩ := ih later block.nextStart block.nextLe s₂
              refine ⟨ret, s', ran, ?_⟩
              exact ended.cons unlock (by omega) erase (by omega)
        · rw [getFlashArchitecture_none past] at walk ⊢
          obtain rfl := Option.some.inj walk
          exact ⟨-1, s, rfl, .inl ⟨.nil s, by rw [if_pos (by omega)]⟩⟩
      · have noneBelow : blocksBelow blocks total = [] := by
          refine List.filter_eq_nil_iff.mpr fun b member => ?_
          have := ((each b).mp member).1
          simpa using by omega
        rw [if_neg left, noneBelow]
        exact ⟨0, s, rfl, .inl ⟨.nil s, by rw [if_neg (by omega)]⟩⟩

/-! ## The whole chip -/

theorem flashBlocks_eq :
    flashBlocks = (List.range 127).map (fun i => BitVec.ofNat 32 (0x10000 * i)) ++
      (List.range 4).map fun i => BitVec.ofNat 32 (0x7f0000 + 0x4000 * i) := by
  decide +kernel

/-- The blocks `erase` is about are those with a byte below `byteCount`. -/
theorem mem_blocksBelow (byteCount : Int) (b : Word32) :
    b ∈ blocksBelow flashBlocks byteCount ↔
      ∃ byte : ℕ, byte < 2 * chipWords ∧ (byte : Int) < byteCount ∧
        b.toNat = sectorOf (byte / 2) := by
  rw [blocksBelow, List.mem_filter, (mem_blockAddrsFrom flashBlocks_walk rfl).2, decide_eq_true_iff]
  constructor
  · rintro ⟨⟨-, inChip, start⟩, below⟩
    refine ⟨2 * b.toNat, by omega, by omega, ?_⟩
    rw [Nat.mul_div_cancel_left _ (by omega), start]
  · rintro ⟨byte, inChip, below, block⟩
    have le := sectorOf_le (byte / 2)
    refine ⟨⟨Nat.zero_le _, by omega, ?_⟩, by omega⟩
    rw [block, sectorOf_idem]

/-- **Erasing.** For every chip and byte count the loop ends. It unlocks and
erases the blocks with a byte below `byteCount`, each once and in address
order, up to the first one that reports a negative status, which it returns.
Otherwise it returns 0, or -1 when the count goes past the last block. -/
theorem erase_blocks (byteCount : Int) (s : σ) :
    (∃ ret s', f.erase byteCount s = some (ret, s') ∧
      f.ErasesUntil (blocksBelow flashBlocks byteCount)
        (if 2 * (chipWords : Int) < byteCount then -1 else 0) s ret s') ∧
    (blocksBelow flashBlocks byteCount).Pairwise (· < ·) ∧
    (∀ b : Word32, b ∈ blocksBelow flashBlocks byteCount ↔
      ∃ byte : ℕ, byte < 2 * chipWords ∧ (byte : Int) < byteCount ∧
        b.toNat = sectorOf (byte / 2)) ∧
    (byteCount ≤ 0 → blocksBelow flashBlocks byteCount = []) ∧
    flashBlocks = (List.range 127).map (fun i => BitVec.ofNat 32 (0x10000 * i)) ++
      (List.range 4).map fun i => BitVec.ofNat 32 (0x7f0000 + 0x4000 * i) := by
  have sorted := (mem_blockAddrsFrom flashBlocks_walk rfl).1
  obtain ⟨ret, s', ran, ended⟩ :=
    f.eraseFrom_blocks flashBlocks_walk rfl (Nat.zero_le _) byteCount s
  refine ⟨⟨ret, s', ?_, ended⟩, sorted.filter _, mem_blocksBelow byteCount, ?_, flashBlocks_eq⟩
  · rw [← ran, erase]
    congr 1
    show byteCount = byteCount - 2 * 0
    omega
  · intro nothing
    refine List.filter_eq_nil_iff.mpr fun b _ => ?_
    simpa using by omega

end Flash
end Librorc
