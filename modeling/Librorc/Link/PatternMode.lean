import Librorc.Link.DdlCtrl

/-!
# `patterngenerator::configureMode`

The call takes a mode, a first pattern and a number of events. Mode and number
get into their registers; the pattern gets into none.
-/

namespace Librorc.Patterngenerator

open Librorc.Lib

/-- What the call is to leave behind. -/
structure ModeConfigured (l : Link) (patternMode initialPattern numberOfEvents : Word32)
    (b b' : Bar) : Prop where
  mode : ddlCtrlLayout.get .pgMode (b'.words (l.ddlAddr Reg.ddlCtrl)) =
    if patternMode = pgPatternShift ∨ patternMode = pgPatternDec ∨ patternMode = pgPatternToggle
    then patternMode else pgPatternInc
  pattern : b'.words (l.ddlAddr Reg.ddlPgPattern) = initialPattern
  continuous : ddlCtrlLayout.get .pgContinuous (b'.words (l.ddlAddr Reg.ddlCtrl)) =
    if numberOfEvents = 0 then 1 else 0
  numEvents : b'.words (l.ddlAddr Reg.ddlPgNumEvents) =
    if numberOfEvents = 0 then b.words (l.ddlAddr Reg.ddlPgNumEvents) else numberOfEvents
  otherBits : ∀ i, i < 10 ∨ 12 < i → (b'.words (l.ddlAddr Reg.ddlCtrl)).getLsbD i =
    (b.words (l.ddlAddr Reg.ddlCtrl)).getLsbD i

variable (l : Link) (patternMode initialPattern numberOfEvents : Word32) (b : Bar)

/-- The register of the pattern is none of those the call uses. -/
theorem configureMode_pattern :
    (configureMode l patternMode initialPattern numberOfEvents b).words
      (l.ddlAddr Reg.ddlPgPattern) = b.words (l.ddlAddr Reg.ddlPgPattern) := by
  apply (effect_configureMode l patternMode initialPattern numberOfEvents b).others
  simp only [Link.usedAddrs, List.mem_cons, List.not_mem_nil, or_false, not_or]
  exact ⟨Link.ddlAddr_ne (by decide), Link.ddlAddr_ne (by decide), Link.ddlAddr_ne (by decide)⟩

theorem configureMode_numEvents :
    (configureMode l patternMode initialPattern numberOfEvents b).words
        (l.ddlAddr Reg.ddlPgNumEvents) =
      if numberOfEvents = 0 then b.words (l.ddlAddr Reg.ddlPgNumEvents) else numberOfEvents := by
  have other : l.ddlAddr Reg.ddlPgNumEvents ≠ l.ddlAddr Reg.ddlCtrl :=
    Link.ddlAddr_ne (by decide)
  unfold configureMode
  by_cases endless : numberOfEvents = 0
  · simp only [if_neg (not_not.mpr endless), if_pos endless, Link.setDdlReg_words,
      Link.ddlReg_words, Function.update_of_ne other]
  · simp only [ne_eq, if_pos endless, if_neg endless, Link.setDdlReg_words,
      Function.update_of_ne other, Function.update_self]

/-- The field holds the mode, and INC for one that is not implemented. -/
theorem getField_implementedMode :
    getField (implementedMode patternMode) 0 2 =
      if patternMode = pgPatternShift ∨ patternMode = pgPatternDec ∨
        patternMode = pgPatternToggle then patternMode else pgPatternInc := by
  unfold implementedMode
  by_cases dec : patternMode = pgPatternDec
  · subst dec
    decide
  · by_cases shift : patternMode = pgPatternShift
    · subst shift
      decide
    · by_cases toggle : patternMode = pgPatternToggle
      · subst toggle
        decide
      · rw [if_neg (by tauto), if_neg (by tauto)]
        decide

theorem configureMode_mode :
    ddlCtrlLayout.get .pgMode ((configureMode l patternMode initialPattern numberOfEvents b).words
        (l.ddlAddr Reg.ddlCtrl)) =
      if patternMode = pgPatternShift ∨ patternMode = pgPatternDec ∨
        patternMode = pgPatternToggle then patternMode else pgPatternInc := by
  have effect := effect_configureMode l patternMode initialPattern numberOfEvents b
  rw [effect.ctrl, FieldLayout.get_setAll, ← getField_implementedMode]
  rfl

theorem configureMode_continuous :
    ddlCtrlLayout.get .pgContinuous
        ((configureMode l patternMode initialPattern numberOfEvents b).words
          (l.ddlAddr Reg.ddlCtrl)) = if numberOfEvents = 0 then 1 else 0 := by
  have effect := effect_configureMode l patternMode initialPattern numberOfEvents b
  have given : ddlCtrlLayout.get .pgContinuous
      ((configureMode l patternMode initialPattern numberOfEvents b).words
        (l.ddlAddr Reg.ddlCtrl)) = getField (if numberOfEvents = 0 then 1 else 0) 0 1 := by
    rw [effect.ctrl, FieldLayout.get_setAll]
    rfl
  rw [given]
  split <;> decide

theorem configureMode_otherBits {i : Nat} (outside : i < 10 ∨ 12 < i) :
    ((configureMode l patternMode initialPattern numberOfEvents b).words
        (l.ddlAddr Reg.ddlCtrl)).getLsbD i = (b.words (l.ddlAddr Reg.ddlCtrl)).getLsbD i := by
  rw [(effect_configureMode l patternMode initialPattern numberOfEvents b).ctrl]
  refine (getLsbD_setField_of_outside _ _ ?_).trans (getLsbD_setField_of_outside _ _ ?_)
  · show ¬(10 ≤ i ∧ i < 10 + 1)
    omega
  · show ¬(11 ≤ i ∧ i < 11 + 2)
    omega

/-- **Configuring the generator.** Everything but the pattern is configured
always; the pattern is right exactly when the register held it before. -/
theorem configureMode_configures_iff :
    ModeConfigured l patternMode initialPattern numberOfEvents b
        (configureMode l patternMode initialPattern numberOfEvents b) ↔
      b.words (l.ddlAddr Reg.ddlPgPattern) = initialPattern := by
  rw [← configureMode_pattern l patternMode initialPattern numberOfEvents b]
  constructor
  · exact ModeConfigured.pattern
  · intro pattern
    exact
      { mode := configureMode_mode ..
        pattern
        continuous := configureMode_continuous ..
        numEvents := configureMode_numEvents ..
        otherBits := fun i outside => configureMode_otherBits l _ _ _ b outside }

/-- A pattern of `0xa5` on registers that are all zero. -/
theorem not_configures_pattern :
    let l : Link := ⟨0⟩
    let b : Bar := ⟨fun _ => 0, []⟩
    let b' := configureMode l pgPatternInc 0xa5 1 b
    b'.words (l.ddlAddr Reg.ddlPgPattern) = 0 ∧ ¬ModeConfigured l pgPatternInc 0xa5 1 b b' := by
  refine ⟨by decide, fun configured => ?_⟩
  exact absurd configured.pattern (by decide)

end Librorc.Patterngenerator
