import ThermalManager.Policy.LevelSafety

/-!
# What the judgments compute

A judgment walks over the level items and asks the extra condition of the levels it passes. The
level it ends on is the greatest one of a set that mentions no walk, whatever the thresholds are.
The descending judgment is the ascending one on the mirrored list at the mirrored temperature; the
two consult the same extra conditions on their way.
-/

namespace ThermalManager

open Hysteresis

/-! ### The ascending judgment -/

section Ascending

variable {levItems : List LevelItem} {eU eH : Nat → Bool} {curTemp : Int} {level : Nat}

/-- The levels that can be reached upwards. -/
def reachable (levItems : List LevelItem) (eU : Nat → Bool) (curTemp : Int) (level : Nat) :
    Set Nat :=
  {k | level ≤ k ∧ k ≤ levItems.length ∧
    ∀ i, level < i → i ≤ k → curTemp ≥ thresholdAt levItems i ∧ eU i = true}

/-- The levels that can be kept downwards. -/
def tenable (levItems : List LevelItem) (eH : Nat → Bool) (curTemp : Int) (level : Nat) :
    Set Nat :=
  {k | k ≤ level ∧ (k = 0 ∨ (curTemp ≥ thresholdClrAt levItems k ∧ eH k = true))}

/-- The extra condition as a judgment sees it: `eU` in critical mode and `eH` otherwise. -/
def extraBy (eU eH : Nat → Bool) (level : Nat) (isCritical : Bool) : Bool :=
  if isCritical then eU level else eH level

theorem levelMove_isGreatest_reachable (hlevel : level < levItems.length)
    (hrise : curTemp ≥ thresholdAt levItems (level + 1)) :
    IsGreatest (reachable levItems eU curTemp level)
      (levelMove false levItems (extraBy eU eH) curTemp level) := by
  have hset : reachable levItems eU curTemp level = {k | level ≤ k ∧
      k ≤ level + (levItems.length - level) ∧ ∀ i, level < i → i ≤ k →
        (meets false curTemp (thresholdAt levItems i) && extraBy eU eH i true) = true} := by
    ext k
    simp only [reachable, meets, extraBy, Set.mem_ofPred_eq, Bool.and_eq_true, decide_eq_true_eq,
      if_true, Bool.false_eq_true, if_false, Nat.add_sub_cancel' hlevel.le]
  have hup : level < levItems.length ∧
      (levelClimber false levItems curTemp).rise (level + 1) = true :=
    ⟨hlevel, decide_eq_true hrise⟩
  rw [hset, levelMove, move, if_pos hup]
  exact isGreatest_climb _ _ _

theorem levelMove_isGreatest_tenable
    (hstay : ¬ (level < levItems.length ∧ curTemp ≥ thresholdAt levItems (level + 1))) :
    IsGreatest (tenable levItems eH curTemp level)
      (levelMove false levItems (extraBy eU eH) curTemp level) := by
  have hset : tenable levItems eH curTemp level = {k | k ≤ level ∧ (k = 0 ∨
      (meets false curTemp (thresholdClrAt levItems k) && extraBy eU eH k false) = true)} := by
    ext k
    simp only [tenable, meets, extraBy, Set.mem_ofPred_eq, Bool.and_eq_true, decide_eq_true_eq,
      Bool.false_eq_true, if_false]
  have hup : ¬ (level < levItems.length ∧
      (levelClimber false levItems curTemp).rise (level + 1) = true) :=
    fun h => hstay ⟨h.1, of_decide_eq_true h.2⟩
  rw [hset, levelMove, move, if_neg hup]
  exact isGreatest_descend _ _

/-- **What the ascending judgment returns.** -/
theorem ascJudgment_spec (hnum : Numbered levItems) (hne : levItems ≠ [])
    (eU eH : Nat → Bool) (curTemp : Int) (hlevel : level ≤ levItems.length) :
    ∃ newLevel,
      ascJudgment levItems (fun i isCritical => some (extraBy eU eH i isCritical)) curTemp level =
          some newLevel ∧
        (if level < levItems.length ∧ curTemp ≥ thresholdAt levItems (level + 1) then
          IsGreatest (reachable levItems eU curTemp level) newLevel
        else if 0 < level ∧ (curTemp < thresholdClrAt levItems level ∨ eH level = false) then
          IsGreatest (tenable levItems eH curTemp level) newLevel
        else newLevel = level) := by
  refine ⟨_, ascJudgment_eq_move hnum (fun _ _ _ _ => rfl) hne hlevel, ?_⟩
  split
  case isTrue hup => exact levelMove_isGreatest_reachable hup.1 hup.2
  case isFalse hup =>
    have hgreatest : IsGreatest (tenable levItems eH curTemp level)
        (levelMove false levItems (extraBy eU eH) curTemp level) :=
      levelMove_isGreatest_tenable hup
    split
    case isTrue => exact hgreatest
    case isFalse hkeep =>
      -- the level itself is tenable, and nothing above it is
      apply le_antisymm hgreatest.1.1
      apply hgreatest.2
      refine ⟨le_rfl, ?_⟩
      rcases Nat.eq_zero_or_pos level with hzero | hpos
      · exact Or.inl hzero
      · have hwarm : curTemp ≥ thresholdClrAt levItems level := by
          by_contra hcold
          exact hkeep ⟨hpos, Or.inl (not_le.mp hcold)⟩
        have hholds : eH level = true := by
          by_contra hfail
          exact hkeep ⟨hpos, Or.inr (Bool.eq_false_iff.mpr hfail)⟩
        exact Or.inr ⟨hwarm, hholds⟩

/-- Two unordered levels: 45 calls for the second and not for the first. -/
private def unorderedItems : List LevelItem :=
  [{ threshold := 50, thresholdClr := 60, level := 1 },
    { threshold := 40, thresholdClr := 30, level := 2 }]

theorem ascJudgment_spec_unordered : ∃ newLevel,
    ascJudgment unorderedItems (fun i isCritical => some (extraBy (fun _ => true)
        (fun _ => true) i isCritical)) 45 1 = some newLevel ∧
      (if 1 < unorderedItems.length ∧ (45 : Int) ≥ thresholdAt unorderedItems (1 + 1) then
        IsGreatest (reachable unorderedItems (fun _ => true) 45 1) newLevel
      else if 0 < 1 ∧ ((45 : Int) < thresholdClrAt unorderedItems 1 ∨ true = false) then
        IsGreatest (tenable unorderedItems (fun _ => true) 45 1) newLevel
      else newLevel = 1) :=
  ascJudgment_spec ((numbered_iff _).mp (by decide)) (List.cons_ne_nil _ _) (fun _ => true)
    (fun _ => true) 45 (by decide)

end Ascending

/-! ### The descending judgment -/

/-- The level at the negated temperatures. -/
def LevelItem.mirror (item : LevelItem) : LevelItem :=
  { item with threshold := -item.threshold, thresholdClr := -item.thresholdClr }

section Mirror

variable (levItems : List LevelItem) (extra : Nat → Bool → Option Bool)

theorem upwardsSearch_mirror (test : Int → Bool) (rounds i level : Nat) :
    upwardsSearch (levItems.map LevelItem.mirror) extra test rounds i level =
      upwardsSearch levItems extra (fun bound => test (-bound)) rounds i level := by
  induction rounds generalizing i level with
  | zero => rfl
  | succ rounds ih =>
    rw [upwardsSearch, upwardsSearch, List.getElem?_map]
    cases levItems[i]? with
    | none => rfl
    | some item => simp [LevelItem.mirror, ih]

theorem downwardsSearch_mirror (test : Int → Bool) (i level : Nat) :
    downwardsSearch (levItems.map LevelItem.mirror) extra test i level =
      downwardsSearch levItems extra (fun bound => test (-bound)) i level := by
  induction i generalizing level with
  | zero => rfl
  | succ i ih =>
    rw [downwardsSearch, downwardsSearch, List.getElem?_map]
    cases levItems[i]? with
    | none => rfl
    | some item => simp [LevelItem.mirror, ih]

theorem judgmentBy_mirror (test : Int → Bool) (level : Nat) :
    judgmentBy (levItems.map LevelItem.mirror) extra test level =
      judgmentBy levItems extra (fun bound => test (-bound)) level := by
  rw [judgmentBy, judgmentBy]
  simp only [upwardsSearch_mirror, downwardsSearch_mirror, List.length_map, List.getElem?_map]
  cases levItems[level - 1]? <;> cases levItems[level]? <;> rfl

/-- The judgments mirror each other for an extra condition that may fail to answer. -/
theorem ascJudgment_mirror (curTemp : Int) (level : Nat) :
    ascJudgment (levItems.map LevelItem.mirror) extra (-curTemp) level =
      descJudgment levItems extra curTemp level := by
  have htest : (fun bound : Int => decide (-curTemp ≥ -bound)) =
      fun bound => decide (curTemp ≤ bound) := by
    funext bound
    rw [decide_eq_decide, ge_iff_le, neg_le_neg_iff]
  rw [ascJudgment_eq_judgmentBy, descJudgment_eq_judgmentBy, judgmentBy_mirror, htest]

end Mirror

/-- The judgment asks the extra condition of the level in the mode: with that answer missing it
has no result. -/
def Consults (judgment : (Nat → Bool → Option Bool) → Option Nat) (extra : Nat → Bool → Bool)
    (level : Nat) (isCritical : Bool) : Prop :=
  judgment (fun i mode =>
    if i = level ∧ mode = isCritical then none else some (extra i mode)) = none

/-- **Descending is the mirror of ascending**, in the level and in what is asked. -/
theorem descJudgment_eq_mirror {levItems : List LevelItem} (hnum : Numbered levItems)
    (hne : levItems ≠ []) (extra : Nat → Bool → Bool) (curTemp : Int) {level : Nat}
    (hlevel : level ≤ levItems.length) :
    (∃ newLevel,
        descJudgment levItems (fun i mode => some (extra i mode)) curTemp level = some newLevel ∧
          ascJudgment (levItems.map LevelItem.mirror) (fun i mode => some (extra i mode))
            (-curTemp) level = some newLevel) ∧
      ∀ asked isCritical,
        Consults (fun oracle => descJudgment levItems oracle curTemp level) extra asked
            isCritical ↔
          Consults (fun oracle => ascJudgment (levItems.map LevelItem.mirror) oracle (-curTemp)
            level) extra asked isCritical := by
  have hdesc : descJudgment levItems (fun i mode => some (extra i mode)) curTemp level =
      some (levelMove true levItems extra curTemp level) :=
    descJudgment_eq_move hnum (fun _ _ _ _ => rfl) hne hlevel
  refine ⟨⟨_, hdesc, ?_⟩, fun asked isCritical => ?_⟩
  · rw [ascJudgment_mirror]
    exact hdesc
  · rw [Consults, Consults, ascJudgment_mirror]

theorem descJudgment_eq_mirror_unordered :
    (∃ newLevel,
        descJudgment unorderedItems (fun _ _ => some true) 45 1 = some newLevel ∧
          ascJudgment (unorderedItems.map LevelItem.mirror) (fun _ _ => some true) (-45) 1 =
            some newLevel) ∧
      (Consults (fun oracle => descJudgment unorderedItems oracle 45 1) (fun _ _ => true) 1 false ↔
        Consults (fun oracle => ascJudgment (unorderedItems.map LevelItem.mirror) oracle (-45) 1)
          (fun _ _ => true) 1 false) := by
  have hboth := descJudgment_eq_mirror ((numbered_iff unorderedItems).mp (by decide))
    (List.cons_ne_nil _ _) (fun _ _ => true) 45 (show 1 ≤ 2 by decide)
  exact ⟨hboth.1, hboth.2 1 false⟩

end ThermalManager
