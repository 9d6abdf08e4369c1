import Mathlib.Data.List.MinMax
import Mathlib.Order.Bounds.Defs
import Mathlib.Order.Lattice

/-!
# Staircases with hysteresis

A staircase has the steps `1, ..., n`. A climber standing on step `level` walks up while the next
step can be climbed and otherwise walks down to the highest step that can be kept. Whether a step
calls for climbing, can be climbed and can be kept is told by three predicates; nothing is said
here about where they come from. The results are the extent of the two walks, the closed form when
the predicates are downward closed, and what several climbers who share one level do when they all
move to the highest of their new levels.
-/

namespace Hysteresis

/-- Walk up from `level`, at most `fuel` steps, while the next step can be climbed. -/
def climb (climbable : Nat → Bool) : Nat → Nat → Nat
  | 0, level => level
  | fuel + 1, level =>
      if climbable (level + 1) then climb climbable fuel (level + 1) else level

/-- Walk down from `level` to the first step that can be kept, or to the floor. -/
def descend (keep : Nat → Bool) : Nat → Nat
  | 0 => 0
  | level + 1 => if keep (level + 1) then level + 1 else descend keep level

/-- One move on a staircase of `n` steps. -/
def move (rise climbable keep : Nat → Bool) (n level : Nat) : Nat :=
  if level < n ∧ rise (level + 1) = true then climb climbable (n - level) level
  else descend keep level

/-! ### The extent of the two walks -/

theorem le_climb (climbable : Nat → Bool) (fuel level : Nat) :
    level ≤ climb climbable fuel level := by
  induction fuel generalizing level with
  | zero => exact le_rfl
  | succ fuel ih =>
    rw [climb]
    split
    · exact le_trans (Nat.le_succ level) (ih (level + 1))
    · exact le_rfl

theorem climb_le (climbable : Nat → Bool) (fuel level : Nat) :
    climb climbable fuel level ≤ level + fuel := by
  induction fuel generalizing level with
  | zero => exact le_rfl
  | succ fuel ih =>
    rw [climb]
    split
    · have := ih (level + 1)
      omega
    · omega

theorem climbable_of_le_climb {climbable : Nat → Bool} {fuel level i : Nat} (hlt : level < i)
    (hle : i ≤ climb climbable fuel level) : climbable i = true := by
  induction fuel generalizing level with
  | zero =>
    rw [climb] at hle
    omega
  | succ fuel ih =>
    rw [climb] at hle
    split at hle
    · rename_i hnext
      rcases Nat.eq_or_lt_of_le (Nat.succ_le_of_lt hlt) with heq | hmore
      · rw [← heq]
        exact hnext
      · exact ih hmore hle
    · omega

theorem not_climbable_succ_climb {climbable : Nat → Bool} {fuel level : Nat}
    (hlt : climb climbable fuel level < level + fuel) :
    climbable (climb climbable fuel level + 1) = false := by
  induction fuel generalizing level with
  | zero =>
    rw [climb] at hlt
    omega
  | succ fuel ih =>
    by_cases hnext : climbable (level + 1) = true
    · rw [climb, if_pos hnext] at hlt ⊢
      exact ih (by omega)
    · rw [climb, if_neg hnext]
      exact Bool.eq_false_iff.mpr hnext

theorem le_climb_of_climbable {climbable : Nat → Bool} {fuel level k : Nat}
    (hk : k ≤ level + fuel) (hall : ∀ i, level < i → i ≤ k → climbable i = true) :
    k ≤ climb climbable fuel level := by
  by_contra hlt
  have hbelow := le_climb climbable fuel level
  have hstop : climbable (climb climbable fuel level + 1) = false :=
    not_climbable_succ_climb (by omega)
  rw [hall _ (by omega) (by omega)] at hstop
  exact absurd hstop (by decide)

theorem descend_le (keep : Nat → Bool) (level : Nat) : descend keep level ≤ level := by
  induction level with
  | zero => exact le_rfl
  | succ level ih =>
    rw [descend]
    split
    · exact le_rfl
    · exact le_trans ih (Nat.le_succ level)

theorem descend_eq_zero_or_keep (keep : Nat → Bool) (level : Nat) :
    descend keep level = 0 ∨ keep (descend keep level) = true := by
  induction level with
  | zero => exact Or.inl rfl
  | succ level ih =>
    rw [descend]
    split
    · rename_i hkeep
      exact Or.inr hkeep
    · exact ih

theorem not_keep_of_descend_lt {keep : Nat → Bool} {level i : Nat} (hlt : descend keep level < i)
    (hle : i ≤ level) : keep i = false := by
  induction level with
  | zero => omega
  | succ level ih =>
    rw [descend] at hlt
    split at hlt
    · omega
    · rename_i hkeep
      rcases Nat.eq_or_lt_of_le hle with heq | hless
      · rw [heq]
        exact Bool.eq_false_iff.mpr hkeep
      · exact ih hlt (by omega)

theorem le_descend_of_keep {keep : Nat → Bool} {level k : Nat} (hk : k ≤ level)
    (hkeep : keep k = true) : k ≤ descend keep level := by
  by_contra hlt
  have hnot : keep k = false := not_keep_of_descend_lt (by omega) hk
  rw [hkeep] at hnot
  exact absurd hnot (by decide)

theorem descend_eq_self {keep : Nat → Bool} {level : Nat} (hkeep : keep level = true) :
    descend keep level = level :=
  le_antisymm (descend_le keep level) (le_descend_of_keep le_rfl hkeep)

theorem lt_climb_iff {climbable : Nat → Bool} {fuel level : Nat} :
    level < climb climbable fuel level ↔ 0 < fuel ∧ climbable (level + 1) = true := by
  constructor
  · intro hlt
    have hle := climb_le climbable fuel level
    exact ⟨by omega, climbable_of_le_climb (Nat.lt_succ_self level) hlt⟩
  · intro h
    refine le_climb_of_climbable (by omega) fun i hlt hle => ?_
    rw [show i = level + 1 by omega]
    exact h.2

theorem descend_lt_iff {keep : Nat → Bool} {level : Nat} :
    descend keep level < level ↔ 0 < level ∧ keep level = false := by
  constructor
  · intro hlt
    exact ⟨Nat.zero_lt_of_lt hlt, not_keep_of_descend_lt hlt le_rfl⟩
  · intro h
    refine lt_of_le_of_ne (descend_le keep level) fun heq => ?_
    rcases descend_eq_zero_or_keep keep level with hzero | hkeep
    · omega
    · rw [heq, h.2] at hkeep
      exact Bool.false_ne_true hkeep

theorem isGreatest_climb (climbable : Nat → Bool) (fuel level : Nat) :
    IsGreatest {k | level ≤ k ∧ k ≤ level + fuel ∧
      ∀ i, level < i → i ≤ k → climbable i = true} (climb climbable fuel level) := by
  refine ⟨⟨le_climb climbable fuel level, climb_le climbable fuel level, ?_⟩, ?_⟩
  · intro i hlt hle
    exact climbable_of_le_climb hlt hle
  · rintro k ⟨-, hk, hall⟩
    exact le_climb_of_climbable hk hall

theorem isGreatest_descend (keep : Nat → Bool) (level : Nat) :
    IsGreatest {k | k ≤ level ∧ (k = 0 ∨ keep k = true)} (descend keep level) := by
  refine ⟨⟨descend_le keep level, descend_eq_zero_or_keep keep level⟩, ?_⟩
  rintro k ⟨hk, rfl | hkeep⟩
  · exact Nat.zero_le _
  · exact le_descend_of_keep hk hkeep

theorem move_le {rise climbable keep : Nat → Bool} {n level : Nat} (hlevel : level ≤ n) :
    move rise climbable keep n level ≤ n := by
  unfold move
  split
  · have := climb_le climbable (n - level) level
    omega
  · exact le_trans (descend_le keep level) hlevel

/-! ### Downward closed predicates

A predicate that holds of a step whenever it holds of the next one is described by one number, the
highest step it reaches. With such predicates a move is a clamp. -/

/-- On the steps of the staircase the predicate is inherited by the step below. -/
def DownClosed (n : Nat) (p : Nat → Bool) : Prop :=
  ∀ i, 1 ≤ i → i + 1 ≤ n → p (i + 1) = true → p i = true

/-- The highest step below which the predicate holds everywhere. -/
def reach (p : Nat → Bool) (n : Nat) : Nat := climb p n 0

theorem reach_le (p : Nat → Bool) (n : Nat) : reach p n ≤ n := by
  simpa [reach] using climb_le p n 0

theorem DownClosed.of_le {n : Nat} {p : Nat → Bool} (hdown : DownClosed n p) {i k : Nat}
    (hi : 1 ≤ i) (hik : i ≤ k) (hk : k ≤ n) (hp : p k = true) : p i = true := by
  induction k, hik using Nat.le_induction with
  | base => exact hp
  | succ k hle ih => exact ih (by omega) (hdown k (by omega) hk hp)

theorem DownClosed.iff_le_reach {n : Nat} {p : Nat → Bool} (hdown : DownClosed n p) {i : Nat}
    (hi : 1 ≤ i) (hn : i ≤ n) : p i = true ↔ i ≤ reach p n := by
  refine ⟨fun hp => ?_, fun hle => climbable_of_le_climb (by omega) hle⟩
  apply le_climb_of_climbable (by omega)
  intro j hj hji
  exact hdown.of_le (by omega) hji hn hp

theorem reach_eq_countP {n : Nat} {p : Nat → Bool} (hdown : DownClosed n p) :
    reach p n = (List.range n).countP (fun i => p (i + 1)) := by
  have hcount : ∀ k, k ≤ n →
      (List.range k).countP (fun i => p (i + 1)) = min k (reach p n) := by
    intro k
    induction k with
    | zero => intro _; simp
    | succ k ih =>
      intro hk
      rw [List.range_succ, List.countP_append, ih (by omega), List.countP_singleton]
      have hiff := hdown.iff_le_reach (Nat.succ_le_succ (Nat.zero_le k)) hk
      by_cases hp : p (k + 1) = true
      · rw [if_pos hp]
        have := hiff.mp hp
        omega
      · rw [if_neg hp]
        have := mt hiff.mpr hp
        omega
  rw [hcount n le_rfl, min_eq_right (reach_le p n)]

theorem move_eq_clamp {rise keep : Nat → Bool} {n level : Nat} (hrise : DownClosed n rise)
    (hkeep : DownClosed n keep) (himp : ∀ i, 1 ≤ i → i ≤ n → rise i = true → keep i = true)
    (hlevel : level ≤ n) :
    move rise rise keep n level = max (reach rise n) (min level (reach keep n)) := by
  have hriseLe := reach_le rise n
  have hle : reach rise n ≤ reach keep n := by
    rcases Nat.eq_zero_or_pos (reach rise n) with hzero | hpos
    · omega
    · have htop := (hrise.iff_le_reach hpos hriseLe).mpr le_rfl
      exact (hkeep.iff_le_reach hpos hriseLe).mp (himp _ hpos hriseLe htop)
  unfold move
  by_cases hup : level < n ∧ rise (level + 1) = true
  · rw [if_pos hup]
    have hbelow : level + 1 ≤ reach rise n :=
      (hrise.iff_le_reach (by omega) (by omega)).mp hup.2
    have hupper : reach rise n ≤ climb rise (n - level) level :=
      le_climb_of_climbable (by omega)
        (fun i hi hle => (hrise.iff_le_reach (by omega) (by omega)).mpr hle)
    have hbound := climb_le rise (n - level) level
    have hmoved : level < climb rise (n - level) level := by omega
    have htop : rise (climb rise (n - level) level) = true := climbable_of_le_climb hmoved le_rfl
    have hlower := (hrise.iff_le_reach (by omega) (by omega)).mp htop
    omega
  · rw [if_neg hup]
    have hnot : reach rise n ≤ level := by
      by_contra hlt
      exact hup ⟨by omega, (hrise.iff_le_reach (by omega) (by omega)).mpr (by omega)⟩
    have hdown := descend_le keep level
    have hlower : min level (reach keep n) ≤ descend keep level := by
      rcases Nat.eq_zero_or_pos (min level (reach keep n)) with hzero | hpos
      · omega
      · exact le_descend_of_keep (min_le_left _ _)
          ((hkeep.iff_le_reach hpos (by omega)).mpr (min_le_right _ _))
    have hupper : descend keep level ≤ reach keep n := by
      rcases descend_eq_zero_or_keep keep level with hzero | hholds
      · omega
      · rcases Nat.eq_zero_or_pos (descend keep level) with hzero | hpos
        · omega
        · exact (hkeep.iff_le_reach hpos (by omega)).mp hholds
    omega

/-! ### Several climbers on one staircase

All climbers start from one level and all of them then stand on the highest level any of them
moved to. The condition `extra` belongs to the step and is shared; what makes a step attractive
(`rise`) and tenable (`hold`) belongs to the climber. -/

/-- What one climber sees of the steps. -/
structure Climber where
  rise : Nat → Bool
  hold : Nat → Bool

/-- The move of one climber when every step carries the shared condition. -/
def Climber.move (c : Climber) (extra : Nat → Bool) (n level : Nat) : Nat :=
  Hysteresis.move c.rise (fun i => c.rise i && extra i) (fun i => c.hold i && extra i) n level

/-- The climber's attraction is inherited by the step below and makes a step tenable. -/
structure Climber.Orderly (n : Nat) (c : Climber) : Prop where
  downClosed : DownClosed n c.rise
  hold_of_rise : ∀ i, 1 ≤ i → i ≤ n → c.rise i = true → c.hold i = true

/-- A climber never stays on a step whose condition fails while no next step calls for climbing:
the only level above the floor with a failed condition is one it wants to climb from and cannot. -/
theorem Climber.move_eq_zero_or_extra_iff (c : Climber) (extra : Nat → Bool) (n level : Nat) :
    (c.move extra n level = 0 ∨ extra (c.move extra n level) = true) ↔
      ¬ (0 < level ∧ level < n ∧ c.rise (level + 1) = true ∧ extra level = false ∧
        extra (level + 1) = false) := by
  unfold Climber.move Hysteresis.move
  by_cases hup : level < n ∧ c.rise (level + 1) = true
  · rw [if_pos hup]
    by_cases hnext : extra (level + 1) = true
    · have hmoved : level + 1 ≤ climb (fun i => c.rise i && extra i) (n - level) level :=
        le_climb_of_climbable (by omega) (fun i hi hle => by
          rw [show i = level + 1 by omega, hup.2, hnext]
          rfl)
      have hpast : level < climb (fun i => c.rise i && extra i) (n - level) level := by omega
      have htop := climbable_of_le_climb hpast le_rfl
      simp only [Bool.and_eq_true] at htop
      simp [htop.2, hnext]
    · have hstay : climb (fun i => c.rise i && extra i) (n - level) level = level := by
        have hfuel : n - level = n - level - 1 + 1 := by omega
        rw [hfuel, climb, if_neg (by simp [hnext])]
      rw [hstay]
      rcases Nat.eq_zero_or_pos level with hzero | hpos
      · simp [hzero]
      · simp [hpos, hup.1, hup.2, hnext, Nat.pos_iff_ne_zero.mp hpos]
  · rw [if_neg hup]
    have hleft : descend (fun i => c.hold i && extra i) level = 0 ∨
        extra (descend (fun i => c.hold i && extra i) level) = true := by
      rcases descend_eq_zero_or_keep (fun i => c.hold i && extra i) level with hzero | hkeep
      · exact Or.inl hzero
      · simp only [Bool.and_eq_true] at hkeep
        exact Or.inr hkeep.2
    exact iff_of_true hleft (fun h => hup ⟨h.2.1, h.2.2.1⟩)

private theorem Climber.move_le_of_le {c : Climber} {extra : Nat → Bool} {n level top : Nat}
    (horderly : c.Orderly n) (hlevel : level ≤ n) (hle : c.move extra n level ≤ top)
    (hreached : ∀ i, level < i → i ≤ top → extra i = true) : c.move extra n top ≤ top := by
  unfold Climber.move Hysteresis.move at hle ⊢
  by_cases hup : top < n ∧ c.rise (top + 1) = true
  · rw [if_pos hup]
    by_cases hnext : extra (top + 1) = true
    · exfalso
      by_cases hlow : level ≤ top
      · -- the climber could already walk from `level` past `top`
        have hfirst : c.rise (level + 1) = true :=
          horderly.downClosed.of_le (by omega) (by omega) hup.1 hup.2
        rw [if_pos ⟨by omega, hfirst⟩] at hle
        have hpast : top + 1 ≤ climb (fun i => c.rise i && extra i) (n - level) level := by
          refine le_climb_of_climbable (by omega) (fun i hi hik => ?_)
          have hrise := horderly.downClosed.of_le (by omega) hik hup.1 hup.2
          rcases Nat.eq_or_lt_of_le hik with heq | hless
          · rw [heq] at hrise ⊢
            simp [hrise, hnext]
          · simp [hrise, hreached i hi (by omega)]
        omega
      · -- the climber walking down from `level` would have stopped above `top`
        have hkeep : (c.hold (top + 1) && extra (top + 1)) = true := by
          simp [horderly.hold_of_rise _ (by omega) hup.1 hup.2, hnext]
        have hstop : top + 1 ≤ descend (fun i => c.hold i && extra i) level :=
          le_descend_of_keep (by omega) hkeep
        split at hle
        · have := le_climb (fun i => c.rise i && extra i) (n - level) level
          omega
        · omega
    · have hfuel : n - top = n - top - 1 + 1 := by omega
      rw [hfuel, climb, if_neg (by simp [hnext])]
  · rw [if_neg hup]
    exact descend_le _ _

theorem Climber.extra_of_le_move {c : Climber} {extra : Nat → Bool} {n level i : Nat}
    (hi : level < i) (hle : i ≤ c.move extra n level) : extra i = true := by
  unfold Climber.move Hysteresis.move at hle
  split at hle
  · have hstep := climbable_of_le_climb hi hle
    simp only [Bool.and_eq_true] at hstep
    exact hstep.2
  · have := descend_le (fun i => c.hold i && extra i) level
    omega

/-- A climber can keep the step it has stopped on, unless it wants to climb from there. -/
theorem Climber.hold_of_move {c : Climber} {extra : Nat → Bool} {n level top : Nat}
    (horderly : c.Orderly n) (hlevel : level ≤ n) (hmoved : c.move extra n level = top)
    (hpos : 0 < top) (hstuck : ¬ (top < n ∧ c.rise (top + 1) = true)) :
    (c.hold top && extra top) = true := by
  have htopLe : top ≤ n := by
    rw [← hmoved]
    exact move_le hlevel
  unfold Climber.move Hysteresis.move at hmoved
  split at hmoved
  · rename_i hup
    rcases Nat.eq_or_lt_of_le (le_climb (fun i => c.rise i && extra i) (n - level) level)
      with heq | hless
    · rw [hmoved] at heq
      rw [heq] at hup
      exact absurd hup hstuck
    · have hstep := climbable_of_le_climb hless le_rfl
      simp only [hmoved, Bool.and_eq_true] at hstep
      simp [horderly.hold_of_rise top hpos htopLe hstep.1, hstep.2]
  · rcases descend_eq_zero_or_keep (fun i => c.hold i && extra i) level with hzero | hkeep
    · omega
    · rw [hmoved] at hkeep
      exact hkeep

/-- A second move does not take a climber down. -/
theorem Climber.le_move_of_move {c : Climber} {extra : Nat → Bool} {n level top : Nat}
    (horderly : c.Orderly n) (hlevel : level ≤ n) (hmoved : c.move extra n level = top) :
    top ≤ c.move extra n top := by
  unfold Climber.move Hysteresis.move
  split
  · exact le_climb _ _ _
  · rename_i hstuck
    rcases Nat.eq_zero_or_pos top with hzero | hpos
    · omega
    · apply le_descend_of_keep le_rfl
      exact Climber.hold_of_move horderly hlevel hmoved hpos hstuck

/-- **The group's level is stable.** Once all climbers stand on the highest of their new levels, a
second move under the same predicates takes the group nowhere. -/
theorem max_move_stable {climbers : List Climber} {extra : Nat → Bool} {n level top : Nat}
    (horderly : ∀ c ∈ climbers, c.Orderly n) (hlevel : level ≤ n)
    (htop : (climbers.map (fun c => c.move extra n level)).max? = some top) :
    (climbers.map (fun c => c.move extra n top)).max? = some top := by
  rw [List.max?_eq_some_iff] at htop ⊢
  simp only [List.mem_map, forall_exists_index, and_imp, forall_apply_eq_imp_iff₂] at htop ⊢
  obtain ⟨⟨leader, hleader, hmoved⟩, hbound⟩ := htop
  -- the leader passed every step between the old level and the new one
  have hreached : ∀ i, level < i → i ≤ top → extra i = true := by
    intro i hi hle
    rw [← hmoved] at hle
    exact Climber.extra_of_le_move hi hle
  have hall : ∀ c ∈ climbers, c.move extra n top ≤ top := fun c hc =>
    Climber.move_le_of_le (horderly c hc) hlevel (hbound c hc) hreached
  have hstays := Climber.le_move_of_move (horderly leader hleader) hlevel hmoved
  exact ⟨⟨leader, hleader, le_antisymm (hall leader hleader) hstays⟩, hall⟩

end Hysteresis
