import Mathlib.Data.List.Nodup

/-!
# One-shot timers

A time service creates a timer under an id, arms it and lets it expire once; its callback then
waits until it runs. Stopping or destroying a timer disarms it, and a callback that waits already
runs all the same. Zero is the id of a failed creation. The service numbers the creations, and this
serial number tells timers apart where ids and callbacks do not.
-/

namespace OneShot

structure Armed where
  id : Nat
  serial : Nat
  deriving DecidableEq

structure Service where
  created : List Nat := []
  destroyed : List Nat := []
  calls : Nat := 0
  armed : List Armed := []
  expired : List Nat := []
  waiting : List Nat := []
  deriving DecidableEq

namespace Service

def createTimer (s : Service) (id : Nat) : Service :=
  { s with
    created := if id = 0 then s.created else id :: s.created
    calls := s.calls + 1 }

/-- The timer is the one created last. -/
def startTimer (s : Service) (id : Nat) (started : Bool) : Service :=
  if id = 0 ∨ started = false then s else { s with armed := ⟨id, s.calls⟩ :: s.armed }

def stopTimer (s : Service) (id : Nat) : Service :=
  { s with armed := s.armed.filter fun t => t.id ≠ id }

def destroyTimer (s : Service) (id : Nat) : Service :=
  { s with
    armed := s.armed.filter fun t => t.id ≠ id
    destroyed := id :: s.destroyed }

def IsArmed (s : Service) (serial : Nat) : Prop := ∃ t ∈ s.armed, t.serial = serial

instance (s : Service) (serial : Nat) : Decidable (s.IsArmed serial) :=
  inferInstanceAs (Decidable (∃ t ∈ s.armed, t.serial = serial))

def expire (s : Service) (serial : Nat) : Service :=
  { s with
    armed := s.armed.filter fun t => t.serial ≠ serial
    expired := serial :: s.expired
    waiting := serial :: s.waiting }

def runCallback (s : Service) (serial : Nat) : Service :=
  { s with waiting := s.waiting.erase serial }

variable {s : Service} {id serial : Nat} {started : Bool}

@[simp] theorem startTimer_created : (s.startTimer id started).created = s.created := by
  rw [startTimer]
  split <;> rfl

@[simp] theorem startTimer_destroyed : (s.startTimer id started).destroyed = s.destroyed := by
  rw [startTimer]
  split <;> rfl

@[simp] theorem startTimer_calls : (s.startTimer id started).calls = s.calls := by
  rw [startTimer]
  split <;> rfl

@[simp] theorem startTimer_expired : (s.startTimer id started).expired = s.expired := by
  rw [startTimer]
  split <;> rfl

@[simp] theorem startTimer_waiting : (s.startTimer id started).waiting = s.waiting := by
  rw [startTimer]
  split <;> rfl

theorem startTimer_armed_subset {t : Armed} (ht : t ∈ (s.startTimer id started).armed) :
    t ∈ s.armed ∨ t.serial = s.calls := by
  rw [startTimer] at ht
  split at ht
  · exact .inl ht
  · exact (List.mem_cons.mp ht).elim (fun h => .inr (h ▸ rfl)) .inl

/-! ### What waits has expired -/

/-- Serial numbers belong to creations, and a callback waits only after its timer expired. -/
structure Sound (s : Service) : Prop where
  waiting : ∀ k ∈ s.waiting, k ∈ s.expired
  expired : ∀ k ∈ s.expired, k ≤ s.calls
  armed : ∀ t ∈ s.armed, t.serial ≤ s.calls

theorem sound_new : Sound {} where
  waiting := by simp
  expired := by simp
  armed := by simp

theorem Sound.createTimer (h : s.Sound) : (s.createTimer id).Sound where
  waiting := h.waiting
  expired k hk := Nat.le_succ_of_le (h.expired k hk)
  armed t ht := Nat.le_succ_of_le (h.armed t ht)

theorem Sound.startTimer (h : s.Sound) : (s.startTimer id started).Sound where
  waiting := by simpa using h.waiting
  expired := by simpa using h.expired
  armed t ht := by
    rw [startTimer_calls]
    rcases startTimer_armed_subset ht with ht | ht
    · exact h.armed t ht
    · exact Nat.le_of_eq ht

theorem Sound.stopTimer (h : s.Sound) : (s.stopTimer id).Sound where
  waiting := h.waiting
  expired := h.expired
  armed t ht := h.armed t (List.mem_of_mem_filter ht)

theorem Sound.destroyTimer (h : s.Sound) : (s.destroyTimer id).Sound where
  waiting := h.waiting
  expired := h.expired
  armed t ht := h.armed t (List.mem_of_mem_filter ht)

theorem Sound.expire (h : s.Sound) (harmed : s.IsArmed serial) : (s.expire serial).Sound where
  waiting k hk := by
    rcases List.mem_cons.mp hk with rfl | hk
    · exact List.mem_cons_self
    · exact List.mem_cons_of_mem _ (h.waiting k hk)
  expired k hk := by
    obtain ⟨t, ht, hserial⟩ := harmed
    rcases List.mem_cons.mp hk with rfl | hk
    · exact hserial ▸ h.armed t ht
    · exact h.expired k hk
  armed t ht := h.armed t (List.mem_of_mem_filter ht)

theorem Sound.runCallback (h : s.Sound) : (s.runCallback serial).Sound where
  waiting k hk := h.waiting k (List.mem_of_mem_erase hk)
  expired := h.expired
  armed := h.armed

/-! ### Owning a timer -/

/-- The timer with this id, if it is one, is all that is left to destroy, and nothing was destroyed
twice. -/
structure Owns (s : Service) (id : Nat) : Prop where
  outstanding : ∀ t, (t ∈ s.created ∧ t ∉ s.destroyed) ↔ (t = id ∧ 0 < id)
  known : ∀ t ∈ s.destroyed, t ∈ s.created
  once : s.destroyed.Nodup

/-- The time service hands out an id it has not handed out before. -/
def FreshId (s : Service) (id : Nat) : Prop := id ≠ 0 ∧ id ∉ s.created

instance (s : Service) (id : Nat) : Decidable (s.FreshId id) :=
  inferInstanceAs (Decidable (id ≠ 0 ∧ id ∉ s.created))

theorem owns_new : Owns {} 0 where
  outstanding := by simp
  known := by simp
  once := List.nodup_nil

theorem Owns.createTimer (h : s.Owns 0) (hfresh : s.FreshId id) : (s.createTimer id).Owns id := by
  have hcreated : (s.createTimer id).created = id :: s.created := if_neg hfresh.1
  refine ⟨fun t => ?_, fun t ht => ?_, h.once⟩
  · rw [hcreated, List.mem_cons]
    constructor
    · rintro ⟨rfl | ht, hnot⟩
      · exact ⟨rfl, Nat.pos_of_ne_zero hfresh.1⟩
      · exact absurd ((h.outstanding t).mp ⟨ht, hnot⟩).2 (Nat.lt_irrefl 0)
    · rintro ⟨rfl, -⟩
      exact ⟨.inl rfl, fun hdestroyed => hfresh.2 (h.known t hdestroyed)⟩
  · rw [hcreated]
    exact List.mem_cons_of_mem _ (h.known t ht)

theorem Owns.destroyTimer (h : s.Owns id) (hpos : 0 < id) : (s.destroyTimer id).Owns 0 := by
  have hid := (h.outstanding id).mpr ⟨rfl, hpos⟩
  refine ⟨fun t => ?_, fun t ht => ?_, List.nodup_cons.mpr ⟨hid.2, h.once⟩⟩
  · show t ∈ s.created ∧ t ∉ id :: s.destroyed ↔ _
    rw [List.mem_cons]
    constructor
    · rintro ⟨hcreated, hnot⟩
      have ht := (h.outstanding t).mp ⟨hcreated, fun hd => hnot (.inr hd)⟩
      exact absurd (.inl ht.1) hnot
    · rintro ⟨-, hzero⟩
      exact absurd hzero (Nat.lt_irrefl 0)
  · rcases List.mem_cons.mp ht with rfl | ht
    · exact hid.1
    · exact h.known t ht

theorem Owns.congr {s' : Service} (h : s.Owns id) (hcreated : s'.created = s.created)
    (hdestroyed : s'.destroyed = s.destroyed) : s'.Owns id where
  outstanding := by
    rw [hcreated, hdestroyed]
    exact h.outstanding
  known := by
    rw [hcreated, hdestroyed]
    exact h.known
  once := by
    rw [hdestroyed]
    exact h.once

theorem Owns.forget_iff (h : s.Owns id) : s.Owns 0 ↔ id = 0 := by
  constructor
  · intro hzero
    by_contra hne
    have hid := (h.outstanding id).mpr ⟨rfl, Nat.pos_of_ne_zero hne⟩
    exact absurd ((hzero.outstanding id).mp hid).2 (Nat.lt_irrefl 0)
  · rintro rfl
    exact h

end Service

end OneShot
