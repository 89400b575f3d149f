import Mathlib.Order.Nat
import Reckoner.Limits

/-! # Depths and limits

Levels and places are counted side by side: depths are compared, added and combined in both. Limits
allow a depth if they allow for its levels and for its places, each by itself.
-/
namespace Reckoner

namespace Depth
variable {a b c d : Depth} {places : Nat}

/-- The place in a list of what would be at a depth by itself. -/
def listed (depth : Depth) : Depth := ⟨depth.levels, depth.places + 1⟩

instance : Add Depth := ⟨fun a b => ⟨a.levels + b.levels, a.places + b.places⟩⟩

instance : Max Depth := ⟨fun a b => ⟨max a.levels b.levels, max a.places b.places⟩⟩

instance : Preorder Depth where
  le a b := a.levels ≤ b.levels ∧ a.places ≤ b.places
  le_refl _ := ⟨Nat.le_refl _, Nat.le_refl _⟩
  le_trans _ _ _ h h' := ⟨h.1.trans h'.1, h.2.trans h'.2⟩

theorem le_iff : a ≤ b ↔ a.levels ≤ b.levels ∧ a.places ≤ b.places := Iff.rfl

@[simp] theorem levels_zero : (0 : Depth).levels = 0 := rfl
@[simp] theorem places_zero : (0 : Depth).places = 0 := rfl
@[simp] theorem levels_below : (a.below places).levels = a.levels + 1 := rfl
@[simp] theorem places_below : (a.below places).places = a.places + places := rfl
@[simp] theorem levels_listed : a.listed.levels = a.levels := rfl
@[simp] theorem places_listed : a.listed.places = a.places + 1 := rfl
@[simp] theorem levels_add : (a + b).levels = a.levels + b.levels := rfl
@[simp] theorem places_add : (a + b).places = a.places + b.places := rfl
@[simp] theorem levels_max : (max a b).levels = max a.levels b.levels := rfl
@[simp] theorem places_max : (max a b).places = max a.places b.places := rfl

@[simp] theorem zero_add : 0 + a = a := by ext <;> simp

@[simp] theorem add_zero : a + 0 = a := by ext <;> simp

theorem le_add_right (a b : Depth) : a ≤ a + b := ⟨Nat.le_add_right _ _, Nat.le_add_right _ _⟩

theorem add_le_add_left (h : a ≤ b) (c : Depth) : c + a ≤ c + b :=
  ⟨Nat.add_le_add_left h.1 _, Nat.add_le_add_left h.2 _⟩

theorem add_max : a + max b c = max (a + b) (a + c) := by
  ext <;> simp

theorem below_add : a.below places + b = a + b.below places := by
  ext <;> simp <;> omega

/-- A place in the list of the arguments is one more on the stack. -/
theorem add_listed : a.below places + b.listed = a.below (places + 1) + b := by
  ext
  · rfl
  · simp
    omega

theorem le_below (a : Depth) (places : Nat) : a ≤ a.below places :=
  ⟨Nat.le_succ _, Nat.le_add_right _ _⟩

theorem below_le_below (h : a ≤ b) (places : Nat) : a.below places ≤ b.below places :=
  ⟨Nat.succ_le_succ h.1, Nat.add_le_add_right h.2 places⟩

theorem listed_le_listed (h : a ≤ b) : a.listed ≤ b.listed := ⟨h.1, Nat.succ_le_succ h.2⟩

theorem max_le_max (h : a ≤ b) (h' : c ≤ d) : max a c ≤ max b d := by
  simp only [le_iff, levels_max, places_max] at h h' ⊢
  omega

theorem le_max_left (a b : Depth) : a ≤ max a b := ⟨Nat.le_max_left _ _, Nat.le_max_left _ _⟩

theorem le_max_right (a b : Depth) : b ≤ max a b := ⟨Nat.le_max_right _ _, Nat.le_max_right _ _⟩

@[simp] theorem max_zero : max a 0 = a := by ext <;> simp

theorem max_assoc : max (max a b) c = max a (max b c) := by
  ext <;> exact Nat.max_assoc _ _ _

theorem max_listed : (max a b).listed = max a.listed b.listed := by
  ext <;> simp

theorem max_below : (max a b).below places = max (a.below places) (b.below places) := by
  ext <;> simp

/-- The second depth is the first or up to one level further in, by one place. -/
structure Near (a b : Depth) : Prop where
  le : a ≤ b
  le_below : b ≤ a.below 1

theorem near_iff : Near a b ↔ (a.levels ≤ b.levels ∧ a.places ≤ b.places) ∧
    b.levels ≤ a.levels + 1 ∧ b.places ≤ a.places + 1 :=
  ⟨fun h => ⟨h.le, h.le_below⟩, fun h => ⟨h.1, h.2⟩⟩

theorem near_self (a : Depth) : Near a a := ⟨le_refl a, le_below a 1⟩

theorem Near.below (h : Near a b) (places : Nat) : Near (a.below places) (b.below places) := by
  simp only [near_iff, levels_below, places_below] at h ⊢
  omega

theorem Near.max (h : Near a b) (h' : Near c d) : Near (max a c) (max b d) := by
  simp only [near_iff, levels_max, places_max] at h h' ⊢
  omega

end Depth

namespace Limits
variable {limits : Limits} {a b : Depth}

/-- The depth is within both limits. -/
def Allow (limits : Limits) (depth : Depth) : Prop :=
  depth.levels ≤ limits.nesting ∧ depth.places ≤ limits.stack

instance (depth : Depth) : Decidable (limits.Allow depth) := inferInstanceAs (Decidable (_ ∧ _))

theorem Allow.mono (h : limits.Allow b) (hle : a ≤ b) : limits.Allow a :=
  ⟨hle.1.trans h.1, hle.2.trans h.2⟩

@[simp] theorem allow_zero : limits.Allow 0 := ⟨Nat.zero_le _, Nat.zero_le _⟩

theorem allow_max : limits.Allow (max a b) ↔ limits.Allow a ∧ limits.Allow b := by
  simp only [Allow, Depth.levels_max, Depth.places_max]
  omega

end Limits

end Reckoner
