import Reckoner.Text

/-! # Bindings

Names with what they are bound to, each name once, in the order in which the names came. Binding
a name again replaces its value and keeps its place.
-/
namespace Reckoner

abbrev Bindings (α : Type) := List (Text × α)

namespace Bindings
variable {α : Type}

def find? (name : Text) : Bindings α → Option α
  | [] => none
  | (key, value) :: rest => if key = name then some value else find? name rest

def insert (name : Text) (value : α) : Bindings α → Bindings α
  | [] => [(name, value)]
  | (key, old) :: rest =>
    if key = name then (key, value) :: rest else (key, old) :: insert name value rest

def erase (name : Text) (bindings : Bindings α) : Bindings α :=
  bindings.filter fun entry => entry.1 != name

/-- Inserts all of `upper`, so that it wins where both bind a name. -/
def overlay (lower upper : Bindings α) : Bindings α :=
  upper.foldl (fun bindings entry => insert entry.1 entry.2 bindings) lower

def sorted (bindings : Bindings α) : Bindings α :=
  bindings.mergeSort fun a b => Text.precedes a.1 b.1

theorem find?_insert (name key : Text) (value : α) (bindings : Bindings α) :
    find? key (insert name value bindings) =
      if name = key then some value else find? key bindings := by
  induction bindings with
  | nil => rfl
  | cons entry rest ih =>
    obtain ⟨k, old⟩ := entry
    by_cases hk : k = name
    · subst hk
      by_cases h : k = key <;> simp [insert, find?, h]
    · by_cases h : k = key
      · subst h
        simp [insert, find?, hk, Ne.symm hk]
      · simp [insert, find?, hk, h, ih]

theorem find?_append (name : Text) (upper lower : Bindings α) :
    find? name (upper ++ lower) = (find? name upper).or (find? name lower) := by
  induction upper with
  | nil => rfl
  | cons entry rest ih =>
    rw [List.cons_append, find?, find?, ih]
    split <;> rfl

theorem find?_map {β : Type} (f : Text → α → β) (name : Text) (bindings : Bindings α) :
    find? name (bindings.map fun entry => (entry.1, f entry.1 entry.2)) =
      (find? name bindings).map (f name) := by
  induction bindings with
  | nil => rfl
  | cons entry rest ih =>
    rw [List.map_cons, find?, find?]
    split
    · next h => rw [h, Option.map_some]
    · exact ih

theorem find?_overlay (name : Text) (lower upper : Bindings α) :
    find? name (overlay lower upper) = (find? name upper.reverse).or (find? name lower) := by
  induction upper generalizing lower with
  | nil => rfl
  | cons entry rest ih =>
    have hs : overlay lower (entry :: rest) = overlay (insert entry.1 entry.2 lower) rest := rfl
    rw [hs, ih, find?_insert, List.reverse_cons, find?_append, Option.or_assoc]
    congr 1
    simp only [find?]
    split <;> rfl

theorem mem_of_find? {bindings : Bindings α} {name : Text} {value : α}
    (h : bindings.find? name = some value) : (name, value) ∈ bindings := by
  induction bindings with
  | nil => cases h
  | cons entry rest ih =>
    obtain ⟨key, old⟩ := entry
    rw [find?] at h
    split at h
    · next hk =>
      cases h
      exact hk ▸ List.mem_cons_self
    · exact List.mem_cons_of_mem _ (ih h)

theorem mem_of_find?_overlay {lower upper : Bindings α} {name : Text} {value : α}
    (h : (overlay lower upper).find? name = some value) :
    (name, value) ∈ upper ∨ lower.find? name = some value := by
  rw [find?_overlay, Option.or_eq_some_iff] at h
  rcases h with h | ⟨-, h⟩
  · exact .inl (List.mem_reverse.mp (mem_of_find? h))
  · exact .inr h

end Bindings

end Reckoner
