import Reckoner.Command.Answer

/-! # Layers of names

The names of an evaluation are bound in layers: the bindings that were given over the constants of
the settings over the standard names. Within a layer the last entry of a name counts.
-/
namespace Reckoner

namespace Bindings
variable {α : Type} {entries : Bindings α} {name : Text} {value : α}

/-- The last entry of a name has the value. -/
def Last (entries : Bindings α) (name : Text) (value : α) : Prop :=
  ∃ before after, entries = before ++ (name, value) :: after ∧ name ∉ after.map Prod.fst

theorem find?_eq_none_iff : entries.find? name = none ↔ name ∉ entries.map Prod.fst := by
  induction entries with
  | nil => exact iff_of_true rfl List.not_mem_nil
  | cons entry rest ih =>
    rw [find?, List.map_cons, List.mem_cons, not_or, ← ih]
    split
    · next h => exact iff_of_false (Option.some_ne_none _) fun hn => hn.1 h.symm
    · next h => exact ⟨fun hn => ⟨Ne.symm h, hn⟩, And.right⟩

theorem find?_reverse_eq_none (h : name ∉ entries.map Prod.fst) :
    find? name entries.reverse = none := by
  rw [find?_eq_none_iff, List.map_reverse, List.mem_reverse]
  exact h

theorem Last.find?_reverse (h : entries.Last name value) :
    find? name entries.reverse = some value := by
  obtain ⟨before, after, rfl, ha⟩ := h
  rw [List.reverse_append, List.reverse_cons, List.append_assoc, find?_append,
    find?_reverse_eq_none ha, Option.none_or, List.singleton_append, find?, if_pos rfl]

theorem exists_last_or (entries : Bindings α) (name : Text) :
    (∃ value, entries.Last name value) ∨ name ∉ entries.map Prod.fst := by
  induction entries with
  | nil => exact .inr List.not_mem_nil
  | cons entry rest ih =>
    rcases ih with ⟨value, before, after, rfl, ha⟩ | hn
    · exact .inl ⟨value, entry :: before, after, rfl, ha⟩
    · by_cases h : entry.1 = name
      · exact .inl ⟨entry.2, [], rest, by rw [← h]; rfl, hn⟩
      · exact .inr fun hm => (List.mem_cons.mp hm).elim (fun he => h he.symm) hn

end Bindings

namespace Command
variable {room : Room} {files : Text → FileState} {request : EvalRequest}
  {loaded : Settings.Loaded}

/-- What a name is bound to: by the last given binding of it, or else as a constant of the settings,
or else as a standard name, if both the command line and the settings want those. -/
inductive Layered (request : EvalRequest) (settings : Settings) (entries : Bindings (Value Empty))
    (name : Text) : Option (Value Empty) → Prop
  | given {v : Value Empty} (h : entries.Last name v) :
      Layered request settings entries name (some v)
  | constant {x : Float} (hg : name ∉ entries.map Prod.fst)
      (h : settings.constants.Last name x) :
      Layered request settings entries name (some (.number x))
  | standard (hg : name ∉ entries.map Prod.fst) (hc : name ∉ settings.constants.map Prod.fst)
      (hr : request.standard = true) (hs : settings.standard = true) :
      Layered request settings entries name (Bindings.find? name Environment.standard)
  | unbound (hg : name ∉ entries.map Prod.fst) (hc : name ∉ settings.constants.map Prod.fst)
      (hs : ¬(request.standard = true ∧ settings.standard = true)) :
      Layered request settings entries name none

/-- The settings of an evaluation, with standard names only if the command line wants them too. -/
def asked (request : EvalRequest) (settings : Settings) : Settings :=
  { settings with standard := request.standard && settings.standard }

theorem loadSettings_ok (h : configured room files request = .ok loaded) :
    loadSettings room files request =
      .ok { loaded with settings := asked request loaded.settings } := by
  rw [loadSettings, h, asked]
  split
  · next hs => rw [hs, Bool.true_and]
  · next hs =>
    rw [eq_false_of_ne_true hs, Bool.false_and]
    rfl

theorem loadSettings_error {fault : Settings.LoadFault}
    (h : configured room files request = .error fault) :
    loadSettings room files request = .error fault := by
  rw [loadSettings, h]
  split <;> rfl

/-- The layers of an evaluation's names. -/
theorem layered_environment (request : EvalRequest) (settings : Settings)
    (entries : Bindings (Value Empty)) (name : Text) : Layered request settings entries name
      (Bindings.find? name (environment (asked request settings) entries)) := by
  rw [environment, Bindings.find?_overlay, Settings.environment, Bindings.find?_overlay]
  rw [← List.map_reverse, Bindings.find?_map fun _ => Value.number]
  rcases Bindings.exists_last_or entries name with ⟨v, hv⟩ | hg
  · rw [hv.find?_reverse]
    exact .given hv
  rw [Bindings.find?_reverse_eq_none hg, Option.none_or]
  rcases Bindings.exists_last_or settings.constants name with ⟨x, hx⟩ | hc
  · rw [asked, hx.find?_reverse]
    exact .constant hg hx
  rw [asked, Bindings.find?_reverse_eq_none hc, Option.map_none, Option.none_or]
  split
  · next hs =>
    obtain ⟨hr, hs⟩ := Bool.and_eq_true_iff.mp hs
    exact .standard hg hc hr hs
  · next hs => exact .unbound hg hc fun h => hs (Bool.and_eq_true_iff.mpr h)

end Command

end Reckoner
