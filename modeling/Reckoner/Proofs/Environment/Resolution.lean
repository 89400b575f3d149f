import Mathlib.Data.List.Perm.Subperm
import Reckoner.Environment

/-! # Chains of references

What resolving a value does, told without a bound on its steps: references are followed until
something else comes, or a name that is unbound, or a name for the second time. Only the names that
are looked up matter, and a name that is unbound is the last of them.
-/
namespace Reckoner

namespace Environment
variable {η : Type}

/-- After passing some names, a value leads through further ones to a result. -/
inductive Leads (env : Environment η) :
    List Text → Value η → List Text → Except ExecutionError (Value η) → Prop
  | grounded {seen : List Text} {v : Value η} (h : v.isReference = false) :
      Leads env seen v [] (.ok v)
  | again {seen : List Text} {name : Text} (h : name ∈ seen) :
      Leads env seen (.reference name) [] (.error (.cyclicReference name))
  | unbound {seen : List Text} {name : Text} (h : name ∉ seen) (hf : env.find? name = none) :
      Leads env seen (.reference name) [name] (.error (.unknownVariable name))
  | next {seen looked : List Text} {name : Text} {v : Value η}
      {result : Except ExecutionError (Value η)} (h : name ∉ seen) (hf : env.find? name = some v)
      (hl : Leads env (name :: seen) v looked result) :
      Leads env seen (.reference name) (name :: looked) result

variable {env env' : Environment η} {seen looked : List Text} {v : Value η}
  {result : Except ExecutionError (Value η)}

theorem length_le_of_bound {names : List Text} (hn : names.Nodup)
    (hb : ∀ name ∈ names, ∃ v, env.find? name = some v) : names.length ≤ env.length := by
  have hs : names ⊆ env.map Prod.fst := fun name hm => by
    obtain ⟨v, hv⟩ := hb name hm
    exact List.mem_map_of_mem (Bindings.mem_of_find? hv)
  have hle := (List.subperm_of_subset hn hs).length_le
  rwa [List.length_map] at hle

/-- With a step left for each binding not yet passed, the steps do not run out. -/
theorem follow_leads {left : Nat} (hn : seen.Nodup)
    (hb : ∀ name ∈ seen, ∃ v, env.find? name = some v) (hl : env.length ≤ left + seen.length) :
    Leads env seen v (env.follow left seen v).looked (env.follow left seen v).result := by
  fun_induction env.follow left seen v with
  | case1 left seen name hs => exact .again (List.contains_iff_mem.mp hs)
  | case2 left seen name hs hf => exact .unbound (fun hm => hs (List.contains_iff_mem.mpr hm)) hf
  | case3 seen name hs v hf =>
    have hm : name ∉ seen := fun hm => hs (List.contains_iff_mem.mpr hm)
    have hle := length_le_of_bound (List.nodup_cons.mpr ⟨hm, hn⟩)
      (List.forall_mem_cons.mpr ⟨⟨v, hf⟩, hb⟩)
    rw [List.length_cons] at hle
    omega
  | case4 seen name hs v left hf rest ih =>
    have hm : name ∉ seen := fun hm => hs (List.contains_iff_mem.mpr hm)
    refine .next hm hf (ih (List.nodup_cons.mpr ⟨hm, hn⟩)
      (List.forall_mem_cons.mpr ⟨⟨v, hf⟩, hb⟩) ?_)
    rw [List.length_cons]
    omega
  | case5 left seen v hv =>
    refine .grounded ?_
    cases v with
    | reference name => exact absurd rfl (hv name)
    | _ => rfl

theorem resolve_leads (env : Environment η) (v : Value η) :
    Leads env [] v (env.resolve v).looked (env.resolve v).result :=
  follow_leads .nil nofun (Nat.le_refl _)

theorem Leads.unique {looked' : List Text} {result' : Except ExecutionError (Value η)}
    (h : Leads env seen v looked result) (h' : Leads env seen v looked' result') :
    looked = looked' ∧ result = result' := by
  induction h generalizing looked' result' with
  | grounded hv =>
    cases h' with
    | grounded => exact ⟨rfl, rfl⟩
    | _ => cases hv
  | again hm =>
    cases h' with
    | grounded hv => cases hv
    | again => exact ⟨rfl, rfl⟩
    | unbound hm' => exact absurd hm hm'
    | next hm' => exact absurd hm hm'
  | unbound hm hf =>
    cases h' with
    | grounded hv => cases hv
    | again hm' => exact absurd hm' hm
    | unbound => exact ⟨rfl, rfl⟩
    | next _ hf' => cases hf.symm.trans hf'
  | next hm hf _ ih =>
    cases h' with
    | grounded hv => cases hv
    | again hm' => exact absurd hm' hm
    | unbound _ hf' => cases hf.symm.trans hf'
    | next _ hf' hl' =>
      cases hf.symm.trans hf'
      obtain ⟨rfl, rfl⟩ := ih hl'
      exact ⟨rfl, rfl⟩

theorem Leads.resolve_eq (h : Leads env [] v looked result) : env.resolve v = ⟨looked, result⟩ := by
  obtain ⟨hl, hr⟩ := (resolve_leads env v).unique h
  rw [← hl, ← hr]

theorem Leads.agree (h : Leads env seen v looked result)
    (ha : ∀ name ∈ looked, env'.find? name = env.find? name) : Leads env' seen v looked result := by
  induction h with
  | grounded hv => exact .grounded hv
  | again hm => exact .again hm
  | unbound hm hf => exact .unbound hm ((ha _ List.mem_cons_self).trans hf)
  | next hm hf _ ih =>
    obtain ⟨hn, hl⟩ := List.forall_mem_cons.mp ha
    exact .next hm (hn.trans hf) (ih hl)

theorem resolve_agree (h : ∀ name ∈ (env.resolve v).looked, env'.find? name = env.find? name) :
    env'.resolve v = env.resolve v :=
  ((resolve_leads env v).agree h).resolve_eq

theorem Leads.result_of_unbound {name : Text} (h : Leads env seen v looked result)
    (hm : name ∈ looked) (hf : env.find? name = none) :
    result = .error (.unknownVariable name) := by
  induction h with
  | grounded | again => cases hm
  | unbound => rw [List.mem_singleton.mp hm]
  | next _ hb _ ih =>
    rcases List.mem_cons.mp hm with rfl | hm
    · cases hf.symm.trans hb
    · exact ih hm

/-- A value that comes up in resolving another: this one or one that is bound. -/
def Arises (env : Environment η) (v w : Value η) : Prop :=
  w = v ∨ ∃ name, env.find? name = some w

theorem Leads.arises {name : Text} (h : Leads env seen v looked result) (hm : name ∈ looked) :
    env.Arises v (.reference name) := by
  induction h with
  | grounded | again => cases hm
  | unbound => exact .inl (List.mem_singleton.mp hm ▸ rfl)
  | @next seen looked other w result _ hf _ ih =>
    rcases List.mem_cons.mp hm with rfl | hm
    · exact .inl rfl
    · rcases ih hm with rfl | hb
      · exact .inr ⟨other, hf⟩
      · exact .inr hb

/-- A name that does not come up can be bound to anything. -/
theorem resolve_insert {name : Text} (hb : ∀ other, env.find? other ≠ some (.reference name))
    (hv : v ≠ .reference name) (w : Value η) :
    Environment.resolve (Bindings.insert name w env) v = env.resolve v := by
  refine resolve_agree fun other hm => ?_
  rw [Bindings.find?_insert, if_neg]
  rintro rfl
  rcases (resolve_leads env v).arises hm with he | ⟨key, hk⟩
  · exact hv he.symm
  · exact hb key hk

theorem Leads.ok {w : Value η} (h : Leads env seen v looked (.ok w)) :
    w.isReference = false ∧ env.Arises v w := by
  generalize hr : Except.ok w = result at h
  induction h with
  | grounded hv =>
    cases hr
    exact ⟨hv, .inl rfl⟩
  | again | unbound => cases hr
  | @next seen looked name v result _ hf _ ih =>
    obtain ⟨hg, ha⟩ := ih hr
    refine ⟨hg, .inr ?_⟩
    rcases ha with rfl | hb
    · exact ⟨name, hf⟩
    · exact hb

/-- What a chain that does not end well complains about. -/
theorem Leads.error {e : ExecutionError} (h : Leads env seen v looked (.error e)) :
    (∃ name, e = .unknownVariable name ∧ env.find? name = none ∧
      env.Arises v (.reference name)) ∨
    ∃ name, e = .cyclicReference name ∧
      (v = .reference name ∧ name ∈ seen ∨ ∃ other, env.find? other = some (.reference name)) := by
  generalize hr : Except.error e = result at h
  induction h with
  | grounded => cases hr
  | again hm =>
    cases hr
    exact .inr ⟨_, rfl, .inl ⟨rfl, hm⟩⟩
  | unbound _ hf =>
    cases hr
    exact .inl ⟨_, rfl, hf, .inl rfl⟩
  | @next seen looked name v result _ hf hl ih =>
    rcases ih hr with ⟨other, rfl, ho, ha⟩ | ⟨other, rfl, hm⟩
    · refine .inl ⟨other, rfl, ho, .inr ?_⟩
      rcases ha with rfl | hb
      · exact ⟨name, hf⟩
      · exact hb
    · refine .inr ⟨other, rfl, .inr ?_⟩
      rcases hm with ⟨rfl, -⟩ | hb
      · exact ⟨name, hf⟩
      · exact hb

end Environment

end Reckoner
