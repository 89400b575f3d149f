import Reckoner.Proofs.Environment.Resolution

/-! # Where chains of references go

The bindings lead from a value along a single chain of names. It ends in a value that is no
reference, or with an unbound name, or it comes to names that lead back to themselves and goes round
among them without end. Resolving the value tells which of these it is, and looks up each name on
the chain once.
-/
namespace Reckoner

namespace Environment
variable {η : Type}

/-- Some names lead from one value to another, each one bound to what the next step starts from. -/
inductive Chain (env : Environment η) : Value η → List Text → Value η → Prop
  | here (v : Value η) : Chain env v [] v
  | step {name : Text} {names : List Text} {v w : Value η} (hf : env.find? name = some v)
      (h : Chain env v names w) : Chain env (.reference name) (name :: names) w

/-- A name that leads back to itself. -/
def Circular (env : Environment η) (name : Text) : Prop :=
  ∃ round, env.Chain (.reference name) (name :: round) (.reference name)

def Onward (env : Environment η) (v : Value η) : Prop :=
  ∃ name w, v = .reference name ∧ env.find? name = some w

variable {env : Environment η} {v w u : Value η} {name other : Text}
  {names more before round looked seen : List Text} {result : Except ExecutionError (Value η)}

namespace Chain

theorem append (h : env.Chain v names w) (h' : env.Chain w more u) :
    env.Chain v (names ++ more) u := by
  induction h with
  | here => exact h'
  | step hf _ ih => exact .step hf (ih h')

theorem split (h : env.Chain v (names ++ more) u) :
    ∃ w, env.Chain v names w ∧ env.Chain w more u := by
  induction names generalizing v with
  | nil => exact ⟨v, .here v, h⟩
  | cons name names ih =>
    cases h with
    | step hf h =>
      obtain ⟨w, hn, hm⟩ := ih h
      exact ⟨w, .step hf hn, hm⟩

theorem from_name (h : env.Chain v (names ++ name :: more) u) :
    env.Chain v names (.reference name) ∧ env.Chain (.reference name) (name :: more) u := by
  obtain ⟨w, hn, hm⟩ := h.split
  cases hm with
  | step hf hm => exact ⟨hn, .step hf hm⟩

/-- There is one chain only, so of two stretches of it from the same value one goes on where the
other stops. -/
theorem linear (h : env.Chain v names w) (h' : env.Chain v more u) :
    (∃ rest, more = names ++ rest ∧ env.Chain w rest u) ∨
      ∃ rest, names = more ++ rest ∧ env.Chain u rest w := by
  induction h generalizing more with
  | here => exact .inl ⟨more, rfl, h'⟩
  | @step name names v w hf h ih =>
    cases h' with
    | here => exact .inr ⟨name :: names, rfl, .step hf h⟩
    | step hf' h' =>
      cases hf.symm.trans hf'
      rcases ih h' with ⟨rest, rfl, hr⟩ | ⟨rest, rfl, hr⟩
      · exact .inl ⟨rest, rfl, hr⟩
      · exact .inr ⟨rest, rfl, hr⟩

theorem onward (h : env.Chain v (name :: names) w) : env.Onward v := by
  cases h with
  | step hf => exact ⟨_, _, rfl, hf⟩

/-- Where a chain ends it has passed everything that lies on it. -/
theorem continues (h : env.Chain v names w) (hw : ¬env.Onward w) (h' : env.Chain v more u) :
    ∃ rest, names = more ++ rest ∧ env.Chain u rest w := by
  rcases h.linear h' with ⟨rest, rfl, hr⟩ | hr
  · cases rest with
    | nil =>
      cases hr
      exact ⟨[], by rw [List.append_nil, List.append_nil], .here _⟩
    | cons => exact absurd hr.onward hw
  · exact hr

theorem end_unique (h : env.Chain v names w) (hw : ¬env.Onward w) (h' : env.Chain v more u)
    (hu : ¬env.Onward u) : w = u := by
  obtain ⟨rest, -, hr⟩ := h.continues hw h'
  cases rest with
  | nil =>
    cases hr
    rfl
  | cons => exact absurd hr.onward hu

end Chain

theorem not_onward_of_value (h : w.isReference = false) : ¬env.Onward w := by
  rintro ⟨name, v, rfl, -⟩
  cases h

theorem not_onward_of_unbound (h : env.find? name = none) : ¬env.Onward (.reference name) := by
  rintro ⟨other, v, he, hf⟩
  cases he
  cases h.symm.trans hf

/-! ## Going round -/

/-- Whatever leads to a circular name leads to it again from anywhere further on. -/
theorem Circular.back (hc : env.Circular name) (h : env.Chain v names w)
    (hv : ∃ before, env.Chain v before (.reference name)) :
    ∃ rest, env.Chain w rest (.reference name) := by
  induction h with
  | here => exact hv
  | @step other names v w hf _ ih =>
    refine ih ?_
    obtain ⟨before, hb⟩ := hv
    cases hb with
    | here =>
      obtain ⟨round, hr⟩ := hc
      cases hr with
      | step hf' hr =>
        cases hf.symm.trans hf'
        exact ⟨round, hr⟩
    | step hf' hb =>
      cases hf.symm.trans hf'
      exact ⟨_, hb⟩

/-- A chain that comes to a circular name has no end. -/
theorem Circular.onward (hc : env.Circular name) (hv : env.Chain v before (.reference name))
    (h : env.Chain v names w) : env.Onward w := by
  obtain ⟨rest, hr⟩ := hc.back h ⟨before, hv⟩
  cases rest with
  | nil =>
    cases hr
    obtain ⟨round, hr⟩ := hc
    exact hr.onward
  | cons => exact hr.onward

section Round
variable (hr : env.Chain (.reference name) (name :: round) (.reference name))
include hr

/-- What a name of the round is bound to is another name of the round, or the first one again. -/
theorem Chain.next_of_round {m : Text} (hm : m ∈ name :: round) (hf : env.find? m = some v) :
    ∃ next ∈ name :: round, v = .reference next := by
  obtain ⟨first, last, hs⟩ := List.append_of_mem hm
  rw [hs] at hr
  cases hr.from_name.2 with
  | step hf' hl =>
    cases hf.symm.trans hf'
    cases hl with
    | here => exact ⟨name, List.mem_cons_self, rfl⟩
    | @step next => exact ⟨next, by rw [hs]; simp, rfl⟩

/-- The names of the round are all that can be come to from there. -/
theorem Chain.stays (h : env.Chain v names w) (hv : ∃ m ∈ name :: round, v = .reference m) :
    ∃ m ∈ name :: round, w = .reference m := by
  induction h with
  | here => exact hv
  | step hf _ ih =>
    obtain ⟨m, hm, he⟩ := hv
    cases he
    exact ih (hr.next_of_round hm hf)

/-- Names before the round are on no round themselves. -/
theorem Chain.not_circular (hv : env.Chain v before (.reference name))
    (hn : (before ++ name :: round).Nodup) (hm : other ∈ before) : ¬env.Circular other := by
  intro hc
  obtain ⟨first, last, rfl⟩ := List.append_of_mem hm
  obtain ⟨rest, hback⟩ := hc.back hv.from_name.2 ⟨[], .here _⟩
  obtain ⟨m, hround, he⟩ := hr.stays hback ⟨name, List.mem_cons_self, rfl⟩
  cases he
  exact (List.nodup_append.mp hn).2.2 other hm other hround rfl

end Round

/-! ## What resolving finds out -/

inductive Ends (env : Environment η) (v : Value η) :
    List Text → Except ExecutionError (Value η) → Prop
  | grounded {names : List Text} {w : Value η} (h : env.Chain v names w)
      (hg : w.isReference = false) : Ends env v names (.ok w)
  | unbound {names : List Text} {name : Text} (h : env.Chain v names (.reference name))
      (hf : env.find? name = none) :
      Ends env v (names ++ [name]) (.error (.unknownVariable name))
  | again {before round : List Text} {name : Text} (h : env.Chain v before (.reference name))
      (hr : env.Chain (.reference name) (name :: round) (.reference name)) :
      Ends env v (before ++ name :: round) (.error (.cyclicReference name))

theorem Leads.ends (h : Leads env seen w looked result) (hv : env.Chain v seen.reverse w) :
    env.Ends v (seen.reverse ++ looked) result := by
  induction h with
  | grounded hg =>
    rw [List.append_nil]
    exact .grounded hv hg
  | @again seen name hm =>
    obtain ⟨before, round, hs⟩ := List.append_of_mem (List.mem_reverse.mpr hm)
    rw [hs] at hv ⊢
    rw [List.append_nil]
    exact .again hv.from_name.1 hv.from_name.2
  | unbound _ hf => exact .unbound hv hf
  | next _ hf _ ih =>
    rw [List.reverse_cons, List.append_assoc] at ih
    exact ih (hv.append (.step hf (.here _)))

theorem Leads.nodup (h : Leads env seen v looked result) :
    looked.Nodup ∧ ∀ name ∈ looked, name ∉ seen := by
  induction h with
  | grounded | again => exact ⟨.nil, nofun⟩
  | unbound hm =>
    exact ⟨List.nodup_cons.mpr ⟨List.not_mem_nil, .nil⟩,
      fun name h => List.mem_singleton.mp h ▸ hm⟩
  | next hm _ _ ih =>
    obtain ⟨hn, hs⟩ := ih
    refine ⟨List.nodup_cons.mpr ⟨fun h => hs _ h List.mem_cons_self, hn⟩, ?_⟩
    exact List.forall_mem_cons.mpr
      ⟨hm, fun name h hseen => hs name h (List.mem_cons_of_mem _ hseen)⟩

theorem resolve_ends (env : Environment η) (v : Value η) :
    env.Ends v (env.resolve v).looked (env.resolve v).result :=
  (env.resolve_leads v).ends (.here v)

theorem resolve_nodup (env : Environment η) (v : Value η) : (env.resolve v).looked.Nodup :=
  (env.resolve_leads v).nodup.1

theorem Chain.bound (h : env.Chain v names w) : ∀ m ∈ names, ∃ u, env.find? m = some u := by
  induction h with
  | here => exact nofun
  | step hf _ ih => exact List.forall_mem_cons.mpr ⟨⟨_, hf⟩, ih⟩

/-- All names that are looked up are bound, but for the last one of a chain that breaks off. -/
theorem Ends.length_le (h : env.Ends v looked result) (hn : looked.Nodup) :
    looked.length ≤ env.length + 1 := by
  cases h with
  | grounded h => exact Nat.le_succ_of_le (length_le_of_bound hn h.bound)
  | @unbound names name h =>
    have hle := length_le_of_bound (hn.sublist (List.sublist_append_left _ _)) h.bound
    rw [List.length_append, List.length_singleton]
    omega
  | again h hr => exact Nat.le_succ_of_le (length_le_of_bound hn (h.append hr).bound)

theorem Chain.first_circular (h : env.Chain v names (.reference name)) (hc : env.Circular name)
    (hn : ∀ m ∈ names, ¬env.Circular m) (h' : env.Chain v more (.reference other))
    (hc' : env.Circular other) (hm : ∀ m ∈ more, ¬env.Circular m) : name = other := by
  rcases h.linear h' with ⟨rest, rfl, hr⟩ | ⟨rest, rfl, hr⟩
  · cases hr with
    | here => rfl
    | step => exact absurd hc (hm name (by simp))
  · cases hr with
    | here => rfl
    | step => exact absurd hc' (hn other (by simp))

section Ends
variable (hends : env.Ends v looked result)
include hends

theorem Ends.eq_ok_iff : result = .ok w ↔ w.isReference = false ∧ ∃ names, env.Chain v names w := by
  constructor
  · rintro rfl
    cases hends with
    | grounded h hg => exact ⟨hg, _, h⟩
  · rintro ⟨hg, names, h⟩
    have hw : ¬env.Onward w := not_onward_of_value hg
    cases hends with
    | grounded h' hg' => rw [h.end_unique hw h' (not_onward_of_value hg')]
    | unbound h' hf =>
      rw [h.end_unique hw h' (not_onward_of_unbound hf)] at hg
      cases hg
    | again h' hr => exact absurd (Circular.onward ⟨_, hr⟩ h' h) hw

theorem Ends.eq_unknown_iff : result = .error (.unknownVariable name) ↔
    env.find? name = none ∧ ∃ names, env.Chain v names (.reference name) := by
  constructor
  · rintro rfl
    cases hends with
    | unbound h hf => exact ⟨hf, _, h⟩
  · rintro ⟨hf, names, h⟩
    have hw : ¬env.Onward (.reference name) := not_onward_of_unbound hf
    cases hends with
    | grounded h' hg =>
      rw [h'.end_unique (not_onward_of_value hg) h hw] at hg
      cases hg
    | unbound h' hf' =>
      cases h.end_unique hw h' (not_onward_of_unbound hf')
      rfl
    | again h' hr => exact absurd (Circular.onward ⟨_, hr⟩ h' h) hw

theorem Ends.round_of_cyclic (he : result = .error (.cyclicReference name)) : ∃ before round,
    looked = before ++ name :: round ∧ env.Chain v before (.reference name) ∧
      env.Chain (.reference name) (name :: round) (.reference name) := by
  subst he
  cases hends with
  | again h hr => exact ⟨_, _, rfl, h, hr⟩

/-- A chain is found to go round exactly if it has no end. -/
theorem Ends.cyclic_iff : (∃ name, result = .error (.cyclicReference name)) ↔
    ∀ names w, env.Chain v names w → env.Onward w := by
  constructor
  · rintro ⟨name, rfl⟩
    cases hends with
    | again h hr => exact fun names w hw => Circular.onward ⟨_, hr⟩ h hw
  · intro hall
    cases hends with
    | grounded h hg => exact absurd (hall _ _ h) (not_onward_of_value hg)
    | unbound h hf => exact absurd (hall _ _ h) (not_onward_of_unbound hf)
    | again => exact ⟨_, rfl⟩

theorem Ends.eq_cyclic_iff (hn : looked.Nodup) : result = .error (.cyclicReference name) ↔
    ∃ before, env.Chain v before (.reference name) ∧ env.Circular name ∧
      ∀ m ∈ before, ¬env.Circular m := by
  constructor
  · rintro rfl
    cases hends with
    | again h hr => exact ⟨_, h, ⟨_, hr⟩, fun m hm => hr.not_circular h hn hm⟩
  · rintro ⟨before, h, hc, hfirst⟩
    cases hends with
    | grounded h' hg => exact absurd (hc.onward h h') (not_onward_of_value hg)
    | unbound h' hf => exact absurd (hc.onward h h') (not_onward_of_unbound hf)
    | again h' hr =>
      rw [h.first_circular hc hfirst h' ⟨_, hr⟩ fun m hm => hr.not_circular h' hn hm]

end Ends

/-- A name resolves as what it is bound to does, to the same value or with an error of that kind. -/
theorem resolve_bound (hf : env.find? name = some v) :
    (env.resolve (.reference name)).result.mapError ExecutionError.kind =
      (env.resolve v).result.mapError ExecutionError.kind := by
  have hname := env.resolve_ends (.reference name)
  have hends := env.resolve_ends v
  generalize (env.resolve v).looked = looked at hends
  generalize (env.resolve v).result = result at hends
  cases hends with
  | grounded h hg => rw [hname.eq_ok_iff.mpr ⟨hg, _, .step hf h⟩]
  | unbound h hu => rw [hname.eq_unknown_iff.mpr ⟨hu, _, .step hf h⟩]
  | again h hr =>
    obtain ⟨other, ho⟩ := hname.cyclic_iff.mpr fun names w hw =>
      Circular.onward ⟨_, hr⟩ (.step hf h) hw
    rw [ho]
    rfl

/-- Resolving a value follows its chain to where it ends, or once round, looking up each name on the
way once. A value that is no reference is the outcome exactly if the chain ends in it, and an
unbound name is reported exactly if the chain breaks off there. A name is reported as circular
exactly if the chain has no end and this is the first name on it that leads back to itself; it is
the first to come up again. -/
theorem resolve_decides (env : Environment η) (v : Value η) :
    env.Leads [] v (env.resolve v).looked (env.resolve v).result ∧
    (env.resolve v).looked.Nodup ∧ (env.resolve v).looked.length ≤ env.length + 1 ∧
    (∀ w, (env.resolve v).result = .ok w ↔
      w.isReference = false ∧ ∃ names, env.Chain v names w) ∧
    (∀ name, (env.resolve v).result = .error (.unknownVariable name) ↔
      env.find? name = none ∧ ∃ names, env.Chain v names (.reference name)) ∧
    ((∃ name, (env.resolve v).result = .error (.cyclicReference name)) ↔
      ∀ names w, env.Chain v names w → env.Onward w) ∧
    (∀ name, (env.resolve v).result = .error (.cyclicReference name) ↔
      ∃ before, env.Chain v before (.reference name) ∧ env.Circular name ∧
        ∀ m ∈ before, ¬env.Circular m) ∧
    ∀ name, (env.resolve v).result = .error (.cyclicReference name) → ∃ before round,
      (env.resolve v).looked = before ++ name :: round ∧ env.Chain v before (.reference name) ∧
        env.Chain (.reference name) (name :: round) (.reference name) := by
  have hends := env.resolve_ends v
  have hn := env.resolve_nodup v
  exact ⟨env.resolve_leads v, hn, hends.length_le hn, fun w => hends.eq_ok_iff,
    fun name => hends.eq_unknown_iff, hends.cyclic_iff, fun name => hends.eq_cyclic_iff hn,
    fun name he => hends.round_of_cyclic he⟩

/-- The name reported need not be the one that the chain starts with. -/
example : (resolve [(['a'], .reference ['b']), (['b'], .reference ['c']), (['c'], .reference ['b'])]
    (.reference ['a'] : Value Unit)).result = .error (.cyclicReference ['b']) := rfl

end Environment

end Reckoner
