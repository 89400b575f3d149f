import Mathlib.Data.List.Forall2
import Reckoner.Settings

/-! # Valid settings

Data that is a table describes settings if each entry that stands for a setting can be read as one.
If not, every entry that cannot be read gives rise to a complaint at its place, and there are no
other complaints.
-/
namespace Reckoner.Settings
variable {α : Type} {name : String} {initial : α} {read : Datum → Except Complaint.Cause α}
  {entries : Bindings Datum} {datum : Datum} {complaint : Complaint}

/-! ## Descriptions -/

/-- What a setting is: what its entry is read as, or where there is no entry, what it is initially.
-/
inductive Chosen (entries : Bindings Datum) (name : String) (initial : α)
    (reads : Datum → α → Prop) : α → Prop
  | initially (h : entries.find? name.toList = none) : Chosen entries name initial reads initial
  | given {datum : Datum} {value : α} (h : entries.find? name.toList = some datum)
      (hr : reads datum value) : Chosen entries name initial reads value

def ReadsNumbers (datum : Datum) (numbers : Bindings Float) : Prop :=
  ∃ entries, datum = .table entries ∧ List.Forall₂ (fun entry number =>
    number.1 = entry.1 ∧ entry.2.toNumber = .ok number.2) entries numbers

/-- The entries of a table describe settings. -/
structure Describes (entries : Bindings Datum) (settings : Settings) : Prop where
  depth : Chosen entries "max_depth" (default.maxDepth : Int)
    (fun datum n => datum.toInteger = .ok n) settings.maxDepth
  inRange : 1 ≤ settings.maxDepth ∧ settings.maxDepth ≤ depthLimit
  standard : Chosen entries "stdlib" default.standard
    (fun datum b => datum.toBoolean = .ok b) settings.standard
  constants : Chosen entries "constants" default.constants ReadsNumbers settings.constants

/-- What has to be complained about in data that should describe settings. -/
inductive Faulty : Datum → Complaint → Prop
  | shape {datum : Datum} (h : ∀ entries, datum ≠ .table entries) :
      Faulty datum ⟨[], .settingsExpected⟩
  | depth {entries : Bindings Datum} {datum : Datum} {cause : Complaint.Cause}
      (h : entries.find? "max_depth".toList = some datum)
      (hr : datum.toIntegerWithin 1 (some depthLimit) = .error cause) :
      Faulty (.table entries) ⟨["max_depth".toList], cause⟩
  | standard {entries : Bindings Datum} {datum : Datum} {cause : Complaint.Cause}
      (h : entries.find? "stdlib".toList = some datum) (hr : datum.toBoolean = .error cause) :
      Faulty (.table entries) ⟨["stdlib".toList], cause⟩
  | constants {entries : Bindings Datum} {datum : Datum}
      (h : entries.find? "constants".toList = some datum)
      (hr : ∀ constants, datum ≠ .table constants) :
      Faulty (.table entries) ⟨["constants".toList], .tableExpected⟩
  | constant {entries constants : Bindings Datum} {name : Text} {datum : Datum}
      {cause : Complaint.Cause} (h : entries.find? "constants".toList = some (.table constants))
      (hm : (name, datum) ∈ constants) (hr : datum.toNumber = .error cause) :
      Faulty (.table entries) ⟨["constants".toList, name], cause⟩

/-! ## One setting -/

/-- A failure complains about something. -/
def Grounded (result : Except (List Complaint) α) : Prop :=
  ∀ found, result = .error found → found ≠ []

theorem Grounded.exists_ok {result : Except (List Complaint) α} (h : Grounded result)
    (hc : complaints result = []) : ∃ value, result = .ok value := by
  cases result with
  | ok value => exact ⟨value, rfl⟩
  | error found => exact absurd hc (h found rfl)

theorem setting_eq_ok {value : α} : setting name initial read entries = .ok value ↔
    Chosen entries name initial (fun datum value => read datum = .ok value) value := by
  unfold setting
  constructor
  · intro h
    split at h
    · next hf =>
      cases h
      exact .initially hf
    · next hf =>
      split at h
      · next hr =>
        cases h
        exact .given hf hr
      · cases h
  · intro h
    cases h with
    | initially h => rw [h]
    | given h hr =>
      rw [h]
      dsimp only
      rw [hr]

theorem grounded_setting : Grounded (setting name initial read entries) := by
  intro found h
  unfold setting at h
  split at h
  · cases h
  · split at h
    · cases h
    · cases h
      exact List.cons_ne_nil _ _

theorem mem_complaints_setting : complaint ∈ complaints (setting name initial read entries) ↔
    ∃ datum cause, entries.find? name.toList = some datum ∧ read datum = .error cause ∧
      complaint = ⟨[name.toList], cause⟩ := by
  unfold setting
  cases hf : entries.find? name.toList with
  | none => exact iff_of_false List.not_mem_nil nofun
  | some datum =>
    dsimp only
    cases hr : read datum with
    | ok value =>
      refine iff_of_false List.not_mem_nil ?_
      rintro ⟨_, _, ⟨⟩, he, -⟩
      cases hr.symm.trans he
    | error cause =>
      refine List.mem_singleton.trans ⟨fun h => ⟨datum, cause, rfl, hr, h⟩, ?_⟩
      rintro ⟨_, _, ⟨⟩, he, h⟩
      cases hr.symm.trans he
      exact h

theorem toIntegerWithin_eq_ok {low high n : Int} :
    datum.toIntegerWithin low (some high) = .ok n ↔
      datum.toInteger = .ok n ∧ low ≤ n ∧ n ≤ high := by
  unfold Datum.toIntegerWithin
  cases datum.toInteger with
  | error cause => exact iff_of_false nofun nofun
  | ok m =>
    dsimp only
    split
    · next hl =>
      refine iff_of_false nofun ?_
      rintro ⟨⟨⟩, hn, -⟩
      omega
    · split
      · next hh =>
        refine iff_of_false nofun ?_
        rintro ⟨⟨⟩, -, hn⟩
        omega
      · refine ⟨?_, And.left⟩
        rintro ⟨⟩
        exact ⟨rfl, by omega, by omega⟩

/-! ## Constants -/

theorem constantsOf_eq_ok {numbers : Bindings Float} : constantsOf entries = .ok numbers ↔
    List.Forall₂ (fun entry number => number.1 = entry.1 ∧ entry.2.toNumber = .ok number.2)
      entries numbers := by
  induction entries generalizing numbers with
  | nil =>
    rw [constantsOf, List.forall₂_nil_left_iff]
    exact ⟨fun h => (Except.ok.inj h).symm, fun h => congrArg _ h.symm⟩
  | cons entry rest ih =>
    obtain ⟨name, datum⟩ := entry
    rw [constantsOf, List.forall₂_cons_left_iff]
    constructor
    · intro h
      split at h
      · next x others hx ho =>
        cases h
        exact ⟨(name, x), others, ⟨rfl, hx⟩, ih.mp ho, rfl⟩
      · cases h
      · dsimp only at h
        split at h <;> cases h
    · rintro ⟨⟨_, x⟩, others, ⟨rfl, hx⟩, ho, rfl⟩
      rw [hx, ih.mpr ho]

theorem grounded_constantsOf (entries : Bindings Datum) : Grounded (constantsOf entries) := by
  induction entries with
  | nil => exact nofun
  | cons entry rest ih =>
    obtain ⟨name, datum⟩ := entry
    intro found h
    rw [constantsOf] at h
    split at h
    · cases h
    · next ho =>
      cases h
      exact ih _ ho
    · dsimp only at h
      split at h
      · cases h
        exact List.cons_ne_nil _ _
      · cases h
        exact List.cons_ne_nil _ _

theorem mem_complaints_constantsOf_cons {name : Text} :
    complaint ∈ complaints (constantsOf ((name, datum) :: entries)) ↔
      (∃ cause, datum.toNumber = .error cause ∧ complaint = ⟨["constants".toList, name], cause⟩) ∨
        complaint ∈ complaints (constantsOf entries) := by
  rw [constantsOf]
  cases datum.toNumber with
  | ok x =>
    have hn : ¬∃ cause, (Except.ok x : Except Complaint.Cause Float) = .error cause ∧
        complaint = ⟨["constants".toList, name], cause⟩ := nofun
    rw [or_iff_right hn]
    cases constantsOf entries <;> exact Iff.rfl
  | error cause =>
    have he : (∃ other, (Except.error cause : Except Complaint.Cause Float) = .error other ∧
        complaint = ⟨["constants".toList, name], other⟩) ↔
        complaint = ⟨["constants".toList, name], cause⟩ := by
      refine ⟨?_, fun h => ⟨cause, rfl, h⟩⟩
      rintro ⟨_, ⟨⟩, h⟩
      exact h
    rw [he]
    cases constantsOf entries <;> exact List.mem_cons

theorem mem_complaints_constantsOf : complaint ∈ complaints (constantsOf entries) ↔
    ∃ name datum cause, (name, datum) ∈ entries ∧ datum.toNumber = .error cause ∧
      complaint = ⟨["constants".toList, name], cause⟩ := by
  induction entries with
  | nil => exact iff_of_false List.not_mem_nil nofun
  | cons entry rest ih =>
    rw [mem_complaints_constantsOf_cons, ih]
    constructor
    · rintro (⟨cause, hx, h⟩ | ⟨name, datum, cause, hm, hx, h⟩)
      · exact ⟨entry.1, entry.2, cause, List.mem_cons_self, hx, h⟩
      · exact ⟨name, datum, cause, List.mem_cons_of_mem entry hm, hx, h⟩
    · rintro ⟨name, datum, cause, hm, hx, h⟩
      rcases List.mem_cons.mp hm with rfl | hm
      · exact .inl ⟨cause, hx, h⟩
      · exact .inr ⟨name, datum, cause, hm, hx, h⟩

theorem readConstants_eq_ok {numbers : Bindings Float} : readConstants entries = .ok numbers ↔
    Chosen entries "constants" [] ReadsNumbers numbers := by
  unfold readConstants
  constructor
  · intro h
    split at h
    · next hf =>
      cases h
      exact .initially hf
    · next hf => exact .given hf ⟨_, rfl, constantsOf_eq_ok.mp h⟩
    · cases h
  · intro h
    cases h with
    | initially h => rw [h]
    | given h hr =>
      obtain ⟨constants, rfl, hr⟩ := hr
      rw [h]
      exact constantsOf_eq_ok.mpr hr

theorem grounded_readConstants (entries : Bindings Datum) : Grounded (readConstants entries) := by
  intro found h
  unfold readConstants at h
  split at h
  · cases h
  · exact grounded_constantsOf _ found h
  · cases h
    exact List.cons_ne_nil _ _

theorem mem_complaints_readConstants : complaint ∈ complaints (readConstants entries) ↔
    (∃ datum, entries.find? "constants".toList = some datum ∧
      (∀ constants, datum ≠ .table constants) ∧
      complaint = ⟨["constants".toList], .tableExpected⟩) ∨
    ∃ constants name datum cause, entries.find? "constants".toList = some (.table constants) ∧
      (name, datum) ∈ constants ∧ datum.toNumber = .error cause ∧
      complaint = ⟨["constants".toList, name], cause⟩ := by
  unfold readConstants
  split
  · next hf =>
    refine iff_of_false List.not_mem_nil ?_
    rintro (⟨_, h, -⟩ | ⟨_, _, _, _, h, -⟩) <;> cases hf.symm.trans h
  · next constants hf =>
    rw [mem_complaints_constantsOf]
    constructor
    · rintro ⟨name, datum, cause, h⟩
      exact .inr ⟨constants, name, datum, cause, hf, h⟩
    · rintro (⟨_, h, ht, -⟩ | ⟨_, name, datum, cause, h, hm⟩)
      · cases hf.symm.trans h
        exact absurd rfl (ht constants)
      · cases hf.symm.trans h
        exact ⟨name, datum, cause, hm⟩
  · next datum ht hf =>
    refine List.mem_singleton.trans ⟨fun h => .inl ⟨datum, hf, ht, h⟩, ?_⟩
    rintro (⟨_, -, -, h⟩ | ⟨constants, _, _, _, h, -⟩)
    · exact h
    · cases hf.symm.trans h
      exact absurd rfl (ht constants)

/-! ## All settings -/

section Table
variable (entries : Bindings Datum)

def depthOf : Except (List Complaint) Int :=
  setting "max_depth" (default.maxDepth : Int) (Datum.toIntegerWithin 1 (some depthLimit)) entries

def standardOf : Except (List Complaint) Bool :=
  setting "stdlib" default.standard Datum.toBoolean entries

theorem ofDatum_table : ofDatum (.table entries) =
    match depthOf entries, standardOf entries, readConstants entries with
    | .ok d, .ok s, .ok c => .ok ⟨d.toNat, s, c⟩
    | d, s, c => .error (complaints d ++ complaints s ++ complaints c) := rfl

theorem complaints_ofDatum_table : complaints (ofDatum (.table entries)) =
    complaints (depthOf entries) ++ complaints (standardOf entries) ++
      complaints (readConstants entries) := by
  rw [ofDatum_table]
  cases depthOf entries <;> cases standardOf entries <;> cases readConstants entries <;> rfl

theorem ofDatum_table_eq_ok {settings : Settings} : ofDatum (.table entries) = .ok settings ↔
    ∃ d, depthOf entries = .ok d ∧ settings.maxDepth = d.toNat ∧
      standardOf entries = .ok settings.standard ∧
      readConstants entries = .ok settings.constants := by
  rw [ofDatum_table]
  constructor
  · intro h
    split at h
    · next d s c hd hs hc =>
      cases h
      exact ⟨d, hd, rfl, hs, hc⟩
    · cases h
  · rintro ⟨d, hd, hm, hs, hc⟩
    obtain ⟨depth, standard, constants⟩ := settings
    dsimp only at hm hs hc
    rw [hd, hs, hc, hm]

theorem grounded_ofDatum_table : Grounded (ofDatum (.table entries)) := by
  rintro found h rfl
  have hc := complaints_ofDatum_table entries
  rw [h] at hc
  -- Where none of the three has a complaint all are read, and then the settings are not refused.
  obtain ⟨hds, hc⟩ := List.append_eq_nil_iff.mp hc.symm
  obtain ⟨hd, hs⟩ := List.append_eq_nil_iff.mp hds
  obtain ⟨d, hd⟩ := grounded_setting.exists_ok hd
  obtain ⟨s, hs⟩ := grounded_setting.exists_ok hs
  obtain ⟨c, hc⟩ := (grounded_readConstants entries).exists_ok hc
  have hok : ofDatum (.table entries) = .ok ⟨d.toNat, s, c⟩ :=
    (ofDatum_table_eq_ok entries).mpr ⟨d, hd, rfl, hs, hc⟩
  cases h.symm.trans hok

end Table

theorem ofDatum_of_ne_table (h : ∀ entries, datum ≠ .table entries) :
    ofDatum datum = .error [⟨[], .settingsExpected⟩] := by
  cases datum with
  | table entries => exact absurd rfl (h entries)
  | _ => rfl

theorem depthOf_eq_ok {d : Int} : depthOf entries = .ok d ↔
    Chosen entries "max_depth" (default.maxDepth : Int) (fun datum n => datum.toInteger = .ok n) d ∧
      1 ≤ d ∧ d ≤ depthLimit := by
  rw [depthOf, setting_eq_ok]
  constructor
  · intro h
    cases h with
    | initially h => exact ⟨.initially h, by decide, by decide⟩
    | given h hr =>
      obtain ⟨hr, hd⟩ := toIntegerWithin_eq_ok.mp hr
      exact ⟨.given h hr, hd⟩
  · rintro ⟨h, hd⟩
    cases h with
    | initially h => exact .initially h
    | given h hr => exact .given h (toIntegerWithin_eq_ok.mpr ⟨hr, hd⟩)

/-- Settings are described by a table, each as its entry says. -/
theorem ofDatum_eq_ok {settings : Settings} : ofDatum datum = .ok settings ↔
    ∃ entries, datum = .table entries ∧ Describes entries settings := by
  constructor
  · intro h
    by_cases ht : ∃ entries, datum = .table entries
    · obtain ⟨entries, rfl⟩ := ht
      obtain ⟨d, hd, hm, hs, hc⟩ := (ofDatum_table_eq_ok entries).mp h
      obtain ⟨hd, hl, hh⟩ := depthOf_eq_ok.mp hd
      have hcast : (settings.maxDepth : Int) = d := by omega
      refine ⟨entries, rfl, hcast ▸ hd, by omega, ?_, ?_⟩
      · exact setting_eq_ok.mp hs
      · exact readConstants_eq_ok.mp hc
    · rw [ofDatum_of_ne_table (not_exists.mp ht)] at h
      cases h
  · rintro ⟨entries, rfl, hd, hr, hs, hc⟩
    refine (ofDatum_table_eq_ok entries).mpr ⟨settings.maxDepth, ?_, rfl, ?_, ?_⟩
    · exact depthOf_eq_ok.mpr ⟨hd, by omega⟩
    · exact setting_eq_ok.mpr hs
    · exact readConstants_eq_ok.mpr hc

/-- The complaints are the faults of the data. -/
theorem mem_complaints_ofDatum : complaint ∈ complaints (ofDatum datum) ↔
    Faulty datum complaint := by
  by_cases ht : ∃ entries, datum = .table entries
  · obtain ⟨entries, rfl⟩ := ht
    rw [complaints_ofDatum_table, List.mem_append, List.mem_append, depthOf, standardOf,
      mem_complaints_setting, mem_complaints_setting, mem_complaints_readConstants]
    constructor
    · rintro ((⟨_, _, h, hr, rfl⟩ | ⟨_, _, h, hr, rfl⟩) |
        ⟨_, h, hr, rfl⟩ | ⟨_, _, _, _, h, hm, hr, rfl⟩)
      · exact .depth h hr
      · exact .standard h hr
      · exact .constants h hr
      · exact .constant h hm hr
    · intro h
      cases h with
      | shape h => exact absurd rfl (h entries)
      | depth h hr => exact .inl (.inl ⟨_, _, h, hr, rfl⟩)
      | standard h hr => exact .inl (.inr ⟨_, _, h, hr, rfl⟩)
      | constants h hr => exact .inr (.inl ⟨_, h, hr, rfl⟩)
      | constant h hm hr => exact .inr (.inr ⟨_, _, _, _, h, hm, hr, rfl⟩)
  · have hne := not_exists.mp ht
    rw [ofDatum_of_ne_table hne]
    refine List.mem_singleton.trans ⟨fun h => h ▸ .shape hne, ?_⟩
    intro h
    cases h with
    | shape => rfl
    | _ => exact absurd rfl (hne _)

theorem grounded_ofDatum (datum : Datum) : Grounded (ofDatum datum) := by
  by_cases h : ∃ entries, datum = .table entries
  · obtain ⟨entries, rfl⟩ := h
    exact grounded_ofDatum_table entries
  · intro found hf
    rw [ofDatum_of_ne_table (not_exists.mp h)] at hf
    cases hf
    exact List.cons_ne_nil _ _

end Reckoner.Settings
