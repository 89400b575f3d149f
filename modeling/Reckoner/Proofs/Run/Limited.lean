import Reckoner.Proofs.Run.Ample
import Reckoner.Proofs.Run.Related

/-! # Runs cut short

A limit of nesting takes no part in a run until something deeper is reached, and the stack none
until it is exhausted. There the run ends, having done no more than the run under larger limits has
done by then. A run that ends before is the same under all larger limits, whether it ends well or
not.
-/
namespace Reckoner
variable {σ η α β : Type}

namespace Run

/-- The same outcome, or a stop after the start of the same trace. -/
def Stops (stop : Stop) (cut full : Outcome Stop σ η α) : Prop :=
  cut = full ∨ cut.result = .error stop ∧ cut.events <+: full.events

theorem Stops.refl (stop : Stop) (outcome : Outcome Stop σ η α) : Stops stop outcome outcome :=
  .inl rfl

theorem events_prefix_bind (run : Run σ η α) (next : α → Run σ η β) (s : σ) :
    (run s).events <+: ((run >>= next) s).events := by
  rcases hr : run s with ⟨result, t, events⟩
  cases result with
  | error e => simp [bind_of_error hr]
  | ok a =>
    rw [bind_of_ok hr]
    exact List.prefix_append events _

theorem Stops.bind {stop : Stop} {run run' : Run σ η α} {next next' : α → Run σ η β}
    (h : ∀ s, Stops stop (run s) (run' s)) (hn : ∀ a s, Stops stop (next a s) (next' a s))
    (s : σ) : Stops stop ((run >>= next) s) ((run' >>= next') s) := by
  rcases h s with he | ⟨hs, hp⟩
  · rcases hr : run s with ⟨result, t, events⟩
    have hr' : run' s = ⟨result, t, events⟩ := he.symm.trans hr
    cases result with
    | error e =>
      rw [bind_of_error hr, bind_of_error hr']
      exact .refl stop _
    | ok a =>
      rw [bind_of_ok hr, bind_of_ok hr']
      rcases hn a t with hn | ⟨hs, hp⟩
      · rw [hn]
        exact .refl stop _
      · exact .inr ⟨hs, (List.prefix_append_right_inj events).mpr hp⟩
  · -- the first part is cut short, and what would follow it is left out
    rcases hr : run s with ⟨result, t, events⟩
    rw [hr] at hs hp
    obtain rfl : result = .error stop := hs
    rw [bind_of_error hr]
    exact .inr ⟨rfl, hp.trans (events_prefix_bind run' next' s)⟩

/-- Runs under limits of which the ones let everything through that the others do, or stop it. -/
theorem Stops.relates (calls : Calls σ η) (env : Environment η) {limits larger : Limits}
    {stop : Stop}
    (h : ∀ depth : Depth,
      (∀ (α : Type) (run : Run σ η α), within limits depth run = Run.stop stop) ∨
        ∀ (α : Type) (run : Run σ η α), within limits depth run = within larger depth run) :
    Relates calls env env limits larger
      fun _ run run' => ∀ s, Stops stop (run s) (run' s) where
  pure _ _ := .refl stop _
  stop _ _ := .refl stop _
  resolve _ _ := .refl stop _
  call _ _ _ := .refl stop _
  within depth hr s := by
    rcases h depth with hs | he
    · rw [hs]
      exact .inr ⟨rfl, List.nil_prefix⟩
    · rw [he]
      rcases within_cases larger depth with ⟨e, hw⟩ | hw
      · rw [hw, hw]
        exact .refl stop _
      · rw [hw, hw]
        exact hr s
  bind := .bind

theorem Stops.relates_nesting (calls : Calls σ η) (env : Environment η) {limit larger : Nat}
    (hle : limit ≤ larger) (stack : Nat) :
    Relates calls env env ⟨limit, stack⟩ ⟨larger, stack⟩
      fun _ run run' => ∀ s, Stops (.error (.nestingLimit limit)) (run s) (run' s) := by
  refine Stops.relates calls env fun depth => ?_
  by_cases hs : stack < depth.places
  · exact .inr fun α run => by rw [within, within, if_pos hs, if_pos hs]
  · by_cases hd : limit < depth.levels
    · exact .inl fun α run => (if_neg hs).trans (if_pos hd)
    · have hd' : ¬larger < depth.levels := fun hlt => hd (Nat.lt_of_le_of_lt hle hlt)
      exact .inr fun α run => by
        rw [within, within, if_neg hs, if_neg hs, if_neg hd, if_neg hd']

theorem Stops.relates_stack (calls : Calls σ η) (env : Environment η) (limit : Nat)
    {stack larger : Nat} (hle : stack ≤ larger) :
    Relates calls env env ⟨limit, stack⟩ ⟨limit, larger⟩
      fun _ run run' => ∀ s, Stops .stackExhausted (run s) (run' s) := by
  refine Stops.relates calls env fun depth => ?_
  by_cases hs : stack < depth.places
  · exact .inl fun α run => if_pos hs
  · have hs' : ¬larger < depth.places := fun hlt => hs (Nat.lt_of_le_of_lt hle hlt)
    exact .inr fun α run => by rw [within, within, if_neg hs, if_neg hs']

end Run

theorem Node.ground_stacks (calls : Calls σ η) (env : Environment η) (node : Node η)
    (limit stack stack' : Nat) (s : σ) :
    (node.ground calls env ⟨limit, stack⟩ s).result =
        (node.ground calls env ⟨limit, stack'⟩ s).result ∨
      (node.ground calls env ⟨limit, stack⟩ s).result = .error .stackExhausted ∨
      (node.ground calls env ⟨limit, stack'⟩ s).result = .error .stackExhausted := by
  rcases Nat.le_total stack stack' with hle | hle
  · rcases node.ground_related (Run.Stops.relates_stack calls env limit hle) s with he | ⟨hr, -⟩
    · exact .inl (congrArg Outcome.result he)
    · exact .inr (.inl hr)
  · rcases node.ground_related (Run.Stops.relates_stack calls env limit hle) s with he | ⟨hr, -⟩
    · exact .inl (congrArg Outcome.result he.symm)
    · exact .inr (.inr hr)

namespace Program
variable {calls : Calls σ η} {env : Environment η} {program : Program η} {s : σ}

/-- Under a smaller limit a run ends in the same way, or with the error of that limit. -/
theorem execute_stops (calls : Calls σ η) (env : Environment η) (program : Program η) (s : σ)
    {limit larger : Nat} (hle : limit ≤ larger) (stack : Nat) :
    program.execute calls env ⟨limit, stack⟩ s = program.execute calls env ⟨larger, stack⟩ s ∨
      (program.execute calls env ⟨limit, stack⟩ s).result = .error (.error (.nestingLimit limit)) ∧
        (program.execute calls env ⟨limit, stack⟩ s).events <+:
          (program.execute calls env ⟨larger, stack⟩ s).events := by
  rcases program.root.ground_related (Run.Stops.relates_nesting calls env hle stack) s with
    he | ⟨hr, hp⟩
  · left
    rw [execute, execute, he]
  · right
    refine ⟨?_, hp⟩
    rw [execute, hr]
    rfl

theorem height_le_of_execute {limits : Limits} {v : Value η}
    (h : (program.execute calls env limits s).result = .ok v) :
    program.root.height ≤ limits.nesting := by
  obtain ⟨w, t, hw, -⟩ := Run.exists_ok_of_bind (Run.mapError_eq_ok.mp h)
  have ha := program.root.allowed_of_evaluate hw
  rw [Depth.zero_add] at ha
  exact ha.1

/-- A limit that reaches down to the lowest node is as good as none. A smaller one never lets a run
end in a value: the run is the one without a limit if that fails in time, and otherwise ends with
the error of the limit after the start of the same trace. So a run that does not end with this error
is the same under every larger limit, whatever the functions do and however much room the
interpreter has. -/
theorem execute_limited {free : Nat} (h : program.root.height ≤ free) (calls : Calls σ η)
    (env : Environment η) (s : σ) (stack limit : Nat) :
    (program.root.height ≤ limit →
      program.execute calls env ⟨limit, stack⟩ s = program.execute calls env ⟨free, stack⟩ s) ∧
    (limit < program.root.height →
      (∀ v, (program.execute calls env ⟨limit, stack⟩ s).result ≠ .ok v) ∧
      ((program.execute calls env ⟨limit, stack⟩ s).result =
          .error (.error (.nestingLimit limit)) ∨
        (program.execute calls env ⟨limit, stack⟩ s).result =
          (program.execute calls env ⟨free, stack⟩ s).result) ∧
      (program.execute calls env ⟨limit, stack⟩ s).events <+:
        (program.execute calls env ⟨free, stack⟩ s).events) ∧
    ((program.execute calls env ⟨limit, stack⟩ s).result ≠
        .error (.error (.nestingLimit limit)) →
      ∀ larger, limit ≤ larger →
        program.execute calls env ⟨larger, stack⟩ s =
          program.execute calls env ⟨limit, stack⟩ s) := by
  refine ⟨fun hl => ?_, fun hl => ⟨fun v hv => ?_, ?_⟩, fun hn larger hle => ?_⟩
  · have hg : program.root.ground calls env ⟨limit, stack⟩ =
        program.root.ground calls env ⟨free, stack⟩ := Node.ground_allowed rfl hl h
    rw [execute, execute, hg]
  · exact Nat.not_le.mpr hl (height_le_of_execute hv)
  · have hle : limit ≤ free := Nat.le_trans (Nat.le_of_lt hl) h
    rcases execute_stops calls env program s hle stack with he | ⟨hr, hp⟩
    · rw [he]
      exact ⟨.inr rfl, List.prefix_rfl⟩
    · exact ⟨.inl hr, hp⟩
  · rcases execute_stops calls env program s hle stack with he | ⟨hr, -⟩
    · exact he.symm
    · exact absurd hr hn

/-- The left operand is called under either limit, and the smaller one hides that the right operand
is unbound. -/
theorem execute_limited_call :
    let program : Program Unit := ⟨"f()+--x".toList,
      .binary .plus (.call (.value (.reference ['f']) none) [] none)
        (.negate (.negate (.value (.reference ['x']) none) none) none) none⟩
    let calls : Calls Nat Unit := fun _ _ s => (.value (.number 1), s + 1)
    let env : Environment Unit := [(['f'], .function ⟨['f'], .foreign ()⟩)]
    program.root.height ≤ 256 ∧ 2 < program.root.height ∧
    (program.execute calls env ⟨2, 1000⟩ 0).result = .error (.error (.nestingLimit 2)) ∧
    (program.execute calls env ⟨256, 1000⟩ 0).result =
      .error (.error (.unknownVariable ['x'])) ∧
    (program.execute calls env ⟨2, 1000⟩ 0).events <+:
      (program.execute calls env ⟨256, 1000⟩ 0).events ∧
    program.execute calls env ⟨3, 1000⟩ 0 = program.execute calls env ⟨256, 1000⟩ 0 := by
  intro program calls env
  have h : program.root.height ≤ 256 := by decide
  have hl : 2 < program.root.height := by decide
  have hcut := (execute_limited h calls env 0 1000 2).2.1 hl
  exact ⟨h, hl, rfl, rfl, hcut.2.2, (execute_limited h calls env 0 1000 3).1 (by decide)⟩

end Program

end Reckoner
