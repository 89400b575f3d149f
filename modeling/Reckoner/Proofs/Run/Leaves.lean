import Reckoner.Proofs.Arithmetic.Evaluation
import Reckoner.Proofs.Environment.Chains
import Reckoner.Proofs.Node.Reread

/-! # The leftmost bad leaf

A tree of operators needs a number from each of its leaves. It takes them from left to right, and
each of them is resolved and checked before the next one is touched. So the first leaf that gives no
number decides the error, whatever is wrong with the others: its chain breaks off, or goes round, or
ends in something else. Only a stack that is too small for the tree can come in between.
-/
namespace Reckoner
variable {σ η α β : Type}

/-- A value in a tree, with the label of the operator right above it. -/
structure Leaf (η : Type) where
  operator : Text
  value : Value η

namespace Leaf

section Faults
variable (env : Environment η) (leaf : Leaf η)

def Gives (x : Float) : Prop := ∃ names, env.Chain leaf.value names (.number x)

/-- The value that the chain of a leaf ends in has no text. -/
def Unwritten : Prop := ∃ names w, env.Chain leaf.value names w ∧ w.written? = none

/-- The error of a leaf that gives no number. -/
inductive Fails : ExecutionError → Prop
  | unbound {names : List Text} {name : Text}
      (h : env.Chain leaf.value names (.reference name)) (hf : env.find? name = none) :
      Fails (.unknownVariable name)
  | circular {before : List Text} {name : Text}
      (h : env.Chain leaf.value before (.reference name)) (hc : env.Circular name)
      (hn : ∀ m ∈ before, ¬env.Circular m) : Fails (.cyclicReference name)
  | mismatch {names : List Text} {w : Value η} {shown : Text} (h : env.Chain leaf.value names w)
      (hg : w.isReference = false) (hw : w.number? = none) (ht : w.written? = some shown) :
      Fails (.numbersRequired leaf.operator shown)

def fault? : Option Stop :=
  match (env.resolve leaf.value).result with
  | .error e => some (.error e)
  | .ok (.number _) => none
  | .ok w => some (.showing (.numbersRequired leaf.operator) w)

end Faults

variable {env : Environment η} {leaf : Leaf η}

theorem fault?_eq_none_iff : leaf.fault? env = none ↔ ∃ x, leaf.Gives env x := by
  have hends := env.resolve_ends leaf.value
  unfold fault?
  constructor
  · intro h
    split at h
    · cases h
    · next x hr => exact ⟨x, (hends.eq_ok_iff.mp hr).2⟩
    · cases h
  · rintro ⟨x, hx⟩
    rw [hends.eq_ok_iff.mpr ⟨rfl, hx⟩]

theorem Fails.fault?_eq {e : ExecutionError} (h : leaf.Fails env e) :
    leaf.fault? env = some (.error e) := by
  have hends := env.resolve_ends leaf.value
  unfold fault?
  cases h with
  | @unbound names _ h hf => rw [hends.eq_unknown_iff.mpr ⟨hf, names, h⟩]
  | @circular before _ h hc hfirst =>
    rw [(hends.eq_cyclic_iff (env.resolve_nodup leaf.value)).mpr ⟨before, h, hc, hfirst⟩]
  | @mismatch names w shown h hg hw ht =>
    have hs : Stop.showing (.numbersRequired leaf.operator) w =
        .error (.numbersRequired leaf.operator shown) := by rw [Stop.showing, ht]
    rw [hends.eq_ok_iff.mpr ⟨hg, names, h⟩]
    cases w with
    | number x => cases hw
    | _ => exact congrArg some hs

/-- A leaf gives a number or fails, unless what its chain ends in has no text. -/
theorem settled : (∃ x, leaf.Gives env x) ∨ (∃ e, leaf.Fails env e) ∨ leaf.Unwritten env := by
  have hends := env.resolve_ends leaf.value
  have hn := env.resolve_nodup leaf.value
  generalize (env.resolve leaf.value).looked = looked at hends hn
  generalize (env.resolve leaf.value).result = result at hends
  cases hends with
  | @grounded _ w hc hg =>
    cases hw : w.number? with
    | some x =>
      cases w <;> cases hw
      exact .inl ⟨x, _, hc⟩
    | none =>
      cases ht : w.written? with
      | some shown => exact .inr (.inl ⟨_, .mismatch hc hg hw ht⟩)
      | none => exact .inr (.inr ⟨_, w, hc, ht⟩)
  | unbound hc hf => exact .inr (.inl ⟨_, .unbound hc hf⟩)
  | again hc hround =>
    exact .inr (.inl ⟨_, .circular hc ⟨_, hround⟩ fun m hm => hround.not_circular hc hn hm⟩)

end Leaf

namespace Run

/-- The run leaves the state alone. It fails as told or not at all, unless it exhausts the stack,
which it does only if `short` holds. -/
def Decided (short : Prop) (fault : Option Stop) (run : Run σ η α) : Prop :=
  ∀ s, (run s).state = s ∧ (short ∧ (run s).result = .error .stackExhausted ∨
    match fault with
    | none => ∃ a, (run s).result = .ok a
    | some e => (run s).result = .error e)

section Decided
variable {short : Prop} {fault more : Option Stop}

theorem Decided.pure (a : α) : Decided short none (Pure.pure a : Run σ η α) :=
  fun _ => ⟨rfl, .inr ⟨a, rfl⟩⟩

theorem Decided.exhausted (h : short) (fault : Option Stop) :
    Decided short fault (Run.stop .stackExhausted : Run σ η α) :=
  fun _ => ⟨rfl, .inl ⟨h, rfl⟩⟩

theorem Decided.bind {run : Run σ η α} {next : α → Run σ η β}
    (h : Decided short fault run) (hn : ∀ a, Decided short more (next a)) :
    Decided short (fault.or more) (run >>= next) := by
  intro s
  obtain ⟨hs, hf⟩ := h s
  rcases hr : run s with ⟨result, t, events⟩
  rw [hr] at hs hf
  cases hs
  rcases hf with ⟨hshort, hf⟩ | hf
  · obtain rfl : result = .error .stackExhausted := hf
    rw [bind_of_error hr]
    exact ⟨rfl, .inl ⟨hshort, rfl⟩⟩
  · cases fault with
    | none =>
      obtain ⟨a, rfl⟩ := hf
      rw [bind_of_ok hr]
      exact hn a t
    | some e =>
      obtain rfl : result = .error e := hf
      rw [bind_of_error hr]
      exact ⟨rfl, .inr rfl⟩

theorem Decided.within {limits : Limits} {depth : Depth} {run : Run σ η α}
    (hd : depth.levels ≤ limits.nesting) (hs : limits.stack < depth.places → short)
    (h : Decided short fault run) : Decided short fault (Run.within limits depth run) := by
  unfold Run.within
  rw [if_neg (Nat.not_lt.mpr hd)]
  split
  · next hlt => exact .exhausted (hs hlt) fault
  · exact h

end Decided

section Number
variable {env : Environment η} {limits : Limits} {depth : Depth} {label : Text}

theorem number_within (run : Run σ η (Value η)) :
    number env label (within limits depth run) = within limits depth (number env label run) :=
  within_bind run _

theorem number_bind (run : Run σ η α) (next : α → Run σ η (Value η)) :
    number env label (run >>= next) = run >>= fun a => number env label (next a) := by
  simp only [number, bind_assoc]

theorem number_pure (x : Float) :
    (number env label (Pure.pure (.number x)) : Run σ η Float) = Pure.pure x := by
  simp only [number, pure_bind, resolve_number]

theorem decided_leaf {short : Prop} (leaf : Leaf η) : Decided short (leaf.fault? env)
    (number env leaf.operator (Pure.pure leaf.value) : Run σ η Float) := by
  intro s
  unfold Leaf.fault?
  rw [number, pure_bind]
  cases hr : (env.resolve leaf.value).result with
  | error e =>
    have hs : resolve env leaf.value s =
        ⟨.error (.error e), s, (env.resolve leaf.value).looked.map .looked⟩ := by
      simp only [resolve, hr, Except.mapError]
    rw [bind_of_error hs]
    exact ⟨rfl, .inr rfl⟩
  | ok w =>
    have hs : resolve env leaf.value s =
        ⟨.ok w, s, (env.resolve leaf.value).looked.map .looked⟩ := by
      simp only [resolve, hr, Except.mapError]
    rw [bind_of_ok hs]
    cases w with
    | number x => exact ⟨rfl, .inr ⟨x, rfl⟩⟩
    | _ => exact ⟨rfl, .inr rfl⟩

end Number

end Run

namespace Node
open Run (Decided number_within number_bind number_pure)

def CallFree : Node η → Prop
  | .value .. => True
  | .binary _ left right _ => left.CallFree ∧ right.CallFree
  | .negate operand _ => operand.CallFree
  | .call .. => False

/-- The leaves from left to right of a node that stands under an operator. -/
def leavesUnder (operator : Text) : Node η → List (Leaf η)
  | .value v _ => [⟨operator, v⟩]
  | .binary op left right _ =>
    left.leavesUnder (operatorLabel op) ++ right.leavesUnder (operatorLabel op)
  | .negate operand _ => operand.leavesUnder negateLabel
  | .call .. => []

section Fault
variable {calls : Calls σ η} {env : Environment η} {limits : Limits}

def fault? (env : Environment η) (operator : Text) (node : Node η) : Option Stop :=
  (node.leavesUnder operator).findSome? (Leaf.fault? env)

theorem fault?_eq_none_iff {node : Node η} {operator : Text} :
    node.fault? env operator = none ↔
      ∀ leaf ∈ node.leavesUnder operator, ∃ x, leaf.Gives env x := by
  simp only [fault?, List.findSome?_eq_none_iff, Leaf.fault?_eq_none_iff]

theorem fault?_of_fails {node : Node η} {operator : Text} {e : ExecutionError}
    {before after : List (Leaf η)} {leaf : Leaf η}
    (h : node.leavesUnder operator = before ++ leaf :: after)
    (hb : ∀ other ∈ before, ∃ x, other.Gives env x) (he : leaf.Fails env e) :
    node.fault? env operator = some (.error e) :=
  List.findSome?_eq_some_iff.mpr ⟨before, leaf, after, h, he.fault?_eq,
    fun other ho => Leaf.fault?_eq_none_iff.mpr (hb other ho)⟩

/-- The first bad leaf decides what becomes of a node that has to give a number, if the stack has
two places for every level of it. -/
theorem decided_number (calls : Calls σ η) (env : Environment η) {short : Prop} {node : Node η}
    (hc : node.CallFree) (operator : Text) (depth : Depth)
    (hd : depth.levels + node.height ≤ limits.nesting)
    (hs : limits.stack < depth.places + 2 * node.height → short) :
    Decided short (node.fault? env operator)
      (Run.number env operator (evaluate calls env limits depth node)) := by
  induction node generalizing operator depth with
  | value v span =>
    have hf : (value v span).fault? env operator = Leaf.fault? env ⟨operator, v⟩ :=
      List.findSome?_singleton
    rw [evaluate, number_within]
    apply Decided.within (by omega) fun h => hs (by omega)
    rw [hf]
    exact Run.decided_leaf ⟨operator, v⟩
  | binary op left right span ihl ihr =>
    have hf : (binary op left right span).fault? env operator =
        (left.fault? env (operatorLabel op)).or
          ((right.fault? env (operatorLabel op)).or none) := by
      rw [Option.or_none]
      exact List.findSome?_append
    rw [height] at hd hs
    have hl := ihl hc.1 (operatorLabel op) (depth.below 2) (by rw [Depth.levels_below]; omega)
      fun h => hs (by rw [Depth.places_below] at h; omega)
    have hr := ihr hc.2 (operatorLabel op) (depth.below 2) (by rw [Depth.levels_below]; omega)
      fun h => hs (by rw [Depth.places_below] at h; omega)
    rw [evaluate, number_within]
    apply Decided.within (by omega) fun h => hs (by omega)
    rw [hf, number_bind]
    apply hl.bind
    intro x
    rw [number_bind]
    apply hr.bind
    intro y
    rw [number_pure]
    exact .pure _
  | negate operand span ih =>
    have hf : (negate operand span).fault? env operator =
        (operand.fault? env negateLabel).or none := (Option.or_none).symm
    rw [height] at hd hs
    have ho := ih hc negateLabel (depth.below 2) (by rw [Depth.levels_below]; omega)
      fun h => hs (by rw [Depth.places_below] at h; omega)
    rw [evaluate, number_within]
    apply Decided.within (by omega) fun h => hs (by omega)
    rw [hf, number_bind]
    apply ho.bind
    intro x
    rw [number_pure]
    exact .pure _
  | call callee arguments span => exact hc.elim

theorem evaluate_operator {node : Node η} (hc : node.CallFree)
    (ho : ∀ v span, node ≠ .value v span) (operator : Text) (depth : Depth) :
    evaluate calls env limits depth node =
      Run.number env operator (evaluate calls env limits depth node) >>= fun x =>
        pure (.number x) := by
  cases node with
  | value v span => exact absurd rfl (ho v span)
  | binary op left right span =>
    simp only [evaluate, number_within, number_bind, number_pure, Run.within_bind, bind_assoc,
      pure_bind]
  | negate operand span =>
    simp only [evaluate, number_within, number_bind, number_pure, Run.within_bind, bind_assoc,
      pure_bind]
  | call => exact hc.elim

theorem ground_operator {root : Node η} (hc : root.CallFree)
    (ho : ∀ v span, root ≠ .value v span) (operator : Text) :
    root.ground calls env limits =
      Run.number env operator (evaluate calls env limits 0 root) >>= fun x =>
        pure (.number x) := by
  calc
    root.ground calls env limits =
        evaluate calls env limits 0 root >>= Run.resolve env := rfl
    _ = (Run.number env operator (evaluate calls env limits 0 root) >>= fun x =>
          pure (.number x)) >>= Run.resolve env := by rw [← evaluate_operator hc ho operator]
    _ = _ := by simp only [bind_assoc, pure_bind, Run.resolve_number]

end Fault

end Node

/-- What becomes of leaves from left to right that all have to give a number. If one does not, the
result is a failure, and the error is the one due to the first of these. -/
structure Leaf.Decide (env : Environment η) (leaves : List (Leaf η))
    (result : Except Failure (Value η)) : Prop where
  number : (∃ x, result = .ok (.number x)) ↔ ∀ leaf ∈ leaves, ∃ x, leaf.Gives env x
  failure : (∃ leaf ∈ leaves, ¬∃ x, leaf.Gives env x) → ∃ failure, result = .error failure
  error : ∀ before leaf after, leaves = before ++ leaf :: after →
    (∀ other ∈ before, ∃ x, other.Gives env x) → ∀ e, leaf.Fails env e →
      result = .error (.error e)
  settled : ∀ leaf ∈ leaves,
    (∃ x, leaf.Gives env x) ∨ (∃ e, leaf.Fails env e) ∨ leaf.Unwritten env

namespace Program
variable {limits : Limits} {program : Program η}

theorem execute_decided (hc : program.root.CallFree) (ho : ∀ v span, program.root ≠ .value v span)
    (hd : program.root.height ≤ limits.nesting) (calls : Calls σ η) (env : Environment η) (s : σ) :
    (program.execute calls env limits s).state = s ∧
    (limits.stack < 2 * program.root.height ∧
        (program.execute calls env limits s).result = .error (.error .stackExhausted) ∨
      match program.root.fault? env [] with
      | none => ∃ x, (program.execute calls env limits s).result = .ok (.number x)
      | some stop => (program.execute calls env limits s).result = .error stop.toFailure) := by
  have hdecided : Run.Decided (limits.stack < 2 * program.root.height)
      (program.root.fault? env []) (Run.number env [] (program.root.evaluate calls env limits 0)) :=
    Node.decided_number calls env hc [] 0 (by rwa [Depth.levels_zero, Nat.zero_add])
      (by rw [Depth.places_zero, Nat.zero_add]; exact id)
  obtain ⟨hs, hf⟩ := hdecided s
  rw [execute, Node.ground_operator hc ho []]
  rcases hr : Run.number env [] (program.root.evaluate calls env limits 0) s with
    ⟨result, t, events⟩
  rw [hr] at hs hf
  cases hs
  rcases hf with ⟨hshort, hf⟩ | hf
  · obtain rfl : result = .error .stackExhausted := hf
    rw [Run.bind_of_error hr]
    exact ⟨rfl, .inl ⟨hshort, rfl⟩⟩
  · cases hq : program.root.fault? env [] with
    | none =>
      rw [hq] at hf
      obtain ⟨x, rfl⟩ := hf
      rw [Run.bind_of_ok hr]
      exact ⟨rfl, .inr ⟨x, rfl⟩⟩
    | some stop =>
      rw [hq] at hf
      obtain rfl : result = .error stop := hf
      rw [Run.bind_of_error hr]
      exact ⟨rfl, .inr rfl⟩

/-- A tree of operators gives a number exactly if each of its leaves does. Otherwise it fails, with
the error of the first leaf from the left that does not. The state stays as it is either way. All
this can be cut short by a stack with less than two places for every level of the tree. -/
theorem execute_leftmost (hc : program.root.CallFree) (ho : ∀ v span, program.root ≠ .value v span)
    (hd : program.root.height ≤ limits.nesting) (calls : Calls σ η) (env : Environment η) (s : σ) :
    (limits.stack < 2 * program.root.height ∧
        (program.execute calls env limits s).result = .error (.error .stackExhausted) ∨
      Leaf.Decide env (program.root.leavesUnder []) (program.execute calls env limits s).result) ∧
    (program.execute calls env limits s).state = s := by
  obtain ⟨hs, hf⟩ := execute_decided hc ho hd calls env s
  refine ⟨hf.imp_right fun hf => ?_, hs⟩
  generalize (program.execute calls env limits s).result = result at hf
  have herror {before leaf after} {e : ExecutionError}
      (hl : program.root.leavesUnder [] = before ++ leaf :: after)
      (hb : ∀ other ∈ before, ∃ x, other.Gives env x) (he : leaf.Fails env e) :
      result = .error (.error e) := by
    rw [Node.fault?_of_fails hl hb he] at hf
    exact hf
  have hsettled := fun leaf (_ : leaf ∈ program.root.leavesUnder []) => @Leaf.settled _ env leaf
  cases hq : program.root.fault? env [] with
  | none =>
    rw [hq] at hf
    obtain ⟨x, rfl⟩ := hf
    have hall := Node.fault?_eq_none_iff.mp hq
    exact ⟨⟨fun _ => hall, fun _ => ⟨x, rfl⟩⟩, fun ⟨leaf, hm, hn⟩ => absurd (hall leaf hm) hn,
      fun _ _ _ hl hb _ he => herror hl hb he, hsettled⟩
  | some stop =>
    rw [hq] at hf
    obtain rfl : result = .error stop.toFailure := hf
    refine ⟨⟨nofun, fun h => ?_⟩, fun _ => ⟨_, rfl⟩,
      fun _ _ _ hl hb _ he => herror hl hb he, hsettled⟩
    cases hq.symm.trans (Node.fault?_eq_none_iff.mpr h)

/-- The text is found before the unbound name, and the operator right above it is the product. -/
theorem execute_leftmost_text :
    let program : Program Unit := ⟨"-x+s*y".toList,
      .binary .plus (.negate (.value (.reference ['x']) none) none)
        (.binary .times (.value (.reference ['s']) none) (.value (.reference ['y']) none) none)
        none⟩
    let env : Environment Unit :=
      [(['x'], .reference ['z']), (['z'], .number 1), (['s'], .text ['t'])]
    program.root.CallFree ∧ (∀ v span, program.root ≠ .value v span) ∧
    program.root.height ≤ 256 ∧ ∀ calls : Calls Nat Unit,
      (program.execute calls env (.ofNesting 256) 0).result =
        .error (.error (.numbersRequired "operator *".toList "\"t\"".toList)) := by
  intro program env
  have hc : program.root.CallFree := ⟨trivial, trivial, trivial⟩
  have ho : ∀ v span, program.root ≠ .value v span := nofun
  have hd : program.root.height ≤ 256 := by decide
  refine ⟨hc, ho, hd, fun calls => ?_⟩
  have hl := execute_leftmost hc ho (show _ ≤ (Limits.ofNesting 256).nesting from hd) calls env 0
  have hdecide := hl.1.resolve_left fun h => absurd h.1 (by decide)
  refine hdecide.error [⟨Node.negateLabel, .reference ['x']⟩]
    ⟨Node.operatorLabel .times, .reference ['s']⟩ _ rfl ?_ _ ?_
  · rw [List.forall_mem_singleton]
    exact ⟨1, _, .step rfl (.step rfl (.here _))⟩
  · exact .mismatch (w := .text ['t']) (.step rfl (.here _)) rfl rfl rfl

end Program

/-! ## Many signs -/

namespace Node

theorem height_signed (count : Nat) (node : Node η) :
    (signed count node).height = node.height + count := by
  induction count with
  | zero => rfl
  | succ count ih =>
    rw [signed, height, ih]
    rfl

theorem callFree_signed (count : Nat) {node : Node η} (h : node.CallFree) :
    (signed count node).CallFree := by
  induction count with
  | zero => exact h
  | succ count ih => exact ih

theorem leavesUnder_signed (count : Nat) (node : Node η) (operator : Text) :
    (signed (count + 1) node).leavesUnder operator = node.leavesUnder negateLabel := by
  induction count generalizing operator with
  | zero => rfl
  | succ count ih => rw [signed, leavesUnder, ih]

theorem exists_number_signed (count : Nat) {node : Node η} {x : Float}
    (h : node.number? = some x) : ∃ y, (signed count node).number? = some y := by
  induction count with
  | zero => exact ⟨x, h⟩
  | succ count ih =>
    obtain ⟨y, hy⟩ := ih
    exact ⟨-y, by rw [signed, number?, hy, Option.map_some]⟩

end Node

/-- A number under so many signs that the limit allows for the tree and the stack does not. -/
theorem Program.exhausted_signs {count : Nat} {limits : Limits} (hn : count + 1 ≤ limits.nesting)
    (hs : limits.stack < 2 * (count + 1)) (x : Float) : ∃ program : Program η,
      program.root.CallFree ∧ (∀ v span, program.root ≠ .value v span) ∧
      program.root.height ≤ limits.nesting ∧
      (∀ leaf ∈ program.root.leavesUnder [], leaf.value = .number x) ∧
      ∀ (σ : Type) (calls : Calls σ η) (env : Environment η) (s : σ),
        (program.execute calls env limits s).result = .error (.error .stackExhausted) := by
  let program : Program η := ⟨[], .signed (count + 1) (.value (.number x) none)⟩
  have hh : program.root.height = count + 1 := by
    rw [Node.height_signed, Node.height, Nat.zero_add]
  have hl : program.root.leavesUnder [] = [⟨Node.negateLabel, .number x⟩] :=
    Node.leavesUnder_signed count _ []
  obtain ⟨y, hy⟩ : ∃ y, program.root.number? = some y := Node.exists_number_signed _ rfl
  refine ⟨program, Node.callFree_signed _ trivial, fun v span hv => ?_, hh ▸ hn, ?_,
    fun σ calls env s => ?_⟩
  · cases hv
  · rw [hl, List.forall_mem_singleton]
  · rw [execute_number hy (hh ▸ hn), if_neg (by rw [hh]; omega)]

/-- The only leaf is a number and the tree is not too high for the limit, but for the stack. -/
theorem Program.negations_exhaust : ∃ program : Program Unit,
    program.root.CallFree ∧ (∀ v span, program.root ≠ .value v span) ∧
    program.root.height ≤ (Limits.ofNesting 10000).nesting ∧
    (∀ leaf ∈ program.root.leavesUnder [], leaf.value = .number 1) ∧
    ∀ (σ : Type) (calls : Calls σ Unit) (env : Environment Unit) (s : σ),
      (program.execute calls env (.ofNesting 10000) s).result =
        .error (.error .stackExhausted) := by
  apply exhausted_signs (show 2999 + 1 ≤ (Limits.ofNesting 10000).nesting by decide)
  decide

end Reckoner
