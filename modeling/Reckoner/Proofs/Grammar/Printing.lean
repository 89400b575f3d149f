import Reckoner.Node.Printer
import Reckoner.Proofs.Grammar.Derivation
import Reckoner.Proofs.Node.Reread
import Reckoner.Proofs.Token.Margins

/-! # Printed trees are read again

A printed tree is an expression of the grammar, wherever it is followed by something that can be
part of no number and no name. Its first minus signs come before an expression that is an operand of
nothing but calls: a number, a name, an operator in parentheses, or a call of such an expression.
-/
namespace Reckoner

namespace Derivation
variable {η : Type}

def underSigns : (signs : List Token) → (∀ t ∈ signs, t.kind = .minus) →
    Derivation (.expression .applied) → Derivation (.expression .unary)
  | [], _, e => .applied e
  | t :: more, h, e => .negate t (underSigns more (List.forall_mem_cons.mp h).2 e)
      (List.forall_mem_cons.mp h).1

section UnderSigns
variable {signs : List Token} (h : ∀ t ∈ signs, t.kind = .minus)
  (e : Derivation (.expression .applied))

theorem underSigns_yield : (underSigns signs h e).yield = signs ++ e.yield := by
  induction signs with
  | nil => rfl
  | cons t more ih => rw [underSigns, yield, ih, List.cons_append]

theorem underSigns_extent :
    (underSigns signs h e).extent = e.extent + ⟨signs.length, signs.length⟩ := by
  induction signs with
  | nil => exact Depth.add_zero.symm
  | cons t more ih =>
    rw [underSigns, extent, ih, List.length_cons]
    rfl

theorem underSigns_tree : ((underSigns signs h e).tree : Node η).bare =
    Node.signed signs.length (e.tree : Node η).bare := by
  induction signs with
  | nil => rfl
  | cons t more ih =>
    rw [underSigns, tree, Node.bare, ih]
    rfl

end UnderSigns

theorem exists_operation {op : Operator} (l r : Derivation (.expression .unary)) {sign : Token}
    (hs : sign.kind = op.mark) : ∃ d : Sentence, d.yield = l.yield ++ sign :: r.yield ∧
      d.extent = max (l.extent.below 1) (r.extent.below 1) ∧
      (d.tree : Node η) = .binary op l.tree r.tree (some d.span) := by
  cases op with
  | plus => exact ⟨.add .plus (.product (.unary l)) sign (.unary r) (.inl rfl) hs, rfl, rfl, rfl⟩
  | minus => exact ⟨.add .minus (.product (.unary l)) sign (.unary r) (.inr rfl) hs, rfl, rfl, rfl⟩
  | times =>
    exact ⟨.product (.multiply .times (.unary l) sign r (.inl rfl) hs), rfl, rfl, rfl⟩
  | divide =>
    exact ⟨.product (.multiply .divide (.unary l) sign r (.inr rfl) hs), rfl, rfl, rfl⟩

end Derivation

/-- A value that is printed as a name or as a number that is read as it. -/
def Value.Legible {η : Type} : Value η → Prop
  | .reference name => Text.isName name = true
  | .number x => (x.isInf = true ∧ Written.number x = "inf".toList) ∨
      (x.isInf = false ∧ Token.Numeral (Written.number x) ∧
        Decimal.readLoose? (Written.number x) = some x)
  | _ => False

namespace Node
open Token (Reads Ends ends_cons reads_token reads_mark)
variable {η : Type}

/-- Wherever the tree is printed before something else, it is read as described. -/
def Printed (node : Node η) : Prop := ∀ offset rest, Ends rest →
  ∃ (signs : List Token) (e : Derivation (.expression .applied)) (last : Nat),
    Reads offset (node.written ++ rest) (signs ++ e.yield) last rest ∧
    (∀ t ∈ signs, t.kind = .minus) ∧ signs.length = node.signs ∧
    (e.tree : Node η).bare = node.core ∧ e.extent = node.coreExtent

theorem Printed.unary {node : Node η} (h : node.Printed) (offset : Nat) {rest : Text}
    (hr : Ends rest) : ∃ (d : Derivation (.expression .unary)) (last : Nat),
      Reads offset (node.written ++ rest) d.yield last rest ∧
      (d.tree : Node η).bare = node.reread ∧ d.extent = node.printedExtent := by
  obtain ⟨signs, e, last, hreads, hs, hl, ht, hn⟩ := h offset rest hr
  refine ⟨.underSigns signs hs e, last, ?_, ?_, ?_⟩
  · rw [Derivation.underSigns_yield]
    exact hreads
  · rw [Derivation.underSigns_tree, hl, ht, reread]
  · rw [Derivation.underSigns_extent, hl, hn, printedExtent]

theorem printed_value {v : Value η} (h : v.Legible) (span : Option Span) :
    (value v span).Printed := by
  intro offset rest hr
  cases v with
  | number x =>
    rcases h with ⟨hx, hw⟩ | ⟨hx, hw, hread⟩
    · have hname : Token.Spells .name "inf".toList := (rfl : Text.isName "inf".toList = true)
      have hreads := reads_token hname hr offset
      rw [← hw] at hreads
      refine ⟨[], .atom (.name ⟨.name, Written.number x, offset⟩ rfl), _, hreads, nofun, rfl, ?_,
        rfl⟩
      rw [Derivation.tree, Derivation.tree, hw, core, hx]
      rfl
    · have hnumber : Token.Spells .number (Written.number x) := hw
      have hreads := reads_token hnumber hr offset
      have hn : Derivation.numberOf ⟨.number, Written.number x, offset⟩ = x := by
        rw [Derivation.numberOf, hread, Option.getD_some]
      refine ⟨[], .atom (.number ⟨.number, Written.number x, offset⟩ rfl), _, hreads, nofun, rfl,
        ?_,
        rfl⟩
      rw [Derivation.tree, Derivation.tree, hn, core, hx]
      rfl
  | reference name =>
    have hname : Token.Spells .name name := h
    have hreads := reads_token hname hr offset
    exact ⟨[], .atom (.name ⟨.name, name, offset⟩ rfl), _, hreads, nofun, rfl, rfl, rfl⟩
  | _ => exact h.elim

theorem printed_negate {operand : Node η} (h : operand.Printed) (span : Option Span) :
    (negate operand span).Printed := by
  intro offset rest hr
  obtain ⟨signs, e, last, hreads, hs, hl, ht, hn⟩ := h (offset + 1) rest hr
  refine ⟨⟨.minus, ['-'], offset⟩ :: signs, e, last, ?_, ?_, ?_, ht, hn⟩
  · exact (reads_mark rfl (operand.written ++ rest) offset).append hreads
  · exact List.forall_mem_cons.mpr ⟨rfl, hs⟩
  · rw [List.length_cons, hl, Node.signs]

theorem mark_symbol (op : Operator) : Token.mark? op.symbol = some op.mark := by
  cases op <;> rfl

theorem reads_spaced (op : Operator) (rest : Text) (offset : Nat) :
    Reads offset (' ' :: op.symbol :: ' ' :: rest) [⟨op.mark, [op.symbol], offset + 1⟩]
      (offset + 3) rest := by
  have hspace (offset : Nat) (text : Text) : Reads offset (' ' :: text) [] (offset + 1) text :=
    .layout rfl (.stop _ _)
  have hmark := reads_mark (mark_symbol op) (' ' :: rest) (offset + 1)
  exact (hspace offset _).append (hmark.append (hspace (offset + 1 + 1) rest))

theorem printed_binary (op : Operator) {left right : Node η} (hl : left.Printed)
    (hr : right.Printed) (span : Option Span) : (binary op left right span).Printed := by
  intro offset rest _
  have hspace : Ends (' ' :: op.symbol :: ' ' :: (right.written ++ ')' :: rest)) :=
    ends_cons (by decide) _
  have hclose : Ends (')' :: rest) := ends_cons (by decide) _
  obtain ⟨l, middle, hleft, htl, hnl⟩ := hl.unary (offset + 1) hspace
  obtain ⟨r, last, hright, htr, hnr⟩ := hr.unary (middle + 3) hclose
  have hopen := @reads_mark '(' .openParen rfl
    (left.written ++ ' ' :: op.symbol :: ' ' :: (right.written ++ ')' :: rest)) offset
  have hend := @reads_mark ')' .closeParen rfl rest last
  have hall := hopen.append (hleft.append ((reads_spaced op _ middle).append (hright.append hend)))
  have hs : (⟨op.mark, [op.symbol], middle + 1⟩ : Token).kind = op.mark := rfl
  obtain ⟨d, hy, hn, ht⟩ := Derivation.exists_operation (η := η) l r hs
  refine ⟨[], .atom (.parens ⟨.openParen, ['('], offset⟩ d ⟨.closeParen, [')'], last⟩ rfl rfl),
    last + 1, ?_, nofun, rfl, ?_, ?_⟩
  · simpa [written, Derivation.yield, hy] using hall
  · rw [Derivation.tree, Derivation.tree, ht, withSpan, bare, htl, htr]
    rfl
  · rw [Derivation.extent, Derivation.extent, hn, hnl, hnr, ← Depth.max_below]
    rfl

/-! ## Calls -/

def printedRest (arguments : List (Node η)) : Text :=
  arguments.flatMap fun a => ',' :: ' ' :: a.written

theorem joined_written (first : Node η) (more : List (Node η)) :
    Text.joined ", ".toList (writtenAll (first :: more)) = first.written ++ printedRest more := by
  induction more generalizing first with
  | nil => simp [Text.joined, writtenAll, printedRest]
  | cons second more ih =>
    have h := ih second
    simp only [Text.joined, writtenAll, printedRest, List.flatMap_cons] at h ⊢
    rw [List.intercalate_cons_cons, h]
    simp

theorem printed_rest (arguments : List (Node η)) (h : ∀ a ∈ arguments, a.Printed)
    (before : Derivation .arguments) (offset : Nat) (rest : Text) :
    ∃ (d : Derivation .arguments) (tokens : List Token) (last : Nat),
      d.yield = before.yield ++ tokens ∧
      Reads offset (printedRest arguments ++ ')' :: rest) tokens last (')' :: rest) ∧
      bareAll (d.tree : List (Node η)) = bareAll before.tree ++ rereadAll arguments ∧
      d.extent.listed = max before.extent.listed (argumentsExtent arguments) := by
  -- the list is derived from the left, so each argument goes into `before` for the next ones
  induction arguments generalizing before offset with
  | nil =>
    refine ⟨before, [], offset, ?_, .stop _ _, ?_, ?_⟩
    · rw [List.append_nil]
    · rw [rereadAll, List.append_nil]
    · rw [argumentsExtent, Depth.max_zero]
  | cons a more ih =>
    obtain ⟨ha, hmore⟩ := List.forall_mem_cons.mp h
    have hends : Ends (printedRest more ++ ')' :: rest) := by
      cases more with
      | nil => exact ends_cons (by decide) _
      | cons b more => exact ends_cons (by decide) _
    obtain ⟨u, middle, hreads, htree, hnest⟩ := ha.unary (offset + 2) hends
    have hcomma := @reads_mark ',' .comma rfl
      (' ' :: (a.written ++ (printedRest more ++ ')' :: rest))) offset
    have hspace : Reads (offset + 1) (' ' :: (a.written ++ (printedRest more ++ ')' :: rest))) []
        (offset + 2) _ := .layout rfl (.stop _ _)
    obtain ⟨d, tokens, last, hy, hrest, ht, hn⟩ := ih hmore
      (.next before ⟨.comma, [','], offset⟩ (.product (.unary u)) rfl) middle
    refine ⟨d, ⟨.comma, [','], offset⟩ :: (u.yield ++ tokens), last, ?_, ?_, ?_, ?_⟩
    · rw [hy, Derivation.yield, List.append_assoc]
      rfl
    · have hall := hcomma.append (hspace.append (hreads.append hrest))
      simpa [printedRest] using hall
    · rw [ht, Derivation.tree, bareAll_eq_map, bareAll_eq_map, List.map_append, rereadAll,
        List.append_assoc]
      exact congrArg (fun n => _ ++ n :: rereadAll more) htree
    · rw [hn, Derivation.extent, Depth.max_listed, Depth.max_assoc]
      exact congrArg (fun e => max _ (max e.listed _)) hnest

theorem printed_call {callee : Node η} {arguments : List (Node η)} (hc : callee.Printed)
    (ha : ∀ a ∈ arguments, a.Printed) (span : Option Span) :
    (call callee arguments span).Printed := by
  intro offset rest _
  have hparen (text : Text) : Ends ('(' :: text) := ends_cons (by decide) _
  have hclose : Ends (')' :: rest) := ends_cons (by decide) _
  obtain ⟨signs, e, middle, hreads, hs, hl, ht, hn⟩ := hc offset _
    (hparen (Text.joined ", ".toList (writtenAll arguments) ++ ')' :: rest))
  have hopen := @reads_mark '(' .openParen rfl
    (Text.joined ", ".toList (writtenAll arguments) ++ ')' :: rest) middle
  cases arguments with
  | nil =>
    have hend := @reads_mark ')' .closeParen rfl rest (middle + 1)
    have hall := hreads.append (hopen.append hend)
    refine ⟨signs, .callNone e ⟨.openParen, ['('], middle⟩ ⟨.closeParen, [')'], middle + 1⟩ rfl rfl,
      middle + 1 + 1, ?_, hs, hl, ?_, ?_⟩
    · simpa [written, Derivation.yield] using hall
    · rw [Derivation.tree, bare, ht]
      rfl
    · rw [Derivation.extent, hn, coreExtent, argumentsExtent, Depth.max_zero]
  | cons first more =>
    obtain ⟨hfirst, hmore⟩ := List.forall_mem_cons.mp ha
    have hends : Ends (printedRest more ++ ')' :: rest) := by
      cases more with
      | nil => exact hclose
      | cons b more => exact ends_cons (by decide) _
    rw [joined_written, List.append_assoc] at hreads hopen
    obtain ⟨u, next, hu, htu, hnu⟩ := hfirst.unary (middle + 1) hends
    obtain ⟨d, tokens, last, hy, hrest, htd, hnd⟩ :=
      printed_rest more hmore (.first (.product (.unary u))) next rest
    have hend := @reads_mark ')' .closeParen rfl rest last
    have hall := hreads.append (hopen.append (hu.append (hrest.append hend)))
    refine ⟨signs, .call e ⟨.openParen, ['('], middle⟩ d ⟨.closeParen, [')'], last⟩ rfl rfl,
      last + 1, ?_, hs, hl, ?_, ?_⟩
    · rw [written, joined_written]
      simpa [Derivation.yield, hy] using hall
    · have hfirst : bareAll (d.tree : List (Node η)) = rereadAll (first :: more) := by
        rw [htd, rereadAll, ← reread, ← htu]
        rfl
      rw [Derivation.tree, bare, ht, hfirst]
      rfl
    · have hfirst : d.extent.listed = argumentsExtent (first :: more) := by
        rw [hnd, argumentsExtent, ← printedExtent, ← hnu]
        rfl
      rw [Derivation.extent, hn, coreExtent, ← hfirst, Depth.max_below]
      rfl

/-- Every tree of legible values is printed so that it can be read. -/
theorem printed (node : Node η)
    (h : ∀ n ∈ node.preorder, ∀ v span, n = .value v span → v.Legible) : node.Printed := by
  induction node with
  | value v span => exact printed_value (h _ List.mem_cons_self v span rfl) span
  | binary op left right span ihl ihr =>
    rw [preorder, List.forall_mem_cons, List.forall_mem_append] at h
    exact printed_binary op (ihl h.2.1) (ihr h.2.2) span
  | negate operand span ih =>
    rw [preorder, List.forall_mem_cons] at h
    exact printed_negate (ih h.2) span
  | call callee arguments span ihc iha =>
    rw [preorder, List.forall_mem_cons, List.forall_mem_append, forall_mem_preorderAll] at h
    exact printed_call (ihc h.2.1) (fun a ha => iha a ha (h.2.2 a ha)) span

end Node

end Reckoner
