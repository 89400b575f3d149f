import Reckoner.Proofs.Grammar.Similar
import Reckoner.Proofs.Node.Substitution
import Reckoner.Proofs.Token.Rewriting

/-! # Substitution in derivations

A derivation in parentheses can stand wherever a name can. In place of every leaf of a name it gives
a derivation over the tokens with those of the parentheses in place of the name, and the tree of it
is, but for its spans, the tree with the other tree in place of the name.
-/
namespace Reckoner
open Token (expandedTokens)
variable {η : Type}

def Category.substitute (name : Text) (part : Node η) :
    {c : Category} → c.Of (Node η) → c.Of (Node η)
  | .expression _, node => Node.substitute name part node
  | .arguments, nodes => Node.substituteAll name part nodes

namespace Derivation

/-- A derivation in parentheses in place of all leaves of a name. -/
def substitute (target : Text) (part : Sentence) : {c : Category} → Derivation c → Derivation c
  | _, number t ht => .number t ht
  | _, name t ht =>
    if t.text = target then .parens ⟨.openParen, ['('], 0⟩ part ⟨.closeParen, [')'], 0⟩ rfl rfl
    else .name t ht
  | _, parens opening inner closing ho hc =>
    .parens opening (substitute target part inner) closing ho hc
  | _, atom d => .atom (substitute target part d)
  | _, callNone callee opening closing ho hc =>
    .callNone (substitute target part callee) opening closing ho hc
  | _, call callee opening arguments closing ho hc =>
    .call (substitute target part callee) opening (substitute target part arguments) closing ho hc
  | _, applied d => .applied (substitute target part d)
  | _, negate sign operand hs => .negate sign (substitute target part operand) hs
  | _, unary d => .unary (substitute target part d)
  | _, multiply op left sign right hop hs =>
    .multiply op (substitute target part left) sign (substitute target part right) hop hs
  | _, product d => .product (substitute target part d)
  | _, add op left sign right hop hs =>
    .add op (substitute target part left) sign (substitute target part right) hop hs
  | _, first d => .first (substitute target part d)
  | _, next before comma d hc =>
    .next (substitute target part before) comma (substitute target part d) hc

section Substitute
variable {target : Text} {part : Sentence}

theorem yield_substitute {c : Category} (d : Derivation c) :
    (substitute target part d).yield = d.yield.flatMap (expandedTokens target part.yield) := by
  have keep {t : Token} {kind : Token.Kind} (ht : t.kind = kind) (hk : kind ≠ .name) :
      expandedTokens target part.yield t = [t] := if_neg fun h => hk (ht ▸ h.1)
  induction d with
  | number t ht => simp [substitute, yield, keep ht]
  | name t ht =>
    by_cases h : t.text = target <;>
      simp [substitute, yield, expandedTokens, Token.Named, ht, h]
  | parens opening inner closing ho hc ih => simp [substitute, yield, keep ho, keep hc, ih]
  | atom d ih | applied d ih | unary d ih | product d ih | first d ih => exact ih
  | callNone callee opening closing ho hc ih => simp [substitute, yield, keep ho, keep hc, ih]
  | call callee opening arguments closing ho hc ihc iha =>
    simp [substitute, yield, keep ho, keep hc, ihc, iha]
  | negate sign operand hs ih => simp [substitute, yield, keep hs, ih]
  | multiply op left sign right hop hs ihl ihr | add op left sign right hop hs ihl ihr =>
    have hk : op.mark ≠ .name := by cases op <;> decide
    simp [substitute, yield, keep hs hk, ihl, ihr]
  | next before comma d hc ihb ihd => simp [substitute, yield, keep hc, ihb, ihd]

theorem bare_tree_substitute {c : Category} (d : Derivation c) :
    Category.bare ((substitute target part d).tree : c.Of (Node η)) =
      Category.substitute target part.tree.bare (Category.bare d.tree) := by
  induction d with
  | number t ht =>
    simp only [substitute, tree, Category.bare, Category.substitute, Node.bare, Node.substitute]
  | name t ht =>
    simp only [substitute, tree, Category.bare, Category.substitute, Node.bare, Node.substitute]
    split <;> simp only [tree, Node.bare, Node.bare_withSpan]
  | parens opening inner closing ho hc ih =>
    simpa only [substitute, tree, Category.bare, Category.substitute, Node.bare_withSpan] using ih
  | atom d ih | applied d ih | unary d ih | product d ih => exact ih
  | callNone callee opening closing ho hc ih =>
    exact congrArg (fun n => Node.call n [] none) ih
  | call callee opening arguments closing ho hc ihc iha =>
    exact congrArg₂ (fun n ns => Node.call n ns none) ihc iha
  | negate sign operand hs ih => exact congrArg (fun n => Node.negate n none) ih
  | multiply op left sign right hop hs ihl ihr | add op left sign right hop hs ihl ihr =>
    exact congrArg₂ (fun l r => Node.binary _ l r none) ihl ihr
  | first d ih => exact congrArg (fun n => [n]) ih
  | next before comma d hc ihb ihd =>
    simp only [substitute, tree, Category.bare, Category.substitute, Node.bareAll_eq_map,
      List.map_append, Node.substituteAll_eq_map] at ihb ihd ⊢
    exact congrArg₂ (fun ns n => ns ++ [n]) ihb ihd

end Substitute

end Derivation

end Reckoner
