import Mathlib.Data.List.Forall2
import Reckoner.Proofs.Grammar.Lowering
import Reckoner.Proofs.Grammar.Part
import Reckoner.Proofs.Grammar.Viability

/-! # Similar derivations

Derivations are similar if one comes from the other by exchanging tokens for related ones. Whatever
is related to the tokens of a derivation is derived by a similar one, as long as kinds are kept. If
texts are kept as well, the trees are the same but for their spans, and these start and end at
related tokens, as does the first excess of depth.
-/
namespace Reckoner

def Span.Matches (R : Token → Token → Prop) (a b : Option Span) : Prop :=
  ∃ t t' u u', R t t' ∧ R u u' ∧ a = some ⟨t.start, u.stop⟩ ∧ b = some ⟨t'.start, u'.stop⟩

namespace Category
variable {η : Type}

def bare : {c : Category} → c.Of (Node η) → c.Of (Node η)
  | .expression _, node => node.bare
  | .arguments, nodes => Node.bareAll nodes

end Category

namespace Derivation
variable {η : Type}

inductive Similar (R : Token → Token → Prop) :
    {c : Category} → Derivation c → Derivation c → Prop
  | number {t t' : Token} {ht : t.kind = .number} {ht' : t'.kind = .number} (h : R t t') :
      Similar R (.number t ht) (.number t' ht')
  | name {t t' : Token} {ht : t.kind = .name} {ht' : t'.kind = .name} (h : R t t') :
      Similar R (.name t ht) (.name t' ht')
  | parens {opening opening' closing closing' : Token} {d d' : Derivation (.expression .sum)}
      {ho : opening.kind = .openParen} {ho' : opening'.kind = .openParen}
      {hc : closing.kind = .closeParen} {hc' : closing'.kind = .closeParen}
      (hopen : R opening opening') (h : Similar R d d') (hclose : R closing closing') :
      Similar R (.parens opening d closing ho hc) (.parens opening' d' closing' ho' hc')
  | atom {d d' : Derivation (.expression .atom)} (h : Similar R d d') :
      Similar R (.atom d) (.atom d')
  | callNone {opening opening' closing closing' : Token} {d d' : Derivation (.expression .applied)}
      {ho : opening.kind = .openParen} {ho' : opening'.kind = .openParen}
      {hc : closing.kind = .closeParen} {hc' : closing'.kind = .closeParen}
      (h : Similar R d d') (hopen : R opening opening') (hclose : R closing closing') :
      Similar R (.callNone d opening closing ho hc) (.callNone d' opening' closing' ho' hc')
  | call {opening opening' closing closing' : Token} {d d' : Derivation (.expression .applied)}
      {arguments arguments' : Derivation .arguments}
      {ho : opening.kind = .openParen} {ho' : opening'.kind = .openParen}
      {hc : closing.kind = .closeParen} {hc' : closing'.kind = .closeParen}
      (h : Similar R d d') (hopen : R opening opening') (ha : Similar R arguments arguments')
      (hclose : R closing closing') :
      Similar R (.call d opening arguments closing ho hc)
        (.call d' opening' arguments' closing' ho' hc')
  | applied {d d' : Derivation (.expression .applied)} (h : Similar R d d') :
      Similar R (.applied d) (.applied d')
  | negate {sign sign' : Token} {d d' : Derivation (.expression .unary)}
      {hs : sign.kind = .minus} {hs' : sign'.kind = .minus} (hsign : R sign sign')
      (h : Similar R d d') : Similar R (.negate sign d hs) (.negate sign' d' hs')
  | unary {d d' : Derivation (.expression .unary)} (h : Similar R d d') :
      Similar R (.unary d) (.unary d')
  | multiply {op : Operator} {left left' : Derivation (.expression .product)} {sign sign' : Token}
      {right right' : Derivation (.expression .unary)} {hop : op = .times ∨ op = .divide}
      {hs : sign.kind = op.mark} {hs' : sign'.kind = op.mark} (hl : Similar R left left')
      (hsign : R sign sign') (hr : Similar R right right') :
      Similar R (.multiply op left sign right hop hs) (.multiply op left' sign' right' hop hs')
  | product {d d' : Derivation (.expression .product)} (h : Similar R d d') :
      Similar R (.product d) (.product d')
  | add {op : Operator} {left left' : Derivation (.expression .sum)} {sign sign' : Token}
      {right right' : Derivation (.expression .product)} {hop : op = .plus ∨ op = .minus}
      {hs : sign.kind = op.mark} {hs' : sign'.kind = op.mark} (hl : Similar R left left')
      (hsign : R sign sign') (hr : Similar R right right') :
      Similar R (.add op left sign right hop hs) (.add op left' sign' right' hop hs')
  | first {d d' : Derivation (.expression .sum)} (h : Similar R d d') :
      Similar R (.first d) (.first d')
  | next {before before' : Derivation .arguments} {comma comma' : Token}
      {d d' : Derivation (.expression .sum)} {hc : comma.kind = .comma}
      {hc' : comma'.kind = .comma} (hb : Similar R before before') (hcomma : R comma comma')
      (h : Similar R d d') : Similar R (.next before comma d hc) (.next before' comma' d' hc')

variable {R : Token → Token → Prop}

theorem exists_append_of_forall₂ {α β : Type} {R : α → β → Prop} {xs ys : List α}
    {zs : List β} (h : List.Forall₂ R (xs ++ ys) zs) :
    ∃ us vs, zs = us ++ vs ∧ List.Forall₂ R xs us ∧ List.Forall₂ R ys vs := by
  induction xs generalizing zs with
  | nil => exact ⟨[], zs, rfl, .nil, h⟩
  | cons x xs ih =>
    obtain ⟨z, rest, hz, hr, rfl⟩ := List.forall₂_cons_left_iff.mp h
    obtain ⟨us, vs, rfl, hu, hv⟩ := ih hr
    exact ⟨z :: us, vs, rfl, .cons hz hu, hv⟩

theorem exists_similar (hR : ∀ t t', R t t' → t.kind = t'.kind) : ∀ {c : Category}
    (d : Derivation c) {tokens : List Token}, List.Forall₂ R d.yield tokens →
      ∃ e : Derivation c, Similar R d e ∧ e.yield = tokens
  | _, number t ht, tokens, h => by
    obtain ⟨t', rest, ht', hr, rfl⟩ := List.forall₂_cons_left_iff.mp h
    cases hr
    exact ⟨.number t' (hR t t' ht' ▸ ht), .number ht', rfl⟩
  | _, name t ht, tokens, h => by
    obtain ⟨t', rest, ht', hr, rfl⟩ := List.forall₂_cons_left_iff.mp h
    cases hr
    exact ⟨.name t' (hR t t' ht' ▸ ht), .name ht', rfl⟩
  | _, parens opening inner closing ho hc, tokens, h => by
    obtain ⟨opening', rest, hopen, hr, rfl⟩ := List.forall₂_cons_left_iff.mp h
    obtain ⟨us, vs, rfl, hu, hv⟩ := exists_append_of_forall₂ hr
    obtain ⟨closing', _, hclose, hnil, rfl⟩ := List.forall₂_cons_left_iff.mp hv
    cases hnil
    obtain ⟨e, he, rfl⟩ := inner.exists_similar hR hu
    exact ⟨.parens opening' e closing' (hR _ _ hopen ▸ ho) (hR _ _ hclose ▸ hc),
      .parens hopen he hclose, rfl⟩
  | _, atom d, tokens, h => by
    obtain ⟨e, he, hy⟩ := d.exists_similar hR h
    exact ⟨.atom e, .atom he, hy⟩
  | _, callNone callee opening closing ho hc, tokens, h => by
    obtain ⟨us, vs, rfl, hu, hv⟩ := exists_append_of_forall₂ h
    obtain ⟨opening', rest, hopen, hr, rfl⟩ := List.forall₂_cons_left_iff.mp hv
    obtain ⟨closing', _, hclose, hnil, rfl⟩ := List.forall₂_cons_left_iff.mp hr
    cases hnil
    obtain ⟨e, he, rfl⟩ := callee.exists_similar hR hu
    exact ⟨.callNone e opening' closing' (hR _ _ hopen ▸ ho) (hR _ _ hclose ▸ hc),
      .callNone he hopen hclose, rfl⟩
  | _, call callee opening arguments closing ho hc, tokens, h => by
    obtain ⟨us, vs, rfl, hu, hv⟩ := exists_append_of_forall₂ h
    obtain ⟨opening', rest, hopen, hr, rfl⟩ := List.forall₂_cons_left_iff.mp hv
    obtain ⟨ws, vs, rfl, hw, hv⟩ := exists_append_of_forall₂ hr
    obtain ⟨closing', _, hclose, hnil, rfl⟩ := List.forall₂_cons_left_iff.mp hv
    cases hnil
    obtain ⟨e, he, rfl⟩ := callee.exists_similar hR hu
    obtain ⟨as, ha, rfl⟩ := arguments.exists_similar hR hw
    exact ⟨.call e opening' as closing' (hR _ _ hopen ▸ ho) (hR _ _ hclose ▸ hc),
      .call he hopen ha hclose, rfl⟩
  | _, applied d, tokens, h => by
    obtain ⟨e, he, hy⟩ := d.exists_similar hR h
    exact ⟨.applied e, .applied he, hy⟩
  | _, negate sign operand hs, tokens, h => by
    obtain ⟨sign', rest, hsign, hr, rfl⟩ := List.forall₂_cons_left_iff.mp h
    obtain ⟨e, he, rfl⟩ := operand.exists_similar hR hr
    exact ⟨.negate sign' e (hR _ _ hsign ▸ hs), .negate hsign he, rfl⟩
  | _, unary d, tokens, h => by
    obtain ⟨e, he, hy⟩ := d.exists_similar hR h
    exact ⟨.unary e, .unary he, hy⟩
  | _, multiply op left sign right hop hs, tokens, h => by
    obtain ⟨us, vs, rfl, hu, hv⟩ := exists_append_of_forall₂ h
    obtain ⟨sign', rest, hsign, hr, rfl⟩ := List.forall₂_cons_left_iff.mp hv
    obtain ⟨l, hl, rfl⟩ := left.exists_similar hR hu
    obtain ⟨r, hright, rfl⟩ := right.exists_similar hR hr
    exact ⟨.multiply op l sign' r hop (hR _ _ hsign ▸ hs), .multiply hl hsign hright, rfl⟩
  | _, product d, tokens, h => by
    obtain ⟨e, he, hy⟩ := d.exists_similar hR h
    exact ⟨.product e, .product he, hy⟩
  | _, add op left sign right hop hs, tokens, h => by
    obtain ⟨us, vs, rfl, hu, hv⟩ := exists_append_of_forall₂ h
    obtain ⟨sign', rest, hsign, hr, rfl⟩ := List.forall₂_cons_left_iff.mp hv
    obtain ⟨l, hl, rfl⟩ := left.exists_similar hR hu
    obtain ⟨r, hright, rfl⟩ := right.exists_similar hR hr
    exact ⟨.add op l sign' r hop (hR _ _ hsign ▸ hs), .add hl hsign hright, rfl⟩
  | _, first d, tokens, h => by
    obtain ⟨e, he, hy⟩ := d.exists_similar hR h
    exact ⟨.first e, .first he, hy⟩
  | _, next before comma d hc, tokens, h => by
    obtain ⟨us, vs, rfl, hu, hv⟩ := exists_append_of_forall₂ h
    obtain ⟨comma', rest, hcomma, hr, rfl⟩ := List.forall₂_cons_left_iff.mp hv
    obtain ⟨b, hb, rfl⟩ := before.exists_similar hR hu
    obtain ⟨e, he, rfl⟩ := d.exists_similar hR hr
    exact ⟨.next b comma' e (hR _ _ hcomma ▸ hc), .next hb hcomma he, rfl⟩

namespace Similar
variable {c : Category} {d e : Derivation c}

theorem firstToken (h : Similar R d e) : R d.firstToken e.firstToken := by
  induction h with
  | number h | name h => exact h
  | parens h | negate h => exact h
  | _ => assumption

theorem lastToken (h : Similar R d e) : R d.lastToken e.lastToken := by
  induction h with
  | number h | name h => exact h
  | _ => assumption

theorem extent (h : Similar R d e) : d.extent = e.extent := by
  induction h <;> simp only [Derivation.extent, *]

/-- What keeps two derivations from being lowered is the same, at related tokens. -/
inductive Hinders (R : Token → Token → Prop) : Obstacle → Obstacle → Prop
  | level {t t' : Token} (h : R t t') : Hinders R (.level t) (.level t')
  | stack : Hinders R .stack .stack

theorem obstacle (limits : Limits) (depth : Depth) {t t' : Token} (h : R t t') :
    Option.Rel (Hinders R) (limits.obstacle depth t) (limits.obstacle depth t') := by
  unfold Limits.obstacle
  split
  · exact .some .stack
  · split
    · exact .some (.level h)
    · exact .none

theorem rel_or {a b a' b' : Option Obstacle} (h : Option.Rel (Hinders R) a a')
    (h' : Option.Rel (Hinders R) b b') : Option.Rel (Hinders R) (a.or b) (a'.or b') := by
  cases h with
  | none => exact h'
  | some h => exact .some h

theorem excess (h : Similar R d e) (limits : Limits) (depth : Depth) :
    Option.Rel (Hinders R) (d.excess limits depth) (e.excess limits depth) := by
  induction h generalizing depth with
  | number h | name h => exact obstacle limits depth h
  | parens h _ _ ih | negate h _ ih => exact rel_or (obstacle limits depth h) (ih _)
  | atom _ ih | applied _ ih | unary _ ih | product _ ih | first _ ih => exact ih depth
  | callNone h _ _ ih => exact rel_or (obstacle limits depth h.firstToken) (ih _)
  | call h _ _ _ ihl ihr | multiply h _ _ ihl ihr | add h _ _ ihl ihr =>
    exact rel_or (obstacle limits depth h.firstToken) (rel_or (ihl _) (ihr _))
  | next _ _ _ ihb ihd => exact rel_or (ihb depth) (ihd depth)

section Tree
variable (hR : ∀ t t', R t t' → t.text = t'.text)
include hR

theorem bare_tree (h : Similar R d e) :
    Category.bare (d.tree : c.Of (Node η)) = Category.bare e.tree := by
  induction h with
  | number h | name h => simp only [tree, Category.bare, Node.bare, numberOf, hR _ _ h]
  | parens _ _ _ ih => simpa only [tree, Category.bare, Node.bare_withSpan] using ih
  | atom _ ih | applied _ ih | unary _ ih | product _ ih => exact ih
  | callNone _ _ _ ih => exact congrArg (fun n => Node.call n [] none) ih
  | call _ _ _ _ ihc iha => exact congrArg₂ (fun n ns => Node.call n ns none) ihc iha
  | negate _ _ ih => exact congrArg (fun n => Node.negate n none) ih
  | multiply _ _ _ ihl ihr | add _ _ _ ihl ihr =>
    exact congrArg₂ (fun l r => Node.binary _ l r none) ihl ihr
  | first _ ih => exact congrArg (fun n => [n]) ih
  | next _ _ _ ihb ihd =>
    simp only [tree, Category.bare, Node.bareAll_eq_map, List.map_append] at ihb ⊢
    exact congrArg₂ (fun ns n => ns ++ [n]) ihb ihd

end Tree

theorem span (h : Similar R d e) : Span.Matches R (some d.span) (some e.span) :=
  ⟨_, _, _, _, h.firstToken, h.lastToken, rfl, rfl⟩

/-- Nodes at the same place in the trees have spans between related tokens. -/
theorem spans_tree (h : Similar R d e) :
    List.Forall₂ (fun n m : Node η => Span.Matches R n.span m.span)
      (Category.nodes d.tree) (Category.nodes e.tree) := by
  induction h with
  | number h => exact .cons (span (number h)) .nil
  | name h => exact .cons (span (name h)) .nil
  | @parens _ _ _ _ d e _ _ _ _ ho h hc ih =>
    have htail := List.forall₂_drop 1 ih
    simp only [Category.nodes, tree, Node.preorder_withSpan, ← List.drop_one]
    refine .cons ?_ htail
    rw [Node.span_withSpan, Node.span_withSpan]
    exact span (parens ho h hc)
  | atom _ ih | applied _ ih | unary _ ih | product _ ih => exact ih
  | callNone h ho hc ih =>
    exact .cons (span (callNone h ho hc)) (List.rel_append ih .nil)
  | call h ho ha hc ihc iha =>
    exact .cons (span (call h ho ha hc)) (List.rel_append ihc iha)
  | negate hs h ih => exact .cons (span (negate hs h)) ih
  | multiply hl hs hr ihl ihr =>
    exact .cons (span (multiply hl hs hr)) (List.rel_append ihl ihr)
  | add hl hs hr ihl ihr => exact .cons (span (add hl hs hr)) (List.rel_append ihl ihr)
  | first _ ih => exact List.rel_append ih .nil
  | next _ _ _ ihb ihd =>
    simpa [tree, Category.nodes] using List.rel_append ihb ihd

end Similar

end Derivation

/-! ## Kinds of tokens -/

section Kinds
variable {tokens tokens' : List Token} (h : tokens.map Token.kind = tokens'.map Token.kind)
include h

/-- Whether tokens are a sentence is a matter of their kinds. -/
theorem IsSentence.of_kinds (hs : IsSentence tokens) : IsSentence tokens' := by
  obtain ⟨d, rfl⟩ := hs
  have hr : List.Forall₂ (fun t t' : Token => t.kind = t'.kind) d.yield tokens' := by
    rw [← List.forall₂_map_left_iff (R := fun kind (t : Token) => kind = t.kind),
      ← List.forall₂_map_right_iff (R := Eq), h]
    exact List.forall₂_eq_eq_eq ▸ rfl
  obtain ⟨e, -, he⟩ := d.exists_similar (fun _ _ hk => hk) hr
  exact ⟨e, he⟩

theorem Viable.of_kinds (hv : Viable tokens) : Viable tokens' := by
  obtain ⟨more, hs⟩ := hv
  exact ⟨more, hs.of_kinds (by rw [List.map_append, List.map_append, h])⟩

end Kinds

end Reckoner
