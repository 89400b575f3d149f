import Reckoner.Proofs.Grammar.Viability

/-! # One derivation

A derivation is determined by its tokens together with its phrase: the phrase says which rule was
applied where, so it tells how many tokens each part has. Since the reader finds one phrase for a
sentence, a sentence has one derivation.
-/
namespace Reckoner

/-- How tightly the rule at the top of a phrase holds it together. -/
def Phrase.rank : Phrase → Nat
  | .node (.binary op) _ _ => op.strength
  | .node .negate _ _ => 3
  | .node .call _ _ => 4
  | _ => 5

/-- The loosest rule that may stand at the top of an expression of a level. -/
def Level.loosest : Level → Nat
  | .sum => 1
  | .product => 2
  | .unary => 3
  | .applied => 4
  | .atom => 5

namespace Derivation

def Ranked : {c : Category} → Derivation c → Prop
  | .expression level, d => level.loosest ≤ d.piece.phrase.rank
  | .arguments, _ => True

theorem ranked {c : Category} (d : Derivation c) : d.Ranked := by
  induction d with
  | number => exact Nat.le_refl 5
  | name => exact Nat.le_refl 5
  | parens => exact Nat.le_refl 5
  | callNone => exact Nat.le_refl 4
  | call => exact Nat.le_refl 4
  | negate => exact Nat.le_refl 3
  | multiply op left sign right hop => exact Nat.le_of_eq (Operator.strength_of_product hop).symm
  | add op left sign right hop => exact Nat.le_of_eq (Operator.strength_of_sum hop).symm
  | atom d ih => exact Nat.le_of_succ_le (show 5 ≤ d.piece.phrase.rank from ih)
  | applied d ih => exact Nat.le_of_succ_le (show 4 ≤ d.piece.phrase.rank from ih)
  | unary d ih => exact Nat.le_of_succ_le (show 3 ≤ d.piece.phrase.rank from ih)
  | product d ih => exact Nat.le_of_succ_le (show 2 ≤ d.piece.phrase.rank from ih)
  | first | next => trivial

/-- The same rules were applied to build the same phrases. -/
def SamePhrase : {c : Category} → Derivation c → Derivation c → Prop
  | .expression _, d, e => d.piece.phrase = e.piece.phrase
  | .arguments, d, e => d.piece.map Piece.phrase = e.piece.map Piece.phrase

theorem argumentList_inj {ps qs : List Piece}
    (h : Piece.argumentList ps = Piece.argumentList qs) :
    ps.map Piece.phrase = qs.map Piece.phrase := by
  cases ps <;> cases qs <;> simp_all [Piece.argumentList]

theorem cons_inj {α : Type} {as bs cs ds : List α} {x y : α}
    (h : as ++ x :: bs = cs ++ y :: ds) (hl : as.length = cs.length) :
    as = cs ∧ x = y ∧ bs = ds := by
  obtain ⟨ha, hr⟩ := List.append_inj h hl
  exact ⟨ha, List.cons.inj hr⟩

/-- No rule that is too loose stands at the top of an expression of a level. -/
theorem phrase_ne_of_rank {level : Level} (d : Derivation (.expression level)) {phrase : Phrase}
    (hr : phrase.rank < level.loosest) : d.piece.phrase ≠ phrase := by
  rintro rfl
  exact absurd d.ranked (Nat.not_le_of_lt hr)

/-- Two derivations are over equally many tokens, and over the same tokens only if they are the
same. -/
structure Aligned {c : Category} (d e : Derivation c) : Prop where
  length_eq : d.yield.length = e.yield.length
  eq_of_yield : d.yield = e.yield → d = e

namespace Aligned
variable {c c' : Category} {sign sign' opening opening' closing closing' : Token}

theorem wrapped (wrap : Derivation c → Derivation c') (hw : ∀ d, (wrap d).yield = d.yield)
    {d e : Derivation c} (h : Aligned d e) : Aligned (wrap d) (wrap e) := by
  refine ⟨?_, fun hy => ?_⟩
  · rw [hw, hw, h.length_eq]
  · rw [hw, hw] at hy
    rw [h.eq_of_yield hy]

theorem around {left left' : Derivation c} {right right' : Derivation c'}
    (hl : Aligned left left') (hr : Aligned right right') :
    (left.yield ++ sign :: right.yield).length = (left'.yield ++ sign' :: right'.yield).length ∧
      (left.yield ++ sign :: right.yield = left'.yield ++ sign' :: right'.yield →
        left = left' ∧ sign = sign' ∧ right = right') := by
  refine ⟨by simp [hl.length_eq, hr.length_eq], fun hy => ?_⟩
  obtain ⟨hyl, hsign, hyr⟩ := cons_inj hy hl.length_eq
  exact ⟨hl.eq_of_yield hyl, hsign, hr.eq_of_yield hyr⟩

theorem negate {operand operand' : Derivation (.expression .unary)} {hs : sign.kind = .minus}
    {hs' : sign'.kind = .minus} (h : Aligned operand operand') :
    Aligned (.negate sign operand hs) (.negate sign' operand' hs') := by
  refine ⟨by simp [yield, h.length_eq], fun hy => ?_⟩
  obtain ⟨hsign, hoperand⟩ := List.cons.inj hy
  subst hsign
  rw [h.eq_of_yield hoperand]

section Enclosed
variable {callee callee' : Derivation (.expression .applied)}
  {ho : opening.kind = .openParen} {ho' : opening'.kind = .openParen}
  {hc : closing.kind = .closeParen} {hc' : closing'.kind = .closeParen}

theorem parens {inner inner' : Sentence} (h : Aligned inner inner') :
    Aligned (.parens opening inner closing ho hc) (.parens opening' inner' closing' ho' hc') := by
  refine ⟨by simp [yield, h.length_eq], fun hy => ?_⟩
  obtain ⟨hopen, hrest⟩ := List.cons.inj hy
  obtain ⟨hinner, hclose, -⟩ := cons_inj hrest h.length_eq
  subst hopen hclose
  rw [h.eq_of_yield hinner]

theorem callNone (h : Aligned callee callee') :
    Aligned (.callNone callee opening closing ho hc)
      (.callNone callee' opening' closing' ho' hc') := by
  refine ⟨by simp [yield, h.length_eq], fun hy => ?_⟩
  obtain ⟨hcallee, hopen, hrest⟩ := cons_inj hy h.length_eq
  obtain ⟨hclose, -⟩ := List.cons.inj hrest
  subst hopen hclose
  rw [h.eq_of_yield hcallee]

theorem call {arguments arguments' : Derivation .arguments} (h : Aligned callee callee')
    (ha : Aligned arguments arguments') :
    Aligned (.call callee opening arguments closing ho hc)
      (.call callee' opening' arguments' closing' ho' hc') := by
  refine ⟨by simp [yield, h.length_eq, ha.length_eq], fun hy => ?_⟩
  obtain ⟨hcallee, hopen, hrest⟩ := cons_inj hy h.length_eq
  obtain ⟨harguments, hclose, -⟩ := cons_inj hrest ha.length_eq
  subst hopen hclose
  rw [h.eq_of_yield hcallee, ha.eq_of_yield harguments]

end Enclosed

theorem multiply {op op' : Operator} {left left' : Derivation (.expression .product)}
    {right right' : Derivation (.expression .unary)} {hop : op = .times ∨ op = .divide}
    {hop' : op' = .times ∨ op' = .divide} {hs : sign.kind = op.mark} {hs' : sign'.kind = op'.mark}
    (hr : op = op') (h : Aligned left left') (h' : Aligned right right') :
    Aligned (.multiply op left sign right hop hs) (.multiply op' left' sign' right' hop' hs') := by
  subst hr
  refine ⟨(h.around h').1, fun hy => ?_⟩
  obtain ⟨rfl, rfl, rfl⟩ := (h.around h').2 hy
  rfl

theorem add {op op' : Operator} {left left' : Sentence}
    {right right' : Derivation (.expression .product)} {hop : op = .plus ∨ op = .minus}
    {hop' : op' = .plus ∨ op' = .minus} {hs : sign.kind = op.mark} {hs' : sign'.kind = op'.mark}
    (hr : op = op') (h : Aligned left left') (h' : Aligned right right') :
    Aligned (.add op left sign right hop hs) (.add op' left' sign' right' hop' hs') := by
  subst hr
  refine ⟨(h.around h').1, fun hy => ?_⟩
  obtain ⟨rfl, rfl, rfl⟩ := (h.around h').2 hy
  rfl

theorem next {before before' : Derivation .arguments} {d e : Sentence} {hc : sign.kind = .comma}
    {hc' : sign'.kind = .comma} (h : Aligned before before') (h' : Aligned d e) :
    Aligned (.next before sign d hc) (.next before' sign' e hc') := by
  refine ⟨(h.around h').1, fun hy => ?_⟩
  obtain ⟨rfl, rfl, rfl⟩ := (h.around h').2 hy
  rfl

end Aligned

theorem map_phrase_ne (before : Derivation .arguments) (phrase last : Phrase) :
    before.piece.map Piece.phrase ++ [last] ≠ [phrase] := by
  intro h
  obtain ⟨hb, -⟩ := List.append_inj' (h.trans (List.nil_append _).symm) rfl
  exact before.arguments_ne_nil (List.map_eq_nil_iff.mp hb)

theorem operands_inj {op op' : Operator} {bounds bounds' : Option (Int × Int)}
    {l l' r r' : Phrase}
    (h : Phrase.node (.binary op) bounds [l, r] = .node (.binary op') bounds' [l', r']) :
    op = op' ∧ l = l' ∧ r = r' := by
  injection h with hrule _ hp
  injection hp with hl hp
  injection hp with hr
  injection hrule with hrule
  exact ⟨hrule, hl, hr⟩

theorem aligned_of_samePhrase {c : Category} (d e : Derivation c) (h : SamePhrase d e) :
    Aligned d e := by
  induction d with
  | number t ht =>
    cases e with
    | number u hu => exact ⟨rfl, fun hy => by cases hy; rfl⟩
    | name | parens => cases h
  | name t ht =>
    cases e with
    | name u hu => exact ⟨rfl, fun hy => by cases hy; rfl⟩
    | number | parens => cases h
  | parens opening inner closing ho hc ih =>
    cases e with
    | parens opening' inner' =>
      have hp : inner.piece.phrase = inner'.piece.phrase := by injection h with _ _ hp; injection hp
      exact (ih inner' hp).parens
    | number | name => cases h
  | atom d ih =>
    cases e with
    | atom e => exact .wrapped .atom (fun _ => rfl) (ih e h)
    | callNone | call => exact absurd h (d.phrase_ne_of_rank (Nat.lt_succ_self 4))
  | callNone callee opening closing ho hc ih =>
    cases e with
    | atom e => exact absurd h.symm (e.phrase_ne_of_rank (Nat.lt_succ_self 4))
    | callNone callee' =>
      have hp : callee.piece.phrase = callee'.piece.phrase := by
        injection h with _ _ hp; injection hp
      exact (ih callee' hp).callNone
    | call callee' opening' arguments' =>
      have hp : Piece.argumentList [] = Piece.argumentList arguments'.piece := by
        injection h with _ _ hp; injection hp with _ hp; injection hp
      exact absurd (List.map_eq_nil_iff.mp (argumentList_inj hp).symm) arguments'.arguments_ne_nil
  | call callee opening arguments closing ho hc ih iha =>
    cases e with
    | atom e => exact absurd h.symm (e.phrase_ne_of_rank (Nat.lt_succ_self 4))
    | callNone =>
      have hp : Piece.argumentList arguments.piece = Piece.argumentList [] := by
        injection h with _ _ hp; injection hp with _ hp; injection hp
      exact absurd (List.map_eq_nil_iff.mp (argumentList_inj hp)) arguments.arguments_ne_nil
    | call callee' opening' arguments' =>
      injection h with _ _ hp
      injection hp with hcallee hp
      injection hp with hp
      exact (ih callee' hcallee).call (iha arguments' (argumentList_inj hp))
  | applied d ih =>
    cases e with
    | applied e => exact .wrapped .applied (fun _ => rfl) (ih e h)
    | negate => exact absurd h (d.phrase_ne_of_rank (Nat.lt_succ_self 3))
  | negate sign operand hs ih =>
    cases e with
    | applied e => exact absurd h.symm (e.phrase_ne_of_rank (Nat.lt_succ_self 3))
    | negate sign' operand' =>
      have hp : operand.piece.phrase = operand'.piece.phrase := by
        injection h with _ _ hp; injection hp
      exact (ih operand' hp).negate
  | unary d ih =>
    cases e with
    | unary e => exact .wrapped .unary (fun _ => rfl) (ih e h)
    | multiply op left sign right hop =>
      have hr := (Operator.strength_of_product hop).trans_lt (Nat.lt_succ_self 2)
      exact absurd h (d.phrase_ne_of_rank hr)
  | multiply op left sign right hop hs ihl ihr =>
    cases e with
    | unary e =>
      have hr := (Operator.strength_of_product hop).trans_lt (Nat.lt_succ_self 2)
      exact absurd h.symm (e.phrase_ne_of_rank hr)
    | multiply op' left' sign' right' =>
      obtain ⟨hop', hpl, hpr⟩ := operands_inj h
      exact .multiply hop' (ihl left' hpl) (ihr right' hpr)
  | product d ih =>
    cases e with
    | product e => exact .wrapped .product (fun _ => rfl) (ih e h)
    | add op left sign right hop =>
      have hr := (Operator.strength_of_sum hop).trans_lt (Nat.lt_succ_self 1)
      exact absurd h (d.phrase_ne_of_rank hr)
  | add op left sign right hop hs ihl ihr =>
    cases e with
    | product e =>
      have hr := (Operator.strength_of_sum hop).trans_lt (Nat.lt_succ_self 1)
      exact absurd h.symm (e.phrase_ne_of_rank hr)
    | add op' left' sign' right' =>
      obtain ⟨hop', hpl, hpr⟩ := operands_inj h
      exact .add hop' (ihl left' hpl) (ihr right' hpr)
  | first d ih =>
    cases e with
    | first e => exact .wrapped .first (fun _ => rfl) (ih e (List.cons.inj h).1)
    | next before comma e =>
      simp only [SamePhrase, piece, List.map_append, List.map_cons, List.map_nil] at h
      exact absurd h.symm (before.map_phrase_ne _ _)
  | next before comma d hc ihb ihd =>
    cases e with
    | first e =>
      simp only [SamePhrase, piece, List.map_append, List.map_cons, List.map_nil] at h
      exact absurd h (before.map_phrase_ne _ _)
    | next before' comma' e =>
      simp only [SamePhrase, piece, List.map_append, List.map_cons, List.map_nil] at h
      obtain ⟨hpb, hpd⟩ := List.append_inj' h rfl
      exact (ihb before' hpb).next (ihd e (List.cons.inj hpd).1)

end Derivation

/-- A sentence has one derivation. -/
theorem derivation_unique {s t : Sentence} (h : s.yield = t.yield) : s = t :=
  (s.aligned_of_samePhrase t (phrase_unique h)).eq_of_yield h

end Reckoner
