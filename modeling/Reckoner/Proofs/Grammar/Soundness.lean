import Reckoner.Proofs.Grammar.Completeness

/-! # What the reader takes is derived

A stack of frames stands for the tokens that opened it, and the operand held for a derivation of the
tokens after them. Every token that the reader takes keeps this: what an operator, a comma or a
closing bracket completes on the stack are the levels of one derivation, from the tightest up.
-/
namespace Reckoner
open Reckoner.Derivation

/-- The frames that tokens leave open. A frame that waits with a left side of some level never
stands on a frame that would have completed that side. -/
inductive Opens : List Frame → List Token → Prop
  | nil : Opens [] []
  | negated {frames : List Frame} {tokens : List Token} {sign : Token} (h : Opens frames tokens)
      (hs : sign.kind = .minus) : Opens (.negated sign.start :: frames) (tokens ++ [sign])
  | product {frames : List Frame} {tokens : List Token} {op : Operator} {sign : Token}
      (h : Opens frames tokens) (hf : Frame.Loose 2 frames)
      (left : Derivation (.expression .product)) (hop : op = .times ∨ op = .divide)
      (hs : sign.kind = op.mark) :
      Opens (.operand op left.piece :: frames) (tokens ++ (left.yield ++ [sign]))
  | sum {frames : List Frame} {tokens : List Token} {op : Operator} {sign : Token}
      (h : Opens frames tokens) (hf : Frame.Loose 1 frames) (left : Sentence)
      (hop : op = .plus ∨ op = .minus) (hs : sign.kind = op.mark) :
      Opens (.operand op left.piece :: frames) (tokens ++ (left.yield ++ [sign]))
  | parens {frames : List Frame} {tokens : List Token} {opening : Token} (h : Opens frames tokens)
      (ho : opening.kind = .openParen) :
      Opens (.parens opening.start :: frames) (tokens ++ [opening])
  | call {frames : List Frame} {tokens : List Token} {opening : Token} (h : Opens frames tokens)
      (callee : Derivation (.expression .applied)) (ho : opening.kind = .openParen) :
      Opens (.arguments callee.piece [] :: frames) (tokens ++ (callee.yield ++ [opening]))
  | next {frames : List Frame} {tokens : List Token} {opening comma : Token}
      (h : Opens frames tokens) (callee : Derivation (.expression .applied))
      (done : Derivation .arguments) (ho : opening.kind = .openParen) (hc : comma.kind = .comma) :
      Opens (.arguments callee.piece done.piece.reverse :: frames)
        (tokens ++ (callee.yield ++ opening :: (done.yield ++ [comma])))

/-- The situation of the reader after some tokens. -/
inductive Represents : Reading → List Token → Prop
  | needing {frames : List Frame} {tokens : List Token} (h : Opens frames tokens) :
      Represents ⟨frames, none⟩ tokens
  | holding {frames : List Frame} {tokens : List Token} (h : Opens frames tokens)
      (d : Derivation (.expression .applied)) :
      Represents ⟨frames, some d.piece⟩ (tokens ++ d.yield)

namespace Frame

/-- Completing first what binds more tightly changes nothing. -/
theorem absorb_absorb {least more : Nat} (hle : least ≤ more) (frames : List Frame) (p : Piece) :
    absorb least (absorb more frames p).1 (absorb more frames p).2 = absorb least frames p := by
  induction frames generalizing p with
  | nil => rfl
  | cons frame rest ih =>
    by_cases h : more ≤ frame.strength
    · rw [absorb_cons h, absorb_cons (Nat.le_trans hle h), ih]
    · rw [absorb, if_neg h]

end Frame

/-- Absorbing at the strength of a level leaves a derivation of that level, over the tokens that
were read, on frames that bind more loosely. -/
def Completes (level : Level) (frames : List Frame) (p : Piece) (tokens : List Token) : Prop :=
  ∃ rest before, ∃ d : Derivation (.expression level),
    Frame.absorb level.strength frames p = (rest, d.piece) ∧ Opens rest before ∧
      Frame.Loose level.strength rest ∧ before ++ d.yield = tokens

theorem Completes.of_absorb {level : Level} {frames rest : List Frame} {p q : Piece}
    {tokens : List Token} (h : Completes level rest q tokens)
    (ha : Frame.absorb level.strength frames p = Frame.absorb level.strength rest q) :
    Completes level frames p tokens := by
  unfold Completes
  rw [ha]
  exact h

theorem Operator.strength_of_product {op : Operator} (hop : op = .times ∨ op = .divide) :
    op.strength = 2 := by
  rcases hop with rfl | rfl <;> rfl

theorem Operator.strength_of_sum {op : Operator} (hop : op = .plus ∨ op = .minus) :
    op.strength = 1 := by
  rcases hop with rfl | rfl <;> rfl

namespace Opens
variable {frames : List Frame} {tokens : List Token}

theorem completes_of_loose (level : Level) (h : Opens frames tokens)
    (hl : Frame.Loose level.strength frames) (d : Derivation (.expression level)) :
    Completes level frames d.piece (tokens ++ d.yield) :=
  ⟨frames, tokens, d, Frame.absorb_of_loose hl _, h, hl, rfl⟩

theorem completes_unary (h : Opens frames tokens) (d : Derivation (.expression .unary)) :
    Completes .unary frames d.piece (tokens ++ d.yield) := by
  induction h generalizing d with
  | @negated frames tokens sign _ hs ih =>
    have hc := ih (.negate sign d hs)
    have hy : tokens ++ (Derivation.negate sign d hs).yield = tokens ++ [sign] ++ d.yield := by
      simp [yield]
    rw [hy] at hc
    exact hc.of_absorb (Frame.absorb_cons (Nat.le_refl 3) _ _)
  | nil => exact completes_of_loose .unary .nil (by simp) d
  | product h hf left hop hs =>
    refine completes_of_loose .unary (.product h hf left hop hs) (Frame.loose_cons.mpr ?_) d
    simp [Frame.strength, Level.strength, Operator.strength_of_product hop]
  | sum h hf left hop hs =>
    refine completes_of_loose .unary (.sum h hf left hop hs) (Frame.loose_cons.mpr ?_) d
    simp [Frame.strength, Level.strength, Operator.strength_of_sum hop]
  | parens h ho =>
    exact completes_of_loose .unary (.parens h ho) (Frame.loose_cons.mpr (Nat.succ_pos 2)) d
  | call h c ho =>
    exact completes_of_loose .unary (.call h c ho) (Frame.loose_cons.mpr (Nat.succ_pos 2)) d
  | next h c as ho hc =>
    exact completes_of_loose .unary (.next h c as ho hc) (Frame.loose_cons.mpr (Nat.succ_pos 2)) d

/-- A unary expression then takes the product before it, if there is one. -/
theorem completes_product (h : Opens frames tokens) (d : Derivation (.expression .unary)) :
    Completes .product frames d.piece (tokens ++ d.yield) := by
  obtain ⟨rest, before, u, ha, ho, hl, hy⟩ := h.completes_unary d
  have habs := Frame.absorb_absorb (by decide : Level.strength .product ≤ Level.strength .unary)
    frames d.piece
  rw [ha] at habs
  refine Completes.of_absorb (hy ▸ ?_) habs.symm
  by_cases hl₂ : Frame.Loose (Level.strength .product) rest
  · exact ho.completes_of_loose .product hl₂ (.unary u)
  · cases ho with
    | @product rest tokens op sign h hf left hop hs =>
      have hc := h.completes_of_loose .product hf (.multiply op left sign u hop hs)
      have hle : Level.strength .product ≤ (Frame.operand op left.piece).strength :=
        Nat.le_of_eq (Operator.strength_of_product hop).symm
      have hy : tokens ++ (Derivation.multiply op left sign u hop hs).yield =
          tokens ++ (left.yield ++ [sign]) ++ u.yield := by simp [yield]
      rw [hy] at hc
      exact hc.of_absorb (Frame.absorb_cons hle _ _)
    | sum h hf left hop hs =>
      simp [Frame.strength, Level.strength, Operator.strength_of_sum hop] at hl₂
    | negated => simp [Frame.strength, Level.strength] at hl
    | _ => simp [Frame.strength, Level.strength] at hl₂

/-- A product then takes the sum before it, if there is one. -/
theorem completes_sum (h : Opens frames tokens) (d : Derivation (.expression .unary)) :
    Completes .sum frames d.piece (tokens ++ d.yield) := by
  obtain ⟨rest, before, u, ha, ho, hl, hy⟩ := h.completes_product d
  have habs := Frame.absorb_absorb (by decide : Level.strength .sum ≤ Level.strength .product)
    frames d.piece
  rw [ha] at habs
  refine Completes.of_absorb (hy ▸ ?_) habs.symm
  by_cases hl₁ : Frame.Loose (Level.strength .sum) rest
  · exact ho.completes_of_loose .sum hl₁ (.product u)
  · cases ho with
    | @sum rest tokens op sign h hf left hop hs =>
      have hc := h.completes_of_loose .sum hf (.add op left sign u hop hs)
      have hle : Level.strength .sum ≤ (Frame.operand op left.piece).strength :=
        Nat.le_of_eq (Operator.strength_of_sum hop).symm
      have hy : tokens ++ (Derivation.add op left sign u hop hs).yield =
          tokens ++ (left.yield ++ [sign]) ++ u.yield := by simp [yield]
      rw [hy] at hc
      exact hc.of_absorb (Frame.absorb_cons hle _ _)
    | product h hf left hop hs =>
      simp [Frame.strength, Level.strength, Operator.strength_of_product hop] at hl
    | negated => simp [Frame.strength, Level.strength] at hl
    | _ => simp [Frame.strength, Level.strength] at hl₁

theorem of_arguments {callee : Piece} {done : List Piece}
    (h : Opens (.arguments callee done :: frames) tokens) :
    ∃ before opening, ∃ d : Derivation (.expression .applied), Opens frames before ∧
      opening.kind = .openParen ∧ callee = d.piece ∧
        ((done = [] ∧ tokens = before ++ (d.yield ++ [opening])) ∨
          ∃ comma, ∃ as : Derivation .arguments, comma.kind = .comma ∧ done = as.piece.reverse ∧
            tokens = before ++ (d.yield ++ opening :: (as.yield ++ [comma]))) := by
  generalize hf : (Frame.arguments callee done :: frames) = all at h
  cases h with
  | call h d ho =>
    cases hf
    exact ⟨_, _, d, h, ho, rfl, Or.inl ⟨rfl, rfl⟩⟩
  | next h d as ho hc =>
    cases hf
    exact ⟨_, _, d, h, ho, rfl, Or.inr ⟨_, as, hc, rfl, rfl⟩⟩
  | _ => cases hf

theorem of_parens {start : Nat} (h : Opens (.parens start :: frames) tokens) :
    ∃ before opening, Opens frames before ∧ opening.kind = .openParen ∧ start = opening.start ∧
      tokens = before ++ [opening] := by
  generalize hf : (Frame.parens start :: frames) = all at h
  cases h with
  | parens h ho =>
    cases hf
    exact ⟨_, _, h, ho, rfl, rfl⟩
  | _ => cases hf

end Opens

namespace Represents
open Reading

variable {frames : List Frame} {tokens : List Token} {t : Token} {next : Reading}

theorem takeOperand (h : Opens frames tokens)
    (ht : Reading.takeOperand frames t = some next) : Represents next (tokens ++ [t]) := by
  unfold Reading.takeOperand at ht
  split at ht
  · next hk =>
    cases ht
    exact .holding h (.atom (.number t hk))
  · next hk =>
    cases ht
    exact .holding h (.atom (.name t hk))
  · next hk =>
    cases ht
    exact .needing (.negated h hk)
  · next hk =>
    cases ht
    exact .needing (.parens h hk)
  · next hk =>
    split at ht
    · next callee rest =>
      cases ht
      obtain ⟨before, opening, d, ho, hopen, rfl, hcase⟩ := h.of_arguments
      rcases hcase with ⟨-, rfl⟩ | ⟨comma, as, -, hdone, -⟩
      · have hc := Represents.holding ho (.callNone d opening t hopen hk)
        simpa [yield, piece] using hc
      · exact absurd (List.reverse_eq_nil_iff.mp hdone.symm) as.arguments_ne_nil
    · cases ht
  · cases ht

theorem close (h : Opens frames tokens) (d : Derivation (.expression .applied))
    (hk : t.kind = .closeParen) (ht : Reading.close frames d.piece t.stop = some next) :
    Represents next (tokens ++ d.yield ++ [t]) := by
  obtain ⟨rest, before, s, ha, ho, -, hy⟩ := h.completes_sum (.applied d)
  change Frame.absorb 1 frames d.piece = (rest, s.piece) at ha
  change before ++ s.yield = tokens ++ d.yield at hy
  rw [← hy]
  unfold Reading.close at ht
  rw [ha] at ht
  split at ht
  · next start rest inner hp =>
    cases hp
    cases ht
    obtain ⟨first, opening, hr, hopen, rfl, rfl⟩ := ho.of_parens
    have hc := Represents.holding hr (.atom (.parens opening s t hopen hk))
    simpa [yield, piece] using hc
  · next callee done rest last hp =>
    cases hp
    cases ht
    obtain ⟨first, opening, c, hr, hopen, rfl, hcase⟩ := ho.of_arguments
    rcases hcase with ⟨rfl, rfl⟩ | ⟨comma, as, hcomma, rfl, rfl⟩
    · have hc := Represents.holding hr (.call c opening (.first s) t hopen hk)
      simpa [yield, piece] using hc
    · have hc := Represents.holding hr (.call c opening (.next as comma s hcomma) t hopen hk)
      simpa [yield, piece] using hc
  · cases ht

theorem takeAfter (h : Opens frames tokens) (d : Derivation (.expression .applied))
    (ht : Reading.takeAfter frames d.piece t = some next) :
    Represents next (tokens ++ d.yield ++ [t]) := by
  unfold Reading.takeAfter at ht
  cases hop : operator? t.kind with
  | some op =>
    have hs : t.kind = op.mark := by
      revert hop
      cases t.kind <;> simp [operator?] <;> rintro rfl <;> rfl
    simp only [hop] at ht
    cases ht
    have hcase : (op = .plus ∨ op = .minus) ∨ (op = .times ∨ op = .divide) := by
      cases op <;> simp
    rcases hcase with hsum | hproduct
    · obtain ⟨rest, before, s, ha, ho, hl, hy⟩ := h.completes_sum (.applied d)
      rw [Operator.strength_of_sum hsum]
      change Frame.absorb 1 frames d.piece = (rest, s.piece) at ha
      change before ++ s.yield = tokens ++ d.yield at hy
      rw [ha, ← hy, List.append_assoc]
      exact .needing (.sum ho hl s hsum hs)
    · obtain ⟨rest, before, p, ha, ho, hl, hy⟩ := h.completes_product (.applied d)
      rw [Operator.strength_of_product hproduct]
      change Frame.absorb 2 frames d.piece = (rest, p.piece) at ha
      change before ++ p.yield = tokens ++ d.yield at hy
      rw [ha, ← hy, List.append_assoc]
      exact .needing (.product ho hl p hproduct hs)
  | none =>
    simp only [hop] at ht
    split at ht
    · next hk =>
      cases ht
      have hc := Represents.needing (.call h d hk)
      simpa using hc
    · next hk => exact close h d hk ht
    · next hk =>
      obtain ⟨rest, before, s, ha, ho, -, hy⟩ := h.completes_sum (.applied d)
      change Frame.absorb 1 frames d.piece = (rest, s.piece) at ha
      change before ++ s.yield = tokens ++ d.yield at hy
      rw [← hy]
      rw [ha] at ht
      split at ht
      · next callee done rest argument hp =>
        cases hp
        cases ht
        obtain ⟨first, opening, c, hr, hopen, rfl, hcase⟩ := ho.of_arguments
        rcases hcase with ⟨rfl, rfl⟩ | ⟨comma, as, hcomma, rfl, rfl⟩
        · have hc := Represents.needing (.next hr c (.first s) hopen hk)
          simpa [yield, piece] using hc
        · have hc := Represents.needing (.next hr c (.next as comma s hcomma) hopen hk)
          simpa [yield, piece] using hc
      · cases ht
    · cases ht

theorem take {reading : Reading} (h : Represents reading tokens)
    (ht : reading.take t = some next) : Represents next (tokens ++ [t]) := by
  cases h with
  | needing h => exact takeOperand h ht
  | holding h d => exact takeAfter h d ht

theorem takes {reading : Reading} {more : List Token} (h : Represents reading tokens)
    (ht : reading.takes more = some next) : Represents next (tokens ++ more) := by
  induction more generalizing reading tokens with
  | nil =>
    cases ht
    simpa using h
  | cons t rest ih =>
    rw [takes_cons] at ht
    obtain ⟨middle, hm, hr⟩ := Option.bind_eq_some_iff.mp ht
    have hn := ih (h.take hm) hr
    simpa using hn

end Represents
end Reckoner
