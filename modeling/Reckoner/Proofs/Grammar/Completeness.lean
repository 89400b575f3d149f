import Reckoner.Proofs.Grammar.Derivation

/-! # The reader follows every derivation

Taking the tokens of a derivation one by one leaves the reader with the piece that the derivation
builds, up to frames that the derivation itself still has open and that the next loose enough token
completes. An invariant for each category says how much may be left open: nothing after an atom or
a call, minus signs after a unary, products after a product, sums after a sum.
-/
namespace Reckoner

/-- How tightly a derivation of a level holds together: whoever binds no more tightly takes it
whole. -/
def Level.strength : Level → Nat
  | .sum => 1
  | .product => 2
  | .unary => 3
  | .applied | .atom => 4

/-- Nothing that binds at least as tightly as `least` waits for the next operand. -/
def Frame.Loose (least : Nat) (frames : List Frame) : Prop :=
  ∀ frame ∈ frames.head?, frame.strength < least

/-- Where an expression of a level may start: its left recursion must not be cut short by what
waits for it. -/
def Level.Fits : Level → List Frame → Prop
  | .sum, frames => Frame.Loose 1 frames
  | .product, frames => Frame.Loose 2 frames
  | .unary, _ | .applied, _ | .atom, _ => True

namespace Frame

@[simp] theorem loose_nil (least : Nat) : Loose least [] := by simp [Loose]

@[simp] theorem loose_cons {least : Nat} {frame : Frame} {rest : List Frame} :
    Loose least (frame :: rest) ↔ frame.strength < least := by simp [Loose]

theorem absorb_of_loose {least : Nat} {frames : List Frame} (h : Loose least frames) (p : Piece) :
    absorb least frames p = (frames, p) := by
  cases frames with
  | nil => rfl
  | cons frame rest =>
    have hf : ¬least ≤ frame.strength := Nat.not_le.mpr (h frame rfl)
    rw [absorb, if_neg hf]

theorem absorb_cons {least : Nat} {frame : Frame} (h : least ≤ frame.strength) (rest : List Frame)
    (p : Piece) : absorb least (frame :: rest) p = absorb least rest (frame.complete p) := by
  rw [absorb, if_pos h]

theorem strength_le (frame : Frame) : frame.strength ≤ 3 := by
  cases frame with
  | operand op => cases op <;> simp [strength, Operator.strength]
  | _ => simp [strength]

theorem loose_four (frames : List Frame) : Loose 4 frames := fun frame _ =>
  Nat.lt_succ_of_le frame.strength_le

theorem Loose.mono {least more : Nat} {frames : List Frame} (h : Loose least frames)
    (hle : least ≤ more) : Loose more frames := fun frame hf => Nat.lt_of_lt_of_le (h frame hf) hle

end Frame

namespace Reading

def takes (reading : Reading) (tokens : List Token) : Option Reading :=
  tokens.foldlM take reading

@[simp] theorem takes_nil (reading : Reading) : reading.takes [] = some reading := rfl

@[simp] theorem takes_cons (reading : Reading) (t : Token) (tokens : List Token) :
    reading.takes (t :: tokens) = (reading.take t).bind fun next => next.takes tokens :=
  List.foldlM_cons

@[simp] theorem takes_append (reading : Reading) (before after : List Token) :
    reading.takes (before ++ after) = (reading.takes before).bind fun next => next.takes after :=
  List.foldlM_append

@[simp] theorem operator?_mark (op : Operator) : operator? op.mark = some op := by
  cases op <;> rfl

theorem take_operator {op : Operator} {sign : Token} (hs : sign.kind = op.mark)
    {frames rest : List Frame} {p left : Piece}
    (h : Frame.absorb op.strength frames p = (rest, left)) :
    take ⟨frames, some p⟩ sign = some ⟨.operand op left :: rest, none⟩ := by
  simp [take, takeAfter, hs, h]

theorem take_opening {t : Token} (ht : t.kind = .openParen) (frames : List Frame) :
    take ⟨frames, none⟩ t = some ⟨.parens t.start :: frames, none⟩ := by
  simp only [take, takeOperand, ht]

theorem take_call {t : Token} (ht : t.kind = .openParen) (frames : List Frame) (p : Piece) :
    take ⟨frames, some p⟩ t = some ⟨.arguments p [] :: frames, none⟩ := by
  simp only [take, takeAfter, ht, operator?]

theorem take_closing {t : Token} (ht : t.kind = .closeParen) (frames : List Frame) (p : Piece) :
    take ⟨frames, some p⟩ t = close frames p t.stop := by
  simp only [take, takeAfter, ht, operator?]

theorem take_noArguments {t : Token} (ht : t.kind = .closeParen) (frames : List Frame) (p : Piece) :
    take ⟨.arguments p [] :: frames, none⟩ t = some ⟨frames, some (.call p [] t.stop)⟩ := by
  simp only [take, takeOperand, ht]

theorem take_comma {t : Token} (ht : t.kind = .comma) {frames rest : List Frame}
    {p callee argument : Piece} {done : List Piece}
    (h : Frame.absorb 1 frames p = (.arguments callee done :: rest, argument)) :
    take ⟨frames, some p⟩ t = some ⟨.arguments callee (argument :: done) :: rest, none⟩ := by
  simp only [take, takeAfter, ht, operator?, h]

end Reading

namespace Derivation
open Reading

/-- What the reader is left with after a derivation. An expression may leave frames open as long as
they complete to its piece; arguments leave the last one pending. -/
def Follows : {c : Category} → Derivation c → Prop
  | .expression level, d => ∀ frames, level.Fits frames →
      ∃ rest p, takes ⟨frames, none⟩ d.yield = some ⟨rest, some p⟩ ∧
        ∀ least ≤ level.strength, Frame.absorb least rest p = Frame.absorb least frames d.piece
  | .arguments, d => ∀ callee frames,
      ∃ rest p initial last, takes ⟨.arguments callee [] :: frames, none⟩ d.yield =
          some ⟨rest, some p⟩ ∧ d.piece = initial ++ [last] ∧
        Frame.absorb 1 rest p = (.arguments callee initial.reverse :: frames, last)

/-- After an atom or a call nothing is left open. -/
theorem Follows.exact {level : Level} {d : Derivation (.expression level)} (h : d.Follows)
    (hl : level.strength = 4) {frames : List Frame} (hf : level.Fits frames) :
    takes ⟨frames, none⟩ d.yield = some ⟨frames, some d.piece⟩ := by
  obtain ⟨rest, p, ht, ha⟩ := h frames hf
  have he := ha 4 (Nat.le_of_eq hl.symm)
  rw [Frame.absorb_of_loose (Frame.loose_four _), Frame.absorb_of_loose (Frame.loose_four _),
    Prod.mk.injEq] at he
  rw [ht, he.1, he.2]

/-- One round of a left-recursive level: the left side is completed by the operator, which then
waits for the right side. -/
theorem follows_binary {left : Level} {right : Level} {op : Operator}
    {l : Derivation (.expression left)} {r : Derivation (.expression right)} {sign : Token}
    (hl : l.Follows) (hr : r.Follows) (hs : sign.kind = op.mark) (ho : op.strength = left.strength)
    (hright : ∀ frames p, right.Fits (.operand op p :: frames))
    (hle : left.strength ≤ right.strength) {frames : List Frame} (hf : left.Fits frames)
    (hloose : Frame.Loose left.strength frames) :
    ∃ rest p, takes ⟨frames, none⟩ (l.yield ++ sign :: r.yield) = some ⟨rest, some p⟩ ∧
      ∀ least ≤ left.strength,
        Frame.absorb least rest p = Frame.absorb least frames (.binary op l.piece r.piece) := by
  obtain ⟨rest₁, p₁, h₁, ha₁⟩ := hl frames hf
  have habs : Frame.absorb op.strength rest₁ p₁ = (frames, l.piece) := by
    rw [ho, ha₁ _ (Nat.le_refl _), Frame.absorb_of_loose hloose]
  obtain ⟨rest₂, p₂, h₂, ha₂⟩ := hr (.operand op l.piece :: frames) (hright _ _)
  refine ⟨rest₂, p₂, ?_, fun least hleast => ?_⟩
  · simp [h₁, take_operator hs habs, h₂]
  · have hs : least ≤ (Frame.operand op l.piece).strength := by
      rw [Frame.strength, ho]
      exact hleast
    rw [ha₂ _ (Nat.le_trans hleast hle), Frame.absorb_cons hs]
    rfl

theorem follows {c : Category} (d : Derivation c) : d.Follows := by
  induction d with
  | number t ht =>
    intro frames _
    refine ⟨frames, _, ?_, fun _ _ => rfl⟩
    simp [yield, piece, take, takeOperand, ht]
  | name t ht =>
    intro frames _
    refine ⟨frames, _, ?_, fun _ _ => rfl⟩
    simp [yield, piece, take, takeOperand, ht]
  | parens opening inner closing ho hc ih =>
    intro frames _
    have hloose : Frame.Loose 1 (.parens opening.start :: frames) :=
      Frame.loose_cons.mpr Nat.one_pos
    obtain ⟨rest, p, ht, ha⟩ := ih (.parens opening.start :: frames) hloose
    refine ⟨frames, _, ?_, fun _ _ => rfl⟩
    have habs := ha 1 (Nat.le_refl _)
    rw [Frame.absorb_of_loose hloose] at habs
    simp [yield, piece, take_opening ho, ht, take_closing hc, close, habs]
  | atom d ih => exact ih
  | callNone callee opening closing ho hc ih =>
    intro frames hf
    refine ⟨frames, _, ?_, fun _ _ => rfl⟩
    simp [yield, piece, ih.exact rfl hf, take_call ho, take_noArguments hc]
  | call callee opening arguments closing ho hc ih iha =>
    intro frames hf
    obtain ⟨rest, p, initial, last, ht, hp, habs⟩ := iha callee.piece frames
    refine ⟨frames, _, ?_, fun _ _ => rfl⟩
    simp [yield, piece, ih.exact rfl hf, take_call ho, ht, take_closing hc, close, habs, hp]
  | applied d ih =>
    intro frames _
    exact ⟨frames, _, ih.exact rfl trivial, fun _ _ => rfl⟩
  | negate sign operand hs ih =>
    intro frames _
    obtain ⟨rest, p, ht, ha⟩ := ih (.negated sign.start :: frames) trivial
    refine ⟨rest, p, ?_, fun least hle => ?_⟩
    · simp [yield, take, takeOperand, hs, ht]
    · rw [ha least hle, Frame.absorb_cons hle]
      rfl
  | unary d ih =>
    intro frames _
    obtain ⟨rest, p, ht, ha⟩ := ih frames trivial
    exact ⟨rest, p, ht, fun least hle => ha least (Nat.le_succ_of_le hle)⟩
  | multiply op left sign right hop hs ihl ihr =>
    intro frames hf
    have ho : op.strength = 2 := by rcases hop with rfl | rfl <;> rfl
    exact follows_binary ihl ihr hs ho (fun _ _ => trivial) (by decide) hf hf
  | product d ih =>
    intro frames hf
    obtain ⟨rest, p, ht, ha⟩ := ih frames (Frame.Loose.mono hf (by decide))
    exact ⟨rest, p, ht, fun least hle => ha least (Nat.le_succ_of_le hle)⟩
  | add op left sign right hop hs ihl ihr =>
    intro frames hf
    have ho : op.strength = 1 := by rcases hop with rfl | rfl <;> rfl
    refine follows_binary ihl ihr hs ho (fun frames p => Frame.loose_cons.mpr ?_) (by decide) hf hf
    simp [Frame.strength, ho]
  | first d ih =>
    intro callee frames
    have hloose : Frame.Loose 1 (.arguments callee [] :: frames) :=
      Frame.loose_cons.mpr Nat.one_pos
    obtain ⟨rest, p, ht, ha⟩ := ih (.arguments callee [] :: frames) hloose
    have habs := ha 1 (Nat.le_refl _)
    rw [Frame.absorb_of_loose hloose] at habs
    exact ⟨rest, p, [], d.piece, ht, rfl, habs⟩
  | next before comma d hc ihb ihd =>
    intro callee frames
    obtain ⟨rest₁, p₁, initial, last, h₁, hp, habs₁⟩ := ihb callee frames
    have hloose : Frame.Loose 1 (.arguments callee (last :: initial.reverse) :: frames) :=
      Frame.loose_cons.mpr Nat.one_pos
    obtain ⟨rest₂, p₂, h₂, ha⟩ := ihd (.arguments callee (last :: initial.reverse) :: frames) hloose
    have habs₂ := ha 1 (Nat.le_refl _)
    rw [Frame.absorb_of_loose hloose] at habs₂
    refine ⟨rest₂, p₂, before.piece, d.piece, ?_, rfl, ?_⟩
    · simp [yield, h₁, take_comma hc habs₁, h₂]
    · rw [habs₂, hp, List.reverse_append, List.reverse_singleton, List.singleton_append]

end Derivation

end Reckoner
