import Reckoner.Phrase

/-! # Reading phrases

Tokens are taken one at a time. The reader either needs an operand or holds one, and keeps a stack
of what is still open: minus signs and left operands that wait for an operand, and parentheses
and argument lists that wait for their end. An operator first completes whatever on the stack
binds at least as tightly, so equal operators group to the left; a call applies to the operand
held. A token that fits neither situation is the first fault of the source.
-/
namespace Reckoner

structure Piece where
  phrase : Phrase
  start : Nat
  stop : Nat

inductive SyntaxFault
  | character (offset : Nat)
  | token (kind : String) (text : Text) (start : Option Int)
  | ended (lastStart : Nat)
  | other (shown : Text) (offset : Option Int)
  deriving DecidableEq

namespace Piece

def node (rule : Rule) (start stop : Nat) (parts : List Phrase) : Piece :=
  ⟨.node rule (some (start, stop)) parts, start, stop⟩

def ofToken (rule : Rule) (token : Token) : Piece :=
  node rule token.start token.stop [.leaf token.kind.label token.text]

def negated (start : Nat) (operand : Piece) : Piece :=
  node .negate start operand.stop [operand.phrase]

def binary (op : Operator) (left right : Piece) : Piece :=
  node (.binary op) left.start right.stop [left.phrase, right.phrase]

def parens (start stop : Nat) (inner : Piece) : Piece := node .parens start stop [inner.phrase]

/-- The phrase of an argument list, covering it without its parentheses. -/
def argumentList : List Piece → Phrase
  | [] => .absent
  | first :: rest =>
    .node .arguments (some (first.start, ((first :: rest).getLast (by simp)).stop))
      ((first :: rest).map phrase)

def call (callee : Piece) (arguments : List Piece) (stop : Nat) : Piece :=
  node .call callee.start stop [callee.phrase, argumentList arguments]

end Piece

/-- Something that waits for the operand being read. Arguments already read are kept latest
first. -/
inductive Frame
  | negated (start : Nat)
  | operand (op : Operator) (left : Piece)
  | parens (start : Nat)
  | arguments (callee : Piece) (done : List Piece)

namespace Frame

/-- How tightly a frame binds the operand it waits for; brackets do not bind. -/
def strength : Frame → Nat
  | .negated _ => 3
  | .operand op _ => op.strength
  | .parens _ | .arguments .. => 0

def complete : Frame → Piece → Piece
  | .negated start, p => p.negated start
  | .operand op left, p => .binary op left p
  | .parens _, p | .arguments .., p => p

/-- Completes the innermost frames that bind at least as tightly as `least`. -/
def absorb (least : Nat) : List Frame → Piece → List Frame × Piece
  | [], p => ([], p)
  | frame :: rest, p =>
    if least ≤ frame.strength then absorb least rest (frame.complete p) else (frame :: rest, p)

end Frame

/-- What is open, innermost first, and the operand held, if any. -/
structure Reading where
  pending : List Frame
  held : Option Piece

namespace Reading

def start : Reading := ⟨[], none⟩

def operator? : Token.Kind → Option Operator
  | .plus => some .plus
  | .minus => some .minus
  | .star => some .times
  | .slash => some .divide
  | _ => none

def takeOperand (frames : List Frame) (token : Token) : Option Reading :=
  match token.kind with
  | .number => some ⟨frames, some (.ofToken .number token)⟩
  | .name => some ⟨frames, some (.ofToken .reference token)⟩
  | .minus => some ⟨.negated token.start :: frames, none⟩
  | .openParen => some ⟨.parens token.start :: frames, none⟩
  | .closeParen =>
    match frames with
    | .arguments callee [] :: rest => some ⟨rest, some (callee.call [] token.stop)⟩
    | _ => none
  | _ => none

/-- Closes the innermost bracket after an operand. -/
def close (frames : List Frame) (p : Piece) (stop : Nat) : Option Reading :=
  match Frame.absorb 1 frames p with
  | (.parens start :: rest, inner) => some ⟨rest, some (inner.parens start stop)⟩
  | (.arguments callee done :: rest, last) =>
    some ⟨rest, some (callee.call (last :: done).reverse stop)⟩
  | _ => none

def takeAfter (frames : List Frame) (p : Piece) (token : Token) : Option Reading :=
  match operator? token.kind with
  | some op =>
    let absorbed := Frame.absorb op.strength frames p
    some ⟨.operand op absorbed.2 :: absorbed.1, none⟩
  | none =>
    match token.kind with
    | .openParen => some ⟨.arguments p [] :: frames, none⟩
    | .closeParen => close frames p token.stop
    | .comma =>
      match Frame.absorb 1 frames p with
      | (.arguments callee done :: rest, argument) =>
        some ⟨.arguments callee (argument :: done) :: rest, none⟩
      | _ => none
    | _ => none

def take (reading : Reading) (token : Token) : Option Reading :=
  match reading.held with
  | none => takeOperand reading.pending token
  | some p => takeAfter reading.pending p token

/-- The phrase read, if nothing is left open. -/
def finish? (reading : Reading) : Option Phrase :=
  match reading.held with
  | none => none
  | some p =>
    match Frame.absorb 1 reading.pending p with
    | ([], whole) => some whole.phrase
    | _ => none

/-- Takes all tokens. `last` is the start of the token before. -/
def run (reading : Reading) (last : Nat) : List Token → Except SyntaxFault (Reading × Nat)
  | [] => .ok (reading, last)
  | token :: rest =>
    match reading.take token with
    | some next => run next token.start rest
    | none => .error (.token token.kind.label token.text (some token.start))

end Reading

def Phrase.read (source : Text) : Except SyntaxFault Phrase :=
  let scan := Token.scan source
  match Reading.start.run 0 scan.tokens with
  | .error fault => .error fault
  | .ok (reading, last) =>
    match scan.fault with
    | some offset => .error (.character offset)
    | none =>
      match reading.finish? with
      | some phrase => .ok phrase
      | none => .error (.ended last)

end Reckoner
