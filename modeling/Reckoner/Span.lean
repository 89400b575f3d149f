import Reckoner.Datum.Lenient
import Reckoner.Text.Utf8

/-! # Spans

A span is the half-open range of character offsets `start..stop` of a source that some part of an
expression was read from. It lies inside the source it belongs to, and selects the same text
whether counted in characters or in the bytes of the source.
-/
namespace Reckoner

structure Span where
  start : Nat
  stop : Nat
  deriving DecidableEq, BEq

namespace Span

/-- A span that ends no earlier than it starts and no later than a source of `length`. -/
def Within (span : Span) (length : Nat) : Prop := span.start ≤ span.stop ∧ span.stop ≤ length

instance (span : Span) (length : Nat) : Decidable (span.Within length) :=
  inferInstanceAs (Decidable (_ ∧ _))

def text (span : Span) (source : Text) : Text :=
  (source.drop span.start).take (span.stop - span.start)

def bytes (span : Span) (source : Text) : Span :=
  let start := Utf8.size (source.take span.start)
  ⟨start, start + Utf8.size (span.text source)⟩

def written (span : Span) : Text := Text.ofNat span.start ++ "..".toList ++ Text.ofNat span.stop

/-- Checks both ends against zero, then the range against a source of `length`. -/
def check (length : Nat) (start stop : Except Complaint.Cause Int) :
    Except (List Complaint) Span :=
  let complaints (name : String) : Except Complaint.Cause Int → List Complaint
    | .ok _ => []
    | .error cause => [⟨[name.toList], cause⟩]
  match start, stop with
  | .ok s, .ok e =>
    if s ≤ e ∧ e ≤ length then .ok ⟨s.toNat, e.toNat⟩
    else .error [⟨[], .outsideSource s e length⟩]
  | s, e => .error (complaints "start" s ++ complaints "end" e)

def ofBounds (length : Nat) (start stop : Int) : Except (List Complaint) Span :=
  let bound (n : Int) := Datum.toIntegerWithin 0 none (.integer n)
  check length (bound start) (bound stop)

def ofData (source start stop : Datum) : Except (List Complaint) (Text × Span) :=
  let s := Datum.toIntegerWithin 0 none start
  let e := Datum.toIntegerWithin 0 none stop
  match source with
  | .text t => (check t.length s e).map (t, ·)
  | _ =>
    let bounds := match check 0 s e with
      | .error complaints => complaints.filter fun c => !c.path.isEmpty
      | .ok _ => []
    .error (⟨["source".toList], .textExpected⟩ :: bounds)

end Span

end Reckoner
