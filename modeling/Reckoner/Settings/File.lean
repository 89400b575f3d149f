import Reckoner.Settings
import Reckoner.Text.Utf8
import Reckoner.Toml.Document

/-! # Settings files

A settings file is a TOML document with the settings in its table `calc`. Settings stay at their
defaults where there is no file, no such table or nothing in it, and also, with a warning, where
the file cannot be opened or is not well formed. A file that is not text is refused, and so is one
with a number too long or with values nested too deep to be read.
-/
namespace Reckoner

inductive FileState
  | missing
  | directory
  | contents (bytes : List UInt8)

namespace Settings

structure Loaded where
  settings : Settings
  warned : Bool

inductive LoadFault
  | notText (fault : Utf8.Fault)
  | digits
  | stack
  | invalid (complaints : List Complaint)
  deriving DecidableEq

def ofDocument (root : Bindings Datum) : Except (List Complaint) Settings :=
  match root.find? "calc".toList with
  | none => .ok default
  | some given => if given.isPresent then ofDatum given else .ok default

/-- Reads a settings file with so many places on the stack. -/
def load (room : Nat) : FileState → Except LoadFault Loaded
  | .missing => .ok ⟨default, false⟩
  | .directory => .ok ⟨default, true⟩
  | .contents bytes =>
    match Utf8.decode bytes with
    | .error fault => .error (.notText fault)
    | .ok text =>
      match Toml.Document.read room text with
      | .error .malformed => .ok ⟨default, true⟩
      | .error .digits => .error .digits
      | .error .stack => .error .stack
      | .ok root =>
        match ofDocument root with
        | .ok settings => .ok ⟨settings, false⟩
        | .error complaints => .error (.invalid complaints)

end Settings

end Reckoner
