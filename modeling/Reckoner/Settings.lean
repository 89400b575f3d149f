import Reckoner.Datum.Lenient
import Reckoner.Limits
import Reckoner.Standard

/-! # Settings

How deep expressions may nest, whether the standard names are bound, and further constants. Read
from data, every setting that is given is checked, and all complaints are collected.
-/
namespace Reckoner

structure Settings where
  maxDepth : Nat
  standard : Bool
  constants : Bindings Float

namespace Settings

def default : Settings := ⟨Limits.defaultNesting, true, []⟩

def depthLimit : Nat := 10000

def limits (settings : Settings) (stack : Nat) : Limits := ⟨settings.maxDepth, stack⟩

/-- The standard names, if they are wanted, with the constants over them. -/
def environment {η : Type} (settings : Settings) : Environment η :=
  let base : Environment η := if settings.standard then .standard else []
  Bindings.overlay base (settings.constants.map fun entry => (entry.1, .number entry.2))

def setting {α : Type} (name : String) (initial : α) (read : Datum → Except Complaint.Cause α)
    (entries : Bindings Datum) : Except (List Complaint) α :=
  match entries.find? name.toList with
  | none => .ok initial
  | some datum =>
    match read datum with
    | .ok value => .ok value
    | .error cause => .error [⟨[name.toList], cause⟩]

/-- The numbers of a table of constants, or the complaints about its entries. -/
def constantsOf : Bindings Datum → Except (List Complaint) (Bindings Float)
  | [] => .ok []
  | (name, datum) :: rest =>
    match datum.toNumber, constantsOf rest with
    | .ok x, .ok others => .ok ((name, x) :: others)
    | .ok _, .error complaints => .error complaints
    | .error cause, others =>
      let complaint : Complaint := ⟨["constants".toList, name], cause⟩
      match others with
      | .ok _ => .error [complaint]
      | .error complaints => .error (complaint :: complaints)

def readConstants (entries : Bindings Datum) : Except (List Complaint) (Bindings Float) :=
  match entries.find? "constants".toList with
  | none => .ok []
  | some (.table constants) => constantsOf constants
  | some _ => .error [⟨["constants".toList], .tableExpected⟩]

def complaints {α : Type} : Except (List Complaint) α → List Complaint
  | .ok _ => []
  | .error found => found

/-- Checks each setting that the data has and takes the default for the others. -/
def ofDatum : Datum → Except (List Complaint) Settings
  | .table entries =>
    let depth := setting "max_depth" (default.maxDepth : Int)
      (Datum.toIntegerWithin 1 (some depthLimit)) entries
    let standard := setting "stdlib" default.standard Datum.toBoolean entries
    let constants := readConstants entries
    match depth, standard, constants with
    | .ok d, .ok s, .ok c => .ok ⟨d.toNat, s, c⟩
    | d, s, c => .error (complaints d ++ complaints s ++ complaints c)
  | _ => .error [⟨[], .settingsExpected⟩]

end Settings

end Reckoner
