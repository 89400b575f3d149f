import Reckoner.Toml.Value

/-! # TOML documents

A document is read statement by statement: a pair, the header of a table, or the header of a table
in an array of tables. A table may have one header only, and none once dotted keys of an earlier
section went through it; what an array or an inline table holds is closed for good.
-/
namespace Reckoner.Toml

structure Document where
  root : Bindings Datum
  /-- The section that pairs belong to. -/
  header : Path
  /-- Tables that can have no further header. -/
  declared : List Path
  /-- Tables that dotted keys of the current section went through. -/
  passed : List Path
  closed : List Path

namespace Document

def empty : Document := ⟨[], [], [], [], []⟩

def isDeclared (d : Document) (path : Path) : Bool := !path.isEmpty && d.declared.contains path

/-- Ends a section: the tables its dotted keys went through count as declared. -/
def endSection (d : Document) : Document :=
  { d with declared := d.passed ++ d.declared, passed := [] }

def openTable (d : Document) (path : Path) : Option Document :=
  if d.isDeclared path || isUnder d.closed path then none
  else
    (update true some path d.root).map fun root =>
      { d with root, header := path, declared := path :: d.declared }

def appendTable (name : Text) (entries : Bindings Datum) : Option (Bindings Datum) :=
  match entries.find? name with
  | none => some (entries.insert name (.list [.table []]))
  | some (.list items) => some (entries.insert name (.list (items ++ [.table []])))
  | some _ => none

/-- Starts the next table of an array. What was declared inside the one before is open again. -/
def openItem (d : Document) (path : Path) : Option Document :=
  if isUnder d.closed path then none
  else
    match path.getLast? with
    | none => none
    | some name =>
      (update true (appendTable name) path.dropLast d.root).map fun root =>
        let outside (p : Path) := !path.isPrefixOf p
        { d with
          root
          header := path
          declared := path :: d.declared.filter outside
          closed := d.closed.filter outside }

/-- The tables that a dotted key goes through, outermost first. -/
def through (header path : Path) : List Path :=
  (List.range (path.length - 1)).map fun i => header ++ path.take (i + 1)

def addPair (d : Document) (path : Path) (datum : Datum) : Option Document :=
  let passes := through d.header path
  let parent := d.header ++ path.dropLast
  if passes.any d.isDeclared || isUnder d.closed parent then none
  else
    (assign true (d.header ++ path) datum d.root).map fun root =>
      { d with
        root
        passed := passes ++ d.passed
        closed := if isCompound datum then (d.header ++ path) :: d.closed else d.closed }

def statement (room : Nat) (d : Document) : Text → Except Fault (Document × Text)
  | '[' :: '[' :: rest => wellFormed do
    let (path, rest) ← key (skipBlanks rest)
    let d ← d.endSection.openItem path
    let rest ← mark ']' rest
    let rest ← mark ']' rest
    pure (d, rest)
  | '[' :: rest => wellFormed do
    let (path, rest) ← key (skipBlanks rest)
    let d ← d.endSection.openTable path
    let rest ← mark ']' rest
    pure (d, rest)
  | '#' :: rest => pure (d, '#' :: rest)
  | text => do
    let ((path, datum), rest) ← pair room text
    let d ← wellFormed (d.addPair path datum)
    pure (d, rest)

def readLines (room : Nat) : Nat → Document → Text → Except Fault Document
  | 0, _, _ => .error .malformed
  | lines + 1, d, text =>
    match skipBlanks text with
    | [] => pure d
    | '\n' :: rest => readLines room lines d rest
    | start => do
      let (d, rest) ← d.statement room start
      let rest ← wellFormed (skipComment? (skipBlanks rest))
      match rest with
      | [] => pure d
      | '\n' :: more => readLines room lines d more
      | _ => .error .malformed

/-- The table that a text describes, read with so many places on the stack. -/
def read (room : Nat) (text : Text) : Except Fault (Bindings Datum) :=
  let text := Text.contract '\r' '\n' '\n' text
  (readLines room (text.length + 1) empty text).map root

end Document

end Reckoner.Toml
