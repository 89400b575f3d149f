import Reckoner.Toml.Scalar

/-! # Values of a TOML document

Arrays may spread over lines and hold comments; inline tables may not, and no part of a table
given there may be added to later on. `steps` bounds the number of brackets and separators still to
be read, of which a text has no more than characters.
-/
namespace Reckoner.Toml

/-- Why a text is not read: it is not well formed, an integer in it has more digits than are
converted, or it is nested too deep for the stack. -/
inductive Fault
  | malformed
  | digits
  | stack
  deriving DecidableEq

/-- What was read, unless the text is not well formed. -/
def wellFormed {α : Type} : Option α → Except Fault α
  | some a => .ok a
  | none => .error .malformed

abbrev Path := List Text

/-- Changes the table at the end of a path, making tables for keys that are missing. A key that
holds a list of tables stands for the last of them where `throughLists` allows it. -/
def update (throughLists : Bool) (change : Bindings Datum → Option (Bindings Datum)) :
    Path → Bindings Datum → Option (Bindings Datum)
  | [], entries => change entries
  | k :: path, entries =>
    match entries.find? k with
    | none => (update throughLists change path []).map fun t => entries.insert k (.table t)
    | some (.table t) =>
      (update throughLists change path t).map fun t' => entries.insert k (.table t')
    | some (.list items) =>
      match throughLists, items.getLast? with
      | true, some (.table t) =>
        (update throughLists change path t).map fun t' =>
          entries.insert k (.list (items.dropLast ++ [.table t']))
      | _, _ => none
    | some _ => none

def addNew (name : Text) (value : Datum) (entries : Bindings Datum) : Option (Bindings Datum) :=
  match entries.find? name with
  | none => some (entries.insert name value)
  | some _ => none

def assign (throughLists : Bool) (path : Path) (value : Datum) (entries : Bindings Datum) :
    Option (Bindings Datum) :=
  match path.getLast? with
  | some name => update throughLists (addNew name value) path.dropLast entries
  | none => none

def isCompound : Datum → Bool
  | .list _ | .table _ => true
  | _ => false

/-- Whether a path is one of the given ones or leads on from one of them. -/
def isUnder (paths : List Path) (path : Path) : Bool :=
  !path.isEmpty && paths.any fun p => p.isPrefixOf path

def skipLayout : Nat → Text → Option Text
  | 0, text => some text
  | steps + 1, text =>
    match text.dropWhile isBlankOrLineEnd with
    | '#' :: rest => (skipComment? ('#' :: rest)).bind (skipLayout steps)
    | rest => some rest

def skipAllLayout (text : Text) : Option Text := skipLayout text.length text

/-- Whether a datum, read from a text up to `rest`, is an integer in decimals that is too long. -/
def isOverlong (text rest : Text) : Datum → Bool
  | .integer _ =>
    let numeral := text.take (text.length - rest.length)
    numeral.head? != some '0' && Numeral.longest < numeral.countP Text.isDigit
  | _ => false

mutual

/-- A value, read when `places` of the stack are taken, of which there are `room`. -/
def value (room : Nat) : Nat → Nat → Text → Except Fault (Datum × Text)
  | 0, _, _ => .error .malformed
  | steps + 1, places, text =>
    if room < places then .error .stack
    else
      match text with
      | '[' :: rest => do
        let rest ← wellFormed (skipAllLayout rest)
        match rest with
        | ']' :: more => pure (.list [], more)
        | rest => do
          let (read, more) ← items room steps (places + 2) rest
          pure (.list read, more)
      | '\x7b' :: rest =>
        match skipBlanks rest with
        | '\x7d' :: more => pure (.table [], more)
        | rest => do
          let (entries, more) ← pairs room steps (places + 3) [] [] rest
          pure (.table entries, more)
      | text => do
        let (datum, rest) ← wellFormed (scalar text)
        if isOverlong text rest datum then .error .digits else pure (datum, rest)

def items (room : Nat) : Nat → Nat → Text → Except Fault (List Datum × Text)
  | 0, _, _ => .error .malformed
  | steps + 1, places, text => do
    let (item, rest) ← value room steps places text
    let rest ← wellFormed (skipAllLayout rest)
    match rest with
    | ']' :: more => pure ([item], more)
    | ',' :: more => do
      let more ← wellFormed (skipAllLayout more)
      match more with
      | ']' :: after => pure ([item], after)
      | more => do
        let (others, after) ← items room steps places more
        pure (item :: others, after)
    | _ => .error .malformed

def pairs (room : Nat) :
    Nat → Nat → Bindings Datum → List Path → Text → Except Fault (Bindings Datum × Text)
  | 0, _, _, _, _ => .error .malformed
  | steps + 1, places, entries, closed, text => do
    let (path, rest) ← wellFormed (key text)
    let rest ← wellFormed (mark '=' rest)
    let (datum, rest) ← value room steps places (skipBlanks rest)
    if isUnder closed path then .error .malformed
    else do
      let entries ← wellFormed (assign false path datum entries)
      match skipBlanks rest with
      | '\x7d' :: more => pure (entries, more)
      | ',' :: more =>
        pairs room steps places entries (if isCompound datum then path :: closed else closed)
          (skipBlanks more)
      | _ => .error .malformed

end

def pair (room : Nat) (text : Text) : Except Fault ((Path × Datum) × Text) := do
  let (path, rest) ← wellFormed (key text)
  let rest ← wellFormed (mark '=' rest)
  let (datum, rest) ← value room (2 * rest.length + 2) 0 (skipBlanks rest)
  pure ((path, datum), rest)

end Reckoner.Toml
