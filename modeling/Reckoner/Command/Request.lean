import Reckoner.Command.Options

/-! # Requests

What a command line asks for. A command line that asks for nothing known is an error of use.
-/
namespace Reckoner.Command

structure EvalRequest where
  expression : Text
  bindings : List Text
  config : Option Text
  standard : Bool
  verbose : Bool
  deriving DecidableEq

inductive Request
  | version
  | help
  | eval (request : EvalRequest)
  | tree (expression : Text)
  deriving DecidableEq

namespace Switch

def version : Switch := ⟨["--version", "-V"], false⟩
def help : Switch := ⟨["--help"], false⟩
def var : Switch := ⟨["--var", "-D"], true⟩
def config : Switch := ⟨["--config", "-c"], true⟩
def standard : Switch := ⟨["--stdlib", "--no-stdlib"], false⟩
def verbose : Switch := ⟨["--verbose"], false⟩

end Switch

/-- A path without the parts that lead nowhere: empty ones and single dots. Two slashes at the start
stay two, more become one. -/
def normalPath (path : Text) : Text :=
  let start := match (path.takeWhile (· == '/')).length with
    | 0 => []
    | 2 => ['/', '/']
    | _ => ['/']
  let parts := (Text.splitAt (· == '/') path).filter fun part => !part.isEmpty && part != ['.']
  let normal := start ++ Text.joined ['/'] parts
  if normal.isEmpty then ['.'] else normal

def readEval (arguments : List Text) : Option Request :=
  (read [.var, .config, .standard, .verbose, .help] true arguments).bind fun a =>
    if a.has .help then some .help
    else
      match a.operands with
      | [expression] =>
        some (.eval
          { expression
            bindings := a.values .var
            config := (a.values .config).getLast?.map normalPath
            standard := (a.spellings .standard).getLast? != some "--no-stdlib".toList
            verbose := a.has .verbose })
      | _ => none

def readTree (arguments : List Text) : Option Request :=
  (read [.help] true arguments).bind fun a =>
    if a.has .help then some .help
    else
      match a.operands with
      | [expression] => some (.tree expression)
      | _ => none

def Request.read (arguments : List Text) : Option Request :=
  (Command.read [.version, .help] false arguments).bind fun a =>
    if a.has .help then some .help
    else if a.has .version then some .version
    else
      match a.operands with
      | [] => none
      | command :: rest =>
        if command = "eval".toList then readEval rest
        else if command = "tree".toList then readTree rest
        else none

end Reckoner.Command
