import Kaleidoscope.Code.Machine

/-!
# Settings of the command

What the command is asked to do: run a file, evaluate lines as they come, or show the tokens or
trees of lines. Options may stand before or after the word for the activity. A first argument that
is no option and no such word is the path of a file.
-/
namespace Kaleidoscope

/-- What runs the code. -/
inductive Engine where
  /-- The interpreter of this library. -/
  | machine
  /-- A compiler for real machines, which is not part of this program. -/
  | compiler
deriving DecidableEq

/-- What the command does. -/
inductive Activity where
  /-- Run a file. -/
  | file (path : String)
  /-- Evaluate lines. -/
  | evaluate
  /-- Show the tokens of lines. -/
  | tokens
  /-- Show the forms of lines. -/
  | forms
deriving DecidableEq

/-- The options of the command. -/
structure Settings where
  /-- What runs the code. -/
  engine : Engine
  /-- Whether the listing of every unit is shown. -/
  listing : Bool
  /-- The limit of frames. -/
  limit : Nat
  /-- Whether the outline of every form is shown. -/
  outline : Bool
deriving DecidableEq

namespace Settings

/-- The settings without options. -/
def standard : Settings := ⟨.machine, false, Code.Environment.standardLimit, false⟩

end Settings

/-- The arguments read so far. -/
structure Request where
  /-- The options. -/
  settings : Settings
  /-- The word for the activity. -/
  word : Option String
  /-- The path of a file. -/
  path : Option String
deriving DecidableEq

namespace Request

/-- The words for activities. -/
def words : List String := ["run", "repl", "lex", "parse"]

/-- A natural number as an option gives it. -/
def readNatural? (text : String) : Option Nat :=
  let digits := match text.toList with
    | '+' :: rest => rest
    | all => all
  if digits.isEmpty || !digits.all Char.isDigit then none
  else some (digits.foldl (fun value digit => 10 * value + (digit.toNat - '0'.toNat)) 0)

/-- Choose what runs the code. -/
def setEngine (request : Request) (name : String) : Option Request :=
  match name with
  | "vm" => some { request with settings := { request.settings with engine := .machine } }
  | "llvm" => some { request with settings := { request.settings with engine := .compiler } }
  | _ => none

/-- Choose the limit of frames. -/
def setLimit (request : Request) (number : String) : Option Request :=
  (readNatural? number).map fun limit =>
    { request with settings := { request.settings with limit := limit } }

/-- Take an argument that is no option: a word for an activity, unless the arguments say that only
paths follow, or else a path. -/
def addPlain (request : Request) (pathsOnly : Bool) (argument : String) : Option Request :=
  if !pathsOnly && request.word.isNone && words.contains argument then
    some { request with word := some argument, path := none }
  else match request.word, request.path with
    | none, none | some "run", none => some { request with path := some argument }
    | _, _ => none

/-- What follows the start of an argument. -/
def after? (start argument : String) : Option String :=
  if start.isPrefixOf argument then some (argument.drop start.length).toString else none

/-- Read arguments; none if they cannot be understood. -/
def read? (request : Request) (pathsOnly : Bool) : List String → Option Request
  | [] => some request
  | argument :: rest =>
    if pathsOnly then (request.addPlain true argument).bind (read? · true rest)
    else if argument = "--" then read? request true rest
    else if argument = "--dump-unit" then
      read? { request with settings := { request.settings with listing := true } } false rest
    else if argument = "--print-ast" then
      read? { request with settings := { request.settings with outline := true } } false rest
    else if argument = "--backend" || argument = "-b" then
      match rest with
      | name :: rest => (request.setEngine name).bind (read? · false rest)
      | [] => none
    else if argument = "--max-call-depth" then
      match rest with
      | number :: rest => (request.setLimit number).bind (read? · false rest)
      | [] => none
    else match after? "--backend=" argument, after? "--max-call-depth=" argument,
        after? "-b=" argument, after? "-b" argument with
      | some name, _, _, _ | none, none, some name, _ | none, none, none, some name =>
        (request.setEngine name).bind (read? · false rest)
      | none, some number, _, _ => (request.setLimit number).bind (read? · false rest)
      | none, none, none, none =>
        if "-".isPrefixOf argument && argument ≠ "-" then none
        else (request.addPlain false argument).bind (read? · false rest)

/-- The activity that was asked for. -/
def activity? (request : Request) : Option Activity :=
  match request.word, request.path with
  | none, none | some "repl", _ => some .evaluate
  | none, some path | some "run", some path => some (.file path)
  | some "lex", _ => some .tokens
  | some "parse", _ => some .forms
  | _, _ => none

/-- The activity and the settings that some arguments ask for. -/
def ofArguments? (arguments : List String) : Option (Activity × Settings) := do
  let request ← read? ⟨.standard, none, none⟩ false arguments
  let activity ← request.activity?
  some (activity, request.settings)

end Request

end Kaleidoscope
