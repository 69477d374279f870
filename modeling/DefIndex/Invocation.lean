import DefIndex.Text.Basic

/-!
# `DefIndex.Invocation`: reading a command line

A command line names one command with its own options and argument.
Options that concern every command may stand anywhere. An option takes
its value after an equals sign or as the next word; short flags may be
run together. After `--` every word is an argument.
-/

set_option autoImplicit false

namespace DefIndex

/-- How answers are written; the pretty form is plain text as well. -/
inductive OutputFormat where
  | json
  | pretty
  | text
deriving DecidableEq, Repr

/-- What a command line asks for. -/
inductive Command where
  | index
  | check (warnings : Bool)
  | define (name : Text) (context : Bool)
  | refs (name : Text)
  | children (name : Option Text)
  | complete (typed : Text) (file : Option Text) (line : Option Nat)
  | symbols (pattern : Text) (fuzzy : Bool)
deriving DecidableEq, Repr

/-- The options of every command. -/
structure OutputOptions where
  format : OutputFormat
  quiet : Bool
  concise : Bool
deriving DecidableEq, Repr

/-- A command line that was understood. -/
inductive Invocation where
  | version
  | run (command : Command) (root : Text) (output : OutputOptions)
deriving DecidableEq, Repr

namespace Invocation

/-- The words of a command line, sorted out. -/
structure Words where
  /-- Option names with their values; a flag has an empty one. -/
  options : List (Text × Text)
  arguments : List Text
deriving DecidableEq, Repr

/-- Options that take a value. -/
def valued : List Text := ["root", "format", "file", "line"]

/-- Options that take none. -/
def flags : List Text := ["quiet", "concise", "version", "warnings", "context", "fuzzy"]

/-- The long name of a short option. -/
def longName? : Char → Option Text
  | 'r' => some "root"
  | 'q' => some "quiet"
  | 'w' => some "warnings"
  | 'V' => some "version"
  | _ => none

/-- Add an option to what follows it. -/
def Words.option (name value : Text) (rest : Option Words) : Option Words :=
  rest.map fun w => { w with options := (name, value) :: w.options }

/-- Add an argument to what follows it. -/
def Words.argument (t : Text) (rest : Option Words) : Option Words :=
  rest.map fun w => { w with arguments := t :: w.arguments }

/-- A run of short options: the flags, and the option at its end that
takes a value, with the value if it is part of the run. -/
def shortRun? : Text → Option (List Text × Option (Text × Option Text))
  | [] => some ([], none)
  | c :: rest => do
    let name ← longName? c
    if name ∈ valued then
      match rest with
      | [] => return ([], some (name, none))
      | '=' :: value => return ([], some (name, some value))
      | value => return ([], some (name, some value))
    else
      let (names, last) ← shortRun? rest
      return (name :: names, last)

/-- Add flags to what follows them. -/
def Words.flagsThen (names : List Text) (rest : Option Words) : Option Words :=
  names.foldr (fun name rest => Words.option name [] rest) rest

/-- Sort out the words of a command line. -/
def sortOut : List Text → Option Words
  | [] => some ⟨[], []⟩
  | word :: rest =>
    match word with
    | ['-', '-'] => some ⟨[], rest⟩
    | '-' :: '-' :: body =>
      let name := body.takeWhile (· != '=')
      match body.drop name.length with
      | '=' :: value =>
        if name ∈ valued then Words.option name value (sortOut rest) else none
      | _ =>
        if name ∈ flags then Words.option name [] (sortOut rest)
        else if name ∈ valued then
          match rest with
          | value :: rest => Words.option name value (sortOut rest)
          | [] => none
        else none
    | '-' :: c :: body =>
      match shortRun? (c :: body) with
      | none => none
      | some (names, none) => Words.flagsThen names (sortOut rest)
      | some (names, some (name, some value)) =>
        Words.flagsThen names (Words.option name value (sortOut rest))
      | some (names, some (name, none)) =>
        match rest with
        | value :: rest => Words.flagsThen names (Words.option name value (sortOut rest))
        | [] => none
    | _ => Words.argument word (sortOut rest)

/-- Whether a flag was given. -/
def Words.has (w : Words) (name : Text) : Bool := w.options.any fun o => o.1 = name

/-- The value of an option; the last one counts, because what stands
after the command goes before what stands in front of it. -/
def Words.value? (w : Words) (name : Text) : Option Text := w.options.reverse.lookup name

/-- A number in decimal digits, with a plus sign or without. -/
def number? (t : Text) : Option Nat :=
  let digits := match t with
    | '+' :: rest => rest
    | rest => rest
  if digits.isEmpty || !digits.all Char.isDigit then none
  else some (digits.foldl (fun n c => 10 * n + (c.toNat - '0'.toNat)) 0)

/-- The format of a name; JSON if none is given. -/
def formatOf? : Option Text → Option OutputFormat
  | none => some .json
  | some t =>
    if t = "json" then some .json
    else if t = "pretty" then some .pretty
    else if t = "text" then some .text
    else none

/-- The command of the arguments. -/
def commandOf? (w : Words) : Option Command :=
  match w.arguments with
  | [] => none
  | name :: arguments =>
    if name = "index" then
      if arguments.isEmpty then some .index else none
    else if name = "check" then
      if arguments.isEmpty then some (.check (w.has "warnings")) else none
    else if name = "children" then
      match arguments with
      | [] => some (.children none)
      | [parent] => some (.children (some parent))
      | _ => none
    else
      match arguments with
      | [argument] =>
        if name = "def" then some (.define argument (w.has "context"))
        else if name = "refs" then some (.refs argument)
        else if name = "symbols" then some (.symbols argument (w.has "fuzzy"))
        else if name = "complete" then
          match w.value? "file", w.value? "line" with
          | file, none => some (.complete argument file none)
          | some file, some line =>
            (number? line).map fun n => .complete argument (some file) (some n)
          | none, some _ => none
        else none
      | _ => none

/-- Understand a command line. -/
def parse? (words : List Text) : Option Invocation := do
  let w ← sortOut words
  if w.has "version" then return .version
  let format ← formatOf? (w.value? "format")
  let command ← commandOf? w
  return .run command ((w.value? "root").getD ".")
    ⟨format, w.has "quiet", w.has "concise"⟩

end Invocation

end DefIndex
