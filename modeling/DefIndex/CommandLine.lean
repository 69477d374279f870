import DefIndex.Host
import DefIndex.Invocation
import DefIndex.JsonValue

/-!
# `DefIndex.CommandLine`: answering one question about a workspace

Every command indexes the workspace from disk and answers one question.
The exit code is 0 for an answer, 1 if nothing was found or the check
found errors, and 2 if the workspace could not be indexed.

Answers go to the output as JSON or as text. A quiet command writes no
text beside its JSON.
-/

set_option autoImplicit false

namespace DefIndex

/-- What a command leaves behind. -/
structure Outcome where
  code : Nat
  stdout : Text
  stderr : Text
deriving DecidableEq, Repr

namespace CommandLine

/-- The version that the command line tells. -/
def versionLine : Text := "prs 0.1.0"

/-! ### Writing -/

/-- Lines, each with its line end. -/
def unlines (lines : List Text) : Text := lines.flatMap fun l => l ++ ['\n']

/-- Lines, or nothing for a quiet command. -/
def unlessQuiet (out : OutputOptions) (lines : List Text) : Text :=
  if out.quiet then [] else unlines lines

/-- Whether answers are JSON. -/
def isJson (out : OutputOptions) : Bool := out.format == .json

/-- A field of an object. -/
def field (name : String) (v : JsonValue) : Text × JsonValue := (name.toList, v)

/-- A JSON answer. -/
def jsonText (out : OutputOptions) (v : JsonValue) : Text :=
  unlines [if out.concise then v.compact else v.pretty]

/-- A list of texts. -/
def jsonTexts (ts : List Text) : JsonValue := .list (ts.map .text)

/-- A path. -/
def jsonPath (p : Path) : JsonValue := .text p.render

/-- A location with all its fields, in order of declaration. -/
def jsonLocation (l : Location) : JsonValue :=
  .object
    [field "file" (jsonPath l.file), field "line" (.number l.line),
      field "column" (.number l.column), field "end_line" (.number l.endLine),
      field "end_column" (.number l.endColumn)]

/-- A diagnostic. -/
def jsonDiagnostic (d : Diagnostic) : JsonValue :=
  .object [field "message" (.text d.message), field "severity" (.text d.severity.text),
    field "location" (jsonLocation d.location)]

/-- A candidate; a keyword has no detail. -/
def jsonCandidate (c : Candidate) : JsonValue :=
  let kind : JsonValue :=
    match c.kind with
    | .keyword => .text "keyword"
    | .definition k => .object [field "definition" (.text k.label)]
  .object ([field "label" (.text c.label), field "kind" kind]
    ++ (c.detail.map fun d => field "detail" (.text d)).toList)

/-- Fields of a definition in a list of definitions. -/
def definitionFields (concise : Bool) (d : Definition) : List (Text × JsonValue) :=
  if concise then
    [field "full_name" (.text d.fullName), field "file" (jsonPath d.location.file),
      field "line" (.number d.location.line)]
  else
    [field "name" (.text d.name), field "full_name" (.text d.fullName),
      field "kind" (.text d.kind.label), field "file" (jsonPath d.location.file),
      field "line" (.number d.location.line), field "column" (.number d.location.column)]

/-- A place as file, line and column. -/
def placeText (l : Location) : Text :=
  l.file.render ++ ":" ++ Text.ofNat l.line ++ ":" ++ Text.ofNat l.column

/-- The line of a definition in a list of definitions. -/
def definitionLine (d : Definition) : Text :=
  Text.padRight 40 d.fullName ++ " " ++ d.location.file.render ++ ":"
    ++ Text.ofNat d.location.line ++ ":"
    ++ Text.padRight 8 (Text.ofNat d.location.column) ++ " " ++ d.kind.label

/-- A list of definitions. -/
def listDefinitions (out : OutputOptions) (ds : List Definition) : Text :=
  if isJson out then
    jsonText out (.list (ds.map fun d => .record (definitionFields out.concise d)))
  else unlessQuiet out (ds.map definitionLine)

/-- The exit code for a list of answers. -/
def foundCode {α : Type} (answers : List α) : Nat := if answers.isEmpty then 1 else 0

/-- The line for a name that is not defined. -/
def notFoundLine (name : Text) : Text := "Definition not found: " ++ name

/-! ### Commands -/

/-- The counts of the workspace. -/
def runIndex (s : Snapshot) (out : OutputOptions) : Outcome :=
  let sum := s.summary
  if isJson out then
    let failures :=
      if out.concise || s.readFailures.isEmpty then []
      else
        [field "read_failures" (.list (s.readFailures.map fun f =>
          .record [field "file" (jsonPath f.file), field "message" (.text f.message)]))]
    let counts :=
      [field "version" (.number sum.version), field "files" (.number sum.files),
        field "definitions" (.number sum.definitions),
        field "references" (.number sum.references), field "errors" (.number sum.errors),
        field "warnings" (.number sum.warnings), field "unreadable" (.number sum.unreadable)]
    ⟨0, jsonText out (.record (counts ++ failures)), []⟩
  else
    let line : Text :=
      "Indexed " ++ Text.ofNat sum.definitions ++ " definitions in " ++ Text.ofNat sum.files
        ++ " files (" ++ Text.ofNat sum.references ++ " references, "
        ++ Text.ofNat sum.errors ++ " errors, " ++ Text.ofNat sum.warnings ++ " warnings)"
    let unreadable : List Text := s.readFailures.map fun f =>
      "  Unreadable: " ++ f.file.render ++ " (" ++ f.message ++ ")"
    ⟨0, unlessQuiet out (line :: unreadable), []⟩

/-- The problems of the workspace. -/
def runCheck (s : Snapshot) (warnings : Bool) (out : OutputOptions) : Outcome :=
  let shown := s.allDiagnostics.filter fun d => warnings || d.isError
  let code := if s.count .error > 0 then 1 else 0
  if isJson out then ⟨code, jsonText out (.list (shown.map jsonDiagnostic)), []⟩
  else
    let counts : Text :=
      Text.ofNat (s.count .error) ++ " errors, " ++ Text.ofNat (s.count .warning) ++ " warnings"
    ⟨code, unlines (shown.map Diagnostic.display), unlessQuiet out [counts]⟩

/-- The source line of a location. -/
def sourceLine? (h : Host) (l : Location) : Option Text :=
  match h.disk.read (h.absolute l.file) with
  | .ok text => if l.line = 0 then none else (Text.lines text)[l.line - 1]?
  | .error _ => none

/-- One definition, with its source line if wanted. -/
def showDefinition (h : Host) (d : Definition) (context : Bool) (out : OutputOptions) : Text :=
  let line? := if context then sourceLine? h d.location else none
  if isJson out then
    let place :=
      [field "file" (jsonPath d.location.file), field "line" (.number d.location.line),
        field "column" (.number d.location.column)]
    let more :=
      [field "name" (.text d.name), field "full_name" (.text d.fullName),
        field "kind" (.text d.kind.label), field "children" (jsonTexts d.children)]
    let target := (d.target.map fun t => field "target" (.text t)).toList
    let source := (line?.map fun t => field "context" (.text t)).toList
    jsonText out (.record (place ++ (if out.concise then [] else more ++ target) ++ source))
  else
    unlessQuiet out (placeText d.location :: (line?.map fun t => "    " ++ Text.trim t).toList)

/-- The definition of a name: by its full name, else by loose search. -/
def findDefinition? (s : Snapshot) (name : Text) : Option Definition :=
  (s.table.lookup name).or (s.table.searchNode name)

/-- Where a name is defined. -/
def runDefine (h : Host) (s : Snapshot) (name : Text) (context : Bool) (out : OutputOptions) :
    Outcome :=
  let name := dropSigils name
  match findDefinition? s name with
  | some d => ⟨0, showDefinition h d context out, []⟩
  | none =>
    let suggestions := s.table.similarNames name
    if isJson out then
      ⟨1, jsonText out (.record
        [field "error" (.text "Definition not found"), field "name" (.text name),
          field "suggestions" (jsonTexts (suggestions.map Suggestion.value))]), []⟩
    else
      let hints : List Text :=
        if suggestions.isEmpty then []
        else ("Did you mean:" : Text) :: suggestions.map fun g =>
          "  " ++ g.value ++ " (distance: " ++ Text.ofNat g.distance ++ ")"
      ⟨1, [], unlessQuiet out (notFoundLine name :: hints)⟩

/-- The references to a full name. -/
def runRefs (s : Snapshot) (name : Text) (out : OutputOptions) : Outcome :=
  let name := dropSigils name
  if !s.table.contains name then ⟨1, [], unlessQuiet out [notFoundLine name]⟩
  else
    let uses := s.referencesTo name
    if isJson out then
      let place (l : Location) : JsonValue :=
        .record [field "file" (jsonPath l.file), field "line" (.number l.line),
          field "column" (.number l.column)]
      ⟨0, jsonText out (.list (uses.map place)), []⟩
    else ⟨0, unlessQuiet out (uses.map placeText), []⟩

/-- The definitions below a full name, or at the top. -/
def runChildren (s : Snapshot) (name : Option Text) (out : OutputOptions) : Outcome :=
  match dropSigils (name.getD []) with
  | [] => ⟨0, listDefinitions out s.table.roots, []⟩
  | name =>
    if s.table.contains name then ⟨0, listDefinitions out (s.table.children name), []⟩
    else ⟨1, [], unlessQuiet out [notFoundLine name]⟩

/-- The text above a line of a file, each line with a line end. -/
def linesAbove (text : Text) (line : Nat) : Text := unlines ((Text.lines text).take (line - 1))

/-- The file that completion assumes if none is given. -/
def assumedFile : Text := "input.mql"

/-- The candidates for typed text. Without a mark or a dot, keywords come
first: those for everything above the given line of the given file. -/
def candidates (h : Host) (s : Snapshot) (typed : Text) (file : Option Text)
    (line : Option Nat) : Except Text (List Candidate) :=
  if Completion.wantsDefinitions typed then .ok (Completion.members s.table typed)
  else do
    let path := Path.parse (file.getD assumedFile)
    let lead ←
      match file, line with
      | some name, some n =>
        match h.disk.read (h.locator name) with
        | .ok text => pure (linesAbove text n)
        | .error e => .error ("Failed to read " ++ name ++ ": " ++ e.message)
      | _, _ => pure []
    return Completion.keywords path lead ++ Completion.members s.table []

/-- The part of the typed text that narrows the candidates: what follows
its last dot, in upper case. -/
def partialOf (typed : Text) : Text :=
  Text.toUpper (dropSigils (Text.takeEndWhile (· != '.') typed))

/-- What may be typed next. -/
def runComplete (h : Host) (s : Snapshot) (typed : Text) (file : Option Text)
    (line : Option Nat) (out : OutputOptions) : Except Text Outcome := do
  let all ← candidates h s typed file line
  let found := all.filter fun c =>
    (Text.dropStart? (partialOf typed) (Text.toUpper c.label)).isSome
  let lines := found.map fun c =>
    match c.detail with
    | some detail => Text.padRight 30 c.label ++ " " ++ detail
    | none => c.label
  let stdout :=
    if isJson out then jsonText out (.list (found.map jsonCandidate))
    else unlessQuiet out lines
  return ⟨foundCode found, stdout, []⟩

/-- How many names a search by distance lists at most. -/
def fuzzyLimit : Nat := 100

/-- The definitions whose full names lie near a text. -/
def runFuzzy (s : Snapshot) (query : Text) (out : OutputOptions) : Outcome :=
  let near := Suggestion.findSimilar query s.table.fullNames Suggestion.defaultDistance fuzzyLimit
  let found := near.filterMap fun g => (s.table.lookup g.value).map (·, g.distance)
  let stdout :=
    if isJson out then
      jsonText out (.list (found.map fun (d, distance) => .record
        (definitionFields out.concise d ++ [field "distance" (.number distance)])))
    else
      unlessQuiet out (found.map fun (d, distance) =>
        definitionLine d ++ " (distance: " ++ Text.ofNat distance ++ ")")
  ⟨foundCode found, stdout, []⟩

/-- The definitions that match a pattern. -/
def runSymbols (s : Snapshot) (pattern : Text) (fuzzy : Bool) (out : OutputOptions) : Outcome :=
  let pattern := dropSigils pattern
  if fuzzy then runFuzzy s pattern out
  else
    let found := s.table.search pattern
    let hints :=
      if !found.isEmpty || isJson out then []
      else
        match s.table.similarNames pattern with
        | [] => []
        | suggestions =>
          ("No matches. Did you mean:" : Text) :: suggestions.map fun g => "  " ++ g.value
    ⟨foundCode found, listDefinitions out found, unlessQuiet out hints⟩

/-- Answer a command about a snapshot. -/
def answer (h : Host) (s : Snapshot) (out : OutputOptions) : Command → Except Text Outcome
  | .index => .ok (runIndex s out)
  | .check warnings => .ok (runCheck s warnings out)
  | .define name context => .ok (runDefine h s name context out)
  | .refs name => .ok (runRefs s name out)
  | .children name => .ok (runChildren s name out)
  | .complete typed file line => runComplete h s typed file line out
  | .symbols pattern fuzzy => .ok (runSymbols s pattern fuzzy out)

/-! ### Running -/

/-- Index the workspace and answer a command. -/
def execute (h : Host) (command : Command) (root : Text) (out : OutputOptions) :
    Except Text Outcome := do
  let path ←
    match h.disk.canonical (h.locator root) with
    | .ok path => pure path
    | .error e =>
      .error ("Failed to resolve root directory " ++ root ++ ": " ++ e.message)
  match (h.rebuild (h.openWorkspace path)).1 with
  | .error e => .error ("Failed to index workspace: " ++ e.fullMessage)
  | .ok snapshot => answer h snapshot out command

/-- The outcome of a command that failed. -/
def failure (out : OutputOptions) (message : Text) : Outcome :=
  if isJson out then
    ⟨2, [], unlines [(JsonValue.record
      [field "error" (.text "CommandFailed"), field "message" (.text message)]).compact]⟩
  else ⟨2, [], unlines ["Error: " ++ message]⟩

/-- Run a command line. -/
def run (h : Host) (words : List Text) : Outcome :=
  match Invocation.parse? words with
  | none => ⟨2, [], unlines ["error: the command line was not understood"]⟩
  | some .version => ⟨0, unlines [versionLine], []⟩
  | some (.run command root out) =>
    match execute h command root out with
    | .ok outcome => outcome
    | .error message => failure out message

end CommandLine

end DefIndex
