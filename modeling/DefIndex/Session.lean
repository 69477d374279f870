import DefIndex.Document
import DefIndex.Host
import DefIndex.Publisher
import DefIndex.Text.Quoted
import DefIndex.Uri

/-!
# `DefIndex.Session`: a conversation with an editor

A session is started by a request, then told that the editor is ready,
and ended by a request. In between it answers questions about the open
texts. The index is rebuilt from disk when the editor is ready and on
every save; questions about a cursor read the open text, which may differ
from the disk.

* `Session.notify` takes a notice and gives the messages to send.
* `Session.request` takes a request and gives a reply or a refusal.
  Before the start and after the end every request is refused, and every
  notice is dropped.
-/

set_option autoImplicit false

namespace DefIndex

/-! ### What goes over the wire -/

/-- A cursor in a document. -/
structure Cursor where
  uri : Uri
  position : Position
deriving DecidableEq, Repr

/-- A stretch of a file, as an editor counts. -/
structure Place where
  uri : Uri
  range : Range
deriving DecidableEq, Repr

/-- A problem that an editor shows and wants fixed. -/
structure Reported where
  message : Text
  range : Range
deriving DecidableEq, Repr

/-- A definition in an answer to a symbol search. -/
structure Symbol where
  name : Text
  kind : Kind
  place : Place
  container : Option Text
deriving DecidableEq, Repr

/-- An edit that fixes a problem. -/
structure Fix where
  title : Text
  range : Range
  text : Text
  /-- Which of the reported problems it fixes, if any. -/
  reported : Option Nat
deriving DecidableEq, Repr

/-- What an editor asks for. -/
inductive Request where
  | start (root : Option Uri) (folders : List Uri)
  | stop
  | definition (cursor : Cursor)
  | hover (cursor : Cursor)
  | references (cursor : Cursor) (withDeclaration : Bool)
  | symbols (query : Text)
  | complete (cursor : Cursor)
  | fixes (cursor : Cursor) (reported : List Reported)

/-- What an editor is answered; nothing where it found nothing. -/
inductive Reply where
  | started
  | stopped
  | place (place : Option Place)
  | hover (text : Option Text)
  | places (places : Option (List Place))
  | symbols (symbols : Option (List Symbol))
  | candidates (candidates : Option (List Candidate))
  | fixes (uri : Uri) (fixes : Option (List Fix))

/-- Why a request is refused. -/
inductive Refusal where
  | notStarted
  | invalid
  /-- A text stands where an identifier should be. -/
  | badUri (source : Text) (fault : Uri.Fault)
deriving DecidableEq, Repr

/-- What an editor tells. -/
inductive Notice where
  | ready
  | opened (uri : Uri) (text : Text) (version : Int)
  | changed (uri : Uri) (changes : List Change) (version : Int)
  | saved
  | closed (uri : Uri)

/-- What a session tells an editor. -/
inductive Message where
  | problems (uri : Uri) (diagnostics : List Diagnostic)
  | failure (text : Text)

/-- The wording of a refusal. -/
def Refusal.message : Refusal → Text
  | notStarted => "Server not initialized"
  | invalid => "Invalid request"
  | badUri source fault => fault.message ++ ": " ++ Text.quoted source

/-- The code of a refusal. -/
def Refusal.code : Refusal → Int
  | notStarted => -32002
  | invalid => -32600
  | badUri _ _ => -32602

/-- The name of the server in its messages. -/
def serverName : Text := "parsaur-lsp"

/-- The version of the server. -/
def serverVersion : Text := "0.1.0"

/-- The number that stands for a form among symbols. -/
def Kind.symbolNumber : Kind → Nat
  | tag => 14
  | int => 16
  | base => 5
  | grid => 23
  | list => 10
  | link => 11
  | constructor => 9
  | inherit => 19

/-- The number that stands for a form among completions. -/
def Kind.completionNumber : Kind → Nat
  | tag => 21
  | int => 12
  | base => 7
  | grid => 22
  | list => 13
  | link => 18
  | constructor => 4
  | inherit => 8

/-- The number that stands for a candidate among completions. -/
def CandidateKind.completionNumber : CandidateKind → Nat
  | definition kind => kind.completionNumber
  | keyword => 14

/-- The number that stands for a severity. -/
def Severity.number : Severity → Nat
  | error => 1
  | warning => 2

/-! ### Places -/

/-- A location as an editor counts it. -/
def Location.range (l : Location) : Range :=
  { start := ⟨.ofNat (l.line - 1), .ofNat (l.column - 1)⟩
    stop := ⟨.ofNat (l.endLine - 1), .ofNat (l.endColumn - 1)⟩ }

/-- The place of a location. -/
def Location.place? (l : Location) : Option Place :=
  (Uri.ofPath? l.file).map (⟨·, l.range⟩)

/-! ### The definition under a cursor -/

/-- The definition that a cursor stands on. A word that names a
definition counts if it is marked as a reference or if the definition is
declared in the same file; otherwise a declared name under the cursor
counts. The line and column that declarations are compared with wrap
around in 32 bits. -/
def Snapshot.definitionUnder? (s : Snapshot) (file : Path) (line : Text) (p : Position) :
    Option Definition :=
  (Word.at? line p.character.toNat).bind fun word =>
    let declared :=
      (s.table.inFile file).find? fun d =>
        d.location.line == (p.line + 1).toNat
          && decide (d.location.column ≤ (p.character + 1).toNat)
          && decide ((p.character + 1).toNat ≤ d.location.endColumn)
    -- A word without a mark may be part of another name in this file, so it
    -- counts only where its definition stands.
    match s.table.lookup word.name with
    | some d => if word.referenced || d.location.file = file then some d else declared
    | none => declared

/-- The text shown for a definition. -/
def Definition.hoverText (d : Definition) : Text :=
  let file := d.location.file.fileName?.getD "unknown"
  ("**" : Text) ++ d.kind.phrase ++ "** \x60" ++ d.fullName ++ "\x60"
    ++ (match d.target with
      | some target => "\n\n*Inherits* \x60" ++ target ++ "\x60"
      | none => ([] : Text))
    ++ (if d.children.isEmpty then ([] : Text)
      else "\n\n*Children:* " ++ Text.join ", " d.children)
    ++ "\n\n---\n\n*Defined in* \x60" ++ file ++ "\x60 *at line "
    ++ Text.ofNat d.location.line ++ "*"

/-! ### Sessions -/

/-- How far a session has come. -/
inductive Phase where
  | waiting
  | running
  | ended
deriving DecidableEq, Repr

/-- A conversation with an editor. -/
structure Session where
  phase : Phase
  root : Option Path
  workspace : Option Workspace
  /-- The open texts. -/
  documents : List (Path × Document)
  publisher : Publisher

namespace Session

/-- A session that has not been started. -/
def fresh : Session := ⟨.waiting, none, none, [], .start⟩

/-- The published snapshot, if there is a workspace. -/
def snapshot? (s : Session) : Option Snapshot := s.workspace.map Workspace.current

/-- The open text of a file, or the text on disk. -/
def document? (s : Session) (h : Host) (file : Locator) : Option Document :=
  match s.documents.lookup file.path with
  | some d => some d
  | none =>
    match h.disk.read file with
    | .ok text => some ⟨text, 0⟩
    | .error _ => none

/-- The line of a cursor. -/
def line? (s : Session) (h : Host) (file : Locator) (p : Position) : Option Text :=
  (s.document? h file).bind fun d => d.line? p.line.toNat

/-- Set or forget the open text of a path. -/
def setDocument (s : Session) (p : Path) (d : Option Document) : Session :=
  let others := s.documents.filter fun entry => entry.1 ≠ p
  { s with documents := (d.map fun d => (p, d)).toList ++ others }

/-! ### Notices -/

/-- The messages that carry reports to the editor. -/
def messagesOf (reports : List FileReport) : List Message :=
  reports.filterMap fun r => (Uri.ofPath? r.file).map (Message.problems · r.diagnostics)

/-- Rebuild the index and send the problems, or tell why that failed. -/
def rebuild (s : Session) (h : Host) : List Message × Session :=
  match s.workspace with
  | none => ([.failure "No workspace root set"], s)
  | some w =>
    let (result, w) := h.rebuild w
    let s := { s with workspace := some w }
    match result with
    | .error e => ([.failure ("Index rebuild failed: " ++ e.fullMessage)], s)
    | .ok snapshot =>
      let (reports, publisher) := s.publisher.publish snapshot
      (messagesOf reports, { s with publisher := publisher })

/-- Take a notice in a running session. -/
def take (s : Session) (h : Host) : Notice → List Message × Session
  | .ready =>
    match s.root with
    | none => ([], s)
    | some root => { s with workspace := some (h.openWorkspace root) }.rebuild h
  | .opened uri text version =>
    match uri.filePath? with
    | some p => ([], s.setDocument p (some ⟨text, version⟩))
    | none => ([], s)
  | .changed uri changes version =>
    match uri.filePath? with
    | some p =>
      match s.documents.lookup p with
      | some d => ([], s.setDocument p (some (d.apply changes version)))
      | none => ([], s)
    | none => ([], s)
  | .saved => s.rebuild h
  | .closed uri =>
    match uri.filePath? with
    | some p => ([], s.setDocument p none)
    | none => ([], s)

/-- Take a notice. -/
def notify (s : Session) (h : Host) (n : Notice) : List Message × Session :=
  match s.phase with
  | .running => s.take h n
  | _ => ([], s)

/-! ### Requests -/

/-- The snapshot and the full name of the definition under a cursor. -/
def nameUnder? (s : Session) (h : Host) (c : Cursor) : Option (Snapshot × Text) := do
  let file ← c.uri.locator?
  let snapshot ← s.snapshot?
  let line ← s.line? h file c.position
  let d ← snapshot.definitionUnder? file.path line c.position
  return (snapshot, d.fullName)

/-- A list, or nothing if it is empty. -/
def unlessEmpty {α : Type} (xs : List α) : Option (List α) :=
  if xs.isEmpty then none else some xs

/-- Where the definition under a cursor is declared. -/
def definition (s : Session) (h : Host) (c : Cursor) : Option Place := do
  let (snapshot, name) ← s.nameUnder? h c
  (← snapshot.resolve? name).place?

/-- What to show for the definition under a cursor. -/
def hover (s : Session) (h : Host) (c : Cursor) : Option Text := do
  let (snapshot, name) ← s.nameUnder? h c
  return (← snapshot.table.lookup name).hoverText

/-- The references to the definition under a cursor, its declaration
first if wanted. -/
def references (s : Session) (h : Host) (c : Cursor) (withDeclaration : Bool) :
    Option (List Place) := do
  let (snapshot, name) ← s.nameUnder? h c
  let uses := (snapshot.referencesTo name).filterMap Location.place?
  let declared :=
    if withDeclaration then ((snapshot.resolve? name).bind Location.place?).toList else []
  unlessEmpty (declared ++ uses)

/-- How many symbols an answer lists at most. -/
def symbolLimit : Nat := 50

/-- The definitions that a query finds: those that match it as a pattern,
else those whose full name contains it ignoring case. -/
def symbols (s : Session) (query : Text) : Option (List Symbol) :=
  let query := Text.trim query
  if query.isEmpty then some []
  else
    s.snapshot?.map fun (snapshot : Snapshot) =>
      let table := snapshot.table
      let found : List Definition :=
        match table.search query with
        | [] =>
          let needle := Text.toLower query
          table.definitions.filter fun d => Text.holds needle (Text.toLower d.fullName)
        | found => found
      (found.take symbolLimit).filterMap fun d =>
        d.location.place?.map fun place =>
          ⟨d.name, d.kind, place, if d.context.isEmpty then none else some d.context⟩

/-- What may be typed at a cursor. -/
def complete (s : Session) (h : Host) (c : Cursor) : Option (List Candidate) := do
  let file ← c.uri.locator?
  let snapshot ← s.snapshot?
  let document ← s.document? h file
  unlessEmpty (Completion.atEnd snapshot.table file.path (document.before c.position))

/-- Replacements for the terms of reported problems. -/
def termFixes (table : Table) (reported : List Reported) : List Fix :=
  reported.zipIdx.flatMap fun (r, ix) =>
    match Diagnostic.termOf? r.message with
    | some term =>
      (table.similarNames term).map fun suggestion =>
        ⟨"Replace with " ++ suggestion.value, r.range, suggestion.value, some ix⟩
    | none => []

/-- Keywords that the word at a position may have been meant as. -/
def wordFixes (line : Text) (p : Position) : List Fix :=
  match Word.at? line p.character.toNat with
  | some word =>
    let range : Range := ⟨⟨p.line, .ofNat word.start⟩, ⟨p.line, .ofNat word.stop⟩⟩
    (Suggestion.keywordFixes word.text Keyword.all).map fun keyword =>
      ⟨"Change to " ++ keyword, range, keyword, none⟩
  | none => []

/-- The fixes for reported problems and for the word at a cursor. -/
def fixes (s : Session) (h : Host) (c : Cursor) (reported : List Reported) :
    Option (List Fix) := do
  let file ← c.uri.locator?
  let snapshot ← s.snapshot?
  let onWord :=
    match s.line? h file c.position with
    | some line => wordFixes line c.position
    | none => []
  unlessEmpty (termFixes snapshot.table reported ++ onWord)

/-- The folder that a start request names: its root, else its first
workspace folder. -/
def rootOf (root : Option Uri) (folders : List Uri) : Option Path :=
  (root.bind Uri.filePath?).or (folders.head?.bind Uri.filePath?)

/-- Answer a question in a running session. -/
def answer (s : Session) (h : Host) : Request → Except Refusal Reply × Session
  | .start _ _ => (.error .invalid, s)
  | .stop => (.ok .stopped, { s with phase := .ended })
  | .definition c => (.ok (.place (s.definition h c)), s)
  | .hover c => (.ok (.hover (s.hover h c)), s)
  | .references c withDeclaration => (.ok (.places (s.references h c withDeclaration)), s)
  | .symbols query => (.ok (.symbols (s.symbols query)), s)
  | .complete c => (.ok (.candidates (s.complete h c)), s)
  | .fixes c reported => (.ok (.fixes c.uri (s.fixes h c reported)), s)

/-- Take a request. -/
def request (s : Session) (h : Host) (r : Request) : Except Refusal Reply × Session :=
  match s.phase with
  | .running => s.answer h r
  | .ended => (.error .invalid, s)
  | .waiting =>
    match r with
    | .start root folders =>
      (.ok .started, { s with phase := .running, root := rootOf root folders })
    | _ => (.error .notStarted, s)

/-- Why a request is refused that could not be understood, given whether it
is a start request. Whether a session takes the request at all goes first. -/
def refusal (s : Session) (starts : Bool) (r : Refusal) : Refusal :=
  match s.phase, starts with
  | .running, false => r
  | .waiting, true => r
  | .waiting, false => .notStarted
  | _, _ => .invalid

end Session

end DefIndex
