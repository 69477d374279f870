import DefIndex.Snapshot

/-!
# `DefIndex.Publisher`: keeping a client's view of the problems

A client shows, for each file, the last list of problems it was sent. The
publisher remembers which files have a list that is not empty and which
snapshot it sent last. A snapshot older than that is not sent. Otherwise
every file with problems is sent, and every file that had some and has
none now is sent an empty list, whether it is still indexed or has
vanished.
-/

set_option autoImplicit false

namespace DefIndex

/-- What a client has been sent. -/
structure Publisher where
  /-- The files whose list at the client is not empty, in order. -/
  published : List Path
  /-- The version of the snapshot sent last. -/
  version : Nat
deriving DecidableEq, Repr

/-- A list of problems for a file, sent to a client. -/
structure FileReport where
  file : Path
  diagnostics : List Diagnostic
deriving DecidableEq, Repr

namespace Publisher

/-- Nothing sent yet. -/
def start : Publisher := ⟨[], 0⟩

/-- The reports on indexed files: those with problems, and those whose
problems are gone. Only absolute paths can be named to a client. -/
def current (p : Publisher) (s : Snapshot) : List FileReport :=
  (s.diagnostics.filter fun entry =>
    entry.1.absolute && (!entry.2.isEmpty || decide (entry.1 ∈ p.published))).map
      fun entry => ⟨entry.1, entry.2⟩

/-- The files of reports that are not empty. -/
def nonEmptyFiles (reports : List FileReport) : List Path :=
  (reports.filter fun r => !r.diagnostics.isEmpty).map FileReport.file

/-- The empty reports on files that are no longer indexed. -/
def vanished (p : Publisher) (s : Snapshot) : List FileReport :=
  (p.published.filter fun file => file.absolute && !s.covers file).map fun file => ⟨file, []⟩

/-- Send the problems of a snapshot. -/
def publish (p : Publisher) (s : Snapshot) : List FileReport × Publisher :=
  if s.version < p.version then ([], p)
  else
    let reports := p.current s
    (reports ++ p.vanished s, ⟨nonEmptyFiles reports, s.version⟩)

end Publisher

end DefIndex
