import DefIndex.Settings

/-!
# `DefIndex.Toml.Tree`: the tree of a settings file

A settings file is a tree of `Node`s. A table may be opened by a header,
by dotted keys or by the way to a deeper header, and a key may be set
once.

* `insert?` sets a key of a table.
* `descend?` changes the table that a header names; `openTable` and
  `openRow` are what a header does there.
* `set?` sets a key under the current header.
-/

set_option autoImplicit false

namespace DefIndex.Toml

/-- How a table came to be. -/
inductive Origin where
  /-- On the way to a deeper header. -/
  | passing
  /-- By a dotted key. -/
  | dotted
  /-- By its own header. -/
  | header
deriving DecidableEq, Repr

/-- A place in the tree of a document. -/
inductive Node where
  | value (value : SettingValue)
  | table (origin : Origin) (entries : List (Text × Node))
  /-- A list of tables by double headers, the last one first. -/
  | tables (rows : List (List (Text × Node)))
deriving Repr

/-- The entries of a table. -/
abbrev Entries := List (Text × Node)

/-- Replace the entry under a name, or add one at the end. -/
def put (entries : Entries) (name : Text) (node : Node) : Entries :=
  if entries.any fun e => e.1 = name then
    entries.map fun e => if e.1 = name then (name, node) else e
  else entries ++ [(name, node)]

/-- Set a key of a table. Every part but the last leads into a table: a new
one, one of other dotted keys, one that was only passed on the way to a
header, or the last row of a list of tables. The last part is set in a
table of dotted keys, or in the table that the key starts from;
`own` tells whether the table at hand is one of these. -/
def insert? (leaf : SettingValue) (own : Bool) (entries : Entries) :
    List Text → Option Entries
  | [] => none
  | [name] =>
    match own, entries.lookup name with
    | true, none => some (entries ++ [(name, .value leaf)])
    | _, _ => none
  | name :: names =>
    match entries.lookup name with
    | none =>
      (insert? leaf true [] names).map fun inner => put entries name (.table .dotted inner)
    -- A table that has its own header is closed to dotted keys elsewhere.
    | some (.table .header _) => none
    | some (.table origin inner) =>
      (insert? leaf (origin = .dotted) inner names).map fun inner =>
        put entries name (.table origin inner)
    | some (.tables (row :: rows)) =>
      (insert? leaf false row names).map fun row => put entries name (.tables (row :: rows))
    | some _ => none

/-- Change the table that a header names, on the way opening tables that
do not exist yet. `last` decides about the last part. -/
def descend? (last : Option Node → Option Node) (entries : Entries) :
    List Text → Option Entries
  | [] => none
  | [name] => (last (entries.lookup name)).map (put entries name)
  | name :: names =>
    match entries.lookup name with
    | none =>
      (descend? last [] names).map fun inner => put entries name (.table .passing inner)
    | some (.table origin inner) =>
      (descend? last inner names).map fun inner => put entries name (.table origin inner)
    -- The way leads through the row that was opened last.
    | some (.tables (row :: rows)) =>
      (descend? last row names).map fun row => put entries name (.tables (row :: rows))
    | some _ => none

/-- Open a table by its header: a new one, or one that was only passed. -/
def openTable : Option Node → Option Node
  | none => some (.table .header [])
  | some (.table .passing entries) => some (.table .header entries)
  | some _ => none

/-- Open the next table of a list by a double header. -/
def openRow : Option Node → Option Node
  | none => some (.tables [[]])
  | some (.tables rows) => some (.tables ([] :: rows))
  | some _ => none

/-- Set a key of the table that a header has opened. -/
def setIn (leaf : SettingValue) (key : List Text) : Option Node → Option Node
  | some (.table origin entries) => (insert? leaf true entries key).map (.table origin)
  | some (.tables (row :: rows)) =>
    (insert? leaf true row key).map fun row => .tables (row :: rows)
  | _ => none

/-- Set a key under the current header. -/
def set? (entries : Entries) (header key : List Text) (leaf : SettingValue) :
    Option Entries :=
  match header with
  | [] => insert? leaf true entries key
  | _ => descend? (setIn leaf key) entries header

end DefIndex.Toml
