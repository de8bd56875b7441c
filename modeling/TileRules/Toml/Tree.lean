import TileRules.Toml

/-!
# Toml tree — tables built from headers and dotted keys

The lines of a document fall into sections: one for the document itself and one behind every header
`[path]` or `[[path]]`. Tables come into being in three ways, and only some of them may be added to
later:

- a header defines a table, once;
- a header of a longer path implies the tables above it, and a later header may define those;
- a dotted key implies tables too, and further dotted keys of the same section may add to them.

`Tree.ofSections?` joins all sections into one table, if no table or key is defined twice.
-/

namespace TileRules
namespace Toml

/-- How a table came into being. -/
inductive Origin
  | header
  | implied
  | dotted
  deriving DecidableEq, Repr

/-- A value or a table under construction. -/
inductive Tree
  | leaf (value : Toml)
  | table (origin : Origin) (members : List (String × Tree))
  /-- The tables of one `[[path]]`; headers and keys below it add to the last one. -/
  | tables (items : List (List (String × Tree)))
  deriving Repr

/-- A key, as the path of names before its last one and that name, with its value. -/
structure Entry where
  path : List String
  key : String
  value : Toml
  deriving Repr

/-- The entries behind one header; the document itself has the empty path. -/
structure Section where
  path : List String
  isArray : Bool
  entries : List Entry
  deriving Repr

namespace Tree

/-- The members of a table under construction. -/
abbrev Members := List (String × Tree)

/-- Puts a value in place of the one under a name, or at the end. -/
def put (name : String) (tree : Tree) : Members → Members
  | [] => [(name, tree)]
  | (other, old) :: rest =>
      if other = name then (name, tree) :: rest else (other, old) :: put name tree rest

/-- Changes the last of a list of tables. -/
def changeLast (change : Members → Option Members) : List Members → Option (List Members)
  | [] => none
  | [last] => (change last).map fun last => [last]
  | first :: rest => (changeLast change rest).map (first :: ·)

/-! ## Keys -/

/-- Adds an entry to a table. Dotted keys go through tables that nothing but keys or longer headers
implied, and end in one that keys implied. -/
def addEntry (members : Members) (key : String) (value : Toml) : (path : List String) →
    Option Members
  | [] => if (members.lookup key).isSome then none else some (put key (.leaf value) members)
  | name :: rest =>
      match members.lookup name with
      | none => (addEntry [] key value rest).map fun inner =>
          put name (.table .dotted inner) members
      | some (.leaf _) => none
      | some (.table origin inner) =>
          if origin = .header ∨ (rest = [] ∧ origin ≠ .dotted) then none
          else (addEntry inner key value rest).map fun inner =>
            put name (.table origin inner) members
      | some (.tables items) =>
          if rest = [] then none
          else (changeLast (fun inner => addEntry inner key value rest) items).map fun items =>
            put name (.tables items) members

def addEntries (members : Members) (entries : List Entry) : Option Members :=
  entries.foldlM (fun members e => addEntry members e.key e.value e.path) members

/-! ## Headers -/

/-- Changes the table at a path, where missing tables are implied. -/
def descend (change : Members → Option Members) : (path : List String) → Members → Option Members
  | [], members => change members
  | name :: rest, members =>
      match members.lookup name with
      | none => (descend change rest []).map fun inner => put name (.table .implied inner) members
      | some (.leaf _) => none
      | some (.table origin inner) =>
          (descend change rest inner).map fun inner => put name (.table origin inner) members
      | some (.tables items) =>
          (changeLast (descend change rest) items).map fun items =>
            put name (.tables items) members

/-- Defines the table under a name with these entries. -/
def define (name : String) (entries : List Entry) (members : Members) : Option Members :=
  match members.lookup name with
  | none => (addEntries [] entries).map fun inner => put name (.table .header inner) members
  | some (.table .implied inner) =>
      (addEntries inner entries).map fun inner => put name (.table .header inner) members
  | some _ => none

/-- Adds a table with these entries to the tables under a name. -/
def append (name : String) (entries : List Entry) (members : Members) : Option Members :=
  match members.lookup name with
  | none => (addEntries [] entries).map fun inner => put name (.tables [inner]) members
  | some (.tables items) =>
      (addEntries [] entries).map fun inner => put name (.tables (items ++ [inner])) members
  | some _ => none

/-- Adds a section to the table of the document. -/
def addSection (members : Members) (s : Section) : Option Members :=
  match s.path.getLast? with
  | none => addEntries members s.entries
  | some name =>
      descend (if s.isArray then append name s.entries else define name s.entries)
        s.path.dropLast members

/-! ## Values -/

mutual

/-- The value of a tree. -/
def toValue : Tree → Toml
  | .leaf value => value
  | .table _ members => .table (memberValues members)
  | .tables items => .array (tableValues items)

def memberValues : List (String × Tree) → List (String × Toml)
  | [] => []
  | (name, tree) :: rest => (name, toValue tree) :: memberValues rest

def tableValues : List (List (String × Tree)) → List Toml
  | [] => []
  | members :: rest => .table (memberValues members) :: tableValues rest

end

/-- The table of all sections. -/
def ofSections? (sections : List Section) : Option Toml :=
  (sections.foldlM addSection []).map fun members => .table (memberValues members)

/-- The table between braces, which is closed to everything that follows. -/
def ofEntries? (entries : List Entry) : Option Toml :=
  (addEntries [] entries).map fun members => .table (memberValues members)

end Tree
end Toml
end TileRules
