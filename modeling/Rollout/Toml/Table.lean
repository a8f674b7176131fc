import Rollout.Value

/-!
# The tables of a TOML document

Tables grow while a document is read: a header opens one, a key with dots
opens those along its way, and both may only add to tables that the rules
of the format leave open. Once all is read the tables are a value.
-/

namespace Rollout.Toml

/-- How a table came to be. -/
inductive Origin where
  /-- By a header or braces of its own: nothing may open it again. -/
  | defined
  /-- On the way of a header: a header of its own may still follow. -/
  | passed
  /-- On the way of a key with dots: more such keys may follow. -/
  | dotted
  deriving DecidableEq, Repr

inductive Node where
  | leaf (value : Value)
  | table (origin : Origin) (entries : List (String × Node))
  /-- The tables that double-bracket headers of one name opened. -/
  | tables (elements : List (List (String × Node)))

/-- The entries of a table in the order they were put. -/
abbrev Entries := List (String × Node)

namespace Node

mutual
def toValue : Node → Value
  | .leaf value => value
  | .table _ entries => .table (valuesOf entries)
  | .tables elements => .list (rowsOf elements)
def valuesOf : List (String × Node) → List (String × Value)
  | [] => []
  | (name, node) :: rest => (name, node.toValue) :: valuesOf rest
def rowsOf : List (List (String × Node)) → List Value
  | [] => []
  | entries :: rest => .table (valuesOf entries) :: rowsOf rest
end

end Node

namespace Entries

/-- Puts an entry for a name that has one, in its place, or at the end. -/
def put (name : String) (node : Node) : Entries → Entries
  | [] => [(name, node)]
  | entry :: rest =>
    if entry.1 = name then (name, node) :: rest else entry :: put name node rest

/-- Takes the entry of a name out. -/
def drop (name : String) (entries : Entries) : Entries :=
  entries.filter fun entry => entry.1 != name

/-- The entries of the table that a way of names leads to; none where there
is no such table. -/
def along : List String → Entries → Entries
  | [], entries => entries
  | name :: way, entries =>
    match entries.lookup name with
    | some (.table _ inner) => along way inner
    | some (.tables elements) => along way (elements.getLast?.getD [])
    | _ => []

/-- Changes the table that a way of names leads to; tables that do not exist
yet are opened on the way. A way of dots may not enter a table that a header
or braces defined; a way of a header enters the last of several tables. -/
def within (dots : Bool) (change : Origin → Entries → Option Entries) (origin : Origin) :
    List String → Entries → Option Entries
  | [], entries => change origin entries
  | name :: way, entries =>
    match entries.lookup name with
    | none => do
      let opened : Origin := if dots then .dotted else .passed
      let inner ← within dots change opened way []
      return entries.put name (.table opened inner)
    | some (.leaf _) => none
    | some (.tables elements) =>
      -- Headers below several tables of one name mean the last of them.
      match elements.reverse with
      | [] => none
      | last :: before => do
        let inner ← within dots change .defined way last
        return entries.put name (.tables (before.reverse ++ [inner]))
    | some (.table found inner) =>
      if dots && found == .defined then none
      else do
        let inner ← within dots change found way inner
        return entries.put name (.table found inner)

/-- Puts a value under the last name of a key. A name is given once, and a
key without dots does not add to a table that keys with dots opened, nor one
with dots to any other table. -/
def assign (way : List String) (name : String) (node : Node) (origin : Origin)
    (entries : Entries) : Option Entries :=
  within true (fun found inner =>
    if (found == .dotted) == way.isEmpty then none
    else if (inner.lookup name).isSome then none
    else some (inner.put name node)) origin way entries

end Entries

end Rollout.Toml
