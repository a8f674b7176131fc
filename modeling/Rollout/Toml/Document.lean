import Rollout.Toml.Reader

/-!
# TOML documents

A document is a sequence of headers and settings. Settings go into the table
of the last header, which joins the document when the next header comes or
the text ends.
-/

namespace Rollout.Toml

/-- A document that is being read: the tables that are complete, and the one
that a header opened last. -/
structure Document where
  root : Entries := []
  /-- The header of the open table; empty before the first header. -/
  way : List String := []
  /-- The open table stands among several of its name. -/
  several : Bool := false
  /-- The entries of the open table. -/
  current : Entries := []

namespace Document

/-- Splits a header into the names on the way and the last one. -/
def ends (names : List String) : Option (List String × String) :=
  match names.reverse with
  | [] => none
  | last :: way => some (way.reverse, last)

/-- Lets the open table join the document. -/
def close (document : Document) : Option Entries :=
  match ends document.way with
  | none => some document.current
  | some (way, last) =>
    Entries.within false (fun _ inner =>
      match inner.lookup last, document.several with
      | none, false => some (inner.put last (.table .defined document.current))
      | none, true => some (inner.put last (.tables [document.current]))
      | some (.tables elements), true =>
        some (inner.put last (.tables (elements ++ [document.current])))
      | _, _ => none) .defined way document.root

/-- Opens the table of a header. Tables that longer headers opened on their
way through it are kept; any other table of that name is in the way. -/
def openTable (document : Document) (way : List String) (last : String) : Option Document := do
  let root ← document.close
  -- What longer headers put into this table before it got a header of its own.
  let kept := match (Entries.along way root).lookup last with
    | some (.table .passed inner) => inner
    | _ => []
  let root ← Entries.within false (fun _ inner =>
    match inner.lookup last with
    | none => some inner
    | some (.table .passed _) => some (inner.drop last)
    | some _ => none) .defined way root
  return { root, way := way ++ [last], several := false, current := kept }

/-- Opens one more table of a header in double brackets. -/
def openElement (document : Document) (way : List String) (last : String) : Option Document := do
  let root ← document.close
  let root ← Entries.within false (fun _ inner =>
    match inner.lookup last with
    | none => some inner
    | some (.tables _) => some inner
    | some _ => none) .defined way root
  return { root, way := way ++ [last], several := true, current := [] }

/-- Puts a setting into the open table. -/
def assign (document : Document) (way : List String) (last : String) (value : Value) :
    Option Document := do
  let current ← document.current.assign way last (.leaf value) .defined
  return { document with current }

end Document

/-- Reads the header in single brackets whose first bracket is behind. -/
def header (document : Document) (cs : List Char) : Option (Document × List Char) := do
  let ((way, last), rest) ← key cs
  let (_, rest) ← char ']' rest
  -- The table is opened before the rest of the line is looked at; either fault is final.
  let document ← document.openTable way last
  let rest ← lineEnd? rest
  return (document, rest)

/-- Reads the header in double brackets whose first two brackets are behind. -/
def elementHeader (document : Document) (cs : List Char) : Option (Document × List Char) := do
  let ((way, last), rest) ← key cs
  let (_, rest) ← char ']' rest
  let (_, rest) ← char ']' rest
  let document ← document.openElement way last
  let rest ← lineEnd? rest
  return (document, rest)

/-- Reads a setting. -/
def setting (document : Document) (cs : List Char) : Option (Document × List Char) := do
  let ((way, last), rest) ← key cs
  let (_, rest) ← char '=' rest
  let (found, rest) ← value (skipSpaces rest)
  let rest ← lineEnd? rest
  let document ← document.assign way last found
  return (document, rest)

/-- Reads statements to the end of the text; `fuel` bounds their number. -/
def statements : Nat → Document → List Char → Option Document
  | 0, _, _ => none
  | fuel + 1, document, cs =>
    match skipSpaces cs with
    | [] => some document
    | '#' :: rest => (lineEnd? ('#' :: rest)).bind (statements fuel document)
    | '\n' :: rest => statements fuel document rest
    | '\r' :: '\n' :: rest => statements fuel document rest
    | '[' :: '[' :: rest =>
      (elementHeader document rest).bind fun (document, rest) => statements fuel document rest
    | '[' :: rest =>
      (header document rest).bind fun (document, rest) => statements fuel document rest
    | rest => (setting document rest).bind fun (document, rest) => statements fuel document rest

/-- The text without the mark that may stand before it. -/
def afterMark : List Char → List Char
  | '\uFEFF' :: rest => rest
  | cs => cs

/-- The entries of a document, where the text is one. -/
def read? (text : String) : Option (List (String × Value)) := do
  let cs := afterMark text.toList
  let document ← statements (cs.length + 1) {} cs
  let root ← document.close
  return Node.valuesOf root

end Rollout.Toml
