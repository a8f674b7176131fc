import Rollout.Text.Utf8

/-!
# Paths

A path is the octets it is written with. Two paths name the same place as
far as their spelling tells when they have the same components: repeated and
trailing slashes and inner single dots do not count.
-/

namespace Rollout

/-- A path as written. -/
structure Path where
  octets : Text.Bytes
  deriving DecidableEq, Repr

namespace Path

/-- The octet that separates names. -/
def slash : UInt8 := 0x2F

/-- The octet of the name that stands for the directory itself. -/
def dot : UInt8 := 0x2E

/-- The path that is written as a text. -/
def ofString (text : String) : Path :=
  ⟨Text.encode text⟩

theorem eq_ofString_iff {path : Path} {text : String} :
    path = ofString text ↔ path.octets = Text.encode text := by
  cases path
  simp [ofString]

instance : Inhabited Path := ⟨⟨[]⟩⟩

/-- The text shown for a path; octets that are not UTF-8 show as
replacement characters. -/
def display (path : Path) : String :=
  Text.lossy path.octets

/-- A path that starts at the root of the file system. -/
def rooted (path : Path) : Bool :=
  path.octets.head? = some slash

/-- The names along the path. A single dot counts only as the first name of
a path that is not rooted. -/
def names (path : Path) : List Text.Bytes :=
  match path.octets.splitOn slash with
  | [] => []
  | first :: rest =>
    (if first.isEmpty then [] else [first]) ++
      rest.filter fun name => !name.isEmpty && name != [dot]

/-- Equality by components. -/
def same (a b : Path) : Bool :=
  a.rooted == b.rooted && a.names == b.names

end Path

end Rollout
