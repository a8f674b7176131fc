import Rollout.IoError
import Rollout.Posix.Inode

/-!
# File trees

Directories, files, symbolic links, devices and programs, each at the names
that lead to it from the root. Paths are followed name by name through
links, with the system's errors where that cannot go on.
-/

namespace Rollout.Posix

/-- The names that lead to a place from the root of the tree. -/
abbrev Place := List Text.Bytes

structure FileTree where
  entries : List (Place × Inode)

namespace FileTree

def empty : FileTree := ⟨[]⟩

/-- Where a directory goes that is taken away from a place while it is in use.
Nothing can be put there. -/
def nowhere (place : Place) : Place :=
  place ++ [[Path.dot]]

/-- Whether a place is a directory without being put into the tree: the root,
and one that was taken away. -/
def isGiven (place : Place) : Bool :=
  place.isEmpty || place.getLast? = some [Path.dot]

/-- What stands at a place; the root is always a directory. -/
def inode? (tree : FileTree) (place : Place) : Option Inode :=
  match tree.entries.lookup place with
  | some inode => some inode
  | none => if isGiven place then some .directory else none

def entry? (tree : FileTree) (place : Place) : Option Entry :=
  (tree.inode? place).map Inode.entry

/-- Whether something may be done with the entry of a place. -/
def lets (tree : FileTree) (place : Place) (right : Right) : Bool :=
  (tree.inode? place).any (·.mode.lets right)

/-- Whether names can be followed from a place. -/
def isThere (tree : FileTree) (place : Place) : Bool :=
  place.isEmpty || (tree.entries.lookup place).isSome

/-- Puts something at a place, over what is there. -/
def put (tree : FileTree) (place : Place) (inode : Inode) : FileTree :=
  ⟨(place, inode) :: tree.entries.filter fun found => found.1 != place⟩

/-- Changes what is known of the entry of a place. -/
def amend (tree : FileTree) (place : Place) (change : Inode → Inode) : FileTree :=
  match tree.entries.lookup place, tree.inode? place with
  | none, some inode => tree.put place (change inode)
  | _, _ => ⟨tree.entries.map fun found =>
      if found.1 = place then (found.1, change found.2) else found⟩

/-- Takes the entry of a place and all below it away. -/
def remove (tree : FileTree) (place : Place) : FileTree :=
  ⟨tree.entries.filter fun found => !place.isPrefixOf found.1⟩

/-- What stands right below a place, with the names. -/
def children (tree : FileTree) (place : Place) : List (Text.Bytes × Inode) :=
  tree.entries.filterMap fun (found, inode) =>
    match found.reverse with
    | [] => none
    | name :: above => if above.reverse = place then some (name, inode) else none

/-- The names that a directory has for itself and the one above it, as long as
it is not taken away. -/
def ownNames (place : Place) : List Text.Bytes :=
  if place.getLast? = some [Path.dot] then [] else [[Path.dot], [Path.dot, Path.dot]]

/-- The longest name the system takes. -/
def nameLimit : Nat := 255

/-- A path of this many octets is too long. -/
def pathLimit : Nat := 4096

/-- How many links are followed along one path. -/
def linkLimit : Nat := 40

def dotDot : Text.Bytes := [Path.dot, Path.dot]

/-- The last name of a path. -/
def lastName (path : Text.Bytes) : Text.Bytes :=
  ((path.splitOn Path.slash).filter (!·.isEmpty)).getLastD []

def isDots (name : Text.Bytes) : Bool :=
  name = [Path.dot] || name = dotDot

/-- A path without the slashes at its end. -/
def trimmed (path : Text.Bytes) : Text.Bytes :=
  let text := (path.reverse.dropWhile (· = Path.slash)).reverse
  if text.isEmpty then path.take 1 else text

/-- Whether a path asks for a directory by a slash behind its last name, so that
no file can be made there. -/
def asksForDirectory (path : Text.Bytes) : Bool :=
  path.getLast? = some Path.slash && !(lastName path).isEmpty && !isDots (lastName path)

/-- The names that a path is followed by. An empty one at the end asks for a
directory. -/
def steps (path : Text.Bytes) : List Text.Bytes :=
  let names := path.splitOn Path.slash
  match names.getLast? with
  | some [] => names.filter (!·.isEmpty) ++ [[]]
  | _ => names.filter (!·.isEmpty)

/-- Where a path starts: at the root or at the place it is used from. -/
def startOf (base : Place) (path : Text.Bytes) : Place :=
  if path.head? = some Path.slash then [] else base

/-- Follows names from a place. The answer is the place they lead to, where
only the last name may have no entry. A link as the last name is followed if
`through` is set. A directory that was taken away still is itself and has one
above it. -/
def walk (tree : FileTree) (through : Bool) (links : Nat) (place : Place) :
    List Text.Bytes → Except IoError Place
  | [] => .ok (if tree.isThere place then place else nowhere place)
  | name :: rest =>
    if tree.isThere place && tree.entry? place != some .directory then .error .notDirectory
    else if name.isEmpty then walk tree through links place rest
    else if tree.isThere place && !tree.lets place .pass then .error .accessDenied
    else if name = [Path.dot] then walk tree through links place rest
    else if name = dotDot then walk tree through links place.dropLast rest
    else if !tree.isThere place then .error .notFound
    else if nameLimit < name.length then .error .nameTooLong
    else
      match tree.entry? (place ++ [name]) with
      -- The last name may be one that is about to be made.
      | none => if rest.isEmpty then .ok (place ++ [name]) else .error .notFound
      | some (.link target) =>
        if rest.isEmpty && !through then .ok (place ++ [name])
        else
          match links with
          | 0 => .error .tooManyLinks
          | links + 1 =>
            -- The target is followed from the directory that the link stands in.
            walk tree through links (startOf place target) (steps target ++ rest)
      | some _ => walk tree through links (place ++ [name]) rest
termination_by names => (links, names.length)

/-- The place a path leads to; it need not have an entry. -/
def locate (tree : FileTree) (base : Place) (path : Text.Bytes) (through : Bool) :
    Except IoError Place :=
  if path.isEmpty then .error .notFound
  else if pathLimit ≤ path.length then .error .nameTooLong
  else tree.walk through linkLimit (startOf base path) (steps path)

/-- The entry a path leads to through all links, with its place. -/
def find (tree : FileTree) (base : Place) (path : Text.Bytes) :
    Except IoError (Place × Entry) := do
  let place ← tree.locate base path true
  match tree.entry? place with
  | some entry => .ok (place, entry)
  | none => .error .notFound

/-- The directory a path leads to, looked at from outside. -/
def directory (tree : FileTree) (base : Place) (path : Text.Bytes) : Except IoError Place := do
  match ← tree.find base path with
  | (place, .directory) => .ok place
  | _ => .error .notDirectory

/-- The directory a path leads to, for who goes on from it. -/
def entered (tree : FileTree) (base : Place) (path : Text.Bytes) : Except IoError Place := do
  let place ← tree.directory base path
  if tree.lets place .pass then .ok place else .error .accessDenied

/-- The place above, and the directories on the way to it, put where they
are missing. -/
def putParents (tree : FileTree) (place : Place) : FileTree :=
  (List.range place.length).foldl (fun tree count =>
    let above := place.take count
    match tree.entry? above with
    | none => tree.put above .directory
    | some _ => tree) tree

/-- Whether entries of a place may be made and taken away. -/
def isOpen (tree : FileTree) (place : Place) : Bool :=
  tree.lets place .write && tree.lets place .pass

/-- Whether a place can be found by looking into directories, from one on: each
between has to be read, and to be passed if another one follows. -/
def isVisible (tree : FileTree) (start found : Place) : Bool :=
  (List.range found.length).all fun count =>
    let above := found.take count
    count ≤ start.length ||
      tree.lets above .read && (count + 1 = found.length || tree.lets above .pass)

/-- The paths below a place from there as far as they can be found, a slash
behind each directory, in the order of their octets. -/
def listing (tree : FileTree) (place : Place) : List String :=
  let below := tree.entries.filterMap fun (found, inode) =>
    if place.isPrefixOf found && found.length != place.length && tree.isVisible place found then
      let path := [Path.slash].intercalate (found.drop place.length)
      some (if inode.entry = .directory then path ++ [Path.slash] else path)
    else none
  (below.mergeSort fun a b => !(decide (b < a))).map Text.lossy

end FileTree

end Rollout.Posix
