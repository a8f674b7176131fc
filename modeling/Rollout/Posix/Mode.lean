/-!
# Modes

Who may do what with an entry: its owner, its group and others may each read
it, write to it, and execute or search it. Three marks stand beside these
rights. All entries belong to whoever runs here, so that the rights of the
owner decide.
-/

namespace Rollout.Posix

/-- What may be done with an entry. -/
inductive Right where
  | read
  | write
  /-- To execute a file, or to follow names in a directory. -/
  | pass
  deriving DecidableEq

def Right.bit : Right → Nat
  | read => 4
  | write => 2
  | pass => 1

/-- Three marks and three times three rights, as one number. -/
structure Mode where
  bits : Nat
  deriving DecidableEq

namespace Mode

/-- All bits that a mode may have. -/
def all : Nat := 0o7777

/-- The rights without the marks. -/
def rights : Nat := 0o777

def setUser : Nat := 0o4000
def setGroup : Nat := 0o2000
def sticky : Nat := 0o1000

/-- The bits that are not among others. -/
def except (bits others : Nat) : Nat :=
  bits &&& (all ^^^ (others &&& all))

/-- What stays of a mode where these bits are taken away. -/
def without (mode others : Mode) : Mode :=
  ⟨except mode.bits others.bits⟩

/-- Whether the owner has a right. -/
def lets (mode : Mode) (right : Right) : Bool :=
  mode.bits >>> 6 &&& right.bit != 0

def has (mode : Mode) (bits : Nat) : Bool :=
  mode.bits &&& bits != 0

/-- Whether anybody may execute a file. -/
def isExecutable (mode : Mode) : Bool :=
  mode.has 0o111

/-- The mode that a new file is asked for with. -/
def newFile : Mode := ⟨0o666⟩

/-- The mode that a new directory is asked for with. -/
def newDirectory : Mode := ⟨0o777⟩

/-- What is taken away of the modes of new entries where nothing is said. -/
def usualMask : Mode := ⟨0o022⟩

/-- The letters of the rights and marks, those of the owner first. -/
def text (mode : Mode) : String :=
  part 6 setUser 's' 'S' ++ part 3 setGroup 's' 'S' ++ part 0 sticky 't' 'T'
where
  part (shift mark : Nat) (marked bare : Char) : String :=
    let bits := mode.bits >>> shift
    let last :=
      if bits &&& 1 != 0 then (if mode.has mark then marked else 'x')
      else if mode.has mark then bare else '-'
    String.ofList [if bits &&& 4 != 0 then 'r' else '-', if bits &&& 2 != 0 then 'w' else '-', last]

end Mode

end Rollout.Posix
