import Rollout.Posix.FileTree

/-!
# Patterns

Patterns of octets with stars, question marks and brackets, matched against
whole texts and against the names in a tree.
-/

namespace Rollout.Posix

open Rollout.Text (Bytes encode)

/-- An octet of a pattern; a quoted one stands for itself. -/
abbrev Marked := UInt8 × Bool

/-- Sets of octets that have a name within brackets. -/
inductive OctetClass where
  | alnum | alpha | blank | cntrl | digit | graph | lower | print | punct | space | upper | xdigit
  deriving DecidableEq, Repr

namespace OctetClass

def byName : List (String × OctetClass) := [
  ("alnum", alnum), ("alpha", alpha), ("blank", blank), ("cntrl", cntrl), ("digit", digit),
  ("graph", graph), ("lower", lower), ("print", print), ("punct", punct), ("space", space),
  ("upper", upper), ("xdigit", xdigit)]

def within (low high b : UInt8) : Bool :=
  low ≤ b && b ≤ high

def isDigit : UInt8 → Bool :=
  within 0x30 0x39

def isLetter (b : UInt8) : Bool :=
  within 0x41 0x5A b || within 0x61 0x7A b

def has (b : UInt8) : OctetClass → Bool
  | digit => isDigit b
  | upper => within 0x41 0x5A b
  | lower => within 0x61 0x7A b
  | alpha => isLetter b
  | alnum => isLetter b || isDigit b
  | xdigit => isDigit b || within 0x41 0x46 b || within 0x61 0x66 b
  | blank => b = 0x20 || b = 9
  | space => b = 0x20 || within 9 13 b
  | graph => within 0x21 0x7E b
  | print => within 0x20 0x7E b
  | punct => within 0x21 0x7E b && !isLetter b && !isDigit b
  | cntrl => b < 0x20 || b = 0x7F

end OctetClass

/-- What a bracket may hold. -/
inductive Member where
  | range (low high : UInt8)
  | named (name : OctetClass)
  deriving DecidableEq

/-- The place of an octet in the order of ranges: the upper half comes first. -/
def rank (b : UInt8) : UInt8 :=
  b + 0x80

def Member.has (b : UInt8) : Member → Bool
  | range low high => rank low ≤ rank b && rank b ≤ rank high
  | named name => name.has b

inductive Glyph where
  | octet (b : UInt8)
  | any
  | run
  | oneOf (negated : Bool) (members : List Member)
  deriving DecidableEq

namespace Pattern

/-- The octets of a text as they stand, none of them quoted. -/
def bare (octets : Bytes) : List Marked :=
  octets.map (·, false)

/-- The set named at the front of a bracket's contents, an opening bracket
behind. -/
def named? (rest : List Marked) : Option (OctetClass × List Marked) :=
  OctetClass.byName.findSome? fun (name, found) =>
    let text := bare (encode (":" ++ name ++ ":]"))
    if text.isPrefixOf rest then some (found, rest.drop text.length) else none

/-- The members of a bracket up to its end, which no member stands in front
of. A backslash quotes what follows it. -/
def bracket (members : List Member) : Nat → List Marked → Option (List Member × List Marked)
  | 0, _ => none
  | _ + 1, [] => none
  | fuel + 1, (b, quoted) :: rest =>
    if b = 0x5D && !quoted && !members.isEmpty then some (members, rest)
    else
      match if b = 0x5B && !quoted then named? rest else none with
      | some (name, rest) => bracket (members ++ [.named name]) fuel rest
      | none =>
        let (low, rest) := match b = 0x5C && !quoted, rest with
          | true, (c, _) :: rest => (c, rest)
          | _, rest => (b, rest)
        match rest with
        | (0x2D, false) :: (high, highQuoted) :: after =>
          if high = 0x5D && !highQuoted then bracket (members ++ [.range low low]) fuel rest
          else
            match high = 0x5C && !highQuoted, after with
            | true, (c, _) :: after => bracket (members ++ [.range low c]) fuel after
            | _, after => bracket (members ++ [.range low high]) fuel after
        | rest => bracket (members ++ [.range low low]) fuel rest

/-- The glyphs of a pattern, where a bracket is negated by one of these
octets. -/
def glyphsFrom (negations : Bytes) : Nat → List Marked → List Glyph
  | 0, _ => []
  | _ + 1, [] => []
  | fuel + 1, (b, quoted) :: rest =>
    let plain : List Glyph := .octet b :: glyphsFrom negations fuel rest
    if quoted then plain
    else if b = 0x2A then .run :: glyphsFrom negations fuel (rest.dropWhile (· = (0x2A, false)))
    else if b = 0x3F then .any :: glyphsFrom negations fuel rest
    else if b = 0x5C then
      match rest with
      | (c, _) :: rest => .octet c :: glyphsFrom negations fuel rest
      | [] => [.octet b]
    else if b = 0x5B then
      let (negated, inner) := match rest with
        | (c, false) :: inner => if negations.contains c then (true, inner) else (false, rest)
        | _ => (false, rest)
      match bracket [] (inner.length + 1) inner with
      | some (members, rest) => .oneOf negated members :: glyphsFrom negations fuel rest
      | none => plain
    else plain

/-- The glyphs of a shell's pattern. -/
def glyphs (pattern : List Marked) : List Glyph :=
  glyphsFrom [0x21] (pattern.length + 1) pattern

/-- The glyphs of a pattern for names, which knows one more negation. -/
def nameGlyphs (pattern : Bytes) : List Glyph :=
  glyphsFrom [0x21, 0x5E] (pattern.length + 1) (bare pattern)

end Pattern

def Glyph.admits (b : UInt8) : Glyph → Bool
  | .octet c => b = c
  | .any => true
  | .run => true
  | .oneOf negated members => members.any (·.has b) != negated

namespace Pattern

/-- What may be left of a pattern before any octet: a run may stand for none. -/
def rests : List Glyph → List (List Glyph)
  | .run :: pattern => (.run :: pattern) :: rests pattern
  | pattern => [pattern]

/-- What may be left of a pattern after an octet. -/
def after (b : UInt8) : List Glyph → List (List Glyph)
  | [] => []
  | .run :: pattern => rests (.run :: pattern)
  | glyph :: pattern => if glyph.admits b then rests pattern else []

/-- What may be left after an octet of the patterns that may have been left
before. -/
def advance (left : List (List Glyph)) (b : UInt8) : List (List Glyph) :=
  (left.flatMap (after b)).eraseDups

/-- The sizes of the fronts of a text that a pattern matches, the smallest one
first. -/
def matched (pattern : List Glyph) (text : Bytes) : List Nat :=
  let note (left : List (List Glyph)) (size : Nat) (sizes : List Nat) : List Nat :=
    if left.contains [] then size :: sizes else sizes
  let (_, _, sizes) := text.foldl (fun (left, size, sizes) b =>
    let left := advance left b
    (left, size + 1, note left (size + 1) sizes)) (rests pattern, 0, note (rests pattern) 0 [])
  sizes.reverse

end Pattern

/-- Whether a pattern matches a whole text. -/
def fits (pattern : List Glyph) (text : Bytes) : Bool :=
  (text.foldl Pattern.advance (Pattern.rests pattern)).contains []

/-- The octets up to the first zero octet, where a text ends for a pattern. -/
def upToZero (text : Bytes) : Bytes :=
  text.takeWhile (· != 0)

/-- The shortest or longest front of a text that a pattern matches, taken
away. A front ends where it is cut or at a zero octet in it, so the whole text
is as good as its part up to there. -/
def cutFront (longest : Bool) (pattern : List Glyph) (text : Bytes) : Bytes :=
  let first := upToZero text
  let sizes := Pattern.matched pattern first
  match if longest then sizes.getLast? else sizes.head? with
  | none => text
  | some size => if longest && size = first.length then [] else text.drop size

/-- The shortest or longest end of a text that a pattern matches, taken
away with all behind it. An end is compared up to the next zero octet; the
longest is not looked for behind the first. -/
def cutBack (longest : Bool) (pattern : List Glyph) (text : Bytes) : Bytes :=
  let sizesOf (part : Bytes) : List Nat := Pattern.matched pattern.reverse part.reverse
  if longest then
    let first := upToZero text
    match (sizesOf first).getLast? with
    | none => text
    | some size => text.take (first.length - size)
  else
    let (_, place) := (text.splitOn 0).foldl (fun (start, place) part =>
      let stop := start + part.length
      (stop + 1, ((sizesOf part).head?.map (stop - ·)).or place)) (0, (none : Option Nat))
    match place with
    | none => text
    | some place => text.take place

namespace Pattern

/-- Whether a text has an octet that makes it a pattern. -/
def isOne (text : List Marked) : Bool :=
  text.any fun (b, quoted) => !quoted && (b = 0x2A || b = 0x3F || b = 0x5B)

/-- The octets that a text without patterns stands for as a path. -/
def spelled : List Marked → Bytes
  | (0x5C, false) :: (c, _) :: rest => c :: spelled rest
  | (b, _) :: rest => b :: spelled rest
  | [] => []

/-- The names in front of each slash of a text, and the last one. -/
def names (text : List Marked) : List (List Marked) :=
  let (done, last) := text.foldr (fun m (done, last) =>
    if m.1 = Path.slash then (last :: done, []) else (done, m :: last))
    (([] : List (List Marked)), ([] : List Marked))
  last :: done

/-- The paths in a tree along names that may be patterns, behind what is
written already. -/
def pathsAlong (tree : FileTree) (base : Place) (written : Bytes) :
    List (List Marked) → List Bytes
  | [] => []
  | name :: rest =>
    let slash : Bytes := if rest.isEmpty then [] else [Path.slash]
    if !isOne name then
      let next := written ++ spelled name
      if rest.isEmpty then
        match tree.locate base next false with
        | .ok place => if (tree.entry? place).isSome then [next] else []
        | .error _ => []
      else pathsAlong tree base (next ++ slash) rest
    else
      match tree.directory base (if written.isEmpty then [Path.dot] else written) with
      | .error _ => []
      | .ok place =>
        let first := match name with
          | (0x5C, false) :: (c, _) :: _ => some c
          | (b, _) :: _ => some b
          | [] => none
        let hidden := first = some Path.dot
        let pattern := glyphs name
        let children := if tree.lets place .read then
            FileTree.ownNames place ++ (tree.children place).map Prod.fst
          else []
        let found := children.filter fun child =>
          (hidden || child.head? != some Path.dot) && fits pattern child
        if rest.isEmpty then found.map (written ++ ·)
        else found.flatMap fun child => pathsAlong tree base (written ++ child ++ slash) rest

/-- The paths that a pattern matches in a tree, in the order of their octets;
the text of the pattern itself where there is none. -/
def paths (tree : FileTree) (base : Place) (text : List Marked) : List Bytes :=
  let found := if isOne text then pathsAlong tree base [] (names text) else []
  if found.isEmpty then [text.map Prod.fst]
  else found.mergeSort fun a b => !(decide (b < a))

end Pattern

end Rollout.Posix
