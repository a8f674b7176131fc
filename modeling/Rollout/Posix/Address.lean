import Rollout.Text.Hex

/-!
# Addresses

Hosts given as numbers: four octets, or eight groups of sixteen bits. Reading
takes the usual spellings, and an address is shown in one of them.
-/

namespace Rollout.Posix

/-- The address of a host. -/
inductive Address where
  | short (number : Nat)
  /-- Eight groups, and the interface they are used on, zero if none is named. -/
  | long (groups : List Nat) (interface : Nat)
  deriving DecidableEq, Repr

namespace Address

/-- What digits of a base below seventeen spell; at least one has to be there. -/
def number? (base : Nat) (digits : List Char) : Option Nat :=
  if digits.isEmpty then none
  else digits.foldlM (fun n c => do
    let digit ← Text.hexValue? (UInt8.ofNat c.toNat)
    if c.toNat < 128 && digit < base then return n * base + digit else none) 0

/-- Reads a number in the base that its first characters tell. -/
def part? : List Char → Option Nat
  | '0' :: x :: digits =>
    if x = 'x' || x = 'X' then number? 16 digits else number? 8 (x :: digits)
  | digits => number? 10 digits

/-- The number of an address in parts: each but the last is an octet, and the
last one fills what is left of four octets. -/
def joined? (parts : List Nat) : Option Nat :=
  let last := parts.getLast?.getD 0
  let first := parts.dropLast
  -- The last part stands for all octets that are not given one by one.
  let room := Nat.pow 256 (4 - first.length)
  if parts.length ≤ 4 && first.all (· < 256) && last < room then
    some (first.foldl (fun n part => n * 256 + part) 0 * room + last)
  else none

/-- Reads an address of four octets, or of fewer parts. -/
def short? (cs : List Char) : Option Nat := do
  joined? (← (cs.splitOn '.').mapM part?)

/-- The four octets of an address, all written. -/
def octets (number : Nat) : List Nat :=
  [number / 0x1000000 % 256, number / 0x10000 % 256, number / 0x100 % 256, number % 256]

/-- Reads an address of four octets in decimal, without needless zeros. -/
def plain? (cs : List Char) : Option Nat := do
  let parts := cs.splitOn '.'
  let octets ← parts.mapM fun digits =>
    if digits.head? = some '0' && digits.length ≠ 1 then none else number? 10 digits
  if parts.length = 4 then joined? octets else none

/-- Reads groups apart by colons; the last one may be an address of four
octets. -/
def groups? (cs : List Char) : Option (List Nat) :=
  let parts := cs.splitOn ':'
  if cs.isEmpty then some []
  else do
    let first ← parts.dropLast.mapM group?
    let last := parts.getLast?.getD []
    if last.contains '.' then
      let number ← plain? last
      return first ++ [number / 65536, number % 65536]
    else return first ++ [← group? last]
where
  group? (digits : List Char) : Option Nat :=
    if digits.length ≤ 4 then number? 16 digits else none

/-- The text in front of the first two colons in a row, and what follows. -/
def gap? : List Char → Option (List Char × List Char)
  | ':' :: ':' :: rest => some ([], rest)
  | c :: rest => (gap? rest).map fun (front, behind) => (c :: front, behind)
  | [] => none

/-- Reads an address of eight groups; two colons stand for groups of zero. -/
def long? (cs : List Char) : Option (List Nat) :=
  match gap? cs with
  | none => do
    let groups ← groups? cs
    if groups.length = 8 then return groups else none
  | some (front, behind) => do
    let front ← groups? front
    let behind ← groups? behind
    if front.length + behind.length < 8 then
      return front ++ List.replicate (8 - front.length - behind.length) 0 ++ behind
    else none

/-- Whether groups are the address of many hosts at once. -/
def isShared (groups : List Nat) : Bool :=
  groups.head?.any fun group => group / 256 = 0xFF

/-- Whether groups are an address that has a meaning on one interface only. -/
def isLocal (groups : List Nat) : Bool :=
  groups.head?.any fun group => group / 64 = 0x3FA || (group / 256 = 0xFF && group % 16 = 2)

/-- Whether groups stand for an address of four octets. -/
def isMapped (groups : List Nat) : Bool :=
  groups.take 6 = [0, 0, 0, 0, 0, 0xFFFF]

/-- The interfaces of a host that has none to the outside. -/
def interfaces : List (String × Nat) := [("lo", 1)]

/-- The highest number of an interface. -/
def interfaceLimit : Nat := 4294967295

/-- The interface that is named behind an address, by its number or, for an
address that needs one, by its name. -/
def interface? (groups : List Nat) (name : List Char) : Option Nat :=
  match if isLocal groups then interfaces.lookup (String.ofList name) else none with
  | some number => some number
  | none => (number? 10 name).filter (· ≤ interfaceLimit)

/-- Reads an address. -/
def ofText? (text : String) : Option Address :=
  let cs := text.toList
  match short? cs with
  | some number => some (.short number)
  | none => do
    let front := cs.takeWhile (· != '%')
    let groups ← long? front
    if front.length = cs.length then return .long groups 0
    else return .long groups (← interface? groups (cs.drop (front.length + 1)))

/-- The text of four octets. -/
def shortText (number : Nat) : String :=
  ".".intercalate ((octets number).map toString)

/-- Digits of base sixteen without needless zeros. -/
def groupText (group : Nat) : String :=
  String.ofList (Nat.toDigits 16 group)

/-- How many zeros are at the front. -/
def zeros (groups : List Nat) : Nat :=
  (groups.takeWhile (· = 0)).length

/-- Where the first of the longest runs of zeros starts, and its length. -/
def longestRun (groups : List Nat) : Nat × Nat :=
  (List.range groups.length).foldl (fun best start =>
    let length := zeros (groups.drop start)
    if best.2 < length then (start, length) else best) (0, 0)

/-- The text of eight groups. The longest run of more than one zero shows as
two colons. -/
def longText (groups : List Nat) : String :=
  let joined (groups : List Nat) : String := ":".intercalate (groups.map groupText)
  match groups with
  -- An address of four octets within eight groups shows as such.
  | [0, 0, 0, 0, 0, 0xFFFF, a, b] => "::ffff:" ++ shortText (a * 65536 + b)
  | groups =>
    let (start, length) := longestRun groups
    if 1 < length then
      joined (groups.take start) ++ "::" ++ joined (groups.drop (start + length))
    else joined groups

/-- The text of an address in front of a port. -/
def text : Address → String
  | short number => shortText number
  | long groups _ => "[" ++ longText groups ++ "]"

end Address

end Rollout.Posix
