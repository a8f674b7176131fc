import Rollout.Posix.Calendar.Format
import Rollout.Posix.Utility.Listing.Style

/-!
# Listed entries

What is known of each entry of a listing, the order of entries, and how their
names, kinds, sizes and times are written.
-/

namespace Rollout.Posix.Utility.Listing

open Rollout.Text (Bytes encode)

/-- An entry of a listing. -/
structure Item where
  /-- The name it is listed by. -/
  name : Bytes
  place : Place
  /-- What is there, links followed as the style asks. -/
  entry : Entry
  mode : Mode
  /-- It could be looked at. -/
  known : Bool := true
  /-- Where a link leads to. -/
  target : Option Inode := none
  /-- The directories right below. -/
  below : Nat := 0
  /-- The time that counts, in nanoseconds. -/
  time : Int := 0

namespace Item

def isDirectory (item : Item) : Bool :=
  item.entry = .directory

/-- Whether an entry is a directory or a link to one. -/
def leadsToDirectory (item : Item) : Bool :=
  item.isDirectory || item.target.any (·.entry = .directory)

/-- The octets that an entry takes. -/
def size (item : Item) : Nat :=
  match item.entry with
  | .file octets => octets.length
  | .link target => target.length
  | .directory => 4096
  | _ => 0

/-- The octets that an entry takes on its disk. -/
def room (item : Item) : Nat :=
  match item.entry with
  | .file octets => (octets.length + 4095) / 4096 * 4096
  | .directory => 4096
  | _ => 0

end Item

/-! ## Order -/

/-- Where the suffixes of a name start: a point, a letter and what may follow
it, again and again up to the end. -/
def bodyLength (name : Bytes) : Nat :=
  let starts := (List.range name.length).filter fun n => n != 0 && isTail (name.drop n)
  starts.headD name.length
where
  isMark (b : UInt8) : Bool := OctetClass.isLetter b || b = 0x7E
  isTail : Bytes → Bool
    | 0x2E :: b :: rest => isMark b && goOn rest
    | _ => false
  goOn : Bytes → Bool
    | [] => true
    | 0x2E :: b :: rest => isMark b && goOn rest
    | b :: rest => (isMark b || isDigitOctet b) && goOn rest

/-- The place of an octet among versions; the end of a name has its own. -/
def versionRank : Bytes → Int
  | [] => -1
  | b :: _ =>
    if isDigitOctet b then 0
    else if OctetClass.isLetter b then b.toNat
    else if b = 0x7E then -2
    else b.toNat + 256

/-- Compares the parts of two versions in front of their next digits. -/
def compareWords : Nat → Bytes → Bytes → Ordering × Bytes × Bytes
  | 0, a, b => (.eq, a, b)
  | fuel + 1, a, b =>
    let isWord (octets : Bytes) : Bool := octets.head?.any fun b => !isDigitOctet b
    if isWord a || isWord b then
      match compare (versionRank a) (versionRank b) with
      | .eq => compareWords fuel (a.drop 1) (b.drop 1)
      | order => (order, a, b)
    else (.eq, a, b)

/-- Compares versions: words and numbers in turn. -/
def compareVersions : Nat → Bytes → Bytes → Ordering
  | 0, _, _ => .eq
  | fuel + 1, a, b =>
    if a.isEmpty && b.isEmpty then .eq
    else
      match compareWords (a.length + b.length) a b with
      | (.eq, a, b) =>
        let first := a.takeWhile isDigitOctet
        let second := b.takeWhile isDigitOctet
        match compare (spelled 10 first) (spelled 10 second) with
        | .eq => compareVersions fuel (a.drop first.length) (b.drop second.length)
        | order => order
      | (order, _, _) => order

/-- Compares names as versions. The directory itself and the one above come
first, then names that start with a dot. -/
def compareNames (a b : Bytes) : Ordering :=
  let group (name : Bytes) : Nat :=
    if name.isEmpty then 0 else if name = [Path.dot] then 1 else if name = FileTree.dotDot then 2
    else if name.head? = some Path.dot then 3 else 4
  let whole (a b : Bytes) : Ordering := compareVersions (a.length + b.length + 1) a b
  if group a != group b || group a < 3 then compare (group a) (group b)
  else (whole (a.take (bodyLength a)) (b.take (bodyLength b))).then (whole a b)

/-- The last point of a name and what follows it. -/
def extension (name : Bytes) : Bytes :=
  let after := (name.reverse.takeWhile (· != Path.dot)).reverse
  if after.length = name.length then [] else Path.dot :: after

def octetOrder (a b : Bytes) : Ordering :=
  if a < b then .lt else if b < a then .gt else .eq

/-- The order of two entries by a style; `width` is that of a written name. -/
def Style.compare (style : Style) (width : Bytes → Nat) (a b : Item) : Ordering :=
  let first : Ordering := match style.sorted with
    | .unsorted => .eq
    | .name => .eq
    | .time => Ord.compare b.time a.time
    | .size => Ord.compare b.size a.size
    | .extension => octetOrder (extension a.name) (extension b.name)
    | .version => compareNames a.name b.name
    | .width => Ord.compare (width a.name) (width b.name)
  first.then (octetOrder a.name b.name)

/-- Puts entries into the order of a style. -/
def Style.arrange (style : Style) (width : Bytes → Nat) (items : List Item) : List Item :=
  if style.sorted = .unsorted then items
  else
    let byKey := items.mergeSort fun a b =>
      (if style.reverse then style.compare width b a else style.compare width a b) != .gt
    if style.directoriesFirst then
      byKey.filter Item.leadsToDirectory ++ byKey.filter fun item => !item.leadsToDirectory
    else byKey

/-! ## Names -/

/-- Whether a shell reads a name as one word when control characters count as
they stand. -/
def isPlainWord (octets : Bytes) : Bool :=
  !octets.isEmpty && !Quoting.isSpecialInFront octets &&
    octets.all fun b => !Quoting.isShellSpecial b && b != 9 && b != 10 && b != 13

/-- A name between apostrophes, where control characters stand as they are. -/
def quotedWord (octets : Bytes) : Bytes :=
  if Quoting.fitsDouble octets then 0x22 :: octets ++ [0x22]
  else 0x27 :: octets.flatMap (fun b => if b = 0x27 then encode "'\\''" else [b]) ++ [0x27]

/-- A name as a style spells it; with `titled`, a colon has to be quoted, too. -/
def Style.spell (style : Style) (titled : Bool) (name : Bytes) : Bytes :=
  let colon := titled && name.contains 0x3A
  let marks : Bytes := if titled then [0x3A] else []
  match style.spelling with
  | .literal => name
  | .shell => if isPlainWord name && !colon then name else quotedWord name
  | .shellAlways => quotedWord name
  | .shellEscape => if colon then Quoting.shell name else Quoting.shellIfNeeded name
  | .shellEscapeAlways => Quoting.shell name
  | .text => 0x22 :: Quoting.escaped (0x22 :: marks) name ++ [0x22]
  | .textMaybe =>
    if colon || name.any fun b => (escape? b).isSome || b = 0x22 then Quoting.double name else name
  | .escape => Quoting.escaped (0x20 :: marks) name
  | .apostrophes => 0x27 :: Quoting.escaped (0x27 :: marks) name ++ [0x27]

/-- Whether octets that do not print are left in spelled names. -/
def Spelling.isRaw : Spelling → Bool
  | .literal | .shell | .shellAlways => true
  | _ => false

/-- A name as it is written. -/
def Style.name (style : Style) (titled : Bool) (name : Bytes) : Bytes :=
  let spelled := style.spell titled name
  if style.questions && style.spelling.isRaw then
    spelled.map fun b => if isPrintable b then b else 0x3F
  else spelled

/-- The columns that a written name takes. -/
def Style.nameWidth (style : Style) (name : Bytes) : Nat :=
  ((style.name false name).filter isPrintable).length

/-- What stands behind an entry for its kind. -/
def Indicator.mark (indicator : Indicator) (entry : Entry) (mode : Mode) : Bytes :=
  match indicator, entry with
  | .none, _ => []
  | _, .directory => [Path.slash]
  | .slash, _ => []
  | _, .link _ => encode "@"
  | .classify, .file _ => if mode.isExecutable then encode "*" else []
  | .classify, .program _ => encode "*"
  | _, _ => []

/-! ## Kinds, sizes and times -/

/-- The kind of an entry and who may do what with it. -/
def modeText (item : Item) : String :=
  let kind := match item.entry with
    | .directory => "d"
    | .link _ => "l"
    | .device _ => "c"
    | _ => "-"
  kind ++ if item.known then item.mode.text else "?????????"

/-- A quotient, rounded up. -/
def quotientUp (n d : Nat) : Nat :=
  (n + d - 1) / d

/-- A size in the unit that suits, rounded up: with a decimal below ten. -/
def suitedText (base n : Nat) : String :=
  if n < base then toString n
  else go 6 base ((if base = 1000 then "k" else "K") :: ["M", "G", "T", "P", "E"])
where
  go : Nat → Nat → List String → String
    | _, _, [] => toString n
    | 0, _, _ => toString n
    | fuel + 1, unit, letter :: letters =>
      let tenths := quotientUp (n * 10) unit
      if tenths < 100 then s!"{tenths / 10}.{tenths % 10}" ++ letter
      else if quotientUp n unit < base then toString (quotientUp n unit) ++ letter
      else go fuel (unit * base) letters

def Sizes.text (sizes : Sizes) (n : Nat) : String :=
  match sizes with
  | .blocks size unit => toString (quotientUp n size) ++ unit
  | .suited base => suitedText base n

/-- The size of an entry in a line of its own; a device has two numbers. -/
def sizeText (style : Style) (item : Item) : String :=
  if !item.known then "?"
  else
    match item.entry with
    | .device .void => "1, 3"
    | .device .zeros => "1, 5"
    | .device .full => "1, 7"
    | _ => style.fileSizes.text item.size

def blocksText (style : Style) (item : Item) : String :=
  if item.known then style.blockSizes.text item.room else "?"

/-- So many nanoseconds count as lately. -/
def lately : Int := 15778476 * Calendar.second

/-- The formats for times long ago and for those of late. -/
def TimeStyle.formats : TimeStyle → String × String
  | locale => ("%b %e  %Y", "%b %e %H:%M")
  | full => ("%Y-%m-%d %H:%M:%S.%N %z", "%Y-%m-%d %H:%M:%S.%N %z")
  | long => ("%Y-%m-%d %H:%M", "%Y-%m-%d %H:%M")
  | short => ("%Y-%m-%d ", "%m-%d %H:%M")
  | own old late => (Text.lossy old, Text.lossy late)

/-- The time of an entry, seen from now; both in nanoseconds. -/
def TimeStyle.text (times : TimeStyle) (zone : Calendar.Zone) (now time : Int) : String :=
  let isLate := now - lately < time && time ≤ now
  Calendar.format zone time (if isLate then times.formats.2 else times.formats.1)

/-- How wide a time is that is not known. -/
def TimeStyle.width (times : TimeStyle) (zone : Calendar.Zone) : Nat :=
  (Calendar.format zone 0 times.formats.1).length

end Rollout.Posix.Utility.Listing
