import Rollout.Posix.Inode
import Rollout.Posix.Pattern
import Rollout.Posix.Utility.Basic

/-!
# How a listing looks

What is listed, in which order, and how it is laid out and spelled, as the
options of a command line ask for it.
-/

namespace Rollout.Posix.Utility.Listing

open Rollout.Text (Bytes encode)

inductive Layout where
  /-- A name on each line. -/
  | single
  /-- A line with all that is known of each name. -/
  | details
  | commas
  /-- Columns, filled one after another. -/
  | columns
  /-- Columns, filled row by row. -/
  | across
  deriving DecidableEq

/-- How names are spelled. -/
inductive Spelling where
  | literal
  | shell | shellAlways | shellEscape | shellEscapeAlways
  | text | textMaybe
  | escape
  | apostrophes
  deriving DecidableEq

inductive Order where
  | unsorted | name | time | size | extension | version | width
  deriving DecidableEq

/-- What stands behind a name for its kind. -/
inductive Indicator where
  | none
  /-- Directories alone have one. -/
  | slash
  | kind
  /-- Executable files have one, too. -/
  | classify
  deriving DecidableEq

/-- Which names that start with a dot are listed. -/
inductive Hidden where
  | none
  /-- All but the directory itself and the one above. -/
  | almost
  | all
  deriving DecidableEq

/-- Which links are followed. -/
inductive Follow where
  | never
  /-- Operands that lead to directories. -/
  | directories
  | operands
  | always
  deriving DecidableEq

/-- How sizes are written. -/
inductive Sizes where
  /-- In blocks of so many octets, with a unit behind. -/
  | blocks (size : Nat) (unit : String)
  /-- In the unit that suits, each so many times the one before. -/
  | suited (base : Nat)
  deriving DecidableEq

/-- How times are written. -/
inductive TimeStyle where
  | locale | full | long | short
  /-- By a format for times long ago, and one for those of late. -/
  | own (old late : Bytes)
  deriving DecidableEq

/-- Which time of an entry counts. -/
inductive TimeKind where
  | used | altered | modified | born
  deriving DecidableEq

def TimeKind.of : TimeKind → Times → Int
  | used => Times.used
  | altered => Times.altered
  | modified => Times.modified
  | born => Times.born

structure Style where
  layout : Layout := .single
  spelling : Spelling := .literal
  order : Option Order := none
  reverse : Bool := false
  directoriesFirst : Bool := false
  hidden : Hidden := .none
  indicator : Indicator := .none
  follow : Option Follow := none
  /-- Directories are listed and not what is in them. -/
  itself : Bool := false
  recursive : Bool := false
  /-- Sizes in blocks stand in front of names. -/
  blocks : Bool := false
  serial : Bool := false
  context : Bool := false
  blockSizes : Sizes := .blocks 1024 ""
  fileSizes : Sizes := .blocks 1 ""
  owner : Bool := true
  group : Bool := true
  author : Bool := false
  numeric : Bool := false
  /-- Octets that do not print are shown as question marks. -/
  questions : Bool := false
  lineEnd : UInt8 := 10
  width : Option Nat := none
  tabs : Option Nat := none
  /-- Patterns of names that are not listed. -/
  ignored : List Bytes := []
  /-- Patterns of names that are not listed unless dots are. -/
  veiled : List Bytes := []
  /-- The word for how times are written. -/
  timeWord : Option Bytes := none
  times : TimeStyle := .locale
  /-- The time that counts. -/
  timeKind : TimeKind := .modified

def switches : List Switch := [
  ⟨"a", .nothing, ["all"]⟩, ⟨"b", .nothing, ["escape"]⟩, ⟨"d", .nothing, ["directory"]⟩,
  ⟨"D", .nothing, ["dired"]⟩, ⟨"full-time", .nothing, ["full-time"]⟩,
  ⟨"grouping", .nothing, ["group-directories-first"]⟩,
  ⟨"h", .nothing, ["human-readable"]⟩, ⟨"i", .nothing, ["inode"]⟩,
  ⟨"k", .nothing, ["kibibytes"]⟩, ⟨"n", .nothing, ["numeric-uid-gid"]⟩,
  ⟨"G", .nothing, ["no-group"]⟩, ⟨"q", .nothing, ["hide-control-chars"]⟩,
  ⟨"r", .nothing, ["reverse"]⟩, ⟨"s", .nothing, ["size"]⟩, ⟨"w", .argument, ["width"]⟩,
  ⟨"A", .nothing, ["almost-all"]⟩, ⟨"B", .nothing, ["ignore-backups"]⟩,
  ⟨"classify", .perhaps, ["classify"]⟩, ⟨"file-type", .nothing, ["file-type"]⟩,
  ⟨"si", .nothing, ["si"]⟩, ⟨"H", .nothing, ["dereference-command-line"]⟩,
  ⟨"directories", .nothing, ["dereference-command-line-symlink-to-dir"]⟩,
  ⟨"L", .nothing, ["dereference"]⟩, ⟨"N", .nothing, ["literal"]⟩,
  ⟨"Q", .nothing, ["quote-name"]⟩, ⟨"quoting-style", .argument, ["quoting-style"]⟩,
  ⟨"R", .nothing, ["recursive"]⟩, ⟨"format", .argument, ["format"]⟩,
  ⟨"shown", .nothing, ["show-control-chars"]⟩, ⟨"sort", .argument, ["sort"]⟩,
  ⟨"T", .argument, ["tabsize"]⟩, ⟨"time", .argument, ["time"]⟩,
  ⟨"time-style", .argument, ["time-style"]⟩, ⟨"zero", .nothing, ["zero"]⟩,
  ⟨"color", .perhaps, ["color"]⟩, ⟨"hyperlink", .perhaps, ["hyperlink"]⟩,
  ⟨"block-size", .argument, ["block-size"]⟩, ⟨"Z", .nothing, ["context"]⟩,
  ⟨"author", .nothing, ["author"]⟩, ⟨"hide", .argument, ["hide"]⟩,
  ⟨"I", .argument, ["ignore"]⟩, ⟨"indicator-style", .argument, ["indicator-style"]⟩,
  ⟨"p", .nothing, []⟩, ⟨"F", .nothing, []⟩, ⟨"c", .nothing, []⟩, ⟨"f", .nothing, []⟩,
  ⟨"g", .nothing, []⟩, ⟨"l", .nothing, []⟩, ⟨"m", .nothing, []⟩, ⟨"o", .nothing, []⟩,
  ⟨"t", .nothing, []⟩, ⟨"u", .nothing, []⟩, ⟨"v", .nothing, []⟩, ⟨"x", .nothing, []⟩,
  ⟨"C", .nothing, []⟩, ⟨"S", .nothing, []⟩, ⟨"U", .nothing, []⟩, ⟨"X", .nothing, []⟩,
  ⟨"1", .nothing, []⟩]

/-- When something is done that depends on the output. -/
def whens : List (String × Nat) := [
  ("always", 0), ("yes", 0), ("force", 0), ("never", 1), ("no", 1), ("none", 1), ("auto", 2),
  ("tty", 2), ("if-tty", 2)]

def orders : List (String × Order) := [
  ("none", .unsorted), ("time", .time), ("size", .size), ("extension", .extension),
  ("version", .version), ("width", .width)]

def layouts : List (String × Layout × Nat) := [
  ("verbose", .details, 0), ("long", .details, 0), ("commas", .commas, 0),
  ("horizontal", .across, 0), ("across", .across, 0), ("vertical", .columns, 0),
  ("single-column", .single, 0)]

/-- Times by name. -/
def timeKinds : List (String × TimeKind) := [
  ("atime", .used), ("access", .used), ("use", .used), ("ctime", .altered),
  ("status", .altered), ("mtime", .modified), ("modification", .modified), ("birth", .born),
  ("creation", .born)]

def indicators : List (String × Indicator) := [
  ("none", .none), ("slash", .slash), ("file-type", .kind), ("classify", .classify)]

/-- Spellings by name, each with a number, so that two of one spelling are two
choices. -/
def spellings : List (String × Spelling × Nat) := [
  ("literal", .literal, 0), ("shell", .shell, 0), ("shell-always", .shellAlways, 0),
  ("shell-escape", .shellEscape, 0), ("shell-escape-always", .shellEscapeAlways, 0),
  ("c", .text, 0), ("c-maybe", .textMaybe, 0), ("escape", .escape, 0),
  ("locale", .apostrophes, 0), ("clocale", .text, 1)]

def timeStyles : List (String × TimeStyle) := [
  ("full-iso", .full), ("long-iso", .long), ("iso", .short), ("locale", .locale)]

/-- A number for the width of lines or tabs; one too large is none. -/
def width? (text : Bytes) : Option Nat :=
  match leadingInteger text with
  | some (n, []) =>
    if n < 0 || text.contains 0x2D then none else some (if n ≤ largest then n.toNat else 0)
  | _ => none

/-- What is wrong with an option, whether a line on help follows, and the exit
code. -/
structure Fault where
  text : Bytes
  helps : Bool := true
  code : Nat := 2

def Fault.output (process : Process) (fault : Fault) : Output :=
  ⟨[(2, Process.line process fault.text ++ if fault.helps then tryHelp process else [])],
    fault.code⟩

/-- The powers of a thousand or of 1024, by the letters of their units. -/
def unitLetters : List (Char × Char) :=
  [('k', 'K'), ('m', 'M'), ('g', 'G'), ('t', 'T'), ('p', 'P'), ('e', 'E'), ('z', 'Z'), ('y', 'Y')]

/-- A unit behind a size: its octets, how it is written, and what follows. -/
def unitOf : List Char → Option (Nat × String × List Char)
  | letter :: rest =>
    (unitLetters.findIdx? fun pair => letter = pair.1 || letter = pair.2).map fun power =>
      let shown := (unitLetters.getD power ('K', 'K')).2.toString
      match rest with
      | 'i' :: 'B' :: rest => (Nat.pow 1024 (power + 1), shown ++ "iB", rest)
      | 'B' :: rest =>
        (Nat.pow 1000 (power + 1), (if power = 0 then "k" else shown) ++ "B", rest)
      | rest => (Nat.pow 1024 (power + 1), shown, rest)
  | [] => none

/-- The words that stand for sizes in units that suit. -/
def sizeWords : List (String × Nat) :=
  [("human-readable", 1024), ("si", 1000)]

/-- The sizes that a block size asks for: a number and a unit, of which one may
be missing. Else what is said of it. -/
def sizesOf (text : Bytes) : Except Fault Sizes :=
  let fault (front back : String) : Except Fault Sizes :=
    .error { text := encode (front ++ "--block-size argument '") ++ text ++ encode ("'" ++ back)
             helps := false }
  -- Digits are not put into groups here, so that asking for it changes nothing.
  let spec := if text.head? = some 0x27 then text.drop 1 else text
  match (if spec.isEmpty then none else choice? sizeWords spec) with
  | some base => .ok (.suited base)
  | none =>
    let isNumber := (leadingInteger spec).isSome
    let (count, behind) := (leadingInteger spec).getD (1, spec)
    let after := behind.map Char.ofUInt8
    if count < 0 || spec.contains 0x2D then fault "invalid " ""
    else
      match unitOf after with
      | none =>
        if !after.isEmpty then fault (if isNumber then "invalid suffix in " else "invalid ") ""
        else if isNumber && count != 0 then
          if largest < count then fault "" " too large" else .ok (.blocks count.toNat "")
        else fault "invalid " ""
      | some (size, unit, rest) =>
        if !rest.isEmpty then fault "invalid suffix in " ""
        else if largest < count * size then fault "" " too large"
        else if count = 0 then fault "invalid " ""
        else .ok (.blocks (count.toNat * size) (if isNumber then "" else unit))

/-- The choice that a word makes for a long option. -/
def chosen {α : Type} [BEq α] (option : String) (words : List (String × α)) (given : Given) :
    Except Fault α :=
  let word := given.argument.getD []
  match choice? words word with
  | some value => .ok value
  | none => .error { text := badChoice option words word, code := 1 }

/-- The style with one more option. -/
def Style.add (style : Style) (given : Given) : Except Fault Style := do
  match given.key with
  | "a" => return { style with hidden := .all }
  | "A" => return { style with hidden := .almost }
  | "b" => return { style with spelling := .escape }
  | "N" => return { style with spelling := .literal }
  | "Q" => return { style with spelling := .text }
  | "quoting-style" =>
    return { style with spelling := (← chosen "--quoting-style" spellings given).1 }
  | "d" => return { style with itself := true }
  | "R" => return { style with recursive := true }
  | "r" => return { style with reverse := true }
  | "grouping" => return { style with directoriesFirst := true }
  | "h" => return { style with blockSizes := .suited 1024, fileSizes := .suited 1024 }
  | "si" => return { style with blockSizes := .suited 1000, fileSizes := .suited 1000 }
  | "k" => return style
  | "block-size" =>
    let sizes ← sizesOf (given.argument.getD [])
    return { style with blockSizes := sizes, fileSizes := sizes }
  | "i" => return { style with serial := true }
  | "s" => return { style with blocks := true }
  | "Z" => return { style with context := true }
  | "q" => return { style with questions := true }
  | "shown" => return { style with questions := false }
  | "B" => return { style with ignored := encode "*~" :: encode ".*~" :: style.ignored }
  | "I" => return { style with ignored := given.argument.getD [] :: style.ignored }
  | "hide" => return { style with veiled := given.argument.getD [] :: style.veiled }
  | "F" => return { style with indicator := .classify }
  | "p" => return { style with indicator := .slash }
  | "file-type" => return { style with indicator := .kind }
  | "classify" =>
    let isOn ← if given.argument.isNone then .ok true
      else (chosen "--classify" whens given).map (· = 0)
    return if isOn then { style with indicator := .classify } else style
  | "indicator-style" =>
    return { style with indicator := ← chosen "--indicator-style" indicators given }
  | "H" => return { style with follow := some .operands }
  | "directories" => return { style with follow := some .directories }
  | "L" => return { style with follow := some .always }
  | "l" => return { style with layout := .details }
  | "g" => return { style with layout := .details, owner := false }
  | "o" => return { style with layout := .details, group := false }
  | "G" => return { style with group := false }
  | "n" => return { style with layout := .details, numeric := true }
  | "author" => return { style with author := true }
  | "full-time" => return { style with layout := .details, timeWord := some (encode "full-iso") }
  | "m" => return { style with layout := .commas }
  | "x" => return { style with layout := .across }
  | "C" => return { style with layout := .columns }
  | "1" => return if style.layout = .details then style else { style with layout := .single }
  | "format" => return { style with layout := (← chosen "--format" layouts given).1 }
  | "f" =>
    return { style with
      hidden := .all, order := some .unsorted, blocks := false
      layout := if style.layout = .details then .single else style.layout }
  | "U" => return { style with order := some .unsorted }
  | "t" => return { style with order := some .time }
  | "S" => return { style with order := some .size }
  | "X" => return { style with order := some .extension }
  | "v" => return { style with order := some .version }
  | "sort" => return { style with order := some (← chosen "--sort" orders given) }
  | "c" => return { style with timeKind := .altered }
  | "u" => return { style with timeKind := .used }
  | "time" => return { style with timeKind := ← chosen "--time" timeKinds given }
  | "time-style" => return { style with timeWord := given.argument }
  | "w" =>
    match width? (given.argument.getD []) with
    | some width => return { style with width := some width }
    | none =>
      throw { text := encode "invalid line width: " ++ Quoting.text (given.argument.getD [])
              helps := false }
  | "T" =>
    match width? (given.argument.getD []) with
    | some tabs => return { style with tabs := some tabs }
    | none =>
      throw { text := encode "invalid tab size: " ++ Quoting.text (given.argument.getD [])
              helps := false }
  | "color" =>
    -- A terminal that is not known has no colours.
    if given.argument.isSome then discard (chosen "--color" whens given)
    return style
  | "hyperlink" =>
    if given.argument.isSome then discard (chosen "--hyperlink" whens given)
    return style
  | "zero" =>
    return { style with
      lineEnd := 0, spelling := .literal, questions := false
      layout := if style.layout = .details then .details else .single }
  | _ => return style

/-- How times are written, by a word for it. Under the system's own customs the
named styles with a front part do not apply. -/
def timesOf (word : Bytes) : Except Fault TimeStyle :=
  if (encode "posix-").isPrefixOf word then .ok .locale
  else
    match word with
    | 0x2B :: format =>
      match format.splitOn 10 with
      | [old, late] => .ok (.own old late)
      | [all] => .ok (.own all all)
      | _ =>
        .error { text := encode "invalid time style format " ++ Quoting.text format
                 helps := false }
    | word =>
      match choice? timeStyles word with
      | some times => .ok times
      | none =>
        let isPart := timeStyles.any fun style => word.isPrefixOf (encode style.1)
        let fault := if isPart then "ambiguous argument " else "invalid argument "
        let help := " for 'time style'\nValid arguments are:\n" ++
          "  - [posix-]full-iso\n  - [posix-]long-iso\n  - [posix-]iso\n" ++
          "  - [posix-]locale\n  - +FORMAT (e.g., +%H:%M) for a 'date'-style format"
        .error { text := encode fault ++ Quoting.text word ++ encode help }

/-- The style with one more option, for a utility. -/
def Style.heed (process : Process) (_kernel : Kernel) (style : Style) (given : Given) :
    Except Output Style :=
  (style.add given).mapError (·.output process)

/-- The style with times written as its word asks for it, or one from the
environment. -/
def Style.timed (style : Style) (process : Process) : Except Fault Style :=
  match style.layout, style.timeWord.or (process.env.lookup (encode "TIME_STYLE")) with
  | .details, some word => (timesOf word).map fun times => { style with times }
  | _, _ => .ok style

namespace Style

/-- Which links a listing follows, where nothing is said of it. -/
def follows (style : Style) : Follow :=
  style.follow.getD
    (if style.itself || style.indicator = .classify || style.layout = .details then .never
    else .directories)

/-- The order of a listing. One that asks for an unusual time and does not show
it is in the order of that. -/
def sorted (style : Style) : Order :=
  let isUnusual := style.timeKind != .modified
  style.order.getD (if isUnusual && style.layout != .details then .time else .name)

/-- Whether a listing depends on where the links in a directory lead. -/
def minds (style : Style) : Bool :=
  style.layout = .details || style.sorted = .time || style.sorted = .size ||
    style.blocks || style.serial || style.context || style.recursive ||
    style.directoriesFirst || style.indicator != .none

/-- Whether a name in a directory is listed. -/
def lists (style : Style) (name : Bytes) : Bool :=
  let dotted := name.head? = some Path.dot
  let isLink := name = [Path.dot] || name = FileTree.dotDot
  let matchesAny (patterns : List Bytes) : Bool := patterns.any fun pattern =>
    (!dotted || pattern.head? = some Path.dot) && fits (Pattern.nameGlyphs pattern) name
  !((style.hidden != .all && dotted && (style.hidden = .none || isLink)) ||
    (style.hidden = .none && matchesAny style.veiled) || matchesAny style.ignored)

end Style

end Rollout.Posix.Utility.Listing
