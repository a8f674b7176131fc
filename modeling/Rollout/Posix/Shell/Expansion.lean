import Rollout.Posix.Pattern
import Rollout.Posix.Shell.Arithmetic
import Rollout.Posix.Shell.Children

/-!
# Expansion of words

Parameters, substitutions and arithmetic put into words; the words split into
fields; patterns replaced by the paths they match.
-/

namespace Rollout.Posix.Shell

open Rollout.Text (Bytes encode)

/-- A part of what an expansion comes to. -/
inductive Item where
  | octet (b : UInt8) (quoted : Bool)
  /-- One parameter ends and another starts. -/
  | border

/-- What an expanded word is made of. -/
inductive Piece where
  | octet (b : UInt8) (quoted : Bool)
  /-- Quotes were here: a field even if nothing else is. -/
  | mark
  /-- What an expansion comes to, in which fields may end: at borders only if
  it is hard. -/
  | span (hard : Bool) (items : List Item)

/-- Where a word stands. -/
structure Setting where
  quoted : Bool := false
  /-- The word is split into fields. -/
  splits : Bool := false
  /-- Its plain text is split like an expansion. -/
  isOpen : Bool := false
  /-- It is the value of an assignment, where tildes follow colons. -/
  isValue : Bool := false

def quotedPieces (octets : Bytes) : List Piece :=
  octets.map (.octet · true)

/-- The pieces of text that an expansion put in. -/
def expandedPieces (setting : Setting) (octets : Bytes) : List Piece :=
  if setting.quoted then quotedPieces octets
  else [.span false (octets.map (.octet · false))]

def Item.marked? : Item → Option Marked
  | .octet b quoted => some (b, quoted)
  | .border => none

/-- The octets of a word that is not split. -/
def markedIn (pieces : List Piece) : List Marked :=
  pieces.flatMap fun piece => match piece with
    | .octet b quoted => [(b, quoted)]
    | .mark => []
    | .span _ items => items.filterMap Item.marked?

def octetsIn (pieces : List Piece) : Bytes :=
  (markedIn pieces).map Prod.fst

namespace Splitting

/-- What splitting has come to. -/
structure State where
  /-- The fields, the last one first. -/
  fields : List (List (Option Marked)) := []
  /-- The field at work, its last octet first; quotes count as well. -/
  current : List (Option Marked) := []
  /-- White space has just ended a field. -/
  isSpaced : Bool := false
  isHard : Bool := false
  /-- The span before was hard. -/
  wasHard : Bool := false
  /-- How many fields may come, where that is limited. -/
  room : Option Nat := none
  /-- The length to which the last field is cut at the end. -/
  cut : Option Nat := none

def State.push (state : State) (found : Option Marked) : State :=
  { state with current := found :: state.current }

/-- White space, as far as it separates fields by nature. -/
def isSpace (b : UInt8) : Bool :=
  b = 0x20 || b = 9 || b = 10

/-- Takes in one item of a span. -/
def State.take (separators : Bytes) (state : State) (item : Item) : State :=
  let ends := match item with
    | .border => true
    | .octet b _ => !state.isHard && separators.contains b
  let isWhite := ends && match item with
    | .border => true
    | .octet b _ => isSpace b
  if state.room = some 0 then
    -- All that is left belongs to the last field.
    let state := state.push item.marked?
    if isWhite then
      { state with cut := some (state.cut.getD (state.current.length - 1)) }
    else
      { state with cut := if ends && state.isSpaced then state.cut else none, isSpaced := false }
  else if state.isSpaced && isWhite then state
  else if state.isSpaced then
    let state := { state with isSpaced := false }
    -- Another separator between white space does not end one more field.
    if ends then state else state.push item.marked?
  else if ends then
    let state := if state.wasHard || state.isHard then state else { state with isSpaced := isWhite }
    if state.current.isEmpty && state.isSpaced then { state with isSpaced := false }
    else
      let room := state.room.map (· - 1)
      let state := { state with room }
      if room = some 0 then
        { state.push item.marked? with cut := some state.current.length }
      else { state with fields := state.current.reverse :: state.fields, current := [] }
  else state.push item.marked?

def State.piece (separators : Bytes) (state : State) : Piece → State
  | .octet b quoted => state.push (some (b, quoted))
  | .mark => state.push none
  | .span hard items =>
    items.foldl (State.take separators)
      { state with isSpaced := false, isHard := hard, wasHard := state.isHard }

/-- The fields of a word, at most as many as there is room for. -/
def fields (separators : Bytes) (room : Option Nat) (pieces : List Piece) :
    List (List Marked) :=
  let state := pieces.foldl (State.piece separators) { room }
  let last := match state.cut with
    | some length => state.current.drop (state.current.length - length)
    | none => state.current
  let all := if state.isHard || !last.isEmpty then last.reverse :: state.fields else state.fields
  all.reverse.map (·.filterMap id)

end Splitting

/-- Accounts of the system with their directories. -/
def homes : List (String × String) := [
  ("root", "/root"), ("daemon", "/usr/sbin"), ("bin", "/bin"), ("sys", "/dev"), ("sync", "/bin"),
  ("games", "/usr/games"), ("man", "/var/cache/man"), ("lp", "/var/spool/lpd"),
  ("mail", "/var/mail"), ("news", "/var/spool/news"), ("uucp", "/var/spool/uucp"),
  ("proxy", "/bin"), ("www-data", "/var/www"), ("backup", "/var/backups"), ("list", "/var/list"),
  ("irc", "/run/ircd"), ("_apt", "/nonexistent"), ("nobody", "/nonexistent")]

/-- The home that a tilde with this name stands for. -/
def home? (scope : Scope) (name : Bytes) : Option Bytes :=
  if name.isEmpty then scope.named? "HOME"
  else (homes.find? fun entry => encode entry.1 = name).map fun entry => encode entry.2

/-- Puts homes for tildes at the front of a text and, in a value, behind
colons. `isWhole` says that the word ends with the text. -/
def tildes (scope : Scope) (isValue isWhole : Bool) : Nat → Bool → Bytes → List Piece
  | 0, _, _ => []
  | _ + 1, _, [] => []
  | fuel + 1, mayStart, b :: rest =>
    let plain : Unit → List Piece := fun _ =>
      .octet b false :: tildes scope isValue isWhole fuel (isValue && b = 0x3A) rest
    if b = 0x7E && mayStart then
      let name := rest.takeWhile fun c => c != Path.slash && !(isValue && c = 0x3A)
      let after := rest.drop name.length
      match if after.isEmpty && !isWhole then none else home? scope name with
      | some home => quotedPieces home ++ tildes scope isValue isWhole fuel false after
      | none => plain ()
    else plain ()

/-- Pieces whose octets take part in splitting, but for those that a tilde put
in. -/
def opened (pieces : List Piece) : List Piece :=
  pieces.foldr (fun piece rest => match piece, rest with
    | .octet b false, .span false items :: rest => .span false (.octet b false :: items) :: rest
    | .octet b false, rest => .span false [.octet b false] :: rest
    | piece, rest => piece :: rest) []

/-- The pieces of plain text. -/
def textPieces (scope : Scope) (setting : Setting) (isFirst isLast : Bool) (octets : Bytes) :
    List Piece :=
  if setting.quoted then quotedPieces octets
  else
    let mayStart := isFirst && octets.head? = some 0x7E
    let pieces :=
      if mayStart || (setting.isValue && octets.contains 0x7E) then
        tildes scope setting.isValue isLast (octets.length + 1) mayStart octets
      else octets.map (.octet · false)
    if setting.isOpen then opened pieces else pieces

/-- Whether a name stands for all parameters. -/
def isAll (name : Bytes) : Bool :=
  name = [0x40] || name = [0x2A]

/-- The value of a parameter that has one and does not stand for all. -/
def parameter? (scope : Scope) (name : Bytes) : Option Bytes :=
  match name with
  | [0x23] => some (encode (toString scope.params.length))
  | [0x3F] => some (encode (toString scope.status))
  | [0x24] => some (encode (toString scope.number))
  | [0x21] => scope.lastJob.map fun n => encode (toString n)
  | [0x2D] =>
    let letters := "upbaCEVvxsnmiIfe".toList
    some (encode (String.ofList (letters.filter scope.options.contains)))
  | _ =>
    if name.all isDigit then
      let number := name.foldl (fun n b => 10 * n + (b.toNat - 48)) 0
      if number = 0 then some scope.name else scope.params[number - 1]?
    else scope.value? name

/-- What stands between parameters that are joined. -/
def joint (scope : Scope) : Bytes :=
  (scope.named? "IFS").elim [0x20] (·.take 1)

/-- The pieces of a parameter that is set. -/
def parameterPieces (scope : Scope) (setting : Setting) (name value : Bytes) : List Piece :=
  if isAll name then
    let isHard := setting.quoted && name = [0x40]
    if setting.splits && (isHard || !setting.quoted) then
      let items := scope.params.map fun param =>
        param.map fun b => Item.octet b setting.quoted
      if isHard && scope.params.isEmpty then []
      else [.span isHard ([Item.border].intercalate items)]
    else expandedPieces setting ((joint scope).intercalate scope.params)
  else expandedPieces setting value

/-- The octets of a parameter, where zero octets stand between those that are
joined by borders. -/
def parameterText (scope : Scope) (setting : Setting) (name : Bytes) : Option Bytes :=
  if isAll name then
    let isApart := setting.splits && (!setting.quoted || name = [0x40])
    some ((if isApart then [0] else joint scope).intercalate scope.params)
  else parameter? scope name

/-- A text with zero octets at its borders as pieces. -/
def partedPieces (setting : Setting) (name text : Bytes) : List Piece :=
  if isAll name && text.contains 0 then
    [.span setting.quoted (text.map fun b => if b = 0 then .border else .octet b setting.quoted)]
  else expandedPieces setting text

/-- The octets without the line ends behind them. -/
def withoutNewlines (octets : Bytes) : Bytes :=
  (octets.reverse.dropWhile (· = 10)).reverse

mutual

/-- Expands one part of a word. -/
def expandPart (setting : Setting) (isFirst isLast : Bool) (part : Part) : Act (List Piece) := do
  match part with
  | .text octets => return textPieces (← Act.scope) setting isFirst isLast octets
  | .quoted octets => return .mark :: quotedPieces octets
  | .double parts =>
    let inner := { setting with quoted := true, isOpen := false, isValue := false }
    match parts with
    | [.parameter [0x40] .plain []] =>
      return parameterPieces (← Act.scope) inner [0x40] []
    | parts =>
      let pieces ← expandParts inner false parts
      return .mark :: pieces ++ [.mark]
  | .command body =>
    -- Zero octets and line ends at the end are not part of the value.
    return expandedPieces setting (withoutNewlines ((← substitute body).filter (· != 0)))
  | .arithmetic parts =>
    let pieces ← expandParts { quoted := true } false parts
    let number ← Arithmetic.value (octetsIn pieces)
    return expandedPieces setting (encode (toString number))
  | .parameter name use word =>
    let scope ← Act.scope
    let text := parameterText scope setting name
    let isMissing (colon : Bool) : Bool := text.isNone || (colon && text = some [])
    let own : Act (List Piece) := do
      let scope ← Act.scope
      return parameterPieces scope setting name ((parameter? scope name).getD [])
    let need : Act Unit := do
      if text.isNone && scope.isSet 'u' then Act.fail (name ++ encode ": parameter not set")
    let inner := { setting with isOpen := !setting.quoted }
    match use with
    | .plain =>
      need
      if text.isNone then return [] else own
    | .size =>
      need
      let whole := if isAll name then (joint scope).intercalate scope.params else text.getD []
      return expandedPieces setting (encode (toString whole.length))
    | .orElse colon => if isMissing colon then expandParts inner true word else own
    | .instead colon =>
      if isMissing colon then
        return if setting.quoted then [] else [.span false []]
      else expandParts inner true word
    | .assign colon =>
      if isMissing colon then
        let pieces ← expandParts { } (!setting.quoted) word
        Act.setVariable name (some (octetsIn pieces))
      own
    | .require colon =>
      if isMissing colon then
        let pieces ← expandParts { } (!setting.quoted) word
        let reason := if word.isEmpty then
            encode (if colon then "parameter not set or null" else "parameter not set")
          else octetsIn pieces
        Act.fail (name ++ encode ": " ++ reason)
      else own
    | .cutFront longest =>
      need
      match text with
      | none => return []
      | some text =>
        let pieces ← expandParts { } true word
        return partedPieces setting name
          (cutFront longest (Pattern.glyphs (markedIn pieces)) text)
    | .cutBack longest =>
      need
      match text with
      | none => return []
      | some text =>
        let pieces ← expandParts { } true word
        return partedPieces setting name
          (cutBack longest (Pattern.glyphs (markedIn pieces)) text)
    | .bad => Act.fail (encode "Bad substitution")

/-- Expands the parts of a word one after another. -/
def expandParts (setting : Setting) (isFirst : Bool) (parts : List Part) : Act (List Piece) := do
  match parts with
  | [] => return []
  | part :: rest =>
    let first ← expandPart setting isFirst rest.isEmpty part
    let others ← expandParts setting false rest
    return first ++ others

end

/-- A word as one text, without splitting. -/
def expandText (word : Word) : Act Bytes := do
  return octetsIn (← expandParts {} true word)

/-- The value of an assignment. -/
def expandValue (word : Word) : Act Bytes := do
  return octetsIn (← expandParts { isValue := true } true word)

/-- A document, or another text that is read as one. -/
def expandDocument (word : Word) : Act Bytes := do
  return octetsIn (← expandParts { quoted := true } false word)

/-- A word as a pattern. -/
def expandPattern (word : Word) : Act (List Glyph) := do
  return Pattern.glyphs (markedIn (← expandParts {} true word))

/-- The fields of a word, with patterns replaced by paths. -/
def expandWord (word : Word) : Act (List Bytes) := do
  let pieces ← expandParts { splits := true } true word
  let scope ← Act.scope
  let fields := Splitting.fields scope.separators none pieces
  if scope.isSet 'f' then return fields.map (·.map Prod.fst)
  else
    let kernel ← Act.kernel
    return fields.flatMap (Pattern.paths kernel.tree scope.place)

end Rollout.Posix.Shell
