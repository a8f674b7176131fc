import Rollout.Posix.Utility.Listing.Item

/-!
# Pages of a listing

Entries laid out: a name on each line, lines with all that is known, names
behind one another, or columns.
-/

namespace Rollout.Posix.Utility.Listing

open Rollout.Text (Bytes encode)

/-- How wide the columns in front of names are. -/
structure Columns where
  blocks : Nat
  links : Nat
  size : Nat

def linksText (item : Item) : String :=
  if !item.known then "?" else if item.isDirectory then toString (item.below + 2) else "1"

def Style.columns (style : Style) (items : List Item) : Columns :=
  let widest (text : Item → String) : Nat :=
    items.foldl (fun width item => max width (text item).length) 0
  { blocks := widest (blocksText style), links := widest linksText
    size := widest (sizeText style) }

/-- A text filled up in front. -/
def right (width : Nat) (text : String) : Bytes :=
  encode (String.ofList (List.replicate (width - text.length) ' ') ++ text)

/-- What all names of a page share. -/
structure Sheet where
  style : Style
  columns : Columns
  /-- A name without quotes starts where the others have theirs. -/
  padded : Bool
  now : Int
  zone : Calendar.Zone
  lineWidth : Nat
  tabs : Nat

namespace Sheet

/-- The columns in front of a name. -/
def lead (sheet : Sheet) (item : Item) : Bytes :=
  (if sheet.style.serial then encode "? " else []) ++
    (if sheet.style.blocks then right (if sheet.style.layout = .commas then 0
        else sheet.columns.blocks) (blocksText sheet.style item) ++ [0x20] else [])

def name (sheet : Sheet) (item : Item) : Bytes :=
  let written := sheet.style.name false item.name
  if sheet.padded && sheet.style.spell false item.name = item.name then 0x20 :: written
  else written

/-- A name with the columns in front of it and the mark behind it. -/
def short (sheet : Sheet) (item : Item) : Bytes :=
  sheet.lead item ++ (if sheet.style.context then encode "? " else []) ++ sheet.name item ++
    sheet.style.indicator.mark item.entry item.mode

/-- How many columns a name takes with what stands around it. -/
def width (sheet : Sheet) (item : Item) : Nat :=
  ((sheet.short item).filter isPrintable).length

/-- A line with all that is known of an entry. -/
def long (sheet : Sheet) (item : Item) : Bytes :=
  let style := sheet.style
  let who := encode (if !item.known then "?" else if style.numeric then "0" else "root")
  let column (isOn : Bool) (text : Bytes) : Bytes := if isOn then text ++ [0x20] else []
  let time :=
    if item.known then encode (style.times.text sheet.zone sheet.now item.time)
    else right (style.times.width sheet.zone) "?"
  let behind := match item.entry with
    | .link target =>
      if item.known then
        encode " -> " ++ style.name false target ++
          (item.target.elim [] fun found => style.indicator.mark found.entry found.mode)
      else []
    | entry => style.indicator.mark entry item.mode
  sheet.lead item ++ encode (modeText item) ++ [0x20] ++
    right sheet.columns.links (linksText item) ++ [0x20] ++ column style.owner who ++
    column style.group who ++ column style.author who ++ column style.context (encode "?") ++
    right sheet.columns.size (sizeText style item) ++ [0x20] ++ time ++ [0x20] ++
    sheet.name item ++ behind

/-- Names behind one another, this mark behind each but the last. -/
def separated (sheet : Sheet) (mark : UInt8) (items : List Item) : Bytes :=
  let (text, _) := items.foldl (fun ((text : Bytes), (position : Option Nat)) item =>
    let length := if sheet.lineWidth = 0 then 0 else sheet.width item
    let written := sheet.short item
    match position with
    | none => (written, some length)
    | some position =>
      if sheet.lineWidth = 0 || position + length + 2 < sheet.lineWidth then
        (text ++ [mark, 0x20] ++ written, some (position + 2 + length))
      else (text ++ [mark, sheet.style.lineEnd] ++ written, some length)) ([], none)
  text ++ [sheet.style.lineEnd]

/-- Blanks from one position to another, with tabs as far as they fit. -/
def blanks (sheet : Sheet) : Nat → Nat → Nat → Bytes
  | 0, _, _ => []
  | fuel + 1, start, stop =>
    if stop ≤ start then []
    else if sheet.tabs != 0 && (start + 1) / sheet.tabs < stop / sheet.tabs then
      9 :: blanks sheet fuel (start + sheet.tabs - start % sheet.tabs) stop
    else 0x20 :: blanks sheet fuel (start + 1) stop

/-- Two columns stand so far apart. -/
def gap : Nat := 2

/-- The least width of a column. -/
def leastWidth : Nat := 3

/-- The widths of so many columns for names of these widths. -/
def widthsFor (byRows : Bool) (count : Nat) (widths : List Nat) : List Nat :=
  let rows := (widths.length + count - 1) / count
  let start := List.replicate count leastWidth
  let placed := widths.zipIdx
  placed.foldl (fun found (width, n) =>
    let column := if byRows then n % count else n / rows
    let width := width + if column + 1 = count then 0 else gap
    found.modify column (max width)) start

/-- The largest number of columns that fits, with their widths. -/
def fitting (sheet : Sheet) (byRows : Bool) (widths : List Nat) : List Nat :=
  let most := min widths.length ((sheet.lineWidth + leastWidth - 1) / leastWidth)
  let counts := (List.range (most + 1)).reverse.filter (1 < ·)
  let fits (count : Nat) : Option (List Nat) :=
    let found := widthsFor byRows count widths
    if found.foldl (· + ·) 0 < sheet.lineWidth then some found else none
  (counts.findSome? fits).getD (widthsFor byRows 1 widths)

/-- Names in columns. -/
def inColumns (sheet : Sheet) (byRows : Bool) (items : List Item) : Bytes :=
  let cells := items.map fun item => (sheet.short item, sheet.width item)
  let found := sheet.fitting byRows (cells.map Prod.snd)
  let count := found.length
  let rows := (cells.length + count - 1) / count
  let starts := found.foldl (fun starts width => starts ++ [starts.getLastD 0 + width]) [0]
  let row (n : Nat) : Bytes :=
    let line := (List.range count).filterMap fun column =>
      cells[if byRows then n * count + column else n + column * rows]?
    let (text, _) := (line.zip starts).foldl (fun ((text : Bytes), (stop : Nat)) (cell, start) =>
      (text ++ sheet.blanks start stop start ++ cell.1, start + cell.2)) ([], 0)
    text ++ [sheet.style.lineEnd]
  ((List.range rows).map row).flatten

/-- Entries laid out as the style asks for it. -/
def render (sheet : Sheet) (items : List Item) : Bytes :=
  match sheet.style.layout with
  | .single => items.flatMap fun item => sheet.short item ++ [sheet.style.lineEnd]
  | .details => items.flatMap fun item => sheet.long item ++ [sheet.style.lineEnd]
  | .commas => sheet.separated 0x2C items
  | .columns =>
    if sheet.lineWidth = 0 then sheet.separated 0x20 items else sheet.inColumns false items
  | .across =>
    if sheet.lineWidth = 0 then sheet.separated 0x20 items else sheet.inColumns true items

end Sheet

/-- The width of lines and of tabs where nothing is said of them. -/
def usualWidths : Nat × Nat := (80, 8)

/-- Whether one of some names has quotes around it that others do not have. -/
def Style.quotesAny (style : Style) (names : List Bytes) : Bool :=
  (style.spelling = .shell || style.spelling = .shellEscape || style.spelling = .textMaybe) &&
    names.any fun name => style.spell false name != name

/-- A page with entries, the columns as wide as all that were looked at ask for
it; none has no line. -/
def page (style : Style) (zone : Calendar.Zone) (now : Int) (widths : Nat × Nat)
    (names : List Bytes) (all items : List Item) : Bytes :=
  let aligned := style.layout = .details ||
    ((style.layout = .columns || style.layout = .across) && widths.1 != 0)
  let sheet : Sheet := {
    style, now, zone, columns := style.columns all, lineWidth := widths.1, tabs := widths.2
    padded := aligned && style.quotesAny names }
  if items.isEmpty then [] else sheet.render items

end Rollout.Posix.Utility.Listing
