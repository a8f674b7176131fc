import Rollout.Posix.Utility.Basic

/-!
# Octets made into others

Replaces, deletes and squeezes octets. The octets are given by two strings
with escapes, ranges, classes and repetitions.
-/

namespace Rollout.Posix.Utility

open Rollout.Text (Bytes encode)

namespace Translate

def switches : List Switch := [
  ⟨"c", .nothing, ["complement"]⟩, ⟨"C", .nothing, []⟩, ⟨"A", .nothing, []⟩,
  ⟨"d", .nothing, ["delete"]⟩, ⟨"s", .nothing, ["squeeze-repeats"]⟩,
  ⟨"t", .nothing, ["truncate-set1"]⟩]

/-- An octet of a string; one that an escape spells stands for itself. -/
structure Unit where
  octet : UInt8
  plain : Bool

/-- Whether a unit is this character and means what it does there. -/
def Unit.isMark (unit : Unit) (c : Char) : Bool :=
  !unit.plain && Char.ofUInt8 unit.octet = c

/-- The units of a string, and what is said of its escapes. -/
def units : Nat → Bytes → List Unit × List Bytes
  | 0, _ => ([], [])
  | _ + 1, [] => ([], [])
  | _ + 1, [0x5C] =>
    ([⟨0x5C, true⟩], [encode "warning: an unescaped backslash at end of string is not portable"])
  | fuel + 1, b :: rest =>
    let add (unit : Unit) (rest : Bytes) : List Unit × List Bytes :=
      let (others, said) := units fuel rest
      (unit :: others, said)
    if b != 0x5C then add ⟨b, false⟩ rest
    else
      let digits := (rest.take 3).takeWhile isOctal
      if digits.length = 3 && 255 < spelled 8 digits then
        -- Three digits that are too much for an octet count as two and one.
        let (others, said) := units fuel (rest.drop 2)
        let two := digits.take 2
        (⟨UInt8.ofNat (spelled 8 two), true⟩ :: others,
          (encode "warning: the ambiguous octal escape \\" ++ digits ++
            encode " is being\n\tinterpreted as the 2-byte sequence \\0" ++ two ++ encode ", " ++
            digits.drop 2) :: said)
      else if !digits.isEmpty then
        add ⟨UInt8.ofNat (spelled 8 digits), true⟩ (rest.drop digits.length)
      else
        match rest with
        | letter :: rest => add ⟨(letterEscape? (Char.ofUInt8 letter) false).getD letter, true⟩ rest
        | [] => ([], [])

/-- What a string is made of. -/
inductive Item where
  | octet (b : UInt8)
  | range (low high : UInt8)
  | members (name : String) (octets : Bytes)
  | same (b : UInt8)
  /-- An octet so many times; without a count, as many as are needed. -/
  | repeated (b : UInt8) (count : Option Nat)

def span (low high : Nat) : Bytes :=
  (List.range (high + 1 - low)).map fun n => UInt8.ofNat (low + n)

/-- The octets of a class. -/
def members? (name : String) : Option Bytes :=
  let digits := span 0x30 0x39
  let upper := span 0x41 0x5A
  let lower := span 0x61 0x7A
  let marks := span 0x21 0x2F ++ span 0x3A 0x40 ++ span 0x5B 0x60 ++ span 0x7B 0x7E
  match name with
  | "alnum" => some (digits ++ upper ++ lower)
  | "alpha" => some (upper ++ lower)
  | "blank" => some [9, 0x20]
  | "cntrl" => some (span 0 0x1F ++ [0x7F])
  | "digit" => some digits
  | "graph" => some (span 0x21 0x7E)
  | "lower" => some lower
  | "print" => some (span 0x20 0x7E)
  | "punct" => some marks
  | "space" => some (span 9 13 ++ [0x20])
  | "upper" => some upper
  | "xdigit" => some (digits ++ span 0x41 0x46 ++ span 0x61 0x66)
  | _ => none

/-- Classes whose members stand for each other in two strings. -/
def isCase (name : String) : Bool :=
  name = "upper" || name = "lower"

def octetsOf (units : List Unit) : Bytes :=
  units.map Unit.octet

/-- An octet as it is shown within a message. -/
def shownOctet (b : UInt8) : Bytes :=
  if isPrintable b then [b] else 0x5C :: octalDigits b

/-- Octets as they are shown together within a message: some have a letter. -/
def shown (octets : Bytes) : Bytes :=
  octets.flatMap fun b =>
    let letters : List (UInt8 × Char) :=
      [(7, 'a'), (8, 'b'), (9, 't'), (10, 'n'), (11, 'v'), (12, 'f'), (13, 'r')]
    (letters.lookup b).elim (shownOctet b) fun letter => [0x5C, letter.toUInt8]

/-- Whether a star and digits stand in front of a closing bracket. -/
def isRepetition : List Unit → Bool
  | star :: rest =>
    star.isMark '*' &&
      ((rest.dropWhile fun unit => isDigitOctet unit.octet).head?.any fun unit => unit.isMark ']')
  | [] => false

/-- What stands between a mark and the same mark with a closing bracket, and
what follows. -/
def enclosed (mark : Char) (seen : List Unit) : List Unit → Option (List Unit × List Unit)
  | first :: second :: rest =>
    if first.isMark mark && second.isMark ']' then some (seen.reverse, rest)
    else enclosed mark (first :: seen) (second :: rest)
  | _ => none

/-- A class or an octet between marks, a bracket and a mark behind. Nothing if
it is no such construct after all. -/
def construct (mark : Char) (rest : List Unit) : Except Bytes (Option (Item × List Unit)) :=
  match enclosed mark [] rest with
  | none => .ok none
  | some (inner, after) =>
    let octets := octetsOf inner
    if inner.isEmpty then
      .error (encode (if mark = ':' then "missing character class name '[::]'"
        else "missing equivalence class character '[==]'"))
    else if mark = ':' then
      match members? (Text.lossy octets) with
      | some found => .ok (some (.members (Text.lossy octets) found, after))
      | none =>
        if isRepetition rest then .ok none
        else .error (encode "invalid character class " ++ Quoting.text (shown octets))
    else
      match octets with
      | [b] => .ok (some (.same b, after))
      | _ =>
        if isRepetition rest then .ok none
        else
          .error (shown octets ++
            encode ": equivalence class operand must be a single character")

/-- A repetition, its opening bracket behind, where there is one. -/
def repetition (rest : List Unit) : Except Bytes (Option (Item × List Unit)) :=
  match rest with
  | unit :: star :: rest =>
    let inner := rest.takeWhile fun unit => !unit.plain && unit.octet != 0x5D
    match rest.drop inner.length with
    | close :: after =>
      if !(star.isMark '*' && close.isMark ']') then .ok none
      else
        let digits := octetsOf inner
        let base := if digits.head? = some 0x30 then 8 else 10
        if digits.isEmpty then .ok (some (.repeated unit.octet none, after))
        else if digits.all fun b => isDigitOctet b && (base = 10 || isOctal b) then
          let count := spelled base digits
          .ok (some (.repeated unit.octet (if count = 0 then none else some count), after))
        else
          .error (encode "invalid repeat count " ++ Quoting.text (shown digits) ++
            encode " in [c*n] construct")
    | [] => .ok none
  | _ => .ok none

/-- Reads the items of a string. -/
def itemsFrom (seen : List Item) : Nat → List Unit → Except Bytes (List Item)
  | 0, _ => .ok seen.reverse
  | _ + 1, [] => .ok seen.reverse
  | fuel + 1, first :: rest => do
    let bracketed : Option (Item × List Unit) ←
      match rest with
      | mark :: inner :: others =>
        if !first.isMark '[' then pure none
        else do
          let found ←
            if mark.isMark ':' then construct ':' (inner :: others)
            else if mark.isMark '=' then construct '=' (inner :: others)
            else pure none
          match found with
          | some found => pure (some found)
          | none => repetition rest
      | _ => pure none
    match bracketed, rest with
    | some (item, rest), _ => itemsFrom (item :: seen) fuel rest
    | none, dash :: last :: others =>
      if dash.isMark '-' then
        if last.octet < first.octet then
          throw (encode "range-endpoints of '" ++ shownOctet first.octet ++ encode "-" ++
            shownOctet last.octet ++ encode "' are in reverse collating sequence order")
        else itemsFrom (.range first.octet last.octet :: seen) fuel others
      else itemsFrom (.octet first.octet :: seen) fuel rest
    | none, rest => itemsFrom (.octet first.octet :: seen) fuel rest

/-- The octets of an item, where one without a count has this many. -/
def Item.octets (fill : Nat) : Item → Bytes
  | .octet b => [b]
  | .range low high => span low.toNat high.toNat
  | .members _ octets => octets
  | .same b => [b]
  | .repeated b count => List.replicate (count.getD fill) b

def flatten (fill : Nat) (items : List Item) : Bytes :=
  items.flatMap (Item.octets fill)

def Item.isEndless : Item → Bool
  | .repeated _ none => true
  | _ => false

/-- Where the classes of letters by their case start. -/
def caseStarts (fill : Nat) (items : List Item) : List Nat :=
  (items.foldl (fun (starts, place) item =>
    let starts := match item with
      | .members name _ => if isCase name then starts ++ [place] else starts
      | _ => starts
    (starts, place + (item.octets fill).length)) (([] : List Nat), 0)).1

/-- All octets but these. -/
def complement (octets : Bytes) : Bytes :=
  (span 0 255).filter fun b => !octets.contains b

/-- Checks two strings, and gives their octets; the second string is made as
long as the first one where it is shorter, unless the first one is cut. -/
def pair (translating complemented cut : Bool) (first second : List Item) :
    Except Bytes (Bytes × Bytes) := do
  let names (items : List Item) : List String := items.filterMap fun item => match item with
    | .members name _ => some name
    | _ => none
  let from1 := if complemented then complement (flatten 0 first) else flatten 0 first
  let fill := from1.length - (flatten 0 second).length
  let from2 := flatten fill second
  if (second.filter Item.isEndless).length > 1 then
    throw (encode "only one [c*] repeat construct may appear in string2")
  if !translating then
    if second.any Item.isEndless then
      throw (encode "the [c*] construct may appear in string2 only when translating")
    return (from1, from2)
  if second.any fun item => match item with | .same _ => true | _ => false then
    throw (encode "[=c=] expressions may not appear in string2 when translating")
  if (names second).any fun name => !isCase name then
    throw (encode ("when translating, the only character classes that may appear in\n" ++
      "string2 are 'upper' and 'lower'"))
  -- A class of letters has to stand where the other string has one.
  if !complemented && (caseStarts fill second).any fun place =>
      place ≤ from1.length && !(caseStarts 0 first).contains place then
    throw (encode "misaligned [:upper:] and/or [:lower:] construct")
  let extended ←
    if from1.length ≤ from2.length || cut then pure from2
    else
      match from2.getLast?, second.getLast? with
      | none, _ => throw (encode "when not truncating set1, string2 must be non-empty")
      | some _, some (.members ..) =>
        throw (encode ("when translating with string1 longer than string2,\n" ++
          "the latter string must not end with a character class"))
      | some last, _ => pure (from2 ++ List.replicate (from1.length - from2.length) last)
  let alike := extended.all fun b => extended.head? = some b
  if complemented && !(names first).isEmpty &&
      !(extended.length = from1.length && !extended.isEmpty && alike) then
    throw (encode ("when translating with complemented character classes,\n" ++
      "string2 must map all characters in the domain to one"))
  return (from1, extended)

/-- Runs of an octet of a set made single, behind an octet in front. -/
def squeeze (set : UInt8 → Bool) (before : Option UInt8) (octets : Bytes) : Bytes :=
  (octets.foldl (fun (last, (seen : Bytes)) b =>
    if last = some b && set b then (last, seen) else (some b, b :: seen)) (before, [])).2.reverse

/-- What is known of each octet, in their order. -/
structure Table (α : Type) where
  entries : Array α

namespace Table

def of {α : Type} (f : UInt8 → α) : Table α :=
  ⟨((span 0 255).map f).toArray⟩

/-- What is known of an octet. -/
def get {α : Type} (table : Table α) (otherwise : α) (b : UInt8) : α :=
  table.entries.getD b.toNat otherwise

end Table

/-- What becomes of each octet; of several rules for one the last counts. -/
def mapping (from1 from2 : Bytes) : UInt8 → UInt8 :=
  let pairs := (from1.zip from2).reverse
  fun b => (pairs.lookup b).getD b

/-- What is done with octets: those that are taken away, what becomes of the
others, and those that are made single. -/
structure Plan where
  deleted : Table Bool
  becomes : Table UInt8
  squeezed : Table Bool

/-- The plan for two sets. -/
def Plan.of (deletes squeezes translating : Bool) (from1 from2 last : Bytes) : Plan where
  deleted := .of fun b => deletes && from1.contains b
  becomes := .of (if translating then mapping from1 from2 else id)
  squeezed := .of fun b => squeezes && last.contains b

/-- What becomes of octets, behind an octet that was put out last. -/
def Plan.apply (plan : Plan) (before : Option UInt8) (octets : Bytes) : Bytes :=
  let kept := octets.filter fun b => !plan.deleted.get false b
  squeeze (plan.squeezed.get false) before (kept.map fun b => plan.becomes.get b b)

/-- How much is read at once. -/
def blockSize : Nat := 65536

/-- Output is put out in blocks of so many octets, but for the last one. -/
def bufferSize : Nat := 4096

/-- Carries a plan out to the end of the input; what waits to be put out has
its last octet apart. -/
def carryOut {Birth : Type} (process : Process) (plan : Plan) :
    Nat → Option UInt8 → Bytes → Deed Birth Exit
  | 0, _, _ => return .code 0
  | turns + 1, before, waiting => do
    match ← doing (process.read 0 blockSize) with
    | .error error =>
      finish process ⟨[(1, waiting), (2, failure process "read error" [] error)], 1⟩
    | .ok [] => finish process ⟨[(1, waiting)], 0⟩
    | .ok octets =>
      let new := plan.apply before octets
      let all := waiting ++ new
      let size := all.length / bufferSize * bufferSize
      if size != 0 then put process 1 (all.take size)
      carryOut process plan turns (new.getLast?.or before) (all.drop size)

end Translate

/-- What is wrong with the number of operands. -/
def Translate.misnumbered? (process : Process) (operands : List Bytes) (deletes squeezes : Bool) :
    Option Output :=
  let least := if deletes = squeezes then 2 else 1
  let most := if deletes && !squeezes then 1 else 2
  if operands.length < least then
    match operands with
    | [] => some (missingOperand process)
    | first :: _ =>
      some (misuse process (encode "missing operand after " ++ Quoting.text first ++
        encode (if squeezes then
          "\nTwo strings must be given when both deleting and squeezing repeats."
        else "\nTwo strings must be given when translating.")) 1)
  else if most < operands.length then
    some (misuse process (encode "extra operand " ++ Quoting.text (operands.getD most []) ++
      encode (if operands.length = 2 then
        "\nOnly one string may be given when deleting without squeezing repeats." else "")) 1)
  else none

def tr {Birth : Type} : Conduct Birth :=
  conduct (bitByBit true Translate.switches fun line process => do
    let deletes := line.has "d"
    let squeezes := line.has "s"
    let complemented := line.has "c" || line.has "C"
    let operands := line.operands
    let translating := operands.length = 2 && !deletes
    match Translate.misnumbered? process operands deletes squeezes with
    | some output => finish process output
    | none =>
      let read := operands.map fun operand => Translate.units (operand.length + 1) operand
      let said := (read.flatMap Prod.snd).flatMap (Process.line process)
      let sets : Except Bytes (Bytes × Bytes) := do
        let items ← read.mapM fun (units, _) => Translate.itemsFrom [] (units.length + 1) units
        let first := items.headD []
        if first.any Translate.Item.isEndless then
          throw (encode "the [c*] repeat construct may not appear in string1")
        Translate.pair translating complemented (line.has "t") first (items.getD 1 [])
      match sets with
      | .error text => finish process ⟨[(2, said ++ Process.line process text)], 1⟩
      | .ok (from1, from2) =>
        put process 2 said
        let plan := Translate.Plan.of deletes squeezes translating from1 from2
          (if operands.length = 2 then from2 else from1)
        Translate.carryOut process plan Work.patience none [])

end Rollout.Posix.Utility
