import Rollout.Posix.Shell.Builtin.Basic

/-!
# Commands on what surrounds a shell

Its directory, the rights it gives, and what the system allows it.
-/

namespace Rollout.Posix.Shell

open Rollout.Text (Bytes encode)

/-- The path of a place. -/
def pathOf (place : Place) : Bytes :=
  Path.slash :: [Path.slash].intercalate place

/-- The path that names lead to from a folder, where dots are taken at their
word. -/
def joinedPath (folder path : Bytes) : Bytes :=
  let isAbsolute := path.head? = some Path.slash
  -- Two slashes in front, and no more, are kept.
  let doubled (text : Bytes) : Bool :=
    text.take 2 = [Path.slash, Path.slash] && (text.drop 2).head? != some Path.slash
  let root : Bytes := if doubled (if isAbsolute then path else folder) then
      [Path.slash, Path.slash]
    else [Path.slash]
  let names (text : Bytes) : List Bytes := (text.splitOn Path.slash).filter (!·.isEmpty)
  let start := if isAbsolute then [] else names folder
  let found := (names path).foldl (fun found name =>
    if name = [Path.dot] then found
    else if name = FileTree.dotDot then found.dropLast
    else found ++ [name]) start
  root ++ [Path.slash].intercalate found

namespace Act

/-- The path of a place, which a directory has no more that was taken away. -/
def pathOf (place : Place) : Act Bytes := do
  if (← kernel).tree.isThere place then return Shell.pathOf place
  else
    warn (encode "getcwd() failed: No such file or directory")
    return []

end Act

namespace Builtin

/-- Whether links are looked through, by the last of two options. -/
def isPhysical (given : List Given) : Bool :=
  (given.getLast?.map Prod.fst) = some 'P'

/-- Goes to a directory; whether that is possible. -/
def goTo (physical : Bool) (path : Bytes) : Act Bool := do
  let scope ← Act.scope
  let tree := (← Act.kernel).tree
  -- Dots are taken at their word as long as it is known where they stand.
  let isLogical := !physical && (path.head? = some Path.slash || !scope.folder.isEmpty)
  let wanted := if isLogical then joinedPath scope.folder path else path
  match tree.entered scope.place wanted with
  | .error _ => return false
  | .ok place =>
    let folder ← if isLogical then pure wanted else Act.pathOf place
    Act.assign (encode "OLDPWD") (some scope.folder) true
    Act.change fun scope => { scope with place, folder }
    Act.assign (encode "PWD") (some folder) true
    return true

def cd : Builtin := fun args => do
  let (given, args) ← options "LP" args
  let scope ← Act.scope
  let physical := isPhysical given
  let isBack := args.head? = some [0x2D]
  let target := match args.head? with
    | none => (scope.named? "HOME").getD []
    | some target => if isBack then (scope.named? "OLDPWD").getD [] else target
  let first := (target.splitOn Path.slash).headD []
  let isFixed := target.head? = some Path.slash || first = [Path.dot] || first = FileTree.dotDot
  let target := if target.isEmpty then [Path.dot] else target
  -- Directories are looked for along a path of their own.
  let folders := if isFixed then [] else ((scope.named? "CDPATH").getD []).splitOn 0x3A
  let paths := if (scope.named? "CDPATH").isNone then [] else folders.map fun folder =>
    (folder, if folder.isEmpty then target else folder ++ Path.slash :: target)
  let tree := (← Act.kernel).tree
  let found := paths.find? fun entry =>
    match tree.directory scope.place entry.2 with
    | .ok _ => true
    | .error _ => false
  let (folder, path) := found.getD ([], target)
  if ← goTo physical path then
    if isBack || !folder.isEmpty then Act.print ((← Act.scope).folder ++ [10])
    return 0
  else Act.fail (encode "can't cd to " ++ target)

def pwd : Builtin := fun args => do
  let (given, _) ← options "LP" args
  let scope ← Act.scope
  let folder ← if isPhysical given then Act.pathOf scope.place else pure scope.folder
  Act.print (folder ++ [10])
  return 0

/-- The rights that changes leave of some. Each clause is for somebody, or all,
and adds, removes or sets rights, once or again; the rights of others are those
from the start. -/
def changedRights (start : Nat) : Nat → Nat → Nat → List Char → Option Nat
  | 0, _, _, _ => none
  | _ + 1, _, bits, [] => some bits
  | fuel + 1, parts, bits, text =>
    let who := text.takeWhile fun c => "augo".toList.contains c
    let named := who.foldl (fun parts c => parts ||| ((partsOf.lookup c).getD 0)) parts
    let parts := if named = 0 then 0o111 else named
    match text.drop who.length with
    | [] => none
    | sign :: rest =>
      let letters := rest.takeWhile fun c => "rwxugoXs".toList.contains c
      let value := (letters.foldl (fun found c => found ||| rightsOf c) 0 &&& 7) * parts
      let next : Option Nat :=
        if sign = '+' then some (bits ||| value)
        else if sign = '-' then some (Mode.except bits value)
        else if sign = '=' then some (Mode.except bits (parts * 7) ||| value)
        else none
      match next, rest.drop letters.length with
      | none, _ => none
      | some bits, ',' :: rest => changedRights start fuel 0 bits rest
      | some bits, rest =>
        if rest.head?.all ['+', '-', '='].contains then changedRights start fuel parts bits rest
        else none
where
  partsOf : List (Char × Nat) := [('a', 0o111), ('u', 0o100), ('g', 0o010), ('o', 0o001)]
  rightsOf (c : Char) : Nat :=
    if c = 'r' then 4 else if c = 'w' then 2 else if c = 'x' then 1
    else if c = 'X' then (if start &&& 0o111 = 0 then 0 else 1)
    else if c = 'u' then start >>> 6 else if c = 'g' then start >>> 3 else if c = 'o' then start
    else 0

def umask : Builtin := fun args => do
  let (given, args) ← options "S" args
  let mask := (← Act.scope).mask.bits
  let kept (bits : Nat) : Nat := Mode.except Mode.rights bits
  match args with
  | [] =>
    if given.isEmpty then
      let digits := (Nat.toDigits 8 mask)
      Act.print (encode ("".pushn '0' (4 - digits.length) ++ String.ofList digits ++ "\n"))
    else
      let part (shift : Nat) : String :=
        let bits := kept mask >>> shift % 8
        (if bits &&& 4 = 0 then "" else "r") ++ (if bits &&& 2 = 0 then "" else "w") ++
          if bits &&& 1 = 0 then "" else "x"
      Act.print (encode ("u=" ++ part 6 ++ ",g=" ++ part 3 ++ ",o=" ++ part 0 ++ "\n"))
    return 0
  | word :: _ =>
    let bits ←
      if word.head?.any isDigit then
        if word.all fun b => 0x30 ≤ b && b ≤ 0x37 then
          pure (word.foldl (fun n b => 8 * n + (b.toNat - 48)) 0 &&& Mode.rights)
        else Act.badNumber word
      else
        match changedRights (kept mask) (word.length + 1) 0 (kept mask) (word.map Char.ofUInt8) with
        | some bits => pure (kept bits)
        | none => Act.fail (encode "Illegal mode: " ++ word)
    Act.change fun scope => { scope with mask := ⟨bits⟩ }
    return 0

/-- What is limited, as it is shown. -/
structure Measure where
  letter : Char
  name : String
  resource : Resource
  /-- It is counted in so many of the system's units. -/
  unit : Nat

def measures : List Measure := [
  ⟨'t', "time(seconds)", .time, 1⟩, ⟨'f', "file(blocks)", .fileSize, 512⟩,
  ⟨'d', "data(kbytes)", .data, 1024⟩, ⟨'s', "stack(kbytes)", .stack, 1024⟩,
  ⟨'c', "coredump(blocks)", .dump, 512⟩, ⟨'m', "memory(kbytes)", .memory, 1024⟩,
  ⟨'l', "locked memory(kbytes)", .lockedMemory, 1024⟩, ⟨'p', "process", .processes, 1⟩,
  ⟨'n', "nofiles", .descriptors, 1⟩, ⟨'v', "vmemory(kbytes)", .addresses, 1024⟩,
  ⟨'w', "locks", .locks, 1⟩, ⟨'r', "rtprio", .priority, 1⟩]

/-- An amount as it is shown. Amounts in the upper half of what the system counts
in are shown as if they were below zero. -/
def Measure.text (measure : Measure) (amount : Nat) : String :=
  if amount = endless then "unlimited"
  else
    let shown := amount / measure.unit
    toString (if 2 * shown ≤ endless then (shown : Int) else (shown : Int) - endless - 1)

/-- The amount that a text asks for. -/
def Measure.amount? (measure : Measure) (text : Bytes) : Option Nat :=
  if text = encode "unlimited" then some endless
  else if !text.all isDigit then none
  else
    let number := text.foldl (fun n b => 10 * n + (b.toNat - 48)) 0
    some (number * measure.unit % (endless + 1))

def ulimit : Builtin := fun args => do
  let (given, args) ← options "HSatfdscmlpnvwr" args
  let letters := given.map Prod.fst
  let side := (letters.filter fun c => c = 'H' || c = 'S').getLast?
  let chosen := ((letters.filter fun c => !(['H', 'S', 'a'].contains c)).getLast?).getD 'f'
  let limits := (← Act.scope).limits
  let text (measure : Measure) : String :=
    let limit := limits.get measure.resource
    measure.text (if side = some 'H' then limit.ceiling else limit.value) ++ "\n"
  match args, measures.find? (·.letter = chosen) with
  | [], found =>
    if has given 'a' then
      Act.print (encode (String.join (measures.map fun measure =>
        measure.name.pushn ' ' (20 - measure.name.length) ++ " " ++ text measure)))
    else Act.print (encode (found.elim "" text))
    return 0
  | [word], some measure =>
    if has given 'a' then Act.fail (encode "too many arguments")
    match measure.amount? word with
    | none => Act.fail (encode "bad number")
    | some amount =>
      let before := limits.get measure.resource
      let after : Limit := {
        value := if side = some 'H' then before.value else amount
        ceiling := if side = some 'S' then before.ceiling else amount }
      let refuse (error : IoError) : Act Nat :=
        Act.fail (encode ("error setting limit (" ++ Utility.reason error ++ ")"))
      if after.ceiling < after.value then refuse .invalidArgument
      else if before.ceiling < after.ceiling then refuse (.system 1)
      else
        Act.change fun scope => { scope with limits := limits.set measure.resource after }
        return 0
  | _, _ => Act.fail (encode "too many arguments")

def times : Builtin := fun _ => do
  Act.print (encode "0m0.000000s 0m0.000000s\n0m0.000000s 0m0.000000s\n")
  return 0

end Builtin

end Rollout.Posix.Shell
