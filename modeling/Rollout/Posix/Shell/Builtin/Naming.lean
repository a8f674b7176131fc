import Rollout.Posix.Shell.Builtin.Basic
import Rollout.Posix.Shell.Expansion

/-!
# Commands on names

Variables with their marks, parameters, options of the shell and aliases.
-/

namespace Rollout.Posix.Shell.Builtin

open Rollout.Text (Bytes encode)

/-- The name and the value of an argument with an equals sign. -/
def parted (arg : Bytes) : Bytes × Option Bytes :=
  let name := arg.takeWhile (· != 0x3D)
  (name, if name.length < arg.length then some (arg.drop (name.length + 1)) else none)

/-- Lists variables in the order of their names, each behind a word. -/
def showVariables (word : Bytes) (shown : Variable → Bool) : Act Unit := do
  let found := (← Act.scope).vars.filter fun entry => shown entry.2
  let sorted := found.mergeSort fun a b => !(decide (b.1 < a.1))
  let lead := if word.isEmpty then [] else word ++ [0x20]
  Act.print (sorted.flatMap fun (name, found) =>
    lead ++ name ++ found.value.elim [] (fun value => 0x3D :: apostrophed value) ++ [10])

/-- Marks variables, and lists those that are marked. -/
def declare (exports : Bool) : Builtin := fun args => do
  let (given, names) ← options "p" args
  if !given.isEmpty || names.isEmpty then
    showVariables (encode (if exports then "export" else "readonly")) fun found =>
      if exports then found.isExported else found.isReadOnly
  else
    names.forM fun arg => do
      let (name, value) := parted arg
      match value, (← Act.scope).lookup? name with
      | none, some found =>
        let found := if exports then { found with isExported := true }
          else { found with isReadOnly := true }
        Act.change fun scope => scope.putVariable name (some found)
      | value, _ => Act.setVariable name value exports (!exports)
  return 0

def unset : Builtin := fun args => do
  let (given, names) ← options "vf" args
  let functions := (given.getLast?.map Prod.fst) = some 'f'
  names.forM fun name => do
    if functions then
      Act.change fun scope => { scope with functions := scope.functions.filter (·.1 != name) }
    else Act.setVariable name none
  return 0

/-- Gives the function at work variables of its own. -/
def takeOver : Builtin := fun args => do
  if (← Act.scope).frames.isEmpty then Act.fail (encode "not in a function")
  args.forM fun arg => do
    if arg = [0x2D] then
      Act.change fun scope => { scope with frames := match scope.frames with
        | frame :: frames => (.options scope.options :: frame) :: frames
        | [] => [] }
    else
      let (name, value) := parted arg
      Act.makeLocal name value
  return 0

/-- The options of a shell, by letter and by name. -/
def optionNames : List (Option Char × String) := [
  (some 'e', "errexit"), (some 'f', "noglob"), (some 'I', "ignoreeof"), (some 'i', "interactive"),
  (some 'm', "monitor"), (some 'n', "noexec"), (some 's', "stdin"), (some 'x', "xtrace"),
  (some 'v', "verbose"), (some 'V', "vi"), (some 'E', "emacs"), (some 'C', "noclobber"),
  (some 'a', "allexport"), (some 'b', "notify"), (some 'u', "nounset"), (some 'p', "privileged"),
  (none, "nolog"), (none, "debug")]

/-- Sets an option of the shell, or takes it back. -/
def setOption (letter : Char) (on : Bool) : Act Unit :=
  Act.change fun scope => { scope with
    options := if on then letter :: scope.options.filter (· != letter)
      else scope.options.filter (· != letter) }

/-- Gives up what options ask for that cannot be had: there is no terminal,
which jobs could be controlled from. -/
def settleOptions : Act Unit := do
  if (← Act.scope).isSet 'm' then
    Act.warn (encode "can't access tty; job control turned off")
    setOption 'm' false

/-- Sets an option by its letter. Of the two ways to edit a line, the one takes
the place of the other. -/
def setLetter (letter : UInt8) (on : Bool) : Act Unit := do
  if optionNames.any fun option => option.1 = some (Char.ofUInt8 letter) then
    setOption (Char.ofUInt8 letter) on
    if on && letter = 0x45 then setOption 'V' false
    if on && letter = 0x56 then setOption 'E' false
  else Act.fail (encode "Illegal option -" ++ [letter])

/-- Sets an option by its name, or lists all options. -/
def setNamed (name : Option Bytes) (on : Bool) : Act Unit := do
  match name with
  | none =>
    let scope ← Act.scope
    let isOn (option : Option Char × String) : Bool := option.1.any scope.isSet
    let line (option : Option Char × String) : String :=
      if on then
        option.2.pushn ' ' (16 - option.2.length) ++ (if isOn option then "on" else "off") ++ "\n"
      else "set " ++ (if isOn option then "-o " else "+o ") ++ option.2 ++ "\n"
    Act.print (encode (if on then "Current option settings\n" else ""))
    Act.print (encode (String.join (optionNames.map line)))
  | some name =>
    match optionNames.find? fun option => encode option.2 = name with
    | some (some letter, _) => setOption letter on
    | some (none, _) => return
    | none => Act.fail (encode "Illegal option -o " ++ name)

/-- Reads options of the shell in front of arguments, which are left. The
letters in `others` are not looked at here. -/
def shellOptions (others : List Char) : List Bytes → Act (List Char × List Bytes)
  | [] => return ([], [])
  | word :: rest => do
    let on := word.head? = some 0x2D
    let letters := word.drop 1
    if !(on || word.head? = some 0x2B) then return ([], word :: rest)
    else if on && (letters.isEmpty || letters = [0x2D]) then return ([], word :: rest)
    else
      let mut found : List Char := []
      let mut named := 0
      for letter in letters do
        if letter = 0x6F then
          setNamed (rest.drop named).head? on
          if named < rest.length then named := named + 1
        else if others.contains (Char.ofUInt8 letter) then found := Char.ofUInt8 letter :: found
        else setLetter letter on
      match named, rest with
      | 0, rest =>
        let (more, rest) ← shellOptions others rest
        return (found ++ more, rest)
      | 1, _ :: rest =>
        let (more, rest) ← shellOptions others rest
        return (found ++ more, rest)
      | _, rest => return (found, rest.drop named)

def setParams (params : List Bytes) : Act Unit :=
  Act.change fun scope => { scope with params, optionIndex := 1, optionOffset := none }

def set : Builtin := fun args => do
  if args.isEmpty then showVariables [] fun found => found.value.isSome
  else
    let (_, rest) ← shellOptions [] args
    settleOptions
    match rest with
    | [] => return 0
    | [0x2D] :: rest =>
      Act.change fun scope => { scope with
        options := scope.options.filter fun letter => letter != 'x' && letter != 'v' }
      if !rest.isEmpty then setParams rest
    | [0x2D, 0x2D] :: rest => setParams rest
    | rest => setParams rest
  return 0

def shift : Builtin := fun args => do
  let count ← match args with
    | [] => pure 1
    | word :: _ => Act.number word
  let params := (← Act.scope).params
  if params.length < count then Act.fail (encode "can't shift that many")
  setParams (params.drop count)
  return 0

/-- The option that comes next in some words, from an index and an offset: its
letter, its argument where it takes one, and where the next one starts. -/
def nextOption (words : List Bytes) (index : Nat) (offset : Option Nat) :
    Option (UInt8 × Bytes × Nat) × Nat :=
  let within : Bytes := match offset with
    | some offset => if index ≤ 1 then [] else (words.getD (index - 2) []).drop offset
    | none => []
  match within with
  | letter :: rest => (some (letter, rest, index), index)
  | [] =>
    match words[index - 1]? with
    | some [0x2D, 0x2D] => (none, index + 1)
    | some (0x2D :: letter :: rest) => (some (letter, rest, index + 1), index + 1)
    | _ => (none, index)

def getopts : Builtin := fun args => do
  let (_, args) ← options "" args
  match args with
  | known :: name :: words =>
    let scope ← Act.scope
    let words := if words.isEmpty then scope.params else words
    let isOutside := words.length + 1 < scope.optionIndex
    let index := if isOutside then 1 else scope.optionIndex
    let offset := if isOutside then none else scope.optionOffset
    let quiet := known.head? = some 0x3A
    let optArg := encode "OPTARG"
    let finish (letter : UInt8) (index : Nat) (offset : Option Nat) (status : Nat) : Act Nat := do
      Act.assign (encode "OPTIND") (some (encode (toString index))) false false true
      Act.setVariable name (some [letter])
      Act.change fun scope => { scope with optionIndex := index, optionOffset := offset }
      return status
    let complain (letter mark : UInt8) (text : String) (index : Nat) (offset : Option Nat) :
        Act Nat := do
      if quiet then
        Act.setVariable optArg (some [letter])
        finish mark index offset 0
      else
        Act.say (encode text)
        Act.setVariable optArg none
        finish 0x3F index offset 0
    match nextOption words index offset with
    | (none, index) => finish 0x3F index none 1
    | (some (letter, rest, index), _) =>
      let offset := if rest.isEmpty then some ((words.getD (index - 2) []).length)
        else some ((words.getD (index - 2) []).length - rest.length)
      let shown := String.singleton (Char.ofUInt8 letter)
      match takes letter known with
      | none => complain letter 0x3F ("Illegal option -" ++ shown ++ "\n") index offset
      | some false =>
        Act.setVariable optArg (some [])
        finish letter index offset 0
      | some true =>
        if !rest.isEmpty then
          Act.setVariable optArg (some rest)
          finish letter index none 0
        else
          match words[index - 1]? with
          | some argument =>
            Act.setVariable optArg (some argument)
            finish letter (index + 1) none 0
          | none =>
            complain letter 0x3A ("No arg for -" ++ shown ++ " option\n") index offset
  | _ => Act.fail (encode "Usage: getopts optstring var [arg]")
where
  /-- Whether an option that is known takes an argument. -/
  takes (letter : UInt8) : Bytes → Option Bool
    | [] => none
    | b :: rest =>
      if b = letter then some (rest.head? = some 0x3A)
      else
        match rest with
        | 0x3A :: rest => takes letter rest
        | rest => takes letter rest

/-- Takes a line off the octets of an input: its pieces, how many octets it
has, and whether it is complete. A backslash joins it with the next one unless
`raw` is set; an octet behind a backslash stands for itself. -/
def line (raw : Bool) (pieces : List Piece) (run : List Item) :
    Nat → Bytes → List Piece × Nat × Bool
  | count, [] => ((flush pieces run).reverse, count, false)
  | count, b :: rest =>
    if b = 10 then ((flush pieces run).reverse, count + 1, true)
    else if b = 0 then line raw pieces run (count + 1) rest
    else if b = 0x5C && !raw then
      match rest with
      | [] => ((flush pieces run).reverse, count + 1, false)
      | c :: rest =>
        if c = 10 then line raw (flush pieces run) [] (count + 2) rest
        else line raw (.octet c true :: flush pieces run) [] (count + 2) rest
    else line raw pieces (.octet b false :: run) (count + 1) rest
where
  flush (pieces : List Piece) (run : List Item) : List Piece :=
    .span false run.reverse :: pieces

/-- Reads a line of an open file as it comes: its pieces, and whether it ended
as a line does. -/
def takeLine (raw : Bool) (own : Nat) (handle : Handle) : Nat → Nat → Act (List Piece × Bool)
  | 0, _ => return ([], false)
  | turns + 1, least => do
    Act.doing (Work.supply own handle least true Work.patience)
    let octets := (((← Act.kernel).peek handle none).toOption).getD []
    let (pieces, count, isComplete) := line raw [] [] 0 octets
    if isComplete || octets.length < least then
      Act.changeKernel (·.advance handle count)
      return (pieces, isComplete)
    else takeLine raw own handle turns (octets.length + 1)

def read : Builtin := fun args => do
  let (given, names) ← options "p:r" args
  if names.isEmpty then Act.fail (encode "arg count")
  let scope ← Act.scope
  let (pieces, isComplete) ← match scope.channels.lookup 0 with
    | some handle => takeLine (has given 'r') scope.own handle Work.patience 1
    | none => pure ([], false)
  let values := (Splitting.fields scope.separators (some names.length) pieces).map
    (·.map Prod.fst)
  ((List.range names.length).zip names).forM fun (place, name) =>
    Act.setVariable name (some (values.getD place []))
  return if isComplete then 0 else 1

def showAlias (name value : Bytes) : Act Unit :=
  Act.print (name ++ 0x3D :: apostrophed value ++ [10])

/-- The row of a table of so many rows that a name is kept in. -/
def row (rows : Nat) (name : Bytes) : Nat :=
  name.foldl (fun sum b => sum + b.toNat) ((name.headD 0).toNat * 16) % 32768 % rows

def aliases : Builtin := fun args => do
  let known := (← Act.scope).aliases
  if args.isEmpty then
    -- Aliases are listed row by row.
    ((List.range 39).flatMap fun n => known.filter fun entry => row 39 entry.1 = n).forM
      fun (name, value) => showAlias name value
    return 0
  else
    let mut status := 0
    for arg in args do
      -- An equals sign at the front belongs to the name.
      let front := arg.take 1
      let (name, value) := parted (arg.drop 1)
      match value with
      | some value =>
        let name := front ++ name
        Act.change fun scope => { scope with
          aliases := if (scope.aliases.lookup name).isSome then
              scope.aliases.map fun entry => if entry.1 = name then (name, value) else entry
            else scope.aliases ++ [(name, value)] }
      | none =>
        match (← Act.scope).aliases.lookup arg with
        | some value => showAlias arg value
        | none =>
          Act.say (encode "alias: " ++ arg ++ encode " not found\n")
          status := 1
    return status

def unalias : Builtin := fun args => do
  let (given, names) ← options "a" args
  if !given.isEmpty then
    Act.change fun scope => { scope with aliases := [] }
    return 0
  else
    let mut status := 0
    for name in names do
      if ((← Act.scope).aliases.lookup name).isSome then
        Act.change fun scope => { scope with aliases := scope.aliases.filter (·.1 != name) }
      else
        Act.say (encode "unalias: " ++ name ++ encode " not found\n")
        status := 1
    return status

end Rollout.Posix.Shell.Builtin
