import Rollout.Posix.Shell.Expansion

/-!
# Redirections

What the descriptors of a shell stand for while a command runs.
-/

namespace Rollout.Posix.Shell

open Rollout.Text (Bytes encode)

def Rerouting.descriptor : Rerouting → Nat
  | .path descriptor _ _ => descriptor
  | .duplicate descriptor _ => descriptor
  | .document descriptor _ => descriptor

/-- What is said of a file that could not be opened. -/
def openFault (error : IoError) (creating : Bool) : String :=
  if error = .notFound || error = .notDirectory then
    if creating then "Directory nonexistent" else "No such file"
  else
    match error with
    | .system code => IoError.systemText code
    | error => error.text

/-- Expands the words of redirections. -/
def reroutings (redirects : List Redirect) : Act (List Rerouting) :=
  redirects.mapM fun redirect => do
    match redirect with
    | .path descriptor mode word =>
      return .path descriptor mode (← expandText word)
    | .document descriptor number => return .document descriptor number
    | .duplicate descriptor word =>
      match ← expandText word with
      | [0x2D] => return .duplicate descriptor none
      | text =>
        match text with
        | [b] => if isDigit b then return .duplicate descriptor (some (b.toNat - 48)) else bad
        | _ => bad
where
  bad : Act Rerouting := do
    Act.change fun scope => { scope with line := scope.reached }
    Act.fail (encode "Syntax error: Bad fd number")

/-- What a descriptor gets its meaning from. -/
inductive Origin where
  /-- A file that is opened for it. -/
  | opened (handle : Handle)
  | copied (source : Nat)
  | nothing
  deriving DecidableEq

/-- What a redirection gives its descriptor. -/
def originOf (rerouting : Rerouting) : Act Origin := do
  let scope ← Act.scope
  match rerouting with
  | .path _ mode path =>
    -- Files are only kept from being emptied where that is asked for.
    let opened := if mode = .fresh && !scope.isSet 'C' then OpenMode.write else mode
    let found ← Act.doing (Work.update fun kernel =>
      match kernel.openPath scope.footing path opened with
      | .ok (handle, kernel) => (Except.ok handle, kernel)
      | .error error => (.error error, kernel))
    match found with
    | .ok handle => return .opened handle
    | .error error =>
      -- What is there already and no plain file is not made, only opened.
      let isFound ← Act.doing (Work.look fun kernel =>
        (kernel.tree.directory scope.place path).toOption.isSome)
      let creating := mode != .read && !(opened = .fresh && isFound)
      Act.fail (encode (if creating then "cannot create " else "cannot open ") ++ path ++
        encode (": " ++ openFault error creating))
  | .duplicate _ none => return .nothing
  | .duplicate _ (some source) => return .copied source
  | .document _ number =>
    let text ← expandDocument (scope.documents.getD number [])
    Act.needRoom 0
    return .opened (← Act.doing (Work.update
      (·.openStream { front := text, size := text.length })))

/-- What descriptors stood for before they were changed: each with the shell's
own one that keeps it, if it stood for anything. -/
abbrev Kept := List (Nat × Option Nat)

/-- Lets a descriptor stand for something else, or says why it cannot. What it
stood for is kept if asked for, unless it is already. -/
def turn (keeps : Bool) (kept : Kept) (descriptor : Nat) (origin : Origin) : Act (Kept × Bool) := do
  let scope ← Act.scope
  let limit := scope.limits.value .descriptors
  -- A file is opened under the lowest descriptor that is free, and moved then.
  let first := scope.channels.lowestFrom 0
  let (channels, isThere) : Channels × Bool := match origin with
    | .opened handle => (scope.channels.put first handle, first = descriptor)
    | _ => (scope.channels, false)
  let isKept := !keeps || (kept.lookup descriptor).isSome
  match if isKept || isThere then .ok none else channels.setAside limit descriptor with
  | .error error =>
    Act.rewire fun _ => channels.close descriptor
    Act.warn (encode (s!"{descriptor}: " ++ Utility.reason error))
    return (kept, false)
  | .ok aside =>
    let kept := if isKept then kept else (descriptor, aside.map Prod.snd) :: kept
    let channels := aside.elim channels Prod.fst
    match origin with
    | .opened handle =>
      -- What lies beyond the limit is let go without a word.
      let moved := if isThere then channels
        else (if descriptor < limit then channels.put descriptor handle else channels).close first
      Act.rewire fun _ => moved
      return (kept, true)
    | .nothing =>
      Act.rewire fun _ => channels.close descriptor
      return (kept, true)
    | .copied source =>
      match (channels.lookup source).filter fun _ => descriptor < limit with
      | some handle =>
        Act.rewire fun _ => channels.put descriptor handle
        return (kept, true)
      | none =>
        Act.rewire fun _ => channels
        Act.warn (encode s!"{source}: Bad file descriptor")
        return (kept, false)

/-- Carries out redirections in order, up to the first that fails; what is kept
then, and whether none has. -/
def rerouteAll (keeps : Bool) : Kept → List Rerouting → Act (Kept × Bool)
  | kept, [] => return (kept, true)
  | kept, rerouting :: rest => do
    match ← Act.guarded (some <$> originOf rerouting) (return none) with
    | none => return (kept, false)
    | some origin =>
      if origin = .copied rerouting.descriptor then rerouteAll keeps kept rest
      else
        match ← turn keeps kept rerouting.descriptor origin with
        | (kept, true) => rerouteAll keeps kept rest
        | (kept, false) => return (kept, false)

/-- Carries out redirections for good. -/
def rerouteForGood (reroutings : List Rerouting) : Act Unit := do
  let (_, isDone) ← rerouteAll false [] reroutings
  if !isDone then
    Act.setStatus 2
    throw .fault

/-- Opens a script, which stays open under a descriptor of the shell's own; that
one, and the open file. -/
def openScript (path : Bytes) : Act (Nat × Handle) := do
  let scope ← Act.scope
  let found ← Act.doing (Work.update fun kernel =>
    match kernel.openPath scope.footing path .read with
    | .ok (handle, kernel) => (Except.ok handle, kernel)
    | .error error => (.error error, kernel))
  match found with
  | .error error =>
    Act.fail (encode "cannot open " ++ path ++ encode (": " ++ openFault error false))
  | .ok handle =>
    let first := scope.channels.lowestFrom 0
    let opened := scope.channels.put first handle
    match opened.setAside (scope.limits.value .descriptors) first with
    | .ok aside =>
      Act.rewire fun _ => aside.elim opened Prod.fst
      return (aside.elim first Prod.snd, handle)
    | .error error => Act.fail (encode (s!"{first}: " ++ Utility.reason error))

/-- Does not keep any more what was kept. -/
def forget (kept : Kept) : Act Unit :=
  Act.rewire fun channels =>
    (kept.filterMap Prod.snd).foldl (fun channels own => channels.close own) channels

/-- Lets descriptors stand for what they stood for before they were changed, as
far as a limit does not stand against it. -/
def restore (kept : Kept) : Act Unit := do
  let limit := (← Act.scope).limits.value .descriptors
  Act.rewire fun channels => kept.foldl (fun channels (descriptor, own) =>
    match own with
    | none => channels.close descriptor
    | some own =>
      match channels.lookup own with
      | none => channels.close descriptor
      | some handle =>
        (if descriptor < limit then channels.put descriptor handle else channels).close own) channels

end Rollout.Posix.Shell
