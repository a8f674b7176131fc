import Rollout.Posix.Utility.Basic

/-!
# Printing utilities

The utilities that print their arguments, and those that only end.
-/

namespace Rollout.Posix.Utility

open Rollout.Text (Bytes encode)

/-- What is said of arguments that are no numbers. -/
def say (process : Process) : Complaint → Bytes
  | .noNumber arg => complaint process "" (Quoting.text arg) ": expected a numeric value"
  | .trailing arg => complaint process "" (Quoting.text arg) ": value not completely converted"
  | .outOfRange arg => failure process "" (Quoting.text arg) .outOfRange
  | .behindCharacter rest =>
    complaint process "warning: " rest
      ": character(s) following character constant have been ignored"

def dialect (process : Process) : Dialect := ⟨.extended, true, say process⟩

/-- What is said of that which ends printing. -/
def obstacleText : Obstacle → Bytes
  | .badDirective text => text ++ encode ": invalid conversion specification"
  | .noLetter => []
  | .tooLong => []
  | .noHexDigits => encode "missing hexadecimal number in escape"
  | .badCharacter letter digits number =>
    encode ("invalid universal character name \\" ++ String.singleton letter ++
      Numeral.hexText digits number)
  | .badWidth arg => encode "invalid field width: " ++ Quoting.text arg
  | .badPrecision arg => encode "invalid precision: " ++ Quoting.text arg

/-- The options in front of what is echoed: whether a line end follows, and
whether escapes are replaced. -/
def echoOptions (newline escapes : Bool) : List Bytes → Bool × Bool × List Bytes
  | [] => (newline, escapes, [])
  | arg :: rest =>
    match arg with
    | 0x2D :: b :: letters =>
      let letters := (b :: letters).map Char.ofUInt8
      if letters.all fun c => c = 'n' || c = 'e' || c = 'E' then
        echoOptions (newline && !letters.contains 'n')
          (letters.foldl (fun on c => if c = 'e' then true else if c = 'E' then false else on)
            escapes) rest
      else (newline, escapes, arg :: rest)
    | _ => (newline, escapes, arg :: rest)

/-- Echo's escapes: those of printing, where a hexadecimal one without digits
stands for itself. -/
def echoText : Nat → Bytes → Bytes → Bytes × Bool
  | _, seen, [] => (seen.reverse, false)
  | 0, seen, rest => (seen.reverse ++ rest, false)
  | fuel + 1, seen, b :: rest =>
    if b != 0x5C then echoText fuel (b :: seen) rest
    else
      match rest with
      | [] => ((b :: seen).reverse, false)
      | letter :: after =>
        let c := Char.ofUInt8 letter
        if c = 'c' then (seen.reverse, true)
        else if isOctal letter then
          let (octet, rest) := octal 3 (if c = '0' then after else rest)
          echoText fuel (octet :: seen) rest
        else if c = 'x' then
          let digits := (after.take 2).takeWhile fun b => (Text.hexValue? b).isSome
          if digits.isEmpty then echoText fuel (letter :: b :: seen) after
          else
            echoText fuel (UInt8.ofNat (spelled 16 digits) :: seen) (after.drop digits.length)
        else
          match if c = '\x22' then none else letterEscape? c true with
          | some octet => echoText fuel (octet :: seen) after
          | none => echoText fuel (letter :: b :: seen) after

/-- Whether a sole argument asks for a text of the system. -/
def asksForText (process : Process) : Bool :=
  process.args = [encode "--help"] || process.args = [encode "--version"]

def echo : Run := fun process kernel =>
  let (newline, escapes, words) := echoOptions true false process.args
  let text := [(0x20 : UInt8)].intercalate words
  let (text, stopped) := if escapes then echoText text.length [] text else (text, false)
  if asksForText process then (kernel, {})
  else (kernel, ⟨[(1, if newline && !stopped then text ++ [10] else text)], 0⟩)

def printf : Run := fun process kernel =>
  let args := match process.args with
    | [0x2D, 0x2D] :: rest => rest
    | args => args
  if asksForText process then (kernel, {})
  else
    match args with
    | [] => (kernel, missingOperand process)
    | format :: args =>
      let (printing, obstacle) := print (dialect process) Quoting.shellIfNeeded format args
      let output : Output := ⟨printing.parts.reverse, 0⟩
      let output := match obstacle with
        | some obstacle => output.complain (Process.line process (obstacleText obstacle)) 1
        | none =>
          let output := { output with code := if printing.failed && !printing.stopped then 1 else 0 }
          match printing.args with
          | [] => output
          | first :: _ =>
            if printing.used || printing.stopped then output
            else
              output.complain (complaint process
                "warning: ignoring excess arguments, starting with " (Quoting.text first) "")
                output.code
      (kernel, if printing.broken then
        output.complain (Process.line process (encode "write error")) 1 else output)

def succeed : Run := fun _ kernel => (kernel, {})

def fail : Run := fun process kernel => (kernel, { code := if asksForText process then 0 else 1 })

end Rollout.Posix.Utility
