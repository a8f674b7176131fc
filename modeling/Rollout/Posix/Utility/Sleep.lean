import Rollout.Posix.Utility.Basic

/-!
# Waiting

Waits for the sum of some intervals.
-/

namespace Rollout.Posix.Utility

open Rollout.Text (Bytes encode)

/-- The longest time that is waited for, in microseconds. -/
def longestSleep : Nat := 1000000000000000

/-- The microseconds of an interval: a number and a unit. -/
def interval? (operand : Bytes) : Option Nat := do
  let (numeral, _, rest) ← Numeral.ofText? .double operand
  let unit ← match rest.map Char.ofUInt8 with
    | [] => some 1
    | ['s'] => some 1
    | ['m'] => some 60
    | ['h'] => some 3600
    | ['d'] => some 86400
    | _ => none
  match numeral with
  | .finite negative mantissa exponent =>
    let (num, den) := Numeral.fraction mantissa exponent
    if negative && mantissa != 0 then none
    else some (min longestSleep ((num * unit * 1000000 + den - 1) / den))
  | .infinite negative => if negative then none else some longestSleep
  | .undefined _ => none

def sleep {Birth : Type} : Conduct Birth :=
  conduct (bitByBit false [] fun line process => do
    let bad := line.operands.filter fun operand => (interval? operand).isNone
    if process.args.isEmpty then finish process (missingOperand process)
    else if !bad.isEmpty then
      let say (operand : Bytes) : Bytes :=
        complaint process "invalid time interval " (Quoting.text operand) ""
      finish process ⟨[(2, bad.flatMap say ++ tryHelp process)], 1⟩
    else
      doing (Work.sleep
        (line.operands.foldl (fun time operand => time + (interval? operand).getD 0) 0))
      return .code 0)

end Rollout.Posix.Utility
