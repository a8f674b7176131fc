/-!
# Wait statuses

The word a system reports for a child that ended, and the one number shown
for it: the exit code of a child that exited, the negated signal of a child
that was killed.
-/

namespace Rollout

/-- A wait status as the system packs it: the low seven bits hold the signal
that ended the child, zero for a child that exited, and the next byte but
one bit the exit code. -/
structure WaitStatus where
  word : UInt32
  deriving DecidableEq

namespace WaitStatus

/-- The status of a child that exited with `code`. -/
def exited (code : UInt8) : WaitStatus :=
  ⟨code.toUInt32 <<< 8⟩

/-- The status of a child that `signal` ended. -/
def killed (signal : UInt8) : WaitStatus :=
  ⟨signal.toUInt32 &&& 0x7F⟩

/-- The low seven bits. -/
def ending (status : WaitStatus) : Nat :=
  (status.word &&& 0x7F).toNat

/-- The exit code, where the child exited. -/
def code? (status : WaitStatus) : Option Nat :=
  if status.ending = 0 then some ((status.word >>> 8) &&& 0xFF).toNat else none

/-- The signal, where one ended the child. -/
def signal? (status : WaitStatus) : Option Nat :=
  if 0 < status.ending ∧ status.ending < 0x7F then some status.ending else none

/-- The number shown for a status that has neither an exit code nor a signal. -/
def unknownExit : Int := 1

/-- The number shown for a status. -/
def exitCode (status : WaitStatus) : Int :=
  -- A child that stopped or went on has neither.
  match status.code?, status.signal? with
  | some code, _ => code
  | none, some signal => -signal
  | none, none => unknownExit

end WaitStatus

end Rollout
