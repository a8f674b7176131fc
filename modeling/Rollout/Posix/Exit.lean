import Rollout.ExitStatus

/-!
# Ends of processes

A process ends with a code of its own choice or of a signal.
-/

namespace Rollout.Posix

/-- How a process ended. -/
inductive Exit where
  | code (n : Nat)
  | signal (n : Nat)
  deriving DecidableEq, Repr

namespace Exit

def status : Exit → WaitStatus
  | code n => .exited (UInt8.ofNat n)
  | signal n => .killed (UInt8.ofNat n)

/-- The number a shell shows for an end. -/
def shown : Exit → Nat
  | code n => n % 256
  | signal n => 128 + n

end Exit

end Rollout.Posix
