/-!
# Limits

How much of what the system measures a process may use. Each limit has a value
that counts, which the process may move, and a ceiling above it, which it may
only lower.
-/

namespace Rollout.Posix

/-- What the system measures. -/
inductive Resource where
  | time
  | fileSize
  | data
  | stack
  | dump
  | memory
  | lockedMemory
  | processes
  | descriptors
  | addresses
  | locks
  | priority
  deriving DecidableEq

/-- The amount that holds nothing back. It is larger than all others. -/
def endless : Nat := 18446744073709551615

structure Limit where
  value : Nat := endless
  ceiling : Nat := endless
  deriving DecidableEq

/-- The limits of a process, as far as they hold anything back. -/
abbrev Limits := List (Resource × Limit)

namespace Limits

/-- The limits that the system sets where nothing is said. -/
def usual : Limits := [
  (.stack, { value := 8388608 }), (.dump, { value := 0 }), (.lockedMemory, ⟨8388608, 8388608⟩),
  (.processes, ⟨128619, 128619⟩), (.descriptors, ⟨20000, 20000⟩), (.priority, ⟨0, 0⟩)]

def get (limits : Limits) (resource : Resource) : Limit :=
  (limits.lookup resource).getD {}

/-- The value that counts. -/
def value (limits : Limits) (resource : Resource) : Nat :=
  (limits.get resource).value

def set (limits : Limits) (resource : Resource) (limit : Limit) : Limits :=
  (resource, limit) :: limits.filter (·.1 != resource)

end Limits

end Rollout.Posix
