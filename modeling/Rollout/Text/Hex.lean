import Rollout.Text.Utf8

/-!
# Hexadecimal digits

The digits of base sixteen as octets and as characters.
-/

namespace Rollout.Text

/-- What an octet counts as a digit of base sixteen, in either case. -/
def hexValue? (b : UInt8) : Option Nat :=
  if 0x30 ≤ b && b ≤ 0x39 then some (b.toNat - 0x30)
  else if 0x61 ≤ b && b ≤ 0x66 then some (b.toNat - 0x61 + 10)
  else if 0x41 ≤ b && b ≤ 0x46 then some (b.toNat - 0x41 + 10)
  else none

/-- The digit of a number below sixteen; letters start at `ten`. -/
def hexDigit (ten : Char) (n : Nat) : Char :=
  if n < 10 then Char.ofNat (0x30 + n) else Char.ofNat (ten.toNat + (n - 10))

/-- The two digits of an octet. -/
def hexPair (ten : Char) (n : Nat) : List Char :=
  [hexDigit ten (n / 16), hexDigit ten (n % 16)]

end Rollout.Text
