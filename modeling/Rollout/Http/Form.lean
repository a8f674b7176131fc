import Rollout.Text.Hex

/-!
# Forms

Lists of names and values as one text, the way a query carries them: pairs
apart by ampersands, an equals sign between name and value, a plus for a
space and two hexadecimal digits behind a percent sign for any octet. Reading
takes any text; writing is one way to spell a list.
-/

namespace Rollout.Http.Form

open Rollout.Text (Bytes encode lossy hexValue? hexPair)

def ampersand : UInt8 := 0x26
def equals : UInt8 := 0x3D
def plus : UInt8 := 0x2B
def space : UInt8 := 0x20

/-- Octets with those put in that two digits behind a percent sign stand for.
A percent sign without two digits behind it stands for itself. -/
def percentDecode : Bytes → Bytes
  | 0x25 :: a :: b :: rest =>
    match hexValue? a, hexValue? b with
    | some high, some low => UInt8.ofNat (high * 16 + low) :: percentDecode rest
    | _, _ => 0x25 :: percentDecode (a :: b :: rest)
  | b :: rest => b :: percentDecode rest
  | [] => []

/-- Reads a name or a value. -/
def readPart (octets : Bytes) : String :=
  lossy (percentDecode (octets.map fun b => if b = plus then space else b))

/-- Reads a pair at its first equals sign; without one the value is empty. -/
def readPair (octets : Bytes) : String × String :=
  let name := octets.takeWhile (· != equals)
  (readPart name, readPart (octets.drop (name.length + 1)))

/-- Reads a list; where nothing stands between ampersands there is no pair. -/
def read (text : String) : List (String × String) :=
  (((encode text).splitOn ampersand).filter (!·.isEmpty)).map readPair

/-- An octet that stands for itself when a list is written. -/
def isPlain (b : UInt8) : Bool :=
  (0x30 ≤ b && b ≤ 0x39) || (0x41 ≤ b && b ≤ 0x5A) || (0x61 ≤ b && b ≤ 0x7A) ||
    b = 0x2A || b = 0x2D || b = 0x2E || b = 0x5F

def writeOctet (b : UInt8) : List Char :=
  if b = space then ['+']
  else if isPlain b then [Char.ofNat b.toNat]
  else '%' :: hexPair 'A' b.toNat

/-- Writes a name or a value. -/
def writePart (text : String) : List Char :=
  (encode text).flatMap writeOctet

def writePair (pair : String × String) : List Char :=
  writePart pair.1 ++ '=' :: writePart pair.2

/-- Writes a list. -/
def write (pairs : List (String × String)) : String :=
  String.ofList (['&'].intercalate (pairs.map writePair))

end Rollout.Http.Form
