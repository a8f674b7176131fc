/-!
# UTF-8

Octets and the text they stand for. `encode` writes a text, `decode?` reads
octets that are UTF-8 throughout, and `lossy` reads any octets: each maximal
part that is no character, as the Unicode standard cuts them, becomes one
replacement character.
-/

namespace Rollout.Text

/-- Octets as files, pipes and process arguments carry them. -/
abbrev Bytes := List UInt8

/-- The octets of a text. -/
def encode (text : String) : Bytes :=
  text.toList.flatMap String.utf8EncodeChar

/-- An octet that may only continue a character. -/
def isTail (b : UInt8) : Bool :=
  0x80 ≤ b && b ≤ 0xBF

/-- Whether `second` may follow the lead octet `lead`: overlong forms,
surrogates and numbers past the last character are refused here. -/
def admits (lead second : UInt8) : Bool :=
  if lead = 0xE0 then 0xA0 ≤ second && second ≤ 0xBF
  else if lead = 0xED then 0x80 ≤ second && second ≤ 0x9F
  else if lead = 0xF0 then 0x90 ≤ second && second ≤ 0xBF
  else if lead = 0xF4 then 0x80 ≤ second && second ≤ 0x8F
  else isTail second

/-- The six payload bits of a continuing octet. -/
def payload (b : UInt8) : Nat :=
  b.toNat % 64

/-- What stands at the front of `lead :: rest`: the character, or `none` for
a part that is no character, and how many octets of `rest` belong to it. -/
def front (lead : UInt8) (rest : Bytes) : Option Char × Nat :=
  if lead < 0x80 then (some (Char.ofNat lead.toNat), 0)
  else if 0xC2 ≤ lead && lead ≤ 0xDF then
    match rest with
    | b :: _ =>
      if isTail b then (some (Char.ofNat (lead.toNat % 32 * 64 + payload b)), 1) else (none, 0)
    | [] => (none, 0)
  else if 0xE0 ≤ lead && lead ≤ 0xEF then
    match rest with
    -- Of a part that is no character only what could still have become one is taken.
    | b :: c :: _ =>
      if !admits lead b then (none, 0)
      else if isTail c then
        (some (Char.ofNat ((lead.toNat % 16 * 64 + payload b) * 64 + payload c)), 2)
      else (none, 1)
    | [b] => (none, if admits lead b then 1 else 0)
    | [] => (none, 0)
  else if 0xF0 ≤ lead && lead ≤ 0xF4 then
    match rest with
    | b :: c :: d :: _ =>
      if !admits lead b then (none, 0)
      else if !isTail c then (none, 1)
      else if isTail d then
        (some (Char.ofNat
          (((lead.toNat % 8 * 64 + payload b) * 64 + payload c) * 64 + payload d)), 3)
      else (none, 2)
    | [b, c] => (none, if !admits lead b then 0 else if isTail c then 2 else 1)
    | [b] => (none, if admits lead b then 1 else 0)
    | [] => (none, 0)
  else (none, 0)

/-- Cuts octets into characters and parts that are none, after passing over
`skip` octets; `seen` holds what was cut before, last first. -/
def cut (seen : List (Option Char)) : Nat → Bytes → List (Option Char)
  | _, [] => seen.reverse
  | skip + 1, _ :: rest => cut seen skip rest
  | 0, lead :: rest => cut ((front lead rest).1 :: seen) (front lead rest).2 rest

/-- The characters of the octets in order, `none` for each maximal part that
is no character. -/
def parts (bytes : Bytes) : List (Option Char) :=
  cut [] 0 bytes

/-- The replacement character. -/
def replacement : Char := '\uFFFD'

/-- The text of any octets; a part that is no character reads as the
replacement character. -/
def lossy (bytes : Bytes) : String :=
  String.ofList ((parts bytes).map (·.getD replacement))

/-- The text of octets that are UTF-8 throughout. -/
def decode? (bytes : Bytes) : Option String :=
  let cs := parts bytes
  if cs.all Option.isSome then some (String.ofList (cs.filterMap id)) else none

end Rollout.Text
