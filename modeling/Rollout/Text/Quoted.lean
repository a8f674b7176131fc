import Rollout.Text.Hex

/-!
# Quoted text

Texts between quotation marks as JSON has them. A quotation mark, a backslash
and every control character of the first 32 is escaped; all else stands for
itself.
-/

namespace Rollout.Text

/-- What a character is written as between quotation marks. -/
def quoteChar (c : Char) : List Char :=
  if c = '"' then ['\\', '"']
  else if c = '\\' then ['\\', '\\']
  else if c = '\n' then ['\\', 'n']
  else if c = '\r' then ['\\', 'r']
  else if c = '\t' then ['\\', 't']
  else if c.toNat = 0x08 then ['\\', 'b']
  else if c.toNat = 0x0C then ['\\', 'f']
  else if c.toNat < 0x20 then '\\' :: 'u' :: '0' :: '0' :: hexPair 'a' c.toNat
  else [c]

/-- A text with quotation marks around it. -/
def quote (text : String) : String :=
  String.ofList ('"' :: text.toList.flatMap quoteChar ++ ['"'])

end Rollout.Text
