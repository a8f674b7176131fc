import Rollout.Posix.Shell.Syntax

/-!
# Tokens

The units that the commands of a script are made of, and how faults name
them.
-/

namespace Rollout.Posix.Shell

open Rollout.Text (Bytes encode)

/-- Words that mean something where a command may start. -/
inductive Keyword where
  | not | case | do | done | elif | else | esac | fi | for | if | in | then | until | while
  | begin | end
  deriving DecidableEq, Repr

namespace Keyword

def all : List (String × Keyword) := [
  ("!", not), ("case", case), ("do", «do»), ("done", done), ("elif", elif), ("else", «else»),
  ("esac", esac), ("fi", fi), ("for", «for»), ("if", «if»), ("in", «in»), ("then", «then»),
  ("until", «until»), ("while", «while»), ("\x7b", begin), ("\x7d", «end»)]

def ofOctets? (octets : Bytes) : Option Keyword :=
  (all.find? fun word => encode word.1 = octets).map Prod.snd

def text (keyword : Keyword) : String :=
  ((all.find? fun word => word.2 = keyword).map Prod.fst).getD ""

/-- Keywords that end the commands in front of them. -/
def closes : Keyword → Bool
  | «do» | done | elif | «else» | esac | fi | «then» | «end» => true
  | _ => false

end Keyword

/-- What a redirection does, before its word is read. -/
inductive Arrow where
  | path (mode : OpenMode)
  | duplicate
  /-- A document follows; with `stripped`, tabs in front of its lines do not
  count. -/
  | document (stripped : Bool)
  deriving DecidableEq

inductive Token where
  | finish
  | newline
  | semicolon
  | ampersand
  | both
  | either
  | pipe
  | opening
  | closing
  | armEnd
  | arrow (descriptor : Nat) (arrow : Arrow)
  | word (parts : Word) (isQuoted : Bool)
  | keyword (keyword : Keyword)

namespace Token

/-- A token as faults name it. -/
def name : Token → String
  | finish => "end of file"
  | newline => "newline"
  | semicolon => "\";\""
  | ampersand => "\"&\""
  | both => "\"&&\""
  | either => "\"||\""
  | pipe => "\"|\""
  | opening => "\"(\""
  | closing => "\")\""
  | armEnd => "\";;\""
  | arrow .. => "redirection"
  | word .. => "word"
  | keyword found => "\"" ++ found.text ++ "\""

/-- Whether a token ends the commands in front of it. -/
def closes : Token → Bool
  | finish | closing | armEnd => true
  | keyword found => found.closes
  | _ => false

end Token

/-- The octets of a word that is plain text. -/
def plainText? : Word → Option Bytes
  | [] => some []
  | .text octets :: rest => (plainText? rest).map (octets ++ ·)
  | _ => none

def isLetter (b : UInt8) : Bool :=
  (0x41 ≤ b && b ≤ 0x5A) || (0x61 ≤ b && b ≤ 0x7A)

def isDigit (b : UInt8) : Bool :=
  0x30 ≤ b && b ≤ 0x39

/-- Whether a name may start with an octet. -/
def startsName (b : UInt8) : Bool :=
  isLetter b || b = 0x5F

/-- Whether a name may go on with an octet. -/
def continuesName (b : UInt8) : Bool :=
  startsName b || isDigit b

/-- The name at the front of octets. -/
def leadingName (octets : Bytes) : Bytes :=
  match octets with
  | [] => []
  | b :: _ => if startsName b then octets.takeWhile continuesName else []

/-- Whether octets are a name. -/
def isName (octets : Bytes) : Bool :=
  !octets.isEmpty && (leadingName octets).length = octets.length

/-- The name and the rest of a word that assigns. -/
def assignment? : Word → Option (Bytes × Word)
  | .text octets :: rest =>
    let name := leadingName octets
    match octets.drop name.length with
    | 0x3D :: value =>
      if name.isEmpty then none
      else some (name, if value.isEmpty then rest else .text value :: rest)
    | _ => none
  | _ => none

end Rollout.Posix.Shell
