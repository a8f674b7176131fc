import Rollout.Text.Utf8

/-!
# Request targets

What a request asks for: a URI with a scheme and an authority, a path alone,
an authority alone, or a star. A fragment is read over. Percent signs and
the letters of a path are left as they are written.
-/

namespace Rollout.Http

/-- A request target. The path is empty only where there is an authority
alone; otherwise an empty path stands as a slash. -/
structure Uri where
  scheme : Option String := none
  authority : Option String := none
  path : String := ""
  query : Option String := none
  deriving DecidableEq, Repr

namespace Uri

/-- The text of a target. -/
def text (uri : Uri) : String :=
  (uri.scheme.map (· ++ "://")).getD "" ++ uri.authority.getD "" ++ uri.path ++
    (uri.query.map ("?" ++ ·)).getD ""

/-- Why a text is no request target. -/
inductive Fault where
  | empty
  | tooLong
  | badCharacter
  | badAuthority
  | badFormat
  | longScheme
  deriving DecidableEq, Repr

def Fault.message : Fault → String
  | empty => "empty string"
  | tooLong => "uri too long"
  | badCharacter => "invalid uri character"
  | badAuthority => "invalid authority"
  | badFormat => "invalid format"
  | longScheme => "scheme too long"

/-- The most octets a target may have. -/
def sizeLimit : Nat := 65534

/-- The most characters a scheme may have. -/
def schemeLimit : Nat := 64

/-- A letter or digit of the first 128 characters. -/
def isAlphanumeric (c : Char) : Bool :=
  ('0' ≤ c && c ≤ '9') || ('A' ≤ c && c ≤ 'Z') || ('a' ≤ c && c ≤ 'z')

def isSchemeChar (c : Char) : Bool :=
  isAlphanumeric c || c = '+' || c = '-' || c = '.' || c = '~'

/-- A character that stands in an authority and means nothing there. -/
def isAuthorityChar (c : Char) : Bool :=
  isAlphanumeric c || "!$&'()*+,-.;=_~".toList.contains c

def isPathChar (c : Char) : Bool :=
  let n := c.toNat
  n = 0x21 || n = 0x22 || (0x24 ≤ n && n ≤ 0x3B) || n = 0x3D || (0x40 ≤ n && n ≤ 0x5F) ||
    (0x61 ≤ n && n ≤ 0x7E) || 0x80 ≤ n

def isQueryChar (c : Char) : Bool :=
  let n := c.toNat
  n = 0x21 || (0x24 ≤ n && n ≤ 0x3B) || n = 0x3D || (0x3F ≤ n && n ≤ 0x7E) || 0x80 ≤ n

/-- A character at which an authority ends. -/
def endsAuthority (c : Char) : Bool :=
  c = '/' || c = '?' || c = '#'

/-- The characters behind an authority as a path and a query. -/
def behind (scheme authority : Option String) (cs : List Char) : Except Fault Uri :=
  -- A fragment is dropped before anything else is looked at.
  let cs := cs.takeWhile (· != '#')
  let path := cs.takeWhile (· != '?')
  let query := (cs.drop path.length).drop 1
  if path.all isPathChar && query.all isQueryChar then
    .ok {
      scheme, authority
      path := if path.isEmpty then "/" else String.ofList path
      query := if path.length < cs.length then some (String.ofList query) else none }
  else .error .badCharacter

/-- What is known of an authority while its characters are looked at: the
colons and percent signs of its last part, and the brackets. -/
structure Scan where
  colons : Nat := 0
  percent : Bool := false
  opened : Bool := false
  closed : Bool := false

namespace Scan

/-- Looks at the next character of an authority. An at sign ends the user's
part and a bracket an address, in which colons and percent signs may stand. -/
def take (scan : Scan) (c : Char) : Except Fault Scan :=
  if c = ':' then
    if scan.colons < 8 then .ok { scan with colons := scan.colons + 1 } else .error .badAuthority
  else if c = '[' then
    if scan.percent || scan.opened then .error .badAuthority else .ok { scan with opened := true }
  else if c = ']' then
    if scan.opened && !scan.closed then
      .ok { scan with closed := true, colons := 0, percent := false }
    else .error .badAuthority
  else if c = '@' then .ok { scan with colons := 0, percent := false }
  else if c = '%' then .ok { scan with percent := true }
  else if isAuthorityChar c then .ok scan
  else .error .badCharacter

/-- Whether an authority may end here: all brackets are closed, and the last
part has no percent sign and at most one colon. -/
def complete (scan : Scan) : Bool :=
  scan.opened == scan.closed && scan.colons ≤ 1 && !scan.percent

end Scan

/-- The authority at the front, and what follows. -/
def authorityOf (cs : List Char) : Except Fault (List Char × List Char) := do
  let authority := cs.takeWhile fun c => !endsAuthority c
  let scan ← authority.foldlM Scan.take {}
  -- A user's part has to be followed by a host.
  if scan.complete && authority.getLast? != some '@' then
    return (authority, cs.drop authority.length)
  else throw .badAuthority

/-- Only a longer text may have a scheme. -/
def schemeFrom : Nat := 3

/-- The name in front of a colon and two slashes, and what follows these. -/
def schemeOf? (cs : List Char) : Option (List Char × List Char) :=
  let name := cs.takeWhile isSchemeChar
  match cs.drop name.length with
  | ':' :: '/' :: '/' :: rest => some (name, rest)
  | _ => none

/-- The scheme of this name; those of the web are known in either case. -/
def schemeNamed (name : List Char) : Except Fault String :=
  let lower := String.ofList (name.map Char.toLower)
  if lower = "http" || lower = "https" then .ok lower
  else if schemeLimit < name.length then .error .longScheme
  else .ok (String.ofList name)

/-- Reads a request target. -/
def parse (text : String) : Except Fault Uri := do
  if sizeLimit < text.utf8ByteSize then throw .tooLong
  match text.toList with
  | [] => throw .empty
  | ['*'] => return { path := "*" }
  | ['?'] | ['#'] => throw .badCharacter
  | '/' :: rest => behind none none ('/' :: rest)
  | cs =>
    match if schemeFrom < text.utf8ByteSize then schemeOf? cs else none with
    | none =>
      let (authority, rest) ← authorityOf cs
      if rest.isEmpty then return { authority := some (String.ofList authority) }
      else throw .badFormat
    -- Behind a scheme there has to be an authority; a path alone has none.
    | some (name, rest) =>
      let scheme ← schemeNamed name
      if rest.isEmpty then throw .empty
      let (authority, rest) ← authorityOf rest
      if authority.isEmpty then throw .badFormat
      else behind (some scheme) (some (String.ofList authority)) rest

end Uri

end Rollout.Http
