import Rollout.Posix.Shell.Words

/-!
# Reading commands

The commands of a script are read one complete command at a time, so that
what a command does, to aliases for one, counts for those behind it.
-/

namespace Rollout.Posix.Shell

open Rollout.Text (Bytes encode)

/-- What is looked for at a token: line ends do not count, words may be
keywords, words may be aliases. -/
structure Look where
  passesLines : Bool := false
  keywords : Bool := false
  aliases : Bool := false

namespace Look

def command : Look := ⟨false, true, true⟩

def body : Look := ⟨true, true, true⟩

end Look

/-- How a list of commands ends. -/
inductive Extent where
  /-- With the line. -/
  | line
  /-- In front of a token that closes it; there is at least one command. -/
  | body
  /-- In front of a token that closes it. -/
  | whole
  deriving DecidableEq

/-- Special builtins cannot be the names of functions. -/
def specialNames : List Bytes :=
  [".", ":", "break", "continue", "eval", "exec", "exit", "export", "local", "readonly", "return",
    "set", "shift", "times", "trap", "unset"].map encode

def isSpecialName (name : Bytes) : Bool :=
  specialNames.contains name

namespace Read

section

variable (script : Bool → Read Node)

/-- Reads one document, as it stands or with what is to be replaced in it. -/
def document (pending : Pending) : Read Unit := do
  modify fun source => { source with mark := some (pending.mark, pending.stripped) }
  let word : Word ←
    if pending.isQuoted then do
      checkMark
      pure [.quoted (← verbatim lengthLimit [])]
    else do
      startLine
      pure (← zoned script lengthLimit true .document {}).word
  modify fun source => { source with
    mark := none, closed := false
    documents := source.documents.setIfInBounds pending.number word }
where
  verbatim : Nat → Bytes → Read Bytes
    | 0, seen => return seen.reverse
    | fuel + 1, seen => do
      match ← octet with
      | none => return seen.reverse
      | some b =>
        if b = 10 then
          countLine
          checkMark
        verbatim fuel (b :: seen)

/-- Reads the documents that were announced. -/
def documents : Read Unit := do
  let pending := (← get).pending
  modify fun source => { source with pending := [] }
  pending.forM (document script)

/-- Looks at a token once more at the next reading. -/
def hold (token : Token) : Read Unit :=
  modify fun source => { source with held := some token }

/-- Says that a token is not expected, and what is. -/
def unexpected {α : Type} (token : Token) (expected : Option Token := none) : Read α :=
  fail ("" ++ token.name ++ " unexpected" ++
    expected.elim "" fun expected => " (expecting " ++ expected.name ++ ")")

/-- Takes the next token that is no line end, where those do not count. -/
def afterLines (bare : Bool) : Nat → Token → Read Token
  | 0, token => return token
  | fuel + 1, token =>
    match token with
    | .newline => do
      documents script
      modify fun source => { source with wantsAlias := false }
      afterLines bare fuel (← freshToken script bare lengthLimit)
    | token => return token

/-- Reads a token, or takes a line end that was looked at. An alias is replaced
by its text. -/
def tokenFrom (bare : Bool) (look : Look) : Nat → Read Token
  | 0 => return .finish
  | fuel + 1 => do
    modify fun source => { source with wantsAlias := false }
    let first ← match (← get).held with
      | some held =>
        modify fun source => { source with held := none }
        pure held
      | none => freshToken script bare lengthLimit
    let token ← if look.passesLines then afterLines script bare lengthLimit first
      else pure first
    match token with
    | .word parts false =>
      match plainText? parts with
      | none => return token
      | some text =>
        match if look.keywords then Keyword.ofOctets? text else none with
        | some keyword => return .keyword keyword
        | none =>
          let source ← get
          let isWanted := look.aliases || source.wantsAlias
          match if isWanted && !source.uses text then source.aliases.lookup text else none with
          | some value =>
            if !value.isEmpty then modify fun source => source.unfold text value
            tokenFrom bare { look with aliases := isWanted } fuel
          | none => return token
    | token => return token

/-- More aliases than are replaced by one another. -/
def aliasLimit : Nat := 100000

/-- Reads a token, or takes the one that was looked at. -/
def token (look : Look) : Read Token := do
  match (← get).held with
  | some .newline => tokenFrom script false look aliasLimit
  | some held =>
    modify fun source => { source with held := none }
    return held
  | none => tokenFrom script false look aliasLimit

/-- Reads a token that has to be this keyword. -/
def expect (keyword : Keyword) (look : Look) : Read Unit := do
  match ← token script look with
  | .keyword found =>
    if found = keyword then return else unexpected (.keyword found) (some (.keyword keyword))
  | found => unexpected found (some (.keyword keyword))

/-- Reads the word of a redirection. -/
def target (descriptor : Nat) (arrow : Arrow) : Read Redirect := do
  match arrow with
  | .document stripped =>
    match ← tokenFrom script true {} aliasLimit with
    | .word parts isQuoted =>
      let source : Source ← get
      let number := source.documents.size
      let announced : Pending := { number, mark := flat parts, isQuoted, stripped }
      set { source with
        documents := source.documents.push [], pending := source.pending ++ [announced] }
      return .document descriptor number
    | found => unexpected found
  | arrow =>
    match ← token script {} with
    | .word parts _ =>
      match arrow with
      | .path mode => return .path descriptor mode parts
      | _ => return .duplicate descriptor parts
    | found => unexpected found
where
  flat (parts : Word) : Bytes :=
    parts.flatMap fun part => match part with
      | .text octets => octets
      | .quoted octets => octets
      | .double parts => parts.flatMap fun part => match part with
        | .text octets => octets
        | .quoted octets => octets
        | _ => []
      | _ => []

/-- Reads redirections behind a command. Behind the first one, no word is taken
for a keyword or an alias. -/
def redirects : Nat → Look → List Redirect → Read (List Redirect)
  | 0, _, found => return found.reverse
  | fuel + 1, look, found => do
    match ← token script look with
    | .arrow descriptor arrow =>
      let redirect ← target script descriptor arrow
      redirects fuel {} (redirect :: found)
    | other =>
      hold other
      return found.reverse

/-- Words up to the end of a line or a semicolon. -/
def words : Nat → List Word → Read (List Word)
  | 0, found => return found.reverse
  | fuel + 1, found => do
    match ← token script {} with
    | .word parts _ => words fuel (parts :: found)
    | .newline =>
      hold .newline
      return found.reverse
    | .semicolon => return found.reverse
    | other => unexpected other

/-- Patterns of an arm, the first token given. A word of the language is one
like any other there. -/
def patterns : Nat → List Word → Token → Read (List Word)
  | 0, found, _ => return found.reverse
  | fuel + 1, found, first => do
    let pattern : Word := match first with
      | .word parts _ => parts
      | .keyword keyword => [.text (encode keyword.text)]
      | _ => []
    match ← token script {} with
    | .pipe => patterns fuel (pattern :: found) (← token script {})
    | .closing => return (pattern :: found).reverse
    | other => unexpected other (some .closing)

/-- What a simple command is made of, the last part first. -/
structure Simple where
  assignments : List (Bytes × Word) := []
  words : List Word := []
  redirects : List Redirect := []

def Simple.node (simple : Simple) (line : Nat) : Node :=
  .simple line simple.assignments.reverse simple.words.reverse simple.redirects.reverse

/-- Two lists of commands one after the other. -/
def joinNodes (first : Option Node) (second : Node) : Node :=
  match first with
  | none => second
  | some first => .sequence first second

/-- A command that others do not wait for. -/
def beside (line : Nat) : Node → Node
  | .redirected line body redirects => .background line body redirects
  | node => .background line node []

/-- A command with the redirections that follow it. Those behind braces around a
shell of its own alone take the place of its own. -/
def redirectable (line : Nat) (node : Node) : Read Node := do
  match ← redirects script lengthLimit Look.command [], node with
  | [], node => return node
  | found, .subshell line body _ => return .subshell line body found
  | found, node => return .redirected line node found

mutual

/-- Reads a list of commands. -/
def list (fuel : Nat) (extent : Extent) (before : Option Node) : Read (Option Node) :=
  match fuel with
  | 0 => fail "end of file unexpected"
  | fuel + 1 => do
    let first ← token script ⟨extent != .line, true, true⟩
    let ends := match extent with
      | .line => false
      | .body => before.isSome && first.closes
      | .whole => first.closes
    match first with
    | .newline =>
      documents script
      return before
    | .finish =>
      documents script
      hold .finish
      return before
    | first =>
      hold first
      if ends then return before
      else
        let line := (← get).line
        let node ← chain fuel
        let next ← token script {}
        let node := match next with
          | .ampersand => beside line node
          | _ => node
        let found := some (joinNodes before node)
        match next with
        | .newline | .finish =>
          hold next
          list fuel extent found
        | .ampersand | .semicolon => list fuel extent found
        | other =>
          if extent = .line then unexpected other
          else
            hold other
            return found
termination_by structural fuel

/-- Reads commands that depend on the status of those before them. -/
def chain (fuel : Nat) : Read Node :=
  match fuel with
  | 0 => fail "end of file unexpected"
  | fuel + 1 => do
    let first ← pipeline fuel {}
    chained fuel first
termination_by structural fuel

def chained (fuel : Nat) (first : Node) : Read Node :=
  match fuel with
  | 0 => fail "end of file unexpected"
  | fuel + 1 => do
    match ← token script {} with
    | .both =>
      let second ← pipeline fuel Look.body
      chained fuel (.both first second)
    | .either =>
      let second ← pipeline fuel Look.body
      chained fuel (.either first second)
    | other =>
      hold other
      return first
termination_by structural fuel

/-- Reads a pipe of commands. -/
def pipeline (fuel : Nat) (look : Look) : Read Node :=
  match fuel with
  | 0 => fail "end of file unexpected"
  | fuel + 1 => do
    let first ← token script look
    let isNegated := match first with
      | .keyword .not => true
      | _ => false
    if !isNegated then hold first
    let stage ← command fuel (if isNegated then Look.command else {})
    let stages ← stagesFrom fuel [stage]
    let node : Node := match stages with
      | [stage] => stage
      | stages => .pipe stages
    return if isNegated then .negated node else node
termination_by structural fuel

def stagesFrom (fuel : Nat) (stages : List Node) : Read (List Node) :=
  match fuel with
  | 0 => fail "end of file unexpected"
  | fuel + 1 => do
    match ← token script {} with
    | .pipe =>
      let stage ← command fuel Look.body
      stagesFrom fuel (stage :: stages)
    | other =>
      hold other
      return stages.reverse
termination_by structural fuel

/-- Reads the commands within another one; there is at least one. -/
def body (fuel : Nat) : Read Node :=
  match fuel with
  | 0 => fail "end of file unexpected"
  | fuel + 1 => do return (← list fuel .body none).getD .nothing
termination_by structural fuel

/-- Reads the branches of a condition. -/
def branches (fuel : Nat) : Read Node :=
  match fuel with
  | 0 => fail "end of file unexpected"
  | fuel + 1 => do
    let condition ← body fuel
    expect script .then {}
    let consequence ← body fuel
    match ← token script {} with
    | .keyword .elif => return .branch condition consequence (← branches fuel)
    | .keyword .else => return .branch condition consequence (← body fuel)
    | other =>
      hold other
      return .branch condition consequence .nothing
termination_by structural fuel

/-- Reads the arms of a selection. -/
def arms (fuel : Nat) (found : List (List Word × Node)) : Read (List (List Word × Node)) :=
  match fuel with
  | 0 => fail "end of file unexpected"
  | fuel + 1 => do
    match ← token script ⟨true, true, false⟩ with
    | .keyword .esac => return found.reverse
    | first =>
      let first ← match first with
        | .opening => token script {}
        | first => pure first
      let patterns ← patterns script lengthLimit [] first
      let body := (← list fuel .whole none).getD .nothing
      let found := (patterns, body) :: found
      match ← token script ⟨true, true, false⟩ with
      | .keyword .esac => return found.reverse
      | .armEnd => arms fuel found
      | other => unexpected other (some .armEnd)
termination_by structural fuel

/-- Reads a command. -/
def command (fuel : Nat) (look : Look) : Read Node :=
  match fuel with
  | 0 => fail "end of file unexpected"
  | fuel + 1 => do
    let line := (← get).line
    let first ← token script look
    match first with
    | .word .. =>
      hold first
      simple fuel
    | .arrow .. =>
      hold first
      simple fuel
    | .keyword .if =>
      let node ← branches fuel
      expect script .fi {}
      redirectable script line node
    | .keyword .while =>
      let condition ← body fuel
      expect script .do {}
      let node := Node.loop false condition (← body fuel)
      expect script .done {}
      redirectable script line node
    | .keyword .until =>
      let condition ← body fuel
      expect script .do {}
      let node := Node.loop true condition (← body fuel)
      expect script .done {}
      redirectable script line node
    | .keyword .for =>
      let name ← match ← token script {} with
        | .word parts false => pure ((plainText? parts).filter isName)
        | _ => pure none
      match name with
      | none => fail "Bad for loop variable"
      | some name =>
        let words ← match ← token script Look.body with
          | .keyword .in => words script lengthLimit []
          | other => do
            match other with
            | .semicolon => pure ()
            | other => hold other
            pure [[.double [.parameter [0x40] .plain []]]]
        expect script .do Look.body
        let node := Node.each line name words (← body fuel)
        expect script .done {}
        redirectable script line node
    | .keyword .case =>
      let subject ← match ← token script {} with
        | .word parts _ => pure parts
        | other => unexpected other (some (.word [] false))
      expect script .in Look.body
      let arms ← arms fuel []
      redirectable script line (.select line subject arms)
    | .opening =>
      let node ← body fuel
      match ← token script {} with
      | .closing =>
        let redirects ← redirects script lengthLimit Look.command []
        return .subshell line node redirects
      | other => unexpected other (some .closing)
    | .keyword .begin =>
      let node ← body fuel
      expect script .end {}
      redirectable script line node
    | other => unexpected other
termination_by structural fuel

/-- Reads a simple command or the definition of a function. -/
def simple (fuel : Nat) : Read Node :=
  match fuel with
  | 0 => fail "end of file unexpected"
  | fuel + 1 => do
    let line := (← get).line
    simpleFrom fuel line {}
termination_by structural fuel

def simpleFrom (fuel : Nat) (line : Nat) (found : Simple) : Read Node :=
  match fuel with
  | 0 => fail "end of file unexpected"
  | fuel + 1 => do
    match ← token script { aliases := found.words.isEmpty } with
    | .word parts _ =>
      match if found.words.isEmpty then assignment? parts else none with
      | some assignment =>
        simpleFrom fuel line { found with assignments := assignment :: found.assignments }
      | none => simpleFrom fuel line { found with words := parts :: found.words }
    | .arrow descriptor arrow =>
      let redirect ← target script descriptor arrow
      simpleFrom fuel line { found with redirects := redirect :: found.redirects }
    | .opening =>
      match found with
      | { assignments := [], words := [name], redirects := [] } =>
        match ← token script {} with
        | .closing =>
          match (plainText? name).filter fun name => isName name && !isSpecialName name with
          | none => fail "Bad function name"
          | some name =>
            let line := (← get).line
            let body ← command fuel Look.body
            return .define line name body
        | other => unexpected other (some .closing)
      | found =>
        hold .opening
        return found.node line
    | other =>
      hold other
      return found.node line
termination_by structural fuel

end

end

/-- Reads the commands of a substitution, so deep within others. -/
def scriptAt : Nat → Bool → Read Node
  | 0, _ => fail "end of file unexpected"
  | depth + 1, closed => do
    let node := (← list (scriptAt depth) lengthLimit .whole none).getD .nothing
    if closed then
      match ← token (scriptAt depth) {} with
      | .closing => return node
      | other => unexpected other (some .closing)
    else
      -- The commands may end early; documents take what is left of the text.
      documents (scriptAt depth)
      return node

/-- More substitutions than stand within each other. -/
def depthLimit : Nat := 10000

end Read

/-- The parts of a text that is read like a document, and the documents within. -/
def Source.document (source : Source) : Except Fault (Word × Array Word) := do
  let (heap, source) ← (Read.zoned (Read.scriptAt Read.depthLimit) Read.lengthLimit true .document
    {}).run source
  return (heap.word, source.documents)

/-- What is read of a script at once: the commands of a line, and whether the
text ends with them. Nothing is read of a text that has ended. -/
inductive Step where
  | commands (node : Node) (isLast : Bool)
  | finish

/-- Reads the next complete command. -/
def Source.step (source : Source) : Except Fault (Step × Source) := do
  let start := { source with held := none, pending := [], wantsAlias := false }
  let (node, source) ← (Read.list (Read.scriptAt Read.depthLimit) Read.lengthLimit .line none).run
    start
  let isLast := match source.held with
    | some .finish => true
    | _ => false
  match node, isLast with
  | none, true => return (.finish, source)
  | node, isLast => return (.commands (node.getD .nothing) isLast, source)

end Rollout.Posix.Shell
