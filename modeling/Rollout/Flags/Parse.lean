import Rollout.Flags
import Rollout.Text.Terminal

/-!
# Reading command lines

The words of a command line are looked at in order. A flag that takes a
value may hold it behind an equals sign, or takes the next word, unless that
looks like a flag. The value of a flag is settled when the next flag comes or
the line ends; a word that no flag accounts for is refused at once, whatever
is wrong with a flag that is not settled yet.
-/

namespace Rollout.Flags

/-- Why a command line starts nothing. -/
inductive Stop where
  /-- A word, or a flag in it, that means nothing. -/
  | unknown (word : String)
  | missingValue (flag : Flag)
  | badPort (value : String) (fault : Port.Fault)
  /-- A flag that is given more than once. -/
  | repeated (flag : Flag)
  /-- A value for a flag that takes none. -/
  | unneeded (flag : Flag) (value : String)
  /-- A value that is not UTF-8. -/
  | notText
  | help
  | version
  deriving DecidableEq, Repr

/-- What has been read: each flag once, and the flag that still waits to be
settled, with its value if it has taken one. -/
structure Reading where
  debug : Bool := false
  config : Option Path := none
  host : Option String := none
  port : Option Port := none
  dir : Option Path := none
  waiting : Option (Flag × Option Text.Bytes) := none

namespace Reading

/-- Whether a flag has been given. -/
def has (reading : Reading) : Flag → Bool
  | .debug => reading.debug
  | .config => reading.config.isSome
  | .host => reading.host.isSome
  | .port => reading.port.isSome
  | .dir => reading.dir.isSome
  | .help => false
  | .version => false

/-- A path from its octets; there has to be at least one. -/
def path (flag : Flag) (value : Text.Bytes) : Except Stop Path :=
  if value.isEmpty then .error (.missingValue flag) else .ok ⟨value⟩

/-- A text from its octets. -/
def text (value : Text.Bytes) : Except Stop String :=
  match Text.decode? value with
  | some text => .ok text
  | none => .error .notText

/-- Settles a flag with its value. -/
def settle (reading : Reading) (flag : Flag) (value : Option Text.Bytes) : Except Stop Reading :=
  -- A missing value counts before a flag that is there twice.
  if flag.takesValue && value.isNone then .error (.missingValue flag)
  else if reading.has flag then .error (.repeated flag)
  else
    let value := value.getD []
    match flag with
    | .debug => .ok { reading with debug := true }
    | .help => .error .help
    | .version => .error .version
    | .config => (path flag value).map fun path => { reading with config := some path }
    | .dir => (path flag value).map fun path => { reading with dir := some path }
    | .host => (text value).map fun text => { reading with host := some text }
    | .port => do
      let text ← text value
      match Port.ofFlag text with
      | .ok port => return { reading with port := some port }
      | .error fault => throw (.badPort text fault)

/-- Settles the flag that waits. -/
def settleWaiting (reading : Reading) : Except Stop Reading :=
  match reading.waiting with
  | none => .ok reading
  | some (flag, value) => { reading with waiting := none }.settle flag value

/-- Takes a flag that came with these octets behind an equals sign, if any. -/
def takeFlag (reading : Reading) (flag : Flag) (value : Option Text.Bytes) :
    Except Stop Reading :=
  match flag.takesValue, value with
  -- The flag before this one is settled first, so its fault counts.
  | true, some value => do (← reading.settleWaiting).settle flag (some value)
  | true, none => do
    let reading ← reading.settleWaiting
    return { reading with waiting := some (flag, none) }
  | false, some value => .error (.unneeded flag (Text.lossy value))
  | false, none => do (← reading.settleWaiting).settle flag none

/-- Takes the letters after a single dash. -/
def takeLetters (reading : Reading) : List (Option Char) → Except Stop Reading
  | [] => .ok reading
  | none :: rest =>
    .error (.unknown ("-" ++ String.ofList ((none :: rest).map (·.getD Text.replacement))))
  | some letter :: rest =>
    match Flag.ofLetter? letter with
    | none => .error (.unknown (String.ofList ['-', letter]))
    | some flag => do takeLetters (← reading.takeFlag flag none) rest

/-- Takes a word that starts no flag: the value of the flag that waits for
one. -/
def takeValue (reading : Reading) (word : Text.Bytes) : Except Stop Reading :=
  match reading.waiting with
  | some (flag, none) => .ok { reading with waiting := some (flag, some word) }
  | _ => .error (.unknown (Text.lossy word))

/-- The octets of the dash and the equals sign. -/
def dash : UInt8 := 0x2D
def equals : UInt8 := 0x3D

/-- Takes a word that starts with two dashes, which are behind. -/
def takeLong (reading : Reading) (word : Text.Bytes) : Except Stop Reading :=
  let name := word.takeWhile (· != equals)
  let value := if name.length < word.length then some (word.drop (name.length + 1)) else none
  match (Text.decode? name).bind Flag.ofName? with
  | some flag => reading.takeFlag flag value
  | none => .error (.unknown ("--" ++ Text.lossy name))

/-- Takes the words of a command line in order. After a word of two dashes
alone no word starts a flag or is a value. -/
def takeWords (reading : Reading) : List Text.Bytes → Except Stop Reading
  | [] => reading.settleWaiting
  | [0x2D, 0x2D] :: rest =>
    match rest with
    -- No flag is named by a word alone, so nothing may follow.
    | [] => reading.settleWaiting
    | word :: _ => .error (.unknown (Text.lossy word))
  | (0x2D :: 0x2D :: word) :: rest => do takeWords (← reading.takeLong word) rest
  | (0x2D :: b :: letters) :: rest => do
    takeWords (← reading.takeLetters (Text.parts (b :: letters))) rest
  | word :: rest => do takeWords (← reading.takeValue word) rest

/-- The flags that were read. -/
def flags (reading : Reading) : Flags where
  debug := reading.debug
  config := reading.config.getD Config.defaultPath
  host := reading.host
  port := reading.port
  dir := reading.dir

end Reading

/-- Reads a command line; its first word is the program's own name. -/
def parse (words : List Text.Bytes) : Except Stop Flags :=
  (Reading.takeWords {} (words.drop 1)).map Reading.flags

namespace Stop

/-- The text of an error, apart from its first word. -/
def reason : Stop → String
  | unknown word => "unexpected argument '" ++ Text.shown word ++ "' found"
  | missingValue flag => "a value is required for '" ++ flag.shown ++ "' but none was supplied"
  | badPort value fault =>
    "invalid value '" ++ Text.shown value ++ "' for '" ++ Flag.port.shown ++ "': " ++ fault.message
  | repeated flag => "the argument '" ++ flag.shown ++ "' cannot be used multiple times"
  | unneeded flag value =>
    "unexpected value '" ++ Text.shown value ++ "' for '" ++ flag.shown ++
      "' found; no more were expected"
  | notText => "invalid UTF-8 was detected in one or more arguments"
  | help => ""
  | version => ""

/-- The name that the help shows for the program: the last name of the path
it was started by. -/
def programName (words : List Text.Bytes) : String :=
  let last := words.head?.bind fun word => (Path.mk word).names.getLast?
  let isPlace (name : Text.Bytes) : Bool := name = [Path.dot] || name = [Path.dot, Path.dot]
  (last.bind fun name => if isPlace name then none else Text.decode? name).getD "deploy-hook"

/-- The help text of a program of this name. -/
def helpText (name : String) : String :=
  "HTTP-triggered deployment hook\n\nUsage: " ++ Text.shown name ++ " [OPTIONS]\n\nOptions:\n" ++
  "  -d, --debug              Verbose mode: debug-level logs and per-request HTTP tracing\n" ++
  "      --config <CONFIG>    Config file (TOML). A missing file means built-in defaults " ++
    "[default: config.toml]\n" ++
  "      --host <HOST>        \n" ++
  "      --port <PORT>        \n" ++
  "      --workdir <WORKDIR>  Directory the deploy commands run in\n" ++
  "  -h, --help               Print help\n" ++
  "  -V, --version            Print version\n"

def versionText : String := "deploy-hook 0.1.0\n"

/-- What is printed: the help, the version, or the first line of an error. -/
def message (words : List Text.Bytes) : Stop → String
  | help => helpText (programName words)
  | version => versionText
  | stop => Text.firstLine ("error: " ++ stop.reason)

/-- The exit code of the program. -/
def exitCode : Stop → Nat
  | help => 0
  | version => 0
  | _ => 2

end Stop

end Rollout.Flags
