import ShapeSum.Text.Numeral
import ShapeSum.Text.Split

/-!
# Arguments

The arguments of a run name a command, and behind it the schema and options.  An
option may be shortened as long as it is the only one that starts so; its value
follows it or an equals sign; of an option given twice the last value counts.  An
argument of two dashes makes operands of all that follow it.

Arguments are first sorted into words, each an operand, an option or neither, and
the words are then read from the first to the last.
-/

namespace ShapeSum.CommandLine

/-- An option. -/
inductive Flag where
  /-- Shows how the program is used. -/
  | help
  /-- Shows the version. -/
  | version
  /-- Where in the schema the union stands. -/
  | pointer
  /-- The name that the union is generated for. -/
  | name
  /-- The file of settings. -/
  | config
  /-- Leaves out all but errors. -/
  | quiet
  /-- Reports decisions. -/
  | verbose
  /-- Where the description is written. -/
  | outputDir
  /-- The file of data. -/
  | input
  deriving DecidableEq

/-- How an option is written. -/
def Flag.spellings : Flag → List String
  | .help => ["-h", "--help"]
  | .version => ["--version"]
  | .pointer => ["--pointer"]
  | .name => ["--name"]
  | .config => ["--config"]
  | .quiet => ["--quiet"]
  | .verbose => ["--verbose"]
  | .outputDir => ["--output-dir"]
  | .input => ["--input"]

/-- Whether an option has a value. -/
def Flag.takesValue : Flag → Bool
  | .help => false
  | .version => false
  | .quiet => false
  | .verbose => false
  | _ => true

/-! ## Words -/

/-- An argument by what it looks like. -/
inductive Word where
  /-- An operand. -/
  | operand (text : String)
  /-- Two dashes. -/
  | separator
  /-- An option as it is written, and the value that is written with it. -/
  | flag (f : Flag) (spelling : String) (value : Option String)
  /-- An option that there is not. -/
  | unknown

/-- Whether a text is a negative number. -/
def isNegativeNumber (s : List Char) : Bool :=
  match s with
  | '-' :: ds =>
    match Text.cut '.' ds with
    | (whole, none) => !whole.isEmpty && whole.all Text.isDecimal
    | (whole, some part) => whole.all Text.isDecimal && !part.isEmpty && part.all Text.isDecimal
  | _ => false

/-- The options among some with their spellings. -/
def spelled (known : List Flag) : List (Flag × String) :=
  known.flatMap fun f => f.spellings.map (f, ·)

/-- The text before the first equals sign and the text behind it. -/
def splitValue (s : String) : String × Option String :=
  let (a, b) := Text.cut '=' s.toList
  (String.ofList a, b.map String.ofList)

/-- The options that an argument may be short for.  Behind one dash a single letter may be
followed by more. -/
def expansions (known : List Flag) (text : String) : List Word :=
  match text.toList with
  | '-' :: '-' :: _ =>
    let (start, value) := splitValue text
    ((spelled known).filter fun p => start.toList.isPrefixOf p.2.toList).map fun (f, s) =>
      .flag f s value
  | s =>
    (spelled known).filterMap fun (f, spelling) =>
      if spelling.toList = s.take 2 then some (.flag f spelling (String.ofList (s.drop 2)))
      else if s.isPrefixOf spelling.toList then some (.flag f spelling none)
      else none

/-- The word for an argument, unless it is short for several options. -/
def word? (known : List Flag) (text : String) : Option Word :=
  let exact (s : String) := (spelled known).find? (·.2 == s)
  if text = "--" then some .separator
  else if text.toList.head? ≠ some '-' || text = "-" then some (.operand text)
  else match exact text with
    | some (f, s) => some (.flag f s none)
    | none =>
      let (start, value) := splitValue text
      match value, exact start, "--".isPrefixOf text with
      | some v, some (f, s), true => some (.flag f s (some v))
      | _, _, _ => match expansions known text with
        | [w] => some w
        | [] =>
          if isNegativeNumber text.toList || text.toList.contains ' ' then some (.operand text)
          else some .unknown
        | _ => none

/-- The words for arguments, unless one of them is short for several options. -/
def words? (known : List Flag) : List String → Option (List Word)
  | [] => some []
  | a :: rest =>
    match word? known a with
    | none => none
    | some .separator => some (.separator :: rest.map .operand)
    | some w => (words? known rest).map (w :: ·)

/-! ## Settings of a run -/

/-- The task of a run. -/
inductive Task where
  /-- Describes the union, on the output or in a directory. -/
  | describe (outputDir : Option String)
  /-- Decodes the object in a file. -/
  | decode (input : String)
  /-- Decodes the objects of an array in a file. -/
  | check (input : String)

/-- What a run is asked for. -/
structure Invocation where
  /-- The file of the schema. -/
  schema : String
  /-- Where in the schema the union stands. -/
  pointer : String
  /-- The name that the union is generated for. -/
  name : Option String
  /-- The file of settings. -/
  config : Option String
  /-- Whether only errors are shown. -/
  quiet : Bool
  /-- Whether decisions are reported. -/
  verbose : Bool
  /-- The task. -/
  task : Task

/-- What the arguments ask for. -/
inductive Request where
  /-- The arguments are wrong. -/
  | misuse
  /-- There is no command. -/
  | nothing
  /-- How the program is used. -/
  | help
  /-- The version. -/
  | version
  /-- A run. -/
  | run (i : Invocation)

/-- The options that were read, the schema, and whether something was left over. -/
structure Given where
  /-- The values of the options, the last one first. -/
  values : List (Flag × String) := []
  /-- The schema. -/
  schema : Option String := none
  /-- Whether an argument was left over. -/
  leftOver : Bool := false

/-- What the letters behind the letter for help ask for.  Each of them is a further option, and
help has been asked for already; only a value or a further dash is refused. -/
def readLetters : List Char → Request
  | [] => .help
  | '=' :: _ => .misuse
  | '-' :: _ => .misuse
  | 'h' :: rest => readLetters rest
  | _ => .help

/-- What an option without a value asks for when `v` is written behind it. -/
def joinedSwitch (spelling v : String) : Request :=
  if spelling = "-h" then readLetters v.toList else .misuse

/-- Reads the words behind a command.  `fresh` says whether the word before was the schema. -/
def readWords (fresh : Bool) (g : Given) : List Word → Except Request Given
  | [] => .ok g
  | .unknown :: rest => readWords false { g with leftOver := true } rest
  | .separator :: rest =>
    match g.schema, rest with
    | none, .operand s :: rest => readWords true { g with schema := some s } rest
    | _, rest => readWords false { g with leftOver := g.leftOver || !fresh } rest
  | .operand s :: rest =>
    match g.schema with
    | none => readWords true { g with schema := some s } rest
    | some _ => readWords false { g with leftOver := true } rest
  | .flag f spelling value :: rest =>
    match f.takesValue, value, rest with
    | true, some v, rest => readWords false { g with values := (f, v) :: g.values } rest
    | true, none, .operand v :: rest => readWords false { g with values := (f, v) :: g.values } rest
    | true, none, _ => .error .misuse
    | false, some v, _ => .error (joinedSwitch spelling v)
    | false, none, rest =>
      if f = .help then .error .help
      else readWords false { g with values := (f, "") :: g.values } rest

/-- The options of every command. -/
def commonFlags : List Flag := [.help, .pointer, .name, .config, .quiet, .verbose]

/-- The run that options ask for, if nothing is missing and nothing left over. -/
def invocation? (g : Given) (task : Option Task) : Option Invocation :=
  match g.schema, task, g.leftOver with
  | some schema, some task, false =>
    some
      { schema
        pointer := (g.values.lookup .pointer).getD ""
        name := g.values.lookup .name
        config := g.values.lookup .config
        quiet := (g.values.lookup .quiet).isSome
        verbose := (g.values.lookup .verbose).isSome
        task }
  | _, _, _ => none

/-- What a command asks for with the arguments behind it. -/
def readCommand (command : String) (leftOver : Bool) (args : List String) : Request :=
  let read (own : Flag) (task : Given → Option Task) : Request :=
    match words? (commonFlags ++ [own]) args with
    | none => .misuse
    | some ws => match readWords false { leftOver } ws with
      | .error r => r
      | .ok g => match invocation? g (task g) with
        | some i => .run i
        | none => .misuse
  match command with
  | "describe" => read .outputDir fun g => some (.describe (g.values.lookup .outputDir))
  | "decode" => read .input fun g => (g.values.lookup .input).map .decode
  | "check" => read .input fun g => (g.values.lookup .input).map .check
  | _ => .misuse

/-- Reads the words in front of the command together with the arguments that they stand for. -/
def readFront (leftOver : Bool) : List (Word × String) → Request
  | [] => if leftOver then .misuse else .nothing
  | (.unknown, _) :: rest => readFront true rest
  | (.separator, _) :: _ => .misuse
  | (.operand _, a) :: rest => readCommand a leftOver (rest.map Prod.snd)
  | (.flag f spelling value, _) :: _ =>
    match value with
    | some v => joinedSwitch spelling v
    | none => if f = .help then .help else .version

/-- What the arguments ask for. -/
def read (args : List String) : Request :=
  match words? [.help, .version] args with
  | none => .misuse
  | some ws => readFront false (ws.zip args)

end ShapeSum.CommandLine
