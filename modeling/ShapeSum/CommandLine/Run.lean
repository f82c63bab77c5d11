import ShapeSum.CommandLine.Arguments
import ShapeSum.CommandLine.Text
import ShapeSum.Decode.Trace
import ShapeSum.Files.Path
import ShapeSum.Generation.Document
import ShapeSum.Json.Writer

/-!
# Runs

A run reads the settings and the schema, generates the union and carries out its
task.  It ends with code 0 when all went well, with 1 when an object was not
matched, and with 2 when something could not be read or generated; some failures
break it off.  What it reads from is a parameter, and what it writes is part of its
result, so a run is a function.
-/

namespace ShapeSum.CommandLine

/-- Why a run is broken off. -/
inductive Break where
  /-- The generation fails otherwise than by a fault of the schema. -/
  | generation (f : Failure)
  /-- The settings are JSON of another kind than an object. -/
  | settings (kind : String)
  /-- A path holds a character that no path may hold. -/
  | badPath
  /-- The directory for the description cannot be made. -/
  | outputTaken
  /-- The directory for the description leads through a file. -/
  | outputThroughFile
  /-- The description cannot be written in place of a directory. -/
  | outputDirectory
  /-- The decoding of an object comes upon a model that was never completed. -/
  | undefined (typeName : String)

/-- How a run ends. -/
inductive Ending where
  /-- With a code. -/
  | exit (code : Nat)
  /-- By a failure. -/
  | broken (b : Break)

/-- What a run does. -/
structure Run where
  /-- How it ends. -/
  ending : Ending
  /-- The text on the output. -/
  out : String := ""
  /-- The text on the error output. -/
  err : String := ""
  /-- The file that is written: its directory, its path and its text. -/
  written : Option (String × String × String) := none
  /-- The paths that were read. -/
  consulted : List String := []

/-- Lines as a text. -/
def text (lines : List String) : String := String.join (lines.map (· ++ "\n"))

/-- How the program is used. -/
def usage : String :=
  "usage: schemaunion [-h] [--version] \x7bdescribe,decode,check\x7d ...\n"

/-- The version. -/
def version : String := "schemaunion 1.0.0"

/-! ## Reading settings -/

/-- What stands in the way of a run: a message, or a failure that breaks it off. -/
inductive Obstacle where
  /-- A message. -/
  | message (s : String)
  /-- A failure. -/
  | break_ (b : Break)

/-- The settings in a file, or the defaults if no file is given. -/
def readConfig (files : Files) (path : Option String) : Except Obstacle Config :=
  match path with
  | none => .ok {}
  | some path => match files.read path with
    | .error f => .error (.message f.message)
    | .ok s => match Config.ofText s with
      | .ok c => .ok c
      | .error (.json m) => .error (.message m)
      | .error (.issues is) => .error (.message (issuesText is))
      | .error (.kind k) => .error (.break_ (.settings k))

/-! ## Generating the union -/

/-- The wording for a tag that the enumeration of tags keeps for itself.  One of these names is a
setting of the enumeration, which takes no variant for its value and breaks down over it. -/
def reservedTagMessage? (tag : String) : Option String :=
  if tag = "mro" then some s!"invalid enum member name(s) {Text.quoted tag}"
  else if tag = "_order_" then none
  else some s!"_sunder_ names, such as {Text.quoted tag}, are reserved for future Enum use"

/-- The message about a failure of the generation, if the failure is one that a run reports. -/
def failureMessage? : Failure → Option String
  | .generation e => some e.message
  | .uri f => some f.message
  | .invalidTag tag => some (tagIssueText tag)
  | .reservedTag tag => reservedTagMessage? tag
  | _ => none

/-- What a failure of the generation means for a run. -/
def obstacleOf (f : Failure) : Obstacle :=
  match failureMessage? f with
  | some m => .message m
  | none => .break_ (.generation f)

/-- The path of a file that a URI names. -/
def filePath? (uri : String) : Option String :=
  match Uri.split uri.toList with
  | .ok p => if p.scheme = "file".toList then some (String.ofList (Uri.unescape p.path)) else none
  | .error _ => none

/-- The union of a schema under a URI, and the state that its generation leaves. -/
def generateFrom (files : Files) (uri : String) (root : Json) (config : Config) (i : Invocation) :
    Except Obstacle UnionType × Generation :=
  let start : Generation := { store := (Store.empty (fileLoader files)).add uri root }
  let (r, gen) := (unionAt config uri i.pointer i.name).run start
  (match r with
    | .error f => .error (obstacleOf f)
    | .ok id => match gen.types.union? id with
      | some u => .ok u
      | none => .error (.break_ (.generation .noType)), gen)

/-! ## Tasks -/

/-- What the rest of a run starts from. -/
structure Setting where
  /-- A way to look up paths. -/
  files : Files
  /-- The union. -/
  union : UnionType
  /-- The generated types. -/
  types : Types
  /-- Whether only errors are shown. -/
  quiet : Bool
  /-- Whether decisions are reported. -/
  verbose : Bool

/-- Lines that are shown unless only errors are. -/
def Setting.shown (s : Setting) (lines : List String) : String :=
  if s.quiet then "" else text lines

/-- The lines of events, if they are reported. -/
def Setting.logged (s : Setting) (events : List Event) : String :=
  if s.verbose then text (events.map Event.line) else ""

/-- Why no file can be written under a path in a directory, which is made if there is none. -/
def outputFault? (files : Files) (dir path : String) : Option Break :=
  if dir.toList.contains '\x00' then some .badPath
  else match files dir, files path with
    | .text _, _ => some .outputTaken
    | .throughFile, _ => some .outputThroughFile
    | _, .directory => some .outputDirectory
    | _, _ => none

/-- Describes the union. -/
def describe (s : Setting) (outputDir : Option String) : Run :=
  match outputDir with
  | none => { ending := .exit 0, out := s.shown (unionLines s.union) }
  | some dir =>
    let dir := Path.tidy dir
    let path := Path.inside dir "union.json"
    match outputFault? s.files dir path with
    | some b => { ending := .broken b }
    | none =>
      { ending := .exit 0
        out := s.shown ["[OK] Union described", s!"  Report: {path}"]
        written := some (dir, path, s.union.describe.compact ++ "\n") }

/-- The data in a file, or the run that ends for want of it. -/
def readInput (s : Setting) (path : String) : Except Run Json :=
  match s.files.readJson path with
  | .ok j => .ok j
  | .error (.file .badPath) => .error { ending := .broken .badPath }
  | .error f =>
    .error { ending := .exit 2, err := text [s!"Error: cannot read input {path}: {f.message}"] }

/-- Decodes an object. -/
def decode (s : Setting) (data : Json) : Run :=
  match data with
  | .obj members =>
    match reportOn s.types s.union (.obj members) with
    | .error typeName => { ending := .broken (.undefined typeName) }
    | .ok report =>
      { ending := .exit (if report.ok then 0 else 1)
        out := s.shown [report.toJson.pretty 2]
        err := s.logged (dispatchTrace s.types s.union (Value.ofMembers members)) }
  | _ => { ending := .exit 2, err := text ["Error: decode input must be a JSON object"] }

/-- The events of decoding the objects among some items. -/
def itemEvents (s : Setting) (items : List Json) : List Event :=
  items.flatMap fun
    | .obj members => dispatchTrace s.types s.union (Value.ofMembers members)
    | _ => []

/-- Decodes the objects of an array. -/
def checkAll (s : Setting) (data : Json) : Run :=
  match data with
  | .arr items =>
    match checkEach s.types s.union items with
    | .error typeName => { ending := .broken (.undefined typeName) }
    | .ok summary =>
      { ending := .exit (if summary.ok then 0 else 1)
        out := s.shown (summaryLines summary)
        err := s.logged (itemEvents s items) }
  | _ => { ending := .exit 2, err := text ["Error: check input must be a JSON array"] }

/-- Carries out a task. -/
def perform (s : Setting) : Task → Run
  | .describe outputDir => describe s outputDir
  | .decode input => match readInput s (Path.tidy input) with
    | .ok data => decode s data
    | .error r => r
  | .check input => match readInput s (Path.tidy input) with
    | .ok data => checkAll s data
    | .error r => r

/-- The paths that a task reads or writes. -/
def Task.paths : Task → List String
  | .describe none => []
  | .describe (some dir) => [Path.tidy dir, Path.inside (Path.tidy dir) "union.json"]
  | .decode input => [Path.tidy input]
  | .check input => [Path.tidy input]

/-- The run that an obstacle ends. -/
def stopped (o : Obstacle) : Run :=
  match o with
  | .message m => { ending := .exit 2, err := text ["Error: " ++ m] }
  | .break_ b => { ending := .broken b }

/-- Carries out an invocation on a schema that was read from a path. -/
def invokeOn (files : Files) (schema : String) (root : Json) (config : Config) (i : Invocation) :
    Run :=
  let (r, gen) := generateFrom files (Path.toUri schema) root config i
  let r := match r with
    | .error o => stopped o
    | .ok u => perform ⟨files, u, gen.types, i.quiet, i.verbose⟩ i.task
  { r with
    err := (if i.verbose then text (gen.log.map Event.line) else "") ++ r.err
    consulted := gen.store.asked.filterMap filePath? }

/-- Carries out an invocation in a directory. -/
def invoke (files : Files) (directory : String) (i : Invocation) : Run :=
  let config := i.config.map Path.tidy
  let schema := Path.resolve directory i.schema
  let r := match readConfig files config, files.readJson schema with
    | .error o, _ => stopped o
    | .ok _, .error f => stopped (.message f.message)
    | .ok c, .ok root => invokeOn files schema root c i
  { r with consulted := config.toList ++ schema :: i.task.paths ++ r.consulted }

/-- What the program does with arguments in a directory. -/
def run (files : Files) (directory : String) (args : List String) : Run :=
  match read args with
  | .misuse => { ending := .exit 2, err := usage }
  | .nothing => { ending := .exit 1, out := usage }
  | .help => { ending := .exit 0, out := usage }
  | .version => { ending := .exit 0, out := text [version] }
  | .run i => invoke files directory i

end ShapeSum.CommandLine
