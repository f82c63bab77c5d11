import ShapeSum.Json.Reader

/-!
# Reading files

What is found under a path is a file with its text, a directory, or nothing.  The
text of a file is read with the line ends of any system as line feeds; a file of
settings is read as it is.
-/

namespace ShapeSum

/-- What is found under a path. -/
inductive FileContent where
  /-- A file with its text. -/
  | text (s : String)
  /-- A directory. -/
  | directory
  /-- Nothing. -/
  | missing
  /-- Nothing, since the path leads through a file. -/
  | throughFile

/-- Why there is no text to read. -/
inductive FileFault where
  /-- There is no such file. -/
  | missing (path : String)
  /-- The path names a directory. -/
  | directory (path : String)
  /-- The path leads through a file. -/
  | throughFile (path : String)
  /-- The path holds a character that no path may hold. -/
  | badPath

/-- The wording of a fault. -/
def FileFault.message : FileFault → String
  | .missing path => s!"[Errno 2] No such file or directory: {Text.quoted path}"
  | .directory path => s!"[Errno 21] Is a directory: {Text.quoted path}"
  | .throughFile path => s!"[Errno 20] Not a directory: {Text.quoted path}"
  | .badPath => "embedded null byte"

/-- A way to look up paths. -/
abbrev Files := String → FileContent

/-- The text of a file. -/
def Files.read (files : Files) (path : String) : Except FileFault String :=
  if path.toList.contains '\x00' then .error .badPath
  else match files path with
    | .text s => .ok s
    | .directory => .error (.directory path)
    | .missing => .error (.missing path)
    | .throughFile => .error (.throughFile path)

/-- Line ends of any system as line feeds. -/
def unifyLineEnds : List Char → List Char
  | '\r' :: '\n' :: rest => '\n' :: unifyLineEnds rest
  | '\r' :: rest => '\n' :: unifyLineEnds rest
  | c :: rest => c :: unifyLineEnds rest
  | [] => []

/-- Why no JSON value is read from a file. -/
inductive JsonFileFault where
  /-- There is no text. -/
  | file (f : FileFault)
  /-- The text is no JSON. -/
  | json (message : String)

/-- The wording of a fault. -/
def JsonFileFault.message : JsonFileFault → String
  | .file f => f.message
  | .json m => m

/-- The JSON value in a file. -/
def Files.readJson (files : Files) (path : String) : Except JsonFileFault Json :=
  match files.read path with
  | .error f => .error (.file f)
  | .ok s => match Json.parse (String.ofList (unifyLineEnds s.toList)) with
    | .error m => .error (.json m)
    | .ok j => .ok j

end ShapeSum
