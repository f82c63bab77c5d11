import ShapeSum.CommandLine.Run

/-!
# The program

Looks up the paths that a run consults, one after the other, until the run needs
no other; then does what the run says.
-/

namespace ShapeSum.CommandLine

/-- What is found under a path on the disk. -/
def lookUp (path : String) : IO FileContent := do
  try
    return .text (← IO.FS.readFile path)
  catch
    | .noFileOrDirectory _ _ _ => return .missing
    | .inappropriateType _ code _ => return if code = 21 then .directory else .throughFile
    | e => throw e

/-- Runs the program on what is known of the disk, and learns what it consults. -/
partial def learn (known : Entries FileContent) (directory : String) (args : List String) :
    IO Run := do
  let r := run (fun path => (known.get? path).getD .missing) directory args
  match r.consulted.find? (!known.has ·) with
  | none => return r
  | some path => learn (known.set path (← lookUp path)) directory args

/-- Writes what a run writes and answers its code. -/
def finish (r : Run) : IO UInt32 := do
  if let some (dir, path, content) := r.written then
    IO.FS.createDirAll dir
    IO.FS.writeFile path content
  (← IO.getStdout).putStr r.out
  (← IO.getStderr).putStr r.err
  match r.ending with
  | .exit code => return code.toUInt32
  | .broken _ => return 1

end ShapeSum.CommandLine

open ShapeSum.CommandLine in
/-- The program. -/
def main (args : List String) : IO UInt32 := do
  finish (← learn [] (← IO.currentDir).toString args)
