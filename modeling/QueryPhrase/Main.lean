import QueryPhrase.CommandLine.Run

/-!
# The program

Reads the arguments and the settings files there may be, runs the command and
carries out what it leaves behind.
-/

namespace QueryPhrase.CommandLine

/-- A tree with what is at a path: a file with its contents, or a directory. -/
def lookAt (tree : FileTree) (path : Text) : IO FileTree := do
  match ← (IO.FS.readBinFile (String.ofList path)).toBaseIO with
  | .ok contents => return tree.addFile path contents.toList
  | .error _ =>
    match ← (IO.FS.realPath (String.ofList path)).toBaseIO with
    | .ok _ => return tree.addDirectory path
    | .error _ => return tree

/-- The place the program is run in, with every settings file that may count. -/
def placeHere : IO Place := do
  let directory := (← IO.currentDir).toString.toList
  let home := ((← IO.getEnv "HOME").getD "/").toList
  let paths := Discovery.places directory ++ [Discovery.globalPath home]
  return {
    tree := ← paths.foldlM lookAt FileTree.empty
    home := home
    directory := directory }

/-- Carries out what a command leaves behind. -/
def carryOut (outcome : Outcome) : IO UInt32 := do
  match outcome.file with
  | some (path, contents) =>
    IO.FS.writeFile (String.ofList path) (String.ofList contents)
  | none => pure ()
  IO.print (String.ofList outcome.output)
  IO.eprint (String.ofList outcome.complaint)
  return UInt32.ofNat outcome.code

/-- Says why arguments are not carried out. -/
def explain (problem : ArgumentError) : IO UInt32 := do
  let line := String.ofList (problem.message ++ ['\n'])
  if problem.exitCode = 0 then IO.print line else IO.eprint line
  return UInt32.ofNat problem.exitCode

end QueryPhrase.CommandLine

open QueryPhrase.CommandLine in
def main (arguments : List String) : IO UInt32 := do
  match read (arguments.map String.toList) with
  | .ok invocation => carryOut (run (← placeHere) invocation.command)
  | .error problem => explain problem
