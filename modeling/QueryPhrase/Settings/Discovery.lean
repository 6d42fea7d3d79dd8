import QueryPhrase.FileTree
import QueryPhrase.Settings.Merge

/-!
# Finding settings

Settings files lie in the working directory and the directories above it, and one
in the home directory counts last. A file that says so is the last one that counts.
-/

namespace QueryPhrase

/-- The name of settings files. -/
def settingsFileName : Text := ".sift.toml"

namespace Discovery

/-- The settings file of the home directory. -/
def globalPath (home : Text) : Text := Path.join home settingsFileName

/-- Whether a path is that of the settings file of the home directory. -/
def isGlobal (home path : Text) : Bool := Path.same path (globalPath home)

/-- Whether the file at a path says that files further up do not count. -/
def isRoot (tree : FileTree) (path : Text) : Bool :=
  match (tree.text? path).bind Layer.read? with
  | some layer => layer.root == some true
  | none => false

/-- The files among some paths, up to the first that is the last one to count, and
whether there is such a file. -/
def upToRoot (tree : FileTree) : List Text → List Text × Bool
  | [] => ([], false)
  | path :: rest =>
    if !tree.isFile path then upToRoot tree rest
    else if isRoot tree path then ([path], true)
    else
      let (paths, stopped) := upToRoot tree rest
      (path :: paths, stopped)

/-- Where settings files may lie for a working directory, from there upwards. -/
def places (directory : Text) : List Text :=
  (Path.ancestors directory).map (Path.join · settingsFileName)

/-- The settings files that count in a working directory, the one that decides
first in front. -/
def find (tree : FileTree) (home directory : Text) : List Text :=
  let (paths, stopped) := upToRoot tree (places directory)
  let path := globalPath home
  if stopped || !tree.isFile path || paths.any (Path.same path) then paths
  else paths ++ [path]

/-- Where a fresh settings file goes: into the home directory if that is asked for
or is the working directory. -/
def initPath (home directory : Text) (wantsGlobal : Bool) : Text :=
  let path := globalPath home
  if wantsGlobal || (Path.parent? path).any (Path.same directory) then path
  else Path.join directory settingsFileName

end Discovery

/-- Why settings could not be loaded. -/
inductive LoadError
  /-- There is no text at a path. -/
  | unreadable (path : Text)
  /-- The text at a path says nothing that can be understood. -/
  | malformed (path : Text)
deriving DecidableEq, Repr

def Layer.load (tree : FileTree) (path : Text) : Except LoadError Layer :=
  match tree.text? path with
  | none => .error (.unreadable path)
  | some text =>
    match Layer.read? text with
    | none => .error (.malformed path)
    | some layer => .ok layer

namespace Configuration

/-- Loads the given files, the one that decides first in front. -/
def ofPaths (tree : FileTree) (paths : List Text) :
    Except LoadError Configuration := do
  let files ← paths.mapM fun path => return (path, ← Layer.load tree path)
  return ofFiles files

/-- Loads what counts in a working directory. -/
def load (tree : FileTree) (home directory : Text) :
    Except LoadError Configuration :=
  ofPaths tree (Discovery.find tree home directory)

end Configuration

end QueryPhrase
