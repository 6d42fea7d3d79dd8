import QueryPhrase.Path
import QueryPhrase.Text.Utf8

/-!
# File trees

Files with their contents and directories, found by absolute paths. A path is
followed piece by piece from the root, and only a directory can be followed
further: a dot stays there, two dots lead to the directory above, and a slash
behind a file leads nowhere.
-/

namespace QueryPhrase

/-- A place in a file tree: the names on the way there from the root. -/
abbrev Location := List Text

/-- Where a piece of a path leads. -/
def Location.follow (here : Location) (piece : Text) : Location :=
  if piece = [] || piece = ['.'] then here
  else if piece = ['.', '.'] then here.dropLast
  else here ++ [piece]

/-- A place as an absolute path. -/
def Location.path (here : Location) : Text := '/' :: Text.joined ['/'] here

/-- Files and directories. The root is always a directory. -/
structure FileTree where
  /-- The files: their places and contents. Of two at one place the first counts. -/
  files : List (Location × List UInt8)
  directories : List Location
deriving Repr

namespace FileTree

/-- The tree with nothing but the root. -/
def empty : FileTree := ⟨[], []⟩

/-! ## Finding -/

/-- Whether there is a directory at a place. -/
def hasDirectory (tree : FileTree) (here : Location) : Bool :=
  here.isEmpty || tree.directories.contains here

/-- Where the pieces of a path lead from a place. -/
def walk? (tree : FileTree) (here : Location) : List Text → Option Location
  | [] => some here
  | piece :: rest =>
    if tree.hasDirectory here then tree.walk? (here.follow piece) rest
    else none

/-- Where a path leads, if everything on the way is there. -/
def location? (tree : FileTree) : Text → Option Location
  | '/' :: rest => tree.walk? [] (Text.splitAt '/' rest)
  | _ => none

/-- The contents of the file at a path. -/
def contents? (tree : FileTree) (path : Text) : Option (List UInt8) :=
  (tree.location? path).bind (List.lookup · tree.files)

/-- Whether there is a file at a path. -/
def isFile (tree : FileTree) (path : Text) : Bool := (tree.contents? path).isSome

/-- Whether there is a directory at a path. -/
def isDirectory (tree : FileTree) (path : Text) : Bool :=
  (tree.location? path).any tree.hasDirectory

/-- Whether there is anything at a path. -/
def has (tree : FileTree) (path : Text) : Bool :=
  tree.isFile path || tree.isDirectory path

/-- The text of the file at a path, if there is one and it is text. -/
def text? (tree : FileTree) (path : Text) : Option Text :=
  (tree.contents? path).bind Utf8.read?

/-- The shortest path of the directory at a path. -/
def canonical? (tree : FileTree) (path : Text) : Option Text :=
  ((tree.location? path).filter tree.hasDirectory).map Location.path

/-! ## Building -/

/-- A tree with directories along the pieces of a path from a place, and where they
lead. -/
def makeWay (tree : FileTree) (here : Location) :
    List Text → FileTree × Location
  | [] => (tree, here)
  | piece :: rest =>
    let there := here.follow piece
    makeWay { tree with directories := tree.directories.insert there } there rest

/-- A tree with a directory at a path, and those on the way there. -/
def addDirectory (tree : FileTree) : Text → FileTree
  | '/' :: rest => (tree.makeWay [] (Text.splitAt '/' rest)).1
  | _ => tree

/-- A tree with a file at a path, and the directories on the way there. -/
def addFile (tree : FileTree) (path : Text) (contents : List UInt8) : FileTree :=
  match path with
  | '/' :: rest =>
    let pieces := Text.splitAt '/' rest
    let (tree, here) := tree.makeWay [] pieces.dropLast
    let place := here.follow (pieces.getLastD [])
    { tree with files := (place, contents) :: tree.files }
  | _ => tree

end FileTree

end QueryPhrase
