import QueryPhrase.Text

/-!
# Paths

Paths of files as texts. What a path means is its components: repeated and
trailing slashes do not count, nor does a dot anywhere but at the front. Where a
part of a path is asked for, the answer is that part of the text.
-/

namespace QueryPhrase.Path

/-- One step of a path. -/
inductive Component
  | root
  /-- The directory itself, at the front of a relative path. -/
  | here
  | up
  /-- A file or directory by its name. -/
  | name (text : Text)
deriving DecidableEq, Repr

def Component.text : Component → Text
  | root => "/"
  | here => "."
  | up => ".."
  | name text => text

/-- A component and where it stands in its path. -/
structure Place where
  component : Component
  start : Nat
  stop : Nat
deriving DecidableEq, Repr

/-- The component of a piece between slashes, if it counts. -/
def componentOf? (first : Bool) (piece : Text) : Option Component :=
  if piece = [] then none
  else if piece = ['.'] then if first then some .here else none
  else if piece = ['.', '.'] then some .up
  else some (.name piece)

/-- The components of pieces between slashes, from an offset on. -/
def placesFrom (first : Bool) (offset : Nat) : List Text → List Place
  | [] => []
  | piece :: rest =>
    ((componentOf? first piece).map fun component =>
      (⟨component, offset, offset + piece.length⟩ : Place)).toList ++
      placesFrom false (offset + piece.length + 1) rest

/-- The components of a path with their places. -/
def places (path : Text) : List Place :=
  match path with
  | '/' :: rest => ⟨.root, 0, 1⟩ :: placesFrom false 1 (Text.splitAt '/' rest)
  | _ => placesFrom true 0 (Text.splitAt '/' path)

/-- The components of a path. -/
def components (path : Text) : List Component :=
  (places path).map Place.component

/-- Whether two paths have the same components. -/
def same (a b : Text) : Bool := components a == components b

/-- Whether a path starts at the root. -/
def isAbsolute (path : Text) : Bool := path.head? == some '/'

/-- A path and the directories above it, from the path upwards. A relative path
ends in the empty one. -/
def ancestors (path : Text) : List Text :=
  path :: ((places path).dropLast.reverse.map fun place => path.take place.stop) ++
    (if (places path).isEmpty || isAbsolute path then [] else [[]])

/-- The directory above a path. -/
def parent? (path : Text) : Option Text := (ancestors path)[1]?

/-- A path inside a directory. -/
def join (directory path : Text) : Text :=
  if isAbsolute path then path
  else if directory.isEmpty || directory.getLast? = some '/' then
    directory ++ path
  else directory ++ '/' :: path

/-- The path that some components make up. -/
def ofComponents (parts : List Component) : Text :=
  (parts.map Component.text).foldl join []

/-- The part of a path below a directory, if it lies there. -/
def below? (directory path : Text) : Option Text :=
  let above := components directory
  if above.isPrefixOf (components path) then
    let rest := (places path).drop above.length
    match rest.head?, rest.getLast? with
    | some first, some last =>
      some ((path.take last.stop).drop first.start)
    | _, _ => some []
  else none

/-! ## Relative paths -/

/-- The way from the directory `base` to `path`, the ways they share behind them:
up as often as there are components left of `base`, and then along `path`. A dot at
the front of `base` is no step up; the part of `path` across from it comes first.
There is none if the way up is not known. -/
def wayBeyond? : List Component → List Component → Option (List Component)
  | path, [] => some path
  | [], base => some (base.map fun _ => .up)
  | part :: path, .here :: base => (wayBeyond? path base).map (part :: ·)
  | _, .up :: _ => none
  | path, base => some (base.map (fun _ => .up) ++ path)

/-- The way from the directory `base` to `path`. -/
def way? : List Component → List Component → Option (List Component)
  | part :: path, other :: base =>
    if part = other then way? path base
    else wayBeyond? (part :: path) (other :: base)
  | path, base => wayBeyond? path base

/-- A path as seen from a directory. An absolute path is the same from everywhere
that has no place of its own. -/
def relativeTo? (base path : Text) : Option Text :=
  if isAbsolute path != isAbsolute base then
    if isAbsolute path then some path else none
  else (way? (components path) (components base)).map ofComponents

/-- A path for people to read: as seen from `base` unless that leads upwards, else
from the home directory, where a tilde stands for it, if it lies there. -/
def display (home : Text) (base : Option Text) (path : Text) : Text :=
  let relative := base.bind fun base => relativeTo? base path
  let inside := relative.filter fun text => (components text).head? != some .up
  match inside, below? home path with
  | some text, _ => text
  | none, some rest => join "~" rest
  | none, none => relative.getD path

end QueryPhrase.Path
