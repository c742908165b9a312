import PathAccess.Text.Pieces

/-!
# Files by name

The files below a directory, and what a path leads to from there.  A path is a sequence of names between slashes, in
which empty names and single dots do not count and two dots lead one directory up.  Of what lies above the directory,
only its parent is known.
-/

namespace PathAccess

/-- Files below a directory, with the names on the way to each. -/
structure FileTree where
  files : List (List String × List UInt8)

namespace FileTree

/-- What a path leads to. -/
inductive Target where
  | file (bytes : List UInt8)
  | directory
  | nothing
  deriving DecidableEq

/-- The names of a path. -/
def names (path : String) : List String := (Text.split '/' path).filter fun n => n ≠ "" && n ≠ "."

def isAbsolute (path : String) : Bool := path.toList.head? = some '/'

/-- The path in its shortest spelling. -/
def normalized (path : String) : String :=
  match names path with
  | [] => if isAbsolute path then "/" else "."
  | ns => (if isAbsolute path then "/" else "") ++ Text.join "/" ns

/-- The files with their names given as paths. -/
def ofList (files : List (String × List UInt8)) : FileTree := ⟨files.map fun f => (names f.1, f.2)⟩

/-- What the names lead to from a directory, given by the names on the way to it. -/
def follow (t : FileTree) : List String → List String → Target
  | place, [] =>
    match t.files.reverse.find? (·.1 = place) with
    | some f => .file f.2
    | none => if place.isEmpty || t.files.any (fun f => place.isPrefixOf f.1) then .directory else .nothing
  | place, name :: rest =>
    if name = ".." then
      if place.isEmpty then (if rest.isEmpty then .directory else .nothing) else t.follow place.dropLast rest
    else
      let next := place ++ [name]
      if rest.isEmpty || t.files.any (fun f => next.isPrefixOf f.1 && next ≠ f.1) then t.follow next rest
      else .nothing

/-- What a path from the directory of the tree leads to. -/
def find (t : FileTree) (path : String) : Target :=
  if isAbsolute path then (if (names path).isEmpty then .directory else .nothing) else t.follow [] (names path)

end FileTree

end PathAccess
