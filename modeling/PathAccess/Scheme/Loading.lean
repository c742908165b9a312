import PathAccess.FileTree
import PathAccess.Scheme.Document
import PathAccess.Yaml.Assembly

/-!
# Schemes in YAML

A scheme declared in a YAML text or file.  A document that holds nothing, or a value that counts as absent, declares
the standard scheme.
-/

namespace PathAccess.Scheme

/-- What trouble with a text means for the scheme in it. -/
def faultOf (trouble : Yaml.Trouble) (fromFile : Bool) (origin : Option String) : Fault :=
  match trouble with
  | .unreadable => .scheme (.unreadable fromFile) origin
  | .invalidNumber => .notANumber
  | .overflow => .overflow
  | .emptyNumber => .indexOutOfRange
  | .unknownWord => .missingKey
  | .notAMoment => .noSuchOperation
  | .momentWithoutText => .wrongType
  | .bottomless => .bottomless

/-- The scheme that the value of a document describes. -/
def ofContent (content : Item) (origin : Option String) : Except Fault Scheme :=
  ofItem (if content.isTrue then content else .map []) origin

/-- The scheme that a YAML text describes. -/
def ofYaml (text : String) (fromFile : Bool) (origin : Option String) : Except Fault Scheme :=
  match Yaml.load text with
  | .ok content => ofContent content origin
  | .error trouble => .error (faultOf trouble fromFile origin)

/-- The scheme that the file at a path describes, given what paths lead to. -/
def ofFile (find : String → FileTree.Target) (path : String) : Except Fault Scheme :=
  let name := FileTree.normalized path
  match find path with
  | .nothing => .error (.noSuchFile name)
  | .directory => .error .isDirectory
  | .file bytes =>
    match String.fromUTF8? ⟨bytes.toArray⟩ with
    | some text => ofYaml text true (some name)
    | none => .error .undecodable

end PathAccess.Scheme
