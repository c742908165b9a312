import PathAccess.Permission.Attributes
import PathAccess.Privileges.Resolve

/-!
# Making permissions

Permissions are made from a text (`parse`), from their parts (`make`, `construct`) or from another permission with
one part replaced.  Every way checks the parts, so what is made is well formed: the path is not empty, every
constrained key has a value, and at least one privilege is held.

The colon that sets off the privileges is the last one of the text, and the question mark that sets off the
constraints is the first one before it.  Of several faults in a text the privileges' come first, then those of the
constraints, then an empty path.
-/

namespace PathAccess.Permission

/-- The path in an argument of any shape. -/
def checkPath : Item → Except Fault String
  | .text path => if path.isEmpty then .error (.malformed .emptyPath) else .ok path
  | _ => .error (.malformed .pathKind)

/-- Makes a permission from its parts. -/
def make (path : String) (attributes : Option Attributes) (privileges : Privileges) :
    Except Fault Permission := do
  let path ← checkPath (.text path)
  let attributes ← match attributes with
    | some m => m.check
    | none => .ok none
  if privileges.mask = 0 then .error (.malformed .noPrivilege)
  else .ok ⟨path, attributes, privileges⟩

/-- Makes a permission from parts of any shape, reading privileges under the active scheme. -/
def construct (path attributes privileges : Item) : Ambient Permission := do
  let path ← Ambient.ofExcept (checkPath path)
  let attributes ← Ambient.ofExcept (Attributes.ofItem attributes)
  match privileges with
  | .object (.privileges s) =>
    if s.mask = 0 then throw (.malformed .noPrivilege) else pure ⟨path, attributes, s⟩
  | value => return ⟨path, attributes, ← Privileges.resolve value none⟩

/-- The path and the constraints of the part of a text before its privileges. -/
def readTarget (target : String) : Except Fault (String × Option Attributes) :=
  match Text.cutFirst '?' target with
  | some (path, query) => (Attributes.parse query).map fun m => (path, some m)
  | none => .ok (target, none)

/-- Reads a permission under a scheme. -/
def parseText (c : Scheme) (text : String) : Except Fault Permission :=
  match Text.cutLast ':' text with
  | none => .error (.malformed .noDelimiter)
  | some (target, privileges) => do
    let privileges ← c.readTexts [privileges]
    let (path, attributes) ← readTarget target
    make path attributes privileges

/-- Reads a permission from an argument that should be a text, under an explicit or the active scheme. -/
def parse (value : Item) (explicit : Option Scheme) : Ambient Permission :=
  match value with
  | .text text => do
    let c ← Ambient.choose explicit
    Ambient.ofExcept (parseText c text)
  | _ => throw (.malformed .notText)

/-- Takes a permission as it is and reads anything else. -/
def coerce (value : Item) (explicit : Option Scheme) : Ambient Permission :=
  match value with
  | .object (.permission p) => pure p
  | value => parse value explicit

/-- The same permission, made anew. -/
def clone (p : Permission) : Except Fault Permission := make p.path p.attributes p.privileges

/-- The permission with another path. -/
def withPath (p : Permission) (path : Item) : Except Fault Permission := do
  make (← checkPath path) p.attributes p.privileges

/-- The permission with other constraints. -/
def withAttributes (p : Permission) (attributes : Item) : Except Fault Permission := do
  make p.path (← Attributes.ofItem attributes) p.privileges

/-- The permission with other privileges, read under its own scheme. -/
def withPrivileges (p : Permission) (privileges : Item) : Except Fault Permission := do
  make p.path p.attributes (← p.scheme.readPrivileges privileges)

/-- A permission of the same content, read from a text or copied. -/
def ofItem (value : Item) : Ambient Permission :=
  match value with
  | .object (.permission p) => Ambient.ofExcept p.clone
  | value => parse value none

end PathAccess.Permission
