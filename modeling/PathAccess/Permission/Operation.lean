import PathAccess.Permission.Decision

/-!
# Operations of a permission

All that can be asked of a permission, and what it gives: the answer to a question, another permission, the written
form, or the parts.  Another permission goes through the constructor, which is given the parts as they are, and what
names privileges is read under the scheme of the permission.
-/

namespace PathAccess.Permission

/-- An operation of a permission with its arguments. -/
inductive Operation where
  | allows (requests : List Item)
  | mayGrant (value rivals : Item)
  | mayRevoke (value rivals : Item)
  | matchTarget (other : Item)
  | hasNamed (privileges : Item)
  | withPath (path : Item)
  | withAttributes (attributes : Item)
  | withPrivileges (privileges : Item)
  | clone
  | text
  | parts

/-- The parts of a permission as a map. -/
def toItem (p : Permission) : Item :=
  let attributes : Item := match p.attributes with
    | some m => .map (m.entries.map fun e => (.text e.1, .list (e.2.map .text)))
    | none => .null
  .map [(.text "path", .text p.path), (.text "attributes", attributes),
    (.text "privileges", .list (p.privileges.labels.map .text))]

/-- The constructor on parts that were read before. -/
def reconstruct (path : String) (attributes : Option Attributes) (privileges : Privileges) : Ambient Permission :=
  construct (.text path) (Attributes.toItem attributes) (Item.ofPrivileges privileges)

/-- What an operation gives. -/
def perform (p : Permission) : Operation → Ambient Item
  | .allows requests => return .bool (← p.allows requests)
  | .mayGrant value rivals => return .bool (← p.mayGrant value rivals)
  | .mayRevoke value rivals => return .bool (← p.mayRevoke value rivals)
  | .matchTarget other => return .bool (← p.matchTarget other)
  | .hasNamed privileges => do
    let named ← Privileges.resolve privileges (some p.scheme)
    return .bool (p.privileges.has named.mask)
  | .withPath path => do
    let path ← Ambient.ofExcept (checkPath path)
    return Item.ofPermission (← reconstruct path p.attributes p.privileges)
  | .withAttributes attributes => do
    let attributes ← Ambient.ofExcept (Attributes.ofItem attributes)
    return Item.ofPermission (← reconstruct p.path attributes p.privileges)
  | .withPrivileges privileges => do
    let privileges ← Privileges.resolve privileges (some p.scheme)
    return Item.ofPermission (← reconstruct p.path p.attributes privileges)
  | .clone => return Item.ofPermission (← reconstruct p.path p.attributes p.privileges)
  | .text => return .text p.text
  | .parts => return p.toItem

end PathAccess.Permission
