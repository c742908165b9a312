import PathAccess.Permission.Construct
import PathAccess.Glob.Match

/-!
# Decisions of a single permission

Whether a permission that somebody holds covers what is requested (`allows`), and whether its holder may hand out a
permission to somebody else or take it away (`mayDelegate`).  Handing out and taking away follow one rule: the holder
has privileges that enable it, the permission lies within the holder's path and constraints, and both its privileges
and the grant-enabling privileges that the other side already has over the same resource are among those that the
holder may hand out.

Texts among the arguments are read under the scheme of the permission.
-/

namespace PathAccess.Permission

/-- Whether path and constraints of `other` are covered. -/
def coversTarget (held other : Permission) : Bool :=
  Glob.overlap held.path other.path && Attributes.cover held.attributes other.attributes

/-- Whether path, constraints and privileges of `other` are covered. -/
def covers (held other : Permission) : Bool :=
  held.coversTarget other && held.privileges.has other.privileges.mask

/-- An argument read under the scheme of the permission. -/
def read (held : Permission) (value : Item) : Ambient Permission := coerce value (some held.scheme)

/-- Whether path and constraints of an argument are covered. -/
def matchTarget (held : Permission) (other : Item) : Ambient Bool :=
  return held.coversTarget (← held.read other)

/-- Whether every requested permission is covered.  All requests are read before any is judged. -/
def allows (held : Permission) (requests : List Item) : Ambient Bool := do
  let requested ← (Item.flatten requests).mapM held.read
  return requested.all held.covers

/-- The grant-enabling privileges in an argument, if the permission covers its target. -/
def rivalPower (held : Permission) (value : Item) : Ambient Mask := do
  let existing ← held.read value
  return if held.coversTarget existing then existing.privileges.grantEnabling.mask else 0

/-- The grant-enabling privileges in a list of arguments over targets that the permission covers. -/
def rivalPowers (held : Permission) : List Item → Mask → Ambient Mask
  | [], power => pure power
  | value :: values, power => do rivalPowers held values (power ||| (← held.rivalPower value))

/-- Whether the holder may hand out or take away a permission, given what the other side holds.  What the other side
holds is read only if the permission itself does not settle the question. -/
def mayDelegate (held : Permission) (value rivals : Item) : Ambient Bool := do
  let new ← held.read value
  let allowed := held.privileges.grantable
  if allowed.mask = 0 then return false
  if !held.coversTarget new then return false
  if !allowed.has new.privileges.mask then return false
  match rivals.elements? with
  | none => throw .wrongType
  | some rivals => do
    let power := (← held.rivalPowers rivals 0) ||| new.privileges.grantEnabling.mask
    return power = 0 || allowed.has power

/-- Whether the holder may hand out a permission. -/
def mayGrant (held : Permission) (value rivals : Item) : Ambient Bool := held.mayDelegate value rivals

/-- Whether the holder may take a permission away. -/
def mayRevoke (held : Permission) (value rivals : Item) : Ambient Bool := held.mayDelegate value rivals

end PathAccess.Permission
