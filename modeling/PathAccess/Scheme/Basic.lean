import PathAccess.Mask
import PathAccess.OrderedMap

/-!
# Privilege schemes

A scheme is the privilege space that permissions are read against.  It lists the privileges in order, each with a
name, a bit and perhaps a one-character identifier; it has aliases, which stand for several privileges at once; and
it says which privileges enable their holder to hand out which others (`grants`).

The key operations: `bitFor` finds a privilege by name or identifier, `within` lists the privileges of a mask in
order, and `grantMask` collects what the grant-enabling privileges of a mask may hand out.
-/

namespace PathAccess

/-- A single privilege of a scheme. -/
structure Privilege where
  name : String
  bit : Mask
  /-- The one-character name, in schemes that address privileges by such. -/
  identifier : Option String
  deriving DecidableEq

namespace Privilege

/-- The shortest name of a privilege. -/
def label (p : Privilege) : String := p.identifier.getD p.name

/-- Whether a token is the name or the identifier of the privilege. -/
def answersTo (p : Privilege) (token : String) : Bool := p.name = token || p.identifier = some token

end Privilege

/-- A privilege space. -/
structure Scheme where
  privileges : List Privilege
  /-- The privileges that an alias stands for. -/
  aliases : OrderedMap String Mask
  /-- For the bit of each grant-enabling privilege, the privileges that it may hand out. -/
  grants : OrderedMap Mask Mask
  deriving DecidableEq

namespace Scheme

/-- The bit of the privilege with this name or identifier; of several, the last. -/
def bitFor (c : Scheme) (token : String) : Option Mask :=
  (c.privileges.reverse.find? (·.answersTo token)).map Privilege.bit

/-- The privileges that an alias stands for. -/
def aliasMask (c : Scheme) (token : String) : Option Mask := c.aliases.get? token

/-- Whether all privileges are addressed by identifiers. -/
def isIdentified (c : Scheme) : Bool := c.privileges.all (·.identifier.isSome)

/-- All privileges. -/
def fullMask (c : Scheme) : Mask := Mask.unions (c.privileges.map Privilege.bit)

/-- The privileges that enable their holder to hand out others. -/
def grantEnabling (c : Scheme) : Mask := Mask.unions c.grants.keys

/-- What the grant-enabling privileges of a mask may hand out. -/
def grantMask (c : Scheme) (held : Mask) : Mask :=
  Mask.unions ((c.grants.entries.filter (held.meets ·.1)).map Prod.snd)

/-- The privileges of a mask in the order of the scheme. -/
def within (c : Scheme) (mask : Mask) : List Privilege := c.privileges.filter (mask.meets ·.bit)

/-- The shortest names of the privileges of a mask. -/
def labels (c : Scheme) (mask : Mask) : List String := (c.within mask).map Privilege.label

/-- The names of the privileges of a mask. -/
def names (c : Scheme) (mask : Mask) : List String := (c.within mask).map Privilege.name

end Scheme

end PathAccess
