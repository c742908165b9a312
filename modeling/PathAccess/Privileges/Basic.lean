import PathAccess.Scheme.Basic
import PathAccess.Text.Pieces

/-!
# Sets of privileges

A set of privileges is a mask read under a scheme.  The mask is not bound to the bits that the scheme knows: bits
without a privilege take part in the set operations and do not show in the names.
-/

namespace PathAccess

/-- A mask together with the scheme that it is read under. -/
structure Privileges where
  mask : Mask
  scheme : Scheme
  deriving DecidableEq

namespace Privileges

/-- Whether every privilege of a non-empty mask is held.  Nothing holds the empty mask. -/
def has (s : Privileges) (other : Mask) : Bool := other != 0 && s.mask.covers other

/-- Whether some privilege of the mask is held. -/
def overlaps (s : Privileges) (other : Mask) : Bool := s.mask.meets other

def without (s : Privileges) (other : Mask) : Privileges := { s with mask := s.mask &&& ~~~other }

def union (s : Privileges) (other : Mask) : Privileges := { s with mask := s.mask ||| other }

def inter (s : Privileges) (other : Mask) : Privileges := { s with mask := s.mask &&& other }

/-- The held privileges that enable handing out others. -/
def grantEnabling (s : Privileges) : Privileges := s.inter s.scheme.grantEnabling

/-- The privileges that may be handed out. -/
def grantable (s : Privileges) : Privileges := { s with mask := s.scheme.grantMask s.mask }

/-- The shortest names of the held privileges. -/
def labels (s : Privileges) : List String := s.scheme.labels s.mask

/-- The names of the held privileges. -/
def names (s : Privileges) : List String := s.scheme.names s.mask

/-- The written form: identifiers without anything between them, or names with commas. -/
def text (s : Privileges) : String :=
  if s.scheme.isIdentified then Text.join "" s.labels else Text.join "," s.names

end Privileges

end PathAccess
