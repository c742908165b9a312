import PathAccess.Fault

/-!
# The active scheme

Texts are read under an explicit scheme, or else under the scheme that is active when they are read.  A computation
that may have to ask for the active scheme is a function of it.
-/

namespace PathAccess

/-- A computation that may ask for the active scheme and may fail. -/
abbrev Ambient (α : Type) : Type := ReaderT Scheme (Except Fault) α

namespace Ambient

/-- The explicit scheme, or else the active one. -/
def choose (explicit : Option Scheme) : Ambient Scheme := fun active => .ok (explicit.getD active)

/-- A computation that does not ask for the active scheme. -/
def ofExcept {α : Type} (x : Except Fault α) : Ambient α := fun _ => x

end Ambient

end PathAccess
