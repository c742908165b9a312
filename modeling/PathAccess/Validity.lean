import PathAccess.Permission.Construct

/-!
# Validity

Whether a text would be accepted.  A rejection by a rule of the library is the answer no; any other failure is
passed on.
-/

namespace PathAccess

/-- Turns rejections into the answer no. -/
def Ambient.accepts {α : Type} (x : Ambient α) : Ambient Bool := fun active =>
  match x active with
  | .ok _ => .ok true
  | .error e => if e.isRejection then .ok false else .error e

/-- Whether an argument is a well-formed permission text. -/
def Permission.isValid (value : Item) (explicit : Option Scheme) : Ambient Bool :=
  match value with
  | .text _ => (Permission.parse value explicit).accepts
  | _ => pure false

/-- Whether an argument names privileges of the scheme. -/
def Privileges.isValid (value : Item) (explicit : Option Scheme) : Ambient Bool :=
  (Privileges.resolve value explicit).accepts

end PathAccess
