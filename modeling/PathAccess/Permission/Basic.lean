import PathAccess.Privileges.Basic

/-!
# Permissions

A permission joins a path pattern, constraints on attributes, and privileges.  Its written form is

    path ? key = value , value & key = value : privileges

without the blanks, and without the part from the question mark on if there are no constraints.
-/

namespace PathAccess

/-- For each constrained key the allowed values. -/
abbrev Attributes := OrderedMap String (List String)

/-- A path pattern with constraints and privileges. -/
structure Permission where
  path : String
  /-- The constraints; without any, every request passes. -/
  attributes : Option Attributes
  privileges : Privileges
  deriving DecidableEq

/-- The written form of constraints. -/
def Attributes.text (m : Attributes) : String :=
  Text.join "&" (m.entries.map fun e => e.1 ++ "=" ++ Text.join "," e.2)

/-- Whether both allow the same values for the same keys, in whatever order the keys stand. -/
def Attributes.same (m n : Attributes) : Bool :=
  m.size = n.size && m.entries.all fun e => n.get? e.1 = some e.2

namespace Permission

/-- The scheme that the privileges are read under. -/
def scheme (p : Permission) : Scheme := p.privileges.scheme

/-- The written form. -/
def text (p : Permission) : String :=
  p.path ++ (match p.attributes with
    | some m => "?" ++ m.text
    | none => "") ++ ":" ++ p.privileges.text

/-- Whether path, constraints and mask agree; the order of keys and the scheme do not count. -/
def same (p q : Permission) : Bool :=
  p.path = q.path && p.privileges.mask = q.privileges.mask &&
    match p.attributes, q.attributes with
    | none, none => true
    | some m, some n => m.same n
    | _, _ => false

/-- What every permission made by the library satisfies. -/
structure WellFormed (p : Permission) : Prop where
  path_ne_empty : p.path ≠ ""
  attributes_ne_empty : ∀ m, p.attributes = some m → m.entries ≠ []
  values_ne_empty : ∀ m, p.attributes = some m → ∀ e ∈ m.entries, e.2 ≠ []
  mask_ne_zero : p.privileges.mask ≠ 0

end Permission

end PathAccess
