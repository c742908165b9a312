import PathAccess.Proofs.Permission.WellFormed

/-!
# Permissions as they are given

An operation takes a permission either as one that was made before or as a text, which it reads first.  `Given` has
both forms, and `Given.under` says which permission is meant, or why none is, under a scheme.
-/

namespace PathAccess

namespace Permission

/-- A permission as an operation is given it. -/
inductive Given where
  /-- A permission that was made before. -/
  | made (p : Permission)
  /-- A text, which is read as a permission. -/
  | written (text : String)

namespace Given

def toItem : Given → Item
  | made p => Item.ofPermission p
  | written text => .text text

/-- The permission that is meant under a scheme. -/
def under (c : Scheme) : Given → Except Fault Permission
  | made p => .ok p
  | written text => parseText c text

/-- Whether a permission that was made before is one that the library makes. -/
def WellFormed : Given → Prop
  | made p => p.WellFormed
  | written _ => True

theorem read_toItem (held : Permission) (g : Given) (active : Scheme) :
    held.read g.toItem active = g.under held.scheme := by
  cases g <;> rfl

theorem wellFormed_of_under {g : Given} {c : Scheme} {p : Permission} (hg : g.WellFormed) (h : g.under c = .ok p) :
    p.WellFormed := by
  cases g with
  | made q =>
    obtain rfl := Except.ok.inj h
    exact hg
  | written text => exact parseText_wellFormed h

end Given

end Permission

end PathAccess
