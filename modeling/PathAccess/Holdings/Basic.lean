import PathAccess.Permission.Decision

/-!
# Collections of permissions

Everything that one subject has been granted.  A request is first unwound: constraints with several values become
one request for every choice of a single value per key, and each of these is judged by itself.  The privileges of
such a request may be covered piece by piece by several members, whereas handing out and taking away need one member
that may do it alone.
-/

namespace PathAccess

namespace Permission

/-- Every choice of one value per key, the last key varying fastest. -/
def choices : List (String × List String) → List (List (String × String))
  | [] => [[]]
  | (key, values) :: rest => values.flatMap fun v => (choices rest).map ((key, v) :: ·)

/-- The constraints that a choice of values makes, as an argument. -/
def choiceItem (choice : List (String × String)) : Item :=
  .map (choice.map fun e => (.text e.1, .tuple [.text e.2]))

/-- One permission for every choice of a single value per key. -/
def unwind (p : Permission) : Except Fault (List Permission) :=
  match p.attributes with
  | none => return [← p.clone]
  | some m =>
    if m.isEmpty then return [← p.clone]
    else (choices m.entries).mapM fun choice => p.withAttributes (choiceItem choice)

/-- The single-valued permissions of an argument. -/
def unwindItem (value : Item) (explicit : Option Scheme) : Ambient (List Permission) := do
  Ambient.ofExcept (unwind (← coerce value explicit))

end Permission

namespace Holdings

/-- Collects permissions, read under an explicit or the active scheme and copied. -/
def ofItems (items : List Item) (scheme? : Option Scheme) : Ambient Holdings := do
  let members ← (Item.flatten items).mapM fun item => do
    Ambient.ofExcept (← Permission.coerce item scheme?).clone
  return ⟨members, scheme?⟩

/-- A collection of other permissions that is read the same way. -/
def withMembers (h : Holdings) (items : List Item) : Ambient Holdings := ofItems items h.scheme?

/-- The member at a position; negative positions count from the end. -/
def get (h : Holdings) (index : Int) : Except Fault Permission :=
  let position := if index < 0 then index + h.members.length else index
  match if position < 0 then none else h.members[position.toNat]? with
  | some p => .ok p
  | none => .error .indexOutOfRange

/-- What is missing of a single-valued request after the members took their parts from it. -/
def missing (request : Permission) : List Permission → Mask → Mask
  | [], rest => rest
  | held :: members, rest =>
    if rest = 0 then rest
    else missing request members (if held.coversTarget request then rest &&& ~~~held.privileges.mask else rest)

/-- Whether the members together cover a single-valued request. -/
def covers (h : Holdings) (request : Permission) : Bool :=
  missing request h.members request.privileges.mask = 0

/-- Whether every requested permission is covered.  All requests are read before any is judged. -/
def allows (h : Holdings) (requests : List Item) : Ambient Bool := do
  let atoms ← (Item.flatten requests).mapM (Permission.unwindItem · h.scheme?)
  return atoms.flatten.all h.covers

/-- Whether for every single-valued part of a permission some member may hand it out or take it away. -/
def mayDelegate (h : Holdings) (value rivals : Item) : Ambient Bool := do
  match rivals.elements? with
  | none => throw .wrongType
  | some rivals =>
    let atoms ← Permission.unwindItem value h.scheme?
    atoms.allM fun atom => h.members.anyM fun held =>
      held.mayDelegate (Item.ofPermission atom) (.list rivals)

/-- Whether the holder may hand out a permission. -/
def mayGrant (h : Holdings) (value rivals : Item) : Ambient Bool := h.mayDelegate value rivals

/-- Whether the holder may take a permission away. -/
def mayRevoke (h : Holdings) (value rivals : Item) : Ambient Bool := h.mayDelegate value rivals

end Holdings

end PathAccess
