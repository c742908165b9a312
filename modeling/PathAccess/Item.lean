import PathAccess.Permission.Basic
import PathAccess.Value.Display

/-!
# Arguments of unknown shape

Operations that say themselves what they accept take an `Item`: an untyped value that may hold permissions, sets of
privileges, collections of permissions and schemes.
-/

namespace PathAccess

/-- A collection of permissions that one subject has been granted. -/
structure Holdings where
  members : List Permission
  /-- The scheme that later texts are read under, if it is not the active one. -/
  scheme? : Option Scheme
  deriving DecidableEq

/-- The written form of a collection. -/
def Holdings.text (h : Holdings) : String :=
  Value.enclosed "PermissionSet(" ")" (h.members.map fun p => Text.quoted p.text)

/-- A value that the library itself makes. -/
inductive Object where
  | permission (p : Permission)
  | privileges (s : Privileges)
  | holdings (h : Holdings)
  | scheme (c : Scheme)
  deriving DecidableEq

namespace Object

/-- Permissions compare by content, sets of privileges by mask. -/
def same : Object → Object → Bool
  | permission p, permission q => p.same q
  | privileges s, privileges t => s.mask = t.mask
  | holdings h, holdings k => h = k
  | scheme c, scheme d => c = d
  | _, _ => false

/-- An empty set of privileges and an empty collection count as absent. -/
def isTrue : Object → Bool
  | privileges s => s.mask != 0
  | holdings h => !h.members.isEmpty
  | _ => true

/-- The quoted form of constraints. -/
def quotedAttributes (m : Attributes) : String :=
  Value.enclosed "\x7b" "\x7d" (m.entries.map fun e =>
    Text.quoted e.1 ++ ": " ++ Value.enclosedTuple (e.2.map Text.quoted))

/-- The quoted form of one privilege of a scheme. -/
def quotedPrivilege (p : Privilege) : String :=
  let identifier := match p.identifier with
    | some i => Text.quoted i
    | none => "None"
  "PrivilegeDefinition(name=" ++ Text.quoted p.name ++ ", bit=" ++ toString p.bit.value ++
    ", identifier=" ++ identifier ++ ")"

/-- The quoted form of a read-only map to masks, given how to show a key. -/
def quotedMasks {α : Type} (key : α → String) (m : OrderedMap α Mask) : String :=
  "mappingproxy(" ++
    Value.enclosed "\x7b" "\x7d" (m.entries.map fun e => key e.1 ++ ": " ++ toString e.2.value) ++ ")"

/-- The quoted form of a scheme. -/
def quotedScheme (c : Scheme) : String :=
  "PrivilegeConfig(definitions=" ++ Value.enclosedTuple (c.privileges.map quotedPrivilege) ++
    ", aliases=" ++ quotedMasks Text.quoted c.aliases ++
    ", grant_masks=" ++ quotedMasks (fun bit : Mask => toString bit.value) c.grants ++ ")"

def quoted : Object → String
  | permission p =>
    let attributes := match p.attributes with
      | some m => quotedAttributes m
      | none => "None"
    "Permission(path=" ++ Text.quoted p.path ++ ", attributes=" ++ attributes ++
      ", privileges=PrivilegeSet(mask=" ++ toString p.privileges.mask.value ++ "))"
  | privileges s => "PrivilegeSet(mask=" ++ toString s.mask.value ++ ")"
  | holdings h => h.text
  | scheme c => quotedScheme c

def plain : Object → String
  | permission p => p.text
  | privileges s => s.text
  | o => o.quoted

end Object

instance : Value.Leaf Object := ⟨Object.same, Object.isTrue, Object.quoted, Object.plain⟩

/-- An argument of unknown shape. -/
abbrev Item := Value Object

namespace Item

def ofPermission (p : Permission) : Item := .object (.permission p)

def ofPrivileges (s : Privileges) : Item := .object (.privileges s)

/-- The parts of a value that has parts: the characters of a text, the items of a sequence, the keys of a map, the
labels of a set of privileges, the members of a collection. -/
def elements? : Item → Option (List Item)
  | .text s => some (s.toList.map fun c => .text (String.singleton c))
  | .bytes bs => some (bs.map fun b => .int b.toNat)
  | .list vs | .tuple vs | .set vs => some vs
  | .map ps => some (ps.map Prod.fst)
  | .object (.privileges s) => some (s.labels.map .text)
  | .object (.holdings h) => some (h.members.map ofPermission)
  | _ => none

/-- Opens one level of nesting: the parts of every item that has parts and is neither a text nor a map. -/
def flatten (items : List Item) : List Item :=
  items.flatMap fun item =>
    match item with
    | .text _ | .map _ => [item]
    | _ => item.elements?.getD [item]

end Item

end PathAccess
