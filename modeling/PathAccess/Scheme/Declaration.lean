import PathAccess.Fault

/-!
# Declarations of schemes

A scheme is declared in one of two forms.  In the *identifier form* one-character identifiers are mapped to names,
and the privileges get the bits `1, 2, 4, …` in order.  In the *numeric form* names are mapped to bits.  Aliases list
names or identifiers, and a grant lists them too or gives a mask.

`Declaration.privilegeViolation?` and `Declaration.referenceViolation?` find the first rule of a well-formed
declaration that is broken, `Declaration.toScheme` resolves all names, and `Scheme.declaration?` writes a scheme back
in the form that it was declared in.  A declaration may hold names that are no `String`; those of a scheme are
(`Declaration.isSpelled`).
-/

namespace PathAccess

/-- What the key of a declared privilege is mapped to. -/
inductive Designation where
  /-- The bit of the privilege that the key names. -/
  | bit (n : Int)
  /-- The name of the privilege that the key identifies. -/
  | name (s : CodeText)
  deriving DecidableEq

/-- What a grant-enabling privilege may hand out. -/
inductive Grantable where
  | mask (n : Int)
  | tokens (ts : List CodeText)
  deriving DecidableEq

/-- The textual form of a scheme. -/
structure Declaration where
  privileges : OrderedMap CodeText Designation
  aliases : OrderedMap CodeText (List CodeText)
  grants : OrderedMap CodeText Grantable
  deriving DecidableEq

namespace Designation

def bit? : Designation → Option Int
  | bit n => some n
  | name _ => none

/-- The text of a name, or of a bit that stands for one. -/
def text : Designation → CodeText
  | bit n => .ofString (toString n)
  | name s => s

end Designation

namespace Declaration

/-! ### Rules -/

/-- Checks the privileges of the numeric form, given the bits seen before. -/
def violationOfBits : List (CodeText × Int) → List Int → Option SchemeRule
  | [], _ => none
  | (name, bit) :: ps, seen =>
    if name.isEmpty || name.contains ',' || name.isDigitRun then some (.badName name)
    else if !Mask.isSingle ⟨bit⟩ then some (.badBit name bit)
    else if seen.contains bit then some (.repeatedBit bit)
    else violationOfBits ps (bit :: seen)

/-- Whether a text is a single character that can identify a privilege. -/
def isIdentifier (s : CodeText) : Bool := s.length = 1 && !s.isDigitRun && !s.contains ','

/-- Checks the privileges of the identifier form, given the names seen before. -/
def violationOfNames : List (CodeText × CodeText) → List CodeText → Option SchemeRule
  | [], _ => none
  | (identifier, name) :: ps, seen =>
    if !isIdentifier identifier then some (.badIdentifier identifier)
    else if name.length ≤ 1 then some (.shortName name)
    else if seen.contains name then some (.repeatedName name)
    else violationOfNames ps (name :: seen)

/-- The first rule that the declared privileges break. -/
def privilegeViolation? (privileges : OrderedMap CodeText Designation) : Option SchemeRule :=
  if privileges.isEmpty then some .noPrivileges
  else
    let bits := privileges.entries.filterMap fun e => e.2.bit?.map fun n => (e.1, n)
    if bits.isEmpty then violationOfNames (privileges.entries.map fun e => (e.1, e.2.text)) []
    else if bits.length ≠ privileges.size then some .mixedForms
    else violationOfBits bits []

/-! ### Resolution -/

/-- The privileges of the identifier form, numbered from a position on. -/
def identified : Nat → List (CodeText × Designation) → List Privilege
  | _, [] => []
  | position, (identifier, d) :: ps =>
    ⟨d.text.text, Mask.bit position, some identifier.text⟩ :: identified (position + 1) ps

/-- The privileges that the declaration introduces. -/
def definitions (d : Declaration) : List Privilege :=
  let bits := d.privileges.entries.filterMap fun e => e.2.bit?.map fun n => (e.1, n)
  if bits.length = d.privileges.size then bits.map fun e => ⟨e.1.text, ⟨e.2⟩, none⟩
  else identified 0 d.privileges.entries

/-- The scheme of the declared privileges alone. -/
def base (d : Declaration) : Scheme := ⟨d.definitions, ∅, ∅⟩

/-- Whether a token is the name or the identifier of a declared privilege. -/
def declares (d : Declaration) (token : CodeText) : Bool :=
  d.privileges.entries.any fun e => e.1 = token || e.2 = .name token

/-- The first rule that a list of aliases breaks. -/
def aliasViolation? (d : Declaration) : List (CodeText × List CodeText) → Option SchemeRule
  | [] => none
  | (name, tokens) :: rest =>
    if tokens.isEmpty then some (.emptyAlias name)
    else if d.declares name then some (.shadowingAlias name)
    else match tokens.find? fun t => !d.declares t with
      | some token => some (.unknownInAlias name token)
      | none => d.aliasViolation? rest

/-- The first rule that a list of grants breaks. -/
def grantViolation? (d : Declaration) : List (CodeText × Grantable) → Option SchemeRule
  | [] => none
  | (key, grantable) :: rest =>
    if !d.declares key then some (.unknownGrant key)
    else match grantable with
      | .mask n =>
        if 1 ≤ n ∧ n ≤ d.base.fullMask.value then d.grantViolation? rest
        else some (.grantOutOfRange key d.base.fullMask)
      | .tokens ts =>
        if ts.isEmpty then some (.emptyGrant key)
        else match ts.find? fun t => !d.declares t with
          | some token => some (.unknownInGrant key token)
          | none => d.grantViolation? rest

/-- The first rule that the names used in aliases and grants break. -/
def referenceViolation? (d : Declaration) : Option SchemeRule :=
  match d.aliasViolation? d.aliases.entries with
  | some rule => some rule
  | none => d.grantViolation? d.grants.entries

/-- The union of the privileges that the tokens name. -/
def maskOf (c : Scheme) (tokens : List CodeText) : Mask :=
  Mask.unions (tokens.filterMap fun t => c.bitFor t.text)

/-- The grants with all names resolved; several names of one privilege are taken together. -/
def resolveGrants (c : Scheme) : List (CodeText × Grantable) → OrderedMap Mask Mask → OrderedMap Mask Mask
  | [], grants => grants
  | (key, grantable) :: rest, grants =>
    let mask := match grantable with
      | .mask n => ⟨n⟩
      | .tokens ts => maskOf c ts
    match c.bitFor key.text with
    | some bit => resolveGrants c rest (grants.put bit ((grants.get? bit).getD 0 ||| mask))
    | none => resolveGrants c rest grants

/-- Whether every name that the declaration introduces is a `String`. -/
def isSpelled (d : Declaration) : Bool :=
  d.privileges.entries.all (fun e => e.1.isSpelled && e.2.text.isSpelled) && d.aliases.keys.all CodeText.isSpelled

/-- The scheme that a well-formed declaration describes. -/
def toScheme (d : Declaration) : Scheme :=
  ⟨d.definitions, .ofList (d.aliases.entries.map fun e => (e.1.text, maskOf d.base e.2)),
    resolveGrants d.base d.grants.entries ∅⟩

end Declaration

namespace Scheme

/-- The label of the first privilege with exactly this bit. -/
def labelOf? (c : Scheme) (bit : Mask) : Option String :=
  (c.privileges.find? (·.bit = bit)).map Privilege.label

/-- The grants of a scheme by label, unless some grant has no privilege for its bit. -/
def grantEntries? (c : Scheme) : List (Mask × Mask) → Option (List (CodeText × Grantable))
  | [] => some []
  | (bit, mask) :: rest =>
    match c.labelOf? bit, c.grantEntries? rest with
    | some label, some entries =>
      some ((.ofString label, if c.isIdentified then .tokens ((c.labels mask).map .ofString) else .mask mask.value)
        :: entries)
    | _, _ => none

/-- The declaration of a scheme, unless some grant has no privilege for its bit. -/
def declaration? (c : Scheme) : Option Declaration :=
  (c.grantEntries? c.grants.entries).map fun grants =>
    { privileges := .ofList (c.privileges.map fun p =>
        if c.isIdentified then (.ofString p.label, .name p.name) else (.ofString p.name, .bit p.bit.value))
      aliases := .ofList (c.aliases.entries.map fun e => (.ofString e.1, (c.labels e.2).map .ofString))
      grants := .ofList grants }

end Scheme

end PathAccess
