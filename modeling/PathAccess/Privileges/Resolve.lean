import PathAccess.Ambient
import PathAccess.Decimal.Reading

/-!
# Reading privileges

Privileges are written as tokens with commas between them.  A token is the name or the identifier of a privilege, or
an alias, or a mask in decimal, or, under a scheme that addresses privileges by identifiers, a run of identifiers;
the first of these that applies counts.  The result is the union of what the tokens stand for.  A number given as
such is a mask too, and every mask given by number has to lie between one and the mask of all privileges.
-/

namespace PathAccess

namespace Scheme

/-- Refuses a mask that is not between one and the mask of all privileges.  The refusal states both masks, which may
be too long to be written. -/
def checkRange (c : Scheme) (m : Mask) : Except Fault Mask :=
  if 1 ≤ m.value ∧ m.value ≤ c.fullMask.value then .ok m
  else if Decimal.isWritable m.value && Decimal.isWritable c.fullMask.value then .error (.outOfRange m c.fullMask)
  else .error .notANumber

/-- The union of the privileges with these identifiers. -/
def readIdentifiers (c : Scheme) : List Char → Mask → Except Fault Mask
  | [], mask => .ok mask
  | i :: is, mask =>
    match c.bitFor (String.singleton i) with
    | some bit => c.readIdentifiers is (mask ||| bit)
    | none => .error (.unknownPrivilege (String.singleton i))

/-- The mask that a token stands for. -/
def readToken (c : Scheme) (token : String) : Except Fault Mask :=
  match c.bitFor token, c.aliasMask token with
  | some bit, _ => .ok bit
  | none, some mask => .ok mask
  | none, none =>
    if Text.isDigitRun token then
      match Decimal.bounded? token.toList with
      | some n => c.checkRange ⟨n⟩
      | none => .error .notANumber
    else if c.isIdentified then c.readIdentifiers token.toList 0
    else .error (.unknownPrivilege token)

/-- The union of what the tokens stand for. -/
def readTokens (c : Scheme) : List String → Mask → Except Fault Mask
  | [], mask => .ok mask
  | t :: ts, mask =>
    match c.readToken t with
    | .ok m => c.readTokens ts (mask ||| m)
    | .error e => .error e

/-- The tokens of a list of texts: what stands between commas, trimmed, unless it is blank. -/
def tokens (texts : List String) : List String :=
  ((texts.flatMap (Text.split ',')).map Text.trim).filter fun t => !t.isEmpty

/-- Reads privileges from a list of texts. -/
def readTexts (c : Scheme) (texts : List String) : Except Fault Privileges :=
  match tokens texts with
  | [] => .error (.malformed .noPrivilege)
  | ts =>
    match c.readTokens ts 0 with
    | .ok mask => .ok ⟨mask, c⟩
    | .error e => .error e

/-- The texts of a list that should hold nothing else. -/
def textsOf : List Item → Except Fault (List String)
  | [] => .ok []
  | .text s :: items =>
    match textsOf items with
    | .ok texts => .ok (s :: texts)
    | .error e => .error e
  | item :: _ => .error (.malformed (.privilegesItem item))

/-- Reads privileges from an argument of any shape: a set of privileges, a number, a text or a list of texts. -/
def readPrivileges (c : Scheme) : Item → Except Fault Privileges
  | .object (.privileges s) => (c.checkRange s.mask).map fun m => ⟨m, c⟩
  | .int n => (c.checkRange ⟨n⟩).map fun m => ⟨m, c⟩
  | .text s => c.readTexts [s]
  | .list items | .tuple items => textsOf items >>= c.readTexts
  | _ => .error (.malformed .privilegesKind)

end Scheme

namespace Privileges

/-- Reads privileges under an explicit or the active scheme. -/
def resolve (value : Item) (explicit : Option Scheme) : Ambient Privileges := do
  let c ← Ambient.choose explicit
  Ambient.ofExcept (c.readPrivileges value)

/-- Whether the privileges that the argument names are all held. -/
def hasNamed (s : Privileges) (value : Item) : Except Fault Bool :=
  (s.scheme.readPrivileges value).map fun t => s.has t.mask

end Privileges

end PathAccess
