import PathAccess.Scheme.Declaration
import PathAccess.Decimal.Reading

/-!
# Documents that declare schemes

A document is a map with up to three sections: `privileges`, `aliases` and `grant_privileges`.  A document without
`privileges` declares the standard privileges, and a missing section of the other two is the standard one; a document
with `privileges` starts with no aliases and no grants.

Reading a document finds every part of the wrong shape, section by section and in the order of the document, and
then the sections that are not known.  Only a document without any such fault is held against the rules for
privileges, and against those for references only if nothing else is wrong.
-/

namespace PathAccess

namespace Declaration

/-- The standard privileges with their aliases and grants. -/
def standard : Declaration where
  privileges := .ofList [("c", .name "create"), ("r", .name "read"), ("u", .name "update"), ("d", .name "delete"),
    ("s", .name "super"), ("m", .name "manage")]
  aliases := .ofList [("all", ["c", "r", "u", "d"]), ("manager", ["c", "r", "u", "d", "m"]),
    ("owner", ["c", "r", "u", "d", "s"])]
  grants := .ofList [("m", .tokens ["c", "r", "u", "d"]), ("s", .tokens ["c", "r", "u", "d", "s", "m"])]

/-! ### Shapes -/

/-- What reading a part gives: its value, or all faults in it. -/
abbrev Shaped (α : Type) := Except (List SchemaFault) α

/-- A single fault at a place. -/
def faultAt {α : Type} (place : List Step) (fault : ShapeFault) : Shaped α := .error [⟨place, fault⟩]

/-- Both values, or the faults of both parts. -/
def both {α β γ : Type} (f : α → β → γ) (x : Shaped α) (y : Shaped β) : Shaped γ :=
  match x, y with
  | .ok a, .ok b => .ok (f a b)
  | .ok _, .error faults => .error faults
  | .error faults, .ok _ => .error faults
  | .error faults, .error more => .error (faults ++ more)

/-- The key of a map as a step: a number that fits into 64 bits as such, a text as it is, anything else as it is
quoted, except that a number may be too long to be written. -/
def stepOf (key : Item) : Step :=
  match key with
  | .bool b => .index (if b then 1 else 0)
  | .int n =>
    if -Int.pow 2 63 ≤ n && n < Int.pow 2 63 then .index n
    else .key (if Decimal.isWritable n then toString n else "<unprintable int object>")
  | .text s => .key s
  | .codes t => .key t.text
  | key => .key key.quoted

/-- The text that bytes spell. -/
def spelled? (bytes : List UInt8) : Option String := String.fromUTF8? ⟨bytes.toArray⟩

/-- Reads a text. -/
def shapeText (place : List Step) : Item → Shaped CodeText
  | .text s => .ok (.ofString s)
  | .codes t => .ok t
  | .bytes bs =>
    match spelled? bs with
    | some s => .ok (.ofString s)
    | none => faultAt place .notUnicode
  | _ => faultAt place .notText

/-- What a text is as a plain numeral. -/
inductive Numeral where
  | number (n : Int)
  /-- The text starts with a sign and digits that are too many together. -/
  | tooLong
  | invalid

/-- Reads a plain numeral: zero or digits that do not start with a zero, and perhaps a minus before them. -/
def plainNumeral (s : List Char) : Numeral :=
  let digits := match s with
    | '-' :: r => r
    | r => r
  let run := digits.takeWhile Char.isDigit
  if run.head? = some '0' then (if digits = ['0'] then .number 0 else .invalid)
  else if run.isEmpty then .invalid
  else if Decimal.maxDigits < run.length + (s.length - digits.length) then .tooLong
  else if run.length < digits.length then .invalid
  else .number (if digits.length < s.length then -(Decimal.asciiNumber run) else Decimal.asciiNumber run)

/-- The text after the zeros and underscores that follow a zero; their last one stays before a point and at the end
of the text.  A second minus may follow them. -/
def withoutZeros (last : Char) : List Char → Option (List Char)
  | [] => some [last]
  | c :: s =>
    if c = '0' || c = '_' then withoutZeros c s
    else if c = '.' then some (last :: c :: s)
    else if c = '-' || c.isDigit then some (c :: s)
    else none

/-- The text before a point with only zeros, at least one, after it. -/
def withoutFraction (s : List Char) : List Char :=
  match Text.cutAtFirst '.' s with
  | some (whole, fraction) => if !fraction.isEmpty && fraction.all (· = '0') then whole else s
  | none => s

/-- The text without its underscores, if each of them stands by itself between other characters. -/
def withoutUnderscores (s : List Char) : List Char :=
  if (s.splitOn '_').all fun g => !g.isEmpty then s.filter (· ≠ '_') else s

/-- The plain numeral that a text is a looser form of: blanks may stand around it, a plus or a minus and zeros before
it, a point with zeros after it, and underscores between digits. -/
def loosened? (s : List Char) : Option (List Char) := do
  let trimmed := Text.trimBy Text.isWhiteSpace s
  let signed ← match trimmed with
    | '+' :: '-' :: _ => none
    | '+' :: r => some r
    | r => some r
  let (negative, r) := match signed with
    | '-' :: r => (true, r)
    | r => (false, r)
  let digits ← match r with
    | '0' :: r => withoutZeros '0' r
    | c :: r => if c.isDigit then some (c :: r) else none
    | [] => none
  let digits := withoutUnderscores (withoutFraction digits)
  return if negative then '-' :: digits else digits

/-- Reads a whole number from a numeral. -/
def readNumeral (place : List Step) (s : String) : Shaped Int :=
  match plainNumeral s.toList with
  | .number n => .ok n
  | .tooLong => faultAt place .tooLarge
  | .invalid =>
    match (loosened? s.toList).map plainNumeral with
    | some (.number n) => .ok n
    | _ => faultAt place .notNumeral

/-- Reads a whole number. -/
def shapeInt (place : List Step) : Item → Shaped Int
  | .bool b => .ok (if b then 1 else 0)
  | .int n => .ok n
  | .float x =>
    match Decimal.wholeNumber? x with
    | some n => if -Int.pow 2 63 < n && n < Int.pow 2 63 then .ok n else faultAt place .tooLarge
    | none => faultAt place (if Decimal.isFinite x then .fractional else .notFinite)
  | .text s => readNumeral place s
  | .codes _ => faultAt place .notUnicode
  | .bytes bs =>
    match spelled? bs with
    | some s => readNumeral place s
    | none => faultAt place .notNumeral
  | _ => faultAt place .notWhole

/-- Reads the texts of a sequence from a position on. -/
def shapeTexts (place : List Step) : Nat → List Item → Shaped (List CodeText)
  | _, [] => .ok []
  | n, item :: items => both (· :: ·) (shapeText (place ++ [.index n]) item) (shapeTexts place (n + 1) items)

/-- Reads a list of texts. -/
def shapeList (place : List Step) (item : Item) : Shaped (List CodeText) :=
  match item with
  | .text _ | .codes _ | .bytes _ | .map _ => faultAt place .notList
  | item =>
    match item.elements? with
    | some items => shapeTexts place 0 items
    | none => faultAt place .notList

/-- Reads a bit or a name. -/
def shapeDesignation (place : List Step) : Item → Shaped Designation
  | .text s => .ok (.name (.ofString s))
  | .codes t => .ok (.name t)
  | item =>
    match shapeInt (place ++ [.key "int"]) item, shapeText (place ++ [.key "str"]) item with
    | .ok n, _ => .ok (.bit n)
    | .error _, .ok s => .ok (.name s)
    | .error faults, .error more => .error (faults ++ more)

/-- Reads a mask or a list of tokens. -/
def shapeGrantable (place : List Step) (item : Item) : Shaped Grantable :=
  match shapeInt (place ++ [.key "int"]) item, shapeList (place ++ [.key "list[str]"]) item with
  | .ok n, _ => .ok (.mask n)
  | .error _, .ok tokens => .ok (.tokens tokens)
  | .error faults, .error more => .error (faults ++ more)

/-- Reads the pairs of a section. -/
def shapePairs {α : Type} (place : List Step) (shape : List Step → Item → Shaped α) :
    List (Item × Item) → Shaped (List (CodeText × α))
  | [] => .ok []
  | (key, value) :: ps =>
    let here := place ++ [stepOf key]
    let pair := both Prod.mk (shapeText (here ++ [.key "[key]"]) key) (shape here value)
    both (· :: ·) pair (shapePairs place shape ps)

/-- Reads a section. -/
def shapeSection {α : Type} (name : String) (shape : List Step → Item → Shaped α) :
    Item → Shaped (OrderedMap CodeText α)
  | .map ps => (shapePairs [.key name] shape ps).map .ofList
  | _ => faultAt [.key name] .notMap

/-- Reads the privileges and holds them against their rules. -/
def shapePrivileges (item : Item) : Shaped (OrderedMap CodeText Designation) := do
  let privileges ← shapeSection "privileges" shapeDesignation item
  match privilegeViolation? privileges with
  | some rule => faultAt [.key "privileges"] (.rule rule)
  | none => .ok privileges

/-- The faults of the sections that are not known. -/
def unknownSections (ps : List (Item × Item)) : List SchemaFault :=
  ps.filterMap fun p =>
    match p.1 with
    | .text name => if SchemeFault.sectionNames.contains name then none else some ⟨[.key name], .unknownSection⟩
    | key => some ⟨[stepOf key], .sectionName⟩

/-- A section as it is given, or else as it is by default. -/
def sectionOr {α : Type} (ps : List (Item × Item)) (name : String) (shape : Item → Shaped α) (default : α) :
    Shaped α :=
  match Value.lookup? name ps with
  | some item => shape item
  | none => .ok default

/-- Whether the name of some section has code points without a character.  Nothing else is then read. -/
def hasUnspelledSection (ps : List (Item × Item)) : Bool :=
  ps.any fun p => match p.1 with
    | .codes _ => true
    | _ => false

/-- Reads the sections of a document. -/
def ofSections (ps : List (Item × Item)) : Shaped Declaration := do
  if hasUnspelledSection ps then faultAt [] .notUnicode
  let ownPrivileges := (Value.lookup? "privileges" ps).isSome
  let privileges := sectionOr ps "privileges" shapePrivileges standard.privileges
  let aliases := sectionOr ps "aliases" (shapeSection "aliases" shapeList)
    (if ownPrivileges then ∅ else standard.aliases)
  let grants := sectionOr ps "grant_privileges" (shapeSection "grant_privileges" shapeGrantable)
    (if ownPrivileges then ∅ else standard.grants)
  let known : Shaped Unit := match unknownSections ps with
    | [] => .ok ()
    | faults => .error faults
  let declaration ← both (fun d _ => d)
    (both (fun (p, a) g => Declaration.mk p a g) (both Prod.mk privileges aliases) grants) known
  match declaration.referenceViolation? with
  | some rule => faultAt [] (.rule rule)
  | none => .ok declaration

end Declaration

namespace Scheme

/-- The standard scheme. -/
def standard : Scheme := Declaration.standard.toScheme

instance : Inhabited Scheme := ⟨standard⟩

/-- The scheme that a document describes, given where the document came from.  Only schemes whose names are `String`s are
modelled: a declaration that breaks no rule but has a name with code points without a character is outside the model, and
is refused here (`SchemeFault.unspelledName`). -/
def ofItem (document : Item) (origin : Option String) : Except Fault Scheme :=
  match document with
  | .map ps =>
    match Declaration.ofSections ps with
    | .ok d => if d.isSpelled then .ok d.toScheme else .error (.scheme .unspelledName origin)
    | .error faults => .error (.scheme (.rejected faults) origin)
  | _ => .error (.scheme .notMap origin)

end Scheme

end PathAccess
