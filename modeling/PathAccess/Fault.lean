import PathAccess.Decimal.Reading
import PathAccess.Item

/-!
# Faults

Everything that can go wrong, by cause, and the wording of each cause.  A fault is either a rejection by a rule of
the library or a failure that no rule foresees, such as an argument of a kind that an operation cannot use at all
(`isRejection`); a question whether a text is valid turns rejections into `false` and passes other failures on.
-/

namespace PathAccess

/-- Why a permission is malformed. -/
inductive Malformation where
  /-- Something other than a text stands for a permission. -/
  | notText
  /-- No colon sets off the privileges. -/
  | noDelimiter
  | noPrivilege
  /-- Privileges of a kind that cannot be read. -/
  | privilegesKind
  /-- A list of privileges holds something other than a text. -/
  | privilegesItem (item : Item)
  /-- Constraints of a kind that cannot be read. -/
  | attributesKind
  /-- A part of a query is not a key with values. -/
  | attributeForm (piece : String)
  | pathKind
  | emptyPath

namespace Malformation

def message : Malformation → String
  | notText => "Permission must be a string."
  | noDelimiter => "Permission must contain at least 1 privilege delimited by \":\"."
  | noPrivilege => "Permission must contain at least 1 privilege."
  | privilegesKind => "Privileges must be a string, list or number."
  | privilegesItem item => "Privilege list items must be strings; got " ++ item.quoted ++ "."
  | attributesKind => "Attributes must be a mapping or a query string."
  | attributeForm piece => "Attribute " ++ Text.quoted piece ++ " must have the form key=value."
  | pathKind => "Path must be a string."
  | emptyPath => "Path must not be empty."

end Malformation

/-- Why the values of a constraint are not valid. -/
inductive AttributeFault where
  /-- The values are neither a text nor a collection of texts. -/
  | valueKind (key value : Item)
  | noValue (key : Item)

namespace AttributeFault

def message : AttributeFault → String
  | valueKind key value =>
    "Attribute " ++ key.quoted ++ " must be a string or a collection of strings; got " ++ value.quoted ++ "."
  | noValue key => "Attribute " ++ key.quoted ++ " must have at least one value."

end AttributeFault

/-- Which rule of a well-formed scheme a declaration breaks. -/
inductive SchemeRule where
  | noPrivileges
  /-- Some privileges are declared by identifier and some by bit. -/
  | mixedForms
  | badName (name : CodeText)
  | badBit (name : CodeText) (bit : Int)
  | repeatedBit (bit : Int)
  | badIdentifier (identifier : CodeText)
  | shortName (name : CodeText)
  | repeatedName (name : CodeText)
  | emptyAlias (name : CodeText)
  /-- An alias has the name of a privilege. -/
  | shadowingAlias (name : CodeText)
  | unknownInAlias (name token : CodeText)
  | unknownGrant (key : CodeText)
  | grantOutOfRange (key : CodeText) (maximum : Mask)
  | emptyGrant (key : CodeText)
  | unknownInGrant (key token : CodeText)
  deriving DecidableEq

namespace SchemeRule

/-- What is said in the place of a message with a number that is too long to be written. -/
def unwritable : String :=
  "Exceeds the limit (4300 digits) for integer string conversion; " ++
    "use sys.set_int_max_str_digits() to increase the limit"

def message : SchemeRule → String
  | noPrivileges => "Privileges must contain at least one privilege."
  | mixedForms => "Privileges must map either identifiers to names or names to bits, not both."
  | badName name => "Privilege name " ++ name.quoted ++ " is not a valid name."
  | badBit name bit =>
    if Decimal.isWritable bit then
      "Privilege " ++ name.quoted ++ " must specify a power-of-two number; got " ++ toString bit ++ "."
    else unwritable
  | repeatedBit bit =>
    if Decimal.isWritable bit then "Privilege bit " ++ toString bit ++ " is assigned more than once." else unwritable
  | badIdentifier identifier => "Privilege identifier " ++ identifier.quoted ++ " must be 1 non-digit character."
  | shortName name => "Privilege name " ++ name.quoted ++ " must be at least 2 characters."
  | repeatedName name => "Privilege name " ++ name.quoted ++ " is declared more than once."
  | emptyAlias name => "Alias " ++ name.quoted ++ " must contain at least one privilege."
  | shadowingAlias name => "Alias " ++ name.quoted ++ " shadows a privilege."
  | unknownInAlias name token => "Alias " ++ name.quoted ++ " contains unknown privilege " ++ token.quoted ++ "."
  | unknownGrant key => "Grant privilege " ++ key.quoted ++ " is not a configured privilege."
  | grantOutOfRange key maximum =>
    if Decimal.isWritable maximum.value then
      "Grant privilege " ++ key.quoted ++ " must specify a mask within 1-" ++ toString maximum.value ++ "."
    else unwritable
  | emptyGrant key => "Grant privilege " ++ key.quoted ++ " must list at least one privilege."
  | unknownInGrant key token =>
    "Grant privilege " ++ key.quoted ++ " contains unknown privilege " ++ token.quoted ++ "."

end SchemeRule

/-- A step on the way to a part of a document. -/
inductive Step where
  | index (n : Int)
  | key (name : String)
  deriving DecidableEq

/-- What is wrong with a part of a document. -/
inductive ShapeFault where
  | notMap
  | notList
  | notText
  /-- A text in bytes that are not UTF-8, or with code points that have no character. -/
  | notUnicode
  | notWhole
  /-- A text that is no numeral. -/
  | notNumeral
  /-- A number with a fraction. -/
  | fractional
  /-- A number out of the range that is read. -/
  | tooLarge
  /-- An infinite or undefined number. -/
  | notFinite
  | unknownSection
  /-- A section whose name is not a text. -/
  | sectionName
  | rule (rule : SchemeRule)
  deriving DecidableEq

/-- A fault of a document with the place where it is. -/
structure SchemaFault where
  place : List Step
  fault : ShapeFault
  deriving DecidableEq

/-- Why a declaration gives no scheme. -/
inductive SchemeFault where
  | notMap
  /-- A document that cannot be read, from a file or from a text. -/
  | unreadable (fromFile : Bool)
  | rejected (faults : List SchemaFault)
  | unknownSections (names : List String)
  /-- A name with code points that have no character.  The names in a scheme are `String`s, which hold no such code point,
  so schemes with these names are outside the model; the fault and its message mark its boundary. -/
  | unspelledName
  deriving DecidableEq

namespace SchemeFault

/-- The sections of a declaration. -/
def sectionNames : List String := ["privileges", "aliases", "grant_privileges"]

/-- A list of texts as a message quotes it. -/
def quotedList (names : List String) : String := Value.enclosed "[" "]" (names.map Text.quoted)

def message : SchemeFault → String
  | notMap => "Privilege config must be a mapping (dict)."
  | unreadable true => "Failed to parse YAML"
  | unreadable false => "Failed to parse YAML string"
  | rejected _ => "Invalid privilege config"
  | unknownSections names =>
    "Unknown config sections: " ++ quotedList names ++ ". Known: " ++ quotedList sectionNames ++ "."
  | unspelledName => "Privilege names must consist of characters."

end SchemeFault

/-- Everything that can go wrong. -/
inductive Fault where
  | malformed (cause : Malformation)
  | invalidAttribute (cause : AttributeFault)
  | unknownPrivilege (token : String)
  | outOfRange (value maximum : Mask)
  /-- A declaration that gives no scheme, with the name of the document it came from. -/
  | scheme (cause : SchemeFault) (origin : Option String)
  | noSuchFile (name : String)
  | isDirectory
  /-- A path with a character that no path can hold. -/
  | badPath
  /-- Bytes that are not UTF-8. -/
  | undecodable
  /-- Digits that are not the decimal digits of a numeral, a number with too many digits to be read or written, or a
  date that is in no calendar. -/
  | notANumber
  /-- A character code or a power of sixty out of every range. -/
  | overflow
  /-- Parts nested too deeply, or without an end. -/
  | bottomless
  /-- A value without parts where parts are needed. -/
  | wrongType
  /-- A value without the operation that is needed. -/
  | noSuchOperation
  /-- A key that is not there, such as a grant-enabling bit that no privilege has. -/
  | missingKey
  | indexOutOfRange

namespace Fault

/-- Whether a rule of the library raised the fault. -/
def isRejection : Fault → Bool
  | malformed _ | invalidAttribute _ | unknownPrivilege _ | outOfRange .. | scheme .. => true
  | _ => false

/-- What is wrong, for the faults that say so. -/
def message? : Fault → Option String
  | malformed cause => some cause.message
  | invalidAttribute cause => some cause.message
  | unknownPrivilege token => some ("Privilege " ++ Text.quoted token ++ " does not exist.")
  | outOfRange value maximum =>
    some ("Privilege mask " ++ toString value.value ++ " is out of range; expected 1-" ++
      toString maximum.value ++ ".")
  | scheme cause origin =>
    let mark := match origin with
      | some name => if name.isEmpty then "" else "[" ++ name ++ "] "
      | none => ""
    some (mark ++ cause.message)
  | noSuchFile name => some ("Privilege config not found: " ++ name)
  | _ => none

end Fault

end PathAccess
