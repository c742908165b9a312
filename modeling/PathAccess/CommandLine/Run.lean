import PathAccess.CommandLine.Arguments
import PathAccess.CommandLine.Layout
import PathAccess.Holdings.Basic
import PathAccess.Scheme.Loading
import PathAccess.Validity

/-!
# Running a command

What a command prints and the status that it ends with.  The commands that ask a question end with 0 for yes and 1
for no; every command ends with 2 when it is not used as it should be, or when the scheme or a permission that it is
given is rejected.  A failure that is no rejection ends it with 1 and is reported as such.
-/

namespace PathAccess.CommandLine

/-- What a command prints: lines of a report, or text as it is. -/
inductive Output where
  | report (lines : List String)
  | raw (text : String)
  deriving DecidableEq

/-- How a command ends. -/
structure Outcome where
  status : Nat
  output : Output
  /-- What is said of a permission that is rejected. -/
  complaint : Option String := none
  /-- A failure that is no rejection. -/
  failure : Option Fault := none

/-- The output of a command that prints nothing. -/
def nothing (verb : Option Verb) : Output := if verb = some .unwind then .raw "" else .report []

/-- The end of a command that is not used as it should be. -/
def misuse (verb : Option Verb) : Outcome := { status := 2, output := nothing verb }

/-- The end of a command that fails. -/
def failed (verb : Verb) (e : Fault) : Outcome := { status := 1, output := nothing (some verb), failure := some e }

/-- A text without anything that could be taken for a tag. -/
def guarded (s : String) : List Char := Markup.escape s.toList

/-- What is said of a rejected permission. -/
def complaint (e : Fault) : String :=
  Text.join " " (Layout.paragraph
    ("[red]Invalid permission:[/red] ".toList ++ guarded (e.message?.getD "")))

/-- The end of a command with a permission that cannot be used. -/
def rejected (verb : Verb) (e : Fault) : Outcome :=
  if e.isRejection then { misuse (some verb) with complaint := some (complaint e) } else failed verb e

/-- The answer to a question. -/
def verdict (title : String) (answer : Bool) : Outcome :=
  { status := if answer then 0 else 1, output := .report [title, if answer then "ALLOWED" else "DENIED"] }

def textItems (texts : List String) : List Item := texts.map .text

/-- The permissions that texts stand for. -/
def readAll (texts : List String) (c : Scheme) : Except Fault (List Item) :=
  texts.mapM fun t => (Permission.parseText c t).map Item.ofPermission

/-- Whether the granted permissions cover the requested ones. -/
def allows (granted requested : List String) (c : Scheme) : Ambient Bool := do
  let holdings ← Holdings.ofItems (textItems granted) (some c)
  holdings.allows (← Ambient.ofExcept (readAll requested c))

/-- Whether the holder of some permissions may hand out another, or take it away, given what the other side has. -/
def mayDelegate (isGrant : Bool) (grantor grantee : List String) (permission : String) (c : Scheme) :
    Ambient Bool := do
  let holdings ← Holdings.ofItems (textItems grantor) (some c)
  let new ← Ambient.ofExcept (Permission.parseText c permission)
  let rivals ← Ambient.ofExcept (readAll grantee c)
  if isGrant then holdings.mayGrant (Item.ofPermission new) (.list rivals)
  else holdings.mayRevoke (Item.ofPermission new) (.list rivals)

/-- Whether each text is a permission, as a table. -/
def validate (texts : List String) (c : Scheme) : Except Fault Outcome := do
  let answers ← texts.mapM fun t => Permission.isValid (.text t) (some c) c
  let rows := (texts.zip answers).flatMap fun r =>
    Layout.row [guarded r.1, (if r.2 then "[green]yes[/green]" else "[red]no[/red]").toList]
  return {
    status := if answers.all id then 0 else 1
    output := .report ("Permission Validation" :: "Permission Valid" :: rows) }

/-- The single-valued permissions of a text, one a line. -/
def unwind (text : String) (c : Scheme) : Except Fault Outcome := do
  let atoms ← Permission.unwindItem (.text text) (some c) c
  return { status := 0, output := .raw (Text.join "" (atoms.map fun p => p.text ++ "\n")) }

/-- The labels of a mask in a cell. -/
def labelsCell (c : Scheme) (mask : Mask) : String := Text.join ", " (c.labels mask)

/-- A scheme as a table with its aliases below.  Every bit has to be short enough to be written. -/
def privileges (c : Scheme) : Outcome :=
  let rows := c.privileges.flatMap fun p =>
    let grantable := labelsCell c ((c.grants.get? p.bit).getD 0)
    Layout.row [guarded (match p.identifier with
        | some i => if i.isEmpty then "-" else i
        | none => "-"),
      guarded p.name, (toString p.bit.value).toList, guarded (if grantable.isEmpty then "-" else grantable)]
  let aliases := c.aliases.entries.flatMap fun a =>
    Layout.paragraph ("[cyan]".toList ++ guarded a.1 ++ "[/cyan] = ".toList ++ guarded (labelsCell c a.2))
  if c.privileges.all fun p => Decimal.isWritable p.bit.value then
    { status := 0
      output := .report ("Privileges" :: "Identifier Name Bit May grant" :: rows ++
        if aliases.isEmpty then [] else "Aliases:" :: aliases) }
  else failed .privileges .notANumber

/-- The lines about the program itself. -/
def version : Outcome :=
  { status := 0
    output := .report ["Version", "urlperm v0.1.0",
      "URL permission strings with glob paths, attributes and privileges."] }

/-- Runs an invocation under a scheme. -/
def Invocation.run (i : Invocation) (c : Scheme) : Outcome :=
  let answered (title : String) (question : Ambient Bool) : Outcome :=
    match question c with
    | .ok answer => verdict title answer
    | .error e => rejected i.verb e
  let operand := i.operands.headD ""
  match i.verb with
  | .version => version
  | .allows => answered "Authorization Check" (allows (i.values .granted) i.operands c)
  | .mayGrant => answered "Grant Check" (mayDelegate true (i.values .grantor) (i.values .grantee) operand c)
  | .mayRevoke => answered "Revoke Check" (mayDelegate false (i.values .grantor) (i.values .grantee) operand c)
  | .validate =>
    match validate i.operands c with
    | .ok outcome => outcome
    | .error e => failed i.verb e
  | .unwind =>
    match unwind operand c with
    | .ok outcome => outcome
    | .error e => rejected i.verb e
  | .privileges => privileges c

/-- Whether a path names a file.  A path whose last name is empty or a dot names a directory. -/
def namesFile (find : String → FileTree.Target) (path : String) : Bool :=
  let last := (Text.split '/' path).getLast?
  last ≠ some "" && last ≠ some "." &&
    match find path with
    | .file _ => true
    | _ => false

/-- Runs the command that the arguments name, with the scheme that they name or else the active one, given what paths
lead to. -/
def run (find : String → FileTree.Target) (active : Scheme) (args : List String) : Outcome :=
  match verb? args with
  | none => misuse none
  | some (verb, args) =>
    match invocation? verb args with
    | none => misuse (some verb)
    | some i =>
      match i.configPath with
      | none => i.run active
      | some path =>
        if path.toList.contains '\x00' then failed verb .badPath
        else if !namesFile find path then misuse (some verb)
        else match Scheme.ofFile find path with
          | .ok c => i.run c
          | .error e => if e.isRejection then misuse (some verb) else failed verb e

end PathAccess.CommandLine
