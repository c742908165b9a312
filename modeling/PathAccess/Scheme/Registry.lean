import PathAccess.Scheme.Document

/-!
# The active scheme over time

A registry holds the scheme that is active.  It starts with the standard scheme; `set` replaces it, `configure`
replaces sections of it, and `reset` goes back to the standard scheme.  A step that fails leaves the registry as it
is (`run_error`), and one that succeeds makes active exactly the scheme that it returns (`run_ok`).

When `configure` is given privileges, the aliases and grants so far are dropped, because they refer to the old
privileges.
-/

namespace PathAccess

namespace Declaration

/-- The grants of a declaration as a document has them. -/
def Grantable.toItem : Grantable → Item
  | .mask n => .int n
  | .tokens ts => .list (ts.map .ofCodes)

def Designation.toItem : Designation → Item
  | .bit n => .int n
  | .name s => .ofCodes s

/-- A section of a document. -/
def sectionItem {α : Type} (f : α → Item) (m : OrderedMap CodeText α) : Item :=
  .map (m.entries.map fun e => (.ofCodes e.1, f e.2))

/-- The sections of a declaration as a document has them. -/
def sections (d : Declaration) : OrderedMap String Item :=
  .ofList [("privileges", sectionItem Designation.toItem d.privileges),
    ("aliases", sectionItem (fun ts => .list (ts.map .ofCodes)) d.aliases),
    ("grant_privileges", sectionItem Grantable.toItem d.grants)]

/-- A document with these sections. -/
def document (sections : OrderedMap String Item) : Item :=
  .map (sections.entries.map fun e => (.text e.1, e.2))

/-- The declaration as a document. -/
def toItem (d : Declaration) : Item := document d.sections

end Declaration

/-- The holder of the active scheme. -/
structure Registry where
  active : Scheme
  deriving DecidableEq

namespace Registry

def initial : Registry := ⟨Scheme.standard⟩

instance : Inhabited Registry := ⟨initial⟩

/-- A step that may change the active scheme. -/
inductive Command where
  /-- Make a scheme active, or the one that a document describes. -/
  | set (value : Item)
  /-- Replace sections; a section without a value counts as named but not as given. -/
  | configure (sections : OrderedMap String Item)
  | reset

/-- Inserts a text into a sorted list. -/
def insertSorted (s : String) : List String → List String
  | [] => [s]
  | t :: ts => if s ≤ t then s :: t :: ts else t :: insertSorted s ts

/-- Texts in the order of their code points. -/
def sorted (ts : List String) : List String := ts.foldr insertSorted []

/-- The document that results from replacing sections of a declaration. -/
def merged (d : Declaration) (given : OrderedMap String Item) : Item :=
  let old := if given.contains "privileges"
    then (d.sections.put "aliases" (.map [])).put "grant_privileges" (.map []) else d.sections
  Declaration.document (given.entries.foldl (fun m e => match e.2 with
    | .null => m
    | value => m.put e.1 value) old)

/-- The scheme that a command makes active. -/
def Command.scheme (command : Command) (active : Scheme) : Except Fault Scheme :=
  match command with
  | .set (.object (.scheme c)) => .ok c
  | .set document => Scheme.ofItem document none
  | .configure given =>
    match given.keys.filter fun name => !SchemeFault.sectionNames.contains name with
    | [] =>
      match active.declaration? with
      | some d => Scheme.ofItem (merged d given) none
      | none => .error .missingKey
    | unknown => .error (.scheme (.unknownSections (sorted unknown)) none)
  | .reset => .ok Scheme.standard

/-- Runs a command: the registry afterwards, and the scheme made active or the fault. -/
def run (r : Registry) (command : Command) : Registry × Except Fault Scheme :=
  match command.scheme r.active with
  | .ok c => (⟨c⟩, .ok c)
  | .error e => (r, .error e)

theorem run_ok {r : Registry} {command : Command} {c : Scheme} (h : (r.run command).2 = .ok c) :
    (r.run command).1.active = c := by
  unfold run at h ⊢
  split at h <;> simp_all

theorem run_error {r : Registry} {command : Command} {e : Fault} (h : (r.run command).2 = .error e) :
    (r.run command).1 = r := by
  unfold run at h ⊢
  split at h <;> simp_all

end Registry

end PathAccess
