import PathAccess.Text.Pieces

/-!
# Arguments of the command line

An invocation is a command with options and operands.  Every option takes a value: in the next argument, after an
equals sign (`--config=FILE`), or, for the one-letter form, in the same argument (`-cFILE`).  Options and operands
may be mixed; after `--` there are only operands.
-/

namespace PathAccess.CommandLine

/-- The options of the commands. -/
inductive Flag where
  | config
  | granted
  | grantor
  | grantee
  deriving DecidableEq

namespace Flag

def long : Flag → String
  | config => "--config"
  | granted => "--granted"
  | grantor => "--grantor"
  | grantee => "--grantee"

def short : Flag → Char
  | config => 'c'
  | granted => 'g'
  | grantor => 'g'
  | grantee => 'e'

end Flag

/-- The commands. -/
inductive Verb where
  | version
  | allows
  | mayGrant
  | mayRevoke
  | validate
  | unwind
  | privileges
  deriving DecidableEq

namespace Verb

def name : Verb → String
  | version => "version"
  | allows => "allows"
  | mayGrant => "may-grant"
  | mayRevoke => "may-revoke"
  | validate => "validate"
  | unwind => "unwind"
  | privileges => "privileges"

def all : List Verb := [version, allows, mayGrant, mayRevoke, validate, unwind, privileges]

/-- The options of a command. -/
def flags : Verb → List Flag
  | version => []
  | allows => [.granted, .config]
  | mayGrant | mayRevoke => [.grantor, .grantee, .config]
  | validate | unwind | privileges => [.config]

/-- The option that has to be given. -/
def needed : Verb → Option Flag
  | allows => some .granted
  | mayGrant | mayRevoke => some .grantor
  | _ => none

/-- Whether a number of operands fits the command. -/
def takes : Verb → Nat → Bool
  | version, n | privileges, n => n = 0
  | allows, n | validate, n => 0 < n
  | mayGrant, n | mayRevoke, n | unwind, n => n = 1

end Verb

/-- The option that an argument names, with the value in the same argument, if there is one. -/
def flag? (flags : List Flag) (arg : String) : Option (Flag × Option String) :=
  let (name, value) := match Text.cutFirst '=' arg with
    | some (n, v) => (n, some v)
    | none => (arg, none)
  match flags.find? (·.long = name) with
  | some f => some (f, value)
  | none =>
    match arg.toList with
    | '-' :: c :: rest =>
      if c = '-' then none
      else (flags.find? (·.short = c)).map fun f => (f, if rest.isEmpty then none else some (String.ofList rest))
    | _ => none

/-- Whether an argument is written like an option. -/
def looksLikeFlag (arg : String) : Bool := arg.toList.head? = some '-' && arg ≠ "-"

/-- The options and the operands among the arguments. -/
def split (flags : List Flag) : List String → Option (List (Flag × String) × List String)
  | [] => some ([], [])
  | arg :: args =>
    if arg = "--" then some ([], args)
    else if looksLikeFlag arg then
      match flag? flags arg, args with
      | some (f, some value), args => (split flags args).map fun r => ((f, value) :: r.1, r.2)
      | some (f, none), value :: args => (split flags args).map fun r => ((f, value) :: r.1, r.2)
      | some (_, none), [] | none, _ => none
    else (split flags args).map fun r => (r.1, arg :: r.2)

/-- A command with its options and operands. -/
structure Invocation where
  verb : Verb
  options : List (Flag × String)
  operands : List String

namespace Invocation

/-- The values of an option in order. -/
def values (i : Invocation) (f : Flag) : List String := (i.options.filter (·.1 = f)).map Prod.snd

/-- The path of the scheme's file; of several the last. -/
def configPath (i : Invocation) : Option String := (i.values .config).getLast?

end Invocation

/-- The command that the arguments name, with the arguments after it. -/
def verb? : List String → Option (Verb × List String)
  | arg :: args =>
    let named (name : String) (args : List String) := (Verb.all.find? (·.name = name)).map fun v => (v, args)
    if arg = "--" then
      match args with
      | name :: args => named name args
      | [] => none
    else named arg args
  | [] => none

/-- The invocation that the arguments after a command make up, if they are used as they should be. -/
def invocation? (verb : Verb) (args : List String) : Option Invocation := do
  let (options, operands) ← split verb.flags args
  let given (f : Flag) : Bool := options.any (·.1 = f)
  if verb.takes operands.length && verb.needed.all given then some ⟨verb, options, operands⟩ else none

end PathAccess.CommandLine
