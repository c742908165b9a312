import PathAccess.CommandLine.Run

/-!
# The command line

Runs the command that the arguments name, under the standard scheme unless they name another.
-/

open PathAccess

/-- What the path of a scheme in the arguments leads to. -/
def namedTarget (args : List String) : IO FileTree.Target := do
  let path? := do
    let (verb, args) ← CommandLine.verb? args
    (← CommandLine.invocation? verb args).configPath
  match path? with
  | none => return .nothing
  | some path =>
    try
      return .file (← IO.FS.readBinFile path).toList
    catch _ => return .nothing

def main (args : List String) : IO UInt32 := do
  let target ← namedTarget args
  let outcome := CommandLine.run (fun _ => target) Scheme.standard args
  match outcome.output with
  | .report lines => lines.forM IO.println
  | .raw text => IO.print text
  if let some text := outcome.complaint then IO.eprintln text
  return outcome.status.toUInt32
