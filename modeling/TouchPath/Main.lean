import TouchPath.Cli.Run

/-! # The program

Reads the files that the arguments may name, runs the command line over them, and carries the
outcome out.
-/
namespace TouchPath
set_option autoImplicit false

/-- Names that an argument may mean: itself, what follows an equals sign or a letter, and the
directories of these. -/
def namesIn (arg : String) : List String :=
  let value := ((Cli.splitValue arg).2).getD ""
  let attached := String.ofList (arg.toList.drop 2)
  let names := [arg, value, attached].map Files.normalName
  (names ++ names.map Files.directoryOf).eraseDups

/-- What the file tree has under a name. -/
def entryOf (name : String) : IO (Option FileEntry) := do
  try
    let path ← IO.FS.realPath name
    if ← path.isDir then return some .directory
    else if ← path.pathExists then return some (.file (← IO.FS.readFile path))
    else return none
  catch _ => return none

def readEntries (names : List String) : IO (List (String × FileEntry)) := do
  let entries ← names.mapM fun name => do return (← entryOf name).map (name, ·)
  return entries.filterMap id

def carryOut : Cli.Outcome → IO Unit
  | .help | .usage => IO.eprintln "usage: circle | curve | swipe | parse-bounds | compile"
  | .done output written => do
    if let some (name, text) := written then IO.FS.writeFile name text
    IO.print output
  | .failed report => IO.eprint report
  | .escaped fault => IO.eprintln fault.message

def tell (n : Notice) : IO Unit :=
  match n.level, n.message with
  | .warning, .ok text => IO.eprintln text
  | _, _ => pure ()

end TouchPath

def main (args : List String) : IO UInt32 := do
  let entries ← TouchPath.readEntries (args.flatMap TouchPath.namesIn).eraseDups
  let files : TouchPath.Files := fun name => List.lookup name entries
  let (outcome, notices) :=
    TouchPath.Cli.run TouchPath.Json.floatText TouchPath.Yaml.Wording.ofName files args
  notices.forM TouchPath.tell
  TouchPath.carryOut outcome
  return outcome.exitCode
