import Evidence.FileTree.Snapshot
import Evidence.Footprint
import Std.Time.DateTime.Timestamp

/-!
# The command

Runs the program in the world of the process: its arguments, its environment, its standard
streams and the part of the file system that the command touches.  No cluster is connected, so a
command that needs one fails as it does without a kubeconfig.
-/

open Evidence Evidence.CommandLine

/-- The values of the variables that settings depend on. -/
def readEnvironment : IO Environment := do
  let values ← Settings.variableNames.filterMapM fun name => do
    return (← IO.getEnv (String.ofList name)).map fun value => (name, value.toList)
  return fun name => values.lookup name

/-- The location of a path that has no parts besides names. -/
def locationOf (path : String) : Location :=
  (Path.names ⟨path.toList⟩).reverse

/-- The path of a location, for the system. -/
def systemPath (loc : Location) : String :=
  String.ofList (Path.ofLocation loc).text

/-- The working directory.  One that is gone has a place that no tree holds. -/
def findCwd : IO Location := do
  try
    return locationOf (← IO.currentDir).toString
  catch _ => return [[]]

/-- What is found at a location: a file with its content, a directory, or nothing.  Modes are not
looked up, as a run keeps those of what is there. -/
def findEntry (loc : Location) : IO (Option (Location × FileTree.Entry)) := do
  try
    let here ← IO.currentDir
    let found ← (here / systemPath loc).metadata
    match found.type with
    | .dir => return some (loc, .directory 0o755)
    | .file =>
      let content ← IO.FS.readBinFile (here / systemPath loc)
      return some (loc, .file 0o644 content.toList)
    | _ => return none
  catch _ => return none

/-- The part of the file system that some paths pass, with the working directory. -/
def snapshot (cwd : Location) (paths : List Path) : IO FileTree := do
  let places := (.ofLocation cwd :: paths).flatMap (FileTree.places cwd)
  let found ← places.filterMapM findEntry
  return FileTree.ofFound found

/-- The rights that a mode gives. -/
def rightsOf (mode : Nat) : IO.FileRight :=
  let rights (shift : Nat) : IO.AccessRight :=
    ⟨mode.testBit (shift + 2), mode.testBit (shift + 1), mode.testBit shift⟩
  ⟨rights 6, rights 3, rights 0⟩

/-- Make a change to the file system.  Only what is new has its mode set. -/
def applyChange (before : FileTree) (change : Location × FileTree.Entry) : IO Unit := do
  let path := systemPath change.1
  match change.2 with
  | .directory _ => IO.FS.createDir path
  | .file _ content => IO.FS.writeBinFile path ⟨content.toArray⟩
  if (before.find? change.1).isNone then IO.setAccessRights path (rightsOf change.2.mode)

/-- The time that it is. -/
def readClock : IO Instant := do
  let now ← Std.Time.Timestamp.now
  return ⟨now.val.second.val, now.val.nano.val.toNat % 1000000000, by omega⟩

/-- A short answer to words that make no command. -/
def shortUsage (_ : List Text) : Stop → Text
  | .help => "Usage: controller-logs [OPTIONS] <COMMAND>\n".toList
  | .nothingGiven => "Usage: controller-logs [OPTIONS] <COMMAND>\n".toList
  | .missingCommand => "error: a subcommand is required but one was not provided\n".toList
  | .unknownCommand => "error: unrecognized subcommand\n".toList
  | .unknownArgument => "error: unexpected argument found\n".toList
  | .repeated => "error: an argument cannot be used multiple times\n".toList
  | .unneededValue => "error: unexpected value for an argument found\n".toList
  | .missingValue => "error: a value is required but none was supplied\n".toList
  | .missingArgument => "error: one or more required arguments were not provided\n".toList
  | .badValue argument reason =>
    "error: invalid value for '".toList ++ argument.usage ++ "': ".toList ++ reason ++ ['\n']

/-- Run the program. -/
def main (args : List String) : IO UInt32 := do
  let words := args.map String.toList
  let environment ← readEnvironment
  let cwd ← findCwd
  let settings : Settings := .ofEnvironment environment (.ofLocation cwd)
  let command? := (Invocation.parse words).toOption.map (·.command)
  let touched (c : Command) := Footprint.written settings c ++ (Footprint.file? c).toList
  let paths := (command?.map touched).getD []
  let tree ← snapshot cwd paths
  let input ←
    if command?.any Footprint.readsInput then (← IO.getStdin).readBinToEnd else pure ByteArray.empty
  let outcome := Program.run words
    { environment, cwd, tree, input := input.toList, access := .outside none,
      now := ← readClock, usage := shortUsage }
  (← IO.getStdout).write (ByteArray.mk (Utf8.encode outcome.output).toArray)
  (FileTree.changes tree outcome.tree).forM (applyChange tree)
  IO.eprint (String.ofList outcome.ending.message)
  return outcome.ending.code.toUInt32
