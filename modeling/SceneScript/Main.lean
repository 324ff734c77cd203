import SceneScript.CommandLine.Run
/-!
# The program

Brings the files that a command looks at into memory, runs the command on them and writes back what it has changed.
-/
namespace SceneScript.CommandLine

/-- What the program takes. -/
def usage : String := "\n".intercalate [
  "Usage: scenescript [OPTIONS] <COMMAND>",
  "",
  "Commands:",
  "  prepare       Back up the scripts before the first change",
  "  revert        Put the backup in place of the scripts",
  "  export        Write the dump of every script to a directory of the game",
  "  import <DIR>  Merge the sets of new strings in a directory, then save",
  "  apply [DIR]   Take the edited dumps in a directory, then save",
  "  save          Assemble every script from its dump and save",
  "  help          Show this help",
  "",
  "Options:",
  "      --settings <FILE>      Settings in JSON",
  "      --game <DIR>           The directory of the game",
  "      --encoding <ENCODING>  The character set of saved strings: big5 or sjis",
  "      --no-en-tweaks         Leave English typography as it is",
  "      --no-line-wrap         Do not wrap lines",
  "  -v, --verbose              Report more",
  "  -h, --help                 Show this help",
  "  -V, --version              Show the version"]

/-- What is shown for arguments that name no command to run. -/
def UsageError.message : UsageError → String
  | invalidValue => "error: a value is missing or empty"
  | valueValidation => "error: unknown encoding, expected big5 or sjis"
  | tooManyValues => "error: an option that takes no value has one"
  | unknownArgument => "error: unknown argument"
  | invalidSubcommand => "error: unknown command"
  | missingSubcommand => "error: a command is missing"
  | missingRequiredArgument => "error: the directory is missing"
  | argumentConflict => "error: an option is given twice"
  | displayHelp => usage
  | displayVersion => "scenescript 0.1.0"
  | helpOnMissing => usage

/-- The exit code for arguments that name no command to run. -/
def UsageError.exitCode : UsageError → UInt32
  | displayHelp => 0
  | displayVersion => 0
  | _ => 2

/-- Brings a file, or a directory with all below it, into memory. What is not there is left out. -/
partial def fetch (disk : Disk) (p : Path) : IO Disk := do
  let place := (← IO.currentDir) / p
  if ← place.isDir then
    let items ← place.readDir
    items.foldlM (fun disk item => fetch disk (p.join item.fileName)) ((disk.makeDirectory p).toOption.getD disk)
  else if ← place.pathExists then
    let data ← IO.FS.readBinFile place
    let disk := (disk.makeDirectory p.directory).toOption.getD disk
    return (disk.write p data.toList).toOption.getD disk
  else return disk

/-- Writes a file or makes a directory, with the directories above it. -/
def store (at' : Location) (node : Node) : IO Unit := do
  match node with
  | .dir => IO.FS.createDirAll ("/" ++ "/".intercalate at')
  | .file data =>
    IO.FS.createDirAll ("/" ++ "/".intercalate at'.dropLast)
    IO.FS.writeBinFile ("/" ++ "/".intercalate at') ⟨data.toArray⟩

def isShown (verbose : Bool) (line : LogLine) : Bool := verbose || line.level != .debug

/-- Runs a command on the files of the machine; the exit code. -/
def runOnFiles (args : Arguments) : IO UInt32 := do
  let here := (← IO.currentDir).toString
  let start ← args.settings?.toList.foldlM fetch (Disk.empty (Path.parts here |>.filter (· ≠ "")))
  let before ← match (settingsOf args).run ⟨start, []⟩ with
    | (.ok settings, _) => (inputsOf settings args.command).foldlM fetch start
    | (.error _, _) => pure start
  let (result, workplace) := (run args).run ⟨before, []⟩
  (workplace.disk.newerThan before).forM fun (at', node) => store at' node
  (workplace.log.filter (isShown args.verbose)).forM fun line => IO.eprintln line.text
  match result with
  | .ok _ => return 0
  | .error e =>
    IO.eprintln e.message
    return 1

end SceneScript.CommandLine

open SceneScript in
def main (args : List String) : IO UInt32 := do
  match CommandLine.parse args with
  | .ok args => CommandLine.runOnFiles args
  | .error e =>
    if e.exitCode = 0 then IO.println e.message else IO.eprintln e.message
    return e.exitCode
