import SceneScript.CommandLine.Arguments
import SceneScript.Session.Scripts
/-!
# Running a command

Each command opens a session of its own.
-/
namespace SceneScript.CommandLine

/-- The settings of a run: those of the settings file, changed by the options. -/
def settingsOf (args : Arguments) : Act Workplace Settings := do
  let settings ← match args.settings? with
    | some p => Settings.load p
    | none => pure Settings.default
  return { settings with
    gamePath := args.game?.getD settings.gamePath
    target := args.charset?.getD settings.target
    english := settings.english && !args.noEnglish
    wraps := settings.wraps && !args.noWrap }

/-- The files and directories that a command looks at, besides the settings file. -/
def inputsOf (settings : Settings) (command : Command) : List Path :=
  let operands := match command with
    | .importSets directory => [directory]
    | .applyDumps directory? => directory?.toList
    | _ => []
  [scenePath, backupPath, fontsPath, dumpsPath].map settings.gamePath.join ++ settings.speakers?.toList ++ operands

def saveIf (changes : Nat) : Act Bench Unit := do
  if 0 < changes then
    Bench.save
    Bench.report [Log.info "Saved successfully"]

def run (args : Arguments) : Act Workplace Unit := do
  let settings ← settingsOf args
  match args.command with
  | .prepare =>
    let _ ← Session.prepare settings
    Workplace.report [Log.info "Scripts prepared"]
  | .revert => (← Session.load settings).run Bench.revert
  | .exportDumps => (← Session.load settings).run do
    let _ ← Bench.exportDumps
  | .importSets directory => (← Session.load settings).run do saveIf (← Bench.importSets directory)
  | .applyDumps directory? => (← Session.load settings).run do
    saveIf (← Bench.applyDumps (directory?.getD (settings.gamePath.join dumpsPath)))
  | .save => (← Session.load settings).run do
    Bench.save
    Bench.report [Log.info "Saved successfully"]

end SceneScript.CommandLine
