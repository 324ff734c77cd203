import SceneScript.Charset
import SceneScript.Files.Path
/-!
# Command line arguments

Options may stand before or after the command. The value of an option is checked when the next option or operand is
read, or at the end; an option after the command counts more than one before it.
-/
namespace SceneScript.CommandLine

/-- Why arguments are refused, or what they ask for instead of a command. -/
inductive UsageError where
  | invalidValue
  | valueValidation
  | tooManyValues
  | unknownArgument
  | invalidSubcommand
  | missingSubcommand
  | missingRequiredArgument
  | argumentConflict
  | displayHelp
  | displayVersion
  /-- There are no arguments at all. -/
  | helpOnMissing
deriving DecidableEq, Repr

inductive Command where
  | prepare
  | revert
  | exportDumps
  | importSets (directory : Path)
  | applyDumps (directory? : Option Path)
  | save
deriving DecidableEq, Repr

/-- What the options and operands of one level say. -/
structure Given where
  settings? : Option Path := none
  game? : Option Path := none
  charset? : Option Charset := none
  noEnglish : Bool := false
  noWrap : Bool := false
  verbose : Bool := false
  operand? : Option Path := none
deriving DecidableEq, Repr

structure Arguments where
  settings? : Option Path
  game? : Option Path
  charset? : Option Charset
  noEnglish : Bool
  noWrap : Bool
  verbose : Bool
  command : Command
deriving DecidableEq, Repr

/-- What a value is for. -/
inductive Slot where
  | settings
  | game
  | charset
  | operand
deriving DecidableEq, Repr

inductive Switch where
  | noEnglish
  | noWrap
  | verbose
  | help
  | version
deriving DecidableEq, Repr

inductive OptionKind where
  | valued (slot : Slot)
  | switch (s : Switch)
deriving DecidableEq, Repr

/-- A level of the command line: the one in front of the command, or the one after it with so many operands. -/
inductive LevelKind where
  | main
  | command (operands : Nat)
deriving DecidableEq, Repr

def longOption? (level : LevelKind) (name : Text) : Option OptionKind :=
  if name = "settings".toList then some (.valued .settings)
  else if name = "game".toList then some (.valued .game)
  else if name = "encoding".toList then some (.valued .charset)
  else if name = "no-en-tweaks".toList then some (.switch .noEnglish)
  else if name = "no-line-wrap".toList then some (.switch .noWrap)
  else if name = "verbose".toList then some (.switch .verbose)
  else if name = "help".toList then some (.switch .help)
  else if name = "version".toList ∧ level = .main then some (.switch .version)
  else none

def shortSwitch? (level : LevelKind) (letter : Char) : Option Switch :=
  if letter = 'v' then some .verbose
  else if letter = 'h' then some .help
  else if letter = 'V' ∧ level = .main then some .version
  else none

structure Level where
  given : Given := {}
  /-- A slot whose value is still to be checked; no value if none has come yet. -/
  pending? : Option (Slot × Option String) := none
  /-- Whether the next argument is the pending slot's value, unless it looks like an option. -/
  awaiting : Bool := false
  /-- Whether `--` has come, after which nothing is an option. -/
  trailing : Bool := false
  operands : Nat := 0
deriving DecidableEq, Repr

namespace Given

/-- A path must not be empty. -/
def path (value : String) : Except UsageError Path := if value.isEmpty then .error .invalidValue else .ok value

/-- Stores the value of a slot. A slot takes one value. -/
def put (g : Given) (slot : Slot) (value : String) : Except UsageError Given :=
  match slot with
  | .settings =>
    if g.settings?.isSome then .error .argumentConflict else do return { g with settings? := some (← path value) }
  | .game => if g.game?.isSome then .error .argumentConflict else do return { g with game? := some (← path value) }
  | .charset =>
    if g.charset?.isSome then .error .argumentConflict
    else
      match Charset.ofName? (String.ofList (value.toList.map Char.toLower)) with
      | some cs => .ok { g with charset? := some cs }
      | none => .error .valueValidation
  | .operand => do return { g with operand? := some (← path value) }

/-- Turns a switch on. A switch is given once; help and version end the reading. -/
def turnOn (g : Given) : Switch → Except UsageError Given
  | .noEnglish => if g.noEnglish then .error .argumentConflict else .ok { g with noEnglish := true }
  | .noWrap => if g.noWrap then .error .argumentConflict else .ok { g with noWrap := true }
  | .verbose => if g.verbose then .error .argumentConflict else .ok { g with verbose := true }
  | .help => .error .displayHelp
  | .version => .error .displayVersion

end Given

namespace Level

/-- Checks and stores the pending value. -/
def settle (l : Level) : Except UsageError Level :=
  match l.pending? with
  | none => .ok l
  | some (_, none) => .error .invalidValue
  | some (slot, some value) => do return { l with given := ← l.given.put slot value, pending? := none }

/-- Reads an option with a long name; the value may be attached. -/
def readLong (l : Level) (kind : LevelKind) (name : Text) (attached? : Option Text) : Except UsageError Level :=
  match longOption? kind name, attached? with
  | none, _ => .error .unknownArgument
  | some (.valued slot), some value => do
    let l ← l.settle
    return { l with given := ← l.given.put slot (String.ofList value), awaiting := false }
  | some (.valued slot), none => do return { (← l.settle) with pending? := some (slot, none), awaiting := true }
  | some (.switch _), some _ => .error .tooManyValues
  | some (.switch s), none => do
    let l ← l.settle
    return { l with given := ← l.given.turnOn s, awaiting := false }

/-- Reads switches by their letters. -/
def readShort (l : Level) (kind : LevelKind) : Text → Except UsageError Level
  | [] => .ok { l with awaiting := false }
  | letter :: more =>
    match shortSwitch? kind letter with
    | none => .error .unknownArgument
    | some s => do
      let l ← l.settle
      readShort { l with given := ← l.given.turnOn s } kind more

def readOperand (l : Level) (kind : LevelKind) (isCommand : Bool) (value : String) : Except UsageError Level :=
  match kind with
  | .main => .error (if l.trailing && isCommand then .unknownArgument else .invalidSubcommand)
  | .command operands =>
    if l.operands < operands then do
      return { (← l.settle) with pending? := some (.operand, some value), operands := l.operands + 1 }
    else .error .unknownArgument

end Level

def commandNames : List String := ["prepare", "revert", "export", "import", "apply", "save", "help"]

/-- Reads the arguments of a level: what it says, and the name of the command and the arguments after it if there is
one. -/
def readLevel (kind : LevelKind) (l : Level) :
    List String → Except UsageError (Level × Option (String × List String))
  | [] => .ok (l, none)
  | arg :: more =>
    let isCommand := kind == .main && commandNames.contains arg
    if !l.trailing && !l.awaiting && isCommand then .ok (l, some (arg, more))
    else
      match if l.trailing then [] else arg.toList with
      | ['-', '-'] => readLevel kind { l with trailing := true, awaiting := false } more
      | '-' :: '-' :: option =>
        let (name, attached?) := match Text.cutAt '=' option with
          | some (name, value) => (name, some value)
          | none => (option, none)
        match l.readLong kind name attached? with
        | .error e => .error e
        | .ok l => readLevel kind l more
      | '-' :: letter :: letters =>
        match l.readShort kind (letter :: letters) with
        | .error e => .error e
        | .ok l => readLevel kind l more
      | _ =>
        match l.awaiting, l.pending? with
        | true, some (slot, _) => readLevel kind { l with pending? := some (slot, some arg), awaiting := false } more
        | _, _ =>
          match l.readOperand kind isCommand arg with
          | .error e => .error e
          | .ok l => readLevel kind l more

def operandsOf (name : String) : Nat := if name = "import" ∨ name = "apply" then 1 else 0

/-- The command of a name, with its operand. -/
def commandOf (name : String) (operand? : Option Path) : Except UsageError Command :=
  if name = "prepare" then .ok .prepare
  else if name = "revert" then .ok .revert
  else if name = "export" then .ok .exportDumps
  else if name = "apply" then .ok (.applyDumps operand?)
  else if name = "save" then .ok .save
  else
    match operand? with
    | some directory => .ok (.importSets directory)
    | none => .error .missingRequiredArgument

/-- Asks for help on a command, or on the program. -/
def helpOn : List String → UsageError
  | [] => .displayHelp
  | [name] => if commandNames.contains name then .displayHelp else .invalidSubcommand
  | _ => .invalidSubcommand

/-- Puts what the two levels say together. -/
def combine (outer inner : Given) (command : Command) : Arguments where
  settings? := inner.settings?.or outer.settings?
  game? := inner.game?.or outer.game?
  charset? := inner.charset?.or outer.charset?
  noEnglish := outer.noEnglish || inner.noEnglish
  noWrap := outer.noWrap || inner.noWrap
  verbose := outer.verbose || inner.verbose
  command := command

def parse (args : List String) : Except UsageError Arguments := do
  let (outer, command?) ← readLevel .main {} args
  match command? with
  | none =>
    let outer ← outer.settle
    throw (if outer.given = {} then .helpOnMissing else .missingSubcommand)
  | some (name, rest) =>
    if name = "help" then throw (helpOn rest)
    let (inner, _) ← readLevel (.command (operandsOf name)) {} rest
    let inner ← inner.settle
    let command ← commandOf name inner.given.operand?
    let outer ← outer.settle
    return combine outer.given inner.given command

end SceneScript.CommandLine
