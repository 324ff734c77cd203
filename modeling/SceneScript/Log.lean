/-!
# Log lines

What an operation reports besides its answer, oldest line first.
-/
namespace SceneScript

inductive Level where
  | error
  | warn
  | info
  | debug
deriving DecidableEq, Repr

def Level.name : Level → String
  | .error => "ERROR"
  | .warn => "WARN"
  | .info => "INFO"
  | .debug => "DEBUG"

structure LogLine where
  level : Level
  text : String
deriving DecidableEq, Repr

/-- A line as it is written: level, colon and text. -/
def LogLine.render (line : LogLine) : String := line.level.name ++ ": " ++ line.text

abbrev Log := List LogLine

namespace Log

def error (text : String) : LogLine := ⟨.error, text⟩

def warn (text : String) : LogLine := ⟨.warn, text⟩

def info (text : String) : LogLine := ⟨.info, text⟩

def debug (text : String) : LogLine := ⟨.debug, text⟩

end Log
end SceneScript
