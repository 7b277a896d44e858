import CbrAudio.Log.Record

/-!
# Loggers

A logger keeps the records that are severe enough, as long as they have somewhere to go.

* `Logger` — level, component and outputs.
* `Logger.enabled` — whether a record of some level would be kept.
* `Logger.log` — **the records** that a message leaves: one or none.
-/

namespace CbrAudio.Log

/-- What is kept of the messages of one component, and where it goes. -/
structure Logger where
  level : Level
  component : Option String := none
  toConsole : Bool
  toFile : Bool
  deriving DecidableEq, Repr

namespace Logger

/-- A logger that writes to the console alone. -/
def console (level : Level) : Logger where
  level := level
  toConsole := true
  toFile := false

/-- A logger without any output. -/
def silent : Logger where
  level := .error
  toConsole := false
  toFile := false

/-- The logger of a component: same level, same outputs. -/
def forComponent (logger : Logger) (component : String) : Logger :=
  { logger with component := some component }

/-- Whether a record of this level would reach an output. -/
def enabled (logger : Logger) (level : Level) : Bool :=
  logger.level.severity ≤ level.severity && (logger.toConsole || logger.toFile)

/-- The records that a message leaves. -/
def log (logger : Logger) (level : Level) (message : String) : List Record :=
  if logger.enabled level then [⟨level, logger.component, message⟩] else []

end Logger

end CbrAudio.Log
