import CbrAudio.Text.Blank

/-!
# Levels of severity

* `Level` — five levels, ordered by `Level.severity` from the least to the most severe.
* `Level.name` — the name in a record.
* `Level.ofName` — the level that a name stands for; an unknown name stands for the middle one.
-/

namespace CbrAudio.Log

/-- How severe a message is. -/
inductive Level where
  | trace
  | debug
  | info
  | warn
  | error
  deriving DecidableEq, Repr

namespace Level

/-- All levels, the least severe first. -/
def all : List Level := [.trace, .debug, .info, .warn, .error]

def severity : Level → Nat
  | .trace => 0
  | .debug => 1
  | .info => 2
  | .warn => 3
  | .error => 4

/-- The name of the level in a record. -/
def name : Level → String
  | .trace => "TRACE"
  | .debug => "DEBUG"
  | .info => "INFO"
  | .warn => "WARN"
  | .error => "ERROR"

/-- The level that a name stands for.  Blanks around the name and the case of its letters do not
matter; the names hold no letter that a character beyond ASCII is another case of. -/
def ofName (name : String) : Level :=
  match String.ofList ((Text.trim name.toList).map Char.toLower) with
  | "trace" => .trace
  | "debug" => .debug
  | "warn" | "warning" => .warn
  | "error" => .error
  | _ => .info

end Level

end CbrAudio.Log
