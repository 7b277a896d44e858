import CbrAudio.Log.Level

/-!
# Log records

* `Record` — one message with its level and the component it comes from.
* `Record.text` — how a record is written, apart from the time at which it was written.
* `Record.line` — the record as a line of a log, with its time in front.
-/

namespace CbrAudio.Log

/-- One message of a log. -/
structure Record where
  level : Level
  component : Option String
  message : String
  deriving DecidableEq, Repr

namespace Record

def text (record : Record) : String :=
  match record.component with
  | some component => record.level.name ++ " [" ++ component ++ "]: " ++ record.message
  | none => record.level.name ++ ": " ++ record.message

/-- The record as it is written at the time `stamp`. -/
def line (stamp : String) (record : Record) : String :=
  "[" ++ stamp ++ "] " ++ record.text ++ "\n"

end Record

end CbrAudio.Log
