import CbrAudio.Files.Search
import CbrAudio.Json.Fault
import CbrAudio.SetupFault

/-!
# Faults

Everything that can go wrong in the library, under one type.

* `Fault` — the causes.
* `Fault.message` — the wording of each.
* `Fault.isSetup` — whether the setup of a stream is to blame.
* `Fault.cause?` — the wording of the fault underneath, for faults that only pass one on.
-/

namespace CbrAudio

/-- What went wrong. -/
inductive Fault where
  /-- The setup of a stream does not allow it to be cut into packets. -/
  | setup (why : SetupFault)
  /-- The receiver of a packet did not take it. -/
  | rejected (reason : String)
  /-- The bytes of a packet make no sense. -/
  | rtp (problem : String)
  /-- There is no text of settings. -/
  | settingsFile (why : Files.FileFault)
  /-- The text of the settings cannot be read. -/
  | settingsText (why : Json.Fault)
  /-- A log file cannot be opened. -/
  | logFile (reason : String)
  deriving DecidableEq, Repr

namespace Fault

def message : Fault → String
  | .setup why => why.message
  | .rejected reason => "sink rejected packet: " ++ reason
  | .rtp problem => "RTP error: " ++ problem
  | .settingsFile why => why.message
  | .settingsText why => "invalid configuration file: " ++ why.message
  | .logFile reason => "I/O error: " ++ reason

/-- Whether layout or limits of a stream are to blame. -/
def isSetup : Fault → Bool
  | .setup _ => true
  | _ => false

/-- The wording of the fault underneath. -/
def cause? : Fault → Option String
  | .rejected reason => some reason
  | .settingsText why => some why.message
  | .logFile reason => some reason
  | _ => none

end Fault

end CbrAudio
