import CbrAudio.Fault
import CbrAudio.Log.Logger
import CbrAudio.Settings

/-!
# Where settings come from

* `Settings.ofText` — the settings in a text.
* `Settings.load`, `Settings.find` — the settings in a file that is named, or that is looked for
  under its usual name.
* `LogSettings.logger` — the logger that the settings ask for.
-/

namespace CbrAudio

namespace Settings

/-- The usual name of the file. -/
def fileName : String := "payloader.json"

/-- The settings in a text. -/
def ofText (text : String) (lib : Json.Library := Json.library) : Except Fault Settings :=
  (parse text lib).mapError .settingsText

/-- The settings in the text of a file. -/
def ofFile (text : Except Files.FileFault String) (lib : Json.Library := Json.library) :
    Except Fault Settings :=
  match text with
  | .error why => .error (.settingsFile why)
  | .ok text => ofText text lib

/-- The settings in a file that is named. -/
def load (tree : Files.Tree) (path : String) (lib : Json.Library := Json.library) :
    Except Fault Settings :=
  ofFile (Files.load tree path) lib

/-- The settings in the file that is looked for under its usual name. -/
def find (tree : Files.Tree) (override : Option String) (lib : Json.Library := Json.library) :
    Except Fault Settings :=
  ofFile (Files.locateAndLoad tree override fileName) lib

end Settings

namespace LogSettings

/-- The logger of a component. -/
def logger (l : LogSettings) (component : String) : Log.Logger where
  level := Log.Level.ofName l.level
  component := some component
  toConsole := l.toConsole
  toFile := l.toFile

/-- The path of the log file, if there is to be one. -/
def file? (l : LogSettings) : Option String := if l.toFile then some l.path else none

end LogSettings

end CbrAudio
