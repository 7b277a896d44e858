import CbrAudio.Files.Tree

/-!
# Finding a settings file

The place of the settings is taken from the environment if something stands there; otherwise the
file is looked for by name in two directories.

* `FileFault` — why there is no text, with its wording.
* `candidates` — the places where a file is looked for, the first one first.
* `locate`, `load`, `locateAndLoad` — the path of a file, the text at a path, and both in turn.
-/

namespace CbrAudio.Files

/-- Why there is no text to read. -/
inductive FileFault where
  /-- Nothing stands at `what`. -/
  | missing (what : String)
  /-- What stands there cannot be read; `what` is the path and the reason. -/
  | unreadable (what : String)
  deriving DecidableEq, Repr

namespace FileFault

def message : FileFault → String
  | .missing what => "Configuration file not found: " ++ what
  | .unreadable what => "Failed to read configuration file: " ++ what

end FileFault

/-- The places where a file is looked for by name. -/
def candidates (name : String) : List String := [join "./config" name, join "." name]

/-- The path of a file.  `override` is what the environment says. -/
def locate (tree : Tree) (override : Option String) (name : String) : Except FileFault String :=
  match override.filter tree.has with
  | some path => .ok path
  | none =>
    match (candidates name).find? tree.has with
    | some path => .ok path
    | none => .error (.missing
        ("'" ++ name ++ "' (searched: $PAYLOADER_CONFIG, ./config/" ++ name ++ ", ./" ++ name ++ ")"))

/-- The text at a path. -/
def load (tree : Tree) (path : String) : Except FileFault String :=
  if tree.has path then
    match tree.read path with
    | .ok text => .ok text
    | .error refusal => .error (.unreadable (path ++ ": " ++ refusal.message))
  else .error (.missing path)

/-- The text of a file that is looked for by name. -/
def locateAndLoad (tree : Tree) (override : Option String) (name : String) :
    Except FileFault String :=
  match locate tree override name with
  | .error fault => .error fault
  | .ok path => load tree path

end CbrAudio.Files
