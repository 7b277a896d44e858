import CbrAudio.Fault
import CbrAudio.Log.Record
import CbrAudio.Text.Utf8

/-!
# Log files

* `Log.openFile` — the file that a log is written to, if it is written to one.
* `Log.store` — **the tree of files** after records have been written at the end of that file.
* `Log.read` — the text of a log, which other writers may have left octets in that are no text.
-/

namespace CbrAudio.Log

open Files

/-- The file at the end of a path.  It need not be there yet, but a directory must be. -/
def openFile (tree : Tree) (path : Option String) : Except Fault (Option (List String)) :=
  match path with
  | none => .ok none
  | some path =>
    match tree.openLog path with
    | .error refusal => .error (.logFile refusal.message)
    | .ok names => .ok (some names)

/-- The text of records that are written at the time `stamp`. -/
def text (stamp : String) (records : List Record) : String :=
  String.join (records.map (Record.line stamp))

/-- The tree after records have been written at the end of a file.  The file is made even if there
are none. -/
def store (tree : Tree) (file : Option (List String)) (stamp : String) (records : List Record) :
    Tree :=
  match file with
  | none => tree
  | some names => tree.append names (text stamp records)

/-- The text of the log at the end of a path, if a file is there. -/
def read (tree : Tree) (path : String) : Option String :=
  match tree.resolve path with
  | .ok (.file content) => some (Text.Utf8.decode content)
  | _ => none

end CbrAudio.Log
