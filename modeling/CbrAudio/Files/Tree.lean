/-!
# A tree of files

A working directory with the files and directories below it.  Nothing else is known: what lies
outside of it are directories without entries.

* `Node`, `Tree` — what stands at a place, and the places that hold something.
* `Refusal` — why the system does not do what is asked, with its wording.
* `nameLimit`, `pathLimit`, `pathFault?` — how long names and paths are, and what is wrong with a
  path before a step of it is taken.
* `Tree.resolve` — **the place** that a path leads to, step by step.
* `Tree.read`, `Tree.openLog`, `Tree.append` — reading a file, and writing at the end of one.
-/

namespace CbrAudio.Files

/-- What stands at a place. -/
inductive Node where
  | file (content : ByteArray)
  | directory

/-- The entries of the working directory, each under the names that lead to it.  The directories
on the way to an entry need no entry of their own. -/
structure Tree where
  entries : List (List String × Node)

/-- Why the system does not do what is asked. -/
inductive Refusal where
  | notFound
  | notDirectory
  | isDirectory
  /-- A path, or a name on it, is longer than the system takes. -/
  | nameTooLong
  /-- No path holds the character zero. -/
  | zeroInPath
  /-- The bytes of the file are not a text. -/
  | notText
  deriving DecidableEq, Repr

namespace Refusal

def message : Refusal → String
  | .notFound => "No such file or directory (os error 2)"
  | .notDirectory => "Not a directory (os error 20)"
  | .isDirectory => "Is a directory (os error 21)"
  | .nameTooLong => "File name too long (os error 36)"
  | .zeroInPath => "file name contained an unexpected NUL byte"
  | .notText => "stream did not contain valid UTF-8"

end Refusal

/-- A place: below the working directory under some names, or outside of it. -/
inductive Place where
  | inside (names : List String)
  | outside
  deriving DecidableEq, Repr

/-! ## Paths -/

/-- The parts of a path between its slashes. -/
def parts : List Char → List (List Char)
  | [] => [[]]
  | c :: s =>
    if c = '/' then [] :: parts s
    else
      match parts s with
      | [] => [[c]]
      | part :: rest => (c :: part) :: rest

/-- The steps of a path: its parts, less the empty ones. -/
def steps (path : String) : List String :=
  ((parts path.toList).filter fun part => !part.isEmpty).map String.ofList

def isAbsolute (path : String) : Bool := path.toList.head? == some '/'

def endsWithSlash (path : String) : Bool := path.toList.getLast? == some '/'

/-- A path taken from a base: an absolute one stands for itself. -/
def join (base path : String) : String :=
  if isAbsolute path then path
  else if endsWithSlash base then base ++ path
  else base ++ "/" ++ path

/-- The most bytes of a name. -/
def nameLimit : Nat := 255

/-- The most bytes of a path. -/
def pathLimit : Nat := 4095

/-- What is wrong with a path whatever the tree holds. -/
def pathFault? (path : String) : Option Refusal :=
  if path.toList.contains '\x00' then some .zeroInPath
  else if path.isEmpty then some .notFound
  else if pathLimit < path.utf8ByteSize then some .nameTooLong
  else none

namespace Tree

/-- What stands at a place of the working directory. -/
def find? (tree : Tree) (names : List String) : Option Node :=
  match tree.entries.lookup names with
  | some node => some node
  | none =>
    if names.isEmpty || tree.entries.any (fun entry => names.isPrefixOf entry.1)
    then some .directory else none

def nodeAt? (tree : Tree) : Place → Option Node
  | .inside names => tree.find? names
  | .outside => some .directory

/-- One step from a place, which has to be a directory.  None holds a name beyond `nameLimit`. -/
def step (tree : Tree) (place : Place) (name : String) : Except Refusal Place :=
  match tree.nodeAt? place with
  | none => .error .notFound
  | some (.file _) => .error .notDirectory
  | some .directory =>
    if nameLimit < name.utf8ByteSize then .error .nameTooLong
    else if name = "." then .ok place
    else
      match place with
      | .outside => if name = ".." then .ok .outside else .error .notFound
      | .inside names =>
        if name = ".." then
          if names.isEmpty then .ok .outside else .ok (.inside names.dropLast)
        else .ok (.inside (names ++ [name]))

/-- The place at the end of some steps; only the last one may lead to where nothing stands. -/
def walk (tree : Tree) : Place → List String → Except Refusal Place
  | place, [] => .ok place
  | place, name :: names =>
    match tree.step place name with
    | .error refusal => .error refusal
    | .ok next => tree.walk next names

/-- Where the steps of a path begin. -/
def start (path : String) : Place := if isAbsolute path then .outside else .inside []

/-- **What stands at the end of a path.**  A path that ends with a slash leads to a directory. -/
def resolve (tree : Tree) (path : String) : Except Refusal Node :=
  match pathFault? path with
  | some refusal => .error refusal
  | none =>
    match tree.walk (start path) (steps path) with
    | .error refusal => .error refusal
    | .ok place =>
      match tree.nodeAt? place with
      | none => .error .notFound
      | some (.file content) =>
        if endsWithSlash path then .error .notDirectory else .ok (.file content)
      | some .directory => .ok .directory

/-- Whether anything stands at the end of a path. -/
def has (tree : Tree) (path : String) : Bool :=
  match tree.resolve path with
  | .ok _ => true
  | .error _ => false

/-- The text of the file at the end of a path. -/
def read (tree : Tree) (path : String) : Except Refusal String :=
  match tree.resolve path with
  | .error refusal => .error refusal
  | .ok .directory => .error .isDirectory
  | .ok (.file content) =>
    match String.fromUTF8? content with
    | some text => .ok text
    | none => .error .notText

/-! ## Writing at the end of a file -/

/-- The names of the file that a log at the end of a path is written to.  The file need not exist,
but the directory it is in does.  A path that ends with a slash leads to a directory whatever its
last step is, so that step is not taken. -/
def openLog (tree : Tree) (path : String) : Except Refusal (List String) :=
  match pathFault? path with
  | some refusal => .error refusal
  | none =>
    if endsWithSlash path then
      match tree.walk (start path) ((steps path).dropLast ++ ["."]) with
      | .error refusal => .error refusal
      | .ok _ => .error .isDirectory
    else
      match tree.walk (start path) (steps path) with
      | .error refusal => .error refusal
      | .ok .outside => .error .isDirectory
      | .ok (.inside names) =>
        match tree.find? names with
        | some .directory => .error .isDirectory
        | _ => .ok names

/-- The tree after a text has been written at the end of a file, which is made if need be. -/
def append (tree : Tree) (names : List String) (text : String) : Tree :=
  let old :=
    match tree.find? names with
    | some (.file content) => content
    | _ => ByteArray.empty
  ⟨(names, .file (old ++ text.toUTF8)) :: tree.entries.filter fun entry => entry.1 != names⟩

end Tree

end CbrAudio.Files
