import CbrAudio.Log.Record

/-!
# Reading a log

The text of a log is a sequence of records, each of which begins with its time.  A message may
have several lines, and a file may have held other text before its first record.

* `stamped?` — a line without the time in front, if it has one there.
* `joinLines` — **the records** of a list of lines: a line without a time belongs to the record
  before it.
* `entries` — the records of a text.
-/

namespace CbrAudio.Log.Journal

/-- The form of the time in front of a record; `d` stands for a digit. -/
def stampForm : List Char := "[dddd-dd-dd dd:dd:dd.ddd] ".toList

/-- The text after the characters that a form asks for. -/
def after? : List Char → List Char → Option (List Char)
  | [], s => some s
  | _ :: _, [] => none
  | f :: fs, c :: s => if (if f = 'd' then c.isDigit else c = f) then after? fs s else none

/-- A line without the time in front. -/
def stamped? (line : List Char) : Option (List Char) := after? stampForm line

/-- The lines of a text, with the line feeds between them left out. -/
def lines : List Char → List (List Char)
  | [] => [[]]
  | c :: s =>
    if c = '\n' then [] :: lines s
    else
      match lines s with
      | [] => [[c]]
      | line :: rest => (c :: line) :: rest

/-- The lines that belong to the record in front of them, and those from the next record on. -/
def splitAtStamp : List (List Char) → List (List Char) × List (List Char)
  | [] => ([], [])
  | line :: rest =>
    if (stamped? line).isSome then ([], line :: rest)
    else (line :: (splitAtStamp rest).1, (splitAtStamp rest).2)

theorem length_splitAtStamp_le (ls : List (List Char)) :
    (splitAtStamp ls).2.length ≤ ls.length := by
  induction ls with
  | nil => exact Nat.le_refl _
  | cons line rest ih =>
    rw [splitAtStamp]
    split
    · exact Nat.le_refl _
    · exact Nat.le_succ_of_le ih

/-- The records of a list of lines.  Lines in front of the first time form a record of their
own. -/
def joinLines (ls : List (List Char)) : List String :=
  match ls with
  | [] => []
  | line :: rest =>
    let first := (stamped? line).getD line
    String.ofList (List.intercalate ['\n'] (first :: (splitAtStamp rest).1)) ::
      joinLines (splitAtStamp rest).2
termination_by ls.length
decreasing_by
  have := length_splitAtStamp_le rest
  simp only [List.length_cons]
  omega

/-- The text without a line feed at its end. -/
def dropLastFeed (s : List Char) : List Char :=
  if s.getLast? = some '\n' then s.dropLast else s

/-- The records of the text of a log; an empty text has none. -/
def entries (s : String) : List String :=
  if s.isEmpty then [] else joinLines (lines (dropLastFeed s.toList))

end CbrAudio.Log.Journal
