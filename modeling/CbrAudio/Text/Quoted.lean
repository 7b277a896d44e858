import CbrAudio.Text.Hidden

/-!
# Quoted text

Text inside a message stands between double quotes.  What cannot be seen, and the quote and the
backslash themselves, are escaped.

* `Text.escaped` — the form of one character between the quotes.
* `Text.quoted` — a text with its quotes.
-/

namespace CbrAudio.Text

/-- A character between the quotes: the common ones have a short escape, all others that are not
shown stand as their number in hexadecimal. -/
def escaped (c : Char) : List Char :=
  match c with
  | '\x00' => ['\\', '0']
  | '\t' => ['\\', 't']
  | '\n' => ['\\', 'n']
  | '\r' => ['\\', 'r']
  | '"' => ['\\', '"']
  | '\\' => ['\\', '\\']
  | c =>
    if isHidden c then ['\\', 'u', '\x7b'] ++ Nat.toDigits 16 c.toNat ++ ['\x7d']
    else [c]

/-- The text between double quotes. -/
def quoted (s : String) : String :=
  String.ofList ('"' :: s.toList.flatMap escaped ++ ['"'])

end CbrAudio.Text
