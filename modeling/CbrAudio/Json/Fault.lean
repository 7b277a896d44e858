import CbrAudio.Decimal.Shortest
import CbrAudio.Text.Quoted

/-!
# What can be wrong with a JSON text

A text is read from left to right, and the first thing that does not fit is reported: the text may
end too early, it may not be JSON, or it may be JSON of another kind than asked for.

* `Found`, `Expected` — a value that does not fit, and what was asked for.
* `Fault` — the causes; `Fault.family` sorts them into the three groups.
* `Fault.message` — the wording of each.
-/

namespace CbrAudio.Json

/-- A value that does not fit, as far as a message shows it. -/
inductive Found where
  | integer (n : Int)
  | float (x : Float)
  | boolean (b : Bool)
  | text (s : String)
  | null
  | list
  | object
  deriving DecidableEq, Repr

namespace Found

/-- Numbers are written positionally from `0.00001` up to sixteen digits before the point, and
with a signed exponent beyond. -/
def floatLayout : Decimal.Layout := ⟨-5, 15⟩

def describe : Found → String
  | .integer n => s!"integer `{n}`"
  | .float x => "floating point `" ++ floatLayout.renderFloat x ++ "`"
  | .boolean b => "boolean `" ++ (if b then "true" else "false") ++ "`"
  | .text s => "string " ++ Text.quoted s
  | .null => "null"
  | .list => "sequence"
  | .object => "map"

end Found

/-- What a reader asks for. -/
inductive Expected where
  | byte
  | word32
  | word64
  | size
  | boolean
  | text
  /-- An object, or the list of its values, with this name. -/
  | record (name : String)
  deriving DecidableEq, Repr

namespace Expected

def describe : Expected → String
  | .byte => "u8"
  | .word32 => "u32"
  | .word64 => "u64"
  | .size => "usize"
  | .boolean => "a boolean"
  | .text => "a string"
  | .record name => "struct " ++ name

end Expected

/-- The three groups of faults. -/
inductive Family where
  /-- The text ends too early. -/
  | ending
  /-- The text is not JSON. -/
  | grammar
  /-- The text is JSON, but not what was asked for. -/
  | content
  deriving DecidableEq, Repr

/-- Why a text cannot be read. -/
inductive Fault where
  | endInList
  | endInObject
  | endInString
  | endInValue
  | expectedValue
  | expectedWord
  | expectedColon
  | expectedCommaOrListEnd
  | expectedCommaOrObjectEnd
  | invalidNumber
  | numberOutOfRange
  | invalidEscape
  | loneSurrogate
  | unpairedEscape
  | controlCharacter
  | keyNotString
  | trailingComma
  | trailingText
  | invalidType (found : Found) (expected : Expected)
  | invalidValue (found : Found) (expected : Expected)
  | duplicateField (name : String)
  deriving DecidableEq, Repr

namespace Fault

def family : Fault → Family
  | .endInList | .endInObject | .endInString | .endInValue => .ending
  | .invalidType .. | .invalidValue .. | .duplicateField _ => .content
  | _ => .grammar

def message : Fault → String
  | .endInList => "EOF while parsing a list"
  | .endInObject => "EOF while parsing an object"
  | .endInString => "EOF while parsing a string"
  | .endInValue => "EOF while parsing a value"
  | .expectedValue => "expected value"
  | .expectedWord => "expected ident"
  | .expectedColon => "expected `:`"
  | .expectedCommaOrListEnd => "expected `,` or `]`"
  | .expectedCommaOrObjectEnd => "expected `,` or `\x7d`"
  | .invalidNumber => "invalid number"
  | .numberOutOfRange => "number out of range"
  | .invalidEscape => "invalid escape"
  | .loneSurrogate => "lone leading surrogate in hex escape"
  | .unpairedEscape => "unexpected end of hex escape"
  | .controlCharacter => "control character (\\u0000-\\u001F) found while parsing a string"
  | .keyNotString => "key must be a string"
  | .trailingComma => "trailing comma"
  | .trailingText => "trailing characters"
  | .invalidType found expected =>
    "invalid type: " ++ found.describe ++ ", expected " ++ expected.describe
  | .invalidValue found expected =>
    "invalid value: " ++ found.describe ++ ", expected " ++ expected.describe
  | .duplicateField name => "duplicate field `" ++ name ++ "`"

end Fault

end CbrAudio.Json
