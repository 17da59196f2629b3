import SwaggerPress.Mismatch
import SwaggerPress.Text.ByteCount

/-!
    What can go wrong when a JSON text is read, and where. A place is a line, counted from one, and
    the number of bytes of that line that had been taken when reading stopped, the offending byte
    included if it had been looked at. -/

namespace SwaggerPress.Json

open Text (byteCount)

/-- Why reading stopped. -/
inductive Cause where
  | endInList
  | endInObject
  | endInString
  | endInValue
  | colonExpected
  | listCommaExpected
  | objectCommaExpected
  | wordExpected
  | valueExpected
  | invalidEscape
  | invalidNumber
  | numberOutOfRange
  | controlCharacter
  | nameNotString
  | loneSurrogate
  | brokenSurrogatePair
  | trailingComma
  | trailingCharacters
  | tooDeep
  | mismatch (m : Mismatch)
  deriving DecidableEq

def Cause.message : Cause → String
  | .endInList => "EOF while parsing a list"
  | .endInObject => "EOF while parsing an object"
  | .endInString => "EOF while parsing a string"
  | .endInValue => "EOF while parsing a value"
  | .colonExpected => "expected `:`"
  | .listCommaExpected => "expected `,` or `]`"
  | .objectCommaExpected => "expected `,` or `\x7d`"
  | .wordExpected => "expected ident"
  | .valueExpected => "expected value"
  | .invalidEscape => "invalid escape"
  | .invalidNumber => "invalid number"
  | .numberOutOfRange => "number out of range"
  | .controlCharacter => "control character (\\u0000-\\u001F) found while parsing a string"
  | .nameNotString => "key must be a string"
  | .loneSurrogate => "lone leading surrogate in hex escape"
  | .brokenSurrogatePair => "unexpected end of hex escape"
  | .trailingComma => "trailing comma"
  | .trailingCharacters => "trailing characters"
  | .tooDeep => "recursion limit exceeded"
  | .mismatch m => m.message .json

/-- A place in a text. -/
structure Place where
  line : Nat
  column : Nat
  deriving DecidableEq

/-- A JSON text that could not be read. -/
structure Fault where
  cause : Cause
  place : Place
  deriving DecidableEq

def Fault.message (f : Fault) : String :=
  s!"{f.cause.message} at line {f.place.line} column {f.place.column}"

/-- The place reached from `place` when that many bytes of a text are taken. -/
def Place.after (place : Place) : List Char → (bytes : Nat) → Place
  | [], _ => place
  | c :: rest, bytes =>
    if c.utf8Size ≤ bytes then
      (if c = '\n' then ⟨place.line + 1, 0⟩ else ⟨place.line, place.column + c.utf8Size⟩ : Place).after
        rest (bytes - c.utf8Size)
    else ⟨place.line, place.column + bytes⟩

/-- The place in a text before its last `unread` bytes. -/
def Place.before (text : List Char) (unread : Nat) : Place :=
  (⟨1, 0⟩ : Place).after text (byteCount text - unread)

end SwaggerPress.Json
