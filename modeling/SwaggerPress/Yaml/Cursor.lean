import SwaggerPress.Text.ByteCount
import SwaggerPress.Yaml.Fault

/-!
    A *cursor* is what is left of a YAML text and the mark of its first character. It moves over the
    characters of a line one by one and over a line break in one move, whether that is one character
    or a carriage return with its line feed. -/

namespace SwaggerPress.Yaml

open Text (byteCount)

/-- A space or a tab. -/
def isBlank (c : Char) : Bool := c = ' ' || c = '\t'

/-- A character that ends a line. -/
def isBreak (c : Char) : Bool :=
  c = '\n' || c = '\r' || c = '\u0085' || c = '\u2028' || c = '\u2029'

/-- A character of a name: a letter or digit of ASCII, a dash or an underscore. -/
def isNameChar (c : Char) : Bool := c.isAlphanum || c = '-' || c = '_'

/-- The character that a line break counts as; only the two separators of Unicode stay. -/
def breakChar (c : Char) : Char := if c = '\u2028' || c = '\u2029' then c else '\n'

/-- Whether a text is at an end or begins with a blank or a line break. -/
def atGap : List Char → Bool
  | [] => true
  | c :: _ => isBlank c || isBreak c

/-- Whether a text is at an end or begins with a line break. -/
def atLineEnd : List Char → Bool
  | [] => true
  | c :: _ => isBreak c

/-- Whether a text begins with the marker of a document's start or end. -/
def atDocumentMarker : List Char → Bool
  | '-' :: '-' :: '-' :: rest => atGap rest
  | '.' :: '.' :: '.' :: rest => atGap rest
  | _ => false

/-- The mark after characters of its line. -/
def Mark.past (m : Mark) (cs : List Char) : Mark :=
  ⟨m.index + byteCount cs, m.line, m.column + cs.length⟩

/-- The mark at the start of the next line, after a break of that many bytes. -/
def Mark.nextLine (m : Mark) (bytes : Nat) : Mark := ⟨m.index + bytes, m.line + 1, 0⟩

/-- What is left of a text, where it starts, and how many characters that are. -/
structure Cursor where
  mark : Mark
  rest : List Char
  left : Nat
  left_eq : left = rest.length

namespace Cursor

/-- The cursor before a text. -/
def ofText (text : List Char) : Cursor := ⟨{}, text, text.length, rfl⟩

/-- Whether the cursor stands before a certain character. -/
def sees (c : Cursor) (x : Char) : Bool := c.rest.head? = some x

/-- Moves over characters of a line, as far as there are any. -/
def skip (c : Cursor) (count : Nat) : Cursor where
  mark := c.mark.past (c.rest.take count)
  rest := c.rest.drop count
  left := c.left - count
  left_eq := by simp [c.left_eq]

/-- Takes the characters of a line that pass a test. -/
def takeWhile (c : Cursor) (p : Char → Bool) : List Char × Cursor :=
  let taken := c.rest.takeWhile p
  (taken, c.skip taken.length)

/-- Moves over the characters of a line that pass a test. -/
def skipWhile (c : Cursor) (p : Char → Bool) : Cursor := (c.takeWhile p).2

/-- Takes a line break, if there is one, as the character that it counts as. -/
def takeBreak (c : Cursor) : Option Char × Cursor :=
  match h : c.rest with
  | '\r' :: '\n' :: rest =>
    (some '\n', ⟨c.mark.nextLine 2, rest, c.left - 2, by simp [c.left_eq, h]⟩)
  | x :: rest =>
    if isBreak x then
      (some (breakChar x), ⟨c.mark.nextLine x.utf8Size, rest, c.left - 1, by simp [c.left_eq, h]⟩)
    else (none, c)
  | [] => (none, c)

/-- Moves over blanks and a comment to the end of the line. -/
def skipComment (c : Cursor) : Cursor :=
  let c := c.skipWhile isBlank
  if c.sees '#' then c.skipWhile (!isBreak ·) else c

/-- Stops because of what stands at the cursor. -/
def fail {α : Type} (c : Cursor) (cause : Cause) (activity : Activity) (start : Mark) :
    Except Fault α :=
  .error (.malformed cause c.mark (some (activity, start)))

end Cursor

end SwaggerPress.Yaml
