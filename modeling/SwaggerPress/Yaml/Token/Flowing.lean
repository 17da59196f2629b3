import SwaggerPress.Text.Hex
import SwaggerPress.Yaml.Cursor

/-!
    Plain and quoted scalars. Both are words with *gaps* between them. Blanks on one line stand for
    themselves; of a gap with line breaks the blanks go, a single break counts as one space, and of
    several breaks the first one goes:

        one  two        one           one            one
                        two                          two\
                                      two              three
        one␣␣two        one␣two       one⏎two        one␣twothree   -/

namespace SwaggerPress.Yaml

open Text (ofHex? hexValue?)

/-- What stands between two words. Characters are held last one first; the first break is missing
where it is escaped. -/
inductive Gap where
  | blanks (reversed : List Char)
  | breaks (first : Option Char) (reversed : List Char)

namespace Gap

def none : Gap := .blanks []

def addBlank (x : Char) : Gap → Gap
  | .blanks xs => .blanks (x :: xs)
  | g => g

def addBreak (x : Char) : Gap → Gap
  | .blanks _ => .breaks (some x) []
  | .breaks first xs => .breaks first (x :: xs)

/-- Whether the gap spans lines. -/
def spansLines : Gap → Bool
  | .blanks _ => false
  | .breaks _ _ => true

/-- The characters that the gap stands for, the last one first. -/
def reversedText : Gap → List Char
  | .blanks xs => xs
  | .breaks (some '\n') [] => [' ']
  | .breaks (some '\n') xs => xs
  | .breaks first xs => xs ++ first.toList

end Gap

/-- The character of a one-letter escape. -/
def escapedChar? : Char → Option Char
  | '0' => some '\x00'
  | 'a' => some '\x07'
  | 'b' => some '\x08'
  | 't' | '\t' => some '\t'
  | 'n' => some '\n'
  | 'v' => some '\x0b'
  | 'f' => some '\x0c'
  | 'r' => some '\r'
  | 'e' => some '\x1b'
  | ' ' => some ' '
  | '"' => some '"'
  | '/' => some '/'
  | '\\' => some '\\'
  | 'N' => some '\u0085'
  | '_' => some '\u00a0'
  | 'L' => some '\u2028'
  | 'P' => some '\u2029'
  | _ => none

/-- The number of digits of an escape that gives the code of its character. -/
def escapeDigits? : Char → Option Nat
  | 'x' => some 2
  | 'u' => some 4
  | 'U' => some 8
  | _ => none

/-- The character of a code, if there is one. -/
def charOfCode? (n : Nat) : Option Char := if n.isValidChar then some (Char.ofNat n) else none

/-- Reads an escape at its backslash. -/
def readEscape (start : Mark) (c : Cursor) : Except Fault (Char × Cursor) :=
  match c.rest.tail with
  | [] => c.fail .unknownEscape .escape start
  | x :: digits =>
    match escapedChar? x, escapeDigits? x with
    | some y, _ => .ok (y, c.skip 2)
    | none, some n =>
      let digits := digits.take n
      if digits.length < n then (c.skip 2).fail .hexDigitExpected .escape start
      else match ofHex? digits with
      | none => (c.skip 2).fail .hexDigitExpected .escape start
      | some code =>
        match charOfCode? code with
        | some y => .ok (y, c.skip (2 + n))
        | none => (c.skip 2).fail .invalidEscapeCode .escape start
    | none, none => c.fail .unknownEscape .escape start

/-- Reads a quoted scalar after its opening quote. `taken` holds the characters so far, the last one
first, and `gap` what stands after them; `fuel` is above the number of characters left. -/
def readQuotedFrom (quote : Char) (start : Mark) :
    (fuel : Nat) → (taken : List Char) → Gap → Cursor → Except Fault (List Char × Cursor)
  | 0, _, _, c => c.fail .endOfText .quotedScalar start
  | fuel + 1, taken, gap, c =>
    match c.takeBreak with
    | (some x, after) => readQuotedFrom quote start fuel taken (gap.addBreak x) after
    | (none, _) =>
      match c.rest with
      | [] => c.fail .endOfText .quotedScalar start
      | x :: rest =>
        let go (own : List Char) (gap' : Gap) (c : Cursor) : Except Fault (List Char × Cursor) :=
          readQuotedFrom quote start fuel (own ++ gap.reversedText ++ taken) gap' c
        if isBlank x then readQuotedFrom quote start fuel taken (gap.addBlank x) (c.skip 1)
        else if c.mark.column = 0 && atDocumentMarker c.rest then
          c.fail .documentMarker .quotedScalar start
        else if x = quote then
          if quote = '\x27' && rest.head? = some '\x27' then go ['\x27'] .none (c.skip 2)
          else .ok ((gap.reversedText ++ taken).reverse, c.skip 1)
        else if quote = '"' && x = '\\' then
          match (c.skip 1).takeBreak with
          | (some _, after) => go [] (.breaks .none []) after
          | (none, _) => do
            let (y, c) ← readEscape start c
            go [y] .none c
        else go [x] .none (c.skip 1)

/-- Reads a quoted scalar at its opening quote. -/
def readQuoted (quote : Char) (c : Cursor) : Except Fault (String × Cursor) := do
  let (text, after) ← readQuotedFrom quote c.mark c.left [] .none (c.skip 1)
  return (String.ofList text, after)

/-- A plain scalar: its text, where it ends, and whether line breaks follow it. -/
structure Plain where
  text : String
  stop : Mark
  brokenOff : Bool

/-- Whether a colon in a flow collection is followed by a character that it may not stand before. -/
def atStrayColon : List Char → Bool
  | ':' :: x :: _ => ",?[]\x7b\x7d".toList.contains x
  | _ => false

/-- Whether a plain scalar ends before a text. -/
def endsPlain (inFlow : Bool) : List Char → Bool
  | [] => true
  | x :: rest => (x = ':' && atGap rest) || (inFlow && ",[]\x7b\x7d".toList.contains x)

/-- The plain scalar that ends before a gap, and the cursor after the gap. -/
def finishPlain (taken : List Char) (gap : Gap) (stop : Mark) (c : Cursor) : Plain × Cursor :=
  (⟨String.ofList taken.reverse, stop, gap.spansLines⟩, c)

/-- Reads a plain scalar that must be indented by `indent` columns unless it is in a flow
collection. Arguments are as for quoted scalars; `stop` is the mark after the last word. -/
def readPlainFrom (inFlow : Bool) (indent : Nat) (start : Mark) :
    (fuel : Nat) → (taken : List Char) → Gap → (stop : Mark) → Cursor →
      Except Fault (Plain × Cursor)
  | 0, taken, gap, stop, c => .ok (finishPlain taken gap stop c)
  | fuel + 1, taken, gap, stop, c =>
    match c.takeBreak with
    | (some x, after) => readPlainFrom inFlow indent start fuel taken (gap.addBreak x) stop after
    | (none, _) =>
      match c.rest with
      | [] => .ok (finishPlain taken gap stop c)
      | x :: _ =>
        let afterGap := match gap with
          | .blanks [] => taken.isEmpty
          | _ => true
        if isBlank x then
          if gap.spansLines && c.mark.column < indent && x = '\t' then
            c.fail .tabInIndent .plainScalar start
          else readPlainFrom inFlow indent start fuel taken (gap.addBlank x) stop (c.skip 1)
        else if (gap.spansLines && !inFlow && c.mark.column < indent) ||
            (afterGap && (x = '#' || (c.mark.column = 0 && atDocumentMarker c.rest))) then
          .ok (finishPlain taken gap stop c)
        else if inFlow && atStrayColon c.rest then c.fail .strayColon .plainScalar start
        else if endsPlain inFlow c.rest then .ok (finishPlain taken gap stop c)
        else
          let c := c.skip 1
          readPlainFrom inFlow indent start fuel (x :: gap.reversedText ++ taken) .none c.mark c

/-- Reads a plain scalar at its first character. -/
def readPlain (inFlow : Bool) (indent : Nat) (c : Cursor) : Except Fault (Plain × Cursor) :=
  readPlainFrom inFlow indent c.mark (c.left + 1) [] .none c.mark c

end SwaggerPress.Yaml
