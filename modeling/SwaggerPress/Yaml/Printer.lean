import SwaggerPress.Decimal.Written
import SwaggerPress.Json.Basic
import SwaggerPress.Yaml.Cursor
import SwaggerPress.Yaml.Scalar

/-!
    JSON values as YAML texts in block layout. A mapping is indented by two columns against the one
    around it, a list that is the value of a key not at all. Text is plain where that reads back as
    the same text; else it is quoted, singly if it can be, and with more than one line it is literal.

        a: 1            lit: |-           ? |
        b:                one               a key of
        - x               two               two lines
        - - y           '5': "\t"         : m: 1      -/

namespace SwaggerPress.Yaml

open Decimal (Binary64)

/-- How a text is written. -/
inductive Style where
  | plain
  | single
  | double
  | literal
  deriving DecidableEq

/-- Whether a character can stand in a text without an escape. -/
def isPrintable (c : Char) : Bool :=
  let n := c.toNat
  n = 10 || (0x20 ≤ n && n ≤ 0x7E) || (0xA0 ≤ n && n ≤ 0xFFFD && n ≠ 0xFEFF) || 0x10000 ≤ n

def isGap (c : Char) : Bool := isBlank c || isBreak c

/-- Whether a text starts with a sign that means something there. -/
def startsWithSign : List Char → Bool
  | [] => false
  | c :: rest =>
    "#,[]\x7b\x7d&*!|>\x27\"%@\x60".toList.contains c || ("?:-".toList.contains c && atGap rest) ||
      "---".toList.isPrefixOf (c :: rest) || "...".toList.isPrefixOf (c :: rest)

/-- Whether a sign inside a text would end a plain scalar. -/
def holdsSign : List Char → Bool
  | [] => false
  | c :: rest => (c = ':' && atGap rest) || (isGap c && rest.head? = some '#') || holdsSign rest

/-- Whether a character that passes one test is followed by one that passes the other. -/
def holdsPair (p q : Char → Bool) : List Char → Bool
  | [] => false
  | c :: rest => (p c && rest.head?.any q) || holdsPair p q rest

/-- Whether the first or the last character of a text passes a test. -/
def atEnds (p : Char → Bool) (cs : List Char) : Bool := cs.head?.any p || cs.getLast?.any p

/-- Whether only escapes can write a text. -/
def needsEscapes (cs : List Char) : Bool := !cs.all isPrintable || holdsPair (· = ' ') isBreak cs

def allowsPlain (cs : List Char) : Bool :=
  !(needsEscapes cs || cs.any isBreak || atEnds (fun c => c = ' ' || isBreak c) cs ||
    startsWithSign cs || holdsSign cs)

def allowsSingle (cs : List Char) : Bool := !(needsEscapes cs || holdsPair isBreak (· = ' ') cs)

def allowsLiteral (cs : List Char) : Bool := !(needsEscapes cs || cs.getLast? = some ' ')

/-- The style of a text; a key on one line is not written over several. -/
def styleOf (simpleKey : Bool) (s : String) : Style :=
  let cs := s.toList
  if simpleKey && cs.any isBreak then .double
  else if cs.contains '\n' then (if allowsLiteral cs && !simpleKey then .literal else .double)
  else if !needsQuotes s && allowsPlain cs then .plain
  else if allowsSingle cs then .single
  else .double

def spaces (n : Nat) : List Char := List.replicate n ' '

/-- The characters of a text over lines: what follows a break starts at the indent. -/
def layOut (indent : Nat) (write : Char → List Char) : (afterBreak : Bool) → List Char → List Char
  | _, [] => []
  | afterBreak, c :: rest =>
    if isBreak c then c :: layOut indent write true rest
    else (if afterBreak then spaces indent else []) ++ write c ++ layOut indent write false rest

def writeSingle (indent : Nat) (cs : List Char) : List Char :=
  let body := layOut indent (fun c => if c = '\x27' then [c, c] else [c]) false cs
  let tail := if cs.getLast?.any isBreak then spaces indent else []
  '\x27' :: body ++ tail ++ ['\x27']

/-- The letter of a short escape. -/
def shortEscape? : Char → Option Char
  | '\x00' => some '0'
  | '\x07' => some 'a'
  | '\x08' => some 'b'
  | '\t' => some 't'
  | '\n' => some 'n'
  | '\x0b' => some 'v'
  | '\x0c' => some 'f'
  | '\r' => some 'r'
  | '\x1b' => some 'e'
  | '"' => some '"'
  | '\\' => some '\\'
  | '\u0085' => some 'N'
  | '\u2028' => some 'L'
  | '\u2029' => some 'P'
  | _ => none

/-- One character between double quotes. -/
def writeEscaped (c : Char) : List Char :=
  if isPrintable c && !isBreak c && c ≠ '"' && c ≠ '\\' then [c]
  else match shortEscape? c with
  | some letter => ['\\', letter]
  | none =>
    let n := c.toNat
    if n ≤ 0xFF then '\\' :: 'x' :: Text.toHex n 2
    else if n ≤ 0xFFFF then '\\' :: 'u' :: Text.toHex n 4
    else '\\' :: 'U' :: Text.toHex n 8

def writeDouble (cs : List Char) : List Char := '"' :: cs.flatMap writeEscaped ++ ['"']

/-- How many line breaks the text of a literal scalar ends with, as far as its sign must tell. -/
def chompingSign (cs : List Char) : List Char :=
  match cs.reverse with
  | [] => ['-']
  | [c] => if isBreak c then ['+'] else ['-']
  | c :: d :: _ => if !isBreak c then ['-'] else if isBreak d then ['+'] else []

def writeLiteral (indent : Nat) (cs : List Char) : List Char :=
  let indentSign := if cs.head?.any fun c => c = ' ' || isBreak c then ['2'] else []
  '|' :: indentSign ++ chompingSign cs ++ '\n' :: layOut indent (fun c => [c]) true cs

/-- A text whose further lines start at the indent. -/
def writeText (indent : Nat) (simpleKey : Bool) (s : String) : List Char :=
  match styleOf simpleKey s with
  | .plain => s.toList
  | .single => writeSingle indent s.toList
  | .double => writeDouble s.toList
  | .literal => writeLiteral indent s.toList

/-- Ends a line, unless a break has ended it already. -/
def endLine (cs : List Char) : List Char := if cs.getLast?.any isBreak then cs else cs ++ ['\n']

/-- The greatest number of bytes of a key that is written on one line with its value. -/
def maxSimpleKeyBytes : Nat := 128

/-- Whether a key is written on one line with its value. -/
def isSimpleKey (s : String) : Bool :=
  !s.toList.any isBreak && s.utf8ByteSize ≤ maxSimpleKeyBytes

/-- A value that is no collection with content. -/
def writeLeaf (indent : Nat) : Json → List Char
  | .null => "null".toList
  | .bool b => (if b then "true" else "false").toList
  | .int n => (toString n).toList
  | .float x => (x.write .bare).toList
  | .str s => writeText indent false s
  | .arr _ => ['[', ']']
  | .obj _ => ['\x7b', '\x7d']

mutual

/-- A value on the line of the sign before it, with what is in it at `indent`. -/
def writeInline (indent : Nat) : Json → List Char
  | .arr (v :: rest) => writeItems indent (v :: rest)
  | .obj ((k, v) :: rest) => writeMembers indent ((k, v) :: rest)
  | v => endLine (writeLeaf indent v)

/-- A value after the colon of a key in a mapping at `indent`. -/
def writeAfterKey (indent : Nat) : Json → List Char
  | .arr (v :: rest) => '\n' :: spaces indent ++ writeItems indent (v :: rest)
  | .obj ((k, v) :: rest) => '\n' :: spaces (indent + 2) ++ writeMembers (indent + 2) ((k, v) :: rest)
  | v => ' ' :: endLine (writeLeaf (indent + 2) v)

/-- The items of a list at `indent`, which the first line has reached. -/
def writeItems (indent : Nat) : List Json → List Char
  | [] => []
  | v :: rest =>
    let item := '-' :: ' ' :: writeInline (indent + 2) v
    if rest.isEmpty then item else item ++ spaces indent ++ writeItems indent rest

/-- The members of a mapping at `indent`, which the first line has reached. -/
def writeMembers (indent : Nat) : List (String × Json) → List Char
  | [] => []
  | (k, v) :: rest =>
    let member :=
      if isSimpleKey k then writeText (indent + 2) true k ++ ':' :: writeAfterKey indent v
      else '?' :: ' ' :: endLine (writeText (indent + 2) false k) ++ spaces indent ++
        ':' :: ' ' :: writeInline (indent + 2) v
    if rest.isEmpty then member else member ++ spaces indent ++ writeMembers indent rest

end

/-- The text of a value as a whole document. -/
def print (v : Json) : String :=
  let cs := match v with
    | .arr (_ :: _) | .obj (_ :: _) => writeInline 0 v
    | v => endLine (writeLeaf 2 v)
  String.ofList cs

end SwaggerPress.Yaml
