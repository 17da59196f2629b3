import SwaggerPress.Json.Basic
import SwaggerPress.Decimal.Written

/-!
    JSON values as texts, compact or laid out over lines with two blanks per level. Members are
    written in the order in which the value lists them. A string escapes the quote, the backslash
    and the control characters, and nothing else.

        compact   {"a":[1,2],"b":{}}
        pretty    {
                    "a": [
                      1,
                      2
                    ],
                    "b": {}
                  } -/

namespace SwaggerPress.Json

open Decimal (decimalDigits)

/-- A digit of base sixteen. -/
def hexDigit (n : Nat) : Char := Nat.digitChar n

/-- One character inside a string. -/
def escapeChar (c : Char) : List Char :=
  if c = '"' then ['\\', '"']
  else if c = '\\' then ['\\', '\\']
  else if c = '\x08' then ['\\', 'b']
  else if c = '\x0c' then ['\\', 'f']
  else if c = '\n' then ['\\', 'n']
  else if c = '\r' then ['\\', 'r']
  else if c = '\t' then ['\\', 't']
  else if c.toNat < 0x20 then ['\\', 'u', '0', '0', hexDigit (c.toNat / 16), hexDigit (c.toNat % 16)]
  else [c]

def printString (s : String) : List Char := '"' :: s.toList.flatMap escapeChar ++ ['"']

def printInt (n : Int) : List Char :=
  if n < 0 then '-' :: decimalDigits n.natAbs else decimalDigits n.natAbs

/-- How a text is laid out: on one line, or over lines from a given level on. -/
inductive Layout where
  | compact
  | lines (level : Nat)

/-- The layout inside a container. -/
def Layout.inner : Layout → Layout
  | .compact => .compact
  | .lines level => .lines (level + 1)

/-- What stands before an item, and before the closing bracket. -/
def Layout.newLine : Layout → List Char
  | .compact => []
  | .lines level => '\n' :: List.replicate (2 * level) ' '

def Layout.colon : Layout → List Char
  | .compact => [':']
  | .lines _ => [':', ' ']

mutual

def printWith (layout : Layout) : Json → List Char
  | .null => ['n', 'u', 'l', 'l']
  | .bool b => if b then ['t', 'r', 'u', 'e'] else ['f', 'a', 'l', 's', 'e']
  | .int n => printInt n
  | .float x => (x.write .signed).toList
  | .str s => printString s
  | .arr [] => ['[', ']']
  | .arr (v :: rest) =>
    '[' :: layout.inner.newLine ++ printWith layout.inner v ++ printItems layout.inner rest ++
      layout.newLine ++ [']']
  | .obj [] => ['\x7b', '\x7d']
  | .obj ((name, v) :: rest) =>
    '\x7b' :: layout.inner.newLine ++ printString name ++ layout.colon ++
      printWith layout.inner v ++ printMembers layout.inner rest ++ layout.newLine ++ ['\x7d']

/-- The items after the first. -/
def printItems (layout : Layout) : List Json → List Char
  | [] => []
  | v :: rest => ',' :: layout.newLine ++ printWith layout v ++ printItems layout rest

/-- The members after the first. -/
def printMembers (layout : Layout) : List (String × Json) → List Char
  | [] => []
  | (name, v) :: rest =>
    ',' :: layout.newLine ++ printString name ++ layout.colon ++ printWith layout v ++
      printMembers layout rest

end

/-- The value on one line. -/
def compact (v : Json) : String := String.ofList (printWith .compact v)

/-- The value over several lines. -/
def pretty (v : Json) : String := String.ofList (printWith (.lines 0) v)

end SwaggerPress.Json
