import SwaggerPress.Json.Basic
import SwaggerPress.Json.Fault
import SwaggerPress.Text.Hex

/-!
    The parts of a JSON text that are not nested: blanks, words, strings and numbers. Each reader
    takes what it wants from the front of the text and gives back the rest. When it stops at a fault
    it says how much of the text was unread, either before the character it looked at (`haltAt`) or
    after one byte of it (`haltPast`).

    A number keeps as many digits as fit 64 bits; digits that no longer fit only scale the result. -/

namespace SwaggerPress.Json

open Decimal (Binary64)
open Text (byteCount hexValue?)

/-- A fault, and the number of bytes not taken when reading stopped. -/
structure Halt where
  cause : Cause
  unread : Nat

/-- Reads a value from the front of a text and gives the rest of the text. -/
abbrev Reader (α : Type) := List Char → Except Halt (α × List Char)

def haltAt {α : Type} (cause : Cause) (rest : List Char) : Except Halt α :=
  .error ⟨cause, byteCount rest⟩

def haltPast {α : Type} (cause : Cause) (rest : List Char) : Except Halt α :=
  .error ⟨cause, byteCount rest - 1⟩

def isJsonBlank (c : Char) : Bool := c = ' ' || c = '\n' || c = '\t' || c = '\r'

def skipBlanks (s : List Char) : List Char := s.dropWhile isJsonBlank

/-- Reads the characters of a word that is known by its first letter. -/
def readWord : (word : List Char) → List Char → Except Halt (List Char)
  | [], s => .ok s
  | _ :: _, [] => haltAt .endInValue []
  | w :: ws, c :: rest => if c = w then readWord ws rest else haltPast .wordExpected (c :: rest)

/-! ### Strings -/

/-- What follows a proper front of a text. -/
abbrev Shorter (s : List Char) := { rest : List Char // rest.length < s.length }

/-- Stops where no four digits stand. Four bytes are taken before they are looked at. -/
def haltInUnit {α : Type} (s : List Char) : Except Halt α :=
  .error <| if byteCount s < 4 then ⟨.endInString, 0⟩ else ⟨.invalidEscape, byteCount s - 4⟩

/-- Reads the four digits of a code unit. -/
def readUnit (s : List Char) : Except Halt (Nat × Shorter s) :=
  match s with
  | a :: b :: c :: d :: rest =>
    match hexValue? a, hexValue? b, hexValue? c, hexValue? d with
    | some a, some b, some c, some d =>
      .ok (a * 4096 + b * 256 + c * 16 + d, ⟨rest, by simp; omega⟩)
    | _, _, _, _ => haltInUnit s
  | _ => haltInUnit s

/-- Reads the second half of a surrogate pair, the backslash included. -/
def readLowUnit (high : Nat) (s : List Char) : Except Halt (Char × Shorter s) :=
  match s with
  | [] => haltAt .endInString []
  | ['\\'] => haltAt .endInString []
  | '\\' :: 'u' :: rest =>
    match readUnit rest with
    | .error e => .error e
    | .ok (low, ⟨after, h⟩) =>
      if 0xDC00 ≤ low ∧ low ≤ 0xDFFF then
        .ok (Char.ofNat (0x10000 + (high - 0xD800) * 0x400 + (low - 0xDC00)),
          ⟨after, by simp at *; omega⟩)
      else haltAt .loneSurrogate after
  | '\\' :: c :: rest => haltPast .brokenSurrogatePair (c :: rest)
  | c :: rest => haltPast .brokenSurrogatePair (c :: rest)

/-- Reads what follows a backslash. -/
def readEscape (s : List Char) : Except Halt (Char × Shorter s) :=
  match s with
  | [] => haltAt .endInString []
  | 'u' :: rest =>
    match readUnit rest with
    | .error e => .error e
    | .ok (n, ⟨after, h⟩) =>
      if 0xDC00 ≤ n ∧ n ≤ 0xDFFF then haltAt .loneSurrogate after
      else if 0xD800 ≤ n ∧ n ≤ 0xDBFF then
        match readLowUnit n after with
        | .error e => .error e
        | .ok (c, ⟨last, h'⟩) => .ok (c, ⟨last, by simp at *; omega⟩)
      else .ok (Char.ofNat n, ⟨after, by simp at *; omega⟩)
  | c :: rest =>
    let plain (c : Char) : Except Halt (Char × Shorter (c :: rest)) := .ok (c, ⟨rest, by simp⟩)
    match c with
    | '"' => plain '"'
    | '\\' => plain '\\'
    | '/' => plain '/'
    | 'b' => plain '\x08'
    | 'f' => plain '\x0c'
    | 'n' => plain '\n'
    | 'r' => plain '\r'
    | 't' => plain '\t'
    | c => haltPast .invalidEscape (c :: rest)

/-- Reads the rest of a string whose opening quote has been taken; `taken` holds the characters so
far, the last one first. -/
def readStringFrom (taken : List Char) (s : List Char) : Except Halt (String × List Char) :=
  match s with
  | [] => haltAt .endInString []
  | '"' :: rest => .ok (String.ofList taken.reverse, rest)
  | '\\' :: rest =>
    match readEscape rest with
    | .error e => .error e
    | .ok (c, ⟨after, _⟩) => readStringFrom (c :: taken) after
  | c :: rest =>
    if c.toNat < 0x20 then haltPast .controlCharacter (c :: rest)
    else readStringFrom (c :: taken) rest
termination_by s.length
decreasing_by all_goals (simp_all; try omega)

/-- Reads a string whose opening quote has been taken. -/
def readString (s : List Char) : Except Halt (String × List Char) := readStringFrom [] s

/-! ### Numbers -/

def isDigit (c : Char) : Bool := '0' ≤ c && c ≤ '9'

def digitValue (c : Char) : Nat := c.toNat - 48

def maxWord : Nat := 0xFFFFFFFFFFFFFFFF

/-- Appends digits to a number while it fits 64 bits; gives the number and the digits left over. -/
def absorb (n : Nat) : List Char → Nat × List Char
  | [] => (n, [])
  | d :: ds =>
    if n * 10 + digitValue d ≤ maxWord then absorb (n * 10 + digitValue d) ds else (n, d :: ds)

/-- A floating-point number, unless it is out of range. -/
def readFloat (negative : Bool) (digits : Nat) (power : Int) (rest : List Char) :
    Except Halt (Json × List Char) :=
  match Binary64.ofDigits? negative digits power with
  | some x => .ok (.float x, rest)
  | none => haltAt .numberOutOfRange rest

def maxPower : Nat := 0x7FFFFFFF

/-- Reads the digits of a power of ten, `n` being those so far. A power that leaves 31 bits makes
the number zero or takes it out of range. -/
def readPower (negative : Bool) (digits : Nat) (power : Int) (up : Bool) (n : Nat) :
    List Char → Except Halt (Json × List Char)
  | [] => readFloat negative digits (if up then power + n else power - n) []
  | c :: rest =>
    if isDigit c then
      if maxPower < n * 10 + digitValue c then
        if digits ≠ 0 ∧ up then haltAt .numberOutOfRange rest
        else .ok (.float (.zero negative), rest.dropWhile isDigit)
      else readPower negative digits power up (n * 10 + digitValue c) rest
    else readFloat negative digits (if up then power + n else power - n) (c :: rest)

/-- Reads what follows the `e` of a number. -/
def readExponent (negative : Bool) (digits : Nat) (power : Int) (s : List Char) :
    Except Halt (Json × List Char) :=
  let (up, s) := match s with
    | '+' :: rest => (true, rest)
    | '-' :: rest => (false, rest)
    | s => (true, s)
  match s with
  | [] => haltAt .endInValue []
  | c :: rest =>
    if isDigit c then readPower negative digits power up (digitValue c) rest
    else haltPast .invalidNumber (c :: rest)

def startsExponent (c : Char) : Bool := c = 'e' || c = 'E'

/-- Reads what follows the point of a number. -/
def readFraction (negative : Bool) (digits : Nat) (power : Int) (s : List Char) :
    Except Halt (Json × List Char) :=
  let ds := s.takeWhile isDigit
  let rest := s.dropWhile isDigit
  let (digits', left) := absorb digits ds
  let power' := power - (ds.length - left.length : Nat)
  match ds, rest with
  | [], [] => haltPast .endInValue []
  | [], c :: rest => haltPast .invalidNumber (c :: rest)
  | _, c :: rest =>
    if startsExponent c then readExponent negative digits' power' rest
    else readFloat negative digits' power' (c :: rest)
  | _, [] => readFloat negative digits' power' []

/-- A whole number, where it fits 64 bits with its sign; minus zero does not. -/
def wholeNumber (negative : Bool) (n : Nat) (rest : List Char) :
    Except Halt (Json × List Char) :=
  if negative then
    if 0 < n ∧ n ≤ 0x8000000000000000 then .ok (.int (-n), rest) else readFloat true n 0 rest
  else .ok (.int n, rest)

/-- Reads a number after its sign. -/
def readNumber (negative : Bool) (s : List Char) : Except Halt (Json × List Char) :=
  match s with
  | [] => haltAt .endInValue []
  | c :: rest =>
    if c = '0' ∧ rest.head?.any isDigit then haltPast .invalidNumber rest
    else if isDigit c then
      let ds := if c = '0' then [c] else s.takeWhile isDigit
      let rest := if c = '0' then rest else s.dropWhile isDigit
      let (n, left) := absorb 0 ds
      let power : Int := left.length
      match rest with
      | '.' :: after => readFraction negative n power after
      | 'e' :: after | 'E' :: after => readExponent negative n power after
      | rest =>
        if left.isEmpty then wholeNumber negative n rest else readFloat negative n power rest
    else haltPast .invalidNumber s

end SwaggerPress.Json
