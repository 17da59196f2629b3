import SwaggerPress.Mismatch
import SwaggerPress.Text.Hex

/-!
    What a plain scalar stands for: nothing, a truth value, a number, or its own text.

        ~   null   True   0x1F   -0b10   +7   1_000   007    1.5   .5e3   -.inf   yes
        nothing    true   31     -2      7    text    text   1.5   500.0  -∞      text

    Numbers without a point or an exponent are whole if they fit 128 bits; beyond 64 they are *wide*.
    Digits that start with a needless zero are text. -/

namespace SwaggerPress.Yaml

open Decimal (Binary64)
open Text (hexValue?)

/-- The number written by digits of a base, the highest first; at least one. -/
def ofDigits? (base : Nat) (digits : List Char) : Option Nat :=
  if digits.isEmpty then none
  else digits.foldl (fun n c => do
    let n ← n
    let d ← hexValue? c
    if d < base then some (n * base + d) else none) (some 0)

/-- The text after one sign, if there is one. -/
def withoutSign : List Char → List Char
  | '+' :: rest | '-' :: rest => rest
  | cs => cs

/-- Whether a text is digits of which the first is a needless zero. -/
def hasNeedlessZero (cs : List Char) : Bool :=
  match withoutSign cs with
  | '0' :: d :: rest => (d :: rest).all Char.isDigit
  | _ => false

/-- The magnitude that a text without sign writes; `decimal` tells whether base ten is allowed. -/
def magnitude? (decimal : Bool) : List Char → Option Nat
  | '0' :: 'x' :: digits => ofDigits? 16 digits
  | '0' :: 'o' :: digits => ofDigits? 8 digits
  | '0' :: 'b' :: digits => ofDigits? 2 digits
  | digits => if decimal then ofDigits? 10 digits else none

/-- The whole number that a text writes. -/
def wholeNumber? (cs : List Char) : Option Int :=
  let decimal := !hasNeedlessZero cs
  match cs with
  | '-' :: rest => (magnitude? decimal rest).map fun n => -(n : Int)
  | '+' :: rest => (magnitude? decimal rest).map fun n => (n : Int)
  | rest => (magnitude? decimal rest).map fun n => (n : Int)

/-- The whole number as what is found, if it fits. -/
def foundWhole? (n : Int) : Option Found :=
  if -0x8000000000000000 ≤ n ∧ n ≤ 0xFFFFFFFFFFFFFFFF then some (.integer n)
  else if -0x80000000000000000000000000000000 ≤ n ∧ n ≤ 0xFFFFFFFFFFFFFFFFFFFFFFFFFFFFFFFF then
    some (.wideInteger n)
  else none

/-- The power of ten after the letter of an exponent; none is written where the text ends. -/
def exponent? : List Char → Option Int
  | [] => some 0
  | c :: rest =>
    if c = 'e' || c = 'E' then
      match rest with
      | '-' :: digits => (ofDigits? 10 digits).map fun n => -(n : Int)
      | '+' :: digits => (ofDigits? 10 digits).map fun n => (n : Int)
      | digits => (ofDigits? 10 digits).map fun n => (n : Int)
    else none

/-- The number that a text writes with a point, an exponent or neither. -/
def decimalFraction? (cs : List Char) : Option Binary64 := do
  let unsigned := withoutSign cs
  let whole := unsigned.takeWhile Char.isDigit
  let rest := unsigned.dropWhile Char.isDigit
  let (part, rest) := match rest with
    | '.' :: rest => (rest.takeWhile Char.isDigit, rest.dropWhile Char.isDigit)
    | rest => ([], rest)
  let digits ← ofDigits? 10 (whole ++ part)
  let power ← exponent? rest
  Binary64.nearestDecimal? (cs.head? = some '-') digits (power - part.length)

/-- The fraction that a text writes, or what it writes instead of one. -/
def foundFraction? (s : String) : Option Found :=
  if [".inf", ".Inf", ".INF", "+.inf", "+.Inf", "+.INF"].contains s then some (.infinite false)
  else if ["-.inf", "-.Inf", "-.INF"].contains s then some (.infinite true)
  else if [".nan", ".NaN", ".NAN"].contains s then some .notANumber
  else (decimalFraction? s.toList).map .fraction

/-- Whether a text stands for nothing. -/
def isNullWord (s : String) : Bool := ["null", "Null", "NULL", "~"].contains s

/-- The truth value that a word stands for. -/
def truthValue? (s : String) : Option Bool :=
  if ["true", "True", "TRUE"].contains s then some true
  else if ["false", "False", "FALSE"].contains s then some false
  else none

/-- What a plain scalar stands for. -/
def foundPlain (s : String) : Found :=
  if s.isEmpty || isNullWord s then .nothing
  else match truthValue? s with
  | some b => .boolean b
  | none =>
    match (wholeNumber? s.toList).bind foundWhole? with
    | some found => found
    | none => if hasNeedlessZero s.toList then .text s else (foundFraction? s).getD (.text s)

/-- Whether a text has to be quoted to be text. -/
def needsQuotes (s : String) : Bool := foundPlain s ≠ .text s || hasNeedlessZero s.toList

end SwaggerPress.Yaml
