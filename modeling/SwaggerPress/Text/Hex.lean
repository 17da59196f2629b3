/-!
    Hexadecimal digits: their values, and the digits of a number. -/

namespace SwaggerPress.Text

/-- The value of a hexadecimal digit. -/
def hexValue? (c : Char) : Option Nat :=
  if '0' ≤ c ∧ c ≤ '9' then some (c.toNat - 48)
  else if 'a' ≤ c ∧ c ≤ 'f' then some (c.toNat - 87)
  else if 'A' ≤ c ∧ c ≤ 'F' then some (c.toNat - 55)
  else none

/-- The number written by hexadecimal digits, the highest first. -/
def ofHex? (digits : List Char) : Option Nat :=
  digits.foldl (fun n c => do return (← n) * 16 + (← hexValue? c)) (some 0)

/-- The digit of a value below sixteen. -/
def hexDigit (n : Nat) : Char := if n < 10 then Char.ofNat (48 + n) else Char.ofNat (55 + n)

/-- The lowest digits of a number in hexadecimal, the highest of them first. -/
def toHex (n : Nat) : (count : Nat) → List Char
  | 0 => []
  | k + 1 => toHex (n / 16) k ++ [hexDigit (n % 16)]

end SwaggerPress.Text
