import SwaggerPress.Text.HiddenTable

/-!
    Texts quoted inside a message. The quote stands between double quotes; a quote and a backslash
    in it take a backslash, three blanks and the null character have letters of their own, and a
    character that would not show is written by its code: `"a\u{200b}b"`. -/

namespace SwaggerPress.Text

/-- The digits of a number in base sixteen, lower case, without leading zeros. -/
def hexDigits (n : Nat) : List Char := Nat.toDigits 16 n

/-- Whether a quoted text shows a character as itself. -/
def isShown (c : Char) : Bool :=
  !(hiddenRanges.any fun r => r.1 ≤ c.toNat && c.toNat ≤ r.2)

/-- One character as a quoted text writes it. -/
def quoteChar (c : Char) : List Char :=
  if c = '\x00' then ['\\', '0']
  else if c = '\t' then ['\\', 't']
  else if c = '\r' then ['\\', 'r']
  else if c = '\n' then ['\\', 'n']
  else if c = '\\' then ['\\', '\\']
  else if c = '"' then ['\\', '"']
  else if isShown c then [c]
  else ['\\', 'u', '\x7b'] ++ hexDigits c.toNat ++ ['\x7d']

/-- The text between quotes, every character shown. -/
def quoted (s : String) : String :=
  String.ofList ('"' :: s.toList.flatMap quoteChar ++ ['"'])

end SwaggerPress.Text
