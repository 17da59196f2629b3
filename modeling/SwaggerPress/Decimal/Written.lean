import SwaggerPress.Decimal.Shortest

/-!
    Floating-point numbers as texts. A number between `10^-5` and `10^16` is written positionally
    and keeps at least one digit after the point; any other has a digit, the rest after a point and
    a power of ten.

        1.0   0.00001   1000000000000000.0   1e-6   1.5e+16   -0.0

    What a format decides for itself is whether a positive power carries its sign. The long form
    writes every number positionally. -/

namespace SwaggerPress.Decimal

/-- The decimal digits of a number. -/
def decimalDigits (n : Nat) : List Char := Nat.toDigits 10 n

def zeros (n : Nat) : List Char := List.replicate n '0'

/-- Digits with the point after the first `whole` of them, zeros filled in where there are none. -/
def positional (ds : List Char) (whole : Int) : List Char :=
  if whole ≤ 0 then ['0', '.'] ++ zeros (-whole).toNat ++ ds
  else
    let w := whole.toNat
    if ds.length ≤ w then ds ++ zeros (w - ds.length) ++ ['.', '0']
    else ds.take w ++ '.' :: ds.drop w

/-- Whether a positive power of ten is written with its sign. -/
inductive PowerSign where
  | signed
  | bare
  deriving DecidableEq

/-- One digit, the others after a point, and the power of ten. -/
def scientific (sign : PowerSign) (ds : List Char) (power : Int) : List Char :=
  let fraction := match ds.drop 1 with
    | [] => []
    | rest => '.' :: rest
  let mark : List Char :=
    if power < 0 then ['-'] else if sign = .signed then ['+'] else []
  ds.take 1 ++ fraction ++ 'e' :: mark ++ decimalDigits power.natAbs

namespace Binary64

def signText (x : Binary64) : List Char := if x.negative then ['-'] else []

/-- The number with its fewest digits, positionally where that stays short. -/
def write (sign : PowerSign) (x : Binary64) : String :=
  let s := x.shortest
  let ds := decimalDigits s.digits
  let whole := (ds.length : Int) + s.power
  String.ofList <| x.signText ++
    if x.isZero || (-5 < whole && whole ≤ 16) then positional ds whole
    else scientific sign ds (whole - 1)

/-- The number with its fewest digits, always positionally. -/
def writeLong (x : Binary64) : String :=
  let s := x.shortest
  let ds := decimalDigits s.digits
  String.ofList (x.signText ++ positional ds ((ds.length : Int) + s.power))

end Binary64

end SwaggerPress.Decimal
