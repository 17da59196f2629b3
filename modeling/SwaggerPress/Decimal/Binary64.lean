/-!
    Finite binary floating-point numbers of 64 bits, with exact arithmetic on whole numbers behind
    every operation. A magnitude is given by its *rank* among the finite magnitudes: rank 0 is zero,
    the next rank is the next larger number, so equal numbers of equal sign are equal terms and the
    order is the order of ranks.

        rank             0 … 2^52 - 1        one block of 2^52 ranks per power of two
        unit             2^-1074             2^-1074, 2^-1073, …, 2^971

    A product or quotient is the representable number nearest the exact result, and of two equally
    near the one whose last bit is zero. -/

namespace SwaggerPress.Decimal

/-- The number of finite magnitudes. -/
def finiteRanks : Nat := 0x7FF0000000000000

/-- The ranks that share one unit. -/
def blockSize : Nat := 0x10000000000000

/-- A power of two. -/
def twoTo (k : Nat) : Nat := Nat.pow 2 k

/-- A power of ten. -/
def tenTo (k : Nat) : Nat := Nat.pow 10 k

/-- A finite floating-point number; zero has a sign. -/
structure Binary64 where
  negative : Bool
  rank : Nat
  finite : rank < finiteRanks

namespace Binary64

instance : DecidableEq Binary64 := fun x y =>
  decidable_of_iff (x.negative = y.negative ∧ x.rank = y.rank)
    ⟨fun h => by cases x; cases y; cases h.1; cases h.2; rfl, fun h => h ▸ ⟨rfl, rfl⟩⟩

instance : Inhabited Binary64 := ⟨⟨false, 0, by decide⟩⟩

/-- The whole number of units. -/
def significand (x : Binary64) : Nat :=
  if x.rank < blockSize then x.rank else blockSize + x.rank % blockSize

/-- The power of two that is the unit. -/
def exponent (x : Binary64) : Int :=
  if x.rank < blockSize then -1074 else (x.rank / blockSize : Nat) - 1075

def isZero (x : Binary64) : Bool := x.rank == 0

def zero (negative : Bool) : Binary64 := ⟨negative, 0, by decide⟩

/-- The whole number nearest to a quotient; a half goes to the even neighbour. -/
def roundQuotient (num den : Nat) : Nat :=
  let q := num / den
  let twice := 2 * (num % den)
  if twice < den then q
  else if den < twice then q + 1
  else if q % 2 = 0 then q else q + 1

/-- The quotient `num · 2^scale / den`, both parts whole. -/
def scaled (num den : Nat) (scale : Int) : Nat × Nat :=
  (num * twoTo scale.toNat, den * twoTo (-scale).toNat)

/-- The greatest `k` with `2^k ≤ num / den`, for positive numbers. -/
def floorLog2 (num den : Nat) : Int :=
  let k : Int := (num.log2 : Int) - den.log2
  let (n, d) := scaled num den (-k)
  if n < d then k - 1 else k

/-- The rank nearest to `num / den`. -/
def nearestRank (num den : Nat) : Nat :=
  if num = 0 then 0
  else
    let unit := max (-1074) (floorLog2 num den - 52)
    let (n, d) := scaled num den (-unit)
    let units := roundQuotient n d
    if units < blockSize then units
    else (unit + 1075).toNat * blockSize + (units - blockSize)

/-- The number nearest to `num / den`, unless it lies beyond the finite ones. -/
def ofRatio? (negative : Bool) (num den : Nat) : Option Binary64 :=
  let rank := nearestRank num den
  if h : rank < finiteRanks then some ⟨negative, rank, h⟩ else none

def mul? (x y : Binary64) : Option Binary64 :=
  let (n, d) := scaled (x.significand * y.significand) 1 (x.exponent + y.exponent)
  ofRatio? (x.negative != y.negative) n d

/-- The quotient by a number that is not zero. -/
def div? (x y : Binary64) : Option Binary64 :=
  let (n, d) := scaled x.significand y.significand (x.exponent - y.exponent)
  ofRatio? (x.negative != y.negative) n d

/-- The number nearest to a power of ten. -/
def powerOfTen? (k : Nat) : Option Binary64 := ofRatio? false (tenTo k) 1

/-- Divides by `10^down`, at most 308 powers of ten at a time. -/
def divPowerOfTen? (x : Binary64) (down : Nat) : Option Binary64 :=
  if down ≤ 308 then (powerOfTen? down).bind x.div?
  else if x.isZero then some x
  else do divPowerOfTen? (← x.div? (← powerOfTen? 308)) (down - 308)
termination_by down

/-- The number written as `digits · 10^power`: the digits are rounded to a floating-point number
first, and the power of ten is then multiplied in or divided out, with roundings of their own. -/
def ofDigits? (negative : Bool) (digits : Nat) (power : Int) : Option Binary64 := do
  let x ← ofRatio? false digits 1
  let y ←
    if 0 ≤ power then
      if power ≤ 308 then x.mul? (← powerOfTen? power.toNat)
      else if x.isZero then some x
      else none
    else x.divPowerOfTen? (-power).toNat
  return { y with negative := negative }

/-- The number nearest to `digits · 10^power`, by one rounding. Powers that leave no doubt about the
outcome are not computed. -/
def nearestDecimal? (negative : Bool) (digits : Nat) (power : Int) : Option Binary64 :=
  let length : Int := (Nat.toDigits 10 digits).length
  if digits = 0 || length + power < -400 then some (zero negative)
  else if 400 < length + power then none
  else ofRatio? negative (digits * tenTo power.toNat) (tenTo (-power).toNat)

end Binary64

end SwaggerPress.Decimal
