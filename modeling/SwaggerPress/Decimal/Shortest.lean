import SwaggerPress.Decimal.Binary64

/-!
    The shortest decimal that reads back. A decimal `c · 10^k` reads back as `x` when it lies in the
    interval of the numbers that round to `x`: from half a unit below to half a unit above, ends
    included when the last bit of `x` is zero. Coarse grids are tried before fine ones, and on each
    grid the two neighbours of `x`; the nearer of two that read back is taken, the even one at equal
    distance.

        grid 10^k      …  c·10^k ───── x ───── (c+1)·10^k  …
        interval              [────────x────────]

    The first grid with a hit has the fewest digits, because a grid point inside the interval has a
    neighbour of `x` between it and `x`. -/

namespace SwaggerPress.Decimal

/-- The decimal `digits · 10^power`. -/
structure Digits where
  digits : Nat
  power : Int

namespace Binary64

/-- The interval of the numbers that round to a positive number, in quarters of its unit: lower
end, the number itself, upper end. -/
def interval (x : Binary64) : Nat × Nat × Nat :=
  let m := x.significand
  let below := if m = blockSize ∧ x.exponent ≠ -1074 then 1 else 2
  (4 * m - below, 4 * m, 4 * m + 2)

/-- The grid point with step `10^power` that reads back as `x`, if there is one. -/
def onGrid? (x : Binary64) (power : Int) : Option Nat :=
  let (low, mid, high) := x.interval
  let quarter := x.exponent - 2
  let step := tenTo power.toNat * twoTo (-quarter).toNat
  let part := twoTo quarter.toNat * tenTo (-power).toNat
  let inside (c : Nat) : Bool :=
    if x.significand % 2 = 0 then low * part ≤ c * step && c * step ≤ high * part
    else low * part < c * step && c * step < high * part
  let c := mid * part / step
  let above := (c + 1) * step - mid * part
  let below := mid * part - c * step
  match inside c, inside (c + 1) with
  | false, false => none
  | true, false => some c
  | false, true => some (c + 1)
  | true, true =>
    if below < above then some c
    else if above < below then some (c + 1)
    else if c % 2 = 0 then some c else some (c + 1)

/-- A power of ten above the number. -/
def powerAbove (x : Binary64) : Int :=
  ((x.significand.log2 : Int) + x.exponent + 1) * 30103 / 100000 + 2

/-- The fewest digits that read back as the number; zero has the digit 0. -/
def shortest (x : Binary64) : Digits :=
  if x.isZero then ⟨0, 0⟩
  else
    let grids := (List.range 40).map fun i : Nat => x.powerAbove - i
    (grids.findSome? fun k => (x.onGrid? k).map fun c => ⟨c, k⟩).getD ⟨0, 0⟩

end Binary64

end SwaggerPress.Decimal
