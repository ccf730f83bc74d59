import ClausePlan.Double.Basic
/-!
# The shortest decimal of a double

Of all decimals that are nearer to a given double than to any other one, `Double.shortest` finds
one with the fewest digits, and among those the nearest.

## Main definitions

* `Decimal`: an integer times a power of ten.
* `Double.Binary.readsBack`: a decimal lies among the reals that round to the double.
* `Double.shortest`: the decimal with the fewest digits that reads back.
-/

namespace ClausePlan

/-- The decimal `digits · 10 ^ exponent`. -/
structure Decimal where
  /-- The integer factor. -/
  digits : Nat
  /-- The power of ten. -/
  exponent : Int
deriving DecidableEq, Repr

namespace Decimal

/-- Moves trailing zeros of the digits into the exponent. -/
def stripZeros (digits : Nat) (exponent : Int) : Decimal :=
  if h : digits ≠ 0 ∧ digits % 10 = 0 then
    have : digits / 10 < digits := by omega
    stripZeros (digits / 10) (exponent + 1)
  else ⟨digits, exponent⟩
termination_by digits

end Decimal

namespace Double.Binary

/-- Compares `a · 10 ^ i` with `b · 2 ^ j` exactly. -/
def compareScaled (a : Nat) (i : Int) (b : Nat) (j : Int) : Ordering :=
  compare ((a * Nat.pow 10 i.toNat) <<< (-j).toNat) ((b * Nat.pow 10 (-i).toNat) <<< j.toNat)

/-- A decimal reads back as `x` when it lies between the midpoints to the neighbours of `x`. A
midpoint itself counts exactly when the mantissa is even, since ties round to even. -/
def readsBack (x : Binary) (d : Decimal) : Bool :=
  -- in units of a quarter of the last place, the midpoints are whole numbers
  let low := if x.narrowBelow then 4 * x.mantissa - 1 else 4 * x.mantissa - 2
  let high := 4 * x.mantissa + 2
  let aboveLow := compareScaled d.digits d.exponent low (x.exponent - 2)
  let belowHigh := compareScaled d.digits d.exponent high (x.exponent - 2)
  let even := x.mantissa % 2 == 0
  (aboveLow == .gt || (even && aboveLow == .eq)) && (belowHigh == .lt || (even && belowHigh == .eq))

/-- The nearest multiple of `10 ^ exponent` that reads back as `x`, if there is one. Only the two
multiples next to `x` can qualify; of two equally near ones the even one is taken. -/
def onGrid? (x : Binary) (exponent : Int) : Option Decimal :=
  let numerator := (x.mantissa * Nat.pow 10 (-exponent).toNat) <<< x.exponent.toNat
  let denominator := Nat.pow 10 exponent.toNat <<< (-x.exponent).toNat
  let below := numerator / denominator
  let preferred :=
    match compare (2 * numerator) ((2 * below + 1) * denominator) with
    | .lt => below
    | .gt => below + 1
    | .eq => if below % 2 = 0 then below else below + 1
  let other := if preferred = below then below + 1 else below
  [preferred, other].map (Decimal.mk · exponent) |>.find? x.readsBack

/-- The value itself as a decimal, however long. -/
def exact (x : Binary) : Decimal :=
  ⟨(x.mantissa * Nat.pow 5 (-x.exponent).toNat) <<< x.exponent.toNat, min x.exponent 0⟩

/-- The first grid from coarse to fine with a multiple that reads back. Seventeen digits always
suffice, so the search starts no lower than the leading digit and tries some twenty grids. -/
def shortest (x : Binary) : Decimal :=
  -- `log₁₀ 2` is a little less than 0.30103
  let top := ((x.mantissa.log2 + 1 + x.exponent) * 30103) / 100000 + 1
  let found := (List.range 22).findSome? fun (i : Nat) => x.onGrid? (top - i)
  let d := found.getD x.exact
  Decimal.stripZeros d.digits d.exponent

end Double.Binary

namespace Double

/-- The decimal with the fewest digits that reads back as the magnitude of `x`, and among those the
nearest; `0` for both zeros. -/
def shortest (x : Double) : Decimal :=
  if x.magnitude.mantissa = 0 then ⟨0, 0⟩ else x.magnitude.shortest

end Double

end ClausePlan
