/-!
# Finite binary64 numbers

A JSON document can hold numbers that are not integers. They are kept as the bit pattern of a
binary64 number, so that equality of documents is decidable.

## Main definitions

* `Double`: a finite binary64 number.
* `Double.ofDecimal?`: the double that a decimal stands for, unless that lies beyond the largest
  one.
* `Double.Binary`: the magnitude of a double as an integer times a power of two.
-/

namespace ClausePlan

/-- A finite binary64 number, given by its bit pattern. -/
structure Double where
  /-- Sign, biased exponent and fraction, from the highest bit down. -/
  bits : UInt64
  /-- The exponent is not the one reserved for infinities and not-a-number. -/
  finite : (bits >>> 52) &&& 0x7FF ≠ 0x7FF
deriving DecidableEq, Repr

namespace Double

/-- Whether the sign bit is set; so it is for negative zero, too. -/
def isNegative (x : Double) : Bool :=
  x.bits >>> 63 == 1

/-- The double with the given bit pattern, if that pattern is finite. -/
def ofBits? (bits : UInt64) : Option Double :=
  if h : (bits >>> 52) &&& 0x7FF ≠ 0x7FF then some ⟨bits, h⟩ else none

/-- The magnitude of a double: `mantissa · 2 ^ exponent`. -/
structure Binary where
  /-- The integer factor. -/
  mantissa : Nat
  /-- The power of two. -/
  exponent : Int
  /-- The next smaller double is only half as far away as the next larger one. -/
  narrowBelow : Bool
deriving DecidableEq, Repr

/-- The magnitude of a double. -/
def magnitude (x : Double) : Binary :=
  let biased := ((x.bits >>> 52) &&& 0x7FF).toNat
  let fraction := (x.bits &&& 0xFFFFFFFFFFFFF).toNat
  if biased = 0 then ⟨fraction, -1074, false⟩
  else ⟨0x10000000000000 + fraction, (biased : Int) - 1075, fraction == 0 && 1 < biased⟩

/-- The double nearest to `10 ^ n`. -/
def powerOfTen (n : Nat) : Float :=
  Float.ofScientific 1 false n

/-- The double that `± significand · 10 ^ exponent` stands for, or `none` if it lies beyond the
largest one. Significand and power of ten are rounded to doubles first and then multiplied or
divided, which rounds again, so the result need not be the double nearest to the decimal. A power
too small for a double is divided by in two steps. A zero keeps its sign. -/
def ofDecimal? (negative : Bool) (significand : UInt64) (exponent : Int) : Option Double :=
  let sign : UInt64 := if negative then 0x8000000000000000 else 0
  let x := significand.toFloat
  -- no significand is so large that anything is left of it below `10 ^ -616`
  if significand = 0 ∨ exponent < -616 then ofBits? sign
  else if 308 < exponent then none
  else
    let scaled :=
      if 0 ≤ exponent then x * powerOfTen exponent.toNat
      else if -308 ≤ exponent then x / powerOfTen (-exponent).toNat
      else x / powerOfTen 308 / powerOfTen (-exponent - 308).toNat
    ofBits? (sign ||| scaled.toBits)

end Double

end ClausePlan
