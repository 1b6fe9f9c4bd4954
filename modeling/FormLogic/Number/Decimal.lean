import FormLogic.Number.Binary64

/-!
# Decimal fractions and their nearest binary number

A `Decimal` is a natural number times a power of ten.  `Decimal.toBinary64` takes it to the
nearest binary number.
-/

namespace FormLogic

/-- `digits * 10^exponent`. -/
structure Decimal where
  digits : Nat
  exponent : Int
deriving DecidableEq, Repr

namespace Decimal

/-- **The nearest number.**  The rounding is exact for every exponent; the first two cases
keep powers of ten that cannot matter from being computed.  `10^310` is beyond the finite
range whatever non-zero digits precede it, and a quotient below `2^-1076` rounds to zero:
`digits < 2^(log2 digits + 1)` and `10^k > 2^(3 k)`. -/
def toBinary64 (negative : Bool) (d : Decimal) : Binary64 :=
  if d.digits = 0 then
    .finite negative .zero
  else if 310 ≤ d.exponent then
    .infinite negative
  else if (d.digits.log2 : Int) + 1077 < -3 * d.exponent then
    .finite negative .zero
  else if 0 ≤ d.exponent then
    .ofUnits negative (d.digits * Nat.pow 10 d.exponent.toNat * Binary64.unitsPerOne) 1
  else
    .ofUnits negative (d.digits * Binary64.unitsPerOne) (Nat.pow 10 (-d.exponent).toNat)

end Decimal

end FormLogic
