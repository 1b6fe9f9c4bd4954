/-!
# Binary floating-point numbers

The numbers of the expression language are the 64-bit binary floating-point numbers.  Every
finite one is a whole multiple of `2^-1074`, the smallest positive one, so its value is kept
as a natural number of such *units* and all arithmetic is exact integer arithmetic followed
by one rounding.

* `Magnitude` is a finite size in its unique form `significand * 2^exponent` units;
* `Magnitude.round?` takes an exact quotient of units to the nearest magnitude, a tie to the
  even significand, and says when the quotient lies beyond the finite range;
* `Binary64` adds the sign, the two infinities and the value that is not a number;
* the arithmetic (`add`, `mul`, `div`, `rem`, `floor`, ...) is "compute exactly, then round";
* comparisons go through `rank?`, an integer that orders all values but `nan`.
-/

namespace FormLogic

/-! ## 1. Magnitudes -/

/-- **A finite size.**  It stands for `significand * 2^exponent` units.  The two bounds on the
significand make the form unique: below `2^52` units times two to the exponent only the
exponent `0` is left. -/
structure Magnitude where
  significand : Nat
  exponent : Nat
  significand_lt : significand < 1 <<< 53
  normal : exponent = 0 ∨ 1 <<< 52 ≤ significand
  exponent_le : exponent ≤ 2045
deriving DecidableEq, Repr

namespace Magnitude

/-- The size as a number of units of `2^-1074`. -/
def units (m : Magnitude) : Nat := m.significand <<< m.exponent

/-- The magnitude with the given parts, when they are in the unique form. -/
def ofParts? (significand exponent : Nat) : Option Magnitude :=
  if h : significand < 1 <<< 53 ∧ (exponent = 0 ∨ 1 <<< 52 ≤ significand) ∧ exponent ≤ 2045 then
    some ⟨significand, exponent, h.1, h.2.1, h.2.2⟩
  else
    none

/-- No size at all. -/
def zero : Magnitude := ⟨0, 0, by decide, by decide, by decide⟩

instance : Inhabited Magnitude := ⟨zero⟩

/-- A quotient taken to the nearest natural number, a tie to the even one. -/
def roundQuotient (num den : Nat) : Nat :=
  let q := num / den
  let r := num % den
  if 2 * r < den then q else if den < 2 * r then q + 1 else q + q % 2

/-- **Rounding.**  The magnitude nearest to `num / den` units, a tie going to the even
significand; `none` when the quotient rounds to `2^1024` or more.  The exponent is chosen so
that the quotient has 53 binary digits (or is below the first power of two that has).
Rounding up to `2^53` moves on to the next exponent. -/
def round? (num den : Nat) : Option Magnitude :=
  let e := (num / den).log2 - 52
  let m := roundQuotient num (den <<< e)
  if m < 1 <<< 53 then ofParts? m e else ofParts? (1 <<< 52) (e + 1)

end Magnitude

/-! ## 2. Numbers -/

/-- **A number** of the expression language. -/
inductive Binary64 where
  /-- Not a number: the result of an operation without a value. -/
  | nan
  | infinite (negative : Bool)
  | finite (negative : Bool) (magnitude : Magnitude)
deriving DecidableEq, Repr

namespace Binary64

/-- The number of units that make up one. -/
def unitsPerOne : Nat := 1 <<< 1074

def zero : Binary64 := .finite false .zero

instance : Inhabited Binary64 := ⟨zero⟩

/-- The number nearest to `num / den` units with the given sign, an infinity beyond the
finite range. -/
def ofUnits (negative : Bool) (num den : Nat) : Binary64 :=
  match Magnitude.round? num den with
  | some m => .finite negative m
  | none => .infinite negative

/-- The number nearest to a natural number. -/
def ofNat (n : Nat) : Binary64 := ofUnits false (n * unitsPerOne) 1

/-- The number nearest to an integer; zero has no sign. -/
def ofInt (i : Int) : Binary64 := ofUnits (decide (i < 0)) (i.natAbs * unitsPerOne) 1

def one : Binary64 := ofNat 1

/-- One half. -/
def half : Binary64 := ofUnits false unitsPerOne 2

def isNaN : Binary64 → Bool
  | .nan => true
  | _ => false

def isFinite : Binary64 → Bool
  | .finite _ _ => true
  | _ => false

/-- The sign bit, which zeros and infinities have too. -/
def isNegative : Binary64 → Bool
  | .nan => false
  | .infinite s => s
  | .finite s _ => s

/-- The signed number of units of a finite number. -/
def signedUnits (negative : Bool) (m : Magnitude) : Int :=
  if negative then -(m.units : Int) else m.units

/-! ## 3. Order -/

/-- An integer that orders the numbers: the signed units of a finite one, and for an infinity
an integer beyond all of those.  `nan` has no place in the order. -/
def rank? : Binary64 → Option Int
  | .nan => none
  | .infinite s => some (if s then -(1 <<< 2100 : Nat) else (1 <<< 2100 : Nat))
  | .finite s m => some (signedUnits s m)

/-- Numeric equality: the zeros of both signs are equal, and `nan` equals nothing. -/
def eq (a b : Binary64) : Bool :=
  match a.rank?, b.rank? with
  | some x, some y => x == y
  | _, _ => false

def lt (a b : Binary64) : Bool :=
  match a.rank?, b.rank? with
  | some x, some y => x < y
  | _, _ => false

def le (a b : Binary64) : Bool :=
  match a.rank?, b.rank? with
  | some x, some y => x ≤ y
  | _, _ => false

/-- Whether the number equals zero, of either sign. -/
def isZero (a : Binary64) : Bool := a.eq zero

/-- The lesser of two numbers; `nan` gives way to the other one. -/
def min (a b : Binary64) : Binary64 :=
  if a.isNaN then b else if b.isNaN then a else if b.lt a then b else a

/-- The greater of two numbers; `nan` gives way to the other one. -/
def max (a b : Binary64) : Binary64 :=
  if a.isNaN then b else if b.isNaN then a else if a.lt b then b else a

/-! ## 4. Arithmetic -/

def neg : Binary64 → Binary64
  | .nan => .nan
  | .infinite s => .infinite (!s)
  | .finite s m => .finite (!s) m

def abs : Binary64 → Binary64
  | .nan => .nan
  | .infinite _ => .infinite false
  | .finite _ m => .finite false m

/-- The sum.  An exact zero is negative only when both terms are. -/
def add : Binary64 → Binary64 → Binary64
  | .nan, _ | _, .nan => .nan
  | .infinite s, .infinite t => if s = t then .infinite s else .nan
  | .infinite s, .finite _ _ => .infinite s
  | .finite _ _, .infinite t => .infinite t
  | .finite s m, .finite t n =>
    let sum := signedUnits s m + signedUnits t n
    ofUnits (decide (sum < 0) || (sum == 0 && s && t)) sum.natAbs 1

def sub (a b : Binary64) : Binary64 := a.add b.neg

/-- The product; zero times an infinity is `nan`. -/
def mul : Binary64 → Binary64 → Binary64
  | .nan, _ | _, .nan => .nan
  | .infinite s, .infinite t => .infinite (s != t)
  | .infinite s, .finite t n => if n.units = 0 then .nan else .infinite (s != t)
  | .finite s m, .infinite t => if m.units = 0 then .nan else .infinite (s != t)
  | .finite s m, .finite t n => ofUnits (s != t) (m.units * n.units) unitsPerOne

/-- The quotient; a zero divisor gives an infinity, and `nan` for a zero dividend. -/
def div : Binary64 → Binary64 → Binary64
  | .nan, _ | _, .nan => .nan
  | .infinite _, .infinite _ => .nan
  | .infinite s, .finite t _ => .infinite (s != t)
  | .finite s _, .infinite t => .finite (s != t) .zero
  | .finite s m, .finite t n =>
    if n.units = 0 then
      if m.units = 0 then .nan else .infinite (s != t)
    else
      ofUnits (s != t) (m.units * unitsPerOne) n.units

/-- The remainder of the division that cuts the quotient towards zero; it has the sign of the
dividend and is exact. -/
def rem : Binary64 → Binary64 → Binary64
  | .nan, _ | _, .nan => .nan
  | .infinite _, _ => .nan
  | .finite s m, .infinite _ => .finite s m
  | .finite s m, .finite _ n =>
    if n.units = 0 then .nan else ofUnits s (m.units % n.units) 1

/-! ## 5. Whole numbers -/

/-- Whether the number is finite and whole. -/
def isWhole : Binary64 → Bool
  | .finite _ m => m.units % unitsPerOne == 0
  | _ => false

/-- The whole part, the fraction being cut off; `0` for what is not finite. -/
def truncate : Binary64 → Int
  | .finite s m =>
    let q : Int := (m.units / unitsPerOne : Nat)
    if s then -q else q
  | _ => 0

/-- The greatest whole number that is not greater. -/
def floor : Binary64 → Binary64
  | .finite s m =>
    let whole := m.units / unitsPerOne
    let up := if s && m.units % unitsPerOne != 0 then 1 else 0
    ofUnits s ((whole + up) * unitsPerOne) 1
  | x => x

/-- The least whole number that is not less. -/
def ceil (x : Binary64) : Binary64 := x.neg.floor.neg

end Binary64

end FormLogic
