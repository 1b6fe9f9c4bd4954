import FormLogic.Document

/-!
# Numbers of JSON text

An integer of at most 64 bits is exact.  Any other number is read as its leading digits, as
many of them as fit 64 bits, and one power of ten by which these are multiplied or divided;
the significand and each step are rounded.  A number beyond the finite range has no value.
-/

namespace FormLogic.Json

/-- **A number as written.** -/
structure NumberText where
  negative : Bool
  whole : List Char
  fraction : List Char
  /-- The sign and the digits of the exponent. -/
  exponent? : Option (Bool × List Char)
deriving DecidableEq, Repr

namespace NumberText

def asciiDigits (cs : List Char) : List Char × List Char :=
  (cs.takeWhile Text.isAsciiDigit, cs.dropWhile Text.isAsciiDigit)

/-- The whole part: a zero alone, or digits that do not begin with one. -/
def scanWhole? (cs : List Char) : Option (List Char × List Char) :=
  match asciiDigits cs with
  | ([], _) => none
  | ('0' :: _ :: _, _) => none
  | (digits, rest) => some (digits, rest)

/-- A point and digits, if there is a point. -/
def scanFraction? (cs : List Char) : Option (List Char × List Char) :=
  match cs with
  | '.' :: cs =>
    match asciiDigits cs with
    | ([], _) => none
    | (digits, rest) => some (digits, rest)
  | cs => some ([], cs)

/-- `e`, an optional sign and digits, if there is an `e`. -/
def scanExponent? (cs : List Char) : Option (Option (Bool × List Char) × List Char) :=
  match cs with
  | c :: rest =>
    if c = 'e' ∨ c = 'E' then
      let (negative, afterSign) := Numeral.scanSign rest
      match asciiDigits afterSign with
      | ([], _) => none
      | (digits, rest) => some (some (negative, digits), rest)
    else
      some (none, cs)
  | [] => some (none, [])

/-- An optional minus sign. -/
def scanMinus (cs : List Char) : Bool × List Char :=
  match cs with
  | '-' :: cs => (true, cs)
  | cs => (false, cs)

/-- The number at the front of a text, and what follows it. -/
def scan? (cs : List Char) : Option (NumberText × List Char) := do
  let (negative, cs) := scanMinus cs
  let (whole, cs) ← scanWhole? cs
  let (fraction, cs) ← scanFraction? cs
  let (exponent?, cs) ← scanExponent? cs
  return (⟨negative, whole, fraction, exponent?⟩, cs)

theorem length_asciiDigits (cs : List Char) :
    (asciiDigits cs).1.length + (asciiDigits cs).2.length = cs.length := by
  rw [← List.length_append]
  exact congrArg List.length List.takeWhile_append_dropWhile

theorem length_scanMinus_le (cs : List Char) : (scanMinus cs).2.length ≤ cs.length := by
  unfold scanMinus
  split <;> simp

theorem length_scanSign_le (cs : List Char) : (Numeral.scanSign cs).2.length ≤ cs.length := by
  unfold Numeral.scanSign
  split <;> simp

theorem length_lt_of_scanWhole? {cs digits rest : List Char}
    (h : scanWhole? cs = some (digits, rest)) : rest.length < cs.length := by
  have hlen := length_asciiDigits cs
  unfold scanWhole? at h
  split at h <;> simp only [Option.some.injEq, Prod.mk.injEq, reduceCtorEq] at h
  next ds rest' hne _ heq =>
    rw [heq] at hlen
    obtain ⟨rfl, rfl⟩ := h
    have : 0 < ds.length := List.length_pos_iff.mpr (by rintro rfl; exact hne rfl)
    simp only at hlen
    omega

theorem length_le_of_scanFraction? {cs digits rest : List Char}
    (h : scanFraction? cs = some (digits, rest)) : rest.length ≤ cs.length := by
  unfold scanFraction? at h
  split at h
  · next cs =>
    have hlen := length_asciiDigits cs
    split at h <;> simp only [Option.some.injEq, Prod.mk.injEq, reduceCtorEq] at h
    next heq =>
      rw [heq] at hlen
      obtain ⟨rfl, rfl⟩ := h
      simp only [List.length_cons] at hlen ⊢
      omega
  · simp only [Option.some.injEq, Prod.mk.injEq] at h
    obtain ⟨-, rfl⟩ := h
    exact Nat.le_refl _

theorem length_le_of_scanExponent? {cs rest : List Char} {e : Option (Bool × List Char)}
    (h : scanExponent? cs = some (e, rest)) : rest.length ≤ cs.length := by
  unfold scanExponent? at h
  split at h
  · next c cs =>
    split at h
    · have hsign := length_scanSign_le cs
      have hlen := length_asciiDigits (Numeral.scanSign cs).2
      simp only at h
      split at h
      · simp at h
      · next heq =>
        rw [heq] at hlen
        obtain ⟨-, rfl⟩ := by simpa using h
        simp only [List.length_cons] at hlen ⊢
        omega
    · obtain ⟨-, rfl⟩ := by simpa using h
      exact Nat.le_refl _
  · obtain ⟨-, rfl⟩ := by simpa using h
    exact Nat.le_refl _

/-- A number takes at least one character. -/
theorem length_lt_of_scan? {cs rest : List Char} {n : NumberText}
    (h : scan? cs = some (n, rest)) : rest.length < cs.length := by
  simp only [scan?, Option.bind_eq_bind, Option.bind_eq_some_iff, Option.pure_def,
    Option.some.injEq, Prod.mk.injEq] at h
  obtain ⟨⟨w, r1⟩, h1, ⟨f, r2⟩, h2, ⟨e, r3⟩, h3, -, hr⟩ := h
  have h0 := length_scanMinus_le cs
  have h1 := length_lt_of_scanWhole? h1
  have h2 := length_le_of_scanFraction? h2
  have h3 := length_le_of_scanExponent? h3
  simp only at h1 h2 h3 hr
  subst hr
  omega

/-- A significand below `2^64` and the power of ten that goes with it. -/
structure Scaled where
  significand : Nat
  exponent : Int
deriving DecidableEq, Repr

/-- Appends a run of digits to the significand while it stays below `2^64`.  A digit that is
taken moves the exponent by `taken`, one that is left out, and all after it, by `left`. -/
def Scaled.push (taken left : Int) (s : Scaled) : List Char → Scaled
  | [] => s
  | d :: ds =>
    let next := 10 * s.significand + (d.toNat - '0'.toNat)
    if next < UInt64.size then
      Scaled.push taken left ⟨next, s.exponent + taken⟩ ds
    else
      ⟨s.significand, s.exponent + left * (ds.length + 1 : Nat)⟩

/-- Ten to a natural power. -/
def powerOfTen (n : Nat) : Binary64 := Decimal.toBinary64 false ⟨1, n⟩

/-- The significand times its power of ten: one multiplication or division by at most `10^308`,
after as many divisions by `10^308` as it takes; `none` beyond the finite range. -/
def scale? (x : Binary64) (exponent : Int) : Option Binary64 :=
  if exponent.natAbs ≤ 308 then
    if 0 ≤ exponent then
      let y := x.mul (powerOfTen exponent.natAbs)
      if y.isFinite then some y else none
    else
      some (x.div (powerOfTen exponent.natAbs))
  else if x.isZero then
    some x
  else if h : 0 ≤ exponent then
    none
  else
    scale? (x.div (powerOfTen 308)) (exponent + 308)
termination_by exponent.natAbs
decreasing_by omega

/-- The exponent as written.  Beyond 31 bits it is as good as infinite. -/
def writtenExponent (n : NumberText) : Int :=
  match n.exponent? with
  | none => 0
  | some (negative, digits) =>
    let e := min (Text.decimalValue digits) (1 <<< 31)
    if negative then -(e : Int) else e

/-- The value of a number with a fraction, an exponent or more than 64 bits. -/
def double? (n : NumberText) : Option Binary64 := do
  let s := (Scaled.push 0 1 ⟨0, 0⟩ n.whole).push (-1) 0 n.fraction
  let x ← scale? (.ofNat s.significand) (s.exponent + n.writtenExponent)
  return if n.negative then x.neg else x

/-- **The value of a number**, an integer where it has one of at most 64 bits. -/
def toDocument (n : NumberText) : Document :=
  let i := Text.decimalValue n.whole
  if n.fraction.isEmpty && n.exponent?.isNone && !n.negative && i < UInt64.size then .integer i
  else if n.fraction.isEmpty && n.exponent?.isNone && n.negative && 0 < i && i ≤ 1 <<< 63 then
    .integer (-i)
  else match n.double? with
    | some x => .double x
    | none => .unreadable

end NumberText

end FormLogic.Json
