import FormLogic.Number.Numeral
import FormLogic.Proofs.Expression.Literal

/-!
# Number literals as they are written

`Spelling` is the grammar of an unsigned decimal literal: digits, perhaps a point and digits after
it, and perhaps an exponent, which may have a sign of its own.  The lenient reading takes the
whole of such a text, and no more in front of a text that cannot go on with it (`Spelling.Stops`).
Its number is the one nearest to the decimal fraction that is written (`lenient?_append`), and it is
a number in any case, if only an infinite one.  And no other text is taken as a whole by the scanner
and has a value (`isWhole_iff`).
-/

namespace FormLogic

open Text

/-! ## 1. Spellings -/

namespace Numeral

def AllDigits (cs : List Char) : Prop := ∀ c ∈ cs, isAsciiDigit c = true

instance (cs : List Char) : Decidable (AllDigits cs) := List.decidableBAll _ cs

/-- ASCII digits, or none at all. -/
abbrev Digits := { cs : List Char // AllDigits cs }

/-- What may stand between the mark of an exponent and its digits. -/
inductive ExponentSign where
  | unsigned
  | plus
  | minus
deriving DecidableEq, Repr

def ExponentSign.text : ExponentSign → List Char
  | unsigned => []
  | plus => ['+']
  | minus => ['-']

/-- An exponent as written. -/
structure Exponent where
  mark : Char
  sign : ExponentSign
  digits : Digits
  mark_eq : mark = 'e' ∨ mark = 'E'
  digits_ne : digits.1 ≠ []

namespace Exponent

def text (e : Exponent) : List Char := e.mark :: (e.sign.text ++ e.digits)

def value (e : Exponent) : Int :=
  if e.sign = .minus then -decimalValue e.digits else decimalValue e.digits

end Exponent

/-- **An unsigned decimal literal as written.**  There is a digit before the point or after. -/
structure Spelling where
  whole : Digits
  /-- The digits after the point, when there is a point. -/
  fraction : Option Digits
  exponent : Option Exponent
  some_digit : whole.1 ++ fraction.elim [] Subtype.val ≠ []

namespace Spelling

variable (s : Spelling)

/-- The digits after the point. -/
def fractionDigits : List Char := s.fraction.elim [] Subtype.val

/-- The point and the digits after it. -/
def fractionText : List Char := s.fraction.elim [] fun f => '.' :: f.1

def exponentText : List Char := s.exponent.elim [] Exponent.text

/-- The text in front of the exponent. -/
def mantissa : List Char := s.whole ++ s.fractionText

def text : List Char := s.mantissa ++ s.exponentText

/-- The decimal fraction that is written. -/
def decimal : Decimal where
  digits := decimalValue (s.whole ++ s.fractionDigits)
  exponent := (s.exponent.elim 0 Exponent.value) - s.fractionDigits.length

/-- **The number of a literal**: the one nearest to the decimal fraction. -/
def value : Binary64 := s.decimal.toBinary64 false

end Spelling

/-! ## 2. The scanner takes the whole text -/

theorem isDigit_of_isAsciiDigit {c : Char} (h : isAsciiDigit c = true) : isDigit c = true := by
  simp [isDigit, h]

/-- The rest of a text does not go on with digits. -/
def NoDigitAhead (cs : List Char) : Prop := ∀ c ∈ cs.head?, isDigit c = false

theorem scanDigits_append (ds : Digits) {rest : List Char} (h : NoDigitAhead rest) :
    scanDigits (ds ++ rest) = (ds.1, rest) := by
  have hds : ∀ c ∈ ds.1, isDigit c = true := fun c hc => isDigit_of_isAsciiDigit (ds.2 c hc)
  have hrest : rest.takeWhile isDigit = [] ∧ rest.dropWhile isDigit = rest := by
    cases rest with
    | nil => exact ⟨rfl, rfl⟩
    | cons c rest => simp [h c rfl]
  rw [scanDigits, List.takeWhile_append_of_pos hds, List.dropWhile_append_of_pos hds, hrest.1,
    hrest.2, List.append_nil]

/-- Digits have no sign before them. -/
theorem scanSign_of_head_ne {cs : List Char} (hminus : cs.head? ≠ some '-')
    (hplus : cs.head? ≠ some '+') : scanSign cs = (false, cs) := by
  unfold scanSign
  split
  · exact absurd rfl hminus
  · exact absurd rfl hplus
  · rfl

theorem Digits.head?_ne (ds : Digits) {c : Char} (hc : isAsciiDigit c = false) :
    ds.1.head? ≠ some c := by
  intro h
  rw [ds.2 c (List.mem_of_head? h)] at hc
  exact Bool.noConfusion hc

/-- A sign is taken off and known, unless it is left out in front of something that looks like
one. -/
theorem scanSign_text_append (sign : ExponentSign) {rest : List Char}
    (hminus : rest.head? ≠ some '-') (hplus : rest.head? ≠ some '+') :
    scanSign (sign.text ++ rest) = (decide (sign = .minus), rest) := by
  cases sign with
  | unsigned => exact scanSign_of_head_ne hminus hplus
  | plus => rfl
  | minus => rfl

theorem Digits.head?_append_ne {ds : Digits} (hne : ds.1 ≠ []) {c : Char}
    (hc : isAsciiDigit c = false) (rest : List Char) : (ds.1 ++ rest).head? ≠ some c := by
  obtain ⟨d, more, hcons⟩ := List.exists_cons_of_ne_nil hne
  have hd := ds.head?_ne hc
  rw [hcons] at hd ⊢
  exact hd

theorem scanExponent_text_append (e : Exponent) {rest : List Char} (hrest : NoDigitAhead rest) :
    scanExponent (e.text ++ rest) = ((decide (e.sign = .minus), e.digits.1), rest) := by
  have hsign : scanSign (e.sign.text ++ (e.digits.1 ++ rest))
      = (decide (e.sign = .minus), e.digits.1 ++ rest) :=
    scanSign_text_append e.sign (Digits.head?_append_ne e.digits_ne (by decide) rest)
      (Digits.head?_append_ne e.digits_ne (by decide) rest)
  rw [Exponent.text, List.cons_append, List.append_assoc]
  simp only [scanExponent, if_pos e.mark_eq, hsign, scanDigits_append e.digits hrest]
  simp [e.digits_ne]

namespace Spelling

variable (s : Spelling)

theorem noDigitAhead_exponentText : NoDigitAhead s.exponentText := by
  unfold exponentText
  cases s.exponent with
  | none => exact fun c hc => by simp at hc
  | some e =>
    intro c hc
    obtain rfl : e.mark = c := by simpa [Exponent.text] using hc
    rcases e.mark_eq with h | h <;> rw [h] <;> decide

theorem head?_exponentText_ne : s.exponentText.head? ≠ some '.' := by
  unfold exponentText
  cases s.exponent with
  | none => simp
  | some e => rcases e.mark_eq with h | h <;> simp [Exponent.text, h]

/-- The digits and the point are scanned when the rest does not go on with them. -/
theorem scanMantissa?_append {rest : List Char} (hrest : NoDigitAhead rest)
    (hpoint : s.fraction = none → rest.head? ≠ some '.') :
    scanMantissa? (s.mantissa ++ rest) = some ((s.whole.1, s.fractionDigits), rest) := by
  rw [mantissa, List.append_assoc, scanMantissa?]
  have hdigit := s.some_digit
  unfold fractionText fractionDigits
  cases hfraction : s.fraction with
  | none =>
    have hwhole : s.whole.1.isEmpty = false := by
      simpa [hfraction] using hdigit
    simp only [Option.elim, List.nil_append, scanDigits_append s.whole hrest, hwhole]
    split
    · exact absurd rfl (hpoint hfraction)
    · rfl
  | some f =>
    have hahead : NoDigitAhead ('.' :: (f.1 ++ rest)) := by
      intro c hc
      obtain rfl : '.' = c := by simpa using hc
      decide
    have hsome : (s.whole.1.isEmpty && f.1.isEmpty) = false := by
      simpa [hfraction] using hdigit
    simp only [Option.elim, List.cons_append, scanDigits_append s.whole hahead,
      scanDigits_append f hrest, hsome]
    rfl

/-- What is scanned of a literal. -/
def numeral : Numeral where
  whole := s.whole
  fraction := s.fractionDigits
  exponentNegative := s.exponent.any fun e => decide (e.sign = .minus)
  exponent := s.exponent.elim [] fun e => e.digits.1

/-- **The scanner stops behind the literal**: what follows does not go on with its digits, and gives
it neither a point nor an exponent that it does not have. -/
structure Stops (rest : List Char) : Prop where
  digit : NoDigitAhead rest
  point : s.exponent = none → s.fraction = none → rest.head? ≠ some '.'
  exponent : s.exponent = none → scanExponent rest = ((false, []), rest)

/-- **A literal is scanned as a whole**, and no more, in front of a text that it stops at. -/
theorem scan?_append {rest : List Char} (h : s.Stops rest) :
    scan? (s.text ++ rest) = some (s.numeral, rest) := by
  rw [text, List.append_assoc, scan?]
  cases hexponent : s.exponent with
  | none =>
    have hmantissa := s.scanMantissa?_append h.digit (h.point hexponent)
    simp [exponentText, hexponent, hmantissa, h.exponent hexponent, numeral]
  | some e =>
    have hahead : NoDigitAhead (e.text ++ rest) := by
      have hdigit := s.noDigitAhead_exponentText
      rw [exponentText, hexponent] at hdigit
      exact hdigit
    have hmark : s.fraction = none → (e.text ++ rest).head? ≠ some '.' := by
      have hpoint := s.head?_exponentText_ne
      rw [exponentText, hexponent] at hpoint
      exact fun _ => hpoint
    have hmantissa := s.scanMantissa?_append hahead hmark
    simp [exponentText, hexponent, hmantissa, scanExponent_text_append e h.digit, numeral]

theorem stops_nil : s.Stops [] := ⟨fun _ => nofun, fun _ _ => nofun, fun _ => rfl⟩

/-- **The text of a literal is scanned as a whole.** -/
theorem scan?_text : scan? s.text = some (s.numeral, []) := by
  simpa using s.scan?_append s.stops_nil

/-- A mark without an exponent behind it does not belong to the literal. -/
theorem stops_mark {mark : Char} (hmark : mark = 'e' ∨ mark = 'E') : s.Stops [mark] := by
  rcases hmark with rfl | rfl <;>
    exact ⟨fun c hc => Option.some.inj hc ▸ by decide, fun _ _ => by decide, fun _ => rfl⟩

/-! ## 3. What the text is like -/

theorem isWordPart_of_isAsciiDigit {c : Char} (h : isAsciiDigit c = true) :
    isWordPart c = true := by
  simp [isWordPart, isIdentifierPart, isAsciiAlphanumeric, h]

/-- What may stand in front of an exponent: digits and a point. -/
theorem mem_mantissa {c : Char} (h : c ∈ s.mantissa) : isAsciiDigit c = true ∨ c = '.' := by
  rcases List.mem_append.mp h with h | h
  · exact .inl (s.whole.2 c h)
  · unfold fractionText at h
    cases hfraction : s.fraction with
    | none => simp [hfraction] at h
    | some f =>
      rw [hfraction] at h
      rcases List.mem_cons.mp h with rfl | h
      · exact .inr rfl
      · exact .inl (f.2 c h)

theorem isWordPart_of_mem_exponent {e : Exponent} {c : Char} (h : c ∈ e.text) :
    isWordPart c = true := by
  rcases List.mem_cons.mp h with rfl | h
  · rcases e.mark_eq with h | h <;> rw [h] <;> decide
  · rcases List.mem_append.mp h with h | h
    · revert h
      cases e.sign with
      | unsigned => exact nofun
      | plus =>
        intro h
        obtain rfl := List.mem_singleton.mp h
        decide
      | minus =>
        intro h
        obtain rfl := List.mem_singleton.mp h
        decide
    · exact isWordPart_of_isAsciiDigit (e.digits.2 c h)

theorem mantissa_ne_nil : s.mantissa ≠ [] := by
  have hdigit := s.some_digit
  unfold mantissa fractionText
  cases hfraction : s.fraction with
  | none => simpa [hfraction] using hdigit
  | some f => simp

/-- The text of a literal is a word. -/
theorem isWord : IsWord s.text := by
  refine ⟨List.append_ne_nil_of_left_ne_nil s.mantissa_ne_nil _, ?_⟩
  intro c hc
  rcases List.mem_append.mp hc with hc | hc
  · rcases s.mem_mantissa hc with h | rfl
    · exact isWordPart_of_isAsciiDigit h
    · decide
  · unfold exponentText at hc
    cases hexponent : s.exponent with
    | none => simp [hexponent] at hc
    | some e =>
      rw [hexponent] at hc
      exact isWordPart_of_mem_exponent hc

/-- It begins with a digit or a point. -/
theorem head?_text_ne {c : Char} (hc : isAsciiDigit c = false) (hpoint : c ≠ '.') :
    s.text.head? ≠ some c := by
  obtain ⟨d, rest, hmantissa⟩ := List.exists_cons_of_ne_nil s.mantissa_ne_nil
  rw [text, hmantissa]
  intro h
  obtain rfl : d = c := by simpa using h
  rcases s.mem_mantissa (hmantissa ▸ List.mem_cons_self) with h | h
  · rw [hc] at h
    exact Bool.noConfusion h
  · exact hpoint h

/-- It ends in a digit or a point. -/
theorem exists_last : ∃ start c, s.text = start ++ [c] ∧ (isAsciiDigit c = true ∨ c = '.') := by
  have hmantissa := List.dropLast_concat_getLast s.mantissa_ne_nil
  unfold text exponentText
  cases s.exponent with
  | none =>
    exact ⟨s.mantissa.dropLast, _, by simp [hmantissa],
      s.mem_mantissa (List.getLast_mem s.mantissa_ne_nil)⟩
  | some e =>
    have hdigits := List.dropLast_concat_getLast e.digits_ne
    refine ⟨s.mantissa ++ (e.mark :: (e.sign.text ++ e.digits.1.dropLast)), _, ?_,
      .inl (e.digits.2 _ (List.getLast_mem e.digits_ne))⟩
    conv => lhs; rw [Option.elim, Exponent.text, ← hdigits]
    simp

/-! ## 4. The number of a literal -/

/-- **The number that is scanned is the decimal fraction that is written.** -/
theorem value?_numeral : s.numeral.value? = some s.decimal := by
  have hwhole := List.all_eq_true.mpr s.whole.2
  have hfraction : s.fractionDigits.all isAsciiDigit = true := by
    unfold fractionDigits
    cases s.fraction with
    | none => rfl
    | some f => exact List.all_eq_true.mpr f.2
  unfold value? numeral decimal
  cases s.exponent with
  | none => simp [hwhole, hfraction, decimalValue]
  | some e =>
    have hexponent := List.all_eq_true.mpr e.digits.2
    simp [hwhole, hfraction, hexponent, Exponent.value]

/-- Nothing that stands before a literal is mistaken for a part of it. -/
theorem head?_text_append_ne {c : Char} (hc : isAsciiDigit c = false) (hpoint : c ≠ '.')
    (rest : List Char) : (s.text ++ rest).head? ≠ some c := by
  obtain ⟨d, more, htext, -⟩ := s.isWord.tight.first
  have hd := s.head?_text_ne hc hpoint
  rw [htext] at hd ⊢
  exact hd

/-- The sign before a literal is taken off. -/
theorem scanSign_append (sign : ExponentSign) (rest : List Char) :
    scanSign (sign.text ++ (s.text ++ rest)) = (decide (sign = .minus), s.text ++ rest) :=
  scanSign_text_append sign
    (s.head?_text_append_ne (by decide : isAsciiDigit '-' = false) (by decide) rest)
    (s.head?_text_append_ne (by decide : isAsciiDigit '+' = false) (by decide) rest)

/-- What the lenient reading makes of a text with a literal at its front is up to the scanner. -/
theorem lenient?_eq_scan? (sign : ExponentSign) (rest : List Char) :
    Number.lenient? (sign.text ++ (s.text ++ rest)) =
      (scan? (s.text ++ rest)).bind fun r =>
        r.1.value?.map (Decimal.toBinary64 (decide (sign = .minus))) := by
  have htrim : trimStart (sign.text ++ (s.text ++ rest)) = sign.text ++ (s.text ++ rest) := by
    obtain ⟨c, more, htext, hc⟩ := s.isWord.tight.first
    have hblank : isBlank '-' = false ∧ isBlank '+' = false := by decide
    cases sign <;> simp [trimStart, ExponentSign.text, htext, hc, hblank]
  have hinfinity : dropPrefix? Number.infinityName (s.text ++ rest) = none := by
    refine dropPrefix?_eq_none ?_
    rintro ⟨rest', hinfinity⟩
    refine s.head?_text_append_ne (by decide : isAsciiDigit 'I' = false) (by decide) rest ?_
    rw [← hinfinity]
    rfl
  rw [Number.lenient?, htrim, s.scanSign_append]
  simp only [hinfinity]
  cases scan? (s.text ++ rest) with
  | none => rfl
  | some r => cases hvalue : r.1.value? <;> simp [hvalue]

/-- **A literal behind a sign is read as the number nearest to what is written**, whatever is left
over behind it. -/
theorem lenient?_append {rest : List Char} (h : s.Stops rest) (sign : ExponentSign) :
    Number.lenient? (sign.text ++ (s.text ++ rest))
      = some (s.decimal.toBinary64 (decide (sign = .minus))) := by
  simp [s.lenient?_eq_scan?, s.scan?_append h, s.value?_numeral]

theorem lenient?_signed (negative : Bool) :
    Number.lenient? ((if negative then ['-'] else []) ++ s.text)
      = some (s.decimal.toBinary64 negative) := by
  cases negative with
  | false => simpa [ExponentSign.text] using s.lenient?_append s.stops_nil .unsigned
  | true => simpa [ExponentSign.text] using s.lenient?_append s.stops_nil .minus

theorem lenient?_text : Number.lenient? s.text = some s.value := s.lenient?_signed false

/-- A mark behind a literal is ignored. -/
theorem lenient?_mark {mark : Char} (hmark : mark = 'e' ∨ mark = 'E') :
    Number.lenient? (s.text ++ [mark]) = some s.value :=
  s.lenient?_append (s.stops_mark hmark) .unsigned

end Spelling

/-! ## 5. Nothing else is a literal -/

/-- **The scanner takes a whole text for one literal**, and the literal has a value. -/
def IsWhole (cs : List Char) : Prop := ∃ n d, scan? cs = some (n, []) ∧ n.value? = some d

theorem scanDigits_eq (cs : List Char) : (scanDigits cs).1 ++ (scanDigits cs).2 = cs :=
  List.takeWhile_append_dropWhile

/-- What is taken off as a sign. -/
theorem exists_scanSign (cs : List Char) :
    ∃ (sign : ExponentSign) (rest : List Char), cs = sign.text ++ rest ∧
      scanSign cs = (decide (sign = .minus), rest) := by
  unfold scanSign
  split
  · exact ⟨.minus, _, rfl, rfl⟩
  · exact ⟨.plus, _, rfl, rfl⟩
  · exact ⟨.unsigned, _, rfl, rfl⟩

/-- What is scanned as an exponent, if anything is. -/
theorem exists_exponentText {cs digits rest : List Char} {negative : Bool}
    (h : scanExponent cs = ((negative, digits), rest)) (hdigits : AllDigits digits) :
    ∃ e : Option Exponent, cs = e.elim [] Exponent.text ++ rest := by
  cases cs with
  | nil =>
    simp only [scanExponent, Prod.mk.injEq] at h
    exact ⟨none, h.2⟩
  | cons c more =>
    simp only [scanExponent] at h
    split at h
    · next hmark =>
      split at h
      · exact ⟨none, (Prod.ext_iff.mp h).2⟩
      · next hne =>
        obtain ⟨sign, afterSign, hmore, hsign⟩ := exists_scanSign more
        simp only [hsign, Prod.mk.injEq] at h hne
        obtain ⟨⟨-, rfl⟩, rfl⟩ := h
        refine ⟨some ⟨c, sign, ⟨_, hdigits⟩, hmark, by simpa using hne⟩, ?_⟩
        rw [hmore, Option.elim, Exponent.text, List.cons_append, List.append_assoc, scanDigits_eq]
    · exact ⟨none, (Prod.ext_iff.mp h).2⟩

/-- What is scanned in front of an exponent are digits around a point. -/
theorem exists_mantissaText {cs whole fraction rest : List Char}
    (h : scanMantissa? cs = some ((whole, fraction), rest)) (hfraction : AllDigits fraction) :
    whole ++ fraction ≠ [] ∧ ∃ f : Option Digits, f.elim [] Subtype.val = fraction ∧
      cs = whole ++ (f.elim [] (fun f => '.' :: f.1) ++ rest) := by
  have htext := scanDigits_eq cs
  simp only [scanMantissa?] at h
  split at h
  · next afterPoint hpoint =>
    split at h
    · cases h
    · next hne =>
      simp only [Option.some.injEq, Prod.mk.injEq] at h
      obtain ⟨⟨rfl, rfl⟩, rfl⟩ := h
      refine ⟨by simpa using hne, some ⟨_, hfraction⟩, rfl, ?_⟩
      rw [Option.elim, List.cons_append, scanDigits_eq, ← hpoint, htext]
  · split at h
    · cases h
    · next hne =>
      simp only [Option.some.injEq, Prod.mk.injEq] at h
      obtain ⟨⟨rfl, rfl⟩, rfl⟩ := h
      refine ⟨by simpa using hne, none, rfl, htext.symm⟩

/-- The scanner reads a mantissa and then an exponent. -/
theorem exists_of_scan? {cs rest : List Char} {n : Numeral} (h : scan? cs = some (n, rest)) :
    ∃ after, scanMantissa? cs = some ((n.whole, n.fraction), after) ∧
      scanExponent after = ((n.exponentNegative, n.exponent), rest) := by
  simp only [scan?, Option.bind_eq_bind, Option.bind_eq_some_iff, Option.pure_def,
    Option.some.injEq, Prod.mk.injEq] at h
  obtain ⟨⟨⟨whole, fraction⟩, after⟩, hmantissa, rfl, hrest⟩ := h
  exact ⟨after, hmantissa, Prod.ext rfl hrest⟩

/-- **What is scanned and has a value is a literal.** -/
theorem exists_text_of_scan? {cs rest : List Char} {n : Numeral} {d : Decimal}
    (hscan : scan? cs = some (n, rest)) (hvalue : n.value? = some d) :
    ∃ s : Spelling, cs = s.text ++ rest := by
  obtain ⟨after, hmantissa, hexponent⟩ := exists_of_scan? hscan
  obtain ⟨hall, -⟩ := Option.ite_none_right_eq_some.mp hvalue
  simp only [Bool.and_eq_true, List.all_eq_true] at hall
  obtain ⟨⟨hwhole, hfraction⟩, hdigits⟩ := hall
  obtain ⟨hne, f, hf, rfl⟩ := exists_mantissaText hmantissa hfraction
  obtain ⟨e, rfl⟩ := exists_exponentText hexponent hdigits
  refine ⟨⟨⟨n.whole, hwhole⟩, f, e, by rwa [hf]⟩, ?_⟩
  simp [Spelling.text, Spelling.mantissa, Spelling.fractionText, Spelling.exponentText]

/-- **The texts of literals are the texts that are scanned as a whole.** -/
theorem isWhole_iff (cs : List Char) : IsWhole cs ↔ ∃ s : Spelling, s.text = cs := by
  constructor
  · rintro ⟨n, d, hscan, hvalue⟩
    obtain ⟨s, hs⟩ := exists_text_of_scan? hscan hvalue
    exact ⟨s, by rw [hs, List.append_nil]⟩
  · rintro ⟨s, rfl⟩
    exact ⟨s.numeral, s.decimal, s.scan?_text, s.value?_numeral⟩

end Numeral

/-- A decimal fraction has a nearest number, if only an infinite one. -/
theorem Decimal.isNaN_toBinary64 (negative : Bool) (d : Decimal) :
    (d.toBinary64 negative).isNaN = false := by
  have hunits : ∀ num den, (Binary64.ofUnits negative num den).isNaN = false := by
    intro num den
    unfold Binary64.ofUnits
    split <;> rfl
  unfold toBinary64
  split
  · rfl
  split
  · rfl
  split
  · rfl
  split <;> exact hunits _ _

end FormLogic
