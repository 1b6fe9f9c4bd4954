import FormLogic.Proofs.Number.Rounding
import FormLogic.Proofs.Number.Spelling
import Mathlib.Data.List.DropRight

/-!
# The longest number at the front of a text

`Signed` is the grammar of numbers with a sign: the infinite one by its name, and decimal literals.
The lenient reading takes the longest of these at the front of a text (`Signed.IsLongest`), and has
no answer when there is none.  One thing can come between: a digit of another script where the
number could go on.  It is scanned as a digit but has no value, so the text as a whole has no number
then (`Signed.GoesOn`).
-/

namespace FormLogic

open Text

namespace Numeral

/-! ## 1. Numbers with a sign -/

/-- A digit that is not one of the ASCII digits. -/
def IsForeignDigit (c : Char) : Prop := isDigit c = true ∧ isAsciiDigit c = false

/-- No number is written with foreign digits. -/
theorem IsForeignDigit.isWordPart_eq_false {c : Char} (h : IsForeignDigit c) :
    isWordPart c = false := by
  obtain ⟨hdigit, hascii⟩ := h
  have hother : (digitZeros.all fun z => z == 48 || 122 < z) = true := by decide
  have hnot : ¬ (48 ≤ c.toNat ∧ c.toNat ≤ 57) := by
    rintro ⟨hlower, hupper⟩
    have htrue : isAsciiDigit c = true := by
      simp only [isAsciiDigit, Bool.and_eq_true, decide_eq_true_eq, Char.le_def,
        UInt32.le_iff_toNat_le]
      exact ⟨hlower, hupper⟩
    rw [hascii] at htrue
    exact Bool.noConfusion htrue
  rw [isDigit, hascii, Bool.false_or, List.any_eq_true] at hdigit
  obtain ⟨z, hz, hbetween⟩ := hdigit
  have hz := List.all_eq_true.mp hother z hz
  simp only [Bool.and_eq_true, decide_eq_true_eq, Bool.or_eq_true, beq_iff_eq] at hbetween hz
  by_contra hword
  have := toNat_of_isWordPart (Bool.not_eq_false _ ▸ hword)
  omega

/-- **A foreign digit stands where the literal could go on**: right behind it, or behind the mark of
an exponent that it does not have. -/
inductive Spelling.GoesOn (s : Spelling) : List Char → Prop where
  | digit {c : Char} {rest : List Char} (foreign : IsForeignDigit c) : s.GoesOn (c :: rest)
  | exponent {mark c : Char} {sign : ExponentSign} {rest : List Char} (exponent : s.exponent = none)
      (mark_eq : mark = 'e' ∨ mark = 'E') (foreign : IsForeignDigit c) :
      s.GoesOn (mark :: (sign.text ++ c :: rest))

/-- **A number as written**, its sign being written like that of an exponent. -/
inductive Signed where
  | infinity (sign : ExponentSign)
  | literal (sign : ExponentSign) (s : Spelling)

namespace Signed

def text : Signed → List Char
  | infinity sign => sign.text ++ Number.infinityName
  | literal sign s => sign.text ++ s.text

/-- **The number that is meant**: for a literal the one nearest to the decimal fraction. -/
def Denotes : Signed → Binary64 → Prop
  | infinity sign, x => x = .infinite (decide (sign = .minus))
  | literal sign s, x => Binary64.Nearest (decide (sign = .minus)) s.decimal.units x

/-- A number is meant by only one number. -/
theorem Denotes.unique {n : Signed} {x y : Binary64} (hx : n.Denotes x) (hy : n.Denotes y) :
    x = y := by
  cases n with
  | infinity sign => exact hx.trans hy.symm
  | literal sign s => exact Binary64.Nearest.unique s.decimal.units_nonneg hx hy

/-- A foreign digit stands where the number could go on. -/
def GoesOn : Signed → List Char → Prop
  | infinity _, _ => False
  | literal _ s, rest => s.GoesOn rest

/-- **The longest number at the front of a text**, and what follows it. -/
structure IsLongest (n : Signed) (rest cs : List Char) : Prop where
  eq_append : cs = n.text ++ rest
  longest : ∀ n' : Signed, n'.text <+: cs → n'.text.length ≤ n.text.length

/-- Of the numbers at the front of a text one is longest. -/
theorem exists_isLongest {cs : List Char} (h : ∃ n : Signed, n.text <+: cs) :
    ∃ n rest, IsLongest n rest cs := by
  -- the lengths of the numbers are bounded by the length of the text
  have hclimb : ∀ (k : ℕ) (n : Signed), n.text <+: cs → cs.length ≤ n.text.length + k →
      ∃ n rest, IsLongest n rest cs := by
    intro k
    induction k with
    | zero =>
      intro n ⟨rest, hrest⟩ hlength
      exact ⟨n, rest, hrest.symm, fun n' hn' => hn'.length_le.trans hlength⟩
    | succ k ih =>
      intro n ⟨rest, hrest⟩ hlength
      by_cases hlongest : ∀ n' : Signed, n'.text <+: cs → n'.text.length ≤ n.text.length
      · exact ⟨n, rest, hrest.symm, hlongest⟩
      · push Not at hlongest
        obtain ⟨n', hn', hlt⟩ := hlongest
        exact ih n' hn' (by omega)
  obtain ⟨n, hn⟩ := h
  exact hclimb cs.length n hn (Nat.le_add_left _ _)

end Signed

/-! ## 2. Longer literals -/

namespace Spelling

variable (s : Spelling)

/-- A digit behind a literal makes a longer one. -/
theorem exists_text_digit {c : Char} (hc : isAsciiDigit c = true) :
    ∃ s' : Spelling, s'.text = s.text ++ [c] := by
  have hsnoc : ∀ ds : Digits, AllDigits (ds.1 ++ [c]) := fun ds =>
    List.forall_mem_append.mpr ⟨ds.2, List.forall_mem_singleton.mpr hc⟩
  obtain ⟨whole, fraction, exponent, hdigit⟩ := s
  cases exponent with
  | some e =>
    refine ⟨⟨whole, fraction, some ⟨e.mark, e.sign, ⟨_, hsnoc e.digits⟩, e.mark_eq, by simp⟩,
      hdigit⟩, ?_⟩
    simp [text, mantissa, fractionText, exponentText, Exponent.text]
  | none =>
    cases fraction with
    | some f =>
      refine ⟨⟨whole, some ⟨_, hsnoc f⟩, none, by simp⟩, ?_⟩
      simp [text, mantissa, fractionText, exponentText]
    | none =>
      refine ⟨⟨⟨_, hsnoc whole⟩, none, none, by simp⟩, ?_⟩
      simp [text, mantissa, fractionText, exponentText]

/-- So does a point, if there is none. -/
theorem exists_text_point (hexponent : s.exponent = none) (hfraction : s.fraction = none) :
    ∃ s' : Spelling, s'.text = s.text ++ ['.'] := by
  have hdigit := s.some_digit
  rw [hfraction] at hdigit
  refine ⟨⟨s.whole, some ⟨[], nofun⟩, none, hdigit⟩, ?_⟩
  simp [text, mantissa, fractionText, exponentText, hexponent, hfraction]

/-- And so does an exponent. -/
theorem exists_text_exponent (hexponent : s.exponent = none) (e : Exponent) :
    ∃ s' : Spelling, s'.text = s.text ++ e.text :=
  ⟨⟨s.whole, s.fraction, some e, s.some_digit⟩, by
    simp [text, mantissa, fractionText, exponentText, hexponent]⟩

end Spelling

namespace Signed

section Longest

variable {sign : ExponentSign} {s : Spelling} {rest cs : List Char}

theorem IsLongest.eq_nil (h : IsLongest (.literal sign s) rest cs) {s' : Spelling}
    {more rest' : List Char} (htext : s'.text = s.text ++ more) (hrest : rest = more ++ rest') :
    more = [] := by
  have hfront : (Signed.literal sign s').text <+: cs :=
    ⟨rest', by rw [h.eq_append, hrest, text, text, htext, List.append_assoc, List.append_assoc,
      List.append_assoc]⟩
  have hlength := h.longest _ hfront
  simp only [text, htext, List.length_append] at hlength
  exact List.eq_nil_of_length_eq_zero (by omega)

theorem exists_of_scanDigits_ne {cs : List Char} (h : (scanDigits cs).1 ≠ []) :
    ∃ d more, cs = d :: more ∧ isDigit d = true := by
  cases cs with
  | nil => exact absurd rfl h
  | cons d more =>
    refine ⟨d, more, rfl, ?_⟩
    by_contra hd
    exact h (List.takeWhile_cons_of_neg hd)

/-- **The scanner stops behind the longest literal**, but for a foreign digit. -/
theorem IsLongest.stops (h : IsLongest (.literal sign s) rest cs)
    (hforeign : ¬ s.GoesOn rest) : s.Stops rest := by
  constructor
  · intro c hc
    obtain ⟨more, rfl⟩ := List.head?_eq_some_iff.mp hc
    by_contra hdigit
    by_cases hascii : isAsciiDigit c = true
    · obtain ⟨s', hs'⟩ := s.exists_text_digit hascii
      exact absurd (h.eq_nil hs' rfl) (by simp)
    · exact hforeign (.digit ⟨by simpa using hdigit, by simpa using hascii⟩)
  · intro hexponent hfraction hpoint
    obtain ⟨more, rfl⟩ := List.head?_eq_some_iff.mp hpoint
    obtain ⟨s', hs'⟩ := s.exists_text_point hexponent hfraction
    exact absurd (h.eq_nil hs' rfl) (by simp)
  · intro hexponent
    cases rest with
    | nil => rfl
    | cons mark more =>
      by_cases hmark : mark = 'e' ∨ mark = 'E'
      · obtain ⟨sign', afterSign, rfl, hsign⟩ := exists_scanSign more
        simp only [scanExponent, if_pos hmark, hsign]
        split
        · rfl
        · next hne =>
          exfalso
          obtain ⟨d, more, rfl, hd⟩ := exists_of_scanDigits_ne (by simpa using hne)
          by_cases hascii : isAsciiDigit d = true
          · let e : Exponent :=
              ⟨mark, sign', ⟨[d], List.forall_mem_singleton.mpr hascii⟩, hmark, by simp⟩
            have hrest : mark :: (sign'.text ++ d :: more) = e.text ++ more := by
              simp [e, Exponent.text]
            obtain ⟨s', hs'⟩ := s.exists_text_exponent hexponent e
            exact absurd (h.eq_nil hs' hrest) (by simp [Exponent.text])
          · exact hforeign (.exponent hexponent hmark ⟨hd, by simpa using hascii⟩)
      · simp only [scanExponent, if_neg hmark]

end Longest

end Signed

/-! ## 3. Foreign digits -/

section Foreign

variable {cs rest : List Char} {n : Numeral} {c : Char}

/-- A foreign digit has no value. -/
theorem value?_eq_none (hmem : c ∈ n.whole ++ (n.fraction ++ n.exponent))
    (hc : isAsciiDigit c = false) : n.value? = none := by
  refine if_neg fun hall => ?_
  simp only [Bool.and_eq_true, List.all_eq_true] at hall
  obtain ⟨⟨hwhole, hfraction⟩, hexponent⟩ := hall
  have hdigit : isAsciiDigit c = true := by
    rcases List.mem_append.mp hmem with h | h
    · exact hwhole c h
    · exact (List.mem_append.mp h).elim (hfraction c) (hexponent c)
  rw [hc] at hdigit
  exact Bool.noConfusion hdigit

/-- A digit of any script is scanned behind digits. -/
theorem mem_scanDigits (ds : Digits) (hc : isDigit c = true) (rest : List Char) :
    c ∈ (scanDigits (ds ++ c :: rest)).1 := by
  have hds : ∀ d ∈ ds.1, isDigit d = true := fun d hd => isDigit_of_isAsciiDigit (ds.2 d hd)
  rw [scanDigits, List.takeWhile_append_of_pos hds, List.takeWhile_cons_of_pos hc]
  simp

/-- Digits with a digit behind them begin with a digit. -/
theorem isDigit_of_mem_head? (ds : Digits) (hc : isDigit c = true) (rest : List Char) :
    ∀ d ∈ (ds.1 ++ c :: rest).head?, isDigit d = true := by
  intro d hd
  cases hds : ds.1 with
  | nil =>
    rw [hds] at hd
    exact Option.some.inj hd ▸ hc
  | cons first more =>
    rw [hds] at hd
    exact Option.some.inj hd ▸ isDigit_of_isAsciiDigit (ds.2 first (by simp [hds]))

/-- It is also scanned in an exponent, which may have digits already. -/
theorem mem_scanExponent {mark : Char} (hmark : mark = 'e' ∨ mark = 'E') (sign : ExponentSign)
    (ds : Digits) (hc : isDigit c = true) (rest : List Char) :
    c ∈ (scanExponent (mark :: (sign.text ++ (ds.1 ++ c :: rest)))).1.2 := by
  have hmem := mem_scanDigits ds hc rest
  have hhead : ∀ d, isDigit d = false → (ds.1 ++ c :: rest).head? ≠ some d := by
    intro d hd h
    rw [isDigit_of_mem_head? ds hc rest d h] at hd
    exact Bool.noConfusion hd
  have hsign := scanSign_text_append sign (hhead '-' (by decide)) (hhead '+' (by decide))
  have hne : (scanDigits (ds.1 ++ c :: rest)).1 ≠ [] := List.ne_nil_of_mem hmem
  simp only [scanExponent, if_pos hmark, hsign]
  rw [if_neg (by simpa using hne)]
  exact hmem

theorem whole_of_scanMantissa? {whole fraction after : List Char}
    (h : scanMantissa? cs = some ((whole, fraction), after)) : whole = (scanDigits cs).1 := by
  simp only [scanMantissa?] at h
  split at h <;> split at h <;> grind

theorem fraction_of_scanMantissa? {whole fraction after digits : List Char}
    (h : scanMantissa? cs = some ((whole, fraction), after))
    (hpoint : (scanDigits cs).2 = '.' :: digits) : fraction = (scanDigits digits).1 := by
  simp only [scanMantissa?, hpoint] at h
  split at h <;> grind

/-- Digits and a point are scanned in front of a mark. -/
theorem Spelling.scanMantissa?_mark (s : Spelling) {mark : Char} (hmark : mark = 'e' ∨ mark = 'E')
    (more : List Char) :
    scanMantissa? (s.mantissa ++ mark :: more) =
      some ((s.whole.1, s.fractionDigits), mark :: more) := by
  rcases hmark with rfl | rfl <;>
    exact s.scanMantissa?_append (fun c hc => Option.some.inj hc ▸ by decide) fun _ => by simp

/-- **A literal that goes on with a foreign digit has no value.** -/
theorem value?_of_goesOn {s : Spelling} (hforeign : s.GoesOn rest)
    (h : scan? (s.text ++ rest) = some (n, cs)) : n.value? = none := by
  obtain ⟨after, hmantissa, hexponent⟩ := exists_of_scan? h
  -- what follows a mark is scanned as digits of an exponent
  have hmark : ∀ {mark c : Char} {sign : ExponentSign} (ds : Digits) {rest : List Char},
      mark = 'e' ∨ mark = 'E' → IsForeignDigit c →
      scanMantissa? (s.mantissa ++ mark :: (sign.text ++ (ds.1 ++ c :: rest)))
        = some ((n.whole, n.fraction), after) →
      c ∈ n.whole ++ (n.fraction ++ n.exponent) := by
    intro mark c sign ds rest hmark hc hscan
    rw [s.scanMantissa?_mark hmark] at hscan
    obtain rfl := (Prod.ext_iff.mp (Option.some.inj hscan)).2
    have hmem := mem_scanExponent hmark sign ds hc.1 rest
    rw [hexponent] at hmem
    exact List.mem_append_right _ (List.mem_append_right _ hmem)
  rw [Spelling.text, Spelling.exponentText] at hmantissa
  cases hforeign with
  | @digit c rest hc =>
    refine value?_eq_none ?_ hc.2
    cases hs : s.exponent with
    | some e =>
      have htext : e.text ++ c :: rest = e.mark :: (e.sign.text ++ (e.digits.1 ++ c :: rest)) := by
        simp [Exponent.text]
      rw [hs, Option.elim, List.append_assoc, htext] at hmantissa
      exact hmark e.digits e.mark_eq hc hmantissa
    | none =>
      rw [hs, Option.elim, List.append_nil, Spelling.mantissa, Spelling.fractionText] at hmantissa
      cases hfraction : s.fraction with
      | some f =>
        rw [hfraction, Option.elim, List.append_assoc] at hmantissa
        have hahead : NoDigitAhead ('.' :: (f.1 ++ c :: rest)) := by
          intro d hd
          obtain rfl : '.' = d := by simpa using hd
          decide
        have hdigits := fraction_of_scanMantissa? hmantissa
          (congrArg Prod.snd (scanDigits_append s.whole hahead))
        rw [hdigits]
        exact List.mem_append_right _ (List.mem_append_left _ (mem_scanDigits f hc.1 rest))
      | none =>
        rw [hfraction, Option.elim, List.append_nil] at hmantissa
        rw [whole_of_scanMantissa? hmantissa]
        exact List.mem_append_left _ (mem_scanDigits s.whole hc.1 rest)
  | @exponent mark c sign rest hs hmark' hc =>
    refine value?_eq_none ?_ hc.2
    rw [hs, Option.elim, List.append_nil] at hmantissa
    exact hmark ⟨[], List.forall_mem_nil _⟩ hmark' hc hmantissa

end Foreign

/-- Where the scanner stops, no foreign digit stands in the way. -/
theorem Spelling.Stops.not_goesOn {s : Spelling} {rest : List Char} (h : s.Stops rest) :
    ¬ s.GoesOn rest := by
  intro hgoes
  have hnone := value?_of_goesOn hgoes (s.scan?_append h)
  rw [s.value?_numeral] at hnone
  cases hnone

namespace Signed

theorem isWord (n : Signed) : IsWord n.text := by
  have hsign : ∀ sign : ExponentSign, ∀ c ∈ sign.text, isWordPart c = true := by
    intro sign
    cases sign with
    | unsigned => exact nofun
    | plus => exact List.forall_mem_singleton.mpr (by decide)
    | minus => exact List.forall_mem_singleton.mpr (by decide)
  cases n with
  | infinity sign =>
    have hname : IsWord Number.infinityName := by decide
    exact ⟨List.append_ne_nil_of_right_ne_nil _ hname.nonempty,
      List.forall_mem_append.mpr ⟨hsign sign, hname.parts⟩⟩
  | literal sign s =>
    exact ⟨List.append_ne_nil_of_right_ne_nil _ s.isWord.nonempty,
      List.forall_mem_append.mpr ⟨hsign sign, s.isWord.parts⟩⟩

/-- No number is longer than one that a foreign digit follows. -/
theorem isLongest_of_foreign (n : Signed) {c : Char} (hc : IsForeignDigit c) (rest : List Char) :
    IsLongest n (c :: rest) (n.text ++ c :: rest) := by
  refine ⟨rfl, fun n' hn' => ?_⟩
  by_contra hlt
  have hfront : n.text ++ [c] <+: n'.text := by
    refine List.prefix_of_prefix_length_le ⟨rest, by simp⟩ hn' ?_
    rw [List.length_append, List.length_singleton]
    omega
  exact n'.isWord.not_mem hc.isWordPart_eq_false (hfront.subset (by simp))

/-- **A literal that the scanner stops behind is the longest number.** -/
theorem isLongest_of_stops {s : Spelling} {rest : List Char} (h : s.Stops rest)
    (sign : ExponentSign) :
    IsLongest (.literal sign s) rest (sign.text ++ (s.text ++ rest)) := by
  have hstart : (Signed.literal sign s).text <+: sign.text ++ (s.text ++ rest) :=
    ⟨rest, List.append_assoc ..⟩
  obtain ⟨n, rest', hn⟩ := exists_isLongest ⟨_, hstart⟩
  have hsigned := s.scanSign_append sign rest
  have heq := hn.eq_append
  cases n with
  | infinity sign' =>
    rw [heq, text, List.append_assoc,
      scanSign_text_append sign' (by simp [Number.infinityName]) (by simp [Number.infinityName])]
      at hsigned
    have hbody : Number.infinityName ++ rest' = s.text ++ rest := (Prod.mk.inj hsigned).2
    have hhead := s.head?_text_append_ne (by decide : isAsciiDigit 'I' = false) (by decide) rest
    refine absurd ?_ hhead
    rw [← hbody]
    rfl
  | literal sign' s' =>
    rw [heq, text, List.append_assoc, s'.scanSign_append] at hsigned
    have hbody : s'.text ++ rest' = s.text ++ rest := (Prod.mk.inj hsigned).2
    have hscan := s.scan?_append h
    rw [← hbody] at hscan
    have hstop : ¬ s'.GoesOn rest' := by
      intro hgoes
      have hnone := value?_of_goesOn hgoes hscan
      rw [s.value?_numeral] at hnone
      cases hnone
    -- both literals are what is scanned, so the same text is left over
    rw [s'.scan?_append (hn.stops hstop)] at hscan
    obtain rfl : rest' = rest := (Prod.mk.inj (Option.some.inj hscan)).2
    have htext : (Signed.literal sign s).text = (Signed.literal sign' s').text :=
      List.append_cancel_right ((List.append_assoc ..).trans heq)
    exact ⟨(List.append_assoc ..).symm, fun n' hn' => htext ▸ hn.longest n' hn'⟩

end Signed

end Numeral

/-! ## 4. The lenient reading -/

namespace Number

open Numeral

/-- Blank characters in front do not count. -/
theorem lenient?_trimStart (text : List Char) : lenient? (trimStart text) = lenient? text := by
  have htrim : trimStart (trimStart text) = trimStart text := List.dropWhile_idempotent isBlank text
  rw [lenient?, htrim, lenient?]

theorem lenient?_infinity (sign : ExponentSign) (rest : List Char) :
    lenient? (sign.text ++ (infinityName ++ rest)) = some (.infinite (decide (sign = .minus))) := by
  cases sign <;> rfl

/-- **What has a lenient reading begins with a number.** -/
theorem exists_text_prefix {text : List Char} {x : Binary64} (h : lenient? text = some x) :
    ∃ n : Signed, n.text <+: trimStart text := by
  obtain ⟨sign, body, htext, hsign⟩ := exists_scanSign (trimStart text)
  rw [htext]
  simp only [lenient?, hsign] at h
  split at h
  · next rest hinfinity =>
    refine ⟨.infinity sign, rest, ?_⟩
    rw [dropPrefix?_eq_some_iff.mp hinfinity, Signed.text, List.append_assoc]
  · obtain ⟨⟨n, rest⟩, hscan, h⟩ := Option.bind_eq_some_iff.mp h
    obtain ⟨d, hvalue, -⟩ := Option.bind_eq_some_iff.mp h
    obtain ⟨s, rfl⟩ := exists_text_of_scan? hscan hvalue
    exact ⟨.literal sign s, rest, by rw [Signed.text, List.append_assoc]⟩

/-- **The lenient reading takes the longest number** at the front of a text, behind blank
characters.  There is one if any number stands there, and without one there is no reading.  Neither
is there one when the number goes on with a digit of another script. -/
theorem lenient?_longest (text : List Char) :
    ((∀ n : Signed, ¬ n.text <+: trimStart text) → lenient? text = none) ∧
    ((∃ n : Signed, n.text <+: trimStart text) →
      ∃ n rest, Signed.IsLongest n rest (trimStart text)) ∧
    ∀ n rest, Signed.IsLongest n rest (trimStart text) →
      (¬ n.GoesOn rest → ∃ x, lenient? text = some x ∧ n.Denotes x) ∧
      (n.GoesOn rest → lenient? text = none) := by
  refine ⟨fun hnone => ?_, Signed.exists_isLongest, fun n rest hlongest =>
    ⟨fun hstop => ?_, fun hgoes => ?_⟩⟩
  · rw [Option.eq_none_iff_forall_ne_some]
    intro x hx
    obtain ⟨n, hn⟩ := exists_text_prefix hx
    exact hnone n hn
  · rw [← lenient?_trimStart, hlongest.eq_append]
    cases n with
    | infinity sign =>
      rw [Signed.text, List.append_assoc]
      exact ⟨_, lenient?_infinity sign rest, rfl⟩
    | literal sign s =>
      rw [Signed.text, List.append_assoc]
      exact ⟨_, s.lenient?_append (hlongest.stops hstop) sign, s.decimal.nearest_toBinary64 _⟩
  · rw [← lenient?_trimStart, hlongest.eq_append]
    cases n with
    | infinity sign => exact hgoes.elim
    | literal sign s =>
      rw [Signed.text, List.append_assoc, s.lenient?_eq_scan?]
      cases hscan : scan? (s.text ++ rest) with
      | none => rfl
      | some r => simp [value?_of_goesOn hgoes hscan]

/-- An exponent that breaks off does not count, and neither does what follows it. -/
theorem lenient?_longest_of_broken_exponent :
    let s : Spelling := ⟨⟨"12".toList, by decide⟩, some ⟨['5'], by decide⟩, none, by decide⟩
    let n : Signed := .literal .minus s
    let text : List Char := '\u2003' :: "-12.5E-px".toList
    n.IsLongest "E-px".toList (trimStart text) ∧ ¬ n.GoesOn "E-px".toList ∧
      ∃ x, lenient? text = some x ∧ n.Denotes x := by
  intro s n text
  have hstops : s.Stops "E-px".toList :=
    ⟨fun c hc => Option.some.inj hc ▸ by decide, fun _ => nofun, fun _ => by decide⟩
  have hlongest : n.IsLongest "E-px".toList (trimStart text) :=
    Signed.isLongest_of_stops hstops .minus
  have hgoes : ¬ n.GoesOn "E-px".toList := hstops.not_goesOn
  exact ⟨hlongest, hgoes, ((lenient?_longest text).2.2 n _ hlongest).1 hgoes⟩

/-- The text `1` with the Arabic digit three behind it begins with the number one, and is read as no
number at all. -/
theorem not_lenient?_longest_of_foreign_digit :
    let n : Signed := .literal .unsigned ⟨⟨['1'], by decide⟩, none, none, by decide⟩
    let text : List Char := ['1', '\u0663']
    n.IsLongest ['\u0663'] (trimStart text) ∧ n.Denotes .one ∧ lenient? text = none := by
  intro n text
  have hone : Decimal.toBinary64 false ⟨1, 0⟩ = .one := by decide +kernel
  have hdenotes := Decimal.nearest_toBinary64 false ⟨1, 0⟩
  rw [hone] at hdenotes
  exact ⟨Signed.isLongest_of_foreign n ⟨by decide, by decide⟩ [], hdenotes, by decide⟩

end Number

end FormLogic
