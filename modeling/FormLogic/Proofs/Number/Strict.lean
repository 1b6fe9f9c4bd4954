import FormLogic.Proofs.Number.Lenient
import Mathlib.Data.Nat.Digits.Defs

/-!
# The strict reading and its grammar

A whole text is a number when nothing is left of it after trimming, when it is a number with a sign,
or when it is a hexadecimal number (`Entire`); any other text is no number, and then the reading is
`nan` (`Reads`).  The strict reading follows this grammar in all but two respects, both of them
about hexadecimal numbers: one of more than 64 bits is not read, and a plus sign may stand between
the mark and the digits.
-/

namespace FormLogic

open Text

namespace Numeral

/-! ## 1. Hexadecimal numbers -/

def AllHexDigits (cs : List Char) : Prop := ∀ c ∈ cs, (hexDigit? c).isSome = true

instance (cs : List Char) : Decidable (AllHexDigits cs) := List.decidableBAll _ cs

/-- **A hexadecimal number as written**: a zero, the mark and digits. -/
structure Hexadecimal where
  mark : Char
  digits : List Char
  mark_eq : mark = 'x' ∨ mark = 'X'
  digits_ne : digits ≠ []
  all_digits : AllHexDigits digits

namespace Hexadecimal

variable (h : Hexadecimal)

def text : List Char := '0' :: h.mark :: h.digits

/-- The number with a plus sign in front of its digits, where no sign belongs. -/
def plusText : List Char := '0' :: h.mark :: '+' :: h.digits

/-- The digits count powers of sixteen from the last one on. -/
def value : ℕ := Nat.ofDigits 16 (h.digits.reverse.map fun c => (hexDigit? c).getD 0)

end Hexadecimal

/-- Digits are read from the front, each one after sixteen times those before. -/
theorem foldl_hexDigit? {cs : List Char} (hcs : AllHexDigits cs) (front : ℕ) :
    cs.foldl (fun n c => do return 16 * (← n) + (← hexDigit? c)) (some front) =
      some (16 ^ cs.length * front +
        Nat.ofDigits 16 (cs.reverse.map fun c => (hexDigit? c).getD 0)) := by
  induction cs generalizing front with
  | nil => simp
  | cons c cs ih =>
    obtain ⟨hc, hcs⟩ := List.forall_mem_cons.mp hcs
    obtain ⟨d, hd⟩ := Option.isSome_iff_exists.mp hc
    simp only [List.foldl_cons, hd, List.reverse_cons, List.map_append, List.map_cons, List.map_nil,
      Nat.ofDigits_append, Nat.ofDigits_singleton, List.length_map, List.length_reverse,
      List.length_cons]
    refine (ih hcs _).trans (congrArg some ?_)
    simp only [Option.getD_some]
    ring

theorem hexValue?_digits (h : Hexadecimal) : hexValue? h.digits = some h.value := by
  obtain ⟨c, rest, hcons⟩ := List.exists_cons_of_ne_nil h.digits_ne
  have hfold := foldl_hexDigit? h.all_digits 0
  rw [Nat.mul_zero, Nat.zero_add] at hfold
  rw [Hexadecimal.value, ← hfold, hcons]
  rfl

theorem allHexDigits_of_foldl {cs : List Char} {n : ℕ} {front : Option ℕ}
    (h : cs.foldl (fun n c => do return 16 * (← n) + (← hexDigit? c)) front = some n) :
    AllHexDigits cs ∧ front.isSome = true := by
  induction cs generalizing front with
  | nil => exact ⟨nofun, by rw [show front = some n from h]; rfl⟩
  | cons c cs ih =>
    obtain ⟨hcs, hstep⟩ := ih h
    cases front with
    | none => exact absurd hstep (by simp)
    | some front =>
      cases hc : hexDigit? c with
      | none => exact absurd hstep (by simp [hc])
      | some d => exact ⟨List.forall_mem_cons.mpr ⟨by simp [hc], hcs⟩, rfl⟩

/-- **Digits that have a value make a hexadecimal number** behind a mark. -/
theorem exists_hexadecimal {mark : Char} (hmark : mark = 'x' ∨ mark = 'X') {cs : List Char} {n : ℕ}
    (h : hexValue? cs = some n) : ∃ h : Hexadecimal, h.mark = mark ∧ h.digits = cs := by
  cases cs with
  | nil => cases h
  | cons c cs => exact ⟨⟨mark, c :: cs, hmark, nofun, (allHexDigits_of_foldl h).1⟩, rfl, rfl⟩

/-! ## 2. Entire texts -/

/-- **What a whole text may be to be a number.** -/
inductive Entire where
  | blank
  | signed (n : Signed)
  | hexadecimal (h : Hexadecimal)

namespace Entire

def text : Entire → List Char
  | blank => []
  | signed n => n.text
  | hexadecimal h => h.text

/-- **The number that is meant**: zero by nothing, and by a hexadecimal number the one nearest to
its value. -/
def Denotes : Entire → Binary64 → Prop
  | blank, x => x = .zero
  | signed n, x => n.Denotes x
  | hexadecimal h, x => Binary64.Nearest false (h.value * Binary64.unitsPerOne) x

theorem Denotes.unique {n : Entire} {x y : Binary64} (hx : n.Denotes x) (hy : n.Denotes y) :
    x = y := by
  cases n with
  | blank => exact hx.trans hy.symm
  | signed n => exact Signed.Denotes.unique hx hy
  | hexadecimal h => exact Binary64.Nearest.unique (by positivity) hx hy

/-- What is meant is a number. -/
theorem Denotes.ne_nan {n : Entire} {x : Binary64} (h : n.Denotes x) : x ≠ .nan := by
  rintro rfl
  cases n with
  | blank => nomatch h
  | signed n => cases n <;> nomatch h
  | hexadecimal _ => nomatch h

end Entire

/-- **How a whole text is read**: as the number that it means, and as `nan` when it means none. -/
def Reads (cs : List Char) (x : Binary64) : Prop :=
  (∃ n : Entire, n.text = cs ∧ n.Denotes x) ∨ (∀ n : Entire, n.text ≠ cs) ∧ x = .nan

/-! ## 3. What a zero and a mark begin -/

/-- Whether a text begins like a hexadecimal number. -/
def isMarked : List Char → Bool
  | '0' :: 'x' :: _ | '0' :: 'X' :: _ => true
  | _ => false

theorem isMarked_iff {cs : List Char} :
    isMarked cs = true ↔ ∃ mark rest, (mark = 'x' ∨ mark = 'X') ∧ cs = '0' :: mark :: rest := by
  constructor
  · intro h
    unfold isMarked at h
    split at h
    · exact ⟨_, _, .inl rfl, rfl⟩
    · exact ⟨_, _, .inr rfl, rfl⟩
    · cases h
  · rintro ⟨mark, rest, rfl | rfl, rfl⟩ <;> rfl

/-- The literal `0`. -/
def Spelling.zero : Spelling := ⟨⟨['0'], by decide⟩, none, none, by decide⟩

/-- The mark of a hexadecimal number does not belong to the zero before it. -/
theorem Spelling.stops_zero {mark : Char} (hmark : mark = 'x' ∨ mark = 'X') (rest : List Char) :
    Spelling.zero.Stops (mark :: rest) := by
  rcases hmark with rfl | rfl <;>
    exact ⟨fun c hc => Option.some.inj hc ▸ by decide, fun _ _ => by simp, fun _ => rfl⟩

/-- **No number with a sign begins like a hexadecimal number.** -/
theorem Signed.isMarked_text (n : Signed) : isMarked n.text = false := by
  rw [Bool.eq_false_iff]
  intro hmarked
  obtain ⟨mark, rest, hmark, htext⟩ := isMarked_iff.mp hmarked
  cases n with
  | infinity sign => cases sign <;> simp [text, ExponentSign.text, Number.infinityName] at htext
  | literal sign s =>
    cases sign with
    | unsigned =>
      have hscan := Spelling.zero.scan?_append (Spelling.stops_zero hmark rest)
      have hs : s.text = Spelling.zero.text ++ mark :: rest := htext
      rw [← hs, s.scan?_text] at hscan
      exact List.cons_ne_nil _ _ (Prod.mk.inj (Option.some.inj hscan)).2.symm
    | plus => cases htext
    | minus => cases htext

end Numeral

/-! ## 4. The strict reading -/

namespace Number

open Numeral

variable {text : List Char}

theorem strict_of_blank (h : trim text = []) : strict text = .zero := by
  rw [strict, h]

theorem strict_of_hexadecimal {mark : Char} (hmark : mark = 'x' ∨ mark = 'X')
    {digits : List Char} (h : trim text = '0' :: mark :: digits) :
    strict text = hexadecimal digits := by
  rcases hmark with rfl | rfl <;> rw [strict, h] <;> rfl

/-- What does not begin like a hexadecimal number is read as a number with a sign. -/
theorem strict_eq (hne : trim text ≠ []) (hmarked : isMarked (trim text) = false) :
    strict text = if (scanSign (trim text)).2 = infinityName then
      .infinite (scanSign (trim text)).1 else wholeDecimal (trim text) := by
  unfold strict
  split
  · next h => exact absurd h hne
  · next h => rw [h] at hmarked; cases hmarked
  · next h => rw [h] at hmarked; cases hmarked
  · rfl

theorem strict_of_infinity {sign : ExponentSign} (h : trim text = sign.text ++ infinityName) :
    strict text = .infinite (decide (sign = .minus)) := by
  rw [strict, h]
  cases sign <;> rfl

/-- **A literal that makes up the text is read as the number nearest to it.** -/
theorem strict_of_literal {sign : ExponentSign} {s : Spelling}
    (h : trim text = sign.text ++ s.text) :
    strict text = s.decimal.toBinary64 (decide (sign = .minus)) := by
  have hne : trim text ≠ [] := h ▸ (Signed.literal sign s).isWord.nonempty
  have hsign := s.scanSign_append sign []
  rw [List.append_nil, ← h] at hsign
  have hinfinity : s.text ≠ infinityName := by
    intro hname
    exact s.head?_text_ne (by decide : isAsciiDigit 'I' = false) (by decide) (hname ▸ rfl)
  rw [strict_eq hne (h ▸ (Signed.literal sign s).isMarked_text), hsign, if_neg hinfinity,
    wholeDecimal, hsign]
  simp [s.scan?_text, s.value?_numeral]

/-- The digits of a hexadecimal number are read if their value has at most 64 bits. -/
theorem hexadecimal_digits (h : Hexadecimal) :
    hexadecimal h.digits = if h.value < UInt64.size then .ofNat h.value else .nan := by
  unfold hexadecimal
  split
  · next hdigits =>
    have hdigit := h.all_digits '+' (by rw [hdigits]; simp)
    exact absurd hdigit (by decide)
  · simp only [hexValue?_digits]

/-- And a plus sign before them does not count. -/
theorem hexadecimal_plus (h : Hexadecimal) :
    hexadecimal ('+' :: h.digits) = if h.value < UInt64.size then .ofNat h.value else .nan := by
  rw [hexadecimal, hexValue?_digits]

theorem exists_hexValue?_of_ne_nan {digits : List Char} (h : hexadecimal digits ≠ .nan) :
    ∃ ds n, hexValue? ds = some n ∧ (digits = ds ∨ digits = '+' :: ds) := by
  unfold hexadecimal at h
  split at h
  · next ds =>
    dsimp only at h
    split at h
    · next n hvalue => exact ⟨ds, n, hvalue, .inr rfl⟩
    · exact absurd rfl h
  · dsimp only at h
    split at h
    · next n hvalue => exact ⟨_, n, hvalue, .inl rfl⟩
    · exact absurd rfl h

/-- **What is read as a number has its form**, but for a plus sign in a hexadecimal number. -/
theorem exists_text_of_strict_ne_nan (h : strict text ≠ .nan) :
    (∃ n : Entire, n.text = trim text) ∨ ∃ h : Hexadecimal, h.plusText = trim text := by
  by_cases hne : trim text = []
  · exact .inl ⟨.blank, hne.symm⟩
  cases hmarked : isMarked (trim text) with
  | false =>
    left
    obtain ⟨sign, body, htext, hsign⟩ := exists_scanSign (trim text)
    rw [strict_eq hne hmarked, hsign] at h
    split at h
    · next hinfinity =>
      have hbody : body = infinityName := hinfinity
      exact ⟨.signed (.infinity sign), by rw [htext, hbody]; rfl⟩
    · simp only [wholeDecimal, hsign] at h
      split at h
      · next n hscan =>
        split at h
        · next d hvalue =>
          obtain ⟨s, hs⟩ := exists_text_of_scan? hscan hvalue
          rw [List.append_nil] at hs
          exact ⟨.signed (.literal sign s), by rw [htext, hs]; rfl⟩
        · exact absurd rfl h
      · exact absurd rfl h
  | true =>
    obtain ⟨mark, digits, hmark, htext⟩ := isMarked_iff.mp hmarked
    rw [strict_of_hexadecimal hmark htext] at h
    obtain ⟨ds, n, hvalue, hdigits⟩ := exists_hexValue?_of_ne_nan h
    obtain ⟨hex, rfl, rfl⟩ := exists_hexadecimal hmark hvalue
    rcases hdigits with rfl | rfl
    · exact .inl ⟨.hexadecimal hex, htext.symm⟩
    · exact .inr ⟨hex, htext.symm⟩

/-- **The strict reading follows its grammar**, and it is the correctly rounded number of the text.
Of the hexadecimal numbers those of more than 64 bits are not read, and those with a plus sign
before their digits, which the grammar does not have, are read as if it were not there. -/
theorem strict_reads (text : List Char) :
    (∀ h : Hexadecimal, h.text = trim text → UInt64.size ≤ h.value → strict text = .nan) ∧
    (∀ h : Hexadecimal, h.plusText = trim text →
      (h.value < UInt64.size →
        Binary64.Nearest false (h.value * Binary64.unitsPerOne) (strict text)) ∧
      (UInt64.size ≤ h.value → strict text = .nan)) ∧
    ((∀ h : Hexadecimal, h.text = trim text → h.value < UInt64.size) →
      (∀ h : Hexadecimal, h.plusText ≠ trim text) →
      ∀ x, strict text = x ↔ Reads (trim text) x) := by
  refine ⟨fun h htext hlarge => ?_, fun h htext => ?_, fun hsmall hplus x => ?_⟩
  · rw [strict_of_hexadecimal h.mark_eq htext.symm, hexadecimal_digits, if_neg (not_lt.mpr hlarge)]
  · rw [strict_of_hexadecimal h.mark_eq htext.symm, hexadecimal_plus]
    exact ⟨fun hsmall => if_pos hsmall ▸ Binary64.nearest_ofNat h.value,
      fun hlarge => if_neg (not_lt.mpr hlarge)⟩
  · have hread : ∀ n : Entire, n.text = trim text → n.Denotes (strict text) := by
      intro n htext
      cases n with
      | blank => exact strict_of_blank htext.symm
      | signed n =>
        cases n with
        | infinity sign => exact strict_of_infinity htext.symm
        | literal sign s =>
          rw [strict_of_literal htext.symm]
          exact s.decimal.nearest_toBinary64 _
      | hexadecimal h =>
        rw [strict_of_hexadecimal h.mark_eq htext.symm, hexadecimal_digits,
          if_pos (hsmall h htext)]
        exact Binary64.nearest_ofNat h.value
    constructor
    · rintro rfl
      by_cases hnumber : ∃ n : Entire, n.text = trim text
      · obtain ⟨n, htext⟩ := hnumber
        exact .inl ⟨n, htext, hread n htext⟩
      · refine .inr ⟨not_exists.mp hnumber, ?_⟩
        by_contra hne
        rcases exists_text_of_strict_ne_nan hne with hentire | ⟨h, htext⟩
        · exact hnumber hentire
        · exact hplus h htext
    · rintro (⟨n, htext, hx⟩ | ⟨hnone, rfl⟩)
      · exact (hread n htext).unique hx
      · by_contra hne
        rcases exists_text_of_strict_ne_nan hne with ⟨n, htext⟩ | ⟨h, htext⟩
        · exact hnone n htext
        · exact hplus h htext

/-- A number of 54 bits lies halfway between its neighbours, and the even one of them is read. -/
theorem strict_reads_of_halfway_hexadecimal :
    let text : List Char := " 0X20000000000001\n".toList
    (∀ h : Hexadecimal, h.text = trim text → h.value < UInt64.size) ∧
      (∀ h : Hexadecimal, h.plusText ≠ trim text) ∧
      Reads (trim text) (.ofNat 9007199254740992) := by
  intro text
  have htrim : trim text = "0X20000000000001".toList := by decide
  have hsmall : ∀ h : Hexadecimal, h.text = trim text → h.value < UInt64.size := by
    rintro ⟨mark, digits, hmark, hne, hall⟩ htext
    obtain rfl : digits = "20000000000001".toList :=
      (List.cons.inj (List.cons.inj (htext.trans htrim)).2).2
    change Nat.ofDigits 16 ("20000000000001".toList.reverse.map fun c => (hexDigit? c).getD 0) < _
    decide +kernel
  have hplus : ∀ h : Hexadecimal, h.plusText ≠ trim text := by
    intro h htext
    have hdigits := (List.cons.inj (List.cons.inj (htext.trans htrim)).2).2
    exact absurd (List.cons.inj hdigits).1 (by decide)
  have hread : strict text = .ofNat 9007199254740992 := by decide +kernel
  exact ⟨hsmall, hplus, ((strict_reads text).2.2 hsmall hplus _).mp hread⟩

/-- The text `0x+1` is no number and is read as one, and the hexadecimal number with sixteen zeros
behind a one is read as none. -/
theorem not_strict_reads_of_hexadecimal :
    let plus : List Char := "0x+1".toList
    let large : List Char := "0x10000000000000000".toList
    (strict plus = .one ∧ ¬ Reads (trim plus) .one) ∧
      strict large = .nan ∧ ¬ Reads (trim large) .nan := by
  intro plus large
  have hplus : trim plus = '0' :: 'x' :: ['+', '1'] := by decide
  have hlarge : trim large = large := by decide
  rw [hplus, hlarge]
  refine ⟨⟨by decide +kernel, ?_⟩, by decide +kernel, ?_⟩
  · rintro (⟨n, htext, -⟩ | ⟨-, hnan⟩)
    · cases n with
      | blank => cases htext
      | signed n =>
        have hmarked := n.isMarked_text
        rw [show n.text = _ from htext] at hmarked
        cases hmarked
      | hexadecimal h =>
        have hdigits : h.digits = ['+', '1'] := (List.cons.inj (List.cons.inj htext).2).2
        exact absurd (h.all_digits '+' (hdigits ▸ .head _)) (by decide)
    · exact absurd hnan (by decide +kernel)
  · rintro (⟨n, -, hnan⟩ | ⟨hnone, -⟩)
    · exact hnan.ne_nan rfl
    · exact hnone (.hexadecimal ⟨'x', "10000000000000000".toList, .inl rfl, nofun, by decide⟩) rfl

end Number

end FormLogic
