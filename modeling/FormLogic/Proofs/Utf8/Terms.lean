import FormLogic.Expression.Arithmetic
import FormLogic.Proofs.Utf8.Access

/-!
# The terms of arithmetic in bytes

Arithmetic is cut at the positions outside of parentheses that a test accepts.  Where the test is
one of the places between characters (`Decides`), the terms are those of the text (`terms_encode`).
Both levels of operators are cut in this way.  An operator is told from a sign by the bytes before
it: the last one that is not blank, and before the mark of an exponent the first one of the run of
letters, digits and points that the mark ends (`isBinarySign_encode`).
-/

namespace FormLogic.Utf8

open Arithmetic

/-! ## 1. Signs -/

/-- The part of bytes before a position, which need not be a text. -/
def bytesTo (bytes : List UInt8) (i : Nat) : Access (List UInt8) :=
  if i ≤ bytes.length then .ok (bytes.take i) else .error (.range 0 i bytes.length)

theorem bytesTo_concat (bytes : List UInt8) (b : UInt8) :
    bytesTo (bytes ++ [b]) ((bytes ++ [b]).length - 1) = .ok bytes := by
  simp [bytesTo]

/-- The position of the last byte that passes a test. -/
def lastPosition? (p : Char → Bool) (bytes : List UInt8) : Option Nat :=
  (bytes.reverse.findIdx? fun b => p (asChar b)).map fun k => bytes.length - 1 - k

/-- A character of a number literal without a sign. -/
def isNumeralPart (c : Char) : Bool := Text.isAsciiAlphanumeric c || c == '.'

/-- **Whether the plus or minus at a position is a binary operator rather than a sign.** -/
def isBinarySign (bytes : List UInt8) (i : Nat) : Access Bool := do
  let before ← onText Text.trimEnd (← slice bytes 0 i)
  match before.getLast? with
  | none => return false
  | some b =>
    let prev := asChar b
    if !endsOperand prev then
      return false
    else if (prev == 'e' || prev == 'E') && before.length == i then
      let front ← bytesTo before (before.length - 1)
      let start := ((lastPosition? (fun c => !isNumeralPart c) front).map (· + 1)).getD 0
      return !Text.isAsciiDigit (← read before start)
    else
      return true

theorem asciiOnly_range {first last : Char} (hlast : last.toNat < 128) :
    AsciiOnly fun c => first ≤ c && c ≤ last := by
  intro c hc
  have hle : c ≤ last := by simpa using (Bool.and_eq_true_iff.mp hc).2
  exact Nat.lt_of_le_of_lt (UInt32.le_iff_toNat_le.mp (Char.le_def.mp hle)) hlast

theorem asciiOnly_isAsciiDigit : AsciiOnly Text.isAsciiDigit := asciiOnly_range (by decide)

theorem asciiOnly_isAsciiAlphanumeric : AsciiOnly Text.isAsciiAlphanumeric :=
  ((asciiOnly_range (by decide)).or (asciiOnly_range (by decide))).or asciiOnly_isAsciiDigit

theorem asciiOnly_isNumeralPart : AsciiOnly isNumeralPart :=
  asciiOnly_isAsciiAlphanumeric.or (asciiOnly_beq (by decide))

theorem asciiOnly_endsOperand : AsciiOnly endsOperand :=
  ((asciiOnly_isAsciiAlphanumeric.or (asciiOnly_beq (by decide))).or (asciiOnly_beq (by decide))).or
    (asciiOnly_beq (by decide))

/-- The marks of an exponent. -/
theorem asciiOnly_isExponentMark : AsciiOnly fun c => c == 'e' || c == 'E' :=
  (asciiOnly_beq (by decide)).or (asciiOnly_beq (by decide))

theorem isAsciiDigit_getD {mark : Char} (h : (mark == 'e' || mark == 'E') = true)
    (c? : Option Char) :
    Text.isAsciiDigit (c?.getD mark) = c?.any Text.isAsciiDigit := by
  cases c? with
  | some c => rfl
  | none =>
    rcases Bool.or_eq_true_iff.mp h with h | h
    · exact beq_iff_eq.mp h ▸ rfl
    · exact beq_iff_eq.mp h ▸ rfl

theorem lastPosition?_concat (p : Char → Bool) (bytes : List UInt8) (b : UInt8) :
    lastPosition? p (bytes ++ [b])
      = if p (asChar b) then some bytes.length else lastPosition? p bytes := by
  simp only [lastPosition?, List.reverse_append, List.reverse_singleton, List.singleton_append,
    List.findIdx?_cons, List.length_append, List.length_singleton]
  split
  · simp
  · simp only [Option.map_map, Function.comp_def]
    congr 1
    funext k
    omega

/-- Behind the last byte that fails a test begins the run of characters that pass it. -/
theorem lastPosition?_encode {p : Char → Bool} (hp : AsciiOnly p) (cs : List Char) :
    ((lastPosition? (fun c => !p c) (encode cs.reverse)).map (· + 1)).getD 0
      = (encode (cs.dropWhile p).reverse).length := by
  induction cs with
  | nil => rfl
  | cons c cs ih =>
    rw [List.reverse_cons]
    cases hc : p c with
    | false =>
      obtain ⟨bs, b, hencode, hb⟩ := exists_encode_concat cs.reverse c
      rw [List.dropWhile_cons_of_neg (by simp [hc]), List.reverse_cons, hencode,
        lastPosition?_concat, hb.eq hp, hc]
      simp [Nat.add_assoc]
    | true =>
      rcases utf8EncodeChar_cases c with ⟨b, hbytes, rfl, -⟩ | ⟨_, _, -, hle, -⟩
      · rw [List.dropWhile_cons_of_pos hc, encode_append, encode_cons, hbytes]
        simp [lastPosition?_concat, hc, ih]
      · exact absurd (hp c hc) (Nat.not_lt.mpr hle)

/-- Trimming its end leaves a text as long as it is where it does not end in a blank character. -/
theorem length_encode_trimEnd (before : List Char) :
    ((encode (Text.trimEnd before)).length == (encode before).length)
      = !before.reverse.head?.any Text.isBlank := by
  rcases List.eq_nil_or_concat before with rfl | ⟨front, c, rfl⟩
  · rfl
  rw [List.concat_eq_append, Text.trimEnd, List.reverse_concat]
  cases hc : Text.isBlank c with
  | false =>
    rw [List.dropWhile_cons_of_neg (by simp [hc]), List.reverse_cons, List.reverse_reverse]
    simp [hc]
  | true =>
    obtain ⟨dropped, hdropped⟩ := List.dropWhile_suffix Text.isBlank (l := front.reverse)
    have hfront : front = (front.reverse.dropWhile Text.isBlank).reverse ++ dropped.reverse := by
      rw [← List.reverse_append, hdropped, List.reverse_reverse]
    have hsum := congrArg (fun cs => (encode cs).length) hfront
    simp only [encode_append, List.length_append] at hsum
    have hlt := length_encode_lt front c []
    rw [List.dropWhile_cons_of_pos hc, List.head?_cons, Option.any_some, hc, Bool.not_true,
      beq_eq_false_iff_ne]
    omega

/-- The first character of the run of characters that pass a test, or else the one behind it. -/
theorem read_run (p : Char → Bool) (more : List Char) (prev : Char) :
    ∃ d, read (encode (more.reverse ++ [prev])) (encode (more.dropWhile p).reverse).length = .ok d ∧
      Alike d ((more.takeWhile p).getLast?.getD prev) := by
  have hmore : more.reverse ++ [prev]
      = (more.dropWhile p).reverse ++ ((more.takeWhile p).reverse ++ [prev]) := by
    rw [← List.append_assoc, ← List.reverse_append, List.takeWhile_append_dropWhile]
  rw [hmore]
  rcases List.eq_nil_or_concat (more.takeWhile p) with hrun | ⟨run, c, hrun⟩
  · rw [hrun]
    exact read_encode _ prev []
  · rw [hrun, List.concat_eq_append, List.reverse_concat, List.cons_append, List.getLast?_concat]
    exact read_encode _ c _

/-- **A sign is told from an operator by the text before it.** -/
theorem isBinarySign_encode (before rest : List Char) :
    isBinarySign (encode (before ++ rest)) (encode before).length
      = .ok (Arithmetic.isBinarySign before.reverse) := by
  have hslice : slice (encode (before ++ rest)) 0 (encode before).length = .ok (encode before) :=
    slice_of_eq [] before rest rfl rfl rfl
  have hlength := length_encode_trimEnd before
  rw [isBinarySign, hslice, ok_bind, onText_encode, ok_bind, Arithmetic.isBinarySign]
  rw [Text.trimEnd] at hlength ⊢
  cases hbefore : before.reverse.dropWhile Text.isBlank with
  | nil => rfl
  | cons prev more =>
    obtain ⟨bs, b, hencode, hb⟩ := exists_encode_concat more.reverse prev
    rw [hbefore, List.reverse_cons] at hlength
    rw [List.reverse_cons, hlength, hencode, List.getLast?_concat]
    simp only [hb.eq asciiOnly_endsOperand, hb.eq asciiOnly_isExponentMark]
    cases endsOperand prev with
    | false => rfl
    | true =>
      cases hmark : prev == 'e' || prev == 'E' with
      | false => rfl
      | true =>
        cases before.reverse.head?.any Text.isBlank with
        | true => rfl
        | false =>
          -- the mark is one byte, and the run in front of it begins at a character
          have hone := length_encode_concat more.reverse (asciiOnly_isExponentMark prev hmark)
          obtain rfl : bs = [] := by
            rw [hencode] at hone
            simpa using hone
          obtain ⟨d, hread, hd⟩ := read_run isNumeralPart more prev
          rw [List.append_nil] at hencode ⊢
          rw [bytesTo_concat, ok_bind, lastPosition?_encode asciiOnly_isNumeralPart, ← hencode,
            hread, ok_bind, hd.eq asciiOnly_isAsciiDigit, isAsciiDigit_getD hmark]
          rfl

/-! ## 2. Terms -/

/-- Cuts the bytes from a position on into terms.  The term began at `start`, after `operator`. -/
def termsFrom (splits : List UInt8 → Nat → Access Bool) (bytes : List UInt8) (depth : Int)
    (operator : Option Char) (start i : Nat) : Access (List (Option Char × List UInt8)) := do
  if i < bytes.length then
    let c ← read bytes i
    if c == '(' then
      termsFrom splits bytes (depth + 1) operator start (i + 1)
    else if c == ')' then
      termsFrom splits bytes (depth - 1) operator start (i + 1)
    else
      let here ← if depth == 0 then splits bytes i else pure false
      if here then
        let term ← slice bytes start i
        return (operator, term) :: (← termsFrom splits bytes depth (some c) (i + 1) (i + 1))
      else
        termsFrom splits bytes depth operator start (i + 1)
  else
    return [(operator, ← slice bytes start bytes.length)]
termination_by bytes.length - i

/-- **The terms of a text**, each with the operator before it. -/
def terms (splits : List UInt8 → Nat → Access Bool) (bytes : List UInt8) :
    Access (List (Option Char × List UInt8)) :=
  termsFrom splits bytes 0 none 0 0

/-- The bytes of terms. -/
def encodeTerms (terms : List Char × List (Char × List Char)) : List (Option Char × List UInt8) :=
  (none, encode terms.1) :: terms.2.map fun t => (some t.1, encode t.2)

/-- Where additions and subtractions are cut. -/
def splitsSum (bytes : List UInt8) (i : Nat) : Access Bool := do
  let c ← read bytes i
  if c == '+' || c == '-' then isBinarySign bytes i else return false

/-- Where products, quotients and remainders are cut. -/
def splitsProduct (bytes : List UInt8) (i : Nat) : Access Bool := do
  let c ← read bytes i
  return c == '*' || c == '/' || c == '%'

/-- **A test of positions that is one of places between characters.** -/
structure Decides (splits : List UInt8 → Nat → Access Bool) (cuts : List Char → Char → Bool) :
    Prop where
  asciiOnly : ∀ before, AsciiOnly (cuts before)
  between : ∀ before c rest, splits (encode (before ++ c :: rest)) (encode before).length
    = .ok (cuts before.reverse c)
  inside : ∀ {bytes i}, Inside bytes i → splits bytes i = .ok false

section

variable {splits : List UInt8 → Nat → Access Bool} {cuts : List Char → Char → Bool}
  (h : Decides splits cuts)
include h

theorem termsFrom_inside {bytes : List UInt8} {i : Nat} (hi : Inside bytes i) (depth : Int)
    (operator : Option Char) (start : Nat) :
    termsFrom splits bytes depth operator start i
      = termsFrom splits bytes depth operator start (i + 1) := by
  obtain ⟨d, hread, hd⟩ := hi.exists_read
  have hne {c : Char} (hc : c.toNat < 128) : (d == c) = false := (asciiOnly_beq hc).eq_false hd
  rw [termsFrom, if_pos hi.lt, hread, ok_bind, hne (by decide), hne (by decide), h.inside hi]
  by_cases hdepth : depth = 0
  · simp [hdepth]
  · simp [hdepth]

/-- **From a position on the bytes are cut as the text is.**  The term began behind `done`, and
`piece` is what has been passed of it. -/
theorem termsFrom_encode (depth : Int) (operator : Option Char) (done piece : List Char)
    {behind : List Char} (hbehind : behind = done ++ piece) (rest : List Char) :
    termsFrom splits (encode (behind ++ rest)) depth operator (encode done).length
        (encode behind).length
      = .ok ((operator, encode (piece ++ (cut cuts depth behind.reverse rest).1)) ::
          (cut cuts depth behind.reverse rest).2.map fun t => (some t.1, encode t.2)) := by
  induction rest generalizing depth operator done piece behind with
  | nil =>
    have hslice := slice_of_eq done piece [] rfl rfl rfl
    rw [List.append_nil, ← hbehind] at hslice
    rw [termsFrom, if_neg (by simp), List.append_nil, hslice]
    simp [cut]
  | cons c cs ih =>
    obtain ⟨d, hread, hd⟩ := read_encode behind c cs
    have hopen : (d == '(') = (c == '(') := hd.eq (asciiOnly_beq (by decide))
    have hclose : (d == ')') = (c == ')') := hd.eq (asciiOnly_beq (by decide))
    have honward (depth : Int) :
        termsFrom splits (encode (behind ++ c :: cs)) depth operator (encode done).length
            ((encode behind).length + 1)
          = .ok ((operator, encode (piece ++ c :: (cut cuts depth (c :: behind.reverse) cs).1)) ::
              (cut cuts depth (c :: behind.reverse) cs).2.map fun t => (some t.1, encode t.2)) := by
      have ih := ih depth operator done (piece ++ [c])
        (congrArg (· ++ [c]) hbehind |>.trans (List.append_assoc ..))
      rw [← List.append_cons] at ih
      rw [Inside.skip behind c cs fun i hi => termsFrom_inside h hi depth operator _, ih]
      simp
    rw [termsFrom, if_pos (length_encode_lt behind c cs), hread, ok_bind, hopen, hclose,
      h.between, cut]
    by_cases hc : c = '('
    · rw [if_pos (beq_iff_eq.mpr hc), if_pos hc]
      exact honward (depth + 1)
    rw [if_neg (mt beq_iff_eq.mp hc), if_neg hc]
    by_cases hc : c = ')'
    · rw [if_pos (beq_iff_eq.mpr hc), if_pos hc]
      exact honward (depth - 1)
    rw [if_neg (mt beq_iff_eq.mp hc), if_neg hc]
    by_cases hcut : depth = 0 ∧ cuts behind.reverse c = true
    · obtain ⟨rfl, hcuts⟩ := hcut
      have hascii := h.asciiOnly _ c hcuts
      obtain rfl : d = c := hd.resolve_right fun hwide => absurd hwide.2 (Nat.not_le.mpr hascii)
      have hslice := slice_of_eq done piece (d :: cs) rfl rfl rfl
      have ih := ih 0 (some d) (behind ++ [d]) [] (List.append_nil _).symm
      rw [← hbehind] at hslice
      rw [← List.append_cons, length_encode_concat behind hascii] at ih
      simp [hcuts, hslice, ih]
    · rw [if_neg hcut]
      by_cases hdepth : depth = 0
      · have hno : cuts behind.reverse c = false := by simpa [hdepth] using hcut
        simp [hdepth, hno, honward]
      · simp [hdepth, honward]

theorem terms_encode (cs : List Char) :
    terms splits (encode cs) = .ok (encodeTerms (cut cuts 0 [] cs)) :=
  termsFrom_encode h 0 none [] [] rfl cs

end

/-! ## 3. The two levels of operators -/

theorem asciiOnly_product : AsciiOnly fun c => c == '*' || c == '/' || c == '%' :=
  ((asciiOnly_beq (by decide)).or (asciiOnly_beq (by decide))).or (asciiOnly_beq (by decide))

theorem asciiOnly_sign : AsciiOnly fun c => c == '+' || c == '-' :=
  (asciiOnly_beq (by decide)).or (asciiOnly_beq (by decide))

theorem decides_splitsProduct : Decides splitsProduct cutsProduct where
  asciiOnly _ := asciiOnly_product
  between before c rest := by
    obtain ⟨d, hread, hd⟩ := read_encode before c rest
    rw [splitsProduct, hread, ok_bind, hd.eq asciiOnly_product]
    rfl
  inside hi := by
    obtain ⟨d, hread, hd⟩ := hi.exists_read
    rw [splitsProduct, hread, ok_bind, asciiOnly_product.eq_false hd]
    rfl

theorem decides_splitsSum : Decides splitsSum cutsSum where
  asciiOnly _ := fun c hc => asciiOnly_sign c (Bool.and_eq_true_iff.mp hc).1
  between before c rest := by
    obtain ⟨d, hread, hd⟩ := read_encode before c rest
    rw [splitsSum, hread, ok_bind, hd.eq asciiOnly_sign, isBinarySign_encode, cutsSum]
    cases c == '+' || c == '-' <;> rfl
  inside hi := by
    obtain ⟨d, hread, hd⟩ := hi.exists_read
    rw [splitsSum, hread, ok_bind, asciiOnly_sign.eq_false hd]
    rfl

end FormLogic.Utf8
